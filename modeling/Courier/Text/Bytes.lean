/-!
# Byte positions

Positions in a text are counted in bytes of its UTF-8 form. `byteLength` measures a text and
`between` cuts out the part between two positions.
-/

namespace Courier.Text

/-- The number of bytes of the UTF-8 form. -/
def byteLength : List Char → Nat
  | [] => 0
  | c :: rest => c.utf8Size + byteLength rest

/-- What is left after the characters that start before byte position `n`. -/
def dropBytes : Nat → List Char → List Char
  | _, [] => []
  | n, c :: rest => if n = 0 then c :: rest else dropBytes (n - c.utf8Size) rest

/-- The characters that start before byte position `n`. -/
def takeBytes : Nat → List Char → List Char
  | _, [] => []
  | n, c :: rest => if n = 0 then [] else c :: takeBytes (n - c.utf8Size) rest

/-- The part of a text from byte position `start` up to byte position `stop`. -/
def between (start stop : Nat) (cs : List Char) : List Char :=
  takeBytes (stop - start) (dropBytes start cs)

/-! ## Laws -/

@[simp] theorem byteLength_nil : byteLength [] = 0 := rfl

@[simp] theorem byteLength_cons (c : Char) (cs : List Char) :
    byteLength (c :: cs) = c.utf8Size + byteLength cs := rfl

@[simp] theorem byteLength_append (xs ys : List Char) :
    byteLength (xs ++ ys) = byteLength xs + byteLength ys := by
  induction xs with
  | nil => simp
  | cons c xs ih => simp [ih, Nat.add_assoc]

theorem dropBytes_zero (cs : List Char) : dropBytes 0 cs = cs := by
  cases cs <;> simp [dropBytes]

theorem takeBytes_zero (cs : List Char) : takeBytes 0 cs = [] := by
  cases cs <;> simp [takeBytes]

theorem dropBytes_append (xs ys : List Char) : dropBytes (byteLength xs) (xs ++ ys) = ys := by
  induction xs with
  | nil => exact dropBytes_zero ys
  | cons c xs ih =>
    have := c.utf8Size_pos
    rw [List.cons_append, dropBytes, if_neg (by simp; omega)]
    simpa using ih

theorem takeBytes_append (xs ys : List Char) : takeBytes (byteLength xs) (xs ++ ys) = xs := by
  induction xs with
  | nil => exact takeBytes_zero ys
  | cons c xs ih =>
    have := c.utf8Size_pos
    rw [List.cons_append, takeBytes, if_neg (by simp; omega)]
    simpa using ih

/-- The middle of three parts lies between the byte lengths of what comes before and after. -/
theorem between_append (xs ys zs : List Char) :
    between (byteLength xs) (byteLength xs + byteLength ys) (xs ++ ys ++ zs) = ys := by
  rw [between, List.append_assoc, dropBytes_append, Nat.add_sub_cancel_left, takeBytes_append]

end Courier.Text
