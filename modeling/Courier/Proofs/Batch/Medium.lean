import Courier.Batch.Schedule

/-!
# What a medium takes

Bytes are written piece by piece until all are taken or the medium is full. However they are cut into
pieces, a medium takes as many of them as it has room for, and writing them fails just when they do
not all fit. So the lines that a preview has written are cut off at one byte.
-/

namespace Courier.Batch.Preview

/-- There is room for this many bytes. -/
def Fits (p : Preview) (n : Nat) : Prop :=
  ∀ room, p.room = some room → n ≤ room

/-- As many of these bytes as there is room for. -/
def fitting (p : Preview) (bytes : List UInt8) : List UInt8 :=
  match p.room with
  | none => bytes
  | some room => bytes.take room

/-- What there is after these bytes were written, whether or not they fitted. -/
structure Takes (p : Preview) (bytes : List UInt8) (p' : Preview) : Prop where
  fault_eq : p'.fault = p.fault
  room_eq : p'.room = p.room.map (· - bytes.length)
  output_eq : p'.output = p.output ++ p.fitting bytes

section Takes

variable {p p' p'' : Preview} {xs ys : List UInt8}

/-- With limited room, a piece fits when there is room for all of it. -/
theorem fits_of_room_eq_some {room n : Nat} (h : p.room = some room) : p.Fits n ↔ n ≤ room := by
  constructor
  · intro hfits
    exact hfits room h
  · intro hle room' h'
    rw [h, Option.some_inj] at h'
    rwa [← h']

/-- With unlimited room everything fits. -/
theorem fits_of_room_eq_none {n : Nat} (h : p.room = none) : p.Fits n := by
  intro room h'
  rw [h] at h'
  cases h'

/-- What fits is taken as a whole. -/
theorem fitting_of_fits (h : p.Fits xs.length) : p.fitting xs = xs := by
  rw [fitting]
  cases hp : p.room with
  | none => rfl
  | some room => exact List.take_of_length_le ((fits_of_room_eq_some hp).mp h)

/-- No bytes leave everything as it is. -/
theorem Takes.nil (p : Preview) : p.Takes [] p := by
  refine ⟨rfl, ?_, ?_⟩
  · cases p.room <;> rfl
  · rw [fitting]
    cases p.room <;> simp

/-- It makes no difference in how many pieces bytes are written. -/
theorem Takes.append (h : p.Takes xs p') (h' : p'.Takes ys p'') : p.Takes (xs ++ ys) p'' := by
  obtain ⟨hfault, hroom, houtput⟩ := h
  obtain ⟨hfault', hroom', houtput'⟩ := h'
  rw [fitting, hroom] at houtput'
  rw [hroom] at hroom'
  rw [fitting] at houtput
  refine ⟨hfault'.trans hfault, ?_, ?_⟩
  · rw [hroom', Option.map_map, List.length_append]
    congr 1
    funext room
    exact Nat.sub_sub room xs.length ys.length
  · rw [houtput', houtput, fitting, List.append_assoc]
    cases p.room with
    | none => rfl
    | some room =>
      show p.output ++ (xs.take room ++ ys.take (room - xs.length)) = _
      rw [← List.take_append]

/-- Nothing is taken after bytes that did not fit. -/
theorem Takes.append_of_not_fits (h : p.Takes xs p') (full : ¬p.Fits xs.length) :
    p.Takes (xs ++ ys) p' := by
  obtain ⟨hfault, hroom, houtput⟩ := h
  rw [fitting] at houtput
  cases hp : p.room with
  | none => exact absurd (fits_of_room_eq_none hp) full
  | some room =>
    rw [fits_of_room_eq_some hp] at full
    rw [hp] at hroom houtput
    refine ⟨hfault, ?_, ?_⟩
    · rw [hroom, hp, Option.map_some, Option.map_some, Option.some_inj, List.length_append]
      omega
    · rw [houtput, fitting, hp]
      dsimp only
      rw [List.take_append, Nat.sub_eq_zero_of_le (by omega), List.take_zero, List.append_nil]

/-- Bytes fit just when the first of them do, and then the others. -/
theorem Takes.fits_append_iff (h : p.Takes xs p') :
    p.Fits (xs ++ ys).length ↔ p.Fits xs.length ∧ p'.Fits ys.length := by
  cases hp : p.room with
  | none =>
    have hroom : p'.room = none := by
      rw [h.room_eq, hp]
      rfl
    simp only [fits_of_room_eq_none hp, fits_of_room_eq_none hroom, and_self]
  | some room =>
    have hroom : p'.room = some (room - xs.length) := by
      rw [h.room_eq, hp]
      rfl
    rw [fits_of_room_eq_some hp, fits_of_room_eq_some hp, fits_of_room_eq_some hroom,
      List.length_append]
    omega

/-- Where some bytes fit, all that were written before did. -/
theorem Takes.fits_append_iff_of_ne_nil (h : p.Takes xs p') (hne : ys ≠ []) :
    p.Fits (xs ++ ys).length ↔ p'.Fits ys.length := by
  rw [h.fits_append_iff]
  constructor
  · exact And.right
  · intro fits
    refine ⟨?_, fits⟩
    intro room hp
    have hroom : p'.room = some (room - xs.length) := by
      rw [h.room_eq, hp]
      rfl
    have hpos : 0 < ys.length := List.length_pos_iff.mpr hne
    rw [fits_of_room_eq_some hroom] at fits
    omega

end Takes

/-! ## Writing -/

/-- What a write takes fits. -/
theorem takes_of_write {p p' : Preview} {bytes : List UInt8} {n : Nat}
    (h : p.write bytes = .ok (n, p')) : p.Takes (bytes.take n) p' ∧ p.Fits (bytes.take n).length := by
  unfold write at h
  split at h
  · rename_i hroom
    cases h
    rw [List.take_length]
    refine ⟨⟨rfl, ?_, ?_⟩, fits_of_room_eq_none hroom⟩
    · rw [hroom]
      rfl
    · rw [fitting, hroom]
      simp [output]
  · cases h
  · rename_i room _ hroom
    cases h
    have htake : bytes.take (bytes.take room).length = bytes.take room := by
      rw [List.length_take, List.take_eq_take_min]
      simp
    rw [htake, fits_of_room_eq_some hroom, List.length_take]
    refine ⟨⟨rfl, ?_, ?_⟩, Nat.min_le_left room bytes.length⟩
    · rw [hroom, List.length_take]
      rfl
    · rw [fitting, hroom]
      simp [output, List.take_take]

/-- A medium that is full takes nothing. -/
theorem takes_of_write_error {p : Preview} {bytes : List UInt8} {e : String}
    (h : p.write bytes = .error e) (hne : bytes ≠ []) :
    e = p.fault ∧ p.Takes bytes p ∧ ¬p.Fits bytes.length := by
  unfold write at h
  split at h
  · cases h
  · rename_i hroom
    cases h
    refine ⟨rfl, ⟨rfl, ?_, ?_⟩, ?_⟩
    · rw [hroom, Option.map_some, Nat.zero_sub]
    · rw [fitting, hroom]
      simp
    · -- There is no room at all, and something to be written.
      rw [fits_of_room_eq_some hroom]
      exact Nat.not_le.mpr (List.length_pos_iff.mpr hne)
  · cases h

/-- What it comes to that these bytes were to be written: as many of them were taken as there was room
for, and there was an error just when they did not all fit. -/
structure Writes (p : Preview) (bytes : List UInt8) (written : Except String Unit × Preview) :
    Prop where
  takes : p.Takes bytes written.2
  ok_of_fits : p.Fits bytes.length → written.1 = .ok ()
  error_of_not_fits : ¬p.Fits bytes.length → written.1 = .error p.fault

/-- In the end all bytes were written, or as many as fitted. -/
theorem writes_writeAll (p : Preview) (bytes : List UInt8) :
    p.Writes bytes (p.writeAll bytes) := by
  fun_induction writeAll p bytes with
  | case1 p =>
    refine ⟨.nil p, fun _ => rfl, ?_⟩
    intro full
    exact absurd (fun room _ => Nat.zero_le room) full
  | case2 p bytes hne e h =>
    obtain ⟨rfl, takes, full⟩ := takes_of_write_error h hne
    exact ⟨takes, fun fits => absurd fits full, fun _ => rfl⟩
  | case3 p bytes hne n p' h _ ih =>
    -- What was taken fits, so that all fits just when what is left does.
    obtain ⟨takes, fits⟩ := takes_of_write h
    obtain ⟨takes', hok, herror⟩ := ih
    have hall := takes.append takes'
    have hiff : p.Fits (bytes.take n ++ bytes.drop n).length ↔ _ ∧ p'.Fits (bytes.drop n).length :=
      takes.fits_append_iff
    rw [List.take_append_drop] at hall hiff
    rw [takes.fault_eq] at herror
    refine ⟨hall, fun h => hok (hiff.mp h).2, ?_⟩
    intro full
    exact herror fun fits' => full (hiff.mpr ⟨fits, fits'⟩)

/-- A line is taken as far as it fits, and cannot be written just when it does not fit, be it for its
line feed alone. -/
theorem writes_writeLine (p : Preview) (bytes : List UInt8) :
    p.Writes (bytes ++ [lineFeed]) (p.writeLine bytes) := by
  obtain ⟨takes, hok, herror⟩ := writes_writeAll p bytes
  rw [writeLine]
  cases hbody : p.writeAll bytes with
  | mk result p' =>
    rw [hbody] at takes hok herror
    cases result with
    | error e =>
      -- The line feed is not even tried.
      have full : ¬p.Fits bytes.length := by
        intro fits
        cases hok fits
      cases herror full
      refine ⟨takes.append_of_not_fits full, ?_, fun _ => rfl⟩
      intro fits
      exact absurd (takes.fits_append_iff.mp fits).1 full
    | ok =>
      have fits : p.Fits bytes.length := by
        apply Classical.byContradiction
        intro full
        cases herror full
      obtain ⟨takes', hok', herror'⟩ := writes_writeAll p' [lineFeed]
      rw [takes.fault_eq] at herror'
      refine ⟨takes.append takes', ?_, ?_⟩
      · intro all
        exact hok' (takes.fits_append_iff.mp all).2
      · intro full
        exact herror' fun fits' => full (takes.fits_append_iff.mpr ⟨fits, fits'⟩)

/-- A line is its body and a line feed. -/
theorem line_eq_body (m : Template.Message) : line m = body m ++ [lineFeed] := by
  rw [line, body, List.flatMap_append]
  rfl

/-- No line is empty, as the line feed is part of it. -/
theorem line_ne_nil (m : Template.Message) : line m ≠ [] := by
  rw [line_eq_body]
  simp

/-- The line of a message is taken as far as it fits, and the message fails just when it does not
fit. -/
theorem takes_send (p : Preview) (d : Delivery) :
    p.Takes (line d.message) (Sink.send p d).sink ∧
      (p.Fits (line d.message).length → (Sink.send p d).result = .ok ()) ∧
      (¬p.Fits (line d.message).length →
        (Sink.send p d).result = .error ⟨"Failed to write message: " ++ p.fault⟩) := by
  have hsend : Sink.send p d = send p d := rfl
  obtain ⟨takes, hok, herror⟩ := writes_writeLine p (body d.message)
  rw [hsend, line_eq_body, send]
  refine ⟨takes, ?_, ?_⟩
  · intro fits
    show (p.writeLine (body d.message)).1.mapError _ = .ok ()
    rw [hok fits]
    rfl
  · intro full
    show (p.writeLine (body d.message)).1.mapError _ = _
    rw [herror full]
    rfl

/-! ## Messages one after the other -/

/-- The line of the message that a call sends. -/
def lineOf (c : Call) : List UInt8 :=
  line c.delivery.message

/-- The lines of all messages are taken as far as they fit. -/
theorem takes_of_served {s t : Preview} {cs : List Call} (served : Served s cs t) :
    s.Takes (cs.flatMap lineOf) t := by
  induction served with
  | nil => exact .nil s
  | @concat cs t c _ _ ih =>
    rw [List.flatMap_append, List.flatMap_singleton]
    exact ih.append (takes_send t c.delivery).1

/-- A message fails just when it does not fit together with all that came before. -/
theorem result_of_served {s t : Preview} {cs : List Call} {c : Call} {i : Nat}
    (served : Served s cs t) (hc : cs[i]? = some c) :
    (s.Fits ((cs.take (i + 1)).flatMap lineOf).length → c.result = .ok ()) ∧
      (¬s.Fits ((cs.take (i + 1)).flatMap lineOf).length →
        c.result = .error ⟨"Failed to write message: " ++ s.fault⟩) := by
  induction served with
  | nil => cases hc
  | @concat cs t last earlier answer ih =>
    by_cases hi : i < cs.length
    · rw [List.getElem?_append_left hi] at hc
      rw [List.take_append_of_le_length hi]
      exact ih hc
    · have hlast : i = cs.length := by
        have hlength := (List.getElem?_eq_some_iff.mp hc).1
        rw [List.length_append, List.length_singleton] at hlength
        omega
      subst hlast
      rw [List.getElem?_concat_length, Option.some_inj] at hc
      have hne : lineOf last ≠ [] := line_ne_nil last.delivery.message
      rw [← hc, answer, List.take_of_length_le (by simp), List.flatMap_append,
        List.flatMap_singleton, (takes_of_served earlier).fits_append_iff_of_ne_nil hne,
        ← (takes_of_served earlier).fault_eq]
      exact (takes_send t last.delivery).2

/-- So it is delivered just when it fits. -/
theorem result_eq_ok_iff_of_served {s t : Preview} {cs : List Call} {c : Call} {i : Nat}
    (served : Served s cs t) (hc : cs[i]? = some c) :
    c.result = .ok () ↔ s.Fits ((cs.take (i + 1)).flatMap lineOf).length := by
  obtain ⟨hok, herror⟩ := result_of_served served hc
  refine ⟨?_, hok⟩
  intro delivered
  apply Classical.byContradiction
  intro full
  rw [herror full] at delivered
  cases delivered

end Courier.Batch.Preview
