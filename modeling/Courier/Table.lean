/-!
# Sorted tables

A table maps texts to values and lists its entries in strictly increasing order of their keys, which
is the byte order of the UTF-8 forms. Inserting a key that is there already replaces its value.
-/

namespace Courier

/-- A finite map from texts, in the order of its keys. -/
structure Table (α : Type) where
  entries : List (String × α)
  sorted : entries.Pairwise fun a b => a.1 < b.1

namespace Table

variable {α : Type}

/-- The table without entries. -/
def empty : Table α :=
  ⟨[], .nil⟩

instance : Inhabited (Table α) :=
  ⟨empty⟩

instance : EmptyCollection (Table α) :=
  ⟨empty⟩

instance [DecidableEq α] : DecidableEq (Table α) := fun s t =>
  decidable_of_iff (s.entries = t.entries)
    ⟨fun h => by cases s; cases t; cases h; rfl, fun h => h ▸ rfl⟩

/-- Puts an entry in its place among sorted entries. -/
def place (key : String) (value : α) : List (String × α) → List (String × α)
  | [] => [(key, value)]
  | e :: rest =>
    if key < e.1 then (key, value) :: e :: rest
    else if key = e.1 then (key, value) :: rest
    else e :: place key value rest

theorem mem_place {key : String} {value : α} {es : List (String × α)} {e : String × α}
    (h : e ∈ place key value es) : e = (key, value) ∨ e ∈ es := by
  induction es with
  | nil => exact Or.inl (List.mem_singleton.mp h)
  | cons a es ih =>
    unfold place at h
    split at h
    · simpa using h
    · split at h
      · rcases List.mem_cons.mp h with h | h
        · exact Or.inl h
        · exact Or.inr (List.mem_cons_of_mem _ h)
      · rcases List.mem_cons.mp h with h | h
        · exact Or.inr (h ▸ List.mem_cons_self)
        · exact (ih h).imp_right (List.mem_cons_of_mem _)

theorem sorted_place (key : String) (value : α) {es : List (String × α)}
    (h : es.Pairwise fun a b => a.1 < b.1) :
    (place key value es).Pairwise fun a b => a.1 < b.1 := by
  induction es with
  | nil => exact List.pairwise_singleton _ _
  | cons a es ih =>
    obtain ⟨ha, hes⟩ := List.pairwise_cons.mp h
    unfold place
    split
    · rename_i hlt
      refine List.pairwise_cons.mpr ⟨fun b hb => ?_, h⟩
      rcases List.mem_cons.mp hb with rfl | hb
      · exact hlt
      · exact String.lt_trans hlt (ha b hb)
    · split
      · rename_i heq
        exact List.pairwise_cons.mpr ⟨fun b hb => by rw [heq]; exact ha b hb, hes⟩
      · rename_i hnlt hne
        refine List.pairwise_cons.mpr ⟨fun b hb => ?_, ih hes⟩
        rcases mem_place hb with rfl | hb
        · -- The new key is neither less than this one nor the same.
          rcases Decidable.em (a.1 < key) with hlt | hge
          · exact hlt
          · exact absurd (String.le_antisymm (String.not_lt.mp hge) (String.not_lt.mp hnlt)) hne
        · exact ha b hb

/-- The table with this entry, instead of an earlier one of the same key. -/
def insert (t : Table α) (key : String) (value : α) : Table α :=
  ⟨place key value t.entries, sorted_place key value t.sorted⟩

/-- The table of these entries; of several with one key the last counts. -/
def ofList (es : List (String × α)) : Table α :=
  es.foldl (fun t e => t.insert e.1 e.2) empty

/-- The value of a key. -/
def get? (t : Table α) (key : String) : Option α :=
  t.entries.lookup key

/-- A key with a value. -/
def contains (t : Table α) (key : String) : Bool :=
  (t.get? key).isSome

/-- The keys in increasing order. -/
def keys (t : Table α) : List String :=
  t.entries.map Prod.fst

/-- How many entries there are. -/
def size (t : Table α) : Nat :=
  t.entries.length

/-! ## Laws -/

theorem lookup_place (key : String) (value : α) (es : List (String × α)) (k : String) :
    (place key value es).lookup k = if k = key then some value else es.lookup k := by
  induction es with
  | nil =>
    by_cases hk : k = key
    · simp [place, hk]
    · have : (k == key) = false := by simpa using hk
      simp [place, List.lookup_cons, hk, this]
  | cons a es ih =>
    obtain ⟨ak, av⟩ := a
    unfold place
    split
    · by_cases hk : k = key
      · simp [hk]
      · have : (k == key) = false := by simpa using hk
        simp [List.lookup_cons, hk, this]
    · split
      · rename_i heq
        simp only at heq
        subst heq
        by_cases hk : k = key
        · simp [hk]
        · have : (k == key) = false := by simpa using hk
          simp [List.lookup_cons, hk, this]
      · rename_i hne
        by_cases hka : k = ak
        · subst hka
          simp [Ne.symm hne]
        · have : (k == ak) = false := by simpa using hka
          simp [List.lookup_cons, this, ih]

/-- An insertion changes the value of its own key and of no other. -/
theorem get?_insert (t : Table α) (key : String) (value : α) (k : String) :
    (t.insert key value).get? k = if k = key then some value else t.get? k :=
  lookup_place key value t.entries k

theorem lookup_eq_some_iff {es : List (String × α)} (h : es.Pairwise fun a b => a.1 < b.1)
    {key : String} {value : α} : es.lookup key = some value ↔ (key, value) ∈ es := by
  induction es with
  | nil => simp
  | cons a es ih =>
    obtain ⟨ak, av⟩ := a
    obtain ⟨hlt, hes⟩ := List.pairwise_cons.mp h
    rw [List.lookup_cons, List.mem_cons]
    by_cases hkey : key = ak
    · -- The keys that follow are greater, so the entry is the first one.
      subst hkey
      have hnot : (key, value) ∉ es := fun hmem => String.lt_irrefl key (hlt _ hmem)
      simp [hnot, eq_comm]
    · have hbeq : (key == ak) = false := by simpa using hkey
      simp [hbeq, hkey, ih hes]

/-- The entries are the keys with their values. -/
theorem get?_eq_some_iff {t : Table α} {key : String} {value : α} :
    t.get? key = some value ↔ (key, value) ∈ t.entries :=
  lookup_eq_some_iff t.sorted

@[simp] theorem get?_empty (k : String) : (empty : Table α).get? k = none := rfl

theorem contains_eq_true_iff {t : Table α} {key : String} :
    t.contains key = true ↔ ∃ value, t.get? key = some value :=
  Option.isSome_iff_exists

theorem perm_place {key : String} {es : List (String × α)} (h : es.lookup key = none) (value : α) :
    (place key value es).Perm ((key, value) :: es) := by
  induction es with
  | nil => exact .refl _
  | cons a es ih =>
    unfold place
    split
    · exact .refl _
    · rename_i hnlt
      rw [List.lookup_cons] at h
      split at h
      · cases h
      · rename_i hne
        rw [if_neg (by simpa using hne)]
        exact ((ih h).cons a).trans (.swap ..)

/-- A new key makes one more entry. -/
theorem perm_entries_insert {t : Table α} {key : String} (h : t.get? key = none) (value : α) :
    (t.insert key value).entries.Perm ((key, value) :: t.entries) :=
  perm_place h value

/-- The entries of one table put into another take the place of those with their keys. -/
theorem get?_foldl_insert (s t : Table α) (key : String) :
    (t.entries.foldl (fun s e => s.insert e.1 e.2) s).get? key = (t.get? key).or (s.get? key) := by
  obtain ⟨es, h⟩ := t
  show (es.foldl (fun s e => s.insert e.1 e.2) s).get? key = (es.lookup key).or (s.get? key)
  induction es generalizing s with
  | nil => rfl
  | cons a es ih =>
    obtain ⟨hlt, hes⟩ := List.pairwise_cons.mp h
    rw [List.foldl_cons, ih (s.insert a.1 a.2) hes, get?_insert, List.lookup_cons]
    by_cases hkey : key = a.1
    · -- The keys that follow are greater, so that none of them is this one.
      have hnone : es.lookup key = none := by
        rw [Option.eq_none_iff_forall_ne_some]
        intro value hlookup
        have hless : a.1 < key := hlt (key, value) ((lookup_eq_some_iff hes).mp hlookup)
        rw [← hkey] at hless
        exact String.lt_irrefl key hless
      have hbeq : (key == a.1) = true := by simpa using hkey
      rw [hnone, hbeq, if_pos hkey]
      rfl
    · have hbeq : (key == a.1) = false := by simpa using hkey
      rw [hbeq, if_neg hkey]

theorem ext {s t : Table α} (h : s.entries = t.entries) : s = t := by
  cases s
  cases t
  cases h
  rfl

/-- A key greater than all others comes last. -/
theorem place_of_lt {key : String} {es : List (String × α)} (h : ∀ e ∈ es, e.1 < key) (value : α) :
    place key value es = es ++ [(key, value)] := by
  induction es with
  | nil => rfl
  | cons a es ih =>
    have hlt : a.1 < key := h a List.mem_cons_self
    have hne : key ≠ a.1 := by
      rintro rfl
      exact String.lt_irrefl _ hlt
    rw [place, if_neg (String.lt_asymm hlt), if_neg hne,
      ih fun e he => h e (List.mem_cons_of_mem a he)]
    rfl

/-- A table is made again of its entries. -/
theorem ofList_entries (t : Table α) : ofList t.entries = t := by
  have hfold : ∀ (es : List (String × α)) (s : Table α),
      ((s.entries ++ es).Pairwise fun a b => a.1 < b.1) →
        (es.foldl (fun s e => s.insert e.1 e.2) s).entries = s.entries ++ es := by
    intro es
    induction es with
    | nil => exact fun s _ => (List.append_nil _).symm
    | cons e es ih =>
      intro s hsorted
      have hlt : ∀ a ∈ s.entries, a.1 < e.1 := fun a ha =>
        (List.pairwise_append.mp hsorted).2.2 a ha e List.mem_cons_self
      have hinsert : (s.insert e.1 e.2).entries = s.entries ++ [e] := place_of_lt hlt e.2
      have hrest := ih (s.insert e.1 e.2)
      rw [hinsert, List.append_assoc, List.singleton_append] at hrest
      exact hrest hsorted
  exact ext (hfold t.entries empty t.sorted)

end Table

end Courier
