import Mathlib.Data.List.AList

/-! Maps of maps.  A row is created when its first entry is put and removed
when its last one is dropped. -/

abbrev Mapping (Key Value : Type) := AList fun _ : Key => Value

namespace Mapping

variable {Key Value : Type} [DecidableEq Key] (table : Mapping Key Value)

theorem lookup_insert_eq (key other : Key) (value : Value) :
    AList.lookup other (AList.insert key value table) =
      if other = key then some value else table.lookup other := by
  by_cases same : other = key
  · subst same
    rw [if_pos rfl]
    exact AList.lookup_insert table
  · rw [if_neg same]
    exact AList.lookup_insert_ne same

theorem lookup_erase_eq (key other : Key) :
    AList.lookup other (AList.erase key table) =
      if other = key then none else table.lookup other := by
  by_cases same : other = key
  · subst same
    rw [if_pos rfl]
    exact AList.lookup_erase _ table
  · rw [if_neg same]
    exact AList.lookup_erase_ne same

variable {table}

/-- What is found after an insertion is the new entry, or an old one of
another key. -/
theorem insert_cases {key other : Key} {value found : Value}
    (stored : AList.lookup other (AList.insert key value table) =
      some found) :
    (other = key ∧ found = value) ∨
      (other ≠ key ∧ table.lookup other = some found) := by
  rw [lookup_insert_eq] at stored
  by_cases same : other = key
  · rw [if_pos same] at stored
    exact .inl ⟨same, (Option.some.inj stored).symm⟩
  · rw [if_neg same] at stored
    exact .inr ⟨same, stored⟩

omit [DecidableEq Key] in
theorem keys_mapValues (change : Value → Value)
    (entries : List ((_ : Key) × Value)) :
    (entries.map fun entry => (⟨entry.1, change entry.2⟩ :
      (_ : Key) × Value)).keys = entries.keys := by
  unfold List.keys
  rw [List.map_map]
  rfl

def mapValues (change : Value → Value) (table : Mapping Key Value) :
    Mapping Key Value where
  entries := table.entries.map fun entry => ⟨entry.1, change entry.2⟩
  nodupKeys := by
    unfold List.NodupKeys
    rw [keys_mapValues]
    exact table.nodupKeys

theorem dlookup_mapValues (change : Value → Value) (key : Key)
    (entries : List ((_ : Key) × Value)) :
    (entries.map fun entry => (⟨entry.1, change entry.2⟩ :
      (_ : Key) × Value)).dlookup key = (entries.dlookup key).map change := by
  induction entries with
  | nil => rfl
  | cons entry rest induction =>
      obtain ⟨other, value⟩ := entry
      by_cases same : key = other
      · subst same
        rw [List.map_cons, List.dlookup_cons_eq, List.dlookup_cons_eq]
        rfl
      · rw [List.map_cons, List.dlookup_cons_ne _ _ same,
          List.dlookup_cons_ne _ _ same, induction]

theorem lookup_mapValues (change : Value → Value) (key : Key) :
    AList.lookup key (mapValues change table) =
      (table.lookup key).map change :=
  dlookup_mapValues change key table.entries

end Mapping

abbrev Nested (Outer Inner Value : Type) :=
  Mapping Outer (Mapping Inner Value)

namespace Nested

variable {Outer Inner Value : Type} [DecidableEq Outer] [DecidableEq Inner]

def row (table : Nested Outer Inner Value) (outer : Outer) :
    Mapping Inner Value :=
  (AList.lookup outer table).getD ∅

def get (table : Nested Outer Inner Value) (outer : Outer) (inner : Inner) :
    Option Value :=
  AList.lookup inner (table.row outer)

def put (table : Nested Outer Inner Value) (outer : Outer) (inner : Inner)
    (value : Value) : Nested Outer Inner Value :=
  AList.insert outer (AList.insert inner value (table.row outer)) table

def drop (table : Nested Outer Inner Value) (outer : Outer)
    (inner : Inner) : Nested Outer Inner Value :=
  match AList.lookup outer table with
  | none => table
  | some entries =>
      if (AList.erase inner entries).entries.isEmpty then
        AList.erase outer table
      else
        AList.insert outer (AList.erase inner entries) table

def Tidy (table : Nested Outer Inner Value) : Prop :=
  ∀ outer entries, AList.lookup outer table = some entries →
    entries.entries ≠ []

variable (table : Nested Outer Inner Value)

theorem row_put (outer other : Outer) (inner : Inner) (value : Value) :
    (table.put outer inner value).row other =
      if other = outer then
        AList.insert inner value (table.row outer)
      else
        table.row other := by
  unfold row put
  rw [Mapping.lookup_insert_eq]
  split <;> rfl

theorem get_put (outer other : Outer) (inner key : Inner) (value : Value) :
    (table.put outer inner value).get other key =
      if other = outer ∧ key = inner then some value
      else table.get other key := by
  unfold get
  rw [row_put]
  by_cases sameOuter : other = outer
  · subst sameOuter
    rw [if_pos rfl, Mapping.lookup_insert_eq]
    simp
  · simp [sameOuter]

theorem row_drop (outer other : Outer) (inner : Inner) :
    (table.drop outer inner).row other =
      if other = outer then AList.erase inner (table.row outer)
      else table.row other := by
  unfold row drop
  cases found : AList.lookup outer table with
  | none =>
      by_cases sameOuter : other = outer
      · subst sameOuter
        simp only [found, if_true, Option.getD_none]
        rfl
      · simp [sameOuter]
  | some entries =>
      simp only [Option.getD_some]
      by_cases last : (AList.erase inner entries).entries.isEmpty = true
      · rw [if_pos last, Mapping.lookup_erase_eq]
        by_cases sameOuter : other = outer
        · rw [if_pos sameOuter, if_pos sameOuter]
          apply AList.ext
          exact (List.isEmpty_iff.mp last).symm
        · rw [if_neg sameOuter, if_neg sameOuter]
      · rw [if_neg last, Mapping.lookup_insert_eq]
        split <;> rfl

theorem get_drop (outer other : Outer) (inner key : Inner) :
    (table.drop outer inner).get other key =
      if other = outer ∧ key = inner then none else table.get other key := by
  unfold get
  rw [row_drop]
  by_cases sameOuter : other = outer
  · subst sameOuter
    rw [if_pos rfl, Mapping.lookup_erase_eq]
    simp
  · simp [sameOuter]

variable {table}

theorem Tidy.put (tidy : table.Tidy) (outer : Outer) (inner : Inner)
    (value : Value) : (table.put outer inner value).Tidy := by
  intro other entries found
  unfold Nested.put at found
  cases Mapping.insert_cases found with
  | inl changed =>
      rw [changed.2]
      simp [AList.entries_insert]
  | inr kept => exact tidy other entries kept.2

theorem Tidy.drop (tidy : table.Tidy) (outer : Outer) (inner : Inner) :
    (table.drop outer inner).Tidy := by
  intro other entries found
  unfold Nested.drop at found
  cases present : AList.lookup outer table with
  | none =>
      rw [present] at found
      exact tidy other entries found
  | some rest =>
      rw [present] at found
      simp only at found
      by_cases last : (AList.erase inner rest).entries.isEmpty = true
      · rw [if_pos last, Mapping.lookup_erase_eq] at found
        by_cases sameOuter : other = outer
        · rw [if_pos sameOuter] at found
          cases found
        · rw [if_neg sameOuter] at found
          exact tidy other entries found
      · rw [if_neg last] at found
        cases Mapping.insert_cases found with
        | inl changed =>
            intro none
            rw [changed.2] at none
            exact last (List.isEmpty_iff.mpr none)
        | inr kept => exact tidy other entries kept.2

omit [DecidableEq Inner] in
theorem tidy_empty : (∅ : Nested Outer Inner Value).Tidy := by
  intro outer entries found
  cases found

/-! The same entry put into, or dropped from, several rows. -/

def putAll (table : Nested Outer Inner Value) (outers : List Outer)
    (inner : Inner) (value : Value) : Nested Outer Inner Value :=
  outers.foldl (fun table outer => table.put outer inner value) table

def dropAll (table : Nested Outer Inner Value) (outers : List Outer)
    (inner : Inner) : Nested Outer Inner Value :=
  outers.foldl (fun table outer => table.drop outer inner) table

theorem get_putAll (table : Nested Outer Inner Value) (outers : List Outer)
    (inner key : Inner) (value : Value) (other : Outer) :
    (table.putAll outers inner value).get other key =
      if other ∈ outers ∧ key = inner then some value
      else table.get other key := by
  induction outers generalizing table with
  | nil => simp [putAll]
  | cons outer rest induction =>
      change ((table.put outer inner value).putAll rest inner value).get
        other key = _
      rw [induction, get_put]
      by_cases sameInner : key = inner
      · by_cases sameOuter : other = outer
        · simp [sameInner, sameOuter]
        · simp [sameInner, sameOuter]
      · simp [sameInner]

theorem get_dropAll (table : Nested Outer Inner Value) (outers : List Outer)
    (inner key : Inner) (other : Outer) :
    (table.dropAll outers inner).get other key =
      if other ∈ outers ∧ key = inner then none
      else table.get other key := by
  induction outers generalizing table with
  | nil => simp [dropAll]
  | cons outer rest induction =>
      change ((table.drop outer inner).dropAll rest inner).get other key = _
      rw [induction, get_drop]
      by_cases sameInner : key = inner
      · by_cases sameOuter : other = outer
        · simp [sameInner, sameOuter]
        · simp [sameInner, sameOuter]
      · simp [sameInner]

theorem Tidy.putAll (tidy : table.Tidy) (outers : List Outer) (inner : Inner)
    (value : Value) : (table.putAll outers inner value).Tidy := by
  induction outers generalizing table with
  | nil => exact tidy
  | cons outer rest induction => exact induction (tidy.put outer inner value)

theorem Tidy.dropAll (tidy : table.Tidy) (outers : List Outer)
    (inner : Inner) : (table.dropAll outers inner).Tidy := by
  induction outers generalizing table with
  | nil => exact tidy
  | cons outer rest induction => exact induction (tidy.drop outer inner)

end Nested
