import Mathlib.Data.List.Nodup

/-! Tables whose rows have a key of their own. -/

structure Keyed {Row Key : Type} (keyOf : Row → Key) where
  rows : List Row := []
  unique : (rows.map keyOf).Nodup := by decide

namespace Keyed

variable {Row Key : Type} [DecidableEq Key] {keyOf : Row → Key}
  (table : Keyed keyOf)

def Has (key : Key) : Prop := key ∈ table.rows.map keyOf

instance (key : Key) : Decidable (table.Has key) :=
  inferInstanceAs (Decidable (_ ∈ _))

def find (key : Key) : Option Row :=
  table.rows.find? fun row => keyOf row = key

def filter (keep : Row → Bool) : Keyed keyOf where
  rows := table.rows.filter keep
  unique := table.unique.sublist (List.filter_sublist.map _)

def insert (row : Row) (new : ¬table.Has (keyOf row)) : Keyed keyOf where
  rows := table.rows ++ [row]
  unique := by
    rw [List.map_append, List.nodup_append]
    refine ⟨table.unique, List.nodup_singleton _, ?_⟩
    intro key old other added
    cases List.mem_singleton.mp added
    exact fun same => new (same ▸ old)

structure Change (keyOf : Row → Key) where
  apply : Row → Row
  keeps : ∀ row, keyOf (apply row) = keyOf row := by intro; rfl

def changed (key : Key) (change : Change keyOf) (row : Row) : Row :=
  if keyOf row = key then change.apply row else row

theorem keyOf_changed (key : Key) (change : Change keyOf) (row : Row) :
    keyOf (changed key change row) = keyOf row := by
  unfold changed
  split
  · exact change.keeps row
  · rfl

def modify (key : Key) (change : Change keyOf) : Keyed keyOf where
  rows := table.rows.map (changed key change)
  unique := by
    rw [List.map_map]
    have same : keyOf ∘ changed key change = keyOf :=
      funext (keyOf_changed key change)
    rw [same]
    exact table.unique

/-- `INSERT … ON CONFLICT … DO UPDATE`: the row is new, or `change` is made to
the one that is there. -/
def upsert (row : Row) (change : Change keyOf) : Keyed keyOf :=
  if known : table.Has (keyOf row) then table.modify (keyOf row) change
  else table.insert row known

variable {table} {key other : Key} {change : Change keyOf} {row : Row}

theorem keyOf_of_find (found : table.find key = some row) :
    keyOf row = key := by
  simpa using List.find?_some found

omit [DecidableEq Key] in
theorem eq_of_rows {first second : Keyed keyOf}
    (same : first.rows = second.rows) : first = second := by
  cases first
  cases second
  cases same
  rfl

theorem find_of_mem (member : row ∈ table.rows) :
    table.find (keyOf row) = some row := by
  cases found : table.find (keyOf row) with
  | none =>
      have missing := List.find?_eq_none.mp found row member
      simp at missing
  | some other =>
      have same : other = row := List.inj_on_of_nodup_map table.unique
        (List.mem_of_find?_eq_some found) member (keyOf_of_find found)
      rw [same]

theorem keyOf_ne_of_find (missing : table.find key = none)
    (member : row ∈ table.rows) : keyOf row ≠ key := by
  simpa using List.find?_eq_none.mp missing row member

theorem upsert_of_has (known : table.Has (keyOf row)) :
    table.upsert row change = table.modify (keyOf row) change :=
  dif_pos known

theorem find_modify :
    (table.modify key change).find other =
      (table.find other).map (changed key change) := by
  have same : (fun row => decide (keyOf row = other)) ∘ changed key change =
      fun row => decide (keyOf row = other) := by
    funext row
    simp only [Function.comp_apply, keyOf_changed]
  rw [find, modify, List.find?_map, same, find]

theorem find_modify_self :
    (table.modify key change).find key =
      (table.find key).map change.apply := by
  rw [find_modify]
  cases found : table.find key with
  | none => rfl
  | some row =>
      rw [Option.map_some, Option.map_some, changed,
        if_pos (keyOf_of_find found)]

theorem find_modify_other (differ : other ≠ key) :
    (table.modify key change).find other = table.find other := by
  rw [find_modify]
  cases found : table.find other with
  | none => rfl
  | some row =>
      have apart : keyOf row ≠ key := by
        rw [keyOf_of_find found]
        exact differ
      rw [Option.map_some, changed, if_neg apart]

theorem find_eq_none_of_not_has (new : ¬table.Has key) :
    table.find key = none := by
  rw [find, List.find?_eq_none]
  intro row member same
  exact new (List.mem_map.mpr ⟨row, member, by simpa using same⟩)

theorem find_upsert_self :
    (table.upsert row change).find (keyOf row) =
      some ((table.find (keyOf row)).elim row change.apply) := by
  by_cases known : table.Has (keyOf row)
  · obtain ⟨old, member, same⟩ := List.mem_map.mp known
    have found := find_of_mem member
    rw [same] at found
    rw [upsert_of_has known, find_modify_self, found]
    rfl
  · have missing := find_eq_none_of_not_has known
    have inserted : (table.upsert row change).find (keyOf row) =
        (table.rows ++ [row]).find? fun other => keyOf other = keyOf row := by
      rw [upsert, dif_neg known]
      rfl
    rw [inserted, List.find?_append, missing]
    change (table.find (keyOf row)).or _ = _
    rw [missing]
    simp

theorem find_upsert_other (differ : other ≠ keyOf row) :
    (table.upsert row change).find other = table.find other := by
  by_cases known : table.Has (keyOf row)
  · rw [upsert_of_has known, find_modify_other differ]
  · have inserted : (table.upsert row change).find other =
        (table.rows ++ [row]).find? fun row => keyOf row = other := by
      rw [upsert, dif_neg known]
      rfl
    rw [inserted, List.find?_append]
    simp [find, differ.symm]

section Filter

variable {keep : Row → Bool}
  (drops : ∀ row, keep row = true ↔ keyOf row ≠ key)

include drops

theorem find_filter_self : (table.filter keep).find key = none := by
  rw [find, List.find?_eq_none]
  intro row member same
  exact (drops row).mp (List.mem_filter.mp member).2 (by simpa using same)

theorem find_filter_other (differ : other ≠ key) :
    (table.filter keep).find other = table.find other := by
  rw [find, find, filter, List.find?_filter]
  congr 1
  funext row
  by_cases same : keyOf row = other
  · have kept := (drops row).mpr (same ▸ differ)
    simp [same, kept]
  · simp [same]

end Filter

theorem length_modify :
    (table.modify key change).rows.length = table.rows.length :=
  List.length_map _

end Keyed
