import Mathlib.Data.List.Perm.Basic

/-! Lists as tables of tasks that are only appended to or changed in place. -/

namespace Slots

variable {Item : Type} {items : List Item}

theorem getElem?_set_of_found {index : ℕ} {old : Item}
    (found : items[index]? = some old) (new : Item) (other : ℕ) :
    (items.set index new)[other]? =
      if other = index then some new else items[other]? := by
  have inside : index < items.length :=
    (List.getElem?_eq_some_iff.mp found).1
  rw [List.getElem?_set]
  by_cases same : index = other
  · simp [same, same ▸ inside]
  · simp [same, Ne.symm same]

/-- An item of a changed table is the new one at its place, or an old one. -/
theorem set_cases {index : ℕ} {old new : Item}
    (found : items[index]? = some old) {other : ℕ} {item : Item}
    (stored : (items.set index new)[other]? = some item) :
    (other = index ∧ item = new) ∨
      (other ≠ index ∧ items[other]? = some item) := by
  rw [getElem?_set_of_found found] at stored
  by_cases same : other = index
  · rw [if_pos same] at stored
    cases stored
    exact .inl ⟨same, rfl⟩
  · rw [if_neg same] at stored
    exact .inr ⟨same, stored⟩

theorem append_cases {new item : Item} {index : ℕ}
    (stored : (items ++ [new])[index]? = some item) :
    items[index]? = some item ∨ (index = items.length ∧ item = new) := by
  by_cases before : index < items.length
  · rw [List.getElem?_append_left before] at stored
    exact .inl stored
  · rw [List.getElem?_append_right (Nat.le_of_not_lt before)] at stored
    have last : index - items.length = 0 := by
      have bound := (List.getElem?_eq_some_iff.mp stored).1
      rw [List.length_singleton] at bound
      omega
    rw [last] at stored
    cases stored
    exact .inr ⟨by omega, rfl⟩

theorem getElem?_append_of_found {index : ℕ} {item : Item}
    (found : items[index]? = some item) (new : Item) :
    (items ++ [new])[index]? = some item := by
  rw [List.getElem?_append_left (List.getElem?_eq_some_iff.mp found).1, found]

theorem set_self_of_found {index : ℕ} {item : Item}
    (found : items[index]? = some item) : items.set index item = items := by
  apply List.ext_getElem?
  intro other
  rw [getElem?_set_of_found found]
  by_cases same : other = index
  · rw [if_pos same, same, found]
  · rw [if_neg same]

theorem mem_iff_of_found {index : ℕ} {old : Item}
    (found : items[index]? = some old) (item : Item) :
    item ∈ items ↔ item = old ∨ item ∈ items.eraseIdx index := by
  rw [List.mem_iff_getElem?, List.mem_eraseIdx_iff_getElem?]
  constructor
  · intro stored
    obtain ⟨other, stored⟩ := stored
    by_cases same : other = index
    · rw [same, found] at stored
      exact .inl (Option.some.inj stored).symm
    · exact .inr ⟨other, same, stored⟩
  · intro either
    cases either with
    | inl equal => exact ⟨index, equal ▸ found⟩
    | inr stored =>
        obtain ⟨other, _, stored⟩ := stored
        exact ⟨other, stored⟩

theorem mem_set_of_found {index : ℕ} {old : Item}
    (found : items[index]? = some old) (new item : Item) :
    item ∈ items.set index new ↔
      item = new ∨ item ∈ items.eraseIdx index := by
  have placed : (items.set index new)[index]? = some new := by
    rw [getElem?_set_of_found found, if_pos rfl]
  rw [mem_iff_of_found placed, List.eraseIdx_set_eq]

theorem forall_iff_of_found {index : ℕ} {old : Item}
    (found : items[index]? = some old) (holds : Item → Prop) :
    (∀ item ∈ items, holds item) ↔
      holds old ∧ ∀ item ∈ items.eraseIdx index, holds item := by
  simp only [mem_iff_of_found found, forall_eq_or_imp]

theorem forall_set_of_found {index : ℕ} {old : Item}
    (found : items[index]? = some old) (new : Item) (holds : Item → Prop) :
    (∀ item ∈ items.set index new, holds item) ↔
      holds new ∧ ∀ item ∈ items.eraseIdx index, holds item := by
  simp only [mem_set_of_found found, forall_eq_or_imp]

theorem countP_of_found {index : ℕ} {item : Item}
    (found : items[index]? = some item) (test : Item → Bool) :
    items.countP test =
      (test item).toNat + (items.eraseIdx index).countP test := by
  induction items generalizing index with
  | nil => cases found
  | cons first rest induction =>
      cases index with
      | zero =>
          cases found
          simp only [List.eraseIdx_cons_zero, List.countP_cons]
          cases test item <;> simp [Nat.add_comm]
      | succ index =>
          have parted : rest.countP test = _ := induction found
          simp only [List.eraseIdx_cons_succ, List.countP_cons]
          omega

theorem countP_set_of_found {index : ℕ} {old : Item}
    (found : items[index]? = some old) (new : Item) (test : Item → Bool) :
    (items.set index new).countP test + (test old).toNat =
      items.countP test + (test new).toNat := by
  have placed : (items.set index new)[index]? = some new := by
    rw [getElem?_set_of_found found, if_pos rfl]
  have after := countP_of_found placed test
  have before := countP_of_found found test
  rw [List.eraseIdx_set_eq] at after
  omega

theorem perm_filterMap_of_found {View : Type} {index : ℕ} {item : Item}
    (found : items[index]? = some item) (view : Item → Option View) :
    (items.filterMap view).Perm
      ((view item).toList ++ (items.eraseIdx index).filterMap view) := by
  obtain ⟨inside, rfl⟩ := List.getElem?_eq_some_iff.mp found
  have front := (List.getElem_cons_eraseIdx_perm inside).symm.filterMap view
  refine front.trans (List.Perm.of_eq ?_)
  rw [List.filterMap_cons]
  cases view items[index] <;> rfl

theorem perm_filterMap_set_of_found {View : Type} {index : ℕ} {old : Item}
    (found : items[index]? = some old) (new : Item)
    (view : Item → Option View) :
    ((items.set index new).filterMap view).Perm
      ((view new).toList ++ (items.eraseIdx index).filterMap view) := by
  have placed : (items.set index new)[index]? = some new := by
    rw [getElem?_set_of_found found, if_pos rfl]
  have parted := perm_filterMap_of_found placed view
  rwa [List.eraseIdx_set_eq] at parted

def load (weight : Item → ℕ) : List Item → ℕ
  | [] => 0
  | item :: rest => weight item + load weight rest

theorem load_append (weight : Item → ℕ) (items others : List Item) :
    load weight (items ++ others) = load weight items + load weight others := by
  induction items with
  | nil => exact (Nat.zero_add _).symm
  | cons item rest induction =>
      rw [List.cons_append, load, load, induction, Nat.add_assoc]

theorem load_of_found {items : List Item} {index : ℕ} {item : Item}
    (found : items[index]? = some item) (weight : Item → ℕ) :
    load weight items = weight item + load weight (items.eraseIdx index) := by
  induction items generalizing index with
  | nil => cases found
  | cons first rest induction =>
      cases index with
      | zero =>
          cases found
          rfl
      | succ index =>
          rw [List.eraseIdx_cons_succ, load, load,
            induction (List.getElem?_cons_succ.symm.trans found)]
          exact Nat.add_left_comm _ _ _

theorem mem_eraseIdx_or {place : ℕ} {item other : Item}
    (found : items[place]? = some item) (listed : other ∈ items) :
    other ∈ items.eraseIdx place ∨ other = item := by
  obtain ⟨index, stored⟩ := List.mem_iff_getElem?.mp listed
  by_cases same : index = place
  · rw [same, found] at stored
    exact .inr (Option.some.inj stored).symm
  · exact .inl (List.mem_eraseIdx_iff_getElem?.mpr ⟨index, same, stored⟩)

end Slots
