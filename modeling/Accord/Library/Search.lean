import Mathlib.Data.List.DropRight
import Mathlib.Data.List.Infix
import Mathlib.Data.List.Destutter
import Mathlib.Data.List.Sort

/-! Searches in texts whose symbols take several units each, with offsets
counted in units, and what a sort and a removal of repetitions make of the
results. -/

namespace Search

variable {Symbol : Type}

section Offsets

variable (size : Symbol → ℕ)

def width : List Symbol → ℕ
  | [] => 0
  | symbol :: rest => size symbol + width rest

/-- The parts before and after an offset, if it is between two symbols. -/
def splitAt : ℕ → List Symbol → Option (List Symbol × List Symbol)
  | 0, text => some ([], text)
  | _ + 1, [] => none
  | offset + 1, symbol :: rest =>
      if size symbol ≤ offset + 1 then
        (splitAt (offset + 1 - size symbol) rest).map fun parts =>
          (symbol :: parts.1, parts.2)
      else
        none

def sliceTo (offset : ℕ) (text : List Symbol) : Option (List Symbol) :=
  (splitAt size offset text).map Prod.fst

def sliceFrom (offset : ℕ) (text : List Symbol) : Option (List Symbol) :=
  (splitAt size offset text).map Prod.snd

def find [DecidableEq Symbol] (pattern : List Symbol) :
    List Symbol → Option ℕ
  | [] => if pattern.isPrefixOf [] then some 0 else none
  | symbol :: rest =>
      if pattern.isPrefixOf (symbol :: rest) then
        some 0
      else
        (find pattern rest).map (size symbol + ·)

def findWhere (test : Symbol → Bool) : List Symbol → Option ℕ
  | [] => none
  | symbol :: rest =>
      if test symbol then some 0
      else (findWhere test rest).map (size symbol + ·)

end Offsets

section Parts

variable [DecidableEq Symbol]

/-- Where a pattern begins, as what is left of the text from there. -/
def occurrences (pattern text : List Symbol) : List (List Symbol) :=
  text.tails.filter (pattern.isPrefixOf ·)

/-- What is before the first occurrence, and what is after it if there is
one. -/
def cut (pattern : List Symbol) :
    List Symbol → List Symbol × Option (List Symbol)
  | [] => ([], if pattern.isPrefixOf [] then some [] else none)
  | symbol :: rest =>
      if pattern.isPrefixOf (symbol :: rest) then
        ([], some ((symbol :: rest).drop pattern.length))
      else
        (symbol :: (cut pattern rest).1, (cut pattern rest).2)

/-- What is before and after the last occurrence of a symbol. -/
def cutLast (symbol : Symbol) (text : List Symbol) :
    Option (List Symbol × List Symbol) :=
  match text.rdropWhile (· != symbol) with
  | [] => none
  | first :: rest =>
      some ((first :: rest).dropLast, text.rtakeWhile (· != symbol))

end Parts

variable {size : Symbol → ℕ}

@[simp] theorem width_nil : width size [] = 0 := rfl

@[simp] theorem width_cons (symbol : Symbol) (text : List Symbol) :
    width size (symbol :: text) = size symbol + width size text := rfl

theorem width_append (before after : List Symbol) :
    width size (before ++ after) = width size before + width size after := by
  induction before with
  | nil => rw [List.nil_append, width_nil, Nat.zero_add]
  | cons symbol rest induction =>
      rw [List.cons_append, width_cons, width_cons, induction, Nat.add_assoc]

section Slices

variable (positive : ∀ symbol, 0 < size symbol)
include positive

theorem splitAt_width (before after : List Symbol) :
    splitAt size (width size before) (before ++ after) =
      some (before, after) := by
  induction before with
  | nil => cases after <;> rfl
  | cons symbol rest induction =>
      have first := positive symbol
      obtain ⟨offset, offsetEq⟩ : ∃ offset,
          width size (symbol :: rest) = offset + 1 := by
        refine ⟨width size (symbol :: rest) - 1, ?_⟩
        rw [width_cons]
        omega
      have remaining : offset + 1 - size symbol = width size rest := by
        rw [← offsetEq, width_cons]
        omega
      have fits : size symbol ≤ offset + 1 := by
        rw [← offsetEq, width_cons]
        omega
      rw [offsetEq, List.cons_append, splitAt, if_pos fits, remaining,
        induction]
      rfl

theorem sliceFrom_width (before after : List Symbol) :
    sliceFrom size (width size before) (before ++ after) = some after := by
  rw [sliceFrom, splitAt_width positive, Option.map_some]

theorem sliceTo_width (before after : List Symbol) :
    sliceTo size (width size before) (before ++ after) = some before := by
  rw [sliceTo, splitAt_width positive, Option.map_some]

end Slices

theorem findWhere_getD (test : Symbol → Bool) (text : List Symbol) :
    (findWhere size test text).getD (width size text) =
      width size (text.takeWhile fun symbol => !test symbol) := by
  induction text with
  | nil => rfl
  | cons symbol rest induction =>
      rw [findWhere, List.takeWhile_cons]
      cases test symbol with
      | true => rfl
      | false =>
          simp only [Bool.false_eq_true, if_false, Bool.not_false, if_true,
            width_cons]
          rw [← induction]
          cases findWhere size test rest <;> rfl

/-- A slice up to the first symbol of a kind, or to the end of the text, has
what is before that symbol. -/
theorem sliceTo_findWhere (positive : ∀ symbol, 0 < size symbol)
    (test : Symbol → Bool) (text : List Symbol) :
    sliceTo size ((findWhere size test text).getD (width size text)) text =
      some (text.takeWhile fun symbol => !test symbol) := by
  have slice := sliceTo_width positive
    (text.takeWhile fun symbol => !test symbol)
    (text.dropWhile fun symbol => !test symbol)
  rwa [List.takeWhile_append_dropWhile, ← findWhere_getD] at slice

section Occurrences

variable [DecidableEq Symbol] {first : Symbol}
  {pattern more text tail : List Symbol}

theorem prefix_self_append :
    (first :: more).isPrefixOf (first :: (more ++ tail)) = true :=
  List.isPrefixOf_iff_prefix.mpr (List.prefix_append (first :: more) tail)

theorem not_prefix_of_not_mem {symbol : Symbol} {rest : List Symbol}
    (absent : first ∉ symbol :: rest) :
    ¬(first :: more).isPrefixOf (symbol :: tail) = true := by
  intro present
  rw [List.isPrefixOf_cons_cons, Bool.and_eq_true, beq_iff_eq] at present
  exact absent (present.1 ▸ List.mem_cons_self)

theorem mem_occurrences :
    tail ∈ occurrences pattern text ↔ pattern <+: tail ∧ tail <:+ text := by
  rw [occurrences, List.mem_filter, List.mem_tails, List.isPrefixOf_iff_prefix,
    and_comm]

theorem occurrences_cons (symbol : Symbol) (rest : List Symbol) :
    occurrences pattern (symbol :: rest) =
      if pattern.isPrefixOf (symbol :: rest) then
        (symbol :: rest) :: occurrences pattern rest
      else
        occurrences pattern rest := by
  rw [occurrences, List.tails_cons, List.filter_cons, occurrences]

theorem occurrences_of_find_none (missing : find size pattern text = none) :
    occurrences pattern text = [] := by
  induction text with
  | nil =>
      rw [find] at missing
      split at missing
      · cases missing
      · rename_i absent
        rw [occurrences, List.tails, List.filter_cons_of_neg absent,
          List.filter_nil]
  | cons symbol rest induction =>
      rw [find] at missing
      split at missing
      · cases missing
      · rename_i absent
        rw [occurrences_cons, if_neg absent]
        exact induction (Option.map_eq_none_iff.mp missing)

theorem occurrences_of_prefix (present : pattern.isPrefixOf text = true) :
    ∃ before after, text = before ++ (pattern ++ after) ∧
      0 = width size before ∧
      occurrences pattern text = occurrences pattern (pattern ++ after) := by
  obtain ⟨after, split⟩ := List.isPrefixOf_iff_prefix.mp present
  refine ⟨[], after, split.symm, rfl, ?_⟩
  rw [split]

theorem occurrences_of_find_some {offset : ℕ}
    (found : find size pattern text = some offset) :
    ∃ before after, text = before ++ (pattern ++ after) ∧
      offset = width size before ∧
      occurrences pattern text = occurrences pattern (pattern ++ after) := by
  induction text generalizing offset with
  | nil =>
      rw [find] at found
      split at found
      · rename_i present
        obtain rfl := Option.some.inj found
        exact occurrences_of_prefix present
      · cases found
  | cons symbol rest induction =>
      rw [find] at found
      split at found
      · rename_i present
        obtain rfl := Option.some.inj found
        exact occurrences_of_prefix present
      · rename_i absent
        obtain ⟨later, foundLater, offsetEq⟩ := Option.map_eq_some_iff.mp found
        obtain ⟨before, after, restEq, laterEq, same⟩ := induction foundLater
        refine ⟨symbol :: before, after, ?_, ?_, ?_⟩
        · rw [restEq, List.cons_append]
        · rw [width_cons, ← laterEq, offsetEq]
        · rw [occurrences_cons, if_neg absent, same]

theorem occurrences_append_of_not_mem (absent : first ∉ text) :
    occurrences (first :: more) (text ++ tail) =
      occurrences (first :: more) tail := by
  induction text with
  | nil => rfl
  | cons symbol rest induction =>
      rw [List.cons_append, occurrences_cons,
        if_neg (not_prefix_of_not_mem absent)]
      exact induction fun member => absent (List.mem_cons_of_mem _ member)

theorem occurrences_self_append (fresh : first ∉ more) :
    occurrences (first :: more) (first :: more ++ tail) =
      (first :: more ++ tail) :: occurrences (first :: more) tail := by
  rw [List.cons_append, occurrences_cons, if_pos prefix_self_append,
    occurrences_append_of_not_mem fresh]

theorem cut_append_of_not_mem (absent : first ∉ text) :
    cut (first :: more) (text ++ (first :: more ++ tail)) =
      (text, some tail) := by
  induction text with
  | nil =>
      rw [List.nil_append, List.cons_append, cut, if_pos prefix_self_append,
        ← List.cons_append, List.drop_left]
  | cons symbol rest induction =>
      have later := induction fun member =>
        absent (List.mem_cons_of_mem _ member)
      rw [List.cons_append, cut, if_neg (not_prefix_of_not_mem absent), later]

end Occurrences

section Cuts

variable [DecidableEq Symbol]

theorem cutLast_eq_some {symbol : Symbol} {text before after : List Symbol}
    (parts : cutLast symbol text = some (before, after)) :
    text = before ++ symbol :: after ∧
      after = text.rtakeWhile (· != symbol) := by
  rw [cutLast] at parts
  split at parts
  · cases parts
  · rename_i first rest kept
    obtain ⟨rfl, rfl⟩ := Prod.mk.inj (Option.some.inj parts)
    have nonempty : text.rdropWhile (· != symbol) ≠ [] := by
      rw [kept]
      exact List.cons_ne_nil _ _
    have last := List.rdropWhile_last_not _ _ nonempty
    rw [bne_iff_ne, not_not] at last
    have front := List.dropLast_append_getLast nonempty
    rw [last, kept] at front
    refine ⟨?_, rfl⟩
    rw [List.append_cons, front, ← kept, List.rdropWhile_append_rtakeWhile]

theorem cutLast_isSome {symbol : Symbol} {text : List Symbol} :
    (cutLast symbol text).isSome = true ↔ symbol ∈ text := by
  constructor
  · intro found
    obtain ⟨⟨before, after⟩, parts⟩ := Option.isSome_iff_exists.mp found
    rw [(cutLast_eq_some parts).1]
    exact List.mem_append_right _ List.mem_cons_self
  · intro member
    rw [cutLast]
    split
    · rename_i missing
      rw [List.rdropWhile_eq_nil_iff] at missing
      exact absurd rfl (bne_iff_ne.mp (missing symbol member))
    · rfl

end Cuts

section LastField

variable {test : Symbol → Bool} {before after : List Symbol}

theorem rdropWhile_append_replicate {symbol : Symbol}
    (dropped : test symbol = true)
    (kept : ∀ nonempty : before ≠ [],
      ¬ test (before.getLast nonempty) = true) (count : ℕ) :
    (before ++ List.replicate count symbol).rdropWhile test = before := by
  induction count with
  | zero =>
      rw [List.replicate_zero, List.append_nil]
      exact List.rdropWhile_eq_self_iff.mpr kept
  | succ count induction =>
      rw [List.replicate_succ', ← List.append_assoc,
        List.rdropWhile_concat_pos _ _ _ dropped]
      exact induction

theorem rtakeWhile_append_cons {mark : Symbol}
    (stops : ¬ test mark = true)
    (taken : ∀ symbol ∈ after, test symbol = true) :
    (before ++ mark :: after).rtakeWhile test = after := by
  induction after using List.reverseRecOn with
  | nil => exact List.rtakeWhile_concat_neg _ _ _ stops
  | append_singleton rest last induction =>
      have lastTaken := taken last (by simp)
      rw [← List.cons_append, ← List.append_assoc,
        List.rtakeWhile_concat_pos _ _ _ lastTaken,
        induction fun symbol member => taken symbol (by simp [member])]

theorem rtakeWhile_append_of_all
    (taken : ∀ symbol ∈ after, test symbol = true) :
    (before ++ after).rtakeWhile test = before.rtakeWhile test ++ after := by
  have reversed : ∀ symbol ∈ after.reverse, test symbol = true :=
    fun symbol member => taken symbol (List.mem_reverse.mp member)
  rw [List.rtakeWhile, List.reverse_append,
    List.takeWhile_append_of_pos reversed, List.reverse_append,
    List.reverse_reverse, List.rtakeWhile]

end LastField

theorem sorted_destutter [LinearOrder Symbol] (items : List Symbol) :
    ((items.insertionSort (· ≤ ·)).destutter (· ≠ ·)).Pairwise (· < ·) := by
  have sorted := List.pairwise_insertionSort (· ≤ ·) items
  rw [sorted.destutter_eq_dedup]
  have distinct := List.nodup_dedup (items.insertionSort (· ≤ ·))
  exact ((sorted.sublist (List.dedup_sublist _)).and distinct).imp
    fun both => lt_of_le_of_ne both.1 both.2

theorem mem_sorted_destutter [LinearOrder Symbol] {items : List Symbol}
    {item : Symbol} :
    item ∈ (items.insertionSort (· ≤ ·)).destutter (· ≠ ·) ↔
      item ∈ items := by
  rw [(List.pairwise_insertionSort (· ≤ ·) items).destutter_eq_dedup,
    List.mem_dedup, List.mem_insertionSort]

end Search
