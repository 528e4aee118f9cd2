import Mathlib.Order.Bounds.Basic
import Mathlib.Tactic.Common

/-! The edit distance of two lists, as a recursion from the front and as the
least cost of an alignment.  The laws of a metric, and the recursion from the
back, are facts about alignments. -/

namespace EditDistance

variable {Symbol : Type} [DecidableEq Symbol]

def cost (old new : Symbol) : ℕ := if old = new then 0 else 1

def distance : List Symbol → List Symbol → ℕ
  | [], target => target.length
  | source, [] => source.length
  | old :: source, new :: target =>
      min (min (distance source (new :: target) + 1)
          (distance (old :: source) target + 1))
        (distance source target + cost old new)
  termination_by source target => source.length + target.length

/-- The edits that make one list of the other, from front to back. -/
inductive Alignment : List Symbol → List Symbol → ℕ → Prop
  | nil : Alignment [] [] 0
  | delete {source target total} (old : Symbol)
      (rest : Alignment source target total) :
      Alignment (old :: source) target (total + 1)
  | insert {source target total} (new : Symbol)
      (rest : Alignment source target total) :
      Alignment source (new :: target) (total + 1)
  | replace {source target total} (old new : Symbol)
      (rest : Alignment source target total) :
      Alignment (old :: source) (new :: target) (total + cost old new)

theorem cost_self (symbol : Symbol) : cost symbol symbol = 0 := if_pos rfl

theorem cost_comm (first second : Symbol) :
    cost first second = cost second first := by
  simp only [cost, eq_comm]

theorem cost_le_one (old new : Symbol) : cost old new ≤ 1 := by
  unfold cost
  split <;> omega

theorem cost_eq_zero_iff {old new : Symbol} :
    cost old new = 0 ↔ old = new := by
  unfold cost
  split <;> simp_all

theorem cost_triangle (first second third : Symbol) :
    cost first third ≤ cost first second + cost second third := by
  rcases eq_or_ne first second with rfl | differ
  · exact Nat.le_add_left _ _
  · have one : cost first second = 1 := if_neg differ
    have := cost_le_one first third
    omega

section Recursion

theorem distance_nil_left (target : List Symbol) :
    distance [] target = target.length := by
  rw [distance]

theorem distance_nil_right (source : List Symbol) :
    distance source [] = source.length := by
  cases source with
  | nil => exact distance_nil_left []
  | cons old source =>
      rw [distance]
      exact List.cons_ne_nil old source

theorem distance_cons_cons (old new : Symbol) (source target : List Symbol) :
    distance (old :: source) (new :: target) =
      min (min (distance source (new :: target) + 1)
          (distance (old :: source) target + 1))
        (distance source target + cost old new) := by
  rw [distance]

theorem distance_delete (old : Symbol) (source target : List Symbol) :
    distance (old :: source) target ≤ distance source target + 1 := by
  cases target with
  | nil => simp [distance_nil_right]
  | cons new target =>
      rw [distance_cons_cons]
      omega

theorem distance_insert (new : Symbol) (source target : List Symbol) :
    distance source (new :: target) ≤ distance source target + 1 := by
  cases source with
  | nil => simp [distance_nil_left]
  | cons old source =>
      rw [distance_cons_cons]
      omega

theorem distance_replace (old new : Symbol) (source target : List Symbol) :
    distance (old :: source) (new :: target) ≤
      distance source target + cost old new := by
  rw [distance_cons_cons]
  exact Nat.min_le_right _ _

theorem distance_choice (old new : Symbol) (source target : List Symbol) :
    distance (old :: source) (new :: target) =
        distance source (new :: target) + 1 ∨
      distance (old :: source) (new :: target) =
        distance (old :: source) target + 1 ∨
      distance (old :: source) (new :: target) =
        distance source target + cost old new := by
  rw [distance_cons_cons]
  omega

end Recursion

section Alignments

variable {source middle target : List Symbol} {total : ℕ}

theorem Alignment.distance_le (alignment : Alignment source target total) :
    distance source target ≤ total := by
  induction alignment with
  | nil => simp [distance_nil_left]
  | delete old _ induction =>
      exact (distance_delete old _ _).trans (by omega)
  | insert new _ induction =>
      exact (distance_insert new _ _).trans (by omega)
  | replace old new _ induction =>
      exact (distance_replace old new _ _).trans (by omega)

theorem Alignment.deleteAll :
    ∀ source : List Symbol, Alignment source [] source.length
  | [] => .nil
  | old :: source => .delete old (deleteAll source)

theorem Alignment.insertAll :
    ∀ target : List Symbol, Alignment [] target target.length
  | [] => .nil
  | new :: target => .insert new (insertAll target)

theorem alignment_distance (source target : List Symbol) :
    Alignment source target (distance source target) := by
  induction source, target using distance.induct with
  | case1 target =>
      rw [distance_nil_left]
      exact .insertAll target
  | case2 source _ =>
      rw [distance_nil_right]
      exact .deleteAll source
  | case3 old source new target deleted inserted replaced =>
      rcases distance_choice old new source target with
        chosen | chosen | chosen <;> rw [chosen]
      · exact .delete old deleted
      · exact .insert new inserted
      · exact .replace old new replaced

theorem isLeast_distance (source target : List Symbol) :
    IsLeast {total | Alignment source target total}
      (distance source target) :=
  ⟨alignment_distance source target, fun _ => Alignment.distance_le⟩

theorem Alignment.symm (alignment : Alignment source target total) :
    Alignment target source total := by
  induction alignment with
  | nil => exact .nil
  | delete old _ induction => exact .insert old induction
  | insert new _ induction => exact .delete new induction
  | replace old new _ induction =>
      rw [cost_comm]
      exact .replace new old induction

theorem Alignment.refl : ∀ source : List Symbol, Alignment source source 0
  | [] => .nil
  | symbol :: source => by
      have rest := Alignment.replace symbol symbol (refl source)
      rwa [cost_self] at rest

theorem Alignment.append {front back : List Symbol} {other : ℕ}
    (first : Alignment source target total)
    (second : Alignment front back other) :
    Alignment (source ++ front) (target ++ back) (total + other) := by
  induction first with
  | nil => rwa [Nat.zero_add]
  | delete old _ induction =>
      rw [Nat.add_right_comm]
      exact .delete old induction
  | insert new _ induction =>
      rw [Nat.add_right_comm]
      exact .insert new induction
  | replace old new _ induction =>
      rw [Nat.add_right_comm]
      exact .replace old new induction

theorem Alignment.reverse (alignment : Alignment source target total) :
    Alignment source.reverse target.reverse total := by
  induction alignment with
  | nil => exact .nil
  | delete old _ induction =>
      have last := induction.append (.delete old .nil)
      rwa [List.append_nil, ← List.reverse_cons, Nat.zero_add] at last
  | insert new _ induction =>
      have last := induction.append (.insert new .nil)
      rwa [List.append_nil, ← List.reverse_cons, Nat.zero_add] at last
  | replace old new _ induction =>
      have last := induction.append (.replace old new .nil)
      rwa [← List.reverse_cons, ← List.reverse_cons, Nat.zero_add] at last

/-- One edit of the first alignment meets those of the second that touch the
symbol it has written. -/
theorem Alignment.trans {other : ℕ}
    (first : Alignment source middle total)
    (second : Alignment middle target other) :
    ∃ both ≤ total + other, Alignment source target both := by
  induction first generalizing target other with
  | nil => exact ⟨other, by omega, second⟩
  | delete old _ induction =>
      obtain ⟨both, bound, rest⟩ := induction second
      exact ⟨both + 1, by omega, .delete old rest⟩
  | @insert source middle total new first induction =>
      generalize written : new :: middle = wholeMiddle at second
      induction second with
      | nil => cases written
      | delete _ later =>
          cases written
          obtain ⟨both, bound, rest⟩ := induction later
          exact ⟨both, by omega, rest⟩
      | insert next _ inserted =>
          obtain ⟨both, bound, rest⟩ := inserted written
          exact ⟨both + 1, by omega, .insert next rest⟩
      | replace _ next later =>
          cases written
          obtain ⟨both, bound, rest⟩ := induction later
          exact ⟨both + 1, by omega, .insert next rest⟩
  | @replace source middle total old new first induction =>
      generalize written : new :: middle = wholeMiddle at second
      induction second with
      | nil => cases written
      | delete _ later =>
          cases written
          obtain ⟨both, bound, rest⟩ := induction later
          exact ⟨both + 1, by omega, .delete old rest⟩
      | insert next _ inserted =>
          obtain ⟨both, bound, rest⟩ := inserted written
          exact ⟨both + 1, by omega, .insert next rest⟩
      | replace _ next later =>
          cases written
          obtain ⟨both, bound, rest⟩ := induction later
          have direct := cost_triangle old new next
          exact ⟨both + cost old next, by omega, .replace old next rest⟩

theorem Alignment.eq_of_zero (alignment : Alignment source target 0) :
    source = target := by
  generalize free : 0 = total at alignment
  induction alignment with
  | nil => rfl
  | delete => omega
  | insert => omega
  | replace old new _ induction =>
      have same : old = new := cost_eq_zero_iff.mp (by omega)
      rw [same, induction (by omega)]

end Alignments

section Metric

variable (source middle target : List Symbol)

theorem distance_comm : distance source target = distance target source :=
  Nat.le_antisymm (alignment_distance target source).symm.distance_le
    (alignment_distance source target).symm.distance_le

theorem distance_triangle :
    distance source target ≤
      distance source middle + distance middle target := by
  obtain ⟨both, bound, direct⟩ :=
    (alignment_distance source middle).trans (alignment_distance middle target)
  exact direct.distance_le.trans bound

variable {source target} in
theorem distance_eq_zero_iff :
    distance source target = 0 ↔ source = target := by
  constructor
  · intro zero
    have free := alignment_distance source target
    rw [zero] at free
    exact free.eq_of_zero
  · rintro rfl
    exact Nat.le_zero.mp (Alignment.refl source).distance_le

theorem distance_le_max :
    distance source target ≤ max source.length target.length := by
  induction source generalizing target with
  | nil =>
      rw [distance_nil_left]
      exact Nat.le_max_right _ _
  | cons old source induction =>
      cases target with
      | nil =>
          rw [distance_nil_right]
          exact Nat.le_max_left _ _
      | cons new target =>
          have edited := distance_replace old new source target
          have rest := induction target
          have single := cost_le_one old new
          simp only [List.length_cons]
          omega

theorem distance_reverse :
    distance source.reverse target.reverse = distance source target := by
  apply Nat.le_antisymm
  · exact (alignment_distance source target).reverse.distance_le
  · have back := (alignment_distance source.reverse target.reverse).reverse
    rw [List.reverse_reverse, List.reverse_reverse] at back
    exact back.distance_le

theorem distance_concat (old new : Symbol) :
    distance (source ++ [old]) (target ++ [new]) =
      min (min (distance source (target ++ [new]) + 1)
          (distance (source ++ [old]) target + 1))
        (distance source target + cost old new) := by
  have turned := distance_cons_cons old new source.reverse target.reverse
  have sourceBack : old :: source.reverse = (source ++ [old]).reverse := by
    simp
  have targetBack : new :: target.reverse = (target ++ [new]).reverse := by
    simp
  rwa [sourceBack, targetBack, distance_reverse, distance_reverse,
    distance_reverse, distance_reverse] at turned

end Metric

end EditDistance
