import Accord.Library.EditDistance
import Accord.Types.Text
import Mathlib.Data.Rat.Floor
import Mathlib.Tactic.Positivity

/-! The heuristic over names of channels.  The ratios of the code are floating
point numbers; here they are exact. -/

namespace Accord

namespace Names

inductive NameVerdict where
  | ok
  | suspicious (reason : String)
  deriving DecidableEq

def NameVerdict.reason : NameVerdict → Option String
  | .ok => none
  | .suspicious reason => some reason

def spamCluster : ℕ := 3

def similar : ℚ := 4 / 5

/-- The inner loop, from `column` on.  An index out of bounds panics. -/
def fillRow (symbol : Char) (prev : List ℕ) :
    ℕ → List Char → List ℕ → Option (List ℕ)
  | _, [], cur => some cur
  | column, other :: rest, cur => do
      let cost := if symbol ≠ other then 1 else 0
      let above ← prev[column + 1]?
      let left ← cur[column]?
      let diagonal ← prev[column]?
      guard (column + 1 < cur.length)
      fillRow symbol prev (column + 1) rest
        (cur.set (column + 1)
          (min (min (above + 1) (left + 1)) (diagonal + cost)))

/-- The outer loop.  The rows are swapped after each turn, so `cur` is the
row before the last one then. -/
def fillRows (columns : List Char) :
    ℕ → List Char → List ℕ → List ℕ → Option (List ℕ)
  | _, [], prev, _ => some prev
  | row, symbol :: rest, prev, cur => do
      guard (0 < cur.length)
      let filled ← fillRow symbol prev 0 columns (cur.set 0 (row + 1))
      fillRows columns (row + 1) rest filled prev

def levenshtein (a b : String) : Option ℕ :=
  let a := a.toList
  let b := b.toList
  if a.isEmpty then
    some b.length
  else if b.isEmpty then
    some a.length
  else do
    let prev ← fillRows b 0 a (List.range (b.length + 1))
      (List.replicate (b.length + 1) 0)
    prev[b.length]?

def similarity (a b : String) : Option ℚ :=
  let longest := max a.toList.length b.toList.length
  if longest = 0 then
    some 1
  else do
    let dist ← levenshtein a b
    some (1 - dist / longest)

/-- `lowercase` is the one of Unicode. -/
def normalize (lowercase : String → String) (text : String) : String :=
  let words := (lowercase (trim text)).toList.splitOnP isWhitespace
  " ".intercalate ((words.filter (!·.isEmpty)).map String.ofList)

def isVowel (char : Char) : Bool := "aeiouy".toList.contains char

def looksRandom (norm : String) : Option String :=
  let letters := norm.toList.filter Char.isAlpha
  let digits := norm.toList.countP Char.isDigit
  let total := norm.toList.countP (!isWhitespace ·)
  let digitRatio : ℚ := digits / total
  let vowelRatio : ℚ := letters.countP isVowel / letters.length
  if total < 5 then
    none
  else if 1 / 2 < digitRatio then
    some ("mostly digits (" ++ toString ⌊digitRatio * 100⌋.toNat ++ "%)")
  else if letters.length < 5 then
    none
  else if vowelRatio < 15 / 100 then
    some "no vowels (likely random)"
  else if 6 ≤ letters.length && letters.dedup.length ≤ 2 then
    some "very low character variety"
  else
    none

def assessName (lowercase : String → String) (name : String)
    (recent : List String) : Option NameVerdict :=
  let norm := normalize lowercase name
  if norm.toList.isEmpty then
    some .ok
  else
    match looksRandom norm with
    | some reason => some (.suspicious reason)
    | none => do
        let scores ← recent.mapM fun other =>
          similarity norm (normalize lowercase other)
        let count := scores.countP (similar ≤ ·)
        if spamCluster ≤ count then
          some (.suspicious ("low-variance name (≈" ++ toString count ++
            " near-identical recent channels)"))
        else
          some .ok

section Rows

open EditDistance

variable {symbol : Char} {source done rest : List Char} {prev cur : List ℕ}

/-- A finished row: the distances of what is read of the source to all prefixes
of the target. -/
def Row (source target : List Char) (row : List ℕ) : Prop :=
  row.length = target.length + 1 ∧
    ∀ column ≤ target.length,
      row[column]? = some (distance source (target.take column))

private theorem row_range (target : List Char) :
    Row [] target (List.range (target.length + 1)) := by
  refine ⟨List.length_range, fun column inside => ?_⟩
  rw [distance_nil_left, List.length_take, Nat.min_eq_left inside,
    List.getElem?_range (by omega)]

theorem Row.last {source target : List Char} {row : List ℕ}
    (finished : Row source target row) :
    row[target.length]? = some (distance source target) := by
  rw [finished.2 _ (Nat.le_refl _), List.take_length]

private theorem fillRow_cell (other : Char) :
    min (min (distance source (done ++ [other]) + 1)
        (distance (source ++ [symbol]) done + 1))
      (distance source done + if symbol ≠ other then 1 else 0) =
    distance (source ++ [symbol]) (done ++ [other]) := by
  rw [distance_concat]
  simp [cost]

private theorem fillRow_row (above : Row source (done ++ rest) prev)
    (width : cur.length = (done ++ rest).length + 1)
    (filled : ∀ column ≤ done.length, cur[column]? =
      some (distance (source ++ [symbol]) ((done ++ rest).take column))) :
    ∃ row, fillRow symbol prev done.length rest cur = some row ∧
      Row (source ++ [symbol]) (done ++ rest) row := by
  induction rest generalizing done cur with
  | nil =>
      refine ⟨cur, rfl, width, fun column inside => ?_⟩
      rw [List.append_nil] at inside
      exact filled column inside
  | cons other rest induction =>
      have split : done ++ other :: rest = (done ++ [other]) ++ rest := by
        simp
      have size : (done ++ [other]).length = done.length + 1 := by simp
      have taken : (done ++ other :: rest).take done.length = done :=
        List.take_left
      have takenNext : (done ++ other :: rest).take (done.length + 1) =
          done ++ [other] := by
        rw [split, ← size]
        exact List.take_left
      have next := above.2 (done.length + 1) (by simp)
      have diagonal := above.2 done.length (by simp)
      have left := filled done.length (Nat.le_refl _)
      rw [takenNext] at next
      rw [taken] at diagonal left
      have room : done.length + 1 < cur.length := by
        rw [width]
        simp
      rw [fillRow]
      simp only [next, left, diagonal, Option.bind_eq_bind,
        Option.bind_some, guard, room, if_true, Option.pure_def]
      rw [fillRow_cell, ← size, split]
      apply induction
      · rwa [← split]
      · rw [List.length_set, width, split]
      · intro column inside
        rw [size] at inside
        rw [List.getElem?_set]
        split_ifs with here
        · rw [← here, size, ← split, takenNext]
        · omega
        · rw [← split]
          exact filled column (by omega)

private theorem fillRows_row {columns : List Char} (target : List Char)
    (above : Row source columns prev)
    (width : cur.length = columns.length + 1) :
    ∃ row, fillRows columns source.length target prev cur = some row ∧
      Row (source ++ target) columns row := by
  induction target generalizing source prev cur with
  | nil =>
      rw [List.append_nil]
      exact ⟨prev, rfl, above⟩
  | cons symbol target induction =>
      have some_room : 0 < cur.length := by omega
      have first : ∀ column ≤ ([] : List Char).length,
          (cur.set 0 (source.length + 1))[column]? =
            some (distance (source ++ [symbol]) (columns.take column)) := by
        intro column inside
        have zero : column = 0 := Nat.le_zero.mp inside
        rw [zero, List.take_zero, distance_nil_right, List.length_append,
          List.getElem?_set_self some_room]
        rfl
      have fills : ∃ row, fillRow symbol prev ([] : List Char).length columns
          (cur.set 0 (source.length + 1)) = some row ∧
            Row (source ++ [symbol]) ([] ++ columns) row :=
        fillRow_row above (by rw [List.length_set, width, List.nil_append])
          first
      obtain ⟨row, ran, finished⟩ := fills
      have size : (source ++ [symbol]).length = source.length + 1 := by simp
      rw [List.length_nil] at ran
      rw [fillRows]
      simp only [guard, some_room, if_true, Option.pure_def,
        Option.bind_eq_bind, Option.bind_some, ran]
      have whole : source ++ symbol :: target =
          (source ++ [symbol]) ++ target := List.append_cons _ _ _
      rw [← size, whole]
      exact induction finished above.1

end Rows

section Metric

open EditDistance

private theorem levenshtein_eq (a b : String) :
    levenshtein a b = some (distance a.toList b.toList) := by
  simp only [levenshtein, List.isEmpty_iff]
  split_ifs with noSource noTarget
  · rw [noSource, distance_nil_left]
  · rw [noTarget, distance_nil_right]
  · obtain ⟨row, ran, finished⟩ := fillRows_row a.toList
      (row_range b.toList)
      (List.length_replicate (n := b.toList.length + 1) (a := 0))
    rw [List.nil_append] at finished
    rw [List.length_nil] at ran
    rw [ran]
    exact finished.last

/-- What `similarity` returns. -/
def score (a b : String) : ℚ :=
  1 - (distance a.toList b.toList : ℚ) /
    (max a.toList.length b.toList.length : ℕ)

private theorem similarity_eq (a b : String) :
    similarity a b = some (score a b) := by
  simp only [similarity]
  split_ifs with none
  · rw [score, none]
    simp
  · rw [levenshtein_eq]
    rfl

private theorem score_bounds (a b : String) :
    0 ≤ score a b ∧ score a b ≤ 1 := by
  have atMost : (distance a.toList b.toList : ℚ) /
      (max a.toList.length b.toList.length : ℕ) ≤ 1 :=
    div_le_one_of_le₀
      (Nat.cast_le.mpr (distance_le_max a.toList b.toList))
      (Nat.cast_nonneg _)
  exact ⟨sub_nonneg.mpr atMost, sub_le_self 1 (by positivity)⟩

private theorem dissimilar_eq_zero_iff (source target : List Char) :
    (distance source target : ℚ) /
        (max source.length target.length : ℕ) = 0 ↔ source = target := by
  constructor
  · intro zero
    rcases div_eq_zero_iff.mp zero with free | empty
    · exact distance_eq_zero_iff.mp (Nat.cast_eq_zero.mp free)
    · have lengths : max source.length target.length = 0 :=
        Nat.cast_eq_zero.mp empty
      rw [List.length_eq_zero_iff.mp (by omega : source.length = 0),
        List.length_eq_zero_iff.mp (by omega : target.length = 0)]
  · intro same
    rw [distance_eq_zero_iff.mpr same, Nat.cast_zero, zero_div]

private theorem score_eq_one_iff {a b : String} : score a b = 1 ↔ a = b := by
  rw [score, sub_eq_self, dissimilar_eq_zero_iff, String.toList_inj]

/-- What is counted is the cost of the cheapest way to turn one text into the
other. -/
theorem levenshtein_isLeast (a b : String) :
    ∃ dist, levenshtein a b = some dist ∧
      IsLeast {total | Alignment a.toList b.toList total} dist :=
  ⟨_, levenshtein_eq a b, isLeast_distance a.toList b.toList⟩

/-- The edit distance and what is made of it. -/
structure EditMetric (levenshtein : String → String → Option ℕ)
    (similarity : String → String → Option ℚ) : Prop where
  recursion : ∀ a b,
    levenshtein a b = some (distance a.toList b.toList)
  symmetric : ∀ a b, levenshtein a b = levenshtein b a
  triangle : ∀ a b c, ∃ direct first second,
    levenshtein a c = some direct ∧ levenshtein a b = some first ∧
      levenshtein b c = some second ∧ direct ≤ first + second
  zero : ∀ a b, levenshtein a b = some 0 ↔ a = b
  bounded : ∀ a b, ∃ dist, levenshtein a b = some dist ∧
    dist ≤ max a.toList.length b.toList.length
  unitInterval : ∀ a b, ∃ score, similarity a b = some score ∧
    0 ≤ score ∧ score ≤ 1
  one : ∀ a b, similarity a b = some 1 ↔ a = b

theorem levenshtein_metric : EditMetric levenshtein similarity where
  recursion := levenshtein_eq
  symmetric := by
    intro a b
    rw [levenshtein_eq, levenshtein_eq, distance_comm]
  triangle := fun a b c =>
    ⟨_, _, _, levenshtein_eq a c, levenshtein_eq a b, levenshtein_eq b c,
      distance_triangle a.toList b.toList c.toList⟩
  zero := by
    intro a b
    rw [levenshtein_eq, Option.some_inj, distance_eq_zero_iff,
      String.toList_inj]
  bounded := fun a b =>
    ⟨_, levenshtein_eq a b, distance_le_max a.toList b.toList⟩
  unitInterval := fun a b => ⟨_, similarity_eq a b, score_bounds a b⟩
  one := by
    intro a b
    rw [similarity_eq, Option.some_inj, score_eq_one_iff]

end Metric

section Cluster

variable (lowercase : String → String) (name : String)
  (recent : List String)

private theorem scores_eq (norm : String) :
    (recent.mapM fun other => similarity norm (normalize lowercase other)) =
      some (recent.map fun other =>
        score norm (normalize lowercase other)) := by
  simp only [similarity_eq]
  exact List.mapM_pure

theorem assessName_isSome :
    (assessName lowercase name recent).isSome = true := by
  simp only [assessName]
  split_ifs with empty
  · rfl
  · split
    · rfl
    · rw [scores_eq]
      simp only [Option.bind_eq_bind, Option.bind_some]
      split <;> rfl

theorem assessName_repeated
    (named : (normalize lowercase name).toList.isEmpty = false)
    (repeated : spamCluster ≤ recent.countP fun other =>
      normalize lowercase name = normalize lowercase other) :
    ∃ reason, assessName lowercase name recent =
      some (.suspicious reason) := by
  have counted : spamCluster ≤ (recent.map fun other =>
      score (normalize lowercase name)
        (normalize lowercase other)).countP (similar ≤ ·) := by
    rw [List.countP_map]
    refine repeated.trans (List.countP_mono_left fun other _ same => ?_)
    have equal := score_eq_one_iff.mpr (of_decide_eq_true same)
    simp only [Function.comp_apply, equal, decide_eq_true_eq]
    norm_num [similar]
  simp only [assessName, named, Bool.false_eq_true, if_false]
  split
  · exact ⟨_, rfl⟩
  · rw [scores_eq]
    simp only [Option.bind_eq_bind, Option.bind_some, counted, if_true]
    exact ⟨_, rfl⟩

end Cluster

end Names

end Accord
