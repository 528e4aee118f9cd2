import Mathlib.Algebra.Order.Round
import Mathlib.Data.Rat.Floor
import Mathlib.Tactic.Positivity
import Mathlib.Tactic.Linarith
import Mathlib.Tactic.FieldSimp

/-! Linear resampling.  The numbers are exact here. -/

namespace Accord

def sampleRate : ℕ := 48000

def outLen (len fromRate toRate : ℕ) : ℕ :=
  (round ((len : ℚ) * ((toRate : ℚ) / fromRate))).toNat

def sourcePosition (fromRate toRate index : ℕ) : ℚ :=
  (index : ℚ) / ((toRate : ℚ) / fromRate)

def interpolate (input : List ℚ) (position : ℚ) : ℚ :=
  let index := ⌊position⌋.toNat
  let fraction := position - ⌊position⌋
  let left := input[index]?.getD 0
  let right := input[index + 1]?.getD left
  left + (right - left) * fraction

def resample (input : List ℚ) (fromRate toRate : ℕ) : List ℚ :=
  if fromRate = toRate ∨ input = [] then
    input
  else
    (List.range (outLen input.length fromRate toRate)).map fun index =>
      interpolate input (sourcePosition fromRate toRate index)

section Range

variable {input : List ℚ} {fromRate toRate : ℕ}

private theorem outLen_eq (len fromRate toRate : ℕ) :
    (outLen len fromRate toRate : ℤ) =
      round ((len : ℚ) * toRate / fromRate) := by
  have nonneg : 0 ≤ round ((len : ℚ) * ((toRate : ℚ) / fromRate)) := by
    rw [round_eq]
    positivity
  rw [outLen, Int.toNat_of_nonneg nonneg, mul_div_assoc]

private theorem outLen_self (positive : 0 < fromRate) (len : ℕ) :
    outLen len fromRate fromRate = len := by
  have unit : (fromRate : ℚ) / fromRate = 1 :=
    div_self (Nat.cast_ne_zero.mpr positive.ne')
  rw [outLen, unit, mul_one, round_natCast, Int.toNat_natCast]

theorem le_outLen {len frames : ℕ} (positive : 0 < fromRate)
    (enough : (frames : ℚ) * fromRate ≤ len * toRate) :
    frames ≤ outLen len fromRate toRate := by
  have clock : (0 : ℚ) < fromRate := by exact_mod_cast positive
  have covered : (frames : ℚ) ≤ (len : ℚ) * toRate / fromRate := by
    rwa [le_div_iff₀ clock]
  have length : (frames : ℤ) ≤ outLen len fromRate toRate := by
    rw [outLen_eq, round_eq, Int.le_floor]
    push_cast
    linarith
  exact_mod_cast length

theorem length_resample (positive : 0 < fromRate) :
    (resample input fromRate toRate).length =
      outLen input.length fromRate toRate := by
  unfold resample
  split_ifs with short
  · rcases short with rfl | rfl
    · rw [outLen_self positive]
    · simp [outLen]
  · rw [List.length_map, List.length_range]

private theorem sourcePosition_lt {len index : ℕ} (fromPositive : 0 < fromRate)
    (toPositive : 0 < toRate) (inside : index < outLen len fromRate toRate) :
    sourcePosition fromRate toRate index < len := by
  have ratio : (0 : ℚ) < (toRate : ℚ) / fromRate := by positivity
  have below : (index : ℤ) + 1 ≤
      ⌊(len : ℚ) * ((toRate : ℚ) / fromRate) + 1 / 2⌋ := by
    rw [← round_eq]
    unfold outLen at inside
    omega
  have rounded := Int.le_floor.mp below
  push_cast at rounded
  rw [sourcePosition, div_lt_iff₀ ratio]
  linarith

private theorem floor_sourcePosition_lt {len index : ℕ}
    (fromPositive : 0 < fromRate)
    (toPositive : 0 < toRate) (inside : index < outLen len fromRate toRate) :
    ⌊sourcePosition fromRate toRate index⌋.toNat < len := by
  have position := sourcePosition_lt fromPositive toPositive inside
  have below : ⌊sourcePosition fromRate toRate index⌋ < (len : ℤ) :=
    Int.floor_lt.mpr (by exact_mod_cast position)
  have nonneg : 0 ≤ ⌊sourcePosition fromRate toRate index⌋ := by
    unfold sourcePosition
    positivity
  omega

private theorem lerp_between (left right : ℚ) {fraction : ℚ}
    (nonneg : 0 ≤ fraction) (atMost : fraction ≤ 1) :
    (left ≤ left + (right - left) * fraction ∨
        right ≤ left + (right - left) * fraction) ∧
      (left + (right - left) * fraction ≤ left ∨
        left + (right - left) * fraction ≤ right) := by
  rcases le_total left right with rising | falling
  · exact ⟨.inl (by nlinarith), .inr (by nlinarith)⟩
  · exact ⟨.inr (by nlinarith), .inl (by nlinarith)⟩

private theorem interpolate_between {position : ℚ}
    (inside : ⌊position⌋.toNat < input.length) :
    (∃ low ∈ input, low ≤ interpolate input position) ∧
      ∃ high ∈ input, interpolate input position ≤ high := by
  have left : input[⌊position⌋.toNat]? = some input[⌊position⌋.toNat] :=
    List.getElem?_eq_getElem inside
  have leftMember : input[⌊position⌋.toNat] ∈ input :=
    List.getElem_mem inside
  -- Past the end the left sample is taken twice.
  have right : ∃ other ∈ input,
      input[⌊position⌋.toNat + 1]?.getD input[⌊position⌋.toNat] = other := by
    cases next : input[⌊position⌋.toNat + 1]? with
    | none => exact ⟨_, leftMember, rfl⟩
    | some other => exact ⟨other, List.mem_of_getElem? next, rfl⟩
  obtain ⟨other, rightMember, rightIs⟩ := right
  obtain ⟨above, below⟩ := lerp_between input[⌊position⌋.toNat] other
    (Int.fract_nonneg position) (Int.fract_lt_one position).le
  simp only [interpolate, left, Option.getD_some, rightIs]
  constructor
  · rcases above with least | least
    · exact ⟨_, leftMember, least⟩
    · exact ⟨_, rightMember, least⟩
  · rcases below with most | most
    · exact ⟨_, leftMember, most⟩
    · exact ⟨_, rightMember, most⟩

/-- The output of a resampling: its length, that each of its samples comes from
inside the input, and that none is louder than the input. -/
structure Resampled (input : List ℚ) (fromRate toRate : ℕ)
    (output : List ℚ) : Prop where
  length : (output.length : ℤ) =
    round ((input.length : ℚ) * toRate / fromRate)
  indexed : ∀ index < output.length,
    ⌊sourcePosition fromRate toRate index⌋.toNat < input.length
  between : ∀ sample ∈ output,
    (∃ low ∈ input, low ≤ sample) ∧ ∃ high ∈ input, sample ≤ high

theorem resample_resampled (input : List ℚ) (fromPositive : 0 < fromRate)
    (toPositive : 0 < toRate) :
    Resampled input fromRate toRate (resample input fromRate toRate) where
  length := by
    rw [length_resample fromPositive, outLen_eq]
  indexed := by
    intro index inside
    rw [length_resample fromPositive] at inside
    exact floor_sourcePosition_lt fromPositive toPositive inside
  between := by
    intro sample member
    unfold resample at member
    split_ifs at member with short
    · exact ⟨⟨sample, member, le_refl sample⟩, sample, member, le_refl sample⟩
    · obtain ⟨index, inside, rfl⟩ := List.mem_map.mp member
      exact interpolate_between (floor_sourcePosition_lt fromPositive
        toPositive (List.mem_range.mp inside))

theorem resample_resampled_tone :
    Resampled [0, 1, -1] 44100 48000 (resample [0, 1, -1] 44100 48000) :=
  resample_resampled [0, 1, -1] (by decide) (by decide)

end Range

end Accord
