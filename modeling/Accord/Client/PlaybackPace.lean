import Accord.Client.Playback
import Mathlib.Algebra.BigOperators.Group.List.Basic
import Mathlib.Tactic.NormNum

/-! The pace of the playback.  Each callback rounds up what it takes, so the
buffers run ahead of the clock of the device by a part of a sample a time. -/

namespace Accord

/-- The samples at 48 kHz that last as long as `frames` of the device. -/
def realSamples (rate frames : ℕ) : ℚ := (frames : ℚ) * sampleRate / rate

section Rounding

variable {rate : ℕ} (frames : ℕ)

private theorem realSamples_sampleRate :
    realSamples sampleRate frames = frames := by
  norm_num [realSamples, sampleRate]

private theorem realSamples_le_sourceSamples (rate : ℕ) :
    realSamples rate frames ≤ sourceSamples rate frames := by
  unfold sourceSamples
  split_ifs with same
  · rw [same, realSamples_sampleRate]
  · exact Nat.le_ceil _

private theorem ceil_div_le (part : ℕ) (positive : 0 < rate) :
    (⌈(part : ℚ) / rate⌉₊ : ℚ) ≤ part / rate + (1 - 1 / (rate : ℚ)) := by
  have cast : (0 : ℚ) < rate := by exact_mod_cast positive
  have below : ((⌈(part : ℚ) / rate⌉₊ : ℚ) - 1) * rate < part := by
    have ceil := Nat.ceil_lt_add_one (a := (part : ℚ) / rate) (by positivity)
    rw [← lt_div_iff₀ cast]
    linarith
  -- Both sides are whole numbers.
  have whole : ((⌈(part : ℚ) / rate⌉₊ : ℤ) - 1) * rate + 1 ≤ part := by
    rw [Int.add_one_le_iff]
    exact_mod_cast below
  have cleared : ((⌈(part : ℚ) / rate⌉₊ : ℚ) - 1) * rate + 1 ≤ part := by
    exact_mod_cast whole
  have divided : (⌈(part : ℚ) / rate⌉₊ : ℚ) - 1 ≤ ((part : ℚ) - 1) / rate := by
    rw [le_div_iff₀ cast]
    linarith
  rw [sub_div] at divided
  linarith

private theorem sourceSamples_le (positive : 0 < rate) :
    (sourceSamples rate frames : ℚ) ≤
      realSamples rate frames + (1 - 1 / (rate : ℚ)) := by
  unfold sourceSamples
  split_ifs with same
  · have rest : 1 / (rate : ℚ) ≤ 1 := by
      rw [div_le_one₀ (by exact_mod_cast positive)]
      exact_mod_cast positive
    have real : realSamples rate frames = frames := by
      rw [same, realSamples_sampleRate]
    rw [real]
    linarith
  · rw [realSamples, ← Nat.cast_mul]
    exact ceil_div_le _ positive

end Rounding

namespace Playback

variable {Sample : Type} {amplitude : Sample → ℚ} {rate : ℕ}

private theorem length_mixed (frames : ℕ) (playback : Playback Sample) :
    (playback.mixed amplitude rate frames).length =
      sourceSamples rate frames := by
  have kept (entries : List ((_ : String) × List Sample)) (slots : List ℚ) :
      (entries.foldl (fun slots entry =>
        if playback.deafened then slots
        else mixIn slots ((entry.2.take
          (takes rate frames entry.2)).map amplitude)) slots).length =
        slots.length := by
    induction entries generalizing slots with
    | nil => rfl
    | cons entry rest induction =>
        rw [List.foldl_cons, induction]
        split
        · rfl
        · exact length_mixIn slots _
  rw [mixed, kept, List.length_replicate]

private theorem le_length_fill (positive : 0 < rate) (frames : ℕ)
    (playback : Playback Sample) :
    frames ≤ (playback.fill amplitude rate frames).1.length := by
  have enough := realSamples_le_sourceSamples frames rate
  have cast : (0 : ℚ) < rate := by exact_mod_cast positive
  rw [realSamples, div_le_iff₀ cast] at enough
  have filled : (playback.fill amplitude rate frames).1.length =
      outLen (sourceSamples rate frames) sampleRate rate := by
    simp only [fill, List.length_map]
    rw [length_resample (by decide), length_mixed]
  rw [filled]
  exact le_outLen (by decide) enough

end Playback

def PlaybackEvent.frames? {Sample : Type} : PlaybackEvent Sample → Option ℕ
  | .fill frames => some frames
  | _ => none

section Pace

variable {Sample : Type} (amplitude : Sample → ℚ) (rate : ℕ)
  (deviceId : String)

/-- The frames that were asked for, callback after callback. -/
def callbacks (events : List (PlaybackEvent Sample)) : List ℕ :=
  events.filterMap PlaybackEvent.frames?

def consumed : Playback Sample → List (PlaybackEvent Sample) → ℕ
  | _, [] => 0
  | playback, event :: rest =>
      (playback.taken rate deviceId event).length +
        consumed (playback.step amplitude rate event) rest

def Stocked (playback : Playback Sample) (event : PlaybackEvent Sample) :
    Prop :=
  ∀ frames ∈ event.frames?,
    sourceSamples rate frames ≤ (playback.buffer deviceId).length

variable {amplitude rate deviceId}

private theorem consumed_eq {playback : Playback Sample}
    {events : List (PlaybackEvent Sample)}
    (stocked : EventRun.Each (Playback.step amplitude rate)
      (Stocked rate deviceId) playback events) :
    consumed amplitude rate deviceId playback events =
      ((callbacks events).map (sourceSamples rate)).sum := by
  induction events generalizing playback with
  | nil => rfl
  | cons event rest induction =>
      obtain ⟨now, later⟩ := stocked
      rw [consumed, induction later]
      cases event with
      | fill frames =>
          have held := now frames rfl
          have drained : (playback.taken rate deviceId
              (.fill frames)).length = sourceSamples rate frames := by
            rw [Playback.taken, List.length_take, takes]
            omega
          have asked : callbacks (.fill frames :: rest) =
              frames :: callbacks rest := rfl
          rw [drained, asked, List.map_cons, List.sum_cons]
      | push other samples => exact Nat.zero_add _
      | remove other => exact Nat.zero_add _
      | setDeafened on => exact Nat.zero_add _
      | setVolume volume => exact Nat.zero_add _

/-- Rounded up one by one, the callbacks add up to no more than a part of a
sample each. -/
private theorem sum_sourceSamples_bounds (positive : 0 < rate)
    (asked : List ℕ) :
    (asked.map (realSamples rate)).sum ≤
        ((asked.map (sourceSamples rate)).sum : ℕ) ∧
      ((asked.map (sourceSamples rate)).sum : ℚ) ≤
        (asked.map (realSamples rate)).sum +
          asked.length * (1 - 1 / (rate : ℚ)) := by
  induction asked with
  | nil => simp
  | cons frames rest induction =>
      have least := realSamples_le_sourceSamples frames rate
      have most := sourceSamples_le frames positive
      rw [List.map_cons, List.map_cons, List.sum_cons, List.sum_cons,
        List.length_cons, Nat.cast_add, Nat.cast_add_one]
      -- Of one callback only the bounds matter.
      generalize realSamples rate frames = real at *
      generalize sourceSamples rate frames = source at *
      constructor
      · linarith
      · linarith

/-- A run keeps pace up to the rounding of its callbacks. -/
structure Paced (amplitude : Sample → ℚ) (rate : ℕ) (deviceId : String)
    (playback : Playback Sample) (events : List (PlaybackEvent Sample)) :
    Prop where
  filled : ∀ (playback : Playback Sample) frames,
    frames ≤ (playback.fill amplitude rate frames).1.length
  least : ((callbacks events).map (realSamples rate)).sum ≤
    (consumed amplitude rate deviceId playback events : ℚ)
  most : (consumed amplitude rate deviceId playback events : ℚ) ≤
    ((callbacks events).map (realSamples rate)).sum +
      (callbacks events).length * (1 - 1 / (rate : ℚ))

theorem playback_paced (positive : 0 < rate) {playback : Playback Sample}
    {events : List (PlaybackEvent Sample)}
    (stocked : EventRun.Each (Playback.step amplitude rate)
      (Stocked rate deviceId) playback events) :
    Paced amplitude rate deviceId playback events := by
  have bounds := sum_sourceSamples_bounds positive (callbacks events)
  constructor
  · exact fun playback frames =>
      Playback.le_length_fill positive frames playback
  · rw [consumed_eq stocked]
    exact bounds.1
  · rw [consumed_eq stocked]
    exact bounds.2

end Pace

def twoCallbacks : List (PlaybackEvent ℚ) :=
  [.push "peer" (List.replicate 1116 0), .fill 512, .fill 512]

private theorem sourceSamples_512 : sourceSamples 44100 512 = 558 := by
  decide +kernel

private theorem stocked_twoCallbacks :
    EventRun.Each (Playback.step id 44100) (Stocked 44100 "peer") {}
      twoCallbacks := by
  have pushed : (Playback.push "peer" (List.replicate 1116 0)
      ({} : Playback ℚ)).buffer "peer" = List.replicate 1116 0 := by
    rw [Playback.buffer_push, if_pos rfl, park, BoundedQueue.park, if_neg]
    · rfl
    · rw [List.length_append, List.length_replicate]
      decide
  refine ⟨?_, ?_, ?_, trivial⟩
  · intro frames asked
    cases asked
  · intro frames asked
    cases asked
    change sourceSamples 44100 512 ≤ (Playback.buffer (Playback.push _ _ _)
      "peer").length
    rw [pushed, sourceSamples_512, List.length_replicate]
    decide
  · intro frames asked
    cases asked
    change sourceSamples 44100 512 ≤ (Playback.buffer
      (Playback.fill id 44100 512 (Playback.push _ _ _)).2 "peer").length
    rw [Playback.buffer_fill, pushed, List.length_drop, takes,
      sourceSamples_512, List.length_replicate]
    decide

theorem playback_paced_twoCallbacks :
    Paced id 44100 "peer" {} twoCallbacks :=
  playback_paced (by decide) stocked_twoCallbacks

/-- They take 1116 samples where the clock asks for less than 1115. -/
theorem playback_ahead :
    ¬∀ (rate : ℕ) (playback : Playback ℚ)
      (events : List (PlaybackEvent ℚ)) (deviceId : String), 0 < rate →
      EventRun.Each (Playback.step id rate) (Stocked rate deviceId) playback
        events →
      (∀ (playback : Playback ℚ) frames,
        frames ≤ (playback.fill id rate frames).1.length) ∧
      (consumed id rate deviceId playback events : ℚ) ≤
        ((callbacks events).map (realSamples rate)).sum + 1 := by
  intro paced
  have ahead := (paced 44100 {} twoCallbacks "peer" (by decide)
    stocked_twoCallbacks).2
  have asked : callbacks twoCallbacks = [512, 512] := rfl
  rw [consumed_eq stocked_twoCallbacks, asked] at ahead
  simp only [List.map_cons, List.map_nil, List.sum_cons, List.sum_nil,
    sourceSamples_512, realSamples, sampleRate] at ahead
  norm_num at ahead

end Accord
