import Accord.Client.Resample
import Accord.Library.BoundedQueue
import Accord.Library.EventRun
import Accord.Library.Nested

/-! The audio buffers of a call.  Playback has one for each peer, filled from
the network and emptied by the callbacks of the speakers. -/

namespace Accord

def frameSamples : ℕ := sampleRate / 1000 * 20

def maxBuffer : ℕ := sampleRate

/-- The samples of a buffer are only moved, so their type is left open; what
each of them sounds like is its amplitude. -/
structure Playback (Sample : Type) where
  peers : Mapping String (List Sample) := ∅
  deafened : Bool := false
  volume : ℚ := 1

inductive PlaybackEvent (Sample : Type) where
  | push (deviceId : String) (samples : List Sample)
  | fill (frames : ℕ)
  | remove (deviceId : String)
  | setDeafened (on : Bool)
  | setVolume (volume : ℚ)

/-- How many samples at 48 kHz make `frames` at the rate of the device. -/
def sourceSamples (rate frames : ℕ) : ℕ :=
  if rate = sampleRate then frames
  else ⌈(frames : ℚ) * sampleRate / rate⌉₊

def clamp (low high sample : ℚ) : ℚ := max low (min high sample)

def mixIn : List ℚ → List ℚ → List ℚ
  | slot :: slots, sample :: samples => (slot + sample) :: mixIn slots samples
  | slots, _ => slots

section Buffer

variable {Sample : Type}

/-- `extend_from_slice`, and the oldest samples go when there are too many. -/
def park (buffer samples : List Sample) : List Sample :=
  BoundedQueue.park maxBuffer (frameSamples * 2) buffer samples

/-- How many samples `fill` drains from a buffer. -/
def takes (rate frames : ℕ) (buffer : List Sample) : ℕ :=
  min buffer.length (sourceSamples rate frames)

end Buffer

namespace Playback

variable {Sample : Type} (amplitude : Sample → ℚ) (rate : ℕ)

def buffer (playback : Playback Sample) (deviceId : String) : List Sample :=
  (AList.lookup deviceId playback.peers).getD []

def push (deviceId : String) (samples : List Sample)
    (playback : Playback Sample) : Playback Sample :=
  { playback with
    peers := AList.insert deviceId
      (park (playback.buffer deviceId) samples) playback.peers }

def remove (deviceId : String) (playback : Playback Sample) :
    Playback Sample :=
  { playback with peers := AList.erase deviceId playback.peers }

/-- Deafened, nothing is mixed, but the buffers are drained. -/
def mixed (frames : ℕ) (playback : Playback Sample) : List ℚ :=
  playback.peers.entries.foldl
    (fun slots entry =>
      if playback.deafened then slots
      else mixIn slots
        ((entry.2.take (takes rate frames entry.2)).map amplitude))
    (List.replicate (sourceSamples rate frames) 0)

def fill (frames : ℕ) (playback : Playback Sample) :
    List ℚ × Playback Sample :=
  let output := resample (playback.mixed amplitude rate frames) sampleRate rate
  (output.map fun sample => clamp (-1) 1 (sample * playback.volume),
    { playback with
      peers := playback.peers.mapValues fun buffer =>
        buffer.drop (takes rate frames buffer) })

def step (playback : Playback Sample) :
    PlaybackEvent Sample → Playback Sample
  | .push deviceId samples => playback.push deviceId samples
  | .fill frames => (playback.fill amplitude rate frames).2
  | .remove deviceId => playback.remove deviceId
  | .setDeafened on => { playback with deafened := on }
  | .setVolume volume => { playback with volume := volume }

def taken (playback : Playback Sample) (deviceId : String) :
    PlaybackEvent Sample → List Sample
  | .fill frames =>
      (playback.buffer deviceId).take
        (takes rate frames (playback.buffer deviceId))
  | _ => []

end Playback

theorem length_mixIn (slots samples : List ℚ) :
    (mixIn slots samples).length = slots.length := by
  induction slots generalizing samples with
  | nil => cases samples <;> rfl
  | cons slot slots induction =>
      cases samples with
      | nil => rfl
      | cons sample samples =>
          rw [mixIn, List.length_cons, List.length_cons, induction]

namespace Playback

section Steps

variable {Sample : Type} {amplitude : Sample → ℚ} {rate : ℕ}
  (playback : Playback Sample) (deviceId : String)

theorem buffer_push (other : String) (samples : List Sample) :
    (playback.push other samples).buffer deviceId =
      if deviceId = other then park (playback.buffer deviceId) samples
      else playback.buffer deviceId := by
  unfold buffer push
  rw [Mapping.lookup_insert_eq]
  split
  · rename_i same
    rw [same]
    rfl
  · rfl

private theorem buffer_remove (other : String) :
    (playback.remove other).buffer deviceId =
      if deviceId = other then [] else playback.buffer deviceId := by
  unfold buffer remove
  rw [Mapping.lookup_erase_eq]
  split <;> rfl

theorem buffer_fill (frames : ℕ) :
    ((playback.fill amplitude rate frames).2).buffer deviceId =
      (playback.buffer deviceId).drop
        (takes rate frames (playback.buffer deviceId)) := by
  unfold buffer fill
  rw [Mapping.lookup_mapValues]
  cases AList.lookup deviceId playback.peers with
  | none => rfl
  | some samples => rfl

private theorem peers_fill_deafened (frames : ℕ) (on : Bool) :
    (({ playback with deafened := on }.fill amplitude rate frames).2).peers =
      ((playback.fill amplitude rate frames).2).peers :=
  rfl

/-- An event that is about a peer, as a fill is about all of them. -/
def Concerns (deviceId : String) : PlaybackEvent Sample → Prop
  | .push other _ => deviceId = other
  | .fill _ => True
  | .remove other => deviceId = other
  | .setDeafened _ => False
  | .setVolume _ => False

private theorem buffer_step_other {event : PlaybackEvent Sample}
    (other : ¬Concerns deviceId event) :
    (step amplitude rate playback event).buffer deviceId =
      playback.buffer deviceId := by
  cases event with
  | push pushed samples =>
      rw [step, buffer_push]
      exact if_neg other
  | fill frames => exact absurd trivial other
  | remove removed =>
      rw [step, buffer_remove]
      exact if_neg other
  | setDeafened on => rfl
  | setVolume volume => rfl

end Steps

end Playback

/-- What was pushed for a peer and what was taken of it, since the peer was
removed last. -/
structure PeerAudio (Sample : Type) where
  pushed : List Sample := []
  taken : List Sample := []

structure WatchedPlayback (Sample : Type) where
  playback : Playback Sample
  audio : String → PeerAudio Sample := fun _ => {}

section Fifo

variable {Sample : Type} (amplitude : Sample → ℚ) (rate : ℕ)

def PeerAudio.after (audio : PeerAudio Sample) (playback : Playback Sample)
    (deviceId : String) : PlaybackEvent Sample → PeerAudio Sample
  | .push other samples =>
      if deviceId = other then
        { audio with pushed := audio.pushed ++ samples }
      else
        audio
  | .remove other => if deviceId = other then {} else audio
  | event =>
      { audio with
        taken := audio.taken ++ playback.taken rate deviceId event }

def WatchedPlayback.step (watched : WatchedPlayback Sample)
    (event : PlaybackEvent Sample) : WatchedPlayback Sample where
  playback := Playback.step amplitude rate watched.playback event
  audio deviceId :=
    (watched.audio deviceId).after rate watched.playback deviceId event

def Fifo (watched : WatchedPlayback Sample) (deviceId : String) : Prop :=
  BoundedQueue.Kept maxBuffer (watched.audio deviceId).pushed
    (watched.audio deviceId).taken (watched.playback.buffer deviceId)

variable {amplitude} {rate} {watched : WatchedPlayback Sample}
  {deviceId : String}

private theorem fifo_new (volume : ℚ) (deviceId : String) :
    Fifo ({ playback := { volume := volume } } : WatchedPlayback Sample)
      deviceId :=
  .nil

theorem Fifo.push (fifo : Fifo watched deviceId) (samples : List Sample) :
    Fifo (watched.step amplitude rate (.push deviceId samples)) deviceId := by
  unfold Fifo
  simp only [WatchedPlayback.step, Playback.step, Playback.buffer_push,
    PeerAudio.after, if_true]
  exact fifo.park (by decide) samples

/-- What a fill drains goes from the front of the buffer to the record. -/
theorem Fifo.fill (fifo : Fifo watched deviceId) (frames : ℕ) :
    Fifo (watched.step amplitude rate (.fill frames)) deviceId := by
  unfold Fifo
  simp only [WatchedPlayback.step, Playback.step, Playback.buffer_fill]
  exact fifo.take _

theorem Fifo.remove :
    Fifo (watched.step amplitude rate (.remove deviceId)) deviceId := by
  unfold Fifo
  simp only [WatchedPlayback.step, Playback.step, Playback.buffer_remove,
    PeerAudio.after, if_true]
  exact .nil

theorem Fifo.of_same (fifo : Fifo watched deviceId)
    {event : PlaybackEvent Sample}
    (sameBuffer : (Playback.step amplitude rate watched.playback
      event).buffer deviceId = watched.playback.buffer deviceId)
    (sameAudio : (watched.audio deviceId).after rate watched.playback
      deviceId event = watched.audio deviceId) :
    Fifo (watched.step amplitude rate event) deviceId := by
  unfold Fifo
  simp only [WatchedPlayback.step, sameBuffer, sameAudio]
  exact fifo

theorem Fifo.step (fifo : Fifo watched deviceId)
    (event : PlaybackEvent Sample) :
    Fifo (watched.step amplitude rate event) deviceId := by
  by_cases concerns : Playback.Concerns deviceId event
  · cases event with
    | push other samples =>
        cases concerns
        exact fifo.push samples
    | fill frames => exact fifo.fill frames
    | remove other =>
        cases concerns
        exact .remove
    | setDeafened on => exact concerns.elim
    | setVolume volume => exact concerns.elim
  · refine fifo.of_same (Playback.buffer_step_other _ _ concerns) ?_
    cases event with
    | push other samples => exact if_neg concerns
    | fill frames => exact absurd trivial concerns
    | remove other => exact if_neg concerns
    | setDeafened on => simp [PeerAudio.after, Playback.taken]
    | setVolume volume => simp [PeerAudio.after, Playback.taken]

theorem Fifo.run (fifo : Fifo watched deviceId)
    (events : List (PlaybackEvent Sample)) :
    Fifo (EventRun.run (WatchedPlayback.step amplitude rate) watched events)
      deviceId := by
  have kept (watched : WatchedPlayback Sample) (event : PlaybackEvent Sample)
      (fifo : Fifo watched deviceId) :
      Fifo (watched.step amplitude rate event) deviceId := fifo.step event
  exact (EventRun.always_of_kept kept fifo events).last

variable (amplitude rate)

/-- What is promised of the buffers, for samples of any kind, so that no two
need be the same. -/
structure BoundedFifos : Prop where
  run : ∀ volume events deviceId,
    Fifo (EventRun.run (WatchedPlayback.step amplitude rate)
      { playback := { volume := volume } } events) deviceId
  once : ∀ volume events deviceId,
    let watched := EventRun.run (WatchedPlayback.step amplitude rate)
      { playback := { volume := volume } } events
    (watched.audio deviceId).pushed.Nodup →
      (watched.audio deviceId).taken.Nodup
  deafened : ∀ (playback : Playback Sample) deviceId frames on,
    { playback with deafened := on }.taken rate deviceId (.fill frames) =
        playback.taken rate deviceId (.fill frames) ∧
      ({ playback with deafened := on }.fill amplitude rate frames).2.peers =
        (playback.fill amplitude rate frames).2.peers
  front : ∀ (playback : Playback Sample) deviceId frames,
    playback.buffer deviceId =
      playback.taken rate deviceId (.fill frames) ++
        (playback.fill amplitude rate frames).2.buffer deviceId
  others : ∀ (playback : Playback Sample) deviceId event,
    ¬Playback.Concerns deviceId event →
      (playback.step amplitude rate event).buffer deviceId =
        playback.buffer deviceId

theorem playback_fifos : BoundedFifos amplitude rate where
  run := fun volume events deviceId =>
    (fifo_new volume deviceId).run events
  once := by
    intro volume events deviceId watched distinct
    exact ((fifo_new volume deviceId).run events).taken_nodup distinct
  deafened := fun playback _ frames on =>
    ⟨rfl, playback.peers_fill_deafened frames on⟩
  front := by
    intro playback deviceId frames
    rw [Playback.buffer_fill]
    exact (List.take_append_drop _ _).symm
  others := fun playback deviceId _ =>
    Playback.buffer_step_other playback deviceId

end Fifo

/-! The other end: what the microphone has captured. -/

structure MicCapture where
  pending : List ℚ := []
  muted : Bool := false
  gain : ℚ := 1

namespace MicCapture

def ingest (rate : ℕ) (mono : List ℚ) (mic : MicCapture) : MicCapture :=
  if mic.muted then
    mic
  else
    { mic with
      pending := park mic.pending
        (resample (mono.map (· * mic.gain)) rate sampleRate) }

def nextFrame (mic : MicCapture) : Option (List ℚ) × MicCapture :=
  if mic.pending.length < frameSamples then
    (none, mic)
  else
    (some (mic.pending.take frameSamples),
      { mic with pending := mic.pending.drop frameSamples })

/-- What the callback captures: nothing while it is muted. -/
def captures (rate : ℕ) (mono : List ℚ) (mic : MicCapture) : List ℚ :=
  if mic.muted then [] else resample (mono.map (· * mic.gain)) rate sampleRate

end MicCapture

inductive MicEvent where
  | ingest (rate : ℕ) (mono : List ℚ)
  | nextFrame
  | setMuted (on : Bool)
  | setGain (gain : ℚ)

/-- The microphone, with what it has captured and the frames that went to the
encoder. -/
structure MicRecord where
  mic : MicCapture := {}
  captured : List ℚ := []
  frames : List (List ℚ) := []

namespace MicRecord

def step (record : MicRecord) : MicEvent → MicRecord
  | .ingest rate mono =>
      { record with
        mic := record.mic.ingest rate mono
        captured := record.captured ++ record.mic.captures rate mono }
  | .nextFrame =>
      { record with
        mic := record.mic.nextFrame.2
        frames := record.frames ++ record.mic.nextFrame.1.toList }
  | .setMuted on => { record with mic := { record.mic with muted := on } }
  | .setGain gain => { record with mic := { record.mic with gain } }

/-- The frames are full and hold what was captured, in its order and each
sample once, and not too much waits. -/
structure InOrder (record : MicRecord) : Prop where
  kept : BoundedQueue.Kept maxBuffer record.captured record.frames.flatten
    record.mic.pending
  full : ∀ frame ∈ record.frames, frame.length = frameSamples

variable {record : MicRecord}

private theorem InOrder.ingest (ordered : record.InOrder) (rate : ℕ)
    (mono : List ℚ) : (record.step (.ingest rate mono)).InOrder where
  kept := by
    simp only [step, MicCapture.ingest, MicCapture.captures]
    split
    · rw [List.append_nil]
      exact ordered.kept
    · exact ordered.kept.park (by decide) _
  full := ordered.full

private theorem InOrder.nextFrame (ordered : record.InOrder) :
    (record.step .nextFrame).InOrder := by
  simp only [step, MicCapture.nextFrame]
  split
  · simpa using ordered
  · rename_i filled
    constructor
    · simpa using ordered.kept.take frameSamples
    · intro frame listed
      rcases List.mem_append.mp listed with earlier | last
      · exact ordered.full frame earlier
      · rw [List.mem_singleton.mp last, List.length_take]
        omega

theorem InOrder.step (record : MicRecord) (event : MicEvent)
    (ordered : record.InOrder) : (record.step event).InOrder := by
  cases event with
  | ingest rate mono => exact ordered.ingest rate mono
  | nextFrame => exact ordered.nextFrame
  | setMuted on => exact ⟨ordered.kept, ordered.full⟩
  | setGain gain => exact ⟨ordered.kept, ordered.full⟩

theorem run_inOrder (events : List MicEvent) :
    EventRun.Always MicRecord.step InOrder {} events :=
  EventRun.always_of_kept InOrder.step ⟨.nil, by simp⟩ events

end MicRecord

end Accord
