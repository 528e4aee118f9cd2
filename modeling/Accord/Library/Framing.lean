import Mathlib.Data.List.Infix

/-! Logs of records, each behind a header that tells its size. -/

/-- A header of a fixed width stands for a tag and a size below a bound. -/
structure Framing (Symbol Tag : Type) where
  width : ℕ
  bound : ℕ
  header : Tag → ℕ → List Symbol
  parse : List Symbol → Tag × ℕ
  width_pos : 0 < width
  length_header : ∀ tag size, (header tag size).length = width
  parse_header : ∀ tag size, size < bound →
    parse (header tag size) = (tag, size)
  parse_lt : ∀ symbols, symbols.length = width → (parse symbols).2 < bound
  header_parse : ∀ symbols, symbols.length = width →
    header (parse symbols).1 (parse symbols).2 = symbols

namespace Framing

variable {Symbol Tag : Type} (framing : Framing Symbol Tag)

def frame (record : Tag × List Symbol) : List Symbol :=
  framing.header record.1 record.2.length ++ record.2

def frames (records : List (Tag × List Symbol)) : List Symbol :=
  records.flatMap framing.frame

def Fits (record : Tag × List Symbol) : Prop :=
  record.2.length < framing.bound

def split (log : List Symbol) :
    Option ((Tag × List Symbol) × List Symbol) :=
  let found := framing.parse (log.take framing.width)
  if framing.width ≤ log.length ∧ framing.width + found.2 ≤ log.length then
    some ((found.1, (log.drop framing.width).take found.2),
      (log.drop framing.width).drop found.2)
  else none

def readWith : ℕ → List Symbol → List (Tag × List Symbol)
  | 0, _ => []
  | fuel + 1, log =>
      match framing.split log with
      | none => []
      | some (record, rest) => record :: readWith fuel rest

def read (log : List Symbol) : List (Tag × List Symbol) :=
  framing.readWith log.length log

/-- The log has the record at the place, and it is read there. -/
def ReturnsAt (log : List Symbol) (place : ℕ)
    (record : Tag × List Symbol) : Prop :=
  ∃ front, front ++ [record] <+: framing.read log ∧
    (framing.frames front).length = place

variable {framing} {log more : List Symbol}
  {record : Tag × List Symbol} {records : List (Tag × List Symbol)}

@[simp] theorem frames_nil : framing.frames [] = [] := rfl

@[simp] theorem frames_cons (record : Tag × List Symbol)
    (records : List (Tag × List Symbol)) :
    framing.frames (record :: records) =
      framing.frame record ++ framing.frames records :=
  List.flatMap_cons

@[simp] theorem frames_append (first second : List (Tag × List Symbol)) :
    framing.frames (first ++ second) =
      framing.frames first ++ framing.frames second :=
  List.flatMap_append

theorem frames_mono {front : List (Tag × List Symbol)}
    (starts : front <+: records) :
    framing.frames front <+: framing.frames records := by
  obtain ⟨back, rfl⟩ := starts
  rw [frames_append]
  exact List.prefix_append _ _

theorem length_frame (record : Tag × List Symbol) :
    (framing.frame record).length = framing.width + record.2.length := by
  rw [frame, List.length_append, framing.length_header]

theorem length_frame_pos (record : Tag × List Symbol) :
    0 < (framing.frame record).length := by
  rw [length_frame]
  exact Nat.add_pos_left framing.width_pos _

theorem split_eq_some_iff {rest : List Symbol} :
    framing.split log = some (record, rest) ↔
      framing.Fits record ∧ log = framing.frame record ++ rest := by
  constructor
  · intro found
    unfold split at found
    dsimp only at found
    split at found
    · rename_i enough
      have wide : (log.take framing.width).length = framing.width :=
        List.length_take_of_le enough.1
      have small := framing.parse_lt _ wide
      have back := framing.header_parse _ wide
      generalize framing.parse (log.take framing.width) = found' at *
      cases found
      have size : ((log.drop framing.width).take found'.2).length =
          found'.2 := by
        rw [List.length_take, List.length_drop]
        omega
      refine ⟨size.trans_lt small, ?_⟩
      rw [frame, size, back, List.append_assoc, List.take_append_drop,
        List.take_append_drop]
    · cases found
  · rintro ⟨fits, rfl⟩
    have front : (framing.frame record ++ rest).take framing.width =
        framing.header record.1 record.2.length := by
      rw [frame, List.append_assoc]
      exact List.take_left' (framing.length_header _ _)
    have back : (framing.frame record ++ rest).drop framing.width =
        record.2 ++ rest := by
      rw [frame, List.append_assoc]
      exact List.drop_left' (framing.length_header _ _)
    unfold split
    dsimp only
    rw [front, back, framing.parse_header _ _ fits, if_pos]
    · rw [List.take_left, List.drop_left]
    · rw [List.length_append, length_frame]
      omega

theorem length_lt_of_split {rest : List Symbol}
    (found : framing.split log = some (record, rest)) :
    rest.length < log.length := by
  obtain ⟨_, rfl⟩ := split_eq_some_iff.mp found
  rw [List.length_append]
  exact Nat.lt_add_of_pos_left (length_frame_pos record)

theorem split_nil : framing.split [] = none := by
  have positive := framing.width_pos
  unfold split
  dsimp only
  rw [if_neg]
  rw [List.length_nil]
  omega

theorem readWith_eq {fuel other : ℕ} (enough : log.length ≤ fuel)
    (also : log.length ≤ other) :
    framing.readWith fuel log = framing.readWith other log := by
  induction fuel generalizing other log with
  | zero =>
      obtain rfl := List.length_eq_zero_iff.mp (Nat.le_zero.mp enough)
      cases other with
      | zero => rfl
      | succ other => rw [readWith, readWith, split_nil]
  | succ fuel induction =>
      cases other with
      | zero =>
          obtain rfl := List.length_eq_zero_iff.mp (Nat.le_zero.mp also)
          rw [readWith, readWith, split_nil]
      | succ other =>
          rw [readWith, readWith]
          cases found : framing.split log with
          | none => rfl
          | some parts =>
              have shorter := length_lt_of_split found
              exact congrArg (parts.1 :: ·)
                (induction (by omega) (by omega))

theorem read_of_none (ended : framing.split log = none) :
    framing.read log = [] := by
  unfold read
  cases log.length with
  | zero => rfl
  | succ fuel => rw [readWith, ended]

theorem read_of_split {rest : List Symbol}
    (found : framing.split log = some (record, rest)) :
    framing.read log = record :: framing.read rest := by
  have shorter := length_lt_of_split found
  rw [read, readWith_eq (Nat.le_refl _) (Nat.le_succ _), readWith, found]
  exact congrArg (record :: ·)
    (readWith_eq (Nat.le_of_lt shorter) (Nat.le_refl _))

theorem read_frames_append (fits : ∀ record ∈ records, framing.Fits record)
    (rest : List Symbol) :
    framing.read (framing.frames records ++ rest) =
      records ++ framing.read rest := by
  induction records with
  | nil => rfl
  | cons record records induction =>
      rw [List.forall_mem_cons] at fits
      rw [frames_cons, List.append_assoc,
        read_of_split (split_eq_some_iff.mpr ⟨fits.1, rfl⟩),
        induction fits.2, List.cons_append]

theorem read_frames (fits : ∀ record ∈ records, framing.Fits record) :
    framing.read (framing.frames records) = records := by
  have all := read_frames_append fits []
  rwa [List.append_nil, read_of_none split_nil, List.append_nil] at all

theorem frames_read (log : List Symbol) :
    (∀ record ∈ framing.read log, framing.Fits record) ∧
      framing.frames (framing.read log) <+: log := by
  cases found : framing.split log with
  | none =>
      rw [read_of_none found]
      exact ⟨fun _ member => absurd member List.not_mem_nil,
        List.nil_prefix⟩
  | some parts =>
      obtain ⟨record, rest⟩ := parts
      have shorter := length_lt_of_split found
      obtain ⟨fits, starts⟩ := frames_read rest
      obtain ⟨own, rfl⟩ := split_eq_some_iff.mp found
      rw [read_of_split found, List.forall_mem_cons, frames_cons]
      exact ⟨⟨own, fits⟩, (List.prefix_append_right_inj _).mpr starts⟩
  termination_by log.length

theorem prefix_read_iff {front : List (Tag × List Symbol)} :
    front <+: framing.read log ↔
      (∀ record ∈ front, framing.Fits record) ∧
        framing.frames front <+: log := by
  constructor
  · intro starts
    obtain ⟨fits, framed⟩ := framing.frames_read log
    exact ⟨fun record member => fits record (starts.subset member),
      (frames_mono starts).trans framed⟩
  · rintro ⟨fits, rest, rfl⟩
    rw [read_frames_append fits]
    exact List.prefix_append _ _

theorem read_prefix {longer : List Symbol} (starts : log <+: longer) :
    framing.read log <+: framing.read longer := by
  obtain ⟨fits, framed⟩ := framing.frames_read log
  exact prefix_read_iff.mpr ⟨fits, framed.trans starts⟩

theorem read_cut (fits : ∀ record ∈ records, framing.Fits record)
    (cut : log <+: framing.frames records) :
    framing.read log <+: records ∧ ∀ front, front <+: records →
      (front <+: framing.read log ↔ framing.frames front <+: log) := by
  constructor
  · have starts : framing.read log <+:
        framing.read (framing.frames records) := read_prefix cut
    rwa [read_frames fits] at starts
  · intro front starts
    rw [prefix_read_iff]
    exact and_iff_right fun record member =>
      fits record (starts.subset member)

theorem eq_of_frame_prefix {other : Tag × List Symbol}
    (fits : framing.Fits record) (also : framing.Fits other)
    (starts : framing.frame record <+: framing.frame other) :
    record = other := by
  have one : framing.read (framing.frame other) = [other] := by
    have alone := read_frames (List.forall_mem_singleton.mpr also)
    rwa [frames_cons, frames_nil, List.append_nil] at alone
  have front : [record] <+: framing.read (framing.frame other) := by
    rw [prefix_read_iff, frames_cons, frames_nil, List.append_nil]
    exact ⟨List.forall_mem_singleton.mpr fits, starts⟩
  rw [one, List.cons_prefix_cons] at front
  exact front.1

section Torn

variable {torn : List Symbol} {cut : Tag × List Symbol}
  (whole : framing.Fits cut) (starts : torn <+: framing.frame cut)
  (broken : torn ≠ framing.frame cut)

include whole starts broken

theorem frames_not_in_torn {front : List (Tag × List Symbol)}
    (some_ : front ≠ []) (fits : ∀ record ∈ front, framing.Fits record)
    (within : framing.frames front <+: torn) : False := by
  obtain ⟨record, rest, rfl⟩ := List.exists_cons_of_ne_nil some_
  rw [List.forall_mem_cons] at fits
  rw [frames_cons] at within
  have first : framing.frame record <+: torn :=
    (List.prefix_append _ _).trans within
  obtain rfl := eq_of_frame_prefix fits.1 whole (first.trans starts)
  exact broken (starts.eq_of_length_le first.length_le)

theorem read_torn : framing.read torn = [] := by
  by_contra some_
  obtain ⟨fits, within⟩ := framing.frames_read torn
  exact frames_not_in_torn whole starts broken some_ fits within

theorem not_returnsAt_of_torn (some_ : torn ≠ [])
    (fits : ∀ record ∈ records, framing.Fits record)
    (place : ℕ) (here : place = (framing.frames records ++ torn).length) :
    ¬framing.ReturnsAt (framing.frames records ++ (torn ++ more)) place
      record := by
  rintro ⟨front, read, reached⟩
  subst here
  rw [read_frames_append fits] at read
  have before : front <+: records ++ framing.read (torn ++ more) :=
    (List.prefix_append _ _).trans read
  have positive := List.length_pos_iff.mpr some_
  rw [List.length_append] at reached
  rcases List.prefix_or_prefix_of_prefix before
    (List.prefix_append records _) with early | late
  · have short : (framing.frames front).length ≤
        (framing.frames records).length := (frames_mono early).length_le
    omega
  · obtain ⟨middle, rfl⟩ := late
    rw [frames_append, List.length_append, Nat.add_left_cancel_iff]
      at reached
    rw [List.prefix_append_right_inj, prefix_read_iff] at before
    have within : framing.frames middle <+: torn :=
      List.prefix_of_prefix_length_le before.2 (List.prefix_append _ _)
        (Nat.le_of_eq reached)
    refine frames_not_in_torn whole starts broken ?_ before.1 within
    rintro rfl
    rw [frames_nil, List.length_nil] at reached
    omega

/-- The one record appended after a part of a frame is read only where it is
also what this part begins with. -/
theorem frame_prefix_of_mem_read
    (found : record ∈ framing.read (torn ++ framing.frame record)) :
    framing.frame record <+: torn ++ framing.frame record := by
  obtain ⟨fits, within⟩ := framing.frames_read (torn ++ framing.frame record)
  obtain ⟨front, back, split⟩ := List.mem_iff_append.mp found
  rw [split] at fits within
  rw [frames_append, frames_cons] at within
  have short := within.length_le
  simp only [List.length_append] at short
  cases front with
  | nil => exact (List.prefix_append _ _).trans within
  | cons first rest =>
      have inside : framing.frames (first :: rest) <+: torn :=
        List.prefix_of_prefix_length_le
          ((List.prefix_append _ _).trans within) (List.prefix_append _ _)
          (by omega)
      exact (frames_not_in_torn whole starts broken (List.cons_ne_nil _ _)
        (fun record member => fits record (List.mem_append_left _ member))
        inside).elim

end Torn

end Framing
