import Accord.Crypto.Backup
import Accord.Library.Framing

/-! The file of a group's archive, byte by byte: a log of records, each behind
its flag and its length. -/

namespace Accord

namespace Archive

open Backup (toLeBytes readLe toLeBytes_readLe readLe_toLeBytes
  length_toLeBytes)

abbrev FileRecord := UInt8 × Bytes

/-- The length is written as a `u32`. -/
def frame (flag : UInt8) (payload : Bytes) : Bytes :=
  flag :: (toLeBytes (UInt32.ofNat payload.length) ++ payload)

/-- How reading could end without a result: a panic, or never. -/
inductive Halt where
  | outOfRange
  | outOfFuel
  deriving DecidableEq

def index (data : Bytes) (i : ℕ) : Except Halt UInt8 :=
  match data[i]? with
  | some byte => .ok byte
  | none => .error .outOfRange

def slice (data : Bytes) (first last : ℕ) : Except Halt Bytes :=
  if first ≤ last ∧ last ≤ data.length then
    .ok ((data.drop first).take (last - first))
  else .error .outOfRange

def readLoop (data : Bytes) :
    ℕ → ℕ → List FileRecord → Except Halt (List FileRecord)
  | 0, _, _ => .error .outOfFuel
  | fuel + 1, i, records =>
      if i + 5 ≤ data.length then do
        let flag ← index data i
        let b0 ← index data (i + 1)
        let b1 ← index data (i + 2)
        let b2 ← index data (i + 3)
        let b3 ← index data (i + 4)
        let len := (readLe [b0, b1, b2, b3] 0).toNat
        if data.length < i + 5 + len then
          return records
        else do
          let payload ← slice data (i + 5) (i + 5 + len)
          readLoop data fuel (i + 5 + len) (records ++ [(flag, payload)])
      else
        return records

def readRecords : Option Bytes → Except Halt (List FileRecord)
  | none => .ok []
  | some data => readLoop data (data.length + 1) 0 []

def format : Framing UInt8 UInt8 where
  width := 5
  bound := 2 ^ 32
  header flag size := flag :: toLeBytes (UInt32.ofNat size)
  parse symbols := (symbols.headD 0, (readLe symbols 1).toNat)
  width_pos := by decide
  length_header flag size := by
    rw [List.length_cons, length_toLeBytes]
  parse_header flag size small := by
    have field := readLe_toLeBytes [flag] [] (UInt32.ofNat size)
    rw [List.append_nil] at field
    have word : readLe (flag :: toLeBytes (UInt32.ofNat size)) 1 =
        UInt32.ofNat size := field
    rw [word, UInt32.toNat_ofNat', Nat.mod_eq_of_lt small]
    rfl
  parse_lt symbols _ := (readLe symbols 1).toNat_lt
  header_parse symbols wide := by
    obtain ⟨flag, rest, rfl⟩ := List.exists_cons_of_length_eq_add_one wide
    have size : rest.length = 4 := by
      rw [List.length_cons] at wide
      omega
    have field : toLeBytes (readLe (flag :: rest) 1) = rest.take 4 :=
      toLeBytes_readLe (Nat.le_of_eq wide.symm)
    rw [UInt32.ofNat_toNat, field, List.take_of_length_le (Nat.le_of_eq size)]
    rfl

private theorem index_drop {data : Bytes} {i : ℕ} {byte : UInt8} (skip : ℕ)
    (here : (data.drop i)[skip]? = some byte) :
    index data (i + skip) = .ok byte := by
  rw [List.getElem?_drop] at here
  rw [index, here]

private theorem exists_header {data : Bytes} {i : ℕ}
    (whole : i + 5 ≤ data.length) :
    ∃ flag b0 b1 b2 b3 rest,
      data.drop i = flag :: b0 :: b1 :: b2 :: b3 :: rest := by
  have left : (data.drop i).length = data.length - i := List.length_drop
  match data.drop i, left with
  | flag :: b0 :: b1 :: b2 :: b3 :: rest, _ =>
      exact ⟨flag, b0, b1, b2, b3, rest, rfl⟩
  | [], short | [_], short | [_, _], short | [_, _, _], short
  | [_, _, _, _], short =>
      simp only [List.length_cons, List.length_nil] at short
      omega

private theorem index_header {data rest : Bytes} {i : ℕ}
    {flag b0 b1 b2 b3 : UInt8}
    (split : data.drop i = flag :: b0 :: b1 :: b2 :: b3 :: rest) :
    index data i = .ok flag ∧ index data (i + 1) = .ok b0 ∧
      index data (i + 2) = .ok b1 ∧ index data (i + 3) = .ok b2 ∧
      index data (i + 4) = .ok b3 := by
  refine ⟨index_drop 0 ?_, index_drop 1 ?_, index_drop 2 ?_,
    index_drop 3 ?_, index_drop 4 ?_⟩
  all_goals
    rw [split]
    rfl

private theorem read_of_short {log : Bytes} (short : log.length < 5) :
    format.read log = [] := by
  apply Framing.read_of_none
  unfold Framing.split
  dsimp only
  rw [if_neg]
  intro both
  exact absurd both.1 (Nat.not_le.mpr short)

private theorem split_header (flag b0 b1 b2 b3 : UInt8) (rest : Bytes) :
    format.split (flag :: b0 :: b1 :: b2 :: b3 :: rest) =
      if (readLe [b0, b1, b2, b3] 0).toNat ≤ rest.length then
        some ((flag, rest.take (readLe [b0, b1, b2, b3] 0).toNat),
          rest.drop (readLe [b0, b1, b2, b3] 0).toNat)
      else none := by
  have parsed : format.parse
      ((flag :: b0 :: b1 :: b2 :: b3 :: rest).take format.width) =
        (flag, (readLe [b0, b1, b2, b3] 0).toNat) := rfl
  have bodied : (flag :: b0 :: b1 :: b2 :: b3 :: rest).drop format.width =
      rest := rfl
  have wide : (flag :: b0 :: b1 :: b2 :: b3 :: rest).length =
      format.width + rest.length := by
    change rest.length + 1 + 1 + 1 + 1 + 1 = 5 + rest.length
    omega
  unfold Framing.split
  dsimp only
  rw [parsed, bodied, wide]
  simp only [Nat.le_add_right, true_and, Nat.add_le_add_iff_left]

private theorem readLoop_eq {data : Bytes} {fuel i : ℕ}
    (within : i ≤ data.length)
    (enough : data.length < fuel + i) (records : List FileRecord) :
    readLoop data fuel i records =
      .ok (records ++ format.read (data.drop i)) := by
  induction fuel generalizing i records with
  | zero => omega
  | succ fuel induction =>
      have left : (data.drop i).length = data.length - i := List.length_drop
      unfold readLoop
      by_cases whole : i + 5 ≤ data.length
      · obtain ⟨flag, b0, b1, b2, b3, rest, split⟩ := exists_header whole
        have after : data.drop (i + 5) = rest := by
          rw [← List.drop_drop, split]
          rfl
        have size : rest.length = data.length - (i + 5) := by
          rw [← after, List.length_drop]
        obtain ⟨first, at0, at1, at2, at3⟩ := index_header split
        rw [if_pos whole, first, at0, at1, at2, at3, split]
        have header := split_header flag b0 b1 b2 b3 rest
        simp only [bind, Except.bind, pure, Except.pure]
        generalize (readLe [b0, b1, b2, b3] 0).toNat = len at *
        by_cases long : data.length < i + 5 + len
        · rw [if_neg (by omega)] at header
          rw [if_pos long, Framing.read_of_none header, List.append_nil]
        · rw [if_pos (by omega)] at header
          have sliced : slice data (i + 5) (i + 5 + len) =
              .ok (rest.take len) := by
            rw [slice, if_pos ⟨Nat.le_add_right _ _, by omega⟩, after,
              Nat.add_sub_cancel_left]
          rw [if_neg long, sliced, Framing.read_of_split header]
          dsimp only
          rw [induction (by omega) (by omega), ← List.drop_drop, after,
            List.append_assoc]
          rfl
      · rw [if_neg whole, read_of_short (by omega), List.append_nil]
        rfl

theorem readRecords_eq (data : Bytes) :
    readRecords (some data) = .ok (format.read data) :=
  readLoop_eq (Nat.zero_le _) (Nat.lt_succ_self _) []

/-- What appending the records one after the other writes. -/
def written (records : List FileRecord) : Bytes :=
  records.flatMap fun record => frame record.1 record.2

private theorem written_eq (records : List FileRecord) :
    written records = format.frames records := rfl

/-- The payloads are shorter than `2 ^ 32` bytes, so that each is as long as
its frame says. -/
abbrev Fits (records : List FileRecord) : Prop :=
  ∀ record ∈ records, format.Fits record

theorem fits_iff {records : List FileRecord} :
    Fits records ↔ ∀ record ∈ records, record.2.length < 2 ^ 32 := Iff.rfl

theorem readRecords_written {records : List FileRecord}
    (fits : Fits records) :
    readRecords (some (written records)) = .ok records := by
  rw [readRecords_eq, written_eq, Framing.read_frames fits]

structure ReadsBack : Prop where
  whole : ∀ records, Fits records →
    readRecords (some (written records)) = .ok records
  cut : ∀ records, Fits records → ∀ data, data <+: written records →
    ∃ found, readRecords (some data) = .ok found ∧ found <+: records ∧
      ∀ front, front <+: records →
        (front <+: found ↔ written front <+: data)
  total : ∀ data, ∃ found, readRecords (some data) = .ok found

/-- A file of whole records is read back, cut anywhere up to where it is cut,
and no bytes make the reader fail. -/
theorem reads_back : ReadsBack where
  whole _ fits := readRecords_written fits
  cut _ fits data cut :=
    ⟨_, readRecords_eq data, Framing.read_cut fits cut⟩
  total data := ⟨_, readRecords_eq data⟩

/-! An append that is cut short. -/

def Torn (torn : Bytes) : Prop :=
  ∃ record : FileRecord, format.Fits record ∧
    torn <+: frame record.1 record.2 ∧ torn ≠ frame record.1 record.2

/-- Whole records, a part of one, and whole records again. -/
def tornFile (before : List FileRecord) (torn : Bytes)
    (after : List FileRecord) : Bytes :=
  written before ++ (torn ++ written after)

/-- The record that is at the place in the file is one of those read, behind
the ones that are before it. -/
def ReturnedAt (data : Bytes) (place : ℕ) (record : FileRecord) : Prop :=
  ∃ found front, readRecords (some data) = .ok found ∧
    front ++ [record] <+: found ∧ (written front).length = place

/-- Every record that was written whole is returned. -/
structure Survives (before : List FileRecord) (torn : Bytes)
    (after : List FileRecord) : Prop where
  earlier : ∀ front record, front ++ [record] <+: before →
    ReturnedAt (tornFile before torn after) (written front).length record
  later : ∀ front record, front ++ [record] <+: after →
    ReturnedAt (tornFile before torn after)
      ((written before ++ torn).length + (written front).length) record

section Torn

variable {before after : List FileRecord} {torn : Bytes}

private theorem returnedAt_iff {data : Bytes} {place : ℕ}
    {record : FileRecord} :
    ReturnedAt data place record ↔ format.ReturnsAt data place record := by
  constructor
  · rintro ⟨found, front, read, starts, here⟩
    rw [readRecords_eq] at read
    cases read
    exact ⟨front, starts, here⟩
  · rintro ⟨front, starts, here⟩
    exact ⟨_, front, readRecords_eq data, starts, here⟩

private theorem read_tornFile (fits : Fits before) :
    format.read (tornFile before torn after) =
      before ++ format.read (torn ++ written after) :=
  Framing.read_frames_append fits _

private theorem read_tornFile_of_clean (fitsBefore : Fits before)
    (fitsAfter : Fits after) (part : Torn torn)
    (clean : torn = [] ∨ after = []) :
    format.read (tornFile before torn after) = before ++ after := by
  rw [read_tornFile fitsBefore]
  rcases clean with rfl | rfl
  · rw [List.nil_append, written_eq, Framing.read_frames fitsAfter]
  · obtain ⟨record, whole, starts, broken⟩ := part
    have none : format.read torn = [] :=
      Framing.read_torn whole starts broken
    have end_ : torn ++ written [] = torn := List.append_nil torn
    rw [end_, none]

private theorem exists_lost (fitsBefore : Fits before) (part : Torn torn)
    (some_ : torn ≠ []) :
    ∃ record : FileRecord, format.Fits record ∧
      ¬(before ++ [record]).Sublist
        (format.read (tornFile before torn [record])) := by
  obtain ⟨cut, whole, starts, broken⟩ := part
  obtain ⟨first, rest, rfl⟩ := List.exists_cons_of_ne_nil some_
  obtain ⟨flag, differ⟩ : ∃ flag : UInt8, flag ≠ first := by
    by_cases zero : first = 0
    · exact ⟨1, by rw [zero]; decide⟩
    · exact ⟨0, fun same => zero same.symm⟩
  refine ⟨(flag, []), Nat.two_pow_pos 32, ?_⟩
  rw [read_tornFile fitsBefore, List.append_sublist_append_left,
    List.singleton_sublist]
  intro found
  have alone : written [(flag, [])] = format.frame (flag, []) :=
    List.append_nil _
  rw [alone] at found
  have front := Framing.frame_prefix_of_mem_read whole starts
    broken found
  exact differ (List.cons_prefix_cons.mp front).1

/-- All of them are returned exactly where nothing of the part was written or
nothing comes after it. -/
private theorem survives_iff_of_fits (fitsBefore : Fits before)
    (fitsAfter : Fits after)
    (part : Torn torn) :
    Survives before torn after ↔ torn = [] ∨ after = [] := by
  constructor
  · intro survives
    by_contra dirty
    rw [not_or] at dirty
    obtain ⟨record, rest, rfl⟩ := List.exists_cons_of_ne_nil dirty.2
    obtain ⟨cut, whole, starts, broken⟩ := part
    have found := survives.later [] record
      ((List.cons_prefix_cons).mpr ⟨rfl, List.nil_prefix⟩)
    rw [returnedAt_iff] at found
    exact Framing.not_returnsAt_of_torn whole starts broken
      dirty.1 fitsBefore _ rfl found
  · intro clean
    have read := read_tornFile_of_clean fitsBefore fitsAfter part clean
    constructor
    · intro front record starts
      rw [returnedAt_iff]
      refine ⟨front, ?_, rfl⟩
      rw [read]
      exact starts.trans (List.prefix_append _ _)
    · intro front record starts
      rw [returnedAt_iff]
      refine ⟨before ++ front, ?_, ?_⟩
      · rw [read, List.append_assoc]
        exact (List.prefix_append_right_inj _).mpr starts
      · rcases clean with rfl | rfl
        · rw [Framing.frames_append, List.append_nil, List.length_append]
          rfl
        · cases front <;> cases List.prefix_nil.mp starts

/-- What a torn append hides.  Where it left a part behind, the record that
comes next is never found at its place, and there are records that are not
found at all. -/
theorem survives_iff (fitsBefore : Fits before) (part : Torn torn) :
    (∀ after, Fits after →
      (Survives before torn after ↔ torn = [] ∨ after = [])) ∧
    (∀ after, Fits after → torn = [] ∨ after = [] →
      readRecords (some (tornFile before torn after)) =
        .ok (before ++ after)) ∧
    ((∀ after, Fits after → ∃ found,
      readRecords (some (tornFile before torn after)) = .ok found ∧
        (before ++ after).Sublist found) ↔ torn = []) := by
  refine ⟨fun after fits => survives_iff_of_fits fitsBefore fits part, ?_,
    ?_, ?_⟩
  · intro after fits clean
    rw [readRecords_eq, read_tornFile_of_clean fitsBefore fits part clean]
  · intro all
    by_contra some_
    obtain ⟨record, fits, lost⟩ := exists_lost fitsBefore part some_
    obtain ⟨found, read, kept⟩ := all [record]
      (List.forall_mem_singleton.mpr fits)
    rw [readRecords_eq] at read
    cases read
    exact lost kept
  · rintro rfl after fits
    refine ⟨_, readRecords_eq _, ?_⟩
    rw [read_tornFile_of_clean fitsBefore fits part (.inl rfl)]

end Torn

private theorem torn_four : Torn [1, 7, 0, 0] :=
  ⟨(1, [1, 2, 3, 4, 5, 6, 7]), (by decide : 7 < 2 ^ 32), by decide,
    by decide⟩

theorem unhidden_until_next :
    Survives [(0, [9])] [1, 7, 0, 0] [] ∧
      ¬Survives [(0, [9])] [1, 7, 0, 0] [(0, [8])] := by
  have fits : Fits [(0, [9])] := fits_iff.mpr (by decide)
  have exactly := (survives_iff fits torn_four).1
  exact ⟨(exactly [] (fits_iff.mpr (by decide))).mpr (.inr rfl),
    fun survives => absurd
      ((exactly [(0, [8])] (fits_iff.mpr (by decide))).mp survives)
      (by decide)⟩

/-- What is appended later is taken for the rest of the record. -/
theorem later_hidden :
    Torn [1, 7, 0, 0] ∧
      readRecords (some (tornFile [(0, [9])] [1, 7, 0, 0]
        [(0, [8]), (1, [5])])) = .ok [(0, [9]), (1, [1, 0, 0, 0, 8, 1, 1])] ∧
      ¬[(0, [9]), (0, [8]), (1, [5])].Sublist
        [((0 : UInt8), ([9] : Bytes)), (1, [1, 0, 0, 0, 8, 1, 1])] :=
  ⟨torn_four, by decide, by decide⟩

end Archive

end Accord
