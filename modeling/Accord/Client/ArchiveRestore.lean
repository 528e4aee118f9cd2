import Accord.Client.ArchiveFile
import Accord.Client.History
import Accord.Types.Codes

/-! An archive between its file and the vault.  The file has each message
sealed or not; the vault has the messages as lines of JSON. -/

namespace Accord

namespace Archive

/-- Compact JSON: a value is never empty and stays on one line. -/
structure JsonLines where
  codec : JsonCodec ArchivedMessage
  toVec_ne_nil : ∀ message, codec.toVec message ≠ []
  newline_notMem : ∀ message, 10 ∉ codec.toVec message

/-- `seal_bytes`, with the nonce it draws, and `open_bytes`.  What is sealed
can be opened. -/
structure AtRest where
  sealBytes : ByteArr 24 → Bytes → Except String Bytes
  openBytes : Bytes → Option Bytes
  opens : ∀ nonce plaintext, ∃ blob,
    sealBytes nonce plaintext = .ok blob ∧ openBytes blob = some plaintext

/-- What a write draws, and what the settings are at that moment. -/
structure WriteDraw where
  nonce : ByteArr 24
  encryptAtRest : Bool
  deriving DecidableEq

section Codec

variable (json : JsonLines) (atRest : AtRest) (userId : String)

def decode (record : FileRecord) : Option ArchivedMessage :=
  if record.1 = 1 then
    (atRest.openBytes record.2).bind json.codec.fromSlice
  else json.codec.fromSlice record.2

def recordOf (draw : WriteDraw) (message : ArchivedMessage) :
    Except String FileRecord :=
  if message.senderId ≠ userId ∨ draw.encryptAtRest = true then do
    let sealed_ ← atRest.sealBytes draw.nonce (json.codec.toVec message)
    return (1, sealed_)
  else return (0, json.codec.toVec message)

def encode (draw : WriteDraw) (message : ArchivedMessage) :
    Except String Bytes := do
  let record ← recordOf json atRest userId draw message
  return frame record.1 record.2

def load (file : Option Bytes) : Except Halt (List ArchivedMessage) := do
  let records ← readRecords file
  return records.filterMap (decode json atRest)

def jsonl (messages : List ArchivedMessage) : Bytes :=
  messages.flatMap fun message => json.codec.toVec message ++ [10]

def plaintextJsonl (file : Option Bytes) : Except Halt (Option Bytes) := do
  let messages ← load json atRest file
  return if messages.isEmpty then none else some (jsonl json messages)

/-- A message that cannot be encoded leaves the file as it is. -/
def record (file : Option Bytes) (draw : WriteDraw)
    (message : ArchivedMessage) : Option Bytes :=
  match encode json atRest userId draw message with
  | .ok bytes => some (file.getD [] ++ bytes)
  | .error _ => file

/-- Messages that arrive one after the other; `written` came before. -/
def recordAll (draws : ℕ → WriteDraw) :
    ℕ → Option Bytes → List ArchivedMessage → Option Bytes
  | _, file, [] => file
  | written, file, message :: rest =>
      recordAll draws (written + 1)
        (record json atRest userId file (draws written) message) rest

/-- The frames of the lines that are messages; `written` are there
already. -/
def encodeLines (draws : ℕ → WriteDraw) :
    ℕ → List Bytes → Except String Bytes
  | _, [] => .ok []
  | written, line :: rest =>
      if line = [] then encodeLines draws written rest
      else
        match json.codec.fromSlice line with
        | none => encodeLines draws written rest
        | some message => do
            let bytes ← encode json atRest userId (draws written) message
            let more ← encodeLines draws (written + 1) rest
            return bytes ++ more

/-- A message that cannot be encoded leaves the file as it is. -/
def writeFromJsonl (draws : ℕ → WriteDraw) (file : Option Bytes)
    (text : Bytes) : Option Bytes :=
  match encodeLines json atRest userId draws 0 (text.splitOn 10) with
  | .ok bytes => some bytes
  | .error _ => file

/-- The record is of the message, and it is sealed if the message is of
another. -/
structure Stored (message : ArchivedMessage) (record : FileRecord) :
    Prop where
  decoded : decode json atRest record = some message
  others : message.senderId ≠ userId → record.1 = 1

/-- The file has the messages, in their order, and those of others are
sealed. -/
structure Holds (file : Option Bytes) (messages : List ArchivedMessage) :
    Prop where
  loaded : load json atRest file = .ok messages
  stored : ∃ records, readRecords file = .ok records ∧
    List.Forall₂ (Stored json atRest userId) messages records

/-- What is archived is what is read, and again after the vault. -/
structure RoundTrip (first second : ℕ → WriteDraw) (old : Option Bytes)
    (messages : List ArchivedMessage) : Prop where
  recorded : Holds json atRest userId
    (recordAll json atRest userId first 0 none messages) messages
  restored : ∃ text,
    plaintextJsonl json atRest
      (recordAll json atRest userId first 0 none messages) =
        .ok (some text) ∧
    Holds json atRest userId
      (writeFromJsonl json atRest userId second old text) messages

/-- The payload that the write makes of the message is shorter than `2 ^ 32`
bytes. -/
def Fitting (draw : WriteDraw) (message : ArchivedMessage) : Prop :=
  ∀ record, recordOf json atRest userId draw message = .ok record →
    record.2.length < 2 ^ 32

/-- One by one or line by line, the messages make the same records. -/
structure Makes (draws : ℕ → WriteDraw) (count : ℕ)
    (messages : List ArchivedMessage) (records : List FileRecord) :
    Prop where
  stored : List.Forall₂ (Stored json atRest userId) messages records
  fits : Fits records
  appended : ∀ bytes,
    recordAll json atRest userId draws count (some bytes) messages =
      some (bytes ++ written records)
  lines : encodeLines json atRest userId draws count
    (messages.map json.codec.toVec ++ [[]]) = .ok (written records)

section Facts

variable {json atRest userId} {draws : ℕ → WriteDraw}
  {messages : List ArchivedMessage} {records : List FileRecord}

private theorem recordOf_ok (draw : WriteDraw) (message : ArchivedMessage) :
    ∃ record, recordOf json atRest userId draw message = .ok record ∧
      Stored json atRest userId message record := by
  unfold recordOf
  split
  · obtain ⟨blob, wrapped, opened⟩ :=
      atRest.opens draw.nonce (json.codec.toVec message)
    rw [wrapped]
    refine ⟨(1, blob), rfl, ?_, fun _ => rfl⟩
    rw [decode, if_pos rfl, opened]
    exact json.codec.fromSlice_toVec message
  · rename_i own
    rw [not_or, not_not] at own
    refine ⟨_, rfl, ?_, fun other => absurd own.1 other⟩
    rw [decode, if_neg UInt8.zero_ne_one]
    exact json.codec.fromSlice_toVec message

theorem flag_recordOf {draw : WriteDraw} {message : ArchivedMessage}
    {record : FileRecord}
    (made : recordOf json atRest userId draw message = .ok record) :
    (record.1 = 1 ↔
      (LogRecord.encode userId draw.encryptAtRest message).isSealed =
        true) := by
  unfold recordOf at made
  unfold LogRecord.encode
  rw [Bool.or_eq_true, bne_iff_ne]
  split at made
  · rename_i wrapped
    obtain ⟨blob, sealed_, _⟩ :=
      atRest.opens draw.nonce (json.codec.toVec message)
    rw [sealed_] at made
    cases made
    exact iff_of_true rfl wrapped
  · rename_i bare
    cases made
    exact iff_of_false UInt8.zero_ne_one bare

private theorem encode_of_recordOf {draw : WriteDraw}
    {message : ArchivedMessage}
    {record : FileRecord}
    (made : recordOf json atRest userId draw message = .ok record) :
    encode json atRest userId draw message =
      .ok (frame record.1 record.2) := by
  unfold encode
  rw [made]
  rfl

private theorem filterMap_decode
    (stored : List.Forall₂ (Stored json atRest userId) messages records) :
    records.filterMap (decode json atRest) = messages := by
  induction stored with
  | nil => rfl
  | cons first _ induction =>
      rw [List.filterMap_cons_some first.decoded, induction]

private theorem holds_written (fits : Fits records)
    (stored : List.Forall₂ (Stored json atRest userId) messages records) :
    Holds json atRest userId (some (written records)) messages := by
  have read := readRecords_written fits
  refine ⟨?_, records, read, stored⟩
  unfold load
  rw [read]
  exact congrArg Except.ok (filterMap_decode stored)

private theorem record_of_encode {draw : WriteDraw} {message : ArchivedMessage}
    {bytes : Bytes} (file : Option Bytes)
    (encoded : encode json atRest userId draw message = .ok bytes) :
    record json atRest userId file draw message =
      some (file.getD [] ++ bytes) := by
  rw [record, encoded]

private theorem encodeLines_cons {message : ArchivedMessage}
    {bytes more : Bytes} {count : ℕ} {rest : List Bytes}
    (encoded : encode json atRest userId (draws count) message = .ok bytes)
    (later : encodeLines json atRest userId draws (count + 1) rest =
      .ok more) :
    encodeLines json atRest userId draws count
      (json.codec.toVec message :: rest) = .ok (bytes ++ more) := by
  rw [encodeLines, if_neg (json.toVec_ne_nil message),
    json.codec.fromSlice_toVec]
  dsimp only
  rw [encoded, later]
  rfl

private theorem exists_makes (count : ℕ)
    (fitting : ∀ index message, messages[index]? = some message →
      Fitting json atRest userId (draws (count + index)) message) :
    ∃ records,
      Makes json atRest userId draws count messages records := by
  induction messages generalizing count with
  | nil =>
      refine ⟨[], .nil, nofun, ?_, rfl⟩
      intro bytes
      exact congrArg some (List.append_nil bytes).symm
  | cons message messages induction =>
      obtain ⟨record, made, stored⟩ : ∃ record,
          recordOf json atRest userId (draws count) message = .ok record ∧
            Stored json atRest userId message record :=
        recordOf_ok (draws count) message
      have encoded := encode_of_recordOf made
      obtain ⟨records, makes⟩ :=
        induction (count + 1) fun index other found => by
          have later := fitting (index + 1) other found
          rwa [Nat.add_comm index, ← Nat.add_assoc] at later
      refine ⟨record :: records, .cons stored makes.stored, ?_, ?_, ?_⟩
      · rw [fits_iff, List.forall_mem_cons]
        exact ⟨fitting 0 message rfl record made, fits_iff.mp makes.fits⟩
      · intro bytes
        rw [recordAll, record_of_encode _ encoded, makes.appended,
          List.append_assoc]
        rfl
      · exact encodeLines_cons encoded makes.lines

private theorem splitOn_jsonl (messages : List ArchivedMessage) :
    (jsonl json messages).splitOn 10 =
      messages.map json.codec.toVec ++ [[]] := by
  unfold jsonl
  induction messages with
  | nil => rfl
  | cons message messages induction =>
      rw [List.flatMap_cons, List.append_assoc, List.singleton_append,
        List.splitOn_append_cons_self_of_not_mem
          (json.newline_notMem message), induction]
      rfl

private theorem recordAll_none (draws : ℕ → WriteDraw) (some_ : messages ≠ []) :
    recordAll json atRest userId draws 0 none messages =
      recordAll json atRest userId draws 0 (some []) messages := by
  cases messages with
  | nil => exact absurd rfl some_
  | cons message messages =>
      obtain ⟨record, made, -⟩ : ∃ record,
          recordOf json atRest userId (draws 0) message = .ok record ∧
            Stored json atRest userId message record :=
        recordOf_ok (draws 0) message
      have encoded := encode_of_recordOf made
      rw [recordAll, recordAll, record_of_encode none encoded,
        record_of_encode (some []) encoded]
      rfl

/-- Payloads that the length of a frame can hold survive the vault. -/
theorem roundTrip {first second : ℕ → WriteDraw} (old : Option Bytes)
    (some_ : messages ≠ [])
    (fitting : ∀ index message, messages[index]? = some message →
      Fitting json atRest userId (first index) message ∧
        Fitting json atRest userId (second index) message) :
    RoundTrip json atRest userId first second old messages := by
  obtain ⟨records, makes⟩ : ∃ records,
      Makes json atRest userId first 0 messages records :=
    exists_makes 0 fun index message found => by
      rw [Nat.zero_add]
      exact (fitting index message found).1
  obtain ⟨again, remakes⟩ : ∃ records,
      Makes json atRest userId second 0 messages records :=
    exists_makes 0 fun index message found => by
      rw [Nat.zero_add]
      exact (fitting index message found).2
  have file : recordAll json atRest userId first 0 none messages =
      some (written records) :=
    (recordAll_none first some_).trans (makes.appended [])
  have held := holds_written makes.fits makes.stored
  rw [← file] at held
  refine ⟨held, jsonl json messages, ?_, ?_⟩
  · unfold plaintextJsonl
    rw [held.loaded]
    simp only [bind, Except.bind, pure, Except.pure]
    rw [if_neg (by rw [List.isEmpty_iff]; exact some_)]
  · unfold writeFromJsonl
    rw [splitOn_jsonl, remakes.lines]
    exact holds_written remakes.fits remakes.stored

private theorem fitting_of_length {draw : WriteDraw} {message : ArchivedMessage}
    (bare : (json.codec.toVec message).length < 2 ^ 32)
    (wrapped : ∀ blob,
      atRest.sealBytes draw.nonce (json.codec.toVec message) = .ok blob →
        blob.length < 2 ^ 32) :
    Fitting json atRest userId draw message := by
  intro record made
  unfold recordOf at made
  split at made
  · obtain ⟨blob, sealed_, _⟩ :=
      atRest.opens draw.nonce (json.codec.toVec message)
    have small := wrapped blob sealed_
    rw [sealed_] at made
    cases made
    exact small
  · cases made
    exact bare

end Facts

end Codec

end Archive

/-! What `serde_json` writes for a message. -/

namespace ArchivedMessage

def json : Format UInt8 ArchivedMessage :=
  let groupId := Json.field "\x7b\"group_id\":" Json.quoted
  let senderId := Json.field ",\"sender_id\":" Json.quoted
  let content := Json.field ",\"content\":" Json.quoted
  let timestampMs := Json.field ",\"timestamp_ms\":"
    (Json.int '\x7d' Json.closes_brace)
  .convert (groupId.pair (senderId.pair (content.pair timestampMs)))
    (fun message => (message.groupId, message.senderId, message.content,
      message.timestampMs))
    (fun found => ⟨found.1, found.2.1, found.2.2.1, found.2.2.2⟩)
    (fun _ => rfl)

private theorem newline_notMem_hexByte : ∀ digit < 16,
    (10 : UInt8) ≠ Json.hexByte digit := by
  decide

private theorem newline_notMem_escape (byte : UInt8) :
    10 ∉ Json.escape byte := by
  have small := byte.toNat_lt
  have high := newline_notMem_hexByte (byte.toNat / 16) (by omega)
  have low := newline_notMem_hexByte (byte.toNat % 16) (by omega)
  unfold Json.escape
  split_ifs with isQuote isBackslash isB isT isN isF isR control
  all_goals try decide
  · simp only [List.mem_cons, high, low, List.not_mem_nil, or_false]
    decide
  · rw [List.mem_singleton]
    exact fun same => isN same.symm

private theorem newline_notMem_quoted (text : String) :
    10 ∉ Json.quoted.write text := by
  have body : 10 ∉ (Json.utf8 text).flatMap Json.escape := by
    rw [List.mem_flatMap]
    rintro ⟨byte, _, inside⟩
    exact newline_notMem_escape byte inside
  change 10 ∉ [Json.quote] ++ ((Json.utf8 text).flatMap Json.escape ++
    [Json.quote])
  simp only [List.mem_append, not_or]
  exact ⟨by decide, body, by decide⟩

private theorem newline_notMem_integer (value : Int) :
    10 ∉ Json.integer value := by
  have outside : 10 ∉ Json.numeral value.natAbs := by
    intro member
    obtain ⟨char, inside, same⟩ := List.mem_map.mp member
    have plain := Json.plain_of_mem_toDigits inside
    have range := Json.plain_toNat plain
    have code := congrArg UInt8.toNat same
    rw [Json.byteOf_toNat plain] at code
    change char.toNat = 10 at code
    omega
  unfold Json.integer
  split
  · rw [List.mem_cons, not_or]
    exact ⟨by decide, outside⟩
  · exact outside

def lines : Archive.JsonLines where
  codec := .ofFormat json
  toVec_ne_nil _ := List.cons_ne_nil _ _
  newline_notMem message := by
    have written : json.write message =
        (Json.bytesOf "\x7b\"group_id\":".toList ++
          Json.quoted.write message.groupId) ++
        ((Json.bytesOf ",\"sender_id\":".toList ++
          Json.quoted.write message.senderId) ++
        ((Json.bytesOf ",\"content\":".toList ++
          Json.quoted.write message.content) ++
        (Json.bytesOf ",\"timestamp_ms\":".toList ++
          (Json.integer message.timestampMs ++ [Json.byteOf '\x7d'])))) :=
      rfl
    change 10 ∉ json.write message
    rw [written]
    simp only [List.mem_append, not_or]
    exact ⟨⟨by decide, newline_notMem_quoted _⟩,
      ⟨by decide, newline_notMem_quoted _⟩,
      ⟨by decide, newline_notMem_quoted _⟩,
      by decide, newline_notMem_integer _, by decide⟩

private theorem consumes_json :
    json.Consumes fun message => (Json.utf8 message.content).length := by
  have text (mark : String) : (Json.field mark Json.quoted).Consumes
      fun text => (Json.utf8 text).length := Json.consumes_quoted.after _
  have number : (Json.field ",\"timestamp_ms\":"
      (Json.int '\x7d' Json.closes_brace)).Consumes fun _ => 0 :=
    Format.consumes_token.after _
  unfold json
  refine ((text "\x7b\"group_id\":").pair
    ((text ",\"sender_id\":").pair
      ((text ",\"content\":").pair number))).convert ?_
  intro value
  dsimp only
  omega

end ArchivedMessage

namespace Archive

open ArchivedMessage (lines)

/-- Sealing without a key: the nonce, and the plaintext as it is. -/
def AtRest.unkeyed : AtRest where
  sealBytes nonce plaintext := .ok (nonce.toList ++ plaintext)
  openBytes blob :=
    if 24 ≤ blob.length then some (blob.drop 24) else none
  opens nonce plaintext := by
    have size : nonce.toList.length = 24 := nonce.2
    refine ⟨_, rfl, ?_⟩
    rw [if_pos (by rw [List.length_append]; omega), List.drop_left' size]

/-- No file has a message with more of content than a frame can hold. -/
private theorem content_of_load {atRest : AtRest} {file : Option Bytes}
    {messages : List ArchivedMessage}
    (shrinks : ∀ blob plaintext, atRest.openBytes blob = some plaintext →
      plaintext.length ≤ blob.length)
    (loaded : load lines atRest file = .ok messages) :
    ∀ message ∈ messages,
      (Json.utf8 message.content).length < 2 ^ 32 := by
  intro message member
  cases file with
  | none =>
      cases loaded
      cases member
  | some data =>
      unfold load at loaded
      rw [readRecords_eq] at loaded
      cases loaded
      obtain ⟨record, inside, decoded⟩ := List.mem_filterMap.mp member
      have fits : record.2.length < 2 ^ 32 :=
        (format.frames_read data).1 record inside
      unfold decode at decoded
      split at decoded
      · obtain ⟨plaintext, opened, read⟩ :=
          Option.bind_eq_some_iff.mp decoded
        have small := shrinks record.2 plaintext opened
        have size := ArchivedMessage.consumes_json.decode read
        omega
      · have size := ArchivedMessage.consumes_json.decode decoded
        omega

def long (size : ℕ) : ArchivedMessage where
  groupId := "g"
  senderId := "me"
  content := String.ofList (List.replicate size 'a')
  timestampMs := 0

private theorem length_content_long (size : ℕ) :
    (Json.utf8 (long size).content).length = size := by
  change (String.ofList (List.replicate size 'a')).utf8ByteSize = size
  induction size with
  | zero => rfl
  | succ size induction =>
      rw [List.replicate_succ, String.ofList_cons,
        String.utf8ByteSize_append, induction, Nat.add_comm]
      rfl

def bare : ℕ → WriteDraw := fun _ => ⟨List.Vector.replicate 24 0, false⟩

def sealing : ℕ → WriteDraw := fun _ => ⟨List.Vector.replicate 24 0, true⟩

/-- A text of `2 ^ 32` bytes is archived, and is not there when it is
loaded. -/
theorem long_lost :
    ¬RoundTrip lines AtRest.unkeyed "me" bare bare none [long (2 ^ 32)] := by
  intro trip
  have small := content_of_load (by
    intro blob plaintext opened
    change (if 24 ≤ blob.length then _ else _) = _ at opened
    split at opened
    · cases opened
      exact List.length_drop.trans_le (Nat.sub_le _ _)
    · cases opened) trip.recorded.loaded _ List.mem_cons_self
  rw [length_content_long] at small
  exact lt_irrefl _ small

def dialogue : List ArchivedMessage :=
  [⟨"g", "me", "two\nlines", 1⟩, ⟨"g", "you", "déjà vu", 2⟩]

private theorem fitting_unkeyed {userId : String} {draw : WriteDraw}
    {message : ArchivedMessage}
    (small : (lines.codec.toVec message).length < 2 ^ 31) :
    Fitting lines AtRest.unkeyed userId draw message := by
  refine fitting_of_length (by omega) ?_
  intro blob sealed_
  cases sealed_
  have size : draw.nonce.toList.length = 24 := draw.nonce.2
  rw [List.length_append]
  omega

theorem dialogue_roundTrip :
    RoundTrip lines AtRest.unkeyed "me" bare sealing none dialogue := by
  have small : ∀ message ∈ dialogue,
      (lines.codec.toVec message).length < 2 ^ 31 := by
    decide +kernel
  refine roundTrip none (List.cons_ne_nil _ _) ?_
  intro index message found
  have short := small message (List.mem_of_getElem? found)
  exact ⟨fitting_unkeyed short, fitting_unkeyed short⟩

end Archive

end Accord
