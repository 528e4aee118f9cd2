import Accord.Library.Base64
import Accord.Types.Contact
import Accord.Types.Wire

/-! The texts that are pasted.  An invite key and a contact code go through the
same layers: JSON, base64 and a mark that tells the two apart. -/

namespace Accord

/-- What `serde_json` writes for a value is read back as the value. -/
structure JsonCodec (Value : Type) where
  toVec : Value → Bytes
  fromSlice : Bytes → Option Value
  fromSlice_toVec : ∀ value, fromSlice (toVec value) = some value

def JsonCodec.ofFormat {Value : Type} (format : Format UInt8 Value) :
    JsonCodec Value where
  toVec := format.write
  fromSlice := format.decode
  fromSlice_toVec := format.decode_write

namespace Paste

variable {Value Other Error : Type}

structure Errors (Error : Type) where
  badPrefix : Error
  badBase64 : Error
  badPayload : Error

def stripPrefix (mark text : String) : Option String :=
  (Format.dropMark mark.toList text.toList).map String.ofList

def encode (mark : String) (codec : JsonCodec Value) (value : Value) :
    String :=
  mark ++ String.ofList (Base64.encode Base64.urlSafe (codec.toVec value))

def decode (mark : String) (errors : Errors Error) (codec : JsonCodec Value)
    (text : String) : Except Error Value :=
  match stripPrefix mark (trim text) with
  | none => .error errors.badPrefix
  | some body =>
      match Base64.decode Base64.urlSafe body.toList with
      | none => .error errors.badBase64
      | some bytes =>
          match codec.fromSlice bytes with
          | none => .error errors.badPayload
          | some value => .ok value

private theorem stripPrefix_append (mark body : String) :
    stripPrefix mark (mark ++ body) = some body := by
  rw [stripPrefix, String.toList_append, Format.dropMark_append,
    Option.map_some, String.ofList_toList]

private theorem stripPrefix_apart {mark other : String}
    (differ : Format.apart mark.toList other.toList = true) (body : String) :
    stripPrefix mark (other ++ body) = none := by
  rw [stripPrefix, String.toList_append, Format.dropMark_apart differ,
    Option.map_none]

private theorem solid_urlSafe : ∀ number < 64,
    isWhitespace (Base64.urlSafe.symbol number) = false := by
  decide

private theorem solid_encode {mark : String} (solid : Solid mark)
    (codec : JsonCodec Value) (value : Value) :
    Solid (encode mark codec value) := by
  intro char member
  rw [encode, String.toList_append, String.toList_ofList] at member
  rcases List.mem_append.mp member with inMark | inBody
  · exact solid char inMark
  · exact Base64.forall_mem_encode Base64.urlSafe
      (isWhitespace · = false) solid_urlSafe _ char inBody

section Between

variable {mark before after : String} (blankBefore : Blank before)
  (blankAfter : Blank after)

include blankBefore blankAfter

private theorem decode_between {other : String} (solid : Solid other)
    (errors : Errors Error) (codec : JsonCodec Value)
    (written : JsonCodec Other) (value : Other) :
    decode mark errors codec
        (before ++ encode other written value ++ after) =
      decode mark errors codec (encode other written value) := by
  have encoded := solid_encode solid written value
  rw [decode, trim_between blankBefore encoded blankAfter, decode,
    trim_solid encoded]

theorem decode_encode (solid : Solid mark) (errors : Errors Error)
    (codec : JsonCodec Value) (value : Value) :
    decode mark errors codec (before ++ encode mark codec value ++ after) =
      .ok value := by
  rw [decode_between blankBefore blankAfter solid, decode,
    trim_solid (solid_encode solid codec value), encode, stripPrefix_append]
  simp only [String.toList_ofList, Base64.decode_encode,
    codec.fromSlice_toVec]

/-- A text under another mark is refused before any of it is decoded. -/
private theorem decode_other {other : String} (solid : Solid other)
    (differ : Format.apart mark.toList other.toList = true)
    (errors : Errors Error) (codec : JsonCodec Value)
    (written : JsonCodec Other) (value : Other) :
    decode mark errors codec
        (before ++ encode other written value ++ after) =
      .error errors.badPrefix := by
  rw [decode_between blankBefore blankAfter solid, decode,
    trim_solid (solid_encode solid written value), encode,
    stripPrefix_apart differ]

end Between

theorem encode_injective (mark : String) (codec : JsonCodec Value)
    {first second : Value}
    (same : encode mark codec first = encode mark codec second) :
    first = second := by
  have bodies := congrArg (stripPrefix mark) same
  rw [encode, encode, stripPrefix_append, stripPrefix_append] at bodies
  have texts := congrArg String.toList (Option.some.inj bodies)
  rw [String.toList_ofList, String.toList_ofList] at texts
  have read := congrArg codec.fromSlice
    (Base64.encode_injective Base64.urlSafe texts)
  rw [codec.fromSlice_toVec, codec.fromSlice_toVec] at read
  exact Option.some.inj read

end Paste

/-! Invite keys. -/

inductive InviteKey.Transport where
  | direct
  | mesh
  deriving DecidableEq

structure InviteKey where
  v : UInt8 := 1
  transport : InviteKey.Transport
  host : String
  port : UInt16
  token : String
  peers : List String := []
  name : Option String := none
  cert : Option String := none
  deriving DecidableEq

inductive InviteError where
  | badPrefix
  | badBase64
  | badPayload
  deriving DecidableEq

def InviteError.text : InviteError → String
  | .badPrefix => "not an Accord invite key"
  | .badBase64 => "invite key is malformed (base64)"
  | .badPayload => "invite key is malformed (payload)"

namespace InviteKey

def mark : String := "accord1:"

def encode (codec : JsonCodec InviteKey) (key : InviteKey) : String :=
  Paste.encode mark codec key

def decode (codec : JsonCodec InviteKey) (text : String) :
    Except InviteError InviteKey :=
  Paste.decode mark ⟨.badPrefix, .badBase64, .badPayload⟩ codec text

private theorem solid_mark : Solid mark := by
  decide

def Transport.json : Format UInt8 Transport :=
  .convert
    (.either (Json.bytesOf "\"direct\"".toList) .unit
      (.after (Json.bytesOf "\"mesh\"".toList) .unit) fun _ =>
        Format.apart_append (by decide) _)
    (fun
      | .direct => .inl ()
      | .mesh => .inr ())
    (fun
      | .inl _ => .direct
      | .inr _ => .mesh)
    (by
      intro transport
      cases transport <;> rfl)

def json : Format UInt8 InviteKey :=
  let v := Json.field "\x7b\"v\":" (Json.u8 ',' Json.closes_comma)
  let transport := Json.field "\"transport\":" Transport.json
  let host := Json.field ",\"host\":" Json.quoted
  let port := Json.field ",\"port\":" (Json.u16 ',' Json.closes_comma)
  let token := Json.field "\"token\":" Json.quoted
  let peers := Json.field ",\"peers\":" Json.texts
  let name := Json.field ",\"name\":" Json.nullable
  let cert := Json.field ",\"cert\":"
    (Json.nullable.before (Json.bytesOf "\x7d".toList))
  .convert
    (v.pair (transport.pair (host.pair (port.pair (token.pair
      (peers.pair (name.pair cert)))))))
    (fun key => (key.v, key.transport, key.host, key.port, key.token,
      key.peers, key.name, key.cert))
    (fun found => ⟨found.1, found.2.1, found.2.2.1, found.2.2.2.1,
      found.2.2.2.2.1, found.2.2.2.2.2.1, found.2.2.2.2.2.2.1,
      found.2.2.2.2.2.2.2⟩)
    (fun _ => rfl)

end InviteKey

/-! Contact codes. -/

namespace ContactCode

def mark : String := "accordc:"

def encode (codec : JsonCodec ContactCode) (code : ContactCode) : String :=
  Paste.encode mark codec code

def decode (codec : JsonCodec ContactCode) (text : String) :
    Except ContactError ContactCode :=
  Paste.decode mark ⟨.badPrefix, .badBase64, .badPayload⟩ codec text

private theorem solid_mark : Solid mark := by
  decide

def json : Format UInt8 ContactCode :=
  let v := Json.field "\x7b\"v\":" (Json.u8 ',' Json.closes_comma)
  let identityPubkey :=
    Json.field "\"identity_pubkey\":[" Json.byteArray
  let name := Json.field ",\"name\":" Json.nullable
  let addresses := Json.field ",\"addresses\":" Json.texts
  let cert := Json.field ",\"cert\":" Json.nullable
  let hostUserId := Json.field ",\"host_user_id\":"
    (Json.nullable.before (Json.bytesOf "\x7d".toList))
  .convert
    (v.pair (identityPubkey.pair (name.pair (addresses.pair
      (cert.pair hostUserId)))))
    (fun code => (code.v, code.identityPubkey, code.name, code.addresses,
      code.cert, code.hostUserId))
    (fun found => ⟨found.1, found.2.1, found.2.2.1, found.2.2.2.1,
      found.2.2.2.2.1, found.2.2.2.2.2⟩)
    (fun _ => rfl)

def codeText (codec : JsonCodec ContactCode) (text : String) : CodeText :=
  match decode codec text with
  | .ok code => .encoded code
  | .error error => .malformed error

theorem decode_codeText (codec : JsonCodec ContactCode) (text : String) :
    (codeText codec text).decode = decode codec text := by
  rw [codeText]
  cases decode codec text <;> rfl

end ContactCode

/-- What a pasted text gives back, blanks around it or not. -/
structure PastedCodes (invites : JsonCodec InviteKey)
    (contacts : JsonCodec ContactCode) : Prop where
  inviteRead : ∀ key before after, Blank before → Blank after →
    InviteKey.decode invites (before ++ key.encode invites ++ after) = .ok key
  contactRead : ∀ code before after, Blank before → Blank after →
    ContactCode.decode contacts (before ++ code.encode contacts ++ after) =
      .ok code
  inviteDistinct : ∀ first second : InviteKey,
    first.encode invites = second.encode invites → first = second
  contactDistinct : ∀ first second : ContactCode,
    first.encode contacts = second.encode contacts → first = second
  contactRefused : ∀ (code : ContactCode) before after, Blank before →
    Blank after →
    InviteKey.decode invites (before ++ code.encode contacts ++ after) =
      .error .badPrefix
  inviteRefused : ∀ (key : InviteKey) before after, Blank before →
    Blank after →
    ContactCode.decode contacts (before ++ key.encode invites ++ after) =
      .error .badPrefix

theorem pasted_codes (invites : JsonCodec InviteKey)
    (contacts : JsonCodec ContactCode) : PastedCodes invites contacts where
  inviteRead key _ _ blankBefore blankAfter :=
    Paste.decode_encode blankBefore blankAfter InviteKey.solid_mark _ _ key
  contactRead code _ _ blankBefore blankAfter :=
    Paste.decode_encode blankBefore blankAfter ContactCode.solid_mark _ _
      code
  inviteDistinct _ _ := Paste.encode_injective InviteKey.mark invites
  contactDistinct _ _ := Paste.encode_injective ContactCode.mark contacts
  contactRefused code _ _ blankBefore blankAfter :=
    Paste.decode_other blankBefore blankAfter ContactCode.solid_mark
      (by decide) _ _ _ code
  inviteRefused key _ _ blankBefore blankAfter :=
    Paste.decode_other blankBefore blankAfter InviteKey.solid_mark
      (by decide) _ _ _ key

def hallKey : InviteKey where
  transport := .mesh
  host := "200::1"
  port := 50051
  token := "tok"
  peers := ["tls://peer:443"]
  name := some "Hall"

example : InviteKey.json.write hallKey =
    Json.bytesOf ("\x7b\"v\":1,\"transport\":\"mesh\"," ++
      "\"host\":\"200::1\",\"port\":50051,\"token\":\"tok\"," ++
      "\"peers\":[\"tls://peer:443\"],\"name\":\"Hall\"," ++
      "\"cert\":null\x7d").toList := by
  decide +kernel

theorem hallKey_read :
    InviteKey.decode (.ofFormat InviteKey.json)
        (" " ++ hallKey.encode (.ofFormat InviteKey.json) ++ "\r\n") =
      .ok hallKey :=
  (pasted_codes (.ofFormat InviteKey.json)
    (.ofFormat ContactCode.json)).inviteRead hallKey " " "\r\n"
      (by decide) (by decide)

end Accord
