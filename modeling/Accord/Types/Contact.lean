import Accord.Types.Text

/-! Contact codes: who a contact is and where they are reached, in one text
that can be pasted. -/

namespace Accord

structure ContactCode where
  v : UInt8 := 1
  identityPubkey : Bytes
  name : Option String := none
  addresses : List String := []
  cert : Option String := none
  hostUserId : Option String := none
  deriving DecidableEq

inductive ContactError where
  | badPrefix
  | badBase64
  | badPayload
  deriving DecidableEq

def ContactError.text : ContactError → String
  | .badPrefix => "not an Accord contact code"
  | .badBase64 => "contact code is malformed (base64)"
  | .badPayload => "contact code is malformed (payload)"

/-- A contact code as a text, up to what `ContactCode::decode` makes of it. -/
inductive CodeText where
  | encoded (code : ContactCode)
  | malformed (error : ContactError)
  deriving DecidableEq

def CodeText.decode : CodeText → Except ContactError ContactCode
  | .encoded code => .ok code
  | .malformed error => .error error

structure Reach where
  addresses : List String
  cert : Option String
  hostUserId : Option String
  deriving DecidableEq

def ContactCode.reach (code : ContactCode) : Reach :=
  ⟨code.addresses, code.cert, code.hostUserId⟩

end Accord
