import Accord.Library.Effect
import Accord.Library.FileWrite
import Accord.Server.Auth.Jwt
import Accord.Types.Contact

/-! The contact list of a client. -/

namespace Accord

structure StoredContact where
  pubkey : Bytes
  name : String
  addresses : List String
  cert : Option String
  hostUserId : Option String
  verified : Bool
  deriving DecidableEq

def StoredContact.reach (contact : StoredContact) : Reach :=
  ⟨contact.addresses, contact.cert, contact.hostUserId⟩

structure ContactTarget where
  name : String
  addresses : List String
  cert : Option String
  hostUserId : Option String
  deriving DecidableEq

namespace Contacts

/-- The code prints bytes as two lowercase hex digits everywhere. -/
abbrev toHex (bytes : Bytes) : String := AuthSvc.hexEncode bytes

def lookup (contacts : List StoredContact) (id : String) :
    Option ContactTarget :=
  (contacts.find? fun contact => toHex contact.pubkey == id).map fun contact =>
    { name := contact.name
      addresses := contact.addresses
      cert := contact.cert
      hostUserId := contact.hostUserId }

/-- The contact with the key of the code is updated, or a new one is added. -/
def upsert (code : ContactCode) : List StoredContact → List StoredContact
  | [] => [{
      pubkey := code.identityPubkey
      name := code.name.getD "Unknown"
      addresses := code.addresses
      cert := code.cert
      hostUserId := code.hostUserId
      verified := false }]
  | contact :: rest =>
      if contact.pubkey = code.identityPubkey then
        { contact with
          name := code.name.getD "Unknown"
          addresses := code.addresses
          cert := code.cert
          hostUserId := code.hostUserId } :: rest
      else
        contact :: upsert code rest

/-- The list is written over the file.  Nothing can be opened of a part of it,
which is then read as no contacts. -/
def save (write : FileWrite String) (contacts : List StoredContact) :
    Effect (List StoredContact) String Unit :=
  fun before => (write.result, write.leaves (fun _ => []) before contacts)

/-- Codes are taken with an identity key of the right length only. -/
def validate (code : CodeText) : Except String ContactCode :=
  match code.decode with
  | .error error => .error error.text
  | .ok parsed =>
      if parsed.identityPubkey.length = 32 then .ok parsed
      else .error "contact code has an invalid identity key"

/-- A file that cannot be read or opened has no contacts. -/
def addContact (file : FileUse String) (code : CodeText) :
    Effect (List StoredContact) String Unit := do
  let parsed ← Effect.ofExcept (validate code)
  let loaded ← Effect.read (file.read [])
  save file.write (upsert parsed loaded)

theorem addContact_of_ok {code : CodeText} {parsed : ContactCode}
    (valid : validate code = .ok parsed) (file : FileUse String)
    (contacts : List StoredContact) :
    addContact file code contacts =
      save file.write (upsert parsed (file.read [] contacts)) contacts := by
  unfold addContact
  rw [valid]
  rfl

def reachOf (contacts : List StoredContact) (key : Bytes) : Option Reach :=
  (contacts.find? fun contact => contact.pubkey = key).map (·.reach)

private theorem reachOf_cons (contact : StoredContact)
    (rest : List StoredContact) (key : Bytes) :
    reachOf (contact :: rest) key =
      if contact.pubkey = key then some contact.reach
      else reachOf rest key := by
  unfold reachOf
  rw [List.find?_cons]
  by_cases same : contact.pubkey = key
  · simp [same]
  · simp [same]

theorem reachOf_upsert (code : ContactCode) (contacts : List StoredContact)
    (key : Bytes) :
    reachOf (upsert code contacts) key =
      if code.identityPubkey = key then some code.reach
      else reachOf contacts key := by
  induction contacts with
  | nil =>
      unfold upsert
      rw [reachOf_cons]
      rfl
  | cons contact rest induction =>
      unfold upsert
      by_cases same : contact.pubkey = code.identityPubkey
      · rw [if_pos same, reachOf_cons, reachOf_cons, same]
        split <;> rfl
      · rw [if_neg same, reachOf_cons, induction, reachOf_cons]
        by_cases own : contact.pubkey = key
        · have other : code.identityPubkey ≠ key :=
            fun equal => same (own.trans equal.symm)
          rw [if_pos own, if_neg other, if_pos own]
        · rw [if_neg own, if_neg own]

end Contacts

end Accord
