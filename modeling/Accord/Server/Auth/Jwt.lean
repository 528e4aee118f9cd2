import Accord.Server.Auth.Service
import Accord.Types.Json

/-! Access tokens and login challenges.  Both are claim sets signed under one
secret; what tells them apart is which claims they hold. -/

namespace Accord

inductive ClaimValue where
  | text (value : String)
  | number (value : ℕ)
  | other
  deriving DecidableEq

abbrev ClaimSet := List (String × ClaimValue)

namespace ClaimSet

/-- A claim that is missing or given twice is an error. -/
def entry (name : String) (set : ClaimSet) : Option ClaimValue :=
  match set.filter (·.1 == name) with
  | [found] => some found.2
  | _ => none

def text (name : String) (set : ClaimSet) : Option String :=
  match set.entry name with
  | some (.text value) => some value
  | _ => none

def number (name : String) (set : ClaimSet) : Option ℕ :=
  match set.entry name with
  | some (.number value) => some value
  | _ => none

end ClaimSet

namespace Jwt

structure Claims where
  sub : String
  deviceId : String
  exp : ℕ
  iat : ℕ

structure ChallengeClaims where
  sub : String
  purpose : String
  nonce : String
  exp : ℕ
  iat : ℕ

def Claims.serialize (claims : Claims) : ClaimSet := [
  ("sub", .text claims.sub), ("device_id", .text claims.deviceId),
  ("exp", .number claims.exp), ("iat", .number claims.iat)]

/-- Every declared claim is required, and others are ignored. -/
def Claims.deserialize (set : ClaimSet) : Option Claims := do
  return {
    sub := ← set.text "sub"
    deviceId := ← set.text "device_id"
    exp := ← set.number "exp"
    iat := ← set.number "iat" }

def ChallengeClaims.serialize (claims : ChallengeClaims) : ClaimSet := [
  ("sub", .text claims.sub), ("purpose", .text claims.purpose),
  ("nonce", .text claims.nonce), ("exp", .number claims.exp),
  ("iat", .number claims.iat)]

def ChallengeClaims.deserialize (set : ClaimSet) :
    Option ChallengeClaims := do
  return {
    sub := ← set.text "sub"
    purpose := ← set.text "purpose"
    nonce := ← set.text "nonce"
    exp := ← set.number "exp"
    iat := ← set.number "iat" }

def leeway : ℕ := 60

def challengeTtlSecs : ℕ := 120

/-- The default validation asks for an expiry, and for nothing else that the
tokens of this server have. -/
def unexpired (now : ℕ) (set : ClaimSet) : Bool :=
  (set.number "exp").any fun exp => !(exp < now - leeway)

end Jwt

/-- The token library under the secret of the server: `encode` signs with
HS256, which does not fail for an HMAC key, and `decode` is the claim set of a
token whose HS256 signature verifies. -/
structure JwtKeys where
  encode : ClaimSet → String
  decode : String → Option ClaimSet
  ttlSecs : ℕ

namespace JwtKeys

variable (keys : JwtKeys)

open Jwt

/-- The library's `decode` at the type of the claims. -/
def decodeAs {Value : Type} (deserialize : ClaimSet → Option Value)
    (now : ℕ) (token : String) : Option Value := do
  let set ← keys.decode token
  let claims ← deserialize set
  if unexpired now set then some claims else none

def issue (now : ℕ) (user device : Uuid) : String :=
  keys.encode (Jwt.Claims.serialize {
    sub := user.text
    deviceId := device.text
    iat := now
    exp := now + keys.ttlSecs })

def verify (now : ℕ) (token : String) : Except ServerError Jwt.Claims :=
  match keys.decodeAs Jwt.Claims.deserialize now token with
  | some claims => .ok claims
  | none => .error .unauthenticated

def issueChallenge (now : ℕ) (identityPubkeyHex nonce : String) : String :=
  keys.encode (ChallengeClaims.serialize {
    sub := identityPubkeyHex
    purpose := "challenge"
    nonce := nonce
    iat := now
    exp := now + challengeTtlSecs })

def verifyChallenge (now : ℕ) (token : String) :
    Except ServerError String :=
  match keys.decodeAs ChallengeClaims.deserialize now token with
  | some claims =>
      if claims.purpose != "challenge" then
        .error .unauthenticated
      else
        .ok claims.sub
  | none => .error .unauthenticated

def crypto (others : AuthCrypto) (now : ℕ) : AuthCrypto :=
  { others with verifyChallenge := keys.verifyChallenge now }

end JwtKeys

namespace Jwt

/-! Neither kind of claim set is read as the other. -/

@[simp] theorem Claims.deserialize_serialize (claims : Claims) :
    Claims.deserialize claims.serialize = some claims := rfl

@[simp] theorem ChallengeClaims.deserialize_serialize
    (claims : ChallengeClaims) :
    ChallengeClaims.deserialize claims.serialize = some claims := rfl

@[simp] theorem ChallengeClaims.deserialize_access (claims : Claims) :
    ChallengeClaims.deserialize claims.serialize = none := rfl

@[simp] theorem Claims.deserialize_challenge (claims : ChallengeClaims) :
    Claims.deserialize claims.serialize = none := rfl

@[simp] theorem unexpired_challenge (now : ℕ) (claims : ChallengeClaims) :
    unexpired now claims.serialize = !(claims.exp < now - leeway) := by
  simp [unexpired, ChallengeClaims.serialize, ClaimSet.number,
    ClaimSet.entry]

end Jwt

namespace JwtKeys

/-- A token that was signed verifies, with the claims that were signed. -/
def Opens (keys : JwtKeys) : Prop :=
  ∀ set, keys.decode (keys.encode set) = some set

variable {keys : JwtKeys}

theorem decodes_of_verifyChallenge {now : ℕ} {token sub : String}
    (accepted : keys.verifyChallenge now token = .ok sub) :
    (keys.decode token).isSome = true := by
  cases decoded : keys.decode token with
  | some set => rfl
  | none => simp [verifyChallenge, decodeAs, decoded] at accepted

variable (opens : keys.Opens)

include opens

private theorem decodeAs_encode {Value : Type}
    (deserialize : ClaimSet → Option Value) (now : ℕ) (set : ClaimSet) :
    keys.decodeAs deserialize now (keys.encode set) =
      (deserialize set).bind fun claims =>
        if Jwt.unexpired now set then some claims else none := by
  simp only [decodeAs, opens set, Option.bind_eq_bind, Option.bind_some]

theorem verifyChallenge_issueChallenge (now later : ℕ)
    (identityPubkeyHex nonce : String) :
    keys.verifyChallenge later
        (keys.issueChallenge now identityPubkeyHex nonce) =
      if now + Jwt.challengeTtlSecs < later - Jwt.leeway then
        .error .unauthenticated
      else
        .ok identityPubkeyHex := by
  simp only [verifyChallenge, issueChallenge, decodeAs_encode opens,
    Jwt.ChallengeClaims.deserialize_serialize, Option.bind_some,
    Jwt.unexpired_challenge]
  by_cases expired : now + Jwt.challengeTtlSecs < later - Jwt.leeway
  · simp [expired]
  · simp [expired]

theorem verifyChallenge_issue (now later : ℕ) (user device : Uuid) :
    keys.verifyChallenge later (keys.issue now user device) =
      .error .unauthenticated := by
  simp only [verifyChallenge, issue, decodeAs_encode opens,
    Jwt.ChallengeClaims.deserialize_access, Option.bind_none]

theorem verify_issueChallenge (now later : ℕ)
    (identityPubkeyHex nonce : String) :
    keys.verify later (keys.issueChallenge now identityPubkeyHex nonce) =
      .error .unauthenticated := by
  simp only [verify, issueChallenge, decodeAs_encode opens,
    Jwt.Claims.deserialize_challenge, Option.bind_none]

end JwtKeys

namespace AuthSvc

theorem hexEncode_injective : Function.Injective hexEncode := by
  intro first second same
  have chars := String.ofList_injective same
  clear same
  induction first generalizing second with
  | nil =>
      cases second with
      | nil => rfl
      | cons byte rest => simp at chars
  | cons byte rest induction =>
      cases second with
      | nil => simp at chars
      | cons other others =>
          simp only [List.flatMap_cons, List.cons_append, List.nil_append,
            List.cons.injEq] at chars
          obtain ⟨high, low, tails⟩ := chars
          have bound := byte.toNat_lt
          have otherBound := other.toNat_lt
          have sameHigh := congrArg Uuid.hexValue high
          have sameLow := congrArg Uuid.hexValue low
          rw [Uuid.hexValue_digitChar _ (by omega),
            Uuid.hexValue_digitChar _ (by omega)] at sameHigh sameLow
          have sameByte : byte = other := by
            apply UInt8.toNat_inj.mp
            omega
          rw [sameByte, induction tails]

end AuthSvc

end Accord
