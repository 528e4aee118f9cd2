import Accord.Library.Search
import Accord.Types.Codes

/-! The address at which a tavern is reached, and the port that is taken from
it again when the tavern's host invites others. -/

namespace Accord

namespace InviteKey

def direct (host : String) (port : UInt16) (token : String) : InviteKey where
  transport := .direct
  host := host
  port := port
  token := token

def mesh (host : String) (port : UInt16) (token : String)
    (peers : List String) : InviteKey where
  transport := .mesh
  host := host
  port := port
  token := token
  peers := peers

def withCert (key : InviteKey) (cert : Option String) : InviteKey :=
  { key with cert := cert }

def endpoint (key : InviteKey) : String :=
  let scheme := if key.cert.isSome then "https" else "http"
  if key.host.toList.contains ':' then
    -- A literal of IPv6 has its own colons.
    scheme ++ "://[" ++ key.host ++ "]:" ++ toString key.port.toNat
  else
    scheme ++ "://" ++ key.host ++ ":" ++ toString key.port.toNat

end InviteKey

def parsePort (endpoint : String) : Option UInt16 :=
  let trimmed := endpoint.toList.rdropWhile (· == '/')
  parseU16 (String.ofList (trimmed.rtakeWhile (· != ':')))

/-- What `create_invite_key` needs besides the tavern's session. -/
structure InviteSetting where
  meshAddress : Option String
  meshPeers : List String
  localIp : Except String String

/-- The end of `create_invite_key`, when the token is minted. -/
def createInviteKey (setting : InviteSetting) (endpoint token : String)
    (cert : Option String) : Except String InviteKey := do
  let some port := parsePort endpoint
    | .error "could not determine the tavern's port"
  match setting.meshAddress with
  | some address =>
      .ok ((InviteKey.mesh address port token setting.meshPeers).withCert cert)
  | none =>
      let host ← setting.localIp.mapError fun error =>
        "could not determine LAN address: " ++ error
      .ok ((InviteKey.direct host port token).withCert cert)

private theorem parsePort_field (before : List Char) (port : UInt16)
    (slashes : ℕ) :
    parsePort (String.ofList (before ++ ':' :: (toString port.toNat).toList ++
      List.replicate slashes '/')) = some port := by
  have digits : ∀ char ∈ (toString port.toNat).toList,
      char.isDigit = true := fun _ => isDigit_toString
  have nonempty : (toString port.toNat).toList ≠ [] := by
    rw [Nat.toString_eq_ofList_toDigits, String.toList_ofList]
    exact Nat.toDigits_ne_nil
  have untouched : (before ++ ':' :: (toString port.toNat).toList ++
      List.replicate slashes '/').rdropWhile (· == '/') =
        before ++ ':' :: (toString port.toNat).toList := by
    apply Search.rdropWhile_append_replicate (by decide)
    intro filled
    rw [List.getLast_append_of_ne_nil _ (List.cons_ne_nil _ _),
      List.getLast_cons nonempty, beq_iff_eq]
    exact digit_ne (digits _ (List.getLast_mem nonempty)) (by decide)
  have field : (before ++ ':' :: (toString port.toNat).toList).rtakeWhile
      (· != ':') = (toString port.toNat).toList := by
    apply Search.rtakeWhile_append_cons (by decide)
    intro char member
    rw [bne_iff_ne]
    exact digit_ne (digits char member) (by decide)
  simp only [parsePort, String.toList_ofList]
  rw [untouched, field, String.ofList_toList]
  exact parseU16_toString port

private theorem InviteKey.endpoint_field (key : InviteKey) :
    ∃ before : List Char, key.endpoint.toList =
      before ++ ':' :: (toString key.port.toNat).toList := by
  simp only [endpoint]
  split
  · refine ⟨((if key.cert.isSome then "https" else "http") ++ "://[" ++
      key.host ++ "]").toList, ?_⟩
    simp [String.toList_append]
  · refine ⟨((if key.cert.isSome then "https" else "http") ++ "://" ++
      key.host).toList, ?_⟩
    simp [String.toList_append]

theorem parsePort_endpoint (key : InviteKey) (slashes : ℕ) :
    parsePort (key.endpoint ++ String.ofList (List.replicate slashes '/')) =
      some key.port := by
  obtain ⟨before, field⟩ := key.endpoint_field
  have text : key.endpoint ++ String.ofList (List.replicate slashes '/') =
      String.ofList (before ++ ':' :: (toString key.port.toNat).toList ++
        List.replicate slashes '/') := by
    rw [← String.ofList_toList (s := key.endpoint), field,
      ← String.ofList_append]
  rw [text]
  exact parsePort_field before key.port slashes

private theorem createInviteKey_port {setting : InviteSetting}
    {endpoint token : String} {cert : Option String} {key : InviteKey}
    (made : createInviteKey setting endpoint token cert = .ok key) :
    parsePort endpoint = some key.port := by
  unfold createInviteKey at made
  cases read : parsePort endpoint with
  | none =>
      rw [read] at made
      cases made
  | some port =>
      rw [read] at made
      cases address : setting.meshAddress with
      | some meshAddress =>
          simp only [address, Except.ok.injEq] at made
          rw [← made]
          rfl
      | none =>
          simp only [address] at made
          cases ip : setting.localIp with
          | error error =>
              rw [ip] at made
              cases made
          | ok host =>
              rw [ip] at made
              cases made
              rfl

/-- So all invites to a tavern name one port, through any chain of hosts. -/
theorem createInviteKey_endpoint {setting : InviteSetting} {token : String}
    {cert : Option String} {joined key : InviteKey}
    (made : createInviteKey setting joined.endpoint token cert = .ok key) :
    key.port = joined.port := by
  obtain ⟨before, field⟩ := joined.endpoint_field
  have read := parsePort_field before joined.port 0
  rw [List.replicate_zero, List.append_nil, ← field,
    String.ofList_toList, createInviteKey_port made] at read
  exact Option.some.inj read

end Accord
