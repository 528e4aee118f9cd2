import Accord.Client.Identity

/-! Private state of a client: sealed on disk under a key of the machine, and
marked for upload to the vaults of its servers. -/

namespace Accord

namespace AtRest

variable (suite : Backup.Suite)

/-- `seal_bytes` and `open_bytes`, given what `dek` returns. -/
def sealWith (dek : Except String (ByteArr 32)) (nonce : ByteArr 24)
    (plaintext : Bytes) : Except String Bytes := do
  let key ← dek
  (Backup.sealBlob suite nonce key plaintext).mapError CryptoError.text

def openWith (dek : Except String (ByteArr 32)) (blob : Bytes) :
    Option Bytes :=
  match dek with
  | .ok key => (Backup.openBlob suite key blob).toOption
  | .error _ => none

variable {suite}

theorem sealBytes_eq (draws : Draws) (plaintext : Bytes)
    (install : Install) :
    sealBytes suite draws plaintext install =
      (sealWith suite (dek draws.dataKey install).1 draws.nonce plaintext,
        (dek draws.dataKey install).2) := by
  unfold sealBytes sealWith
  cases found : dek draws.dataKey install with
  | mk result after =>
      cases result with
      | ok key => rw [Effect.bind_of_ok found]; rfl
      | error cause => rw [Effect.bind_of_error found]; rfl

theorem openWith_sealWith {key : ByteArr 32} {dek : Except String Unit}
    {nonce : ByteArr 24} {plaintext blob : Bytes}
    (sealed : sealWith suite (dek.map fun _ => key) nonce plaintext =
      .ok blob) : openWith suite (.ok key) blob = some plaintext := by
  unfold sealWith at sealed
  cases dek with
  | error cause => cases sealed
  | ok _ =>
      simp only [Except.map, bind, Except.bind] at sealed
      cases made : Backup.sealBlob suite nonce key plaintext with
      | error cause =>
          rw [made] at sealed
          cases sealed
      | ok own =>
          rw [made] at sealed
          cases sealed
          change (Backup.openBlob suite key blob).toOption = _
          rw [Backup.openBlob_sealBlob made]
          rfl

end AtRest

/-- What awaits upload, by the user it belongs to: the latest state of an MLS
engine, and the groups whose history has changed. -/
structure Sync where
  mls : List (String × Bytes) := []
  groups : List (String × String) := []
  deriving DecidableEq

namespace Sync

def markMls (userId : String) (bytes : Bytes) (sync : Sync) : Sync :=
  { sync with
    mls := sync.mls.filter (·.1 != userId) ++ [(userId, bytes)] }

def markGroup (userId groupId : String) (sync : Sync) : Sync :=
  if (userId, groupId) ∈ sync.groups then sync
  else { sync with groups := sync.groups ++ [(userId, groupId)] }

theorem mem_markMls {userId : String} {bytes : Bytes} {sync : Sync}
    {mark : String × Bytes} :
    mark ∈ (sync.markMls userId bytes).mls ↔
      mark = (userId, bytes) ∨ mark ∈ sync.mls ∧ mark.1 ≠ userId := by
  unfold markMls
  simp only [List.mem_append, List.mem_filter, bne_iff_ne,
    List.mem_singleton]
  exact Or.comm

theorem mem_markGroup {userId groupId : String} {sync : Sync}
    {mark : String × String} :
    mark ∈ (sync.markGroup userId groupId).groups ↔
      mark = (userId, groupId) ∨ mark ∈ sync.groups := by
  unfold markGroup
  split
  · next marked =>
    refine ⟨.inr, ?_⟩
    rintro (rfl | kept)
    · exact marked
    · exact kept
  · rw [List.mem_append, List.mem_singleton]
    exact Or.comm

end Sync

end Accord
