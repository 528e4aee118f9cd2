import Accord.Client.Identity
import Accord.Server.Backup

/-! `sync_key_backup`: what signing in does to the master key of the device
and to the backup of it on the server. -/

namespace Accord

/-- `Code`'s `Display` text. -/
def Code.description : Code → String
  | .cancelled => "The operation was cancelled"
  | .unknown => "Unknown error"
  | .invalidArgument => "Client specified an invalid argument"
  | .deadlineExceeded => "Deadline expired before operation could complete"
  | .notFound => "Some requested entity was not found"
  | .alreadyExists =>
      "Some entity that we attempted to create already exists"
  | .permissionDenied =>
      "The caller does not have permission to execute the specified operation"
  | .resourceExhausted => "Some resource has been exhausted"
  | .failedPrecondition =>
      "The system is not in a state required for the operation's execution"
  | .aborted => "The operation was aborted"
  | .outOfRange => "Operation was attempted past the valid range"
  | .unimplemented => "Operation is not implemented or not supported"
  | .internal => "Internal error"
  | .unavailable => "The service is currently unavailable"
  | .dataLoss => "Unrecoverable data loss or corruption"
  | .unauthenticated =>
      "The request does not have valid authentication credentials"

def statusToString (status : Status) : String :=
  status.code.description ++ ": " ++ status.message

structure ClientWorld where
  install : Install
  store : Store

/-- What becomes of one RPC: it is answered by the handler, it never reaches
the handler, or its answer is lost. -/
inductive Transport where
  | answered
  | undelivered (status : Status)
  | unanswered (status : Status)

/-- The access token of the session: whether its text is a legal header value
and the claims the server verifies in it. -/
structure AccessToken where
  header : Bool
  claims : Option Claims

structure SyncCall where
  token : AccessToken
  password : String
  draws : ℕ → Draws
  salt : ByteArr 32
  nonce : ByteArr 24
  download : Transport
  upload : Transport

def asBytes (text : String) : Bytes := text.toUTF8.data.toList

def authed (token : AccessToken) : Effect ClientWorld String Unit :=
  Effect.check (fun _ => token.header) "invalid token"

section Parts

variable {Error Value : Type}

def onInstall (inner : Effect Install Error Value) :
    Effect ClientWorld Error Value :=
  Effect.zoom (·.install) (fun install world => { world with install }) inner

def onServer (handler : Effect Store Error Value) :
    Effect ClientWorld Error Value :=
  Effect.zoom (·.store) (fun store world => { world with store }) handler

def Transport.call (transport : Transport)
    (handler : Effect Store Status Value) : Effect ClientWorld Status Value :=
  match transport with
  | .answered => onServer handler
  | .undelivered status => Effect.fail status
  | .unanswered status => do
      (onServer handler).attempt
      Effect.fail status

end Parts

def Transport.delivers : Transport → Bool
  | .undelivered _ => false
  | _ => true

open Backup in
/-- The master key in a backup, as a device without one recovers it. -/
def recoverMaster (suite : Suite) (password : String)
    (backup : BackupSvc.DownloadKeyBackupResponse) :
    Except String IdentityKeyPair := do
  let params ← (Argon2Params.fromBytes backup.argon2Params).mapError
    CryptoError.text
  let secret ← (decryptBackup suite (asBytes password) backup.encryptedBlob
    backup.salt params).mapError
      fun _ => "could not decrypt key backup (wrong password?)"
  match ByteArr.tryFrom 32 secret with
  | some keypair => .ok keypair
  | none => .error "corrupt key backup"

theorem recoverMaster_of_parts {suite : Backup.Suite} {password : String}
    {backup : BackupSvc.DownloadKeyBackupResponse}
    {params : Backup.Argon2Params} {secret : Bytes}
    {keypair : IdentityKeyPair}
    (readable : Backup.Argon2Params.fromBytes backup.argon2Params = .ok params)
    (opened : Backup.decryptBackup suite (asBytes password)
      backup.encryptedBlob backup.salt params = .ok secret)
    (sized : ByteArr.tryFrom 32 secret = some keypair) :
    recoverMaster suite password backup = .ok keypair := by
  simp only [recoverMaster, readable, opened, sized, Except.mapError, bind,
    Except.bind]

namespace SyncCall

open Identity

variable (suite : Backup.Suite) (call : SyncCall)

/-- Every failure of the download counts as "no backup". -/
def downloadBackup : Effect ClientWorld String
    (Option BackupSvc.DownloadKeyBackupResponse) :=
  (call.download.call
    (BackupSvc.downloadKeyBackup call.token.claims)).optional

/-- Recover the key from the backup, or create a fresh one. -/
def recoverOrCreate :
    Option BackupSvc.DownloadKeyBackupResponse →
      Effect ClientWorld String Unit
  | some backup => do
      let keypair ← Effect.ofExcept
        (recoverMaster suite call.password backup)
      onInstall (saveMaster suite (call.draws 1) keypair)
  | none => do
      let _ ← onInstall (loadOrCreateMaster suite (call.draws 1))
      return ()

def restoreMaster (downloaded : Option BackupSvc.DownloadKeyBackupResponse) :
    Effect ClientWorld String Unit := do
  let cached ← onInstall (loadMaster suite (call.draws 0))
  if cached.isNone then
    call.recoverOrCreate suite downloaded

def encrypt (master : IdentityKeyPair) :
    Except CryptoError Backup.EncryptedBackup :=
  Backup.encryptBackup suite call.salt call.nonce (asBytes call.password)
    master.toList default

def uploadRequest (backup : Backup.EncryptedBackup) :
    BackupSvc.UploadKeyBackupRequest where
  encryptedBlob := backup.blob
  salt := backup.salt.toList
  argon2Params := backup.params.toBytes
  version := 1

def uploadMaster : Effect ClientWorld String Unit := do
  let master ← onInstall (loadOrCreateMaster suite (call.draws 2))
  let backup ← Effect.ofExcept
    ((encrypt suite call master).mapError CryptoError.text)
  authed call.token
  (call.upload.call (BackupSvc.uploadKeyBackup call.token.claims
    (uploadRequest backup))).mapError statusToString

def syncKeyBackup : Effect ClientWorld String Unit := do
  authed call.token
  let downloaded ← call.downloadBackup
  call.restoreMaster suite downloaded
  if downloaded.isNone then
    call.uploadMaster suite

/-- The row holds the key for those who know the password. -/
def Holds (password : String) (row : BackupRow) (master : IdentityKeyPair) :
    Prop :=
  recoverMaster suite password (BackupSvc.downloadResponse row) = .ok master

variable {suite call}

theorem downloadBackup_eq (call : SyncCall) (world : ClientWorld) :
    ∃ downloaded, call.downloadBackup world = (.ok downloaded, world) := by
  have readOnly := BackupSvc.readOnly_downloadKeyBackup call.token.claims
    world.store
  have unchanged : (call.download.call
      (BackupSvc.downloadKeyBackup call.token.claims) world).2 = world := by
    unfold Transport.call
    cases call.download with
    | answered => exact congrArg (ClientWorld.mk world.install) readOnly
    | undelivered status => rfl
    | unanswered status =>
        exact congrArg (ClientWorld.mk world.install) readOnly
  exact ⟨_, Prod.ext rfl unchanged⟩

private theorem keeps_store_onInstall {Value : Type}
    (inner : Effect Install String Value) (store : Store) :
    (onInstall inner).Keeps fun world => world.store = store :=
  fun _ same => same

private theorem recoverOrCreate_store (store : Store)
    (downloaded : Option BackupSvc.DownloadKeyBackupResponse) :
    (call.recoverOrCreate suite downloaded).Keeps fun world =>
      world.store = store := by
  cases downloaded with
  | some backup =>
      refine Effect.Keeps.bind (Effect.readOnly_ofExcept _).keeps ?_
      intro keypair
      exact keeps_store_onInstall _ _
  | none =>
      apply Effect.Keeps.bind (keeps_store_onInstall _ _)
      intro _
      exact (Effect.readOnly_pure _).keeps

theorem restoreMaster_store
    (downloaded : Option BackupSvc.DownloadKeyBackupResponse)
    (world : ClientWorld) :
    (call.restoreMaster suite downloaded world).2.store = world.store := by
  have kept : (call.restoreMaster suite downloaded).Keeps fun after =>
      after.store = world.store := by
    apply Effect.Keeps.bind (keeps_store_onInstall _ _)
    intro cached
    cases cached with
    | some _ => exact (Effect.readOnly_pure _).keeps
    | none => exact recoverOrCreate_store _ _
  exact kept world rfl

theorem onInstall_of_eq {Value : Type} {inner : Effect Install String Value}
    {world : ClientWorld} {result : Except String Value} {after : Install}
    (ran : inner world.install = (result, after)) :
    onInstall inner world = (result, { world with install := after }) := by
  unfold onInstall Effect.zoom
  rw [ran]

theorem uploadRequest_complete {salt : ByteArr 32} {nonce : ByteArr 24}
    {password plaintext : Bytes} {params : Backup.Argon2Params}
    {backup : Backup.EncryptedBackup}
    (encrypted : Backup.encryptBackup suite salt nonce password plaintext
      params = .ok backup) :
    (uploadRequest backup).encryptedBlob ≠ [] ∧
      (uploadRequest backup).salt ≠ [] ∧
      (uploadRequest backup).argon2Params ≠ [] := by
  obtain ⟨wrapping, _, sealed, _, _⟩ := Backup.encryptBackup_ok encrypted
  refine ⟨?_, ?_, ?_⟩
  · have long := Backup.nonceLen_le_length sealed
    intro empty
    change backup.blob = [] at empty
    rw [empty] at long
    exact absurd long (by decide)
  · apply List.ne_nil_of_length_pos
    change 0 < backup.salt.toList.length
    rw [backup.salt.toList_length]
    decide
  · apply List.ne_nil_of_length_pos
    change 0 < backup.params.toBytes.length
    rw [Backup.Argon2Params.length_toBytes]
    decide

theorem uploadKeyBackup_store {key : IdentityKeyPair}
    {backup : Backup.EncryptedBackup}
    (encrypted : call.encrypt suite key = .ok backup) (claims : Claims)
    (store : Store) :
    (BackupSvc.uploadKeyBackup (some claims) (uploadRequest backup)
      store).2 = store.upsertBackup claims.sub (uploadRequest backup).row := by
  obtain ⟨blob, salt, params⟩ := uploadRequest_complete encrypted
  exact BackupSvc.uploadKeyBackup_accepted store blob salt params

theorem authed_of_header {token : AccessToken} (header : token.header = true)
    (world : ClientWorld) : authed token world = (.ok (), world) :=
  Effect.check_of_true (fun _ => token.header) header _

def taggingSuite : Backup.Suite where
  argon2id password _ _ :=
    .ok ⟨(password ++ List.replicate 32 0).take 32, by simp⟩
  encrypt key _ plaintext := some (key.toList ++ plaintext)
  decrypt key _ ciphertext :=
    if ciphertext.take 32 = key.toList then some (ciphertext.drop 32)
    else none
  decrypt_encrypt key nonce plaintext ciphertext encrypted := by
    cases encrypted
    rw [List.take_left' key.toList_length, if_pos rfl,
      List.drop_left' key.toList_length]

end SyncCall

end Accord
