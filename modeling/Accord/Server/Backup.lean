import Accord.Server.Store.Model

/-! `BackupService`: opaque encrypted key backups, one a user. -/

namespace Accord

namespace Store

def getBackup (store : Store) (userId : Uuid) : Option BackupRow :=
  store.keyBackups.lookup userId

/-- `ON CONFLICT (user_id) DO UPDATE`: a stored backup is replaced. -/
def upsertBackup (store : Store) (userId : Uuid) (row : BackupRow) : Store :=
  { store with keyBackups := store.keyBackups.insert userId row }

theorem getBackup_upsertBackup (store : Store) (userId other : Uuid)
    (row : BackupRow) :
    (store.upsertBackup userId row).getBackup other =
      if other = userId then some row else store.getBackup other :=
  Mapping.lookup_insert_eq _ _ _ _

end Store

namespace BackupSvc

structure UploadKeyBackupRequest where
  encryptedBlob : Bytes
  salt : Bytes
  argon2Params : Bytes
  version : UInt32
  deriving DecidableEq

structure DownloadKeyBackupResponse where
  encryptedBlob : Bytes
  salt : Bytes
  argon2Params : Bytes
  version : UInt32
  deriving DecidableEq

def UploadKeyBackupRequest.row (req : UploadKeyBackupRequest) : BackupRow :=
  ⟨req.encryptedBlob, req.salt, req.argon2Params, req.version.toInt32⟩

def downloadResponse (row : BackupRow) : DownloadKeyBackupResponse :=
  ⟨row.encryptedBlob, row.salt, row.argon2Params, row.version.toUInt32⟩

/-- The shared path of `upload_key_backup` and `update_key_backup`. -/
def storeBackup (userId : Uuid) (req : UploadKeyBackupRequest) :
    Effect Store Status Unit :=
  if req.encryptedBlob.isEmpty || req.salt.isEmpty ||
      req.argon2Params.isEmpty then
    Effect.fail (ServerError.invalidArgument "incomplete backup")
  else
    Effect.update (·.upsertBackup userId req.row)

def uploadKeyBackup (token : Option Claims) (req : UploadKeyBackupRequest) :
    Effect Store Status Unit := do
  let claims ← authenticate token
  storeBackup claims.sub req

def downloadKeyBackup (token : Option Claims) :
    Effect Store Status DownloadKeyBackupResponse := do
  let claims ← authenticate token
  let row ← Effect.require (·.getBackup claims.sub)
    (ServerError.notFound "key backup")
  return downloadResponse row

theorem readOnly_downloadKeyBackup (token : Option Claims) :
    (downloadKeyBackup token).ReadOnly := by
  apply (readOnly_authenticate token).bind
  intro claims
  apply (Effect.readOnly_require _ _).bind
  intro row
  exact Effect.readOnly_pure _

/-- A complete upload by a signed-in user replaces that user's backup and no
other one. -/
theorem uploadKeyBackup_accepted {claims : Claims}
    {req : UploadKeyBackupRequest} (store : Store)
    (blob : req.encryptedBlob ≠ []) (salt : req.salt ≠ [])
    (params : req.argon2Params ≠ []) :
    (uploadKeyBackup (some claims) req store).2 =
      store.upsertBackup claims.sub req.row := by
  have complete : (req.encryptedBlob.isEmpty || req.salt.isEmpty ||
      req.argon2Params.isEmpty) = false := by
    simp [blob, salt, params]
  change (storeBackup claims.sub req store).2 = _
  unfold storeBackup
  rw [complete]
  rfl

end BackupSvc

end Accord
