import Accord.Client.KeyBackup
import Accord.Server.KeyPackages

/-! A key backup from the device that makes it to one that restores it: sealed,
on the wire, in the columns of either database and back. -/

namespace Accord

structure BackupStore (State : Type) where
  upsertBackup : State → Uuid → BackupRow → State
  getBackup : State → Uuid → Option BackupRow
  getBackup_upsertBackup : ∀ state userId other row,
    getBackup (upsertBackup state userId row) other =
      if other = userId then some row else getBackup state other

def BackupStore.memory : BackupStore Store where
  upsertBackup := Store.upsertBackup
  getBackup := Store.getBackup
  getBackup_upsertBackup := Store.getBackup_upsertBackup

namespace Backend

/-- `INTEGER` is 64 bits wide in SQLite and 32 in Postgres. -/
abbrev VersionColumn : Backend → Type
  | .sqlite => Int64
  | .postgres => Int32

def bindVersion : (backend : Backend) → Int32 → backend.VersionColumn
  | .sqlite, version => version.toInt64
  | .postgres, version => version

def versionOf : (backend : Backend) → backend.VersionColumn → Int32
  | .sqlite, column => column.toInt32
  | .postgres, column => column

private theorem versionOf_bindVersion (backend : Backend) (version : Int32) :
    backend.versionOf (backend.bindVersion version) = version := by
  cases backend with
  | sqlite => exact version.toInt32_toInt64
  | postgres => rfl

end Backend

structure KeyBackupColumns (backend : Backend) where
  encryptedBlob : Bytes
  salt : Bytes
  argon2Params : Bytes
  version : backend.VersionColumn

namespace KeyBackupColumns

variable {backend : Backend}

def ofRow (row : BackupRow) : KeyBackupColumns backend :=
  ⟨row.encryptedBlob, row.salt, row.argon2Params,
    backend.bindVersion row.version⟩

def row (columns : KeyBackupColumns backend) : BackupRow :=
  ⟨columns.encryptedBlob, columns.salt, columns.argon2Params,
    backend.versionOf columns.version⟩

private theorem row_ofRow (row : BackupRow) :
    (ofRow row : KeyBackupColumns backend).row = row := by
  unfold KeyBackupColumns.row ofRow
  rw [backend.versionOf_bindVersion]

end KeyBackupColumns

/-- `key_backups`, with its primary key. -/
abbrev KeyBackups (backend : Backend) :=
  Mapping Uuid (KeyBackupColumns backend)

def Backend.backups (backend : Backend) : BackupStore (KeyBackups backend) where
  upsertBackup table userId row := table.insert userId (.ofRow row)
  getBackup table userId := (table.lookup userId).map KeyBackupColumns.row
  getBackup_upsertBackup table userId other row := by
    rw [Mapping.lookup_insert_eq]
    split
    · exact congrArg some (KeyBackupColumns.row_ofRow row)
    · rfl

namespace BackupStore

open BackupSvc

variable {State : Type} (database : BackupStore State)

def storeBackup (userId : Uuid) (req : UploadKeyBackupRequest) :
    Effect State Status Unit :=
  if req.encryptedBlob.isEmpty || req.salt.isEmpty ||
      req.argon2Params.isEmpty then
    Effect.fail (ServerError.invalidArgument "incomplete backup")
  else
    Effect.update (database.upsertBackup · userId req.row)

/-- `update_key_backup` is the same function. -/
def uploadKeyBackup (token : Option Claims) (req : UploadKeyBackupRequest) :
    Effect State Status Unit := do
  let claims ← authenticate token
  database.storeBackup claims.sub req

def downloadKeyBackup (token : Option Claims) :
    Effect State Status DownloadKeyBackupResponse := do
  let claims ← authenticate token
  let row ← Effect.require (database.getBackup · claims.sub)
    (ServerError.notFound "key backup")
  return downloadResponse row

theorem uploadKeyBackup_memory :
    memory.uploadKeyBackup = BackupSvc.uploadKeyBackup := rfl

theorem downloadKeyBackup_memory :
    memory.downloadKeyBackup = BackupSvc.downloadKeyBackup := rfl

variable {database}

private theorem downloadResponse_row (req : UploadKeyBackupRequest) :
    downloadResponse req.row =
      ⟨req.encryptedBlob, req.salt, req.argon2Params, req.version⟩ := by
  unfold downloadResponse UploadKeyBackupRequest.row
  rw [UInt32.toUInt32_toInt32]

private theorem uploadKeyBackup_complete {claims : Claims}
    {req : UploadKeyBackupRequest} (blob : req.encryptedBlob ≠ [])
    (salt : req.salt ≠ []) (params : req.argon2Params ≠ [])
    (state : State) :
    database.uploadKeyBackup (some claims) req state =
      (.ok (), database.upsertBackup state claims.sub req.row) := by
  have complete : (req.encryptedBlob.isEmpty || req.salt.isEmpty ||
      req.argon2Params.isEmpty) = false := by
    simp [blob, salt, params]
  unfold uploadKeyBackup storeBackup
  rw [authenticate_bind, complete]
  rfl

private theorem downloadKeyBackup_eq (claims : Claims) (state : State) :
    (database.downloadKeyBackup (some claims) state).1 =
      match database.getBackup state claims.sub with
      | some row => .ok (downloadResponse row)
      | none => .error (ServerError.notFound "key backup").toStatus := by
  unfold downloadKeyBackup
  rw [authenticate_bind]
  cases found : database.getBackup state claims.sub with
  | none =>
      rw [Effect.bind_of_error (by rw [Effect.require, found])]
  | some row =>
      rw [Effect.bind_of_ok (by rw [Effect.require, found])]
      rfl

end BackupStore

/-! What one device uploads, another restores. -/

namespace KeyBackups

open Backup BackupSvc

def backupRequest (backup : EncryptedBackup) (version : UInt32) :
    UploadKeyBackupRequest :=
  { SyncCall.uploadRequest backup with version }

/-- What a device makes of a download: the secret, the parameters and the
version. -/
def restore (suite : Suite) (password : Bytes)
    (backup : DownloadKeyBackupResponse) :
    Except CryptoError (Bytes × Argon2Params × UInt32) := do
  let params ← Argon2Params.fromBytes backup.argon2Params
  let secret ← decryptBackup suite password backup.encryptedBlob backup.salt
    params
  return (secret, params, backup.version)

/-- Three words are twelve bytes, and only twelve bytes are three words. -/
structure ParamsAsBytes : Prop where
  read : ∀ params, Argon2Params.fromBytes (Argon2Params.toBytes params) =
    .ok params
  written : ∀ bytes params, Argon2Params.fromBytes bytes = .ok params →
    params.toBytes = bytes
  accepted : ∀ bytes, (∃ params, Argon2Params.fromBytes bytes = .ok params) ↔
    bytes.length = 12

/-- `backup` replaces what the user has, on every device of theirs and on none
of others. -/
structure Replaces (backend : Backend) (backup : EncryptedBackup)
    (version : UInt32) (table : KeyBackups backend) (claims : Claims)
    (opens : DownloadKeyBackupResponse → Prop) : Prop where
  accepted : (backend.backups.uploadKeyBackup (some claims)
    (backupRequest backup version) table).1 = .ok ()
  downloaded : ∀ device : Claims, device.sub = claims.sub →
    ∃ response, (backend.backups.downloadKeyBackup (some device)
      (backend.backups.uploadKeyBackup (some claims)
        (backupRequest backup version) table).2).1 = .ok response ∧
      opens response
  others : ∀ other : Claims, other.sub ≠ claims.sub →
    (backend.backups.downloadKeyBackup (some other)
      (backend.backups.uploadKeyBackup (some claims)
        (backupRequest backup version) table).2).1 =
    (backend.backups.downloadKeyBackup (some other) table).1

variable {suite : Suite} {salt : ByteArr 32} {nonce : ByteArr 24}
  {password secret : Bytes} {params : Argon2Params} {backup : EncryptedBackup}

private theorem paramsAsBytes : ParamsAsBytes where
  read := Argon2Params.fromBytes_toBytes
  written _ _ := Argon2Params.toBytes_of_fromBytes
  accepted _ := Argon2Params.fromBytes_ok_iff

private theorem restore_encryptBackup
    (made : encryptBackup suite salt nonce password secret params =
      .ok backup) (version : UInt32) :
    restore suite password ⟨backup.blob, backup.salt.toList,
      backup.params.toBytes, version⟩ = .ok (secret, params, version) := by
  have opened := decryptBackup_encryptBackup made
  obtain ⟨_, _, _, _, same⟩ := encryptBackup_ok made
  rw [same] at opened ⊢
  unfold restore
  rw [Argon2Params.fromBytes_toBytes]
  simp only [bind, Except.bind, opened]
  rfl

private theorem uploadKeyBackup_encryptBackup (backend : Backend)
    (made : encryptBackup suite salt nonce password secret params =
      .ok backup) (version : UInt32) (table : KeyBackups backend)
    (claims : Claims) :
    backend.backups.uploadKeyBackup (some claims)
        (backupRequest backup version) table =
      (.ok (), backend.backups.upsertBackup table claims.sub
        (backupRequest backup version).row) := by
  obtain ⟨blob, salt, params⟩ := SyncCall.uploadRequest_complete made
  apply BackupStore.uploadKeyBackup_complete
  · exact blob
  · exact salt
  · exact params

private theorem replaces_encryptBackup (backend : Backend)
    (made : encryptBackup suite salt nonce password secret params =
      .ok backup) (version : UInt32) (table : KeyBackups backend)
    (claims : Claims) :
    Replaces backend backup version table claims fun response =>
      restore suite password response = .ok (secret, params, version) := by
  have uploaded := uploadKeyBackup_encryptBackup backend made version table
    claims
  have found := backend.backups.getBackup_upsertBackup table claims.sub
  refine ⟨by rw [uploaded], fun device own => ?_, fun other differ => ?_⟩
  · refine ⟨_, ?_, restore_encryptBackup made version⟩
    rw [uploaded, BackupStore.downloadKeyBackup_eq, found, if_pos own]
    exact congrArg Except.ok (BackupStore.downloadResponse_row _)
  · rw [uploaded, BackupStore.downloadKeyBackup_eq, found, if_neg differ,
      BackupStore.downloadKeyBackup_eq]

/-- Under parameters that the key derivation accepts. -/
theorem backup_roundTrip (backend : Backend) {key : ByteArr 32}
    {ciphertext : Bytes}
    (derived : suite.argon2id password salt.toList params = .ok key)
    (encrypted : suite.encrypt key nonce secret = some ciphertext) :
    ParamsAsBytes ∧ ∃ backup,
      encryptBackup suite salt nonce password secret params = .ok backup ∧
      ∀ version table claims,
        Replaces backend backup version table claims fun response =>
          restore suite password response = .ok (secret, params, version) := by
  have made := encryptBackup_of_derived derived encrypted
  exact ⟨paramsAsBytes, _, made, fun version table claims =>
    replaces_encryptBackup backend made version table claims⟩

theorem backup_replaced :
    ∃ backup,
      encryptBackup SyncCall.taggingSuite (.replicate 32 7) (.replicate 24 9)
        [112, 119] [1, 2, 3] ⟨65536, 3, 1⟩ = .ok backup ∧
      ∀ claims table, Replaces .sqlite backup 4294967295 table claims
        fun response =>
          restore SyncCall.taggingSuite [112, 119] response =
            .ok ([1, 2, 3], ⟨65536, 3, 1⟩, 4294967295) := by
  obtain ⟨-, backup, made, replaces⟩ :=
    @backup_roundTrip SyncCall.taggingSuite (.replicate 32 7)
      (.replicate 24 9) [112, 119] [1, 2, 3] ⟨65536, 3, 1⟩ .sqlite _ _ rfl
      rfl
  exact ⟨backup, made, fun claims table => replaces _ table claims⟩

end KeyBackups

end Accord
