import Accord.Client.KeyBackup

/-! The key backup on the server when its download fails.  The device uploads
the key that it has, or one that it makes. -/

namespace Accord

namespace SyncCall

open Identity

section Condition

variable (suite : Backup.Suite) (call : SyncCall)

/-- No stored backup is replaced by a backup of another master key. -/
def NeverClobbers (world : ClientWorld) : Prop :=
  ∀ user stored password master,
    world.store.getBackup user = some stored →
    Holds suite password stored master →
    ∀ row, (call.syncKeyBackup suite world).2.store.getBackup user =
      some row → row ≠ stored →
    ∀ other, Holds suite call.password row other → other = master

/-- The user's download fails, and an upload in its place reaches the
server. -/
structure Reaches (user : Uuid) : Prop where
  header : call.token.header = true
  failed : ¬call.download matches .answered
  delivered : call.upload.delivers = true
  signedIn : ∃ claims, call.token.claims = some claims ∧ claims.sub = user

def sealedKeyLen : ℕ := 72

/-- A key in plaintext is to be sealed, and the write stops short of that. -/
structure TornEarly (install : Install) (size : ℕ) : Prop where
  keyed : install.keyed = true
  short : size < sealedKeyLen
  torn : ∃ cause, (call.draws 0).write = .torn cause size

/-- If a download fails although the user has a backup, and an upload in its
place reaches the server, the device has the same key, or none and no way to
save a new one. -/
def Spares (world : ClientWorld) : Prop :=
  ∀ user stored password master,
    world.store.getBackup user = some stored →
    Holds suite password stored master → call.Reaches user →
    match world.install.localKey suite (call.draws 0).dataKey with
    | .sealed keypair => keypair = master
    | .plain keypair =>
        (keypair = master ∧ ∀ size, ¬call.TornEarly world.install size) ∨
          ∃ size, call.TornEarly world.install size ∧ size ≠ 32 ∧
            (call.draws 2).write ≠ .done
    | .missing => world.install.CanSave → (call.draws 1).write ≠ .done

/-- The KDF and the cipher work, with a tag of 16 bytes, and no beginning of
what a plaintext key is sealed to opens. -/
structure Ideal (install : Install) : Prop where
  derives : ∃ key, suite.argon2id (asBytes call.password) call.salt.toList
    default = .ok key
  encrypts : ∀ key nonce (secret : ByteArr 32), ∃ ciphertext,
    suite.encrypt key nonce secret.toList = some ciphertext ∧
      ciphertext.length = 32 + 16
  unforged : ∀ key keypair blob,
    install.localKey suite (call.draws 0).dataKey = .plain keypair →
    install.dataKey (call.draws 0).dataKey = some key →
    Backup.sealBlob suite (call.draws 0).nonce key keypair.toList =
      .ok blob →
    ∀ size < blob.length,
      Backup.openBlob suite key (blob.take size) = .error .decryption

/-- What is drawn has nothing to do with the backups that are stored. -/
structure Fresh (world : ClientWorld) : Prop where
  salt : ∀ user stored, world.store.getBackup user = some stored →
    call.salt.toList ≠ stored.salt
  master : ∀ user stored password master,
    world.store.getBackup user = some stored →
    Holds suite password stored master → ∀ index,
      (call.draws index).master ≠ master ∧
        ¬(call.draws index).nonce.toList <+: master.toList

end Condition

variable {suite : Backup.Suite} {call : SyncCall}

/-- After a failed download the device has the key to upload. -/
def Ends (suite : Backup.Suite) (call : SyncCall) (world : ClientWorld)
    (key : IdentityKeyPair) : Prop :=
  ∃ after, call.restoreMaster suite none world = (.ok (), after) ∧
    (loadOrCreateMaster suite (call.draws 2) after.install).1 = .ok key

/-- After a failed download it does not come to an upload. -/
def Stops (suite : Backup.Suite) (call : SyncCall) (world : ClientWorld) :
    Prop :=
  ∃ cause after, call.restoreMaster suite none world = (.error cause, after) ∨
    call.restoreMaster suite none world = (.ok (), after) ∧
      (loadOrCreateMaster suite (call.draws 2) after.install).1 =
        .error cause

private theorem restoreMaster_of_found {world : ClientWorld}
    {keypair : IdentityKeyPair} {after : Install}
    (loaded : loadMaster suite (call.draws 0) world.install =
      (.ok (some keypair), after))
    (downloaded : Option BackupSvc.DownloadKeyBackupResponse) :
    call.restoreMaster suite downloaded world =
      (.ok (), { world with install := after }) := by
  unfold restoreMaster
  rw [Effect.bind_of_ok (onInstall_of_eq loaded)]
  rfl

private theorem restoreMaster_of_missing {world : ClientWorld}
    {middle after : Install}
    {result : Except String IdentityKeyPair}
    (loaded : loadMaster suite (call.draws 0) world.install =
      (.ok none, middle))
    (created : loadOrCreateMaster suite (call.draws 1) middle =
      (result, after)) :
    call.restoreMaster suite none world =
      (result.map fun _ => (), { world with install := after }) := by
  unfold restoreMaster
  rw [Effect.bind_of_ok (onInstall_of_eq loaded)]
  have ran : onInstall (loadOrCreateMaster suite (call.draws 1))
      { world with install := middle } =
        (result, { world with install := after }) := onInstall_of_eq created
  cases result with
  | error cause => exact Effect.bind_of_error ran _
  | ok key => exact Effect.bind_of_ok ran _

section Keys

variable {world : ClientWorld} {keypair : IdentityKeyPair}

private theorem Ideal.seals (ideal : call.Ideal suite world.install)
    (nonce : ByteArr 24) (secret : ByteArr 32) (key : ByteArr 32) :
    ∃ blob, Backup.sealBlob suite nonce key secret.toList = .ok blob ∧
      blob.length = sealedKeyLen ∧ nonce.toList <+: blob := by
  obtain ⟨ciphertext, encrypted, length⟩ := ideal.encrypts key nonce secret
  refine ⟨nonce.toList ++ ciphertext, ?_, ?_, List.prefix_append _ _⟩
  · unfold Backup.sealBlob
    rw [encrypted]
  · rw [List.length_append, nonce.toList_length, length]
    rfl

private theorem Ideal.seals_ok (ideal : call.Ideal suite world.install)
    (nonce : ByteArr 24) (secret : ByteArr 32) :
    ∀ key, ∃ blob,
      Backup.sealBlob suite nonce key secret.toList = .ok blob :=
  fun key => (ideal.seals nonce secret key).imp fun _ made => made.1

private theorem ends_of_sealed
    (sealed : world.install.localKey suite (call.draws 0).dataKey =
      .sealed keypair) : Ends suite call world keypair := by
  obtain ⟨after, loaded, has⟩ := loadMaster_of_sealed sealed
  exact ⟨_, restoreMaster_of_found loaded none,
    loadOrCreateMaster_of_has has _⟩

private theorem ends_of_plain (ideal : call.Ideal suite world.install)
    (plain : world.install.localKey suite (call.draws 0).dataKey =
      .plain keypair)
    (whole : ∀ size, ¬call.TornEarly world.install size) :
    Ends suite call world keypair := by
  obtain ⟨after, loaded, has⟩ := loadMaster_keeps_plain plain
    (ideal.seals_ok _ _) fun key blob cause size keyed sealed torn => by
      obtain ⟨other, same, length, _⟩ :=
        ideal.seals (call.draws 0).nonce keypair key
      cases sealed.symm.trans same
      by_contra short
      refine whole size ⟨?_, length ▸ Nat.lt_of_not_le short, cause, torn⟩
      rw [← Install.dataKey_isSome _ (call.draws 0).dataKey, keyed]
      rfl
  exact ⟨_, restoreMaster_of_found loaded none,
    loadOrCreateMaster_of_has has _⟩

private theorem tears_plain (ideal : call.Ideal suite world.install)
    (plain : world.install.localKey suite (call.draws 0).dataKey =
      .plain keypair) {size : ℕ}
    (torn : call.TornEarly world.install size) :
    ∃ part : Bytes, part.length = size ∧
      (size = 32 → (call.draws 0).nonce.toList <+: part) ∧
      ∃ after, loadMaster suite (call.draws 0) world.install =
          (.ok (some keypair), after) ∧ after.CanSave ∧
        ∀ other, after.localKey suite other =
          match ByteArr.tryFrom 32 part with
          | some found => .plain found
          | none => .missing := by
  obtain ⟨cause, written⟩ := torn.torn
  have keyed := torn.keyed
  rw [← Install.dataKey_isSome _ (call.draws 0).dataKey] at keyed
  obtain ⟨key, keyed⟩ := Option.isSome_iff_exists.mp keyed
  obtain ⟨blob, sealed, length, front⟩ :=
    ideal.seals (call.draws 0).nonce keypair key
  obtain ⟨after, loaded, saves, left⟩ :=
    loadMaster_tears_plain plain keyed sealed written
  have short : size < blob.length := length ▸ torn.short
  have unopened : sealedKey suite key (blob.take size) = none := by
    unfold sealedKey
    rw [ideal.unforged key keypair blob plain keyed sealed size short]
    rfl
  refine ⟨blob.take size, ?_, ?_, after, loaded, saves, fun other => ?_⟩
  · rw [List.length_take]
    exact Nat.min_eq_left short.le
  · rintro rfl
    refine List.prefix_take_iff.mpr ⟨front, ?_⟩
    rw [List.Vector.toList_length]
    decide
  · cases parsed : ByteArr.tryFrom 32 (blob.take size) <;>
      simp [left other, LocalKey.ofFile, unopened, parsed]

end Keys

/-- The upload that follows a failed download reaches the server. -/
structure Uploads (suite : Backup.Suite) (call : SyncCall)
    (world : ClientWorld) (user : Uuid) (key : IdentityKeyPair)
    (backup : Backup.EncryptedBackup) : Prop where
  header : call.token.header = true
  failed : (call.downloadBackup world).1 = .ok none
  ends : Ends suite call world key
  encrypted : call.encrypt suite key = .ok backup
  delivered : call.upload.delivers = true
  signedIn : ∃ claims, call.token.claims = some claims ∧ claims.sub = user

theorem Ends.unique {world : ClientWorld} {key other : IdentityKeyPair}
    (ends : Ends suite call world key) (again : Ends suite call world other) :
    key = other := by
  obtain ⟨after, restored, loaded⟩ := ends
  obtain ⟨final, same, reloaded⟩ := again
  cases restored.symm.trans same
  cases loaded.symm.trans reloaded
  rfl

private theorem Ends.not_stops {world : ClientWorld} {key : IdentityKeyPair}
    (ends : Ends suite call world key) : ¬Stops suite call world := by
  obtain ⟨after, restored, loaded⟩ := ends
  rintro ⟨cause, final, failed | ⟨same, reloaded⟩⟩
  · cases restored.symm.trans failed
  · cases restored.symm.trans same
    cases loaded.symm.trans reloaded

private theorem uploadMaster_of_error {world : ClientWorld} {cause : String}
    (failed : (loadOrCreateMaster suite (call.draws 2) world.install).1 =
      .error cause) :
    (call.uploadMaster suite world).2.store = world.store := by
  have ran : onInstall (loadOrCreateMaster suite (call.draws 2)) world =
      (.error cause, _) := onInstall_of_eq (Prod.ext failed rfl)
  unfold uploadMaster
  rw [Effect.bind_of_error ran]

private theorem uploadMaster_unencrypted {world : ClientWorld}
    {key : IdentityKeyPair}
    {error : CryptoError}
    (loaded : (loadOrCreateMaster suite (call.draws 2) world.install).1 =
      .ok key) (failed : call.encrypt suite key = .error error) :
    (call.uploadMaster suite world).2.store = world.store := by
  have ran : onInstall (loadOrCreateMaster suite (call.draws 2)) world =
      (.ok key, _) := onInstall_of_eq (Prod.ext loaded rfl)
  unfold uploadMaster
  rw [Effect.bind_of_ok ran, failed]
  rfl

private theorem uploadMaster_store {world : ClientWorld} {key : IdentityKeyPair}
    {backup : Backup.EncryptedBackup}
    (loaded : (loadOrCreateMaster suite (call.draws 2) world.install).1 =
      .ok key) (encrypted : call.encrypt suite key = .ok backup)
    (header : call.token.header = true) :
    (call.uploadMaster suite world).2.store =
      if call.upload.delivers then
        (BackupSvc.uploadKeyBackup call.token.claims (uploadRequest backup)
          world.store).2
      else world.store := by
  have ran : onInstall (loadOrCreateMaster suite (call.draws 2)) world =
      (.ok key, { world with
        install := (loadOrCreateMaster suite (call.draws 2)
          world.install).2 }) := onInstall_of_eq (Prod.ext loaded rfl)
  unfold uploadMaster
  rw [Effect.bind_of_ok ran, encrypted]
  change ((authed call.token >>= _) _).2.store = _
  rw [Effect.bind_of_ok (authed_of_header header _)]
  unfold Transport.call Transport.delivers
  cases call.upload with
  | answered => rfl
  | undelivered status => rfl
  | unanswered status => rfl

private theorem holds_uploadRequest {key : IdentityKeyPair}
    {backup : Backup.EncryptedBackup}
    (encrypted : call.encrypt suite key = .ok backup) :
    Holds suite call.password (uploadRequest backup).row key :=
  recoverMaster_of_parts (Backup.Argon2Params.fromBytes_toBytes _)
    (Backup.decryptBackup_encryptBackup encrypted)
    (ByteArr.tryFrom_toList key)

private theorem syncKeyBackup_of_header (header : call.token.header = true)
    {world : ClientWorld}
    {downloaded : Option BackupSvc.DownloadKeyBackupResponse}
    (answer : call.downloadBackup world = (.ok downloaded, world)) :
    call.syncKeyBackup suite world =
      (call.restoreMaster suite downloaded >>= fun _ =>
        if downloaded.isNone then call.uploadMaster suite else pure ())
        world := by
  unfold syncKeyBackup
  rw [Effect.bind_of_ok (authed_of_header header world),
    Effect.bind_of_ok answer]

private theorem syncKeyBackup_downloaded (header : call.token.header = true)
    {world : ClientWorld} {backup : BackupSvc.DownloadKeyBackupResponse}
    (answer : call.downloadBackup world = (.ok (some backup), world)) :
    (call.syncKeyBackup suite world).2.store = world.store := by
  rw [syncKeyBackup_of_header header answer]
  have kept : (call.restoreMaster suite (some backup) world).2.store =
      world.store := restoreMaster_store _ world
  rcases ran : call.restoreMaster suite (some backup) world with
    ⟨result, after⟩
  rw [ran] at kept
  cases result with
  | error cause =>
      rw [Effect.bind_of_error ran]
      exact kept
  | ok _ =>
      rw [Effect.bind_of_ok ran]
      exact kept

private theorem uploads_or_unchanged (header : call.token.header = true)
    {world after : ClientWorld} {key : IdentityKeyPair}
    (failed : (call.downloadBackup world).1 = .ok none)
    (restored : call.restoreMaster suite none world = (.ok (), after))
    (loaded : (loadOrCreateMaster suite (call.draws 2) after.install).1 =
      .ok key) :
    (∃ user backup, Uploads suite call world user key backup ∧
      (call.uploadMaster suite after).2.store =
        world.store.upsertBackup user (uploadRequest backup).row) ∨
    (∀ user other backup, ¬Uploads suite call world user other backup) ∧
      (call.uploadMaster suite after).2.store = world.store := by
  have kept : after.store = world.store := by
    have same : (call.restoreMaster suite none world).2.store =
        world.store := restoreMaster_store none world
    rw [restored] at same
    exact same
  have ends : Ends suite call world key := ⟨after, restored, loaded⟩
  cases encrypted : call.encrypt suite key with
  | error error =>
      refine .inr ⟨fun user other backup uploads => ?_,
        (uploadMaster_unencrypted loaded encrypted).trans kept⟩
      rw [ends.unique uploads.ends, uploads.encrypted] at encrypted
      cases encrypted
  | ok backup =>
      have stored := uploadMaster_store loaded encrypted header
      rw [kept] at stored
      cases delivered : call.upload.delivers with
      | false =>
          rw [delivered] at stored
          refine .inr ⟨fun user other backup uploads => ?_, stored⟩
          exact absurd (uploads.delivered.symm.trans delivered) (by decide)
      | true =>
          rw [delivered] at stored
          cases signedIn : call.token.claims with
          | none =>
              rw [signedIn] at stored
              refine .inr ⟨fun user other backup uploads => ?_, stored⟩
              obtain ⟨claims, present, _⟩ := uploads.signedIn
              cases signedIn.symm.trans present
          | some claims =>
              rw [signedIn] at stored
              refine .inl ⟨claims.sub, backup, ?_,
                stored.trans (uploadKeyBackup_store encrypted _ _)⟩
              exact ⟨header, failed, ends, encrypted, delivered, claims,
                signedIn, rfl⟩

/-- The one thing that can happen to the store: an upload in place of the
download that failed. -/
private theorem syncKeyBackup_store (suite : Backup.Suite) (call : SyncCall)
    (world : ClientWorld) :
    (∃ user key backup, Uploads suite call world user key backup ∧
      (call.syncKeyBackup suite world).2.store =
        world.store.upsertBackup user (uploadRequest backup).row) ∨
    (∀ user key backup, ¬Uploads suite call world user key backup) ∧
      (call.syncKeyBackup suite world).2.store = world.store := by
  obtain ⟨downloaded, answer⟩ := downloadBackup_eq call world
  cases header : call.token.header with
  | false =>
      refine .inr ⟨fun user key backup uploads => ?_, ?_⟩
      · exact absurd uploads.header (by rw [header]; decide)
      · have refused : authed call.token world =
            (.error "invalid token", world) :=
          Effect.check_of_false (fun _ => call.token.header) header _
        unfold syncKeyBackup
        rw [Effect.bind_of_error refused]
  | true =>
      cases downloaded with
      | some backup =>
          refine .inr ⟨fun user key other uploads => ?_,
            syncKeyBackup_downloaded header answer⟩
          have failed := uploads.failed
          rw [answer] at failed
          cases failed
      | none =>
          have failed := congrArg Prod.fst answer
          have kept : (call.restoreMaster suite none world).2.store =
              world.store := restoreMaster_store none world
          have unended : Stops suite call world → ∀ user key backup,
              ¬Uploads suite call world user key backup :=
            fun stops _ _ _ uploads => uploads.ends.not_stops stops
          rw [syncKeyBackup_of_header header answer]
          rcases restored : call.restoreMaster suite none world with
            ⟨result, after⟩
          rw [restored] at kept
          cases result with
          | error cause =>
              rw [Effect.bind_of_error restored]
              exact .inr ⟨unended ⟨cause, after, .inl restored⟩, kept⟩
          | ok _ =>
              rw [Effect.bind_of_ok restored]
              cases loaded :
                  (loadOrCreateMaster suite (call.draws 2)
                    after.install).1 with
              | error cause =>
                  refine .inr ⟨unended ⟨cause, after,
                    .inr ⟨restored, loaded⟩⟩, ?_⟩
                  exact (uploadMaster_of_error loaded).trans kept
              | ok key =>
                  obtain ⟨user, backup, uploads, stored⟩ | unchanged :=
                    uploads_or_unchanged header failed restored loaded
                  · exact .inl ⟨user, key, backup, uploads, stored⟩
                  · exact .inr unchanged

section Stored

variable {world : ClientWorld} {user : Uuid} {stored : BackupRow}

private theorem downloadBackup_none_iff
    (present : world.store.getBackup user = some stored)
    (signedIn : ∃ claims, call.token.claims = some claims ∧
      claims.sub = user) :
    (call.downloadBackup world).1 = .ok none ↔
      ¬call.download matches .answered := by
  obtain ⟨claims, token, rfl⟩ := signedIn
  unfold downloadBackup Transport.call
  rw [token]
  cases call.download with
  | undelivered status => exact iff_of_true rfl nofun
  | unanswered status => exact iff_of_true rfl nofun
  | answered =>
      have required : Effect.require
          (fun store : Store => store.getBackup claims.sub)
          (ServerError.notFound "key backup").toStatus world.store =
            (.ok stored, world.store) := by
        simp only [Effect.require, present]
      have found : BackupSvc.downloadKeyBackup (some claims) world.store =
          (.ok (BackupSvc.downloadResponse stored), world.store) := by
        have authenticated : authenticate (some claims) world.store =
            (.ok claims, world.store) := rfl
        unfold BackupSvc.downloadKeyBackup
        rw [Effect.bind_of_ok authenticated, Effect.bind_of_ok required]
        rfl
      refine iff_of_false (fun failed => ?_) (fun unanswered => unanswered rfl)
      have answered := Except.ok.inj failed
      change (BackupSvc.downloadKeyBackup (some claims)
        world.store).1.toOption = none at answered
      rw [found] at answered
      cases answered

theorem Uploads.reaches {key : IdentityKeyPair}
    {backup : Backup.EncryptedBackup}
    (uploads : Uploads suite call world user key backup)
    (present : world.store.getBackup user = some stored) :
    call.Reaches user where
  header := uploads.header
  failed := (downloadBackup_none_iff present uploads.signedIn).mp
    uploads.failed
  delivered := uploads.delivered
  signedIn := uploads.signedIn

private theorem Ideal.encrypts_ok (ideal : call.Ideal suite world.install)
    (key : IdentityKeyPair) :
    ∃ backup, call.encrypt suite key = .ok backup ∧
      backup.salt = call.salt := by
  obtain ⟨wrapping, derived⟩ := ideal.derives
  obtain ⟨ciphertext, encrypted, _⟩ :=
    ideal.encrypts wrapping call.nonce key
  exact ⟨_, Backup.encryptBackup_of_derived derived encrypted, rfl⟩

/-- A backup is never clobbered exactly if an upload that reaches the server in
place of a failed download is of the same key. -/
private theorem neverClobbers_iff (ideal : call.Ideal suite world.install)
    (fresh : call.Fresh suite world) :
    call.NeverClobbers suite world ↔
      ∀ user stored password master,
        world.store.getBackup user = some stored →
        Holds suite password stored master → call.Reaches user →
        ∀ key, Ends suite call world key → key = master := by
  obtain ⟨owner, sent, backup, uploads, written⟩ | ⟨unwritten, unchanged⟩ :=
    syncKeyBackup_store suite call world
  · have held := holds_uploadRequest uploads.encrypted
    constructor
    · intro kept user stored password master present holds reaches key ends
      obtain rfl := ends.unique uploads.ends
      obtain ⟨claims, token, rfl⟩ := reaches.signedIn
      obtain ⟨others, again, rfl⟩ := uploads.signedIn
      obtain rfl := Option.some.inj (token.symm.trans again)
      obtain ⟨made, encrypted, salted⟩ := ideal.encrypts_ok key
      obtain rfl := Except.ok.inj (encrypted.symm.trans uploads.encrypted)
      have replaced : (uploadRequest made).row ≠ stored := by
        rintro rfl
        exact fresh.salt _ _ present (congrArg (·.toList) salted.symm)
      refine kept _ stored password master present holds _ ?_ replaced key held
      rw [written, Store.getBackup_upsertBackup, if_pos rfl]
    · intro spares user stored password master present holds row after replaced
        other holdsOther
      rw [written, Store.getBackup_upsertBackup] at after
      by_cases same : user = owner
      · subst same
        rw [if_pos rfl] at after
        cases after
        obtain rfl := Except.ok.inj (holdsOther.symm.trans held)
        exact spares user stored password master present holds
          (uploads.reaches present) other uploads.ends
      · rw [if_neg same, present] at after
        cases after
        exact absurd rfl replaced
  · constructor
    · intro _ user stored password master present _ reaches key ends
      obtain ⟨made, encrypted, _⟩ := ideal.encrypts_ok key
      have failed := (downloadBackup_none_iff present reaches.signedIn).mpr
        reaches.failed
      exact absurd ⟨reaches.header, failed, ends, encrypted,
        reaches.delivered, reaches.signedIn⟩ (unwritten user key made)
    · intro _ user stored password master present _ row after replaced
      rw [unchanged, present] at after
      cases after
      exact absurd rfl replaced

end Stored

section Verdict

variable {world : ClientWorld} {master : IdentityKeyPair}

private theorem ends_iff {key : IdentityKeyPair}
    (ends : Ends suite call world key) :
    (∀ other, Ends suite call world other → other = master) ↔
      key = master :=
  ⟨fun all => all key ends, fun same _ again => again.unique ends ▸ same⟩

private theorem stops_iff (stops : Stops suite call world) :
    ∀ other, Ends suite call world other → other = master :=
  fun _ ends => absurd stops ends.not_stops

theorem TornEarly.unique {install : Install} {size other : ℕ}
    (torn : call.TornEarly install size)
    (again : call.TornEarly install other) : size = other := by
  obtain ⟨cause, written⟩ := torn.torn
  obtain ⟨reason, same⟩ := again.torn
  cases written.symm.trans same
  rfl

private theorem missing_iff (ideal : call.Ideal suite world.install)
    (missing : world.install.localKey suite (call.draws 0).dataKey = .missing)
    (unlike : (call.draws 1).master ≠ master) :
    (∀ key, Ends suite call world key → key = master) ↔
      (world.install.CanSave → (call.draws 1).write ≠ .done) := by
  obtain ⟨middle, loaded, lacks, same⟩ := loadMaster_of_missing missing
  have encrypts := ideal.seals_ok (call.draws 1).nonce (call.draws 1).master
  by_cases saves : world.install.CanSave ∧ (call.draws 1).write = .done
  · obtain ⟨after, created, has⟩ := loadOrCreateMaster_creates (lacks _)
      encrypts (same.mpr saves.1) saves.2
    have ends : Ends suite call world (call.draws 1).master :=
      ⟨_, restoreMaster_of_missing loaded created,
        loadOrCreateMaster_of_has has _⟩
    rw [ends_iff ends]
    exact iff_of_false unlike fun fails => fails saves.1 saves.2
  · rw [not_and] at saves
    obtain ⟨cause, after, failed⟩ := loadOrCreateMaster_fails (lacks _)
      encrypts fun able => saves (same.mp able)
    have stops : Stops suite call world :=
      ⟨cause, _, .inl (restoreMaster_of_missing loaded failed)⟩
    exact iff_of_true (stops_iff stops) saves

private theorem plain_iff {keypair : IdentityKeyPair}
    (ideal : call.Ideal suite world.install)
    (plain : world.install.localKey suite (call.draws 0).dataKey =
      .plain keypair)
    (unlike : (call.draws 2).master ≠ master)
    (unrelated : ¬(call.draws 0).nonce.toList <+: master.toList) :
    (∀ key, Ends suite call world key → key = master) ↔
      (keypair = master ∧ ∀ size, ¬call.TornEarly world.install size) ∨
        ∃ size, call.TornEarly world.install size ∧ size ≠ 32 ∧
          (call.draws 2).write ≠ .done := by
  by_cases whole : ∀ size, ¬call.TornEarly world.install size
  · rw [ends_iff (ends_of_plain ideal plain whole)]
    constructor
    · exact fun same => .inl ⟨same, whole⟩
    · rintro (⟨same, _⟩ | ⟨size, torn, _⟩)
      · exact same
      · exact absurd torn (whole size)
  · obtain ⟨size, torn⟩ := not_forall_not.mp whole
    have spares : ((keypair = master ∧
          ∀ size, ¬call.TornEarly world.install size) ∨
        ∃ size, call.TornEarly world.install size ∧ size ≠ 32 ∧
          (call.draws 2).write ≠ .done) ↔
        size ≠ 32 ∧ (call.draws 2).write ≠ .done := by
      constructor
      · rintro (⟨_, never⟩ | ⟨other, again, kept⟩)
        · exact absurd torn (never size)
        · exact torn.unique again ▸ kept
      · exact fun kept => .inr ⟨size, torn, kept⟩
    rw [spares]
    obtain ⟨part, length, front, after, loaded, saves, left⟩ :=
      tears_plain ideal plain torn
    have restored : call.restoreMaster suite none world = _ :=
      restoreMaster_of_found loaded none
    by_cases sized : size = 32
    · have found : ByteArr.tryFrom 32 part = some ⟨part, length.trans sized⟩ :=
        dif_pos (length.trans sized)
      have has : Has suite after ⟨part, length.trans sized⟩ := by
        intro other
        rw [left other, found]
        rfl
      rw [ends_iff ⟨_, restored, loadOrCreateMaster_of_has has _⟩]
      refine iff_of_false ?_ fun kept => kept.1 sized
      rintro rfl
      exact unrelated (front sized)
    · have none : ByteArr.tryFrom 32 part = none :=
        dif_neg fun same => sized (length.symm.trans same)
      have lacks : after.localKey suite (call.draws 2).dataKey = .missing := by
        rw [left, none]
      have encrypts := ideal.seals_ok (call.draws 2).nonce
        (call.draws 2).master
      by_cases written : (call.draws 2).write = .done
      · obtain ⟨final, created, _⟩ := loadOrCreateMaster_creates lacks encrypts
          saves written
        rw [ends_iff ⟨_, restored, congrArg Prod.fst created⟩]
        exact iff_of_false unlike fun kept => kept.2 written
      · obtain ⟨cause, final, failed⟩ := loadOrCreateMaster_fails lacks
          encrypts fun _ => written
        have stops : Stops suite call world :=
          ⟨cause, _, .inr ⟨restored, congrArg Prod.fst failed⟩⟩
        exact iff_of_true (stops_iff stops) ⟨sized, written⟩

/-- A backup is never clobbered exactly when no failed download of it is
followed by the upload of a key that the device only happens to have. -/
theorem neverClobbers_iff_spares {suite : Backup.Suite} {call : SyncCall}
    {world : ClientWorld} (ideal : call.Ideal suite world.install)
    (fresh : call.Fresh suite world) :
    call.NeverClobbers suite world ↔ call.Spares suite world := by
  rw [neverClobbers_iff ideal fresh]
  refine forall₄_congr fun user stored password master => ?_
  refine forall₃_congr fun present holds _ => ?_
  have apart := fresh.master user stored password master present holds
  cases cached : world.install.localKey suite (call.draws 0).dataKey with
  | sealed keypair => exact ends_iff (ends_of_sealed cached)
  | plain keypair => exact plain_iff ideal cached (apart 2).1 (apart 0).2
  | missing => exact missing_iff ideal cached (apart 1).1

end Verdict

/-- A device without the key whose user has a backup; the server is not
available for a moment while it is downloaded. -/
def reinstalled : SyncCall where
  token := ⟨true, some ⟨2, 20⟩⟩
  password := "pw"
  draws _ := {
    dataKey := .replicate 32 5
    nonce := .replicate 24 6
    master := .replicate 32 7 }
  salt := .replicate 32 7
  nonce := .replicate 24 7
  download := .undelivered ⟨.unavailable, "connection reset"⟩
  upload := .answered

/-- The backup under the password "pw" of a key that repeats one byte. -/
def backupOf (byte : UInt8) : BackupRow where
  encryptedBlob := List.replicate 24 byte ++
    (112 :: 119 :: List.replicate 30 0 ++ List.replicate 32 byte)
  salt := List.replicate 32 byte
  argon2Params := (default : Backup.Argon2Params).toBytes
  version := 1

def backedUp : ClientWorld where
  install :=
    { dataDir := .ok (), keyring := .noEntry (.ok ()), keyFile := none }
  store := Store.upsertBackup {} 2 (backupOf 1)

theorem reinstalled_clobbers :
    ¬ reinstalled.NeverClobbers taggingSuite backedUp := by
  intro kept
  have before : Holds taggingSuite "pw" (backupOf 1) (.replicate 32 1) := rfl
  have after : Holds taggingSuite "pw" (backupOf 7) (.replicate 32 7) := rfl
  have same := kept 2 (backupOf 1) "pw" _ rfl before (backupOf 7) rfl
    (by decide) _ after
  exact absurd same (by decide)

/-- A cipher for keys of 32 bytes, with a tag of 16. -/
def sealingSuite : Backup.Suite where
  argon2id := taggingSuite.argon2id
  encrypt key _ plaintext :=
    if plaintext.length = 32 then some (plaintext ++ key.toList.take 16)
    else none
  decrypt key _ ciphertext :=
    if ciphertext.length = 48 ∧ ciphertext.drop 32 = key.toList.take 16 then
      some (ciphertext.take 32)
    else none
  decrypt_encrypt key nonce plaintext ciphertext encrypted := by
    split at encrypted
    · next sized =>
      cases encrypted
      have tag : (plaintext ++ key.toList.take 16).length = 48 := by
        simp [sized]
      rw [List.drop_left' sized, List.take_left' sized, if_pos ⟨tag, rfl⟩]
    · cases encrypted

private theorem sealingSuite_encrypts (key : ByteArr 32) (nonce : ByteArr 24)
    (secret : ByteArr 32) :
    sealingSuite.encrypt key nonce secret.toList =
      some (secret.toList ++ key.toList.take 16) :=
  if_pos secret.toList_length

private theorem sealingSuite_unforged (key : ByteArr 32) (blob : Bytes)
    {size : ℕ}
    (short : size < sealedKeyLen) :
    Backup.openBlob sealingSuite key (blob.take size) =
      .error .decryption := by
  unfold Backup.openBlob
  cases ByteArr.tryFrom 24 ((blob.take size).take Backup.nonceLen) with
  | none => rfl
  | some nonce =>
      have cut : ((blob.take size).drop Backup.nonceLen).length ≠ 48 := by
        rw [List.length_drop, List.length_take]
        unfold Backup.nonceLen
        unfold sealedKeyLen at short
        omega
      have none : sealingSuite.decrypt key nonce
          ((blob.take size).drop Backup.nonceLen) = none :=
        if_neg fun opens => cut opens.1
      simp only [none]

private theorem sealingSuite_ideal (call : SyncCall) (install : Install) :
    call.Ideal sealingSuite install where
  derives := ⟨_, rfl⟩
  encrypts key nonce secret := by
    refine ⟨_, sealingSuite_encrypts key nonce secret, ?_⟩
    simp
  unforged key keypair blob _ _ sealed size short := by
    refine sealingSuite_unforged key blob ?_
    obtain ⟨ciphertext, encrypted, rfl⟩ := Backup.sealBlob_ok sealed
    cases (sealingSuite_encrypts key _ keypair).symm.trans encrypted
    simpa [sealedKeyLen] using short

def sealedRow : BackupRow where
  encryptedBlob := List.replicate 24 9 ++ (List.replicate 32 1 ++
    (112 :: 119 :: List.replicate 14 0))
  salt := List.replicate 32 9
  argon2Params := (default : Backup.Argon2Params).toBytes
  version := 1

private theorem sealedRow_opens {key : ByteArr 32} {secret : Bytes}
    (opens : Backup.openBlob sealingSuite key sealedRow.encryptedBlob =
      .ok secret) : secret = List.replicate 32 1 := by
  have nonce : ByteArr.tryFrom 24
      (sealedRow.encryptedBlob.take Backup.nonceLen) =
        some (.replicate 24 9) := rfl
  have front : (sealedRow.encryptedBlob.drop Backup.nonceLen).take 32 =
      List.replicate 32 1 := rfl
  unfold Backup.openBlob at opens
  rw [nonce] at opens
  dsimp only [sealingSuite] at opens
  rw [front] at opens
  split at opens
  · next plaintext decrypted =>
    split at decrypted
    · cases decrypted
      exact (Except.ok.inj opens).symm
    · cases decrypted
  · cases opens

private theorem sealedRow_master {password : String} {master : IdentityKeyPair}
    (holds : Holds sealingSuite password sealedRow master) :
    master = .replicate 32 1 := by
  have params : Backup.Argon2Params.fromBytes
      (BackupSvc.downloadResponse sealedRow).argon2Params = .ok default :=
    Backup.Argon2Params.fromBytes_toBytes _
  unfold Holds recoverMaster at holds
  rw [params] at holds
  simp only [Except.mapError, bind, Except.bind] at holds
  cases opened : Backup.decryptBackup sealingSuite (asBytes password)
      (BackupSvc.downloadResponse sealedRow).encryptedBlob
      (BackupSvc.downloadResponse sealedRow).salt default with
  | error error =>
      rw [opened] at holds
      cases holds
  | ok secret =>
      rw [opened] at holds
      have repeated : secret = List.replicate 32 1 := sealedRow_opens opened
      subst repeated
      exact (Except.ok.inj holds).symm

/-- A device with an older key file, which it fails to seal. -/
def unsealed : SyncCall :=
  { reinstalled with
    draws := fun index =>
      { reinstalled.draws index with write := .unopened "denied" } }

def migrating : ClientWorld where
  install :=
    { dataDir := .ok ()
      keyring := .noEntry (.ok ())
      keyFile := some (List.replicate 32 1) }
  store := Store.upsertBackup {} 2 sealedRow

theorem unsealed_spares : unsealed.NeverClobbers sealingSuite migrating := by
  have only : ∀ user stored, migrating.store.getBackup user = some stored →
      stored = sealedRow := by
    intro user stored present
    change (Store.upsertBackup {} 2 sealedRow).getBackup user = _ at present
    rw [Store.getBackup_upsertBackup] at present
    split at present
    · exact (Option.some.inj present).symm
    · cases present
  have fresh : unsealed.Fresh sealingSuite migrating := by
    constructor
    · intro user stored present
      rw [only user stored present]
      decide
    · intro user stored password master present holds index
      rw [only user stored present] at holds
      have drawn : unsealed.draws index = unsealed.draws 0 := rfl
      rw [sealedRow_master holds, drawn]
      exact ⟨by decide, by decide⟩
  refine (neverClobbers_iff_spares (sealingSuite_ideal _ _) fresh).mpr ?_
  intro user stored password master present holds _
  rw [only user stored present] at holds
  rw [sealedRow_master holds]
  refine .inl ⟨rfl, fun size torn => ?_⟩
  obtain ⟨cause, written⟩ := torn.torn
  cases written

end SyncCall

end Accord
