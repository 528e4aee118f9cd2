import Accord.Crypto.Backup
import Accord.Library.Effect
import Accord.Library.FileWrite

/-! The master key of an installation, cached in a file that is sealed under
a key of the OS keyring. -/

namespace Accord

/-- A signing key, as its secret bytes. -/
abbrev IdentityKeyPair := ByteArr 32

/-- What `Entry::get_secret` finds.  Without an entry the client stores one,
which may fail too. -/
inductive Keyring where
  | unavailable (cause : String)
  | noEntry (setSecret : Except String Unit)
  | secret (bytes : Bytes)

structure Install where
  dataDir : Except String Unit
  keyring : Keyring
  dek : Option (ByteArr 32) := none
  keyFile : Option Bytes

def Install.withFile (install : Install) (file : Option Bytes) : Install :=
  { install with keyFile := file }

/-- The randomness of one load or save of the master key, and how its write of
the file ends if it comes to one. -/
structure Draws where
  dataKey : ByteArr 32
  nonce : ByteArr 24
  master : IdentityKeyPair
  write : FileWrite String := .done

namespace AtRest

def dek (draw : ByteArr 32) : Effect Install String (ByteArr 32) :=
  fun install =>
    match install.dek with
    | some key => (.ok key, install)
    | none =>
        match install.keyring with
        | .unavailable cause => (.error cause, install)
        | .secret bytes =>
            match ByteArr.tryFrom 32 bytes with
            | some key => (.ok key, { install with dek := some key })
            | none => (.error "keyring DEK has wrong length", install)
        | .noEntry (.error cause) => (.error cause, install)
        | .noEntry (.ok _) =>
            (.ok draw, { install with
              keyring := .secret draw.toList, dek := some draw })

private theorem dek_settles (draw other : ByteArr 32) (install : Install) :
    dek other (dek draw install).2 = dek draw install := by
  unfold dek
  cases cached : install.dek with
  | some key => simp only [cached]
  | none =>
      cases ring : install.keyring with
      | unavailable cause => simp only [cached, ring]
      | noEntry setSecret =>
          cases setSecret with
          | error cause => simp only [cached, ring]
          | ok _ => rfl
      | secret bytes =>
          cases sized : ByteArr.tryFrom 32 bytes with
          | none => simp only [cached, ring, sized]
          | some key => simp only [sized]

private theorem dek_frame (draw : ByteArr 32) (install : Install) :
    (dek draw install).2.dataDir = install.dataDir ∧
      (dek draw install).2.keyFile = install.keyFile := by
  unfold dek
  cases install.dek with
  | some key => exact ⟨rfl, rfl⟩
  | none =>
      cases install.keyring with
      | unavailable cause => exact ⟨rfl, rfl⟩
      | noEntry setSecret => cases setSecret <;> exact ⟨rfl, rfl⟩
      | secret bytes =>
          cases sized : ByteArr.tryFrom 32 bytes with
          | none =>
              simp only [sized]
              exact ⟨trivial, trivial⟩
          | some key =>
              simp only [sized]
              exact ⟨trivial, trivial⟩

end AtRest

def Install.dataKey (install : Install) (draw : ByteArr 32) :
    Option (ByteArr 32) :=
  (AtRest.dek draw install).1.toOption

def Install.keyed (install : Install) : Bool :=
  install.dek.isSome ||
    match install.keyring with
    | .secret bytes => bytes.length == 32
    | .noEntry (.ok _) => true
    | _ => false

theorem Install.dataKey_isSome (install : Install) (draw : ByteArr 32) :
    (install.dataKey draw).isSome = install.keyed := by
  unfold dataKey keyed AtRest.dek
  cases cached : install.dek with
  | some key => rfl
  | none =>
      cases install.keyring with
      | unavailable cause => rfl
      | noEntry setSecret => cases setSecret <;> rfl
      | secret bytes =>
          unfold ByteArr.tryFrom
          by_cases sized : bytes.length = 32
          · simp only [sized, dite_true, Except.toOption, Option.isSome_none,
              Bool.false_or, beq_self_eq_true]
            rfl
          · simp [sized, Except.toOption]

private theorem AtRest.dek_of_not_keyed {install : Install}
    (unkeyed : ¬install.keyed = true) (draw : ByteArr 32) :
    ∃ cause, dek draw install = (.error cause, install) := by
  unfold Install.keyed at unkeyed
  unfold dek
  cases cached : install.dek with
  | some key => simp [cached] at unkeyed
  | none =>
      rw [cached] at unkeyed
      cases ring : install.keyring with
      | unavailable cause => exact ⟨cause, rfl⟩
      | noEntry setSecret =>
          cases setSecret with
          | error cause => exact ⟨cause, rfl⟩
          | ok _ => simp [ring] at unkeyed
      | secret bytes =>
          have short : bytes.length ≠ 32 := by simpa [ring] using unkeyed
          have unsized : ByteArr.tryFrom 32 bytes = none := dif_neg short
          refine ⟨"keyring DEK has wrong length", ?_⟩
          simp only [unsized]

@[simp] theorem Install.dataKey_withFile (install : Install)
    (file : Option Bytes) (draw : ByteArr 32) :
    (install.withFile file).dataKey draw = install.dataKey draw := by
  unfold withFile dataKey AtRest.dek
  cases install.dek with
  | some key => rfl
  | none =>
      cases install.keyring with
      | unavailable cause => rfl
      | noEntry setSecret => cases setSecret <;> rfl
      | secret bytes =>
          cases sized : ByteArr.tryFrom 32 bytes with
          | none => simp only [sized]
          | some key => simp only [sized]

private theorem Install.dataKey_settled (install : Install)
    (draw other : ByteArr 32) :
    (AtRest.dek draw install).2.dataKey other = install.dataKey draw :=
  congrArg (·.1.toOption) (AtRest.dek_settles draw other install)

namespace AtRest

variable (suite : Backup.Suite)

def sealBytes (draws : Draws) (plaintext : Bytes) :
    Effect Install String Bytes := do
  let key ← dek draws.dataKey
  Effect.ofExcept
    ((Backup.sealBlob suite draws.nonce key plaintext).mapError
      CryptoError.text)

def openBytes (draws : Draws) (blob : Bytes) :
    Effect Install String (Option Bytes) := do
  match ← (dek draws.dataKey).optional with
  | some key => return (Backup.openBlob suite key blob).toOption
  | none => return none

end AtRest

namespace Identity

def keyPath : Effect Install String Unit :=
  fun install => (install.dataDir, install)

def writeKeyFile (write : FileWrite String) (blob : Bytes) :
    Effect Install String Unit :=
  fun install =>
    (write.result.mapError ("could not persist identity key: " ++ ·),
      install.withFile (write.leaves (fun size => some (blob.take size))
        install.keyFile (some blob)))

variable (suite : Backup.Suite)

def saveMaster (draws : Draws) (keypair : IdentityKeyPair) :
    Effect Install String Unit := do
  keyPath
  let blob ← AtRest.sealBytes suite draws keypair.toList
  writeKeyFile draws.write blob

/-- An older plaintext file is sealed when it is read. -/
def migrate (draws : Draws) (bytes : Bytes) :
    Effect Install String (Option IdentityKeyPair) :=
  match ByteArr.tryFrom 32 bytes with
  | some keypair => do
      (saveMaster suite draws keypair).attempt
      return some keypair
  | none => pure none

def loadFile (draws : Draws) (bytes : Bytes) :
    Effect Install String (Option IdentityKeyPair) := do
  let plaintext ← AtRest.openBytes suite draws bytes
  match plaintext.bind (ByteArr.tryFrom 32) with
  | some keypair => return some keypair
  | none => migrate suite draws bytes

def loadMaster (draws : Draws) :
    Effect Install String (Option IdentityKeyPair) := do
  match ← keyPath.optional with
  | none => return none
  | some _ =>
      match ← Effect.read (·.keyFile) with
      | none => return none
      | some bytes => loadFile suite draws bytes

def loadOrCreateMaster (draws : Draws) :
    Effect Install String IdentityKeyPair := do
  match ← loadMaster suite draws with
  | some keypair => return keypair
  | none =>
      saveMaster suite draws draws.master
      return draws.master

variable {suite}

def sealedKey (suite : Backup.Suite) (key : ByteArr 32) (bytes : Bytes) :
    Option IdentityKeyPair :=
  (Backup.openBlob suite key bytes).toOption.bind (ByteArr.tryFrom 32)

end Identity

/-- What an installation has cached of the master key. -/
inductive LocalKey where
  | missing
  | sealed (keypair : IdentityKeyPair)
  | plain (keypair : IdentityKeyPair)
  deriving DecidableEq

def LocalKey.key? : LocalKey → Option IdentityKeyPair
  | missing => none
  | .sealed keypair | plain keypair => some keypair

/-- A file opens under the data key, or it is a key in plaintext, or of no
use. -/
def LocalKey.ofFile (suite : Backup.Suite) (dataKey : Option (ByteArr 32))
    (bytes : Bytes) : LocalKey :=
  match dataKey.bind (Identity.sealedKey suite · bytes) with
  | some keypair => .sealed keypair
  | none =>
      match ByteArr.tryFrom 32 bytes with
      | some keypair => plain keypair
      | none => missing

def Install.localKey (install : Install) (suite : Backup.Suite)
    (draw : ByteArr 32) : LocalKey :=
  match install.dataDir, install.keyFile with
  | .ok _, some bytes => .ofFile suite (install.dataKey draw) bytes
  | _, _ => .missing

/-- A key can be sealed and its file be reached. -/
def Install.CanSave (install : Install) : Prop :=
  install.dataDir = .ok () ∧ install.keyed = true

namespace Identity

variable {suite : Backup.Suite} {install : Install} {draws : Draws}

private theorem keyPath_of_ok (dataDir : install.dataDir = .ok ()) :
    keyPath install = (.ok (), install) := congrArg (·, _) dataDir

private theorem openBytes_eq (suite : Backup.Suite) (draws : Draws)
    (bytes : Bytes)
    (install : Install) :
    AtRest.openBytes suite draws bytes install =
      (.ok ((install.dataKey draws.dataKey).bind fun key =>
        (Backup.openBlob suite key bytes).toOption),
        (AtRest.dek draws.dataKey install).2) := by
  unfold AtRest.openBytes Install.dataKey
  rcases ran : AtRest.dek draws.dataKey install with ⟨result, after⟩
  cases result with
  | ok key => exact Effect.bind_of_ok (Effect.optional_of_ok ran) _
  | error cause => exact Effect.bind_of_ok (Effect.optional_of_error ran) _

private theorem loadMaster_of_file {bytes : Bytes}
    (dataDir : install.dataDir = .ok ())
    (file : install.keyFile = some bytes) (draws : Draws) :
    loadMaster suite draws install =
      match LocalKey.ofFile suite (install.dataKey draws.dataKey) bytes with
      | .sealed keypair =>
          (.ok (some keypair), (AtRest.dek draws.dataKey install).2)
      | .plain keypair => (.ok (some keypair),
          (saveMaster suite draws keypair
            (AtRest.dek draws.dataKey install).2).2)
      | .missing => (.ok none, (AtRest.dek draws.dataKey install).2) := by
  have loaded : loadMaster suite draws install =
      loadFile suite draws bytes install := by
    unfold loadMaster
    rw [Effect.bind_of_ok (Effect.optional_of_ok (keyPath_of_ok dataDir))]
    exact Effect.bind_of_ok (Effect.read_of_eq file) _
  have opened : (((install.dataKey draws.dataKey).bind fun key =>
      (Backup.openBlob suite key bytes).toOption).bind
        (ByteArr.tryFrom 32)) =
      (install.dataKey draws.dataKey).bind (sealedKey suite · bytes) :=
    Option.bind_assoc _ _ _
  rw [loaded]
  unfold loadFile LocalKey.ofFile
  rw [Effect.bind_of_ok (openBytes_eq suite draws bytes install), opened]
  cases (install.dataKey draws.dataKey).bind (sealedKey suite · bytes) with
  | some keypair => rfl
  | none =>
      dsimp only
      unfold migrate
      cases ByteArr.tryFrom 32 bytes with
      | some keypair => rfl
      | none => rfl

private theorem loadMaster_of_no_file (draws : Draws)
    (absent : install.dataDir = .ok () → install.keyFile = none) :
    loadMaster suite draws install = (.ok none, install) := by
  unfold loadMaster
  cases dataDir : install.dataDir with
  | error cause =>
      have path : keyPath install = (.error cause, install) :=
        congrArg (·, _) dataDir
      exact Effect.bind_of_ok (Effect.optional_of_error path) _
  | ok _ =>
      have path : keyPath install = (.ok (), install) :=
        congrArg (·, _) dataDir
      rw [Effect.bind_of_ok (Effect.optional_of_ok path)]
      exact Effect.bind_of_ok (Effect.read_of_eq (absent dataDir)) _

/-- Nothing is cached, whatever would be drawn. -/
def Lacks (suite : Backup.Suite) (install : Install) : Prop :=
  ∀ draw, install.localKey suite draw = .missing

def Has (suite : Backup.Suite) (install : Install)
    (keypair : IdentityKeyPair) : Prop :=
  ∀ draw, (install.localKey suite draw).key? = some keypair

private theorem localKey_of_file {bytes : Bytes}
    (dataDir : install.dataDir = .ok ())
    (file : install.keyFile = some bytes) (draw : ByteArr 32) :
    install.localKey suite draw =
      .ofFile suite (install.dataKey draw) bytes := by
  unfold Install.localKey
  rw [dataDir, file]

private theorem localKey_settled (dataDir : install.dataDir = .ok ())
    (bytes : Bytes) (draw other : ByteArr 32) :
    ((AtRest.dek draw install).2.withFile (some bytes)).localKey suite other =
      .ofFile suite (install.dataKey draw) bytes := by
  have directory : ((AtRest.dek draw install).2.withFile
      (some bytes)).dataDir = .ok () :=
    (AtRest.dek_frame draw install).1.trans dataDir
  rw [localKey_of_file directory rfl, Install.dataKey_withFile,
    Install.dataKey_settled]

private theorem ofFile_sealed {key : ByteArr 32} {nonce : ByteArr 24}
    {keypair : IdentityKeyPair} {blob : Bytes}
    (sealed : Backup.sealBlob suite nonce key keypair.toList = .ok blob) :
    LocalKey.ofFile suite (some key) blob = .sealed keypair := by
  have opens : sealedKey suite key blob = some keypair := by
    unfold sealedKey
    rw [Backup.openBlob_sealBlob sealed]
    exact ByteArr.tryFrom_toList keypair
  unfold LocalKey.ofFile
  rw [Option.bind_some, opens]

private theorem saveMaster_of_sealed {key : ByteArr 32}
    {keypair : IdentityKeyPair}
    {blob : Bytes} (dataDir : install.dataDir = .ok ())
    (keyed : install.dataKey draws.dataKey = some key)
    (sealed : Backup.sealBlob suite draws.nonce key keypair.toList =
      .ok blob) :
    saveMaster suite draws keypair install =
      (draws.write.result.mapError ("could not persist identity key: " ++ ·),
        (AtRest.dek draws.dataKey install).2.withFile
          (draws.write.leaves (fun size => some (blob.take size))
            install.keyFile (some blob))) := by
  have frame := (AtRest.dek_frame draws.dataKey install).2
  unfold Install.dataKey at keyed
  rcases ran : AtRest.dek draws.dataKey install with ⟨result, after⟩
  rw [ran] at keyed frame
  cases result with
  | error cause => cases keyed
  | ok found =>
      cases keyed
      have sealing : AtRest.sealBytes suite draws keypair.toList install =
          (.ok blob, after) := by
        refine (Effect.bind_of_ok ran _).trans ?_
        rw [sealed]
        rfl
      unfold saveMaster
      rw [Effect.bind_of_ok (keyPath_of_ok dataDir),
        Effect.bind_of_ok sealing]
      unfold writeKeyFile
      rw [← frame]

private theorem saveMaster_of_not_canSave (stuck : ¬install.CanSave)
    (suite : Backup.Suite) (draws : Draws) (keypair : IdentityKeyPair) :
    ∃ cause, saveMaster suite draws keypair install =
      (.error cause, install) := by
  unfold saveMaster
  cases dataDir : install.dataDir with
  | error cause =>
      have path : keyPath install = (.error cause, install) :=
        congrArg (·, _) dataDir
      exact ⟨cause, Effect.bind_of_error path _⟩
  | ok _ =>
      rw [Effect.bind_of_ok (keyPath_of_ok dataDir)]
      have unkeyed : ¬install.keyed = true := fun keyed =>
        stuck ⟨dataDir, keyed⟩
      obtain ⟨cause, failed⟩ := AtRest.dek_of_not_keyed unkeyed draws.dataKey
      have unsealed : AtRest.sealBytes suite draws keypair.toList install =
          (.error cause, install) := Effect.bind_of_error failed _
      exact ⟨cause, Effect.bind_of_error unsealed _⟩

private theorem lacks_of_no_file
    (absent : install.dataDir = .ok () → install.keyFile = none) :
    Lacks suite install := by
  intro draw
  unfold Install.localKey
  cases dataDir : install.dataDir with
  | error cause => rfl
  | ok _ => rw [absent dataDir]

private theorem canSave_settled (draw : ByteArr 32) :
    (AtRest.dek draw install).2.CanSave ↔ install.CanSave := by
  have keyed : (AtRest.dek draw install).2.keyed = install.keyed := by
    rw [← Install.dataKey_isSome _ draw, Install.dataKey_settled,
      Install.dataKey_isSome]
  unfold Install.CanSave
  rw [(AtRest.dek_frame draw install).1, keyed]

/-- Where nothing is cached a load finds nothing, and neither does the next
one. -/
theorem loadMaster_of_missing
    (missing : install.localKey suite draws.dataKey = .missing) :
    ∃ after, loadMaster suite draws install = (.ok none, after) ∧
      Lacks suite after ∧ (after.CanSave ↔ install.CanSave) := by
  by_cases absent : install.dataDir = .ok () → install.keyFile = none
  · exact ⟨install, loadMaster_of_no_file draws absent,
      lacks_of_no_file absent, Iff.rfl⟩
  · obtain ⟨dataDir, present⟩ := Classical.not_imp.mp absent
    obtain ⟨bytes, file⟩ := Option.ne_none_iff_exists'.mp present
    obtain ⟨directory, kept⟩ := AtRest.dek_frame draws.dataKey install
    rw [localKey_of_file dataDir file] at missing
    refine ⟨_, ?_, fun other => ?_, canSave_settled draws.dataKey⟩
    · rw [loadMaster_of_file dataDir file, missing]
    · rw [localKey_of_file (directory.trans dataDir) (kept.trans file),
        Install.dataKey_settled, missing]

private theorem file_of_key {keypair : IdentityKeyPair} {draw : ByteArr 32}
    (cached : (install.localKey suite draw).key? = some keypair) :
    install.dataDir = .ok () ∧ ∃ bytes, install.keyFile = some bytes := by
  by_contra without
  have absent : install.dataDir = .ok () → install.keyFile = none := by
    intro dataDir
    by_contra present
    exact without ⟨dataDir, Option.ne_none_iff_exists'.mp present⟩
  rw [lacks_of_no_file absent] at cached
  cases cached

theorem loadMaster_of_sealed {keypair : IdentityKeyPair}
    (sealed : install.localKey suite draws.dataKey = .sealed keypair) :
    ∃ after, loadMaster suite draws install = (.ok (some keypair), after) ∧
      Has suite after keypair := by
  obtain ⟨dataDir, bytes, file⟩ := file_of_key (congrArg (·.key?) sealed)
  obtain ⟨directory, kept⟩ := AtRest.dek_frame draws.dataKey install
  rw [localKey_of_file dataDir file] at sealed
  refine ⟨(AtRest.dek draws.dataKey install).2, ?_, fun other => ?_⟩
  · rw [loadMaster_of_file dataDir file, sealed]
  · rw [localKey_of_file (directory.trans dataDir) (kept.trans file),
      Install.dataKey_settled, sealed]
    rfl

/-- What is left of a key in plaintext once a load has tried to seal it. -/
private theorem loadMaster_of_plain {keypair : IdentityKeyPair}
    (plain : install.localKey suite draws.dataKey = .plain keypair) :
    loadMaster suite draws install = (.ok (some keypair),
      (saveMaster suite draws keypair
        (AtRest.dek draws.dataKey install).2).2) := by
  obtain ⟨dataDir, bytes, file⟩ := file_of_key (congrArg (·.key?) plain)
  rw [localKey_of_file dataDir file] at plain
  rw [loadMaster_of_file dataDir file, plain]

theorem loadMaster_keeps_plain {keypair : IdentityKeyPair}
    (plain : install.localKey suite draws.dataKey = .plain keypair)
    (encrypts : ∀ key, ∃ blob,
      Backup.sealBlob suite draws.nonce key keypair.toList = .ok blob)
    (whole : ∀ key blob cause size,
      install.dataKey draws.dataKey = some key →
      Backup.sealBlob suite draws.nonce key keypair.toList = .ok blob →
      draws.write = .torn cause size → blob.length ≤ size) :
    ∃ after, loadMaster suite draws install = (.ok (some keypair), after) ∧
      Has suite after keypair := by
  refine ⟨_, loadMaster_of_plain plain, ?_⟩
  obtain ⟨dataDir, bytes, file⟩ := file_of_key (congrArg (·.key?) plain)
  obtain ⟨directory, kept⟩ := AtRest.dek_frame draws.dataKey install
  have unchanged : Has suite (AtRest.dek draws.dataKey install).2
      keypair := by
    intro other
    rw [localKey_of_file dataDir file] at plain
    rw [localKey_of_file (directory.trans dataDir) (kept.trans file),
      Install.dataKey_settled, plain]
    rfl
  cases keyed : install.dataKey draws.dataKey with
  | none =>
      have stuck : ¬(AtRest.dek draws.dataKey install).2.CanSave := by
        rw [canSave_settled]
        rintro ⟨_, has⟩
        rw [← Install.dataKey_isSome install draws.dataKey, keyed] at has
        cases has
      obtain ⟨cause, failed⟩ :=
        saveMaster_of_not_canSave stuck suite draws keypair
      rw [failed]
      exact unchanged
  | some key =>
      obtain ⟨blob, sealed⟩ := encrypts key
      have settled := Install.dataKey_settled install draws.dataKey
        draws.dataKey
      rw [saveMaster_of_sealed (directory.trans dataDir)
        (settled.trans keyed) sealed, AtRest.dek_settles]
      have isSealed : Has suite ((AtRest.dek draws.dataKey install).2.withFile
          (some blob)) keypair := by
        intro other
        rw [localKey_settled dataDir, keyed, ofFile_sealed sealed]
        rfl
      cases written : draws.write with
      | done => exact isSealed
      | unopened cause => exact unchanged
      | torn cause size =>
          have all : blob.take size = blob :=
            List.take_of_length_le (whole key blob cause size keyed sealed
              written)
          simp only [FileWrite.leaves, all]
          exact isSealed

theorem loadMaster_tears_plain {keypair : IdentityKeyPair}
    {key : ByteArr 32} {blob : Bytes} {cause : String} {size : ℕ}
    (plain : install.localKey suite draws.dataKey = .plain keypair)
    (keyed : install.dataKey draws.dataKey = some key)
    (sealed : Backup.sealBlob suite draws.nonce key keypair.toList = .ok blob)
    (torn : draws.write = .torn cause size) :
    ∃ after, loadMaster suite draws install = (.ok (some keypair), after) ∧
      after.CanSave ∧ ∀ other, after.localKey suite other =
        .ofFile suite (some key) (blob.take size) := by
  refine ⟨_, loadMaster_of_plain plain, ?_⟩
  obtain ⟨dataDir, bytes, file⟩ := file_of_key (congrArg (·.key?) plain)
  obtain ⟨directory, kept⟩ := AtRest.dek_frame draws.dataKey install
  have settled := Install.dataKey_settled install draws.dataKey
    draws.dataKey
  rw [saveMaster_of_sealed (directory.trans dataDir) (settled.trans keyed)
    sealed, AtRest.dek_settles, torn]
  refine ⟨⟨directory.trans dataDir, ?_⟩, fun other => ?_⟩
  · rw [← Install.dataKey_isSome _ draws.dataKey, Install.dataKey_withFile,
      settled, keyed]
    rfl
  · rw [← keyed]
    exact localKey_settled dataDir _ _ other

/-! A key is created where none is cached. -/

private theorem loadOrCreateMaster_of_found {keypair : IdentityKeyPair}
    {after : Install}
    (loaded : loadMaster suite draws install = (.ok (some keypair), after)) :
    loadOrCreateMaster suite draws install = (.ok keypair, after) := by
  unfold loadOrCreateMaster
  rw [Effect.bind_of_ok loaded]
  rfl

theorem loadOrCreateMaster_of_has {keypair : IdentityKeyPair}
    (has : Has suite install keypair) (draws : Draws) :
    (loadOrCreateMaster suite draws install).1 = .ok keypair := by
  have cached := has draws.dataKey
  cases here : install.localKey suite draws.dataKey with
  | missing =>
      rw [here] at cached
      cases cached
  | sealed found =>
      obtain ⟨after, loaded, _⟩ := loadMaster_of_sealed here
      rw [loadOrCreateMaster_of_found loaded]
      rw [here] at cached
      exact congrArg Except.ok (Option.some.inj cached)
  | plain found =>
      rw [loadOrCreateMaster_of_found (loadMaster_of_plain here)]
      rw [here] at cached
      exact congrArg Except.ok (Option.some.inj cached)

theorem loadOrCreateMaster_creates (missing : install.localKey suite
      draws.dataKey = .missing)
    (encrypts : ∀ key, ∃ blob,
      Backup.sealBlob suite draws.nonce key draws.master.toList = .ok blob)
    (saves : install.CanSave) (written : draws.write = .done) :
    ∃ after, loadOrCreateMaster suite draws install =
        (.ok draws.master, after) ∧ Has suite after draws.master := by
  obtain ⟨middle, loaded, _, same⟩ := loadMaster_of_missing missing
  obtain ⟨dataDir, keyed⟩ := same.mpr saves
  rw [← Install.dataKey_isSome middle draws.dataKey] at keyed
  obtain ⟨key, keyed⟩ := Option.isSome_iff_exists.mp keyed
  obtain ⟨blob, sealed⟩ := encrypts key
  have saved := saveMaster_of_sealed dataDir keyed sealed
  rw [written] at saved
  refine ⟨(AtRest.dek draws.dataKey middle).2.withFile (some blob), ?_,
    fun other => ?_⟩
  · unfold loadOrCreateMaster
    rw [Effect.bind_of_ok loaded]
    exact Effect.bind_of_ok saved _
  · rw [localKey_settled dataDir, keyed, ofFile_sealed sealed]
    rfl

theorem loadOrCreateMaster_fails (missing : install.localKey suite
      draws.dataKey = .missing)
    (encrypts : ∀ key, ∃ blob,
      Backup.sealBlob suite draws.nonce key draws.master.toList = .ok blob)
    (unsaved : install.CanSave → draws.write ≠ .done) :
    ∃ cause after, loadOrCreateMaster suite draws install =
      (.error cause, after) := by
  obtain ⟨middle, loaded, _, same⟩ := loadMaster_of_missing missing
  have failed : ∃ cause after,
      saveMaster suite draws draws.master middle = (.error cause, after) := by
    by_cases saves : middle.CanSave
    · have torn := unsaved (same.mp saves)
      obtain ⟨dataDir, keyed⟩ := saves
      rw [← Install.dataKey_isSome middle draws.dataKey] at keyed
      obtain ⟨key, keyed⟩ := Option.isSome_iff_exists.mp keyed
      obtain ⟨blob, sealed⟩ := encrypts key
      have saved := saveMaster_of_sealed dataDir keyed sealed
      cases written : draws.write with
      | done => exact absurd written torn
      | unopened cause =>
          rw [written] at saved
          exact ⟨_, _, saved⟩
      | torn cause size =>
          rw [written] at saved
          exact ⟨_, _, saved⟩
    · obtain ⟨cause, stopped⟩ :=
        saveMaster_of_not_canSave saves suite draws draws.master
      exact ⟨cause, _, stopped⟩
  obtain ⟨cause, after, stopped⟩ := failed
  refine ⟨cause, after, ?_⟩
  unfold loadOrCreateMaster
  rw [Effect.bind_of_ok loaded]
  exact Effect.bind_of_error stopped _

end Identity

end Accord
