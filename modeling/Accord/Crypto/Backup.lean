import Mathlib.Data.Vector.Basic
import Accord.Types.Text

/-! Password-encrypted key backups.  Argon2id and XChaCha20-Poly1305 come from
other crates: they are parameters, with the one law the code relies on. -/

namespace Accord

/-- The array `[u8; n]`. -/
abbrev ByteArr (n : ℕ) := List.Vector UInt8 n

def ByteArr.tryFrom (n : ℕ) (bytes : Bytes) : Option (ByteArr n) :=
  if sized : bytes.length = n then some ⟨bytes, sized⟩ else none

theorem ByteArr.tryFrom_toList {n : ℕ} (bytes : ByteArr n) :
    ByteArr.tryFrom n bytes.toList = some bytes := by
  unfold ByteArr.tryFrom
  rw [dif_pos bytes.toList_length]
  rfl

inductive CryptoError where
  | invalidKey (what : String)
  | badSignature
  | keyDerivation (what : String)
  | decryption
  deriving DecidableEq

def CryptoError.text : CryptoError → String
  | .invalidKey what => "invalid key material: " ++ what
  | .badSignature => "signature verification failed"
  | .keyDerivation what => "key derivation failed: " ++ what
  | .decryption => "decryption failed: wrong password or corrupted backup"

namespace Backup

def nonceLen : ℕ := 24

structure Argon2Params where
  memoryKib : UInt32
  iterations : UInt32
  parallelism : UInt32
  deriving DecidableEq

instance : Inhabited Argon2Params := ⟨256 * 1024, 4, 4⟩

/-- `u32::to_le_bytes`. -/
def toLeBytes (word : UInt32) : Bytes :=
  (List.range 4).map fun index => UInt8.ofNat (word.toNat / 256 ^ index)

/-- `u32::from_le_bytes` on the four bytes from `offset` on. -/
def readLe (bytes : Bytes) (offset : ℕ) : UInt32 :=
  UInt32.ofNat (((bytes.drop offset).take 4).foldr
    (fun byte rest => byte.toNat + 256 * rest) 0)

theorem length_toLeBytes (word : UInt32) : (toLeBytes word).length = 4 := by
  simp [toLeBytes]

theorem readLe_toLeBytes (front back : Bytes) (word : UInt32) :
    readLe (front ++ (toLeBytes word ++ back)) front.length = word := by
  have field : ((front ++ (toLeBytes word ++ back)).drop front.length).take 4 =
      toLeBytes word := by
    rw [List.drop_left]
    exact List.take_left' (length_toLeBytes word)
  unfold readLe
  rw [field]
  apply UInt32.toNat.inj
  have bound : word.toNat < 2 ^ 32 := word.toNat_lt
  simp only [toLeBytes, List.range, List.range.loop, List.map, List.foldr,
    UInt8.toNat_ofNat', UInt32.toNat_ofNat']
  omega

theorem toLeBytes_readLe {bytes : Bytes} {offset : ℕ}
    (within : offset + 4 ≤ bytes.length) :
    toLeBytes (readLe bytes offset) = (bytes.drop offset).take 4 := by
  have size : ((bytes.drop offset).take 4).length = 4 := by
    rw [List.length_take, List.length_drop]
    omega
  unfold readLe
  generalize (bytes.drop offset).take 4 = field at size
  obtain ⟨a, b, c, d, rfl⟩ := List.length_eq_four.mp size
  have boundA := a.toNat_lt
  have boundB := b.toNat_lt
  have boundC := c.toNat_lt
  have boundD := d.toNat_lt
  simp only [toLeBytes, List.range, List.range.loop, List.map, List.foldr,
    UInt32.toNat_ofNat', List.cons.injEq, and_true]
  refine ⟨?_, ?_, ?_, ?_⟩ <;>
    (apply UInt8.toNat.inj; rw [UInt8.toNat_ofNat']; omega)

namespace Argon2Params

def toBytes (params : Argon2Params) : Bytes :=
  toLeBytes params.memoryKib ++
    (toLeBytes params.iterations ++ toLeBytes params.parallelism)

def fromBytes (bytes : Bytes) : Except CryptoError Argon2Params :=
  if bytes.length ≠ 12 then
    .error (.keyDerivation
      ("argon2_params must be 12 bytes, got " ++ toString bytes.length))
  else
    .ok ⟨readLe bytes 0, readLe bytes 4, readLe bytes 8⟩

theorem length_toBytes (params : Argon2Params) :
    params.toBytes.length = 12 := by
  simp [toBytes, length_toLeBytes]

theorem fromBytes_toBytes (params : Argon2Params) :
    fromBytes params.toBytes = .ok params := by
  have memory : readLe params.toBytes 0 = params.memoryKib :=
    readLe_toLeBytes [] _ _
  have passes : readLe params.toBytes 4 = params.iterations := by
    have field := readLe_toLeBytes (toLeBytes params.memoryKib)
      (toLeBytes params.parallelism) params.iterations
    rwa [length_toLeBytes] at field
  have lanes : readLe params.toBytes 8 = params.parallelism := by
    have field := readLe_toLeBytes
      (toLeBytes params.memoryKib ++ toLeBytes params.iterations) []
      params.parallelism
    rwa [List.append_nil, List.append_assoc, List.length_append,
      length_toLeBytes, length_toLeBytes] at field
  unfold fromBytes
  rw [if_neg (not_not_intro params.length_toBytes), memory, passes, lanes]

theorem toBytes_of_fromBytes {bytes : Bytes} {params : Argon2Params}
    (read : fromBytes bytes = .ok params) : params.toBytes = bytes := by
  unfold fromBytes at read
  split at read
  · cases read
  · rename_i size
    rw [not_not] at size
    cases read
    unfold toBytes
    rw [toLeBytes_readLe (by omega), toLeBytes_readLe (by omega),
      toLeBytes_readLe (by omega), List.drop_zero]
    have last : (bytes.drop 8).take 4 = bytes.drop 8 :=
      List.take_of_length_le (by rw [List.length_drop]; omega)
    have middle : (bytes.drop 4).take 4 ++ bytes.drop 8 = bytes.drop 4 :=
      (congrArg _ List.drop_drop.symm).trans (List.take_append_drop 4 _)
    rw [last, middle, List.take_append_drop]

theorem fromBytes_ok_iff {bytes : Bytes} :
    (∃ params, fromBytes bytes = .ok params) ↔ bytes.length = 12 := by
  constructor
  · rintro ⟨params, read⟩
    rw [← toBytes_of_fromBytes read, params.length_toBytes]
  · intro size
    unfold fromBytes
    rw [if_neg (not_not_intro size)]
    exact ⟨_, rfl⟩

end Argon2Params

/-- The primitives: `argon2id password salt params`, and the cipher under a
key and a nonce.  Decrypting undoes encrypting. -/
structure Suite where
  argon2id : Bytes → Bytes → Argon2Params → Except String (ByteArr 32)
  encrypt : ByteArr 32 → ByteArr 24 → Bytes → Option Bytes
  decrypt : ByteArr 32 → ByteArr 24 → Bytes → Option Bytes
  decrypt_encrypt : ∀ key nonce plaintext ciphertext,
    encrypt key nonce plaintext = some ciphertext →
    decrypt key nonce ciphertext = some plaintext

structure EncryptedBackup where
  blob : Bytes
  salt : ByteArr 32
  params : Argon2Params
  deriving DecidableEq

section Suite

variable (suite : Suite)

def deriveWrappingKey (password salt : Bytes) (params : Argon2Params) :
    Except CryptoError (ByteArr 32) :=
  (suite.argon2id password salt params).mapError .keyDerivation

/-- `seal` in the source, which draws the nonce here. -/
def sealBlob (nonce : ByteArr 24) (key : ByteArr 32) (plaintext : Bytes) :
    Except CryptoError Bytes :=
  match suite.encrypt key nonce plaintext with
  | some ciphertext => .ok (nonce.toList ++ ciphertext)
  | none => .error .decryption

/-- `open` in the source. -/
def openBlob (key : ByteArr 32) (blob : Bytes) : Except CryptoError Bytes :=
  match ByteArr.tryFrom 24 (blob.take nonceLen) with
  | none => .error .decryption
  | some nonce =>
      match suite.decrypt key nonce (blob.drop nonceLen) with
      | some plaintext => .ok plaintext
      | none => .error .decryption

/-- The salt and the nonce are arguments: the source draws them here. -/
def encryptBackup (salt : ByteArr 32) (nonce : ByteArr 24)
    (password plaintext : Bytes) (params : Argon2Params) :
    Except CryptoError EncryptedBackup := do
  let key ← deriveWrappingKey suite password salt.toList params
  let blob ← sealBlob suite nonce key plaintext
  return ⟨blob, salt, params⟩

/-- The length of the blob is checked before a key is derived. -/
def decryptBackup (password blob salt : Bytes) (params : Argon2Params) :
    Except CryptoError Bytes :=
  if blob.length < nonceLen then
    .error .decryption
  else do
    let key ← deriveWrappingKey suite password salt params
    openBlob suite key blob

variable {suite}

theorem sealBlob_ok {nonce : ByteArr 24} {key : ByteArr 32}
    {plaintext blob : Bytes}
    (sealed : sealBlob suite nonce key plaintext = .ok blob) :
    ∃ ciphertext, suite.encrypt key nonce plaintext = some ciphertext ∧
      blob = nonce.toList ++ ciphertext := by
  unfold sealBlob at sealed
  split at sealed
  · rename_i ciphertext encrypted
    cases sealed
    exact ⟨ciphertext, encrypted, rfl⟩
  · cases sealed

theorem nonceLen_le_length {nonce : ByteArr 24} {key : ByteArr 32}
    {plaintext blob : Bytes}
    (sealed : sealBlob suite nonce key plaintext = .ok blob) :
    nonceLen ≤ blob.length := by
  obtain ⟨ciphertext, _, rfl⟩ := sealBlob_ok sealed
  rw [List.length_append, nonce.toList_length]
  exact Nat.le_add_right _ _

theorem openBlob_sealBlob {nonce : ByteArr 24} {key : ByteArr 32}
    {plaintext blob : Bytes}
    (sealed : sealBlob suite nonce key plaintext = .ok blob) :
    openBlob suite key blob = .ok plaintext := by
  obtain ⟨ciphertext, encrypted, rfl⟩ := sealBlob_ok sealed
  have front : (nonce.toList ++ ciphertext).take nonceLen = nonce.toList :=
    List.take_left' nonce.toList_length
  have back : (nonce.toList ++ ciphertext).drop nonceLen = ciphertext :=
    List.drop_left' nonce.toList_length
  unfold openBlob
  rw [front, back, ByteArr.tryFrom_toList]
  change (match suite.decrypt key nonce ciphertext with
    | some plaintext => Except.ok plaintext
    | none => Except.error CryptoError.decryption) = _
  rw [suite.decrypt_encrypt _ _ _ _ encrypted]

theorem encryptBackup_ok {salt : ByteArr 32} {nonce : ByteArr 24}
    {password plaintext : Bytes} {params : Argon2Params}
    {backup : EncryptedBackup}
    (encrypted : encryptBackup suite salt nonce password plaintext params =
      .ok backup) :
    ∃ key, deriveWrappingKey suite password salt.toList params = .ok key ∧
      sealBlob suite nonce key plaintext = .ok backup.blob ∧
      backup.salt = salt ∧ backup.params = params := by
  unfold encryptBackup at encrypted
  cases derived : deriveWrappingKey suite password salt.toList params with
  | error error =>
      rw [derived] at encrypted
      cases encrypted
  | ok key =>
      rw [derived] at encrypted
      cases sealed : sealBlob suite nonce key plaintext with
      | error error =>
          simp [sealed, bind, Except.bind] at encrypted
      | ok blob =>
          simp only [sealed, bind, Except.bind, pure, Except.pure] at encrypted
          cases encrypted
          exact ⟨key, rfl, sealed, rfl, rfl⟩

theorem encryptBackup_of_derived {salt : ByteArr 32} {nonce : ByteArr 24}
    {password plaintext ciphertext : Bytes} {params : Argon2Params}
    {key : ByteArr 32}
    (derived : suite.argon2id password salt.toList params = .ok key)
    (encrypted : suite.encrypt key nonce plaintext = some ciphertext) :
    encryptBackup suite salt nonce password plaintext params =
      .ok ⟨nonce.toList ++ ciphertext, salt, params⟩ := by
  unfold encryptBackup deriveWrappingKey sealBlob
  rw [derived]
  simp only [Except.mapError, bind, Except.bind, encrypted]
  rfl

theorem decryptBackup_encryptBackup {salt : ByteArr 32} {nonce : ByteArr 24}
    {password plaintext : Bytes} {params : Argon2Params}
    {backup : EncryptedBackup}
    (encrypted : encryptBackup suite salt nonce password plaintext params =
      .ok backup) :
    decryptBackup suite password backup.blob backup.salt.toList
      backup.params = .ok plaintext := by
  obtain ⟨key, derived, sealed, sameSalt, sameParams⟩ :=
    encryptBackup_ok encrypted
  unfold decryptBackup
  rw [if_neg (Nat.not_lt.mpr (nonceLen_le_length sealed)), sameSalt,
    sameParams, derived]
  exact openBlob_sealBlob sealed

end Suite

end Backup

end Accord
