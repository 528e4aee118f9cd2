import Accord.Library.EventRun
import Accord.Library.Keyed
import Accord.Library.Like
import Accord.Server.KeyPackages
import Accord.Server.Store.Postgres
import Mathlib.Logic.Function.Basic

/-! `VaultService`: opaque blobs of an account, listed by the start of their
names.  To the accounts the table is a function of account and name, whatever
calls have been made. -/

namespace Accord

structure VaultRow where
  userId : Uuid
  name : String
  blob : Bytes
  deriving DecidableEq

def VaultRow.keyOf (row : VaultRow) : Uuid × String := (row.userId, row.name)

/-- `vault_blobs`, with its primary key.  Postgres also refuses an account
without a user row; no user row is ever deleted. -/
abbrev VaultTable := Keyed VaultRow.keyOf

namespace VaultTable

variable (table : VaultTable)

def names (userId : Uuid) : List String :=
  (table.rows.filter (·.userId == userId)).map (·.name)

def getVaultBlob (userId : Uuid) (name : String) : Option Bytes :=
  (table.find (userId, name)).map (·.blob)

/-- `ON CONFLICT (user_id, name) DO UPDATE`. -/
def putVaultBlob (row : VaultRow) : VaultTable :=
  table.upsert row { apply := fun old => { old with blob := row.blob } }

def deleteVaultBlob (userId : Uuid) (name : String) : VaultTable :=
  table.filter (·.keyOf != (userId, name))

theorem nodup_names (userId : Uuid) : (table.names userId).Nodup := by
  have keys : ((table.rows.filter (·.userId == userId)).map
      VaultRow.keyOf).Nodup :=
    (table.filter (·.userId == userId)).unique
  refine (List.Nodup.of_map (fun name => (userId, name)) ?_)
  have paired : (table.names userId).map (fun name => (userId, name)) =
      (table.rows.filter (·.userId == userId)).map VaultRow.keyOf := by
    rw [names, List.map_map]
    apply List.map_congr_left
    intro row listed
    have own := (List.mem_filter.mp listed).2
    rw [Function.comp_apply, VaultRow.keyOf, eq_of_beq own]
  rwa [paired]

end VaultTable

/-! The start of a name becomes a pattern for `LIKE`. -/

def likeMarks : Like.Marks Char where
  many := '%'
  one := '_'
  escape := '\\'
  many_ne_escape := by decide
  one_ne_escape := by decide

/-- `str::replace` of a character. -/
def replaceChar (char : Char) (other : String) (text : List Char) :
    List Char :=
  text.flatMap fun symbol => if symbol = char then other.toList else [symbol]

def vaultPattern (namePrefix : String) : List Char :=
  replaceChar '_' "\\_" (replaceChar '%' "\\%" namePrefix.toList) ++ ['%']

/-- The bytes of a text as it is bound to a statement. -/
def byteLength (text : List Char) : ℕ := (String.ofList text).utf8ByteSize

/-- The text as SQLite's `LIKE` sees it. -/
def beforeNul (text : List Char) : List Char :=
  text.takeWhile (· != Char.ofNat 0)

/-- `SQLITE_MAX_LIKE_PATTERN_LENGTH`, in bytes. -/
def maxLikePattern : ℕ := 50000

namespace Backend

/-- SQLite compares without regard to the case of ASCII letters. -/
def alike : Backend → Char → Char → Bool
  | .sqlite => fun first second => first.toLower == second.toLower
  | .postgres => fun first second => first == second

/-- What `LIKE` reads of its operands. -/
def likeReads : Backend → List Char → List Char
  | .sqlite => beforeNul
  | .postgres => id

/-- SQLite looks at the length of the pattern when it comes to a row. -/
def likeFails (backend : Backend) (pattern : List Char)
    (names : List String) : Option ServerError :=
  match backend with
  | .sqlite =>
      if maxLikePattern < byteLength pattern ∧ names ≠ [] then
        some (.database "LIKE or GLOB pattern too complex")
      else none
  | .postgres =>
      if !Postgres.takesText (String.ofList pattern) then
        some Postgres.invalidText
      else if Like.items likeMarks pattern = none ∧ names ≠ [] then
        some (.database "LIKE pattern must not end with escape character")
      else none

def like (backend : Backend) (pattern : List Char) (name : String) : Bool :=
  Like.like backend.alike likeMarks (backend.likeReads pattern)
    (backend.likeReads name.toList)

/-- `before` is the order of names, which is up to the database. -/
def listVaultBlobs (backend : Backend) (before : String → String → Bool)
    (table : VaultTable) (userId : Uuid) (namePrefix : String) :
    Except ServerError (List String) :=
  let names := table.names userId
  let pattern := vaultPattern namePrefix
  match backend.likeFails pattern names with
  | some error => .error error
  | none => .ok ((names.filter (backend.like pattern)).mergeSort before)

/-- Whether a name can be a parameter of a statement. -/
def takesText : Backend → String → Bool
  | .sqlite => fun _ => true
  | .postgres => Postgres.takesText

end Backend

namespace VaultSvc

variable (backend : Backend)

def maxNameLen : ℕ := 256

def checkName (name : String) : Except ServerError Unit :=
  if name = "" ∨ maxNameLen < name.utf8ByteSize then
    .error (.invalidArgument "invalid blob name")
  else .ok ()

def bindName (name : String) : Effect VaultTable Status Unit :=
  Effect.check (fun _ => backend.takesText name) Postgres.invalidText

def putBlob (token : Option Claims) (name : String) (blob : Bytes) :
    Effect VaultTable Status Unit := do
  let claims ← authenticate token
  orStatus (Effect.ofExcept (checkName name))
  Effect.check (fun _ => !blob.isEmpty)
    (ServerError.invalidArgument "empty blob")
  bindName backend name
  Effect.update (·.putVaultBlob ⟨claims.sub, name, blob⟩)

def getBlob (token : Option Claims) (name : String) :
    Effect VaultTable Status Bytes := do
  let claims ← authenticate token
  bindName backend name
  Effect.require (·.getVaultBlob claims.sub name)
    (ServerError.notFound "vault blob")

def listBlobs (before : String → String → Bool) (token : Option Claims)
    (namePrefix : String) : Effect VaultTable Status (List String) := do
  let claims ← authenticate token
  let names ← Effect.read fun table : VaultTable =>
    backend.listVaultBlobs before table claims.sub namePrefix
  orStatus (Effect.ofExcept names)

def deleteBlob (token : Option Claims) (name : String) :
    Effect VaultTable Status Unit := do
  let claims ← authenticate token
  bindName backend name
  Effect.update (·.deleteVaultBlob claims.sub name)

end VaultSvc

inductive VaultCall where
  | put (token : Option Claims) (name : String) (blob : Bytes)
  | get (token : Option Claims) (name : String)
  | list (token : Option Claims) (namePrefix : String)
  | delete (token : Option Claims) (name : String)

abbrev Blobs := Uuid × String → Option Bytes

def VaultTable.blobs (table : VaultTable) : Blobs := fun key =>
  table.getVaultBlob key.1 key.2

namespace VaultCall

def step (backend : Backend) (before : String → String → Bool)
    (table : VaultTable) : VaultCall → VaultTable
  | .put token name blob => (VaultSvc.putBlob backend token name blob table).2
  | .get token name => (VaultSvc.getBlob backend token name table).2
  | .list token namePrefix =>
      (VaultSvc.listBlobs backend before token namePrefix table).2
  | .delete token name => (VaultSvc.deleteBlob backend token name table).2

/-- The account and the name that a call changes, and what it leaves there. -/
def change (backend : Backend) :
    VaultCall → Option ((Uuid × String) × Option Bytes)
  | .put (some claims) name blob =>
      if name ≠ "" ∧ name.utf8ByteSize ≤ VaultSvc.maxNameLen ∧ blob ≠ [] ∧
          backend.takesText name then
        some ((claims.sub, name), some blob)
      else none
  | .delete (some claims) name =>
      if backend.takesText name then some ((claims.sub, name), none) else none
  | _ => none

def write (backend : Backend) (blobs : Blobs) (call : VaultCall) : Blobs :=
  match call.change backend with
  | some (key, blob) => Function.update blobs key blob
  | none => blobs

end VaultCall

namespace VaultTable

variable {table : VaultTable}

private theorem blobs_apply (key : Uuid × String) :
    table.blobs key = (table.find key).map (·.blob) := rfl

private theorem blobs_put (row : VaultRow) :
    (table.putVaultBlob row).blobs =
      Function.update table.blobs row.keyOf (some row.blob) := by
  funext key
  rw [blobs_apply, putVaultBlob]
  by_cases own : key = row.keyOf
  · subst own
    rw [Function.update_self, Keyed.find_upsert_self]
    cases table.find row.keyOf <;> rfl
  · rw [Function.update_of_ne own, Keyed.find_upsert_other own, blobs_apply]

private theorem blobs_delete (userId : Uuid) (name : String) :
    (table.deleteVaultBlob userId name).blobs =
      Function.update table.blobs (userId, name) none := by
  have drops : ∀ row : VaultRow,
      (row.keyOf != (userId, name)) = true ↔ row.keyOf ≠ (userId, name) :=
    fun _ => bne_iff_ne
  funext key
  rw [blobs_apply, deleteVaultBlob]
  by_cases own : key = (userId, name)
  · rw [own, Function.update_self, Keyed.find_filter_self drops]
    rfl
  · rw [Function.update_of_ne own, Keyed.find_filter_other drops own,
      blobs_apply]

end VaultTable

namespace VaultCall

variable (backend : Backend) (before : String → String → Bool)

private theorem blobs_putBlob (table : VaultTable) (token : Option Claims)
    (name : String) (blob : Bytes) :
    (VaultSvc.putBlob backend token name blob table).2.blobs =
      write backend table.blobs (.put token name blob) := by
  cases token with
  | none => rfl
  | some claims =>
      simp only [VaultSvc.putBlob, authenticate_bind, write, change]
      by_cases named : name = "" ∨ VaultSvc.maxNameLen < name.utf8ByteSize
      · have refused : VaultSvc.checkName name =
            .error (.invalidArgument "invalid blob name") := if_pos named
        rw [refused, if_neg (by grind)]
        rfl
      · have admitted : VaultSvc.checkName name = .ok () := if_neg named
        rw [admitted]
        change (((Effect.check _ _) >>= _) table).2.blobs = _
        rw [Effect.check_bind]
        cases blob with
        | nil => simp
        | cons first rest =>
            simp only [List.isEmpty_cons, Bool.not_false, if_true]
            rw [VaultSvc.bindName, Effect.check_bind]
            cases taken : backend.takesText name with
            | false => simp
            | true =>
                rw [not_or, not_lt] at named
                rw [if_pos rfl, if_pos ⟨named.1, named.2, by simp, rfl⟩]
                exact VaultTable.blobs_put _

private theorem blobs_deleteBlob (table : VaultTable) (token : Option Claims)
    (name : String) :
    (VaultSvc.deleteBlob backend token name table).2.blobs =
      write backend table.blobs (.delete token name) := by
  cases token with
  | none => rfl
  | some claims =>
      simp only [VaultSvc.deleteBlob, authenticate_bind, write, change]
      rw [VaultSvc.bindName, Effect.check_bind]
      cases taken : backend.takesText name with
      | false => simp
      | true => exact VaultTable.blobs_delete _ _

private theorem readOnly_getBlob (token : Option Claims) (name : String) :
    (VaultSvc.getBlob backend token name).ReadOnly :=
  (readOnly_authenticate token).bind fun _ =>
    (Effect.readOnly_check _ _).bind fun _ => Effect.readOnly_require _ _

private theorem readOnly_listBlobs (token : Option Claims)
    (namePrefix : String) :
    (VaultSvc.listBlobs backend before token namePrefix).ReadOnly :=
  (readOnly_authenticate token).bind fun _ =>
    (Effect.readOnly_read _).bind fun _ =>
      (Effect.readOnly_ofExcept _).mapError _

private theorem blobs_step (table : VaultTable) (call : VaultCall) :
    (step backend before table call).blobs =
      write backend table.blobs call := by
  cases call with
  | put token name blob =>
      exact blobs_putBlob backend table token name blob
  | get token name =>
      exact congrArg VaultTable.blobs
        (readOnly_getBlob backend token name table)
  | list token namePrefix =>
      exact congrArg VaultTable.blobs
        (readOnly_listBlobs backend before token namePrefix table)
  | delete token name => exact blobs_deleteBlob backend table token name

/-- Whatever calls are made, by whomever, the accounts see a function. -/
theorem blobs_run (table : VaultTable) (calls : List VaultCall) :
    (EventRun.run (step backend before) table calls).blobs =
      calls.foldl (write backend) table.blobs := by
  induction calls generalizing table with
  | nil => rfl
  | cons call rest induction =>
      rw [EventRun.run_cons, induction, blobs_step]
      rfl

end VaultCall

end Accord
