import Accord.Client.Contacts
import Accord.Library.Serial
import Accord.Library.Tasks

/-! The file of the contacts.  An operation reads the whole list and writes the
whole list; commands and the friend sync do so from threads of their own,
without a lock. -/

namespace Accord

inductive ContactOperation where
  | add (code : ContactCode)
  | remove (id : String)
  | setVerified (id : String) (verified : Bool)
  deriving DecidableEq

namespace Contacts

def remove (id : String) (contacts : List StoredContact) :
    List StoredContact :=
  contacts.filter fun contact => toHex contact.pubkey != id

def setVerified (id : String) (verified : Bool) :
    List StoredContact → List StoredContact
  | [] => []
  | contact :: rest =>
      if toHex contact.pubkey = id then { contact with verified } :: rest
      else contact :: setVerified id verified rest

end Contacts

def ContactOperation.run :
    ContactOperation → List StoredContact → List StoredContact
  | .add code => Contacts.upsert code
  | .remove id => Contacts.remove id
  | .setVerified id verified => Contacts.setVerified id verified

/-- A call, also one of the friend commands to add a contact. -/
inductive ContactCall where
  | add (code : CodeText)
  | remove (id : String)
  | setVerified (id : String) (verified : Bool)
  deriving DecidableEq

def ContactCall.operation : ContactCall → Except String ContactOperation
  | .add code => (Contacts.validate code).map .add
  | .remove id => .ok (.remove id)
  | .setVerified id verified => .ok (.setVerified id verified)

inductive ContactTask where
  | loading (call : ContactCall)
  | saving (operation : ContactOperation) (loaded : List StoredContact)
  | done (operation : ContactOperation)
  | failed (error : String)
  deriving DecidableEq

/-- What becomes of the file in a turn that reads it or writes it. -/
abbrev ContactInput := FileUse String

namespace ContactTask

def completed : ContactTask → Option ContactOperation
  | .done operation => some operation
  | _ => none

def next : ContactTask → Option (ContactOperation × List StoredContact)
  | .saving operation loaded => some (operation, loaded)
  | _ => none

end ContactTask

namespace ContactsFile

open Contacts (save addContact)

def advance (contacts : List StoredContact) (task : ContactTask)
    (input : ContactInput) : List StoredContact × ContactTask :=
  match task with
  | .loading call =>
      (contacts, match call.operation with
        | .ok operation => .saving operation (input.read [] contacts)
        | .error error => .failed error)
  | .saving operation loaded =>
      Tasks.turn (save input.write (operation.run loaded))
        (fun _ => .done operation) .failed contacts
  | .done _ | .failed _ => (contacts, task)

def machine :
    Tasks.Machine (List StoredContact) ContactCall ContactTask
      ContactInput where
  enter := .loading
  advance := advance

abbrev Pool := Tasks.Pool (List StoredContact) ContactTask

abbrev Event := Tasks.Event ContactCall ContactInput

theorem ends_addContact (input : ContactInput)
    (contacts : List StoredContact) (code : CodeText) :
    Tasks.Machine.Ends machine input contacts (.loading (.add code))
      (addContact input code contacts).2 := by
  apply Tasks.Machine.Ends.turned
  cases valid : Contacts.validate code with
  | error error =>
      simp only [machine, advance, ContactCall.operation, valid, Except.map]
      unfold addContact
      rw [valid]
      exact .halted fun _ => rfl
  | ok parsed =>
      simp only [machine, advance, ContactCall.operation, valid, Except.map]
      rw [Contacts.addContact_of_ok valid]
      exact Tasks.Machine.ends_last rfl (fun _ _ => rfl) (fun _ _ => rfl)

/-- The list is what the operations that are done make of the first one, in
some order. -/
def InSomeOrder (first : List StoredContact) (pool : Pool) : Prop :=
  Serial.IsResult ContactOperation.run first
    (pool.tasks.filterMap (·.completed)) pool.shared

/-- A list that is saved is what the operation makes of the list in the file by
then, and a save that is torn finds no contacts there. -/
def Current (shared : List StoredContact)
    (saving : ContactOperation × List StoredContact) :
    FileWrite String → Prop
  | .done => saving.1.run saving.2 = saving.1.run shared
  | .unopened _ => True
  | .torn _ _ => shared = []

instance (shared : List StoredContact)
    (saving : ContactOperation × List StoredContact)
    (write : FileWrite String) : Decidable (Current shared saving write) :=
  match write with
  | .done => inferInstanceAs (Decidable (_ = _))
  | .unopened _ => inferInstanceAs (Decidable True)
  | .torn _ _ => inferInstanceAs (Decidable (shared = []))

def SavesCurrent (pool : Pool) : Event → Prop
  | .start _ => True
  | .turn index input => ∀ task ∈ pool.tasks[index]?,
      ∀ saving ∈ task.next, Current pool.shared saving input.write

instance (pool : Pool) (event : Event) :
    Decidable (SavesCurrent pool event) :=
  match event with
  | .start _ => inferInstanceAs (Decidable True)
  | .turn index input =>
      inferInstanceAs (Decidable (∀ task ∈ pool.tasks[index]?,
        ∀ saving ∈ task.next, Current pool.shared saving input.write))

section Order

variable {first : List StoredContact} {pool : Pool}

/-- A turn changes the list only where it completes an operation, and then by
this operation. -/
private theorem advance_cases {task : ContactTask} {input : ContactInput}
    (current : ∀ saving ∈ task.next,
      Current pool.shared saving input.write) :
    (advance pool.shared task input).1 = pool.shared ∧
        (advance pool.shared task input).2.completed = task.completed ∨
      task.completed = none ∧ ∃ operation : ContactOperation,
        (advance pool.shared task input).1 = operation.run pool.shared ∧
          (advance pool.shared task input).2.completed = some operation := by
  cases task with
  | loading call =>
      refine .inl ⟨rfl, ?_⟩
      simp only [advance]
      cases call.operation with
      | ok operation => rfl
      | error error => rfl
  | saving operation loaded =>
      have saved := current (operation, loaded) rfl
      simp only [advance, Tasks.turn, save]
      cases written : input.write with
      | done =>
          rw [written] at saved
          exact .inr ⟨rfl, operation, saved, rfl⟩
      | unopened cause => exact .inl ⟨rfl, rfl⟩
      | torn cause size =>
          rw [written] at saved
          exact .inl ⟨saved.symm, rfl⟩
  | done operation => exact .inl ⟨rfl, rfl⟩
  | failed error => exact .inl ⟨rfl, rfl⟩

theorem InSomeOrder.turned (ordered : InSomeOrder first pool) {index : ℕ}
    {task : ContactTask} {input : ContactInput}
    (found : pool.tasks[index]? = some task)
    (current : SavesCurrent pool (.turn index input)) :
    InSomeOrder first (machine.turned pool index task input) := by
  have before := Slots.perm_filterMap_of_found found ContactTask.completed
  have after := Slots.perm_filterMap_set_of_found found
    (advance pool.shared task input).2 ContactTask.completed
  unfold InSomeOrder at ordered ⊢
  simp only [Tasks.Machine.turned, Tasks.Pool.settle_shared,
    Tasks.Pool.settle_tasks, machine]
  rcases advance_cases (current task found) with
    ⟨kept, same⟩ | ⟨fresh, operation, changed, done⟩
  · rw [same] at after
    rw [kept]
    exact ordered.perm (before.trans after.symm)
  · rw [fresh] at before
    rw [done] at after
    rw [changed]
    exact (ordered.cons operation).perm
      ((before.cons operation).trans after.symm)

/-- Where every operation saves what it makes of the list in the file, none is
lost. -/
theorem inSomeOrder_of_current (first : List StoredContact)
    {events : List Event}
    (current : EventRun.Each machine.step SavesCurrent ⟨first, []⟩ events) :
    EventRun.Always machine.step (InSomeOrder first) ⟨first, []⟩ events := by
  refine Tasks.Machine.always_of_turns ?_ ?_ (Serial.isResult_nil first)
    current
  · intro pool call ordered _
    unfold InSomeOrder at ordered ⊢
    simp only [Tasks.Machine.started, List.filterMap_append]
    exact ordered.perm (List.Perm.of_eq (List.append_nil _).symm)
  · intro pool index task input found ordered current
    exact ordered.turned found current

end Order

def bea : StoredContact :=
  ⟨List.replicate 32 7, "Bea", [], none, none, false⟩

def carl : ContactCode :=
  { identityPubkey := List.replicate 32 8, name := some "Carl" }

/-- Two verifications at once, a code that is none, a contact that is added
after them, and one that cannot be saved. -/
def oneByOne : List Event :=
  let id := Contacts.toHex bea.pubkey
  [.start (.setVerified id true), .start (.setVerified id true),
    .turn 0 {}, .turn 1 {}, .turn 1 {}, .turn 0 {},
    .start (.add (.malformed .badBase64)), .turn 2 {},
    .start (.add (.encoded carl)), .turn 3 {}, .turn 3 {},
    .start (.remove id), .turn 4 {}, .turn 4 { write := .unopened "denied" }]

theorem oneByOne_inOrder :
    EventRun.Always machine.step (InSomeOrder [bea]) ⟨[bea], []⟩ oneByOne :=
  inSomeOrder_of_current [bea] (by decide +kernel)

/-- The friend sync adds a contact while another one is verified. -/
def atOnce : List Event :=
  [.start (.setVerified (Contacts.toHex bea.pubkey) true),
    .start (.add (.encoded carl)),
    .turn 0 {}, .turn 1 {}, .turn 0 {}, .turn 1 {}]

theorem atOnce_lost :
    ¬EventRun.Always machine.step (InSomeOrder [bea]) ⟨[bea], []⟩ atOnce := by
  intro always
  obtain ⟨order, arranged, reached⟩ :=
    Serial.isResult_iff_permutations.mp always.last
  revert order
  decide +kernel

end ContactsFile

end Accord
