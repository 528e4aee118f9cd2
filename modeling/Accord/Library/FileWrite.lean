import Mathlib.Tactic.Common

/-! Files that are read and written as a whole.  A write empties the file
before it fills it, so that one that stops in between leaves a part of the new
content. -/

variable {Cause Value : Type}

/-- How a write ends.  A torn one leaves the first `size` bytes of the new
content, as a process that stops there does. -/
inductive FileWrite (Cause : Type) where
  | done
  | unopened (cause : Cause)
  | torn (cause : Cause) (size : ℕ)
  deriving DecidableEq

namespace FileWrite

def result : FileWrite Cause → Except Cause Unit
  | done => .ok ()
  | unopened cause | torn cause _ => .error cause

def tears : FileWrite Cause → Bool
  | torn _ _ => true
  | _ => false

/-- What the file is read as afterwards, if `part` is what the beginnings of
the new content are read as. -/
def leaves (part : ℕ → Value) (old new : Value) : FileWrite Cause → Value
  | done => new
  | unopened _ => old
  | torn _ size => part size

@[simp] theorem leaves_done (part : ℕ → Value) (old new : Value) :
    (done : FileWrite Cause).leaves part old new = new := rfl

end FileWrite

/-- A reading of a file and a writing that follows it.  Nothing fails in
`{}`. -/
structure FileUse (Cause : Type) where
  reads : Bool := true
  write : FileWrite Cause := .done
  deriving DecidableEq

namespace FileUse

variable (use : FileUse Cause) (unreadable : Value)
  (change : Value → Bool × Value)

def read (value : Value) : Value :=
  if use.reads then value else unreadable

/-- The file is read, changed and written, unless the change is none.  No part
of the content can be read. -/
def rewrite (value : Value) : Value :=
  let changed := change (use.read unreadable value)
  if changed.1 then
    use.write.leaves (fun _ => unreadable) value changed.2
  else value

variable {unreadable change} {value : Value}

theorem read_keeps (property : Value → Prop) (unread : property unreadable)
    (holds : property value) : property (use.read unreadable value) := by
  unfold read
  split
  · exact holds
  · exact unread

theorem read_subset (list : List Value) :
    use.read [] list ⊆ list :=
  use.read_keeps (· ⊆ list) (List.nil_subset list) (List.Subset.refl list)

theorem rewrite_keeps (property : Value → Prop)
    (unread : property unreadable)
    (changed : ∀ seen, property seen → property (change seen).2)
    (holds : property value) :
    property (use.rewrite unreadable change value) := by
  unfold rewrite
  dsimp only
  split
  · cases use.write with
    | done => exact changed _ (use.read_keeps property unread holds)
    | unopened cause => exact holds
    | torn cause size => exact unread
  · exact holds

variable {use}

@[simp] theorem rewrite_unchanged (unreadable value : Value) :
    use.rewrite unreadable (fun seen => (false, seen)) value = value := rfl

theorem rewrite_of_changes
    (changes : (change (use.read unreadable value)).1 = true) :
    use.rewrite unreadable change value =
      use.write.leaves (fun _ => unreadable) value
        (change (use.read unreadable value)).2 :=
  if_pos changes

/-- Where nothing fails, the change is made; one that reports none makes
none. -/
theorem rewrite_of_works (works : use = {})
    (honest : (change value).1 = false → (change value).2 = value) :
    use.rewrite unreadable change value = (change value).2 := by
  subst works
  unfold rewrite read
  dsimp only
  rw [if_pos rfl]
  cases changes : (change value).1 with
  | true => rfl
  | false => exact (honest changes).symm

end FileUse
