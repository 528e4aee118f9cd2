import Mathlib.Data.List.Basic
import Mathlib.Logic.Function.Basic

/-! Groups that move from epoch to epoch.  A Commit is made for the epoch a
member is in and moves whoever processes it there to the next one; a Welcome
lets its device in at the epoch after the Commit it was made with. -/

namespace Epochs

inductive Handshake (Group : Type) where
  | commit (group : Group) (epoch : ℕ)
  | welcome (group : Group) (epoch : ℕ)
  deriving DecidableEq

abbrev Engine (Group : Type) := Group → Option ℕ

variable {Group : Type} [DecidableEq Group]

def createGroup (engine : Engine Group) (group : Group) : Engine Group :=
  Function.update engine group (some 0)

/-- The Commit and the Welcome of a new member, and the engine after them. -/
def addMember (engine : Engine Group) (group : Group) :
    Option (Handshake Group × Handshake Group × Engine Group) :=
  (engine group).map fun epoch =>
    (.commit group epoch, .welcome group (epoch + 1),
      Function.update engine group (some (epoch + 1)))

/-- A Welcome to a group that is known already is ignored. -/
def joinFromWelcome (engine : Engine Group) : Handshake Group → Engine Group
  | .welcome group epoch =>
      if (engine group).isSome then engine
      else Function.update engine group (some epoch)
  | .commit _ _ => engine

/-- A message for `group`: a Commit that is not for the current epoch is an
error and changes nothing. -/
def processIncoming (engine : Engine Group) (group : Group) :
    Handshake Group → Engine Group
  | .commit other epoch =>
      if other = group ∧ engine group = some epoch then
        Function.update engine group (some (epoch + 1))
      else
        engine
  | .welcome _ _ => engine

theorem addMember_of_some {engine : Engine Group} {group : Group} {epoch : ℕ}
    (member : engine group = some epoch) :
    addMember engine group = some (.commit group epoch,
      .welcome group (epoch + 1),
      Function.update engine group (some (epoch + 1))) := by
  rw [addMember, member]
  rfl

theorem joinFromWelcome_new {engine : Engine Group} {group : Group}
    (unknown : engine group = none) (epoch : ℕ) :
    joinFromWelcome engine (.welcome group epoch) group = some epoch := by
  simp [joinFromWelcome, unknown]

theorem joinFromWelcome_known {engine : Engine Group} {group : Group}
    {epoch : ℕ} (known : engine group = some epoch) (other : ℕ) :
    joinFromWelcome engine (.welcome group other) = engine := by
  simp [joinFromWelcome, known]

end Epochs
