import Accord.Types.Text

namespace Accord

/-- A set of capability bits.  The `i64` column that stores it holds the same
64-bit pattern, so the two share one representation here. -/
structure Permissions where
  bits : BitVec 64
  deriving DecidableEq

namespace Permissions

def ofBit (position : ℕ) : Permissions := ⟨1#64 <<< position⟩

def administrator := ofBit 0
def viewChannels := ofBit 1
def sendMessages := ofBit 2
def manageMessages := ofBit 3
def manageChannels := ofBit 4
def manageRoles := ofBit 5
def createInvite := ofBit 6
def kickMembers := ofBit 7
def banMembers := ofBit 8
def manageServer := ofBit 9
def createPrivateChat := ofBit 10
def mentionEveryone := ofBit 11
def attachFiles := ofBit 12
def addReactions := ofBit 13

def names : List (String × Permissions) := [
  ("ADMINISTRATOR", administrator),
  ("VIEW_CHANNELS", viewChannels),
  ("SEND_MESSAGES", sendMessages),
  ("MANAGE_MESSAGES", manageMessages),
  ("MANAGE_CHANNELS", manageChannels),
  ("MANAGE_ROLES", manageRoles),
  ("CREATE_INVITE", createInvite),
  ("KICK_MEMBERS", kickMembers),
  ("BAN_MEMBERS", banMembers),
  ("MANAGE_SERVER", manageServer),
  ("CREATE_PRIVATE_CHAT", createPrivateChat),
  ("MENTION_EVERYONE", mentionEveryone),
  ("ATTACH_FILES", attachFiles),
  ("ADD_REACTIONS", addReactions)]

def empty : Permissions := ⟨0⟩

def all : Permissions :=
  ⟨names.foldl (fun bits entry => bits ||| entry.2.bits) 0⟩

def defaultEveryone : Permissions :=
  ⟨viewChannels.bits ||| sendMessages.bits ||| createInvite.bits |||
    createPrivateChat.bits ||| addReactions.bits ||| attachFiles.bits⟩

def fromBits (bits : BitVec 64) : Permissions := ⟨bits⟩

def contains (granted other : Permissions) : Bool :=
  granted.bits &&& other.bits == other.bits

def isAdmin (granted : Permissions) : Bool := granted.contains administrator

def allows (granted perm : Permissions) : Bool :=
  granted.isAdmin || granted.contains perm

def parse (text : String) : Option Permissions :=
  (parseU64 text).map fromBits

theorem isAdmin_iff (granted : Permissions) :
    granted.isAdmin = true ↔ granted.bits.getLsbD 0 = true := by
  unfold isAdmin contains administrator ofBit
  rw [beq_iff_eq]
  constructor
  · intro equality
    have bit := congrArg (fun word => BitVec.getLsbD word 0) equality
    simpa using bit
  · intro bit
    ext index bound
    by_cases first : index = 0
    · subst first
      simpa using bit
    · simp [first]

end Permissions

end Accord
