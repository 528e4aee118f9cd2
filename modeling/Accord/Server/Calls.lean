import Accord.Server.Auth.Sessions
import Accord.Server.Confinement
import Accord.Server.Groups.Channels
import Accord.Server.Messaging.Service
import Accord.Server.Roles.Calls

/-! The calls that the server takes, in one machine: those that write the
tables of accounts, groups, memberships, roles, messages, sessions or the audit
log, each by its handler, and the others by what they leave alone. -/

namespace Accord

/-- The tables of accounts, groups, memberships, roles and messages are the
same. -/
structure Store.SameRecords (before after : Store) : Prop where
  users : after.users = before.users
  groups : after.groups = before.groups
  members : after.groupMembers = before.groupMembers
  bans : after.bans = before.bans
  roles : after.roles = before.roles
  memberRoles : after.memberRoles = before.memberRoles
  pub : after.publicMessages = before.publicMessages
  priv : after.privateMessages = before.privateMessages

structure Store.SameLedgers (before after : Store) : Prop
    extends before.SameRecords after where
  audits : after.auditLog = before.auditLog

/-- `elsewhere` is a call of the other services or of invites, devices and
lookups, which works on other tables. -/
inductive ServerCall where
  | session (call : SessionCall)
  | role (token : Option Claims) (call : RoleCall)
  | group (call : GroupCall)
  | publicMessage (bus : Bus) (draw : RowDraw) (fresh userId : Uuid)
      (m : SendPublicMessage)
  | privateMessage (bus : Bus) (codec : InboxCodec) (singleInstance : Bool)
      (draw : RowDraw) (fresh : Uuid) (claims : Claims)
      (m : SendPrivateMessage)
  | voiceSignal (userId : Uuid) (signal : VoiceSignal)
  | voiceState (claims : Claims) (update : VoiceStateUpdate)
  | publicHistory (token : Option Claims) (req : FetchHistoryRequest)
  | privateHistory (token : Option Claims) (req : FetchHistoryRequest)
  | deleteGroup (decision : GuardrailDecision) (token : Option Claims)
      (groupId : Option IdText)
  | reorderChannels (token : Option Claims) (categoryId : String)
      (groupIds : List IdText)
  | deleteCategory (decision : GuardrailDecision) (token : Option Claims)
      (id : IdText)
  | createCategory (decision : GuardrailDecision) (token : Option Claims)
      (name : String)
  | reorderCategories (token : Option Claims) (categoryIds : List IdText)
  | updateTavern (decision : GuardrailDecision) (token : Option Claims)
  | updateProfile (token : Option Claims) (displayName avatarUrl : String)
  | elsewhere (change : Store → Store)
      (frame : ∀ store : Store, store.SameLedgers (change store))

namespace ServerCall

open Server

variable (crypto : AuthCrypto) (config : AuthConfig)

def step (server : Server) : ServerCall → Server
  | .session call =>
      { server with store := call.step crypto config server.store }
  | .role token call =>
      { server with store := call.after token server.store }
  | .group call => call.step server
  | .publicMessage bus draw fresh userId m =>
      (MessagingSvc.handlePublicMessage bus draw fresh userId m server).2
  | .privateMessage bus codec singleInstance draw fresh claims m =>
      (MessagingSvc.handlePrivateMessage bus codec singleInstance draw fresh
        claims m server).2
  | .voiceSignal userId signal =>
      (onStore (orStatus
        (MessagingSvc.acceptVoiceSignal userId signal)) server).2
  | .voiceState claims update =>
      (MessagingSvc.handleVoiceState claims update server).2
  | .publicHistory token req =>
      (onStore (MessagingSvc.fetchPublicHistory token req) server).2
  | .privateHistory token req =>
      (onStore (MessagingSvc.fetchPrivateHistory token req) server).2
  | .deleteGroup decision token groupId =>
      (onStore (GroupSvc.deleteGroup decision token groupId) server).2
  | .reorderChannels token categoryId groupIds =>
      (onStore (GroupSvc.reorderChannels token categoryId groupIds) server).2
  | .deleteCategory decision token id =>
      (onStore (GroupSvc.deleteCategory decision token id) server).2
  | .createCategory decision token name =>
      (onStore (GroupSvc.createCategory decision token name) server).2
  | .reorderCategories token categoryIds =>
      (onStore (GroupSvc.reorderCategories token categoryIds) server).2
  | .updateTavern decision token =>
      (onStore (GroupSvc.updateTavern decision token) server).2
  | .updateProfile token displayName avatarUrl =>
      (onStore (GroupSvc.updateProfile token displayName avatarUrl) server).2
  | .elsewhere change _ => { server with store := change server.store }

end ServerCall

end Accord
