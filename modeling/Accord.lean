import Accord.Library.EventRun
import Accord.Library.Effect
import Accord.Library.FileWrite
import Accord.Types.Text
import Accord.Types.Permissions
import Accord.Server.Error
import Accord.Server.Store.Model
import Accord.Server.Store.Roles
import Accord.Library.Peak
import Accord.Server.Authz
import Accord.Server.Roles.Service
import Accord.Server.Roles.Hierarchy
import Accord.Server.Roles.Escalation
import Accord.Library.Nested
import Accord.Server.Messaging.Registry
import Accord.Server.Messaging.Hub
import Accord.Server.Messaging.Streams
import Accord.Library.Channel
import Accord.Server.Messaging.Delivery
import Accord.Server.Store.Inbox
import Accord.Server.Store.Groups
import Accord.Server.Auth.Service
import Accord.Server.Groups.Moderation
import Accord.Server.Messaging.Drain
import Accord.Server.Auth.Sessions
import Accord.Server.Auth.Rotation
import Accord.Crypto.Backup
import Accord.Server.Backup
import Accord.Client.Identity
import Accord.Client.KeyBackup
import Accord.Client.SparedBackup
import Accord.Server.Groups.Service
import Accord.Server.Confinement
import Accord.Library.Slots
import Accord.Server.Store.Messages
import Accord.Server.Messaging.Mailbox
import Accord.Server.Messaging.ExactlyOnce
import Accord.Library.Format
import Accord.Server.Groups.Removal
import Accord.Server.Roles.Ceiling
import Accord.Library.Tasks
import Accord.Server.Auth.Registration
import Accord.Server.Store.KeyPackages
import Accord.Server.KeyPackages
import Accord.Server.Messaging.Idempotency
import Accord.Server.Messaging.Service
import Accord.Server.Messaging.Separation
import Accord.Server.Groups.Channels
import Accord.Server.Calls
import Accord.Server.Guests
import Accord.Server.Enforcement
import Accord.Server.Groups.Joins
import Accord.Server.Groups.Exclusion
import Accord.Server.Auth.Jwt
import Accord.Server.Auth.KeyLogin
import Accord.Server.Roles.Alerts
import Accord.Server.Roles.Order
import Accord.Server.Groups.Atomicity
import Accord.Server.Groups.Enrolment
import Accord.Library.Alike
import Accord.Server.Groups.Reads
import Accord.Server.Groups.Secrecy
import Accord.Library.RateLimit
import Accord.Server.Guardrails.Bucket
import Accord.Server.Guardrails.Gate
import Accord.Server.Roles.Admission
import Accord.Server.Guardrails.Coverage
import Accord.Server.Guardrails.Runs
import Accord.Types.Wire
import Accord.Server.Messaging.FanOut
import Accord.Server.Messaging.CommitReach
import Accord.Client.DirectMessages
import Accord.Client.EpochAgreement
import Accord.Server.Messaging.RosterAgreement
import Accord.Client.LoginRouting
import Accord.Client.OutboxFrame
import Accord.Client.Withdrawal
import Accord.Client.DeliveredFlag
import Accord.Client.Acceptances
import Accord.Client.CrashPoints
import Accord.Client.MlsPersist
import Accord.Client.Flush
import Accord.Client.History
import Accord.Client.HistoryGrowth
import Accord.Client.Mesh
import Accord.Client.Engine
import Accord.Client.ContactDm
import Accord.Server.Guardrails.Budget
import Accord.Server.Guardrails.Clocks
import Accord.Library.SlidingLog
import Accord.Server.Auth.RegistrationRate
import Accord.Server.Auth.AccountCap
import Accord.Library.Paging
import Accord.Server.Messaging.HistoryPages
import Accord.Server.Roles.Effective
import Accord.Server.Groups.MemberRoles
import Accord.Library.Base64
import Accord.Types.Codes
import Accord.Client.CallPresence
import Accord.Client.HostedTaverns
import Accord.Client.HostedList
import Accord.Library.Like
import Accord.Server.Messaging.PrivatePaths
import Accord.Server.Vault
import Accord.Server.VaultListing
import Accord.Server.Friends
import Accord.Client.BackupRestore
import Accord.Server.Auth.DeviceRows
import Accord.Client.ArchiveFile
import Accord.Client.ArchiveRestore
import Accord.Client.PrivateSend
import Accord.Client.ContactsFile
import Accord.Client.VoicePeer
import Accord.Client.Endpoint
import Accord.Library.EditDistance
import Accord.Server.Guardrails.Names
import Accord.Server.Store.Migrations
import Accord.Client.Playback
import Accord.Client.PlaybackPace
import Accord.Server.KeyPackagePool
import Accord.Server.Groups.Categories
import Accord.Client.PeerUris
import Accord.Client.VoiceEngine
import Accord.Client.VoiceMesh
import Accord.Client.VoiceHandshake
import Accord.Library.Log
import Accord.Server.Integrity
import Accord.Server.Standing
import Accord.Client.ChatWindow
import Accord.Client.LostAnswers
import Accord.Server.AuditTrail
