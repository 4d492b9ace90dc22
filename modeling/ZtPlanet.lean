import ZtPlanet.Lib.Dict
import ZtPlanet.Lib.Machine
import ZtPlanet.Lib.Pool
import ZtPlanet.Lib.Prog
import ZtPlanet.Relay.Basic
import ZtPlanet.Relay.Reservation
import ZtPlanet.Relay.Frame
import ZtPlanet.Relay.Connection
import ZtPlanet.Agent.Authorization
import ZtPlanet.Agent.Replay
import ZtPlanet.Relay.Amplification
import ZtPlanet.Python.Text
import ZtPlanet.Python.IpAddress
import ZtPlanet.Python.Json
import ZtPlanet.Python.UrlParse
import ZtPlanet.Agent.Config
import ZtPlanet.Agent.Validate
import ZtPlanet.Agent.Render
import ZtPlanet.Python.IpRoundTrip
import ZtPlanet.Agent.Accepted
import ZtPlanet.Agent.Injection
import ZtPlanet.Agent.State
import ZtPlanet.Agent.Apply
import ZtPlanet.Agent.Rendering
import ZtPlanet.Agent.FailedApply
import ZtPlanet.Agent.Revision
import ZtPlanet.Ztnet.Backend
import ZtPlanet.Ztnet.Access
import ZtPlanet.Ztnet.OrgApi
import ZtPlanet.Ztnet.OrgAuthorization
import ZtPlanet.Ztnet.MemberUpdate
import ZtPlanet.Lib.Interleave
import ZtPlanet.Ztnet.Credential
import ZtPlanet.Ztnet.PasswordCopies
import ZtPlanet.Ztnet.SecondFactor
import ZtPlanet.Ztnet.SsrfGuard
import ZtPlanet.Ztnet.AccountState
import ZtPlanet.Ztnet.RowIsolation
import ZtPlanet.Lib.Refine
import ZtPlanet.Agent.Egress
import ZtPlanet.Relay.GlobalBudget
import ZtPlanet.Ztnet.Observation
import ZtPlanet.Ztnet.Presence
import ZtPlanet.Ztnet.PathChange
import ZtPlanet.Ztnet.Outbox
import ZtPlanet.Ztnet.OutboxSafety
import ZtPlanet.Ztnet.SentTerminal
import ZtPlanet.Lib.UndoStack
import ZtPlanet.Python.Decimal
import ZtPlanet.Agent.UndoStack
import ZtPlanet.Python.NetworkRoundTrip
import ZtPlanet.Python.UrlOrigin
import ZtPlanet.Agent.Fixpoints
import ZtPlanet.Agent.Valid
import ZtPlanet.Agent.Idempotent
import ZtPlanet.Agent.Effective
import ZtPlanet.Agent.Bindings
import ZtPlanet.Lib.Cover
import ZtPlanet.Python.NetworkCover
import ZtPlanet.Agent.RiskGate
import ZtPlanet.Agent.Ports
import ZtPlanet.Agent.Restart
import ZtPlanet.Agent.Writable
import ZtPlanet.Agent.Persist
import ZtPlanet.Relay.Settings
import ZtPlanet.Relay.PythonText
import ZtPlanet.Agent.RelayEnv
import ZtPlanet.Lib.Stream
import ZtPlanet.Relay.Stream
import ZtPlanet.Js.Text
import ZtPlanet.Agent.Client
import ZtPlanet.Agent.SignedRequest
import ZtPlanet.Lib.Crash
import ZtPlanet.Agent.Drift
import ZtPlanet.Agent.Killed
import ZtPlanet.Agent.DriftRuns
import ZtPlanet.Agent.IdempotencyKeys
import ZtPlanet.Python.JsonText
import ZtPlanet.Python.JsonQuotes
import ZtPlanet.Python.JsonRoundTrip
import ZtPlanet.Python.Lines
import ZtPlanet.Agent.AuditLog
import ZtPlanet.Agent.Certificates
import ZtPlanet.Agent.CertificatePairs
import ZtPlanet.Ztnet.MemberMirror
import ZtPlanet.Ztnet.MemberNames
import ZtPlanet.Ztnet.MemberRemoval
import ZtPlanet.Ztnet.StashedMembers
import ZtPlanet.Lib.FirstBy
import ZtPlanet.Lib.Pages
import ZtPlanet.Lib.Transactions
import ZtPlanet.Ztnet.MemberPages
import ZtPlanet.Ztnet.RecoveryCodes
import ZtPlanet.Ztnet.ResetTokens
import ZtPlanet.Ztnet.RouteSync
import ZtPlanet.Ztnet.SyncLoop
import ZtPlanet.Ztnet.Websocket
import ZtPlanet.Ztnet.WorldConfig
import ZtPlanet.Ztnet.Lockout
import ZtPlanet.Ztnet.Bootstrap
import ZtPlanet.Lib.SingleFlight
import ZtPlanet.Ztnet.ReconcileOnce
import ZtPlanet.Ztnet.MemberEvents
import ZtPlanet.MkWorld.Generator
import ZtPlanet.MkWorld.World
import ZtPlanet.Lib.Except
import ZtPlanet.Lib.Faults
import ZtPlanet.Ztnet.NetworkQuota
import ZtPlanet.Ztnet.Invitation
import ZtPlanet.Ztnet.OrganizationMembers
import ZtPlanet.Ztnet.OrganizationOwners
import ZtPlanet.Ztnet.RevokedInvites
import ZtPlanet.Ztnet.Administrators
import ZtPlanet.Lib.Fields
import ZtPlanet.Ztnet.Attribution
import ZtPlanet.Lib.LruCache
import ZtPlanet.Ztnet.RateLimit
import ZtPlanet.Ztnet.TimeFields
import ZtPlanet.Ztnet.InvitationAccounting
import ZtPlanet.Lib.FixedWindow
import ZtPlanet.Relay.Limiter
import ZtPlanet.Lib.Prefix
import ZtPlanet.Relay.ClientFrame
import ZtPlanet.Relay.Replies
import ZtPlanet.Js.Double
import ZtPlanet.Js.Number
import ZtPlanet.Ztnet.AddressText
import ZtPlanet.Ztnet.PoolRoutes
import ZtPlanet.Ztnet.RouteMerge
import ZtPlanet.Ztnet.EasyAssignment
import ZtPlanet.Agent.Refusals
import ZtPlanet.Lib.AllOrNothing
import ZtPlanet.Ztnet.PlanetInstall
import ZtPlanet.Js.NumberText
import ZtPlanet.Python.Ipv6Parts
import ZtPlanet.Ztnet.OctetArithmetic
import ZtPlanet.Ztnet.CidrNotation
import ZtPlanet.Ztnet.SubnetTest
import ZtPlanet.Ztnet.IpUtils
import ZtPlanet.MkWorld.Identity
import ZtPlanet.Ztnet.UserGroups
import ZtPlanet.Relay.Deadline
import ZtPlanet.Ztnet.SortKey
import ZtPlanet.Js.Regex
import ZtPlanet.Lib.FilterChain
import ZtPlanet.Ztnet.RuleWords
import ZtPlanet.Ztnet.RuleTree
import ZtPlanet.Ztnet.RuleCompiler
import ZtPlanet.Ztnet.RuleMeaning
import ZtPlanet.Ztnet.RuleMasks
import ZtPlanet.Ztnet.RuleFields
import ZtPlanet.Ztnet.RulePositions
import ZtPlanet.Ztnet.RuleLayout
import ZtPlanet.MkWorld.KeyChain
