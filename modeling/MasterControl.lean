import MasterControl.Foundation.OrdMap
import MasterControl.Foundation.Runs
import MasterControl.Supervisor.Model
import MasterControl.Supervisor.Operations
import MasterControl.Supervisor.Tables
import MasterControl.Foundation.Separators
import MasterControl.Supervisor.WellFormed
import MasterControl.Supervisor.Runs
import MasterControl.Supervisor.Capacity
import MasterControl.Supervisor.TableLength
import MasterControl.Supervisor.CircuitBreaker
import MasterControl.Leasing.Router
import MasterControl.Leasing.Bookkeeping
import MasterControl.Leasing.Liveness
import MasterControl.Leasing.Stickiness
import MasterControl.Gateway.ToolNames
import MasterControl.Foundation.Json
import MasterControl.Gateway.Dispatch
import MasterControl.Gateway.ReplyDiscipline
import MasterControl.Gateway.ToolCallLeases
import MasterControl.Stdio.Framing
import MasterControl.Foundation.Trim
import MasterControl.Clients.Capabilities
import MasterControl.Foundation.KeyedList
import MasterControl.Governance.ExactlyOnce
import MasterControl.Configuration.FailedWrites
import MasterControl.Configuration.Integrity
import MasterControl.Foundation.Calendar
import MasterControl.Assignment.Connection
import MasterControl.Assignment.Persistence
import MasterControl.Activity.Delivery
import MasterControl.Activity.Restarts
import MasterControl.Packages.TrustGate
import MasterControl.Http.Framing
import MasterControl.Http.Files
import MasterControl.Apple.Inspection
import MasterControl.Apple.RemoteShell
import MasterControl.Apple.Lifecycle
import MasterControl.Admin.CreateOrModify
import MasterControl.Admin.ClientAuthority
import MasterControl.Clients.RosterInvariant
import MasterControl.Worker.GraphInvariant
import MasterControl.Gateway.TruthfulStatus
import MasterControl.Gateway.Intake
import MasterControl.Gateway.IntakeLaw
import MasterControl.Supervisor.Restart
import MasterControl.Worker.SharedContext
import MasterControl.Configuration.Startup
import MasterControl.Configuration.FreshInventory
import MasterControl.Admin.RouteDrift
import MasterControl.Packages.ArgumentQuoting
import MasterControl.Gateway.WildcardHosts
import MasterControl.Leasing.Saturation
import MasterControl.Assignment.FailedClaims
import MasterControl.Configuration.Entitlements
import MasterControl.Packages.ConcurrentImports
import MasterControl.Admin.BridgeGuard
import MasterControl.Admin.GrantedRoutes
import MasterControl.Apple.Redaction
import MasterControl.Bootstrapper.FailedInstalls
import MasterControl.Worker.QuotedArguments
import MasterControl.Worker.IntegerTools
import MasterControl.Worker.FileIndex
import MasterControl.Worker.CapturedOutput
import MasterControl.Governance.PolicyChange
import MasterControl.Configuration.FileReplacement
import MasterControl.Diagnostics.SteadyRuns
import MasterControl.Diagnostics.NewestEvents
import MasterControl.Configuration.ConfigurationPatch
import MasterControl.Apple.Replay
import MasterControl.Configuration.ResourceEnvelope
import MasterControl.Worker.GuardedTools
import MasterControl.Configuration.ManifestRegistration
import MasterControl.Configuration.SelfHeal
import MasterControl.Diagnostics.LogRotation
import MasterControl.Http.ContentLength
import MasterControl.Worker.DatabaseQuery
import MasterControl.Bootstrapper.Uninstall
import MasterControl.Gateway.EndpointAdvertisement
import MasterControl.Http.QueryParams
import MasterControl.Clients.Exports
import MasterControl.Admin.DashboardSurface
import MasterControl.Admin.BlockedPosture
import MasterControl.Foundation.OrdSet
import MasterControl.Modules.Compatibility
import MasterControl.Modules.ActivationStore
import MasterControl.Modules.Surface
import MasterControl.Modules.Manager
import MasterControl.Modules.ManagerInvariant
import MasterControl.Modules.Lifecycle
import MasterControl.Modules.Quiet
import MasterControl.Modules.EntitlementSafety
import MasterControl.Modules.Management
import MasterControl.Modules.Restart
import MasterControl.Modules.Display
import MasterControl.Tls.Connection
import MasterControl.Tls.Sending
import MasterControl.Http.ServerStop
