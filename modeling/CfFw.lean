import CfFw.Transition
import CfFw.Protocol
import CfFw.Slug
import CfFw.Registry
import CfFw.RegistryInvariant
import CfFw.CloudflareConfig
import CfFw.NormalizeContract
import CfFw.NormalizeStability
import CfFw.Headers
import CfFw.IngressRouting
import CfFw.PublicHost
import CfFw.Daemon
import CfFw.Framing
import CfFw.DaemonSteps
import CfFw.Sessions
import CfFw.Cleanup
import CfFw.IdleStop
import CfFw.KillFinal
import CfFw.Ownership
import CfFw.StopRemoval
import CfFw.FrameStreams
import CfFw.ClientSession
import CfFw.JsonText
import CfFw.Wire
import CfFw.ReplySize
import CfFw.FirstReply
import CfFw.StatsSession
import CfFw.Notification
import CfFw.Lifecycle
import CfFw.LifecycleSteps
import CfFw.Supervision
import CfFw.SingleDaemon
import CfFw.LossyText
import CfFw.StartClient
import CfFw.StartClientSteps
import CfFw.ShutdownWindow
import CfFw.StartupFailure
import CfFw.SlugGeneration
import CfFw.Registration
import CfFw.SessionCleanup
import CfFw.GeneratedRoutes
import CfFw.Selectors
import CfFw.Metrics
import CfFw.BoundedLog
import CfFw.RecentOutput
import CfFw.CaptureStream
import CfFw.ConfigReplacement
import CfFw.HeldSince
import CfFw.IdleClock
import CfFw.ControlProgress
import CfFw.HostnameLength
import CfFw.ProxyPort
import CfFw.StopAcknowledgement
import CfFw.UpstreamRequest
import CfFw.Regex
import CfFw.SetupHostname
import CfFw.Lines
import CfFw.ProfileBlock
import CfFw.ScriptVerification
import CfFw.OAuthTokens
import CfFw.Program
import CfFw.SetupRun
import CfFw.SetupRollback
import CfFw.ProcessTable
import CfFw.SetupProcesses
import CfFw.Loop
import CfFw.SetupPrompts
import CfFw.ProxyReply
import CfFw.ProxyTraffic
import CfFw.StartupLock
import CfFw.Unambiguous
import CfFw.WireText
import CfFw.ReplyOrder
import CfFw.AnnouncedUrl
import CfFw.CommandReports
import CfFw.TunnelProcess
import CfFw.Directory
import CfFw.Pagination
import CfFw.Preflight
import CfFw.Redirects
import CfFw.RouteDirectory
import CfFw.SetupSuccess
