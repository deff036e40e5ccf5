import CfFw.Error

/-! The messages of `ipc/protocol.rs`. -/
namespace CfFw

/-- `protocol.rs::Envelope`. -/
structure Envelope (α : Type) where
  version : UInt16
  requestId : Option UInt64
  message : α
  deriving DecidableEq

/-- `Envelope::new`: always the current protocol version. -/
def Envelope.new {α : Type} (requestId : Option UInt64) (message : α) : Envelope α where
  version := protocolVersion
  requestId := requestId
  message := message

/-- `Envelope::validate_version`. -/
def Envelope.validateVersion {α : Type} (envelope : Envelope α) : Result Unit :=
  if envelope.version = protocolVersion then .ok ()
  else .error (.protocol
    s!"unsupported protocol version {envelope.version}; expected {protocolVersion}")

/-- `protocol.rs::StopSelector`. -/
inductive StopSelector where
  | slug (value : String)
  | port (value : UInt16)
  deriving DecidableEq

/-- `protocol.rs::ClientMessage`. -/
inductive ClientMessage where
  | register (port : UInt16) (slug : Option String) (pid : UInt32)
  | unregister (sessionId : UInt64)
  | list
  | stop (selector : StopSelector)
  | kill
  | terminateAcknowledged (sessionId : UInt64)
  deriving DecidableEq

/-- `protocol.rs::TerminateReason`. -/
inductive TerminateReason where
  | remoteStop
  | daemonKill
  deriving DecidableEq

/-- `protocol.rs::ErrorCode`. -/
inductive ErrorCode where
  | invalidRequest
  | invalidPort
  | invalidSlug
  | duplicateSlug
  | duplicatePort
  | routeNotFound
  | noActiveForwards
  | daemonShuttingDown
  | cloudflaredExited
  | internal
  deriving DecidableEq

/-- `protocol.rs::RouteView`. -/
structure RouteView where
  slug : String
  port : UInt16
  localUrl : String
  publicUrl : String
  deriving DecidableEq

/-- `RouteView::new`. -/
def RouteView.new (slug : String) (port : UInt16) (baseDomain : String) : RouteView where
  slug := slug
  port := port
  localUrl := s!"http://{loopbackHost}:{port}"
  publicUrl := s!"https://{slug}.{baseDomain}"

/-- One `metrics.rs` sample: the totals, and the bits of the two `f64` rates. -/
structure MetricsSample where
  uploadedBytes : UInt64
  downloadedBytes : UInt64
  uploadBytesPerSecond : UInt64
  downloadBytesPerSecond : UInt64
  deriving DecidableEq

/-- `protocol.rs::ServerMessage`. -/
inductive ServerMessage where
  | registered (sessionId : UInt64) (slug localUrl publicUrl : String)
  | unregistered (sessionId : UInt64)
  | routeList (routes : List RouteView)
  | stopped (route : RouteView)
  | killAccepted (routeCount : Nat)
  | terminate (reason : TerminateReason)
  | stats (sessionId : UInt64) (sample : MetricsSample)
  | error (code : ErrorCode) (message : String)
  | fatal (code : ErrorCode) (message : String)
  deriving DecidableEq

end CfFw
