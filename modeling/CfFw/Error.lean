import Mathlib.Data.List.Basic

/-! The constants of `config.rs` and the errors of `error.rs` with the texts
users read. Durations and instants count nanoseconds. -/
namespace CfFw

/-- `std::time::Instant` and `std::time::Duration`, in nanoseconds. -/
abbrev Instant := Nat

def loopbackHost : String := "127.0.0.1"
def minProxyPort : UInt16 := 10000
def maxProxyPort : UInt16 := 65535
def daemonStartTimeout : Instant := 10000000000
def daemonIdleTimeout : Instant := 2000000000
def remoteStopTimeout : Instant := 2000000000
def maxIpcFrame : Nat := 64 * 1024
def protocolVersion : UInt16 := 1

/-- The kinds of `std::io::ErrorKind` that the program tells apart. -/
inductive ErrorKind where
  | unexpectedEof
  | brokenPipe
  | connectionReset
  | connectionAborted
  | connectionRefused
  | addrInUse
  | addrNotAvailable
  | alreadyExists
  | notFound
  | invalidInput
  | invalidData
  | other
  deriving DecidableEq

/-- `error.rs::FwError`. Errors of other crates carry the text they display. -/
inductive FwError where
  | invalidPort (value : String)
  | invalidSlug (value reason : String)
  | duplicateSlug (slug : String)
  | duplicatePort (port : UInt16) (slug : String)
  | noActiveForwards
  | missingCloudflareDirectory (executableName path : String) (setupEligible : Bool)
  | missingSibling (name executableName path : String)
  | invalidExecutableDirectory
  | noAvailableProxyPort
  | invalidIngress (details : String)
  | cloudflaredValidation (details : String)
  | cloudflaredExited (details : String)
  | daemonStartTimeout
  | daemonExited (code details : String)
  | daemonAlreadyRunning
  | protocol (details : String)
  | io (kind : ErrorKind) (details : String)
  | yaml (details : String)
  | json (details : String)
  | join (details : String)
  | other (details : String)
  | reported (error : FwError)
  deriving DecidableEq

/-- `FwError::is_reported`. -/
def FwError.isReported : FwError → Bool
  | .reported _ => true
  | _ => false

/-- `error.rs::Result`. -/
abbrev Result (α : Type) := Except FwError α

def formatDetails (details : String) : String :=
  if details = "" then "" else s!"\n{details}"

def formatSetupHint (setupEligible : Bool) (executableName : String) : String :=
  if setupEligible then
    s!"\n\nIf you don't know what you're doing, consider running {executableName} --setup first."
  else ""

/-- The `Display` that `thiserror` derives. -/
def FwError.display : FwError → String
  | .invalidPort value => s!"Invalid port \"{value}\""
  | .invalidSlug value reason => s!"Invalid slug \"{value}\": {reason}"
  | .duplicateSlug slug => s!"Slug \"{slug}\" is already active"
  | .duplicatePort port slug => s!"Port {port} is already forwarded as \"{slug}\""
  | .noActiveForwards => "No active forwards"
  | .missingCloudflareDirectory executableName path setupEligible =>
    s!"The cf directory for {executableName} was not found\nexpected: {path}" ++
      formatSetupHint setupEligible executableName
  | .missingSibling name executableName path =>
    s!"{name} was not found in the cf directory for {executableName}\nexpected: {path}"
  | .invalidExecutableDirectory => "The executable directory could not be determined"
  | .noAvailableProxyPort => "No available proxy port was found in 10000..=65535"
  | .invalidIngress details => s!"Error parsing Cloudflare config.yml\n{details}"
  | .cloudflaredValidation details =>
    "cloudflared rejected the normalized ingress configuration" ++ formatDetails details
  | .cloudflaredExited details => "cloudflared exited unexpectedly" ++ formatDetails details
  | .daemonStartTimeout => "Daemon did not become ready within 10 seconds"
  | .daemonExited code details => s!"Daemon exited with code {code}:\n{details}"
  | .daemonAlreadyRunning => "Daemon is already running"
  | .protocol details => s!"IPC protocol error: {details}"
  | .io _ details => s!"I/O error: {details}"
  | .yaml details => s!"YAML error: {details}"
  | .json details => s!"JSON error: {details}"
  | .join details => s!"task failed: {details}"
  | .other details => details
  | .reported error => error.display

end CfFw
