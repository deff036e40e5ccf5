import CfFw.Lifecycle
import CfFw.LossyText
import CfFw.Protocol

/-! `fw start` of `main.rs` up to its first reply, on one machine with the daemons
that its clients spawn: `run_start`, `start_and_connect`, `capture_daemon_stderr`
and `daemon_exit_error`. A connect reaches a socket as soon as it is bound, whether
or not anybody accepts there yet. -/
namespace CfFw
open Text

/-! ### The error of a daemon that has ended -/

/-- `main.rs::MAX_DAEMON_STARTUP_ERROR_BYTES`. -/
def maxDaemonStartupErrorBytes : Nat := 64 * 1024

/-- What `main` writes for an error it has not shown yet. -/
def errorLine (error : FwError) : String := s!"error: {error.display}"

/-- The last that a process writes to stderr. -/
def Exit.stderr : Exit → List UInt8
  | .returned (.error error) => if error.isReported then [] else bytes (errorLine error ++ "\n")
  | .returned (.ok ()) | .crashed => []

/-- `ExitStatus::code`; none after a signal. -/
def Exit.code : Exit → Option Nat
  | .returned (.ok ()) => some 0
  | .returned (.error _) => some 1
  | .crashed => none

/-- What the capture keeps of the output so far: no more than the last bytes. -/
def lastBytes (limit : Nat) (output : List UInt8) : List UInt8 :=
  output.drop (output.length - limit)

/-- `capture_daemon_stderr`, from the chunks that its reads return. -/
def captureDaemonStderr (chunks : List (List UInt8)) : String :=
  trim (fromUtf8Lossy (chunks.foldl
    (fun output chunk => lastBytes maxDaemonStartupErrorBytes (output ++ chunk)) []))

/-- `daemon_exit_error`, with the text that the capture delivered in time, if any. -/
def daemonExitError (status : Exit) (startupError : Option String) : FwError :=
  let details := startupError.getD ""
  .daemonExited ((status.code.map toString).getD "unknown")
    (if details = "" then "Unknown error" else details)

/-! ### The clients -/

/-- A process of `fw start`. -/
abbrev ClientId := Nat

/-- Where `run_start` stands. `checking` to `collecting` are `start_and_connect`;
`polling`, `looking`, `timing` and `sleeping` are its loop. -/
inductive ClientPhase where
  | absent
  | connecting
  | checking
  | locking
  | reconnecting
  | spawning
  | polling (deadline : Instant)
  | looking (deadline : Instant)
  | timing (deadline : Instant)
  | sleeping (deadline wake : Instant)
  | collecting (latest : Instant)
  | registering (inode : Nat)
  | awaiting (inode : Nat)
  | failing (error : FwError)
  | finished (result : Result UInt64)
  | killed

/-- A client: `run_start`, the daemon it has spawned, the exit status it has seen of
that daemon, and whether a daemon has accepted its connection. -/
structure Client where
  phase : ClientPhase
  child : Option Pid
  exit : Option Exit
  accepted : Bool

/-- No client yet. -/
def Client.absent : Client := ⟨.absent, none, none, false⟩

/-- What happens to a client. `fail` is an error from outside, `lose` one of the
connection; `captured` delivers what was read from the stderr of the child, to its
end or up to an error of a read. -/
inductive ClientEvent where
  | start
  | connect
  | proceed
  | fail (error : FwError)
  | captured (complete : Bool) (chunks : List (List UInt8))
  | captureLate
  | written
  | lose (error : FwError)
  | reply (message : ServerMessage) (debug : String)
  | report (shown : Bool)
  | interrupt

/-- The machine with its clients, the holder of the startup lock and the clock. -/
structure World where
  host : Host
  startupLock : Option ClientId
  clients : ClientId → Client
  now : Instant

/-- A step of a daemon, of a client, an accepted connection of a client, or a pause. -/
inductive WorldLabel where
  | host (label : HostLabel)
  | client (c : ClientId) (event : ClientEvent)
  | accept (p : Pid) (c : ClientId)
  | tick (elapsed : Instant)

namespace World

/-- Nothing runs, and a file may be left at the endpoint path. -/
def start (path : String) (endpoint : Option File) : World :=
  ⟨.start path endpoint, none, fun _ => .absent, 0⟩

def put (world : World) (c : ClientId) (client : Client) : World :=
  { world with clients := Function.update world.clients c client }

/-- `start_and_connect` returns and drops its guard, if it has one. -/
def leave (world : World) (c : ClientId) (client : Client) : World :=
  { world.put c client with
    startupLock := if world.startupLock = some c then none else world.startupLock }

/-- A connect to the endpoint, and what follows when nobody answers. That a connect to an
open socket fails all the same, on a full backlog or for want of a descriptor, is left out. -/
def connect (world : World) (c : ClientId) (client : Client) (otherwise : ClientPhase) : World :=
  match world.host.reached with
  | some inode => world.leave c { client with phase := .registering inode }
  | none => world.put c { client with phase := otherwise }

/-- The exit status of the child, once it has ended. -/
def childExit (world : World) (client : Client) : Option Exit :=
  match client.child.map fun p => (world.host.processes p).phase with
  | some (.exited exit) => some exit
  | _ => none

/-- How `run_start` takes the first reply. -/
def firstReply (message : ServerMessage) (debug : String) : ClientPhase :=
  match message with
  | .registered sessionId _ _ _ => .finished (.ok sessionId)
  | .error _ message | .fatal _ message => .failing (.other message)
  | _ => .failing (.protocol s!"unexpected registration response: {debug}")

/-- One step of client `c`. -/
def clientStep (world : World) (c : ClientId) (event : ClientEvent) : Option World :=
  let client := world.clients c
  match client.phase, event with
  | .absent, .start => some (world.put c { client with phase := .connecting })
  | .connecting, .connect => some (world.connect c client .checking)
  | .checking, .proceed => some (world.put c { client with phase := .locking })
  | .checking, .fail error => some (world.put c { client with phase := .failing error })
  | .locking, .proceed =>
    match world.startupLock with
    | some _ => none
    | none =>
      some { world.put c { client with phase := .reconnecting } with startupLock := some c }
  | .locking, .fail error => some (world.put c { client with phase := .failing error })
  | .reconnecting, .connect => some (world.connect c client .spawning)
  | .spawning, .proceed =>
    (world.host.step .launch).map fun host =>
      { world.put c { client with
          phase := .polling (world.now + daemonStartTimeout)
          child := some world.host.launched } with host }
  | .spawning, .fail error => some (world.leave c { client with phase := .failing error })
  | .polling deadline, .connect => some (world.connect c client (.looking deadline))
  | .looking deadline, .proceed =>
    match world.childExit client with
    | some exit =>
      some (world.put c { client with
        phase := .collecting (world.now + 1000000000)
        exit := some exit })
    | none => some (world.put c { client with phase := .timing deadline })
  | .looking _, .fail error => some (world.leave c { client with phase := .failing error })
  | .timing deadline, .proceed =>
    if deadline ≤ world.now then
      some (world.leave c { client with phase := .failing .daemonStartTimeout })
    else some (world.put c { client with phase := .sleeping deadline (world.now + 50000000) })
  | .sleeping deadline wake, .proceed =>
    if wake ≤ world.now then some (world.put c { client with phase := .polling deadline }) else none
  | .collecting _, .captured complete chunks =>
    match client.exit with
    | some exit =>
      if complete ∧ ¬ exit.stderr <:+ chunks.flatten then none
      else some (world.leave c { client with
        phase := .failing (daemonExitError exit (some (captureDaemonStderr chunks))) })
    | none => none
  | .collecting latest, .captureLate =>
    match client.exit with
    | some exit =>
      if latest ≤ world.now then
        some (world.leave c { client with phase := .failing (daemonExitError exit none) })
      else none
    | none => none
  | .registering inode, .written => some (world.put c { client with phase := .awaiting inode })
  | .registering inode, .lose error | .awaiting inode, .lose error =>
    -- A connection in the backlog lasts as long as the listener.
    if client.accepted ∨ world.host.live inode = false then
      some (world.put c { client with phase := .failing error })
    else none
  | .awaiting _, .reply message debug =>
    if client.accepted then some (world.put c { client with phase := firstReply message debug })
    else none
  | .failing error, .report shown =>
    some (world.put c { client with
      phase := .finished (.error (if shown then .reported error else error)) })
  | .absent, .interrupt | .finished _, .interrupt | .killed, .interrupt => none
  | _, .interrupt => some (world.leave c { client with phase := .killed })
  | _, _ => none

/-- A daemon accepts the connection of a client from the backlog of its socket. -/
def acceptStep (world : World) (p : Pid) (c : ClientId) : Option World :=
  match (world.clients c).phase with
  | .registering inode | .awaiting inode =>
    if (world.clients c).accepted = false ∧ (world.host.processes p).listener.any (·.inode = inode) then
      (world.host.step (.act p .accepted)).map fun host =>
        { world.put c { world.clients c with accepted := true } with host }
    else none
  | _ => none

/-- One step of the machine and its clients. -/
def step (world : World) : WorldLabel → Option World
  | .host label => (world.host.step label).map fun host => { world with host }
  | .client c event => world.clientStep c event
  | .accept p c => world.acceptStep p c
  | .tick elapsed => some { world with now := world.now + elapsed }

end World

end CfFw
