import CfFw.Daemon

/-! The life of one daemon process, `run` of `daemon/mod.rs` from its first line
to the end of the process, with `acquire_daemon` of `platform/unix.rs` and the
`Listener` of `ipc/unix.rs`. A step is one system call or one await; what the
kernel, `cloudflared` and the other tasks of the process do are events. -/
namespace CfFw

/-- A process of the daemon. -/
abbrev Pid := Nat

/-- A file at the endpoint path. A socket is known by its device and inode. -/
inductive File where
  | socket (inode : Nat)
  | other
  deriving DecidableEq

/-- What the processes of a `RuntimeScope` share: the file at the endpoint path, the
`flock` on the daemon lock file, and the endpoint path itself, which never changes. -/
structure Files where
  endpoint : Option File
  daemonLock : Option Pid
  path : String
  deriving DecidableEq

/-- The kernel takes back the lock of a process, as the drop of its guard does. -/
def Files.release (files : Files) (p : Pid) : Files :=
  { files with daemonLock := if files.daemonLock = some p then none else files.daemonLock }

/-- How far the drop of a listener has come: it has yet to look at the path, it is
going to remove the file there, or only the close is left. -/
inductive DropStage where
  | whole
  | doomed
  | spent
  deriving DecidableEq

/-- `ipc/unix.rs::Listener`: the inode of the open socket, and the one that `bind`
has read back from the path. Before that there is only the `UnixListener`, which
removes nothing when it is dropped. -/
structure Listener where
  inode : Nat
  recorded : Option Nat
  stage : DropStage
  deriving DecidableEq

/-- A task that `run` has spawned. `leaving` is a task that has left its loop and
drops what it owns. -/
inductive Task where
  | unspawned
  | running
  | leaving (result : Result Unit)
  | ended (result : Result Unit)

/-- The task was started and is not in its loop any more. -/
def Task.stopped : Task → Bool
  | .leaving _ | .ended _ => true
  | .unspawned | .running => false

/-- The fallible steps of `run` before its tasks are started. `inspect`, `probe`
and `unlink` are `prepare_endpoint`; `bind`, `restrict` and `record` are the rest
of `Listener::bind`. -/
inductive Stage where
  | acquire
  | resolve
  | reserve
  | normalize
  | inspect
  | probe
  | unlink
  | bind
  | restrict
  | record
  | signals
  | spawn
  | stabilize
  deriving DecidableEq

/-- What is left to do when `cloudflared` could not be started. -/
inductive Abort where
  | shutdown
  | proxy
  | signals
  deriving DecidableEq

/-- What is left to do after the supervising loop. -/
inductive Finish where
  | shutdown
  | accept
  | idle
  | signals
  | proxy
  deriving DecidableEq

/-- How a process ended: `main` has seen the result of `run`, or it crashed. -/
inductive Exit where
  | returned (result : Result Unit)
  | crashed

/-- Where `run` stands. `leaving` drops its local variables, the daemon guard
last; `returned` is the rest of `main`. -/
inductive RunPhase where
  | unborn
  | startup (stage : Stage)
  | discarding (error : FwError)
  | aborting (left : Abort) (error : FwError)
  | supervising
  | polling
  | broadcasting (details : String)
  | finishing (left : Finish)
  | leaving (result : Result Unit)
  | returned (result : Result Unit)
  | exited (exit : Exit)

/-- A daemon process: `run`, its listener, the root token and its tasks. -/
structure Process where
  phase : RunPhase
  listener : Option Listener
  cancelled : Bool
  accept : Task
  proxy : Task
  signals : Task
  idle : Task
  fatalError : Option FwError

namespace Process

/-- No process yet. -/
def unborn : Process := ⟨.unborn, none, false, .unspawned, .unspawned, .unspawned, .unspawned, none⟩

/-- A process about to enter `run`. -/
def started : Process := { unborn with phase := .startup .acquire }

/-- Goes on with the next stage. -/
def enter (process : Process) (stage : Stage) : Process := { process with phase := .startup stage }

/-- Returns from `run`. -/
def leave (process : Process) (result : Result Unit) : Process :=
  { process with phase := .leaving result }

/-- `run` fails at a stage. -/
def failAt (process : Process) (error : FwError) : Stage → Process
  | .acquire => { process with phase := .returned (.error error) }
  | .restrict => { process with phase := .discarding error }
  | .spawn => { process with cancelled := true, phase := .aborting .proxy error }
  | .stabilize => { process with cancelled := true, phase := .aborting .shutdown error }
  | _ => process.leave (.error error)

/-- The result of `run` at its end. -/
def result (process : Process) : Result Unit :=
  match process.fatalError with
  | some error => .error error
  | none => .ok ()

/-- Keeps the first error. -/
def noteError (process : Process) : Result Unit → Process
  | .ok () => process
  | .error error => { process with fatalError := process.fatalError.or (some error) }

/-- The listener is being dropped: by `run` before it was moved to the accept
task, and then by that task. -/
def dropsListener (process : Process) : Bool :=
  match process.accept, process.phase with
  | .unspawned, .leaving _ => true
  | .leaving _, _ => true
  | _, _ => false

end Process

/-- What happens to a process. `proceed` is the next step of `run` without an
error from outside. -/
inductive Event where
  | proceed
  | fail (error : FwError)
  | bind (inode : Nat)
  | polled (outcome : Poll)
  | accepted
  | acceptFails (error : FwError)
  | acceptStops
  | acceptEnds
  | inspectSocket (succeeds : Bool)
  | removeSocket (succeeds : Bool)
  | closeSocket
  | proxyFails (error : FwError)
  | proxyStops
  | signal
  | signalsStop
  | idleExpires
  | idleStops
  | killed
  | exit
  | crash

/-- The refusals of `prepare_endpoint` and of `bind`. -/
def endpointInUse (path : String) : FwError :=
  .io .addrInUse s!"IPC endpoint is already active: {path}"
def endpointNotSocket (path : String) : FwError :=
  .io .alreadyExists s!"refusing to replace non-socket IPC endpoint: {path}"
def boundNotSocket : FwError := .io .invalidData "bound IPC endpoint is not a Unix socket"
def noSuchFile : FwError := .io .notFound "No such file or directory (os error 2)"
def addressInUse : FwError := .io .addrInUse "Address already in use (os error 98)"

/-- A stage without an error from outside. `live inode` says whether a connect to
the socket is answered. -/
def proceedStage (p : Pid) (live : Nat → Bool) (files : Files) (process : Process) :
    Stage → Option (Files × Process)
  | .acquire =>
    match files.daemonLock with
    | some _ => some (files, process.failAt .daemonAlreadyRunning .acquire)
    | none => some ({ files with daemonLock := some p }, process.enter .resolve)
  | .resolve => some (files, process.enter .reserve)
  | .reserve => some (files, process.enter .normalize)
  | .normalize => some (files, process.enter .inspect)
  | .inspect =>
    match files.endpoint with
    | none => some (files, process.enter .bind)
    | some (.socket _) => some (files, process.enter .probe)
    | some .other => some (files, process.leave (.error (endpointNotSocket files.path)))
  | .probe =>
    match files.endpoint with
    | some (.socket inode) =>
      if live inode then some (files, process.leave (.error (endpointInUse files.path)))
      else some (files, process.enter .unlink)
    | _ => some (files, process.enter .unlink)
  | .unlink =>
    match files.endpoint with
    | none => some (files, process.leave (.error noSuchFile))
    | some _ => some ({ files with endpoint := none }, process.enter .bind)
  | .bind =>
    match files.endpoint with
    | none => none
    | some _ => some (files, process.leave (.error addressInUse))
  | .restrict => some (files, process.enter .record)
  | .record =>
    match files.endpoint with
    | none => some (files, process.leave (.error noSuchFile))
    | some .other => some (files, { process with phase := .discarding boundNotSocket })
    | some (.socket inode) =>
      some (files, { process.enter .signals with
        listener := process.listener.map fun listener => { listener with recorded := some inode } })
  | .signals =>
    some (files, { process.enter .spawn with signals := .running, proxy := .running })
  | .spawn => some (files, process.enter .stabilize)
  | .stabilize =>
    some (files, { process with phase := .supervising, accept := .running, idle := .running })

/-- `run` waits for a task. -/
def join (files : Files) (task : Task) (next : Result Unit → Process) : Option (Files × Process) :=
  match task with
  | .ended result => some (files, next result)
  | _ => none

/-- The next step of `run` without an error from outside. -/
def proceed (p : Pid) (live : Nat → Bool) (files : Files) (process : Process) :
    Option (Files × Process) :=
  match process.phase with
  | .startup stage => proceedStage p live files process stage
  | .discarding error =>
    some ({ files with endpoint := none }, { process.leave (.error error) with
      listener := process.listener.map fun listener => { listener with stage := .spent } })
  | .aborting .shutdown error => some (files, { process with phase := .aborting .proxy error })
  | .aborting .proxy error =>
    join files process.proxy fun _ => { process with phase := .aborting .signals error }
  | .aborting .signals error => join files process.signals fun _ => process.leave (.error error)
  | .supervising =>
    if process.cancelled then some (files, { process with phase := .finishing .shutdown })
    else some (files, { process with phase := .polling })
  | .broadcasting details =>
    some (files, { process with
      phase := .supervising
      cancelled := true
      fatalError := some (.cloudflaredExited details) })
  | .finishing .shutdown => some (files, { process with phase := .finishing .accept })
  | .finishing .accept =>
    join files process.accept fun _ => { process with phase := .finishing .idle }
  | .finishing .idle =>
    join files process.idle fun _ => { process with phase := .finishing .signals }
  | .finishing .signals =>
    join files process.signals fun result =>
      { process.noteError result with phase := .finishing .proxy }
  | .finishing .proxy =>
    join files process.proxy fun result => (process.noteError result).leave
      (process.noteError result).result
  | .leaving result =>
    match process.listener with
    | some _ => none
    | none =>
      some (files.release p, { process with phase := .returned result })
  | _ => none

/-- The steps of `Listener::drop`, ending with the close of the socket. -/
def dropStep (files : Files) (process : Process) (listener : Listener) :
    Event → Option (Files × Process)
  | .inspectSocket succeeds =>
    match listener.stage, listener.recorded with
    | .whole, some inode =>
      let stage := if succeeds ∧ files.endpoint = some (.socket inode) then .doomed else .spent
      some (files, { process with listener := some { listener with stage } })
    | _, _ => none
  | .removeSocket succeeds =>
    match listener.stage with
    | .doomed =>
      some (if succeeds then { files with endpoint := none } else files,
        { process with listener := some { listener with stage := .spent } })
    | _ => none
  | .closeSocket =>
    if listener.stage = .spent ∨ listener.recorded = none then
      some (files, { process with listener := none })
    else none
  | _ => none

/-- A task of the process ends on its own. -/
def taskStep (process : Process) : Event → Option Process
  | .accepted =>
    match process.accept with
    | .running => some process
    | _ => none
  | .acceptFails error =>
    match process.accept with
    | .running => some { process with accept := .leaving (.error error) }
    | _ => none
  | .acceptStops =>
    match process.accept, process.cancelled with
    | .running, true => some { process with accept := .leaving (.ok ()) }
    | _, _ => none
  | .acceptEnds =>
    match process.accept, process.listener with
    | .leaving result, none => some { process with accept := .ended result }
    | _, _ => none
  | .proxyFails error =>
    match process.proxy with
    | .running => some { process with proxy := .ended (.error error) }
    | _ => none
  | .proxyStops =>
    match process.proxy, process.cancelled with
    | .running, true => some { process with proxy := .ended (.ok ()) }
    | _, _ => none
  | .signal =>
    match process.signals with
    | .running => some { process with signals := .ended (.ok ()), cancelled := true }
    | _ => none
  | .signalsStop =>
    match process.signals, process.cancelled with
    | .running, true => some { process with signals := .ended (.ok ()) }
    | _, _ => none
  | .idleExpires =>
    match process.idle with
    | .running => some { process with idle := .ended (.ok ()), cancelled := true }
    | _ => none
  | .idleStops =>
    match process.idle, process.cancelled with
    | .running, true => some { process with idle := .ended (.ok ()) }
    | _, _ => none
  | .killed =>
    match process.accept with
    | .unspawned => none
    | _ => some { process with cancelled := true }
  | _ => none

/-- What is known of a process that has ended. Its sockets are closed. -/
def Process.gone (process : Process) (exit : Exit) : Process :=
  { process with phase := .exited exit, listener := none }

/-- One step of process `p`. -/
def Process.step (p : Pid) (live : Nat → Bool) (files : Files) (process : Process) (event : Event) :
    Option (Files × Process) :=
  match process.phase with
  | .unborn | .exited _ => none
  | _ =>
    match event with
    | .proceed => proceed p live files process
    | .fail error =>
      -- `FwError::Reported` is made in `main.rs` and `setup.rs` only, never below `run`.
      if error.isReported then none else
      match process.phase with
      | .startup stage => some (files, process.failAt error stage)
      | .discarding error => some (files, process.leave (.error error))
      | _ => none
    | .bind inode =>
      match process.phase, files.endpoint with
      | .startup .bind, none =>
        if live inode then none
        else some ({ files with endpoint := some (.socket inode) },
          { process.enter .restrict with listener := some ⟨inode, none, .whole⟩ })
      | _, _ => none
    | .polled outcome =>
      match process.phase, outcome with
      | .polling, .running => some (files, { process with phase := .supervising })
      | .polling, .exited details => some (files, { process with phase := .broadcasting details })
      | .polling, .failed error =>
        some (files, { process with
          phase := .supervising
          cancelled := true
          fatalError := some error })
      | _, _ => none
    | .inspectSocket _ | .removeSocket _ | .closeSocket =>
      match process.dropsListener, process.listener with
      | true, some listener => dropStep files process listener event
      | _, _ => none
    | .exit =>
      match process.phase with
      | .returned result => some (files, process.gone (.returned result))
      | _ => none
    | .crash => some (files.release p, process.gone .crashed)
    | _ => (taskStep process event).map (files, ·)

/-! ### The machine -/

/-- The machine of one `RuntimeScope`, with the processes launched so far. -/
structure Host where
  files : Files
  launched : Nat
  processes : Pid → Process

/-- A daemon is launched, or something happens to one. -/
inductive HostLabel where
  | launch
  | act (p : Pid) (event : Event)

namespace Host

/-- Nothing runs, and a file may be left at the endpoint path. -/
def start (path : String) (endpoint : Option File) : Host :=
  ⟨⟨endpoint, none, path⟩, 0, fun _ => .unborn⟩

/-- A connect to the socket is answered: some process has it open. -/
def live (host : Host) (inode : Nat) : Bool :=
  (List.range host.launched).any fun p =>
    (host.processes p).listener.any fun listener => listener.inode = inode

/-- The socket that a connect to the endpoint reaches. -/
def reached (host : Host) : Option Nat :=
  match host.files.endpoint with
  | some (.socket inode) => if host.live inode then some inode else none
  | _ => none

/-- A connect to the endpoint is answered. -/
def answers (host : Host) : Bool := host.reached.isSome

/-- One step of the machine. -/
def step (host : Host) : HostLabel → Option Host
  | .launch =>
    some { host with
      launched := host.launched + 1
      processes := Function.update host.processes host.launched .started }
  | .act p event =>
    (Process.step p host.live host.files (host.processes p) event).map fun (files, process) =>
      { host with files, processes := Function.update host.processes p process }

end Host

/-- An endpoint path, for examples. -/
def socketPath : String := "/run/user/1000/fw-9ae16a3b2f90404f.sock"

/-- What happens to process `p` when it starts at a free endpoint path without an
error, from its launch to its supervising loop. -/
def startupLabels (p : Pid) (inode : Nat) : List HostLabel :=
  .launch :: List.replicate 5 (.act p .proceed) ++ [.act p (.bind inode)] ++
    List.replicate 5 (.act p .proceed)

end CfFw
