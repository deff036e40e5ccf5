import CfFw.ShutdownWindow

/-! Whether the user learns why a daemon did not come up. The client of a daemon
that fails before its endpoint is bound sees the exit and reads the error; a client
that connects to the endpoint of a daemon that fails afterwards does not. -/
namespace CfFw
open Transition Text

/-- The error that `run` is about to return, or has returned. -/
def RunPhase.error : RunPhase → Option FwError
  | .discarding error | .aborting _ error | .leaving (.error error) | .returned (.error error)
  | .exited (.returned (.error error)) => some error
  | _ => none

/-- `run` has failed before its accept loop was started, with this error. -/
def Process.failedEarly (process : Process) : Option FwError :=
  match process.accept with
  | .unspawned => process.phase.error
  | _ => none

/-- The client is in its loop, or it is not there any more. -/
def ClientPhase.listening : ClientPhase → Bool
  | .killed => true
  | phase => phase.waiting

/-- A step does not fail the startup of the daemon `p`, unless its client listens. -/
def failsInLoop (world : World) (c : ClientId) (p : Pid) (label : WorldLabel) : Bool :=
  match world.step label with
  | none => true
  | some after =>
    (after.host.processes p).failedEarly.isNone || (world.clients c).phase.listening

/-- Once the startup has failed, the client finds no endpoint that answers, looks at
its daemon before the deadline, and reads the whole of an error that fits into the
capture; and the daemon comes to the end of `main`. -/
def undisturbed (world : World) (c : ClientId) (p : Pid) (error : FwError) : WorldLabel → Bool
  | .client d event =>
    if d = c then
      match event with
      | .connect => !world.host.answers
      | .proceed =>
        match (world.clients c).phase with
        | .timing deadline => world.now < deadline
        | _ => true
      | .captured complete _ =>
        complete && len (errorLine error ++ "\n") ≤ maxDaemonStartupErrorBytes
      | .fail _ | .captureLate => false
      | _ => true
    else true
  | .host (.act q .crash) => q ≠ p
  | _ => true

/-- The startup of the daemon that client `c` has spawned fails only while the client
listens, and is not kept from it from then on. -/
def noticesFailure (c : ClientId) (world : World) (label : WorldLabel) : Bool :=
  match (world.clients c).child with
  | none => true
  | some p =>
    match (world.host.processes p).failedEarly with
    | none => failsInLoop world c p label
    | some error => undisturbed world c p error label

/-- The condition on a step that lets client `c` hear of a failed startup. -/
def Noticed (c : ClientId) (world : World) (label : WorldLabel) : Prop :=
  noticesFailure c world label = true

/-- `run_start` reports this error, shown to the user or left to `main`. -/
def ReportsError (result : Result UInt64) (error : FwError) : Prop :=
  result = .error error ∨ result = .error (.reported error)

/-- The details end in the line that `main` writes for the error. -/
def Carries (error : FwError) (details : String) : Prop :=
  ∃ before, details.toList = before ++ (trimEnd (errorLine error)).toList

variable {world after : World} {c : ClientId} {p : Pid} {error : FwError} {event : Event}
  {label : WorldLabel} {path : String} {endpoint : Option File} {labels : List WorldLabel}
  {client : Client}
  {files files' : Files} {process process' : Process} {live : Nat → Bool}
  {chunks : List (List UInt8)} {output chunk : List UInt8}

/-! ### The capture -/

/-- Cutting the output after every read is cutting it once at the end. -/
theorem lastBytes_append (limit : Nat) (output chunk : List UInt8) :
    lastBytes limit (lastBytes limit output ++ chunk) = lastBytes limit (output ++ chunk) := by
  have whole : output.drop (output.length - limit) ++ chunk =
      (output ++ chunk).drop (output.length - limit) :=
    (List.drop_append_of_le_length (Nat.sub_le _ _)).symm
  simp only [lastBytes]
  rw [whole, List.drop_drop]
  congr 1
  simp only [List.length_drop, List.length_append]
  omega

private theorem capture_eq (limit : Nat) (chunks : List (List UInt8)) (output : List UInt8) :
    chunks.foldl (fun output chunk => lastBytes limit (output ++ chunk)) (lastBytes limit output) =
      lastBytes limit (output ++ chunks.flatten) := by
  induction chunks generalizing output with
  | nil => simp
  | cons chunk chunks ih =>
    rw [List.foldl_cons, lastBytes_append, ih, List.flatten_cons, List.append_assoc]

private theorem captureDaemonStderr_eq (chunks : List (List UInt8)) : captureDaemonStderr chunks =
    trim (fromUtf8Lossy (lastBytes maxDaemonStartupErrorBytes chunks.flatten)) := by
  have folded := capture_eq maxDaemonStartupErrorBytes chunks []
  rw [captureDaemonStderr]
  exact congrArg (fun bytes => trim (fromUtf8Lossy bytes)) folded

/-- Bytes at the end that fit are kept whole. -/
theorem lastBytes_suffix {limit : Nat} {noise line : List UInt8} (fits : line.length ≤ limit) :
    ∃ noise', lastBytes limit (noise ++ line) = noise' ++ line := by
  have inside : (noise ++ line).length - limit ≤ noise.length := by
    rw [List.length_append]
    omega
  exact ⟨_, List.drop_append_of_le_length inside⟩

private theorem errorLine_toList (error : FwError) (tail : String) :
    ∃ cs, (errorLine error ++ tail).toList = 'e' :: cs := by
  exact ⟨_, by simp [errorLine]; rfl⟩

private theorem trimEnd_newline (s : String) : trimEnd (s ++ "\n") = trimEnd s := by
  have blank : isWhitespace '\n' = true := by decide
  simp [trimEnd, List.rdropWhile_concat_pos _ _ _ blank]

/-- **The error survives the capture.** Whatever was logged before it, and in whatever
chunks the output is read, an error that fits into the capture comes through. -/
theorem capture_carries {noise : List UInt8}
    (output : chunks.flatten = noise ++ bytes (errorLine error ++ "\n"))
    (fits : len (errorLine error ++ "\n") ≤ maxDaemonStartupErrorBytes) :
    Carries error (captureDaemonStderr chunks) := by
  obtain ⟨noise', kept⟩ := @lastBytes_suffix _ noise _ fits
  obtain ⟨cs, start⟩ := errorLine_toList error "\n"
  obtain ⟨before, whole⟩ := fromUtf8Lossy_resync start (by decide) noise'
  obtain ⟨before', ending⟩ := trim_suffix whole start (by decide)
  refine ⟨before', ?_⟩
  rw [captureDaemonStderr_eq, output, kept, ending, trimEnd_newline]

private theorem carries_ne_empty {details : String} (carries : Carries error details) :
    details ≠ "" := by
  rintro rfl
  obtain ⟨before, whole⟩ := carries
  have gone : (trimEnd (errorLine error)).toList = [] := (List.append_eq_nil_iff.mp whole.symm).2
  rw [trimEnd_toList, List.rdropWhile_eq_nil_iff] at gone
  obtain ⟨cs, start⟩ := errorLine_toList error ""
  rw [String.append_empty] at start
  have blank := gone 'e' (by simp [start])
  simp [isWhitespace] at blank

/-! ### The daemon -/

theorem Process.failedEarly_iff : process.failedEarly = some error ↔
    process.accept = .unspawned ∧ process.phase.error = some error := by
  unfold failedEarly
  split <;> simp_all

/-- The error of a failed startup stays what it is to the end of the process. -/
theorem ProcessStep.failedEarly {p : Pid}
    (step : ProcessStep p live files process event files' process')
    (failed : process.failedEarly = some error) (survives : event ≠ .crash) :
    process'.failedEarly = some error := by
  obtain ⟨unspawned, phase⟩ := Process.failedEarly_iff.mp failed
  cases step with
  | crashed => exact absurd rfl survives
  | discarded here | undiscarded here =>
    rw [here] at phase
    exact Process.failedEarly_iff.mpr ⟨unspawned, phase⟩
  | @released result here | @exited result here =>
    rw [here] at phase
    cases result with
    | ok => cases phase
    | error => exact Process.failedEarly_iff.mpr ⟨unspawned, phase⟩
  | aborted here follows =>
    rw [here] at phase
    rcases follows with ⟨-, rfl⟩ | ⟨-, rfl⟩ | ⟨-, rfl⟩ <;>
      exact Process.failedEarly_iff.mpr ⟨unspawned, phase⟩
  | socketInspected | socketRemoved | removalFailed | socketClosed => exact failed
  | task happened =>
    cases happened with
    | acceptFailed running | acceptStopped running => simp [running] at unspawned
    | acceptEnded leaving => simp [leaving] at unspawned
    | killed spawned => exact absurd unspawned spawned
    | accepted | proxyFailed | proxyStopped | signalled | signalsStopped | idleExpired
    | idleStopped => exact failed
  | acquired here | refused here | resolved here | reserved here | normalized here | vacant here
  | occupied here | foreign here | active here | stale here | unlinked here | vanished here
  | occupiedAgain here | bound here | restricted here | lost here | replaced here | recorded here
  | watched here | spawned here | stabilized here | failed here | halted here | looked here
  | quiet here | exitSeen here | pollFailed here | broadcasted here | childStopped here
  | acceptJoined here | joined here | finished here =>
    rw [here] at phase
    cases phase

/-- `run` is in its loop, or in what follows it. -/
def RunPhase.served : RunPhase → Bool
  | .supervising | .polling | .broadcasting _ | .finishing _ => true
  | _ => false

/-- The error of a failed startup is one that `main` still has to show. -/
structure Process.Tells (process : Process) : Prop where
  shown : ∀ error, process.failedEarly = some error → error.isReported = false
  served : process.phase.served = true → process.accept ≠ .unspawned

/-- A step that fails nothing anew. -/
theorem Process.Tells.move (tells : process.Tells) (accept : process'.accept = process.accept)
    (same : ∀ error, process'.phase.error = some error → process.phase.error = some error)
    (served : process'.phase.served = true → process.phase.served = true) : process'.Tells where
  shown error failed := by
    obtain ⟨unspawned, phase⟩ := Process.failedEarly_iff.mp failed
    exact tells.shown error (Process.failedEarly_iff.mpr ⟨accept ▸ unspawned, same error phase⟩)
  served late := accept ▸ tells.served (served late)

/-- A step on which `run` fails. -/
theorem Process.Tells.fail (phase : process'.phase.error = some error)
    (fresh : error.isReported = false) (out : process'.phase.served = false) : process'.Tells where
  shown other failed := by
    have same := (Process.failedEarly_iff.mp failed).2
    cases phase.symm.trans same
    exact fresh
  served late := by simp [out] at late

theorem Process.Tells.spawned (spawned : process.accept ≠ .unspawned) : process.Tells where
  shown _ failed := absurd (Process.failedEarly_iff.mp failed).1 spawned
  served _ := spawned

theorem Process.Tells.step (tells : process.Tells) {p : Pid}
    (step : ProcessStep p live files process event files' process') : process'.Tells := by
  cases step with
  | refused | foreign | active | vanished | occupiedAgain | lost | replaced => exact .fail rfl rfl rfl
  | @failed stage error here fresh =>
    cases stage with
    | _ => exact .fail rfl fresh rfl
  | stabilized => exact .spawned nofun
  | finished here => exact .spawned (tells.served (by rw [here]; rfl))
  | discarded here | undiscarded here =>
    exact tells.move rfl (fun _ same => by rw [here]; exact same) nofun
  | @released result here | @exited result here =>
    cases result with
    | ok => exact tells.move rfl nofun nofun
    | error => exact tells.move rfl (fun _ same => by rw [here]; exact same) nofun
  | aborted here follows =>
    rcases follows with ⟨-, rfl⟩ | ⟨-, rfl⟩ | ⟨-, rfl⟩ <;>
      exact tells.move rfl (fun _ same => by rw [here]; exact same) nofun
  | halted here | looked here | quiet here | exitSeen here | pollFailed here | broadcasted here
  | childStopped here | acceptJoined here | joined here =>
    exact tells.move rfl nofun fun _ => by rw [here]; rfl
  | socketInspected | socketRemoved | removalFailed | socketClosed =>
    exact ⟨tells.shown, tells.served⟩
  | crashed => exact tells.move rfl nofun nofun
  | task happened =>
    cases happened with
    | acceptFailed | acceptStopped | acceptEnded => exact .spawned nofun
    | killed spawned => exact .spawned spawned
    | accepted | proxyFailed | proxyStopped | signalled | signalsStopped | idleExpired
    | idleStopped => exact ⟨tells.shown, tells.served⟩
  | acquired | resolved | reserved | normalized | vacant | occupied | stale | unlinked | bound
  | restricted | recorded | watched | spawned => exact tells.move rfl nofun nofun

theorem Host.tells {allowed : Host → HostLabel → Prop} {hostLabels : List HostLabel} {host : Host}
    (run : Run Host.step allowed (Host.start path endpoint) hostLabels host) (p : Pid) :
    (host.processes p).Tells :=
  Host.process_invariant Process.Tells run ⟨nofun, nofun⟩ ⟨nofun, nofun⟩
    (fun _ _ _ _ _ tells _ => tells.step) p

theorem Host.failedEarly_stays {host later : Host} {hostLabel : HostLabel} (fresh : host.Fresh)
    (taken : host.step hostLabel = some later) (survives : hostLabel ≠ .act p .crash)
    (failed : (host.processes p).failedEarly = some error) :
    (later.processes p).failedEarly = some error := by
  apply Host.process_stays (fun process => process.failedEarly = some error) fresh taken nofun failed
  rintro event files process rfl done
  have surviving : event ≠ .crash := by
    rintro rfl
    exact survives rfl
  exact (processStep_of_step done).failedEarly failed surviving

/-! ### The client -/

/-- The client waits for the error, or knows it, or has reported it. -/
def Client.Hears (error : FwError) (client : Client) : Prop :=
  match client.phase with
  | .polling _ | .looking _ | .timing _ | .sleeping _ _ | .killed => True
  | .collecting _ => client.exit = some (.returned (.error error))
  | .failing told => ∃ details, told = .daemonExited "1" details ∧ Carries error details
  | .finished result =>
    ∃ details, ReportsError result (.daemonExited "1" details) ∧ Carries error details
  | _ => False

theorem Client.hears_of_listening (listening : client.phase.listening = true) :
    client.Hears error := by
  unfold Client.Hears
  split <;> simp_all [ClientPhase.listening, ClientPhase.waiting]

theorem Client.Hears.not_ahead (hears : client.Hears error) : client.phase.ahead = false := by
  unfold Client.Hears at hears
  split at hears <;> simp_all [ClientPhase.ahead]

private theorem told_of_capture (told : error.isReported = false)
    (output : (Exit.returned (.error error)).stderr <:+ chunks.flatten)
    (fits : len (errorLine error ++ "\n") ≤ maxDaemonStartupErrorBytes) :
    ∃ details, daemonExitError (.returned (.error error)) (some (captureDaemonStderr chunks)) =
      .daemonExited "1" details ∧ Carries error details := by
  obtain ⟨noise, whole⟩ := output
  simp only [Exit.stderr, told, Bool.false_eq_true, if_false] at whole
  have carries := capture_carries whole.symm fits
  have some := carries_ne_empty carries
  refine ⟨captureDaemonStderr chunks, ?_, carries⟩
  simp only [daemonExitError, Exit.code, Option.getD_some, Option.map_some, some, if_false]
  rfl

/-- A step of the client after the startup of its daemon has failed. -/
theorem Client.Hears.step {event : ClientEvent} {later : Host}
    (hears : (world.clients c).Hears error) (child : (world.clients c).child = some p)
    (failed : (world.host.processes p).failedEarly = some error)
    (told : error.isReported = false)
    (quiet : undisturbed world c p error (.client c event) = true)
    (step : ClientStep world c event client later) : client.Hears error := by
  have late := hears.not_ahead
  cases step with
  | advanced ahead => simp [late] at ahead
  | refused ahead => simp [late] at ahead
  | reached searching answered =>
    simp [undisturbed, Host.answers, answered] at quiet
  | spawned phase => simp [phase, ClientPhase.ahead] at late
  | unanswered | notSeen | interrupted => trivial
  | @paused next _ still =>
    apply Client.hears_of_listening
    cases next with
    | polling | looking | timing | sleeping => rfl
    | _ => cases still
  | @exitSeen deadline latest exit phase seen =>
    obtain ⟨q, own, ended⟩ := phase_of_childExit seen
    cases child.symm.trans own
    have same := (Process.failedEarly_iff.mp failed).2
    rw [ended] at same
    have status : exit = .returned (.error error) := by
      unfold RunPhase.error at same
      split at same <;> simp_all
    exact congrArg some status
  | waitFailed => simp [undisturbed] at quiet
  | timedOut phase reached =>
    simp only [undisturbed, if_true, phase, decide_eq_true_eq] at quiet
    exact absurd reached (Nat.not_le.mpr quiet)
  | captured phase seen whole =>
    simp only [undisturbed, if_true, Bool.and_eq_true, decide_eq_true_eq] at quiet
    simp only [Client.Hears, phase] at hears
    cases seen.symm.trans hears
    exact told_of_capture told (whole quiet.1) quiet.2
  | capturedLate => simp [undisturbed] at quiet
  | written phase => simp [Client.Hears, phase] at hears
  | lost phase => rcases phase with phase | phase <;> simp [Client.Hears, phase] at hears
  | replied phase => simp [Client.Hears, phase] at hears
  | @reported told shown phase =>
    simp only [Client.Hears, phase] at hears
    obtain ⟨details, rfl, carries⟩ := hears
    refine ⟨details, ?_, carries⟩
    cases shown with
    | true => exact .inr rfl
    | false => exact .inl rfl

/-! ### The report -/

/-- A client whose daemon has failed early waits for the error, or has it. -/
def HearsFailure (c : ClientId) (world : World) : Prop :=
  ∀ p error, (world.clients c).child = some p →
    (world.host.processes p).failedEarly = some error → (world.clients c).Hears error

/-- A startup that has failed stays failed, unless the process is killed. -/
theorem failedEarly_stays (fresh : world.host.Fresh) (taken : world.step label = some after)
    (failed : (world.host.processes p).failedEarly = some error)
    (quiet : undisturbed world c p error label = true) :
    (after.host.processes p).failedEarly = some error := by
  cases worldStep_of_step taken with
  | @host hostLabel host moved =>
    refine Host.failedEarly_stays fresh moved ?_ failed
    rintro rfl
    simp [undisturbed] at quiet
  | client step =>
    cases step with
    | spawned _ launched => exact Host.failedEarly_stays fresh launched nofun failed
    | _ => exact failed
  | accepted moved => exact Host.failedEarly_stays fresh moved nofun failed
  | ticked => exact failed

/-- When the startup of its daemon has failed after a step, the client listened before
that, or the startup had failed before. -/
theorem failure_cases (noticed : Noticed c world label) (fresh : world.host.Fresh)
    (taken : world.step label = some after) (child : (world.clients c).child = some p)
    (failed : (after.host.processes p).failedEarly = some error) :
    (world.host.processes p).failedEarly = none ∧ (world.clients c).phase.listening = true ∨
      (world.host.processes p).failedEarly = some error ∧
        undisturbed world c p error label = true := by
  simp only [Noticed, noticesFailure, child] at noticed
  cases before : (world.host.processes p).failedEarly with
  | none =>
    simp only [before, failsInLoop, taken, failed, Option.isNone_some, Bool.false_or] at noticed
    exact .inl ⟨rfl, noticed⟩
  | some earlier =>
    simp only [before] at noticed
    have stays := failedEarly_stays fresh taken before noticed
    cases stays.symm.trans failed
    exact .inr ⟨rfl, noticed⟩

/-- A step that leaves the client where it is. -/
theorem HearsFailure.still (hears : HearsFailure c world) (noticed : Noticed c world label)
    (fresh : world.host.Fresh) (taken : world.step label = some after)
    (child : (after.clients c).child = (world.clients c).child)
    (phase : (after.clients c).phase = (world.clients c).phase)
    (exit : (after.clients c).exit = (world.clients c).exit) : HearsFailure c after := by
  intro p error spawned failed
  rw [child] at spawned
  have known : (world.clients c).Hears error := by
    rcases failure_cases noticed fresh taken spawned failed with ⟨-, listening⟩ | ⟨before, -⟩
    · exact Client.hears_of_listening listening
    · exact hears p error spawned before
  unfold Client.Hears at known ⊢
  rwa [phase, exit]

theorem HearsFailure.step
    (run : Run World.step (Noticed c) (World.start path endpoint) labels world)
    (hears : HearsFailure c world) (noticed : Noticed c world label)
    (taken : world.step label = some after) : HearsFailure c after := by
  obtain ⟨fresh, -⟩ := World.linked run
  obtain ⟨hostLabels, daemons⟩ := World.daemonRun run
  cases worldStep_of_step taken with
  | host => exact hears.still noticed fresh taken rfl rfl rfl
  | ticked => exact hears.still noticed fresh taken rfl rfl rfl
  | @accepted q d =>
    rcases Decidable.em (c = d) with rfl | other
    · exact hears.still noticed fresh taken (by simp) (by simp) (by simp)
    · exact hears.still noticed fresh taken (by simp [other]) (by simp [other]) (by simp [other])
  | @client d event client host startupLock step =>
    rcases Decidable.em (c = d) with rfl | other
    · intro p error child failed
      simp only [Function.update_self] at child ⊢
      have own : (world.clients c).child = some p ∧ host = world.host := by
        cases step with
        | spawned _ launched =>
          cases launched
          cases child
          simp [Process.started, Process.unborn, Process.failedEarly, RunPhase.error] at failed
        | _ => exact ⟨child, rfl⟩
      obtain ⟨spawned, rfl⟩ := own
      rcases failure_cases noticed fresh taken spawned failed with ⟨unfailed, -⟩ | ⟨before, quiet⟩
      · simp [unfailed] at failed
      · have told := (Host.tells daemons p).shown error before
        exact (hears p error spawned before).step spawned before told quiet step
    · exact hears.still noticed fresh taken (by simp [other]) (by simp [other]) (by simp [other])

/-- **A failed startup is reported.** If the run of a daemon fails before its accept
loop starts, and the client that has spawned it notices, then `run_start` reports
that the daemon exited with code 1, with the text of the error. -/
theorem startup_failure_is_reported {result : Result UInt64}
    (run : Run World.step (Noticed c) (World.start path endpoint) labels world)
    (child : (world.clients c).child = some p)
    (failed : (world.host.processes p).failedEarly = some error)
    (finished : (world.clients c).phase = .finished result) :
    ∃ details, ReportsError result (.daemonExited "1" details) ∧ Carries error details := by
  have hears : HearsFailure c world :=
    run.invariantAlong (HearsFailure c) nofun fun _ _ _ _ => HearsFailure.step
  have known := hears p error child failed
  simpa only [Client.Hears, finished] using known

/-- The daemon finds no proxy port and ends; its client sees the exit and reads the
error after a line of the log. -/
def noPortLabels : List WorldLabel :=
  spawnLabels 0 ++ [.host (.act 0 .proceed), .host (.act 0 .proceed), .client 0 .connect,
    .host (.act 0 (.fail .noAvailableProxyPort)), .host (.act 0 .proceed), .host (.act 0 .exit),
    .client 0 .proceed,
    .client 0 (.captured true
      [bytes "WARN retrying\n", (Exit.returned (.error .noAvailableProxyPort)).stderr]),
    .client 0 (.report true)]

/-- The machine when the client has reported it. -/
def noPortWorld : World :=
  (execute World.step (World.start socketPath none) noPortLabels).get (by decide)

theorem startup_failure_is_reported_without_port :
    ∃ result details, (noPortWorld.clients 0).phase = .finished result ∧
      ReportsError result (.daemonExited "1" details) ∧ Carries .noAvailableProxyPort details := by
  have run : Run World.step (Noticed 0) (World.start socketPath none) noPortLabels noPortWorld :=
    run_of_executeChecked (fun _ _ noticed => noticed) rfl
  have child : (noPortWorld.clients 0).child = some 0 := rfl
  have failed : (noPortWorld.host.processes 0).failedEarly = some .noAvailableProxyPort := rfl
  obtain ⟨details, reports, carries⟩ := startup_failure_is_reported run child failed rfl
  exact ⟨_, details, rfl, reports, carries⟩

/-- A client connects while `cloudflared` is watched, `cloudflared` exits, and the daemon
goes down without accepting the connection. -/
def earlyConnectLabels : List WorldLabel :=
  spawnLabels 0 ++ ((startupLabels 0 7).tail.take 10).map .host ++
    [.client 0 .connect, .client 0 .written,
      .host (.act 0 (.fail (.other "Cloudflared process exited with code: 1"))),
      .host (.act 0 .proceed), .host (.act 0 .proxyStops), .host (.act 0 .proceed),
      .host (.act 0 .signalsStop), .host (.act 0 .proceed), .host (.act 0 (.inspectSocket true)),
      .host (.act 0 (.removeSocket true)), .host (.act 0 .closeSocket), .host (.act 0 .proceed),
      .host (.act 0 .exit),
      .client 0 (.lose (.io .connectionReset "Connection reset by peer (os error 104)")),
      .client 0 (.report true)]

/-- The machine when the client has given up. -/
def earlyConnectWorld : World :=
  (execute World.step (World.start socketPath none) earlyConnectLabels).get (by decide)

/-- The error of a daemon that fails after its bind does not reach the user: the client
reports the loss of its connection instead. -/
theorem early_connect_loses_error :
    ∃ labels world c p error result,
      Run World.step Unrestricted (World.start socketPath none) labels world ∧
      (world.clients c).child = some p ∧ (world.host.processes p).failedEarly = some error ∧
      (world.clients c).phase = .finished result ∧
      ∀ code details, ¬ ReportsError result (.daemonExited code details) := by
  have run : Run World.step Unrestricted (World.start socketPath none) earlyConnectLabels
      earlyConnectWorld := run_to_execute _
  refine ⟨_, _, 0, 0, _, _, run, rfl, rfl, rfl, ?_⟩
  rintro code details (plain | shown)
  · cases plain
  · cases shown

end CfFw
