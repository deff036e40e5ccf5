import CfFw.StartClient
import CfFw.LifecycleSteps

/-! What one step of the machine with its clients can do, read off the step
functions once. Runs of it are runs of the daemons alone for everything that the
clients do not change. -/
namespace CfFw
open Transition

/-- The client is in the loop of `start_and_connect`. -/
def ClientPhase.waiting : ClientPhase → Bool
  | .polling _ | .looking _ | .timing _ | .sleeping _ _ => true
  | _ => false

/-- The client is before its loop, which a failed connect takes it towards. -/
def ClientPhase.ahead : ClientPhase → Bool
  | .absent | .connecting | .checking | .locking | .reconnecting | .spawning => true
  | _ => false

/-- A step of client `c`, with the client and the daemons it leaves. -/
inductive ClientStep (world : World) (c : ClientId) : ClientEvent → Client → Host → Prop where
  | advanced {event : ClientEvent} {next : ClientPhase}
      (ahead : (world.clients c).phase.ahead = true) (later : next.ahead = true) :
      ClientStep world c event { world.clients c with phase := next } world.host
  | reached {inode : Nat} (searching : (world.clients c).phase.ahead = true ∨
        (world.clients c).phase.waiting = true) (answered : world.host.reached = some inode) :
      ClientStep world c .connect { world.clients c with phase := .registering inode } world.host
  | refused {error : FwError} (ahead : (world.clients c).phase.ahead = true) :
      ClientStep world c (.fail error) { world.clients c with phase := .failing error } world.host
  | spawned {host : Host} (phase : (world.clients c).phase = .spawning)
      (launched : world.host.step .launch = some host) :
      ClientStep world c .proceed
        { world.clients c with
          phase := .polling (world.now + daemonStartTimeout)
          child := some world.host.launched } host
  | unanswered {deadline : Instant} (phase : (world.clients c).phase = .polling deadline)
      (silent : world.host.reached = none) :
      ClientStep world c .connect { world.clients c with phase := .looking deadline } world.host
  | exitSeen {deadline latest : Instant} {exit : Exit}
      (phase : (world.clients c).phase = .looking deadline)
      (seen : world.childExit (world.clients c) = some exit) :
      ClientStep world c .proceed
        { world.clients c with phase := .collecting latest, exit := some exit } world.host
  | notSeen {deadline : Instant} (phase : (world.clients c).phase = .looking deadline)
      (running : world.childExit (world.clients c) = none) :
      ClientStep world c .proceed { world.clients c with phase := .timing deadline } world.host
  | waitFailed {deadline : Instant} {error : FwError}
      (phase : (world.clients c).phase = .looking deadline) :
      ClientStep world c (.fail error) { world.clients c with phase := .failing error } world.host
  | timedOut {deadline : Instant} (phase : (world.clients c).phase = .timing deadline)
      (late : deadline ≤ world.now) :
      ClientStep world c .proceed
        { world.clients c with phase := .failing .daemonStartTimeout } world.host
  | paused {next : ClientPhase} (waiting : (world.clients c).phase.waiting = true)
      (still : next.waiting = true) :
      ClientStep world c .proceed { world.clients c with phase := next } world.host
  | captured {latest : Instant} {complete : Bool} {chunks : List (List UInt8)} {exit : Exit}
      (phase : (world.clients c).phase = .collecting latest)
      (seen : (world.clients c).exit = some exit)
      (whole : complete = true → exit.stderr <:+ chunks.flatten) :
      ClientStep world c (.captured complete chunks)
        { world.clients c with
          phase := .failing (daemonExitError exit (some (captureDaemonStderr chunks))) } world.host
  | capturedLate {latest : Instant} {exit : Exit}
      (phase : (world.clients c).phase = .collecting latest)
      (seen : (world.clients c).exit = some exit) :
      ClientStep world c .captureLate
        { world.clients c with phase := .failing (daemonExitError exit none) } world.host
  | written {inode : Nat} (phase : (world.clients c).phase = .registering inode) :
      ClientStep world c .written { world.clients c with phase := .awaiting inode } world.host
  | lost {inode : Nat} {error : FwError} (phase : (world.clients c).phase = .registering inode ∨
        (world.clients c).phase = .awaiting inode) :
      ClientStep world c (.lose error) { world.clients c with phase := .failing error } world.host
  | replied {inode : Nat} {message : ServerMessage} {debug : String}
      (phase : (world.clients c).phase = .awaiting inode) :
      ClientStep world c (.reply message debug)
        { world.clients c with phase := World.firstReply message debug } world.host
  | reported {error : FwError} {shown : Bool} (phase : (world.clients c).phase = .failing error) :
      ClientStep world c (.report shown)
        { world.clients c with
          phase := .finished (.error (if shown then .reported error else error)) } world.host
  | interrupted : ClientStep world c .interrupt { world.clients c with phase := .killed } world.host

/-- A step of the machine with its clients. -/
inductive WorldStep (world : World) : WorldLabel → World → Prop where
  | host {label : HostLabel} {host : Host} (taken : world.host.step label = some host) :
      WorldStep world (.host label) { world with host }
  | client {c : ClientId} {event : ClientEvent} {client : Client} {host : Host}
      {startupLock : Option ClientId} (step : ClientStep world c event client host) :
      WorldStep world (.client c event)
        { world with host, startupLock, clients := Function.update world.clients c client }
  | accepted {p : Pid} {c : ClientId} {host : Host}
      (taken : world.host.step (.act p .accepted) = some host) :
      WorldStep world (.accept p c)
        { world with
          host
          clients := Function.update world.clients c { world.clients c with accepted := true } }
  | ticked {elapsed : Instant} :
      WorldStep world (.tick elapsed) { world with now := world.now + elapsed }

variable {world after : World} {c : ClientId} {event : ClientEvent} {label : WorldLabel}
  {path : String} {endpoint : Option File} {labels : List WorldLabel}
  {allowed : World → WorldLabel → Prop}

/-! ### The step functions -/

private theorem worldStep_of_connect {otherwise : ClientPhase}
    (searching : (world.clients c).phase.ahead = true ∨ (world.clients c).phase.waiting = true)
    (silent : world.host.reached = none → ClientStep world c .connect
      { world.clients c with phase := otherwise } world.host) :
    WorldStep world (.client c .connect) (world.connect c (world.clients c) otherwise) := by
  unfold World.connect
  cases answered : world.host.reached with
  | some inode => exact .client (.reached searching answered)
  | none => exact .client (silent answered)

private theorem worldStep_of_clientStep (taken : world.clientStep c event = some after) :
    WorldStep world (.client c event) after := by
  simp only [World.clientStep] at taken
  split at taken
  · rename_i phase
    cases taken
    exact .client (.advanced (by rw [phase]; rfl) rfl)
  · rename_i phase
    cases taken
    have ahead : (world.clients c).phase.ahead = true := by rw [phase]; rfl
    exact worldStep_of_connect (.inl ahead) fun _ => .advanced ahead rfl
  · rename_i phase
    cases taken
    exact .client (.advanced (by rw [phase]; rfl) rfl)
  · rename_i phase
    cases taken
    exact .client (.refused (by rw [phase]; rfl))
  · rename_i phase
    split at taken
    · cases taken
    · cases taken
      exact .client (.advanced (by rw [phase]; rfl) rfl)
  · rename_i phase
    cases taken
    exact .client (.refused (by rw [phase]; rfl))
  · rename_i phase
    cases taken
    have ahead : (world.clients c).phase.ahead = true := by rw [phase]; rfl
    exact worldStep_of_connect (.inl ahead) fun _ => .advanced ahead rfl
  · rename_i phase
    obtain ⟨host, launched, same⟩ := Option.map_eq_some_iff.mp taken
    cases same
    exact .client (.spawned phase launched)
  · rename_i phase
    cases taken
    exact .client (.refused (by rw [phase]; rfl))
  · rename_i phase
    cases taken
    exact worldStep_of_connect (.inr (by rw [phase]; rfl)) fun silent => .unanswered phase silent
  · rename_i phase
    split at taken
    · cases taken
      exact .client (.exitSeen phase ‹_›)
    · rename_i running
      cases taken
      exact .client (.notSeen phase running)
  · rename_i phase
    cases taken
    exact .client (.waitFailed phase)
  · rename_i phase
    split at taken
    · cases taken
      exact .client (.timedOut phase ‹_›)
    · cases taken
      exact .client (.paused (by rw [phase]; rfl) rfl)
  · rename_i phase
    split at taken
    · cases taken
      exact .client (.paused (by rw [phase]; rfl) rfl)
    · cases taken
  · rename_i phase
    split at taken
    · rename_i seen
      split at taken
      · cases taken
      · rename_i whole
        cases taken
        exact .client (.captured phase seen fun complete =>
          Decidable.not_not.mp fun cut => whole ⟨complete, cut⟩)
    · cases taken
  · rename_i phase
    split at taken
    · rename_i seen
      split at taken
      · cases taken
        exact .client (.capturedLate phase seen)
      · cases taken
    · cases taken
  · rename_i phase
    cases taken
    exact .client (.written phase)
  · rename_i phase
    split at taken
    · cases taken
      exact .client (.lost (.inl phase))
    · cases taken
  · rename_i phase
    split at taken
    · cases taken
      exact .client (.lost (.inr phase))
    · cases taken
  · rename_i phase
    split at taken
    · cases taken
      exact .client (.replied phase)
    · cases taken
  · rename_i phase
    cases taken
    exact .client (.reported phase)
  · cases taken
  · cases taken
  · cases taken
  · cases taken
    exact .client .interrupted
  · cases taken

theorem worldStep_of_step (taken : world.step label = some after) : WorldStep world label after := by
  cases label with
  | host label =>
    obtain ⟨host, done, same⟩ := Option.map_eq_some_iff.mp taken
    cases same
    exact .host done
  | client c event => exact worldStep_of_clientStep taken
  | accept p c =>
    simp only [World.step, World.acceptStep] at taken
    split at taken
    · split at taken
      · obtain ⟨host, done, same⟩ := Option.map_eq_some_iff.mp taken
        cases same
        exact .accepted done
      · cases taken
    · split at taken
      · obtain ⟨host, done, same⟩ := Option.map_eq_some_iff.mp taken
        cases same
        exact .accepted done
      · cases taken
    · cases taken
  | tick elapsed =>
    cases taken
    exact .ticked

/-- What `try_wait` returns is the exit status of the child. -/
theorem phase_of_childExit {client : Client} {exit : Exit}
    (seen : world.childExit client = some exit) :
    ∃ p, client.child = some p ∧ (world.host.processes p).phase = .exited exit := by
  unfold World.childExit at seen
  split at seen
  · rename_i gone
    cases seen
    exact Option.map_eq_some_iff.mp gone
  · cases seen

/-! ### The daemons -/

/-- The daemons stand still or take a step of their own. -/
theorem WorldStep.daemons (step : WorldStep world label after) :
    after.host = world.host ∨ ∃ label, world.host.step label = some after.host := by
  cases step with
  | host taken => exact .inr ⟨_, taken⟩
  | client step =>
    cases step with
    | spawned _ launched => exact .inr ⟨_, launched⟩
    | _ => exact .inl rfl
  | accepted taken => exact .inr ⟨_, taken⟩
  | ticked => exact .inl rfl

/-- **Projection.** What the daemons do in a run with clients is a run of theirs. -/
theorem World.daemonRun (run : Run World.step allowed (World.start path endpoint) labels world) :
    ∃ hostLabels, Run Host.step Unrestricted (Host.start path endpoint) hostLabels world.host := by
  refine run.invariant (fun world : World =>
    ∃ hostLabels, Run Host.step Unrestricted (Host.start path endpoint) hostLabels world.host)
    ⟨[], .nil⟩ ?_
  rintro before label after ⟨hostLabels, run⟩ _ taken
  rcases (worldStep_of_step taken).daemons with same | ⟨hostLabel, taken⟩
  · exact ⟨hostLabels, by rwa [same]⟩
  · exact ⟨_, .snoc run trivial taken⟩

end CfFw
