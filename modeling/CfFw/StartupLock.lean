import CfFw.ShutdownWindow

/-! The startup lock of `start_and_connect`: who holds it, what a client has seen before
it launches a daemon, and that nobody else is needed for the lock to become free. The
clients, the daemons and the clock move in any order. -/
namespace CfFw.StartupLock
open CfFw Transition

variable {world after : World} {c d : ClientId} {event : ClientEvent} {label : WorldLabel}
  {path : String} {endpoint : Option File} {labels : List WorldLabel}
  {allowed : World → WorldLabel → Prop}

/-- The part of `start_and_connect` that runs under its guard. -/
def guarded : ClientPhase → Bool
  | .reconnecting | .spawning | .polling _ | .looking _ | .timing _ | .sleeping _ _
  | .collecting _ => true
  | _ => false

/-! ### What one step does to the lock -/

/-- A step of client `c`, by what it does to the lock. -/
inductive LockStep (world : World) (c : ClientId) (after : World) : Prop where
  | acquired (phase : (world.clients c).phase = .locking) (free : world.startupLock = none)
      (next : (after.clients c).phase = .reconnecting) (held : after.startupLock = some c)
  | kept (lock : after.startupLock = world.startupLock)
      (same : guarded (after.clients c).phase = guarded (world.clients c).phase)
  | left (lock : after.startupLock = if world.startupLock = some c then none else world.startupLock)
      (outside : guarded (after.clients c).phase = false)

private theorem lockStep_put {client : Client}
    (same : guarded client.phase = guarded (world.clients c).phase) :
    LockStep world c (world.put c client) :=
  .kept rfl (by simpa [World.put] using same)

private theorem lockStep_leave {client : Client} (outside : guarded client.phase = false) :
    LockStep world c (world.leave c client) :=
  .left rfl (by simpa [World.leave, World.put] using outside)

private theorem lockStep_connect {otherwise : ClientPhase}
    (same : guarded otherwise = guarded (world.clients c).phase) :
    LockStep world c (world.connect c (world.clients c) otherwise) := by
  unfold World.connect
  split
  · exact lockStep_leave rfl
  · exact lockStep_put same

private theorem guarded_firstReply (message : ServerMessage) (debug : String) :
    guarded (World.firstReply message debug) = false := by
  cases message <;> rfl

private theorem lockStep_of_clientStep (taken : world.clientStep c event = some after) :
    LockStep world c after := by
  simp only [World.clientStep] at taken
  split at taken
  · rename_i phase
    cases taken
    exact lockStep_put (by rw [phase]; rfl)
  · rename_i phase
    cases taken
    exact lockStep_connect (by rw [phase]; rfl)
  · rename_i phase
    cases taken
    exact lockStep_put (by rw [phase]; rfl)
  · rename_i phase
    cases taken
    exact lockStep_put (by rw [phase]; rfl)
  · rename_i phase
    split at taken
    · cases taken
    · rename_i free
      cases taken
      exact .acquired phase free (by simp [World.put]) rfl
  · rename_i phase
    cases taken
    exact lockStep_put (by rw [phase]; rfl)
  · rename_i phase
    cases taken
    exact lockStep_connect (by rw [phase]; rfl)
  · rename_i phase
    obtain ⟨host, launched, same⟩ := Option.map_eq_some_iff.mp taken
    cases same
    exact .kept rfl (by simp [World.put, phase, guarded])
  · cases taken
    exact lockStep_leave rfl
  · rename_i phase
    cases taken
    exact lockStep_connect (by rw [phase]; rfl)
  · rename_i phase
    split at taken
    · cases taken
      exact lockStep_put (by rw [phase]; rfl)
    · cases taken
      exact lockStep_put (by rw [phase]; rfl)
  · cases taken
    exact lockStep_leave rfl
  · rename_i phase
    split at taken
    · cases taken
      exact lockStep_leave rfl
    · cases taken
      exact lockStep_put (by rw [phase]; rfl)
  · rename_i phase
    split at taken
    · cases taken
      exact lockStep_put (by rw [phase]; rfl)
    · cases taken
  · split at taken
    · split at taken
      · cases taken
      · cases taken
        exact lockStep_leave rfl
    · cases taken
  · split at taken
    · split at taken
      · cases taken
        exact lockStep_leave rfl
      · cases taken
    · cases taken
  · rename_i phase
    cases taken
    exact lockStep_put (by rw [phase]; rfl)
  · rename_i phase
    split at taken
    · cases taken
      exact lockStep_put (by rw [phase]; rfl)
    · cases taken
  · rename_i phase
    split at taken
    · cases taken
      exact lockStep_put (by rw [phase]; rfl)
    · cases taken
  · rename_i phase
    split at taken
    · cases taken
      exact lockStep_put (by rw [phase, guarded_firstReply]; rfl)
    · cases taken
  · rename_i phase
    cases taken
    exact lockStep_put (by rw [phase]; rfl)
  · cases taken
  · cases taken
  · cases taken
  · cases taken
    exact lockStep_leave rfl
  · cases taken

/-- Only its own steps move a client. -/
theorem phase_of_other (taken : world.step label = some after)
    (apart : ∀ event, label ≠ .client d event) :
    (after.clients d).phase = (world.clients d).phase := by
  cases worldStep_of_step taken with
  | host | ticked => rfl
  | @client c event client host startupLock step =>
    have other : d ≠ c := fun same => apart event (by rw [same])
    simp [other]
  | @accepted p c =>
    by_cases same : d = c
    · subst same
      simp
    · simp [same]

/-- Only the clients touch the lock. -/
theorem lock_of_other (taken : world.step label = some after)
    (apart : ∀ c event, label ≠ .client c event) : after.startupLock = world.startupLock := by
  cases worldStep_of_step taken with
  | host | accepted | ticked => rfl
  | client => exact absurd rfl (apart _ _)

/-! ### Mutual exclusion -/

/-- The lock is held exactly by the client that runs under its guard. -/
def Held (world : World) : Prop :=
  ∀ c, guarded (world.clients c).phase = true ↔ world.startupLock = some c

theorem Held.alone (held : Held world) (inside : guarded (world.clients c).phase = true)
    (other : d ≠ c) : guarded (world.clients d).phase = false := by
  have lock := (held c).mp inside
  cases phase : guarded (world.clients d).phase with
  | false => rfl
  | true =>
    rw [(held d).mp phase, Option.some.injEq] at lock
    exact absurd lock other

theorem Held.step (held : Held world) (taken : world.step label = some after) : Held after := by
  cases label with
  | client c event =>
    have others : ∀ d, d ≠ c → (after.clients d).phase = (world.clients d).phase := by
      intro d other
      apply phase_of_other taken
      rintro event' same
      cases same
      exact other rfl
    intro d
    cases lockStep_of_clientStep taken with
    | acquired phase free next lock =>
      by_cases same : d = c
      · subst same
        simp [next, lock, guarded]
      · have outside := held d
        rw [free] at outside
        simpa [others d same, lock, Ne.symm same] using outside
    | kept lock same =>
      by_cases mover : d = c
      · subst mover
        rw [same, lock]
        exact held d
      · rw [others d mover, lock]
        exact held d
    | left lock outside =>
      by_cases mover : d = c
      · subst mover
        rw [outside, lock]
        split
        · simp
        · rename_i free
          simp [free]
      · rw [others d mover, lock]
        split
        · rename_i mine
          have before := held d
          rw [mine] at before
          simpa [Ne.symm mover] using before
        · exact held d
  | host | accept | tick =>
    intro d
    rw [phase_of_other taken nofun, lock_of_other taken nofun]
    exact held d

private theorem held_run (run : Run World.step allowed (World.start path endpoint) labels world) :
    Held world :=
  run.invariant Held (fun _ => ⟨nofun, nofun⟩) fun _ _ _ held _ taken => held.step taken

/-! ### Launching a daemon -/

/-- Under the lock, and after its last step, the client found that nobody answers. -/
structure Searched (path : String) (endpoint : Option File) (labels : List WorldLabel)
    (c : ClientId) (world : World) : Prop where
  found : ∃ first second searching searched, labels = first ++ .client c .connect :: second ∧
    Run World.step Unrestricted (World.start path endpoint) first searching ∧
    searching.step (.client c .connect) = some searched ∧
    Run World.step Unrestricted searched second world ∧
    searching.host.reached = none ∧ searching.startupLock = some c ∧
    ∀ event, .client c event ∉ second

theorem Searched.later (searched : Searched path endpoint labels c world)
    (taken : world.step label = some after) (apart : ∀ event, label ≠ .client c event) :
    Searched path endpoint (labels ++ [label]) c after := by
  obtain ⟨first, second, searching, found, rfl, before, connect, since, silent, lock, still⟩ :=
    searched.found
  refine ⟨first, second ++ [label], searching, found, by simp, before, connect,
    since.snoc trivial taken, silent, lock, fun event member => ?_⟩
  rcases List.mem_append.mp member with old | new
  · exact still event old
  · exact apart event (List.mem_singleton.mp new).symm

private theorem spawning_of_put {client : Client}
    (phase : ((world.put c client).clients c).phase = .spawning) : client.phase = .spawning := by
  simpa [World.put] using phase

private theorem spawning_of_leave {client : Client}
    (phase : ((world.leave c client).clients c).phase = .spawning) : client.phase = .spawning := by
  simpa [World.leave, World.put] using phase

private theorem spawning_of_connect {otherwise : ClientPhase}
    (phase : ((world.connect c (world.clients c) otherwise).clients c).phase = .spawning) :
    otherwise = .spawning ∧ world.host.reached = none := by
  unfold World.connect at phase
  split at phase
  · cases spawning_of_leave phase
  · rename_i silent
    exact ⟨spawning_of_put phase, silent⟩

private theorem firstReply_ne_spawning (message : ServerMessage) (debug : String) :
    World.firstReply message debug ≠ .spawning := by
  cases message <;> exact nofun

/-- The one step that takes a client to its launch. -/
theorem reconnected_of_step (taken : world.clientStep c event = some after)
    (phase : (after.clients c).phase = .spawning) :
    (world.clients c).phase = .reconnecting ∧ event = .connect ∧ world.host.reached = none := by
  simp only [World.clientStep] at taken
  split at taken
  case h_7 before =>
    cases taken
    exact ⟨before, rfl, (spawning_of_connect phase).2⟩
  case h_2 | h_10 =>
    cases taken
    cases (spawning_of_connect phase).1
  case h_1 | h_3 | h_4 | h_6 | h_17 | h_21 =>
    cases taken
    cases spawning_of_put phase
  case h_9 | h_12 | h_25 =>
    cases taken
    cases spawning_of_leave phase
  case h_5 =>
    split at taken
    · cases taken
    · cases taken
      simp [World.put] at phase
  case h_8 =>
    obtain ⟨host, launched, same⟩ := Option.map_eq_some_iff.mp taken
    cases same
    simp [World.put] at phase
  case h_11 =>
    split at taken
    · cases taken
      cases spawning_of_put phase
    · cases taken
      cases spawning_of_put phase
  case h_13 =>
    split at taken
    · cases taken
      cases spawning_of_leave phase
    · cases taken
      cases spawning_of_put phase
  case h_14 | h_18 | h_19 =>
    split at taken
    · cases taken
      cases spawning_of_put phase
    · cases taken
  case h_15 =>
    split at taken
    · split at taken
      · cases taken
      · cases taken
        cases spawning_of_leave phase
    · cases taken
  case h_16 =>
    split at taken
    · split at taken
      · cases taken
        cases spawning_of_leave phase
      · cases taken
    · cases taken
  case h_20 =>
    split at taken
    · cases taken
      exact absurd (spawning_of_put phase) (firstReply_ne_spawning _ _)
    · cases taken
  case h_22 | h_23 | h_24 | h_26 => cases taken

/-- Before a client launches a daemon it has found, under the lock, that nobody answers. -/
theorem searched_run (run : Run World.step Unrestricted (World.start path endpoint) labels world) :
    ∀ c, (world.clients c).phase = .spawning → Searched path endpoint labels c world := by
  have both : Run World.step Unrestricted (World.start path endpoint) labels world ∧
      ∀ c, (world.clients c).phase = .spawning → Searched path endpoint labels c world := by
    refine run.historyInvariant (fun past reached =>
      Run World.step Unrestricted (World.start path endpoint) past reached ∧
        ∀ c, (reached.clients c).phase = .spawning → Searched path endpoint past c reached)
      ⟨.nil, nofun⟩ ?_
    rintro past before label later ⟨sofar, searched⟩ _ taken
    refine ⟨sofar.snoc trivial taken, fun c phase => ?_⟩
    by_cases mine : ∃ event, label = .client c event
    · obtain ⟨event, rfl⟩ := mine
      obtain ⟨reconnecting, rfl, silent⟩ := reconnected_of_step taken phase
      have lock := ((held_run sofar) c).mp (by rw [reconnecting]; rfl)
      exact ⟨past, [], before, later, rfl, sofar, taken, .nil, silent, lock, nofun⟩
    · have apart : ∀ event, label ≠ .client c event := fun event same => mine ⟨event, same⟩
      rw [phase_of_other taken apart] at phase
      exact (searched c phase).later taken apart
  exact both.2

/-- Two clients never have the same daemon for a child. -/
def Apart (world : World) : Prop :=
  ∀ c d p, (world.clients c).child = some p → (world.clients d).child = some p → c = d

private theorem child_of_step (taken : world.step label = some after) (c : ClientId) :
    (after.clients c).child = (world.clients c).child ∨
      ((∃ event, label = .client c event) ∧
        (after.clients c).child = some world.host.launched) := by
  cases worldStep_of_step taken with
  | host | ticked => exact .inl rfl
  | @client d event client host startupLock step =>
    by_cases same : c = d
    · subst same
      cases step with
      | spawned => exact .inr ⟨⟨_, rfl⟩, by simp⟩
      | _ => exact .inl (by simp)
    · exact .inl (by simp [same])
  | @accepted p d =>
    by_cases same : c = d
    · subst same
      exact .inl (by simp)
    · exact .inl (by simp [same])

private theorem apart_run (run : Run World.step allowed (World.start path endpoint) labels world) :
    Apart world := by
  have start : Apart (World.start path endpoint) := fun c d p child _ => by
    simp [World.start, Client.absent] at child
  refine run.invariantAlong Apart start ?_
  intro past before label later sofar apart _ taken c d p first second
  have linked := (World.linked sofar).2
  have fresh : ∀ client, (before.clients client).child ≠ some before.host.launched := fun client child =>
    Nat.lt_irrefl _ ((linked client).child _ child)
  rcases child_of_step taken c with kept | ⟨⟨event, mine⟩, launched⟩ <;>
    rcases child_of_step taken d with kept' | ⟨⟨event', mine'⟩, launched'⟩
  · exact apart c d p (kept ▸ first) (kept' ▸ second)
  · rw [launched'] at second
    cases second
    exact absurd (kept ▸ first) (fresh c)
  · rw [launched] at first
    cases first
    exact absurd (kept' ▸ second) (fresh d)
  · rw [mine] at mine'
    cases mine'
    rfl

/-- **One client at a time starts a daemon.** In every run the startup lock is held exactly by
the client between its acquisition and its return, so there is never more than one. A client
launches at most one daemon, no two clients have the same one, and when it launches, every other
client is outside and a connect made under the lock, with no step of its own since, found nobody. -/
theorem launches_are_exclusive
    (run : Run World.step Unrestricted (World.start path endpoint) labels world) :
    (∀ c, guarded (world.clients c).phase = true ↔ world.startupLock = some c) ∧
      (∀ c d p, (world.clients c).child = some p → (world.clients d).child = some p → c = d) ∧
      ∀ c, (world.clients c).phase = .spawning →
        (world.clients c).child = none ∧
          (∀ d, d ≠ c → guarded (world.clients d).phase = false) ∧
          Searched path endpoint labels c world := by
  have held := held_run run
  refine ⟨held, apart_run run, fun c phase => ⟨?_, fun d other => ?_, searched_run run c phase⟩⟩
  · exact (((World.linked run).2 c).ahead (by rw [phase]; rfl)).1
  · exact held.alone (by rw [phase]; rfl) other

/-- One client waits for the lock while another is about to launch a daemon. -/
def contendedLabels : List WorldLabel :=
  [.client 1 .start, .client 1 .connect, .client 1 .proceed, .client 0 .start, .client 0 .connect,
    .client 0 .proceed, .client 0 .proceed, .client 0 .connect, .tick 7]

def contendedWorld : World :=
  (execute World.step (World.start socketPath none) contendedLabels).get (by decide)

theorem contended_launch :
    (∀ d, d ≠ 0 → guarded (contendedWorld.clients d).phase = false) ∧
      Searched socketPath none contendedLabels 0 contendedWorld :=
  ((launches_are_exclusive (run_to_execute (by decide))).2.2 0 (by rfl)).2

/-! ### Giving the lock back -/

/-- Time passes, or the client does one of the steps that need nobody else. -/
def OwnStep (c : ClientId) (_ : World) (label : WorldLabel) : Prop :=
  (∃ pause, label = .tick pause) ∨ label = .client c .connect ∨ label = .client c .proceed ∨
    label = .client c .captureLate

/-- The time that passes in a step. -/
def duration : WorldLabel → Nat
  | .host _ | .client _ _ | .accept _ _ => 0
  | .tick elapsed => elapsed

/-- The time that passes in a sequence of steps. -/
def elapsed (labels : List WorldLabel) : Nat := (labels.map duration).foldr Nat.add 0

/-- The deadlines of a client lie no further ahead than when they were set. -/
def Due (now : Instant) : ClientPhase → Prop
  | .polling deadline | .looking deadline | .timing deadline => deadline ≤ now + daemonStartTimeout
  | .sleeping deadline wake => deadline ≤ now + daemonStartTimeout ∧ wake ≤ now + 50000000
  | .collecting latest => latest ≤ now + 1000000000
  | _ => True

theorem Due.later {phase : ClientPhase} {now next : Instant} (due : Due now phase) (later : now ≤ next) :
    Due next phase := by
  cases phase with
  | polling | looking | timing | collecting => exact Nat.le_trans due (Nat.add_le_add_right later _)
  | sleeping =>
    exact ⟨Nat.le_trans due.1 (Nat.add_le_add_right later _),
      Nat.le_trans due.2 (Nat.add_le_add_right later _)⟩
  | _ => trivial

private theorem due_put {client : Client} (due : Due world.now client.phase) :
    Due (world.put c client).now ((world.put c client).clients c).phase := by
  simpa [World.put] using due

private theorem due_leave {client : Client} (due : Due world.now client.phase) :
    Due (world.leave c client).now ((world.leave c client).clients c).phase := by
  simpa [World.leave, World.put] using due

private theorem due_connect {otherwise : ClientPhase} (due : Due world.now otherwise) :
    Due (world.connect c (world.clients c) otherwise).now
      ((world.connect c (world.clients c) otherwise).clients c).phase := by
  unfold World.connect
  split
  · exact due_leave trivial
  · exact due_put due

private theorem due_of_clientStep (due : Due world.now (world.clients c).phase)
    (taken : world.clientStep c event = some after) : Due after.now (after.clients c).phase := by
  simp only [World.clientStep] at taken
  split at taken
  case h_1 | h_3 | h_4 | h_6 | h_17 | h_21 =>
    cases taken
    exact due_put trivial
  case h_2 | h_7 =>
    cases taken
    exact due_connect trivial
  case h_9 | h_12 | h_25 =>
    cases taken
    exact due_leave trivial
  case h_10 phase =>
    cases taken
    rw [phase] at due
    exact due_connect due
  case h_5 =>
    split at taken
    · cases taken
    · cases taken
      simp [World.put, Due]
  case h_8 =>
    obtain ⟨host, launched, same⟩ := Option.map_eq_some_iff.mp taken
    cases same
    simp [World.put, Due]
  case h_11 phase =>
    rw [phase] at due
    split at taken
    · cases taken
      exact due_put (Nat.le_refl _)
    · cases taken
      exact due_put due
  case h_13 phase =>
    rw [phase] at due
    split at taken
    · cases taken
      exact due_leave trivial
    · cases taken
      exact due_put ⟨due, Nat.le_refl _⟩
  case h_14 phase =>
    rw [phase] at due
    split at taken
    · cases taken
      exact due_put due.1
    · cases taken
  case h_15 =>
    split at taken
    · split at taken
      · cases taken
      · cases taken
        exact due_leave trivial
    · cases taken
  case h_16 =>
    split at taken
    · split at taken
      · cases taken
        exact due_leave trivial
      · cases taken
    · cases taken
  case h_18 | h_19 =>
    split at taken
    · cases taken
      exact due_put trivial
    · cases taken
  case h_20 =>
    split at taken
    · rename_i message _ _ _
      cases taken
      exact due_put (by cases message <;> trivial)
    · cases taken
  case h_22 | h_23 | h_24 | h_26 => cases taken

private theorem due_run (run : Run World.step allowed (World.start path endpoint) labels world)
    (c : ClientId) :
    Due world.now (world.clients c).phase := by
  refine run.invariant (fun world : World => ∀ c, Due world.now (world.clients c).phase)
    (fun _ => trivial) ?_ c
  intro before label later due _ taken c
  by_cases mine : ∃ event, label = .client c event
  · obtain ⟨event, rfl⟩ := mine
    exact due_of_clientStep (due c) taken
  · rw [phase_of_other taken fun event same => mine ⟨event, same⟩]
    apply (due c).later
    cases worldStep_of_step taken with
    | host | client | accepted => exact Nat.le_refl _
    | ticked => exact Nat.le_add_right _ _

/-- Client `c` can come to give the lock back within this time, with no help. -/
def Frees (c : ClientId) (world : World) (bound : Nat) : Prop :=
  ∃ more final, Run World.step (OwnStep c) world more final ∧ final.startupLock = none ∧
    elapsed more ≤ bound

theorem Frees.mono {bound larger : Nat} (frees : Frees c world bound) (le : bound ≤ larger) :
    Frees c world larger := by
  obtain ⟨more, final, run, free, within⟩ := frees
  exact ⟨more, final, run, free, Nat.le_trans within le⟩

private theorem frees_of_free (free : world.startupLock = none) : Frees c world 0 :=
  ⟨[], world, .nil, free, Nat.le_refl _⟩

theorem Frees.tick {pause bound : Nat}
    (frees : Frees c { world with now := world.now + pause } bound) :
    Frees c world (pause + bound) := by
  obtain ⟨more, final, run, free, within⟩ := frees
  refine ⟨.tick pause :: more, final, run.cons (.inl ⟨pause, rfl⟩) rfl, free, ?_⟩
  simpa [elapsed, duration] using within

theorem Frees.step {bound : Nat} (frees : Frees c after bound)
    (own : event = .connect ∨ event = .proceed ∨ event = .captureLate)
    (taken : world.clientStep c event = some after) : Frees c world bound := by
  obtain ⟨more, final, run, free, within⟩ := frees
  have permitted : OwnStep c world (.client c event) := by
    rcases own with rfl | rfl | rfl
    · exact .inr (.inl rfl)
    · exact .inr (.inr (.inl rfl))
    · exact .inr (.inr (.inr rfl))
  refine ⟨.client c event :: more, final, run.cons permitted taken, free, ?_⟩
  simpa [elapsed, duration] using within

private theorem leave_frees {client : Client} (lock : world.startupLock = some c) :
    (world.leave c client).startupLock = none := by
  rw [World.leave, lock, if_pos rfl]

/-- A connect ends the waiting, or leaves the client where it goes on. -/
theorem frees_connect {otherwise : ClientPhase} {bound : Nat} (lock : world.startupLock = some c)
    (goesOn : Frees c (world.put c { world.clients c with phase := otherwise }) bound) :
    Frees c (world.connect c (world.clients c) otherwise) bound := by
  unfold World.connect
  split
  · exact (frees_of_free (leave_frees lock)).mono (Nat.zero_le _)
  · exact goesOn

/-- Waiting for a deadline. -/
theorem wait {deadline now limit : Nat} (near : deadline ≤ now + limit) :
    deadline ≤ now + (deadline - now) ∧ deadline - now ≤ limit := by
  omega

private theorem frees_collecting {latest : Instant} {exit : Exit}
    (lock : world.startupLock = some c)
    (phase : (world.clients c).phase = .collecting latest)
    (seen : (world.clients c).exit = some exit) : Frees c world (latest - world.now) := by
  let due : World := { world with now := world.now + (latest - world.now) }
  have late : latest ≤ due.now := (wait (Nat.le_add_left latest world.now)).1
  have taken : due.clientStep c .captureLate = some (due.leave c
      { due.clients c with phase := .failing (daemonExitError exit none) }) := by
    simp only [World.clientStep, due, phase, seen]
    rw [if_pos late]
  have free := @leave_frees due c { due.clients c with phase := .failing (daemonExitError exit none) } lock
  have frees : Frees c due 0 := (frees_of_free free).step (.inr (.inr rfl)) taken
  exact frees.tick

/-- The end of the loop, once its deadline has passed. -/
theorem frees_timing {deadline : Instant} (lock : world.startupLock = some c)
    (phase : (world.clients c).phase = .timing deadline) (late : deadline ≤ world.now) :
    Frees c world 0 := by
  have taken : world.clientStep c .proceed = some (world.leave c
      { world.clients c with phase := .failing .daemonStartTimeout }) := by
    simp only [World.clientStep, phase]
    rw [if_pos late]
  exact (frees_of_free (leave_frees lock)).step (.inr (.inl rfl)) taken

private theorem frees_looking {deadline : Instant} (lock : world.startupLock = some c)
    (phase : (world.clients c).phase = .looking deadline) (late : deadline ≤ world.now) :
    Frees c world 1000000000 := by
  cases seen : world.childExit (world.clients c) with
  | some exit =>
    have taken : world.clientStep c .proceed = some (world.put c { world.clients c with
        phase := .collecting (world.now + 1000000000)
        exit := some exit }) := by
      simp only [World.clientStep, phase, seen]
    have frees := @frees_collecting (world.put c { world.clients c with
        phase := .collecting (world.now + 1000000000)
        exit := some exit }) c (world.now + 1000000000) exit lock (by simp [World.put])
        (by simp [World.put])
    apply (frees.step (.inr (.inl rfl)) taken).mono
    simp [World.put]
  | none =>
    have taken : world.clientStep c .proceed =
        some (world.put c { world.clients c with phase := .timing deadline }) := by
      simp only [World.clientStep, phase, seen]
    have frees := @frees_timing (world.put c { world.clients c with phase := .timing deadline })
      c deadline lock (by simp [World.put]) late
    exact (frees.step (.inr (.inl rfl)) taken).mono (Nat.zero_le _)

private theorem frees_polling {deadline : Instant} (lock : world.startupLock = some c)
    (phase : (world.clients c).phase = .polling deadline) (late : deadline ≤ world.now) :
    Frees c world 1000000000 := by
  have taken : world.clientStep c .connect =
      some (world.connect c (world.clients c) (.looking deadline)) := by
    simp only [World.clientStep, phase]
  have goesOn := @frees_looking (world.put c { world.clients c with phase := .looking deadline })
    c deadline lock (by simp [World.put]) late
  exact (frees_connect lock goesOn).step (.inl rfl) taken

/-- A client in its loop waits for its deadline and then goes through it once more. -/
theorem frees_waiting (lock : world.startupLock = some c)
    (waiting : (world.clients c).phase.waiting = true)
    (due : Due world.now (world.clients c).phase) :
    Frees c world (daemonStartTimeout + 1000000000) := by
  cases phase : (world.clients c).phase with
  | polling deadline =>
    rw [phase] at due
    obtain ⟨late, within⟩ := wait due
    let later : World := { world with now := world.now + (deadline - world.now) }
    exact (@frees_polling later c deadline lock phase late).tick.mono (Nat.add_le_add_right within _)
  | looking deadline =>
    rw [phase] at due
    obtain ⟨late, within⟩ := wait due
    let later : World := { world with now := world.now + (deadline - world.now) }
    exact (@frees_looking later c deadline lock phase late).tick.mono (Nat.add_le_add_right within _)
  | timing deadline =>
    rw [phase] at due
    obtain ⟨late, within⟩ := wait due
    let later : World := { world with now := world.now + (deadline - world.now) }
    have frees := (@frees_timing later c deadline lock phase late).mono (Nat.zero_le 1000000000)
    exact frees.tick.mono (Nat.add_le_add_right within _)
  | sleeping deadline wake =>
    rw [phase] at due
    have near : max deadline wake ≤ world.now + daemonStartTimeout := by
      have short : 50000000 ≤ daemonStartTimeout := by decide
      exact Nat.max_le.mpr ⟨due.1, Nat.le_trans due.2 (Nat.add_le_add_left short _)⟩
    obtain ⟨late, within⟩ := wait near
    let later : World := { world with now := world.now + (max deadline wake - world.now) }
    have awake : wake ≤ later.now := Nat.le_trans (Nat.le_max_right _ _) late
    have taken : later.clientStep c .proceed =
        some (later.put c { later.clients c with phase := .polling deadline }) := by
      simp only [World.clientStep, later, phase]
      rw [if_pos awake]
    have frees := @frees_polling (later.put c { later.clients c with phase := .polling deadline })
      c deadline lock (by simp [World.put]) (Nat.le_trans (Nat.le_max_left _ _) late)
    exact (frees.step (.inr (.inl rfl)) taken).tick.mono (Nat.add_le_add_right within _)
  | _ => simp [phase, ClientPhase.waiting] at waiting

private theorem frees_spawning (lock : world.startupLock = some c)
    (phase : (world.clients c).phase = .spawning) :
    Frees c world (daemonStartTimeout + 1000000000) := by
  let host : Host := { world.host with
    launched := world.host.launched + 1
    processes := Function.update world.host.processes world.host.launched .started }
  let spawned : World := { world.put c { world.clients c with
      phase := .polling (world.now + daemonStartTimeout)
      child := some world.host.launched } with host }
  have taken : world.clientStep c .proceed = some spawned := by
    simp only [World.clientStep, phase]
    rfl
  have polling : (spawned.clients c).phase = .polling (world.now + daemonStartTimeout) := by
    simp [spawned, World.put]
  have frees := @frees_waiting spawned c lock (by rw [polling]; rfl)
    (by rw [polling]; exact Nat.le_refl (world.now + daemonStartTimeout))
  exact frees.step (.inr (.inl rfl)) taken

/-- **The startup lock always becomes free.** Whatever has happened, the client that holds the
lock can give it back with its own steps alone, within the start timeout and one second: neither
a daemon nor another client can keep it, so those that wait for the lock wait for its holder and
the clock only. -/
theorem startup_lock_becomes_free
    (run : Run World.step Unrestricted (World.start path endpoint) labels world)
    (lock : world.startupLock = some c) :
    ∃ more final, Run World.step (OwnStep c) world more final ∧ final.startupLock = none ∧
      elapsed more ≤ daemonStartTimeout + 1000000000 := by
  have inside := (held_run run c).mpr lock
  have linked := (World.linked run).2 c
  have due := due_run run c
  change Frees c world (daemonStartTimeout + 1000000000)
  cases phase : (world.clients c).phase with
  | reconnecting =>
    have taken : world.clientStep c .connect = some (world.connect c (world.clients c) .spawning) := by
      simp only [World.clientStep, phase]
    have goesOn := @frees_spawning (world.put c { world.clients c with phase := .spawning }) c lock
      (by simp [World.put])
    exact (frees_connect lock goesOn).step (.inl rfl) taken
  | spawning => exact frees_spawning lock phase
  | polling | looking | timing | sleeping => exact frees_waiting lock (by rw [phase]; rfl) due
  | collecting latest =>
    rw [phase] at due
    obtain ⟨exit, seen⟩ := Option.ne_none_iff_exists'.mp (linked.collecting latest phase)
    apply (frees_collecting lock phase seen).mono
    exact Nat.le_trans (wait due).2 (Nat.le_add_left _ _)
  | _ => simp [phase, guarded] at inside

theorem contended_lock_becomes_free :
    ∃ more final, Run World.step (OwnStep 0) contendedWorld more final ∧ final.startupLock = none ∧
      elapsed more ≤ daemonStartTimeout + 1000000000 :=
  startup_lock_becomes_free
    (show Run World.step Unrestricted (World.start socketPath none) contendedLabels contendedWorld from
      run_to_execute (by decide)) (by rfl)

end CfFw.StartupLock
