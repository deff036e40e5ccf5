import CfFw.Error
import CfFw.ProcessTable
import CfFw.Transition
import Mathlib.Data.Fintype.Basic

/-! The `cloudflared` of a daemon: `CloudflaredProcess` of `cloudflared.rs` with the
`ChildSupervisor` of `platform/unix.rs`, as `run` of `daemon/mod.rs` uses them. A step is one
system call; `cloudflared`, the processes that it forks and everybody else's move in
between. A group is named after its leader, and a process that has been killed is gone.
`broadcast_fatal` and the waits of `run` for its other tasks, which may take their time, have
no step here. -/
namespace CfFw.TunnelProcess
open CfFw Transition

def childShutdownTimeout : Instant := 3000000000
def cloudflaredStabilization : Instant := 750000000

/-- What `run` does after a round of `finish_shutdown` and `finish_output_tasks`: `stabilize`
and `try_wait_exit` end with one, and `run` goes on to `shutdown`; `shutdown` ends with one,
and `run` goes on to its end. -/
inductive After where
  | shutDown
  | leave
  deriving DecidableEq

/-- Where `run` stands with its `cloudflared`. `closing` to `reaping` are `shutdown`, and
`dropping` is the drop of the supervisor. -/
inductive Phase where
  | unspawned
  | attaching
  | refusing
  | piping
  | stabilizing (wake : Instant)
  | supervising
  | finishing (after : After)
  | draining (after : After)
  | closing
  | terminating
  | waiting (deadline : Instant)
  | killing
  | reaping
  | dropping
  | dropped
  deriving DecidableEq

/-- Where `run` goes on. -/
def After.next : After → Phase
  | .shutDown => .closing
  | .leave => .dropping

variable {ι : Type} [DecidableEq ι]

/-- The processes of the machine, with the daemon's own group; `kin` are `cloudflared` and
what descends from it. `group` is `ChildSupervisor::process_group` once it is not zero, and
`reaped` says that a wait has returned, which tokio remembers. -/
structure World (ι : Type) where
  now : Instant
  table : ProcessTable ι ι
  kin : ι → Bool
  own : ι
  child : Option ι
  group : Option ι
  reaped : Bool
  phase : Phase

/-- `reuse` gives the id of a process that is gone to a new one, `proceed` is the next system
call of `run`, and with `fails` it returns an error. -/
inductive Label (ι : Type) where
  | tick (pause : Instant)
  | fork (parent process : ι)
  | regroup (process group : ι)
  | exit (process : ι)
  | reuse (process : ι)
  | spawn (child : ι)
  | spawnFails
  | proceed
  | fails
  | cancel
  | expire
  deriving DecidableEq

/-- A daemon that has not spawned its `cloudflared`, among other processes. -/
def World.start (table : ProcessTable ι ι) (own : ι) : World ι where
  now := 0
  table := { table with signalled := fun _ => false }
  kin := fun _ => false
  own := own
  child := none
  group := none
  reaped := false
  phase := .unspawned

namespace World

/-- `try_wait` or `wait` would find `cloudflared` gone. -/
def gone (w : World ι) : Bool := w.reaped || w.child.all fun child => !decide (w.table.Running child)

/-- `signal_group`, which refuses a group that is not set and the daemon's own. -/
def signalGroup (w : World ι) (signal : ProcessTable ι ι → ι → ProcessTable ι ι) :
    Option (World ι) :=
  match w.group with
  | none => none
  | some group => if group = w.own then none else some { w with table := signal w.table group }

/-- `ChildSupervisor::attach`, and `start_kill` where it refuses the group. -/
def attach (w : World ι) (child : ι) : World ι :=
  if child = w.own then { w with table := w.table.exit child, phase := .refusing }
  else { w with group := some child, phase := .piping }

/-- `try_wait` has found the child gone, or it has not. -/
def look (w : World ι) (after : After) (otherwise : Phase) : World ι :=
  if w.gone then { w with reaped := true, phase := .finishing after }
  else { w with phase := otherwise }

/-- A signal to the group, and where `run` goes on if it was sent or refused. -/
def strike (w : World ι) (signal : ProcessTable ι ι → ι → ProcessTable ι ι)
    (sent refused : Phase) : World ι :=
  match w.signalGroup signal with
  | some after => { after with phase := sent }
  | none => { w with phase := refused }

/-- The next system call of `run`. -/
def proceed (w : World ι) : Option (World ι) :=
  match w.phase with
  | .attaching => w.child.map w.attach
  | .refusing => if w.gone then some { w with reaped := true, phase := .dropping } else none
  | .piping => some { w with phase := .stabilizing (w.now + cloudflaredStabilization) }
  | .stabilizing wake => if wake ≤ w.now then some (w.look .shutDown .supervising) else none
  | .supervising => some (w.look .shutDown .supervising)
  | .finishing after => some (w.strike .destroy (.draining after) after.next)
  | .draining after => some { w with phase := after.next }
  | .closing => some (w.look .leave .terminating)
  | .terminating => some (w.strike .killpg (.waiting (w.now + childShutdownTimeout)) .dropping)
  | .waiting _ | .reaping =>
    if w.gone then some { w with reaped := true, phase := .finishing .leave } else none
  | .killing => some (w.strike .destroy .reaping .dropping)
  | .dropping => some (w.strike .destroy .dropped .dropped)
  | .unspawned | .dropped => none

/-- The system call of this phase returns an error. -/
def fail (w : World ι) : Option (World ι) :=
  match w.phase with
  | .stabilizing _ | .supervising => some { w with phase := .closing }
  | .finishing after | .draining after => some { w with phase := after.next }
  | .refusing | .piping | .closing | .terminating | .waiting _ | .killing | .reaping =>
    some { w with phase := .dropping }
  | .dropping => some { w with phase := .dropped }
  | .unspawned | .attaching | .dropped => none

def step (w : World ι) : Label ι → Option (World ι)
  | .tick pause => some { w with now := w.now + pause }
  | .fork parent process =>
    some { w with
      table := w.table.fork parent process
      kin := Function.update w.kin process (w.kin parent) }
  | .regroup process group => some { w with table := w.table.lead process group }
  | .exit process => some { w with table := w.table.exit process }
  | .reuse process =>
    some { w with
      table := w.table.start process process, kin := Function.update w.kin process false }
  | .spawn child =>
    if w.phase = .unspawned then
      some { w with
        table := w.table.start child child
        kin := Function.update w.kin child true
        child := some child
        group := none
        reaped := false
        phase := .attaching }
    else none
  | .spawnFails => if w.phase = .unspawned then some { w with phase := .dropped } else none
  | .proceed => w.proceed
  | .fails => w.fail
  | .cancel => if w.phase = .supervising then some { w with phase := .closing } else none
  | .expire =>
    match w.phase with
    | .waiting deadline => if deadline ≤ w.now then some { w with phase := .killing } else none
    | _ => none

/-- No process has the id or is in a group of that name. -/
structure Free (w : World ι) (process : ι) : Prop where
  absent : w.table.status process = .absent
  unused : ∀ other, w.table.Running other → w.table.group other ≠ process

/-- No process of `cloudflared` runs. -/
def Silent (w : World ι) : Prop := ∀ p, w.kin p = true → ¬ w.table.Running p

end World

/-- What the kernel sees to: only processes that run do anything; new ids are free, and an id
is given out again only when its process is reaped and its group empty; and nobody from
another session joins the group of `cloudflared`. -/
def Kernel (w : World ι) : Label ι → Prop
  | .fork parent process => w.table.Running parent ∧ w.Free process
  | .regroup process group =>
    w.table.Running process ∧ (w.kin process = false → w.child ≠ some group)
  | .exit process => w.table.Running process
  | .reuse process =>
    w.table.status process = .exited ∧
      (∀ other, w.table.Running other → w.table.group other ≠ process) ∧
      (w.child = some process → w.reaped = true ∨ w.phase = .dropping ∨ w.phase = .dropped)
  | .spawn child => w.Free child ∧ child ≠ w.own
  | .tick _ | .spawnFails | .proceed | .fails | .cancel | .expire => True

/-- `cloudflared` keeps its processes in one group, and the kernel does not refuse the last
signal. -/
def Loyal (w : World ι) (label : Label ι) : Prop :=
  Kernel w label ∧ (∀ p group, label = .regroup p group → w.kin p = true → w.child = some group) ∧
    (label = .fails → w.phase ≠ .dropping)

/-- The id of `cloudflared` is not given out again while the daemon supervises its group. -/
def Unreused (w : World ι) (label : Label ι) : Prop :=
  Kernel w label ∧ ∀ p, label = .reuse p → w.child = some p → w.phase = .dropped

section
variable [Fintype ι]

instance (w : World ι) (process : ι) : Decidable (w.Free process) :=
  decidable_of_iff (w.table.status process = .absent ∧
      ∀ other, w.table.Running other → w.table.group other ≠ process)
    ⟨fun free => ⟨free.1, free.2⟩, fun free => ⟨free.absent, free.unused⟩⟩

instance (w : World ι) : Decidable w.Silent :=
  inferInstanceAs (Decidable (∀ p, w.kin p = true → ¬ w.table.Running p))

instance (w : World ι) : (label : Label ι) → Decidable (Kernel w label)
  | .fork parent process => inferInstanceAs (Decidable (w.table.Running parent ∧ w.Free process))
  | .regroup process group =>
    inferInstanceAs (Decidable
      (w.table.Running process ∧ (w.kin process = false → w.child ≠ some group)))
  | .exit process => inferInstanceAs (Decidable (w.table.Running process))
  | .reuse process =>
    inferInstanceAs (Decidable (w.table.status process = .exited ∧
      (∀ other, w.table.Running other → w.table.group other ≠ process) ∧
      (w.child = some process → w.reaped = true ∨ w.phase = .dropping ∨ w.phase = .dropped)))
  | .spawn child => inferInstanceAs (Decidable (w.Free child ∧ child ≠ w.own))
  | .tick _ | .spawnFails | .proceed | .fails | .cancel | .expire =>
    inferInstanceAs (Decidable True)

instance (w : World ι) (label : Label ι) : Decidable (Loyal w label) :=
  inferInstanceAs (Decidable (_ ∧ _ ∧ _))

instance (w : World ι) (label : Label ι) : Decidable (Unreused w label) :=
  inferInstanceAs (Decidable (_ ∧ _))

end

variable {w w' : World ι} {label : Label ι} {labels more : List (Label ι)} {p q : ι}

/-! ### What others do -/

/-- A step of the clock or of the processes leaves the daemon where it is. What runs of
`cloudflared` afterwards is in the group of something that ran before, or has joined the
group of `cloudflared`. -/
structure Moved (w w' : World ι) : Prop where
  daemon : w'.own = w.own ∧ w'.child = w.child ∧ w'.group = w.group ∧ w'.reaped = w.reaped ∧
    w'.phase = w.phase
  later : w.now ≤ w'.now
  kin : ∀ p, w'.kin p = true → w'.table.Running p → ∃ q, w.kin q = true ∧ w.table.Running q ∧
    (w'.table.group p = w.table.group q ∨ w.child = some (w'.table.group p))

omit [DecidableEq ι] in
theorem Moved.silent (moved : Moved w w') (silent : w.Silent) : w'.Silent := by
  intro p kin running
  obtain ⟨q, kin, running, _⟩ := moved.kin p kin running
  exact silent q kin running

/-- The steps that are not the daemon's. -/
def Label.outside : Label ι → Bool
  | .tick _ | .fork _ _ | .regroup _ _ | .exit _ | .reuse _ => true
  | .spawn _ | .spawnFails | .proceed | .fails | .cancel | .expire => false

private theorem moved_of_step (loyal : Loyal w label) (outside : label.outside = true)
    (taken : w.step label = some w') : Moved w w' := by
  have daemon : ∀ {w : World ι}, w.own = w.own ∧ w.child = w.child ∧ w.group = w.group ∧
      w.reaped = w.reaped ∧ w.phase = w.phase := ⟨rfl, rfl, rfl, rfl, rfl⟩
  cases label with
  | tick pause =>
    cases taken
    exact ⟨daemon, Nat.le_add_right _ _, fun p kin running => ⟨p, kin, running, .inl rfl⟩⟩
  | fork parent process =>
    cases taken
    refine ⟨daemon, Nat.le_refl _, fun p kin running => ?_⟩
    by_cases same : p = process
    · subst same
      have parentKin : w.kin parent = true := (Function.update_self _ _ _).symm.trans kin
      exact ⟨parent, parentKin, loyal.1.1, .inl (Function.update_self _ _ _)⟩
    · exact ⟨p, (Function.update_of_ne same _ _).symm.trans kin,
        (Function.update_of_ne same _ _).symm.trans running, .inl (Function.update_of_ne same _ _)⟩
  | regroup process group =>
    cases taken
    refine ⟨daemon, Nat.le_refl _, fun p kin running => ⟨p, kin, running, ?_⟩⟩
    by_cases same : p = process
    · subst same
      have joined : (w.table.lead p group).group p = group := Function.update_self _ _ _
      exact .inr ((loyal.2.1 p group rfl kin).trans (congrArg some joined.symm))
    · exact .inl (Function.update_of_ne same _ _)
  | exit process =>
    cases taken
    refine ⟨daemon, Nat.le_refl _, fun p kin running => ?_⟩
    exact ⟨p, kin, (ProcessTable.running_exit.mp running).2, .inl rfl⟩
  | reuse process =>
    cases taken
    refine ⟨daemon, Nat.le_refl _, fun p kin running => ?_⟩
    by_cases same : p = process
    · subst same
      have stranger : false = true := (Function.update_self _ _ _).symm.trans kin
      cases stranger
    · exact ⟨p, (Function.update_of_ne same _ _).symm.trans kin,
        (Function.update_of_ne same _ _).symm.trans running, .inl (Function.update_of_ne same _ _)⟩
  | spawn | spawnFails | proceed | fails | cancel | expire => cases outside

/-! ### Nothing is left -/

/-- The supervisor knows the group of its child. -/
def Supervised (w : World ι) : Prop :=
  ∃ child, w.child = some child ∧ w.group = some child ∧ child ≠ w.own

/-- What is known of the processes where `run` stands. -/
def Stands (w : World ι) : Prop :=
  match w.phase with
  | .unspawned => w.child = none ∧ ∀ p, w.kin p = false
  | .attaching => ∃ child, w.child = some child ∧ child ≠ w.own
  | .refusing => False
  | .dropped => w.Silent
  | .draining _ | .reaping => Supervised w ∧ w.Silent
  | .waiting deadline => Supervised w ∧ deadline ≤ w.now + childShutdownTimeout
  | .piping | .stabilizing _ | .supervising | .finishing _ | .closing | .terminating | .killing
  | .dropping => Supervised w

/-- All that runs of `cloudflared` is in its group, and the daemon knows which that is. -/
structure Contained (w : World ι) : Prop where
  grouped : ∀ p, w.kin p = true → w.table.Running p → w.child = some (w.table.group p)
  stands : Stands w

omit [DecidableEq ι] in
theorem Supervised.moved (moved : Moved w w') (supervised : Supervised w) : Supervised w' := by
  obtain ⟨own, child, group, _, _⟩ := moved.daemon
  rwa [Supervised, child, group, own]

/-- Before `cloudflared` is there nothing descends from it. -/
theorem unspawned_moved (outside : label.outside = true) (taken : w.step label = some w')
    (none : ∀ p, w.kin p = false) : ∀ p, w'.kin p = false := by
  intro p
  cases label with
  | tick | regroup | exit =>
    cases taken
    exact none p
  | fork parent process | reuse process =>
    cases taken
    by_cases same : p = process
    · subst same
      refine (Function.update_self _ _ _).trans ?_
      first | exact none parent | rfl
    · exact (Function.update_of_ne same _ _).trans (none p)
  | spawn | spawnFails | proceed | fails | cancel | expire => cases outside

private theorem contained_moved (contained : Contained w) (loyal : Loyal w label)
    (outside : label.outside = true) (taken : w.step label = some w') : Contained w' := by
  have moved := moved_of_step loyal outside taken
  obtain ⟨own, child, group, _, phase⟩ := moved.daemon
  refine ⟨fun p kin running => ?_, ?_⟩
  · obtain ⟨q, kin, running, same | joined⟩ := moved.kin p kin running
    · rw [child, same]
      exact contained.grouped q kin running
    · rw [child]
      exact joined
  · have stands := contained.stands
    unfold Stands at stands ⊢
    rw [phase]
    split at stands
    · exact ⟨child.trans stands.1, unspawned_moved outside taken stands.2⟩
    · rwa [child, own]
    · exact stands
    · exact moved.silent stands
    · exact ⟨stands.1.moved moved, moved.silent stands.2⟩
    · exact ⟨stands.1.moved moved, moved.silent stands.2⟩
    · exact ⟨stands.1.moved moved, Nat.le_trans stands.2 (Nat.add_le_add_right moved.later _)⟩
    all_goals exact stands.moved moved

/-! ### What the daemon does -/

/-- A signal that kills leaves nothing of `cloudflared`. -/
theorem silent_of_destroy {child : ι}
    (grouped : ∀ p, w.kin p = true → w.table.Running p → w.child = some (w.table.group p))
    (known : w.child = some child) : { w with table := w.table.destroy child }.Silent := by
  intro p kin running
  obtain ⟨before, other⟩ := ProcessTable.running_destroy.mp running
  have same := grouped p kin before
  rw [known] at same
  exact other (Option.some.inj same).symm

/-- A signal to a supervised group is not refused. -/
theorem strike_eq (supervised : Supervised w)
    (signal : ProcessTable ι ι → ι → ProcessTable ι ι) (sent refused : Phase) :
    ∃ child, w.child = some child ∧
      w.strike signal sent refused = { w with table := signal w.table child, phase := sent } := by
  obtain ⟨child, known, group, foreign⟩ := supervised
  refine ⟨child, known, ?_⟩
  simp only [World.strike, World.signalGroup, group, if_neg foreign]

omit [DecidableEq ι] in
/-- Looking at the child changes no process. -/
theorem contained_look {after : After} {otherwise : Phase} (contained : Contained w)
    (finishing : Supervised w) (goesOn : Stands { w with phase := otherwise }) :
    Contained (w.look after otherwise) := by
  unfold World.look
  split
  · exact ⟨contained.grouped, finishing⟩
  · exact ⟨contained.grouped, goesOn⟩

omit [DecidableEq ι] in
private theorem stands_next (after : After) (supervised : Supervised w) :
    Stands { w with phase := after.next } := by
  cases after with
  | shutDown => exact supervised
  | leave => exact supervised

/-- After `SIGKILL` to its group nothing of `cloudflared` runs. -/
theorem contained_destroy {sent refused : Phase} (contained : Contained w)
    (supervised : Supervised w)
    (stands : ∀ w : World ι, w.phase = sent → Supervised w → w.Silent → Stands w) :
    Contained (w.strike .destroy sent refused) := by
  obtain ⟨child, known, struck⟩ := strike_eq supervised .destroy sent refused
  rw [struck]
  refine ⟨fun p kin running => ?_, stands _ rfl supervised ?_⟩
  · exact contained.grouped p kin (ProcessTable.running_destroy.mp running).1
  · exact silent_of_destroy contained.grouped known

private theorem contained_proceed (contained : Contained w) (taken : w.proceed = some w') :
    Contained w' := by
  have stands := contained.stands
  unfold Stands at stands
  unfold World.proceed at taken
  split at taken
  case h_1 phase =>
    rw [phase] at stands
    obtain ⟨child, known, foreign⟩ := stands
    rw [known, Option.map_some] at taken
    cases taken
    rw [World.attach, if_neg foreign]
    exact ⟨contained.grouped, child, known, rfl, foreign⟩
  case h_2 phase =>
    rw [phase] at stands
    exact stands.elim
  case h_3 phase =>
    rw [phase] at stands
    cases taken
    exact ⟨contained.grouped, stands⟩
  case h_4 wake phase =>
    rw [phase] at stands
    split at taken <;> cases taken
    exact contained_look contained stands stands
  case h_5 phase =>
    rw [phase] at stands
    cases taken
    exact contained_look contained stands stands
  case h_6 after phase =>
    rw [phase] at stands
    cases taken
    refine contained_destroy contained stands fun w phase supervised silent => ?_
    rw [Stands, phase]
    exact ⟨supervised, silent⟩
  case h_7 after phase =>
    rw [phase] at stands
    cases taken
    exact ⟨contained.grouped, stands_next after stands.1⟩
  case h_8 phase =>
    rw [phase] at stands
    cases taken
    exact contained_look contained stands stands
  case h_9 phase =>
    rw [phase] at stands
    cases taken
    obtain ⟨child, _, struck⟩ := strike_eq stands .killpg
      (.waiting (w.now + childShutdownTimeout)) .dropping
    rw [struck]
    exact ⟨contained.grouped, stands, Nat.le_refl _⟩
  case h_10 phase =>
    rw [phase] at stands
    split at taken <;> cases taken
    exact ⟨contained.grouped, stands.1⟩
  case h_11 phase =>
    rw [phase] at stands
    split at taken <;> cases taken
    exact ⟨contained.grouped, stands.1⟩
  case h_12 phase =>
    rw [phase] at stands
    cases taken
    refine contained_destroy contained stands fun w phase supervised silent => ?_
    rw [Stands, phase]
    exact ⟨supervised, silent⟩
  case h_13 phase =>
    rw [phase] at stands
    cases taken
    refine contained_destroy contained stands fun w phase _ silent => ?_
    rw [Stands, phase]
    exact silent
  case h_14 | h_15 => cases taken

omit [DecidableEq ι] in
private theorem contained_fail (contained : Contained w) (last : w.phase ≠ .dropping)
    (taken : w.fail = some w') : Contained w' := by
  have stands := contained.stands
  unfold Stands at stands
  unfold World.fail at taken
  split at taken
  case h_1 phase | h_2 phase =>
    rw [phase] at stands
    cases taken
    exact ⟨contained.grouped, stands⟩
  case h_3 after phase =>
    rw [phase] at stands
    cases taken
    exact ⟨contained.grouped, stands_next after stands⟩
  case h_4 after phase =>
    rw [phase] at stands
    cases taken
    exact ⟨contained.grouped, stands_next after stands.1⟩
  case h_5 phase =>
    rw [phase] at stands
    exact stands.elim
  case h_6 phase | h_7 phase | h_8 phase | h_10 phase =>
    rw [phase] at stands
    cases taken
    exact ⟨contained.grouped, stands⟩
  case h_9 phase | h_11 phase =>
    rw [phase] at stands
    cases taken
    exact ⟨contained.grouped, stands.1⟩
  case h_12 phase => exact absurd phase last
  case h_13 | h_14 | h_15 => cases taken

theorem Contained.step (contained : Contained w) (loyal : Loyal w label)
    (taken : w.step label = some w') : Contained w' := by
  have stands := contained.stands
  unfold Stands at stands
  cases label with
  | tick | fork | regroup | exit | reuse => exact contained_moved contained loyal rfl taken
  | spawn child =>
    simp only [World.step, Option.ite_none_right_eq_some, Option.some.injEq] at taken
    obtain ⟨phase, rfl⟩ := taken
    rw [phase] at stands
    refine ⟨fun p kin running => ?_, child, rfl, loyal.1.2⟩
    by_cases same : p = child
    · subst same
      have leads : (w.table.start p p).group p = p := Function.update_self _ _ _
      exact congrArg some leads.symm
    · have none : w.kin p = true := (Function.update_of_ne same _ _).symm.trans kin
      rw [stands.2 p] at none
      cases none
  | spawnFails =>
    simp only [World.step, Option.ite_none_right_eq_some, Option.some.injEq] at taken
    obtain ⟨phase, rfl⟩ := taken
    rw [phase] at stands
    refine ⟨contained.grouped, fun p kin => ?_⟩
    have none : w.kin p = true := kin
    rw [stands.2 p] at none
    cases none
  | proceed => exact contained_proceed contained taken
  | fails => exact contained_fail contained (loyal.2.2 rfl) taken
  | cancel =>
    simp only [World.step, Option.ite_none_right_eq_some, Option.some.injEq] at taken
    obtain ⟨phase, rfl⟩ := taken
    rw [phase] at stands
    exact ⟨contained.grouped, stands⟩
  | expire =>
    simp only [World.step] at taken
    split at taken
    · rename_i deadline phase
      rw [phase] at stands
      split at taken <;> cases taken
      exact ⟨contained.grouped, stands.1⟩
    · cases taken

variable {table : ProcessTable ι ι} {own : ι}

private theorem contained_of_run (run : Run World.step Loyal (.start table own) labels w) :
    Contained w :=
  run.invariant Contained ⟨fun _ kin => (nomatch kin), ⟨rfl, fun _ => rfl⟩⟩
    fun _ _ _ contained loyal taken => contained.step loyal taken

/-! ### What the daemon touches -/

/-- What a step of the daemon does to its processes: it may signal those of the group that
it has noted, and it takes none for `cloudflared` that was not. -/
structure Handled (w w' : World ι) : Prop where
  own : w'.child = w.child ∧ w'.kin = w.kin
  noted : w'.group = w.group ∨ w'.group = w.child
  remembered : w.reaped = true → w'.reaped = true
  groups : w'.table.group = w.table.group
  present : ∀ p, w.table.status p ≠ .absent → w'.table.status p ≠ .absent
  running : ∀ p, w'.table.Running p → w.table.Running p
  reached : ∀ p, w'.table.signalled p = true →
    w.table.signalled p = true ∨ (w.table.Running p ∧ w.group = some (w.table.group p))

omit [DecidableEq ι] in
theorem Handled.goOn (phase : Phase) : Handled w { w with phase := phase } :=
  ⟨⟨rfl, rfl⟩, .inl rfl, id, rfl, fun _ => id, fun _ => id, fun _ => .inl⟩

omit [DecidableEq ι] in
theorem Handled.reap (phase : Phase) : Handled w { w with reaped := true, phase := phase } :=
  ⟨⟨rfl, rfl⟩, .inl rfl, fun _ => rfl, rfl, fun _ => id, fun _ => id, fun _ => .inl⟩

omit [DecidableEq ι] in
private theorem handled_look (after : After) (otherwise : Phase) :
    Handled w (w.look after otherwise) := by
  unfold World.look
  split
  · exact .reap _
  · exact .goOn _

/-- A signal reaches the running processes of the group. -/
theorem Handled.signal {group : ι} {phase : Phase} {signalled : ProcessTable ι ι}
    (noted : w.group = some group) (groups : signalled.group = w.table.group)
    (present : ∀ p, w.table.status p ≠ .absent → signalled.status p ≠ .absent)
    (running : ∀ p, signalled.Running p → w.table.Running p)
    (marks : signalled.signalled = (w.table.killpg group).signalled) :
    Handled w { w with table := signalled, phase := phase } := by
  refine ⟨⟨rfl, rfl⟩, .inl rfl, id, groups, present, running, fun p reached => ?_⟩
  have struck : (w.table.killpg group).signalled p = true := (congrFun marks p).symm.trans reached
  simp only [ProcessTable.killpg, Bool.or_eq_true, decide_eq_true_eq] at struck
  rcases struck with before | ⟨runs, same⟩
  · exact .inl before
  · exact .inr ⟨runs, noted.trans (congrArg some same.symm)⟩

/-- A signal goes to the group that the daemon has noted, or to none. -/
theorem strike_cases (w : World ι) (signal : ProcessTable ι ι → ι → ProcessTable ι ι)
    (sent refused : Phase) : (∃ group, w.group = some group ∧
      w.strike signal sent refused = { w with table := signal w.table group, phase := sent }) ∨
    w.strike signal sent refused = { w with phase := refused } := by
  rcases known : w.group with _ | group
  · exact .inr (by simp only [World.strike, World.signalGroup, known])
  · by_cases same : group = w.own
    · exact .inr (by simp only [World.strike, World.signalGroup, known, if_pos same])
    · exact .inl ⟨group, rfl, by simp only [World.strike, World.signalGroup, known, if_neg same]⟩

private theorem handled_killpg (sent refused : Phase) :
    Handled w (w.strike .killpg sent refused) := by
  rcases strike_cases w .killpg sent refused with ⟨group, noted, struck⟩ | struck
  · rw [struck]
    exact .signal noted rfl (fun _ => id) (fun _ => id) rfl
  · rw [struck]
    exact .goOn _

private theorem handled_destroy (sent refused : Phase) :
    Handled w (w.strike .destroy sent refused) := by
  rcases strike_cases w .destroy sent refused with ⟨group, noted, struck⟩ | struck
  · rw [struck]
    refine .signal noted rfl (fun p present => ?_)
      (fun p running => (ProcessTable.running_destroy.mp running).1) rfl
    dsimp only [ProcessTable.destroy]
    split
    · decide
    · exact present
  · rw [struck]
    exact .goOn _

private theorem handled_attach {child : ι} (known : w.child = some child) :
    Handled w (w.attach child) := by
  unfold World.attach
  split
  · refine ⟨⟨rfl, rfl⟩, .inl rfl, id, rfl, fun p present => ?_,
      fun p running => (ProcessTable.running_exit.mp running).2, fun _ => .inl⟩
    by_cases same : p = child
    · subst same
      exact fun absent => by cases (Function.update_self _ _ _).symm.trans absent
    · exact fun absent => present ((Function.update_of_ne same _ _).symm.trans absent)
  · exact ⟨⟨rfl, rfl⟩, .inr known.symm, id, rfl, fun _ => id, fun _ => id, fun _ => .inl⟩

private theorem handled_of_proceed (taken : w.proceed = some w') : Handled w w' := by
  unfold World.proceed at taken
  split at taken
  case h_1 =>
    obtain ⟨child, known, rfl⟩ := Option.map_eq_some_iff.mp taken
    exact handled_attach known
  case h_2 | h_10 | h_11 =>
    split at taken <;> cases taken
    exact .reap _
  case h_3 | h_7 =>
    cases taken
    exact .goOn _
  case h_4 =>
    split at taken <;> cases taken
    exact handled_look _ _
  case h_5 | h_8 =>
    cases taken
    exact handled_look _ _
  case h_6 | h_12 | h_13 =>
    cases taken
    exact handled_destroy _ _
  case h_9 =>
    cases taken
    exact handled_killpg _ _
  case h_14 | h_15 => cases taken

omit [DecidableEq ι] in
private theorem handled_of_fail (taken : w.fail = some w') : Handled w w' := by
  unfold World.fail at taken
  split at taken
  case h_13 | h_14 | h_15 => cases taken
  all_goals
    cases taken
    exact .goOn _

/-- The steps of the daemon, without the one that spawns `cloudflared`. -/
def Label.handles : Label ι → Bool
  | .spawnFails | .proceed | .fails | .cancel | .expire => true
  | .tick _ | .fork _ _ | .regroup _ _ | .exit _ | .reuse _ | .spawn _ => false

private theorem handled_of_step (handles : label.handles = true) (taken : w.step label = some w') :
    Handled w w' := by
  cases label with
  | proceed => exact handled_of_proceed taken
  | fails => exact handled_of_fail taken
  | spawnFails | cancel =>
    simp only [World.step, Option.ite_none_right_eq_some, Option.some.injEq] at taken
    obtain ⟨_, rfl⟩ := taken
    exact .goOn _
  | expire =>
    simp only [World.step] at taken
    split at taken
    · split at taken <;> cases taken
      exact .goOn _
    · cases taken
  | tick | fork | regroup | exit | reuse | spawn => cases handles

/-- A daemon that has let go does nothing more, and it lets go of nothing twice. -/
theorem dropped_of_step (taken : w.step label = some w') :
    (w.phase = .dropped → w'.phase = .dropped) ∧
      (w.phase = .dropping → w'.phase = .dropping ∨ w'.phase = .dropped) := by
  refine ⟨fun phase => ?_, fun phase => ?_⟩
  · cases label with
    | tick | fork | regroup | exit | reuse =>
      cases taken
      exact phase
    | proceed => simp [World.step, World.proceed, phase] at taken
    | fails => simp [World.step, World.fail, phase] at taken
    | spawn | spawnFails | cancel | expire => simp [World.step, phase] at taken
  · cases label with
    | tick | fork | regroup | exit | reuse =>
      cases taken
      exact .inl phase
    | proceed =>
      simp only [World.step, World.proceed, phase, Option.some.injEq] at taken
      subst taken
      unfold World.strike
      split <;> exact .inr rfl
    | fails =>
      simp only [World.step, World.fail, phase, Option.some.injEq] at taken
      exact .inr (congrArg World.phase taken.symm)
    | spawn | spawnFails | cancel | expire => simp [World.step, phase] at taken

/-! ### The child keeps its id -/

/-- Until a wait has returned, the id that the daemon knows is the one of `cloudflared`. -/
def Identified (w : World ι) : Prop :=
  ∀ child, w.child = some child → w.reaped = true ∨ w.phase = .dropping ∨ w.phase = .dropped ∨
    (w.kin child = true ∧ w.table.status child ≠ .absent)

theorem Identified.step (identified : Identified w) (kernel : Kernel w label)
    (taken : w.step label = some w') : Identified w' := by
  have late := dropped_of_step taken
  have moved : ∀ child, w'.reaped = w.reaped → w.child = some child → w'.phase = w.phase →
      (w.kin child = true ∧ w.table.status child ≠ .absent →
        w'.kin child = true ∧ w'.table.status child ≠ .absent) →
      w'.reaped = true ∨ w'.phase = .dropping ∨ w'.phase = .dropped ∨
        (w'.kin child = true ∧ w'.table.status child ≠ .absent) := by
    intro child reaped known phase stays
    rw [reaped, phase]
    rcases identified child known with reaped | dropping | dropped | here
    · exact .inl reaped
    · exact .inr (.inl dropping)
    · exact .inr (.inr (.inl dropped))
    · exact .inr (.inr (.inr (stays here)))
  intro child known
  cases label with
  | tick =>
    cases taken
    exact moved child rfl known rfl id
  | regroup =>
    cases taken
    exact moved child rfl known rfl id
  | fork parent process =>
    cases taken
    refine moved child rfl known rfl fun ⟨kin, present⟩ => ?_
    by_cases same : child = process
    · subst same
      exact absurd kernel.2.absent present
    · exact ⟨(Function.update_of_ne same _ _).trans kin,
        fun absent => present ((Function.update_of_ne same _ _).symm.trans absent)⟩
  | exit process =>
    cases taken
    refine moved child rfl known rfl fun ⟨kin, present⟩ => ⟨kin, fun absent => ?_⟩
    by_cases same : child = process
    · subst same
      cases (Function.update_self _ _ _).symm.trans absent
    · exact present ((Function.update_of_ne same _ _).symm.trans absent)
  | reuse process =>
    cases taken
    by_cases same : child = process
    · subst same
      rcases kernel.2.2 known with reaped | dropping | dropped
      · exact .inl reaped
      · exact .inr (.inl dropping)
      · exact .inr (.inr (.inl dropped))
    · exact moved child rfl known rfl fun ⟨kin, present⟩ =>
        ⟨(Function.update_of_ne same _ _).trans kin,
          fun absent => present ((Function.update_of_ne same _ _).symm.trans absent)⟩
  | spawn process =>
    simp only [World.step, Option.ite_none_right_eq_some, Option.some.injEq] at taken
    obtain ⟨_, rfl⟩ := taken
    cases known
    refine .inr (.inr (.inr ⟨Function.update_self _ _ _, fun absent => ?_⟩))
    cases (Function.update_self _ _ _).symm.trans absent
  | spawnFails | proceed | fails | cancel | expire =>
    have handled := handled_of_step rfl taken
    rcases identified child (handled.own.1.symm.trans known) with
      reaped | dropping | dropped | ⟨kin, present⟩
    · exact .inl (handled.remembered reaped)
    · rcases late.2 dropping with dropping | dropped
      · exact .inr (.inl dropping)
      · exact .inr (.inr (.inl dropped))
    · exact .inr (.inr (.inl (late.1 dropped)))
    · refine .inr (.inr (.inr ⟨?_, handled.present child present⟩))
      rw [handled.own.2]
      exact kin

private theorem identified_of_run (run : Run World.step Kernel (.start table own) labels w) :
    Identified w :=
  run.invariant Identified (fun _ known => nomatch known)
    fun _ _ _ identified kernel taken => identified.step kernel taken

/-! ### `shutdown` comes to an end -/

/-- What is known along every run. -/
structure Sound (w : World ι) : Prop where
  contained : Contained w
  identified : Identified w

theorem Sound.step (sound : Sound w) (loyal : Loyal w label) (taken : w.step label = some w') :
    Sound w' :=
  ⟨sound.contained.step loyal taken, sound.identified.step loyal.1 taken⟩

private theorem sound_of_run (run : Run World.step Loyal (.start table own) labels w) : Sound w :=
  ⟨contained_of_run run, identified_of_run (run.mono fun _ _ loyal => loyal.1)⟩

/-- The daemon acts and time passes, and `cloudflared` does not stir. A pipe is sure to be at
its end only when none of those who may hold it runs. -/
def Alone (w : World ι) (label : Label ι) : Prop :=
  Loyal w label ∧ ((∃ pause, label = .tick pause) ∨ label = .expire ∨
    (label = .proceed ∧ ∀ after, w.phase = .draining after → w.Silent))

/-- The time that passes in a step. -/
def Label.duration : Label ι → Nat
  | .tick pause => pause
  | .fork _ _ | .regroup _ _ | .exit _ | .reuse _ | .spawn _ | .spawnFails | .proceed | .fails
  | .cancel | .expire => 0

/-- The daemon can let go of `cloudflared` within this time, even if `cloudflared` does
nothing to end, and nothing of `cloudflared` runs then. -/
def Ends (w : World ι) (bound : Nat) : Prop :=
  ∃ more final, Run World.step Alone w more final ∧ final.phase = .dropped ∧ final.Silent ∧
    (more.map Label.duration).foldr Nat.add 0 ≤ bound

omit [DecidableEq ι] in
private theorem loyal_of_tick (w : World ι) (pause : Instant) : Loyal w (.tick pause) :=
  ⟨trivial, ⟨fun _ _ same => (nomatch same), fun same => (nomatch same)⟩⟩

omit [DecidableEq ι] in
private theorem loyal_of_expire (w : World ι) : Loyal w .expire :=
  ⟨trivial, ⟨fun _ _ same => (nomatch same), fun same => (nomatch same)⟩⟩

omit [DecidableEq ι] in
private theorem loyal_of_proceed (w : World ι) : Loyal w .proceed :=
  ⟨trivial, ⟨fun _ _ same => (nomatch same), fun same => (nomatch same)⟩⟩

omit [DecidableEq ι] in
/-- The pipes are at their end when the daemon waits for that. -/
theorem alone_of_proceed (contained : Contained w) : Alone w .proceed := by
  refine ⟨loyal_of_proceed w, .inr (.inr ⟨rfl, fun after phase => ?_⟩)⟩
  have stands := contained.stands
  rw [Stands, phase] at stands
  exact stands.2

variable {bound larger : Nat}

theorem Ends.mono (ends : Ends w bound) (le : bound ≤ larger) : Ends w larger := by
  obtain ⟨more, final, run, dropped, silent, within⟩ := ends
  exact ⟨more, final, run, dropped, silent, Nat.le_trans within le⟩

theorem Ends.tick {pause : Nat} (ends : Ends { w with now := w.now + pause } bound) :
    Ends w (pause + bound) := by
  obtain ⟨more, final, run, dropped, silent, within⟩ := ends
  refine ⟨.tick pause :: more, final, run.cons ⟨loyal_of_tick w pause, .inl ⟨pause, rfl⟩⟩ rfl,
    dropped, silent, ?_⟩
  simpa [Label.duration] using within

theorem Ends.proceed (sound : Sound w) (taken : w.proceed = some w')
    (ends : Sound w' → Ends w' bound) : Ends w bound := by
  have alone := alone_of_proceed sound.contained
  obtain ⟨more, final, run, dropped, silent, within⟩ := ends (sound.step alone.1 taken)
  exact ⟨.proceed :: more, final, run.cons alone taken, dropped, silent,
    by simpa [Label.duration] using within⟩

theorem Ends.expire (sound : Sound w) (taken : w.step .expire = some w')
    (ends : Sound w' → Ends w' bound) : Ends w bound := by
  have loyal := loyal_of_expire w
  obtain ⟨more, final, run, dropped, silent, within⟩ := ends (sound.step loyal taken)
  exact ⟨.expire :: more, final, run.cons ⟨loyal, .inr (.inl rfl)⟩ taken, dropped, silent,
    by simpa [Label.duration] using within⟩

private theorem ends_dropped (sound : Sound w) (phase : w.phase = .dropped) : Ends w 0 := by
  have stands := sound.contained.stands
  rw [Stands, phase] at stands
  exact ⟨[], w, .nil, phase, stands, Nat.le_refl _⟩

private theorem strike_phase (supervised : Supervised w)
    (signal : ProcessTable ι ι → ι → ProcessTable ι ι) (sent refused : Phase) :
    (w.strike signal sent refused).phase = sent := by
  obtain ⟨_, _, struck⟩ := strike_eq supervised signal sent refused
  rw [struck]

private theorem ends_dropping (sound : Sound w) (phase : w.phase = .dropping) : Ends w 0 := by
  have stands := sound.contained.stands
  rw [Stands, phase] at stands
  refine .proceed sound (by rw [World.proceed, phase]) fun after => ?_
  exact ends_dropped after (strike_phase stands _ _ _)

private theorem ends_draining (sound : Sound w) (phase : w.phase = .draining .leave) : Ends w 0 :=
  .proceed sound (by rw [World.proceed, phase]) fun after => ends_dropping after rfl

private theorem ends_finishing (sound : Sound w) (phase : w.phase = .finishing .leave) :
    Ends w 0 := by
  have stands := sound.contained.stands
  rw [Stands, phase] at stands
  refine .proceed sound (by rw [World.proceed, phase]) fun after => ?_
  exact ends_draining after (strike_phase stands _ _ _)

omit [DecidableEq ι] in
/-- Once nothing of `cloudflared` runs, a wait for it returns. -/
theorem gone_of_silent (identified : Identified w) (silent : w.Silent)
    (supervising : w.phase ≠ .dropping ∧ w.phase ≠ .dropped) : w.gone = true := by
  unfold World.gone
  rcases known : w.child with _ | child
  · simp
  · rcases identified child known with reaped | dropping | dropped | ⟨kin, _⟩
    · simp [reaped]
    · exact absurd dropping supervising.1
    · exact absurd dropped supervising.2
    · have dead : ¬ w.table.Running child := silent child kin
      simp [dead]

private theorem ends_reaping (sound : Sound w) (phase : w.phase = .reaping) : Ends w 0 := by
  have stands := sound.contained.stands
  rw [Stands, phase] at stands
  have gone : w.gone = true := gone_of_silent sound.identified stands.2 (by rw [phase]; decide)
  refine .proceed sound (by rw [World.proceed, phase]; exact if_pos gone) fun after => ?_
  exact ends_finishing after rfl

private theorem ends_killing (sound : Sound w) (phase : w.phase = .killing) : Ends w 0 := by
  have stands := sound.contained.stands
  rw [Stands, phase] at stands
  refine .proceed sound (by rw [World.proceed, phase]) fun after => ?_
  exact ends_reaping after (strike_phase stands _ _ _)

private theorem expire_eq {deadline : Instant} (phase : w.phase = .waiting deadline)
    (late : deadline ≤ w.now) :
    w.step .expire = some { w with phase := .killing } := by
  simp only [World.step, phase]
  exact if_pos late

/-- What is left of a wait. -/
theorem rest_of_wait {deadline now limit : Nat} (near : deadline ≤ now + limit) :
    deadline ≤ now + (deadline - now) ∧ deadline - now + 0 ≤ limit := by
  omega

/-- A child that does not end in time is killed. -/
theorem ends_waiting {deadline : Instant} (sound : Sound w) (phase : w.phase = .waiting deadline) :
    Ends w childShutdownTimeout := by
  have stands := sound.contained.stands
  rw [Stands, phase] at stands
  by_cases gone : w.gone = true
  · have ends : Ends w 0 := .proceed sound (by rw [World.proceed, phase]; exact if_pos gone)
      fun after => ends_finishing after rfl
    exact ends.mono (Nat.zero_le _)
  · obtain ⟨late, within⟩ := rest_of_wait stands.2
    refine Ends.mono (.tick (.expire (sound.step (loyal_of_tick w (deadline - w.now)) rfl)
      (expire_eq phase late) fun after => ends_killing after rfl)) within

private theorem ends_terminating (sound : Sound w) (phase : w.phase = .terminating) :
    Ends w childShutdownTimeout := by
  have stands := sound.contained.stands
  rw [Stands, phase] at stands
  refine .proceed sound (by rw [World.proceed, phase]) fun after => ?_
  exact ends_waiting after (strike_phase stands _ _ _)

private theorem ends_closing (sound : Sound w) (phase : w.phase = .closing) :
    Ends w childShutdownTimeout := by
  refine .proceed sound (by rw [World.proceed, phase]) fun after => ?_
  by_cases gone : w.gone = true
  · exact (ends_finishing after (by rw [World.look, if_pos gone])).mono (Nat.zero_le _)
  · exact ends_terminating after (by rw [World.look, if_neg gone])

/-- `run` goes on to `shutdown`, or has done with it. -/
theorem ends_next {after : After} (sound : Sound w) (phase : w.phase = after.next) :
    Ends w childShutdownTimeout := by
  cases after with
  | shutDown => exact ends_closing sound phase
  | leave => exact (ends_dropping sound phase).mono (Nat.zero_le _)

/-- `run` has begun to let go of `cloudflared`, or `cloudflared` has ended by itself. -/
def Phase.leaves : Phase → Bool
  | .finishing _ | .draining _ | .closing | .terminating | .waiting _ | .killing | .reaping
  | .dropping | .dropped => true
  | .unspawned | .attaching | .refusing | .piping | .stabilizing _ | .supervising => false

private theorem ends_leaves (sound : Sound w) (leaves : w.phase.leaves = true) :
    Ends w childShutdownTimeout := by
  have drains : ∀ {w : World ι} {after : After}, Sound w → w.phase = .draining after →
      Ends w childShutdownTimeout := fun sound phase =>
    .proceed sound (by rw [World.proceed, phase]) fun later => ends_next later rfl
  have stands := sound.contained.stands
  rw [Stands] at stands
  cases phase : w.phase with
  | finishing after =>
    rw [phase] at stands
    refine .proceed sound (by rw [World.proceed, phase]) fun later => ?_
    exact drains later (strike_phase stands _ _ _)
  | draining after => exact drains sound phase
  | closing => exact ends_closing sound phase
  | terminating => exact ends_terminating sound phase
  | waiting deadline => exact ends_waiting sound phase
  | killing => exact (ends_killing sound phase).mono (Nat.zero_le _)
  | reaping => exact (ends_reaping sound phase).mono (Nat.zero_le _)
  | dropping => exact (ends_dropping sound phase).mono (Nat.zero_le _)
  | dropped => exact (ends_dropped sound phase).mono (Nat.zero_le _)
  | unspawned | attaching | refusing | piping | stabilizing | supervising =>
    rw [phase] at leaves
    cases leaves

/-- **Nothing of `cloudflared` outlives the daemon.** Whatever `cloudflared` and its
processes do, none of them runs once `run` has let go of them; and `run` can let go of them
within `CHILD_SHUTDOWN_TIMEOUT` from the moment that it begins to, at every point in
between, even where `cloudflared` ignores `SIGTERM` and its children hold the pipes. -/
theorem cloudflared_never_outlives (run : Run World.step Loyal (.start table own) labels w) :
    (w.phase = .dropped → w.Silent) ∧
      (w.phase.leaves = true → Ends w childShutdownTimeout) := by
  have sound := sound_of_run run
  refine ⟨fun phase => ?_, ends_leaves sound⟩
  have stands := sound.contained.stands
  rwa [Stands, phase] at stands

/-- A `cloudflared` that ignores `SIGTERM`, with a child of its own. -/
def stubbornLabels : List (Label (Fin 4)) :=
  [.spawn 1, .proceed, .proceed, .tick cloudflaredStabilization, .proceed, .fork 1 2, .cancel,
    .proceed, .proceed]

/-- The daemon kills it, and its child. -/
def killingLabels : List (Label (Fin 4)) :=
  [.tick childShutdownTimeout, .expire, .proceed, .proceed, .proceed, .proceed, .proceed]

/-- The daemon and one more process. -/
def otherProcesses : ProcessTable (Fin 4) (Fin 4) where
  status p := if p = 0 ∨ p = 3 then .running else .absent
  group := id
  signalled _ := false

def stubbornWorld : World (Fin 4) :=
  (execute World.step (.start otherProcesses 0) stubbornLabels).get (by decide)

def killedWorld : World (Fin 4) :=
  (execute World.step (.start otherProcesses 0) (stubbornLabels ++ killingLabels)).get (by decide)

theorem stubborn_cloudflared_killed :
    stubbornWorld.table.Running 2 ∧ Ends stubbornWorld childShutdownTimeout ∧
      killedWorld.Silent := by
  have stubborn : Run World.step Loyal (.start otherProcesses 0) stubbornLabels stubbornWorld :=
    run_to_executeChecked (by decide)
  have killed : Run World.step Loyal (.start otherProcesses 0) (stubbornLabels ++ killingLabels)
      killedWorld := run_to_executeChecked (by decide)
  exact ⟨by decide, (cloudflared_never_outlives stubborn).2 (by decide),
    (cloudflared_never_outlives killed).1 (by decide)⟩

/-! ### Signals -/

/-- What runs in the group that the daemon signals is of `cloudflared`, and a signal has
reached nothing else. -/
structure Sole (w : World ι) : Prop where
  noted : w.group = none ∨ w.group = w.child
  alone : w.phase ≠ .dropped → ∀ p, w.table.Running p → w.child = some (w.table.group p) →
    w.kin p = true
  strangers : ∀ p, w.kin p = false → w.table.signalled p = false

/-- A daemon that has let go handles nothing. -/
theorem undropped_of_handles (handles : label.handles = true) (taken : w.step label = some w') :
    w.phase ≠ .dropped := by
  intro phase
  cases label with
  | proceed => simp [World.step, World.proceed, phase] at taken
  | fails => simp [World.step, World.fail, phase] at taken
  | spawnFails | cancel | expire => simp [World.step, phase] at taken
  | tick | fork | regroup | exit | reuse | spawn => cases handles

omit [DecidableEq ι] in
theorem Sole.handled (sole : Sole w) (handled : Handled w w') (open' : w.phase ≠ .dropped) :
    Sole w' := by
  obtain ⟨child, kin⟩ := handled.own
  refine ⟨?_, fun _ p running same => ?_, fun p stranger => ?_⟩
  · rw [child]
    rcases handled.noted with unchanged | noted
    · exact sole.noted.imp unchanged.trans unchanged.trans
    · exact .inr noted
  · rw [child, handled.groups] at same
    rw [kin]
    exact sole.alone open' p (handled.running p running) same
  · rw [kin] at stranger
    by_contra marked
    rcases handled.reached p (by simpa using marked) with before | ⟨running, grouped⟩
    · exact absurd (sole.strangers p stranger) (by simp [before])
    · have same : w.child = some (w.table.group p) := by
        rcases sole.noted with none | noted
        · rw [none] at grouped
          cases grouped
        · exact noted.symm.trans grouped
      exact absurd (sole.alone open' p running same) (by simp [stranger])

/-- A new process in the group of `cloudflared` has to be one of `cloudflared`. -/
theorem Sole.start {process group : ι} {related : Bool} (sole : Sole w)
    (belongs : w.phase ≠ .dropped → w.child = some group → related = true) :
    Sole { w with
      table := w.table.start process group, kin := Function.update w.kin process related } := by
  refine ⟨sole.noted, fun open' p running same => ?_, fun p stranger => ?_⟩
  · by_cases new : p = process
    · subst new
      have leads : (w.table.start p group).group p = group := Function.update_self _ _ _
      exact (Function.update_self _ _ _).trans (belongs open' (same.trans (congrArg some leads)))
    · have stays : (w.table.start process group).group p = w.table.group p :=
        Function.update_of_ne new _ _
      exact (Function.update_of_ne new _ _).trans (sole.alone open' p
        ((Function.update_of_ne new _ _).symm.trans running) (same.trans (congrArg some stays)))
  · by_cases new : p = process
    · subst new
      exact Function.update_self _ _ _
    · exact (Function.update_of_ne new _ _).trans
        (sole.strangers p ((Function.update_of_ne new _ _).symm.trans stranger))

theorem Sole.step (sole : Sole w) (unreused : Unreused w label) (taken : w.step label = some w') :
    Sole w' := by
  cases label with
  | tick =>
    cases taken
    exact ⟨sole.noted, sole.alone, sole.strangers⟩
  | fork parent process =>
    cases taken
    exact sole.start fun open' => sole.alone open' parent unreused.1.1
  | regroup process group =>
    cases taken
    refine ⟨sole.noted, fun open' p running same => ?_, sole.strangers⟩
    by_cases moved : p = process
    · subst moved
      have joined : (w.table.lead p group).group p = group := Function.update_self _ _ _
      by_contra stranger
      exact unreused.1.2 (by simpa using stranger) (same.trans (congrArg some joined))
    · have stays : (w.table.lead process group).group p = w.table.group p :=
        Function.update_of_ne moved _ _
      exact sole.alone open' p running (same.trans (congrArg some stays))
  | exit process =>
    cases taken
    refine ⟨sole.noted, fun open' p running same => ?_, sole.strangers⟩
    exact sole.alone open' p (ProcessTable.running_exit.mp running).2 same
  | reuse process =>
    cases taken
    exact sole.start fun open' known => absurd (unreused.2 process rfl known) open'
  | spawn child =>
    simp only [World.step, Option.ite_none_right_eq_some, Option.some.injEq] at taken
    obtain ⟨_, rfl⟩ := taken
    have fresh : Sole { w with
        child := some child, group := none, reaped := false, phase := .attaching } := by
      refine ⟨.inl rfl, fun _ p running same => ?_, sole.strangers⟩
      exact absurd (Option.some.inj same).symm (unreused.1.1.unused p running)
    exact fresh.start fun _ _ => rfl
  | spawnFails | proceed | fails | cancel | expire =>
    exact sole.handled (handled_of_step rfl taken) (undropped_of_handles rfl taken)

/-- **Only `cloudflared` is signalled.** As long as the id of `cloudflared` is not given to
another process under supervision, no `SIGTERM` or `SIGKILL` of the daemon reaches a process
that does not descend from `cloudflared`, whatever other groups that one joins. -/
theorem signals_stay_in_family (run : Run World.step Unreused (.start table own) labels w)
    (stranger : w.kin p = false) : w.table.signalled p = false := by
  have sole : Sole w := run.invariant Sole
    ⟨.inl rfl, fun _ _ _ known => (nomatch known), fun _ _ => rfl⟩
    fun _ _ _ sole unreused taken => sole.step unreused taken
  exact sole.strangers p stranger

theorem bystander_unsignalled : killedWorld.table.signalled 3 = false := by
  have killed : Run World.step Unreused (.start otherProcesses 0) (stubbornLabels ++ killingLabels)
      killedWorld := run_to_executeChecked (by decide)
  exact signals_stay_in_family killed (by decide)

/-- A process that was given the id of `cloudflared` between the wait and the signal is
killed in its place. -/
example : ((execute World.step (.start otherProcesses 0)
    [.spawn 1, .proceed, .proceed, .exit 1, .tick cloudflaredStabilization, .proceed,
      .reuse 1, .proceed]).map fun w : World (Fin 4) =>
        (w.kin 1, w.table.signalled 1)) = some (false, true) := by decide

end CfFw.TunnelProcess
