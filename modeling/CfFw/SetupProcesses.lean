import CfFw.Error
import CfFw.ProcessTable
import CfFw.Transition
import Mathlib.Data.Fintype.Basic

/-! The processes of `fw start` while setup stops them. Setup signals the process group
of the client and waits for the client alone; the daemon has left that group with
`setsid`, its `cloudflared` has left the daemon's with `setpgid`, and both live by the
rules of the daemon. -/
namespace CfFw.SetupProcesses
open Transition

/-- `fw start`, the daemon that it spawns, and the two children of that daemon: the
validation of the configuration and the tunnel. A group is named after its leader. -/
inductive Process where
  | client
  | daemon
  | validator
  | cloudflared
  deriving DecidableEq

instance : Fintype Process :=
  ⟨{.client, .daemon, .validator, .cloudflared}, fun p => by cases p <;> decide⟩

inductive DaemonWork where
  | starting
  | serving
  | idle (since : Instant)
  | closing
  deriving DecidableEq

/-- Why `stop_processes` runs. -/
inductive Purpose where
  | success
  | rollback
  deriving DecidableEq

/-- Where setup stands. `waiting` is one of the two waits of `stop_processes`, `stopped` is
what comes after them, and `ended` a rollback that was interrupted. -/
inductive Phase where
  | working
  | polling (purpose : Purpose)
  | waiting (purpose : Purpose) (killed : Bool) (since : Instant)
  | stopped (purpose : Purpose)
  | passed
  | deleting
  | ended
  deriving DecidableEq

/-- Setup has let go of the client. -/
def Phase.hasStopped : Phase → Bool
  | .stopped _ | .passed | .deleting => true
  | _ => false

/-- `fwProcess` says whether setup has recorded the client, `registered` whether the client
has had its session. -/
structure World where
  now : Instant
  table : ProcessTable Process Process
  work : DaemonWork
  registered : Bool
  fwProcess : Bool
  phase : Phase

inductive Label where
  | tick (duration : Instant)
  | launch
  | record
  | raise
  | finish
  | poll
  | reap
  | timeout
  | proceed
  | spawnDaemon
  | leadDaemon
  | validate
  | spawnCloudflared
  | leadCloudflared
  | stabilize
  | register
  | disconnect
  | remoteStop
  | idleTimeout
  | shutDown
  | exit (process : Process)
  deriving DecidableEq

def terminateTimeout : Instant := 5000000000
def killTimeout : Instant := 2000000000

def World.start : World :=
  ⟨0, ⟨fun _ => .absent, id, fun _ => false⟩, .starting, false, false, .working⟩

namespace World

def letGo (w : World) (purpose : Purpose) : World :=
  { w with fwProcess := false, phase := .stopped purpose }

/-- `os.killpg` and the wait after it. -/
def signal (w : World) (purpose : Purpose) (killed : Bool) : World :=
  { w with table := w.table.killpg .client, phase := .waiting purpose killed w.now }

/-- An exception in `run` starts the rollback, one in the rollback ends it. -/
def raise (w : World) : Option World :=
  match w.phase with
  | .working | .polling .success | .waiting .success _ _ | .stopped .success =>
    some { w with phase := .polling .rollback }
  | .polling .rollback | .waiting .rollback _ _ | .stopped .rollback =>
    some { w with phase := .ended }
  | .passed | .deleting | .ended => none

/-- The steps of `stop_processes`, and what comes after it. -/
def stopStep (w : World) (label : Label) : Option World :=
  match label, w.phase with
  | .poll, .polling purpose =>
    if w.fwProcess = true ∧ w.table.Running .client then some (w.signal purpose false)
    else some (w.letGo purpose)
  | .reap, .waiting purpose _ _ =>
    if w.table.Running .client then none else some (w.letGo purpose)
  | .timeout, .waiting purpose false since =>
    if since + terminateTimeout ≤ w.now then some (w.signal purpose true) else none
  | .timeout, .waiting purpose true since =>
    if since + killTimeout ≤ w.now then some (w.letGo purpose) else none
  | .proceed, .stopped .success => some { w with phase := .passed }
  | .proceed, .stopped .rollback => some { w with phase := .deleting }
  | _, _ => none

/-- The process runs and does as it likes. -/
def Acts (w : World) (p : Process) : Prop := w.table.Running p ∧ w.table.signalled p = false

instance (w : World) (p : Process) : Decidable (w.Acts p) := inferInstanceAs (Decidable (_ ∧ _))

/-- The daemon past `setsid` and `exec`. -/
def DaemonActs (w : World) : Prop := w.Acts .daemon ∧ w.table.group .daemon = .daemon

instance (w : World) : Decidable w.DaemonActs := inferInstanceAs (Decidable (_ ∧ _))

/-- The steps of the processes. The client spawns one daemon at most. -/
def fwStep (w : World) : Label → Option World
  | .spawnDaemon =>
    if w.Acts .client ∧ w.registered = false ∧ w.table.status .daemon = .absent then
      some { w with table := w.table.fork .client .daemon }
    else none
  | .leadDaemon =>
    if w.Acts .daemon then some { w with table := w.table.lead .daemon .daemon } else none
  | .validate =>
    if w.DaemonActs ∧ w.work = .starting ∧ ¬ w.table.Running .validator then
      some { w with table := w.table.fork .daemon .validator }
    else none
  | .spawnCloudflared =>
    if w.DaemonActs ∧ w.work = .starting ∧ w.table.status .cloudflared = .absent then
      some { w with table := w.table.fork .daemon .cloudflared }
    else none
  | .leadCloudflared =>
    if w.Acts .cloudflared then
      some { w with table := w.table.lead .cloudflared .cloudflared }
    else none
  | .stabilize =>
    if w.DaemonActs ∧ w.work = .starting ∧ w.table.Running .cloudflared then
      some { w with work := .idle w.now }
    else none
  | .register =>
    match w.work with
    | .idle _ =>
      if w.Acts .client ∧ w.registered = false ∧ w.DaemonActs then
        some { w with work := .serving, registered := true }
      else none
    | _ => none
  -- The connection closes with the client.
  | .disconnect =>
    if w.work = .serving ∧ ¬ w.table.Running .client then some { w with work := .idle w.now }
    else none
  | .remoteStop => if w.work = .serving then some { w with work := .idle w.now } else none
  | .idleTimeout =>
    match w.work with
    | .idle since =>
      if since + daemonIdleTimeout ≤ w.now then some { w with work := .closing } else none
    | _ => none
  -- A kill request, a signal, an error or the end of `cloudflared`.
  | .shutDown => some { w with work := .closing }
  | .exit p => if w.table.Running p then some { w with table := w.table.exit p } else none
  | _ => none

def step (w : World) : Label → Option World
  | .tick duration => some { w with now := w.now + duration }
  | .launch =>
    if w.phase = .working ∧ w.table.status .client = .absent then
      some { w with table := w.table.start .client .client }
    else none
  | .record =>
    if w.phase = .working ∧ w.table.status .client ≠ .absent then some { w with fwProcess := true }
    else none
  | .finish =>
    if w.phase = .working ∧ w.fwProcess = true then some { w with phase := .polling .success }
    else none
  | .raise => w.raise
  | .poll => w.stopStep .poll
  | .reap => w.stopStep .reap
  | .timeout => w.stopStep .timeout
  | .proceed => w.stopStep .proceed
  | label => w.fwStep label

/-- The step with which `stop_processes` lets go of the client. -/
def LetsGo (w : World) (label : Label) : Bool :=
  match label, w.phase with
  | .poll, .polling _ => decide (¬ (w.fwProcess = true ∧ w.table.Running .client))
  | .reap, .waiting _ _ _ | .timeout, .waiting _ true _ => true
  | _, _ => false

end World

/-- A client that exits before it is signalled does so after everybody else, and one that
setup waits for after those that have left its group. Where `stop_processes` lets go of the
client, a client that was never recorded does not run, and whoever a signal has reached has
exited. -/
def Orderly (w : World) : Label → Prop
  | .exit .client =>
    match w.phase with
    | .working | .polling _ => ∀ p, p ≠ .client → ¬ w.table.Running p
    | .waiting _ _ _ => ∀ p, w.table.Running p → w.table.group p = .client
    | .stopped _ | .passed | .deleting | .ended => True
  | label => w.LetsGo label = true → (w.fwProcess = false → ¬ w.table.Running .client) ∧
      ∀ p, w.table.signalled p = true → ¬ w.table.Running p

instance (w : World) (label : Label) : Decidable (Orderly w label) := by
  unfold Orderly
  split
  · split <;> infer_instance
  · infer_instance

/-- Nothing but setup stops the daemon: no request, no signal and no failure. -/
def Undisturbed (w : World) : Label → Prop
  | .shutDown | .remoteStop => False
  | .exit p =>
    p = .client ∨ p = .validator ∨ w.table.signalled p = true ∨ w.work = .closing
  | _ => True

variable {w w' : World} {label : Label} {labels : List Label} {purpose : Purpose}

/-! ### Steps -/

namespace World

/-- A step of the processes leaves setup where it is, and takes a process that runs. -/
theorem fwStep_spec (taken : w.fwStep label = some w') :
    w'.phase = w.phase ∧ w'.now = w.now ∧ (w.table.Quiet → w'.table.Quiet) := by
  cases label with
  | spawnDaemon =>
    simp only [fwStep, Option.ite_none_right_eq_some, Option.some.injEq] at taken
    obtain ⟨⟨client, -⟩, rfl⟩ := taken
    exact ⟨rfl, rfl, fun quiet => absurd client.1 (quiet _)⟩
  | leadDaemon | leadCloudflared =>
    simp only [fwStep, Option.ite_none_right_eq_some, Option.some.injEq] at taken
    obtain ⟨-, rfl⟩ := taken
    exact ⟨rfl, rfl, id⟩
  | validate | spawnCloudflared | stabilize =>
    simp only [fwStep, Option.ite_none_right_eq_some, Option.some.injEq] at taken
    obtain ⟨⟨daemon, -⟩, rfl⟩ := taken
    exact ⟨rfl, rfl, fun quiet => absurd daemon.1.1 (quiet _)⟩
  | disconnect | remoteStop =>
    simp only [fwStep, Option.ite_none_right_eq_some, Option.some.injEq] at taken
    obtain ⟨-, rfl⟩ := taken
    exact ⟨rfl, rfl, id⟩
  | exit p =>
    simp only [fwStep, Option.ite_none_right_eq_some, Option.some.injEq] at taken
    obtain ⟨-, rfl⟩ := taken
    exact ⟨rfl, rfl, fun quiet => quiet.exit⟩
  | shutDown =>
    simp only [fwStep, Option.some.injEq] at taken
    rw [← taken]
    exact ⟨rfl, rfl, id⟩
  | register | idleTimeout =>
    simp only [fwStep] at taken
    split at taken
    · simp only [Option.ite_none_right_eq_some, Option.some.injEq] at taken
      obtain ⟨-, rfl⟩ := taken
      exact ⟨rfl, rfl, id⟩
    · cases taken
  | _ => cases taken

/-- What a step of `stop_processes` does: a signal to the client's group, or the end of the
wait, or the end of the routine. -/
theorem stopStep_spec (taken : w.stopStep label = some w') :
    w'.now = w.now ∧ ((∃ purpose killed, w' = w.signal purpose killed) ∨
      (∃ purpose, w' = w.letGo purpose) ∨ ∃ phase, w' = { w with phase := phase }) := by
  unfold stopStep at taken
  split at taken
  case h_1 =>
    split_ifs at taken <;> cases taken
    · exact ⟨rfl, .inl ⟨_, _, rfl⟩⟩
    · exact ⟨rfl, .inr (.inl ⟨_, rfl⟩)⟩
  case h_2 | h_4 =>
    split_ifs at taken
    cases taken
    exact ⟨rfl, .inr (.inl ⟨_, rfl⟩)⟩
  case h_3 =>
    split_ifs at taken
    cases taken
    exact ⟨rfl, .inl ⟨_, _, rfl⟩⟩
  case h_5 | h_6 =>
    cases taken
    exact ⟨rfl, .inr (.inr ⟨_, rfl⟩)⟩
  case h_7 => cases taken

/-- What the signals have reached. A client that was signalled has taken its group with it,
and a client that is gone has left only processes that were signalled. -/
structure Reached (table : ProcessTable Process Process) : Prop where
  own : table.status .client ≠ .absent → table.group .client = .client
  group : table.signalled .client = true → ∀ p, table.Running p → table.group p = .client →
    table.signalled p = true
  left : ¬ table.Running .client → ∀ p, table.Running p → table.signalled p = true

variable {table : ProcessTable Process Process} {p parent child : Process}

theorem Reached.launch : Reached (table.start .client .client) where
  own _ := by simp [ProcessTable.start]
  group signalled := by simp [ProcessTable.start] at signalled
  left gone := absurd (ProcessTable.running_start.mpr (.inl rfl)) gone

/-- A process that no signal has reached forks into its own group, and the client only into
the client's. -/
theorem Reached.fork (reached : Reached table) (running : table.Running parent)
    (spared : table.signalled parent = false) (other : child ≠ .client)
    (grouped : parent = .client ∨ table.group parent ≠ .client) :
    Reached (table.fork parent child) := by
  have client : table.Running .client := by
    by_contra gone
    rw [reached.left gone parent running] at spared
    cases spared
  refine ⟨?_, fun signalled p runs inside => ?_, fun gone => ?_⟩
  · simpa [ProcessTable.fork, ProcessTable.start, other.symm] using reached.own
  · have earlier : table.signalled .client = true := by
      simpa [ProcessTable.fork, ProcessTable.start, other.symm] using signalled
    have apart : table.group parent ≠ .client := by
      refine grouped.resolve_left ?_
      rintro rfl
      rw [earlier] at spared
      cases spared
    by_cases same : p = child
    · subst same
      exact absurd (by simpa [ProcessTable.fork, ProcessTable.start] using inside) apart
    · have before := (ProcessTable.running_start.mp runs).resolve_left same
      have known := reached.group earlier p before
        (by simpa [ProcessTable.fork, ProcessTable.start, same] using inside)
      simpa [ProcessTable.fork, ProcessTable.start, same] using known
  · exact absurd (ProcessTable.running_start.mpr (.inr client)) gone

/-- `setsid` and `setpgid` of a daemon or of `cloudflared`. -/
theorem Reached.lead (reached : Reached table) (other : p ≠ .client) :
    Reached (table.lead p p) where
  own present := by simpa [ProcessTable.lead, other.symm] using reached.own present
  group signalled q running inside := by
    by_cases same : q = p
    · subst same
      exact absurd (by simpa [ProcessTable.lead] using inside) other
    · exact reached.group signalled q running (by simpa [ProcessTable.lead, same] using inside)
  left := reached.left

theorem Reached.exit (reached : Reached table) (running : table.Running p)
    (last : p = .client → ∀ q, q ≠ .client → table.Running q → table.signalled q = true) :
    Reached (table.exit p) where
  own present := by
    apply reached.own
    by_cases same : p = .client
    · subst same
      rw [show table.status .client = .running from running]
      decide
    · simpa [ProcessTable.exit, Ne.symm same] using present
  group signalled q runs := reached.group signalled q (ProcessTable.running_exit.mp runs).2
  left gone q runs := by
    obtain ⟨other, before⟩ := ProcessTable.running_exit.mp runs
    by_cases same : p = .client
    · subst same
      exact last rfl q other before
    · refine reached.left (fun client => gone ?_) q before
      exact ProcessTable.running_exit.mpr ⟨Ne.symm same, client⟩

/-- A signal to the client's group reaches everybody in it. -/
theorem Reached.killpg (reached : Reached table) : Reached (table.killpg .client) where
  own := reached.own
  group _ p running inside := by
    have member : table.Running p ∧ table.group p = .client := ⟨running, inside⟩
    simp [ProcessTable.killpg, member]
  left gone p running := by simp [ProcessTable.killpg, reached.left gone p running]

private theorem raise_spec (taken : w.raise = some w') :
    ∃ phase, w' = { w with phase := phase } ∧ phase.hasStopped = false ∧
      ∀ purpose killed since, phase ≠ .waiting purpose killed since := by
  unfold raise at taken
  split at taken <;> cases taken <;> exact ⟨_, rfl, rfl, nofun⟩

/-- What a run keeps: the account of the signals, a client that is waited for has had one,
and once setup has let go of it nothing runs. -/
structure Tracked (w : World) : Prop where
  table : Reached w.table
  waiting : ∀ purpose killed since, w.phase = .waiting purpose killed since →
    w.table.Running .client → w.table.signalled .client = true
  stopped : w.phase.hasStopped = true → w.table.Quiet

/-- A step that leaves setup where it is. -/
theorem Tracked.moved (tracked : w.Tracked) (reached : Reached w'.table)
    (phase : w'.phase = w.phase)
    (client : w'.table.Running .client → w.table.Running .client ∧
      w'.table.signalled .client = w.table.signalled .client)
    (quiet : w.table.Quiet → w'.table.Quiet) : w'.Tracked where
  table := reached
  waiting purpose killed since waits running := by
    rw [phase] at waits
    obtain ⟨before, same⟩ := client running
    rw [same]
    exact tracked.waiting purpose killed since waits before
  stopped late := quiet (tracked.stopped (phase ▸ late))

theorem Tracked.fwStep (tracked : w.Tracked) (goes : w.phase ≠ .ended)
    (orderly : Orderly w label) (taken : w.fwStep label = some w') : w'.Tracked := by
  have spec := fwStep_spec taken
  cases label with
  | spawnDaemon =>
    simp only [World.fwStep, Option.ite_none_right_eq_some, Option.some.injEq] at taken
    obtain ⟨⟨client, -⟩, rfl⟩ := taken
    refine tracked.moved (tracked.table.fork client.1 client.2 (by decide) (.inl rfl)) rfl ?_
      spec.2.2
    exact fun _ => ⟨client.1, by simp [ProcessTable.fork, ProcessTable.start]⟩
  | validate | spawnCloudflared =>
    simp only [World.fwStep, Option.ite_none_right_eq_some, Option.some.injEq] at taken
    obtain ⟨⟨⟨daemon, grouped⟩, -⟩, rfl⟩ := taken
    refine tracked.moved (tracked.table.fork daemon.1 daemon.2 (by decide) (.inr ?_)) rfl ?_
      spec.2.2
    · rw [grouped]
      decide
    · intro running
      exact ⟨(ProcessTable.running_start.mp running).resolve_left (by decide),
        by simp [ProcessTable.fork, ProcessTable.start]⟩
  | leadDaemon | leadCloudflared =>
    simp only [World.fwStep, Option.ite_none_right_eq_some, Option.some.injEq] at taken
    obtain ⟨-, rfl⟩ := taken
    exact tracked.moved (tracked.table.lead (by decide)) rfl (fun running => ⟨running, rfl⟩)
      spec.2.2
  | exit p =>
    simp only [World.fwStep, Option.ite_none_right_eq_some, Option.some.injEq] at taken
    obtain ⟨running, rfl⟩ := taken
    refine tracked.moved (tracked.table.exit running ?_) rfl ?_ spec.2.2
    · rintro rfl q other runs
      -- Before the signal nobody else runs, and after it those who do are in the group.
      simp only [Orderly] at orderly
      split at orderly
      · exact absurd runs (orderly q other)
      · exact absurd runs (orderly q other)
      · rename_i purpose killed since phase
        have signalled := tracked.waiting purpose killed since phase running
        exact tracked.table.group signalled q runs (orderly q runs)
      · rename_i phase
        exact absurd runs (tracked.stopped (by rw [phase]; rfl) q)
      · rename_i phase
        exact absurd runs (tracked.stopped (by rw [phase]; rfl) q)
      · rename_i phase
        exact absurd runs (tracked.stopped (by rw [phase]; rfl) q)
      · exact absurd ‹_› goes
    · exact fun still => ⟨(ProcessTable.running_exit.mp still).2, rfl⟩
  | stabilize | disconnect | remoteStop =>
    simp only [World.fwStep, Option.ite_none_right_eq_some, Option.some.injEq] at taken
    obtain ⟨-, rfl⟩ := taken
    exact { tracked with }
  | shutDown =>
    simp only [World.fwStep, Option.some.injEq] at taken
    subst taken
    exact { tracked with }
  | register | idleTimeout =>
    simp only [World.fwStep] at taken
    split at taken
    · simp only [Option.ite_none_right_eq_some, Option.some.injEq] at taken
      obtain ⟨-, rfl⟩ := taken
      exact { tracked with }
    · cases taken
  | _ => cases taken

/-- A signal to the group of the client. -/
theorem Tracked.signal (tracked : w.Tracked) (purpose : Purpose) (killed : Bool) :
    (w.signal purpose killed).Tracked where
  table := tracked.table.killpg
  waiting _ _ _ _ running := by
    have present : w.table.status .client ≠ .absent := by
      rw [show w.table.status .client = .running from running]
      decide
    have member : w.table.Running .client ∧ w.table.group .client = .client :=
      ⟨running, tracked.table.own present⟩
    simp [World.signal, ProcessTable.killpg, member]
  stopped := nofun

/-- Where `stop_processes` lets go of a client that is gone, everybody else was in its
group when the signal came. -/
theorem Tracked.letGo (tracked : w.Tracked) (purpose : Purpose)
    (gone : ¬ w.table.Running .client)
    (reached : ∀ p, w.table.signalled p = true → ¬ w.table.Running p) :
    (w.letGo purpose).Tracked where
  table := tracked.table
  waiting := nofun
  stopped _ p running := reached p (tracked.table.left gone p running) running

theorem Tracked.stopStep (tracked : w.Tracked)
    (orderly : w.LetsGo label = true → (w.fwProcess = false → ¬ w.table.Running .client) ∧
      ∀ p, w.table.signalled p = true → ¬ w.table.Running p)
    (taken : w.stopStep label = some w') : w'.Tracked := by
  unfold World.stopStep at taken
  split at taken
  case h_1 purpose phase =>
    split_ifs at taken with waits
    · cases taken
      exact tracked.signal _ _
    · cases taken
      obtain ⟨unrecorded, reached⟩ := orderly (by simpa only [LetsGo, phase, decide_eq_true_eq])
      refine tracked.letGo _ (fun running => ?_) reached
      cases recorded : w.fwProcess with
      | true => exact waits ⟨recorded, running⟩
      | false => exact unrecorded recorded running
  case h_2 purpose killed since phase =>
    split_ifs at taken with running
    cases taken
    exact tracked.letGo _ running (orderly (by simp only [LetsGo, phase])).2
  case h_3 purpose since phase =>
    split_ifs at taken
    cases taken
    exact tracked.signal _ _
  case h_4 purpose since phase =>
    split_ifs at taken
    cases taken
    obtain ⟨-, reached⟩ := orderly (by simp only [LetsGo, phase])
    -- A client that outlives the second wait was signalled, so it has exited.
    refine tracked.letGo _ (fun running => ?_) reached
    exact reached .client (tracked.waiting _ _ _ phase running) running
  case h_5 phase =>
    cases taken
    exact ⟨tracked.table, nofun, fun _ => tracked.stopped (by rw [phase]; rfl)⟩
  case h_6 phase =>
    cases taken
    exact ⟨tracked.table, nofun, fun _ => tracked.stopped (by rw [phase]; rfl)⟩
  case h_7 => cases taken

theorem Tracked.step (tracked : w.Tracked) (goes : w.phase ≠ .ended) (orderly : Orderly w label)
    (taken : w.step label = some w') : w'.Tracked := by
  unfold World.step at taken
  split at taken
  case h_1 =>
    cases taken
    exact { tracked with }
  case h_2 =>
    split_ifs at taken with guard
    cases taken
    refine ⟨.launch, ?_, ?_⟩
    · rintro purpose killed since waits
      rw [guard.1] at waits
      cases waits
    · intro late
      rw [guard.1] at late
      cases late
  case h_3 =>
    split_ifs at taken
    cases taken
    exact { tracked with }
  case h_4 =>
    split_ifs at taken
    cases taken
    exact ⟨tracked.table, nofun, nofun⟩
  case h_5 =>
    obtain ⟨phase, rfl, early, idle⟩ := raise_spec taken
    refine ⟨tracked.table, fun _ _ _ waits => absurd waits (idle _ _ _), fun late => ?_⟩
    rw [early] at late
    cases late
  case h_6 | h_7 | h_8 | h_9 => exact tracked.stopStep orderly taken
  case h_10 => exact tracked.fwStep goes orderly taken

/-- An interrupted rollback is the end of setup. -/
theorem ended_step (ended : w.phase = .ended) (taken : w.step label = some w') :
    w'.phase = .ended := by
  unfold World.step at taken
  split at taken
  case h_1 =>
    cases taken
    exact ended
  case h_2 | h_3 | h_4 => simp [ended] at taken
  case h_5 => simp [raise, ended] at taken
  case h_6 | h_7 | h_8 | h_9 => simp [World.stopStep, ended] at taken
  case h_10 => exact (fwStep_spec taken).1.trans ended

end World

/-- **Nothing runs behind setup.** In every run whose steps meet the condition, no process
of `fw start` runs when setup issues its first request of a rollback and when it is past
`stop_processes` on success. -/
theorem processes_stopped (run : Run World.step Orderly .start labels w)
    (stopped : w.phase = .deleting ∨ w.phase = .passed) (p : Process) : ¬ w.table.Running p := by
  have tracked : w.phase = .ended ∨ w.Tracked := by
    refine run.invariant (fun w : World => w.phase = .ended ∨ w.Tracked)
      (.inr ⟨⟨nofun, nofun, nofun⟩, nofun, nofun⟩) ?_
    rintro state label after (ended | tracked) orderly taken
    · exact .inl (World.ended_step ended taken)
    · by_cases ended : state.phase = .ended
      · exact .inl (World.ended_step ended taken)
      · exact .inr (tracked.step ended orderly taken)
  rcases stopped with phase | phase
  · exact (tracked.resolve_left (by rw [phase]; decide)).stopped (by rw [phase]; rfl) p
  · exact (tracked.resolve_left (by rw [phase]; decide)).stopped (by rw [phase]; rfl) p

/-! ### What the daemon does -/

/-- The daemon serves the client, and the tunnel is up. -/
structure Forwarding (w : World) : Prop where
  daemon : w.table.Untouched .daemon .daemon
  cloudflared : w.table.Untouched .cloudflared .cloudflared
  serving : w.work = .serving

/-- The daemon serves, or is idle since the given time or a later one. -/
structure Up (since : Instant) (w : World) : Prop where
  daemon : w.table.Untouched .daemon .daemon
  cloudflared : w.table.Untouched .cloudflared .cloudflared
  work : w.work = .serving ∨ ∃ later, w.work = .idle later ∧ since ≤ later

variable {since : Instant}

theorem Up.not_starting (up : Up since w) : w.work ≠ .starting := by
  rcases up.work with serving | ⟨_, idle, -⟩
  · rw [serving]
    decide
  · rw [idle]
    exact DaemonWork.noConfusion

theorem Up.not_closing (up : Up since w) : w.work ≠ .closing := by
  rcases up.work with serving | ⟨_, idle, -⟩
  · rw [serving]
    decide
  · rw [idle]
    exact DaemonWork.noConfusion

theorem Up.fwStep (up : Up since w) (past : since ≤ w.now)
    (early : w.now < since + daemonIdleTimeout) (undisturbed : Undisturbed w label)
    (taken : w.fwStep label = some w') : Up since w' := by
  cases label with
  | spawnDaemon =>
    simp only [World.fwStep, Option.ite_none_right_eq_some] at taken
    obtain ⟨⟨-, -, absent⟩, -⟩ := taken
    rw [up.daemon.running] at absent
    cases absent
  | leadDaemon =>
    simp only [World.fwStep, Option.ite_none_right_eq_some, Option.some.injEq] at taken
    obtain ⟨-, rfl⟩ := taken
    exact ⟨up.daemon.leadSelf, up.cloudflared.lead (by decide), up.work⟩
  | leadCloudflared =>
    simp only [World.fwStep, Option.ite_none_right_eq_some, Option.some.injEq] at taken
    obtain ⟨-, rfl⟩ := taken
    exact ⟨up.daemon.lead (by decide), up.cloudflared.leadSelf, up.work⟩
  | validate | spawnCloudflared | stabilize =>
    simp only [World.fwStep, Option.ite_none_right_eq_some] at taken
    exact absurd taken.1.2.1 up.not_starting
  | register =>
    simp only [World.fwStep] at taken
    split at taken
    · simp only [Option.ite_none_right_eq_some, Option.some.injEq] at taken
      obtain ⟨-, rfl⟩ := taken
      exact ⟨up.daemon, up.cloudflared, .inl rfl⟩
    · cases taken
  | disconnect =>
    simp only [World.fwStep, Option.ite_none_right_eq_some, Option.some.injEq] at taken
    obtain ⟨-, rfl⟩ := taken
    exact ⟨up.daemon, up.cloudflared, .inr ⟨w.now, rfl, past⟩⟩
  | remoteStop | shutDown => exact undisturbed.elim
  | idleTimeout =>
    simp only [World.fwStep] at taken
    split at taken
    case h_1 later idle =>
      simp only [Option.ite_none_right_eq_some] at taken
      rcases up.work with serving | ⟨later', idle', after⟩
      · rw [serving] at idle
        cases idle
      · rw [idle'] at idle
        cases idle
        have expired : later + daemonIdleTimeout ≤ w.now := taken.1
        have sooner := Nat.add_le_add_right after daemonIdleTimeout
        exact absurd early (Nat.not_lt.mpr (Nat.le_trans sooner expired))
    case h_2 => cases taken
  | exit p =>
    simp only [World.fwStep, Option.ite_none_right_eq_some, Option.some.injEq] at taken
    obtain ⟨-, rfl⟩ := taken
    have spared : ∀ q g, w.table.Untouched q g → q ≠ .client → q ≠ .validator → q ≠ p := by
      rintro q g untouched client validator rfl
      rcases undisturbed with same | same | signalled | closing
      · exact client same
      · exact validator same
      · rw [untouched.unsignalled] at signalled
        cases signalled
      · exact up.not_closing closing
    exact ⟨up.daemon.exit (spared _ _ up.daemon (by decide) (by decide)),
      up.cloudflared.exit (spared _ _ up.cloudflared (by decide) (by decide)), up.work⟩
  | _ => cases taken

theorem Up.stopStep (up : Up since w) (taken : w.stopStep label = some w') : Up since w' := by
  obtain ⟨-, ⟨purpose, killed, rfl⟩ | ⟨purpose, rfl⟩ | ⟨phase, rfl⟩⟩ := World.stopStep_spec taken
  · exact ⟨up.daemon.killpg (by decide), up.cloudflared.killpg (by decide), up.work⟩
  · exact { up with }
  · exact { up with }

theorem Up.step (up : Up since w) (past : since ≤ w.now)
    (early : w.now < since + daemonIdleTimeout) (undisturbed : Undisturbed w label)
    (taken : w.step label = some w') : Up since w' := by
  unfold World.step at taken
  split at taken
  case h_1 =>
    cases taken
    exact { up with }
  case h_2 =>
    split_ifs at taken
    cases taken
    exact ⟨up.daemon.start (by decide), up.cloudflared.start (by decide), up.work⟩
  case h_3 | h_4 =>
    split_ifs at taken
    cases taken
    exact { up with }
  case h_5 =>
    obtain ⟨phase, rfl, -⟩ := World.raise_spec taken
    exact { up with }
  case h_6 | h_7 | h_8 | h_9 => exact up.stopStep taken
  case h_10 => exact up.fwStep past early undisturbed taken

theorem World.now_step (taken : w.step label = some w') : w.now ≤ w'.now := by
  unfold World.step at taken
  split at taken
  case h_1 =>
    cases taken
    exact Nat.le_add_right _ _
  case h_2 | h_3 | h_4 =>
    split_ifs at taken
    cases taken
    exact Nat.le_refl _
  case h_5 =>
    obtain ⟨_, rfl, -⟩ := World.raise_spec taken
    exact Nat.le_refl _
  case h_6 | h_7 | h_8 | h_9 =>
    exact Nat.le_of_eq (World.stopStep_spec taken).1.symm
  case h_10 => exact Nat.le_of_eq (World.fwStep_spec taken).2.1.symm

/-- **The daemon outlives its client.** While it is left alone, a daemon that serves the
client runs for as long as its idle timeout, and so does `cloudflared`, whatever setup
does to the client in the meantime. -/
theorem daemon_outlives_client (forwarding : Forwarding w)
    (run : Run World.step Undisturbed w labels w') (soon : w'.now < w.now + daemonIdleTimeout) :
    w'.table.Running .daemon ∧ w'.table.Running .cloudflared := by
  have kept : w.now ≤ w'.now ∧ (w'.now < w.now + daemonIdleTimeout → Up w.now w') := by
    refine run.invariant
      (fun state => w.now ≤ state.now ∧ (state.now < w.now + daemonIdleTimeout → Up w.now state))
      ⟨Nat.le_refl _, fun _ => ⟨forwarding.daemon, forwarding.cloudflared, .inl forwarding.serving⟩⟩ ?_
    intro state label after ⟨past, up⟩ undisturbed taken
    have later := World.now_step taken
    refine ⟨Nat.le_trans past later, fun early => ?_⟩
    have earlier := Nat.lt_of_le_of_lt later early
    exact (up earlier).step past earlier undisturbed taken
  exact ⟨(kept.2 soon).daemon.running, (kept.2 soon).cloudflared.running⟩

/-! ### Single runs -/

/-- Setup launches the client, and the client is forwarding. -/
def launched : List Label :=
  [.launch, .record, .spawnDaemon, .leadDaemon, .validate, .exit .validator, .spawnCloudflared,
    .leadCloudflared, .stabilize, .register]

/-- Setup gives up before the daemon has come to `setsid`, so that its signal reaches both. -/
def earlyFailure : List Label :=
  [.launch, .record, .spawnDaemon, .raise, .poll, .exit .daemon, .exit .client, .reap, .proceed]

def earlyFailureEnd : Option World :=
  executeChecked World.step (fun w label => decide (Orderly w label)) .start earlyFailure

theorem early_failure_stopped : ∃ w, earlyFailureEnd = some w ∧ w.phase = .deleting ∧
    ∀ p, ¬ w.table.Running p := by
  have ended : (earlyFailureEnd.get (by decide)).phase = .deleting := by decide
  have run : Run World.step Orderly .start earlyFailure (earlyFailureEnd.get (by decide)) :=
    run_of_executeChecked (fun _ _ => of_decide_eq_true) (Option.some_get _).symm
  exact ⟨_, (Option.some_get (by decide)).symm, ended, processes_stopped run (.inl ended)⟩

/-- Setup signals the client, which exits at once; the daemon and `cloudflared` run on when
setup is past `stop_processes`, and when it issues the first request of its rollback. -/
theorem daemon_runs_on :
    (∃ w, Run World.step Unrestricted .start
        (launched ++ [.finish, .poll, .exit .client, .reap, .proceed]) w ∧
      w.phase = .passed ∧ w.table.Running .daemon ∧ w.table.Running .cloudflared) ∧
    ∃ w, Run World.step Unrestricted .start
        (launched ++ [.raise, .poll, .exit .client, .reap, .proceed]) w ∧
      w.phase = .deleting ∧ w.table.Running .daemon ∧ w.table.Running .cloudflared :=
  ⟨⟨_, run_to_execute (by decide), by decide, by decide, by decide⟩,
    ⟨_, run_to_execute (by decide), by decide, by decide, by decide⟩⟩

end CfFw.SetupProcesses
