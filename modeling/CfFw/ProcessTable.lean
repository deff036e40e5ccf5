import Mathlib.Logic.Function.Basic
import Mathlib.Tactic.Common

/-! Processes in process groups. A child starts in the group of its parent and may move
to another one; a signal to a group reaches the processes that are running in it. -/
namespace CfFw

inductive ProcessStatus where
  | absent
  | running
  | exited
  deriving DecidableEq

/-- The processes named by `ι`, in groups named by `γ`. -/
structure ProcessTable (ι γ : Type) where
  status : ι → ProcessStatus
  group : ι → γ
  signalled : ι → Bool

namespace ProcessTable

variable {ι γ : Type} {table : ProcessTable ι γ} {p q : ι} {g group : γ}

def Running (table : ProcessTable ι γ) (p : ι) : Prop := table.status p = .running

instance : DecidablePred table.Running :=
  fun p => inferInstanceAs (Decidable (table.status p = .running))

/-- Nothing runs. -/
def Quiet (table : ProcessTable ι γ) : Prop := ∀ p, ¬ table.Running p

/-- The process runs in the group, and no signal has reached it. -/
structure Untouched (table : ProcessTable ι γ) (p : ι) (g : γ) : Prop where
  running : table.Running p
  grouped : table.group p = g
  unsignalled : table.signalled p = false

/-! ### Signals -/

section
variable [DecidableEq γ]

def killpg (table : ProcessTable ι γ) (g : γ) : ProcessTable ι γ :=
  { table with
    signalled := fun p => table.signalled p || decide (table.Running p ∧ table.group p = g) }

theorem Quiet.killpg (quiet : table.Quiet) : (table.killpg g).Quiet := quiet

/-- `SIGKILL` to a group. -/
def destroy (table : ProcessTable ι γ) (g : γ) : ProcessTable ι γ :=
  { table.killpg g with
    status := fun p => if table.Running p ∧ table.group p = g then .exited else table.status p }

theorem running_destroy : (table.destroy g).Running p ↔ table.Running p ∧ table.group p ≠ g := by
  unfold Running destroy
  dsimp only
  by_cases struck : table.Running p ∧ table.group p = g
  · rw [if_pos struck]
    exact iff_of_false (by decide) fun stays => stays.2 struck.2
  · rw [if_neg struck]
    exact ⟨fun running => ⟨running, fun same => struck ⟨running, same⟩⟩, And.left⟩

/-- A signal to one group does not reach the processes of another. -/
theorem Untouched.killpg (untouched : table.Untouched p g) (other : g ≠ group) :
    (table.killpg group).Untouched p g := by
  refine ⟨untouched.running, untouched.grouped, ?_⟩
  unfold ProcessTable.killpg
  dsimp only
  rw [untouched.unsignalled, Bool.false_or, decide_eq_false_iff_not, untouched.grouped]
  exact fun reached => other reached.2

end

/-! ### Single processes -/

variable [DecidableEq ι]

def start (table : ProcessTable ι γ) (child : ι) (group : γ) : ProcessTable ι γ where
  status := Function.update table.status child .running
  group := Function.update table.group child group
  signalled := Function.update table.signalled child false

def fork (table : ProcessTable ι γ) (parent child : ι) : ProcessTable ι γ :=
  table.start child (table.group parent)

theorem running_start : (table.start q group).Running p ↔ p = q ∨ table.Running p := by
  unfold Running start
  dsimp only
  by_cases same : p = q
  · simp [same]
  · simp [same]

/-- `setsid` and `setpgid`. -/
def lead (table : ProcessTable ι γ) (p : ι) (g : γ) : ProcessTable ι γ :=
  { table with group := Function.update table.group p g }

def exit (table : ProcessTable ι γ) (p : ι) : ProcessTable ι γ :=
  { table with status := Function.update table.status p .exited }

theorem running_exit : (table.exit q).Running p ↔ p ≠ q ∧ table.Running p := by
  unfold Running exit
  dsimp only
  by_cases same : p = q
  · simp [same]
  · simp [same]

theorem Quiet.exit (quiet : table.Quiet) : (table.exit p).Quiet :=
  fun q running => quiet q (running_exit.mp running).2

theorem Untouched.exit (untouched : table.Untouched p g) (other : p ≠ q) :
    (table.exit q).Untouched p g :=
  ⟨running_exit.mpr ⟨other, untouched.running⟩, untouched.grouped, untouched.unsignalled⟩

theorem Untouched.lead (untouched : table.Untouched p g) (other : p ≠ q) :
    (table.lead q group).Untouched p g :=
  ⟨untouched.running, (Function.update_of_ne other _ _).trans untouched.grouped,
    untouched.unsignalled⟩

theorem Untouched.leadSelf (untouched : table.Untouched p g) : (table.lead p group).Untouched p group :=
  ⟨untouched.running, Function.update_self _ _ _, untouched.unsignalled⟩

theorem Untouched.start (untouched : table.Untouched p g) (other : p ≠ q) :
    (table.start q group).Untouched p g where
  running := (Function.update_of_ne other _ _).trans untouched.running
  grouped := (Function.update_of_ne other _ _).trans untouched.grouped
  unsignalled := (Function.update_of_ne other _ _).trans untouched.unsignalled

end ProcessTable

end CfFw
