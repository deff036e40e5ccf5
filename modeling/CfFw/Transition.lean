import Mathlib.Data.List.Basic

/-! Runs of a partial labelled step function, and the two induction rules that
every run argument uses: a state invariant, and an invariant that may also read
the labels taken so far. A run carries the condition `allowed` its steps meet,
so an assumption about the environment is a property of the run and not of the
step function. -/
namespace CfFw.Transition

variable {σ ℓ : Type} {step : σ → ℓ → Option σ} {allowed stronger : σ → ℓ → Prop}
  {start middle finish next : σ} {labels more : List ℓ} {label : ℓ}

/-- No condition on the steps of a run. -/
def Unrestricted : σ → ℓ → Prop := fun _ _ => True

/-- `Run step allowed start labels finish`: the labels can be taken in this
order, and `allowed` holds of each of them in the state it is taken from. -/
inductive Run (step : σ → ℓ → Option σ) (allowed : σ → ℓ → Prop) (start : σ) :
    List ℓ → σ → Prop where
  | nil : Run step allowed start [] start
  | snoc {labels : List ℓ} {middle next : σ} {label : ℓ} :
      Run step allowed start labels middle → allowed middle label →
      step middle label = some next → Run step allowed start (labels ++ [label]) next

namespace Run

theorem one (permitted : allowed start label) (taken : step start label = some next) :
    Run step allowed start [label] next := by
  simpa using Run.snoc Run.nil permitted taken

theorem append (first : Run step allowed start labels middle)
    (second : Run step allowed middle more finish) :
    Run step allowed start (labels ++ more) finish := by
  induction second with
  | nil => simpa using first
  | snoc _ permitted taken ih =>
    rw [← List.append_assoc]
    exact .snoc ih permitted taken

/-- A run with a step in front of it. -/
theorem cons (permitted : allowed start label) (taken : step start label = some middle)
    (rest : Run step allowed middle labels finish) :
    Run step allowed start (label :: labels) finish := by
  simpa using (one permitted taken).append rest

/-- Weakening the condition on the steps. -/
theorem mono (weaker : ∀ state label, stronger state label → allowed state label)
    (run : Run step stronger start labels finish) : Run step allowed start labels finish := by
  induction run with
  | nil => exact .nil
  | snoc _ permitted taken ih => exact .snoc ih (weaker _ _ permitted) taken

/-- **Invariant rule.** What holds initially and is kept by every allowed step
holds at the end of every run. -/
theorem invariant (holds : σ → Prop) (run : Run step allowed start labels finish)
    (initial : holds start)
    (preserved : ∀ state label after, holds state → allowed state label →
      step state label = some after → holds after) : holds finish := by
  induction run with
  | nil => exact initial
  | snoc _ permitted taken ih => exact preserved _ _ _ ih permitted taken

/-- **Invariant rule along a run.** A step may use what is known of every state that
the run has reached so far. -/
theorem invariantAlong (holds : σ → Prop) (run : Run step allowed start labels finish)
    (initial : holds start)
    (preserved : ∀ past state label after, Run step allowed start past state → holds state →
      allowed state label → step state label = some after → holds after) : holds finish := by
  induction run with
  | nil => exact initial
  | snoc prior permitted taken ih => exact preserved _ _ _ _ prior ih permitted taken

/-- **Invariant rule with history.** The invariant may read the labels taken
so far. -/
theorem historyInvariant (holds : List ℓ → σ → Prop) (run : Run step allowed start labels finish)
    (initial : holds [] start)
    (preserved : ∀ past state label after, holds past state → allowed state label →
      step state label = some after → holds (past ++ [label]) after) : holds labels finish := by
  induction run with
  | nil => exact initial
  | snoc _ permitted taken ih => exact preserved _ _ _ _ ih permitted taken

/-- A condition that follows from an invariant over the past holds of every
step, so the run is a run under that condition too. -/
theorem strengthen (holds : List ℓ → σ → Prop) (run : Run step allowed start labels finish)
    (initial : holds [] start)
    (preserved : ∀ past state label after, holds past state → allowed state label →
      step state label = some after → holds (past ++ [label]) after)
    (implies : ∀ past rest state label, labels = past ++ label :: rest → holds past state →
      allowed state label → stronger state label) : Run step stronger start labels finish := by
  induction run with
  | nil => exact .nil
  | @snoc prior before after last run permitted taken ih =>
    have kept := run.historyInvariant holds initial preserved
    refine .snoc (ih fun past rest state label split => ?_)
      (implies prior [] before last rfl kept permitted) taken
    exact implies past (rest ++ [last]) state label (by simp [split])

/-- A run of a concatenation passes through a state between its two parts. -/
theorem split (run : Run step allowed start (labels ++ more) finish) :
    ∃ middle, Run step allowed start labels middle ∧ Run step allowed middle more finish := by
  generalize whole : labels ++ more = all at run
  induction run generalizing more with
  | nil =>
    obtain ⟨rfl, rfl⟩ := List.append_eq_nil_iff.mp whole
    exact ⟨_, .nil, .nil⟩
  | @snoc past before after last prior permitted taken ih =>
    rcases List.eq_nil_or_concat more with rfl | ⟨rest, final, rfl⟩
    · rw [List.append_nil] at whole
      subst whole
      exact ⟨_, .snoc prior permitted taken, .nil⟩
    · simp only [List.concat_eq_append, ← List.append_assoc] at whole
      obtain ⟨rfl, same⟩ := List.append_inj' whole rfl
      obtain rfl : final = last := by simpa using same
      obtain ⟨middle, first, second⟩ := ih rfl
      exact ⟨middle, first, by simpa using Run.snoc second permitted taken⟩

end Run

/-- Takes the labels in order, as long as each is enabled. -/
def execute (step : σ → ℓ → Option σ) : σ → List ℓ → Option σ
  | state, [] => some state
  | state, label :: rest => (step state label).bind (execute step · rest)

/-- A successful execution is a run. -/
theorem run_of_execute (ran : execute step start labels = some finish) :
    Run step Unrestricted start labels finish := by
  induction labels generalizing start with
  | nil =>
    obtain rfl : start = finish := by simpa [execute] using ran
    exact .nil
  | cons label rest ih =>
    obtain ⟨next, taken, ran⟩ := Option.bind_eq_some_iff.mp ran
    exact .cons trivial taken (ih ran)

theorem execute_append : execute step start (labels ++ more) =
    (execute step start labels).bind (execute step · more) := by
  induction labels generalizing start with
  | nil => rfl
  | cons label rest ih => simp only [List.cons_append, execute, ih, Option.bind_assoc]

/-- A run is what executing its labels yields. -/
theorem Run.execute_eq (run : Run step allowed start labels finish) :
    execute step start labels = some finish := by
  induction run with
  | nil => rfl
  | snoc _ _ taken ih => simp [execute_append, ih, execute, taken]

/-- Two runs with the same labels end in the same state. -/
theorem Run.unique {other : σ} (run : Run step allowed start labels finish)
    (same : Run step stronger start labels other) : finish = other :=
  Option.some.inj (run.execute_eq.symm.trans same.execute_eq)

/-- A condition on the steps of a whole run holds in both of its parts. -/
theorem Run.parts (whole : Run step stronger start (labels ++ more) finish)
    (first : Run step allowed start labels middle) :
    Run step stronger start labels middle ∧ Run step stronger middle more finish := by
  obtain ⟨between, before, after⟩ := whole.split
  obtain rfl := before.unique first
  exact ⟨before, after⟩

/-- A run of one step is that step. -/
theorem Run.of_one (run : Run step allowed start [label] finish) :
    allowed start label ∧ step start label = some finish := by
  generalize whole : [label] = labels at run
  cases run with
  | nil => cases whole
  | snoc before permitted taken =>
    obtain ⟨rfl, same⟩ := List.append_inj' (show [] ++ [label] = _ from whole) rfl
    cases same
    obtain rfl := Option.some.inj before.execute_eq
    exact ⟨permitted, taken⟩

theorem run_to_execute (enabled : (execute step start labels).isSome = true) :
    Run step Unrestricted start labels ((execute step start labels).get enabled) :=
  run_of_execute (Option.some_get enabled).symm

/-- Takes the labels in order, checking the condition on each step. -/
def executeChecked (step : σ → ℓ → Option σ) (check : σ → ℓ → Bool) : σ → List ℓ → Option σ
  | state, [] => some state
  | state, label :: rest =>
    if check state label then (step state label).bind (executeChecked step check · rest) else none

/-- A successful checked execution is a run under what the check decides. -/
theorem run_of_executeChecked {check : σ → ℓ → Bool}
    (sound : ∀ state label, check state label = true → allowed state label)
    (ran : executeChecked step check start labels = some finish) :
    Run step allowed start labels finish := by
  induction labels generalizing start with
  | nil =>
    obtain rfl : start = finish := by simpa [executeChecked] using ran
    exact .nil
  | cons label rest ih =>
    rw [executeChecked] at ran
    split at ran
    · rename_i checked
      obtain ⟨next, taken, ran⟩ := Option.bind_eq_some_iff.mp ran
      exact .cons (sound _ _ checked) taken (ih ran)
    · cases ran

/-- What a checked execution ends with is what executing the labels ends with. -/
theorem execute_of_executeChecked {check : σ → ℓ → Bool}
    (ran : executeChecked step check start labels = some finish) :
    execute step start labels = some finish :=
  (@run_of_executeChecked _ _ _ Unrestricted _ _ _ _ (fun _ _ _ => trivial) ran).execute_eq

/-- Labels that can be executed, each of them under the condition, make a run under it. -/
theorem run_to_executeChecked [∀ state label, Decidable (allowed state label)]
    {enabled : (execute step start labels).isSome = true}
    (checked : (executeChecked step (fun state label => decide (allowed state label))
      start labels).isSome = true) :
    Run step allowed start labels ((execute step start labels).get enabled) := by
  obtain ⟨finish, ran⟩ := Option.isSome_iff_exists.mp checked
  have same : (execute step start labels).get enabled = finish :=
    Option.get_of_eq_some enabled (execute_of_executeChecked ran)
  rw [same]
  exact run_of_executeChecked (fun _ _ => of_decide_eq_true) ran

/-! ### Simulation -/

section Simulation

variable {τ μ : Type} {spec : τ → μ → Option τ} {event : σ → ℓ → Option μ} {shows : σ → τ → Prop}
  {abstract : τ}

/-- What a run amounts to: the events of those of its steps that have one. -/
def history (step : σ → ℓ → Option σ) (event : σ → ℓ → Option μ) : σ → List ℓ → List μ
  | _, [] => []
  | state, label :: rest =>
    (event state label).toList ++ (step state label).elim [] (history step event · rest)

/-- A step with an event is a step of the specification with that event, and one without
leaves what the specification sees as it was. -/
structure Simulates (step : σ → ℓ → Option σ) (allowed : σ → ℓ → Prop) (spec : τ → μ → Option τ)
    (event : σ → ℓ → Option μ) (shows : σ → τ → Prop) : Prop where
  silent : ∀ state label next abstract, shows state abstract → allowed state label →
    step state label = some next → event state label = none → shows next abstract
  visible : ∀ state label next abstract seen, shows state abstract → allowed state label →
    step state label = some next → event state label = some seen →
    ∃ after, spec abstract seen = some after ∧ shows next after

theorem history_append (ran : execute step start labels = some middle) :
    history step event start (labels ++ more) =
      history step event start labels ++ history step event middle more := by
  induction labels generalizing start with
  | nil =>
    obtain rfl : start = middle := by simpa [execute] using ran
    rfl
  | cons label rest ih =>
    obtain ⟨next, taken, ran⟩ := Option.bind_eq_some_iff.mp ran
    simp only [List.cons_append, history, taken, Option.elim_some, ih ran, List.append_assoc]

theorem history_snoc (ran : execute step start labels = some middle) :
    history step event start (labels ++ [label]) =
      history step event start labels ++ (event middle label).toList := by
  rw [history_append ran, history]
  cases step middle label <;> simp [history]

/-- **Simulation rule.** The events of a run are a run of the specification, and the run ends
in a state that shows where that one ends. -/
theorem Run.simulate (simulates : Simulates step allowed spec event shows)
    (run : Run step allowed start labels finish) (initial : shows start abstract) :
    ∃ final, Run spec Unrestricted abstract (history step event start labels) final ∧
      shows finish final := by
  induction run with
  | nil => exact ⟨abstract, .nil, initial⟩
  | @snoc labels middle next label before permitted taken ih =>
    obtain ⟨between, run, shown⟩ := ih
    rw [history_snoc before.execute_eq]
    cases seen : event middle label with
    | none =>
      refine ⟨between, ?_, simulates.silent _ _ _ _ shown permitted taken seen⟩
      rwa [Option.toList_none, List.append_nil]
    | some what =>
      obtain ⟨after, stepped, shown⟩ := simulates.visible _ _ _ _ _ shown permitted taken seen
      exact ⟨after, .snoc run trivial stepped, shown⟩

end Simulation

end CfFw.Transition
