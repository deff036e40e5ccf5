import CfFw.Transition
import Mathlib.Order.Bounds.Basic

/-! Since when a property has held. Along a run, the property is looked at in the
states that count; a time is one the property has held from when it is the time
of such a state and the property holds in every one from there on. A stopwatch
reads the least of these times. -/
namespace CfFw.Transition

variable {σ ℓ τ : Type} {step : σ → ℓ → Option σ} {counts good : σ → Prop}
  {clock : σ → τ} {start state next : σ} {labels : List ℓ} {label : ℓ} {time : τ}

/-- The times of the states of a run from which on the property has held in every
state that counts. -/
def heldFrom (step : σ → ℓ → Option σ) (counts good : σ → Prop) (clock : σ → τ) (start : σ)
    (labels : List ℓ) : Set τ :=
  {time | ∃ before after first, labels = before ++ after ∧
    execute step start before = some first ∧ counts first ∧ clock first = time ∧
    ∀ more later, more <+: after → execute step first more = some later → counts later → good later}

/-! ### One more step -/

/-- Every split of a run with one more step splits before that step, or is all of it. -/
theorem mem_heldFrom_snoc (ran : execute step start labels = some state)
    (taken : step state label = some next) :
    time ∈ heldFrom step counts good clock start (labels ++ [label]) ↔
      (time ∈ heldFrom step counts good clock start labels ∧ (counts next → good next)) ∨
        (counts next ∧ good next ∧ clock next = time) := by
  have whole : execute step start (labels ++ [label]) = some next := by
    simp [execute_append, ran, execute, taken]
  constructor
  · rintro ⟨before, after, first, split, reached, seen, same, holds⟩
    rcases List.eq_nil_or_concat after with rfl | ⟨rest, last, rfl⟩
    · rw [List.append_nil] at split
      subst split
      obtain rfl := Option.some.inj (reached.symm.trans whole)
      exact .inr ⟨seen, holds [] first List.nil_prefix rfl seen, same⟩
    · rw [List.concat_eq_append] at split holds
      rw [← List.append_assoc] at split
      obtain ⟨rfl, one⟩ := List.append_inj' split rfl
      cases one
      refine .inl ⟨⟨before, rest, first, rfl, reached, seen, same, fun more later inside => ?_⟩, ?_⟩
      · exact holds more later (inside.trans (List.prefix_append rest [label]))
      · refine holds (rest ++ [label]) next List.prefix_rfl ?_
        rw [execute_append, reached, Option.bind_some] at ran
        simp [execute_append, ran, execute, taken]
  · rintro (⟨⟨before, after, first, rfl, reached, seen, same, holds⟩, last⟩ | ⟨seen, holds, same⟩)
    · refine ⟨before, after ++ [label], first, List.append_assoc .., reached, seen, same, ?_⟩
      intro more later inside ends
      rcases List.prefix_concat_iff.mp inside with rfl | earlier
      · rw [execute_append, reached, Option.bind_some] at ran
        obtain rfl : next = later := by
          simpa [execute_append, ran, execute, taken] using ends
        exact last
      · exact holds more later earlier ends
    · refine ⟨labels ++ [label], [], next, by simp, whole, seen, same, ?_⟩
      intro more later inside ends
      obtain rfl := List.prefix_nil.mp inside
      cases ends
      exact fun _ => holds

/-- A state that does not count changes nothing. -/
theorem heldFrom_uncounted (ran : execute step start labels = some state)
    (taken : step state label = some next) (uncounted : ¬ counts next) :
    heldFrom step counts good clock start (labels ++ [label]) =
      heldFrom step counts good clock start labels := by
  ext time
  simp [mem_heldFrom_snoc ran taken, uncounted]

/-- A state where the property fails leaves no time it has held from. -/
theorem heldFrom_broken (ran : execute step start labels = some state)
    (taken : step state label = some next) (seen : counts next) (broken : ¬ good next) :
    heldFrom step counts good clock start (labels ++ [label]) = ∅ := by
  ext time
  simp [mem_heldFrom_snoc ran taken, seen, broken]

/-- A state where the property holds adds its own time. -/
theorem heldFrom_kept (ran : execute step start labels = some state)
    (taken : step state label = some next) (seen : counts next) (holds : good next) :
    heldFrom step counts good clock start (labels ++ [label]) =
      insert (clock next) (heldFrom step counts good clock start labels) := by
  ext time
  simp [mem_heldFrom_snoc ran taken, seen, holds, or_comm, eq_comm]

theorem heldFrom_nil (seen : counts start) (holds : good start) :
    heldFrom step counts good clock start [] = {clock start} := by
  ext time
  constructor
  · rintro ⟨before, after, first, split, reached, _, same, _⟩
    obtain ⟨rfl, rfl⟩ := List.append_eq_nil_iff.mp split.symm
    cases reached
    exact same.symm
  · rintro rfl
    refine ⟨[], [], start, rfl, rfl, seen, rfl, fun more later inside ends _ => ?_⟩
    obtain rfl := List.prefix_nil.mp inside
    cases ends
    exact holds

/-! ### The stopwatch -/

variable [LinearOrder τ] {times : Set τ} {reading : Option τ} {now : τ}

/-- The reading of a stopwatch: the least of the times, and nothing when there
is none. -/
def Reads (times : Set τ) (reading : Option τ) : Prop :=
  match reading with
  | none => times = ∅
  | some time => IsLeast times time

/-- Starting a stopwatch that may be running already. -/
theorem Reads.insert (reads : Reads times reading) (past : ∀ time ∈ times, time ≤ now) :
    Reads (insert now times) (reading.or (some now)) := by
  cases reading with
  | none =>
    rw [show times = ∅ from reads, insert_empty_eq]
    exact isLeast_singleton
  | some time =>
    refine ⟨Set.mem_insert_of_mem _ reads.1, ?_⟩
    rintro other (rfl | old)
    · exact past time reads.1
    · exact reads.2 old

theorem Reads.eq_some_iff (reads : Reads times reading) :
    reading = some time ↔ IsLeast times time := by
  cases reading with
  | none =>
    rw [show times = ∅ from reads]
    simp [IsLeast]
  | some read =>
    rw [Option.some_inj]
    constructor
    · rintro rfl
      exact reads
    · exact fun least => reads.unique least

/-- What is measured against the reading is measured against any of the times. -/
theorem Reads.any_iff (reads : Reads times reading) {late : τ → Prop} [DecidablePred late]
    (earlier : ∀ first second, first ≤ second → late second → late first) :
    reading.any (fun time => decide (late time)) = true ↔ ∃ time ∈ times, late time := by
  cases reading with
  | none =>
    rw [show times = ∅ from reads]
    simp
  | some read =>
    rw [Option.any_some, decide_eq_true_eq]
    constructor
    · exact fun late => ⟨read, reads.1, late⟩
    · rintro ⟨time, member, late⟩
      exact earlier read time (reads.2 member) late

end CfFw.Transition
