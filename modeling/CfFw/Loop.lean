import Mathlib.Data.PFun

/-! Loops that only their body ends. `run` bounds the passes, so that a loop can be
evaluated; without the bound the loop is Mathlib's `PFun.fix`, and it never ends where no
bound is enough. -/
namespace CfFw.Loop

variable {σ α : Type*} {body : σ → α ⊕ σ} {s t : σ} {a b : α} {fuel other n : Nat}

/-- At most `fuel` passes. A pass leaves the loop with a result or goes on with a state. -/
def run (body : σ → α ⊕ σ) : Nat → σ → Option α
  | 0, _ => none
  | fuel + 1, s =>
    match body s with
    | .inl a => some a
    | .inr t => run body fuel t

/-- The state after `n` passes that all go on. -/
def after (body : σ → α ⊕ σ) : Nat → σ → Option σ
  | 0, s => some s
  | n + 1, s =>
    match body s with
    | .inl _ => none
    | .inr t => after body n t

theorem run_left (left : body s = .inl a) : run body (fuel + 1) s = some a := by
  rw [run, left]

theorem run_onward (onward : body s = .inr t) : run body (fuel + 1) s = run body fuel t := by
  rw [run, onward]

theorem after_onward (onward : body s = .inr t) : after body (n + 1) s = after body n t := by
  rw [after, onward]

/-- Passes that go on can be taken off the front of a run. -/
theorem run_after (passed : after body n s = some t) : run body (n + fuel) s = run body fuel t := by
  induction n generalizing s with
  | zero =>
    cases passed
    rw [Nat.zero_add]
  | succ n ih =>
    cases pass : body s with
    | inl a =>
      rw [after, pass] at passed
      cases passed
    | inr next =>
      rw [after_onward pass] at passed
      rw [Nat.succ_add, run_onward pass]
      exact ih passed

/-- A loop that has gone on for so many passes has not ended within them. -/
theorem run_eq_none (passed : after body n s = some t) : run body n s = none :=
  @run_after _ _ _ _ _ 0 _ passed

/-- What a bounded run ends with is what the loop ends with. -/
theorem mem_fix_iff_run :
    a ∈ PFun.fix (fun s => Part.some (body s)) s ↔ ∃ fuel, run body fuel s = some a := by
  constructor
  · intro ends
    refine @PFun.fixInduction' _ _ (fun s => ∃ fuel, run body fuel s = some a) _ _ _ ends
      (fun s left => ?_) fun s t _ onward rest => ?_
    · exact ⟨1, run_left (Part.mem_some_iff.mp left).symm⟩
    · obtain ⟨fuel, ran⟩ := rest
      exact ⟨fuel + 1, (run_onward (Part.mem_some_iff.mp onward).symm).trans ran⟩
  · rintro ⟨fuel, ran⟩
    induction fuel generalizing s with
    | zero => cases ran
    | succ fuel ih =>
      cases pass : body s with
      | inl result =>
        rw [run_left pass] at ran
        cases ran
        exact PFun.fix_stop (Part.mem_some_iff.mpr pass.symm)
      | inr next =>
        rw [run_onward pass] at ran
        exact PFun.mem_fix_iff.mpr (.inr ⟨next, Part.mem_some_iff.mpr pass.symm, ih ran⟩)

/-- A loop has one result, whatever bounds it. -/
theorem run_unique (ran : run body fuel s = some a) (again : run body other s = some b) : a = b :=
  Part.mem_unique (mem_fix_iff_run.mpr ⟨fuel, ran⟩) (mem_fix_iff_run.mpr ⟨other, again⟩)

/-! ### Invariants and variants -/

/-- What every pass keeps holds of the state in which the loop ends. -/
theorem run_invariant (holds : σ → Prop) (initial : holds s)
    (preserved : ∀ s t, holds s → body s = .inr t → holds t) (ran : run body fuel s = some a) :
    ∃ last, holds last ∧ body last = .inl a := by
  induction fuel generalizing s with
  | zero => cases ran
  | succ fuel ih =>
    cases pass : body s with
    | inl result =>
      rw [run_left pass] at ran
      cases ran
      exact ⟨s, initial, pass⟩
    | inr next =>
      rw [run_onward pass] at ran
      exact ih (preserved s next initial pass) ran

/-- A loop ends if something decreases in every pass that goes on. -/
theorem run_terminates (holds : σ → Prop) (variant : σ → Nat) (initial : holds s)
    (preserved : ∀ s t, holds s → body s = .inr t → holds t ∧ variant t < variant s)
    (enough : variant s < fuel) : ∃ a, run body fuel s = some a := by
  induction fuel generalizing s with
  | zero => exact absurd enough (Nat.not_lt_zero _)
  | succ fuel ih =>
    cases pass : body s with
    | inl result => exact ⟨result, run_left pass⟩
    | inr next =>
      obtain ⟨kept, less⟩ := preserved s next initial pass
      rw [run_onward pass]
      exact ih kept (Nat.lt_of_lt_of_le less (Nat.le_of_lt_succ enough))

end CfFw.Loop
