import Mathlib.Tactic.Common

/-! Programs that read an environment, change a state and may raise, and what can be
said of them: a condition before, a condition with the result, and a condition for
every state in which the program may raise. -/
namespace CfFw

/-- A program over environments `ρ` and states `σ` that raises errors `ε`. -/
def Program (ρ σ ε α : Type) : Type := ρ → σ → Except ε α × σ

namespace Program

variable {ρ σ ε α β : Type}

instance : Monad (Program ρ σ ε) where
  pure a := fun _ s => (.ok a, s)
  bind program next := fun env s =>
    match program env s with
    | (.ok a, s) => next a env s
    | (.error e, s) => (.error e, s)

def raise (error : ε) : Program ρ σ ε α := fun _ s => (.error error, s)

def ask (read : ρ → α) : Program ρ σ ε α := fun env s => (.ok (read env), s)

def get (read : σ → α) : Program ρ σ ε α := fun _ s => (.ok (read s), s)

def modify (change : σ → σ) : Program ρ σ ε Unit := fun _ s => (.ok (), change s)

/-- Runs the cleanup whether the program raises or not; an error of the cleanup comes
first. -/
def ensuring (program : Program ρ σ ε α) (cleanup : Program ρ σ ε Unit) : Program ρ σ ε α :=
  fun env s =>
    let (result, s) := program env s
    match cleanup env s with
    | (.ok (), s) => (result, s)
    | (.error e, s) => (.error e, s)

/-- Goes on after the errors that are handled. -/
def suppress (program : Program ρ σ ε Unit) (handled : ε → Bool) : Program ρ σ ε Unit :=
  fun env s =>
    match program env s with
    | (.ok (), s) => (.ok (), s)
    | (.error e, s) => if handled e then (.ok (), s) else (.error e, s)

/-- What holds where a program ends or raises. -/
def Ends (after : α → σ → Prop) (raised : ε → σ → Prop) : Except ε α × σ → Prop
  | (.ok a, s) => after a s
  | (.error e, s) => raised e s

/-- From every state with `before`, the program ends with `after` and its result, or
raises with `raised`. -/
structure Triple (env : ρ) (before : σ → Prop) (program : Program ρ σ ε α) (after : α → σ → Prop)
    (raised : ε → σ → Prop) : Prop where
  ends : ∀ s, before s → Ends after raised (program env s)

namespace Triple

variable {env : ρ} {before weaker : σ → Prop} {program : Program ρ σ ε α} {after : α → σ → Prop}
  {raised : ε → σ → Prop} {next : α → Program ρ σ ε β} {later : β → σ → Prop}
  {cleanup : Program ρ σ ε Unit} {change : σ → σ} {a : α} {error : ε} {s s' : σ}

theorem pure (holds : ∀ s, before s → after a s) :
    Triple env before (Pure.pure a : Program ρ σ ε α) after raised :=
  ⟨holds⟩

theorem bind (first : Triple env before program after raised)
    (second : ∀ a, Triple env (after a) (next a) later raised) :
    Triple env before (program >>= next) later raised := by
  refine ⟨fun s holds => ?_⟩
  have ran := first.ends s holds
  change Ends later raised (match program env s with
    | (.ok a, s) => next a env s
    | (.error e, s) => (.error e, s))
  generalize program env s = outcome at ran ⊢
  rcases outcome with ⟨e | a, s'⟩
  · exact ran
  · exact (second a).ends s' ran

theorem raise (holds : ∀ s, before s → raised error s) :
    Triple env before (Program.raise error : Program ρ σ ε α) after raised :=
  ⟨holds⟩

theorem ask {read : ρ → α} (holds : ∀ s, before s → after (read env) s) :
    Triple env before (Program.ask read) after raised :=
  ⟨holds⟩

theorem get {read : σ → α} (holds : ∀ s, before s → after (read s) s) :
    Triple env before (Program.get read : Program ρ σ ε α) after raised :=
  ⟨holds⟩

theorem modify {after : Unit → σ → Prop} (holds : ∀ s, before s → after () (change s)) :
    Triple env before (Program.modify change : Program ρ σ ε Unit) after raised :=
  ⟨holds⟩

/-! What comes after a primitive starts from what the primitive leaves. -/

theorem askBind {read : ρ → α} (rest : Triple env before (next (read env)) later raised) :
    Triple env before (Program.ask read >>= next) later raised :=
  ⟨rest.ends⟩

theorem getBind {read : σ → α}
    (rest : ∀ a, Triple env (fun s => before s ∧ read s = a) (next a) later raised) :
    Triple env before (Program.get read >>= next) later raised :=
  ⟨fun s holds => (rest (read s)).ends s ⟨holds, rfl⟩⟩

theorem modifyBind {middle : σ → Prop} {next : Unit → Program ρ σ ε β}
    (holds : ∀ s, before s → middle (change s))
    (rest : Triple env middle (next ()) later raised) :
    Triple env before (Program.modify change >>= next) later raised :=
  ⟨fun s given => rest.ends (change s) (holds s given)⟩

theorem strengthen (triple : Triple env weaker program after raised)
    (weakens : ∀ s, before s → weaker s) : Triple env before program after raised :=
  ⟨fun s holds => triple.ends s (weakens s holds)⟩

theorem weaken {result : α → σ → Prop} (triple : Triple env before program result raised)
    (implies : ∀ a s, result a s → after a s) : Triple env before program after raised := by
  refine ⟨fun s holds => ?_⟩
  have ran := triple.ends s holds
  generalize program env s = outcome at ran ⊢
  rcases outcome with ⟨e | a, s'⟩
  · exact ran
  · exact implies a s' ran

/-- A fact that the condition before implies may be used in the program. -/
theorem fact {given : Prop} (known : ∀ s, before s → given)
    (triple : given → Triple env before program after raised) :
    Triple env before program after raised :=
  ⟨fun s holds => (triple (known s holds)).ends s holds⟩

theorem ofAnd {given : Prop} (triple : given → Triple env before program after raised) :
    Triple env (fun s => before s ∧ given) program after raised :=
  ⟨fun s ⟨holds, known⟩ => (triple known).ends s holds⟩

theorem ofExists {ι : Type} {family : ι → σ → Prop}
    (triple : ∀ i, Triple env (family i) program after raised) :
    Triple env (fun s => ∃ i, family i s) program after raised :=
  ⟨fun s ⟨i, holds⟩ => (triple i).ends s holds⟩

theorem suppress {program : Program ρ σ ε Unit} {after : Unit → σ → Prop} {handled : ε → Bool}
    (triple : Triple env before program after fun e s =>
      if handled e then after () s else raised e s) :
    Triple env before (program.suppress handled) after raised := by
  refine ⟨fun s holds => ?_⟩
  have ran := triple.ends s holds
  unfold Program.suppress
  generalize program env s = outcome at ran ⊢
  rcases outcome with ⟨e | ⟨⟩, s'⟩
  · simp only [Ends] at ran ⊢
    split_ifs at ran ⊢ with caught
    · exact ran
    · exact ran
  · exact ran

/-- The cleanup starts from where the program ends or raises. -/
theorem ensuring {middle : α → σ → Prop} {failed : ε → σ → Prop}
    (body : Triple env before program middle failed)
    (ended : ∀ a, Triple env (middle a) cleanup (fun _ => after a) raised)
    (threw : ∀ e, Triple env (failed e) cleanup (fun _ => raised e) raised) :
    Triple env before (program.ensuring cleanup) after raised := by
  refine ⟨fun s holds => ?_⟩
  have ran := body.ends s holds
  unfold Program.ensuring
  generalize program env s = outcome at ran ⊢
  rcases outcome with ⟨e | a, s'⟩
  · have cleaned := (threw e).ends s' ran
    dsimp only
    generalize cleanup env s' = last at cleaned ⊢
    rcases last with ⟨f | ⟨⟩, s''⟩
    · exact cleaned
    · exact cleaned
  · have cleaned := (ended a).ends s' ran
    dsimp only
    generalize cleanup env s' = last at cleaned ⊢
    rcases last with ⟨f | ⟨⟩, s''⟩
    · exact cleaned
    · exact cleaned

/-- Where the program raises, what a triple says of raised states holds. -/
theorem of_error (triple : Triple env before program after raised) (holds : before s)
    (ran : program env s = (.error error, s')) : raised error s' := by
  have result := triple.ends s holds
  rw [ran] at result
  exact result

/-- A program that raises nowhere returns. -/
theorem returns (triple : Triple env before program after fun _ _ => False) (holds : before s) :
    ∃ a s', program env s = (.ok a, s') ∧ after a s' := by
  have result := triple.ends s holds
  generalize program env s = outcome at result ⊢
  rcases outcome with ⟨e | a, s'⟩
  · exact result.elim
  · exact ⟨a, s', rfl, result⟩

end Triple

/-! ### What returns -/

section
variable {env : ρ} {program : Program ρ σ ε α} {next : α → Program ρ σ ε β}
  {cleanup : Program ρ σ ε Unit} {a result : α} {b : β} {s s' : σ}

end

end Program

end CfFw
