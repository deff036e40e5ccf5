import CfFw.Transition
import Mathlib.Logic.Function.Basic

/-! Directories: who publishes which name for which place. No name and no place is
published twice, which a directory carries with it, so every state of one is sound. What a
directory holds is read off its history. -/
namespace CfFw

/-- What is published, with its place and its owner. -/
structure Directory (ν π ω : Type) where
  published : ν → Option (π × ω)
  apart : ∀ {first second : ν} {place : π} {owner other : ω},
    published first = some (place, owner) → published second = some (place, other) →
    first = second

namespace Directory
open Transition

variable {ν π ω : Type} {directory after : Directory ν π ω} {name other : ν} {place : π}
  {owner : ω}

/-- What may happen to a directory: a name is published, an owner withdraws all of its
names, or everything goes. -/
inductive Event (ν π ω : Type) where
  | publish (name : ν) (place : π) (owner : ω)
  | withdraw (owner : ω)
  | clear
  deriving DecidableEq

/-- The directory that holds nothing. -/
def empty : Directory ν π ω where
  published _ := none
  apart held := nomatch held

/-- Neither the name nor the place is taken. -/
structure Free (directory : Directory ν π ω) (name : ν) (place : π) : Prop where
  name : directory.published name = none
  place : ∀ other owner, directory.published other ≠ some (place, owner)

section Events

variable [DecidableEq ν] [DecidableEq ω]

/-- The directory with one name more. -/
def publish (directory : Directory ν π ω) (owner : ω) (free : directory.Free name place) :
    Directory ν π ω where
  published := Function.update directory.published name (some (place, owner))
  apart {first second found _ _} held alsoHeld := by
    by_cases here : first = name <;> by_cases there : second = name
    · rw [here, there]
    · rw [here, Function.update_self] at held
      rw [Function.update_of_ne there] at alsoHeld
      cases held
      exact absurd alsoHeld (free.place _ _)
    · rw [there, Function.update_self] at alsoHeld
      rw [Function.update_of_ne here] at held
      cases alsoHeld
      exact absurd held (free.place _ _)
    · rw [Function.update_of_ne here] at held
      rw [Function.update_of_ne there] at alsoHeld
      exact directory.apart held alsoHeld

/-- The directory without the names of an owner. -/
def withdraw (directory : Directory ν π ω) (owner : ω) : Directory ν π ω where
  published name := (directory.published name).filter fun held => held.2 ≠ owner
  apart held alsoHeld :=
    directory.apart (Option.filter_eq_some_iff.mp held).1 (Option.filter_eq_some_iff.mp alsoHeld).1

open Classical in
/-- What an event makes of a directory. Only a free name can be published, and only for a
free place. -/
noncomputable def step (directory : Directory ν π ω) : Event ν π ω → Option (Directory ν π ω)
  | .publish name place owner =>
    if free : directory.Free name place then some (directory.publish owner free) else none
  | .withdraw owner => some (directory.withdraw owner)
  | .clear => some empty

theorem step_publish (free : directory.Free name place) :
    directory.step (.publish name place owner) = some (directory.publish owner free) :=
  dif_pos free

omit [DecidableEq ω] in
theorem publish_published (free : directory.Free name place) :
    (directory.publish owner free).published other =
      if other = name then some (place, owner) else directory.published other :=
  Function.update_apply ..

omit [DecidableEq ν] in
theorem withdraw_published :
    (directory.withdraw owner).published name =
      (directory.published name).filter fun held => held.2 ≠ owner :=
  rfl

end Events

/-! ### What stands -/

/-- The event takes what the owner has published. -/
def Event.Ends (owner : ω) : Event ν π ω → Prop
  | .publish _ _ _ => False
  | .withdraw leaving => owner = leaving
  | .clear => True

/-- The name was published for the place by the owner, and nothing has taken it since. -/
def Stands (history : List (Event ν π ω)) (name : ν) (place : π) (owner : ω) : Prop :=
  ∃ before after, history = before ++ .publish name place owner :: after ∧
    ∀ event ∈ after, ¬ event.Ends owner

theorem not_stands_nil : ¬ Stands ([] : List (Event ν π ω)) name place owner := by
  rintro ⟨before, after, split, _⟩
  simp at split

theorem stands_snoc {history : List (Event ν π ω)} {event : Event ν π ω} :
    Stands (history ++ [event]) name place owner ↔
      event = .publish name place owner ∨ Stands history name place owner ∧ ¬ event.Ends owner := by
  constructor
  · rintro ⟨before, after, split, kept⟩
    rcases List.eq_nil_or_concat after with rfl | ⟨rest, last, rfl⟩
    · exact .inl (List.singleton_inj.mp (List.append_inj_right' split rfl))
    · rw [List.concat_eq_append, ← List.cons_append, ← List.append_assoc] at split
      obtain ⟨rfl, same⟩ := List.append_inj' split rfl
      obtain rfl := List.singleton_inj.mp same
      refine .inr ⟨⟨before, rest, rfl, fun other member => ?_⟩, ?_⟩
      · exact kept other (by simp [member])
      · exact kept event (by simp)
  · rintro (rfl | ⟨⟨before, after, rfl, kept⟩, stays⟩)
    · exact ⟨history, [], rfl, fun _ member => nomatch member⟩
    · refine ⟨before, after ++ [event], by simp, fun other member => ?_⟩
      rcases List.mem_append.mp member with earlier | last
      · exact kept other earlier
      · rwa [List.mem_singleton.mp last]

variable [DecidableEq ν] [DecidableEq ω]

/-- **Step lemma.** What is published afterwards is what the event publishes, and what was
published before and the event does not take. -/
theorem published_step {event : Event ν π ω} (taken : directory.step event = some after) :
    after.published name = some (place, owner) ↔
      event = .publish name place owner ∨
        directory.published name = some (place, owner) ∧ ¬ event.Ends owner := by
  cases event with
  | publish added spot publisher =>
    rw [step] at taken
    split at taken
    · rename_i free
      cases taken
      rw [publish_published]
      split
      · rename_i same
        subst same
        simp [free.name, Event.Ends]
      · rename_i different
        simp [Ne.symm different, Event.Ends]
    · cases taken
  | withdraw leaving =>
    cases taken
    simp only [withdraw_published, Option.filter_eq_some_iff, Event.Ends, reduceCtorEq, false_or,
      decide_eq_true_eq, ne_eq]
  | clear =>
    cases taken
    simp [empty, Event.Ends]

/-- **A directory is its history.** In every run from the empty directory, a name is
published for a place by an owner exactly if that stands. -/
theorem published_iff {history : List (Event ν π ω)}
    (run : Run step Unrestricted empty history directory) :
    directory.published name = some (place, owner) ↔ Stands history name place owner := by
  induction run with
  | nil => exact iff_of_false nofun not_stands_nil
  | snoc _ _ taken ih => rw [published_step taken, stands_snoc, ih]

end Directory

end CfFw
