import Mathlib.Data.List.Basic
import Mathlib.Data.List.TakeWhile

/-! Writing that can be undone, with no reader in sight. A writer is delimited by some
stop symbols when what it wrote and what comes after it can be told apart as soon as a
stop symbol follows; such writers compose, and whole texts then determine their values.
Symbols and values are arbitrary. -/
namespace CfFw.Unambiguous

variable {α β σ : Type} {stop : σ → Prop} {write : α → List σ}

/-- What follows begins with a stop symbol. -/
def Stops (stop : σ → Prop) (rest : List σ) : Prop := ∃ c tail, rest = c :: tail ∧ stop c

/-- The text of a value ends where the first stop symbol after it begins, and no two values
have the same text there. -/
def Delimited (stop : σ → Prop) (write : α → List σ) : Prop :=
  ∀ a b rest rest', Stops stop rest → Stops stop rest' → write a ++ rest = write b ++ rest' →
    a = b ∧ rest = rest'

theorem stops_cons {c : σ} {tail : List σ} (stops : stop c) : Stops stop (c :: tail) :=
  ⟨c, tail, rfl, stops⟩

theorem Stops.append {text : List σ} (stops : Stops stop text) (rest : List σ) :
    Stops stop (text ++ rest) := by
  obtain ⟨c, tail, rfl, holds⟩ := stops
  exact stops_cons holds

namespace Delimited

/-- Delimited writers have different texts for different values. -/
theorem injective (delimited : Delimited stop write) {c : σ} (stops : stop c) :
    Function.Injective write := by
  intro a b same
  exact (delimited a b [c] [c] (stops_cons stops) (stops_cons stops) (by rw [same])).1

/-- A value that is written through another one that it can be told from. -/
theorem comap {f : β → α} (delimited : Delimited stop write) (injective : Function.Injective f) :
    Delimited stop fun b => write (f b) := by
  intro a b rest rest' stops stops' same
  obtain ⟨values, left⟩ := delimited _ _ _ _ stops stops' same
  exact ⟨injective values, left⟩

/-- A fixed text in front. -/
theorem after (text : List σ) (delimited : Delimited stop write) :
    Delimited stop fun a => text ++ write a := by
  intro a b rest rest' stops stops' same
  rw [List.append_assoc, List.append_assoc] at same
  exact delimited a b rest rest' stops stops' (List.append_cancel_left same)

/-- A fixed text behind, once it begins with a stop symbol. What follows it is free then. -/
theorem before {text : List σ} (delimited : Delimited stop write) (stops : Stops stop text)
    (other : σ → Prop) : Delimited other fun a => write a ++ text := by
  intro a b rest rest' _ _ same
  rw [List.append_assoc, List.append_assoc] at same
  obtain ⟨values, left⟩ := delimited a b _ _ (stops.append rest) (stops.append rest') same
  exact ⟨values, List.append_cancel_left left⟩

/-- A missing value, under a name that no text of a value begins like. -/
theorem optional {name : List σ} (delimited : Delimited stop write)
    (apart : ∀ a rest rest', write a ++ rest ≠ name ++ rest') :
    Delimited stop fun value : Option α => value.elim name write := by
  intro a b rest rest' stops stops' same
  cases a with
  | none =>
    cases b with
    | none => exact ⟨rfl, List.append_cancel_left same⟩
    | some b => exact absurd same.symm (apart b rest' rest)
  | some a =>
    cases b with
    | none => exact absurd same (apart a rest rest')
    | some b =>
      obtain ⟨values, left⟩ := delimited a b rest rest' stops stops' same
      exact ⟨congrArg some values, left⟩

end Delimited

/-- Different texts without stop symbols. -/
theorem Delimited.of_free (free : ∀ a, ∀ c ∈ write a, ¬ stop c) (injective : Function.Injective write) :
    Delimited stop write := by
  classical
  have text : ∀ a rest, Stops stop rest →
      (write a ++ rest).takeWhile (fun c => ¬ stop c) = write a := by
    rintro a _ ⟨c, tail, rfl, stops⟩
    rw [List.takeWhile_append_of_pos fun c member => by simpa using free a c member]
    simp [stops]
  intro a b rest rest' follows follows' same
  have texts : write a = write b := by rw [← text a rest follows, same, text b rest' follows']
  refine ⟨injective texts, ?_⟩
  rw [texts] at same
  exact List.append_cancel_left same

/-! ### Sequences -/

/-- Texts with a separator between them. -/
def separated (separator : σ) : List (List σ) → List σ
  | [] => []
  | [last] => last
  | text :: next :: rest => text ++ separator :: separated separator (next :: rest)

/-- After the first value comes the end, or a separator and the other values. -/
theorem separated_cons {separator close : σ} (separates : stop separator) (closes : stop close)
    (a : α) (values : List α) (rest : List σ) : ∃ left,
      separated separator ((a :: values).map write) ++ close :: rest = write a ++ left ∧
      Stops stop left ∧
      (left = close :: rest ∧ values = [] ∨
        left = separator :: (separated separator (values.map write) ++ close :: rest) ∧
          values ≠ []) := by
  cases values with
  | nil => exact ⟨_, rfl, stops_cons closes, .inl ⟨rfl, rfl⟩⟩
  | cons next values =>
    refine ⟨_, ?_, stops_cons separates, .inr ⟨rfl, List.cons_ne_nil _ _⟩⟩
    simp [separated]

/-- A sequence with a separator between its values and a symbol at its end, when no text of a
value begins with that symbol. -/
theorem Delimited.sequence {separator close : σ} (delimited : Delimited stop write)
    (separates : stop separator) (closes : stop close) (different : separator ≠ close)
    (apart : ∀ a rest rest', write a ++ rest ≠ close :: rest') (other : σ → Prop) :
    Delimited other fun values : List α => separated separator (values.map write) ++ [close] := by
  have heads := fun a values rest =>
    @separated_cons α σ stop write separator close separates closes a values rest
  suffices closed : ∀ (values more : List α) (rest rest' : List σ),
      separated separator (values.map write) ++ close :: rest =
        separated separator (more.map write) ++ close :: rest' → values = more ∧ rest = rest' by
    intro values more rest rest' _ _ same
    apply closed
    simpa using same
  intro values
  induction values with
  | nil =>
    intro more rest rest' same
    cases more with
    | nil => exact ⟨rfl, (List.cons.inj same).2⟩
    | cons b others =>
      obtain ⟨left, shape, _⟩ := heads b others rest'
      rw [shape] at same
      exact absurd same.symm (apart b left rest)
  | cons a values ih =>
    intro more rest rest' same
    obtain ⟨left, shape, stops, what⟩ := heads a values rest
    cases more with
    | nil =>
      rw [shape] at same
      exact absurd same (apart a left rest')
    | cons b others =>
      obtain ⟨left', shape', stops', what'⟩ := heads b others rest'
      rw [shape, shape'] at same
      obtain ⟨rfl, rfl⟩ := delimited a b left left' stops stops' same
      rcases what with ⟨rfl, rfl⟩ | ⟨rfl, _⟩ <;> rcases what' with ⟨ends, rfl⟩ | ⟨goesOn, _⟩
      · exact ⟨rfl, (List.cons.inj ends).2⟩
      · exact absurd (List.cons.inj goesOn).1.symm different
      · exact absurd (List.cons.inj ends).1 different
      · obtain ⟨rfl, sameRest⟩ := ih others rest rest' (List.cons.inj goesOn).2
        exact ⟨rfl, sameRest⟩

end CfFw.Unambiguous
