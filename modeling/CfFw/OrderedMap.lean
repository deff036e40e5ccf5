import Mathlib.Data.List.Basic

/-! Insertion-ordered maps as lists of entries, the way an index map behaves:
writing an existing key changes its value in place, writing a new key appends
it. `ChangedAt` says what one write does to the whole map, order included. -/
namespace CfFw.OrderedMap

variable {κ β : Type} [DecidableEq κ] {key other : κ} {value : β} {entries : List (κ × β)}

/-- The value of a key. -/
def get? (entries : List (κ × β)) (key : κ) : Option β :=
  (entries.find? fun entry => entry.1 = key).map Prod.snd

/-- Whether a key is present. -/
def containsKey (entries : List (κ × β)) (key : κ) : Bool := (get? entries key).isSome

/-- Writes a key in place, or at the end when it is new. -/
def insert (entries : List (κ × β)) (key : κ) (value : β) : List (κ × β) :=
  match entries with
  | [] => [(key, value)]
  | entry :: rest => if entry.1 = key then (key, value) :: rest else entry :: insert rest key value

/-- The map differs from the earlier one in the value of one key only, at the
place that key had; a key that was absent comes last. -/
def ChangedAt (key : κ) (value : β) (before after : List (κ × β)) : Prop :=
  (∃ front old back, before = front ++ (key, old) :: back ∧ get? front key = none ∧
    after = front ++ (key, value) :: back) ∨
  (get? before key = none ∧ after = before ++ [(key, value)])

@[simp] theorem get?_nil : get? ([] : List (κ × β)) key = none := rfl

theorem get?_cons (entry : κ × β) : get? (entry :: entries) key =
    if entry.1 = key then some entry.2 else get? entries key := by
  by_cases same : entry.1 = key <;> simp [get?, same]

theorem get?_insert : get? (insert entries key value) other =
    if key = other then some value else get? entries other := by
  induction entries with
  | nil => simp [insert, get?_cons]
  | cons entry rest ih =>
    unfold insert
    by_cases same : entry.1 = key
    · simp only [same, ↓reduceIte, get?_cons]
      by_cases wanted : key = other <;> simp [wanted]
    · simp only [same, ↓reduceIte, get?_cons, ih]
      by_cases wanted : key = other
      · subst wanted
        simp [same]
      · simp [wanted]

@[simp] theorem get?_insert_self : get? (insert entries key value) key = some value := by
  simp [get?_insert]

theorem get?_insert_ne (different : key ≠ other) :
    get? (insert entries key value) other = get? entries other := by
  simp [get?_insert, different]

/-- The last of two writes to a key is the one that counts. -/
@[simp] theorem insert_insert (first second : β) :
    insert (insert entries key first) key second = insert entries key second := by
  induction entries with
  | nil => simp [insert]
  | cons entry rest ih =>
    by_cases same : entry.1 = key <;> simp [insert, same, ih]

theorem changedAt_insert (entries : List (κ × β)) (key : κ) (value : β) :
    ChangedAt key value entries (insert entries key value) := by
  induction entries with
  | nil => exact Or.inr ⟨rfl, rfl⟩
  | cons entry rest ih =>
    unfold insert
    by_cases same : entry.1 = key
    · exact Or.inl ⟨[], entry.2, rest, by simp [← same], rfl, by simp [same]⟩
    · rw [if_neg same]
      rcases ih with ⟨front, old, back, shape, absent, written⟩ | ⟨absent, written⟩
      · exact Or.inl ⟨entry :: front, old, back, by simp [shape], by simp [get?_cons, same, absent],
          by simp [written]⟩
      · exact Or.inr ⟨by simp [get?_cons, same, absent], by simp [written]⟩

end CfFw.OrderedMap
