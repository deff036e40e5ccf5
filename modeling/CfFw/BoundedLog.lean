import Mathlib.Algebra.Ring.Nat
import Mathlib.Data.List.Infix

/-! A log that forgets its oldest entries: it keeps the longest suffix of what was
appended that has at most so many entries and at most so much weight. Forgetting
early loses nothing, so the log can be trimmed after every append. -/
namespace CfFw.BoundedLog

variable {α : Type} (weight : α → Nat) (maxCount maxWeight : Nat)

/-- The weight of a list of entries. -/
def total (entries : List α) : Nat := (entries.map weight).sum

/-- Within both limits. -/
def Fits (entries : List α) : Prop :=
  entries.length ≤ maxCount ∧ total weight entries ≤ maxWeight

instance (entries : List α) : Decidable (Fits weight maxCount maxWeight entries) :=
  inferInstanceAs (Decidable (_ ∧ _))

/-- What is left when the oldest entries are dropped until the rest fits. -/
def newest : List α → List α
  | [] => []
  | first :: rest =>
    if Fits weight maxCount maxWeight (first :: rest) then first :: rest else newest rest

variable {weight maxCount maxWeight} {entries more shorter : List α} {entry : α}

theorem newest_cons (first : α) (rest : List α) :
    newest weight maxCount maxWeight (first :: rest) =
      if Fits weight maxCount maxWeight (first :: rest) then first :: rest
      else newest weight maxCount maxWeight rest := rfl

@[simp] theorem total_nil : total weight ([] : List α) = 0 := rfl

@[simp] theorem total_cons : total weight (entry :: entries) = weight entry + total weight entries := by
  simp [total]

@[simp] theorem total_append :
    total weight (entries ++ more) = total weight entries + total weight more := by
  simp [total]

theorem fits_nil : Fits weight maxCount maxWeight ([] : List α) := ⟨Nat.zero_le _, Nat.zero_le _⟩

/-- What fits still fits without its oldest entries. -/
theorem Fits.suffix (fits : Fits weight maxCount maxWeight entries)
    (suffix : shorter <:+ entries) : Fits weight maxCount maxWeight shorter := by
  obtain ⟨dropped, rfl⟩ := suffix
  obtain ⟨count, size⟩ := fits
  rw [List.length_append] at count
  rw [total_append] at size
  exact ⟨by omega, by omega⟩

theorem newest_suffix (entries : List α) : newest weight maxCount maxWeight entries <:+ entries := by
  induction entries with
  | nil => exact List.suffix_refl _
  | cons first rest ih =>
    rw [newest_cons]
    split
    · exact List.suffix_refl _
    · exact ih.trans (List.suffix_cons first rest)

theorem newest_fits (entries : List α) :
    Fits weight maxCount maxWeight (newest weight maxCount maxWeight entries) := by
  induction entries with
  | nil => exact fits_nil
  | cons first rest ih =>
    rw [newest_cons]
    split
    · assumption
    · exact ih

/-- No suffix that fits is longer. -/
theorem newest_longest (fits : Fits weight maxCount maxWeight shorter)
    (suffix : shorter <:+ entries) : shorter <:+ newest weight maxCount maxWeight entries := by
  induction entries with
  | nil => exact suffix
  | cons first rest ih =>
    rw [newest_cons]
    split
    · exact suffix
    · rename_i large
      rcases List.suffix_cons_iff.mp suffix with rfl | inside
      · exact absurd fits large
      · exact ih inside

/-- **Forgetting early loses nothing.** Trimming before more is appended makes no
difference to the log afterwards. -/
theorem newest_append (entries more : List α) :
    newest weight maxCount maxWeight (newest weight maxCount maxWeight entries ++ more) =
      newest weight maxCount maxWeight (entries ++ more) := by
  induction entries with
  | nil => rfl
  | cons first rest ih =>
    by_cases fits : Fits weight maxCount maxWeight (first :: rest)
    · rw [newest_cons, if_pos fits]
    · have large : ¬ Fits weight maxCount maxWeight (first :: (rest ++ more)) := by
        rintro ⟨count, size⟩
        apply fits
        rw [List.length_cons, List.length_append] at count
        rw [total_cons, total_append] at size
        rw [Fits, List.length_cons, total_cons]
        exact ⟨by omega, by omega⟩
      rw [newest_cons, if_neg fits, ih, List.cons_append, newest_cons, if_neg large]

/-- An entry that fits by itself is kept when it is appended. -/
theorem newest_keeps (fits : Fits weight maxCount maxWeight [entry]) (entries : List α) :
    (newest weight maxCount maxWeight (entries ++ [entry])).getLast? = some entry := by
  obtain ⟨before, same⟩ := newest_longest fits (List.suffix_append entries [entry])
  rw [← same, List.getLast?_append, List.getLast?_singleton, Option.some_or]

end CfFw.BoundedLog
