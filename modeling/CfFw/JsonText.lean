import CfFw.Text
import Mathlib.Algebra.BigOperators.Group.List.Basic
import Mathlib.Data.Nat.Digits.Defs

/-! Compact JSON text as a serializer writes it, and how long it gets. Values are
texts already written; lengths are in bytes. -/
namespace CfFw.JsonText
open Text

/-! ### Strings -/

/-- A hexadecimal digit. -/
def hexDigit (n : Nat) : Char := Char.ofNat (if n < 10 then 48 + n else 87 + n)

/-- A character inside a string: quotes, backslashes and control characters are
escaped, everything else is written as it is. -/
def escapeChar (c : Char) : List Char :=
  if c = '"' then ['\\', '"']
  else if c = '\\' then ['\\', '\\']
  else if 32 ≤ c.toNat then [c]
  else if c.toNat = 8 then ['\\', 'b']
  else if c.toNat = 9 then ['\\', 't']
  else if c.toNat = 10 then ['\\', 'n']
  else if c.toNat = 12 then ['\\', 'f']
  else if c.toNat = 13 then ['\\', 'r']
  else ['\\', 'u', '0', '0', hexDigit (c.toNat / 16), hexDigit (c.toNat % 16)]

/-- The inside of a string. -/
def escaped (s : String) : String := String.ofList (s.toList.flatMap escapeChar)

/-- A string. -/
def string (s : String) : String := "\"" ++ escaped s ++ "\""

@[simp] theorem escaped_append (s t : String) : escaped (s ++ t) = escaped s ++ escaped t := by
  simp [escaped]

theorem len_string (s : String) : len (string s) = len (escaped s) + 2 := by
  rw [string, len_append, len_append, show len "\"" = 1 from len_ofList rfl]
  omega

theorem len_escaped_ofList {cs : List Char}
    (ascii : (cs.flatMap escapeChar).all (fun c => decide (c.toNat < 128)) = true) :
    len (escaped (String.ofList cs)) = (cs.flatMap escapeChar).length := by
  rw [escaped, String.toList_ofList]
  exact len_ofList ascii

/-- Text that is written as it is. -/
def Plain (s : String) : Prop := ∀ c ∈ s.toList, 32 ≤ c.toNat ∧ c ≠ '"' ∧ c ≠ '\\'

instance (s : String) : Decidable (Plain s) :=
  inferInstanceAs (Decidable (∀ c ∈ s.toList, 32 ≤ c.toNat ∧ c ≠ '"' ∧ c ≠ '\\'))

theorem Plain.append {s t : String} (plain : Plain s) (other : Plain t) : Plain (s ++ t) := by
  intro c member
  rw [String.toList_append, List.mem_append] at member
  rcases member with left | right
  · exact plain c left
  · exact other c right

theorem escaped_plain {s : String} (plain : Plain s) : escaped s = s := by
  have same : s.toList.flatMap escapeChar = s.toList.flatMap fun c => [c] := by
    apply List.flatMap_congr
    intro c member
    obtain ⟨visible, noQuote, noBackslash⟩ := plain c member
    rw [escapeChar, if_neg noQuote, if_neg noBackslash, if_pos visible]
  rw [escaped, same]
  simp

/-- An escape is at most six bytes for each byte. -/
theorem len_escaped_le (s : String) : len (escaped s) ≤ 6 * len s := by
  have one : ∀ c : Char, ((escapeChar c).flatMap String.utf8EncodeChar).length ≤
      6 * (String.utf8EncodeChar c).length := by
    intro c
    have some : 1 ≤ (String.utf8EncodeChar c).length := by
      rw [String.length_utf8EncodeChar]
      exact Char.utf8Size_pos c
    have digit : ∀ n, n < 16 → (String.utf8EncodeChar (hexDigit n)).length = 1 := by decide
    have six : ∀ m n, m < 16 → n < 16 →
        (['\\', 'u', '0', '0', hexDigit m, hexDigit n].flatMap String.utf8EncodeChar).length = 6 := by
      intro m n small short
      have start : ((['\\', 'u', '0', '0'] : List Char).flatMap String.utf8EncodeChar).length = 4 := by
        decide
      rw [show ['\\', 'u', '0', '0', hexDigit m, hexDigit n] =
        ['\\', 'u', '0', '0'] ++ [hexDigit m, hexDigit n] from rfl, List.flatMap_append,
        List.length_append, start]
      simp [digit m small, digit n short]
    have two : ∀ c ∈ ['"', '\\', 'b', 't', 'n', 'f', 'r'],
        ((['\\', c] : List Char).flatMap String.utf8EncodeChar).length = 2 := by
      simp only [List.forall_mem_cons]
      exact ⟨rfl, rfl, rfl, rfl, rfl, rfl, rfl, nofun⟩
    unfold escapeChar
    split_ifs with quote backslash visible
    · rw [two _ (by decide)]
      omega
    · rw [two _ (by decide)]
      omega
    · simp
      omega
    · rw [two _ (by decide)]
      omega
    · rw [two _ (by decide)]
      omega
    · rw [two _ (by decide)]
      omega
    · rw [two _ (by decide)]
      omega
    · rw [two _ (by decide)]
      omega
    · rw [six _ _ (by omega) (by omega)]
      omega
  have all : ∀ cs : List Char, ((cs.flatMap escapeChar).flatMap String.utf8EncodeChar).length ≤
      6 * (cs.flatMap String.utf8EncodeChar).length := by
    intro cs
    induction cs with
    | nil => exact Nat.le_refl _
    | cons c cs ih =>
      have first := one c
      simp only [List.flatMap_cons, List.flatMap_append, List.length_append]
      omega
  simpa [len, bytes, escaped] using all s.toList

/-! ### Sequences -/

/-- Values with commas between them. -/
def joined : List String → String
  | [] => ""
  | [last] => last
  | first :: next :: rest => first ++ "," ++ joined (next :: rest)

/-- An array of values. -/
def array (values : List String) : String := "[" ++ joined values ++ "]"

/-- An object with these keys and values. -/
def object (fields : List (String × String)) : String :=
  "\x7b" ++ joined (fields.map fun field => string field.1 ++ ":" ++ field.2) ++ "\x7d"

theorem len_joined (values : List String) :
    len (joined values) = (values.map len).sum + (values.length - 1) := by
  induction values with
  | nil => rfl
  | cons first rest ih =>
    cases rest with
    | nil => simp [joined]
    | cons next rest =>
      rw [joined, len_append, len_append, ih, show len "," = 1 from len_ofList rfl]
      simp only [List.map_cons, List.sum_cons, List.length_cons]
      omega

theorem len_array (values : List String) :
    len (array values) = 2 + (values.map len).sum + (values.length - 1) := by
  rw [array, len_append, len_append, len_joined, show len "[" = 1 from len_ofList rfl,
    show len "]" = 1 from len_ofList rfl]
  omega

theorem len_object (fields : List (String × String)) :
    len (object fields) =
      2 + (fields.map fun field => len (escaped field.1) + 3 + len field.2).sum +
        (fields.length - 1) := by
  have field : ∀ field : String × String, len (string field.1 ++ ":" ++ field.2) =
      len (escaped field.1) + 3 + len field.2 := by
    intro field
    rw [len_append, len_append, len_string, show len ":" = 1 from len_ofList rfl]
  rw [object, len_append, len_append, len_joined, List.map_map, List.length_map,
    show len "\x7b" = 1 from len_ofList rfl, show len "\x7d" = 1 from len_ofList rfl]
  simp only [Function.comp_def, field]
  omega

/-! ### Numbers -/

theorem digit_of_mem_repr {n : Nat} {c : Char} (member : c ∈ n.repr.toList) :
    48 ≤ c.toNat ∧ c.toNat ≤ 57 := by
  rw [Nat.toList_repr] at member
  have digit := Nat.isDigit_of_mem_toDigits (by decide) (by decide) member
  simp only [Char.isDigit, Bool.and_eq_true, decide_eq_true_eq, ge_iff_le] at digit
  exact ⟨digit.1, digit.2⟩

theorem plain_repr (n : Nat) : Plain n.repr := by
  intro c member
  have digit := digit_of_mem_repr member
  refine ⟨by omega, ?_, ?_⟩
  · rintro rfl
    exact absurd digit (by decide)
  · rintro rfl
    exact absurd digit (by decide)

/-- A number below a power of ten has at most that many digits. -/
theorem len_repr_le {n digits : Nat} (some : 0 < digits) (small : n < 10 ^ digits) :
    len n.repr ≤ digits := by
  have ascii : ∀ c ∈ n.repr.toList, c.toNat < 128 := by
    intro c member
    have digit := digit_of_mem_repr member
    omega
  rw [len_ascii ascii, String.length_toList]
  exact (Nat.length_repr_le_iff some).mpr small

end CfFw.JsonText
