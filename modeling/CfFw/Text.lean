import Mathlib.Data.List.Basic
import Mathlib.Tactic.Common

/-! String operations of Rust's `str` at Lean's `String`: lengths and byte tests
are over the UTF-8 encoding, prefix, suffix and split tests over characters. The
lemmas say when a test on bytes is a test on characters, and what ASCII
lowercasing preserves. -/
namespace CfFw.Text

/-- `str::bytes`: the UTF-8 encoding. -/
def bytes (s : String) : List UInt8 := s.toList.flatMap String.utf8EncodeChar

/-- `str::len`, in bytes. -/
def len (s : String) : Nat := (bytes s).length

/-- `str::is_ascii`. -/
def isAscii (s : String) : Bool := (bytes s).all (· < 128)

/-- `str::to_ascii_lowercase`; `Char.toLower` changes only `A` to `Z`. -/
def toAsciiLowercase (s : String) : String := String.ofList (s.toList.map Char.toLower)

/-- `str::starts_with` at a character. -/
def startsWith (s : String) (c : Char) : Bool := s.toList.head? = some c

/-- `str::ends_with` at a character. -/
def endsWith (s : String) (c : Char) : Bool := s.toList.getLast? = some c

/-- `str::strip_prefix`. -/
def stripPrefix (s start : String) : Option String :=
  (s.toList.dropPrefix? start.toList).map String.ofList

/-- `str::strip_suffix`. -/
def stripSuffix (s tail : String) : Option String :=
  (s.toList.dropSuffix? tail.toList).map String.ofList

/-- `str::split` at a character. -/
def split (s : String) (separator : Char) : List String :=
  (s.toList.splitOn separator).map String.ofList

/-- `u8::is_ascii_lowercase`. -/
def isAsciiLowercase (b : UInt8) : Bool := 97 ≤ b && b ≤ 122

/-- `u8::is_ascii_digit`. -/
def isAsciiDigit (b : UInt8) : Bool := 48 ≤ b && b ≤ 57

/-- `u8::is_ascii_alphanumeric`. -/
def isAsciiAlphanumeric (b : UInt8) : Bool :=
  isAsciiLowercase b || (65 ≤ b && b ≤ 90) || isAsciiDigit b

/-- The byte `b'-'`. -/
def hyphen : UInt8 := 45

variable {s t head tail : String} {c : Char} {p : UInt8 → Bool}

/-- What a check of each element shows; the check does not enumerate the type. -/
theorem forall_mem_of_all {α : Type} {q : α → Prop} [DecidablePred q] {list : List α}
    (checked : list.all (fun a => decide (q a)) = true) : ∀ a ∈ list, q a :=
  fun a member => of_decide_eq_true (List.all_eq_true.mp checked a member)

@[simp] theorem bytes_append (s t : String) : bytes (s ++ t) = bytes s ++ bytes t := by
  simp [bytes]

@[simp] theorem len_append (s t : String) : len (s ++ t) = len s + len t := by
  simp [len]

theorem len_eq_zero : len s = 0 ↔ s = "" := by
  simp only [len, bytes, List.length_eq_zero_iff, List.flatMap_eq_nil_iff]
  constructor
  · intro empty
    apply String.toList_inj.mp
    refine List.eq_nil_iff_forall_not_mem.mpr fun c member => ?_
    have none := empty c member
    simp only [String.utf8EncodeChar] at none
    split_ifs at none
  · rintro rfl c member
    cases member

/-! ### Byte tests and character tests -/

/-- A character outside ASCII is encoded with a first byte outside ASCII. -/
theorem encoded_all_iff (ascii : ∀ b, p b = true → b < 128) (c : Char) :
    (String.utf8EncodeChar c).all p = true ↔
      c.toNat < 128 ∧ p (UInt8.ofNat c.toNat) = true := by
  have outside : ∀ n, 128 ≤ n → n < 256 → p (UInt8.ofNat n) = false := by
    intro n low high
    by_contra accepted
    have small := UInt8.lt_iff_toNat_lt.mp (ascii _ (by simpa using accepted))
    simp only [UInt8.toNat_ofNat', UInt8.reduceToNat] at small
    omega
  have value : c.val.toNat = c.toNat := rfl
  simp only [String.utf8EncodeChar, value]
  split_ifs with one two three
  · simp [show c.toNat < 128 by omega]
  · rw [List.all_cons, outside (c.toNat / 64 % 32 + 192) (by omega) (by omega)]
    simp [show ¬ c.toNat < 128 by omega]
  · rw [List.all_cons, outside (c.toNat / 4096 % 16 + 224) (by omega) (by omega)]
    simp [show ¬ c.toNat < 128 by omega]
  · rw [List.all_cons, outside (c.toNat / 262144 % 8 + 240) (by omega) (by omega)]
    simp [show ¬ c.toNat < 128 by omega]

/-- A byte test that only accepts ASCII is a test on every character. -/
theorem bytes_all_iff (ascii : ∀ b, p b = true → b < 128) :
    (bytes s).all p = true ↔
      ∀ c ∈ s.toList, c.toNat < 128 ∧ p (UInt8.ofNat c.toNat) = true := by
  simp only [bytes, List.all_flatMap, List.all_eq_true, encoded_all_iff ascii]

theorem isAscii_of_bytes_all (ascii : ∀ b, p b = true → b < 128) (all : (bytes s).all p = true) :
    isAscii s = true := by
  simp only [isAscii, List.all_eq_true, decide_eq_true_eq] at all ⊢
  exact fun b member => ascii b (all b member)

private theorem encoded_length_ascii (small : c.toNat < 128) :
    (String.utf8EncodeChar c).length = 1 := by
  have value : c.val.toNat = c.toNat := rfl
  simp [String.utf8EncodeChar, value, show c.toNat ≤ 127 by omega]

/-- On ASCII text the length is the number of characters. -/
theorem len_ascii (small : ∀ c ∈ s.toList, c.toNat < 128) : len s = s.toList.length := by
  have shape : ∀ cs : List Char, (∀ c ∈ cs, c.toNat < 128) →
      (cs.flatMap String.utf8EncodeChar).length = cs.length := by
    intro cs all
    induction cs with
    | nil => rfl
    | cons c cs ih =>
      simp only [List.flatMap_cons, List.length_append, List.length_cons,
        encoded_length_ascii (all c List.mem_cons_self),
        ih fun d member => all d (List.mem_cons_of_mem _ member)]
      omega
  exact shape _ small

/-- The length of an ASCII literal, read off its characters. -/
theorem len_ofList {cs : List Char} (ascii : cs.all (fun c => decide (c.toNat < 128)) = true) :
    len (String.ofList cs) = cs.length := by
  rw [len_ascii, String.toList_ofList]
  intro c member
  rw [String.toList_ofList] at member
  simpa using List.all_eq_true.mp ascii c member

/-! ### Stripping -/

theorem stripSuffix_eq_some : stripSuffix s tail = some t ↔ s = t ++ tail := by
  simp only [stripSuffix, Option.map_eq_some_iff, List.dropSuffix?_eq_some_iff, beq_iff_eq]
  constructor
  · rintro ⟨rest, ⟨back, shape, rfl⟩, rfl⟩
    exact String.toList_inj.mp (by simpa using shape)
  · rintro rfl
    exact ⟨t.toList, ⟨tail.toList, by simp, rfl⟩, by simp⟩

theorem stripPrefix_eq_some : stripPrefix s head = some t ↔ s = head ++ t := by
  simp only [stripPrefix, Option.map_eq_some_iff, List.dropPrefix?_eq_some_iff, beq_iff_eq]
  constructor
  · rintro ⟨rest, ⟨front, shape, rfl⟩, rfl⟩
    exact String.toList_inj.mp (by simpa using shape)
  · rintro rfl
    exact ⟨t.toList, ⟨head.toList, by simp, rfl⟩, by simp⟩

/-! ### ASCII lowercasing -/

@[simp] theorem toList_toAsciiLowercase (s : String) :
    (toAsciiLowercase s).toList = s.toList.map Char.toLower := by
  simp [toAsciiLowercase]

@[simp] theorem toAsciiLowercase_append (s t : String) :
    toAsciiLowercase (s ++ t) = toAsciiLowercase s ++ toAsciiLowercase t :=
  String.toList_inj.mp (by simp)

theorem toNat_toLower (c : Char) :
    c.toLower.toNat = if 65 ≤ c.toNat ∧ c.toNat ≤ 90 then c.toNat + 32 else c.toNat := by
  have range : (c.val ≥ 'A'.val ∧ c.val ≤ 'Z'.val) ↔ 65 ≤ c.toNat ∧ c.toNat ≤ 90 := by
    simp only [ge_iff_le, UInt32.le_iff_toNat_le]
    rfl
  by_cases upper : 65 ≤ c.toNat ∧ c.toNat ≤ 90
  · delta Char.toLower
    rw [dif_pos (range.mpr upper), if_pos upper]
    show (c.val + ('a'.val - 'A'.val)).toNat = c.toNat + 32
    have value : c.val.toNat = c.toNat := rfl
    rw [UInt32.toNat_add, value, show ('a'.val - 'A'.val).toNat = 32 from rfl]
    omega
  · delta Char.toLower
    rw [dif_neg (mt range.mp upper), if_neg upper]

/-- Lowercasing is the identity away from `A` to `Z`. -/
theorem toLower_eq_self (lower : ¬ (65 ≤ c.toNat ∧ c.toNat ≤ 90)) : c.toLower = c :=
  Char.toNat_inj.mp (by rw [toNat_toLower, if_neg lower])

theorem toLower_toLower (c : Char) : c.toLower.toLower = c.toLower := by
  apply toLower_eq_self
  rw [toNat_toLower]
  split_ifs <;> omega

@[simp] theorem toAsciiLowercase_idem (s : String) :
    toAsciiLowercase (toAsciiLowercase s) = toAsciiLowercase s :=
  String.toList_inj.mp (by
    rw [toList_toAsciiLowercase, toList_toAsciiLowercase, List.map_map]
    exact List.map_congr_left fun c _ => toLower_toLower c)

/-- No letter lowercases to a character that is not a lowercase letter. -/
theorem toLower_eq_iff (notLower : ¬ (97 ≤ c.toNat ∧ c.toNat ≤ 122)) (d : Char)
    (notUpper : ¬ (65 ≤ c.toNat ∧ c.toNat ≤ 90)) : d.toLower = c ↔ d = c := by
  rw [← Char.toNat_inj, ← Char.toNat_inj, toNat_toLower]
  split_ifs <;> omega

theorem isAlphanum_iff (c : Char) : c.isAlphanum = true ↔
    (97 ≤ c.toNat ∧ c.toNat ≤ 122) ∨ (65 ≤ c.toNat ∧ c.toNat ≤ 90) ∨
      (48 ≤ c.toNat ∧ c.toNat ≤ 57) := by
  have value : c.val.toNat = c.toNat := rfl
  delta Char.isAlphanum Char.isAlpha Char.isUpper Char.isLower Char.isDigit
  simp only [ge_iff_le, Bool.or_eq_true, Bool.and_eq_true, decide_eq_true_eq,
    UInt32.le_iff_toNat_le, value]
  simp only [UInt32.reduceToNat, Char.reduceVal]
  omega

theorem isAlphanum_toLower (c : Char) : c.toLower.isAlphanum = c.isAlphanum := by
  rw [Bool.eq_iff_iff, isAlphanum_iff, isAlphanum_iff, toNat_toLower]
  split_ifs <;> omega

/-- Lowercasing changes no byte length. -/
theorem len_toAsciiLowercase (s : String) : len (toAsciiLowercase s) = len s := by
  have one : ∀ c : Char, (String.utf8EncodeChar c.toLower).length =
      (String.utf8EncodeChar c).length := by
    intro c
    by_cases upper : 65 ≤ c.toNat ∧ c.toNat ≤ 90
    · have lowered : c.toLower.toNat < 128 := by
        rw [toNat_toLower, if_pos upper]
        omega
      rw [encoded_length_ascii lowered, encoded_length_ascii (by omega)]
    · rw [toLower_eq_self upper]
  simp only [len, bytes, toList_toAsciiLowercase, List.length_flatMap, List.map_map]
  congr 1
  exact List.map_congr_left fun c _ => one c

/-- A string whose bytes are all lowercase letters, digits or hyphens is its
own lowercase. -/
theorem toAsciiLowercase_eq_self
    (lower : ∀ c ∈ s.toList, ¬ (65 ≤ c.toNat ∧ c.toNat ≤ 90)) : toAsciiLowercase s = s :=
  String.toList_inj.mp (by
    rw [toList_toAsciiLowercase]
    exact (List.map_congr_left fun c member => toLower_eq_self (lower c member)).trans
      (List.map_id _))

/-! ### Splitting -/

/-- Splitting commutes with a character map that neither makes nor unmakes a
separator. -/
theorem splitOn_map {f : Char → Char} {separator : Char}
    (fixed : ∀ c, f c = separator ↔ c = separator) (cs : List Char) :
    (cs.map f).splitOn separator = (cs.splitOn separator).map (List.map f) := by
  induction cs with
  | nil => rfl
  | cons c cs ih =>
    rw [List.map_cons, List.splitOn_cons_eq_if_modifyHead, List.splitOn_cons_eq_if_modifyHead, ih]
    by_cases same : c = separator
    · simp [same, (fixed separator).mpr rfl]
    · have other : f c ≠ separator := fun equal => same ((fixed c).mp equal)
      simp only [beq_iff_eq, same, other, ↓reduceIte]
      cases cs.splitOn separator with
      | nil => rfl
      | cons first rest => rfl

theorem split_toAsciiLowercase {separator : Char}
    (notLower : ¬ (97 ≤ separator.toNat ∧ separator.toNat ≤ 122))
    (notUpper : ¬ (65 ≤ separator.toNat ∧ separator.toNat ≤ 90)) :
    split (toAsciiLowercase s) separator = (split s separator).map toAsciiLowercase := by
  simp only [split, toList_toAsciiLowercase,
    splitOn_map (fun c => toLower_eq_iff notLower c notUpper), List.map_map]
  exact List.map_congr_left fun label _ => String.toList_inj.mp (by simp)

/-- Every character of a string is a separator or stands in one of the parts. -/
theorem mem_split (separator : Char) (member : c ∈ s.toList) :
    c = separator ∨ ∃ part ∈ split s separator, c ∈ part.toList := by
  suffices parts : c = separator ∨ ∃ part ∈ s.toList.splitOn separator, c ∈ part by
    refine parts.imp id ?_
    rintro ⟨part, listed, inside⟩
    exact ⟨_, List.mem_map.mpr ⟨part, listed, rfl⟩, by simpa using inside⟩
  generalize s.toList = cs at member
  induction cs with
  | nil => cases member
  | cons first rest ih =>
    rw [List.splitOn_cons_eq_if_modifyHead]
    by_cases same : first = separator
    · rcases List.mem_cons.mp member with rfl | later
      · exact .inl same
      · refine (ih later).imp id ?_
        rintro ⟨part, listed, inside⟩
        exact ⟨part, by simp [same, listed], inside⟩
    · simp only [beq_iff_eq, same, ↓reduceIte]
      have nonempty : rest.splitOn separator ≠ [] := List.splitOn_ne_nil separator rest
      obtain ⟨head, parts, shape⟩ := List.exists_cons_of_ne_nil nonempty
      rw [shape] at ih ⊢
      rcases List.mem_cons.mp member with rfl | later
      · exact .inr ⟨c :: head, by simp, by simp⟩
      · refine (ih later).imp id ?_
        rintro ⟨part, listed, inside⟩
        rcases List.mem_cons.mp listed with rfl | listed
        · exact ⟨first :: part, by simp, by simp [inside]⟩
        · exact ⟨part, by simp [listed], inside⟩

end CfFw.Text
