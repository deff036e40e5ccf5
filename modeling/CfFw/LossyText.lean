import CfFw.Text
import Mathlib.Data.List.DropRight

/-! Text from bytes of unknown origin: `String::from_utf8_lossy`, and `str::trim`.
What is well-formed from some ASCII character on comes through unchanged, whatever
stands before it. -/
namespace CfFw.Text

/-- The character whose encoding stands at the front of the bytes. -/
def decodeChar (bytes : List UInt8) : Option Char := bytes.toByteArray.utf8DecodeChar? 0

/-- A byte that can only continue a character. -/
def isContinuation (b : UInt8) : Bool := 0x80 ≤ b && b ≤ 0xBF

/-- The second bytes that may follow the first byte of three or four. -/
def secondByteFits (first second : UInt8) : Bool :=
  if first = 0xE0 then 0xA0 ≤ second && second ≤ 0xBF
  else if first = 0xED then 0x80 ≤ second && second ≤ 0x9F
  else if first = 0xF0 then 0x90 ≤ second && second ≤ 0xBF
  else if first = 0xF4 then 0x80 ≤ second && second ≤ 0x8F
  else (0xE1 ≤ first && first ≤ 0xF3) && isContinuation second

/-- How many bytes at the front one replacement character stands for, when they do
not start with the encoding of a character. -/
def invalidWidth : List UInt8 → Nat
  | first :: second :: rest =>
    if secondByteFits first second then
      if 0xF0 ≤ first && rest.head?.any isContinuation then 3 else 2
    else 1
  | _ => 1

/-- The characters of at most `fuel` steps of `from_utf8_lossy`. -/
def lossyChars : Nat → List UInt8 → List Char
  | 0, _ => []
  | _, [] => []
  | fuel + 1, first :: rest =>
    match decodeChar (first :: rest) with
    | some c => c :: lossyChars fuel ((first :: rest).drop c.utf8Size)
    | none => '\uFFFD' :: lossyChars fuel ((first :: rest).drop (invalidWidth (first :: rest)))

/-- `String::from_utf8_lossy`. A step takes at least one byte. -/
def fromUtf8Lossy (bytes : List UInt8) : String := String.ofList (lossyChars bytes.length bytes)

/-- `char::is_whitespace`: the Unicode property `White_Space`. -/
def isWhitespace (c : Char) : Bool :=
  (0x09 ≤ c.toNat && c.toNat ≤ 0x0D) || c.toNat = 0x20 || c.toNat = 0x85 || c.toNat = 0xA0 ||
    c.toNat = 0x1680 || (0x2000 ≤ c.toNat && c.toNat ≤ 0x200A) || c.toNat = 0x2028 ||
    c.toNat = 0x2029 || c.toNat = 0x202F || c.toNat = 0x205F || c.toNat = 0x3000

/-- `str::trim_end`. -/
def trimEnd (s : String) : String := String.ofList (s.toList.rdropWhile isWhitespace)

/-- `str::trim`. -/
def trim (s : String) : String :=
  String.ofList ((s.toList.dropWhile isWhitespace).rdropWhile isWhitespace)

variable {noise rest : List UInt8} {c : Char} {cs : List Char} {b : UInt8}

/-! ### One character -/

theorem decodeChar_encoded (c : Char) (rest : List UInt8) :
    decodeChar (String.utf8EncodeChar c ++ rest) = some c := by
  rw [decodeChar, List.toByteArray_append, ByteArray.utf8DecodeChar?_utf8EncodeChar_append]

theorem encoded_of_decodeChar {bytes : List UInt8} (decoded : decodeChar bytes = some c) :
    ∃ rest, bytes = String.utf8EncodeChar c ++ rest := by
  obtain ⟨rest, whole⟩ := ByteArray.exists_of_utf8DecodeChar?_eq_some decoded
  refine ⟨rest.data.toList, ?_⟩
  have lists := congrArg (fun array : ByteArray => array.data.toList) whole
  simpa using lists

theorem isUTF8FirstByte_of_ascii (ascii : b < 128) : b.IsUTF8FirstByte := by
  have low : b.toNat < 2 ^ 7 := UInt8.lt_iff_toNat_lt.mp ascii
  have masked : b &&& 0x80 = 0 := by
    apply UInt8.toNat_inj.mp
    have clear : b.toNat &&& 2 ^ 7 = 0 := by
      apply Nat.eq_of_testBit_eq
      intro place
      rw [Nat.testBit_and, Nat.testBit_two_pow, Nat.zero_testBit]
      rcases Decidable.em (7 = place) with rfl | other
      · simp [Nat.testBit_lt_two_pow low]
      · simp [other]
    simpa using clear
  exact .inl masked

/-- The bytes of a character after its first are none that starts one. -/
theorem encoded_fits {tail : List UInt8} (whole : noise ++ b :: tail = String.utf8EncodeChar c ++ rest)
    (nonempty : noise ≠ []) (starts : b.IsUTF8FirstByte) : c.utf8Size ≤ noise.length := by
  by_contra long
  rw [Nat.not_le, ← String.length_utf8EncodeChar] at long
  have here : (String.utf8EncodeChar c)[noise.length] = b := by
    have same := congrArg (·[noise.length]?) whole
    rw [List.getElem?_append_left long, List.getElem?_append_right le_rfl, Nat.sub_self,
      List.getElem?_eq_getElem long] at same
    exact (Option.some.inj same).symm
  have first := UInt8.isUTF8FirstByte_getElem_utf8EncodeChar.mp (here ▸ starts)
  exact nonempty (List.eq_nil_of_length_eq_zero first)

theorem isContinuation_ascii (ascii : b < 128) : isContinuation b = false := by
  have low : ¬ (0x80 : UInt8) ≤ b := UInt8.not_le.mpr ascii
  simp [isContinuation, low]

theorem secondByteFits_ascii (first : UInt8) (ascii : b < 128) : secondByteFits first b = false := by
  have below : ∀ bound : UInt8, 128 ≤ bound → ¬ bound ≤ b := by
    intro bound high
    exact UInt8.not_le.mpr (UInt8.lt_of_lt_of_le ascii high)
  unfold secondByteFits
  simp [below, isContinuation_ascii ascii]

theorem invalidWidth_pos (bytes : List UInt8) : 0 < invalidWidth bytes := by
  unfold invalidWidth
  split
  · split
    · split <;> decide
    · decide
  · decide

/-- A replacement never reaches an ASCII byte after the first. -/
theorem invalidWidth_fits {tail : List UInt8} (nonempty : noise ≠ []) (ascii : b < 128) :
    invalidWidth (noise ++ b :: tail) ≤ noise.length := by
  cases noise with
  | nil => exact absurd rfl nonempty
  | cons first noise =>
    cases noise with
    | nil => simp [invalidWidth, secondByteFits_ascii first ascii]
    | cons second noise =>
      cases noise with
      | nil =>
        simp only [invalidWidth, List.cons_append, List.nil_append, List.head?_cons,
          Option.any_some, isContinuation_ascii ascii]
        split <;> simp
      | cons third noise =>
        simp only [invalidWidth, List.cons_append, List.length_cons]
        split
        · split <;> omega
        · omega

/-! ### Well-formed text -/

theorem lossyChars_char (fuel : Nat) (c : Char) (rest : List UInt8) :
    lossyChars (fuel + 1) (String.utf8EncodeChar c ++ rest) = c :: lossyChars fuel rest := by
  have size := String.length_utf8EncodeChar c
  have decoded := decodeChar_encoded c rest
  have after : (String.utf8EncodeChar c ++ rest).drop c.utf8Size = rest := by
    rw [← size, List.drop_left]
  generalize String.utf8EncodeChar c ++ rest = bytes at decoded after ⊢
  cases bytes with
  | nil => simp [decodeChar, ByteArray.utf8DecodeChar?] at decoded
  | cons first tail => simp only [lossyChars, decoded, after]

theorem lossyChars_encoded (fuel : Nat) (cs : List Char)
    (enough : (cs.flatMap String.utf8EncodeChar).length ≤ fuel) :
    lossyChars fuel (cs.flatMap String.utf8EncodeChar) = cs := by
  induction cs generalizing fuel with
  | nil => cases fuel <;> rfl
  | cons c cs ih =>
    have positive := c.utf8Size_pos
    rw [List.flatMap_cons, List.length_append, String.length_utf8EncodeChar] at enough
    cases fuel with
    | zero => omega
    | succ fuel => rw [List.flatMap_cons, lossyChars_char, ih fuel (by omega)]

/-- Bytes of any kind before well-formed text that starts with an ASCII character
leave that text as it is. -/
theorem lossyChars_resync (ascii : c.toNat < 128) (fuel : Nat)
    (enough : (noise ++ (c :: cs).flatMap String.utf8EncodeChar).length ≤ fuel) :
    ∃ before, lossyChars fuel (noise ++ (c :: cs).flatMap String.utf8EncodeChar) =
      before ++ c :: cs := by
  obtain ⟨b, tail, low, text⟩ : ∃ b tail, b < 128 ∧
      (c :: cs).flatMap String.utf8EncodeChar = b :: tail := by
    have single : c.utf8Size = 1 := Char.utf8Size_eq_one_iff.mpr (by
      rw [UInt32.le_iff_toNat_le]
      exact Nat.le_of_lt_succ ascii)
    rw [List.flatMap_cons, String.utf8EncodeChar_eq_singleton single]
    refine ⟨_, _, ?_, rfl⟩
    have small : c.val.toUInt8.toNat ≤ c.toNat := by
      rw [UInt32.toNat_toUInt8]
      exact Nat.mod_le _ _
    exact UInt8.lt_iff_toNat_lt.mpr (Nat.lt_of_le_of_lt small ascii)
  induction fuel generalizing noise with
  | zero =>
    rw [text] at enough
    simp at enough
  | succ fuel ih =>
    cases noise with
    | nil => exact ⟨[], lossyChars_encoded _ _ enough⟩
    | cons first noise =>
      have step : ∀ width, 0 < width → width ≤ (first :: noise).length →
          ∃ before, lossyChars fuel
            ((first :: noise ++ (c :: cs).flatMap String.utf8EncodeChar).drop width) =
              before ++ c :: cs := by
        intro width positive fits
        rw [List.drop_append_of_le_length fits]
        apply ih
        simp only [List.length_append, List.length_drop, List.length_cons] at enough fits ⊢
        omega
      rw [List.cons_append, lossyChars]
      cases decoded : decodeChar (first :: (noise ++ (c :: cs).flatMap String.utf8EncodeChar)) with
      | some char =>
        obtain ⟨rest, whole⟩ := encoded_of_decodeChar decoded
        have fits : char.utf8Size ≤ (first :: noise).length :=
          encoded_fits (by rw [← whole, ← text]; rfl) (by simp) (isUTF8FirstByte_of_ascii low)
        obtain ⟨before, same⟩ := step _ char.utf8Size_pos fits
        exact ⟨char :: before, congrArg (char :: ·) same⟩
      | none =>
        have fits : invalidWidth (first :: noise ++ b :: tail) ≤ (first :: noise).length :=
          invalidWidth_fits (List.cons_ne_nil first noise) low
        rw [← text] at fits
        obtain ⟨before, same⟩ := step _ (invalidWidth_pos _) fits
        exact ⟨'\uFFFD' :: before, congrArg ('\uFFFD' :: ·) same⟩

theorem fromUtf8Lossy_resync {s : String} (start : s.toList = c :: cs) (ascii : c.toNat < 128)
    (noise : List UInt8) :
    ∃ before, (fromUtf8Lossy (noise ++ bytes s)).toList = before ++ s.toList := by
  obtain ⟨before, same⟩ := @lossyChars_resync noise c cs ascii _ le_rfl
  refine ⟨before, ?_⟩
  simpa [fromUtf8Lossy, bytes, start] using same

/-! ### Trimming -/

theorem trimEnd_toList (s : String) : (trimEnd s).toList = s.toList.rdropWhile isWhitespace := by
  simp [trimEnd]

theorem rdropWhile_append_of_ne {p : Char → Bool} (before after : List Char)
    (some : after.rdropWhile p ≠ []) :
    (before ++ after).rdropWhile p = before ++ after.rdropWhile p := by
  induction after using List.reverseRecOn with
  | nil => exact absurd rfl some
  | append_singleton after last ih =>
    rw [← List.append_assoc]
    by_cases gone : p last = true
    · rw [List.rdropWhile_concat_pos _ _ _ gone] at some ⊢
      rw [List.rdropWhile_concat_pos _ _ _ gone, ih some]
    · rw [List.rdropWhile_concat_neg _ _ _ gone, List.rdropWhile_concat_neg _ _ _ gone,
        List.append_assoc]

/-- Trimming text that ends in `s` leaves the end of `s`, from its first character
on if that is not white space. -/
theorem trim_suffix {whole s : String} {before : List Char}
    (split : whole.toList = before ++ s.toList) (start : s.toList = c :: cs)
    (visible : isWhitespace c = false) :
    ∃ before, (trim whole).toList = before ++ (trimEnd s).toList := by
  have kept : ∃ before', whole.toList.dropWhile isWhitespace = before' ++ s.toList := by
    rw [split]
    clear split
    induction before with
    | nil => exact ⟨[], by rw [start]; simp [visible]⟩
    | cons first before ih =>
      cases gone : isWhitespace first with
      | true => simpa [gone] using ih
      | false => exact ⟨first :: before, by simp [gone]⟩
  obtain ⟨before', same⟩ := kept
  refine ⟨before', ?_⟩
  have some : s.toList.rdropWhile isWhitespace ≠ [] := by
    intro empty
    have all := List.rdropWhile_eq_nil_iff.mp empty c (by simp [start])
    simp [visible] at all
  simp [trim, same, rdropWhile_append_of_ne _ _ some, trimEnd_toList]

end CfFw.Text
