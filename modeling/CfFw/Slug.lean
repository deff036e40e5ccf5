import CfFw.Error
import CfFw.Text

/-! Slugs: validation of requested ones and generation of fresh ones, from
`slug.rs`. The random source is a parameter that only has to draw within the
range it is asked for. -/
namespace CfFw
open Text

def maxSlugLen : Nat := 63
def generatedSlugRandomAttempts : Nat := 32

/-- `slug.rs::ADJECTIVES`. -/
def adjectives : List String := [
  "amber", "apple", "azure", "bold", "bright", "brisk", "calm", "clear", "cool", "cozy", "crisp",
  "dawn", "deep", "eager", "fair", "fast", "fresh", "gentle", "golden", "green", "happy", "kind",
  "light", "lively", "lucky", "mellow", "merry", "misty", "neat", "noble", "orange", "peaceful",
  "pink", "plain", "proud", "pure", "quick", "quiet", "rapid", "red", "rosy", "safe", "sharp",
  "silent", "silver", "small", "soft", "solar", "still", "sunny", "sweet", "swift", "tiny",
  "true", "vivid", "warm", "white", "wild", "wise", "young"]

/-- `slug.rs::NOUNS`. -/
def nouns : List String := [
  "badger", "bay", "bear", "birch", "brook", "cedar", "cloud", "comet", "coral", "cove", "crane",
  "dawn", "deer", "dove", "eagle", "falcon", "fern", "field", "finch", "forest", "fox", "grove",
  "harbor", "hawk", "hill", "island", "lake", "leaf", "lynx", "maple", "meadow", "moon", "oak",
  "ocean", "orbit", "otter", "owl", "panda", "peak", "pebble", "pen", "pine", "pond", "rain",
  "reef", "river", "robin", "sparrow", "star", "stone", "storm", "sun", "tiger", "trail",
  "valley", "wave", "willow", "wolf", "wood", "wren"]

/-- `rand::Rng`, as far as the program uses it: `random_range(0..bound)` draws a
number below the bound. -/
class Rng (R : Type) where
  randomRange (bound : Nat) (nonempty : 0 < bound) (rng : R) : Fin bound × R

/-- A random source that replays given draws, and draws zero once they are used
up. Any use of a random source is a use of the draws it made. -/
structure DrawStream where
  draws : List Nat
  deriving DecidableEq

instance : Rng DrawStream where
  randomRange bound nonempty rng :=
    (⟨rng.draws.headD 0 % bound, Nat.mod_lt _ nonempty⟩, ⟨rng.draws.tail⟩)

/-- The bytes a slug is made of. -/
def isSlugByte (b : UInt8) : Bool := isAsciiLowercase b || isAsciiDigit b || b == hyphen

/-- `slug.rs::validate_normalized_slug`. -/
def validateNormalizedSlug (slug : String) : Except String Unit :=
  if slug = "" ∨ len slug > maxSlugLen then
    .error s!"must be between 1 and {maxSlugLen} characters"
  else if isAscii slug = false then
    .error "must contain only lowercase ASCII letters, digits, and hyphens"
  else if startsWith slug '-' ∨ endsWith slug '-' then
    .error "must not start or end with a hyphen"
  else if (bytes slug).all isSlugByte = false then
    .error "must contain only lowercase ASCII letters, digits, and hyphens"
  else if (bytes slug).all isAsciiDigit then
    .error "must not be all numeric"
  else .ok ()

/-- `slug.rs::normalize_slug`. -/
def normalizeSlug (input : String) : Result String :=
  let normalized := toAsciiLowercase input
  match validateNormalizedSlug normalized with
  | .ok () => .ok normalized
  | .error reason => .error (.invalidSlug input reason)

/-- `format!("{adjective}-{noun}")`. -/
def joinWords (adjective noun : String) : String := s!"{adjective}-{noun}"

variable {R : Type} [Rng R]

/-- `slug.rs::generate_slug`. -/
def generateSlug (rng : R) : String × R :=
  let (first, rng) := Rng.randomRange adjectives.length (by decide) rng
  let (second, rng) := Rng.randomRange nouns.length (by decide) rng
  (joinWords (adjectives.get first) (nouns.get second), rng)

/-- The random part of `generate_unique_slug`. -/
def tryRandomSlugs (isTaken : String → Bool) : Nat → R → Option String × R
  | 0, rng => (none, rng)
  | attempts + 1, rng =>
    let (candidate, rng) := generateSlug rng
    if isTaken candidate then tryRandomSlugs isTaken attempts rng else (some candidate, rng)

/-- Every adjective-noun combination, in the order of the two nested loops. -/
def allSlugs : List String := adjectives.flatMap fun adjective => nouns.map (joinWords adjective)

/-- `slug.rs::generate_unique_slug`. -/
def generateUniqueSlug (rng : R) (isTaken : String → Bool) : Result String × R :=
  match tryRandomSlugs isTaken generatedSlugRandomAttempts rng with
  | (some candidate, rng) => (.ok candidate, rng)
  | (none, rng) =>
    match allSlugs.find? (fun candidate => !isTaken candidate) with
    | some candidate => (.ok candidate, rng)
    | none => (.error (.other "all generated slug combinations are already active"), rng)

/-! ### What a valid slug is -/

/-- A slug that passes `validate_normalized_slug`. -/
def ValidSlug (slug : String) : Prop := validateNormalizedSlug slug = .ok ()

instance (slug : String) : Decidable (ValidSlug slug) :=
  inferInstanceAs (Decidable (validateNormalizedSlug slug = .ok ()))

theorem isSlugByte_ascii (b : UInt8) (slugByte : isSlugByte b = true) : b < 128 := by
  simp only [isSlugByte, isAsciiLowercase, isAsciiDigit, hyphen, Bool.or_eq_true, Bool.and_eq_true,
    decide_eq_true_eq, beq_iff_eq, UInt8.le_iff_toNat_le, ← UInt8.toNat_inj] at slugByte
  simp only [UInt8.lt_iff_toNat_lt, UInt8.reduceToNat] at slugByte ⊢
  omega

theorem validSlug_iff {slug : String} :
    ValidSlug slug ↔ slug ≠ "" ∧ len slug ≤ maxSlugLen ∧ startsWith slug '-' = false ∧
      endsWith slug '-' = false ∧ (bytes slug).all isSlugByte = true ∧
      (bytes slug).all isAsciiDigit = false := by
  unfold ValidSlug validateNormalizedSlug
  constructor
  · intro valid
    split_ifs at valid
    simp_all
  · rintro ⟨nonempty, short, start, finish, all, digits⟩
    simp [nonempty, Nat.not_lt.mpr short, isAscii_of_bytes_all isSlugByte_ascii all, start, finish,
      all, digits]

theorem ValidSlug.slugBytes {slug : String} (valid : ValidSlug slug) :
    (bytes slug).all isSlugByte = true :=
  (validSlug_iff.mp valid).2.2.2.2.1

/-- The characters of a valid slug. -/
theorem ValidSlug.characters {slug : String} (valid : ValidSlug slug) :
    ∀ c ∈ slug.toList, (97 ≤ c.toNat ∧ c.toNat ≤ 122) ∨ (48 ≤ c.toNat ∧ c.toNat ≤ 57) ∨
      c.toNat = 45 := by
  intro c member
  obtain ⟨small, slugByte⟩ := (bytes_all_iff isSlugByte_ascii).mp valid.slugBytes c member
  simp only [isSlugByte, isAsciiLowercase, isAsciiDigit, hyphen, Bool.or_eq_true, Bool.and_eq_true,
    decide_eq_true_eq, beq_iff_eq, UInt8.le_iff_toNat_le, ← UInt8.toNat_inj, UInt8.toNat_ofNat',
    UInt8.reduceToNat] at slugByte
  omega

/-- A valid slug is its own ASCII lowercase. -/
theorem ValidSlug.lowercase {slug : String} (valid : ValidSlug slug) :
    toAsciiLowercase slug = slug :=
  toAsciiLowercase_eq_self fun c member => by
    have range := valid.characters c member
    omega

/-- `normalize_slug` succeeds exactly with the lowercase form, when that is valid. -/
theorem normalizeSlug_eq_ok {input slug : String} :
    normalizeSlug input = .ok slug ↔ slug = toAsciiLowercase input ∧ ValidSlug slug := by
  unfold normalizeSlug ValidSlug
  cases outcome : validateNormalizedSlug (toAsciiLowercase input) with
  | ok _ =>
    simp only [outcome, Except.ok.injEq]
    constructor
    · rintro rfl
      exact ⟨rfl, outcome⟩
    · rintro ⟨rfl, _⟩
      rfl
  | error reason =>
    simp only [outcome, reduceCtorEq, false_iff]
    rintro ⟨rfl, valid⟩
    rw [outcome] at valid
    cases valid

/-! ### Generated slugs -/

/-- A word of the two lists: short, nonempty, lowercase letters only. -/
def IsWord (word : String) : Bool :=
  !word.toList.isEmpty && decide (word.toList.length ≤ 31) &&
    word.toList.all fun c => decide (97 ≤ c.toNat) && decide (c.toNat ≤ 122)

theorem adjectives_are_words : ∀ word ∈ adjectives, IsWord word = true := by decide

theorem nouns_are_words : ∀ word ∈ nouns, IsWord word = true := by decide

theorem joinWords_toList (adjective noun : String) :
    (joinWords adjective noun).toList = adjective.toList ++ '-' :: noun.toList := by
  simp [joinWords, toString]

/-- A short text of slug characters that begins with a letter and ends with no
hyphen is a valid slug. -/
theorem validSlug_of_range {slug : String} {letter last : Char}
    (starts : slug.toList.head? = some letter) (final : slug.toList.getLast? = some last)
    (short : slug.toList.length ≤ maxSlugLen) (letterRange : 97 ≤ letter.toNat ∧ letter.toNat ≤ 122)
    (notHyphen : last ≠ '-')
    (range : ∀ c ∈ slug.toList, (97 ≤ c.toNat ∧ c.toNat ≤ 122) ∨
      (48 ≤ c.toNat ∧ c.toNat ≤ 57) ∨ c.toNat = 45) : ValidSlug slug := by
  have characters : ∀ c ∈ slug.toList,
      c.toNat < 128 ∧ isSlugByte (UInt8.ofNat c.toNat) = true := by
    intro c member
    have byte := range c member
    refine ⟨by omega, ?_⟩
    simp only [isSlugByte, isAsciiLowercase, isAsciiDigit, hyphen, Bool.or_eq_true,
      Bool.and_eq_true, decide_eq_true_eq, beq_iff_eq, UInt8.le_iff_toNat_le, ← UInt8.toNat_inj,
      UInt8.toNat_ofNat', UInt8.reduceToNat]
    omega
  refine validSlug_iff.mpr ⟨?_, ?_, ?_, ?_, (bytes_all_iff isSlugByte_ascii).mpr characters, ?_⟩
  · rintro rfl
    cases starts
  · rw [len_ascii fun c member => (characters c member).1]
    exact short
  · have other : letter ≠ '-' := by
      rintro rfl
      exact absurd letterRange.1 (by decide)
    simp [startsWith, starts, other]
  · simp [endsWith, final, notHyphen]
  · have digitAscii : ∀ b, isAsciiDigit b = true → b < 128 := fun b digit =>
      isSlugByte_ascii b (by simp [isSlugByte, digit])
    rw [Bool.eq_false_iff]
    intro digits
    have digit := ((bytes_all_iff digitAscii).mp digits letter
      (List.mem_of_mem_head? starts)).2
    simp only [isAsciiDigit, Bool.and_eq_true, decide_eq_true_eq, UInt8.le_iff_toNat_le,
      UInt8.toNat_ofNat', UInt8.reduceToNat] at digit
    omega

/-- Two words joined by a hyphen are a valid slug. -/
theorem joinWords_valid {adjective noun : String} (first : IsWord adjective = true)
    (second : IsWord noun = true) : ValidSlug (joinWords adjective noun) := by
  simp only [IsWord, Bool.and_eq_true, List.all_eq_true, decide_eq_true_eq, Bool.not_eq_true',
    List.isEmpty_eq_false_iff] at first second
  obtain ⟨⟨firstNonempty, firstShort⟩, firstLetters⟩ := first
  obtain ⟨⟨secondNonempty, secondShort⟩, secondLetters⟩ := second
  obtain ⟨letter, letters, firstShape⟩ := List.exists_cons_of_ne_nil firstNonempty
  obtain ⟨last, final⟩ := Option.isSome_iff_exists.mp
    (List.getLast?_isSome.mpr secondNonempty)
  have lastRange := secondLetters last (List.mem_of_getLast? final)
  refine @validSlug_of_range _ letter last ?_ ?_ ?_ (firstLetters letter (by simp [firstShape])) ?_ ?_
  · simp [joinWords_toList, firstShape]
  · rw [joinWords_toList, List.getLast?_append, List.getLast?_cons, final]
    rfl
  · rw [joinWords_toList]
    simp only [List.length_append, List.length_cons, maxSlugLen]
    omega
  · rintro rfl
    exact absurd lastRange.1 (by decide)
  · intro c member
    rw [joinWords_toList, List.mem_append, List.mem_cons] at member
    rcases member with member | rfl | member
    · exact .inl (firstLetters c member)
    · exact .inr (.inr rfl)
    · exact .inl (secondLetters c member)

theorem generateSlug_mem (rng : R) : (generateSlug rng).1 ∈ allSlugs :=
  List.mem_flatMap.mpr ⟨_, List.get_mem _ _, List.mem_map.mpr ⟨_, List.get_mem _ _, rfl⟩⟩

/-- Every combination of the two lists is a valid slug. -/
theorem allSlugs_valid {slug : String} (member : slug ∈ allSlugs) : ValidSlug slug := by
  obtain ⟨adjective, inAdjectives, member⟩ := List.mem_flatMap.mp member
  obtain ⟨noun, inNouns, rfl⟩ := List.mem_map.mp member
  exact joinWords_valid (adjectives_are_words _ inAdjectives) (nouns_are_words _ inNouns)

private theorem tryRandomSlugs_some {isTaken : String → Bool} {attempts : Nat} {rng : R}
    {slug : String}
    (found : (tryRandomSlugs isTaken attempts rng).1 = some slug) :
    slug ∈ allSlugs ∧ isTaken slug = false := by
  induction attempts generalizing rng with
  | zero => simp [tryRandomSlugs] at found
  | succ attempts ih =>
    simp only [tryRandomSlugs] at found
    split at found
    · exact ih found
    · rename_i free
      obtain rfl : (generateSlug rng).1 = slug := by simpa using found
      exact ⟨generateSlug_mem rng, by simpa using free⟩

/-- A generated slug is a combination of the lists that was free. -/
theorem generateUniqueSlug_ok {isTaken : String → Bool} {rng : R} {slug : String}
    (generated : (generateUniqueSlug rng isTaken).1 = .ok slug) :
    slug ∈ allSlugs ∧ isTaken slug = false := by
  unfold generateUniqueSlug at generated
  split at generated
  · rename_i candidate _ found
    obtain rfl : candidate = slug := by simpa using generated
    exact tryRandomSlugs_some (by rw [found])
  · split at generated
    · rename_i candidate found
      obtain rfl : candidate = slug := by simpa using generated
      exact ⟨List.mem_of_find?_eq_some found, by simpa using List.find?_some found⟩
    · cases generated

end CfFw
