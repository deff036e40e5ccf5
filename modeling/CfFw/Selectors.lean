import CfFw.PublicHost

/-! The slug and selector parsers of `cli.rs` beside those of `slug.rs` and
`ipc/protocol.rs`. They check the same grammar in different orders; what they
accept and why they refuse is the same, and a selector never names two routes. -/
namespace CfFw.Text

/-- The digit loop of `str::parse::<u16>`: any overflow on the way is an error. -/
def parseDigits : List Char → Nat → Option Nat
  | [], value => some value
  | c :: rest, value =>
    if c.isDigit then
      let next := value * 10 + (c.toNat - 48)
      if next < 65536 then parseDigits rest next else none
    else none

/-- `str::parse::<u16>`: digits, after a plus sign or without one. -/
def parseU16 (s : String) : Option UInt16 :=
  match s.toList with
  | [] | ['+'] => none
  | '+' :: digits => (parseDigits digits 0).map UInt16.ofNat
  | digits => (parseDigits digits 0).map UInt16.ofNat

/-- The number that a value followed by digits denotes. -/
def appendDigits (value : Nat) : List Char → Nat
  | [] => value
  | c :: rest => appendDigits (value * 10 + (c.toNat - 48)) rest

/-- The number a string of digits denotes. -/
def decimal (s : String) : Nat := appendDigits 0 s.toList

/-- A nonempty string of ASCII digits, as both selector parsers test for it. -/
def isNumeric (s : String) : Bool := decide (s ≠ "") && (bytes s).all isAsciiDigit

end CfFw.Text

namespace CfFw
open Std Text

/-! ### Numbers -/

private theorem isNumeric_iff {s : String} :
    isNumeric s = true ↔ s ≠ "" ∧ ∀ c ∈ s.toList, c.isDigit = true := by
  have ascii : ∀ b, isAsciiDigit b = true → b < 128 := fun b digit =>
    isSlugByte_ascii b (by simp [isSlugByte, digit])
  have digit : ∀ c : Char, (c.toNat < 128 ∧ isAsciiDigit (UInt8.ofNat c.toNat) = true) ↔
      c.isDigit = true := by
    intro c
    have value : c.val.toNat = c.toNat := rfl
    simp only [isAsciiDigit, Bool.and_eq_true, decide_eq_true_eq, UInt8.le_iff_toNat_le,
      UInt8.toNat_ofNat', UInt8.reduceToNat, Char.isDigit, ge_iff_le, UInt32.le_iff_toNat_le,
      value, Char.reduceVal, UInt32.reduceToNat]
    omega
  simp only [isNumeric, Bool.and_eq_true, decide_eq_true_eq, bytes_all_iff ascii, digit]

private theorem le_appendDigits (digits : List Char) (value : Nat) :
    value ≤ appendDigits value digits := by
  induction digits generalizing value with
  | nil => exact Nat.le_refl value
  | cons c rest ih => exact Nat.le_trans (by omega) (ih (value * 10 + (c.toNat - 48)))

/-- On digits the loop returns the number they denote, when that fits. -/
theorem parseDigits_eq {digits : List Char} (all : ∀ c ∈ digits, c.isDigit = true)
    {value : Nat} (small : value < 65536) : parseDigits digits value =
      if appendDigits value digits < 65536 then some (appendDigits value digits) else none := by
  induction digits generalizing value with
  | nil => exact (if_pos small).symm
  | cons c rest ih =>
    have step : appendDigits value (c :: rest) =
        appendDigits (value * 10 + (c.toNat - 48)) rest := rfl
    rw [step, parseDigits, if_pos (all c List.mem_cons_self)]
    by_cases fits : value * 10 + (c.toNat - 48) < 65536
    · rw [if_pos fits, ih (fun d member => all d (List.mem_cons_of_mem c member)) fits]
    · have large := le_appendDigits rest (value * 10 + (c.toNat - 48))
      rw [if_neg fits, if_neg (by omega)]

private theorem parseU16_numeric {s : String} (numeric : isNumeric s = true) :
    parseU16 s = if decimal s < 65536 then some (UInt16.ofNat (decimal s)) else none := by
  obtain ⟨nonempty, all⟩ := isNumeric_iff.mp numeric
  have number := parseDigits_eq all (by decide : 0 < 65536)
  obtain ⟨first, rest, shape⟩ := List.exists_cons_of_ne_nil
    (fun empty => nonempty (String.toList_eq_nil_iff.mp empty))
  have noPlus : first ≠ '+' := by
    rintro rfl
    exact absurd (all '+' (by simp [shape])) (by decide)
  have loop : parseU16 s = (parseDigits s.toList 0).map UInt16.ofNat := by
    rw [parseU16, shape]
    split
    · rename_i impossible
      cases impossible
    · rename_i impossible
      exact absurd (List.cons.inj impossible).1 noPlus
    · rename_i impossible
      exact absurd (List.cons.inj impossible).1 noPlus
    · rfl
  rw [loop, number, decimal]
  split_ifs <;> rfl

/-! ### The parsers -/

/-- `StopSelector::parse`. -/
def StopSelector.parse (input : String) : Result StopSelector :=
  if isNumeric input then
    match parseU16 input with
    | none => .error (.invalidPort input)
    | some number => if number = 0 then .error (.invalidPort input) else .ok (.port number)
  else
    match normalizeSlug input with
    | .error error => .error error
    | .ok normalized => .ok (.slug normalized)

namespace Cli

/-- `cli.rs::ValidationError`. -/
inductive ValidationError where
  | daemonWithCommand
  | setupWithCommand
  | portableWithoutSetup
  | conflictingModes
  | shorthandWithSubcommand
  | slugWithoutStart
  | missingCommand
  | invalidPort (value : String)
  | invalidSlug (value reason : String)
  deriving DecidableEq

/-- `Display for ValidationError`. -/
def ValidationError.display : ValidationError → String
  | .daemonWithCommand => "--daemon cannot be combined with a port or subcommand"
  | .setupWithCommand => "--setup cannot be combined with a port or subcommand"
  | .portableWithoutSetup => "--portable requires --setup"
  | .conflictingModes => "--setup and --daemon cannot be used together"
  | .shorthandWithSubcommand => "a shorthand port cannot be combined with a subcommand"
  | .slugWithoutStart => "--slug can only be used when starting a forward"
  | .missingCommand => "a port or subcommand is required"
  | .invalidPort value => s!"invalid port \"{value}\""
  | .invalidSlug value reason => s!"invalid slug \"{value}\": {reason}"

/-- `cli.rs::parse_port`. -/
def parsePort (value : String) : Except String UInt16 :=
  match parseU16 value with
  | some port => if 1 ≤ port then .ok port else .error (ValidationError.invalidPort value).display
  | none => .error (ValidationError.invalidPort value).display

/-- `cli.rs::normalize_slug`. -/
def normalizeSlug (value : String) : Except ValidationError String :=
  let normalized := toAsciiLowercase value
  if normalized = "" then
    .error (.invalidSlug value "must be between 1 and 63 characters")
  else if len normalized > 63 then
    .error (.invalidSlug value "must be between 1 and 63 characters")
  else if isAscii normalized = false then
    .error (.invalidSlug value "must contain only lowercase ASCII letters, digits, and hyphens")
  else if startsWith normalized '-' ∨ endsWith normalized '-' then
    .error (.invalidSlug value "must not start or end with a hyphen")
  else if (bytes normalized).all
      (fun b => isAsciiLowercase b || isAsciiDigit b || b == hyphen) = false then
    .error (.invalidSlug value "must contain only lowercase ASCII letters, digits, and hyphens")
  else if (bytes normalized).all isAsciiDigit then
    .error (.invalidSlug value "must not be all numeric")
  else .ok normalized

/-- `cli.rs::parse_stop_selector`. -/
def parseStopSelector (value : String) : Except ValidationError StopSelector :=
  if isNumeric value then
    match parsePort value with
    | .ok port => .ok (.port port)
    | .error _ => .error (.invalidPort value)
  else
    match normalizeSlug value with
    | .ok slug => .ok (.slug slug)
    | .error error => .error error

/-- A refusal of the command line as the rest of the program words it. -/
def Same (refusal : ValidationError) (error : FwError) : Prop :=
  ∃ value, (refusal = .invalidPort value ∧ error = .invalidPort value) ∨
    ∃ reason, refusal = .invalidSlug value reason ∧ error = .invalidSlug value reason

/-- Two parsers agree on an input: the same result, or the same refusal. -/
inductive Agree {α : Type} : Except ValidationError α → Result α → Prop where
  | ok (value : α) : Agree (.ok value) (.ok value)
  | error {refusal : ValidationError} {error : FwError} (same : Same refusal error) :
      Agree (.error refusal) (.error error)

theorem Agree.ok_iff {α : Type} {left : Except ValidationError α} {right : Result α}
    (agree : Agree left right) (value : α) : left = .ok value ↔ right = .ok value := by
  cases agree <;> simp

/-! ### Slugs -/

/-- Both normalizers run the same checks in the same order. -/
theorem normalizeSlug_agree (value : String) :
    Agree (normalizeSlug value) (CfFw.normalizeSlug value) := by
  have characters : (fun b => isAsciiLowercase b || isAsciiDigit b || b == hyphen) = isSlugByte :=
    rfl
  have refused : ∀ reason, Agree (α := String) (.error (.invalidSlug value reason))
      (.error (.invalidSlug value reason)) :=
    fun reason => .error ⟨value, .inr ⟨reason, rfl, rfl⟩⟩
  unfold normalizeSlug CfFw.normalizeSlug validateNormalizedSlug
  simp only [characters]
  by_cases empty : toAsciiLowercase value = ""
  · simp only [empty, true_or, ↓reduceIte]
    exact refused _
  by_cases long : len (toAsciiLowercase value) > 63
  · simp only [empty, long, maxSlugLen, or_true, ↓reduceIte]
    exact refused _
  simp only [empty, long, maxSlugLen, or_self, ↓reduceIte]
  split_ifs
  all_goals first | exact refused _ | exact .ok _

/-! ### Selectors -/

private theorem parsePort_numeric {value : String} (numeric : isNumeric value = true) :
    parsePort value = if 0 < decimal value ∧ decimal value < 65536
      then .ok (UInt16.ofNat (decimal value))
      else .error (ValidationError.invalidPort value).display := by
  rw [parsePort, parseU16_numeric numeric]
  by_cases fits : decimal value < 65536
  · have number : (UInt16.ofNat (decimal value)).toNat = decimal value :=
      UInt16.toNat_ofNat_of_lt fits
    have positive : 1 ≤ UInt16.ofNat (decimal value) ↔ 0 < decimal value := by
      rw [UInt16.le_iff_toNat_le, number]
      exact Iff.rfl
    simp only [fits, ↓reduceIte, positive, and_true]
  · simp only [fits, ↓reduceIte, and_false]

end Cli

theorem StopSelector.parse_numeric {value : String} (numeric : isNumeric value = true) :
    StopSelector.parse value = if 0 < decimal value ∧ decimal value < 65536
      then .ok (.port (UInt16.ofNat (decimal value))) else .error (.invalidPort value) := by
  rw [StopSelector.parse, if_pos numeric, parseU16_numeric numeric]
  by_cases fits : decimal value < 65536
  · have number : (UInt16.ofNat (decimal value)).toNat = decimal value :=
      UInt16.toNat_ofNat_of_lt fits
    have zero : UInt16.ofNat (decimal value) = 0 ↔ decimal value = 0 := by
      rw [← UInt16.toNat_inj, number]
      exact Iff.rfl
    by_cases none : decimal value = 0
    · simp [none]
    · simp only [fits, ↓reduceIte, zero, none, Nat.pos_of_ne_zero none, and_self]
  · simp only [fits, ↓reduceIte, and_false]

namespace Cli

/-- Both selector parsers agree. -/
theorem parseStopSelector_agree (value : String) :
    Agree (parseStopSelector value) (StopSelector.parse value) := by
  cases numeric : isNumeric value with
  | true =>
    rw [StopSelector.parse_numeric numeric, parseStopSelector, if_pos numeric,
      parsePort_numeric numeric]
    by_cases fits : 0 < decimal value ∧ decimal value < 65536
    · simp only [fits, and_self, ↓reduceIte]
      exact .ok _
    · simp only [fits, ↓reduceIte]
      exact .error ⟨value, .inl ⟨rfl, rfl⟩⟩
  | false =>
    rw [parseStopSelector, StopSelector.parse, numeric, if_neg Bool.false_ne_true,
      if_neg Bool.false_ne_true]
    generalize normalizeSlug value = left, CfFw.normalizeSlug value = right,
      normalizeSlug_agree value = agree
    cases agree with
    | ok slug => exact .ok _
    | error same => exact .error same

end Cli

private theorem normalizeSlug_isOk (value : String) :
    (∃ slug, normalizeSlug value = .ok slug) ↔ validSlug (toAsciiLowercase value) = true := by
  rw [validSlug_eq_true]
  constructor
  · rintro ⟨slug, normalized⟩
    obtain ⟨rfl, valid⟩ := normalizeSlug_eq_ok.mp normalized
    exact valid
  · exact fun valid => ⟨_, normalizeSlug_eq_ok.mpr ⟨rfl, valid⟩⟩

/-- A number is not a letter-case variant of a valid slug. -/
theorem ValidSlug.not_numeric {value : String} (valid : ValidSlug (toAsciiLowercase value)) :
    isNumeric value = false := by
  rw [Bool.eq_false_iff]
  intro numeric
  obtain ⟨_, digits⟩ := isNumeric_iff.mp numeric
  have lowercase : toAsciiLowercase value = value :=
    toAsciiLowercase_eq_self fun c member => by
      have digit := digits c member
      have number : c.val.toNat = c.toNat := rfl
      simp only [Char.isDigit, ge_iff_le, Bool.and_eq_true, decide_eq_true_eq,
        UInt32.le_iff_toNat_le, number, Char.reduceVal, UInt32.reduceToNat] at digit
      omega
  rw [lowercase] at valid
  have mixed := (validSlug_iff.mp valid).2.2.2.2.2
  simp only [isNumeric, Bool.and_eq_true, mixed, Bool.false_eq_true, and_false] at numeric

/-- **All slug and selector parsers agree, and selectors are unambiguous.** The
command line and the daemon accept the same slugs, those the proxy accepts in
lower case, and read every stop operand alike. In every reachable registry each
spelling of a live route's slug or port selects that route, and no operand that
selects a port is the slug of any route. -/
theorem selectors_unambiguous {R : Type} [Rng R] :
    (∀ value, Cli.Agree (Cli.normalizeSlug value) (normalizeSlug value) ∧
      (∀ slug, Cli.normalizeSlug value = .ok slug ↔ normalizeSlug value = .ok slug) ∧
      ((∃ slug, normalizeSlug value = .ok slug) ↔ validSlug (toAsciiLowercase value) = true)) ∧
    (∀ value, Cli.Agree (Cli.parseStopSelector value) (StopSelector.parse value) ∧
      ∀ selector, Cli.parseStopSelector value = .ok selector ↔
        StopSelector.parse value = .ok selector) ∧
    ∀ operations : List (RouteRegistry.Operation R),
      let registry := RouteRegistry.reached operations
      ∀ route, registry.Live route →
        (∀ value, toAsciiLowercase value = route.slug →
          StopSelector.parse value = .ok (.slug route.slug) ∧
          registry.resolve (.slug route.slug) = some route) ∧
        (∀ value, isNumeric value = true → decimal value = route.port.toNat →
          StopSelector.parse value = .ok (.port route.port) ∧
          registry.resolve (.port route.port) = some route) ∧
        ∀ value port, StopSelector.parse value = .ok (.port port) →
          toAsciiLowercase value ≠ route.slug ∧ value ≠ route.slug := by
  refine ⟨fun value => ?_, fun value => ?_, fun operations => ?_⟩
  · have agree := Cli.normalizeSlug_agree value
    exact ⟨agree, agree.ok_iff, normalizeSlug_isOk value⟩
  · have agree := Cli.parseStopSelector_agree value
    exact ⟨agree, agree.ok_iff⟩
  · intro registry route live
    have wellFormed : registry.WellFormed := RouteRegistry.wellFormed_reached operations
    obtain ⟨bySlug, byPort⟩ := RouteRegistry.resolve_live wellFormed live
    obtain ⟨valid, _, nonzero⟩ := wellFormed.valid live
    have named : ∀ value, toAsciiLowercase value = route.slug →
        StopSelector.parse value = .ok (.slug route.slug) := by
      intro value same
      rw [← same] at valid
      rw [StopSelector.parse, valid.not_numeric, if_neg Bool.false_ne_true,
        normalizeSlug_eq_ok.mpr ⟨rfl, valid⟩, same]
    refine ⟨fun value same => ⟨named value same, bySlug⟩, fun value numeric denotes => ?_,
      fun value port parsed => ?_⟩
    · refine ⟨?_, byPort⟩
      have small := route.port.toNat_lt
      have positive : 0 < route.port.toNat := by
        refine Nat.pos_of_ne_zero fun zero => nonzero ?_
        exact UInt16.toNat_inj.mp zero
      rw [StopSelector.parse_numeric numeric, denotes, if_pos ⟨positive, small⟩,
        UInt16.ofNat_toNat]
    · have different : toAsciiLowercase value ≠ route.slug := by
        intro same
        rw [named value same] at parsed
        cases parsed
      refine ⟨different, fun same => different ?_⟩
      rw [same, valid.lowercase]

end CfFw
