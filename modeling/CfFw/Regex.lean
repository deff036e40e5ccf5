import Mathlib.Data.List.Basic

/-! Backtracking regular expressions over texts of characters. A pattern yields at a
position all the positions it can lead to, in the order in which a backtracking
matcher tries them, so the first one is the match and greedy and lazy repetition
differ in the order only. -/
namespace CfFw.Regex

/-- A place in a text: the character before it and the text after it. -/
structure Position where
  prev : Option Char
  rest : List Char
  deriving DecidableEq

/-- The place after so many characters that come next. -/
def Position.past (p : Position) (taken : List Char) : Position :=
  ⟨taken.getLast?.or p.prev, p.rest.drop taken.length⟩

/-- The beginning of a line. -/
def Position.startsLine (p : Position) : Bool := p.prev.all (· == '\n')

inductive Pattern where
  | empty
  | char (accepts : Char → Bool)
  | textStart
  | lineStart
  | textEnd
  | seq (first second : Pattern)
  | optional (body : Pattern)
  | between (body : Pattern) (least most : Nat)
  | oneOrMore (body : Pattern)
  | lazyMany (body : Pattern)
  | ahead (body : Pattern)

/-- Repetition from `least` to `most` times, longest first. -/
def greedily (step : Position → List Position) : Nat → Nat → Position → List Position
  | least, 0, p => if least = 0 then [p] else []
  | least, most + 1, p =>
    (step p).flatMap (greedily step (least - 1) most) ++ if least = 0 then [p] else []

/-- Repetition up to `most` times, shortest first. -/
def lazily (step : Position → List Position) : Nat → Position → List Position
  | 0, p => [p]
  | most + 1, p => p :: (step p).flatMap (lazily step most)

/-- Where the pattern can end, in the order in which the matcher tries. An unbounded
repetition takes at most as many rounds as there are characters left. -/
def ends : Pattern → Position → List Position
  | .empty, p => [p]
  | .char accepts, p =>
    match p.rest with
    | c :: rest => if accepts c then [⟨some c, rest⟩] else []
    | [] => []
  | .textStart, p => if p.prev = none then [p] else []
  | .lineStart, p => if p.startsLine then [p] else []
  | .textEnd, p => if p.rest = [] ∨ p.rest = ['\n'] then [p] else []
  | .seq first second, p => (ends first p).flatMap (ends second)
  | .optional body, p => ends body p ++ [p]
  | .between body least most, p => greedily (ends body) least most p
  | .oneOrMore body, p => greedily (ends body) 1 p.rest.length p
  | .lazyMany body, p => lazily (ends body) p.rest.length p
  | .ahead body, p => if ends body p = [] then [] else [p]

/-- The pattern of a fixed text. -/
def literal (text : List Char) : Pattern :=
  text.foldr (fun c rest => .seq (.char (· == c)) rest) .empty

/-- The pattern matches the whole text. -/
def fullmatch (pattern : Pattern) (text : List Char) : Bool :=
  (ends pattern ⟨none, text⟩).any fun q => q.rest = []

/-- The text without what the pattern matches: matches are looked for from left to
right, each behind the one before. -/
def removeFrom (pattern : Pattern) : Nat → Position → List Char
  | 0, p => p.rest
  | fuel + 1, p =>
    match (ends pattern p).head? with
    | some q => if q.rest.length < p.rest.length then removeFrom pattern fuel q else p.rest
    | none =>
      match p.rest with
      | [] => []
      | c :: rest => c :: removeFrom pattern fuel ⟨some c, rest⟩

def removeAll (pattern : Pattern) (text : List Char) : List Char :=
  removeFrom pattern (text.length + 1) ⟨none, text⟩

variable {p q : Position} {first second body : Pattern} {accepts : Char → Bool}
  {step : Position → List Position} {least most : Nat} {text taken more : List Char} {c : Char}

@[simp] theorem past_nil : p.past [] = p := by
  simp [Position.past]

theorem past_append : p.past (taken ++ more) = (p.past taken).past more := by
  simp [Position.past, List.getLast?_append, Option.or_assoc]

theorem past_rest (shape : p.rest = taken ++ more) : (p.past taken).rest = more := by
  simp [Position.past, shape]

/-! ### Where the pieces end -/

theorem ends_char : ends (.char accepts) p =
    match p.rest with
    | c :: rest => if accepts c then [⟨some c, rest⟩] else []
    | [] => [] := rfl

theorem ends_lineStart : ends .lineStart p = if p.startsLine then [p] else [] := rfl

theorem ends_textEnd :
    ends .textEnd p = if p.rest = [] ∨ p.rest = ['\n'] then [p] else [] := rfl

theorem ends_ahead : ends (.ahead body) p = if ends body p = [] then [] else [p] := rfl

theorem ends_between : ends (.between body least most) p = greedily (ends body) least most p := rfl

theorem ends_lazyMany : ends (.lazyMany body) p = lazily (ends body) p.rest.length p := rfl

theorem greedily_zero : greedily step least 0 p = if least = 0 then [p] else [] := rfl

theorem lazily_succ :
    lazily step (most + 1) p = p :: (step p).flatMap (lazily step most) := rfl

theorem mem_ends_seq : q ∈ ends (.seq first second) p ↔ ∃ m ∈ ends first p, q ∈ ends second m :=
  List.mem_flatMap

theorem mem_ends_char : q ∈ ends (.char accepts) p ↔
    ∃ c, accepts c = true ∧ p.rest = c :: q.rest ∧ q.prev = some c := by
  obtain ⟨prev, rest⟩ := p
  obtain ⟨next, after⟩ := q
  cases rest with
  | nil => simp [ends_char]
  | cons d rest =>
    by_cases accepted : accepts d = true
    · simp only [ends_char, accepted, ↓reduceIte, List.mem_singleton, Position.mk.injEq]
      constructor
      · rintro ⟨rfl, rfl⟩
        exact ⟨d, accepted, rfl, rfl⟩
      · rintro ⟨c, _, shape, rfl⟩
        cases shape
        exact ⟨rfl, rfl⟩
    · simp only [ends_char, accepted, Bool.false_eq_true, ↓reduceIte, List.not_mem_nil, false_iff]
      rintro ⟨c, yes, shape, _⟩
      cases shape
      exact accepted yes

theorem past_cons (shape : p.rest = c :: more) : p.past [c] = ⟨some c, more⟩ := by
  rw [Position.past, shape]
  rfl

theorem mem_ends_char_past : q ∈ ends (.char accepts) p ↔
    ∃ c more, accepts c = true ∧ p.rest = c :: more ∧ q = p.past [c] := by
  rw [mem_ends_char]
  constructor
  · rintro ⟨c, accepted, shape, before⟩
    exact ⟨c, q.rest, accepted, shape, by rw [past_cons shape, ← before]⟩
  · rintro ⟨c, more, accepted, shape, rfl⟩
    exact ⟨c, accepted, by rw [past_cons shape, shape], by rw [past_cons shape]⟩

theorem mem_ends_optional : q ∈ ends (.optional body) p ↔ q ∈ ends body p ∨ q = p := by
  exact List.mem_append.trans (or_congr_right List.mem_singleton)

theorem mem_ends_lineStart : q ∈ ends .lineStart p ↔ q = p ∧ p.startsLine = true := by
  rw [ends_lineStart]
  split_ifs with starts
  · simp [starts]
  · simp [starts]

theorem mem_ends_textEnd : q ∈ ends .textEnd p ↔ q = p ∧ (p.rest = [] ∨ p.rest = ['\n']) := by
  rw [ends_textEnd]
  split_ifs with ended
  · simp [ended]
  · simp [ended]

theorem mem_ends_ahead : q ∈ ends (.ahead body) p ↔ q = p ∧ ∃ m, m ∈ ends body p := by
  rw [ends_ahead]
  split_ifs with none
  · simp [none]
  · simp [List.exists_mem_of_ne_nil _ none]

/-- A relation that holds of no round and is kept by one more round in front holds
of every repetition. -/
theorem mem_greedily (related : Position → Position → Prop) (refl : ∀ p, related p p)
    (round : ∀ {p m q}, m ∈ step p → related m q → related p q)
    (member : q ∈ greedily step least most p) : related p q := by
  induction most generalizing least p with
  | zero =>
    rw [greedily_zero] at member
    split at member
    · obtain rfl := List.mem_singleton.mp member
      exact refl q
    · cases member
  | succ most ih =>
    rcases List.mem_append.mp member with later | last
    · obtain ⟨m, once, rest⟩ := List.mem_flatMap.mp later
      exact round once (ih rest)
    · split at last
      · obtain rfl := List.mem_singleton.mp last
        exact refl q
      · cases last

/-- A bounded repetition of a class takes so many characters of the class. -/
theorem mem_between_char (member : q ∈ ends (.between (.char accepts) least most) p) :
    ∃ taken, p.rest = taken ++ q.rest ∧ taken.length ≤ most ∧ ∀ c ∈ taken, accepts c = true := by
  rw [ends_between] at member
  induction most generalizing least p with
  | zero =>
    rw [greedily_zero] at member
    split at member
    · obtain rfl := List.mem_singleton.mp member
      exact ⟨[], rfl, Nat.le_refl 0, List.forall_mem_nil _⟩
    · cases member
  | succ most ih =>
    rcases List.mem_append.mp member with later | last
    · obtain ⟨m, once, rest⟩ := List.mem_flatMap.mp later
      obtain ⟨c, accepted, shape, _⟩ := mem_ends_char.mp once
      obtain ⟨taken, rest, short, all⟩ := ih rest
      refine ⟨c :: taken, ?_, Nat.succ_le_succ short, List.forall_mem_cons.mpr ⟨accepted, all⟩⟩
      rw [shape, rest, List.cons_append]
    · split at last
      · obtain rfl := List.mem_singleton.mp last
        exact ⟨[], rfl, Nat.zero_le _, List.forall_mem_nil _⟩
      · cases last

theorem mem_ends_literal :
    q ∈ ends (literal text) p ↔ text <+: p.rest ∧ q = p.past text := by
  induction text generalizing p with
  | nil =>
    rw [past_nil]
    refine List.mem_singleton.trans ?_
    exact (and_iff_right List.nil_prefix).symm
  | cons c text ih =>
    rw [literal, List.foldr_cons, ← literal, mem_ends_seq]
    constructor
    · rintro ⟨m, once, more⟩
      obtain ⟨d, rest, same, shape, rfl⟩ := mem_ends_char_past.mp once
      obtain rfl := beq_iff_eq.mp same
      obtain ⟨starts, rfl⟩ := ih.mp more
      rw [past_cons shape] at starts
      rw [shape, ← past_append, List.cons_prefix_cons]
      exact ⟨⟨rfl, starts⟩, rfl⟩
    · rintro ⟨⟨more, shape⟩, rfl⟩
      refine ⟨p.past [c], mem_ends_char_past.mpr ⟨c, text ++ more, beq_self_eq_true c, shape.symm,
        rfl⟩, ih.mpr ⟨?_, ?_⟩⟩
      · rw [past_cons shape.symm]
        exact List.prefix_append text more
      · rw [← past_append, List.singleton_append]

/-- Any characters at all: every place from here on. -/
theorem mem_ends_lazyMany_char : q ∈ ends (.lazyMany (.char fun _ => true)) p ↔
    ∃ taken, taken <+: p.rest ∧ q = p.past taken := by
  suffices within : ∀ most, q ∈ lazily (ends (.char fun _ => true)) most p ↔
      ∃ taken, taken <+: p.rest ∧ taken.length ≤ most ∧ q = p.past taken by
    rw [ends_lazyMany, within]
    refine exists_congr fun taken => and_congr_right fun starts => ?_
    exact and_iff_right starts.length_le
  intro most
  induction most generalizing p with
  | zero =>
    refine List.mem_singleton.trans ?_
    constructor
    · rintro rfl
      exact ⟨[], List.nil_prefix, Nat.le_refl 0, past_nil.symm⟩
    · rintro ⟨taken, _, short, rfl⟩
      rw [List.length_eq_zero_iff.mp (Nat.le_zero.mp short), past_nil]
  | succ most ih =>
    rw [lazily_succ, List.mem_cons, List.mem_flatMap]
    constructor
    · rintro (rfl | ⟨m, once, more⟩)
      · exact ⟨[], List.nil_prefix, Nat.zero_le _, past_nil.symm⟩
      · obtain ⟨taken, starts, short, rfl⟩ := ih.mp more
        obtain ⟨c, rest, _, shape, rfl⟩ := mem_ends_char_past.mp once
        rw [past_cons shape] at starts
        refine ⟨c :: taken, ?_, Nat.succ_le_succ short, ?_⟩
        · rw [shape, List.cons_prefix_cons]
          exact ⟨rfl, starts⟩
        · rw [← past_append, List.singleton_append]
    · rintro ⟨taken, ⟨more, shape⟩, short, rfl⟩
      cases taken with
      | nil => exact .inl past_nil
      | cons c taken =>
        refine .inr ⟨p.past [c], mem_ends_char_past.mpr ⟨c, taken ++ more, rfl, shape.symm, rfl⟩,
          ih.mpr ⟨taken, ?_, ?_, ?_⟩⟩
        · rw [past_cons shape.symm]
          exact List.prefix_append taken more
        · exact Nat.le_of_succ_le_succ short
        · rw [← past_append, List.singleton_append]

/-! ### Removal -/

variable {pattern : Pattern} {fuel : Nat} {front back : List Char}

/-- The pattern matches nowhere before the end of so many characters. -/
def NoMatch (pattern : Pattern) (p : Position) (front : List Char) : Prop :=
  ∀ before after, front = before ++ after → after ≠ [] → ends pattern (p.past before) = []

theorem NoMatch.tail (none : NoMatch pattern p (c :: front)) :
    NoMatch pattern (p.past [c]) front := by
  intro before after shape some
  rw [← past_append]
  exact none _ after (by rw [shape]; rfl) some

theorem NoMatch.cons (here : ends pattern p = []) (none : NoMatch pattern (p.past [c]) front) :
    NoMatch pattern p (c :: front) := by
  intro before after shape some
  cases before with
  | nil => rwa [past_nil]
  | cons d before =>
    cases shape
    rw [← List.singleton_append, past_append]
    exact none before after rfl some

theorem NoMatch.head (none : NoMatch pattern p (c :: front)) : ends pattern p = [] :=
  past_nil (p := p) ▸ none [] (c :: front) rfl (List.cons_ne_nil _ _)

/-- What is before the first match stays. -/
theorem removeFrom_append (shape : p.rest = front ++ back) (none : NoMatch pattern p front)
    (enough : front.length ≤ fuel) : removeFrom pattern fuel p =
      front ++ removeFrom pattern (fuel - front.length) (p.past front) := by
  induction front generalizing p fuel with
  | nil => rw [past_nil]; rfl
  | cons c front ih =>
    obtain _ | fuel := fuel
    · cases enough
    rw [removeFrom, none.head, List.head?_nil, shape, List.cons_append]
    have next : p.past [c] = ⟨some c, front ++ back⟩ := past_cons shape
    have later := ih (past_rest shape) none.tail (Nat.le_of_succ_le_succ enough)
    rw [← past_append, next] at later
    dsimp only
    rw [later, List.length_cons, Nat.add_sub_add_right, List.singleton_append, List.cons_append]

/-- Without a match the text stays as it is. -/
theorem removeFrom_eq_self (none : NoMatch pattern p p.rest) : removeFrom pattern fuel p = p.rest := by
  induction fuel generalizing p with
  | zero => rfl
  | succ fuel ih =>
    cases shape : p.rest with
    | nil =>
      rw [removeFrom, shape]
      split <;> rfl
    | cons c rest =>
      rw [shape] at none
      rw [removeFrom, none.head, List.head?_nil, shape]
      dsimp only
      rw [← past_cons shape, ih]
      · rw [@past_rest p [c] rest shape]
      · rw [@past_rest p [c] rest shape]
        exact none.tail

theorem removeAll_eq_self (none : NoMatch pattern ⟨none, text⟩ text) : removeAll pattern text = text :=
  removeFrom_eq_self none

/-- There is a first match, or none. -/
theorem noMatch_or_first (pattern : Pattern) (shape : p.rest = text) : NoMatch pattern p text ∨
    ∃ front back, text = front ++ back ∧ NoMatch pattern p front ∧ back ≠ [] ∧
      ends pattern (p.past front) ≠ [] := by
  have nothing : ∀ {p}, NoMatch pattern p [] := fun before after empty some =>
    absurd (List.append_eq_nil_iff.mp empty.symm).2 some
  induction text generalizing p with
  | nil => exact .inl nothing
  | cons c text ih =>
    by_cases here : ends pattern p = []
    · rcases @ih (p.past [c]) (past_rest shape) with none | ⟨front, back, rfl, none, some, found⟩
      · exact .inl (none.cons here)
      · refine .inr ⟨c :: front, back, rfl, none.cons here, some, ?_⟩
        rwa [← List.singleton_append, past_append]
    · exact .inr ⟨[], c :: text, rfl, nothing, List.cons_ne_nil _ _, by rwa [past_nil]⟩

/-- Where the pattern matches somewhere, its first match is there or before. -/
theorem exists_first (shape : p.rest = front ++ back) (some : back ≠ [])
    (found : ends pattern (p.past front) ≠ []) : ∃ before after, p.rest = before ++ after ∧
      NoMatch pattern p before ∧ ends pattern (p.past before) ≠ [] ∧
        before.length ≤ front.length := by
  rcases noMatch_or_first pattern shape with none | ⟨before, after, split, none, _, first⟩
  · exact absurd (none front back rfl some) found
  · refine ⟨before, after, shape.trans split, none, first, ?_⟩
    by_contra long
    obtain ⟨more, rfl⟩ := List.prefix_of_prefix_length_le (List.prefix_append front back)
      ⟨after, split.symm⟩ (Nat.le_of_not_le long)
    refine absurd (none front more rfl ?_) found
    rintro rfl
    rw [List.append_nil] at long
    exact long (Nat.le_refl _)

end CfFw.Regex
