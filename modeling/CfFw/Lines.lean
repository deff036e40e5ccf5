import Mathlib.Data.List.DropRight

/-! Texts as sequences of lines. A line that begins with a marker is a place in the
text where the marker stands and a line starts, whether found by splitting or by
position, and line breaks at the end of the text have no part in it. -/
namespace CfFw.Lines

/-- The parts of the text between line feeds. -/
def pieces (text : List Char) : List (List Char) := text.splitOn '\n'

/-- The lines of the text, without the carriage returns at their ends. -/
def lines (text : List Char) : List (List Char) := (pieces text).map (·.rdropWhile (· == '\r'))

/-- A line starts where this text ends. -/
def endsLine (text : List Char) : Bool := text.getLast?.all (· == '\n')

/-- Some line of the text begins with the marker. -/
def HasLine (marker text : List Char) : Prop := ∃ line ∈ pieces text, marker <+: line

instance (marker text : List Char) : Decidable (HasLine marker text) :=
  inferInstanceAs (Decidable (∃ line ∈ pieces text, marker <+: line))

/-- Every line of the first text is a line of the second, in the same order, as far as
it is not one of the empty lines at the end. -/
def LinesKept (before after : List Char) : Prop :=
  List.Sublist ((lines before).rdropWhile List.isEmpty) (lines after)

def isBreak (c : Char) : Bool := c == '\r' || c == '\n'

/-- The text without the line breaks at its end. -/
def trimBreaks (text : List Char) : List Char := text.rdropWhile isBreak

variable {text front back marker breaks line : List Char}

theorem endsLine_append (some : back ≠ []) : endsLine (front ++ back) = endsLine back := by
  obtain ⟨c, last⟩ := Option.isSome_iff_exists.mp (List.getLast?_isSome.mpr some)
  rw [endsLine, endsLine, List.getLast?_append, last]
  rfl

theorem pieces_newline : pieces (front ++ '\n' :: back) = pieces front ++ pieces back :=
  List.splitOn_append_cons_self front back

/-- A text without a line feed goes on with the first piece of what follows. -/
theorem pieces_append (whole : '\n' ∉ front) :
    ∃ first rest, pieces back = first :: rest ∧ pieces (front ++ back) = (front ++ first) :: rest := by
  induction front with
  | nil =>
    obtain ⟨first, rest, shape⟩ := List.exists_cons_of_ne_nil (List.splitOn_ne_nil '\n' back)
    exact ⟨first, rest, shape, shape⟩
  | cons c front ih =>
    obtain ⟨different, whole⟩ := not_or.mp (mt List.mem_cons.mpr whole)
    obtain ⟨first, rest, shape, joined⟩ := ih whole
    refine ⟨first, rest, shape, ?_⟩
    rw [pieces] at joined
    rw [pieces, List.cons_append, List.splitOn_cons_eq_if_modifyHead, joined,
      if_neg (by simpa using Ne.symm different)]
    rfl

/-- The first piece is at the beginning of the text, and each later one behind a
line feed. -/
theorem pieces_places {first : List Char} {rest : List (List Char)}
    (shape : pieces text = first :: rest) : (∃ back, text = first ++ back) ∧
      ∀ line ∈ rest, ∃ front back, text = front ++ (line ++ back) ∧ front.getLast? = some '\n' := by
  induction text generalizing first rest with
  | nil =>
    cases shape
    exact ⟨⟨[], rfl⟩, fun line member => by cases member⟩
  | cons c text ih =>
    obtain ⟨head, tail, split⟩ := List.exists_cons_of_ne_nil (List.splitOn_ne_nil '\n' text)
    obtain ⟨⟨back, begins⟩, later⟩ := ih split
    have moved : ∀ line ∈ tail, ∃ front back,
        c :: text = front ++ (line ++ back) ∧ front.getLast? = some '\n' := by
      intro line member
      obtain ⟨front, back, found, newline⟩ := later line member
      refine ⟨c :: front, back, by rw [found, List.cons_append], ?_⟩
      rw [List.getLast?_cons, newline]
      rfl
    rw [pieces, List.splitOn_cons_eq_if_modifyHead, split] at shape
    by_cases newline : (c == '\n') = true
    · rw [if_pos newline] at shape
      cases shape
      refine ⟨⟨c :: text, rfl⟩, fun line member => ?_⟩
      rcases List.mem_cons.mp member with rfl | member
      · exact ⟨[c], back, by rw [begins]; rfl, congrArg some (beq_iff_eq.mp newline)⟩
      · exact moved line member
    · rw [if_neg newline] at shape
      cases shape
      exact ⟨⟨back, by rw [begins]; rfl⟩, moved⟩

/-- A line begins with the marker exactly when the marker stands somewhere where a
line starts. -/
theorem hasLine_iff (whole : '\n' ∉ marker) : HasLine marker text ↔
    ∃ front back, text = front ++ (marker ++ back) ∧ endsLine front = true := by
  constructor
  · rintro ⟨line, member, more, rfl⟩
    obtain ⟨first, rest, shape⟩ := List.exists_cons_of_ne_nil (List.splitOn_ne_nil '\n' text)
    obtain ⟨⟨back, begins⟩, later⟩ := pieces_places shape
    rw [pieces, shape] at member
    rcases List.mem_cons.mp member with rfl | member
    · exact ⟨[], more ++ back, by rw [begins, List.append_assoc]; rfl, rfl⟩
    · obtain ⟨front, back, found, newline⟩ := later _ member
      refine ⟨front, more ++ back, by rw [found, List.append_assoc], ?_⟩
      rw [endsLine, newline]
      rfl
  · rintro ⟨front, back, rfl, starts⟩
    obtain ⟨first, rest, _, joined⟩ := @pieces_append marker back whole
    rcases List.eq_nil_or_concat front with rfl | ⟨before, last, rfl⟩
    · refine ⟨marker ++ first, ?_, List.prefix_append marker first⟩
      rw [List.nil_append, joined]
      exact List.mem_cons_self
    · rw [List.concat_eq_append] at starts ⊢
      rw [endsLine, List.getLast?_concat] at starts
      obtain rfl := beq_iff_eq.mp starts
      refine ⟨marker ++ first, ?_, List.prefix_append marker first⟩
      rw [List.append_assoc, List.singleton_append, pieces_newline, joined]
      exact List.mem_append_right _ List.mem_cons_self

/-- A text without a line feed goes on the last piece of what is before it. -/
theorem pieces_concat (whole : '\n' ∉ back) :
    ∃ before last, pieces front = before ++ [last] ∧ pieces (front ++ back) = before ++ [last ++ back] := by
  induction front with
  | nil => exact ⟨[], [], rfl, List.splitOn_eq_singleton whole⟩
  | cons c front ih =>
    obtain ⟨before, last, shape, joined⟩ := ih
    rw [pieces] at shape joined
    rw [pieces, pieces, List.cons_append, List.splitOn_cons_eq_if_modifyHead,
      List.splitOn_cons_eq_if_modifyHead, shape, joined]
    split_ifs
    · exact ⟨[] :: before, last, rfl, rfl⟩
    · cases before with
      | nil => exact ⟨[], c :: last, rfl, rfl⟩
      | cons first before => exact ⟨(c :: first) :: before, last, rfl, rfl⟩

/-! ### Line breaks at the end -/

theorem rdropWhile_append {α : Type} {p : α → Bool} {front back : List α}
    (all : ∀ a ∈ back, p a = true) : (front ++ back).rdropWhile p = front.rdropWhile p := by
  induction back using List.reverseRecOn with
  | nil => rw [List.append_nil]
  | append_singleton back a ih =>
    rw [← List.append_assoc,
      List.rdropWhile_concat_pos _ _ _ (all a (List.mem_append_right _ List.mem_cons_self))]
    exact ih fun b member => all b (List.mem_append_left _ member)

theorem trimBreaks_append (all : ∀ c ∈ breaks, isBreak c = true) :
    trimBreaks (text ++ breaks) = trimBreaks text :=
  rdropWhile_append all

/-- A text is its trimmed form and line breaks. -/
theorem trimBreaks_spec (text : List Char) :
    ∃ breaks, text = trimBreaks text ++ breaks ∧ ∀ c ∈ breaks, isBreak c = true :=
  ⟨text.rtakeWhile isBreak, List.rdropWhile_append_rtakeWhile.symm,
    fun _ member => List.mem_rtakeWhile_imp member⟩

@[simp] theorem trimBreaks_idem (text : List Char) :
    trimBreaks (trimBreaks text) = trimBreaks text :=
  List.rdropWhile_idempotent _ _

theorem length_trimBreaks_le (text : List Char) : (trimBreaks text).length ≤ text.length :=
  (List.rdropWhile_prefix _ _).length_le

theorem trimBreaks_eq_self (final : ∀ c ∈ text.getLast?, isBreak c = false) :
    trimBreaks text = text := by
  refine List.rdropWhile_eq_self_iff.mpr fun some => ?_
  rw [final _ (List.getLast?_eq_some_getLast some)]
  exact Bool.false_ne_true

theorem trimBreaks_final : ∀ c ∈ (trimBreaks text).getLast?, isBreak c = false := by
  intro c last
  have some : trimBreaks text ≠ [] := by
    rintro empty
    rw [empty] at last
    cases last
  obtain rfl := Option.some.inj ((List.getLast?_eq_some_getLast some).symm.trans last)
  exact Bool.eq_false_iff.mpr (List.rdropWhile_last_not _ _ some)

/-- Line breaks at the end make no difference to the markers before them. -/
theorem hasLine_trimBreaks (whole : ∀ c ∈ marker, isBreak c = false) (some : marker ≠ []) :
    HasLine marker (trimBreaks text) ↔ HasLine marker text := by
  have oneLine : '\n' ∉ marker := fun member => absurd (whole '\n' member) (by decide)
  rw [hasLine_iff oneLine, hasLine_iff oneLine]
  constructor
  · rintro ⟨front, back, shape, starts⟩
    obtain ⟨breaks, spec, _⟩ := trimBreaks_spec text
    refine ⟨front, back ++ breaks, ?_, starts⟩
    rw [spec, shape, List.append_assoc, List.append_assoc]
  · rintro ⟨front, back, rfl, starts⟩
    obtain ⟨breaks, spec, all⟩ := trimBreaks_spec back
    refine ⟨front, trimBreaks back, ?_, starts⟩
    rw [spec, ← List.append_assoc, ← List.append_assoc, trimBreaks_append all, List.append_assoc,
      ← spec]
    refine trimBreaks_eq_self fun c last => ?_
    rw [List.getLast?_append, List.getLast?_append] at last
    cases final : (trimBreaks back).getLast? with
    | some d =>
      rw [final] at last
      cases last
      exact trimBreaks_final _ final
    | none =>
      obtain ⟨d, ended⟩ := Option.isSome_iff_exists.mp (List.getLast?_isSome.mpr some)
      rw [final, ended] at last
      cases last
      exact whole _ (List.mem_of_getLast? ended)

/-- A marker that no line of the front begins with stands behind it, when the front
ends its last line. -/
theorem marker_behind {more : List Char} (whole : ∀ c ∈ marker, isBreak c = false)
    (absent : ¬ HasLine marker text) (ended : endsLine text = true)
    (shape : text ++ more = front ++ (marker ++ back)) (starts : endsLine front = true) :
    ∃ between, front = text ++ between ∧ more = between ++ (marker ++ back) := by
  have oneLine : '\n' ∉ marker := fun member => absurd (whole '\n' member) (by decide)
  rcases List.append_eq_append_iff.mp shape with found | ⟨cut, inside, rest⟩
  · exact found
  rcases List.append_eq_append_iff.mp rest with ⟨after, rfl, _⟩ | ⟨after, split, found⟩
  · exact absurd ((hasLine_iff oneLine).mpr ⟨front, after, inside, starts⟩) absent
  · rcases List.eq_nil_or_concat cut with rfl | ⟨before, last, rfl⟩
    · refine ⟨[], ?_, ?_⟩
      · rw [inside, List.append_nil, List.append_nil]
      · rw [found, split]
        rfl
    · rw [List.concat_eq_append] at inside split
      rw [inside, endsLine, ← List.append_assoc, List.getLast?_concat] at ended
      obtain rfl := beq_iff_eq.mp ended
      exact absurd (split ▸ List.mem_append_left _ (List.mem_append_right _ List.mem_cons_self))
        oneLine

/-! ### Lines -/

private theorem rdropWhile_return (line : List Char) :
    (line ++ ['\r']).rdropWhile (· == '\r') = line.rdropWhile (· == '\r') :=
  List.rdropWhile_concat_pos _ _ _ (beq_self_eq_true '\r')

/-- A carriage return and a line feed end a line. -/
theorem lines_crlf : lines (front ++ '\r' :: '\n' :: back) = lines front ++ lines back := by
  obtain ⟨before, last, shape, joined⟩ := @pieces_concat front ['\r'] (by decide)
  have split : front ++ '\r' :: '\n' :: back = (front ++ ['\r']) ++ '\n' :: back := by
    rw [List.append_assoc, List.singleton_append]
  rw [lines, lines, lines, split, pieces_newline, joined, shape, List.map_append, List.map_append,
    List.map_append, List.map_singleton, List.map_singleton,
    rdropWhile_return]

/-- Line breaks at the end only add empty lines. -/
theorem lines_breaks (all : ∀ c ∈ breaks, isBreak c = true) :
    ∃ n, lines (text ++ breaks) = lines text ++ List.replicate n [] := by
  induction breaks using List.reverseRecOn with
  | nil => exact ⟨0, by rw [List.append_nil, List.replicate_zero, List.append_nil]⟩
  | append_singleton breaks c ih =>
    obtain ⟨n, shape⟩ := ih fun d member => all d (List.mem_append_left _ member)
    have broken := all c (List.mem_append_right _ List.mem_cons_self)
    rw [isBreak, Bool.or_eq_true, beq_iff_eq, beq_iff_eq] at broken
    rw [← List.append_assoc]
    rcases broken with rfl | rfl
    · obtain ⟨before, last, pieced, joined⟩ := @pieces_concat (text ++ breaks) ['\r'] (by decide)
      refine ⟨n, ?_⟩
      rw [← shape, lines, lines, joined, pieced, List.map_append, List.map_append,
        List.map_singleton, List.map_singleton,
        rdropWhile_return]
    · refine ⟨n + 1, ?_⟩
      rw [lines, pieces_newline, List.map_append, ← lines, shape, List.append_assoc,
        List.replicate_succ']
      rfl

/-- A text that goes on with a line break behind its trimmed form keeps its lines. -/
theorem linesKept_crlf : LinesKept text (trimBreaks text ++ '\r' :: '\n' :: back) := by
  obtain ⟨breaks, spec, all⟩ := trimBreaks_spec text
  obtain ⟨n, shape⟩ := @lines_breaks (trimBreaks text) breaks all
  rw [LinesKept, lines_crlf]
  rw [spec, shape, rdropWhile_append (by simp [List.mem_replicate]), ← spec]
  exact (List.rdropWhile_prefix _ _).sublist.trans (List.sublist_append_left _ _)

/-- A text of nothing but line breaks has no lines to keep. -/
theorem linesKept_blank {other : List Char} (blank : trimBreaks text = []) :
    LinesKept text other := by
  obtain ⟨breaks, spec, all⟩ := trimBreaks_spec text
  obtain ⟨n, shape⟩ := @lines_breaks [] breaks all
  rw [blank] at spec
  have none : (lines text).rdropWhile List.isEmpty = [] := by
    rw [spec, shape, rdropWhile_append (by simp [List.mem_replicate])]
    rfl
  rw [LinesKept, none]
  exact List.nil_sublist _

end CfFw.Lines
