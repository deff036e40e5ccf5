import CfFw.Lines
import CfFw.Regex
import CfFw.Text
import Mathlib.Data.List.Infix

/-! The block that `fw-path-integration.ps1` keeps in PowerShell profiles. Every call
first removes what it takes for its own block, trims the line breaks at the end, and
then writes the block again or leaves it out. -/
namespace CfFw
open Regex Lines Text

/-! ### The script -/

def blockStart : String := "# >>> FW installer integration >>>"

def blockEnd : String := "# <<< FW installer integration <<<"

def crlf : List Char := ['\r', '\n']

/-- `$blockBody`; the script has line feeds. -/
def blockBody : String := "# This block replaces PowerShell's `fw` alias for Format-Wide so that
# `fw` invokes FW directly, without requiring `fw.exe`.
# It is managed automatically by the FW installer.

$fwAlias = Get-Alias -Name fw -ErrorAction SilentlyContinue
if ($null -ne $fwAlias -and $fwAlias.Definition -eq 'Format-Wide') \x7b
    Remove-Item Alias:fw -Force -ErrorAction SilentlyContinue
\x7d"

/-- The white space of ASCII, which is what `Trim` can meet here. -/
def isWhiteSpace (c : Char) : Bool := c == ' ' || (decide (9 ≤ c.toNat) && decide (c.toNat ≤ 13))

def trimWhiteSpace (text : List Char) : List Char := (text.dropWhile isWhiteSpace).rdropWhile isWhiteSpace

/-- `$block`. -/
def block : List Char :=
  blockStart.toList ++ crlf ++ trimWhiteSpace blockBody.toList ++ crlf ++ blockEnd.toList

/-- `(?:\r?\n)?`. -/
def newlineRe : Pattern := .optional (.seq (.optional (.char (· == '\r'))) (.char (· == '\n')))

/-- `(?ms)^BlockStart.*?^BlockEnd(?:\r?\n)?`. -/
def blockRe : Pattern :=
  .seq .lineStart (.seq (literal blockStart.toList) (.seq (.lazyMany (.char fun _ => true))
    (.seq .lineStart (.seq (literal blockEnd.toList) newlineRe))))

/-- `Remove-ManagedBlock`. -/
def removeManagedBlock (content : List Char) : List Char := removeAll blockRe content

/-- What stands before the block: the rest of the profile and an empty line. -/
def lead (content : List Char) : List Char :=
  if content ≠ [] then content ++ crlf ++ crlf else content

/-- The text that is written when the block is to be there. -/
def withBlock (content : List Char) : List Char := lead content ++ block ++ crlf

/-- The text that is written when it is not. -/
def withoutBlock (content : List Char) : List Char :=
  if content ≠ [] then content ++ crlf else content

/-- What of a profile is not the block; a missing file is empty. -/
def ownContent (file : Option (List Char)) : List Char :=
  trimBreaks (removeManagedBlock (file.getD []))

/-- The loop body of `Set-FwProfileIntegration`: the file at one profile path, if it
exists, before and after. -/
def setProfile (present : Bool) (file : Option (List Char)) : Option (List Char) :=
  if present then some (withBlock (ownContent file))
  else file.map fun text => withoutBlock (ownContent (some text))

/-- The two paths of `Get-ProfilePaths`. -/
inductive ProfilePath where
  | windowsPowerShell
  | powerShell
  deriving DecidableEq

def getProfilePaths : List ProfilePath := [.windowsPowerShell, .powerShell]

abbrev Profiles := ProfilePath → Option (List Char)

/-- `Set-FwProfileIntegration`. -/
def setFwProfileIntegration (present : Bool) (profiles : Profiles) : Profiles :=
  getProfilePaths.foldl (fun profiles path =>
    fun other => if other = path then setProfile present (profiles path) else profiles other) profiles

/-- The profiles after a sequence of calls. -/
def afterCalls (calls : List Bool) (profiles : Profiles) : Profiles :=
  calls.foldl (fun profiles present => setFwProfileIntegration present profiles) profiles

/-! ### What it is for -/

/-- How many times a line that begins with the first marker is followed by one that
begins with the second, each line counted once. -/
def completeBlocks (start finish : List Char) : (inside : Bool) → List (List Char) → Nat
  | _, [] => 0
  | false, line :: rest => completeBlocks start finish (start.isPrefixOf line) rest
  | true, line :: rest =>
    if finish.isPrefixOf line then completeBlocks start finish false rest + 1
    else completeBlocks start finish true rest

def managedBlocks (text : List Char) : Nat :=
  completeBlocks blockStart.toList blockEnd.toList false (pieces text)

/-- A profile after calls of which the last one had `present`: the lines of the text
it began with are there, the block is there once or not at all, and the same call
again changes nothing. -/
structure OnlyBlockChanged (initial : List Char) (present : Bool) (file : Option (List Char)) :
    Prop where
  kept : LinesKept initial (file.getD [])
  blocks : managedBlocks (file.getD []) = if present then 1 else 0
  settled : setProfile present file = file

variable {p q : Position} {text content front back body marker : List Char}
  {file : Option (List Char)} {present : Bool} {profiles : Profiles} {path : ProfilePath}

private theorem setFwProfileIntegration_apply :
    setFwProfileIntegration present profiles path = setProfile present (profiles path) := by
  cases path <;> rfl

private theorem afterCalls_snoc {calls : List Bool} :
    afterCalls (calls ++ [present]) profiles path =
    setProfile present (afterCalls calls profiles path) := by
  rw [afterCalls, List.foldl_append, ← afterCalls]
  exact setFwProfileIntegration_apply

/-! ### The markers -/

private theorem blockStart_whole : ∀ c ∈ blockStart.toList, isBreak c = false := by
  rw [blockStart, String.toList_ofList]
  exact forall_mem_of_all (by decide)

private theorem blockEnd_whole : ∀ c ∈ blockEnd.toList, isBreak c = false := by
  rw [blockEnd, String.toList_ofList]
  exact forall_mem_of_all (by decide)

private theorem blockStart_some : blockStart.toList ≠ [] := by
  rw [blockStart, String.toList_ofList]
  exact List.cons_ne_nil _ _

private theorem blockEnd_some : blockEnd.toList ≠ [] := by
  rw [blockEnd, String.toList_ofList]
  exact List.cons_ne_nil _ _

private theorem noFeed (whole : ∀ c ∈ marker, isBreak c = false) : '\n' ∉ marker :=
  fun member => absurd (whole '\n' member) (by decide)

/-! ### Where the expression matches -/

private theorem mem_ends_newlineRe (member : q ∈ ends newlineRe p) : q.rest <:+ p.rest := by
  have char : ∀ {accepts p q}, q ∈ ends (.char accepts) p → q.rest <:+ p.rest := by
    intro accepts p q member
    obtain ⟨c, _, shape, _⟩ := mem_ends_char.mp member
    rw [shape]
    exact List.suffix_cons c q.rest
  rcases mem_ends_optional.mp member with long | rfl
  · obtain ⟨m, atReturn, atFeed⟩ := mem_ends_seq.mp long
    rcases mem_ends_optional.mp atReturn with taken | rfl
    · exact (char atFeed).trans (char taken)
    · exact char atFeed
  · exact List.suffix_refl _

private theorem mem_ends_blockRe (member : q ∈ ends blockRe p) : p.startsLine = true ∧
    ∃ middle tail, p.rest = blockStart.toList ++ (middle ++ (blockEnd.toList ++ tail)) ∧
      (p.past (blockStart.toList ++ middle)).startsLine = true ∧ q.rest <:+ tail := by
  obtain ⟨p₁, first, member⟩ := mem_ends_seq.mp member
  obtain ⟨p₂, start, member⟩ := mem_ends_seq.mp member
  obtain ⟨p₃, between, member⟩ := mem_ends_seq.mp member
  obtain ⟨p₄, second, member⟩ := mem_ends_seq.mp member
  obtain ⟨p₅, finish, last⟩ := mem_ends_seq.mp member
  obtain ⟨rfl, starts⟩ := mem_ends_lineStart.mp first
  obtain ⟨⟨more, shape⟩, rfl⟩ := mem_ends_literal.mp start
  obtain ⟨middle, ⟨rest, inside⟩, rfl⟩ := mem_ends_lazyMany_char.mp between
  obtain ⟨rfl, again⟩ := mem_ends_lineStart.mp second
  obtain ⟨⟨tail, final⟩, rfl⟩ := mem_ends_literal.mp finish
  have here := past_rest shape.symm
  rw [here] at inside
  have there := past_rest (here.trans inside.symm)
  rw [there] at final
  have suffix := mem_ends_newlineRe last
  rw [past_rest (there.trans final.symm)] at suffix
  refine ⟨starts, middle, tail, ?_, ?_, suffix⟩
  · rw [final, inside, shape]
  · rwa [past_append]

private theorem ends_blockRe_ne_nil {middle tail : List Char} (starts : p.startsLine = true)
    (shape : p.rest = blockStart.toList ++ (middle ++ (blockEnd.toList ++ tail)))
    (again : (p.past (blockStart.toList ++ middle)).startsLine = true) : ends blockRe p ≠ [] := by
  have here := past_rest shape
  have there := past_rest here
  rw [past_append] at again
  suffices found : ((p.past blockStart.toList).past middle).past blockEnd.toList ∈ ends blockRe p from
    List.ne_nil_of_mem found
  refine mem_ends_seq.mpr ⟨p, mem_ends_lineStart.mpr ⟨rfl, starts⟩, ?_⟩
  refine mem_ends_seq.mpr ⟨p.past blockStart.toList,
    mem_ends_literal.mpr ⟨⟨_, shape.symm⟩, rfl⟩, ?_⟩
  refine mem_ends_seq.mpr ⟨_, mem_ends_lazyMany_char.mpr ⟨middle, ⟨_, here.symm⟩, rfl⟩, ?_⟩
  refine mem_ends_seq.mpr ⟨_, mem_ends_lineStart.mpr ⟨rfl, again⟩, ?_⟩
  refine mem_ends_seq.mpr ⟨((p.past blockStart.toList).past middle).past blockEnd.toList,
    mem_ends_literal.mpr ⟨⟨tail, there.symm⟩, rfl⟩, ?_⟩
  exact mem_ends_optional.mpr (.inr rfl)

/-- The beginning of a text. -/
def beginning (text : List Char) : Position := ⟨none, text⟩

private theorem startsLine_beginning :
    ((beginning text).past front).startsLine = endsLine front := by
  rw [Position.startsLine, Position.past, beginning, Option.or_none]
  rfl

/-- What a match in a text consists of. -/
theorem match_shape (shape : text = front ++ back)
    (member : q ∈ ends blockRe ((beginning text).past front)) :
    endsLine front = true ∧ ∃ middle tail,
      back = blockStart.toList ++ (middle ++ (blockEnd.toList ++ tail)) ∧
        endsLine (front ++ (blockStart.toList ++ middle)) = true ∧ q.rest <:+ tail := by
  obtain ⟨starts, middle, tail, rest, again, suffix⟩ := mem_ends_blockRe member
  rw [← past_append, startsLine_beginning] at again
  rw [startsLine_beginning] at starts
  rw [past_rest shape] at rest
  exact ⟨starts, middle, tail, rest, again, suffix⟩

private theorem matches_of_shape {middle tail : List Char} (starts : endsLine front = true)
    (shape : text = front ++ (blockStart.toList ++ (middle ++ (blockEnd.toList ++ tail))))
    (again : endsLine (front ++ (blockStart.toList ++ middle)) = true) :
    ends blockRe ((beginning text).past front) ≠ [] := by
  refine ends_blockRe_ne_nil ?_ (past_rest shape) ?_
  · rwa [startsLine_beginning]
  · rwa [← past_append, startsLine_beginning]

/-! ### Removal -/

/-- Without one of the markers nothing is removed. -/
theorem removeManagedBlock_eq_self
    (plain : ¬ HasLine blockStart.toList text ∨ ¬ HasLine blockEnd.toList text) :
    removeManagedBlock text = text := by
  refine removeAll_eq_self fun before after shape _ => List.eq_nil_iff_forall_not_mem.mpr ?_
  intro q member
  obtain ⟨starts, middle, tail, rfl, again, _⟩ := match_shape shape member
  rcases plain with noStart | noEnd
  · exact noStart ((hasLine_iff (noFeed blockStart_whole)).mpr ⟨before, _, shape, starts⟩)
  · refine noEnd ((hasLine_iff (noFeed blockEnd_whole)).mpr
      ⟨before ++ (blockStart.toList ++ middle), tail, ?_, again⟩)
    rw [shape, List.append_assoc, List.append_assoc]

/-- Where only line breaks are behind the first match, the trimmed rest is what is
before it. -/
theorem trim_removeManagedBlock (shape : text = front ++ back)
    (first : NoMatch blockRe (beginning text) front)
    (found : ends blockRe ((beginning text).past front) ≠ [])
    (last : ∀ q ∈ ends blockRe ((beginning text).past front), ∀ c ∈ q.rest, isBreak c = true) :
    trimBreaks (removeManagedBlock text) = trimBreaks front := by
  obtain ⟨q, others, matched⟩ := List.exists_cons_of_ne_nil found
  have member : q ∈ ends blockRe ((beginning text).past front) := matched ▸ List.mem_cons_self
  obtain ⟨_, middle, tail, rest, _, suffix⟩ := match_shape shape member
  have breaks := last q member
  have shorter : q.rest.length < ((beginning text).past front).rest.length := by
    rw [past_rest shape, rest]
    have start := List.length_pos_iff.mpr blockStart_some
    have within := suffix.length_le
    simp only [List.length_append]
    omega
  have settled : ∀ fuel, removeFrom blockRe fuel q = q.rest := by
    intro fuel
    refine removeFrom_eq_self fun before after split some => List.eq_nil_iff_forall_not_mem.mpr ?_
    intro m again
    obtain ⟨_, middle, tail, rest, _⟩ := mem_ends_blockRe again
    rw [past_rest split] at rest
    obtain ⟨c, more, shape⟩ := List.exists_cons_of_ne_nil blockStart_some
    have marker := blockStart_whole c (shape ▸ List.mem_cons_self)
    have broken := breaks c (by rw [split, rest, shape]; simp)
    rw [marker] at broken
    cases broken
  have room : front.length ≤ text.length + 1 := by
    rw [shape, List.length_append]
    omega
  obtain ⟨fuel, enough⟩ : ∃ fuel, text.length + 1 - front.length = fuel + 1 := by
    refine ⟨text.length - front.length, ?_⟩
    rw [shape, List.length_append]
    omega
  have removed : removeManagedBlock text = front ++ q.rest := by
    rw [removeManagedBlock, removeAll, ← beginning, removeFrom_append shape first room, enough,
      removeFrom, matched, List.head?_cons]
    dsimp only
    rw [if_pos shorter, settled]
  rw [removed, trimBreaks_append breaks]

/-! ### The block itself -/

private theorem block_start (shape : block ++ crlf = front ++ (blockStart.toList ++ back)) :
    front = [] := by
  have only : (block ++ crlf).tails.filter (blockStart.toList.isPrefixOf ·) = [block ++ crlf] := by
    rw [block, blockStart, blockBody, blockEnd, String.toList_ofList, String.toList_ofList,
      String.toList_ofList]
    decide +kernel
  have found : blockStart.toList ++ back ∈
      (block ++ crlf).tails.filter (blockStart.toList.isPrefixOf ·) := by
    rw [List.mem_filter, List.mem_tails, List.isPrefixOf_iff_prefix]
    exact ⟨⟨front, shape.symm⟩, List.prefix_append _ _⟩
  rw [only, List.mem_singleton, shape] at found
  exact List.self_eq_append_left.mp found

private theorem block_end (shape : block ++ crlf = front ++ (blockEnd.toList ++ back)) :
    back = crlf := by
  have only : (block ++ crlf).tails.filter (blockEnd.toList.isPrefixOf ·) =
      [blockEnd.toList ++ crlf] := by
    rw [block, blockStart, blockBody, blockEnd, String.toList_ofList, String.toList_ofList,
      String.toList_ofList]
    decide +kernel
  have found : blockEnd.toList ++ back ∈
      (block ++ crlf).tails.filter (blockEnd.toList.isPrefixOf ·) := by
    rw [List.mem_filter, List.mem_tails, List.isPrefixOf_iff_prefix]
    exact ⟨⟨front, shape.symm⟩, List.prefix_append _ _⟩
  rw [only, List.mem_singleton] at found
  exact List.append_cancel_left found

private theorem block_shape : ∃ middle, block ++ crlf =
    blockStart.toList ++ (middle ++ (blockEnd.toList ++ crlf)) ∧ endsLine middle = true ∧
      middle ≠ [] := by
  refine ⟨crlf ++ trimWhiteSpace blockBody.toList ++ crlf, ?_, ?_, ?_⟩
  · simp only [block, List.append_assoc]
  · rw [endsLine_append (show crlf ≠ [] from List.cons_ne_nil _ _)]
    rfl
  · exact List.append_ne_nil_of_right_ne_nil _ (List.cons_ne_nil _ _)

private theorem managedBlocks_block : managedBlocks (block ++ crlf) = 1 := by
  rw [managedBlocks, block, blockStart, blockBody, blockEnd, String.toList_ofList,
    String.toList_ofList, String.toList_ofList]
  decide +kernel

/-! ### A written profile -/

private theorem isBreak_crlf : ∀ c ∈ crlf, isBreak c = true := forall_mem_of_all (by decide)

private theorem endsLine_lead : endsLine (lead content) = true := by
  unfold lead
  split_ifs with some
  · rw [endsLine_append (show crlf ≠ [] from List.cons_ne_nil _ _)]
    rfl
  · rw [not_not.mp some]
    rfl

private theorem trimBreaks_lead : trimBreaks (lead content) = trimBreaks content := by
  unfold lead
  split_ifs
  · rw [trimBreaks_append isBreak_crlf, trimBreaks_append isBreak_crlf]
  · rfl

private theorem trimBreaks_withoutBlock :
    trimBreaks (withoutBlock content) = trimBreaks content := by
  unfold withoutBlock
  split_ifs
  · rw [trimBreaks_append isBreak_crlf]
  · rfl

/-- Texts with the same trimmed form have lines with the same markers. -/
theorem hasLine_congr {other : List Char} (whole : ∀ c ∈ marker, isBreak c = false)
    (some : marker ≠ []) (same : trimBreaks text = trimBreaks other) :
    HasLine marker text ↔ HasLine marker other := by
  rw [← hasLine_trimBreaks whole some, same, hasLine_trimBreaks whole some]

private theorem withBlock_eq : withBlock content = lead content ++ (block ++ crlf) :=
  List.append_assoc _ _ _

/-- The block is removed again from a profile without a line that begins with
`BlockStart`, and nothing else is. -/
theorem trim_remove_withBlock (noStart : ¬ HasLine blockStart.toList content) :
    trimBreaks (removeManagedBlock (withBlock content)) = trimBreaks content := by
  have absent : ¬ HasLine blockStart.toList (lead content) :=
    mt (hasLine_congr blockStart_whole blockStart_some trimBreaks_lead).mp noStart
  rw [← @trimBreaks_lead content]
  refine trim_removeManagedBlock withBlock_eq ?_ ?_ ?_
  · intro before after split some
    refine List.eq_nil_iff_forall_not_mem.mpr fun q member => some ?_
    have shape : withBlock content = before ++ (after ++ (block ++ crlf)) := by
      rw [withBlock_eq, split, List.append_assoc]
    obtain ⟨starts, middle, tail, rest, _⟩ := match_shape shape member
    have place := shape
    rw [withBlock_eq, rest] at place
    obtain ⟨between, front, found⟩ :=
      marker_behind blockStart_whole absent endsLine_lead place starts
    rw [block_start found, List.append_nil, split] at front
    exact List.self_eq_append_right.mp front
  · obtain ⟨middle, shape, ended, some⟩ := block_shape
    refine @matches_of_shape _ _ middle crlf endsLine_lead ?_ ?_
    · rw [withBlock_eq, shape]
    · rwa [← List.append_assoc, endsLine_append some]
  · intro q member c inside
    obtain ⟨_, middle, tail, rest, _, suffix⟩ := match_shape withBlock_eq member
    rw [← List.append_assoc] at rest
    rw [block_end rest] at suffix
    exact isBreak_crlf c (suffix.subset inside)

/-- From a profile with a line that begins with `BlockStart`, and none that begins
with `BlockEnd`, everything from that line on is removed, or more. -/
theorem trim_remove_stray {before after : List Char} (starts : endsLine before = true)
    (noEnd : ¬ HasLine blockEnd.toList (before ++ (blockStart.toList ++ after))) :
    ∃ front, front.length ≤ before.length ∧ trimBreaks (removeManagedBlock
      (withBlock (before ++ (blockStart.toList ++ after)))) = trimBreaks front := by
  have absent : ¬ HasLine blockEnd.toList (lead (before ++ (blockStart.toList ++ after))) :=
    mt (hasLine_congr blockEnd_whole blockEnd_some trimBreaks_lead).mp noEnd
  -- The stray line and the end of the block that is written are a match.
  obtain ⟨middle, shape, ended, nonempty⟩ := block_shape
  have leads : lead (before ++ (blockStart.toList ++ after)) =
      before ++ (blockStart.toList ++ (after ++ crlf ++ crlf)) := by
    have nonempty : before ++ (blockStart.toList ++ after) ≠ [] :=
      List.append_ne_nil_of_right_ne_nil _ (List.append_ne_nil_of_left_ne_nil blockStart_some _)
    rw [lead, if_pos nonempty]
    simp only [List.append_assoc]
  have whole : withBlock (before ++ (blockStart.toList ++ after)) = before ++ (blockStart.toList ++
      ((after ++ crlf ++ crlf ++ blockStart.toList ++ middle) ++ (blockEnd.toList ++ crlf))) := by
    rw [withBlock_eq, leads, shape]
    simp only [List.append_assoc]
  have found := matches_of_shape starts whole (by
    rw [← List.append_assoc, ← List.append_assoc, endsLine_append nonempty]
    exact ended)
  -- The first match is there or before, so what stays ends before the stray line.
  obtain ⟨front, back, split, none, first, short⟩ := exists_first (show
    (beginning (withBlock (before ++ (blockStart.toList ++ after)))).rest = _ from whole)
    (List.append_ne_nil_of_left_ne_nil blockStart_some _) found
  have split : withBlock (before ++ (blockStart.toList ++ after)) = front ++ back := split
  refine ⟨front, short, trim_removeManagedBlock split none first fun q member c inside => ?_⟩
  obtain ⟨_, middle, tail, rfl, again, suffix⟩ := match_shape split member
  have place : lead (before ++ (blockStart.toList ++ after)) ++ (block ++ crlf) =
      (front ++ (blockStart.toList ++ middle)) ++ (blockEnd.toList ++ tail) := by
    rw [← withBlock_eq, split]
    simp only [List.append_assoc]
  obtain ⟨between, _, found⟩ := marker_behind blockEnd_whole absent endsLine_lead place again
  rw [block_end found] at suffix
  exact isBreak_crlf c (suffix.subset inside)

private theorem length_remove_stray (stray : HasLine blockStart.toList content)
    (noEnd : ¬ HasLine blockEnd.toList content) :
    (trimBreaks (removeManagedBlock (withBlock content))).length < content.length := by
  obtain ⟨before, after, rfl, starts⟩ := (hasLine_iff (noFeed blockStart_whole)).mp stray
  obtain ⟨front, short, trimmed⟩ := trim_remove_stray starts noEnd
  have some := List.length_pos_iff.mpr blockStart_some
  have less := length_trimBreaks_le front
  rw [trimmed, List.length_append, List.length_append]
  omega

/-! ### Sequences of calls -/

/-- A call leaves alone what is not the block, as far as the rest has no line that
begins with `BlockStart`, or none that begins with `BlockEnd` while no block is
written. -/
def LeftAlone (present : Bool) (content : List Char) : Prop :=
  ¬ HasLine blockStart.toList content ∨
    (present = false ∧ ¬ HasLine blockEnd.toList content)

private theorem ownContent_trimmed : trimBreaks (ownContent file) = ownContent file :=
  trimBreaks_idem _

private theorem removeManagedBlock_nil : removeManagedBlock [] = [] := by
  refine removeManagedBlock_eq_self (.inl ?_)
  rintro ⟨line, member, starts⟩
  obtain rfl := List.mem_singleton.mp member
  exact blockStart_some (List.prefix_nil.mp starts)

private theorem ownContent_none : ownContent none = [] := by
  rw [ownContent, Option.getD_none, removeManagedBlock_nil]
  rfl

private theorem getD_setProfile : (setProfile present file).getD [] =
    if present then withBlock (ownContent file) else withoutBlock (ownContent file) := by
  unfold setProfile
  split_ifs
  · rfl
  · cases file with
    | none => rw [ownContent_none]; rfl
    | some text => rfl

private theorem ownContent_setProfile (alone : LeftAlone present (ownContent file)) :
    ownContent (setProfile present file) = ownContent file := by
  rw [ownContent, getD_setProfile]
  cases present with
  | true =>
    rcases alone with noStart | ⟨no, _⟩
    · exact (trim_remove_withBlock noStart).trans ownContent_trimmed
    · cases no
  | false =>
    have plain : ¬ HasLine blockStart.toList (withoutBlock (ownContent file)) ∨
        ¬ HasLine blockEnd.toList (withoutBlock (ownContent file)) := by
      refine alone.imp (fun noStart => ?_) (fun noEnd => ?_)
      · exact mt (hasLine_congr blockStart_whole blockStart_some trimBreaks_withoutBlock).mp noStart
      · exact mt (hasLine_congr blockEnd_whole blockEnd_some trimBreaks_withoutBlock).mp noEnd.2
    change trimBreaks (removeManagedBlock (withoutBlock (ownContent file))) = ownContent file
    rw [removeManagedBlock_eq_self plain, trimBreaks_withoutBlock, ownContent_trimmed]

private theorem ownContent_afterCalls {calls : List Bool}
    (alone : ∀ present ∈ calls, LeftAlone present (ownContent (profiles path))) :
    ownContent (afterCalls calls profiles path) = ownContent (profiles path) := by
  induction calls using List.reverseRecOn with
  | nil => rfl
  | append_singleton calls present ih =>
    have before := ih fun other member => alone other (List.mem_append_left _ member)
    have last := alone present (List.mem_append_right _ List.mem_cons_self)
    rw [afterCalls_snoc, ownContent_setProfile, before]
    rwa [before]

/-! ### What is left of a profile -/

private theorem completeBlocks_append {start finish : List Char} {first rest : List (List Char)}
    (none : ∀ line ∈ first, ¬ start <+: line) :
    completeBlocks start finish false (first ++ rest) = completeBlocks start finish false rest := by
  induction first with
  | nil => rfl
  | cons line first ih =>
    have outside : start.isPrefixOf line = false := by
      rw [Bool.eq_false_iff, ne_eq, List.isPrefixOf_iff_prefix]
      exact none line List.mem_cons_self
    rw [List.cons_append, completeBlocks, outside]
    exact ih fun other member => none other (List.mem_cons_of_mem _ member)

private theorem completeBlocks_eq_zero {start finish : List Char} {inside : Bool}
    {all : List (List Char)}
    (none : ∀ line ∈ all, ¬ finish <+: line) : completeBlocks start finish inside all = 0 := by
  induction all generalizing inside with
  | nil => cases inside <;> rfl
  | cons line rest ih =>
    have later := fun inside => @ih inside fun other member =>
      none other (List.mem_cons_of_mem _ member)
    cases inside with
    | false => exact later _
    | true =>
      rw [completeBlocks, if_neg, later]
      rw [List.isPrefixOf_iff_prefix]
      exact none line List.mem_cons_self

private theorem managedBlocks_withBlock (noStart : ¬ HasLine blockStart.toList content) :
    managedBlocks (withBlock content) = 1 := by
  by_cases some : content = []
  · rw [some]
    exact managedBlocks_block
  · have split : withBlock content = (content ++ crlf ++ ['\r']) ++ '\n' :: (block ++ crlf) := by
      rw [withBlock_eq, lead, if_pos some]
      simp [crlf]
    have same : trimBreaks (content ++ crlf ++ ['\r']) = trimBreaks content := by
      rw [trimBreaks_append (forall_mem_of_all (by decide)), trimBreaks_append isBreak_crlf]
    have absent := mt (hasLine_congr blockStart_whole blockStart_some same).mp noStart
    rw [managedBlocks, split, pieces_newline, completeBlocks_append, ← managedBlocks,
      managedBlocks_block]
    exact fun line member starts => absent ⟨line, member, starts⟩

private theorem managedBlocks_eq_zero (plain : ¬ HasLine blockStart.toList text ∨
    ¬ HasLine blockEnd.toList text) : managedBlocks text = 0 := by
  rcases plain with noStart | noEnd
  · rw [managedBlocks, ← List.append_nil (pieces text), completeBlocks_append]
    · rfl
    · exact fun line member starts => noStart ⟨line, member, starts⟩
  · exact completeBlocks_eq_zero fun line member starts => noEnd ⟨line, member, starts⟩

/-- A call that leaves the rest alone does what it is for. -/
theorem onlyBlockChanged {initial : List Char} (rest : ownContent file = trimBreaks initial)
    (alone : LeftAlone present (ownContent file)) :
    OnlyBlockChanged initial present (setProfile present file) := by
  refine ⟨?_, ?_, ?_⟩
  · rw [getD_setProfile, rest]
    by_cases blank : trimBreaks initial = []
    · exact linesKept_blank blank
    split_ifs
    · rw [withBlock_eq, lead, if_pos blank, List.append_assoc, List.append_assoc]
      exact linesKept_crlf
    · rw [withoutBlock, if_pos blank]
      exact linesKept_crlf
  · rw [getD_setProfile]
    cases present with
    | true =>
      rcases alone with noStart | ⟨no, _⟩
      · exact managedBlocks_withBlock noStart
      · cases no
    | false =>
      refine managedBlocks_eq_zero (alone.imp (fun noStart => ?_) fun noEnd => ?_)
      · exact mt (hasLine_congr blockStart_whole blockStart_some trimBreaks_withoutBlock).mp noStart
      · exact mt (hasLine_congr blockEnd_whole blockEnd_some trimBreaks_withoutBlock).mp noEnd.2
  · have same := ownContent_setProfile alone
    cases present with
    | true =>
      rw [setProfile, if_pos rfl, same]
      rfl
    | false =>
      cases file with
      | none => rfl
      | some text => exact congrArg (fun content => some (withoutBlock content)) same

private theorem length_withBlock_lt {other : List Char} (shorter : other.length < content.length) :
    (withBlock other).length < (withBlock content).length := by
  have some : content ≠ [] := List.length_pos_iff.mp (Nat.zero_lt_of_lt shorter)
  rw [withBlock_eq, withBlock_eq, List.length_append, List.length_append, lead, lead, if_pos some]
  split_ifs
  · simp only [List.length_append]
    omega
  · simp only [List.length_append]
    omega

/-- **When a profile keeps its own lines.** For every profile with no line that begins
with `BlockEnd`: its lines stay, with the one block as the last call has it, after every
sequence of calls exactly when no line begins with `BlockStart`. Without a call that
writes the block they stay in any case. -/
theorem profile_lines_kept_iff
    (noEnd : ¬ HasLine blockEnd.toList ((profiles path).getD [])) :
    ((∀ calls present, OnlyBlockChanged ((profiles path).getD []) present
        (afterCalls (calls ++ [present]) profiles path)) ↔
      ¬ HasLine blockStart.toList ((profiles path).getD [])) ∧
    ∀ calls, (∀ present ∈ calls, present = false) →
      OnlyBlockChanged ((profiles path).getD []) false
        (afterCalls (calls ++ [false]) profiles path) := by
  have rest : ownContent (profiles path) = trimBreaks ((profiles path).getD []) := by
    rw [ownContent, removeManagedBlock_eq_self (.inr noEnd)]
  have noEndRest : ¬ HasLine blockEnd.toList (ownContent (profiles path)) := by
    rwa [rest, hasLine_trimBreaks blockEnd_whole blockEnd_some]
  have all : ∀ calls present, (∀ other ∈ calls ++ [present],
      LeftAlone other (ownContent (profiles path))) → OnlyBlockChanged ((profiles path).getD [])
        present (afterCalls (calls ++ [present]) profiles path) := by
    intro calls present alone
    have same := ownContent_afterCalls fun other member =>
      alone other (List.mem_append_left _ member)
    rw [afterCalls_snoc]
    refine onlyBlockChanged (same.trans rest) ?_
    rw [same]
    exact alone present (List.mem_append_right _ List.mem_cons_self)
  refine ⟨⟨fun kept stray => ?_, fun noStart calls present => ?_⟩, fun calls absent => ?_⟩
  · have settled := (kept [] true).settled
    rw [afterCalls_snoc, setProfile, if_pos rfl, setProfile, if_pos rfl] at settled
    have strayRest : HasLine blockStart.toList (ownContent (profiles path)) := by
      rwa [rest, hasLine_trimBreaks blockStart_whole blockStart_some]
    have shorter := length_withBlock_lt (length_remove_stray strayRest noEndRest)
    exact absurd (congrArg List.length (Option.some.inj settled)) (Nat.ne_of_lt shorter)
  · refine all calls present fun other _ => .inl ?_
    rwa [rest, hasLine_trimBreaks blockStart_whole blockStart_some]
  · refine all calls false fun other member => .inr ⟨?_, noEndRest⟩
    rcases List.mem_append.mp member with earlier | last
    · exact absent other earlier
    · exact List.mem_singleton.mp last

/-- Profiles with a line of their own. -/
def aliasProfiles : Profiles := fun _ => some "Set-Alias ll Get-ChildItem\r\n".toList

theorem alias_profiles_kept :
    ((∀ calls present, OnlyBlockChanged ((aliasProfiles .powerShell).getD []) present
        (afterCalls (calls ++ [present]) aliasProfiles .powerShell)) ↔
      ¬ HasLine blockStart.toList ((aliasProfiles .powerShell).getD [])) ∧
    ∀ calls, (∀ present ∈ calls, present = false) →
      OnlyBlockChanged ((aliasProfiles .powerShell).getD []) false
        (afterCalls (calls ++ [false]) aliasProfiles .powerShell) :=
  profile_lines_kept_iff (by
    rw [aliasProfiles, blockEnd, String.toList_ofList, String.toList_ofList]
    decide +kernel)

/-- A profile in which a marker line is left over before a line of its own. -/
def strayProfile : List Char :=
  "# >>> FW installer integration >>>\r\nSet-Alias ll Get-ChildItem\r\n".toList

/-- Installing and uninstalling over a left-over marker line deletes the lines behind
it. -/
theorem stray_profile_emptied :
    ¬ HasLine blockEnd.toList strayProfile ∧
      afterCalls [true, false] (fun _ => some strayProfile) .powerShell = some [] ∧
      ¬ OnlyBlockChanged strayProfile false (some []) := by
  have startText : blockStart.toList = _ := String.toList_ofList
  have endText : blockEnd.toList = _ := String.toList_ofList
  have text : strayProfile = _ := String.toList_ofList
  have noEnd : ¬ HasLine blockEnd.toList strayProfile := by
    rw [endText, text]
    decide +kernel
  refine ⟨noEnd, ?_, fun changed => ?_⟩
  · have rest : ownContent (some strayProfile) =
        [] ++ (blockStart.toList ++ "\r\nSet-Alias ll Get-ChildItem".toList) := by
      rw [ownContent, Option.getD_some, removeManagedBlock_eq_self (.inr noEnd), startText, text]
      decide +kernel
    have noEndRest : ¬ HasLine blockEnd.toList (ownContent (some strayProfile)) := by
      rwa [ownContent, Option.getD_some, removeManagedBlock_eq_self (.inr noEnd),
        hasLine_trimBreaks blockEnd_whole blockEnd_some]
    rw [rest] at noEndRest
    obtain ⟨front, short, trimmed⟩ := trim_remove_stray rfl noEndRest
    obtain rfl := List.length_eq_zero_iff.mp (Nat.le_zero.mp short)
    have once : afterCalls [true] (fun _ => some strayProfile) .powerShell =
        some (withBlock (ownContent (some strayProfile))) := @afterCalls_snoc _ _ _ []
    have twice : afterCalls [true, false] (fun _ => some strayProfile) .powerShell =
        setProfile false (afterCalls [true] (fun _ => some strayProfile) .powerShell) :=
      @afterCalls_snoc _ _ _ [true]
    rw [twice, once, rest, setProfile, if_neg Bool.false_ne_true, Option.map_some, ownContent,
      Option.getD_some, trimmed]
    rfl
  · have kept := changed.kept
    rw [LinesKept, text] at kept
    revert kept
    decide +kernel

end CfFw
