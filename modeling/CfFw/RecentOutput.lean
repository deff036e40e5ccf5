import CfFw.BoundedLog
import CfFw.LossyText
import Mathlib.Data.List.Forall2

/-! The output that cloudflared leaves behind, from `cloudflared.rs`. Each push is
cut to one line that fits by itself, and the stored lines are the bounded log of
all lines. Slicing a string outside a character boundary has no result here, so
that a push returns is part of what is proved. -/
namespace CfFw.Text

/-- `str::get` with a range to the end. -/
def sliceChars : List Char → Nat → Option (List Char)
  | text, 0 => some text
  | [], _ + 1 => none
  | c :: rest, start + 1 =>
    if c.utf8Size ≤ start + 1 then sliceChars rest (start + 1 - c.utf8Size) else none

/-- `&text[start..]`, which panics where there is no slice. -/
def sliceFrom (text : String) (start : Nat) : Option String :=
  (sliceChars text.toList start).map String.ofList

/-- `str::is_char_boundary`. -/
def isCharBoundary (text : String) (index : Nat) : Bool := (sliceFrom text index).isSome

/-- `str::trim_end_matches` with a set of characters. -/
def trimEndMatches (s : String) (pattern : List Char) : String :=
  String.ofList (s.toList.rdropWhile fun c => decide (c ∈ pattern))

end CfFw.Text

namespace CfFw
open Text BoundedLog

def maxCloudflaredOutputBytes : Nat := 64 * 1024
def maxCloudflaredOutputLines : Nat := 100

/-- `usize::MAX`. -/
def usizeMax : Nat := 18446744073709551615

/-- `cloudflared.rs::OutputState`. -/
structure OutputState where
  lines : List String
  bytes : Nat
  deriving DecidableEq

/-- `RecentOutput::new`. -/
def OutputState.new : OutputState := ⟨[], 0⟩

/-- `RecentOutput::snapshot`. -/
def OutputState.snapshot (state : OutputState) : String := "\n".intercalate state.lines

/-- The loop that looks for a character boundary, for so many turns. -/
def charBoundaryFrom (text : String) : Nat → Nat → Option Nat
  | 0, _ => none
  | turns + 1, start =>
    if isCharBoundary text start then some start else charBoundaryFrom text turns (start + 1)

/-- The line that `push_bytes` stores, or nothing if it panics. -/
def formatLine (source : String) (bytes : List UInt8) : Option String :=
  let label := s!"[{source}] "
  let maximumPayload := maxCloudflaredOutputBytes - (len label + 1)
  let bytes :=
    if bytes.length > maximumPayload then bytes.drop (bytes.length - maximumPayload) else bytes
  let text := trimEndMatches (fromUtf8Lossy bytes) ['\r', '\n']
  (charBoundaryFrom text (len text + 1) (len text - maximumPayload)).bind fun start =>
    (sliceFrom text start).map fun payload => label ++ payload

/-- The bytes a line counts for. -/
def lineBytes (line : String) : Nat := len line + 1

/-- The eviction loop of `push_bytes`. -/
def evict : List String → Nat → OutputState
  | [], bytes => ⟨[], bytes⟩
  | removed :: rest, bytes =>
    if (removed :: rest).length > maxCloudflaredOutputLines ∨ bytes > maxCloudflaredOutputBytes then
      evict rest (bytes - lineBytes removed)
    else ⟨removed :: rest, bytes⟩

/-- `RecentOutput::push_bytes`. -/
def OutputState.pushBytes (state : OutputState) (source : String) (bytes : List UInt8) :
    Option OutputState :=
  (formatLine source bytes).map fun line =>
    evict (state.lines ++ [line]) (min usizeMax (state.bytes + lineBytes line))

/-- The two streams whose output is kept. -/
inductive OutputSource where
  | stdout
  | stderr
  deriving DecidableEq

/-- The source name that `capture_child_output` passes on. -/
def OutputSource.label : OutputSource → String
  | .stdout => "stdout"
  | .stderr => "stderr"

/-- Calls of `push_bytes`, one after the other. -/
def OutputState.pushAll (state : OutputState) :
    List (OutputSource × List UInt8) → Option OutputState
  | [] => some state
  | (source, bytes) :: rest => (state.pushBytes source.label bytes).bind (pushAll · rest)

/-! ### Character boundaries -/

private theorem len_eq_sum (s : String) : len s = (s.toList.map Char.utf8Size).sum := by
  simp [len, bytes, List.length_flatMap, String.length_utf8EncodeChar]

private theorem sliceChars_end (text : List Char) :
    sliceChars text (text.map Char.utf8Size).sum = some [] := by
  induction text with
  | nil => rfl
  | cons c rest ih =>
    have positive := c.utf8Size_pos
    obtain ⟨last, whole⟩ : ∃ last, ((c :: rest).map Char.utf8Size).sum = last + 1 :=
      ⟨((c :: rest).map Char.utf8Size).sum - 1, by simp; omega⟩
    rw [whole, sliceChars, ← whole, List.map_cons, List.sum_cons, if_pos (Nat.le_add_right _ _),
      Nat.add_sub_cancel_left, ih]

private theorem sliceChars_length {text rest : List Char} {start : Nat}
    (sliced : sliceChars text start = some rest) :
    start + (rest.map Char.utf8Size).sum = (text.map Char.utf8Size).sum := by
  induction text generalizing start with
  | nil =>
    cases start with
    | zero =>
      cases sliced
      rfl
    | succ start => cases sliced
  | cons c tail ih =>
    cases start with
    | zero =>
      cases sliced
      exact Nat.zero_add _
    | succ start =>
      rw [sliceChars] at sliced
      split at sliced
      · have shorter := ih sliced
        simp only [List.map_cons, List.sum_cons]
        omega
      · cases sliced

/-- The length of a slice. -/
theorem len_sliceFrom {text payload : String} {start : Nat}
    (sliced : sliceFrom text start = some payload) : start + len payload = len text := by
  obtain ⟨rest, found, rfl⟩ := Option.map_eq_some_iff.mp sliced
  have whole := sliceChars_length found
  rw [len_eq_sum, len_eq_sum, String.toList_ofList]
  exact whole

/-- The end of the text is a boundary, so the loop finds one in time. -/
theorem charBoundaryFrom_found (text : String) {turns start : Nat} (within : start ≤ len text)
    (enough : len text < start + turns) :
    ∃ boundary, charBoundaryFrom text turns start = some boundary ∧ start ≤ boundary ∧
      isCharBoundary text boundary = true := by
  induction turns generalizing start with
  | zero => omega
  | succ turns ih =>
    rw [charBoundaryFrom]
    by_cases here : isCharBoundary text start = true
    · exact ⟨start, by rw [if_pos here], Nat.le_refl _, here⟩
    · have before : start ≠ len text := by
        rintro rfl
        apply here
        simp [isCharBoundary, sliceFrom, len_eq_sum, sliceChars_end]
      obtain ⟨boundary, found, later, isBoundary⟩ := @ih (start + 1) (by omega) (by omega)
      exact ⟨boundary, by rw [if_neg here, found], by omega, isBoundary⟩

/-! ### One line -/

theorem len_label (source : OutputSource) : len s!"[{source.label}] " = 9 := by
  cases source <;> decide

/-- A push formats one line, and the line fits by itself. -/
theorem formatLine_fits (source : OutputSource) (bytes : List UInt8) :
    ∃ line, formatLine source.label bytes = some line ∧
      lineBytes line ≤ maxCloudflaredOutputBytes := by
  have label := len_label source
  simp only [formatLine, label]
  generalize trimEndMatches _ _ = text
  obtain ⟨start, found, later, isBoundary⟩ := @charBoundaryFrom_found text (len text + 1)
    (len text - (maxCloudflaredOutputBytes - (9 + 1))) (Nat.sub_le _ _) (by omega)
  obtain ⟨payload, sliced⟩ := Option.isSome_iff_exists.mp isBoundary
  refine ⟨_, by rw [found, Option.bind_some, sliced, Option.map_some], ?_⟩
  have length := len_sliceFrom sliced
  rw [lineBytes, len_append, label, maxCloudflaredOutputBytes]
  rw [maxCloudflaredOutputBytes] at later
  omega

private theorem lineBytes_le {source : OutputSource} {bytes : List UInt8} {line : String}
    (formatted : formatLine source.label bytes = some line) :
    lineBytes line ≤ maxCloudflaredOutputBytes := by
  obtain ⟨other, same, small⟩ := formatLine_fits source bytes
  rw [formatted] at same
  cases same
  exact small

private theorem lineBytes_le_all {pushes : List (OutputSource × List UInt8)} {lines : List String}
    (formatted :
      List.Forall₂ (fun push line => formatLine push.1.label push.2 = some line) pushes lines) :
    ∀ line ∈ lines, lineBytes line ≤ maxCloudflaredOutputBytes := by
  induction formatted with
  | nil => exact List.forall_mem_nil _
  | cons one _ ih => exact List.forall_mem_cons.mpr ⟨lineBytes_le one, ih⟩

/-! ### The stored lines -/

/-- With the counter in step, the loop drops the oldest lines until the rest
fits. -/
theorem evict_eq (lines : List String) : evict lines (total lineBytes lines) =
    let kept := newest lineBytes maxCloudflaredOutputLines maxCloudflaredOutputBytes lines
    ⟨kept, total lineBytes kept⟩ := by
  induction lines with
  | nil => rfl
  | cons removed rest ih =>
    have exceeds : ((removed :: rest).length > maxCloudflaredOutputLines ∨
        total lineBytes (removed :: rest) > maxCloudflaredOutputBytes) ↔
        ¬ Fits lineBytes maxCloudflaredOutputLines maxCloudflaredOutputBytes (removed :: rest) := by
      rw [Fits]
      omega
    rw [evict, newest]
    by_cases fits : Fits lineBytes maxCloudflaredOutputLines maxCloudflaredOutputBytes
        (removed :: rest)
    · rw [if_neg (by rw [exceeds]; exact not_not.mpr fits), if_pos fits]
    · rw [if_pos (exceeds.mpr fits), if_neg fits, total_cons, Nat.add_sub_cancel_left, ih]

/-- The stored lines are the newest of all, and the counter is in step. -/
def KeepsNewest (lines : List String) (state : OutputState) : Prop :=
  state.lines = newest lineBytes maxCloudflaredOutputLines maxCloudflaredOutputBytes lines ∧
    state.bytes = total lineBytes state.lines

/-- A push adds its line to what the state keeps. -/
theorem KeepsNewest.pushBytes {lines : List String} {state : OutputState} (keeps : KeepsNewest lines state)
    (source : OutputSource) (bytes : List UInt8) :
    ∃ line after, formatLine source.label bytes = some line ∧
      state.pushBytes source.label bytes = some after ∧ KeepsNewest (lines ++ [line]) after := by
  obtain ⟨line, formatted, small⟩ := formatLine_fits source bytes
  obtain ⟨stored, counted⟩ := keeps
  refine ⟨line, _, formatted, by rw [OutputState.pushBytes, formatted, Option.map_some], ?_⟩
  have bounded : total lineBytes state.lines ≤ maxCloudflaredOutputBytes := by
    rw [stored]
    exact (newest_fits lines).2
  have unsaturated : min usizeMax (state.bytes + lineBytes line) =
      total lineBytes (state.lines ++ [line]) := by
    rw [total_append, total_cons, total_nil, counted, usizeMax]
    rw [maxCloudflaredOutputBytes] at small bounded
    omega
  rw [unsaturated, evict_eq, stored, newest_append]
  exact ⟨rfl, rfl⟩

/-- Any sequence of pushes leaves the newest of its lines. -/
theorem pushAll_keeps (pushes : List (OutputSource × List UInt8)) {before : List String}
    {state : OutputState} (keeps : KeepsNewest before state) :
    ∃ lines after, List.Forall₂ (fun push line => formatLine push.1.label push.2 = some line)
        pushes lines ∧
      state.pushAll pushes = some after ∧ KeepsNewest (before ++ lines) after := by
  induction pushes generalizing before state with
  | nil => exact ⟨[], state, .nil, rfl, by rwa [List.append_nil]⟩
  | cons push rest ih =>
    obtain ⟨line, middle, formatted, pushed, kept⟩ := keeps.pushBytes push.1 push.2
    obtain ⟨lines, after, formattedRest, pushedRest, keptRest⟩ := ih kept
    refine ⟨line :: lines, after, .cons formatted formattedRest, ?_, ?_⟩
    · rw [OutputState.pushAll, pushed, Option.bind_some, pushedRest]
    · rwa [List.append_assoc] at keptRest

/-- Joining the lines takes one byte less than they count for. -/
theorem len_snapshot_le (state : OutputState) :
    len state.snapshot ≤ total lineBytes state.lines := by
  have newline : len "\n" = 1 := by decide
  rw [OutputState.snapshot]
  induction state.lines with
  | nil => exact Nat.le_refl 0
  | cons first rest ih =>
    cases rest with
    | nil =>
      rw [String.intercalate_singleton, total_cons, lineBytes]
      omega
    | cons second rest =>
      rw [String.intercalate_cons_cons, len_append, len_append, newline, total_cons, lineBytes]
      omega

/-- **Recent output is the longest suffix that fits.** Any sequence of pushes
returns, whatever the bytes and the order of the two streams. The counter is the
bytes of the stored lines, which are the longest suffix of all lines within both
limits; the newest line is among them, and a snapshot is within the limit. -/
theorem recent_output_longest_suffix (pushes : List (OutputSource × List UInt8)) :
    ∃ lines state,
      List.Forall₂ (fun push line => formatLine push.1.label push.2 = some line) pushes lines ∧
      OutputState.new.pushAll pushes = some state ∧
      state.bytes = (state.lines.map fun line => len line + 1).sum ∧
      state.lines <:+ lines ∧ state.lines.length ≤ maxCloudflaredOutputLines ∧
      state.bytes ≤ maxCloudflaredOutputBytes ∧
      (∀ suffix : List String, suffix <:+ lines → suffix.length ≤ maxCloudflaredOutputLines →
        (suffix.map fun line => len line + 1).sum ≤ maxCloudflaredOutputBytes →
        suffix <:+ state.lines) ∧
      state.lines.getLast? = lines.getLast? ∧
      len state.snapshot ≤ maxCloudflaredOutputBytes := by
  obtain ⟨lines, state, formatted, pushed, stored, counted⟩ :=
    pushAll_keeps pushes (⟨rfl, rfl⟩ : KeepsNewest [] OutputState.new)
  rw [List.nil_append] at stored
  have fits : Fits lineBytes maxCloudflaredOutputLines maxCloudflaredOutputBytes
      (newest lineBytes maxCloudflaredOutputLines maxCloudflaredOutputBytes lines) :=
    newest_fits lines
  rw [← stored] at fits
  refine ⟨lines, state, formatted, pushed, counted, stored ▸ newest_suffix lines, fits.1,
    counted ▸ fits.2, fun suffix ends count size => ?_, ?_, ?_⟩
  · rw [stored]
    exact newest_longest ⟨count, size⟩ ends
  · rw [stored]
    have small := lineBytes_le_all formatted
    rcases List.eq_nil_or_concat lines with rfl | ⟨earlier, last, rfl⟩
    · rfl
    · rw [List.concat_eq_append] at small ⊢
      have lastFits : Fits lineBytes maxCloudflaredOutputLines maxCloudflaredOutputBytes [last] :=
        ⟨Nat.le_of_ble_eq_true rfl, small last (List.mem_append_right _ (List.mem_singleton_self last))⟩
      rw [newest_keeps lastFits, List.getLast?_append, List.getLast?_singleton, Option.some_or]
  · exact Nat.le_trans (len_snapshot_le state) fits.2

end CfFw
