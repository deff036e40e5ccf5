import CfFw.RecentOutput

/-! How `cloudflared.rs::capture_stream` cuts a stream into the strings it pushes.
Nothing is lost, what waits for a newline is bounded, and unless a line is too long
the pieces are the lines of the stream, wherever the reads end. -/
namespace CfFw
open Text

def readChunkBytes : Nat := 4096

/-- The byte `b'\n'`. -/
def newline : UInt8 := 10

/-- The loop that drains lines: what it pushes, and what is left pending. -/
def drainLines (pending : List UInt8) : List (List UInt8) × List UInt8 :=
  match _found : pending.findIdx? (· == newline) with
  | none => ([], pending)
  | some position =>
    let (lines, rest) := drainLines (pending.drop (position + 1))
    (pending.take (position + 1) :: lines, rest)
termination_by pending.length
decreasing_by
  obtain ⟨within, _⟩ := List.findIdx?_eq_some_iff_findIdx_eq.mp _found
  rw [List.length_drop]
  omega

/-- What one read of `capture_stream` pushes, and what is pending after it. -/
def captureRead (pending chunk : List UInt8) : List (List UInt8) × List UInt8 :=
  let (lines, pending) := drainLines (pending ++ chunk)
  if pending.length ≥ readChunkBytes * 2 then
    (lines ++ [pending.take readChunkBytes], pending.drop readChunkBytes)
  else (lines, pending)

/-- What a read of the stream returns: bytes, none at the end of the file, or an
error. -/
inductive ReadOutcome where
  | read (chunk : List UInt8)
  | failed
  deriving DecidableEq

/-- `cloudflared.rs::capture_stream`, as the strings it passes to `push_bytes`. -/
def captureStream (pending : List UInt8) : List ReadOutcome → List (List UInt8)
  | [] | .failed :: _ => []
  | .read [] :: _ => if pending = [] then [] else [pending]
  | .read (first :: more) :: rest =>
    let (pushed, pending) := captureRead pending (first :: more)
    pushed ++ captureStream pending rest

/-- What is pending after some reads. -/
def pendingAfter (chunks : List (List UInt8)) : List UInt8 :=
  chunks.foldl (fun pending chunk => (captureRead pending chunk).2) []

/-- The lines of a text: each up to its newline, and the rest if there is one. -/
def linesOf : List UInt8 → List (List UInt8)
  | [] => []
  | first :: rest =>
    if first = newline then [first] :: linesOf rest
    else match linesOf rest with
      | [] => [[first]]
      | line :: lines => (first :: line) :: lines

variable {pending chunk rest body : List UInt8}

/-! ### Lines -/

private theorem linesOf_flatten (text : List UInt8) : (linesOf text).flatten = text := by
  induction text with
  | nil => rfl
  | cons first rest ih =>
    rw [linesOf]
    split
    · rw [List.flatten_cons, ih]
      rfl
    · cases lines : linesOf rest with
      | nil =>
        rw [lines] at ih
        rw [← ih]
        rfl
      | cons line lines' =>
        rw [lines] at ih
        simpa using ih

private theorem linesOf_line (plain : newline ∉ body) (rest : List UInt8) :
    linesOf (body ++ newline :: rest) = (body ++ [newline]) :: linesOf rest := by
  induction body with
  | nil => simp [linesOf]
  | cons first body ih =>
    rw [List.mem_cons, not_or] at plain
    rw [List.cons_append, linesOf, if_neg (Ne.symm plain.1), ih plain.2]
    rfl

private theorem linesOf_remainder (plain : newline ∉ body) (nonempty : body ≠ []) :
    linesOf body = [body] := by
  induction body with
  | nil => exact absurd rfl nonempty
  | cons first body ih =>
    rw [List.mem_cons, not_or] at plain
    rw [linesOf, if_neg (Ne.symm plain.1)]
    cases body with
    | nil => rfl
    | cons second body => rw [ih plain.2 (List.cons_ne_nil _ _)]

/-! ### Draining -/

/-- What stands before the first newline, and after it. -/
theorem findIdx?_newline {position : Nat}
    (found : pending.findIdx? (· == newline) = some position) :
    ∃ body rest, pending = body ++ newline :: rest ∧ newline ∉ body ∧
      pending.take (position + 1) = body ++ [newline] ∧ pending.drop (position + 1) = rest := by
  obtain ⟨within, here, before⟩ := List.findIdx?_eq_some_iff_getElem.mp found
  have here : pending[position] = newline := by simpa using here
  have split : pending = pending.take position ++ newline :: pending.drop (position + 1) := by
    rw [← here, ← List.drop_eq_getElem_cons within, List.take_append_drop]
  refine ⟨_, _, split, ?_, ?_, rfl⟩
  · intro member
    obtain ⟨earlier, bound, same⟩ := List.mem_take_iff_getElem.mp member
    exact before earlier (by omega) (by simp [same])
  · rw [List.take_succ_eq_append_getElem within, here]

/-- One turn of the loop, or none when there is no newline. -/
theorem drainLines_cases (pending : List UInt8) :
    (newline ∉ pending ∧ drainLines pending = ([], pending)) ∨
    ∃ body rest, pending = body ++ newline :: rest ∧ newline ∉ body ∧
      drainLines pending = ((body ++ [newline]) :: (drainLines rest).1, (drainLines rest).2) := by
  rw [drainLines]
  cases found : pending.findIdx? (· == newline) with
  | none =>
    refine Or.inl ⟨fun member => ?_, by split <;> simp_all⟩
    have absent := List.findIdx?_eq_none_iff.mp found newline member
    simp at absent
  | some position =>
    obtain ⟨body, rest, whole, plain, line, remaining⟩ := findIdx?_newline found
    refine Or.inr ⟨body, rest, whole, plain, ?_⟩
    split
    · rename_i none
      cases none
    · rename_i same
      cases same
      rw [line, remaining]

/-- The loop ends with no newline pending. -/
theorem drainLines_plain (pending : List UInt8) : newline ∉ (drainLines pending).2 := by
  rcases drainLines_cases pending with ⟨plain, drained⟩ | ⟨body, rest, whole, _, drained⟩
  · rwa [drained]
  · rw [drained]
    exact drainLines_plain rest
termination_by pending.length
decreasing_by
  rw [whole, List.length_append, List.length_cons]
  omega

/-- What the loop drains is the lines that are complete, whatever follows. -/
theorem linesOf_drainLines (pending more : List UInt8) : linesOf (pending ++ more) =
    (drainLines pending).1 ++ linesOf ((drainLines pending).2 ++ more) := by
  rcases drainLines_cases pending with ⟨_, drained⟩ | ⟨body, rest, whole, plain, drained⟩
  · rw [drained, List.nil_append]
  · rw [drained, whole, List.append_assoc, List.cons_append, linesOf_line plain,
      linesOf_drainLines rest more]
    rfl
termination_by pending.length
decreasing_by
  rw [whole, List.length_append, List.length_cons]
  omega

private theorem drainLines_flatten (pending : List UInt8) :
    (drainLines pending).1.flatten ++ (drainLines pending).2 = pending := by
  have lines := congrArg List.flatten (linesOf_drainLines pending [])
  rw [linesOf_flatten, List.flatten_append, linesOf_flatten, List.append_nil, List.append_nil]
    at lines
  exact lines.symm

/-! ### One read -/

private theorem captureRead_eq (pending chunk : List UInt8) : captureRead pending chunk =
    if (drainLines (pending ++ chunk)).2.length ≥ readChunkBytes * 2 then
      ((drainLines (pending ++ chunk)).1 ++
          [(drainLines (pending ++ chunk)).2.take readChunkBytes],
        (drainLines (pending ++ chunk)).2.drop readChunkBytes)
    else drainLines (pending ++ chunk) := rfl

private theorem captureStream_read (pending : List UInt8) (nonempty : chunk ≠ [])
    (outcomes : List ReadOutcome) : captureStream pending (.read chunk :: outcomes) =
      (captureRead pending chunk).1 ++ captureStream (captureRead pending chunk).2 outcomes := by
  obtain ⟨first, more, rfl⟩ := List.exists_cons_of_ne_nil nonempty
  rfl

private theorem captureStream_end (pending : List UInt8) :
    captureStream pending [.read []] = if pending = [] then [] else [pending] := rfl

private theorem captureRead_flatten (pending chunk : List UInt8) :
    (captureRead pending chunk).1.flatten ++ (captureRead pending chunk).2 = pending ++ chunk := by
  have drained := drainLines_flatten (pending ++ chunk)
  rw [captureRead_eq]
  split
  · rw [List.flatten_append, List.flatten_singleton, List.append_assoc, List.take_append_drop,
      drained]
  · exact drained

/-- One forced drain brings what is pending back under the bound. -/
theorem captureRead_short (short : pending.length < 2 * readChunkBytes)
    (sized : chunk.length ≤ readChunkBytes) :
    (captureRead pending chunk).2.length < 2 * readChunkBytes := by
  have whole := congrArg List.length (drainLines_flatten (pending ++ chunk))
  rw [List.length_append, List.length_append] at whole
  rw [captureRead_eq]
  split
  · rw [List.length_drop]
    omega
  · omega

/-- No string pushed is longer than what was pending with the bytes read. -/
theorem captureRead_pushed {bytes : List UInt8} (pushed : bytes ∈ (captureRead pending chunk).1) :
    bytes.length ≤ pending.length + chunk.length := by
  have whole := congrArg List.length (captureRead_flatten pending chunk)
  have inside := (List.sublist_flatten_of_mem pushed).length_le
  rw [List.length_append, List.length_append] at whole
  omega

/-- Every run of so many bytes has a newline. -/
def NoLongLine (stream : List UInt8) : Prop :=
  ∀ run, run <:+: stream → run.length = 2 * readChunkBytes → newline ∈ run

theorem NoLongLine.part {stream part : List UInt8} (lines : NoLongLine stream)
    (inside : part <:+: stream) : NoLongLine part :=
  fun run within => lines run (within.trans inside)

theorem NoLongLine.short {stream : List UInt8} (lines : NoLongLine stream)
    (plain : newline ∉ stream) : stream.length < 2 * readChunkBytes := by
  by_contra long
  have taken : (stream.take (2 * readChunkBytes)).length = 2 * readChunkBytes := by
    rw [List.length_take]
    omega
  exact plain (List.mem_of_mem_take
    (lines _ (List.take_prefix _ stream).isInfix taken))

/-- Without a long line nothing is drained by force. -/
theorem captureRead_lines (lines : NoLongLine (pending ++ chunk)) :
    captureRead pending chunk = drainLines (pending ++ chunk) := by
  have rest : (drainLines (pending ++ chunk)).2 <:+ pending ++ chunk :=
    ⟨_, drainLines_flatten (pending ++ chunk)⟩
  have short := (lines.part rest.isInfix).short (drainLines_plain _)
  rw [captureRead_eq, if_neg (by omega)]

/-! ### The whole stream -/

/-- What is pending stays short, read after read. -/
theorem pendingAfter_short {chunks : List (List UInt8)}
    (sized : ∀ chunk ∈ chunks, chunk.length ≤ readChunkBytes) :
    (pendingAfter chunks).length < 2 * readChunkBytes := by
  induction chunks using List.reverseRecOn with
  | nil => decide
  | append_singleton earlier chunk ih =>
    rw [List.forall_mem_append, List.forall_mem_singleton] at sized
    rw [pendingAfter, List.foldl_append]
    exact captureRead_short (ih sized.1) sized.2

/-- Everything read is pushed, in order. -/
theorem captureStream_flatten (pending : List UInt8) {chunks : List (List UInt8)}
    (nonempty : ∀ chunk ∈ chunks, chunk ≠ []) :
    (captureStream pending (chunks.map .read ++ [.read []])).flatten = pending ++ chunks.flatten := by
  induction chunks generalizing pending with
  | nil =>
    rw [List.map_nil, List.nil_append, captureStream_end]
    split
    · rename_i none
      rw [none]
      rfl
    · simp
  | cons chunk rest ih =>
    rw [List.forall_mem_cons] at nonempty
    have read := captureRead_flatten pending chunk
    rw [List.map_cons, List.cons_append, captureStream_read pending nonempty.1,
      List.flatten_append, ih _ nonempty.2, ← List.append_assoc, read, List.flatten_cons, List.append_assoc]

/-- No pushed string is longer than three reads. -/
theorem captureStream_pushed {chunks : List (List UInt8)}
    (sized : ∀ chunk ∈ chunks, chunk ≠ [] ∧ chunk.length ≤ readChunkBytes)
    (short : pending.length < 2 * readChunkBytes) :
    ∀ bytes ∈ captureStream pending (chunks.map .read ++ [.read []]),
      bytes.length ≤ 3 * readChunkBytes := by
  induction chunks generalizing pending with
  | nil =>
    intro bytes pushed
    rw [List.map_nil, List.nil_append, captureStream_end] at pushed
    split at pushed
    · cases pushed
    · rw [List.mem_singleton] at pushed
      rw [pushed]
      omega
  | cons chunk rest ih =>
    rw [List.forall_mem_cons] at sized
    obtain ⟨⟨nonempty, fits⟩, sizedRest⟩ := sized
    intro bytes pushed
    rw [List.map_cons, List.cons_append, captureStream_read pending nonempty,
      List.mem_append] at pushed
    rcases pushed with now | later
    · have bound := captureRead_pushed now
      omega
    · exact ih sizedRest (captureRead_short short fits) bytes later

/-- Without a long line the pushed strings are the lines, wherever reads end. -/
theorem captureStream_lines {chunks : List (List UInt8)} (nonempty : ∀ chunk ∈ chunks, chunk ≠ [])
    (plain : newline ∉ pending) (lines : NoLongLine (pending ++ chunks.flatten)) :
    captureStream pending (chunks.map .read ++ [.read []]) =
      linesOf (pending ++ chunks.flatten) := by
  induction chunks generalizing pending with
  | nil =>
    rw [List.map_nil, List.nil_append, captureStream_end, List.flatten_nil, List.append_nil]
    split
    · rename_i none
      rw [none]
      rfl
    · rename_i some
      exact (linesOf_remainder plain some).symm
  | cons chunk rest ih =>
    rw [List.forall_mem_cons] at nonempty
    rw [List.flatten_cons, ← List.append_assoc] at lines
    have read := captureRead_lines (lines.part (List.prefix_append _ _).isInfix)
    have remaining : (drainLines (pending ++ chunk)).2 ++ rest.flatten <:+
        pending ++ chunk ++ rest.flatten :=
      ⟨(drainLines (pending ++ chunk)).1.flatten, by
        rw [← List.append_assoc, drainLines_flatten]⟩
    rw [List.map_cons, List.cons_append, captureStream_read pending nonempty.1, read, List.flatten_cons,
      ← List.append_assoc, linesOf_drainLines,
      ih nonempty.2 (drainLines_plain _) (lines.part remaining.isInfix)]

/-- **Stream capture loses nothing and stays bounded.** Whatever reads of one to
4096 bytes deliver a stream, the pushed strings are the stream in pieces, what is
pending is short before each read and each piece is within the payload limit; and
if every run of 8192 bytes has a newline, the pieces are the lines of the stream,
whatever the reads. -/
theorem capture_stream_lossless {chunks : List (List UInt8)}
    (sized : ∀ chunk ∈ chunks, 1 ≤ chunk.length ∧ chunk.length ≤ readChunkBytes) :
    let pushed := captureStream [] (chunks.map .read ++ [.read []])
    pushed.flatten = chunks.flatten ∧
    (∀ earlier later, chunks = earlier ++ later →
      (pendingAfter earlier).length < 2 * readChunkBytes) ∧
    (∀ earlier chunk later, chunks = earlier ++ chunk :: later →
      (pendingAfter earlier ++ chunk).length ≤ 3 * readChunkBytes) ∧
    (∀ bytes ∈ pushed, ∀ source : OutputSource,
      bytes.length ≤ maxCloudflaredOutputBytes - (len s!"[{source.label}] " + 1)) ∧
    (NoLongLine chunks.flatten → pushed = linesOf chunks.flatten) := by
  have nonempty : ∀ chunk ∈ chunks, chunk ≠ [] := fun chunk member =>
    List.ne_nil_of_length_pos (sized chunk member).1
  have short : ∀ earlier later, chunks = earlier ++ later →
      (pendingAfter earlier).length < 2 * readChunkBytes := by
    rintro earlier later rfl
    exact pendingAfter_short fun chunk member => (sized chunk (List.mem_append_left _ member)).2
  refine ⟨captureStream_flatten [] nonempty, short, ?_, ?_, fun lines =>
    captureStream_lines nonempty List.not_mem_nil lines⟩
  · rintro earlier chunk later rfl
    have before := short earlier (chunk :: later) rfl
    have fits := (sized chunk (List.mem_append_right _ List.mem_cons_self)).2
    rw [List.length_append]
    omega
  · intro bytes pushed source
    have bound := captureStream_pushed
      (fun chunk member => ⟨nonempty chunk member, (sized chunk member).2⟩) (by decide) bytes pushed
    rw [len_label, maxCloudflaredOutputBytes]
    rw [readChunkBytes] at bound
    omega

/-- Two reads that end in the middle of a line. -/
theorem capture_stream_lossless_across_reads :
    let chunks : List (List UInt8) := [[79, 75, 10, 101], [114, 114]]
    let pushed := captureStream [] (chunks.map .read ++ [.read []])
    pushed.flatten = chunks.flatten ∧
    (∀ earlier later, chunks = earlier ++ later →
      (pendingAfter earlier).length < 2 * readChunkBytes) ∧
    (∀ earlier chunk later, chunks = earlier ++ chunk :: later →
      (pendingAfter earlier ++ chunk).length ≤ 3 * readChunkBytes) ∧
    (∀ bytes ∈ pushed, ∀ source : OutputSource,
      bytes.length ≤ maxCloudflaredOutputBytes - (len s!"[{source.label}] " + 1)) ∧
    (NoLongLine chunks.flatten → pushed = linesOf chunks.flatten) :=
  capture_stream_lossless (by decide)

end CfFw
