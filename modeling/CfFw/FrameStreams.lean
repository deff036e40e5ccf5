import CfFw.Framing
import Mathlib.Data.List.Forall2

/-! Streams of frames. A frame tells the reader its own length, so however the
bytes of a connection arrive, reading frame after frame gives back what was
written, and a cut stream never gives anything else. -/
namespace CfFw

variable {α : Type} {toVec : Envelope α → Except String (List UInt8)}
  {fromSlice : List UInt8 → Except String (Envelope α)} {envelope : Envelope α}
  {frame cut rest : List UInt8} {failure : FwError}

/-! ### One frame -/

private theorem fromBeBytes_toBeBytes (value : UInt32) :
    fromBeBytes (toBeBytes value) = value.toNat := by
  have bound := value.toNat_lt
  simp only [fromBeBytes, toBeBytes, List.foldl_cons, List.foldl_nil, UInt32.toNat_toUInt8,
    UInt32.toNat_shiftRight, Nat.shiftRight_eq_div_pow]
  change (((0 * 256 + value.toNat / 2 ^ 24 % 256) * 256 + value.toNat / 2 ^ 16 % 256) * 256 +
    value.toNat / 2 ^ 8 % 256) * 256 + value.toNat % 256 = value.toNat
  omega

@[simp] theorem length_toBeBytes (value : UInt32) :
    (toBeBytes value).length = lengthPrefixBytes := rfl

private theorem validatePayloadLen_eq_ok {payloadLen : Nat} :
    validatePayloadLen payloadLen = .ok () ↔ 0 < payloadLen ∧ payloadLen ≤ maxIpcFrame := by
  unfold validatePayloadLen
  constructor
  · intro valid
    split at valid
    · cases valid
    · split at valid
      · cases valid
      · omega
  · rintro ⟨positive, small⟩
    rw [if_neg (by omega), if_neg (by omega)]

/-- These bytes are one whole frame of the envelope: a header that declares the
length of the payload, and a payload that decodes to the envelope. -/
structure IsFrame (fromSlice : List UInt8 → Except String (Envelope α)) (envelope : Envelope α)
    (frame : List UInt8) : Prop where
  header : lengthPrefixBytes ≤ frame.length
  declared : fromBeBytes (frame.take lengthPrefixBytes) = (frame.drop lengthPrefixBytes).length
  valid : validatePayloadLen (frame.drop lengthPrefixBytes).length = .ok ()
  decodes : decodePayload fromSlice (frame.drop lengthPrefixBytes) = .ok envelope

theorem IsFrame.length_eq (isFrame : IsFrame fromSlice envelope frame) :
    frame.length = lengthPrefixBytes + fromBeBytes (frame.take lengthPrefixBytes) := by
  have header := isFrame.header
  rw [isFrame.declared, List.length_drop]
  omega

theorem IsFrame.ne_nil (isFrame : IsFrame fromSlice envelope frame) : frame ≠ [] := by
  rintro rfl
  exact absurd isFrame.header (by decide)

/-- What `encode_frame` accepts is a frame of the envelope, if the JSON encoder
loses nothing of it. -/
theorem isFrame_of_encodeFrame
    (roundTrip : ∀ payload, toVec envelope = .ok payload → fromSlice payload = .ok envelope)
    (encoded : encodeFrame toVec envelope = .ok frame) : IsFrame fromSlice envelope frame := by
  unfold encodeFrame at encoded
  cases version : envelope.validateVersion with
  | error error =>
    rw [version] at encoded
    cases encoded
  | ok =>
    cases written : toVec envelope with
    | error details =>
      rw [version, written] at encoded
      cases encoded
    | ok payload =>
      cases valid : validatePayloadLen payload.length with
      | error error =>
        simp [version, written, valid, Except.mapError, bind, Except.bind] at encoded
      | ok =>
        have same : toBeBytes (UInt32.ofNat payload.length) ++ payload = frame := by
          simpa [version, written, valid, Except.mapError, bind, Except.bind, pure, Except.pure]
            using encoded
        subst same
        have small := (validatePayloadLen_eq_ok.mp valid).2
        have payloadDropped : (toBeBytes (UInt32.ofNat payload.length) ++ payload).drop
            lengthPrefixBytes = payload := List.drop_left' rfl
        have headerTaken : (toBeBytes (UInt32.ofNat payload.length) ++ payload).take
            lengthPrefixBytes = toBeBytes (UInt32.ofNat payload.length) := List.take_left' rfl
        refine ⟨by simp, ?_, by rwa [payloadDropped], ?_⟩
        · rw [payloadDropped, headerTaken, fromBeBytes_toBeBytes]
          apply UInt32.toNat_ofNat_of_lt'
          exact Nat.lt_of_le_of_lt small (by decide)
        · rw [payloadDropped]
          unfold decodePayload
          simp only [roundTrip payload written, version]

theorem readExact_append {bytes rest : List UInt8} {count : Nat} (exact : bytes.length = count) :
    readExact ⟨bytes ++ rest, failure⟩ count = .ok (bytes, ⟨rest, failure⟩) := by
  subst exact
  simp [readExact]

/-- A frame is read off the front of a stream, and nothing behind it is touched. -/
theorem IsFrame.read (isFrame : IsFrame fromSlice envelope frame) (rest : List UInt8)
    (failure : FwError) :
    readFrame fromSlice ⟨frame ++ rest, failure⟩ = .ok (envelope, ⟨rest, failure⟩) := by
  obtain ⟨header, declared, valid, decodes⟩ := isFrame
  have taken : (frame.take lengthPrefixBytes).length = lengthPrefixBytes := by
    rw [List.length_take]
    omega
  have split : frame ++ rest =
      frame.take lengthPrefixBytes ++ (frame.drop lengthPrefixBytes ++ rest) := by
    rw [← List.append_assoc, List.take_append_drop]
  rw [split]
  simp only [readFrame, readExact_append taken, bind, Except.bind, declared, valid,
    readExact_append rfl, decodes, pure, Except.pure]

/-- What a successful `read_frame` has read is a frame. -/
theorem isFrame_of_readFrame {stream after : Stream}
    (read : readFrame fromSlice stream = .ok (envelope, after)) :
    ∃ frame, IsFrame fromSlice envelope frame ∧ stream.bytes = frame ++ after.bytes ∧
      after.failure = stream.failure := by
  obtain ⟨bytes, failure⟩ := stream
  unfold readFrame readExact at read
  by_cases header : lengthPrefixBytes ≤ bytes.length
  case neg => simp [header, bind, Except.bind] at read
  simp only [header, if_true, bind, Except.bind] at read
  split at read
  case h_1 => cases read
  rename_i valid
  split at read
  case h_1 => cases read
  rename_i payload taken
  split at taken
  case isFalse => cases taken
  rename_i complete
  cases taken
  simp only at read
  split at read
  case h_1 => cases read
  rename_i decodes
  cases read
  generalize declared : fromBeBytes (bytes.take lengthPrefixBytes) = count at *
  rw [List.length_drop] at complete
  have size : (bytes.take (lengthPrefixBytes + count)).length = lengthPrefixBytes + count := by
    rw [List.length_take]
    omega
  have headerTaken : (bytes.take (lengthPrefixBytes + count)).take lengthPrefixBytes =
      bytes.take lengthPrefixBytes := by
    rw [List.take_take, Nat.min_eq_left (Nat.le_add_right _ _)]
  have payloadTaken : (bytes.take (lengthPrefixBytes + count)).drop lengthPrefixBytes =
      (bytes.drop lengthPrefixBytes).take count := by
    rw [List.drop_take, Nat.add_sub_cancel_left]
  have payloadLength : ((bytes.take (lengthPrefixBytes + count)).drop lengthPrefixBytes).length =
      count := by
    rw [List.length_drop, size, Nat.add_sub_cancel_left]
  refine ⟨bytes.take (lengthPrefixBytes + count), ⟨?_, ?_, ?_, ?_⟩, ?_, rfl⟩
  · rw [size]
    exact Nat.le_add_right _ _
  · rw [headerTaken, payloadLength, declared]
  · rw [payloadLength, valid]
  · rw [payloadTaken, decodes]
  · simp only [List.drop_drop, List.take_append_drop]

theorem readExact_short {stream : Stream} {count : Nat} (short : stream.bytes.length < count) :
    readExact stream count = .error stream.failure := by
  unfold readExact
  rw [if_neg (by omega)]

/-- A frame that is cut short is not read: the reader's own error comes out. -/
theorem IsFrame.read_cut (isFrame : IsFrame fromSlice envelope frame) (isPrefix : cut <+: frame)
    (short : cut.length < frame.length) (failure : FwError) :
    readFrame fromSlice ⟨cut, failure⟩ = .error failure := by
  obtain ⟨tail, rfl⟩ := isPrefix
  have length := isFrame.length_eq
  by_cases header : lengthPrefixBytes ≤ cut.length
  · have sameHeader : (cut ++ tail).take lengthPrefixBytes = cut.take lengthPrefixBytes :=
      List.take_append_of_le_length header
    have valid := isFrame.valid
    rw [← isFrame.declared, sameHeader] at valid
    rw [sameHeader] at length
    have missing : (cut.drop lengthPrefixBytes).length <
        fromBeBytes (cut.take lengthPrefixBytes) := by
      rw [List.length_drop]
      omega
    have refused : readExact ⟨cut.drop lengthPrefixBytes, failure⟩
        (fromBeBytes (cut.take lengthPrefixBytes)) = .error failure := readExact_short missing
    simp only [readFrame]
    rw [show readExact ⟨cut, failure⟩ lengthPrefixBytes =
      .ok (cut.take lengthPrefixBytes, ⟨cut.drop lengthPrefixBytes, failure⟩) from if_pos header]
    simp only [bind, Except.bind, valid, refused]
  · have refused : readExact ⟨cut, failure⟩ lengthPrefixBytes = .error failure :=
      readExact_short (by simpa using header)
    simp only [readFrame, refused, bind, Except.bind]

/-- `decode_frame` accepts exactly the frames. -/
theorem decodeFrame_eq_ok : decodeFrame fromSlice frame = .ok envelope ↔
    IsFrame fromSlice envelope frame := by
  unfold decodeFrame
  constructor
  · intro decoded
    split at decoded
    · cases decoded
    · rename_i header
      cases valid : validatePayloadLen (fromBeBytes (frame.take lengthPrefixBytes)) with
      | error error => simp [valid, bind, Except.bind] at decoded
      | ok =>
        simp only [valid, bind, Except.bind] at decoded
        split at decoded
        · cases decoded
        · rename_i complete
          have length : (frame.drop lengthPrefixBytes).length =
              fromBeBytes (frame.take lengthPrefixBytes) := by
            rw [List.length_drop]
            omega
          exact ⟨by omega, length.symm, by rw [length, valid], decoded⟩
  · intro isFrame
    have length := isFrame.length_eq
    have valid := isFrame.valid
    rw [← isFrame.declared] at valid
    rw [if_neg (by have := isFrame.header; omega)]
    simp only [valid, bind, Except.bind]
    rw [if_neg (not_not.mpr length)]
    exact isFrame.decodes

/-! ### Readers whose bytes arrive in chunks -/

/-- A connection as its reader sees it: the bytes come in chunks, and after them
the error. -/
structure Arrivals where
  chunks : List (List UInt8)
  failure : FwError

namespace Arrivals

/-- The peer closed the connection after these chunks. -/
def closed (chunks : List (List UInt8)) : Arrivals := ⟨chunks, (Stream.closed []).failure⟩

/-- What the reader would see if everything had arrived at once. -/
def stream (reader : Arrivals) : Stream := ⟨reader.chunks.flatten, reader.failure⟩

/-- The loop of `read_exact`: each read takes what has arrived, and no more than
is missing. -/
def takeExact (failure : FwError) :
    List (List UInt8) → Nat → Result (List UInt8 × List (List UInt8))
  | [], count => if count = 0 then .ok ([], []) else .error failure
  | chunk :: later, count =>
    if count ≤ chunk.length then .ok (chunk.take count, chunk.drop count :: later)
    else do
      let (more, later) ← takeExact failure later (count - chunk.length)
      return (chunk ++ more, later)

/-- `AsyncReadExt::read_exact`. -/
def readExact (reader : Arrivals) (count : Nat) : Result (List UInt8 × Arrivals) := do
  let (bytes, chunks) ← takeExact reader.failure reader.chunks count
  return (bytes, { reader with chunks })

end Arrivals

/-- `framing.rs::read_frame` on any reader, given its `read_exact`. -/
def readFrameWith {ρ : Type} (readExact : ρ → Nat → Result (List UInt8 × ρ))
    (fromSlice : List UInt8 → Except String (Envelope α)) (reader : ρ) :
    Result (Envelope α × ρ) := do
  let (header, reader) ← readExact reader lengthPrefixBytes
  let payloadLen := fromBeBytes header
  validatePayloadLen payloadLen
  let (payload, reader) ← readExact reader payloadLen
  let envelope ← decodePayload fromSlice payload
  return (envelope, reader)

private theorem readFrame_eq_readFrameWith :
    readFrame fromSlice = readFrameWith readExact fromSlice := rfl

/-- If one reader imitates the other under `read_exact`, it does under `read_frame`. -/
theorem readFrameWith_map {ρ σ : Type} {readExact : ρ → Nat → Result (List UInt8 × ρ)}
    {readExact' : σ → Nat → Result (List UInt8 × σ)} (view : ρ → σ)
    (imitates : ∀ reader count,
      (readExact reader count).map (Prod.map id view) = readExact' (view reader) count)
    (reader : ρ) :
    (readFrameWith readExact fromSlice reader).map (Prod.map id view) =
      readFrameWith readExact' fromSlice (view reader) := by
  simp only [readFrameWith, ← imitates]
  cases readExact reader lengthPrefixBytes with
  | error error => rfl
  | ok taken =>
    obtain ⟨header, reader⟩ := taken
    simp only [Except.map, Prod.map, id, bind, Except.bind, ← imitates]
    cases validatePayloadLen (fromBeBytes header) with
    | error error => rfl
    | ok =>
      cases readExact reader (fromBeBytes header) with
      | error error => rfl
      | ok taken =>
        obtain ⟨payload, reader⟩ := taken
        dsimp only
        cases decodePayload fromSlice payload <;> rfl

namespace Arrivals

private theorem takeExact_flatten (failure : FwError) (chunks : List (List UInt8)) (count : Nat) :
    (takeExact failure chunks count).map (Prod.map id fun later => ⟨later.flatten, failure⟩) =
      CfFw.readExact ⟨chunks.flatten, failure⟩ count := by
  induction chunks generalizing count with
  | nil =>
    cases count with
    | zero => rfl
    | succ count => rfl
  | cons chunk later ih =>
    unfold takeExact
    by_cases enough : count ≤ chunk.length
    · have whole : count ≤ (chunk :: later).flatten.length := by
        simp only [List.flatten_cons, List.length_append]
        omega
      rw [if_pos enough, CfFw.readExact, if_pos whole]
      simp [Except.map, List.take_append_of_le_length enough, List.drop_append_of_le_length enough]
    · have rest := ih (count - chunk.length)
      have beyond : chunk.length ≤ count := by omega
      rw [if_neg enough]
      cases taken : takeExact failure later (count - chunk.length) with
      | error error =>
        rw [taken] at rest
        simp only [Except.map, CfFw.readExact] at rest
        split at rest
        · cases rest
        · rename_i short
          have shortWhole : ¬ count ≤ (chunk :: later).flatten.length := by
            simp only [List.flatten_cons, List.length_append]
            omega
          rw [CfFw.readExact, if_neg shortWhole]
          exact rest
      | ok result =>
        rw [taken] at rest
        simp only [Except.map, CfFw.readExact] at rest
        split at rest
        · rename_i complete
          have whole : count ≤ (chunk :: later).flatten.length := by
            simp only [List.flatten_cons, List.length_append]
            omega
          obtain ⟨taken, left⟩ : result.1 = later.flatten.take (count - chunk.length) ∧
              result.2.flatten = later.flatten.drop (count - chunk.length) := by
            simpa [Prod.ext_iff] using rest
          rw [CfFw.readExact, if_pos whole]
          simp [Except.map, bind, Except.bind, pure, Except.pure, taken, left, List.take_append,
            List.drop_append, List.take_of_length_le beyond, List.drop_eq_nil_of_le beyond]
        · cases rest

private theorem readExact_stream (reader : Arrivals) (count : Nat) :
    (reader.readExact count).map (Prod.map id stream) = CfFw.readExact reader.stream count := by
  rw [stream, ← takeExact_flatten]
  unfold readExact
  cases takeExact reader.failure reader.chunks count <;> rfl

/-- `read_frame` on bytes that arrive in chunks. -/
def readFrame (fromSlice : List UInt8 → Except String (Envelope α)) (reader : Arrivals) :
    Result (Envelope α × Arrivals) :=
  readFrameWith readExact fromSlice reader

/-- How the bytes arrive makes no difference to `read_frame`. -/
theorem readFrame_stream (reader : Arrivals) :
    (reader.readFrame fromSlice).map (Prod.map id stream) =
      CfFw.readFrame fromSlice reader.stream := by
  rw [readFrame_eq_readFrameWith]
  exact readFrameWith_map stream readExact_stream reader

private theorem readFrame_eq_ok {reader : Arrivals} {after : Stream} :
    CfFw.readFrame fromSlice reader.stream = .ok (envelope, after) ↔
      ∃ last, reader.readFrame fromSlice = .ok (envelope, last) ∧ last.stream = after := by
  rw [← readFrame_stream]
  cases reader.readFrame fromSlice with
  | error error => simp [Except.map]
  | ok result =>
    obtain ⟨read, last⟩ := result
    simp [Except.map]

private theorem readFrame_eq_error {reader : Arrivals} {error : FwError} :
    CfFw.readFrame fromSlice reader.stream = .error error ↔
      reader.readFrame fromSlice = .error error := by
  rw [← readFrame_stream]
  cases reader.readFrame fromSlice <;> simp [Except.map]

private theorem readFrame_shorter {reader last : Arrivals}
    (read : reader.readFrame fromSlice = .ok (envelope, last)) :
    last.stream.bytes.length < reader.stream.bytes.length := by
  obtain ⟨frame, isFrame, split, _⟩ := isFrame_of_readFrame (readFrame_eq_ok.mpr ⟨last, read, rfl⟩)
  have nonempty := List.length_pos_iff.mpr isFrame.ne_nil
  rw [split, List.length_append]
  omega

end Arrivals

/-- Applies `read_frame` until it fails: the envelopes, what the reader had left
before the failing call, and its error. -/
def readFrames (fromSlice : List UInt8 → Except String (Envelope α)) (reader : Arrivals) :
    List (Envelope α) × Arrivals × FwError :=
  match _ : reader.readFrame fromSlice with
  | .error error => ([], reader, error)
  | .ok (envelope, last) =>
    let (envelopes, unread, error) := readFrames fromSlice last
    (envelope :: envelopes, unread, error)
termination_by reader.stream.bytes.length
decreasing_by exact Arrivals.readFrame_shorter ‹_›

private theorem readFrames_of_error {reader : Arrivals} {error : FwError}
    (failed : reader.readFrame fromSlice = .error error) :
    readFrames fromSlice reader = ([], reader, error) := by
  rw [readFrames]
  split
  · rename_i same
    rw [failed] at same
    cases same
    rfl
  · rename_i same
    rw [failed] at same
    cases same

private theorem readFrames_of_ok {reader last : Arrivals}
    (read : reader.readFrame fromSlice = .ok (envelope, last)) :
    readFrames fromSlice reader =
      (envelope :: (readFrames fromSlice last).1, (readFrames fromSlice last).2) := by
  rw [readFrames]
  split
  · rename_i same
    rw [read] at same
    cases same
  · rename_i same
    rw [read] at same
    cases same
    rfl

/-! ### Streams of frames -/

/-- One `read_frame` on a prefix of a stream of frames reads the first frame if
it is complete, and otherwise fails as the connection does. -/
theorem readFrame_cut {envelopes : List (Envelope α)} {frames : List (List UInt8)}
    {bytes : List UInt8} (framed : List.Forall₂ (IsFrame fromSlice) envelopes frames)
    (isPrefix : bytes <+: frames.flatten) :
    (∃ envelope frame rest, envelopes.head? = some envelope ∧ frames.head? = some frame ∧
        bytes = frame ++ rest ∧ rest <+: frames.tail.flatten ∧
        ∀ failure, readFrame fromSlice ⟨bytes, failure⟩ = .ok (envelope, ⟨rest, failure⟩)) ∨
      (bytes <+: frames.head?.getD [] ∧ (∀ frame ∈ frames.head?, bytes.length < frame.length) ∧
        ∀ failure, readFrame fromSlice ⟨bytes, failure⟩ = .error failure) := by
  cases framed with
  | nil =>
    obtain rfl := List.prefix_nil.mp isPrefix
    refine .inr ⟨List.prefix_rfl, by simp, fun failure => ?_⟩
    have refused : readExact ⟨[], failure⟩ lengthPrefixBytes = .error failure :=
      readExact_short (Nat.zero_lt_succ _)
    simp only [readFrame, refused, bind, Except.bind]
  | @cons envelope frame envelopes frames isFrame framed =>
    rw [List.flatten_cons] at isPrefix
    by_cases whole : frame.length ≤ bytes.length
    · obtain ⟨rest, rfl⟩ := List.prefix_of_prefix_length_le (List.prefix_append _ _) isPrefix whole
      refine .inl ⟨envelope, frame, rest, rfl, rfl, rfl, ?_, isFrame.read rest⟩
      rwa [List.prefix_append_right_inj] at isPrefix
    · have short : bytes.length < frame.length := by omega
      have cutPrefix : bytes <+: frame :=
        List.prefix_of_prefix_length_le isPrefix (List.prefix_append _ _) (Nat.le_of_lt short)
      exact .inr ⟨cutPrefix, by simpa using short, isFrame.read_cut cutPrefix short⟩

/-- **Reading a prefix of a stream.** The reader gets the envelopes whose frames
are complete, stands before the cut frame if there is one, and then fails as the
connection does. -/
theorem readFrames_cut {envelopes : List (Envelope α)} {frames : List (List UInt8)}
    {reader : Arrivals} (framed : List.Forall₂ (IsFrame fromSlice) envelopes frames)
    (isPrefix : reader.stream.bytes <+: frames.flatten) :
    ∃ complete last, readFrames fromSlice reader = (envelopes.take complete, last, reader.failure) ∧
      complete ≤ frames.length ∧
      reader.stream.bytes = (frames.take complete).flatten ++ last.stream.bytes ∧
      ∀ frame ∈ frames[complete]?, last.stream.bytes.length < frame.length := by
  induction framed generalizing reader with
  | nil =>
    rcases readFrame_cut .nil isPrefix with ⟨_, _, _, head, _⟩ | ⟨_, _, failed⟩
    · cases head
    · have unread := Arrivals.readFrame_eq_error.mp (failed reader.failure)
      exact ⟨0, reader, readFrames_of_error unread, Nat.le_refl _, by simp, by simp⟩
  | @cons envelope frame envelopes frames isFrame framed ih =>
    rcases readFrame_cut (.cons isFrame framed) isPrefix with
      ⟨_, _, rest, head, first, split, restPrefix, read⟩ | ⟨_, short, failed⟩
    · cases head
      cases first
      obtain ⟨last, taken, left⟩ := Arrivals.readFrame_eq_ok.mp (read reader.failure)
      have leftBytes : last.stream.bytes = rest := by rw [left]
      have sameFailure : last.failure = reader.failure := by
        change last.stream.failure = reader.failure
        rw [left]
      obtain ⟨complete, final, result, bound, bytes, cut⟩ := ih (leftBytes ▸ restPrefix)
      refine ⟨complete + 1, final, ?_, Nat.succ_le_succ bound, ?_, ?_⟩
      · rw [readFrames_of_ok taken, result, sameFailure]
        rfl
      · rw [split, List.take_succ_cons, List.flatten_cons, List.append_assoc, ← bytes, leftBytes]
      · simpa using cut
    · have unread := Arrivals.readFrame_eq_error.mp (failed reader.failure)
      exact ⟨0, reader, readFrames_of_error unread, Nat.zero_le _, by simp, by simpa using short⟩

theorem framed_of_encoded {envelopes : List (Envelope α)} {frames : List (List UInt8)}
    (roundTrip : ∀ envelope ∈ envelopes, ∀ payload, toVec envelope = .ok payload →
      fromSlice payload = .ok envelope)
    (encoded : envelopes.mapM (encodeFrame toVec) = .ok frames) :
    List.Forall₂ (IsFrame fromSlice) envelopes frames := by
  induction envelopes generalizing frames with
  | nil =>
    cases encoded
    exact .nil
  | cons envelope rest ih =>
    rw [List.mapM_cons] at encoded
    cases first : encodeFrame toVec envelope with
    | error error =>
      rw [first] at encoded
      cases encoded
    | ok frame =>
      cases others : rest.mapM (encodeFrame toVec) with
      | error error =>
        rw [first, others] at encoded
        cases encoded
      | ok later =>
        rw [first, others] at encoded
        cases encoded
        refine .cons (isFrame_of_encodeFrame (roundTrip envelope List.mem_cons_self) first) ?_
        exact ih (fun other member => roundTrip other (List.mem_cons_of_mem _ member)) others

/-- **Frame streams are self-delimiting and lossless.** However the bytes of the
frames arrive, reading until the end gives the envelopes back in order and leaves
nothing over; a stream that ends early gives the envelopes whose frames are
complete and then the end-of-file error; and `decode_frame` accepts a byte string
exactly if `read_frame` reads all of it. -/
theorem frame_streams_lossless {envelopes : List (Envelope α)} {frames : List (List UInt8)}
    (roundTrip : ∀ envelope ∈ envelopes, ∀ payload, toVec envelope = .ok payload →
      fromSlice payload = .ok envelope)
    (encoded : envelopes.mapM (encodeFrame toVec) = .ok frames) :
    (∀ chunks : List (List UInt8), chunks.flatten = frames.flatten →
      ∃ last, readFrames fromSlice (.closed chunks) =
          (envelopes, last, .io .unexpectedEof "early eof") ∧ last.chunks.flatten = []) ∧
    (∀ chunks : List (List UInt8), chunks.flatten <+: frames.flatten →
      chunks.flatten ≠ frames.flatten →
        ∃ complete < frames.length, ∃ last, readFrames fromSlice (.closed chunks) =
            (envelopes.take complete, last, .io .unexpectedEof "early eof") ∧
          (frames.take complete).flatten.length ≤ chunks.flatten.length ∧
          chunks.flatten.length < (frames.take (complete + 1)).flatten.length) ∧
    ∀ (chunks : List (List UInt8)) (envelope : Envelope α),
      decodeFrame fromSlice chunks.flatten = .ok envelope ↔
        ∃ last, (Arrivals.closed chunks).readFrame fromSlice = .ok (envelope, last) ∧
          last.chunks.flatten = [] := by
  have framed := framed_of_encoded roundTrip encoded
  have sameLength := framed.length_eq
  refine ⟨?_, ?_, ?_⟩
  · intro chunks whole
    have isPrefix : (Arrivals.closed chunks).stream.bytes <+: frames.flatten := by
      rw [← whole]
      exact List.prefix_rfl
    obtain ⟨complete, last, result, bound, bytes, cut⟩ := readFrames_cut framed isPrefix
    have all : complete = frames.length := by
      by_contra fewer
      have inside : complete < frames.length := by omega
      have short := cut _ (List.getElem?_eq_getElem inside)
      have split : frames.flatten = (frames.take complete).flatten ++
          (frames[complete] ++ (frames.drop (complete + 1)).flatten) := by
        rw [← List.flatten_cons, ← List.drop_eq_getElem_cons inside, ← List.flatten_append,
          List.take_append_drop]
      have same : frames.flatten = (frames.take complete).flatten ++ last.stream.bytes :=
        whole.symm.trans bytes
      rw [split, List.append_cancel_left_eq] at same
      rw [← same, List.length_append] at short
      omega
    subst all
    refine ⟨last, ?_, ?_⟩
    · rw [result, ← sameLength, List.take_length]
      rfl
    · rw [show (Arrivals.closed chunks).stream.bytes = frames.flatten from whole,
        List.take_length] at bytes
      exact List.self_eq_append_right.mp bytes
  · intro chunks isPrefix proper
    obtain ⟨complete, last, result, bound, bytes, cut⟩ :=
      @readFrames_cut _ _ _ _ (.closed chunks) framed isPrefix
    have length := congrArg List.length bytes
    rw [List.length_append] at length
    change chunks.flatten.length = _ at length
    have inside : complete < frames.length := by
      by_contra beyond
      have all : complete = frames.length := by omega
      subst all
      rw [List.take_length] at bytes length
      exact proper (isPrefix.eq_of_length_le (by omega))
    have short := cut _ (List.getElem?_eq_getElem inside)
    refine ⟨complete, inside, last, result, by omega, ?_⟩
    rw [List.take_add_one, List.getElem?_eq_getElem inside]
    simp only [Option.toList_some, List.flatten_append, List.length_append, List.flatten_singleton]
    omega
  · intro chunks envelope
    rw [decodeFrame_eq_ok]
    constructor
    · intro isFrame
      have read := isFrame.read [] (Stream.closed []).failure
      rw [List.append_nil] at read
      obtain ⟨last, taken, left⟩ := @Arrivals.readFrame_eq_ok _ _ _ (.closed chunks) _ |>.mp read
      exact ⟨last, taken, congrArg Stream.bytes left⟩
    · rintro ⟨last, taken, nothing⟩
      obtain ⟨frame, isFrame, bytes, _⟩ :=
        isFrame_of_readFrame (Arrivals.readFrame_eq_ok.mpr ⟨last, taken, rfl⟩)
      change chunks.flatten = frame ++ last.chunks.flatten at bytes
      rwa [bytes, nothing, List.append_nil]

/-- A JSON encoder that knows the compact JSON of some envelopes. -/
def toVecOf [DecidableEq α] (texts : List (Envelope α × String)) (envelope : Envelope α) :
    Except String (List UInt8) :=
  match texts.find? fun entry => entry.1 = envelope with
  | some (_, text) => .ok text.toUTF8.data.toList
  | none => .error "unknown envelope"

/-- The JSON decoder that goes with `toVecOf`. -/
def fromSliceOf (texts : List (Envelope α × String)) (payload : List UInt8) :
    Except String (Envelope α) :=
  match texts.find? fun entry => entry.2.toUTF8.data.toList = payload with
  | some (envelope, _) => .ok envelope
  | none => .error "unknown payload"

/-- A List and a Kill request with their compact JSON. -/
def requestTexts : List (Envelope ClientMessage × String) :=
  [(Envelope.new (some 1) .list,
      "\x7b\"version\":1,\"request_id\":1,\"message\":\x7b\"type\":\"list\"\x7d\x7d"),
    (Envelope.new (some 1) .kill,
      "\x7b\"version\":1,\"request_id\":1,\"message\":\x7b\"type\":\"kill\"\x7d\x7d")]

/-- Two requests, cut in the header of the second, are read back. -/
theorem list_and_kill_arrive :
    ∃ frames, (requestTexts.map Prod.fst).mapM (encodeFrame (toVecOf requestTexts)) = .ok frames ∧
      ∃ last, readFrames (fromSliceOf requestTexts)
          (.closed [frames.flatten.take 60, frames.flatten.drop 60]) =
        (requestTexts.map Prod.fst, last, .io .unexpectedEof "early eof") ∧
          last.chunks.flatten = [] := by
  refine ⟨_, rfl, ?_⟩
  refine (@frame_streams_lossless _ (toVecOf requestTexts) _ _ _ ?_ rfl).1 _ ?_
  · intro envelope member payload written
    simp only [requestTexts, List.map_cons, List.map_nil, List.mem_cons, List.not_mem_nil,
      or_false] at member
    rcases member with rfl | rfl
    · obtain rfl := Except.ok.inj written
      decide
    · obtain rfl := Except.ok.inj written
      decide
  · simp

end CfFw
