import CfFw.FrameStreams
import CfFw.Transition

/-! The owner's side of a session, `run_owner_session` and `unregister` of
`main.rs`. A `read_frame` call is a future that is polled as bytes arrive and that
the `select` drops when Ctrl-C wins; what it has read by then is known to nobody
else. -/
namespace CfFw
open Transition

/-! ### The future of `read_frame` -/

/-- A `read_frame` call in progress, in its first or its second `read_exact`, with
the bytes read so far. -/
inductive ReadFrame where
  | inHeader (filled : List UInt8)
  | inPayload (header filled : List UInt8)
  deriving DecidableEq

/-- What a poll of the future yields, and in the end the bytes it left unread. -/
inductive Polled where
  | pending (reading : ReadFrame)
  | ready (outcome : Result (Envelope ServerMessage)) (rest : List UInt8)

namespace ReadFrame

/-- A call of `read_frame` that has read nothing. -/
def fresh : ReadFrame := .inHeader []

/-- The bytes that the call has taken off the stream. -/
def taken : ReadFrame → List UInt8
  | .inHeader filled => filled
  | .inPayload header filled => header ++ filled

/-- The second `read_exact` on what is there. -/
def pollPayload (fromSlice : List UInt8 → Except String (Envelope ServerMessage))
    (header filled available : List UInt8) : Polled :=
  let missing := fromBeBytes header - filled.length
  if missing ≤ available.length then
    .ready (decodePayload fromSlice (filled ++ available.take missing)) (available.drop missing)
  else .pending (.inPayload header (filled ++ available))

/-- A poll of the future on what is there. -/
def poll (fromSlice : List UInt8 → Except String (Envelope ServerMessage)) :
    ReadFrame → List UInt8 → Polled
  | .inHeader filled, available =>
    let missing := lengthPrefixBytes - filled.length
    if missing ≤ available.length then
      let header := filled ++ available.take missing
      match validatePayloadLen (fromBeBytes header) with
      | .error error => .ready (.error error) (available.drop missing)
      | .ok () => pollPayload fromSlice header [] (available.drop missing)
    else .pending (.inHeader (filled ++ available))
  | .inPayload header filled, available => pollPayload fromSlice header filled available

end ReadFrame

/-! ### The session -/

/-- The client's end of the connection: everything that has arrived on it, how
much of that reads have taken, and how it ended if it did. -/
structure Pipe where
  arrived : List UInt8
  taken : Nat
  ended : Option FwError
  deriving DecidableEq

/-- What has arrived and was not read. -/
def Pipe.unread (pipe : Pipe) : List UInt8 := pipe.arrived.drop pipe.taken

/-- What follows the line that tells the user why the session ends. -/
inductive AfterInfo where
  | unregister
  | acknowledge
  deriving DecidableEq

/-- Where `run_owner_session` waits: in its `select`, at `write_info`, at a
`write_frame`, or in the loop of `unregister`. -/
inductive OwnerPhase where
  | watching (reading : ReadFrame)
  | informing (after : AfterInfo)
  | requesting
  | unregistering (reading : ReadFrame)
  | acknowledging
  | returned (result : Result Unit)
  deriving DecidableEq

/-- One run of `run_owner_session`; `frames` is what its `read_frame` calls have
returned. -/
structure OwnerSession where
  session : UInt64
  pipe : Pipe
  phase : OwnerPhase
  frames : List (Envelope ServerMessage)
  deriving DecidableEq

/-- What goes on around the client: bytes arrive, the connection ends, the client
is polled, Ctrl-C wins the `select`, or a write is done. -/
inductive OwnerLabel where
  | arrive (bytes : List UInt8)
  | ends (error : FwError)
  | poll
  | ctrlC (signal : Result Unit)
  | informed (result : Result Unit)
  | wrote (result : Result Unit)

namespace OwnerSession

/-- `run_owner_session` at its first `select`. -/
def start (session : UInt64) : OwnerSession := ⟨session, ⟨[], 0, none⟩, .watching .fresh, []⟩

/-- The `match` of `run_owner_session` on a message. -/
def watched : ServerMessage → OwnerPhase
  | .terminate .remoteStop => .informing .unregister
  | .terminate .daemonKill => .informing .acknowledge
  | .fatal _ message => .returned (.error (.cloudflaredExited message))
  | .error _ message => .returned (.error (.other message))
  | _ => .watching .fresh

/-- The `match` of `unregister` on a message. -/
def answered (session : UInt64) : ServerMessage → OwnerPhase
  | .unregistered acknowledged =>
    if acknowledged = session then .returned (.ok ()) else .unregistering .fresh
  | .error _ message => .returned (.error (.other message))
  | _ => .unregistering .fresh

/-- A poll of the `read_frame` that the client waits for. -/
def polled (fromSlice : List UInt8 → Except String (Envelope ServerMessage)) (client : OwnerSession)
    (reading : ReadFrame) (wait : ReadFrame → OwnerPhase) (next : ServerMessage → OwnerPhase) :
    OwnerSession :=
  match reading.poll fromSlice client.pipe.unread with
  | .ready outcome rest =>
    let pipe := { client.pipe with taken := client.pipe.arrived.length - rest.length }
    match outcome with
    | .ok envelope =>
      { client with
        pipe, phase := next envelope.message, frames := client.frames ++ [envelope] }
    | .error error => { client with pipe, phase := .returned (.error error) }
  | .pending reading =>
    let pipe := { client.pipe with taken := client.pipe.arrived.length }
    match client.pipe.ended with
    | none => { client with pipe, phase := wait reading }
    | some error => { client with pipe, phase := .returned (.error error) }

/-- One step of the client or of what is around it. -/
def step (fromSlice : List UInt8 → Except String (Envelope ServerMessage)) (client : OwnerSession) :
    OwnerLabel → Option OwnerSession
  | .arrive bytes =>
    match client.pipe.ended with
    | none =>
      some { client with pipe := { client.pipe with arrived := client.pipe.arrived ++ bytes } }
    | some _ => none
  | .ends error =>
    match client.pipe.ended with
    | none => some { client with pipe := { client.pipe with ended := some error } }
    | some _ => none
  | .poll =>
    match client.phase with
    | .watching reading => some (client.polled fromSlice reading .watching watched)
    | .unregistering reading =>
      some (client.polled fromSlice reading .unregistering (answered client.session))
    | _ => none
  | .ctrlC signal =>
    match client.phase, signal with
    | .watching _, .ok () => some { client with phase := .informing .unregister }
    | .watching _, .error error => some { client with phase := .returned (.error error) }
    | _, _ => none
  | .informed result =>
    match client.phase, result with
    | .informing .unregister, .ok () => some { client with phase := .requesting }
    | .informing .acknowledge, .ok () => some { client with phase := .acknowledging }
    | .informing _, .error error => some { client with phase := .returned (.error error) }
    | _, _ => none
  | .wrote result =>
    match client.phase, result with
    | .requesting, .ok () => some { client with phase := .unregistering .fresh }
    | .requesting, .error error => some { client with phase := .returned (.error error) }
    | .acknowledging, _ => some { client with phase := .returned (.ok ()) }
    | _, _ => none

end OwnerSession

/-- The `read_frame` call in progress. -/
def OwnerPhase.reading : OwnerPhase → Option ReadFrame
  | .watching reading | .unregistering reading => some reading
  | _ => none

/-- What the `read_frame` call in progress has taken off the stream. -/
def OwnerPhase.held (phase : OwnerPhase) : List UInt8 := phase.reading.elim [] ReadFrame.taken

/-- Where in the stream the `read_frame` call in progress has started, or the next
one will start. -/
def OwnerSession.readStart (client : OwnerSession) : Nat :=
  client.pipe.taken - client.phase.held.length

/-! ### A poll is a part of `read_frame` -/

section Polls

variable {fromSlice : List UInt8 → Except String (Envelope ServerMessage)}
  {header filled available more rest : List UInt8} {failure error : FwError} {reading : ReadFrame}

private theorem readFrame_valid (size : header.length = lengthPrefixBytes)
    (valid : validatePayloadLen (fromBeBytes header) = .ok ()) :
    readFrame fromSlice ⟨header ++ more, failure⟩ =
      if fromBeBytes header ≤ more.length then
        (decodePayload fromSlice (more.take (fromBeBytes header))).map
          fun envelope => (envelope, ⟨more.drop (fromBeBytes header), failure⟩)
      else .error failure := by
  simp only [readFrame, readExact_append size, bind, Except.bind, valid]
  by_cases complete : fromBeBytes header ≤ more.length
  · simp only [readExact, if_pos complete]
    cases decodePayload fromSlice (more.take (fromBeBytes header)) <;> rfl
  · simp only [readExact, if_neg complete]

private theorem readFrame_invalid (size : header.length = lengthPrefixBytes)
    (invalid : validatePayloadLen (fromBeBytes header) = .error error) :
    readFrame fromSlice ⟨header ++ more, failure⟩ = .error error := by
  simp only [readFrame, readExact_append size, bind, Except.bind, invalid]

/-- The call waits for bytes that have not arrived. -/
def ReadFrame.Waits : ReadFrame → Prop
  | .inHeader filled => filled.length < lengthPrefixBytes
  | .inPayload header filled =>
    header.length = lengthPrefixBytes ∧ validatePayloadLen (fromBeBytes header) = .ok () ∧
      filled.length < fromBeBytes header

/-- A poll yields what `read_frame` would, had it been called where the call in
progress was. -/
def Agrees (fromSlice : List UInt8 → Except String (Envelope ServerMessage)) (bytes : List UInt8) :
    Polled → Prop
  | .ready outcome rest => ∀ failure, readFrame fromSlice ⟨bytes, failure⟩ =
      outcome.map fun envelope => (envelope, ⟨rest, failure⟩)
  | .pending later => later.Waits ∧ later.taken = bytes ∧
      ∀ failure, readFrame fromSlice ⟨bytes, failure⟩ = .error failure

private theorem pollPayload_agrees (size : header.length = lengthPrefixBytes)
    (valid : validatePayloadLen (fromBeBytes header) = .ok ())
    (partly : filled.length ≤ fromBeBytes header) :
    Agrees fromSlice (header ++ (filled ++ available))
      (ReadFrame.pollPayload fromSlice header filled available) := by
  unfold ReadFrame.pollPayload
  dsimp only
  split
  · rename_i enough
    intro failure
    have complete : fromBeBytes header ≤ (filled ++ available).length := by
      rw [List.length_append]
      omega
    rw [readFrame_valid size valid, if_pos complete, List.take_append, List.drop_append,
      List.take_of_length_le partly, List.drop_eq_nil_of_le partly, List.nil_append]
  · rename_i missing
    have short : (filled ++ available).length < fromBeBytes header := by
      rw [List.length_append]
      omega
    refine ⟨⟨size, valid, short⟩, rfl, fun failure => ?_⟩
    rw [readFrame_valid size valid, if_neg (by omega)]

/-- **A poll continues `read_frame`.** -/
theorem ReadFrame.Waits.poll_agrees (waits : reading.Waits) (available : List UInt8) :
    Agrees fromSlice (reading.taken ++ available) (reading.poll fromSlice available) := by
  cases reading with
  | inHeader filled =>
    simp only [Waits] at waits
    simp only [ReadFrame.poll, ReadFrame.taken]
    split
    · rename_i enough
      have size : (filled ++ available.take (lengthPrefixBytes - filled.length)).length =
          lengthPrefixBytes := by
        rw [List.length_append, List.length_take]
        omega
      have bytes : filled ++ available =
          (filled ++ available.take (lengthPrefixBytes - filled.length)) ++
            ([] ++ available.drop (lengthPrefixBytes - filled.length)) := by
        rw [List.nil_append, List.append_assoc, List.take_append_drop]
      split
      · rename_i error invalid
        intro failure
        rw [bytes, readFrame_invalid size invalid]
        rfl
      · rename_i valid
        rw [bytes]
        exact pollPayload_agrees size valid (Nat.zero_le _)
    · rename_i missing
      have short : (filled ++ available).length < lengthPrefixBytes := by
        rw [List.length_append]
        omega
      refine ⟨short, rfl, fun failure => ?_⟩
      have refused : readExact ⟨filled ++ available, failure⟩ lengthPrefixBytes = .error failure :=
        readExact_short short
      simp only [readFrame, refused, bind, Except.bind]
  | inPayload header filled =>
    obtain ⟨size, valid, partly⟩ := waits
    simp only [ReadFrame.poll, ReadFrame.taken, List.append_assoc]
    exact pollPayload_agrees size valid (Nat.le_of_lt partly)

end Polls

/-! ### Reading in step with the stream -/

section Streams

variable {fromSlice : List UInt8 → Except String (Envelope ServerMessage)}
  {envelopes before : List (Envelope ServerMessage)} {frames : List (List UInt8)}
  {client client' v : OwnerSession} {label : OwnerLabel} {labels past : List OwnerLabel}
  {reading : ReadFrame}

/-- What arrives are the bytes of these frames, in order. -/
def Delivers (frames : List (List UInt8)) (client : OwnerSession) (label : OwnerLabel) : Prop :=
  ∀ bytes, label = .arrive bytes → client.pipe.arrived ++ bytes <+: frames.flatten

/-- The reads have taken the frames of the envelopes they have returned, and what
the call in progress holds. -/
structure InStep (envelopes : List (Envelope ServerMessage)) (frames : List (List UInt8))
    (client : OwnerSession) : Prop where
  returned : client.frames <+: envelopes
  delivered : client.pipe.arrived <+: frames.flatten
  within : client.pipe.taken ≤ client.pipe.arrived.length
  split : client.pipe.arrived.take client.pipe.taken =
    (frames.take client.frames.length).flatten ++ client.phase.held
  waits : ∀ reading ∈ client.phase.reading, reading.Waits

private theorem inStep_start (session : UInt64) : InStep envelopes frames (.start session) where
  returned := List.nil_prefix
  delivered := List.nil_prefix
  within := Nat.le_refl _
  split := rfl
  waits := by
    rintro _ ⟨⟩
    exact Nat.zero_lt_succ _

theorem InStep.readStart (inStep : InStep envelopes frames client) :
    client.readStart = (frames.take client.frames.length).flatten.length := by
  have length := congrArg List.length inStep.split
  rw [List.length_take, List.length_append, Nat.min_eq_left inStep.within] at length
  rw [OwnerSession.readStart, length, Nat.add_sub_cancel]

theorem InStep.arrived (inStep : InStep envelopes frames client) :
    client.pipe.arrived =
      (frames.take client.frames.length).flatten ++ (client.phase.held ++ client.pipe.unread) := by
  rw [← List.append_assoc, ← inStep.split, Pipe.unread, List.take_append_drop]

/-- What has arrived beyond the returned frames is a prefix of the frames to come. -/
theorem InStep.ahead (inStep : InStep envelopes frames client) :
    client.phase.held ++ client.pipe.unread <+: (frames.drop client.frames.length).flatten := by
  have delivered := inStep.delivered
  rw [inStep.arrived, ← List.take_append_drop client.frames.length frames, List.flatten_append,
    List.take_append_drop, List.prefix_append_right_inj] at delivered
  exact delivered

/-- **Inversion of a poll.** In step with the stream, a poll yields the next
envelope if its frame has arrived and otherwise waits for the rest of it. -/
theorem InStep.poll (framed : List.Forall₂ (IsFrame fromSlice) envelopes frames)
    (inStep : InStep envelopes frames client) (reads : client.phase.reading = some reading) :
    (∃ envelope frame rest, envelopes[client.frames.length]? = some envelope ∧
        frames[client.frames.length]? = some frame ∧
        client.phase.held ++ client.pipe.unread = frame ++ rest ∧
        reading.poll fromSlice client.pipe.unread = .ready (.ok envelope) rest) ∨
      ∃ later, reading.poll fromSlice client.pipe.unread = .pending later ∧ later.Waits ∧
        later.taken = client.phase.held ++ client.pipe.unread ∧
        ∀ frame ∈ frames[client.frames.length]?,
          (client.phase.held ++ client.pipe.unread).length < frame.length := by
  have held : client.phase.held = reading.taken := by rw [OwnerPhase.held, reads]; rfl
  have agrees := @ReadFrame.Waits.poll_agrees fromSlice _
    (inStep.waits reading reads) client.pipe.unread
  rw [← held] at agrees
  rcases readFrame_cut (List.forall₂_drop client.frames.length framed) inStep.ahead with
    ⟨envelope, frame, rest, first, firstFrame, split, _, read⟩ | ⟨_, short, failed⟩
  · rw [List.head?_drop] at first firstFrame
    cases polled : reading.poll fromSlice client.pipe.unread with
    | pending later =>
      rw [polled] at agrees
      have impossible := (agrees.2.2 .noActiveForwards).symm.trans (read .noActiveForwards)
      cases impossible
    | ready outcome left =>
      rw [polled] at agrees
      have same := (agrees .noActiveForwards).symm.trans (read .noActiveForwards)
      cases outcome with
      | error error => cases same
      | ok other =>
        cases same
        exact .inl ⟨envelope, frame, rest, first, firstFrame, split, rfl⟩
  · rw [List.head?_drop] at short
    cases polled : reading.poll fromSlice client.pipe.unread with
    | pending later =>
      rw [polled] at agrees
      exact .inr ⟨later, rfl, agrees.1, agrees.2.1, short⟩
    | ready outcome left =>
      rw [polled] at agrees
      have one := (agrees .noActiveForwards).symm.trans (failed .noActiveForwards)
      have other := (agrees .daemonStartTimeout).symm.trans (failed .daemonStartTimeout)
      cases outcome with
      | ok envelope => cases one
      | error error =>
        cases one
        cases other

/-- A phase that waits for no half-read frame. -/
def OwnerPhase.AtFrame (phase : OwnerPhase) : Prop :=
  phase.held = [] ∧ ∀ reading ∈ phase.reading, reading.Waits

private theorem atFrame_watched (message : ServerMessage) :
    (OwnerSession.watched message).AtFrame := by
  have fresh : (OwnerPhase.watching .fresh).AtFrame :=
    ⟨rfl, by rintro _ ⟨⟩; exact Nat.zero_lt_succ _⟩
  cases message with
  | terminate reason => cases reason <;> exact ⟨rfl, by rintro _ ⟨⟩⟩
  | error | fatal => exact ⟨rfl, by rintro _ ⟨⟩⟩
  | _ => exact fresh

private theorem atFrame_unregistering : (OwnerPhase.unregistering .fresh).AtFrame :=
  ⟨rfl, by rintro _ ⟨⟩; exact Nat.zero_lt_succ _⟩

private theorem atFrame_answered (session : UInt64) (message : ServerMessage) :
    (OwnerSession.answered session message).AtFrame := by
  cases message with
  | unregistered acknowledged =>
    simp only [OwnerSession.answered]
    split
    · exact ⟨rfl, by rintro _ ⟨⟩⟩
    · exact atFrame_unregistering
  | error => exact ⟨rfl, by rintro _ ⟨⟩⟩
  | _ => exact atFrame_unregistering

/-- A step that reads nothing and leaves a phase that holds nothing more. -/
theorem InStep.move (inStep : InStep envelopes frames client) {phase : OwnerPhase}
    (held : client.phase.held = []) (atFrame : phase.AtFrame) :
    InStep envelopes frames { client with phase } where
  returned := inStep.returned
  delivered := inStep.delivered
  within := inStep.within
  split := by
    have split := inStep.split
    rw [held] at split
    rw [atFrame.1]
    exact split
  waits := atFrame.2

/-- The state after a poll that returns the next envelope. -/
theorem InStep.read_next (inStep : InStep envelopes frames client)
    {envelope : Envelope ServerMessage} {frame rest : List UInt8} {phase : OwnerPhase}
    (next : envelopes[client.frames.length]? = some envelope)
    (nextFrame : frames[client.frames.length]? = some frame)
    (bytes : client.phase.held ++ client.pipe.unread = frame ++ rest) (atFrame : phase.AtFrame) :
    InStep envelopes frames
      { client with
        pipe := { client.pipe with taken := client.pipe.arrived.length - rest.length }
        phase := phase
        frames := client.frames ++ [envelope] } where
  returned := by
    obtain ⟨tail, rfl⟩ := inStep.returned
    rw [List.getElem?_append_right (Nat.le_refl _), Nat.sub_self] at next
    cases tail with
    | nil => cases next
    | cons head tail =>
      cases next
      exact ⟨tail, by simp⟩
  delivered := inStep.delivered
  within := Nat.sub_le _ _
  split := by
    have arrived : client.pipe.arrived =
        (frames.take (client.frames.length + 1)).flatten ++ rest := by
      rw [inStep.arrived, bytes, List.take_add_one, nextFrame]
      simp
    rw [atFrame.1, List.append_nil, List.length_append, List.length_singleton]
    rw [arrived, List.length_append, Nat.add_sub_cancel, List.take_left]
  waits := atFrame.2

/-- What a poll of the client's `read_frame` does. -/
structure PolledNext (envelopes : List (Envelope ServerMessage)) (frames : List (List UInt8))
    (client client' : OwnerSession) (next : ServerMessage → OwnerPhase)
    (envelope : Envelope ServerMessage) : Prop where
  isNext : envelopes[client.frames.length]? = some envelope
  inStep : InStep envelopes frames client'
  frames_eq : client'.frames = client.frames ++ [envelope]
  phase_eq : client'.phase = next envelope.message

/-- **A poll of the client** returns the next envelope, or waits for a frame that
is incomplete, or fails as the connection did. -/
theorem InStep.polled (framed : List.Forall₂ (IsFrame fromSlice) envelopes frames)
    (inStep : InStep envelopes frames client) (reads : client.phase.reading = some reading)
    {wait : ReadFrame → OwnerPhase} {next : ServerMessage → OwnerPhase}
    (waits : ∀ reading, (wait reading).reading = some reading)
    (atFrame : ∀ message, (next message).AtFrame) :
    (∃ envelope, PolledNext envelopes frames client (client.polled fromSlice reading wait next) next
        envelope) ∨
      (∀ frame ∈ frames[client.frames.length]?,
          client.pipe.arrived.length < (frames.take (client.frames.length + 1)).flatten.length) ∧
        (client.polled fromSlice reading wait next).frames = client.frames ∧
        (InStep envelopes frames (client.polled fromSlice reading wait next) ∧
            (∃ later, (client.polled fromSlice reading wait next).phase = wait later) ∨
          ∃ error, (client.polled fromSlice reading wait next).phase = .returned (.error error) ∧
            client.pipe.ended = some error ∧
            (client.polled fromSlice reading wait next).pipe.ended = some error) := by
  rcases inStep.poll framed reads with
    ⟨envelope, frame, rest, isNext, isFrame, bytes, polled⟩ | ⟨later, polled, laterWaits, held, short⟩
  · refine .inl ⟨envelope, ?_⟩
    have after := inStep.read_next isNext isFrame bytes (atFrame envelope.message)
    simp only [OwnerSession.polled, polled]
    exact ⟨isNext, after, rfl, rfl⟩
  · refine .inr ⟨?_, ?_⟩
    · intro frame isNext
      have cut := short frame isNext
      have length := congrArg List.length inStep.arrived
      have next : frames[client.frames.length]? = some frame := isNext
      rw [List.take_add_one, next, List.flatten_append, List.length_append, length,
        List.length_append]
      simpa using cut
    · simp only [OwnerSession.polled, polled]
      cases ended : client.pipe.ended with
      | some error => exact ⟨rfl, .inr ⟨error, rfl, rfl, rfl⟩⟩
      | none =>
        refine ⟨rfl, .inl ⟨⟨inStep.returned, inStep.delivered, Nat.le_refl _, ?_, ?_⟩, later, rfl⟩⟩
        · have laterHeld : (wait later).held = later.taken := by
            rw [OwnerPhase.held, waits]
            rfl
          rw [laterHeld, held, ← inStep.arrived, List.take_length]
        · intro other member
          rw [waits] at member
          cases member
          exact laterWaits

/-- The client is in step, or has failed as its connection did. -/
def Kept (envelopes : List (Envelope ServerMessage)) (frames : List (List UInt8))
    (client : OwnerSession) : Prop :=
  InStep envelopes frames client ∨ client.frames <+: envelopes ∧
    ∃ error, client.phase = .returned (.error error) ∧ client.pipe.ended = some error

theorem Kept.polled (framed : List.Forall₂ (IsFrame fromSlice) envelopes frames)
    (inStep : InStep envelopes frames client) (reads : client.phase.reading = some reading)
    {wait : ReadFrame → OwnerPhase} {next : ServerMessage → OwnerPhase}
    (waits : ∀ reading, (wait reading).reading = some reading)
    (atFrame : ∀ message, (next message).AtFrame) :
    Kept envelopes frames (client.polled fromSlice reading wait next) := by
  rcases inStep.polled framed reads waits atFrame with
    ⟨_, next⟩ | ⟨_, same, ⟨kept, _⟩ | ⟨error, phase, _, ended⟩⟩
  · exact .inl next.inStep
  · exact .inl kept
  · exact .inr ⟨same ▸ inStep.returned, error, phase, ended⟩

/-- **Step lemma.** Every step keeps the client in step with the stream, except
that Ctrl-C must not win while a frame is half read. -/
theorem Kept.step (framed : List.Forall₂ (IsFrame fromSlice) envelopes frames)
    (kept : Kept envelopes frames client) (delivers : Delivers frames client label)
    (whole : ∀ signal, label = .ctrlC signal → client.phase.held = [])
    (taken : client.step fromSlice label = some client') : Kept envelopes frames client' := by
  rcases kept with inStep | ⟨returned, failure, phase, ended⟩
  case inr =>
    cases label with
    | arrive | ends => simp [OwnerSession.step, ended] at taken
    | _ => simp [OwnerSession.step, phase] at taken
  cases label with
  | arrive bytes =>
    simp only [OwnerSession.step] at taken
    split at taken <;> cases taken
    refine .inl ⟨inStep.returned, delivers bytes rfl, ?_, ?_, inStep.waits⟩
    · rw [List.length_append]
      exact Nat.le_add_right_of_le inStep.within
    · rw [List.take_append_of_le_length inStep.within]
      exact inStep.split
  | ends error =>
    simp only [OwnerSession.step] at taken
    split at taken <;> cases taken
    exact .inl ⟨inStep.returned, inStep.delivered, inStep.within, inStep.split, inStep.waits⟩
  | poll =>
    simp only [OwnerSession.step] at taken
    split at taken
    · rename_i reading phase
      cases taken
      exact .polled framed inStep (by rw [phase]; rfl) (fun _ => rfl) atFrame_watched
    · rename_i reading phase
      cases taken
      exact .polled framed inStep (by rw [phase]; rfl) (fun _ => rfl) (atFrame_answered _)
    · cases taken
  | ctrlC signal =>
    have held := whole signal rfl
    simp only [OwnerSession.step] at taken
    split at taken <;> cases taken
    · exact .inl (inStep.move held ⟨rfl, by rintro _ ⟨⟩⟩)
    · exact .inl (inStep.move held ⟨rfl, by rintro _ ⟨⟩⟩)
  | informed result =>
    simp only [OwnerSession.step] at taken
    split at taken
    · rename_i phase
      cases taken
      exact .inl (inStep.move (by rw [phase]; rfl) ⟨rfl, by rintro _ ⟨⟩⟩)
    · rename_i phase
      cases taken
      exact .inl (inStep.move (by rw [phase]; rfl) ⟨rfl, by rintro _ ⟨⟩⟩)
    · rename_i phase
      cases taken
      exact .inl (inStep.move (by rw [phase]; rfl) ⟨rfl, by rintro _ ⟨⟩⟩)
    · cases taken
  | wrote result =>
    simp only [OwnerSession.step] at taken
    split at taken
    · rename_i phase
      cases taken
      exact .inl (inStep.move (by rw [phase]; rfl) atFrame_unregistering)
    · rename_i phase
      cases taken
      exact .inl (inStep.move (by rw [phase]; rfl) ⟨rfl, by rintro _ ⟨⟩⟩)
    · rename_i phase
      cases taken
      exact .inl (inStep.move (by rw [phase]; rfl) ⟨rfl, by rintro _ ⟨⟩⟩)
    · cases taken

/-! ### After Ctrl-C -/

/-- The connection has failed with this error, in a read or in the write of the
request, or standard output has, or the daemon has answered with it since. -/
def Excused (past : List OwnerLabel) (before : List (Envelope ServerMessage))
    (client : OwnerSession) (error : FwError) : Prop :=
  client.pipe.ended = some error ∨ .wrote (.error error) ∈ past ∨ .informed (.error error) ∈ past ∨
    ∃ envelope ∈ client.frames.drop before.length, ∃ code message,
      envelope.message = .error code message ∧ error = .other message

/-- The client is on its way through `unregister`, in step with the stream. -/
structure Unregisters (envelopes : List (Envelope ServerMessage)) (frames : List (List UInt8))
    (before : List (Envelope ServerMessage)) (past : List OwnerLabel) (client : OwnerSession) :
    Prop where
  kept : Kept envelopes frames client
  grown : before <+: client.frames
  leaves : client.phase = .informing .unregister ∨ client.phase = .requesting ∨
    (∃ reading, client.phase = .unregistering reading) ∨ ∃ result, client.phase = .returned result
  excused : ∀ error, client.phase = .returned (.error error) → Excused past before client error

theorem Excused.later {error : FwError} (excused : Excused past before client error)
    (ended : client.pipe.ended = some error → client'.pipe.ended = some error)
    (frames : client'.frames = client.frames) :
    Excused (past ++ [label]) before client' error := by
  rcases excused with cut | wrote | informed | ⟨envelope, member, answered⟩
  · exact .inl (ended cut)
  · exact .inr (.inl (List.mem_append_left _ wrote))
  · exact .inr (.inr (.inl (List.mem_append_left _ informed)))
  · exact .inr (.inr (.inr ⟨envelope, frames ▸ member, answered⟩))

private theorem answered_leaves (session : UInt64) (message : ServerMessage) :
    (∃ reading, OwnerSession.answered session message = .unregistering reading) ∨
      OwnerSession.answered session message = .returned (.ok ()) ∨
      ∃ code text, message = .error code text ∧
        OwnerSession.answered session message = .returned (.error (.other text)) := by
  cases message with
  | unregistered acknowledged =>
    simp only [OwnerSession.answered]
    split
    · exact .inr (.inl rfl)
    · exact .inl ⟨_, rfl⟩
  | error code text => exact .inr (.inr ⟨code, text, rfl, rfl⟩)
  | _ => exact .inl ⟨_, rfl⟩

/-- **Step lemma** of `unregister`. -/
theorem Unregisters.step (framed : List.Forall₂ (IsFrame fromSlice) envelopes frames)
    (unregisters : Unregisters envelopes frames before past client)
    (delivers : Delivers frames client label)
    (taken : client.step fromSlice label = some client') :
    Unregisters envelopes frames before (past ++ [label]) client' := by
  obtain ⟨kept, grown, leaves, excused⟩ := unregisters
  have unwatched : ∀ reading, client.phase ≠ .watching reading := by
    intro reading watching
    rcases leaves with phase | phase | ⟨_, phase⟩ | ⟨_, phase⟩ <;>
      (rw [phase] at watching; cases watching)
  have keptAfter : Kept envelopes frames client' := by
    refine kept.step framed delivers ?_ taken
    rintro signal rfl
    simp only [OwnerSession.step] at taken
    split at taken
    · exact absurd ‹_› (unwatched _)
    · exact absurd ‹_› (unwatched _)
    · cases taken
  cases label with
  | arrive bytes =>
    simp only [OwnerSession.step] at taken
    split at taken <;> cases taken
    exact ⟨keptAfter, grown, leaves, fun error failed => (excused error failed).later id rfl⟩
  | ends error =>
    simp only [OwnerSession.step] at taken
    split at taken <;> cases taken
    rename_i alive
    refine ⟨keptAfter, grown, leaves, fun error failed => (excused error failed).later ?_ rfl⟩
    intro ended
    rw [alive] at ended
    cases ended
  | poll =>
    simp only [OwnerSession.step] at taken
    split at taken
    · exact absurd ‹_› (unwatched _)
    · rename_i reading phase
      cases taken
      rcases kept with inStep | ⟨_, error, returned, _⟩
      case inr =>
        rw [phase] at returned
        cases returned
      have polled := @InStep.polled fromSlice envelopes frames client reading framed inStep
        (by rw [phase]; rfl) .unregistering _ (fun _ => rfl) (atFrame_answered client.session)
      rcases polled with
        ⟨envelope, next⟩ | ⟨_, same, ⟨_, later, waits⟩ | ⟨error, failed, _, ended⟩⟩
      · refine ⟨keptAfter, ?_, ?_, ?_⟩
        · rw [next.frames_eq]
          exact grown.trans (List.prefix_append _ _)
        · rw [next.phase_eq]
          rcases answered_leaves client.session envelope.message with again | done | ⟨_, _, _, failed⟩
          · exact .inr (.inr (.inl again))
          · exact .inr (.inr (.inr ⟨_, done⟩))
          · exact .inr (.inr (.inr ⟨_, failed⟩))
        · intro error failed
          rw [next.phase_eq] at failed
          rcases answered_leaves client.session envelope.message with
            ⟨_, again⟩ | done | ⟨code, text, message, answered⟩
          · rw [again] at failed
            cases failed
          · rw [done] at failed
            cases failed
          · rw [answered] at failed
            cases failed
            refine .inr (.inr (.inr ⟨envelope, ?_, code, text, message, rfl⟩))
            rw [next.frames_eq, List.drop_append_of_le_length grown.length_le]
            exact List.mem_append_right _ (List.mem_singleton_self _)
      · refine ⟨keptAfter, same ▸ grown, .inr (.inr (.inl ⟨later, waits⟩)), fun error failed => ?_⟩
        rw [waits] at failed
        cases failed
      · refine ⟨keptAfter, same ▸ grown, .inr (.inr (.inr ⟨_, failed⟩)), fun other result => ?_⟩
        rw [failed] at result
        cases result
        exact .inl ended
    · cases taken
  | ctrlC signal =>
    simp only [OwnerSession.step] at taken
    split at taken
    · exact absurd ‹_› (unwatched _)
    · exact absurd ‹_› (unwatched _)
    · cases taken
  | informed result =>
    simp only [OwnerSession.step] at taken
    split at taken
    · cases taken
      exact ⟨keptAfter, grown, .inr (.inl rfl), by rintro _ ⟨⟩⟩
    · rename_i phase
      rcases leaves with same | same | ⟨_, same⟩ | ⟨_, same⟩ <;> (rw [phase] at same; cases same)
    · cases taken
      refine ⟨keptAfter, grown, .inr (.inr (.inr ⟨_, rfl⟩)), ?_⟩
      rintro _ ⟨⟩
      exact .inr (.inr (.inl (List.mem_append_right _ (List.mem_singleton_self _))))
    · cases taken
  | wrote result =>
    simp only [OwnerSession.step] at taken
    split at taken
    · cases taken
      exact ⟨keptAfter, grown, .inr (.inr (.inl ⟨_, rfl⟩)), by rintro _ ⟨⟩⟩
    · cases taken
      refine ⟨keptAfter, grown, .inr (.inr (.inr ⟨_, rfl⟩)), ?_⟩
      rintro _ ⟨⟩
      exact .inr (.inl (List.mem_append_right _ (List.mem_singleton_self _)))
    · rename_i phase
      rcases leaves with same | same | ⟨_, same⟩ | ⟨_, same⟩ <;> (rw [phase] at same; cases same)
    · cases taken

/-- What Ctrl-C must leave intact, in every state of `unregister`: its `read_frame`
calls start where a frame starts and have returned the frames of the stream in
order; a call whose frame has arrived returns it; and it fails only for a reason
of its own. -/
structure ReadsOn (fromSlice : List UInt8 → Except String (Envelope ServerMessage))
    (envelopes : List (Envelope ServerMessage)) (frames : List (List UInt8))
    (before : List (Envelope ServerMessage)) (past : List OwnerLabel) (client : OwnerSession) :
    Prop where
  boundary : (∀ result, client.phase ≠ .returned result) →
    client.readStart = (frames.take client.frames.length).flatten.length
  returned : before <+: client.frames ∧ client.frames <+: envelopes
  next : ∀ reading, client.phase = .unregistering reading → client.frames.length < frames.length →
    (frames.take (client.frames.length + 1)).flatten <+: client.pipe.arrived →
      ∃ envelope client', envelopes[client.frames.length]? = some envelope ∧
        client.step fromSlice .poll = some client' ∧ client'.frames = client.frames ++ [envelope]
  failure : ∀ error, client.phase = .returned (.error error) → Excused past before client error

theorem Unregisters.readsOn (framed : List.Forall₂ (IsFrame fromSlice) envelopes frames)
    (unregisters : Unregisters envelopes frames before past client) :
    ReadsOn fromSlice envelopes frames before past client := by
  obtain ⟨kept, grown, _, excused⟩ := unregisters
  rcases kept with inStep | ⟨returned, error, phase, _⟩
  · refine ⟨fun _ => inStep.readStart, ⟨grown, inStep.returned⟩, ?_, excused⟩
    intro reading phase inside complete
    have polled := @InStep.polled fromSlice envelopes frames client reading framed inStep
      (by rw [phase]; rfl) .unregistering _ (fun _ => rfl) (atFrame_answered client.session)
    rcases polled with ⟨envelope, next⟩ | ⟨short, _⟩
    · refine ⟨envelope, _, next.isNext, ?_, next.frames_eq⟩
      rw [OwnerSession.step, phase]
    · have cut := short _ (List.getElem?_eq_getElem inside)
      have enough := complete.length_le
      omega
  · refine ⟨fun running => absurd phase (running _), ⟨grown, returned⟩, ?_, excused⟩
    intro reading unregistering
    rw [phase] at unregistering
    cases unregistering

/-- The client has never left its `select`. -/
theorem watching_of_step (taken : client.step fromSlice label = some client')
    (watching : client'.phase = .watching reading) :
    (∃ earlier, client.phase = .watching earlier) ∧ ∀ signal, label ≠ .ctrlC signal := by
  cases label with
  | arrive | ends =>
    simp only [OwnerSession.step] at taken
    split at taken <;> cases taken
    exact ⟨⟨reading, watching⟩, fun _ => nofun⟩
  | poll =>
    simp only [OwnerSession.step] at taken
    split at taken
    · exact ⟨⟨_, ‹_›⟩, fun _ => nofun⟩
    · cases taken
      simp only [OwnerSession.polled] at watching
      split at watching
      · split at watching
        · rename_i envelope _
          rcases answered_leaves client.session envelope.message with
            ⟨_, phase⟩ | phase | ⟨_, _, _, phase⟩ <;> (rw [phase] at watching; cases watching)
        · cases watching
      · split at watching <;> cases watching
    · cases taken
  | ctrlC | informed | wrote =>
    simp only [OwnerSession.step] at taken
    split at taken <;> cases taken <;> cases watching

private theorem inStep_of_watching {session : UInt64}
    (framed : List.Forall₂ (IsFrame fromSlice) envelopes frames)
    (ran : Run (OwnerSession.step fromSlice) (Delivers frames) (.start session) labels client)
    (watching : client.phase = .watching reading) : InStep envelopes frames client := by
  have always := ran.invariant
    (fun client : OwnerSession => ∀ reading, client.phase = .watching reading →
      InStep envelopes frames client) (fun _ _ => inStep_start session) ?_
  · exact always reading watching
  · intro before label after inStep delivers taken reading watching
    obtain ⟨⟨earlier, wasWatching⟩, uninterrupted⟩ := watching_of_step taken watching
    have kept := Kept.step framed (.inl (inStep earlier wasWatching)) delivers
      (fun signal same => absurd same (uninterrupted signal)) taken
    rcases kept with inStep | ⟨_, error, returned, _⟩
    · exact inStep
    · rw [watching] at returned
      cases returned

/-- **Ctrl-C keeps the client in step exactly if no frame is half read.** For every
stream of frames, however its bytes arrive, and whenever Ctrl-C wins the `select`:
all that `unregister` does afterwards reads on where the stream was if and only if
the `read_frame` call that is dropped had taken no byte of the next frame. -/
theorem interrupt_reads_on_iff {session : UInt64}
    (framed : List.Forall₂ (IsFrame fromSlice) envelopes frames)
    (ran : Run (OwnerSession.step fromSlice) (Delivers frames) (.start session) labels client)
    (watching : client.phase = .watching reading)
    (interrupted : client.step fromSlice (.ctrlC (.ok ())) = some client') :
    (∀ more v, Run (OwnerSession.step fromSlice) (Delivers frames) client' more v →
      ReadsOn fromSlice envelopes frames client.frames more v) ↔ reading.taken = [] := by
  have inStep := inStep_of_watching framed ran watching
  have held : client.phase.held = reading.taken := by rw [watching]; rfl
  have after : client' = { client with phase := .informing .unregister } := by
    simp only [OwnerSession.step, watching] at interrupted
    cases interrupted
    rfl
  subst after
  constructor
  · intro readsOn
    have boundary := (readsOn [] _ .nil).boundary (fun _ => nofun)
    have before := inStep.readStart
    have within := congrArg List.length inStep.split
    rw [List.length_take, List.length_append, Nat.min_eq_left inStep.within] at within
    have whole : client.pipe.taken = (frames.take client.frames.length).flatten.length := by
      simpa [OwnerSession.readStart, OwnerPhase.held, OwnerPhase.reading] using boundary
    rw [← held]
    exact List.length_eq_zero_iff.mp (by omega)
  · intro nothing more v ran
    have unregisters := ran.historyInvariant (Unregisters envelopes frames client.frames)
      ⟨.inl (inStep.move (held.trans nothing) ⟨rfl, by rintro _ ⟨⟩⟩), List.prefix_rfl, .inl rfl,
        fun _ => nofun⟩
      fun _ _ _ _ unregisters delivers taken => unregisters.step framed delivers taken
    exact unregisters.readsOn framed

end Streams

/-! ### A frame cut after its header -/

/-- What a stopped owner is sent first, with its compact JSON. -/
def terminateText : List (Envelope ServerMessage × String) :=
  [(Envelope.new none (.terminate .remoteStop),
    "\x7b\"version\":1,\"request_id\":null,\"message\":" ++
      "\x7b\"type\":\"terminate\",\"reason\":\"remote_stop\"\x7d\x7d")]

/-- Its frame. -/
def terminateFrame : List UInt8 :=
  (encodeFrame (toVecOf terminateText) (Envelope.new none (.terminate .remoteStop))).toOption.getD []

private theorem isFrame_terminate : IsFrame (fromSliceOf terminateText)
    (Envelope.new none (.terminate .remoteStop)) terminateFrame where
  header := by decide +kernel
  declared := by decide +kernel
  valid := by rfl
  decodes := by rfl

/-- The first `count` bytes of the frame arrive and are read, Ctrl-C wins, and the
rest arrives. -/
def interruptLabels (count : Nat) : List OwnerLabel :=
  [.arrive (terminateFrame.take count), .poll, .ctrlC (.ok ()), .informed (.ok ()),
    .wrote (.ok ()), .arrive (terminateFrame.drop count), .poll]

/-- Whether what arrives is the frame. -/
def arrivesInOrder (client : OwnerSession) : OwnerLabel → Bool
  | .arrive bytes => (client.pipe.arrived ++ bytes).isPrefixOf [terminateFrame].flatten
  | _ => true

/-- The client after these steps. -/
def afterLabels (labels : List OwnerLabel) : Option OwnerSession :=
  executeChecked (OwnerSession.step (fromSliceOf terminateText)) arrivesInOrder (.start 7) labels

private theorem run_of_afterLabels {labels : List OwnerLabel} {client : OwnerSession}
    (ran : afterLabels labels = some client) :
    Run (OwnerSession.step (fromSliceOf terminateText)) (Delivers [terminateFrame]) (.start 7) labels
      client := by
  apply run_of_executeChecked _ ran
  rintro state label checked bytes rfl
  exact List.isPrefixOf_iff_prefix.mp checked

/-- Ctrl-C before a byte of the frame is read: nothing is lost. -/
theorem unread_frame_reads_on :
    ∃ client client', afterLabels [.arrive terminateFrame] = some client ∧
      client.step (fromSliceOf terminateText) (.ctrlC (.ok ())) = some client' ∧
      ∀ more v, Run (OwnerSession.step (fromSliceOf terminateText)) (Delivers [terminateFrame]) client'
          more v →
        ReadsOn (fromSliceOf terminateText) [Envelope.new none (.terminate .remoteStop)]
          [terminateFrame] client.frames more v :=
  ⟨_, _, rfl, rfl, (interrupt_reads_on_iff (.cons isFrame_terminate .nil)
    (@run_of_afterLabels [.arrive terminateFrame] _ rfl) rfl rfl).mpr rfl⟩

/-- **Ctrl-C in the middle of a frame.** The header of a frame has been read when
Ctrl-C wins; `unregister` takes the payload for a header and fails with a protocol
error, on a connection that is up and before the daemon has answered anything. -/
theorem half_read_frame_fails_unregister :
    ∃ client, Run (OwnerSession.step (fromSliceOf terminateText)) (Delivers [terminateFrame])
        (.start 7) (interruptLabels 4) client ∧
      client.phase =
        .returned (.error (.protocol "IPC frame is 2065856101 bytes; maximum is 65536")) ∧
      client.pipe.ended = none ∧ client.frames = [] ∧
      ¬ ReadsOn (fromSliceOf terminateText) [Envelope.new none (.terminate .remoteStop)]
        [terminateFrame] [] ((interruptLabels 4).drop 3) client := by
  obtain ⟨client, ran⟩ := Option.isSome_iff_exists.mp
    (show (afterLabels (interruptLabels 4)).isSome = true by decide +kernel)
  have phase : (afterLabels (interruptLabels 4)).map (fun client => client.phase) =
      some (.returned (.error (.protocol "IPC frame is 2065856101 bytes; maximum is 65536"))) := by
    decide +kernel
  have rest : (afterLabels (interruptLabels 4)).map
      (fun client => (client.pipe.ended, client.frames)) = some (none, []) := by
    decide +kernel
  rw [ran, Option.map_some, Option.some_inj] at phase rest
  obtain ⟨ended, frames⟩ := Prod.mk.inj rest
  refine ⟨client, run_of_afterLabels ran, phase, ended, frames, fun readsOn => ?_⟩
  rcases readsOn.failure _ phase with cut | wrote | informed | ⟨envelope, member, _⟩
  · rw [ended] at cut
    cases cut
  · simp [interruptLabels] at wrote
  · simp [interruptLabels] at informed
  · rw [frames] at member
    cases member

end CfFw
