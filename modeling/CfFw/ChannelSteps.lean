import CfFw.DaemonSteps

/-! What a step does to the channels, exactly: the companion of the inversions for
handlers and tasks where the queue and the writer task matter. No channel ever
holds more than it has room for, its slots go to its senders in the order in which
they asked, and a sender whose turn does not come without the client waits for the
client. -/
namespace CfFw
open Std Transition

variable {d d' v : Daemon} {c target : ConnId} {label : Label} {labels : List Label}
  {channel next : Channel} {sender other : Sender} {envelope : Envelope ServerMessage}
  {accepted : Bool}

/-- The place of a sender among all that the channel ever serves: behind those that have
sent and those that wait before it. -/
def Channel.turn (channel : Channel) (sender : Sender) : Nat :=
  channel.sent.length + channel.waiting.idxOf sender

/-- The envelopes that the writer task still takes without its client. -/
def Channel.takes (channel : Channel) : Nat :=
  match channel.writer with
  | .receiving => 1
  | .writing _ | .ended _ => 0

/-- The slots that there are and the one that the writer task may still free all go to
others, and the writer task waits for the client to take a frame. -/
def Channel.heldUp (channel : Channel) (sender : Sender) : Bool :=
  !channel.closed &&
    channelCapacity + channel.received + channel.takes ≤ channel.turn sender

/-- The client whose step this is: it sends a frame or disconnects, or it takes a
frame or refuses it. -/
def Label.client : Label → Option ConnId
  | .read c _ | .wrote c _ => some c
  | _ => none

/-- What a step leaves as the channels. -/
inductive ChannelStep (d : Daemon) : Label → (ConnId → Channel) → Prop where
  | kept {label : Label} : ChannelStep d label d.channels
  | opened : ChannelStep d .accept (Function.update d.channels d.accepted .fresh)
  | queued {sender : Sender} {target : ConnId} {channel : Channel}
      (sending : d.sends target sender = true)
      (queued : (d.channels target).queue sender = some channel) :
      ChannelStep d (.queue sender target) (Function.update d.channels target channel)
  | offered {label : Label} {sender : Sender} {target : ConnId}
      {envelope : Envelope ServerMessage} {channel : Channel} {accepted : Bool}
      (offered : (d.channels target).offer sender envelope = some (channel, accepted)) :
      ChannelStep d label (Function.update d.channels target channel)
  | took {target : ConnId} {channel : Channel} (took : (d.channels target).take = some channel) :
      ChannelStep d (.take target) (Function.update d.channels target channel)
  | wrote {target : ConnId} {result : Result Unit} {channel : Channel}
      (wrote : (d.channels target).wrote result = some channel) :
      ChannelStep d (.wrote target result) (Function.update d.channels target channel)
  | ended {target : ConnId} {channel : Channel}
      (ended : (d.channels target).finish (d.hasSender target) = some channel) :
      ChannelStep d (.writerEnds target) (Function.update d.channels target channel)

private theorem channelStep_of_stats {index : Nat} (taken : d.statsStep index label = some d') :
    ChannelStep d label d'.channels := by
  unfold Daemon.statsStep at taken
  split at taken
  · split at taken <;> cases taken
    exact .kept
  · split at taken
    · split at taken <;> cases taken <;> exact .kept
    · cases taken
  · split at taken
    · split at taken <;> cases taken
      · exact .kept
      · rename_i offered
        exact .offered offered
    · cases taken
  · cases taken

private theorem channelStep_of_main (taken : d.mainStep label = some d') :
    ChannelStep d label d'.channels := by
  unfold Daemon.mainStep at taken
  split at taken
  · split at taken
    · split at taken <;> cases taken <;> exact .kept
    · cases taken
  · split at taken <;> cases taken <;> exact .kept
  · split at taken
    · split at taken <;> cases taken
      exact .kept
    · cases taken
  · split at taken
    · split at taken <;> cases taken
      rename_i offered
      exact .offered offered
    · cases taken
      exact .kept
    · cases taken
  · split at taken <;> cases taken
    exact .kept
  · split at taken
    · split at taken <;> cases taken
      exact .kept
    · cases taken
  · cases taken

/-- **Inversion for channels.** Every step changes at most one channel, in one of
the listed ways. -/
theorem channelStep_of_step (taken : d.step label = some d') : ChannelStep d label d'.channels := by
  unfold Daemon.step at taken
  split at taken
  · cases taken
  cases label with
  | accept =>
    dsimp only at taken
    split at taken <;> cases taken
    exact .opened
  | acceptEnds | idleStops =>
    dsimp only at taken
    split at taken <;> cases taken
    exact .kept
  | read other outcome =>
    simp only [Daemon.readStep] at taken
    split at taken <;> cases taken
    exact .kept
  | register other rng stamp | proceed other | snapshot other order | timeout other =>
    obtain ⟨_, _, rfl⟩ := Option.map_eq_some_iff.mp taken
    exact .kept
  | queue sender other =>
    obtain ⟨channel, sending, queued, rfl⟩ := queued_of_queueStep taken
    exact .queued sending queued
  | send other =>
    simp only [Daemon.sendStep] at taken
    split at taken
    · cases taken
    · split at taken <;> cases taken
      rename_i offered
      exact .offered offered
  | drained other =>
    simp only [Daemon.drainedStep] at taken
    split at taken <;> cases taken
    exact .kept
  | take other =>
    obtain ⟨channel, took, rfl⟩ := Option.map_eq_some_iff.mp taken
    exact .took took
  | wrote other result =>
    obtain ⟨channel, wrote, rfl⟩ := Option.map_eq_some_iff.mp taken
    exact .wrote wrote
  | writerEnds other =>
    obtain ⟨channel, ended, rfl⟩ := Option.map_eq_some_iff.mp taken
    exact .ended ended
  | statsTick index | statsCheck index sample | statsSend index => exact channelStep_of_stats taken
  | idleTick =>
    dsimp only at taken
    split at taken <;> cases taken
    unfold Daemon.idleTick
    split <;> exact .kept
  | signal | advance duration =>
    cases taken
    exact .kept
  | cancelTimer =>
    dsimp only at taken
    split at taken
    · split at taken <;> cases taken
      exact .kept
    · cases taken
  | supervise | poll outcome | fatalSnapshot order | fatalSend | fatalClear | exit =>
    exact channelStep_of_main taken

/-- What a step leaves as the channel to client `c`. -/
inductive ChannelChange (d : Daemon) (c : ConnId) : Label → Channel → Prop where
  | kept {label : Label} : ChannelChange d c label (d.channels c)
  | opened (new : c = d.accepted) : ChannelChange d c .accept .fresh
  | queued {sender : Sender} {channel : Channel} (sending : d.sends c sender = true)
      (queued : (d.channels c).queue sender = some channel) :
      ChannelChange d c (.queue sender c) channel
  | offered {label : Label} {sender : Sender} {envelope : Envelope ServerMessage}
      {channel : Channel} {accepted : Bool}
      (offered : (d.channels c).offer sender envelope = some (channel, accepted)) :
      ChannelChange d c label channel
  | took {channel : Channel} (took : (d.channels c).take = some channel) :
      ChannelChange d c (.take c) channel
  | wrote {result : Result Unit} {channel : Channel}
      (wrote : (d.channels c).wrote result = some channel) :
      ChannelChange d c (.wrote c result) channel
  | ended {channel : Channel} (ended : (d.channels c).finish (d.hasSender c) = some channel) :
      ChannelChange d c (.writerEnds c) channel

theorem channelChange_of_step (taken : d.step label = some d') (c : ConnId) :
    ChannelChange d c label (d'.channels c) := by
  have change := channelStep_of_step taken
  generalize d'.channels = channels at change ⊢
  have update : ∀ {target : ConnId} {channel : Channel},
      (target = c → ChannelChange d c label channel) →
      ChannelChange d c label (Function.update d.channels target channel c) := by
    intro target channel here
    by_cases same : c = target
    · rw [same, Function.update_self, ← same]
      exact here same.symm
    · rw [Function.update_of_ne same]
      exact .kept
  cases change with
  | kept => exact .kept
  | opened => exact update fun new => .opened new.symm
  | queued sending queued => exact update fun same => by subst same; exact .queued sending queued
  | offered offered => exact update fun same => by subst same; exact .offered offered
  | took took => exact update fun same => by subst same; exact .took took
  | wrote wrote => exact update fun same => by subst same; exact .wrote wrote
  | ended ended => exact update fun same => by subst same; exact .ended ended

/-! ### The order of the senders -/

/-- Who waits before the other leaves the place before it. -/
theorem idxOf_erase_before {α : Type} [DecidableEq α] {waiting : List α} {first second : α}
    (before : waiting.idxOf first < waiting.idxOf second) :
    (waiting.erase first).idxOf second + 1 = waiting.idxOf second := by
  induction waiting with
  | nil => cases before
  | cons head rest ih =>
    by_cases same : head = first
    · subst same
      have apart : head ≠ second := by
        rintro rfl
        exact absurd before (Nat.lt_irrefl _)
      simp [apart]
    · have apart : head ≠ second := by
        rintro rfl
        simp at before
      have later : rest.idxOf first < rest.idxOf second := by
        simpa [List.idxOf_cons, same, apart] using before
      simp [same, apart, ih later]

/-- Who comes last takes nobody's place. -/
theorem idxOf_le_append {α : Type} [DecidableEq α] (waiting : List α) (sender last : α) :
    waiting.idxOf sender ≤ (waiting ++ [last]).idxOf sender := by
  rw [List.idxOf_append]
  split
  · exact le_rfl
  · exact List.idxOf_le_length.trans (Nat.le_add_left _ _)

/-- A channel has received no more than was sent on it, and holds no more envelopes than
it has room for. -/
structure Channel.Fits (channel : Channel) : Prop where
  received : channel.received ≤ channel.sent.length
  room : channel.sent.length ≤ channel.received + channelCapacity

theorem Channel.Fits.admits_iff (fits : channel.Fits) : channel.admits sender = true ↔
    channel.turn sender < channelCapacity + channel.received := by
  obtain ⟨received, room⟩ := fits
  simp only [Channel.admits, Channel.turn, decide_eq_true_eq]
  omega

/-- A sender keeps its turn when another one sends before it. -/
theorem turn_of_offer (before : channel.turn other < channel.turn sender)
    (envelope : Envelope ServerMessage) :
    Channel.turn { channel with
      sent := channel.sent ++ [envelope], waiting := channel.waiting.erase other } sender =
      channel.turn sender := by
  have ahead : channel.waiting.idxOf other < channel.waiting.idxOf sender := by
    simp only [Channel.turn] at before
    omega
  have moved := idxOf_erase_before ahead
  simp only [Channel.turn, List.length_append, List.length_singleton]
  omega

theorem Channel.Fits.offer (fits : channel.Fits)
    (offered : channel.offer sender envelope = some (next, accepted)) : next.Fits := by
  rcases Channel.offer_eq_some offered with ⟨-, -, admitted, rfl⟩ | ⟨-, -, rfl⟩
  · have early := fits.admits_iff.mp admitted
    obtain ⟨received, room⟩ := fits
    simp only [Channel.turn] at early
    constructor
    · simp only [List.length_append]
      omega
    · simp only [List.length_append, List.length_singleton]
      omega
  · exact fits

theorem fits_step (fits : ∀ c, (d.channels c).Fits) (taken : d.step label = some d') :
    ∀ c, (d'.channels c).Fits := by
  intro c
  have fit := fits c
  have change := channelChange_of_step taken c
  generalize d'.channels c = channel at change ⊢
  cases change with
  | kept => exact fit
  | opened => exact ⟨le_rfl, Nat.zero_le _⟩
  | queued _ queued =>
    obtain ⟨-, -, -, rfl⟩ := Channel.queue_eq_some queued
    exact ⟨fit.received, fit.room⟩
  | offered offered => exact fit.offer offered
  | took took =>
    obtain ⟨-, inside, envelope, rfl⟩ := Channel.take_eq_some took
    exact ⟨inside, Nat.le_trans fit.room (by dsimp only; omega)⟩
  | wrote wrote =>
    obtain ⟨-, writer, rfl⟩ := Channel.wrote_eq_some wrote
    exact ⟨fit.received, fit.room⟩
  | ended ended =>
    obtain ⟨-, -, -, rfl⟩ := Channel.finish_eq_some ended
    exact ⟨fit.received, fit.room⟩

/-! ### A channel that is held up -/

theorem heldUp_iff : channel.heldUp sender = true ↔ channel.closed = false ∧
    channelCapacity + channel.received + channel.takes ≤ channel.turn sender := by
  simp [Channel.heldUp]

/-- The writer task still frees one slot, and `run` has asked for it before handler 1. -/
example (envelope : Envelope ServerMessage) :
    let channel : Channel :=
      ⟨List.replicate channelCapacity envelope, 0, .receiving, [.main, .handler 1]⟩
    channel.heldUp (.handler 1) = true ∧ channel.heldUp .main = false := ⟨rfl, rfl⟩

theorem not_offered (fits : channel.Fits) (heldUp : channel.heldUp sender = true)
    (envelope : Envelope ServerMessage) : channel.offer sender envelope = none := by
  obtain ⟨alive, late⟩ := heldUp_iff.mp heldUp
  have refused : channel.admits sender = false := by
    by_contra admitted
    have early := fits.admits_iff.mp (Bool.not_eq_false _ ▸ admitted)
    omega
  simp [Channel.offer, alive, refused]

/-- A channel that is held up for a sender stays so, unless its client moves. -/
theorem heldUp_step (taken : d.step label = some d') (present : target < d.accepted)
    (fits : (d.channels target).Fits) (heldUp : (d.channels target).heldUp sender = true)
    (quiet : label.client ≠ some target) : (d'.channels target).heldUp sender = true := by
  obtain ⟨alive, late⟩ := heldUp_iff.mp heldUp
  have change := channelChange_of_step taken target
  generalize d'.channels target = channel at change ⊢
  cases change with
  | kept => exact heldUp
  | opened new => exact absurd new present.ne
  | @queued asking _ _ queued =>
    obtain ⟨-, -, -, rfl⟩ := Channel.queue_eq_some queued
    have kept := idxOf_le_append (d.channels target).waiting sender asking
    refine heldUp_iff.mpr ⟨alive, ?_⟩
    simp only [Channel.turn, Channel.takes] at late ⊢
    omega
  | @offered _ sending envelope _ accepted offered =>
    rcases Channel.offer_eq_some offered with ⟨-, -, admitted, rfl⟩ | ⟨-, -, rfl⟩
    · -- Whoever is admitted has its turn before this sender.
      have early := fits.admits_iff.mp admitted
      have kept := turn_of_offer (show (d.channels target).turn sending <
        (d.channels target).turn sender by omega) envelope
      exact heldUp_iff.mpr ⟨alive, by rw [kept]; exact late⟩
    · exact heldUp
  | took took =>
    obtain ⟨receiving, -, envelope, rfl⟩ := Channel.take_eq_some took
    refine heldUp_iff.mpr ⟨rfl, ?_⟩
    simp only [Channel.turn, Channel.takes, receiving] at late ⊢
    omega
  | wrote => exact absurd rfl quiet
  | ended ended =>
    obtain ⟨receiving, -, empty, -⟩ := Channel.finish_eq_some ended
    have room := fits.room
    have nobody : (d.channels target).waiting = [] := by
      by_contra waiting
      simp [Daemon.hasSender, waiting] at empty
    simp only [Channel.turn, Channel.takes, receiving, nobody, List.idxOf_nil] at late
    omega

end CfFw
