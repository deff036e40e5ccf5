import CfFw.FirstReply
import CfFw.Ownership
import CfFw.SendQueue
import Mathlib.Data.Prod.Lex

/-! When a Stop, a Kill or the broadcast of `run` goes on without the clients that
do nothing any more. Such an operation waits for a timer or for a channel; a
channel whose writer task is held up in `write_frame` lets nobody on but those
whose turn its free slots cover. -/
namespace CfFw
open Std Transition

variable {d d' v : Daemon} {c target : ConnId} {label : Label} {labels : List Label}
  {shared : Shared} {handler : Handler} {channel : Channel} {sender : Sender}
  {silent : ConnId → Prop}

/-- Steps of everyone but the silent clients. -/
def Without (silent : ConnId → Prop) (_ : Daemon) (label : Label) : Prop :=
  ∀ c, label.client = some c → ¬ silent c

/-- A Stop or a Kill is in progress, or a reply to a request is on its way. -/
def Phase.controls : Phase → Bool
  | .resolving _ _ | .notifying _ _ _ | .locating _ _ _ | .terminating _ _ _ _
  | .waiting _ _ _ _ _ | .removing _ _ (.stopped _ _ _) | .clearing _ | .snapshotting _ _
  | .broadcasting _ _ _ _ | .replying _ _ _ => true
  | _ => false

/-- `broadcast_fatal` is in progress. -/
def MainPhase.alerts : MainPhase → Bool
  | .snapshotting _ | .broadcasting _ _ _ | .clearing _ _ => true
  | _ => false

/-- Handler `c` is about to send to a silent client whose channel is held up for it. -/
def HeldUp (silent : ConnId → Prop) (d : Daemon) (c : ConnId) : Prop :=
  ∃ target envelope, outgoing c (d.handlers c).phase = some (target, envelope) ∧ silent target ∧
    (d.channels target).heldUp (.handler c) = true

/-- `broadcast_fatal` is about to send to a silent client whose channel is held up for it. -/
def AlertHeldUp (silent : ConnId → Prop) (d : Daemon) : Prop :=
  ∃ details owners target rest, d.main = .broadcasting details owners (target :: rest) ∧
    silent target ∧ (d.channels target).heldUp .main = true

/-- Handler `c` can take another step without a step of a silent client. -/
def GoesOn (silent : ConnId → Prop) (d : Daemon) (c : ConnId) : Prop :=
  ∃ labels v, Run Daemon.step (Without silent) d labels v ∧
    (v.handlers c).phase ≠ (d.handlers c).phase

/-- `broadcast_fatal` can take another step without a step of a silent client. -/
def AlertGoesOn (silent : ConnId → Prop) (d : Daemon) : Prop :=
  ∃ labels v, Run Daemon.step (Without silent) d labels v ∧ v.main ≠ d.main

private theorem without_of_client (client : label.client = none) : Without silent d label := by
  intro c same
  rw [client] at same
  cases same

/-! ### What is held up stays held up -/

/-- No client has come on this connection yet. -/
structure Unopened (d : Daemon) (c : ConnId) : Prop where
  absent : d.handlers c = ⟨.absent, none⟩
  untouched : Untouched d c

theorem unopened_of_run {baseDomain : String} {now : Instant}
    (ran : Run Daemon.step Unrestricted (.start baseDomain now) labels d) (later : d.accepted ≤ c) :
    Unopened d c := by
  apply ran.invariant (fun d => ∀ c, d.accepted ≤ c → Unopened d c)
  · exact fun c _ => ⟨rfl, untouched_start baseDomain now c⟩
  · intro d label d' holds _ taken c later
    have change := change_of_step taken
    have before := holds c (change.accepted_le.trans later)
    refine ⟨change.absent (fun c later => (holds c later).absent) later,
      before.untouched.step taken fun envelope reads => ?_⟩
    subst reads
    have phase : (d.handlers c).phase = .reading := by
      have moved := change.moved rfl
      generalize d'.handlers c = handler at moved
      generalize d'.shared = shared at moved
      cases moved <;> assumption
    rw [before.absent] at phase
    cases phase
  · exact later

/-- Nobody sends on a channel that is not open yet. -/
theorem Unopened.unsent (unopened : Unopened d c) : d.sends c sender = false := by
  by_contra sending
  rw [Bool.not_eq_false] at sending
  obtain ⟨absent, untouched⟩ := unopened
  cases sender with
  | handler other =>
    obtain ⟨envelope, sent⟩ := sends_handler.mp sending
    unfold outgoing at sent
    split at sent <;> cases sent
    · rename_i phase
      rw [absent] at phase
      cases phase
    · rename_i phase
      exact untouched.unaimed (.handler other (by rw [phase]; rfl))
    · rename_i phase
      exact untouched.unaimed (.handler other (by rw [phase]; exact List.mem_cons_self))
  | stats route =>
    obtain ⟨index, sample, task⟩ := sends_stats.mp sending
    exact untouched.noStats _ (List.mem_iff_getElem?.mpr ⟨index, task⟩) rfl
  | main =>
    obtain ⟨details, owners, rest, phase⟩ := sends_main.mp sending
    exact untouched.unaimed (.main _ _ _ phase List.mem_cons_self)

theorem Unopened.beyond (unopened : ∀ c, d.accepted ≤ c → Unopened d c) (queues : SendQueues d)
    (heldUp : (d.channels target).heldUp sender = true) : target < d.accepted := by
  apply Nat.lt_of_not_le
  intro later
  obtain ⟨alive, late⟩ := heldUp_iff.mp heldUp
  have nobody : (d.channels target).waiting = [] := by
    refine List.eq_nil_iff_forall_not_mem.mpr fun waiter waits => ?_
    have sending := queues.sends target waiter alive waits
    rw [(unopened target later).unsent] at sending
    cases sending
  simp only [Channel.turn, (unopened target later).untouched.silent, nobody, List.length_nil,
    List.idxOf_nil, channelCapacity] at late
  omega

private theorem send_disabled {envelope : Envelope ServerMessage} (fits : (d.channels target).Fits)
    (sending : outgoing c (d.handlers c).phase = some (target, envelope))
    (heldUp : (d.channels target).heldUp (.handler c) = true) : d.step (.send c) = none := by
  unfold Daemon.step
  split
  · rfl
  · simp only [Daemon.sendStep, sending, not_offered fits heldUp]

private theorem fatalSend_disabled {details : String} {owners rest : List ConnId}
    (fits : (d.channels target).Fits)
    (phase : d.main = .broadcasting details owners (target :: rest))
    (heldUp : (d.channels target).heldUp .main = true) : d.step .fatalSend = none := by
  unfold Daemon.step
  split
  · rfl
  · simp only [Daemon.mainStep, phase, not_offered fits heldUp]

private theorem accepted_run {allowed : Daemon → Label → Prop}
    (ran : Run Daemon.step allowed d labels v) :
    d.accepted ≤ v.accepted := by
  apply ran.invariant (fun v => d.accepted ≤ v.accepted) le_rfl
  intro v label next more _ taken
  exact more.trans (change_of_step taken).accepted_le

/-- Without its client, a channel that is held up for a sender stays so. -/
theorem heldUp_run (queues : SendQueues d) (opened : target < d.accepted) (quiet : silent target)
    (heldUp : (d.channels target).heldUp sender = true)
    (ran : Run Daemon.step (Without silent) d labels v) :
    (v.channels target).heldUp sender = true := by
  apply ran.invariantAlong (fun v => (v.channels target).heldUp sender = true) heldUp
  intro past v label next ran heldUp others taken
  exact heldUp_step taken (opened.trans_le (accepted_run ran)) ((queues.run ran).fits target) heldUp
    fun client => others target client quiet

/-- Without its client, a channel that is held up for a handler keeps it from its send. -/
theorem stuck_of_heldUp {envelope : Envelope ServerMessage} (queues : SendQueues d)
    (present : c < d.accepted) (opened : target < d.accepted)
    (sending : outgoing c (d.handlers c).phase = some (target, envelope))
    (quiet : silent target) (heldUp : (d.channels target).heldUp (.handler c) = true)
    (ran : Run Daemon.step (Without silent) d labels v) :
    (v.handlers c).phase = (d.handlers c).phase := by
  apply ran.invariantAlong (fun v => (v.handlers c).phase = (d.handlers c).phase) rfl
  intro past v label next ran phase _ taken
  rw [← phase] at sending ⊢
  rcases (change_of_step taken).handlers c with same | ⟨new, _⟩ | moved
  · rw [same]
  · exact absurd new (present.trans_le (accepted_run ran)).ne
  · obtain rfl := moved.sends sending
    rw [send_disabled ((queues.run ran).fits target) sending
      (heldUp_run queues opened quiet heldUp ran)] at taken
    cases taken

/-- Without its client, a channel that is held up for `run` keeps `broadcast_fatal` from
its send. -/
theorem alert_stuck_of_heldUp {details : String} {owners rest : List ConnId}
    (queues : SendQueues d) (opened : target < d.accepted)
    (phase : d.main = .broadcasting details owners (target :: rest))
    (quiet : silent target) (heldUp : (d.channels target).heldUp .main = true)
    (ran : Run Daemon.step (Without silent) d labels v) : v.main = d.main := by
  apply ran.invariantAlong (fun v => v.main = d.main) rfl
  intro past v label next ran same _ taken
  rw [← same] at phase ⊢
  have moved := (taskStep_of_step taken).main
  generalize next.main = main at moved
  cases moved with
  | kept => rfl
  | sent =>
    rw [fatalSend_disabled ((queues.run ran).fits target) phase
      (heldUp_run queues opened quiet heldUp ran)] at taken
    cases taken
  | halted other | looked other | quiet other | exitSeen other | snapshotted other
  | allSent other | cleared other | exited other =>
    rw [phase] at other
    cases other

/-! ### Everything else goes on -/

private theorem step_take (running : d.main ≠ .exited) (took : (d.channels c).take = some channel) :
    d.step (.take c) = some { d with channels := Function.update d.channels c channel } := by
  unfold Daemon.step
  split
  · rename_i exited
    exact absurd exited running
  · simp only [took, Option.map_some]

private theorem step_wrote {result : Result Unit} (running : d.main ≠ .exited)
    (wrote : (d.channels c).wrote result = some channel) :
    d.step (.wrote c result) =
      some { d with channels := Function.update d.channels c channel } := by
  unfold Daemon.step
  split
  · rename_i exited
    exact absurd exited running
  · simp only [wrote, Option.map_some]

private theorem step_advance (running : d.main ≠ .exited) (duration : Instant) :
    d.step (.advance duration) = some { d with now := d.now + duration } := by
  unfold Daemon.step
  split
  · rename_i exited
    exact absurd exited running
  · rfl

/-- The daemon comes to a state without the silent clients, and the sender stands there
where it stood. -/
structure Reaches (silent : ConnId → Prop) (sender : Sender) (d v : Daemon) : Prop where
  ran : ∃ labels, Run Daemon.step (Without silent) d labels v
  running : v.main ≠ .exited
  handler : ∀ c, sender = .handler c → v.handlers c = d.handlers c
  main : sender = .main → v.main = d.main

namespace Reaches

theorem refl (running : d.main ≠ .exited) : Reaches silent sender d d :=
  ⟨⟨[], .nil⟩, running, fun _ _ => rfl, fun _ => rfl⟩

theorem trans (first : Reaches silent sender d d') (second : Reaches silent sender d' v) :
    Reaches silent sender d v := by
  obtain ⟨labels, ran⟩ := first.ran
  obtain ⟨more, rest⟩ := second.ran
  exact ⟨⟨_, ran.append rest⟩, second.running,
    fun c same => (second.handler c same).trans (first.handler c same),
    fun same => (second.main same).trans (first.main same)⟩

/-- A step of a writer task. -/
theorem onChannel {channels : ConnId → Channel} (running : d.main ≠ .exited)
    (others : Without silent d label) (taken : d.step label = some { d with channels }) :
    Reaches silent sender d { d with channels } :=
  ⟨⟨_, .one others taken⟩, running, fun _ _ => rfl, fun _ => rfl⟩

end Reaches

/-- A sender that waits finds an envelope before it on the channel, or comes to find one
there: the first of the queue sends. -/
theorem reaches_sent (queues : SendQueues d) (running : d.main ≠ .exited)
    (alive : (d.channels c).closed = false) (refused : (d.channels c).admits sender = false) :
    ∃ v, Reaches silent sender d v ∧ (v.channels c).received < (v.channels c).sent.length ∧
      (v.channels c).turn sender = (d.channels c).turn sender ∧
      (v.channels c).received = (d.channels c).received ∧
      (v.channels c).writer = (d.channels c).writer := by
  by_cases more : (d.channels c).received < (d.channels c).sent.length
  · exact ⟨d, .refl running, more, rfl, rfl, rfl⟩
  · have fits := (queues.fits c).received
    have behind : channelCapacity ≤ (d.channels c).waiting.idxOf sender := by
      simp only [Channel.admits, decide_eq_false_iff_not] at refused
      omega
    cases queue : (d.channels c).waiting with
    | nil =>
      rw [queue] at behind
      cases behind
    | cons first rest =>
      have apart : first ≠ sender := by
        rintro rfl
        simp [queue, channelCapacity] at behind
      have admitted : (d.channels c).admits first = true := by
        simp only [Channel.admits, queue, List.idxOf_cons_self, decide_eq_true_eq, channelCapacity]
        omega
      obtain ⟨label, envelope, v, client, taken, running', next, handlers, main⟩ :=
        head_sends queues running alive queue admitted
      refine ⟨v, ⟨⟨_, .one (without_of_client client) taken⟩, running',
        fun other same => handlers other (same ▸ apart), fun same => main (same ▸ apart)⟩,
        ?_, ?_, ?_, ?_⟩
      · simp only [next, List.length_append, List.length_singleton]
        omega
      · simp only [next, Channel.turn, queue, List.idxOf_cons_ne _ apart, List.length_append,
          List.length_singleton]
        omega
      · rw [next]
      · rw [next]

/-- A writer task that is held up is free again once its client takes the frame. -/
theorem reaches_receiving {held : Envelope ServerMessage} (running : d.main ≠ .exited)
    (writing : (d.channels c).writer = .writing held) (listens : ¬ silent c) :
    ∃ v, Reaches silent sender d v ∧
      v.channels c = { d.channels c with writer := .receiving } := by
  have wrote : (d.channels c).wrote (.ok ()) = some { d.channels c with writer := .receiving } := by
    simp only [Channel.wrote, writing]
  have others : Without silent d (.wrote c (.ok ())) := by
    intro other client
    cases client
    exact listens
  exact ⟨_, .onChannel running others (step_wrote running wrote), Function.update_self ..⟩

/-- A writer task that is free takes the next envelope. -/
theorem reaches_taken (running : d.main ≠ .exited) (receiving : (d.channels c).writer = .receiving)
    (more : (d.channels c).received < (d.channels c).sent.length) :
    ∃ v, Reaches silent sender d v ∧ (v.channels c).turn sender = (d.channels c).turn sender ∧
      (v.channels c).received = (d.channels c).received + 1 := by
  have took : (d.channels c).take = some { d.channels c with
      received := (d.channels c).received + 1
      writer := .writing (d.channels c).sent[(d.channels c).received] } := by
    simp only [Channel.take, receiving, List.getElem?_eq_getElem more]
  refine ⟨_, .onChannel running (without_of_client rfl) (step_take running took), ?_, ?_⟩ <;>
    simp [Channel.turn]

/-- Unless its client is silent and it is held up for the sender, a channel comes to give a
slot to the sender or to the one before it. -/
theorem reaches_slot (queues : SendQueues d) (running : d.main ≠ .exited)
    (alive : (d.channels c).closed = false) (refused : (d.channels c).admits sender = false)
    (free : ¬ (silent c ∧ (d.channels c).heldUp sender = true)) :
    ∃ v, Reaches silent sender d v ∧ (v.channels c).turn sender = (d.channels c).turn sender ∧
      (v.channels c).received = (d.channels c).received + 1 := by
  obtain ⟨u, reached, more, turn, received, writer⟩ := @reaches_sent _ _ _ silent queues running
    alive refused
  cases phase : (d.channels c).writer with
  | receiving =>
    obtain ⟨v, last, turn', received'⟩ := reaches_taken reached.running (writer.trans phase) more
    exact ⟨v, reached.trans last, turn'.trans turn, by rw [received', received]⟩
  | writing held =>
    have late : ¬ (d.channels c).turn sender < channelCapacity + (d.channels c).received :=
      fun early => absurd ((queues.fits c).admits_iff.mpr early) (by simp [refused])
    have listens : ¬ silent c := by
      intro quiet
      refine free ⟨quiet, heldUp_iff.mpr ⟨alive, ?_⟩⟩
      simp only [Channel.takes, phase]
      omega
    obtain ⟨w, freed, channel⟩ := @reaches_receiving _ _ sender _ _ reached.running
      (writer.trans phase) listens
    obtain ⟨v, last, turn', received'⟩ := @reaches_taken _ c sender silent freed.running
      (by rw [channel]) (by rw [channel]; exact more)
    rw [channel] at turn' received'
    exact ⟨v, (reached.trans freed).trans last, turn'.trans turn, by rw [received', received]⟩
  | ended result => simp [Channel.closed, phase] at alive

/-- **The turn comes.** Unless its client is silent and it is held up for the sender, a
channel comes to take an envelope of the sender, or to refuse it for good. -/
theorem turn_comes (queues : SendQueues d) (running : d.main ≠ .exited)
    (free : ¬ (silent c ∧ (d.channels c).heldUp sender = true)) :
    ∃ v, Reaches silent sender d v ∧
      ∀ envelope, ((v.channels c).offer sender envelope).isSome = true := by
  induction missing : (d.channels c).turn sender + 1 - (channelCapacity + (d.channels c).received)
      generalizing d with
  | zero =>
    have admitted : (d.channels c).admits sender = true :=
      (queues.fits c).admits_iff.mpr (by omega)
    refine ⟨d, .refl running, fun envelope => ?_⟩
    simp only [Channel.offer, admitted, if_true]
    split <;> rfl
  | succ missing ih =>
    cases alive : (d.channels c).closed with
    | true => exact ⟨d, .refl running, fun envelope => by simp [Channel.offer, alive]⟩
    | false =>
      have refused : (d.channels c).admits sender = false := by
        by_contra admitted
        have early := (queues.fits c).admits_iff.mp (Bool.not_eq_false _ ▸ admitted)
        omega
      obtain ⟨u, reached, turn, received⟩ := reaches_slot queues running alive refused free
      obtain ⟨labels, ran⟩ := reached.ran
      have free' : ¬ (silent c ∧ (u.channels c).heldUp sender = true) := by
        rintro ⟨quiet, heldUp⟩
        refine free ⟨quiet, heldUp_iff.mpr ⟨alive, ?_⟩⟩
        have late := (heldUp_iff.mp heldUp).2
        have one : (d.channels c).takes ≤ 1 := by
          unfold Channel.takes
          split <;> decide
        omega
      obtain ⟨v, rest, room⟩ := ih (queues.run ran) reached.running free' (by omega)
      exact ⟨v, reached.trans rest, room⟩

/-! ### The next step -/

/-- Where an operation stands on its way to its end. The owners to tell are counted
only while they are told. -/
def Phase.remaining : Phase → Nat ×ₗ Nat
  | .resolving _ _ => toLex (12, 0)
  | .notifying _ _ _ => toLex (11, 0)
  | .locating _ _ _ => toLex (10, 0)
  | .terminating _ _ _ _ => toLex (9, 0)
  | .waiting _ _ _ _ _ => toLex (8, 0)
  | .removing stage _ (.stopped _ _ _) => toLex (stage.remaining + 2, 0)
  | .clearing _ => toLex (4, 0)
  | .snapshotting _ _ => toLex (3, 0)
  | .broadcasting _ _ _ remaining => toLex (2, remaining.length)
  | .replying _ _ _ => toLex (1, 0)
  | _ => toLex (0, 0)

/-- Each step of its handler brings an operation nearer to its end. -/
theorem HandlerStep.remaining_lt (taken : HandlerStep d c label shared handler)
    (controls : (d.handlers c).phase.controls = true) :
    handler.phase.remaining < (d.handlers c).phase.remaining := by
  cases taken with
  | unresolved phase | resolved phase | notified phase | located phase | unlocated phase
  | woken phase | cleared phase | broadcasted phase | snapshotted phase | timedOut phase
  | replied phase | released phase | replyFailed phase | terminated phase | broadcastOne phase =>
    rw [phase]
    simp [Phase.remaining, Handler.respond, Handler.await, Prod.Lex.toLex_lt_toLex,
      RemoveStage.remaining]
  | @removedRoutes session after phase | @removedOwner session after phase
  | @acknowledged session after phase | @foundEmpty session after phase
  | @foundBusy session after phase | @markedIdle session after phase =>
    rw [phase] at controls ⊢
    cases after with
    | stopped requestId route notify =>
      simp [Phase.remaining, Handler.removed, Handler.respond, Prod.Lex.toLex_lt_toLex,
        RemoveStage.remaining]
    | unregistered | acknowledged | disconnected => cases controls
  | _ => simp_all [Phase.controls]

/-- After a step of its handler an operation is still in progress, or its reply is
queued, or the client is gone. -/
theorem HandlerStep.controls (taken : HandlerStep d c label shared handler)
    (controls : (d.handlers c).phase.controls = true) :
    handler.phase.controls = true ∨ handler.phase = .reading ∨
      handler.phase = .returned (.error (.protocol "IPC writer closed")) := by
  cases taken with
  | replied | released => exact .inr (.inl rfl)
  | replyFailed => exact .inr (.inr rfl)
  | unresolved | resolved | notified | located | unlocated | woken | cleared | broadcasted
  | snapshotted | timedOut | terminated | broadcastOne => exact .inl rfl
  | @removedRoutes session after phase | @removedOwner session after phase
  | @acknowledged session after phase | @foundEmpty session after phase
  | @foundBusy session after phase | @markedIdle session after phase =>
    rw [phase] at controls
    cases after with
    | stopped requestId route notify => exact .inl rfl
    | unregistered | acknowledged | disconnected => cases controls
  | _ => simp_all [Phase.controls]

private theorem proceed_enabled (running : d.main ≠ .exited)
    (enabled : (lockedSection c d.shared d.now (d.handlers c)).isSome = true) :
    ∃ d', d.step (.proceed c) = some d' := by
  obtain ⟨next, ran⟩ := Option.isSome_iff_exists.mp enabled
  exact ⟨_, step_proceed running ran⟩

private theorem snapshot_enabled {requestId : Option UInt64} {routeCount : Nat}
    (running : d.main ≠ .exited) (phase : (d.handlers c).phase = .snapshotting requestId routeCount) :
    ∃ d', d.step (.snapshot c d.shared.ownerSenders) = some d' := by
  unfold Daemon.step
  split
  · rename_i exited
    exact absurd exited running
  · simp only [snapshotSection, phase, List.isPerm_iff.mpr (List.Perm.refl _), if_true,
      Option.map_some]
    exact ⟨_, rfl⟩

private theorem timeout_enabled {requestId : Option UInt64} {route : Route} {notify : NotifyId}
    {seen : Nat} {deadline : Instant} (running : d.main ≠ .exited)
    (phase : (d.handlers c).phase = .waiting requestId route notify seen deadline)
    (uncalled : d.shared.notifyCalls notify = seen) (late : deadline ≤ d.now) :
    ∃ d', d.step (.timeout c) = some d' := by
  unfold Daemon.step
  split
  · rename_i exited
    exact absurd exited running
  · simp only [timeoutSection, phase, if_pos (And.intro uncalled late), Option.map_some]
    exact ⟨_, rfl⟩

/-- Handler `c` comes to take a step, and has taken none before. -/
def Comes (silent : ConnId → Prop) (d : Daemon) (c : ConnId) : Prop :=
  ∃ labels v label v', Run Daemon.step (Without silent) d labels v ∧
    v.handlers c = d.handlers c ∧ v.main ≠ .exited ∧ label.actor = some c ∧
    label.client = none ∧ v.step label = some v'

private theorem comes_at_once (running : d.main ≠ .exited) (actor : label.actor = some c)
    (client : label.client = none) (taken : ∃ d', d.step label = some d') : Comes silent d c := by
  obtain ⟨d', taken⟩ := taken
  exact ⟨[], d, label, d', .nil, rfl, running, actor, client, taken⟩

/-- A send comes through unless its channel is held up for the handler. -/
theorem comes_to_send {envelope : Envelope ServerMessage} (running : d.main ≠ .exited)
    (queues : SendQueues d) (free : ¬ HeldUp silent d c)
    (sending : outgoing c (d.handlers c).phase = some (target, envelope)) : Comes silent d c := by
  have listens : ¬ (silent target ∧ (d.channels target).heldUp (.handler c) = true) :=
    fun held => free ⟨target, envelope, sending, held⟩
  obtain ⟨v, reached, room⟩ := turn_comes queues running listens
  obtain ⟨⟨next, accepted⟩, offered⟩ := Option.isSome_iff_exists.mp (room envelope)
  obtain ⟨labels, ran⟩ := reached.ran
  have stood := reached.handler c rfl
  obtain ⟨v', taken⟩ := step_send reached.running (by rwa [stood]) offered
  exact ⟨labels, v, .send c, v', ran, stood, reached.running, rfl, rfl, taken⟩

/-- An operation whose next send is not held up comes to take its next step. -/
theorem comes_of_controls (running : d.main ≠ .exited) (queues : SendQueues d)
    (controls : (d.handlers c).phase.controls = true) (free : ¬ HeldUp silent d c) :
    Comes silent d c := by
  cases phase : (d.handlers c).phase with
  | resolving requestId selector =>
    refine comes_at_once running rfl rfl (proceed_enabled running ?_)
    simp only [lockedSection, phase]
    split <;> rfl
  | locating requestId route notify =>
    refine comes_at_once running rfl rfl (proceed_enabled running ?_)
    simp only [lockedSection, phase]
    split <;> rfl
  | notifying requestId route notify | clearing requestId | removing stage session after =>
    refine comes_at_once running rfl rfl (proceed_enabled running ?_)
    simp only [lockedSection, phase]
    rfl
  | terminating requestId route notify owner =>
    exact comes_to_send running queues free (by rw [phase]; rfl)
  | waiting requestId route notify seen deadline =>
    by_cases uncalled : d.shared.notifyCalls notify = seen
    · -- The timer is armed.
      have taken : ∃ v', Daemon.step { d with now := d.now + deadline } (.timeout c) = some v' :=
        timeout_enabled running phase uncalled (Nat.le_add_left _ _)
      obtain ⟨v', taken⟩ := taken
      have ran : Run Daemon.step (Without silent) d [.advance deadline] _ :=
        .one (without_of_client rfl) (step_advance running deadline)
      exact ⟨_, _, .timeout c, v', ran, rfl, running, rfl, rfl, taken⟩
    · refine comes_at_once running rfl rfl (proceed_enabled running ?_)
      simp only [lockedSection, phase, if_neg uncalled]
      rfl
  | snapshotting requestId routeCount =>
    exact comes_at_once running rfl rfl (snapshot_enabled running phase)
  | broadcasting requestId routeCount owners rest =>
    cases rest with
    | nil =>
      refine comes_at_once running rfl rfl (proceed_enabled running ?_)
      simp only [lockedSection, phase]
      rfl
    | cons next rest => exact comes_to_send running queues free (by rw [phase]; rfl)
  | replying requestId message after =>
    exact comes_to_send running queues free (by rw [phase]; rfl)
  | absent | reading | registering | publishing | activating | listing | draining | returned =>
    rw [phase] at controls
    cases controls

/-! ### The broadcast of `run` -/

/-- Where `broadcast_fatal` stands on its way to its end. -/
def MainPhase.remaining : MainPhase → Nat ×ₗ Nat
  | .snapshotting _ => toLex (3, 0)
  | .broadcasting _ _ remaining => toLex (2, remaining.length)
  | .clearing _ _ => toLex (1, 0)
  | _ => toLex (0, 0)

/-- `broadcast_fatal` comes to take a step: it gets nearer to its end, and its last
step cancels the token. -/
def AlertComes (silent : ConnId → Prop) (d : Daemon) : Prop :=
  ∃ labels v label v', Run Daemon.step (Without silent) d labels v ∧ label.client = none ∧
    v.step label = some v' ∧ v'.main.remaining < d.main.remaining ∧
    (v'.main.alerts = true ∨ (v'.main = .supervising ∧ v'.shared.shutdown = true))

private theorem alert_comes_to_send {details : String} {owners rest : List ConnId}
    (phase : d.main = .broadcasting details owners (target :: rest))
    (queues : SendQueues d) (free : ¬ AlertHeldUp silent d) : AlertComes silent d := by
  have running : d.main ≠ .exited := by
    rw [phase]
    nofun
  have listens : ¬ (silent target ∧ (d.channels target).heldUp .main = true) :=
    fun held => free ⟨details, owners, target, rest, phase, held⟩
  obtain ⟨v, reached, room⟩ := turn_comes queues running listens
  obtain ⟨⟨next, accepted⟩, offered⟩ :=
    Option.isSome_iff_exists.mp (room (Envelope.new none (.fatal .cloudflaredExited details)))
  obtain ⟨labels, ran⟩ := reached.ran
  have stood := (reached.main rfl).trans phase
  have taken : v.step .fatalSend = some { v with
      channels := Function.update v.channels target next
      main := .broadcasting details owners rest } := by
    unfold Daemon.step
    split
    · rename_i exited
      exact absurd exited reached.running
    · simp only [Daemon.mainStep, stood, offered]
  refine ⟨labels, v, .fatalSend, _, ran, rfl, taken, ?_, .inl rfl⟩
  rw [phase]
  simp [MainPhase.remaining, Prod.Lex.toLex_lt_toLex]

private theorem alert_comes (alerts : d.main.alerts = true) (queues : SendQueues d)
    (free : ¬ AlertHeldUp silent d) : AlertComes silent d := by
  cases phase : d.main with
  | snapshotting details =>
    have taken : d.step (.fatalSnapshot d.shared.ownerSenders) =
        some { d with main := .broadcasting details d.shared.ownerSenders d.shared.ownerSenders } := by
      simp only [Daemon.step, phase, Daemon.mainStep, List.isPerm_iff.mpr (List.Perm.refl _), if_true]
    refine ⟨[], d, _, _, .nil, rfl, taken, ?_, .inl rfl⟩
    rw [phase]
    simp [MainPhase.remaining, Prod.Lex.toLex_lt_toLex]
  | broadcasting details owners rest =>
    cases rest with
    | cons next rest => exact alert_comes_to_send phase queues free
    | nil =>
      have taken : d.step .fatalSend = some { d with main := .clearing details owners } := by
        simp only [Daemon.step, phase, Daemon.mainStep]
      refine ⟨[], d, _, _, .nil, rfl, taken, ?_, .inl rfl⟩
      rw [phase]
      simp [MainPhase.remaining, Prod.Lex.toLex_lt_toLex]
  | clearing details owners =>
    have taken : d.step .fatalClear = some { d with
        shared := { d.shared with registry := d.shared.registry.clear.2, shutdown := true }
        main := .supervising
        fatalError := some (.cloudflaredExited details) } := by
      simp only [Daemon.step, phase, Daemon.mainStep]
    refine ⟨[], d, _, _, .nil, rfl, taken, ?_, .inr ⟨rfl, rfl⟩⟩
    rw [phase]
    simp [MainPhase.remaining, Prod.Lex.toLex_lt_toLex]
  | supervising | polling | finishing | exited =>
    rw [phase] at alerts
    cases alerts

/-! ### Runs -/

/-- An operation that is never held up runs to its reply. -/
theorem runs_to_reply (running : d.main ≠ .exited) (queues : SendQueues d)
    (controls : (d.handlers c).phase.controls = true)
    (free : ∀ more v, Run Daemon.step (Without silent) d more v → ¬ HeldUp silent v c) :
    ∃ more v, Run Daemon.step (Without silent) d more v ∧
      ((v.handlers c).phase = .reading ∨
        (v.handlers c).phase = .returned (.error (.protocol "IPC writer closed"))) := by
  induction measure : (d.handlers c).phase.remaining using WellFoundedLT.induction generalizing d with
  | ind remaining ih =>
    obtain ⟨labels, u, label, next, ran, handlers, running, actor, client, taken⟩ :=
      comes_of_controls running queues controls (free [] d .nil)
    have whole := Run.snoc ran (without_of_client client) taken
    have moved := (change_of_step taken).moved actor
    rw [← handlers] at controls measure
    rcases moved.controls controls with still | replied
    · have nearer := moved.remaining_lt controls
      rw [measure] at nearer
      have running' : next.main ≠ .exited := by rwa [main_of_actor taken actor]
      obtain ⟨more, v, rest, ended⟩ := ih _ nearer running' (queues.run whole) still
        (fun more v rest => free _ v (whole.append rest)) rfl
      exact ⟨_, v, whole.append rest, ended⟩
    · exact ⟨_, next, whole, replied⟩

/-- A broadcast that is never held up comes to cancel the token. -/
theorem runs_to_cancel (alerts : d.main.alerts = true) (queues : SendQueues d)
    (free : ∀ more v, Run Daemon.step (Without silent) d more v → ¬ AlertHeldUp silent v) :
    ∃ more v, Run Daemon.step (Without silent) d more v ∧ v.main = .supervising ∧
      v.shared.shutdown = true := by
  induction measure : d.main.remaining using WellFoundedLT.induction generalizing d with
  | ind remaining ih =>
    obtain ⟨labels, u, label, next, ran, client, taken, nearer, still | ⟨finished, cancelled⟩⟩ :=
      alert_comes alerts queues (free [] d .nil)
    · have whole := Run.snoc ran (without_of_client client) taken
      rw [measure] at nearer
      obtain ⟨more, v, rest, ended⟩ := ih _ nearer still (queues.run whole)
        (fun more v rest => free _ v (whole.append rest)) rfl
      exact ⟨_, v, whole.append rest, ended⟩
    · exact ⟨_, next, .snoc ran (without_of_client client) taken, finished, cancelled⟩

private theorem goesOn_iff (unopened : ∀ c, d.accepted ≤ c → Unopened d c)
    (running : d.main ≠ .exited)
    (queues : SendQueues d) (controls : (d.handlers c).phase.controls = true) :
    GoesOn silent d c ↔ ¬ HeldUp silent d c := by
  constructor
  · rintro ⟨labels, v, ran, moved⟩ ⟨target, envelope, sending, quiet, heldUp⟩
    have present : c < d.accepted := by
      apply Nat.lt_of_not_le
      intro later
      rw [(unopened c later).absent] at controls
      cases controls
    exact moved (stuck_of_heldUp queues present (Unopened.beyond unopened queues heldUp) sending
      quiet heldUp ran)
  · intro free
    obtain ⟨labels, u, label, next, ran, handlers, _, actor, client, taken⟩ :=
      comes_of_controls running queues controls free
    refine ⟨_, next, .snoc ran (without_of_client client) taken, fun same => ?_⟩
    have nearer := ((change_of_step taken).moved actor).remaining_lt (by rwa [handlers])
    rw [handlers, same] at nearer
    exact lt_irrefl _ nearer

private theorem alertGoesOn_iff (unopened : ∀ c, d.accepted ≤ c → Unopened d c)
    (queues : SendQueues d) (alerts : d.main.alerts = true) :
    AlertGoesOn silent d ↔ ¬ AlertHeldUp silent d := by
  constructor
  · rintro ⟨labels, v, ran, moved⟩ ⟨details, owners, target, rest, phase, quiet, heldUp⟩
    exact moved (alert_stuck_of_heldUp queues (Unopened.beyond unopened queues heldUp) phase quiet
      heldUp ran)
  · intro free
    obtain ⟨labels, u, label, next, ran, client, taken, nearer, _⟩ := alert_comes alerts queues free
    refine ⟨_, next, .snoc ran (without_of_client client) taken, fun same => ?_⟩
    rw [same] at nearer
    exact lt_irrefl _ nearer

/-- **What keeps a control operation from going on.** In every reachable state, a
Stop or a Kill in progress takes another step without the silent clients, or is
waiting for its timer, exactly when it is not about to send on a channel of one
of them that is held up for it: all slots that come free without that client go
to senders before it. The same holds of the broadcast of `run`. An operation to
which that never happens runs to its reply, and the broadcast until the token is
cancelled. -/
theorem control_operations_go_on_iff {baseDomain : String} {now : Instant}
    (ran : Run Daemon.step Unrestricted (.start baseDomain now) labels d)
    (running : d.main ≠ .exited) (silent : ConnId → Prop) :
    (∀ c, (d.handlers c).phase.controls = true →
      (GoesOn silent d c ↔ ¬ HeldUp silent d c) ∧
      ((∀ more v, Run Daemon.step (Without silent) d more v → ¬ HeldUp silent v c) →
        ∃ more v, Run Daemon.step (Without silent) d more v ∧
          ((v.handlers c).phase = .reading ∨
            (v.handlers c).phase = .returned (.error (.protocol "IPC writer closed"))))) ∧
    (d.main.alerts = true →
      (AlertGoesOn silent d ↔ ¬ AlertHeldUp silent d) ∧
      ((∀ more v, Run Daemon.step (Without silent) d more v → ¬ AlertHeldUp silent v) →
        ∃ more v, Run Daemon.step (Without silent) d more v ∧ v.main = .supervising ∧
          v.shared.shutdown = true)) := by
  have unopened : ∀ c, d.accepted ≤ c → Unopened d c := fun c => unopened_of_run ran
  have queues := (sendQueues_start baseDomain now).run ran
  refine ⟨fun c controls => ⟨goesOn_iff unopened running queues controls, ?_⟩,
    fun alerts => ⟨alertGoesOn_iff unopened queues alerts, ?_⟩⟩
  · exact runs_to_reply running queues controls
  · exact runs_to_cancel alerts queues

/-! ### An owner that stops reading -/

/-- One report of the first statistics task. -/
def reportLabels : List Label := [.statsTick 0, .statsCheck 0 ⟨0, 0, 0, 0⟩, .statsSend 0]

/-- Client 0 registers and never reads: the first frame holds its writer task up,
and its statistics fill the channel behind it. Client 1 asks to stop its route,
client 2 asks for a Kill, and `cloudflared` exits. -/
def unreadLabels : List Label :=
  registrationLabels 0 3000 "app" ++
    [.take 0, .accept, .read 1 (.ok (Envelope.new (some 7) (.stop (.slug "app")))), .proceed 1,
      .proceed 1, .proceed 1] ++
    (List.replicate channelCapacity reportLabels).flatten ++
    [.accept, .read 2 (.ok (Envelope.new (some 8) .kill)), .supervise,
      .poll (.exited "cloudflared exited"), .fatalSnapshot [0], .proceed 2, .snapshot 2 [0]]

/-- The daemon with all three about to tell client 0. -/
def unreadDaemon : Daemon :=
  (execute Daemon.step (.start "example.com" 0) unreadLabels).get (by decide +kernel)

private theorem unread_run :
    Run Daemon.step Unrestricted (.start "example.com" 0) unreadLabels unreadDaemon :=
  run_to_execute _

theorem control_operations_go_on_while_read :
    GoesOn (fun _ => False) unreadDaemon 1 ∧ GoesOn (fun _ => False) unreadDaemon 2 ∧
      AlertGoesOn (fun _ => False) unreadDaemon := by
  obtain ⟨handlers, alert⟩ := control_operations_go_on_iff unread_run nofun fun _ => False
  refine ⟨(handlers 1 rfl).1.mpr ?_, (handlers 2 rfl).1.mpr ?_, (alert rfl).1.mpr ?_⟩
  · rintro ⟨_, _, _, never, _⟩
    exact never
  · rintro ⟨_, _, _, never, _⟩
    exact never
  · rintro ⟨_, _, _, _, _, never, _⟩
    exact never

/-- **A silent owner blocks everyone.** The Stop of client 1, the Kill of client 2
and the broadcast of `run` never take another step without client 0, however long
they wait. -/
theorem silent_owner_blocks_control :
    ∃ labels d, Run Daemon.step Unrestricted (.start "example.com" 0) labels d ∧
      (∃ requestId route notify, (d.handlers 1).phase = .terminating requestId route notify 0) ∧
      (∃ requestId routeCount owners,
        (d.handlers 2).phase = .broadcasting requestId routeCount owners [0]) ∧
      (∃ details owners, d.main = .broadcasting details owners [0]) ∧
      ¬ GoesOn (· = 0) d 1 ∧ ¬ GoesOn (· = 0) d 2 ∧ ¬ AlertGoesOn (· = 0) d := by
  have queues := (sendQueues_start "example.com" 0).run unread_run
  have heldUp : ∀ sender, (unreadDaemon.channels 0).waiting.idxOf sender = 0 →
      (unreadDaemon.channels 0).heldUp sender = true := fun sender first =>
    heldUp_iff.mpr ⟨rfl, by rw [Channel.turn, first]; decide +kernel⟩
  have present : ∀ c : ConnId, c < 3 → c < unreadDaemon.accepted := fun _ few => few
  refine ⟨_, _, unread_run, ⟨_, _, _, rfl⟩, ⟨_, _, _, rfl⟩, ⟨_, _, rfl⟩, ?_, ?_, ?_⟩
  · rintro ⟨labels, v, ran, moved⟩
    refine moved (stuck_of_heldUp queues (present 1 ?_) (present 0 ?_) rfl ?_ (heldUp _ ?_) ran)
    all_goals decide
  · rintro ⟨labels, v, ran, moved⟩
    refine moved (stuck_of_heldUp queues (present 2 ?_) (present 0 ?_) rfl ?_ (heldUp _ ?_) ran)
    all_goals decide
  · rintro ⟨labels, v, ran, moved⟩
    refine moved (alert_stuck_of_heldUp queues (present 0 ?_) rfl ?_ (heldUp _ ?_) ran)
    all_goals decide

end CfFw
