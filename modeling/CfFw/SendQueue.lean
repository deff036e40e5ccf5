import CfFw.ChannelSteps
import CfFw.Sessions
import CfFw.TaskSteps

/-! Who waits for a slot of a channel. A task begins to wait at a send of its own and
leaves the queue with it, so whoever is in a queue still stands at that send, and the
first of them sends as soon as there is a slot. -/
namespace CfFw
open Std Transition

variable {d d' v : Daemon} {c target : ConnId} {label : Label} {labels : List Label}
  {channel next : Channel} {sender : Sender} {envelope : Envelope ServerMessage}
  {accepted : Bool} {shared : Shared} {handler : Handler}

/-- A handler that is about to send takes no other step. -/
theorem HandlerStep.sends {envelope : Envelope ServerMessage}
    (taken : HandlerStep d c label shared handler)
    (sending : outgoing c (d.handlers c).phase = some (target, envelope)) : label = .send c := by
  cases taken with
  | replied | released | replyFailed | terminated | broadcastOne => rfl
  | registerRefused phase | registerStarted phase | unregister phase | unregisterRefused phase
  | acknowledge phase | acknowledgeIgnored phase | list phase | stop phase | killRefused phase
  | kill phase | disconnected phase | left phase | readFailed phase | registered phase
  | registerFailed phase | published phase | activated phase | removedRoutes phase
  | removedOwner phase | acknowledged phase | foundEmpty phase | foundBusy phase
  | markedIdle phase | listed phase | unresolved phase | resolved phase | notified phase
  | located phase | unlocated phase | woken phase | cleared phase | broadcasted phase
  | snapshotted phase | timedOut phase | drained phase =>
    rw [phase] at sending
    cases sending

/-! ### Where the senders stand -/

theorem sends_handler {other : ConnId} : d.sends c (.handler other) = true ↔
    ∃ envelope, outgoing other (d.handlers other).phase = some (c, envelope) := by
  simp only [Daemon.sends, Option.any_eq_true, decide_eq_true_eq]
  constructor
  · rintro ⟨⟨target, envelope⟩, sending, rfl⟩
    exact ⟨envelope, sending⟩
  · rintro ⟨envelope, sending⟩
    exact ⟨_, sending, rfl⟩

theorem sends_stats {route : Route} : d.sends c (.stats route) = true ↔
    ∃ (index : Nat) (sample : MetricsSample),
      d.stats[index]? = some ⟨c, route, .reporting sample⟩ := by
  simp only [Daemon.sends, List.any_eq_true, Bool.and_eq_true, decide_eq_true_eq]
  constructor
  · rintro ⟨⟨connection, found, phase⟩, member, rfl, reports⟩
    obtain ⟨index, at'⟩ := List.mem_iff_getElem?.mp member
    cases phase with
    | reporting sample =>
      obtain rfl : found = route := by simpa [StatsTask.reports] using reports
      exact ⟨index, sample, at'⟩
    | ticking | checking => cases reports
  · rintro ⟨index, sample, at'⟩
    exact ⟨_, List.mem_iff_getElem?.mpr ⟨index, at'⟩, rfl, by simp [StatsTask.reports]⟩

theorem sends_main : d.sends c .main = true ↔
    ∃ details owners rest, d.main = .broadcasting details owners (c :: rest) := by
  simp only [Daemon.sends]
  constructor
  · intro sending
    split at sending
    · rename_i details owners next rest phase
      obtain rfl : next = c := by simpa using sending
      exact ⟨details, owners, rest, phase⟩
    · cases sending
  · rintro ⟨details, owners, rest, phase⟩
    simp [phase]

/-- A sender that has sent does not wait any more. -/
theorem gone_of_offer (offered : channel.offer sender envelope = some (next, accepted))
    (nodup : channel.waiting.Nodup) (alive : next.closed = false) : sender ∉ next.waiting := by
  rcases Channel.offer_eq_some offered with ⟨-, -, -, rfl⟩ | ⟨-, closed, rfl⟩
  · intro waits
    exact (nodup.mem_erase_iff.mp waits).1 rfl
  · rw [closed] at alive
    cases alive

private theorem offered_of_send {other : ConnId} (taken : d.step (.send other) = some d')
    (sending : outgoing other (d.handlers other).phase = some (c, envelope)) :
    ∃ accepted, (d.channels c).offer (.handler other) envelope =
      some (d'.channels c, accepted) := by
  unfold Daemon.step at taken
  split at taken
  · cases taken
  · simp only [Daemon.sendStep, sending] at taken
    split at taken <;> cases taken
    rename_i channel accepted offered
    exact ⟨accepted, offered.trans (by simp)⟩

private theorem offered_of_fatalSend {details : String} {owners rest : List ConnId}
    (taken : d.step .fatalSend = some d')
    (phase : d.main = .broadcasting details owners (c :: rest)) :
    ∃ envelope accepted, (d.channels c).offer .main envelope = some (d'.channels c, accepted) := by
  unfold Daemon.step at taken
  split at taken
  · cases taken
  · simp only [Daemon.mainStep, phase] at taken
    split at taken <;> cases taken
    rename_i channel accepted offered
    exact ⟨_, accepted, offered.trans (by simp)⟩

private theorem offered_of_statsSend {index : Nat} {route : Route} {sample : MetricsSample}
    (taken : d.step (.statsSend index) = some d')
    (task : d.stats[index]? = some ⟨c, route, .reporting sample⟩) :
    ∃ envelope accepted,
      (d.channels c).offer (.stats route) envelope = some (d'.channels c, accepted) := by
  unfold Daemon.step at taken
  split at taken
  · cases taken
  · simp only [Daemon.statsStep, task] at taken
    split at taken <;> cases taken
    · rename_i offered
      rcases Channel.offer_eq_some offered with ⟨accepted, -⟩ | ⟨-, -, rfl⟩
      · cases accepted
      · exact ⟨_, _, offered⟩
    · rename_i channel offered
      exact ⟨_, true, offered.trans (by simp)⟩

/-- A sender that still waits after a step still stands at its send. -/
theorem sends_stays (taken : d.step label = some d')
    (absent : ∀ c, d.accepted ≤ c → d.handlers c = ⟨.absent, none⟩)
    (nodup : (d.channels c).waiting.Nodup) (sending : d.sends c sender = true)
    (alive : (d'.channels c).closed = false) (waits : sender ∈ (d'.channels c).waiting) :
    d'.sends c sender = true := by
  cases sender with
  | handler other =>
    obtain ⟨envelope, sent⟩ := sends_handler.mp sending
    rcases (change_of_step taken).handlers other with same | ⟨rfl, -⟩ | moved
    · exact sends_handler.mpr ⟨envelope, by rw [same]; exact sent⟩
    · rw [absent _ le_rfl] at sent
      cases sent
    · obtain rfl := moved.sends sent
      obtain ⟨accepted, offered⟩ := offered_of_send taken sent
      exact absurd waits (gone_of_offer offered nodup alive)
  | main =>
    obtain ⟨details, owners, rest, phase⟩ := sends_main.mp sending
    have moved := (taskStep_of_step taken).main
    generalize here : d'.main = main at moved
    cases moved with
    | kept => exact sends_main.mpr ⟨details, owners, rest, here.trans phase⟩
    | sent =>
      obtain ⟨envelope, accepted, offered⟩ := offered_of_fatalSend taken phase
      exact absurd waits (gone_of_offer offered nodup alive)
    | halted other | looked other | quiet other | exitSeen other | snapshotted other
    | allSent other | cleared other | exited other =>
      rw [phase] at other
      cases other
  | stats route =>
    obtain ⟨index, sample, task⟩ := sends_stats.mp sending
    have sent : ∀ {i : Nat}, label = .statsSend i → i ≠ index := by
      rintro i rfl rfl
      obtain ⟨envelope, accepted, offered⟩ := offered_of_statsSend taken task
      exact gone_of_offer offered nodup alive waits
    have stepped := (taskStep_of_step taken).stats
    generalize here : d'.stats = tasks at stepped
    -- A task at another place is not touched.
    have kept : ∀ {i : Nat} {new : StatsTask}, i ≠ index → tasks = d.stats.set i new →
        d'.sends c (.stats route) = true := by
      intro i new apart same
      exact sends_stats.mpr ⟨index, sample, by rw [here, same, List.getElem?_set_ne apart, task]⟩
    have spared : ∀ {i : Nat}, i ≠ index → tasks = d.stats.eraseIdx i →
        d'.sends c (.stats route) = true := by
      intro i apart same
      have member : (⟨c, route, .reporting sample⟩ : StatsTask) ∈ d'.stats := by
        rw [here, same]
        exact List.mem_eraseIdx_iff_getElem?.mpr ⟨index, Ne.symm apart, task⟩
      obtain ⟨place, at'⟩ := List.mem_iff_getElem?.mp member
      exact sends_stats.mpr ⟨place, sample, at'⟩
    have apart : ∀ {i : Nat} {other : StatsTask}, d.stats[i]? = some other →
        (∀ sample, other.phase ≠ .reporting sample) → i ≠ index := by
      rintro i other found idle rfl
      cases found.symm.trans task
      exact idle sample rfl
    cases stepped with
    | kept => exact sends_stats.mpr ⟨index, sample, by rw [here, task]⟩
    | started =>
      refine sends_stats.mpr ⟨index, sample, ?_⟩
      rw [here, List.getElem?_append_left (List.getElem?_eq_some_iff.mp task).1, task]
    | ticked found => exact kept (apart found nofun) rfl
    | gone found => exact spared (apart found nofun) rfl
    | found found => exact kept (apart found nofun) rfl
    | refused => exact spared (sent rfl) rfl
    | reported => exact kept (sent rfl) rfl

/-! ### The queues of a run -/

/-- Who waits in a queue after a step has waited before it, or begins to wait. -/
theorem waiting_step (taken : d.step label = some d')
    (alive : (d'.channels c).closed = false) (waits : sender ∈ (d'.channels c).waiting) :
    ((d.channels c).closed = false ∧ sender ∈ (d.channels c).waiting) ∨
      (label = .queue sender c ∧ d.sends c sender = true) := by
  have change := channelChange_of_step taken c
  generalize d'.channels c = channel at change alive waits
  cases change with
  | kept => exact .inl ⟨alive, waits⟩
  | opened => cases waits
  | queued sending queued =>
    obtain ⟨open', -, -, rfl⟩ := Channel.queue_eq_some queued
    rcases List.mem_append.mp waits with before | last
    · exact .inl ⟨open', before⟩
    · obtain rfl := List.mem_singleton.mp last
      exact .inr ⟨rfl, sending⟩
  | offered offered =>
    rcases Channel.offer_eq_some offered with ⟨-, open', -, rfl⟩ | ⟨-, -, rfl⟩
    · exact .inl ⟨open', List.mem_of_mem_erase waits⟩
    · exact .inl ⟨alive, waits⟩
  | took took =>
    obtain ⟨receiving, -, envelope, rfl⟩ := Channel.take_eq_some took
    exact .inl ⟨Channel.closed_of_receiving receiving, waits⟩
  | wrote wrote =>
    obtain ⟨open', writer, rfl⟩ := Channel.wrote_eq_some wrote
    exact .inl ⟨open', waits⟩
  | ended ended =>
    obtain ⟨-, -, -, rfl⟩ := Channel.finish_eq_some ended
    cases alive

private theorem nodup_step (nodup : ∀ c, (d.channels c).waiting.Nodup)
    (taken : d.step label = some d') :
    ∀ c, (d'.channels c).waiting.Nodup := by
  intro c
  have change := channelChange_of_step taken c
  generalize d'.channels c = channel at change ⊢
  cases change with
  | kept => exact nodup c
  | opened => exact List.nodup_nil
  | queued _ queued =>
    obtain ⟨-, -, fresh, rfl⟩ := Channel.queue_eq_some queued
    exact (nodup c).append (List.nodup_singleton _) (by simpa using fresh)
  | offered offered =>
    rcases Channel.offer_eq_some offered with ⟨-, -, -, rfl⟩ | ⟨-, -, rfl⟩
    · exact (nodup c).erase _
    · exact nodup c
  | took took =>
    obtain ⟨-, -, envelope, rfl⟩ := Channel.take_eq_some took
    exact nodup c
  | wrote wrote =>
    obtain ⟨-, writer, rfl⟩ := Channel.wrote_eq_some wrote
    exact nodup c
  | ended ended =>
    obtain ⟨-, -, -, rfl⟩ := Channel.finish_eq_some ended
    exact nodup c

/-- What holds of the queues: they fit, nobody waits twice, and whoever waits for a slot of
an open channel stands at a send on it. -/
structure SendQueues (d : Daemon) : Prop where
  absent : ∀ c, d.accepted ≤ c → d.handlers c = ⟨.absent, none⟩
  fits : ∀ c, (d.channels c).Fits
  nodup : ∀ c, (d.channels c).waiting.Nodup
  sends : ∀ c sender, (d.channels c).closed = false → sender ∈ (d.channels c).waiting →
    d.sends c sender = true

theorem SendQueues.step (queues : SendQueues d) (taken : d.step label = some d') :
    SendQueues d' where
  absent _ later := (change_of_step taken).absent queues.absent later
  fits := fits_step queues.fits taken
  nodup := nodup_step queues.nodup taken
  sends c sender alive waits := by
    have sending : d.sends c sender = true := by
      rcases waiting_step taken alive waits with ⟨open', before⟩ | ⟨-, sending⟩
      · exact queues.sends c sender open' before
      · exact sending
    exact sends_stays taken queues.absent (queues.nodup c) sending alive waits

theorem SendQueues.run {allowed : Daemon → Label → Prop} (queues : SendQueues d)
    (ran : Run Daemon.step allowed d labels v) : SendQueues v :=
  ran.invariant SendQueues queues fun _ _ _ queues _ => queues.step

theorem sendQueues_start (baseDomain : String) (now : Instant) :
    SendQueues (.start baseDomain now) where
  absent _ _ := rfl
  fits _ := ⟨le_rfl, Nat.zero_le _⟩
  nodup _ := List.nodup_nil
  sends _ _ _ waits := by cases waits

/-! ### The first of a queue -/

/-- The first task that waits, once there is a slot, sends, and leaves every other task of a
handler and `run` where it was. -/
theorem head_sends {rest : List Sender} (queues : SendQueues d) (running : d.main ≠ .exited)
    (alive : (d.channels c).closed = false) (first : (d.channels c).waiting = sender :: rest)
    (admitted : (d.channels c).admits sender = true) :
    ∃ label envelope d', label.client = none ∧ d.step label = some d' ∧ d'.main ≠ .exited ∧
      d'.channels c = { d.channels c with
        sent := (d.channels c).sent ++ [envelope], waiting := rest } ∧
      (∀ other, sender ≠ .handler other → d'.handlers other = d.handlers other) ∧
      (sender ≠ .main → d'.main = d.main) := by
  have sending := queues.sends c sender alive (by rw [first]; exact List.mem_cons_self)
  have offers : ∀ envelope, (d.channels c).offer sender envelope = some ({ d.channels c with
      sent := (d.channels c).sent ++ [envelope], waiting := rest }, true) := by
    intro envelope
    simp [Channel.offer, alive, admitted, first]
  cases sender with
  | handler other =>
    obtain ⟨envelope, sent⟩ := sends_handler.mp sending
    have stepped : d.step (.send other) = some { d with
        handlers := Function.update d.handlers other
          (afterSend d.shared d.now (d.handlers other) true)
        channels := Function.update d.channels c { d.channels c with
          sent := (d.channels c).sent ++ [envelope], waiting := rest }
        stats := d.stats ++ Daemon.startedStats other (d.handlers other) true
        cancelTimers := d.cancelTimers ++ Daemon.startedTimers (d.handlers other) d.now true } := by
      unfold Daemon.step
      split
      · rename_i exited
        exact absurd exited running
      · simp only [Daemon.sendStep, sent, offers]
    refine ⟨_, envelope, _, rfl, stepped, running, by simp, fun another apart => ?_, fun _ => rfl⟩
    have different : another ≠ other := by
      rintro rfl
      exact apart rfl
    simp [different]
  | stats route =>
    obtain ⟨index, sample, task⟩ := sends_stats.mp sending
    have stepped : d.step (.statsSend index) = some { d with
        channels := Function.update d.channels c { d.channels c with
          sent := (d.channels c).sent ++ [Envelope.new none (.stats route.ownerSession sample)]
          waiting := rest }
        stats := d.stats.set index ⟨c, route, .ticking⟩ } := by
      unfold Daemon.step
      split
      · rename_i exited
        exact absurd exited running
      · simp only [Daemon.statsStep, task, offers]
    exact ⟨_, Envelope.new none (.stats route.ownerSession sample), _, rfl, stepped, running,
      by simp, fun _ _ => rfl, fun _ => rfl⟩
  | main =>
    obtain ⟨details, owners, left, phase⟩ := sends_main.mp sending
    have stepped : d.step .fatalSend = some { d with
        channels := Function.update d.channels c { d.channels c with
          sent := (d.channels c).sent ++ [Envelope.new none (.fatal .cloudflaredExited details)]
          waiting := rest }
        main := .broadcasting details owners left } := by
      unfold Daemon.step
      split
      · rename_i exited
        exact absurd exited running
      · simp only [Daemon.mainStep, phase, offers]
    refine ⟨_, Envelope.new none (.fatal .cloudflaredExited details), _, rfl, stepped, ?_,
      by simp, fun _ _ => rfl, fun same => absurd rfl same⟩
    rintro ⟨⟩

end CfFw
