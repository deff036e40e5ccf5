import CfFw.DaemonSteps

/-! What a step does outside the handlers: to each channel, with the sender of
every new envelope, to the supervising loop and to the statistics tasks. It is
the companion of the inversion for handlers, and proofs about who was told what
start from it. -/
namespace CfFw
open Std

/-- What a step leaves as the channel to client `c`. -/
inductive Delivery (d : Daemon) (c : ConnId) : Label → Channel → Prop where
  | kept {label : Label} {channel : Channel} (sent : channel.sent = (d.channels c).sent)
      (closed : (d.channels c).closed = true → channel.closed = true) :
      Delivery d c label channel
  | opened (new : c = d.accepted) : Delivery d c .accept .fresh
  | reply {channel : Channel} {requestId : Option UInt64} {message : ServerMessage}
      {after : AfterReply} (phase : (d.handlers c).phase = .replying requestId message after)
      (alive : (d.channels c).closed = false)
      (sent : channel.sent = (d.channels c).sent ++ [Envelope.new requestId message]) :
      Delivery d c (.send c) channel
  | stopSent {channel : Channel} {stopper : ConnId} {requestId : Option UInt64} {route : Route}
      {notify : NotifyId}
      (phase : (d.handlers stopper).phase = .terminating requestId route notify c)
      (alive : (d.channels c).closed = false)
      (sent : channel.sent =
        (d.channels c).sent ++ [Envelope.new none (.terminate .remoteStop)]) :
      Delivery d c (.send stopper) channel
  | killSent {channel : Channel} {killer : ConnId} {requestId : Option UInt64} {routeCount : Nat}
      {owners rest : List ConnId}
      (phase : (d.handlers killer).phase = .broadcasting requestId routeCount owners (c :: rest))
      (alive : (d.channels c).closed = false)
      (sent : channel.sent =
        (d.channels c).sent ++ [Envelope.new none (.terminate .daemonKill)]) :
      Delivery d c (.send killer) channel
  | fatalSent {channel : Channel} {details : String} {owners rest : List ConnId}
      (phase : d.main = .broadcasting details owners (c :: rest))
      (alive : (d.channels c).closed = false)
      (sent : channel.sent =
        (d.channels c).sent ++ [Envelope.new none (.fatal .cloudflaredExited details)]) :
      Delivery d c .fatalSend channel
  | statsSent {channel : Channel} {index : Nat} {route : Route} {sample : MetricsSample}
      (task : d.stats[index]? = some ⟨c, route, .reporting sample⟩)
      (alive : (d.channels c).closed = false)
      (sent : channel.sent =
        (d.channels c).sent ++ [Envelope.new none (.stats route.ownerSession sample)]) :
      Delivery d c (.statsSend index) channel

/-- What a step leaves as the phase of the supervising loop. -/
inductive MainStep (d : Daemon) : Label → MainPhase → Prop where
  | kept {label : Label} : MainStep d label d.main
  | halted (phase : d.main = .supervising) : MainStep d .supervise .finishing
  | looked (phase : d.main = .supervising) : MainStep d .supervise .polling
  | quiet {outcome : Poll} (phase : d.main = .polling) : MainStep d (.poll outcome) .supervising
  | exitSeen {details : String} (phase : d.main = .polling) :
      MainStep d (.poll (.exited details)) (.snapshotting details)
  | snapshotted {details : String} {order : List ConnId} (phase : d.main = .snapshotting details)
      (permuted : order.Perm d.shared.ownerSenders) :
      MainStep d (.fatalSnapshot order) (.broadcasting details order order)
  | sent {details : String} {next : ConnId} {owners rest : List ConnId}
      (phase : d.main = .broadcasting details owners (next :: rest)) :
      MainStep d .fatalSend (.broadcasting details owners rest)
  | allSent {details : String} {owners : List ConnId}
      (phase : d.main = .broadcasting details owners []) :
      MainStep d .fatalSend (.clearing details owners)
  | cleared {details : String} {owners : List ConnId} (phase : d.main = .clearing details owners) :
      MainStep d .fatalClear .supervising
  | exited (phase : d.main = .finishing) : MainStep d .exit .exited

/-- What a step leaves as the statistics tasks. -/
inductive StatsStep (d : Daemon) : Label → List StatsTask → Prop where
  | kept {label : Label} : StatsStep d label d.stats
  | started {c : ConnId} {requestId : Option UInt64} {message : ServerMessage} {route : Route}
      (phase : (d.handlers c).phase = .replying requestId message (.startStats route))
      (alive : (d.channels c).closed = false) :
      StatsStep d (.send c) (d.stats ++ [⟨c, route, .ticking⟩])
  | ticked {index : Nat} {c : ConnId} {route : Route}
      (task : d.stats[index]? = some ⟨c, route, .ticking⟩) :
      StatsStep d (.statsTick index) (d.stats.set index ⟨c, route, .checking⟩)
  | gone {index : Nat} {sample : MetricsSample} {c : ConnId} {route : Route}
      (task : d.stats[index]? = some ⟨c, route, .checking⟩)
      (missing : d.shared.registry.routeForSlug route.slug = none) :
      StatsStep d (.statsCheck index sample) (d.stats.eraseIdx index)
  | found {index : Nat} {sample : MetricsSample} {c : ConnId} {route other : Route}
      (task : d.stats[index]? = some ⟨c, route, .checking⟩)
      (taken : d.shared.registry.routeForSlug route.slug = some other) :
      StatsStep d (.statsCheck index sample) (d.stats.set index ⟨c, route, .reporting sample⟩)
  | refused {index : Nat} {sample : MetricsSample} {c : ConnId} {route : Route}
      (task : d.stats[index]? = some ⟨c, route, .reporting sample⟩) :
      StatsStep d (.statsSend index) (d.stats.eraseIdx index)
  | reported {index : Nat} {sample : MetricsSample} {c : ConnId} {route : Route}
      (task : d.stats[index]? = some ⟨c, route, .reporting sample⟩) :
      StatsStep d (.statsSend index) (d.stats.set index ⟨c, route, .ticking⟩)

/-- What a step leaves of everything but the handlers and the shared state. -/
structure TaskStep (d : Daemon) (label : Label) (d' : Daemon) : Prop where
  channel : ∀ c, Delivery d c label (d'.channels c)
  main : MainStep d label d'.main
  stats : StatsStep d label d'.stats

variable {d d' : Daemon} {c target : ConnId} {label : Label} {channel : Channel}

/-! ### The step function -/

theorem Delivery.unchanged : Delivery d c label (d.channels c) := .kept rfl id

/-- A step that only moves handlers or changes the shared state. -/
theorem TaskStep.unchanged (channels : d'.channels = d.channels) (main : d'.main = d.main)
    (stats : d'.stats = d.stats) : TaskStep d label d' where
  channel c := by
    rw [channels]
    exact .unchanged
  main := by
    rw [main]
    exact .kept
  stats := by
    rw [stats]
    exact .kept

private theorem delivery_update (delivery : Delivery d target label channel) (c : ConnId) :
    Delivery d c label ((Function.update d.channels target channel) c) := by
  by_cases here : c = target
  · subst here
    rwa [Function.update_self]
  · rw [Function.update_of_ne here]
    exact .unchanged

/-- A step that only changes one channel. -/
theorem TaskStep.oneChannel (delivery : Delivery d target label channel)
    (channels : d'.channels = Function.update d.channels target channel)
    (main : d'.main = d.main) (stats : d'.stats = d.stats) : TaskStep d label d' where
  channel c := by
    rw [channels]
    exact delivery_update delivery c
  main := by
    rw [main]
    exact .kept
  stats := by
    rw [stats]
    exact .kept

private theorem delivery_of_take (ran : (d.channels c).take = some channel) :
    Delivery d c label channel := by
  obtain ⟨writer, -, envelope, rfl⟩ := Channel.take_eq_some ran
  exact .kept rfl fun closed => by simp [Channel.closed_of_receiving writer] at closed

private theorem delivery_of_wrote {result : Result Unit}
    (ran : (d.channels c).wrote result = some channel) :
    Delivery d c label channel := by
  obtain ⟨alive, writer, rfl⟩ := Channel.wrote_eq_some ran
  exact .kept rfl fun closed => by simp [alive] at closed

private theorem delivery_of_queue {sender : Sender}
    (ran : (d.channels c).queue sender = some channel) :
    Delivery d c label channel := by
  obtain ⟨-, -, -, rfl⟩ := Channel.queue_eq_some ran
  exact .kept rfl id

private theorem delivery_of_finish {hasSender : Bool}
    (ran : (d.channels c).finish hasSender = some channel) : Delivery d c label channel := by
  obtain ⟨-, -, -, rfl⟩ := Channel.finish_eq_some ran
  exact .kept rfl fun _ => rfl

private theorem delivery_of_send {envelope : Envelope ServerMessage} {accepted : Bool}
    (sending : outgoing c (d.handlers c).phase = some (target, envelope))
    (offered : (d.channels target).offer (.handler c) envelope = some (channel, accepted)) :
    Delivery d target (.send c) channel := by
  rcases Channel.offer_eq_some offered with ⟨-, alive, -, rfl⟩ | ⟨-, -, rfl⟩
  · unfold outgoing at sending
    split at sending
    case h_1 requestId message after phase =>
      cases sending
      exact .reply phase alive rfl
    case h_2 requestId route notify owner phase =>
      cases sending
      exact .stopSent phase alive rfl
    case h_3 requestId routeCount owners next rest phase =>
      cases sending
      exact .killSent phase alive rfl
    case h_4 => cases sending
  · exact .unchanged

private theorem started_of_send {envelope : Envelope ServerMessage} {accepted : Bool}
    (sending : outgoing c (d.handlers c).phase = some (target, envelope))
    (offered : (d.channels target).offer (.handler c) envelope = some (channel, accepted)) :
    StatsStep d (.send c) (d.stats ++ Daemon.startedStats c (d.handlers c) accepted) := by
  unfold Daemon.startedStats
  split
  · rename_i requestId message route phase
    rw [phase] at sending
    cases sending
    rcases Channel.offer_eq_some offered with ⟨rfl, alive, -⟩ | ⟨rfl, -⟩
    · exact .started phase alive
    · rw [if_neg (by simp), List.append_nil]
      exact .kept
  · rw [List.append_nil]
    exact .kept

private theorem taskStep_of_send (taken : d.sendStep c = some d') : TaskStep d (.send c) d' := by
  unfold Daemon.sendStep at taken
  split at taken
  · cases taken
  · rename_i target envelope sending
    split at taken
    · cases taken
    · rename_i channel accepted offered
      cases taken
      exact ⟨delivery_update (delivery_of_send sending offered), .kept,
        started_of_send sending offered⟩

private theorem taskStep_of_tick {index : Nat}
    (taken : d.statsStep index (.statsTick index) = some d') :
    TaskStep d (.statsTick index) d' := by
  simp only [Daemon.statsStep] at taken
  split at taken <;> cases taken
  rename_i task
  exact ⟨fun _ => .unchanged, .kept, .ticked task⟩

private theorem taskStep_of_check {index : Nat} {sample : MetricsSample}
    (taken : d.statsStep index (.statsCheck index sample) = some d') :
    TaskStep d (.statsCheck index sample) d' := by
  simp only [Daemon.statsStep] at taken
  split at taken
  · rename_i c route task
    cases found : d.shared.registry.routeForSlug route.slug with
    | none =>
      rw [found, if_pos Option.isNone_none] at taken
      cases taken
      exact ⟨fun _ => .unchanged, .kept, .gone task found⟩
    | some other =>
      rw [found, if_neg (by simp)] at taken
      cases taken
      exact ⟨fun _ => .unchanged, .kept, .found task found⟩
  · cases taken

private theorem taskStep_of_report {index : Nat}
    (taken : d.statsStep index (.statsSend index) = some d') :
    TaskStep d (.statsSend index) d' := by
  simp only [Daemon.statsStep] at taken
  split at taken
  · rename_i c route sample task
    split at taken <;> cases taken
    · exact ⟨fun _ => .unchanged, .kept, .refused task⟩
    · rename_i channel offered
      rcases Channel.offer_eq_some offered with ⟨-, alive, -, rfl⟩ | ⟨absurdity, -⟩
      · exact ⟨delivery_update (.statsSent task alive rfl), .kept, .reported task⟩
      · cases absurdity
  · cases taken

private theorem taskStep_of_fatalSend (taken : d.mainStep .fatalSend = some d') :
    TaskStep d .fatalSend d' := by
  simp only [Daemon.mainStep] at taken
  split at taken
  · rename_i details owners next rest phase
    split at taken <;> cases taken
    rename_i channel accepted offered
    refine ⟨delivery_update ?_, .sent phase, .kept⟩
    rcases Channel.offer_eq_some offered with ⟨-, alive, -, rfl⟩ | ⟨-, -, rfl⟩
    · exact .fatalSent phase alive rfl
    · exact .unchanged
  · rename_i phase
    cases taken
    exact ⟨fun _ => .unchanged, .allSent phase, .kept⟩
  · cases taken

/-- **Inversion for tasks.** Every step changes the channels, the supervising
loop and the statistics tasks in one of the listed ways. -/
theorem taskStep_of_step (taken : d.step label = some d') : TaskStep d label d' := by
  unfold Daemon.step at taken
  split at taken
  · cases taken
  cases label with
  | accept =>
    dsimp only at taken
    split at taken <;> cases taken
    exact .oneChannel (.opened rfl) rfl rfl rfl
  | acceptEnds =>
    dsimp only at taken
    split at taken <;> cases taken
    exact .unchanged rfl rfl rfl
  | read other outcome =>
    obtain ⟨shared, handler, _, rfl⟩ := handlerStep_of_read taken
    exact .unchanged rfl rfl rfl
  | register other rng stamp =>
    obtain ⟨next, _, rfl⟩ := Option.map_eq_some_iff.mp taken
    exact .unchanged rfl rfl rfl
  | proceed other =>
    obtain ⟨next, _, rfl⟩ := Option.map_eq_some_iff.mp taken
    exact .unchanged rfl rfl rfl
  | snapshot other order =>
    obtain ⟨handler, _, rfl⟩ := Option.map_eq_some_iff.mp taken
    exact .unchanged rfl rfl rfl
  | timeout other =>
    obtain ⟨handler, _, rfl⟩ := Option.map_eq_some_iff.mp taken
    exact .unchanged rfl rfl rfl
  | queue sender other =>
    obtain ⟨channel, -, queued, rfl⟩ := queued_of_queueStep taken
    exact .oneChannel (delivery_of_queue queued) rfl rfl rfl
  | send other => exact taskStep_of_send taken
  | drained other =>
    simp only [Daemon.drainedStep] at taken
    split at taken <;> cases taken
    exact .unchanged rfl rfl rfl
  | take other =>
    obtain ⟨channel, ran, rfl⟩ := Option.map_eq_some_iff.mp taken
    exact .oneChannel (delivery_of_take ran) rfl rfl rfl
  | wrote other result =>
    obtain ⟨channel, ran, rfl⟩ := Option.map_eq_some_iff.mp taken
    exact .oneChannel (delivery_of_wrote ran) rfl rfl rfl
  | writerEnds other =>
    obtain ⟨channel, ran, rfl⟩ := Option.map_eq_some_iff.mp taken
    exact .oneChannel (delivery_of_finish ran) rfl rfl rfl
  | statsTick index => exact taskStep_of_tick taken
  | statsCheck index sample => exact taskStep_of_check taken
  | statsSend index => exact taskStep_of_report taken
  | supervise =>
    simp only [Daemon.mainStep] at taken
    split at taken
    · rename_i phase
      split at taken <;> cases taken
      · exact ⟨fun _ => .unchanged, .halted phase, .kept⟩
      · exact ⟨fun _ => .unchanged, .looked phase, .kept⟩
    · cases taken
  | poll outcome =>
    simp only [Daemon.mainStep] at taken
    split at taken <;> cases taken
    · rename_i phase
      exact ⟨fun _ => .unchanged, .quiet phase, .kept⟩
    · rename_i phase
      exact ⟨fun _ => .unchanged, .exitSeen phase, .kept⟩
    · rename_i phase
      exact ⟨fun _ => .unchanged, .quiet phase, .kept⟩
  | fatalSnapshot order =>
    simp only [Daemon.mainStep] at taken
    split at taken
    · rename_i phase
      split at taken <;> cases taken
      rename_i permuted
      exact ⟨fun _ => .unchanged, .snapshotted phase (List.isPerm_iff.mp permuted), .kept⟩
    · cases taken
  | fatalSend => exact taskStep_of_fatalSend taken
  | fatalClear =>
    simp only [Daemon.mainStep] at taken
    split at taken <;> cases taken
    rename_i phase
    exact ⟨fun _ => .unchanged, .cleared phase, .kept⟩
  | exit =>
    simp only [Daemon.mainStep] at taken
    split at taken
    · rename_i phase
      split at taken <;> cases taken
      exact ⟨fun _ => .unchanged, .exited phase, .kept⟩
    · cases taken
  | idleTick =>
    dsimp only at taken
    split at taken <;> cases taken
    unfold Daemon.idleTick
    split <;> exact .unchanged rfl rfl rfl
  | idleStops =>
    dsimp only at taken
    split at taken <;> cases taken
    exact .unchanged rfl rfl rfl
  | signal =>
    cases taken
    exact .unchanged rfl rfl rfl
  | cancelTimer =>
    dsimp only at taken
    split at taken
    · split at taken <;> cases taken
      exact .unchanged rfl rfl rfl
    · cases taken
  | advance duration =>
    cases taken
    exact .unchanged rfl rfl rfl

/-! ### What every step keeps -/

/-- A closed channel is not reopened, and nothing is sent on it. -/
theorem TaskStep.closed (step : TaskStep d label d') (present : c ≠ d.accepted)
    (closed : (d.channels c).closed = true) :
    (d'.channels c).closed = true ∧ (d'.channels c).sent = (d.channels c).sent := by
  have delivery := step.channel c
  generalize d'.channels c = channel at delivery ⊢
  cases delivery with
  | kept sent stays => exact ⟨stays closed, sent⟩
  | opened new => exact absurd new present
  | reply _ alive | stopSent _ alive | killSent _ alive | fatalSent _ alive | statsSent _ alive =>
    rw [alive] at closed
    cases closed

/-- What was sent stays sent. -/
theorem TaskStep.sent (step : TaskStep d label d') (present : c ≠ d.accepted) :
    ∃ more, (d'.channels c).sent = (d.channels c).sent ++ more := by
  have delivery := step.channel c
  generalize d'.channels c = channel at delivery ⊢
  cases delivery with
  | kept sent => exact ⟨[], by rw [sent, List.append_nil]⟩
  | opened new => exact absurd new present
  | reply _ _ sent | stopSent _ _ sent | killSent _ _ sent | fatalSent _ _ sent
  | statsSent _ _ sent => exact ⟨_, sent⟩

/-- The senders in the owners map are those of the owners. -/
theorem Shared.mem_ownerSenders {shared : Shared} :
    c ∈ shared.ownerSenders ↔ ∃ session : UInt64, shared.owners[session]? = some c := by
  simp only [Shared.ownerSenders, List.mem_map, Prod.exists, exists_eq_right,
    ExtTreeMap.mem_toList_iff_getElem?_eq_some]

/-! ### Replies and other envelopes -/

/-- What a step leaves as the history of the channel to client `c`. -/
inductive Queued (d : Daemon) (c : ConnId) : Label → List (Envelope ServerMessage) → Prop where
  | kept {label : Label} : Queued d c label (d.channels c).sent
  | opened (new : c = d.accepted) : Queued d c .accept []
  | reply {requestId : Option UInt64} {message : ServerMessage} {after : AfterReply}
      (phase : (d.handlers c).phase = .replying requestId message after)
      (alive : (d.channels c).closed = false) :
      Queued d c (.send c) ((d.channels c).sent ++ [Envelope.new requestId message])
  | pushed {label : Label} {envelope : Envelope ServerMessage}
      (unsolicited : envelope.message.unsolicited = true) :
      Queued d c label ((d.channels c).sent ++ [envelope])
/-- **Inversion for histories.** A step appends at most one envelope to a
channel; a reply is appended by the connection's own handler only. -/
theorem queued_of_step (taken : d.step label = some d') (c : ConnId) :
    Queued d c label (d'.channels c).sent := by
  have delivery := (taskStep_of_step taken).channel c
  generalize d'.channels c = channel at delivery ⊢
  cases delivery with
  | kept sent =>
    rw [sent]
    exact .kept
  | opened new => exact .opened new
  | reply phase alive sent =>
    rw [sent]
    exact .reply phase alive
  | stopSent _ _ sent | killSent _ _ sent | fatalSent _ _ sent | statsSent _ _ sent =>
    rw [sent]
    exact .pushed rfl

/-! ### Pushes -/

/-- The message tells an owner that its forward is over. -/
def ServerMessage.dismisses : ServerMessage → Bool
  | .terminate _ | .fatal _ _ => true
  | _ => false

/-- The client that the step pushes a Terminate or a Fatal to. -/
def Daemon.pushes (d : Daemon) : Label → Option ConnId
  | .send c =>
    match (d.handlers c).phase with
    | .terminating _ _ _ owner => some owner
    | .broadcasting _ _ _ (next :: _) => some next
    | _ => none
  | .fatalSend =>
    match d.main with
    | .broadcasting _ _ (next :: _) => some next
    | _ => none
  | _ => none

private theorem pushed_of_offer {sender : Sender} {envelope : Envelope ServerMessage}
    {accepted : Bool}
    (dismisses : envelope.message.dismisses = true)
    (offered : (d.channels c).offer sender envelope = some (channel, accepted)) :
    (d.channels c).closed = true ∨ ∃ envelope, envelope.message.dismisses = true ∧
      channel.sent = (d.channels c).sent ++ [envelope] := by
  rcases Channel.offer_eq_some offered with ⟨-, -, -, rfl⟩ | ⟨-, closed, -⟩
  · exact .inr ⟨envelope, dismisses, rfl⟩
  · exact .inl closed

/-- A push arrives, unless the channel is closed. -/
theorem pushed_of_step (taken : d.step label = some d') (pushes : d.pushes label = some c) :
    (d.channels c).closed = true ∨ ∃ envelope, envelope.message.dismisses = true ∧
      (d'.channels c).sent = (d.channels c).sent ++ [envelope] := by
  unfold Daemon.step at taken
  split at taken
  · cases taken
  unfold Daemon.pushes at pushes
  split at pushes
  · rename_i other
    split at pushes
    · rename_i phase
      cases pushes
      simp only [Daemon.sendStep, outgoing, phase] at taken
      split at taken <;> cases taken
      rename_i offered
      simpa using pushed_of_offer rfl offered
    · rename_i phase
      cases pushes
      simp only [Daemon.sendStep, outgoing, phase] at taken
      split at taken <;> cases taken
      rename_i offered
      simpa using pushed_of_offer rfl offered
    · cases pushes
  · split at pushes
    · rename_i phase
      cases pushes
      simp only [Daemon.mainStep, phase] at taken
      split at taken <;> cases taken
      rename_i offered
      simpa using pushed_of_offer rfl offered
    · cases pushes
  · cases pushes

/-- A handler's step leaves `run` where it is. -/
theorem main_of_actor (taken : d.step label = some d') (actor : label.actor = some c) :
    d'.main = d.main := by
  have moved := (taskStep_of_step taken).main
  generalize d'.main = main at moved
  cases moved with
  | kept => rfl
  | _ => cases actor

end CfFw
