import CfFw.StopRemoval

/-! Which removals of a session wake the Stops that wait for it. The acknowledgements
map has one entry for a session, and a Stop starts to watch its notifier only after
it has sent `Terminate`; so an entry can be overwritten by another Stop, and a call
can come before the Stop watches. -/
namespace CfFw
open Std Transition

/-- A Stop that has inserted its notifier and has not timed out: its request, its
route and its notifier. -/
def Phase.inserted : Phase → Option (Option UInt64 × Route × NotifyId)
  | .locating requestId route notify | .terminating requestId route notify _
  | .waiting requestId route notify _ _ => some (requestId, route, notify)
  | _ => none

/-- A Stop has inserted its notifier and does not watch it yet. An answer of the
owner that comes between the send of `Terminate` and the wait has the same effect as
one that comes before the send. -/
def Phase.arming : Phase → Option (Option UInt64 × Route × NotifyId)
  | .locating requestId route notify | .terminating requestId route notify _ =>
    some (requestId, route, notify)
  | _ => none

/-- The Stop is about the session. -/
def aboutSession (session : UInt64) (stop : Option (Option UInt64 × Route × NotifyId)) : Bool :=
  stop.any fun stop => stop.2.1.ownerSession = session

/-- The handler waits for a notifier that has been called since. -/
def Daemon.awake (d : Daemon) (c : ConnId) : Bool :=
  match (d.handlers c).phase with
  | .waiting _ _ notify seen _ => d.shared.notifyCalls notify ≠ seen
  | _ => false

/-- A Stop inserts its notifier while no other Stop waits for the same session, and
no session is removed while a Stop for it has inserted its notifier and does not
watch it yet. -/
def Timely (d : Daemon) : Label → Prop
  | .proceed c =>
    match (d.handlers c).phase with
    | .notifying _ route _ => ∀ other < d.accepted,
      aboutSession route.ownerSession (d.handlers other).phase.inserted = true →
        d.awake other = true
    | .removing .acknowledgements session _ => ∀ other < d.accepted,
      aboutSession session (d.handlers other).phase.arming = false
    | _ => True
  | _ => True

instance (d : Daemon) (label : Label) : Decidable (Timely d label) := by
  unfold Timely
  split
  · split <;> infer_instance
  · exact .isTrue trivial

/-- The notifiers that are still waited for stand in the map. -/
def Expecting (d : Daemon) : Prop :=
  ∀ c requestId route notify, (d.handlers c).phase.inserted = some (requestId, route, notify) →
    d.awake c = false → d.shared.acknowledgements[route.ownerSession]? = some notify

variable {d d' v : Daemon} {c o other : ConnId} {label : Label} {shared : Shared}
  {handler : Handler} {session : UInt64} {route : Route} {notify : NotifyId}
  {requestId : Option UInt64} {labels more : List Label} {after : AfterRemove}

/-- A Stop with its notifier inserted either watches it or is about to. -/
theorem Phase.arming_or_waiting {phase : Phase}
    (inserted : phase.inserted = some (requestId, route, notify)) :
    phase.arming = some (requestId, route, notify) ∨
      ∃ seen deadline, phase = .waiting requestId route notify seen deadline := by
  cases phase with
  | locating | terminating => exact .inl inserted
  | waiting _ _ _ seen deadline =>
    cases inserted
    exact .inr ⟨seen, deadline, rfl⟩
  | _ => cases inserted

theorem StopHolds.accepted (holds : StopHolds d)
    (inserted : (d.handlers c).phase.inserted = some (requestId, route, notify)) :
    c < d.accepted := by
  by_contra late
  rw [holds.absent c (Nat.not_lt.mp late)] at inserted
  cases inserted

/-- How a step changes the entry of a session. -/
theorem Change.entry (change : Change d label d') (session : UInt64) :
    d'.shared.acknowledgements[session]? = d.shared.acknowledgements[session]? ∨
      (∃ c requestId route notify, label = .proceed c ∧ route.ownerSession = session ∧
        (d.handlers c).phase = .notifying requestId route notify) ∨
      ∃ c after, label = .proceed c ∧ d'.shared = d.shared.acknowledge session ∧
        (d.handlers c).phase = .removing .acknowledgements session after := by
  rcases change.shared with ⟨c, handler, taken⟩ | ⟨_, _, _, same⟩ | ⟨_, same⟩
  · generalize d'.shared = shared at taken ⊢
    cases taken with
    | @notified requestId route notify phase =>
      by_cases same : route.ownerSession = session
      · exact .inr (.inl ⟨c, requestId, route, notify, rfl, same, phase⟩)
      · refine .inl ?_
        simp [ExtTreeMap.getElem?_insert, LawfulEqCmp.compare_eq_iff_eq, same]
    | @acknowledged removed after phase =>
      by_cases same : removed = session
      · subst same
        exact .inr (.inr ⟨c, after, rfl, rfl, phase⟩)
      · refine .inl ?_
        simp only [Shared.acknowledge]
        split
        · rfl
        · simp [ExtTreeMap.getElem?_erase, LawfulEqCmp.compare_eq_iff_eq, same]
    | _ => exact .inl rfl
  · exact .inl (by rw [same])
  · exact .inl (by rw [same])

/-- The call that goes with the removal of an entry. -/
theorem Shared.acknowledge_notifyCalls {shared : Shared}
    (found : shared.acknowledgements[session]? = some notify) :
    (shared.acknowledge session).notifyCalls notify = shared.notifyCalls notify + 1 := by
  simp only [Shared.acknowledge, found, Function.update_self]

/-! ### Waking -/

/-- A Stop that was called stays so until its own next step. -/
theorem StopHolds.awake_step (holds : StopHolds d) (change : Change d label d')
    (awake : d.awake c = true) (untouched : d'.handlers c = d.handlers c) : d'.awake c = true := by
  unfold Daemon.awake at awake ⊢
  rw [untouched]
  split at awake
  · rename_i requestId route notify seen deadline phase
    rw [decide_eq_true_eq] at awake ⊢
    rcases change.notifyCalls notify with kept | ⟨_, session, _, _, found, _⟩
    · rw [kept]
      exact awake
    · exact absurd found ((holds.called c _ _ _ _ _ phase awake).absent session)
  · cases awake

/-- **A timely removal wakes every Stop for its session.** -/
theorem Expecting.woken (expecting : Expecting d) (holds : StopHolds d)
    (timely : Timely d (.proceed o))
    (phase : (d.handlers o).phase = .removing .acknowledgements session after)
    (sharedEq : d'.shared = d.shared.acknowledge session) (change : Change d (.proceed o) d')
    (inserted : (d.handlers c).phase.inserted = some (requestId, route, notify))
    (about : route.ownerSession = session) : d'.awake c = true := by
  have different : c ≠ o := by
    rintro rfl
    rw [phase] at inserted
    cases inserted
  have untouched : d'.handlers c = d.handlers c := change.others rfl different
  by_cases awake : d.awake c = true
  · exact holds.awake_step change awake untouched
  have asleep : d.awake c = false := Bool.eq_false_iff.mpr awake
  rcases Phase.arming_or_waiting inserted with arming | ⟨seen, deadline, waiting⟩
  · simp only [Timely, phase] at timely
    have never := timely c (holds.accepted inserted)
    simp [arming, aboutSession, about] at never
  · have entry := expecting c requestId route notify inserted asleep
    rw [about] at entry
    simp only [Daemon.awake, waiting, decide_eq_false_iff_not, not_not] at asleep
    simp only [Daemon.awake, untouched, waiting, sharedEq, Shared.acknowledge_notifyCalls entry,
      decide_eq_true_eq, asleep]
    exact Nat.succ_ne_self seen

/-- A handler gets into a Stop with its notifier inserted by inserting it, and goes on
there without touching the map. -/
theorem HandlerStep.inserted (taken : HandlerStep d c label shared handler)
    (inserted : handler.phase.inserted = some (requestId, route, notify)) :
    shared.acknowledgements[route.ownerSession]? = some notify ∨
      (shared = d.shared ∧ (d.handlers c).phase.arming = some (requestId, route, notify)) := by
  cases taken with
  | notified =>
    cases inserted
    exact .inl ExtTreeMap.getElem?_insert_self
  | located phase | unlocated phase | terminated phase =>
    cases inserted
    exact .inr ⟨rfl, by rw [phase]; rfl⟩
  | acknowledgeIgnored reading =>
    rw [reading] at inserted
    cases inserted
  | @foundBusy _ after | @markedIdle _ after => cases after <;> cases inserted
  | _ => cases inserted

private theorem asleep_of_arming
    (arming : (d.handlers c).phase.arming = some (requestId, route, notify)) :
    (d.handlers c).phase.inserted = some (requestId, route, notify) ∧ d.awake c = false := by
  cases phase : (d.handlers c).phase with
  | locating | terminating =>
    rw [phase] at arming
    exact ⟨arming, by simp [Daemon.awake, phase]⟩
  | _ =>
    rw [phase] at arming
    cases arming

/-- **Step lemma.** Under the condition the notifiers that are still waited for stay
in the map. -/
theorem Expecting.step (expecting : Expecting d) (holds : StopHolds d) (timely : Timely d label)
    (change : Change d label d') : Expecting d' := by
  intro c requestId route notify inserted asleep
  rcases change.handlers c with same | ⟨_, fresh⟩ | taken
  · rw [same] at inserted
    have before : d.awake c = false := by
      by_contra awake
      rw [holds.awake_step change (Bool.not_eq_false _ ▸ awake) same] at asleep
      cases asleep
    have entry := expecting c requestId route notify inserted before
    rcases change.entry route.ownerSession with kept | ⟨_, _, _, _, rfl, about, phase⟩
      | ⟨_, _, rfl, sharedEq, phase⟩
    · rw [kept, entry]
    · simp only [Timely, phase] at timely
      have woken := timely c (holds.accepted inserted) (by simp [inserted, aboutSession, about])
      rw [before] at woken
      cases woken
    · rw [expecting.woken holds timely phase sharedEq change inserted rfl] at asleep
      cases asleep
  · rw [fresh] at inserted
    cases inserted
  · rcases taken.inserted inserted with entry | ⟨sharedEq, arming⟩
    · exact entry
    · obtain ⟨before, sleeping⟩ := asleep_of_arming arming
      rw [sharedEq]
      exact expecting c requestId route notify before sleeping

private theorem expecting_start (baseDomain : String) (now : Instant) :
    Expecting (.start baseDomain now) := by
  intro c requestId route notify inserted
  cases inserted

/-- **Run lemma.** -/
theorem expecting_of_run {baseDomain : String} {now : Instant}
    (ran : Run Daemon.step Timely (.start baseDomain now) labels d) : Expecting d :=
  ran.invariantAlong Expecting (expecting_start baseDomain now)
    fun _ _ _ _ prior expecting timely taken =>
      expecting.step (StopHolds.run (prior.mono fun _ _ _ => trivial)) timely
        (change_of_step taken)

/-! ### Replying -/

/-- A Stop that was called replies at its next step, and cannot time out. -/
theorem reply_of_awake (awake : d.awake c = true)
    (inserted : (d.handlers c).phase.inserted = some (requestId, route, notify)) :
    d.step (.timeout c) = none ∧ (d.main ≠ .exited → ∃ next, d.step (.proceed c) = some next ∧
      (next.handlers c).phase =
        .replying requestId (.stopped (route.view d.shared.baseDomain)) (.finishStop route notify)) := by
  unfold Daemon.awake at awake
  split at awake
  · rename_i requestId' route' notify' seen deadline phase
    rw [decide_eq_true_eq] at awake
    rw [phase] at inserted
    cases inserted
    have late : timeoutSection d.shared d.now (d.handlers c) = none := by
      simp only [timeoutSection, phase, awake, false_and, ↓reduceIte]
    have ran : lockedSection c d.shared d.now (d.handlers c) =
        some (d.shared, (d.handlers c).respond requestId
          (.stopped (route.view d.shared.baseDomain)) (.finishStop route notify)) := by
      simp only [lockedSection, phase, awake, ↓reduceIte]
    constructor
    · unfold Daemon.step
      split
      · rfl
      · simp only [late, Option.map_none]
    · intro running
      refine ⟨_, step_proceed running ran, ?_⟩
      simp only [Daemon.move, Function.update_self, Handler.respond]
  · cases awake

/-- A Stop that was called stays so as long as it takes no step. -/
theorem awake_of_run (holds : StopHolds d) (awake : d.awake c = true)
    (ran : Run Daemon.step (fun _ label => label.actor ≠ some c) d more v)
    (present : c < d.accepted) :
    v.awake c = true ∧ v.handlers c = d.handlers c := by
  have kept := ran.invariant
    (fun v => StopHolds v ∧ d.accepted ≤ v.accepted ∧ v.awake c = true ∧
      v.handlers c = d.handlers c)
    ⟨holds, Nat.le_refl _, awake, rfl⟩ ?_
  · exact kept.2.2
  · rintro v label after ⟨holds, grown, awake, same⟩ idle taken
    have change := change_of_step taken
    have untouched : after.handlers c = v.handlers c := by
      rcases change.handlers c with same | ⟨new, _⟩ | moved
      · exact same
      · exact absurd (new ▸ present) (Nat.not_lt.mpr grown)
      · exact absurd moved.actor idle
    exact ⟨holds.step change, Nat.le_trans grown change.accepted_le,
      holds.awake_step change awake untouched, untouched.trans same⟩

/-- **A stop does not miss its acknowledgement.** In every run in which Stops for one
session do not wait at the same time, and in which no session is removed between the
insertion of a Stop's notifier and its wait, the removal of a session wakes every
Stop that has inserted its notifier for it: from then on the Stop cannot time out,
and its next step is its reply. -/
theorem removal_wakes_stops {baseDomain : String} {now : Instant}
    (ran : Run Daemon.step Timely (.start baseDomain now) labels d)
    (timely : Timely d (.proceed o))
    (phase : (d.handlers o).phase = .removing .acknowledgements session after)
    (taken : d.step (.proceed o) = some d') :
    ∀ c requestId route notify,
      (d.handlers c).phase.inserted = some (requestId, route, notify) →
      route.ownerSession = session →
      ∀ more v, Run Daemon.step (fun _ label => label.actor ≠ some c) d' more v →
        v.step (.timeout c) = none ∧ (v.main ≠ .exited → ∃ next, v.step (.proceed c) = some next ∧
          (next.handlers c).phase = .replying requestId (.stopped (route.view baseDomain))
            (.finishStop route notify)) := by
  intro c requestId route notify inserted about more v rest
  have unrestricted : Run Daemon.step Unrestricted (.start baseDomain now) labels d :=
    ran.mono fun _ _ _ => trivial
  have holds := StopHolds.run unrestricted
  have change := change_of_step taken
  have sharedEq : d'.shared = d.shared.acknowledge session := by
    obtain ⟨next, section_, rfl⟩ := section_of_proceed taken
    simp only [lockedSection, phase, removeSection, Option.some.injEq] at section_
    subst section_
    rfl
  have awake := (expecting_of_run ran).woken holds timely phase sharedEq change inserted about
  have different : c ≠ o := by
    rintro rfl
    rw [phase] at inserted
    cases inserted
  obtain ⟨stays, same⟩ := awake_of_run (holds.step change) awake rest
    (Nat.lt_of_lt_of_le (holds.accepted inserted) change.accepted_le)
  rw [← change.others rfl different, ← same] at inserted
  have whole := (Run.snoc unrestricted trivial taken).append (rest.mono fun _ _ _ => trivial)
  rw [← (StoppedMatches.run whole).domain]
  exact reply_of_awake stays inserted

/-- Client `c` asks to stop the first client's route, and its notifier is inserted. -/
def insertingLabels (c : ConnId) : List Label :=
  [.accept, .read c (.ok (Envelope.new (some 2) (.stop (.slug "app")))), .proceed c, .proceed c]

/-- The Stop of client `c` sends `Terminate` and starts to wait. -/
def watchingLabels (c : ConnId) : List Label := [.proceed c, .send c]

/-- The first client acknowledges, up to the section that calls a notifier. -/
def acknowledgingLabels : List Label :=
  [.read 0 (.ok (Envelope.new none (.terminateAcknowledged 1))), .proceed 0, .proceed 0]

/-- One Stop waits, and the owner's removal is about to call its notifier. -/
def acknowledgingDaemon : Daemon :=
  (execute Daemon.step oneRoute (insertingLabels 1 ++ watchingLabels 1 ++
    acknowledgingLabels)).get (by decide)

theorem acknowledged_stop_replies :
    ∃ d', acknowledgingDaemon.step (.proceed 0) = some d' ∧ d'.step (.timeout 1) = none ∧
      ∃ next, d'.step (.proceed 1) = some next ∧
        (next.handlers 1).phase = .replying (some 2)
          (.stopped ⟨"app", 3000, "http://127.0.0.1:3000", "https://app.example.com"⟩)
          (.finishStop ⟨"app", ⟨.localhost, 3000⟩, 1, 42, 0, 0⟩ 0) := by
  have registered : Run Daemon.step Timely (.start "example.com" 0)
      (registrationLabels 0 3000 "app") oneRoute := run_to_executeChecked (by decide +kernel)
  have stopped : Run Daemon.step Timely oneRoute
      (insertingLabels 1 ++ watchingLabels 1 ++ acknowledgingLabels) acknowledgingDaemon :=
    run_to_executeChecked (by decide +kernel)
  have timely : Timely acknowledgingDaemon (.proceed 0) := by decide
  have replies := removal_wakes_stops (registered.append stopped) timely rfl rfl 1 (some 2)
    ⟨"app", ⟨.localhost, 3000⟩, 1, 42, 0, 0⟩ 0 rfl rfl [] _ .nil
  obtain ⟨next, taken, reply⟩ := replies.2 (fun exited => by cases exited)
  exact ⟨_, rfl, replies.1, next, taken, reply⟩

/-- Two Stops for the same route wait when the owner acknowledges. -/
def overwrittenDaemon : Daemon :=
  (execute Daemon.step oneRoute (insertingLabels 1 ++ watchingLabels 1 ++ insertingLabels 2 ++
    watchingLabels 2 ++ acknowledgingLabels)).get (by decide)

/-- The owner's answer overtakes a Stop that is about to send `Terminate`. -/
def overtakenDaemon : Daemon :=
  (execute Daemon.step oneRoute (insertingLabels 1 ++ [.proceed 1] ++
    acknowledgingLabels)).get (by decide)

/-- The owner's removal is over, and the Stop has begun to wait. -/
def unansweredDaemon : Daemon :=
  (execute Daemon.step overtakenDaemon [.proceed 0, .send 1]).get (by decide)

/-- In both cases the Stop of client 1 has inserted its notifier when the owner's
removal calls one, and still waits out its time afterwards. -/
theorem acknowledgement_missed :
    ((overwrittenDaemon.handlers 1).phase.inserted.isSome = true ∧
      (overwrittenDaemon.handlers 0).phase = .removing .acknowledgements 1 .acknowledged ∧
      ∃ d', overwrittenDaemon.step (.proceed 0) = some d' ∧ d'.step (.proceed 1) = none ∧
        ((d'.step (.advance remoteStopTimeout)).bind fun d => d.step (.timeout 1)).isSome = true) ∧
    (overtakenDaemon.handlers 1).phase.inserted.isSome = true ∧
      (overtakenDaemon.handlers 0).phase = .removing .acknowledgements 1 .acknowledged ∧
      Run Daemon.step Unrestricted overtakenDaemon [.proceed 0, .send 1]
        unansweredDaemon ∧
      unansweredDaemon.step (.proceed 1) = none ∧
      ((unansweredDaemon.step (.advance remoteStopTimeout)).bind
        fun d => d.step (.timeout 1)).isSome = true :=
  ⟨⟨rfl, rfl, _, rfl, rfl, rfl⟩, rfl, rfl, run_to_execute _, rfl, rfl⟩

end CfFw
