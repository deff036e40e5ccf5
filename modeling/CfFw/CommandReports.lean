import CfFw.ReplyOrder

/-! What `fw list`, `fw stop` and `fw kill` print. Each opens a connection, sends one
request and prints the first frame it reads. Nothing is pushed to a connection that never
registered, so the frame is the reply, and what is printed was so while the command ran. -/
namespace CfFw.CommandReports
open CfFw Std Text Transition ReplyOrder

variable {d d' : Daemon} {c other : ConnId} {label : Label} {labels : List Label}
  {shared : Shared} {handler : Handler} {baseDomain : String} {now : Instant}

/-! ### The commands -/

/-- The invocations that send one request. -/
inductive Command where
  | list
  | stop (selector : StopSelector)
  | kill
  deriving DecidableEq

/-- The message that `request` sends for the command. -/
def Command.message : Command → ClientMessage
  | .list => .list
  | .stop selector => .stop selector
  | .kill => .kill

/-- What a command leaves: the lines on its standard output and its result. -/
structure Report where
  printed : List String
  result : Result Unit
  deriving DecidableEq

/-- `format!("{:<width$}", text)`: filled up with spaces to a number of characters. -/
def padded (width : Nat) (text : String) : String :=
  text ++ String.ofList (List.replicate (width - text.toList.length) ' ')

/-- The width of a column: that of its longest text in bytes, and at least `least`. -/
def width (least : Nat) (texts : List String) : Nat := max ((texts.map len).max?.getD least) least

/-- The table that `run_list` prints. -/
def table (routes : List RouteView) : List String :=
  let slugWidth := width 4 (routes.map RouteView.slug)
  let localWidth := width 5 (routes.map RouteView.localUrl)
  (padded slugWidth "SLUG" ++ "  " ++ padded localWidth "LOCAL" ++ "  PUBLIC") ::
    routes.map fun route =>
      s!"{padded slugWidth route.slug}  {padded localWidth route.localUrl}  {route.publicUrl}"

/-- The last arms of the three matches; `debug` is the derived `Debug`. -/
def unexpected (debug : ServerMessage → String) (what : String) (message : ServerMessage) :
    Report :=
  match message with
  | .error _ message => ⟨[], .error (.other message)⟩
  | other => ⟨[], .error (.protocol s!"unexpected {what} response: {debug other}")⟩

/-- `run_list`, once it is connected and has its response. -/
def reportList (debug : ServerMessage → String) : ServerMessage → Report
  | .routeList routes =>
    ⟨if routes.isEmpty then ["No active forwards."] else table routes, .ok ()⟩
  | other => unexpected debug "list" other

/-- `run_stop`, once it is connected and has its response. -/
def reportStop (debug : ServerMessage → String) : ServerMessage → Report
  | .stopped route =>
    ⟨[s!"Stopped {route.slug}", s!"  {route.publicUrl}", s!"  → {route.localUrl}"], .ok ()⟩
  | other => unexpected debug "stop" other

def noun (routeCount : Nat) : String := if routeCount = 1 then "forward" else "forwards"

/-- `run_kill`, once it is connected and has its response. -/
def reportKill (debug : ServerMessage → String) : ServerMessage → Report
  | .killAccepted routeCount =>
    ⟨[s!"Stopped {routeCount} {noun routeCount}.", "Stopped cloudflared.", "Stopped fw daemon."], .ok ()⟩
  | other => unexpected debug "kill" other

/-- What a command makes of its response. -/
def Command.report (debug : ServerMessage → String) : Command → ServerMessage → Report
  | .list => reportList debug
  | .stop _ => reportStop debug
  | .kill => reportKill debug

/-! ### What the reports say -/

/-- The route is the one that the selector names. -/
def Names : StopSelector → Route → Prop
  | .slug slug, route => route.slug = slug
  | .port port, route => route.port = port

/-- A selector as the user wrote it. -/
def selectorText : StopSelector → String
  | .slug slug => slug
  | .port port => toString port

/-- The views are those of the live routes, each once and in the order of their slugs. -/
structure Lists (shared : Shared) (views : List RouteView) : Prop where
  members : ∀ view, view ∈ views ↔
    ∃ route, shared.registry.Live route ∧ route.view shared.baseDomain = view
  sorted : views.Pairwise fun left right => left.slug < right.slug

/-- What a command reports is so, for the routes that are live. -/
inductive Tells (shared : Shared) : Command → Report → Prop where
  | nothing (empty : ∀ route, ¬ shared.registry.Live route) :
      Tells shared .list ⟨["No active forwards."], .ok ()⟩
  | listed {views : List RouteView} (lists : Lists shared views) (some : views ≠ []) :
      Tells shared .list ⟨table views, .ok ()⟩
  | stopped {selector : StopSelector} {route : Route} (live : shared.registry.Live route)
      (named : Names selector route) :
      Tells shared (.stop selector)
        ⟨[s!"Stopped {route.slug}", s!"  https://{route.slug}.{shared.baseDomain}",
          s!"  → http://{loopbackHost}:{route.port}"], .ok ()⟩
  | missing {selector : StopSelector}
      (unnamed : ∀ route, shared.registry.Live route → ¬ Names selector route) :
      Tells shared (.stop selector)
        ⟨[], .error (.other s!"no active forward matches \"{selectorText selector}\"")⟩
  | killed {views : List RouteView} (lists : Lists shared views) :
      Tells shared .kill
        ⟨[s!"Stopped {views.length} {noun views.length}.", "Stopped cloudflared.",
          "Stopped fw daemon."], .ok ()⟩
  | refused (down : shared.shuttingDown = true) :
      Tells shared .kill ⟨[], .error (.other "fw daemon is shutting down")⟩

private theorem lists_list (wellFormed : shared.registry.WellFormed) :
    Lists shared (shared.registry.list shared.baseDomain) where
  members := RouteRegistry.mem_list wellFormed shared.baseDomain
  sorted := RouteRegistry.list_sorted wellFormed shared.baseDomain

private theorem not_live_of_list_nil (lists : Lists shared []) (route : Route) :
    ¬ shared.registry.Live route := by
  intro live
  cases (lists.members (route.view shared.baseDomain)).mpr ⟨route, live, rfl⟩

private theorem names_of_resolve (wellFormed : shared.registry.WellFormed) {selector : StopSelector}
    {route : Route} (found : shared.registry.resolve selector = some route) :
    Names selector route := by
  cases selector with
  | slug slug => exact wellFormed.keyed found
  | port port =>
    obtain ⟨slug, indexed, present⟩ := Option.bind_eq_some_iff.mp found
    obtain ⟨holder, held, onPort⟩ := (wellFormed.ports port slug).mp indexed
    obtain rfl := Option.some.inj (held.symm.trans present)
    exact onPort

private theorem not_named_of_unresolved (wellFormed : shared.registry.WellFormed)
    {selector : StopSelector} (nothing : shared.registry.resolve selector = none) {route : Route}
    (live : shared.registry.Live route) : ¬ Names selector route := by
  intro named
  have found := RouteRegistry.resolve_live wellFormed live
  cases selector with
  | slug slug =>
    cases named
    rw [found.1] at nothing
    cases nothing
  | port port =>
    cases named
    rw [found.2] at nothing
    cases nothing

/-- **From replies to reports.** A command whose reply is true prints what is so. -/
theorem tells_of_truthful {owned : Option UInt64} {command : Command} {reply : ServerMessage}
    (debug : ServerMessage → String) (wellFormed : shared.registry.WellFormed)
    (truthful : Truthful shared owned command.message reply) :
    Tells shared command (command.report debug reply) := by
  have lists := lists_list wellFormed
  cases command with
  | list =>
    cases truthful
    generalize shared.registry.list shared.baseDomain = views at lists
    cases views with
    | nil => exact .nothing (not_live_of_list_nil lists)
    | cons view rest => exact .listed lists (List.cons_ne_nil _ _)
  | stop selector =>
    cases truthful with
    | unresolved nothing =>
      cases selector with
      | slug slug => exact .missing fun _ live => not_named_of_unresolved wellFormed nothing live
      | port port => exact .missing fun _ live => not_named_of_unresolved wellFormed nothing live
    | stopped found =>
      exact .stopped (RouteRegistry.live_of_resolve wellFormed found)
        (names_of_resolve wellFormed found)
  | kill =>
    cases truthful with
    | killRefused down => exact .refused down
    | killed =>
      have count : shared.registry.clear.1.length =
          (shared.registry.list shared.baseDomain).length := by
        simp only [RouteRegistry.clear, RouteRegistry.sortBySlug, RouteRegistry.list,
          List.length_insertionSort, List.length_map]
      have told := Tells.killed lists
      rw [← count] at told
      exact told

/-! ### A connection that never registers -/

/-- The handler has a registration at hand. -/
def registers : Phase → Bool
  | .registering _ _ _ _ _ | .publishing _ _ | .activating _ _ | .replying _ _ (.startStats _) =>
    true
  | _ => false

/-- The step reads no registration from client `c`. -/
def Plain (c : ConnId) (label : Label) : Prop :=
  ∀ envelope, label = .read c (.ok envelope) → envelope.message.isRegister = false

/-- Nobody but its own handler sends anything to client `c`. -/
structure Private (d : Daemon) (c : ConnId) : Prop where
  plain : registers (d.handlers c).phase = false
  free : (d.handlers c).owned = none
  unaimed : ¬ Aimed d c
  noStats : ∀ task ∈ d.stats, task.connection ≠ c

private theorem plain_step (taken : HandlerStep d c label shared handler)
    (plain : registers (d.handlers c).phase = false) (free : (d.handlers c).owned = none)
    (unasked : Plain c label) : registers handler.phase = false ∧ handler.owned = none := by
  cases taken with
  | registerRefused _ message | registerStarted _ message =>
    have never := unasked _ rfl
    rw [message] at never
    cases never
  | unregister _ _ owned | acknowledge _ _ owned | disconnected _ _ owned =>
    rw [free] at owned
    cases owned
  | registered phase | registerFailed phase | published phase | activated phase =>
    rw [phase] at plain
    cases plain
  | @foundBusy _ after | @markedIdle _ after => cases after <;> exact ⟨rfl, by first | rfl | exact free⟩
  | acknowledgeIgnored => exact ⟨plain, free⟩
  | left | released => exact ⟨rfl, rfl⟩
  | _ => exact ⟨rfl, free⟩

/-- Only a handler with a registration at hand is unannounced. -/
theorem registers_of_unannounced {phase : Phase} (unannounced : phase.unannounced = true) :
    registers phase = true := by
  cases phase with
  | activating => rfl
  | replying _ _ after =>
    cases after with
    | startStats => rfl
    | resume | release | finishStop | cancelLater => cases unannounced
  | _ => cases unannounced

/-- Nothing that a plain connection's step does starts a statistics task. -/
theorem noStats_step (step : TaskStep d label d')
    (plain : registers (d.handlers c).phase = false)
    (silent : ∀ task ∈ d.stats, task.connection ≠ c) : ∀ task ∈ d'.stats, task.connection ≠ c := by
  have stats := step.stats
  have moved : ∀ {index : Nat} {task : StatsTask} {phase : StatsPhase},
      d.stats[index]? = some task →
        ∀ other ∈ d.stats.set index ⟨task.connection, task.route, phase⟩,
          other.connection ≠ c := by
    intro index task phase found other member
    rcases List.mem_or_eq_of_mem_set member with old | rfl
    · exact silent other old
    · exact silent task (List.mem_of_getElem? found)
  generalize d'.stats = tasks at stats ⊢
  cases stats with
  | kept => exact silent
  | @started starter _ _ _ phase =>
    intro task member
    rw [List.mem_append, List.mem_singleton] at member
    rcases member with old | rfl
    · exact silent task old
    · rintro rfl
      rw [phase] at plain
      cases plain
  | ticked task | found task | reported task => exact moved task
  | gone | refused => exact fun task member => silent task (List.mem_of_mem_eraseIdx member)

/-- What is sent on a private connection is sent by its handler. -/
theorem sent_of_private (priv : Private d c) (step : TaskStep d label d') :
    (d'.channels c).sent = (d.channels c).sent ∨ (d'.channels c).sent = [] ∨
      ∃ requestId message after, (d.handlers c).phase = .replying requestId message after ∧
        (d'.channels c).sent = (d.channels c).sent ++ [Envelope.new requestId message] := by
  have delivery := step.channel c
  generalize d'.channels c = channel at delivery ⊢
  cases delivery with
  | kept sent => exact .inl sent
  | opened => exact .inr (.inl rfl)
  | reply phase _ sent => exact .inr (.inr ⟨_, _, _, phase, sent⟩)
  | stopSent phase => exact absurd (.handler _ (by rw [phase]; rfl)) priv.unaimed
  | killSent phase =>
    exact absurd (.handler _ (by rw [phase]; exact List.mem_cons_self)) priv.unaimed
  | fatalSent phase => exact absurd (.main _ _ _ phase List.mem_cons_self) priv.unaimed
  | statsSent task => exact absurd rfl (priv.noStats _ (List.mem_of_getElem? task))

theorem Private.step (priv : Private d c) (taken : d.step label = some d')
    (unasked : Plain c label) : Private d' c := by
  have change := change_of_step taken
  have step := taskStep_of_step taken
  have handler : registers (d'.handlers c).phase = false ∧ (d'.handlers c).owned = none := by
    rcases change.handlers c with same | ⟨_, fresh⟩ | moved
    · rw [same]
      exact ⟨priv.plain, priv.free⟩
    · rw [fresh]
      exact ⟨rfl, rfl⟩
    · exact plain_step moved priv.plain priv.free unasked
  refine ⟨handler.1, handler.2, fun aimed => ?_, noStats_step step priv.plain priv.noStats⟩
  rcases aimed_of_step change step aimed with old | unannounced
  · exact priv.unaimed old
  · rw [registers_of_unannounced unannounced] at handler
    cases handler.1

/-- The conversation on a connection that never registered: everything that is queued is a
reply. -/
structure Alone (baseDomain : String) (now : Instant) (c : ConnId) (labels : List Label)
    (d : Daemon) : Prop where
  talk : Conversation baseDomain now c labels d
  priv : Private d c
  solicited : replies d c = (d.channels c).sent

private theorem solicited_of_working {request : Envelope ClientMessage} {owned : Option UInt64}
    {known : ServerMessage → Prop} {requestId : Option UInt64} {message : ServerMessage}
    {after : AfterReply}
    (working : Working baseDomain known request owned (.replying requestId message after)) :
    message.unsolicited = false :=
  working.2.2

theorem Alone.step (alone : Alone baseDomain now c labels d) (taken : d.step label = some d')
    (unasked : Plain c label) : Alone baseDomain now c (labels ++ [label]) d' := by
  refine ⟨alone.talk.step taken, alone.priv.step taken unasked, ?_⟩
  have solicited := alone.solicited
  unfold replies at solicited ⊢
  rcases sent_of_private alone.priv (taskStep_of_step taken) with same | none |
    ⟨requestId, message, after, phase, sent⟩
  · rw [same, solicited]
  · rw [none, List.filter_nil]
  · have reply : message.unsolicited = false := by
      have standing := alone.talk.standing
      cases standing with
      | even idles =>
        rw [phase] at idles
        cases idles
      | serving _ _ working =>
        rw [phase] at working
        exact solicited_of_working working
      | abandoned returned =>
        rw [phase] at returned
        cases returned
    rw [sent, List.filter_append, solicited]
    simp [Envelope.new, reply]

private theorem alone_of_run (ran : Run Daemon.step Unrestricted (.start baseDomain now) labels d)
    (unasked : ∀ label ∈ labels, Plain c label) : Alone baseDomain now c labels d := by
  refine ran.historyInvariant
    (fun past d => (∀ label ∈ past, Plain c label) → Alone baseDomain now c past d) ?_ ?_ unasked
  · intro _
    refine ⟨conversation_of_run .nil c, ⟨rfl, rfl, ?_, ?_⟩, rfl⟩
    · exact (untouched_start baseDomain now c).unaimed
    · exact (untouched_start baseDomain now c).noStats
  · intro past d label d' alone _ taken plain
    exact (alone fun label member => plain label (by simp [member])).step taken
      (plain label (by simp))

private theorem mem_requests {request : Envelope ClientMessage}
    (reads : Label.read c (.ok request) ∈ labels) (asking : asks request.message = true) :
    request ∈ requests c labels :=
  List.mem_filterMap.mpr ⟨_, reads, requestOf_read asking⟩

/-- The request of a command is no registration, so a connection with no other is plain. -/
theorem plain_of_asked {command : Command}
    (asked : requests c labels = [Envelope.new (some 1) command.message]) :
    ∀ label ∈ labels, Plain c label := by
  rintro label member envelope rfl
  cases message : envelope.message with
  | register port slug pid =>
    have listed := mem_requests member (by rw [message]; rfl)
    rw [asked, List.mem_singleton] at listed
    rw [listed] at message
    cases command <;> cases message
  | _ => rfl

/-- **A command reports the truth.** For every run of the daemon, with any number of other
clients, and every connection whose only request is that of the command: at most one frame
is ever queued on it, the frame is the reply, and what the command prints of it or fails
with was so at a moment after the request was read and before the reply was queued. -/
theorem command_reports_truth {command : Command} {first : Envelope ServerMessage}
    {rest : List (Envelope ServerMessage)} (debug : ServerMessage → String)
    (ran : Run Daemon.step Unrestricted (.start baseDomain now) labels d)
    (asked : requests c labels = [Envelope.new (some 1) command.message])
    (sent : (d.channels c).sent = first :: rest) :
    rest = [] ∧ first.requestId = some 1 ∧ ∃ before after mid,
      labels = before ++ after ∧ Run Daemon.step Unrestricted (.start baseDomain now) before mid ∧
      requests c before = [Envelope.new (some 1) command.message] ∧
      (mid.channels c).sent = [] ∧
      Tells mid.shared command (command.report debug first.message) := by
  have plain := plain_of_asked asked
  have alone := alone_of_run ran plain
  have within := alone.talk.standing.within.1
  rw [alone.solicited, sent, asked] at within
  obtain rfl : rest = [] := List.eq_nil_of_length_eq_zero (by simpa using within)
  have answered : (replies d c)[0]? = some first := by
    rw [alone.solicited, sent]
    rfl
  obtain ⟨sameId, before, after, mid, split, reached, made, unanswered, truthful⟩ :=
    alone.talk.answers 0 _ first (by rw [asked]; rfl) answered
  refine ⟨rfl, sameId, before, after, mid, split, reached, ?_, ?_, ?_⟩
  · -- The one request was made before that moment.
    rw [split, requests, List.filterMap_append] at asked
    obtain ⟨request, single⟩ := List.length_eq_one_iff.mp made
    rw [requests] at single
    rw [single] at asked
    rw [requests, single, (List.cons.inj asked).1]
  · rw [← (alone_of_run reached fun label member => plain label (by simp [split, member])).solicited]
    exact List.eq_nil_of_length_eq_zero unanswered
  · exact tells_of_truthful debug (conversation_of_run reached c).bounded.wellFormed truthful

/-- Client 1 lists the routes while client 0 registers. -/
def listingLabels : List Label :=
  [.accept, .accept, .read 1 (.ok (Envelope.new (some 1) .list)),
    .read 0 (.ok (Envelope.new (some 1) (.register 3000 (some "app") 42))),
    .register 0 ⟨[]⟩ ⟨0, 0⟩, .proceed 1, .send 1, .proceed 0, .proceed 0, .send 0]

theorem listing_reports_new_route :
    ∃ before after mid, listingLabels = before ++ after ∧
      Run Daemon.step Unrestricted (.start "example.com" 0) before mid ∧
      Tells mid.shared .list
        ⟨["SLUG  LOCAL                  PUBLIC",
          "app   http://127.0.0.1:3000  https://app.example.com"], .ok ()⟩ := by
  have ran : Run Daemon.step Unrestricted (.start "example.com" 0) listingLabels _ :=
    run_to_execute (by decide)
  have told := @command_reports_truth _ 1 _ _ _ .list _ [] (fun _ => "") ran rfl rfl
  obtain ⟨_, _, before, after, mid, split, reached, _, _, tells⟩ := told
  exact ⟨before, after, mid, split, reached, tells⟩

end CfFw.CommandReports
