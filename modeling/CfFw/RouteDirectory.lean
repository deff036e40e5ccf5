import CfFw.Directory
import CfFw.Registration
import CfFw.ReplyOrder

/-! The daemon as a directory of slugs. Its three maps, its handlers and their locks come
down to names that are published for ports by sessions, and withdrawn session by session;
every reply is what that directory answers at a moment of the conversation. -/
namespace CfFw.RouteDirectory
open CfFw Std Text Transition ReplyOrder Directory

/-- Slugs, published for ports by sessions. -/
abbrev Routes := Directory String UInt16 UInt64

abbrev RouteEvent := Directory.Event String UInt16 UInt64

variable {d d' : Daemon} {c : ConnId} {label : Label} {labels : List Label}
  {registry later : RouteRegistry} {route : Route} {routes : Routes} {slug : String}
  {port : UInt16} {session : UInt64} {baseDomain : String} {now : Instant}

/-- What a step of the daemon does to the directory: a registration that succeeds, the
registry section of `remove_session`, and the clearing by a Kill or after `cloudflared` has
exited. -/
def routeEvent (d : Daemon) : Label → Option RouteEvent
  | .register c rng stamp =>
    match (d.handlers c).phase with
    | .registering _ port slug pid session =>
      match (d.shared.registry.registerWithRng port slug session pid rng stamp).1 with
      | .ok route => some (.publish route.slug route.port route.ownerSession)
      | .error _ => none
    | _ => none
  | .proceed c =>
    match (d.handlers c).phase with
    | .removing .registry session _ => some (.withdraw session)
    | .clearing _ => some .clear
    | _ => none
  | .fatalClear => some .clear
  | _ => none

/-- The directory's history of a run. -/
def routeHistory (start : Daemon) (labels : List Label) : List RouteEvent :=
  history Daemon.step routeEvent start labels

/-! ### Registries and directories -/

/-- The registry holds the routes of the directory. -/
structure Shows (registry : RouteRegistry) (routes : Routes) : Prop where
  wellFormed : registry.WellFormed
  same : ∀ slug, routes.published slug =
    registry.bySlug[slug]?.map fun route => (route.port, route.ownerSession)

theorem Shows.published_iff (shows : Shows registry routes) :
    routes.published slug = some (port, session) ↔
      ∃ route, registry.Live route ∧ route.slug = slug ∧ route.port = port ∧
        route.ownerSession = session := by
  rw [shows.same, Option.map_eq_some_iff]
  constructor
  · rintro ⟨route, found, same⟩
    cases same
    exact ⟨route, shows.wellFormed.live found, shows.wellFormed.keyed found, rfl, rfl⟩
  · rintro ⟨route, live, rfl, rfl, rfl⟩
    exact ⟨route, live, rfl⟩

theorem Shows.published (shows : Shows registry routes) (live : registry.Live route) :
    routes.published route.slug = some (route.port, route.ownerSession) :=
  shows.published_iff.mpr ⟨route, live, rfl, rfl, rfl⟩

private theorem shows_empty : Shows .new .empty where
  wellFormed := RouteRegistry.wellFormed_new
  same slug := by simp [Directory.empty, RouteRegistry.new]

theorem Shows.free (shows : Shows registry routes) (addable : registry.Addable route) :
    routes.Free route.slug route.port where
  name := by rw [shows.same, addable.freeSlug, Option.map_none]
  place other owner held := by
    obtain ⟨holder, live, _, onPort, _⟩ := shows.published_iff.mp held
    exact shows.wellFormed.port_free addable.freePort live onPort

theorem Shows.insertRoute (shows : Shows registry routes) (addable : registry.Addable route) :
    Shows (registry.insertRoute route) (routes.publish route.ownerSession (shows.free addable)) where
  wellFormed := shows.wellFormed.insertRoute addable
  same slug := by
    rw [publish_published, RouteRegistry.insertRoute_bySlug]
    by_cases here : slug = route.slug
    · simp [here]
    · simp [here, Ne.symm here, shows.same]

theorem Shows.removeSession (shows : Shows registry routes) (session : UInt64) :
    Shows (registry.removeSession session).2 (routes.withdraw session) where
  wellFormed := shows.wellFormed.removeSession session
  same slug := by
    rw [withdraw_published, RouteRegistry.removeSession_bySlug shows.wellFormed, shows.same]
    cases registry.bySlug[slug]? with
    | none => rfl
    | some route => by_cases leaving : route.ownerSession = session <;> simp [leaving, Option.filter]

/-! ### The daemon refines the directory -/

/-- What a step with this event makes of the registry. -/
inductive RegistryStep (registry : RouteRegistry) : Option RouteEvent → RouteRegistry → Prop where
  | kept : RegistryStep registry none registry
  | published {route : Route} (addable : registry.Addable route) :
      RegistryStep registry (some (.publish route.slug route.port route.ownerSession))
        (registry.insertRoute route)
  | withdrawn (session : UInt64) :
      RegistryStep registry (some (.withdraw session)) (registry.removeSession session).2
  | cleared : RegistryStep registry (some .clear) registry.clear.2

private theorem registryStep_of_step (taken : d.step label = some d') :
    RegistryStep d.shared.registry (routeEvent d label) d'.shared.registry := by
  have change := change_of_step taken
  cases label with
  | register c rng stamp =>
    obtain ⟨next, ran, rfl⟩ := section_of_register taken
    unfold registerSection at ran
    split at ran
    · rename_i requestId port slug pid session phase
      simp only [routeEvent, phase]
      rcases RouteRegistry.registerWithRng_cases d.shared.registry port slug session pid rng stamp
        with ⟨error, rest, failed⟩ | ⟨route, rest, outcome, addable, _⟩
      · rw [failed] at ran ⊢
        cases ran
        exact .kept
      · rw [outcome] at ran ⊢
        cases ran
        exact .published addable
    · cases ran
  | proceed c =>
    have moved := change.moved (c := c) rfl
    generalize d'.shared = shared at moved ⊢
    generalize d'.handlers c = handler at moved
    cases moved with
    | removedRoutes phase =>
      simp only [routeEvent, phase]
      exact .withdrawn _
    | cleared phase =>
      simp only [routeEvent, phase]
      exact .cleared
    | acknowledged phase =>
      simp only [routeEvent, phase, Shared.acknowledge]
      split <;> exact .kept
    | _ phase =>
      simp only [routeEvent, phase]
      exact .kept
  | fatalClear =>
    unfold Daemon.step at taken
    split at taken
    · cases taken
    · simp only [Daemon.mainStep] at taken
      split at taken
      · cases taken
        exact .cleared
      · cases taken
  | _ =>
    rcases change.shared with ⟨c, handler, moved⟩ | ⟨_, _, _, same⟩ | ⟨impossible, _⟩
    · generalize d'.shared = shared at moved ⊢
      cases moved <;> exact .kept
    · rw [same]
      exact .kept
    · cases impossible

/-- **The daemon refines the directory**, step by step. -/
theorem simulates : Simulates Daemon.step Unrestricted Directory.step routeEvent
    fun d routes => Shows d.shared.registry routes where
  silent d label d' routes shows _ taken silent := by
    have step := registryStep_of_step taken
    rw [silent] at step
    generalize d'.shared.registry = later at step ⊢
    cases step
    exact shows
  visible d label d' routes seen shows _ taken happens := by
    have step := registryStep_of_step taken
    rw [happens] at step
    generalize d'.shared.registry = later at step ⊢
    cases step with
    | published addable =>
      exact ⟨_, step_publish (shows.free addable), shows.insertRoute addable⟩
    | withdrawn session => exact ⟨_, rfl, shows.removeSession session⟩
    | cleared => exact ⟨_, rfl, shows_empty⟩

/-! ### Replies -/

/-- Why a registration is refused, for the routes there are. Each reason holds only where none
of the earlier ones does. -/
inductive Refused (routes : Routes) (port : UInt16) (requested : Option String) :
    FwError → Prop where
  | zeroPort (zero : port = 0) : Refused routes port requested (.invalidPort "0")
  | heldPort {slug : String} {session : UInt64} (nonzero : port ≠ 0)
      (held : routes.published slug = some (port, session)) :
      Refused routes port requested (.duplicatePort port slug)
  | invalidSlug {input reason : String} (nonzero : port ≠ 0)
      (freePort : ∀ slug session, routes.published slug ≠ some (port, session))
      (asked : requested = some input)
      (invalid : validateNormalizedSlug (toAsciiLowercase input) = .error reason) :
      Refused routes port requested (.invalidSlug input reason)
  | activeSlug {input : String} (nonzero : port ≠ 0)
      (freePort : ∀ slug session, routes.published slug ≠ some (port, session))
      (asked : requested = some input) (valid : ValidSlug (toAsciiLowercase input))
      (active : routes.published (toAsciiLowercase input) ≠ none) :
      Refused routes port requested (.duplicateSlug (toAsciiLowercase input))
  | exhausted (nonzero : port ≠ 0)
      (freePort : ∀ slug session, routes.published slug ≠ some (port, session))
      (unnamed : requested = none) (full : ∀ slug ∈ allSlugs, routes.published slug ≠ none) :
      Refused routes port requested (.other "all generated slug combinations are already active")

/-- The name of a route, or its port. -/
def Selects (slug : String) (port : UInt16) (selector : StopSelector) : Prop :=
  selector = .slug slug ∨ selector = .port port

/-- What the directory answers to a request, on a connection that owns a session or none, of a
daemon that is shutting down or not. -/
inductive Answered (baseDomain : String) (routes : Routes) (down : Bool) (owned : Option UInt64) :
    ClientMessage → ServerMessage → Prop where
  | registerDenied {port : UInt16} {requested : Option String} {pid : UInt32}
      (denied : owned.isSome = true ∨ down = true) :
      Answered baseDomain routes down owned (.register port requested pid) shuttingDownMessage
  | registered {slug : String} {port : UInt16} {session : UInt64} {requested : Option String}
      {pid : UInt32} (held : routes.published slug = some (port, session))
      (owner : owned = some session)
      (named : ∀ input, requested = some input → slug = toAsciiLowercase input)
      (generated : requested = none → slug ∈ allSlugs) :
      Answered baseDomain routes down owned (.register port requested pid)
        (.registered session slug s!"http://{loopbackHost}:{port}" s!"https://{slug}.{baseDomain}")
  | registerFailed {port : UInt16} {requested : Option String} {pid : UInt32} {error : FwError}
      (refused : Refused routes port requested error) :
      Answered baseDomain routes down owned (.register port requested pid) (errorMessage error)
  | unregistered {session : UInt64} (owner : owned = some session)
      (gone : ∀ slug port, routes.published slug ≠ some (port, session)) :
      Answered baseDomain routes down owned (.unregister session) (.unregistered session)
  | unregisterDenied {session : UInt64} (foreign : owned ≠ some session) :
      Answered baseDomain routes down owned (.unregister session)
        (.error .invalidRequest "session is not owned by this connection")
  | listed {views : List RouteView}
      (members : ∀ view, view ∈ views ↔ ∃ slug port session,
        routes.published slug = some (port, session) ∧ RouteView.new slug port baseDomain = view)
      (sorted : views.Pairwise fun left right => left.slug < right.slug) :
      Answered baseDomain routes down owned .list (.routeList views)
  | unresolved {selector : StopSelector}
      (nothing : ∀ slug port session, routes.published slug = some (port, session) →
        ¬ Selects slug port selector) :
      Answered baseDomain routes down owned (.stop selector) (routeNotFoundMessage selector)
  | stopped {selector : StopSelector} {slug : String} {port : UInt16} {session : UInt64}
      (held : routes.published slug = some (port, session)) (selected : Selects slug port selector) :
      Answered baseDomain routes down owned (.stop selector)
        (.stopped (RouteView.new slug port baseDomain))
  | killDenied (closing : down = true) :
      Answered baseDomain routes down owned .kill shuttingDownMessage
  | killed {slugs : List String} (distinct : slugs.Nodup)
      (members : ∀ slug, slug ∈ slugs ↔ routes.published slug ≠ none) :
      Answered baseDomain routes down owned .kill (.killAccepted slugs.length)

theorem Shows.active_iff (shows : Shows registry routes) :
    routes.published slug ≠ none ↔ ∃ route, registry.Live route ∧ route.slug = slug := by
  rw [shows.same, Ne, Option.map_eq_none_iff]
  constructor
  · intro present
    obtain ⟨route, found⟩ := Option.ne_none_iff_exists'.mp present
    exact ⟨route, shows.wellFormed.live found, shows.wellFormed.keyed found⟩
  · rintro ⟨route, live, rfl⟩ absent
    cases live.symm.trans absent

theorem Shows.freePort (shows : Shows registry routes)
    (free : ∀ route, registry.Live route → route.port ≠ port) (slug : String) (session : UInt64) :
    routes.published slug ≠ some (port, session) := by
  intro held
  obtain ⟨route, live, _, onPort, _⟩ := shows.published_iff.mp held
  exact free route live onPort

theorem Shows.refused (shows : Shows registry routes) {requested : Option String} {error : FwError}
    (refusal : registry.Refusal port requested error) : Refused routes port requested error := by
  cases refusal with
  | zeroPort zero => exact .zeroPort zero
  | heldPort nonzero live held =>
    cases held
    exact .heldPort nonzero (shows.published live)
  | invalidSlug nonzero freePort asked invalid =>
    exact .invalidSlug nonzero (shows.freePort freePort) asked invalid
  | activeSlug nonzero freePort asked valid live same =>
    rw [same]
    exact .activeSlug nonzero (shows.freePort freePort) asked valid
      (shows.active_iff.mpr ⟨_, live, same⟩)
  | exhausted nonzero freePort unnamed full =>
    refine .exhausted nonzero (shows.freePort freePort) unnamed fun slug listed => ?_
    obtain ⟨adjective, first, noun, second, rfl⟩ := mem_allSlugs.mp listed
    exact shows.active_iff.mpr (full adjective first noun second)

/-- What is true of the registry is what the directory answers. -/
theorem Shows.answered {shared : Shared} {owned : Option UInt64} {asked : ClientMessage}
    {reply : ServerMessage} (shows : Shows shared.registry routes)
    (truthful : Truthful shared owned asked reply) :
    Answered shared.baseDomain routes shared.shuttingDown owned asked reply := by
  have wellFormed := shows.wellFormed
  cases truthful with
  | registerRefused refused => exact .registerDenied refused
  | registered live owner named generated =>
    exact .registered (shows.published live) owner named generated
  | registerFailed failed =>
    exact .registerFailed (shows.refused ((wellFormed.registerWithRng_error _ _ _ _).mp failed))
  | unregistered owner gone =>
    refine .unregistered owner fun slug port held => ?_
    obtain ⟨route, live, _, _, owns⟩ := shows.published_iff.mp held
    exact gone route live owns
  | unregisterRefused foreign => exact .unregisterDenied foreign
  | listed =>
    refine .listed (fun view => ?_) (RouteRegistry.list_sorted wellFormed _)
    rw [RouteRegistry.mem_list wellFormed]
    constructor
    · rintro ⟨route, live, rfl⟩
      exact ⟨_, _, _, shows.published live, rfl⟩
    · rintro ⟨slug, port, session, held, rfl⟩
      obtain ⟨route, live, rfl, rfl, _⟩ := shows.published_iff.mp held
      exact ⟨route, live, rfl⟩
  | unresolved nothing =>
    refine .unresolved fun slug port session held selected => ?_
    obtain ⟨route, live, rfl, rfl, _⟩ := shows.published_iff.mp held
    obtain ⟨bySlug, byPort⟩ := RouteRegistry.resolve_live wellFormed live
    rcases selected with rfl | rfl
    · rw [bySlug] at nothing
      cases nothing
    · rw [byPort] at nothing
      cases nothing
  | @stopped selector route found =>
    refine .stopped (shows.published (RouteRegistry.live_of_resolve wellFormed found)) ?_
    cases selector with
    | slug slug => exact .inl (congrArg StopSelector.slug (wellFormed.keyed found).symm)
    | port port =>
      obtain ⟨slug, indexed, present⟩ := Option.bind_eq_some_iff.mp found
      obtain ⟨holder, held, onPort⟩ := (wellFormed.ports port slug).mp indexed
      obtain rfl := Option.some.inj (held.symm.trans present)
      exact .inr (congrArg StopSelector.port onPort.symm)
  | killRefused closing => exact .killDenied closing
  | killed =>
    have count : shared.registry.clear.1.length =
        (shared.registry.routes.map Route.slug).length := by
      simp [RouteRegistry.clear, RouteRegistry.sortBySlug]
    rw [count]
    refine .killed (List.pairwise_map.mpr (RouteRegistry.routes_distinct wellFormed)) fun slug => ?_
    simp only [shows.active_iff, List.mem_map, RouteRegistry.mem_routes wellFormed]

/-! ### Whole runs -/

/-- The directory of a run, and what it answers. -/
theorem shows_of_run (ran : Run Daemon.step Unrestricted (.start baseDomain now) labels d) :
    ∃ routes, Run Directory.step Unrestricted Directory.empty
      (routeHistory (.start baseDomain now) labels) routes ∧ Shows d.shared.registry routes :=
  ran.simulate simulates shows_empty

/-- **The daemon is a directory of routes.** In every run, with any number of clients: the
three maps agree, and they hold the routes of a directory whose history are the registrations
that succeeded, the sessions that were removed and the clearings, one event each and in the
order of the run. So a slug leads to a port exactly if a registration published it for that
port and neither the removal of its session nor a clearing came after; and the reply to each
request on each connection is what the directory answers at a moment between the two. -/
theorem daemon_refines_directory
    (ran : Run Daemon.step Unrestricted (.start baseDomain now) labels d) :
    d.shared.registry.WellFormed ∧
    ∃ routes, Run Directory.step Unrestricted Directory.empty
        (routeHistory (.start baseDomain now) labels) routes ∧
      (∀ slug port session,
        (∃ route, d.shared.registry.Live route ∧ route.slug = slug ∧ route.port = port ∧
          route.ownerSession = session) ↔
        routes.published slug = some (port, session)) ∧
      (∀ slug port session, routes.published slug = some (port, session) ↔
        Stands (routeHistory (.start baseDomain now) labels) slug port session) ∧
      ∀ (c : ConnId) (index : Nat) (request : Envelope ClientMessage)
        (reply : Envelope ServerMessage), (requests c labels)[index]? = some request →
        (replies d c)[index]? = some reply →
        ∃ before after mid between, labels = before ++ after ∧
          Run Daemon.step Unrestricted (.start baseDomain now) before mid ∧
          (requests c before).length = index + 1 ∧ (replies mid c).length = index ∧
          Run Directory.step Unrestricted Directory.empty
            (routeHistory (.start baseDomain now) before) between ∧
          Answered baseDomain between mid.shared.shuttingDown (mid.handlers c).owned
            request.message reply.message := by
  obtain ⟨routes, run, shows⟩ := shows_of_run ran
  refine ⟨shows.wellFormed, routes, run, fun slug port session => shows.published_iff.symm,
    fun slug port session => published_iff run, fun c index request reply asked answered => ?_⟩
  obtain ⟨_, before, after, mid, split, reached, made, unanswered, truthful⟩ :=
    (conversation_of_run ran c).answers index request reply asked answered
  obtain ⟨between, earlier, shown⟩ := shows_of_run reached
  have domain := (conversation_of_run reached c).bounded.domain
  refine ⟨before, after, mid, between, split, reached, made, unanswered, earlier, ?_⟩
  rw [← domain]
  exact shown.answered truthful

/-- Client 0 has its slug while client 1 takes its own back. -/
def publishedLabels : List Label :=
  registrationLabels 0 3000 "app" ++ registrationLabels 1 4000 "other" ++
    [.read 1 (.ok (Envelope.new (some 2) (.unregister 2))), .proceed 1]

theorem app_stays_published : ∃ routes : Routes,
    Run Directory.step Unrestricted Directory.empty
      [.publish "app" 3000 1, .publish "other" 4000 2, .withdraw 2] routes ∧
    routes.published "app" = some (3000, 1) := by
  have ran : Run Daemon.step Unrestricted (.start "example.com" 0) publishedLabels _ :=
    run_to_execute (by decide)
  obtain ⟨_, routes, run, _, stands, _⟩ := daemon_refines_directory ran
  have events : routeHistory (.start "example.com" 0) publishedLabels =
      [.publish "app" 3000 1, .publish "other" 4000 2, .withdraw 2] := by decide
  rw [events] at run stands
  refine ⟨routes, run, (stands "app" 3000 1).mpr ⟨[], _, rfl, ?_⟩⟩
  simp [Event.Ends]

end CfFw.RouteDirectory
