import CfFw.Registration

/-! Removing a session from the registry: which routes go, that nothing else
changes, that sessions can be removed in any order, and that removal undoes
registration. A well-formed registry is determined by its routes, so each of
these is a statement about routes. -/
namespace CfFw
open Std Text
namespace RouteRegistry

variable {registry other : RouteRegistry} {route : Route} {session : UInt64}

/-- A session is in the session index exactly when a live route names it. -/
theorem WellFormed.slugsBySession_none (wellFormed : registry.WellFormed)
    (unused : ∀ route, registry.Live route → route.ownerSession ≠ session) :
    registry.slugsBySession[session]? = none := by
  cases found : registry.slugsBySession[session]? with
  | none => rfl
  | some slugs =>
    refine absurd (ExtTreeSet.ext_mem fun slug => ?_) (wellFormed.occupied found)
    have owned := wellFormed.sessions session slug
    rw [slugsOf, found, Option.getD_some] at owned
    rw [owned]
    constructor
    · rintro ⟨route, present, same⟩
      exact absurd same (unused route (wellFormed.live present))
    · intro impossible
      simp at impossible

/-- Well-formed registries with the same routes are the same registry: the two
indexes follow from the routes. -/
theorem WellFormed.ext (wellFormed : registry.WellFormed) (otherWellFormed : other.WellFormed)
    (same : ∀ slug : String, registry.bySlug[slug]? = other.bySlug[slug]?) : registry = other := by
  have sets : ∀ session, registry.slugsOf session = other.slugsOf session := by
    intro session
    refine ExtTreeSet.ext_mem fun slug => ?_
    rw [wellFormed.sessions, otherWellFormed.sessions, same]
  have entry : ∀ {registry : RouteRegistry}, registry.WellFormed → ∀ session,
      registry.slugsBySession[session]? =
        if registry.slugsOf session = ∅ then none else some (registry.slugsOf session) := by
    intro registry wellFormed session
    rw [slugsOf]
    cases found : registry.slugsBySession[session]? with
    | none => simp
    | some slugs => simp [wellFormed.occupied found]
  refine RouteRegistry.ext (ExtTreeMap.ext_getElem? same)
    (ExtTreeMap.ext_getElem? fun port => Option.ext fun slug => ?_)
    (ExtTreeMap.ext_getElem? fun session => ?_)
  · rw [wellFormed.ports, otherWellFormed.ports, same]
  · rw [entry wellFormed, entry otherWellFormed, sets]

/-! ### The removed routes -/

private theorem removeSlugs_sublist (keyed : ∀ (slug : String) (route : Route),
    registry.bySlug[slug]? = some route → route.slug = slug) (slugs : List String) :
    ((registry.removeSlugs slugs).1.map Route.slug).Sublist slugs := by
  induction slugs generalizing registry with
  | nil => exact List.Sublist.refl _
  | cons head rest ih =>
    unfold removeSlugs
    cases found : registry.bySlug[head]? with
    | none => exact (ih keyed).cons head
    | some held =>
      simp only [List.map_cons, keyed head held found]
      refine List.Sublist.cons_cons head (ih fun slug route present => ?_)
      simp only [ExtTreeMap.getElem?_erase, LawfulEqCmp.compare_eq_iff_eq] at present
      split at present
      · cases present
      · exact keyed slug route present

/-- `remove_session` returns the routes of the session. -/
theorem mem_removeSession (wellFormed : registry.WellFormed) :
    route ∈ (registry.removeSession session).1 ↔
      registry.Live route ∧ route.ownerSession = session := by
  have owned := wellFormed.sessions session route.slug
  rw [slugsOf] at owned
  have named : (∃ held : Route, registry.bySlug[route.slug]? = some held ∧
      held.ownerSession = session) ∧ registry.Live route ↔
      registry.Live route ∧ route.ownerSession = session := by
    constructor
    · rintro ⟨⟨held, present, same⟩, live⟩
      rw [live] at present
      cases present
      exact ⟨live, same⟩
    · rintro ⟨live, same⟩
      exact ⟨⟨route, live, same⟩, live⟩
  rw [← named, ← owned]
  unfold removeSession
  cases registry.slugsBySession[session]? with
  | none => simp
  | some slugs =>
    let indexed : RouteRegistry :=
      { registry with slugsBySession := registry.slugsBySession.erase session }
    have listed := @mem_removeSlugs indexed route (fun _ _ found => wellFormed.keyed found)
      slugs.toList
    rw [ExtTreeSet.mem_toList] at listed
    exact mem_sortBySlug.trans listed

/-- It returns each route once, in slug order. -/
theorem removeSession_sorted (wellFormed : registry.WellFormed) (session : UInt64) :
    (registry.removeSession session).1.Pairwise fun left right => left.slug < right.slug := by
  unfold removeSession
  cases registry.slugsBySession[session]? with
  | none => exact List.Pairwise.nil
  | some slugs =>
    let indexed : RouteRegistry :=
      { registry with slugsBySession := registry.slugsBySession.erase session }
    have ordered : (sortBySlug (indexed.removeSlugs slugs.toList).1).Pairwise
        fun left right => left.slug ≤ right.slug := List.pairwise_insertionSort _ _
    have distinct : (sortBySlug (indexed.removeSlugs slugs.toList).1).Pairwise
        fun left right => left.slug ≠ right.slug := by
      refine (List.perm_insertionSort _ _).symm.pairwise ?_ fun different => Ne.symm different
      have kept := @removeSlugs_sublist indexed (fun _ _ found => wellFormed.keyed found)
        slugs.toList
      refine List.pairwise_map.mp (List.Pairwise.sublist kept ?_)
      have keys : slugs.toList.Pairwise fun left right => ¬ compare left right = .eq :=
        ExtTreeSet.distinct_toList
      simpa [LawfulEqCmp.compare_eq_iff_eq] using keys
    exact ordered.imp₂ (fun _ _ le ne => le.lt_of_ne ne) distinct

/-! ### What is left -/

/-- What removing a session leaves and returns: the routes of the session are
returned once each and in order, no index knows them, and every other answer
stays. -/
structure SessionRemoved (registry after : RouteRegistry) (session : UInt64)
    (removed : List Route) : Prop where
  members (route : Route) :
    route ∈ removed ↔ registry.Live route ∧ route.ownerSession = session
  sorted : removed.Pairwise fun left right => left.slug < right.slug
  forgotten : ∀ route ∈ removed, after.bySlug[route.slug]? = none ∧
    after.slugByPort[route.port]? = none ∧ after.slugsBySession[session]? = none
  kept (route : Route) : registry.Live route → route.ownerSession ≠ session →
    after.bySlug[route.slug]? = some route ∧ after.slugByPort[route.port]? = some route.slug ∧
      after.slugsBySession[route.ownerSession]? = registry.slugsBySession[route.ownerSession]?
  lookups (selector : StopSelector) : after.resolve selector =
    (registry.resolve selector).filter fun route => route.ownerSession ≠ session

private theorem removeSession_resolve (wellFormed : registry.WellFormed) (session : UInt64)
    (selector : StopSelector) : (registry.removeSession session).2.resolve selector =
      (registry.resolve selector).filter fun route => route.ownerSession ≠ session := by
  have afterWellFormed := wellFormed.removeSession session
  refine Option.ext fun route => ?_
  rw [Option.filter_eq_some_iff]
  cases selector with
  | slug slug =>
    simp only [resolve, routeForSlug, removeSession_bySlug wellFormed, Option.filter_eq_some_iff]
  | port port =>
    simp only [resolve, routeForPort, Option.bind_eq_some_iff, removeSession_bySlug wellFormed,
      removeSession_slugByPort wellFormed, wellFormed.ports, Option.filter_eq_some_iff,
      decide_eq_true_eq]
    constructor
    · rintro ⟨slug, ⟨holder, held, samePort, _⟩, found, kept⟩
      exact ⟨⟨slug, ⟨holder, held, samePort⟩, found⟩, kept⟩
    · rintro ⟨⟨slug, ⟨holder, held, samePort⟩, found⟩, kept⟩
      obtain rfl : holder = route := Option.some.inj (held.symm.trans found)
      exact ⟨slug, ⟨holder, held, samePort, kept⟩, found, kept⟩

theorem WellFormed.sessionRemoved (wellFormed : registry.WellFormed) (session : UInt64) :
    SessionRemoved registry (registry.removeSession session).2 session
      (registry.removeSession session).1 where
  members _ := mem_removeSession wellFormed
  sorted := removeSession_sorted wellFormed session
  forgotten route member := by
    obtain ⟨live, same⟩ := (mem_removeSession wellFormed).mp member
    refine ⟨?_, Option.eq_none_iff_forall_ne_some.mpr fun slug indexed => ?_, ?_⟩
    · rw [removeSession_bySlug wellFormed, live]
      simp [Option.filter_some, same]
    · obtain ⟨holder, held, samePort, kept⟩ :=
        (removeSession_slugByPort wellFormed session route.port slug).mp indexed
      have one := live_port_unique wellFormed (wellFormed.live held) live samePort
      exact kept (one ▸ same)
    · rw [removeSession_slugsBySession, if_pos rfl]
  kept route live different := by
    refine ⟨?_, ?_, ?_⟩
    · rw [removeSession_bySlug wellFormed, live]
      simp [Option.filter_some, different]
    · exact (removeSession_slugByPort wellFormed session route.port route.slug).mpr
        ⟨route, live, rfl, different⟩
    · rw [removeSession_slugsBySession, if_neg (Ne.symm different)]
  lookups := removeSession_resolve wellFormed session

/-- A session without routes is removed without effect. -/
theorem removeSession_unused (wellFormed : registry.WellFormed)
    (unused : ∀ route, registry.Live route → route.ownerSession ≠ session) :
    registry.removeSession session = ([], registry) := by
  rw [RouteRegistry.removeSession, wellFormed.slugsBySession_none unused]

/-! ### Two sessions -/

private theorem removeSession_comm (wellFormed : registry.WellFormed) (first second : UInt64) :
    ((registry.removeSession first).2.removeSession second).2 =
      ((registry.removeSession second).2.removeSession first).2 := by
  have afterFirst := wellFormed.removeSession first
  have afterSecond := wellFormed.removeSession second
  refine (afterFirst.removeSession second).ext (afterSecond.removeSession first) fun slug => ?_
  rw [removeSession_bySlug afterFirst, removeSession_bySlug wellFormed,
    removeSession_bySlug afterSecond, removeSession_bySlug wellFormed, Option.filter_filter,
    Option.filter_filter]
  congr 1
  funext route
  exact Bool.and_comm _ _

/-- Removing one session does not change what removing another returns. -/
theorem removeSession_result (wellFormed : registry.WellFormed) {first second : UInt64}
    (different : first ≠ second) : ((registry.removeSession second).2.removeSession first).1 =
      (registry.removeSession first).1 := by
  have afterSecond := wellFormed.removeSession second
  have irreflexive : Std.Irrefl fun left right : Route => left.slug < right.slug :=
    ⟨fun route => lt_irrefl route.slug⟩
  have antisymmetric : Std.Antisymm fun left right : Route => left.slug < right.slug :=
    ⟨fun _ _ less greater => absurd less greater.asymm⟩
  refine (removeSession_sorted afterSecond first).eq_of_mem_iff
    (removeSession_sorted wellFormed first) fun route => ?_
  rw [mem_removeSession afterSecond, mem_removeSession wellFormed, live_removeSession wellFormed]
  constructor
  · rintro ⟨⟨live, _⟩, same⟩
    exact ⟨live, same⟩
  · rintro ⟨live, rfl⟩
    exact ⟨⟨live, different⟩, rfl⟩

/-! ### Registering and removing -/

/-- What `register_with_rng` is given besides the session. -/
structure RegisterCall (R : Type) where
  port : UInt16
  requested : Option String
  ownerPid : UInt32
  rng : R
  stamp : Stamp

variable {R : Type} [Rng R]

/-- The registry after registrations under one session, failed ones included. -/
def registerAll (registry : RouteRegistry) (session : UInt64) (calls : List (RegisterCall R)) :
    RouteRegistry :=
  calls.foldl (fun registry call => (registry.registerWithRng call.port call.requested session
    call.ownerPid call.rng call.stamp).2.1) registry

/-- A route added under a session goes with the session. -/
theorem removeSession_insertRoute (wellFormed : registry.WellFormed)
    (addable : registry.Addable route) :
    ((registry.insertRoute route).removeSession route.ownerSession).2 =
      (registry.removeSession route.ownerSession).2 := by
  have inserted := wellFormed.insertRoute addable
  refine (inserted.removeSession _).ext (wellFormed.removeSession _) fun slug => ?_
  rw [removeSession_bySlug inserted, removeSession_bySlug wellFormed, insertRoute_bySlug]
  by_cases same : route.slug = slug
  · rw [if_pos same, ← same, addable.freeSlug]
    simp [Option.filter_some]
  · rw [if_neg same]

/-- Removing a session forgets every registration made under it. -/
theorem removeSession_registerAll (wellFormed : registry.WellFormed) (session : UInt64)
    (calls : List (RegisterCall R)) :
    ((registry.registerAll session calls).removeSession session).2 =
      (registry.removeSession session).2 := by
  induction calls generalizing registry with
  | nil => rfl
  | cons call rest ih =>
    have registered := wellFormed.registerWithRng call.port call.requested session call.ownerPid
      call.rng call.stamp
    rw [registerAll, List.foldl_cons]
    refine (ih registered).trans ?_
    rcases registerWithRng_cases registry call.port call.requested session call.ownerPid call.rng
      call.stamp with ⟨_, _, failed⟩ | ⟨route, _, added, addable, _, rfl⟩
    · rw [failed]
    · rw [added]
      exact removeSession_insertRoute wellFormed addable

/-- **Session cleanup is exact, idempotent and independent of order, and it
undoes registration.** In every reachable registry removing a session returns
and forgets exactly its routes, and a second time nothing; two sessions can be
removed in either order; and whatever was registered under a session that had
no route, removing the session restores the registry. -/
theorem session_cleanup_exact (operations : List (Operation R)) :
    let registry := reached operations
    (∀ session, let (removed, after) := registry.removeSession session
      SessionRemoved registry after session removed ∧ after.removeSession session = ([], after)) ∧
    (∀ first second,
      let firstThenSecond := (registry.removeSession first).2.removeSession second
      let secondThenFirst := (registry.removeSession second).2.removeSession first
      firstThenSecond.2 = secondThenFirst.2 ∧
      [(registry.removeSession first).1, firstThenSecond.1].Perm
        [(registry.removeSession second).1, secondThenFirst.1] ∧
      (first ≠ second → (registry.removeSession first).1 = secondThenFirst.1 ∧
        (registry.removeSession second).1 = firstThenSecond.1)) ∧
    (∀ session (calls : List (RegisterCall R)),
      (∀ route, registry.Live route → route.ownerSession ≠ session) →
      ((registry.registerAll session calls).removeSession session).2 = registry) := by
  intro registry
  have wellFormed : registry.WellFormed := wellFormed_reached operations
  refine ⟨fun session => ⟨wellFormed.sessionRemoved session, ?_⟩, fun first second => ?_, ?_⟩
  · refine removeSession_unused (wellFormed.removeSession session) fun route live => ?_
    exact ((live_removeSession wellFormed).mp live).2
  · refine ⟨removeSession_comm wellFormed first second, ?_, fun different =>
      ⟨(removeSession_result wellFormed different).symm,
        (removeSession_result wellFormed (Ne.symm different)).symm⟩⟩
    by_cases same : first = second
    · rw [same]
    · rw [removeSession_result wellFormed same, removeSession_result wellFormed (Ne.symm same)]
      exact List.Perm.swap _ _ _
  · intro session calls unused
    rw [removeSession_registerAll wellFormed, removeSession_unused wellFormed unused]

end RouteRegistry
end CfFw
