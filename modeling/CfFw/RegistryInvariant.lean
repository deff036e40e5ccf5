import CfFw.Registry

/-! The representation invariant of the route registry: its three maps describe
one set of routes. Every operation says what it does to that set, and the
invariant follows. -/
namespace CfFw
open Std Text
namespace RouteRegistry

/-- A route the registry holds. -/
def Live (registry : RouteRegistry) (route : Route) : Prop :=
  registry.bySlug[route.slug]? = some route

instance (registry : RouteRegistry) (route : Route) : Decidable (registry.Live route) :=
  inferInstanceAs (Decidable (registry.bySlug[route.slug]? = some route))

/-- The slugs indexed under a session; none when the session has no entry. -/
def slugsOf (registry : RouteRegistry) (session : UInt64) : ExtTreeSet String :=
  registry.slugsBySession[session]?.getD ∅

/-- The three maps describe the same routes: every entry of `by_slug` is a
well-formed route under its own slug, and the two indexes answer exactly what
`by_slug` says. -/
structure WellFormed (registry : RouteRegistry) : Prop where
  keyed : ∀ {slug : String} {route : Route}, registry.bySlug[slug]? = some route →
    route.slug = slug
  valid : ∀ {slug : String} {route : Route}, registry.bySlug[slug]? = some route →
    ValidSlug slug ∧ route.target.ip = .localhost ∧ route.port ≠ 0
  ports : ∀ (port : UInt16) (slug : String), registry.slugByPort[port]? = some slug ↔
    ∃ route : Route, registry.bySlug[slug]? = some route ∧ route.port = port
  sessions : ∀ (session : UInt64) (slug : String), slug ∈ registry.slugsOf session ↔
    ∃ route : Route, registry.bySlug[slug]? = some route ∧ route.ownerSession = session
  occupied : ∀ {session : UInt64} {slugs : ExtTreeSet String},
    registry.slugsBySession[session]? = some slugs → slugs ≠ ∅

variable {registry : RouteRegistry} {route other : Route} {slug : String} {port : UInt16}
  {session : UInt64}

theorem WellFormed.live (wellFormed : registry.WellFormed)
    (found : registry.bySlug[slug]? = some route) : registry.Live route := by
  obtain rfl := wellFormed.keyed found
  exact found

theorem wellFormed_new : new.WellFormed := by
  constructor <;> simp [new, slugsOf]

theorem not_live_new (route : Route) : ¬ new.Live route := by
  simp [Live, new]

/-! ### Registration -/

theorem insertRoute_bySlug (slug : String) : (registry.insertRoute route).bySlug[slug]? =
    if route.slug = slug then some route else registry.bySlug[slug]? := by
  simp only [insertRoute, ExtTreeMap.getElem?_insert, LawfulEqCmp.compare_eq_iff_eq]

theorem insertRoute_slugByPort (port : UInt16) : (registry.insertRoute route).slugByPort[port]? =
    if route.port = port then some route.slug else registry.slugByPort[port]? := by
  simp only [insertRoute, ExtTreeMap.getElem?_insert, LawfulEqCmp.compare_eq_iff_eq]

theorem insertRoute_slugsBySession (session : UInt64) :
    (registry.insertRoute route).slugsBySession[session]? =
      if route.ownerSession = session then some ((registry.slugsOf session).insert route.slug)
      else registry.slugsBySession[session]? := by
  simp only [insertRoute, slugsOf, ExtTreeMap.getElem?_insert, LawfulEqCmp.compare_eq_iff_eq]
  split
  · rename_i same
    rw [same]
  · rfl

private theorem mem_slugsOf_insertRoute : slug ∈ (registry.insertRoute route).slugsOf session ↔
    (route.ownerSession = session ∧ route.slug = slug) ∨ slug ∈ registry.slugsOf session := by
  rw [slugsOf, insertRoute_slugsBySession]
  by_cases same : route.ownerSession = session
  · simp [same, ExtTreeSet.mem_insert]
  · simp [same, slugsOf]

/-- A well-formed route whose slug and port are free. -/
structure Addable (registry : RouteRegistry) (route : Route) : Prop where
  freeSlug : registry.bySlug[route.slug]? = none
  freePort : registry.slugByPort[route.port]? = none
  valid : ValidSlug route.slug
  loopback : route.target.ip = .localhost
  nonzero : route.port ≠ 0

/-- Adding such a route keeps the three maps in step. -/
theorem WellFormed.insertRoute (wellFormed : registry.WellFormed)
    (addable : registry.Addable route) : (registry.insertRoute route).WellFormed where
  keyed found := by
    rw [insertRoute_bySlug] at found
    split at found
    · cases found
      assumption
    · exact wellFormed.keyed found
  valid found := by
    rw [insertRoute_bySlug] at found
    split at found
    · rename_i same
      cases found
      exact ⟨same ▸ addable.valid, addable.loopback, addable.nonzero⟩
    · exact wellFormed.valid found
  ports port slug := by
    rw [insertRoute_slugByPort, insertRoute_bySlug]
    have indexed := wellFormed.ports port slug
    by_cases samePort : route.port = port <;> by_cases sameSlug : route.slug = slug
    · simp [samePort, sameSlug]
    · have absent : ¬ ∃ other : Route, registry.bySlug[slug]? = some other ∧ other.port = port := by
        rw [← indexed, ← samePort, addable.freePort]
        simp
      simp only [samePort, sameSlug, ↓reduceIte, Option.some.injEq, absent]
    · have absent : registry.slugByPort[port]? ≠ some slug := by
        rw [Ne, indexed, ← sameSlug, addable.freeSlug]
        simp
      simp [samePort, sameSlug, absent]
    · simpa only [samePort, sameSlug, ↓reduceIte] using indexed
  sessions session slug := by
    rw [mem_slugsOf_insertRoute, insertRoute_bySlug, wellFormed.sessions]
    by_cases sameSlug : route.slug = slug
    · have absent := sameSlug ▸ addable.freeSlug
      simp [sameSlug, absent]
    · simp [sameSlug]
  occupied found := by
    rw [insertRoute_slugsBySession] at found
    split at found
    · cases found
      exact ExtTreeSet.insert_ne_empty
    · exact wellFormed.occupied found

/-- Adding a route under a free slug makes it live, and nothing else. -/
theorem live_insertRoute (freeSlug : registry.bySlug[route.slug]? = none) :
    (registry.insertRoute route).Live other ↔ other = route ∨ registry.Live other := by
  rw [Live, Live, insertRoute_bySlug]
  by_cases same : route.slug = other.slug
  · rw [same] at freeSlug
    simp [same, freeSlug, eq_comm]
  · have different : other ≠ route := by
      rintro rfl
      exact same rfl
    simp [same, different]

/-- What `register_with_rng` can do: fail and leave the registry alone, or add
one route whose slug and port were free. -/
theorem registerWithRng_cases {R : Type} [Rng R] (registry : RouteRegistry) (port : UInt16)
    (requested : Option String) (ownerSession : UInt64) (ownerPid : UInt32) (rng : R)
    (stamp : Stamp) :
    (∃ error rest, registry.registerWithRng port requested ownerSession ownerPid rng stamp =
      (.error error, registry, rest)) ∨
    ∃ route rest, registry.registerWithRng port requested ownerSession ownerPid rng stamp =
        (.ok route, registry.insertRoute route, rest) ∧
      registry.Addable route ∧ route.port = port ∧ route.ownerSession = ownerSession := by
  unfold registerWithRng
  by_cases zero : port = 0
  · exact Or.inl ⟨_, _, if_pos zero⟩
  rw [if_neg zero]
  cases active : registry.slugByPort[port]? with
  | some slug => exact Or.inl ⟨_, _, rfl⟩
  | none =>
    cases chosen : registry.chooseSlug requested rng with
    | mk outcome rest =>
      cases outcome with
      | error error => exact Or.inl ⟨_, _, rfl⟩
      | ok slug =>
        refine Or.inr ⟨_, _, rfl, ?_⟩
        have free : registry.bySlug[slug]? = none ∧ ValidSlug slug := by
          unfold chooseSlug at chosen
          cases requested with
          | some requested =>
            dsimp only at chosen
            split at chosen
            · cases chosen
            · rename_i normalized accepted
              split at chosen
              · cases chosen
              · rename_i absent
                cases chosen
                exact ⟨by simpa using absent, (normalizeSlug_eq_ok.mp accepted).2⟩
          | none =>
            have generated := generateUniqueSlug_ok (congrArg Prod.fst chosen)
            exact ⟨ExtTreeMap.getElem?_eq_none_of_contains_eq_false generated.2,
              allSlugs_valid generated.1⟩
        exact ⟨⟨free.1, active, free.2, rfl, zero⟩, rfl, rfl⟩

/-! ### Removal -/

/-- The slug loop forgets exactly the listed slugs, and the ports their routes
held. -/
theorem removeSlugs_bySlug (slugs : List String) (registry : RouteRegistry) (slug : String) :
    (registry.removeSlugs slugs).2.bySlug[slug]? =
      if slug ∈ slugs then none else registry.bySlug[slug]? := by
  induction slugs generalizing registry with
  | nil => simp [removeSlugs]
  | cons head rest ih =>
    unfold removeSlugs
    cases found : registry.bySlug[head]? with
    | none =>
      rw [ih]
      by_cases same : slug = head
      · subst same
        simp [found]
      · simp [same]
    | some route =>
      simp only [ih, ExtTreeMap.getElem?_erase, LawfulEqCmp.compare_eq_iff_eq, List.mem_cons]
      by_cases same : slug = head
      · simp [same]
      · simp [same, Ne.symm same]

private theorem removeSlugs_slugByPort (slugs : List String) (registry : RouteRegistry)
    (port : UInt16)
    (slug : String) : (registry.removeSlugs slugs).2.slugByPort[port]? = some slug ↔
      registry.slugByPort[port]? = some slug ∧
        ¬ ∃ held ∈ slugs, ∃ route : Route, registry.bySlug[held]? = some route ∧
          route.port = port := by
  induction slugs generalizing registry with
  | nil => simp [removeSlugs]
  | cons head rest ih =>
    unfold removeSlugs
    cases found : registry.bySlug[head]? with
    | none =>
      rw [ih]
      simp [found]
    | some route =>
      simp only [ih, ExtTreeMap.getElem?_erase, LawfulEqCmp.compare_eq_iff_eq]
      by_cases samePort : route.port = port
      · simp [samePort, found]
      · simp only [samePort, ↓reduceIte, List.mem_cons, exists_eq_or_imp, found,
          Option.some.injEq, exists_eq_left', false_or]
        refine and_congr_right fun _ => not_congr (exists_congr fun held => and_congr_right fun _ =>
          exists_congr fun other => ?_)
        by_cases sameSlug : head = held
        · subst sameSlug
          simp only [↓reduceIte, reduceCtorEq, false_and, found, Option.some.injEq, false_iff,
            not_and]
          rintro rfl
          exact samePort
        · simp [sameSlug]

private theorem removeSlugs_slugsBySession (slugs : List String) (registry : RouteRegistry) :
    (registry.removeSlugs slugs).2.slugsBySession = registry.slugsBySession := by
  induction slugs generalizing registry with
  | nil => rfl
  | cons head rest ih =>
    unfold removeSlugs
    cases registry.bySlug[head]? with
    | none => exact ih _
    | some route => exact ih _

/-- What the slug loop returns: the routes it removed. -/
theorem mem_removeSlugs (keyed : ∀ (slug : String) (route : Route),
    registry.bySlug[slug]? = some route → route.slug = slug) (slugs : List String) :
    route ∈ (registry.removeSlugs slugs).1 ↔ route.slug ∈ slugs ∧ registry.Live route := by
  induction slugs generalizing registry with
  | nil => simp [removeSlugs]
  | cons head rest ih =>
    unfold removeSlugs
    cases found : registry.bySlug[head]? with
    | none =>
      rw [ih keyed, List.mem_cons, Live]
      by_cases same : route.slug = head
      · simp [same, found]
      · simp [same]
    | some held =>
      have kept : ∀ (slug : String) (route : Route),
          (registry.bySlug.erase head)[slug]? = some route → route.slug = slug := by
        intro slug route present
        simp only [ExtTreeMap.getElem?_erase, LawfulEqCmp.compare_eq_iff_eq] at present
        split at present
        · cases present
        · exact keyed slug route present
      have removedRest := @ih
        { registry with
          bySlug := registry.bySlug.erase head
          slugByPort := registry.slugByPort.erase held.port } kept
      simp only [List.mem_cons, removedRest, Live, ExtTreeMap.getElem?_erase,
        LawfulEqCmp.compare_eq_iff_eq]
      by_cases same : route.slug = head
      · subst same
        simp only [true_or, true_and, ↓reduceIte, reduceCtorEq, and_false, or_false, found,
          Option.some.injEq]
        exact eq_comm
      · have different : route ≠ held := by
          rintro rfl
          exact same (keyed head route found)
        simp [same, Ne.symm same, different]

theorem mem_sortBySlug {routes : List Route} : route ∈ sortBySlug routes ↔ route ∈ routes :=
  (List.perm_insertionSort _ _).mem_iff

/-- The loop's result does not depend on the order in which the set yields its
slugs. -/
theorem removeSlugs_perm {slugs permuted : List String} (same : slugs.Perm permuted)
    (registry : RouteRegistry) :
    (registry.removeSlugs slugs).2 = (registry.removeSlugs permuted).2 := by
  refine RouteRegistry.ext (ExtTreeMap.ext_getElem? fun slug => ?_)
    (ExtTreeMap.ext_getElem? fun port => Option.ext fun slug => ?_) ?_
  · simp only [removeSlugs_bySlug, same.mem_iff]
  · simp only [removeSlugs_slugByPort, same.mem_iff]
  · rw [removeSlugs_slugsBySession, removeSlugs_slugsBySession]

/-- `remove_session` keeps exactly the routes of the other sessions. -/
theorem removeSession_bySlug (wellFormed : registry.WellFormed) (session : UInt64)
    (slug : String) : (registry.removeSession session).2.bySlug[slug]? =
      registry.bySlug[slug]?.filter (fun route => route.ownerSession ≠ session) := by
  have owned := wellFormed.sessions session slug
  rw [slugsOf] at owned
  unfold removeSession
  cases indexed : registry.slugsBySession[session]? with
  | none =>
    rw [indexed] at owned
    cases found : registry.bySlug[slug]? with
    | none => rfl
    | some route =>
      have other : route.ownerSession ≠ session := by simpa [found] using owned
      simp [Option.filter_some, other]
  | some slugs =>
    rw [indexed, Option.getD_some] at owned
    simp only [removeSlugs_bySlug, ExtTreeSet.mem_toList, owned]
    cases found : registry.bySlug[slug]? with
    | none => simp
    | some route =>
      by_cases same : route.ownerSession = session <;> simp [Option.filter_some, same]

theorem live_removeSession (wellFormed : registry.WellFormed) :
    (registry.removeSession session).2.Live route ↔
      registry.Live route ∧ route.ownerSession ≠ session := by
  rw [Live, removeSession_bySlug wellFormed, Option.filter_eq_some_iff]
  simp [Live]

theorem removeSession_slugByPort (wellFormed : registry.WellFormed) (session : UInt64)
    (port : UInt16) (slug : String) :
    (registry.removeSession session).2.slugByPort[port]? = some slug ↔
      ∃ route : Route, registry.bySlug[slug]? = some route ∧ route.port = port ∧
        route.ownerSession ≠ session := by
  have owned := wellFormed.sessions session
  have indexed := wellFormed.ports port
  unfold removeSession
  cases found : registry.slugsBySession[session]? with
  | none =>
    simp only [slugsOf, found, Option.getD_none, ExtTreeSet.not_mem_empty, false_iff,
      not_exists, not_and] at owned
    rw [indexed]
    exact exists_congr fun route => and_congr_right fun present =>
      (and_iff_left (owned slug route present)).symm
  | some slugs =>
    simp only [slugsOf, found, Option.getD_some] at owned
    simp only [removeSlugs_slugByPort, ExtTreeSet.mem_toList, owned, indexed]
    constructor
    · rintro ⟨⟨route, present, samePort⟩, kept⟩
      exact ⟨route, present, samePort, fun same =>
        kept ⟨slug, ⟨route, present, same⟩, route, present, samePort⟩⟩
    · rintro ⟨route, present, samePort, other⟩
      refine ⟨⟨route, present, samePort⟩, ?_⟩
      rintro ⟨held, ⟨owner, ownerPresent, same⟩, taken, takenPresent, takenPort⟩
      have heldSlug := (indexed held).mpr ⟨taken, takenPresent, takenPort⟩
      rw [(indexed slug).mpr ⟨route, present, samePort⟩] at heldSlug
      cases heldSlug
      rw [present] at ownerPresent
      cases ownerPresent
      exact other same

theorem removeSession_slugsBySession (session other : UInt64) :
    (registry.removeSession session).2.slugsBySession[other]? =
      if session = other then none else registry.slugsBySession[other]? := by
  unfold removeSession
  cases found : registry.slugsBySession[session]? with
  | none =>
    by_cases same : session = other
    · subst same
      simp only [found, ↓reduceIte]
    · simp [same]
  | some slugs =>
    simp only [removeSlugs_slugsBySession, ExtTreeMap.getElem?_erase, LawfulEqCmp.compare_eq_iff_eq]

/-- Removing a session keeps the three maps in step. -/
theorem WellFormed.removeSession (wellFormed : registry.WellFormed) (session : UInt64) :
    (registry.removeSession session).2.WellFormed where
  keyed found := by
    rw [removeSession_bySlug wellFormed, Option.filter_eq_some_iff] at found
    exact wellFormed.keyed found.1
  valid found := by
    rw [removeSession_bySlug wellFormed, Option.filter_eq_some_iff] at found
    exact wellFormed.valid found.1
  ports port slug := by
    simp only [removeSession_slugByPort wellFormed, removeSession_bySlug wellFormed,
      Option.filter_eq_some_iff, decide_eq_true_eq]
    exact exists_congr fun route => by tauto
  sessions owner slug := by
    rw [slugsOf, removeSession_slugsBySession]
    simp only [removeSession_bySlug wellFormed, Option.filter_eq_some_iff, decide_eq_true_eq]
    by_cases same : session = owner
    · subst same
      simp
    · simp only [same, ↓reduceIte]
      rw [← slugsOf, wellFormed.sessions]
      refine exists_congr fun route => ⟨?_, ?_⟩
      · rintro ⟨present, rfl⟩
        exact ⟨⟨present, Ne.symm same⟩, rfl⟩
      · rintro ⟨⟨present, _⟩, rfl⟩
        exact ⟨present, rfl⟩
  occupied found := by
    rw [removeSession_slugsBySession] at found
    split at found
    · cases found
    · exact wellFormed.occupied found

private theorem forgetSlug_getElem? (sessions : ExtTreeMap UInt64 (ExtTreeSet String))
    (session other : UInt64) (slug : String) :
    (forgetSlug sessions session slug)[other]? =
      if session = other then
        (sessions[session]?.map (ExtTreeSet.erase · slug)).filter fun slugs => !slugs.isEmpty
      else sessions[other]? := by
  unfold forgetSlug
  cases found : sessions[session]? with
  | none =>
    by_cases same : session = other
    · subst same
      simp only [found, ↓reduceIte, Option.map_none, Option.filter_none]
    · simp [same]
  | some slugs =>
    simp only [Option.map_some, Option.filter_some]
    cases empty : (slugs.erase slug).isEmpty with
    | true =>
      simp only [↓reduceIte, ExtTreeMap.getElem?_erase, LawfulEqCmp.compare_eq_iff_eq,
        Bool.not_true, Bool.false_eq_true]
    | false =>
      simp only [Bool.false_eq_true, ↓reduceIte, ExtTreeMap.getElem?_insert,
        LawfulEqCmp.compare_eq_iff_eq, Bool.not_false]

private theorem mem_forgetSlug (sessions : ExtTreeMap UInt64 (ExtTreeSet String))
    (session other : UInt64) (slug held : String) :
    held ∈ (forgetSlug sessions session slug)[other]?.getD ∅ ↔
      held ∈ sessions[other]?.getD ∅ ∧ ¬ (session = other ∧ slug = held) := by
  rw [forgetSlug_getElem?]
  by_cases same : session = other
  · subst same
    cases sessions[session]? with
    | none => simp
    | some slugs =>
      have erased : held ∈ slugs.erase slug ↔ held ∈ slugs ∧ slug ≠ held := by
        rw [ExtTreeSet.mem_erase, Ne, Ne, LawfulEqCmp.compare_eq_iff_eq, and_comm]
      simp only [↓reduceIte, Option.map_some, Option.filter_some, Option.getD_some, true_and]
      rw [← Ne, ← erased]
      cases empty : (slugs.erase slug).isEmpty with
      | true => simp [ExtTreeSet.isEmpty_iff.mp empty]
      | false => simp
  · simp [same]

/-- Removing a slug keeps the three maps in step. -/
theorem WellFormed.removeSlug (wellFormed : registry.WellFormed) (slug : String) :
    (registry.removeSlug slug).2.WellFormed := by
  unfold RouteRegistry.removeSlug
  cases found : registry.bySlug[slug]? with
  | none => exact wellFormed
  | some removed =>
    have lookup : ∀ other : String, (registry.bySlug.erase slug)[other]? =
        if slug = other then none else registry.bySlug[other]? := by
      intro other
      simp only [ExtTreeMap.getElem?_erase, LawfulEqCmp.compare_eq_iff_eq]
    constructor
    · intro other route present
      rw [lookup] at present
      split at present
      · cases present
      · exact wellFormed.keyed present
    · intro other route present
      rw [lookup] at present
      split at present
      · cases present
      · exact wellFormed.valid present
    · intro port other
      simp only [lookup, ExtTreeMap.getElem?_erase, LawfulEqCmp.compare_eq_iff_eq]
      have ports := wellFormed.ports port
      by_cases samePort : removed.port = port
      · have held := (ports slug).mpr ⟨removed, found, samePort⟩
        simp only [samePort, ↓reduceIte, reduceCtorEq, false_iff, not_exists, not_and]
        intro route present routePort
        split at present
        · cases present
        · rename_i different
          rw [(ports other).mpr ⟨route, present, routePort⟩] at held
          cases held
          exact different rfl
      · rw [if_neg samePort, ports other]
        by_cases sameSlug : slug = other
        · subst sameSlug
          simp [found, samePort]
        · simp [sameSlug]
    · intro session other
      have sessions := wellFormed.sessions session other
      rw [slugsOf] at sessions
      simp only [slugsOf, mem_forgetSlug, sessions, lookup]
      by_cases sameSlug : slug = other
      · subst sameSlug
        simp [found]
      · simp [sameSlug]
    · intro session slugs present
      simp only [forgetSlug_getElem?] at present
      split at present
      · have nonempty := (Option.filter_eq_some_iff.mp present).2
        rintro rfl
        simp at nonempty
      · exact wellFormed.occupied present

/-! ### Listing -/

theorem mem_routes (wellFormed : registry.WellFormed) :
    route ∈ registry.routes ↔ registry.Live route := by
  simp only [routes, List.mem_map, Prod.exists, ExtTreeMap.mem_toList_iff_getElem?_eq_some,
    exists_eq_right]
  exact ⟨fun ⟨_, found⟩ => wellFormed.live found, fun live => ⟨_, live⟩⟩

/-- Different entries of `by_slug` are routes with different slugs. -/
theorem routes_distinct (wellFormed : registry.WellFormed) :
    registry.routes.Pairwise fun left right => left.slug ≠ right.slug := by
  rw [routes, List.pairwise_map]
  refine ExtTreeMap.distinct_keys_toList.imp_of_mem fun left right different => ?_
  rw [ExtTreeMap.mem_toList_iff_getElem?_eq_some] at left right
  rw [wellFormed.keyed left, wellFormed.keyed right]
  simpa [LawfulEqCmp.compare_eq_iff_eq] using different

theorem mem_list (wellFormed : registry.WellFormed) (baseDomain : String) (view : RouteView) :
    view ∈ registry.list baseDomain ↔
      ∃ route, registry.Live route ∧ route.view baseDomain = view := by
  simp only [list, (List.perm_insertionSort _ _).mem_iff, List.mem_map, mem_routes wellFormed]

/-- The list is strictly sorted by slug, so no route is listed twice. -/
theorem list_sorted (wellFormed : registry.WellFormed) (baseDomain : String) :
    (registry.list baseDomain).Pairwise fun left right => left.slug < right.slug := by
  have ordered : (registry.list baseDomain).Pairwise fun left right => left.slug ≤ right.slug :=
    List.pairwise_insertionSort _ _
  have distinct : (registry.list baseDomain).Pairwise fun left right => left.slug ≠ right.slug := by
    refine (List.perm_insertionSort _ _).symm.pairwise ?_ fun different => Ne.symm different
    exact List.pairwise_map.mpr (routes_distinct wellFormed)
  exact ordered.imp₂ (fun _ _ le ne => le.lt_of_ne ne) distinct

/-! ### Reachable registries -/

/-- One call of a public operation, with everything it is given. -/
inductive Operation (R : Type) where
  | register (port : UInt16) (requested : Option String) (ownerSession : UInt64)
      (ownerPid : UInt32) (rng : R) (stamp : Stamp)
  | removeSession (session : UInt64)
  | clear
  | removeSlug (slug : String)
  | removeOwnedSlug (session : UInt64) (slug : String)

/-- The registry after one call. -/
def apply {R : Type} [Rng R] (registry : RouteRegistry) : Operation R → RouteRegistry
  | .register port requested ownerSession ownerPid rng stamp =>
    (registry.registerWithRng port requested ownerSession ownerPid rng stamp).2.1
  | .removeSession session => (registry.removeSession session).2
  | .clear => registry.clear.2
  | .removeSlug slug => (registry.removeSlug slug).2
  | .removeOwnedSlug session slug => (registry.removeOwnedSlug session slug).2

theorem WellFormed.registerWithRng {R : Type} [Rng R] (wellFormed : registry.WellFormed)
    (port : UInt16) (requested : Option String) (ownerSession : UInt64) (ownerPid : UInt32)
    (rng : R) (stamp : Stamp) :
    (registry.registerWithRng port requested ownerSession ownerPid rng stamp).2.1.WellFormed := by
  rcases registerWithRng_cases registry port requested ownerSession ownerPid rng stamp with
    ⟨error, rest, failed⟩ | ⟨route, rest, registered, addable, _⟩
  · rw [failed]
    exact wellFormed
  · rw [registered]
    exact wellFormed.insertRoute addable

/-- Every operation keeps the three maps in step. -/
theorem WellFormed.apply {R : Type} [Rng R] (wellFormed : registry.WellFormed)
    (operation : Operation R) : (registry.apply operation).WellFormed := by
  cases operation with
  | register port requested ownerSession ownerPid rng stamp =>
    exact wellFormed.registerWithRng port requested ownerSession ownerPid rng stamp
  | removeSession session => exact wellFormed.removeSession session
  | clear => exact wellFormed_new
  | removeSlug slug => exact wellFormed.removeSlug slug
  | removeOwnedSlug session slug =>
    simp only [RouteRegistry.apply, RouteRegistry.removeOwnedSlug]
    split
    · exact wellFormed
    · split
      · exact wellFormed
      · exact wellFormed.removeSlug slug

/-- The registry after a sequence of calls on a new one. -/
def reached {R : Type} [Rng R] (operations : List (Operation R)) : RouteRegistry :=
  operations.foldl RouteRegistry.apply new

theorem wellFormed_reached {R : Type} [Rng R] (operations : List (Operation R)) :
    (reached operations).WellFormed := by
  have folded : ∀ (operations : List (Operation R)) (registry : RouteRegistry),
      registry.WellFormed → (operations.foldl RouteRegistry.apply registry).WellFormed := by
    intro operations
    induction operations with
    | nil => exact fun _ wellFormed => wellFormed
    | cons operation rest ih => exact fun registry wellFormed => ih _ (wellFormed.apply operation)
  exact folded operations new wellFormed_new

/-- Two live routes on one port are one route. -/
theorem live_port_unique (wellFormed : registry.WellFormed) (live : registry.Live route)
    (otherLive : registry.Live other) (same : route.port = other.port) : route = other := by
  have first := (wellFormed.ports other.port route.slug).mpr ⟨route, live, same⟩
  rw [(wellFormed.ports other.port other.slug).mpr ⟨other, otherLive, rfl⟩] at first
  rw [Live, ← Option.some.inj first, otherLive] at live
  exact (Option.some.inj live).symm

/-- What a selector resolves to is live. -/
theorem live_of_resolve (wellFormed : registry.WellFormed) {selector : StopSelector}
    (found : registry.resolve selector = some route) : registry.Live route := by
  cases selector with
  | slug slug => exact wellFormed.live found
  | port port =>
    obtain ⟨slug, _, present⟩ := Option.bind_eq_some_iff.mp found
    exact wellFormed.live present

/-- A live route is found under its slug and under its port. -/
theorem resolve_live (wellFormed : registry.WellFormed) (live : registry.Live route) :
    registry.resolve (.slug route.slug) = some route ∧
      registry.resolve (.port route.port) = some route := by
  refine ⟨live, ?_⟩
  rw [resolve, routeForPort, (wellFormed.ports route.port route.slug).mpr ⟨route, live, rfl⟩]
  exact live

/-- **The three indexes of every reachable registry describe one set of
routes.** No two live routes share a port, a live route is found by either of
its names, and listing yields each live route once, in slug order. -/
theorem reached_registry_consistent {R : Type} [Rng R] (operations : List (Operation R)) :
    let registry := reached operations
    (∀ (slug : String) (route : Route), registry.bySlug[slug]? = some route →
      route.slug = slug ∧ ValidSlug slug ∧ route.target.ip = .localhost ∧ route.port ≠ 0) ∧
    (∀ (port : UInt16) (slug : String), registry.slugByPort[port]? = some slug ↔
      ∃ route : Route, registry.bySlug[slug]? = some route ∧ route.port = port) ∧
    (∀ (session : UInt64) (slug : String),
      (∃ slugs : ExtTreeSet String, registry.slugsBySession[session]? = some slugs ∧
        slug ∈ slugs) ↔
      ∃ route : Route, registry.bySlug[slug]? = some route ∧ route.ownerSession = session) ∧
    (∀ (session : UInt64) (slugs : ExtTreeSet String),
      registry.slugsBySession[session]? = some slugs → slugs ≠ ∅) ∧
    (∀ route other, registry.Live route → registry.Live other → route.port = other.port →
      route = other) ∧
    (∀ route, registry.Live route → registry.resolve (.slug route.slug) = some route ∧
      registry.resolve (.port route.port) = some route) ∧
    (∀ baseDomain, (∀ view, view ∈ registry.list baseDomain ↔
        ∃ route, registry.Live route ∧ route.view baseDomain = view) ∧
      (registry.list baseDomain).Pairwise fun left right => left.slug < right.slug) := by
  intro registry
  have wellFormed : registry.WellFormed := wellFormed_reached operations
  refine ⟨fun slug route found => ⟨wellFormed.keyed found, wellFormed.valid found⟩,
    wellFormed.ports, fun session slug => ?_, fun _ _ found => wellFormed.occupied found,
    fun _ _ live otherLive same => live_port_unique wellFormed live otherLive same,
    fun _ live => resolve_live wellFormed live,
    fun baseDomain => ⟨mem_list wellFormed baseDomain, list_sorted wellFormed baseDomain⟩⟩
  rw [← wellFormed.sessions session slug, slugsOf]
  cases registry.slugsBySession[session]? <;> simp

end RouteRegistry
end CfFw
