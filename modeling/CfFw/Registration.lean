import CfFw.RegistryInvariant
import CfFw.SlugGeneration

/-! Registration in every reachable registry: which error comes first, that an
error changes nothing, and that success adds one route and touches no other
answer. -/
namespace CfFw
open Std Text
namespace RouteRegistry

variable {registry after : RouteRegistry} {route : Route}

/-- Why `register_with_rng` refuses, in the order it checks: each reason holds
only where none of the earlier ones does. -/
inductive Refusal (registry : RouteRegistry) (port : UInt16) (requested : Option String) :
    FwError → Prop where
  | zeroPort (zero : port = 0) : Refusal registry port requested (.invalidPort "0")
  | heldPort {holder : Route} (nonzero : port ≠ 0) (live : registry.Live holder)
      (held : holder.port = port) :
      Refusal registry port requested (.duplicatePort port holder.slug)
  | invalidSlug {input reason : String} (nonzero : port ≠ 0)
      (freePort : ∀ other, registry.Live other → other.port ≠ port)
      (asked : requested = some input)
      (invalid : validateNormalizedSlug (toAsciiLowercase input) = .error reason) :
      Refusal registry port requested (.invalidSlug input reason)
  | activeSlug {input : String} {active : Route} (nonzero : port ≠ 0)
      (freePort : ∀ other, registry.Live other → other.port ≠ port)
      (asked : requested = some input) (valid : ValidSlug (toAsciiLowercase input))
      (live : registry.Live active) (same : active.slug = toAsciiLowercase input) :
      Refusal registry port requested (.duplicateSlug active.slug)
  | exhausted (nonzero : port ≠ 0)
      (freePort : ∀ other, registry.Live other → other.port ≠ port)
      (unnamed : requested = none)
      (full : ∀ adjective ∈ adjectives, ∀ noun ∈ nouns,
        ∃ active, registry.Live active ∧ active.slug = joinWords adjective noun) :
      Refusal registry port requested
        (.other "all generated slug combinations are already active")

/-- One registry has exactly one route more than another, in all three indexes
and in every lookup. -/
structure Added (registry after : RouteRegistry) (route : Route) : Prop where
  bySlug (slug : String) : after.bySlug[slug]? =
    if route.slug = slug then some route else registry.bySlug[slug]?
  slugByPort (port : UInt16) : after.slugByPort[port]? =
    if route.port = port then some route.slug else registry.slugByPort[port]?
  slugsBySession (session : UInt64) : after.slugsBySession[session]? =
    if route.ownerSession = session then some ((registry.slugsOf session).insert route.slug)
    else registry.slugsBySession[session]?
  found : after.resolve (.slug route.slug) = some route ∧
    after.resolve (.port route.port) = some route
  others (selector : StopSelector) (otherSlug : selector ≠ .slug route.slug)
    (otherPort : selector ≠ .port route.port) : after.resolve selector = registry.resolve selector

/-- No route holds a port that the port index does not know. -/
theorem WellFormed.port_free (wellFormed : registry.WellFormed) {port : UInt16}
    (free : registry.slugByPort[port]? = none) (live : registry.Live route) : route.port ≠ port := by
  intro held
  have indexed := (wellFormed.ports port route.slug).mpr ⟨route, live, held⟩
  rw [free] at indexed
  cases indexed

theorem WellFormed.port_held (wellFormed : registry.WellFormed) {port : UInt16} {slug : String}
    (active : registry.slugByPort[port]? = some slug) :
    ∃ holder, registry.Live holder ∧ holder.port = port ∧ holder.slug = slug := by
  obtain ⟨holder, found, held⟩ := (wellFormed.ports port slug).mp active
  exact ⟨holder, wellFormed.live found, held, wellFormed.keyed found⟩

theorem WellFormed.contains_iff (wellFormed : registry.WellFormed) {slug : String} :
    registry.bySlug.contains slug = true ↔ ∃ route, registry.Live route ∧ route.slug = slug := by
  rw [ExtTreeMap.contains_eq_isSome_getElem?, Option.isSome_iff_exists]
  constructor
  · rintro ⟨route, found⟩
    exact ⟨route, wellFormed.live found, wellFormed.keyed found⟩
  · rintro ⟨route, live, rfl⟩
    exact ⟨route, live⟩

/-- Adding a route with a free slug and a free port adds nothing else. -/
theorem WellFormed.added_insertRoute (wellFormed : registry.WellFormed)
    (addable : registry.Addable route) : Added registry (registry.insertRoute route) route where
  bySlug := insertRoute_bySlug
  slugByPort := insertRoute_slugByPort
  slugsBySession := insertRoute_slugsBySession
  found := by
    refine resolve_live (wellFormed.insertRoute addable) ?_
    rw [Live, insertRoute_bySlug, if_pos rfl]
  others selector otherSlug otherPort := by
    cases selector with
    | slug slug =>
      have different : route.slug ≠ slug := fun same => otherSlug (same ▸ rfl)
      simp only [resolve, routeForSlug, insertRoute_bySlug, different, ↓reduceIte]
    | port port =>
      have different : route.port ≠ port := fun same => otherPort (same ▸ rfl)
      simp only [resolve, routeForPort, insertRoute_slugByPort, different, ↓reduceIte]
      cases indexed : registry.slugByPort[port]? with
      | none => rfl
      | some slug =>
        -- The port index names a slug that is taken, so not the new one.
        obtain ⟨holder, found, _⟩ := (wellFormed.ports port slug).mp indexed
        have taken : route.slug ≠ slug := by
          rintro rfl
          rw [addable.freeSlug] at found
          cases found
        simp only [Option.bind_some, insertRoute_bySlug, taken, ↓reduceIte]

section

variable {R : Type} [Rng R] {port : UInt16} {requested : Option String} {rng : R}

/-- Once the port is free, the slug decides whether `register_with_rng` fails. -/
theorem WellFormed.chooseSlug_error (wellFormed : registry.WellFormed) (nonzero : port ≠ 0)
    (freePort : ∀ other, registry.Live other → other.port ≠ port) (rng : R) (error : FwError) :
    (registry.chooseSlug requested rng).1 = .error error ↔
      registry.Refusal port requested error := by
  constructor
  · intro failed
    unfold chooseSlug at failed
    cases requested with
    | none =>
      obtain ⟨full, rfl⟩ := generateUniqueSlug_error.mp failed
      refine .exhausted nonzero freePort rfl fun adjective first noun second => ?_
      exact wellFormed.contains_iff.mp
        (full _ (mem_allSlugs.mpr ⟨adjective, first, noun, second, rfl⟩))
    | some input =>
      simp only [normalizeSlug] at failed
      cases outcome : validateNormalizedSlug (toAsciiLowercase input) with
      | error reason =>
        simp only [outcome, Except.error.injEq] at failed
        subst failed
        exact .invalidSlug nonzero freePort rfl outcome
      | ok _ =>
        simp only [outcome] at failed
        cases active : registry.bySlug.contains (toAsciiLowercase input) with
        | false => simp [active] at failed
        | true =>
          obtain ⟨holder, live, same⟩ := wellFormed.contains_iff.mp active
          simp only [active, ↓reduceIte, Except.error.injEq] at failed
          rw [← same] at failed
          subst failed
          exact .activeSlug nonzero freePort rfl outcome live same
  · intro refused
    cases refused with
    | zeroPort zero => exact absurd zero nonzero
    | heldPort _ live held => exact absurd held (freePort _ live)
    | invalidSlug _ _ asked invalid =>
      subst asked
      simp only [chooseSlug, normalizeSlug, invalid]
    | activeSlug _ _ asked valid live same =>
      subst asked
      have active := wellFormed.contains_iff.mpr ⟨_, live, same⟩
      rw [same]
      simp only [chooseSlug, normalizeSlug_eq_ok.mpr ⟨rfl, valid⟩, active, ↓reduceIte]
    | exhausted _ _ unnamed full =>
      subst unnamed
      refine generateUniqueSlug_error.mpr ⟨fun slug listed => ?_, rfl⟩
      obtain ⟨adjective, first, noun, second, rfl⟩ := mem_allSlugs.mp listed
      exact wellFormed.contains_iff.mpr (full adjective first noun second)

/-- `register_with_rng` fails with exactly the first reason there is. -/
theorem WellFormed.registerWithRng_error (wellFormed : registry.WellFormed)
    (ownerSession : UInt64) (ownerPid : UInt32) (stamp : Stamp) (error : FwError) :
    (registry.registerWithRng port requested ownerSession ownerPid rng stamp).1 = .error error ↔
      registry.Refusal port requested error := by
  by_cases zero : port = 0
  · subst zero
    simp only [RouteRegistry.registerWithRng, ↓reduceIte, Except.error.injEq]
    constructor
    · rintro rfl
      exact .zeroPort rfl
    · intro refused
      cases refused with
      | zeroPort _ => rfl
      | heldPort nonzero | invalidSlug nonzero | activeSlug nonzero | exhausted nonzero =>
        exact absurd rfl nonzero
  · rw [RouteRegistry.registerWithRng, if_neg zero]
    cases active : registry.slugByPort[port]? with
    | some slug =>
      obtain ⟨holder, live, held, rfl⟩ := wellFormed.port_held active
      simp only [Except.error.injEq]
      constructor
      · rintro rfl
        exact .heldPort zero live held
      · intro refused
        cases refused with
        | zeroPort none => exact absurd none zero
        | heldPort _ otherLive otherHeld =>
          rw [live_port_unique wellFormed live otherLive (held.trans otherHeld.symm)]
        | invalidSlug _ freePort | activeSlug _ freePort | exhausted _ freePort =>
          exact absurd held (freePort _ live)
    | none =>
      have freePort : ∀ other, registry.Live other → other.port ≠ port :=
        fun other live => wellFormed.port_free active live
      rw [← wellFormed.chooseSlug_error zero freePort rng]
      cases chosen : registry.chooseSlug requested rng with
      | mk outcome rest =>
        cases outcome with
        | error reason => simp only [Except.error.injEq]
        | ok slug => simp only [reduceCtorEq]

/-- The slug `register_with_rng` settles on is the requested one, lowercased, or
one of the combinations. -/
theorem chooseSlug_ok {slug : String} (chosen : (registry.chooseSlug requested rng).1 = .ok slug) :
    (∀ input, requested = some input → slug = toAsciiLowercase input) ∧
      (requested = none → slug ∈ allSlugs) := by
  cases requested with
  | none => exact ⟨nofun, fun _ => (generateUniqueSlug_ok chosen).1⟩
  | some input =>
    refine ⟨fun _ asked => ?_, nofun⟩
    cases asked
    unfold chooseSlug at chosen
    cases normalized : normalizeSlug input with
    | error reason => simp [normalized] at chosen
    | ok lowered =>
      simp only [normalized] at chosen
      split at chosen
      · cases chosen
      · obtain rfl := Except.ok.inj chosen
        exact (normalizeSlug_eq_ok.mp normalized).1

/-- The route `register_with_rng` returns is the one it was asked for. -/
theorem registerWithRng_ok {ownerSession : UInt64} {ownerPid : UInt32} {stamp : Stamp}
    (registered :
      (registry.registerWithRng port requested ownerSession ownerPid rng stamp).1 = .ok route) :
    registry.Addable route ∧
      (registry.registerWithRng port requested ownerSession ownerPid rng stamp).2.1 =
        registry.insertRoute route ∧
      route = ⟨route.slug, ⟨.localhost, port⟩, ownerSession, ownerPid, stamp.createdAt,
        stamp.metrics⟩ ∧
      (∀ input, requested = some input → route.slug = toAsciiLowercase input) ∧
      (requested = none → route.slug ∈ allSlugs) := by
  rcases registerWithRng_cases registry port requested ownerSession ownerPid rng stamp with
    ⟨error, rest, failed⟩ | ⟨added, rest, outcome, addable, _⟩
  · rw [failed] at registered
    cases registered
  · obtain rfl : added = route := by
      rw [outcome] at registered
      exact Except.ok.inj registered
    refine ⟨addable, congrArg (fun result => result.2.1) outcome, ?_⟩
    unfold registerWithRng at registered
    split at registered
    · cases registered
    · split at registered
      · cases registered
      · split at registered
        · cases registered
        · rename_i slug _ chosen
          cases registered
          exact ⟨rfl, chooseSlug_ok (congrArg Prod.fst chosen)⟩

/-- **Registration is exact and atomic.** In every reachable registry it fails
with the first reason there is, and only then; a failure leaves all three
indexes alone; a success adds one route under a slug that was free and valid,
and no lookup by another slug, port or session answers differently. -/
theorem registration_exact {S : Type} [Rng S] (operations : List (Operation S)) (port : UInt16)
    (requested : Option String) (ownerSession : UInt64) (ownerPid : UInt32) (rng : R)
    (stamp : Stamp) :
    let registry := reached operations
    let outcome := registry.registerWithRng port requested ownerSession ownerPid rng stamp
    (∀ error, outcome.1 = .error error ↔ registry.Refusal port requested error) ∧
    (∀ error, outcome.1 = .error error → outcome.2.1 = registry) ∧
    (∀ route, outcome.1 = .ok route →
      (∀ other, registry.Live other → other.slug ≠ route.slug) ∧ ValidSlug route.slug ∧
      (∀ input, requested = some input → route.slug = toAsciiLowercase input) ∧
      (requested = none → route.slug ∈ allSlugs) ∧
      route = ⟨route.slug, ⟨.localhost, port⟩, ownerSession, ownerPid, stamp.createdAt,
        stamp.metrics⟩ ∧
      registry.Added outcome.2.1 route) := by
  intro registry outcome
  have wellFormed : registry.WellFormed := wellFormed_reached operations
  refine ⟨wellFormed.registerWithRng_error ownerSession ownerPid stamp, ?_, ?_⟩
  · intro error failed
    rcases registerWithRng_cases registry port requested ownerSession ownerPid rng stamp with
      ⟨_, rest, unchanged⟩ | ⟨route, rest, registered, _⟩
    · exact congrArg (fun result => result.2.1) unchanged
    · rw [show outcome.1 = .ok route from congrArg Prod.fst registered] at failed
      cases failed
  · intro route registered
    obtain ⟨addable, after, fields, named, generated⟩ := registerWithRng_ok registered
    refine ⟨fun other live same => ?_, addable.valid, named, generated, fields, ?_⟩
    · have free := addable.freeSlug
      rw [← same, show registry.bySlug[other.slug]? = some other from live] at free
      cases free
    · rw [show outcome.2.1 = registry.insertRoute route from after]
      exact wellFormed.added_insertRoute addable

end

end RouteRegistry
end CfFw
