import CfFw.PublicHost
import CfFw.Registration
import Mathlib.Data.List.Perm.Subperm

/-! How many routes with generated slugs fit into a registry: as many as there
are combinations of the word lists, whatever the random source draws. The slugs
are also those the proxy accepts. -/
namespace CfFw
open Std Text

namespace RouteRegistry

variable {registry : RouteRegistry} {route : Route}

/-- The live routes whose slug is a combination of the word lists. -/
def generatedRoutes (registry : RouteRegistry) : List Route :=
  registry.routes.filter fun route => decide (route.slug ∈ allSlugs)

private theorem mem_generatedRoutes (wellFormed : registry.WellFormed) :
    route ∈ registry.generatedRoutes ↔ registry.Live route ∧ route.slug ∈ allSlugs := by
  simp only [generatedRoutes, List.mem_filter, mem_routes wellFormed, decide_eq_true_eq]

private theorem generatedRoutes_slugs_nodup (wellFormed : registry.WellFormed) :
    (registry.generatedRoutes.map Route.slug).Nodup :=
  List.pairwise_map.mpr ((routes_distinct wellFormed).filter _)

/-- There are never more such routes than combinations. -/
theorem generatedRoutes_length_le (wellFormed : registry.WellFormed) :
    registry.generatedRoutes.length ≤ adjectives.length * nouns.length := by
  have included : registry.generatedRoutes.map Route.slug ⊆ allSlugs := by
    intro slug member
    obtain ⟨route, listed, rfl⟩ := List.mem_map.mp member
    exact ((mem_generatedRoutes wellFormed).mp listed).2
  have bounded := (List.subperm_of_subset (generatedRoutes_slugs_nodup wellFormed) included).length_le
  rwa [List.length_map, allSlugs_length] at bounded

/-- Every combination is active exactly when the routes are as many. -/
theorem generatedRoutes_full_iff (wellFormed : registry.WellFormed) :
    (∀ slug ∈ allSlugs, registry.bySlug.contains slug = true) ↔
      registry.generatedRoutes.length = adjectives.length * nouns.length := by
  have slugs : ∀ slug, slug ∈ registry.generatedRoutes.map Route.slug ↔
      slug ∈ allSlugs ∧ registry.bySlug.contains slug = true := by
    intro slug
    simp only [List.mem_map, mem_generatedRoutes wellFormed, ExtTreeMap.contains_eq_isSome_getElem?,
      Option.isSome_iff_exists]
    constructor
    · rintro ⟨route, ⟨live, listed⟩, rfl⟩
      exact ⟨listed, route, live⟩
    · rintro ⟨listed, route, found⟩
      obtain rfl := wellFormed.keyed found
      exact ⟨route, ⟨found, listed⟩, rfl⟩
  have nodup := generatedRoutes_slugs_nodup wellFormed
  rw [← allSlugs_length, ← List.length_map Route.slug]
  constructor
  · intro full
    exact (List.perm_ext_iff_of_nodup nodup allSlugs_nodup).mpr
      (fun slug => (slugs slug).trans (and_iff_left_of_imp (full slug))) |>.length_eq
  · intro same slug listed
    have included : registry.generatedRoutes.map Route.slug ⊆ allSlugs :=
      fun other member => ((slugs other).mp member).1
    have permuted := (List.subperm_of_subset nodup included).perm_of_length_le same.ge
    exact ((slugs slug).mp (permuted.mem_iff.mpr listed)).2

variable {R : Type} [Rng R]

/-- Adding a route under a free slug adds it to the values of `by_slug`. -/
theorem routes_insertRoute (wellFormed : registry.WellFormed)
    (addable : registry.Addable route) :
    (registry.insertRoute route).routes.Perm (route :: registry.routes) := by
  have nodup : ∀ {registry : RouteRegistry}, registry.WellFormed → registry.routes.Nodup := by
    intro registry wellFormed
    refine (routes_distinct wellFormed).imp fun different => ?_
    rintro rfl
    exact different rfl
  have inserted := wellFormed.insertRoute addable
  refine (List.perm_ext_iff_of_nodup (nodup inserted) (List.nodup_cons.mpr ⟨?_, nodup wellFormed⟩)).mpr
    fun other => ?_
  · rw [mem_routes wellFormed, Live, addable.freeSlug]
    simp
  · rw [mem_routes inserted, live_insertRoute addable.freeSlug, List.mem_cons, mem_routes wellFormed]

/-- A free port gets a generated slug exactly when there is room. -/
theorem generated_registration_iff (wellFormed : registry.WellFormed) {port : UInt16}
    (nonzero : port ≠ 0) (freePort : ∀ other, registry.Live other → other.port ≠ port)
    (ownerSession : UInt64) (ownerPid : UInt32) (rng : R) (stamp : Stamp) :
    (∃ route, (registry.registerWithRng port none ownerSession ownerPid rng stamp).1 = .ok route) ↔
      registry.generatedRoutes.length < adjectives.length * nouns.length := by
  have full := generatedRoutes_full_iff wellFormed
  have bounded := generatedRoutes_length_le wellFormed
  have refusal : ∀ error, registry.Refusal port none error →
      ∀ slug ∈ allSlugs, registry.bySlug.contains slug = true := by
    intro error refused
    have failed := (wellFormed.chooseSlug_error nonzero freePort rng error).mpr refused
    exact (generateUniqueSlug_error.mp failed).1
  cases outcome : (registry.registerWithRng port none ownerSession ownerPid rng stamp).1 with
  | error error =>
    have refused := (wellFormed.registerWithRng_error ownerSession ownerPid stamp error).mp outcome
    have same := full.mp (refusal error refused)
    simp [same]
  | ok route =>
    refine iff_of_true ⟨route, rfl⟩ (Nat.lt_of_le_of_ne bounded fun same => ?_)
    have failed : (registry.chooseSlug none rng).1 =
        .error (.other "all generated slug combinations are already active") :=
      generateUniqueSlug_error.mpr ⟨full.mpr same, rfl⟩
    have refused := (wellFormed.chooseSlug_error nonzero freePort rng _).mp failed
    rw [(wellFormed.registerWithRng_error ownerSession ownerPid stamp _).mpr refused] at outcome
    cases outcome

/-- Registrations without a slug, on the ports from one up. -/
def generatedCalls (rngs : Nat → R) (ownerSession : UInt64) (ownerPid : UInt32) (stamp : Stamp)
    (count : Nat) : List (Operation R) :=
  (List.range count).map fun index =>
    .register (UInt16.ofNat (index + 1)) none ownerSession ownerPid (rngs index) stamp

/-- As long as there is room every one of them succeeds. -/
theorem reached_generatedCalls (rngs : Nat → R) (ownerSession : UInt64) (ownerPid : UInt32)
    (stamp : Stamp) {count : Nat} (room : count ≤ adjectives.length * nouns.length) :
    (reached (generatedCalls rngs ownerSession ownerPid stamp count)).generatedRoutes.length =
        count ∧
      ∀ route, (reached (generatedCalls rngs ownerSession ownerPid stamp count)).Live route →
        route.port.toNat ≤ count := by
  induction count with
  | zero =>
    refine ⟨rfl, fun route live => ?_⟩
    exact absurd live (not_live_new route)
  | succ count ih =>
    obtain ⟨length, ports⟩ := ih (by omega)
    have size : adjectives.length * nouns.length = 3600 := by decide
    have port : (UInt16.ofNat (count + 1)).toNat = count + 1 :=
      UInt16.toNat_ofNat_of_lt (by rw [UInt16.size]; omega)
    have wellFormed :=
      wellFormed_reached (generatedCalls rngs ownerSession ownerPid stamp count)
    have calls : reached (generatedCalls rngs ownerSession ownerPid stamp (count + 1)) =
        ((reached (generatedCalls rngs ownerSession ownerPid stamp count)).registerWithRng
          (UInt16.ofNat (count + 1)) none ownerSession ownerPid (rngs count) stamp).2.1 := by
      rw [generatedCalls, List.range_succ, List.map_append, reached, List.foldl_append]
      rfl
    generalize reached (generatedCalls rngs ownerSession ownerPid stamp count) = registry at *
    have nonzero : UInt16.ofNat (count + 1) ≠ 0 := by
      intro zero
      rw [zero] at port
      simp at port
    have freePort : ∀ other, registry.Live other → other.port ≠ UInt16.ofNat (count + 1) := by
      intro other live same
      have bound := ports other live
      rw [same, port] at bound
      omega
    obtain ⟨route, registered⟩ := (generated_registration_iff wellFormed nonzero freePort
      ownerSession ownerPid (rngs count) stamp).mpr (by omega)
    obtain ⟨addable, after, fields, _, generated⟩ := registerWithRng_ok registered
    rw [calls, after]
    constructor
    · have filtered := (routes_insertRoute wellFormed addable).filter
        fun route => decide (route.slug ∈ allSlugs)
      have listed : decide (route.slug ∈ allSlugs) = true := by simpa using generated rfl
      rw [List.filter_cons, if_pos listed] at filtered
      rw [generatedRoutes, filtered.length_eq, List.length_cons]
      exact congrArg Nat.succ length
    · intro other live
      rcases (live_insertRoute addable.freeSlug).mp live with rfl | live
      · rw [fields]
        exact port.le
      · exact (ports other live).trans (Nat.le_succ count)

end RouteRegistry

open RouteRegistry in
/-- **Slug generation is complete and sound.** Whatever the random source draws,
generation tries its random candidates and then each combination once, returns
the first free one, and fails only when none is free. What it returns is valid
for the registry and the proxy, different word pairs are different slugs, and
so a registry holds exactly as many generated routes as there are pairs. -/
theorem slug_generation_complete {R : Type} [Rng R] :
    (∀ (rng : R) (isTaken : String → Bool),
      let outcome := generateUniqueSlug rng isTaken
      let random := randomCandidates generatedSlugRandomAttempts rng
      let free := fun slug => !isTaken slug
      random.length = 32 ∧ allSlugs.length = adjectives.length * nouns.length ∧
      outcome.1 = (match (random ++ allSlugs).find? free with
        | some slug => .ok slug
        | none => .error (.other "all generated slug combinations are already active")) ∧
      outcome.2 = afterCandidates (min 32 (random.findIdx free + 1)) rng ∧
      ((∃ slug, outcome.1 = .ok slug) ↔
        ∃ adjective ∈ adjectives, ∃ noun ∈ nouns, isTaken (joinWords adjective noun) = false) ∧
      ∀ slug, outcome.1 = .ok slug → isTaken slug = false ∧
        validateNormalizedSlug slug = .ok () ∧ validSlug slug = true ∧
        ∃ adjective ∈ adjectives, ∃ noun ∈ nouns, joinWords adjective noun = slug) ∧
    (∀ adjective ∈ adjectives, ∀ noun ∈ nouns, ∀ otherAdjective ∈ adjectives,
      ∀ otherNoun ∈ nouns, joinWords adjective noun = joinWords otherAdjective otherNoun →
        adjective = otherAdjective ∧ noun = otherNoun) ∧
    (∀ operations : List (Operation R),
      let registry := reached operations
      registry.generatedRoutes.length ≤ adjectives.length * nouns.length ∧
      ∀ (port : UInt16) (session : UInt64) (pid : UInt32) (rng : R) (stamp : Stamp), port ≠ 0 →
        (∀ other, registry.Live other → other.port ≠ port) →
        ((∃ route, (registry.registerWithRng port none session pid rng stamp).1 = .ok route) ↔
          registry.generatedRoutes.length < adjectives.length * nouns.length)) ∧
    ∀ (rngs : Nat → R) (session : UInt64) (pid : UInt32) (stamp : Stamp),
      (reached (generatedCalls rngs session pid stamp
        (adjectives.length * nouns.length))).generatedRoutes.length =
          adjectives.length * nouns.length := by
  refine ⟨fun rng isTaken => ?_, ?_, fun operations => ?_, fun rngs session pid stamp =>
    (reached_generatedCalls rngs session pid stamp le_rfl).1⟩
  · refine ⟨randomCandidates_length _ _, allSlugs_length, generateUniqueSlug_eq rng isTaken,
      generateUniqueSlug_draws rng isTaken, generateUniqueSlug_isOk, fun slug generated => ?_⟩
    obtain ⟨listed, free⟩ := generateUniqueSlug_ok generated
    exact ⟨free, allSlugs_valid listed, (validSlug_eq_true slug).mpr (allSlugs_valid listed),
      mem_allSlugs.mp listed⟩
  · intro adjective first noun second _ _ _ _ same
    exact joinWords_injective first second same
  · have wellFormed := wellFormed_reached operations
    exact ⟨generatedRoutes_length_le wellFormed, fun port session pid rng stamp nonzero freePort =>
      generated_registration_iff wellFormed nonzero freePort session pid rng stamp⟩

end CfFw
