import CfFw.NormalizeContract

/-! Normalising again, for the same port or another, starts from the same rules:
the output of one run is classified the way its input was. -/
namespace CfFw
open Text OrderedMap

variable {service : String} {rule other managed : Mapping} {rules : List Mapping}

/-- An accepted document has one wildcard rule. -/
theorem wildcard_unique (one : rules.countP isWildcard = 1) (member : rule ∈ rules)
    (wildcard : isWildcard rule = true) (otherMember : other ∈ rules)
    (otherWildcard : isWildcard other = true) : rule = other := by
  rw [List.countP_eq_length_filter] at one
  obtain ⟨only, shape⟩ := List.length_eq_one_iff.mp one
  have first : rule ∈ rules.filter isWildcard := List.mem_filter.mpr ⟨member, wildcard⟩
  have second : other ∈ rules.filter isWildcard := List.mem_filter.mpr ⟨otherMember, otherWildcard⟩
  rw [shape, List.mem_singleton] at first second
  rw [first, second]

/-- The output on an accepted document, for whichever of its rules is the
wildcard. -/
theorem normalizeValue_eq {document : Value} {root : Mapping} {domain : String}
    (accepted : AcceptedDocument document root rules) (member : rule ∈ rules)
    (wildcard : wildcardDomain rule = some domain) (proxyPort : UInt16) :
    normalizeValue document proxyPort =
      some (.ok (normalizedDocument root rules (serviceRule (canonicalService proxyPort) rule),
        toAsciiLowercase domain)) := by
  obtain ⟨⟨value, baseDomain⟩, ran⟩ := normalizeValue_total proxyPort accepted
  obtain ⟨root', rules', accepted', found, foundMember, foundDomain, foundWildcard, rfl, rfl⟩ :=
    normalizeValue_ok ran
  obtain ⟨rfl, present, _, one⟩ := accepted
  obtain ⟨sameRoot, present', _, _⟩ := accepted'
  cases sameRoot
  rw [present, Option.some.injEq, Value.sequence.injEq] at present'
  obtain rfl := List.map_injective_iff.mpr (fun _ _ => Value.mapping.inj) present'
  obtain rfl := wildcard_unique one member (by simp [isWildcard, wildcard]) foundMember
    (by simp [isWildcard, foundWildcard])
  rw [wildcard] at foundWildcard
  cases foundWildcard
  exact ran

/-! ### The normalised rules, classified again -/

private theorem containsKey_serviceRule {key : String} (different : "service" ≠ key) :
    containsKey (serviceRule service rule) key = containsKey rule key := by
  simp [containsKey, serviceRule, get?_insert_ne different]

/-- Rewriting the service does not change what kind of rule it is. -/
theorem wildcardDomain_serviceRule :
    wildcardDomain (serviceRule service rule) = wildcardDomain rule := by
  simp only [wildcardDomain, containsKey_serviceRule (show "service" ≠ "path" by decide)]
  simp only [serviceRule, get?_insert_ne (show "service" ≠ "hostname" by decide)]

theorem hostless_fresh : hostless freshFallback = true := by decide

theorem fresh_acceptable : AcceptableRule freshFallback :=
  ⟨fun _ => rfl, fun domain wildcard => by
    rw [hostless_not_wildcard hostless_fresh] at wildcard
    cases wildcard⟩

/-- The fallback that is written: the first hostless rule, or the fresh one. -/
def fallbackRule (rules : List Mapping) : Mapping := (rules.find? hostless).getD freshFallback

private theorem normalizedRules_eq (rules : List Mapping) (managed : Mapping) :
    normalizedRules rules managed = rules.filter isSpecific ++ [managed, fallbackRule rules] := rfl

private theorem fallbackRule_hostless (rules : List Mapping) :
    hostless (fallbackRule rules) = true := by
  unfold fallbackRule
  cases found : rules.find? hostless with
  | none => exact hostless_fresh
  | some rule => exact List.find?_some found

private theorem fallbackRule_acceptable (acceptable : ∀ rule ∈ rules, AcceptableRule rule) :
    AcceptableRule (fallbackRule rules) := by
  unfold fallbackRule
  cases found : rules.find? hostless with
  | none => exact fresh_acceptable
  | some rule => exact acceptable rule (List.mem_of_find?_eq_some found)

private theorem specific_not_hostless (specific : isSpecific rule = true) :
    hostless rule = false := by
  simp only [isSpecific, Bool.and_eq_true, Bool.not_eq_true'] at specific
  exact specific.1

private theorem specific_not_wildcard (specific : isSpecific rule = true) :
    isWildcard rule = false := by
  simp only [isSpecific, Bool.and_eq_true, Bool.not_eq_true'] at specific
  exact specific.2

private theorem wildcard_not_hostless (wildcard : isWildcard rule = true) :
    hostless rule = false := by
  rw [Bool.eq_false_iff]
  intro none
  simp [isWildcard, hostless_not_wildcard none] at wildcard

variable (wildcard : isWildcard managed = true)
include wildcard

/-- Only the managed rule of the output is a wildcard. -/
theorem normalizedRules_wildcards :
    (normalizedRules rules managed).countP isWildcard = 1 := by
  have specifics : (rules.filter isSpecific).countP isWildcard = 0 :=
    List.countP_eq_zero.mpr fun rule member => by
      simp [specific_not_wildcard (List.mem_filter.mp member).2]
  have fallback : isWildcard (fallbackRule rules) = false := by
    simp [isWildcard, hostless_not_wildcard (fallbackRule_hostless rules)]
  rw [normalizedRules_eq, List.countP_append, specifics]
  simp [wildcard, fallback]

private theorem normalizedRules_specific :
    (normalizedRules rules managed).filter isSpecific = rules.filter isSpecific := by
  have fallback : isSpecific (fallbackRule rules) = false := by
    simp [isSpecific, fallbackRule_hostless]
  have starred : isSpecific managed = false := by simp [isSpecific, wildcard]
  rw [normalizedRules_eq, List.filter_append, List.filter_filter]
  simp [starred, fallback]

private theorem normalizedRules_fallback :
    (normalizedRules rules managed).find? hostless = some (fallbackRule rules) := by
  have specifics : (rules.filter isSpecific).find? hostless = none :=
    List.find?_eq_none.mpr fun rule member => by
      simp [specific_not_hostless (List.mem_filter.mp member).2]
  rw [normalizedRules_eq, List.find?_append, specifics]
  simp [wildcard_not_hostless wildcard, fallbackRule_hostless]

private theorem normalizedRules_acceptable (acceptable : ∀ rule ∈ rules, AcceptableRule rule)
    (managedAcceptable : AcceptableRule managed) :
    ∀ rule ∈ normalizedRules rules managed, AcceptableRule rule := by
  intro rule member
  simp only [normalizedRules, List.mem_append, List.mem_cons, List.not_mem_nil, or_false] at member
  rcases member with member | rfl | rfl
  · exact acceptable rule (List.mem_filter.mp member).1
  · exact managedAcceptable
  · exact fallbackRule_acceptable acceptable

omit wildcard

/-- The output of a run is an accepted document, with the managed rule as its
wildcard. -/
theorem normalizedDocument_accepted {document : Value} {root : Mapping} {domain : String}
    (accepted : AcceptedDocument document root rules) (member : rule ∈ rules)
    (starred : wildcardDomain rule = some domain) :
    AcceptedDocument (normalizedDocument root rules (serviceRule service rule))
      (insert root "ingress"
        (.sequence ((normalizedRules rules (serviceRule service rule)).map .mapping)))
      (normalizedRules rules (serviceRule service rule)) := by
  have wildcard : isWildcard (serviceRule service rule) = true := by
    simp [isWildcard, wildcardDomain_serviceRule, starred]
  have acceptable : AcceptableRule (serviceRule service rule) := by
    refine ⟨fun none => ?_, fun found same => ?_⟩
    · rw [wildcard_not_hostless wildcard] at none
      cases none
    · rw [wildcardDomain_serviceRule] at same
      exact (accepted.2.2.1 rule member).2 found same
  exact ⟨rfl, get?_insert_self, normalizedRules_acceptable wildcard accepted.2.2.1 acceptable,
    normalizedRules_wildcards wildcard⟩

/-- Normalising the output of a run is normalising its input. -/
theorem normalize_again {document value : Value} {first : UInt16} {baseDomain : String}
    (ran : normalizeValue document first = some (.ok (value, baseDomain))) (second : UInt16) :
    normalizeValue value second = normalizeValue document second := by
  obtain ⟨root, rules, accepted, rule, member, domain, starred, rfl, rfl⟩ := normalizeValue_ok ran
  have wildcard : isWildcard (serviceRule (canonicalService first) rule) = true := by
    simp [isWildcard, wildcardDomain_serviceRule, starred]
  have inOutput : serviceRule (canonicalService first) rule ∈
      normalizedRules rules (serviceRule (canonicalService first) rule) := by
    simp [normalizedRules]
  rw [normalizeValue_eq accepted member starred,
    normalizeValue_eq (normalizedDocument_accepted accepted member starred) inOutput
      (wildcardDomain_serviceRule.trans starred)]
  have twice : serviceRule (canonicalService second) (serviceRule (canonicalService first) rule) =
      serviceRule (canonicalService second) rule := insert_insert _ _
  have rulesAgain : normalizedRules (normalizedRules rules (serviceRule (canonicalService first) rule))
      (serviceRule (canonicalService second) rule) =
        normalizedRules rules (serviceRule (canonicalService second) rule) := by
    conv_lhs => rw [normalizedRules]
    rw [normalizedRules_specific wildcard, normalizedRules_fallback wildcard]
    rfl
  simp only [normalizedDocument, twice, insert_insert, rulesAgain]

/-- **Normalisation is stable across ports and repetitions.** Whether a document
is accepted, and its base domain, do not depend on the port; normalising an
output for any port is normalising the input for it, so normalising an output
for its own port changes nothing. -/
theorem normalize_value_stable (document : Value) (first second : UInt16) :
    (∀ baseDomain, (∃ value, normalizeValue document first = some (.ok (value, baseDomain))) ↔
      ∃ value, normalizeValue document second = some (.ok (value, baseDomain))) ∧
    ∀ value baseDomain, normalizeValue document first = some (.ok (value, baseDomain)) →
      normalizeValue value second = normalizeValue document second ∧
      normalizeValue value first = some (.ok (value, baseDomain)) := by
  have transfer : ∀ {here there : UInt16} {value : Value} {baseDomain : String},
      normalizeValue document here = some (.ok (value, baseDomain)) →
        ∃ value, normalizeValue document there = some (.ok (value, baseDomain)) := by
    intro here there value baseDomain ran
    obtain ⟨root, rules, accepted, rule, member, domain, starred, rfl, rfl⟩ := normalizeValue_ok ran
    exact ⟨_, normalizeValue_eq accepted member starred there⟩
  refine ⟨fun baseDomain => ⟨fun ⟨_, ran⟩ => transfer ran, fun ⟨_, ran⟩ => transfer ran⟩, ?_⟩
  intro value baseDomain ran
  exact ⟨normalize_again ran second, (normalize_again ran first).trans ran⟩

end CfFw
