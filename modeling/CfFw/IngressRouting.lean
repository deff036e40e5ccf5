import CfFw.NormalizeContract

/-! What an ingress list does to a request, as cloudflared evaluates it: top
down, first match wins. Normalisation moves and drops rules, so keeping this
meaning is a statement about every reading of the filters and every request. -/
namespace CfFw
open OrderedMap

/-- A reading of hostname and path filters: which requests each value accepts. -/
structure Interpretation (Request : Type) where
  host : Value → Request → Bool
  path : Value → Request → Bool

variable {Request : Type} {reading : Interpretation Request} {request : Request}
  {rules : List Mapping} {rule managed : Mapping}

/-- A rule accepts a request that each of its filters accepts; an absent filter
accepts everything. -/
def Interpretation.accepts (reading : Interpretation Request) (rule : Mapping)
    (request : Request) : Bool :=
  (get? rule "hostname").all (reading.host · request) &&
    (get? rule "path").all (reading.path · request)

/-- The rule that handles a request. -/
def Interpretation.route (reading : Interpretation Request) (rules : List Mapping)
    (request : Request) : Option Mapping :=
  rules.find? (reading.accepts · request)

/-- A rule with a hostname or a path filter. -/
def hasFilter (rule : Mapping) : Bool := containsKey rule "hostname" || containsKey rule "path"

/-- The ingress rules of a document. -/
def ingressRules : Value → List Mapping
  | .mapping root =>
    match get? root "ingress" with
    | some (.sequence entries) => entries.filterMap fun
      | .mapping rule => some rule
      | _ => none
    | _ => []
  | _ => []

/-- `after` still ends in a rule without filters, and routes to the same rule
every request that `before` routes to a filtered rule other than the wildcard. -/
structure PreservesRouting (before after : List Mapping) : Prop where
  total : ∃ last, after.getLast? = some last ∧ hasFilter last = false
  same : ∀ (Request : Type) (reading : Interpretation Request) (request : Request) (rule : Mapping),
    reading.route before request = some rule → hasFilter rule = true → isWildcard rule = false →
      reading.route after request = some rule

/-- The first rule without a hostname, if there is one, has no path either. -/
def PathlessFallback (rules : List Mapping) : Prop :=
  ∀ rule, rules.find? hostless = some rule → containsKey rule "path" = false

private theorem accepts_of_not_hasFilter (unfiltered : hasFilter rule = false) :
    reading.accepts rule request = true := by
  simp only [hasFilter, containsKey, Bool.or_eq_false_iff, Option.isSome_eq_false_iff,
    Option.isNone_iff_eq_none] at unfiltered
  simp [Interpretation.accepts, unfiltered]

private theorem hasFilter_of_hostless (bare : hostless rule = true) :
    hasFilter rule = containsKey rule "path" := by
  simp only [hostless, Bool.not_eq_true'] at bare
  simp [hasFilter, bare]

/-- With a pathless first hostless rule, no other hostless rule is ever reached
with a filter. -/
theorem specific_of_route (pathless : PathlessFallback rules)
    (routed : reading.route rules request = some rule) (filtered : hasFilter rule = true)
    (named : isWildcard rule = false) : isSpecific rule = true := by
  suffices present : hostless rule = false by simp [isSpecific, present, named]
  rw [Bool.eq_false_iff]
  intro bare
  have member := List.mem_of_find?_eq_some routed
  obtain ⟨_, before, rest, shape, unmatched⟩ := List.find?_eq_some_iff_append.mp routed
  have some_hostless : (rules.find? hostless).isSome = true :=
    List.find?_isSome.mpr ⟨rule, member, bare⟩
  obtain ⟨fallback, found⟩ := Option.isSome_iff_exists.mp some_hostless
  have unfiltered : hasFilter fallback = false := by
    rw [hasFilter_of_hostless (List.find?_some found)]
    exact pathless fallback found
  -- The first hostless rule accepts everything, so it cannot stand before `rule`.
  have absent : before.find? hostless = none := by
    cases earlier : before.find? hostless with
    | none => rfl
    | some first =>
      have same : rules.find? hostless = some first := by
        rw [shape, List.find?_append, earlier]
        rfl
      rw [found, Option.some.injEq] at same
      subst same
      have refused := unmatched fallback (List.mem_of_find?_eq_some earlier)
      simp [accepts_of_not_hasFilter unfiltered] at refused
  rw [shape, List.find?_append, absent, Option.none_or, List.find?_cons_of_pos bare,
    Option.some.injEq] at found
  rw [found, unfiltered] at filtered
  cases filtered

/-- A specific rule that is reached first is still reached first. -/
theorem route_normalizedRules (routed : reading.route rules request = some rule)
    (specific : isSpecific rule = true) :
    reading.route (normalizedRules rules managed) request = some rule := by
  obtain ⟨matched, before, rest, rfl, unmatched⟩ := List.find?_eq_some_iff_append.mp routed
  refine List.find?_eq_some_iff_append.mpr ⟨matched, before.filter isSpecific,
    rest.filter isSpecific ++ [managed, ((before ++ rule :: rest).find? hostless).getD freshFallback],
    ?_, fun earlier member => unmatched earlier (List.mem_filter.mp member).1⟩
  simp [normalizedRules, List.filter_append, specific]

private theorem normalizedRules_last :
    (normalizedRules rules managed).getLast? =
      some ((rules.find? hostless).getD freshFallback) := by
  simp [normalizedRules, List.getLast?_append]

/-- Over the rules themselves: routing is preserved exactly when the rule that
becomes the fallback has no path. -/
theorem preservesRouting_iff :
    PreservesRouting rules (normalizedRules rules managed) ↔ PathlessFallback rules := by
  constructor
  · rintro ⟨⟨last, final, unfiltered⟩, _⟩ rule found
    rw [normalizedRules_last, found, Option.getD_some, Option.some.injEq] at final
    subst final
    rw [← hasFilter_of_hostless (List.find?_some found)]
    exact unfiltered
  · intro pathless
    refine ⟨⟨_, normalizedRules_last, ?_⟩, fun Request reading request rule routed filtered named =>
      route_normalizedRules routed (specific_of_route pathless routed filtered named)⟩
    cases found : rules.find? hostless with
    | none => rfl
    | some fallback =>
      change hasFilter fallback = false
      rw [hasFilter_of_hostless (List.find?_some found)]
      exact pathless fallback found

private theorem filterMap_mapping (rules : List Mapping) :
    (rules.map Value.mapping).filterMap (fun
      | .mapping rule => some rule
      | _ => none) = rules := by
  induction rules with
  | nil => rfl
  | cons rule rest ih =>
    rw [List.map_cons, List.filterMap_cons]
    exact congrArg _ ih

private theorem ingressRules_accepted {document : Value} {root : Mapping}
    (accepted : AcceptedDocument document root rules) : ingressRules document = rules := by
  obtain ⟨rfl, present, _, _⟩ := accepted
  simp only [ingressRules, present, filterMap_mapping]

private theorem ingressRules_normalizedDocument {root : Mapping} :
    ingressRules (normalizedDocument root rules managed) = normalizedRules rules managed := by
  simp only [ingressRules, normalizedDocument, get?_insert_self, filterMap_mapping]

/-- **When normalisation preserves routing.** The normalised ingress ends in a
rule without filters and keeps the meaning of the filtered rules exactly when
the first hostless rule of the input, if there is one, carries no path. -/
theorem normalize_preserves_routing_iff {document value : Value} {proxyPort : UInt16}
    {baseDomain : String}
    (ran : normalizeValue document proxyPort = some (.ok (value, baseDomain))) :
    PreservesRouting (ingressRules document) (ingressRules value) ↔
      PathlessFallback (ingressRules document) := by
  obtain ⟨root, rules, accepted, rule, _, _, _, _, rfl⟩ := normalizeValue_ok ran
  rw [ingressRules_accepted accepted, ingressRules_normalizedDocument]
  exact preservesRouting_iff

/-- A document whose first hostless rule answers 404 under one path only. -/
def pathFallbackDocument : Value :=
  .mapping [("ingress", .sequence [
    .mapping [("path", .string "^/private"), ("service", .string "http_status:404")],
    .mapping [("hostname", .string "app.example.com"), ("service", .string "http://localhost:3000")],
    .mapping [("hostname", .string "*.example.com"), ("service", .string "http://localhost:80")]])]

/-- The normalised form of `pathFallbackDocument` for port 10000. -/
def pathFallbackNormalized : Value :=
  .mapping [("ingress", .sequence [
    .mapping [("hostname", .string "app.example.com"), ("service", .string "http://localhost:3000")],
    .mapping [("hostname", .string "*.example.com"), ("service", .string "http://127.0.0.1:10000")],
    .mapping [("path", .string "^/private"), ("service", .string "http_status:404")]])]

private theorem pathFallback_normalized :
    normalizeValue pathFallbackDocument 10000 =
      some (.ok (pathFallbackNormalized, "example.com")) := by
  rfl

/-- Normalised, the document ends in a rule with a path. -/
theorem pathFallback_not_preserved :
    normalizeValue pathFallbackDocument 10000 =
        some (.ok (pathFallbackNormalized, "example.com")) ∧
      ¬ PreservesRouting (ingressRules pathFallbackDocument)
        (ingressRules pathFallbackNormalized) := by
  refine ⟨pathFallback_normalized, fun preserved => ?_⟩
  obtain ⟨last, final, unfiltered⟩ := preserved.total
  cases final
  cases unfiltered

theorem pathFallback_routing_iff :
    PreservesRouting (ingressRules pathFallbackDocument) (ingressRules pathFallbackNormalized) ↔
      PathlessFallback (ingressRules pathFallbackDocument) :=
  normalize_preserves_routing_iff pathFallback_normalized

end CfFw
