import CfFw.CloudflareConfig

/-! The contract of ingress normalisation: exactly which documents are accepted,
and exactly what they become. The contract is stated over the rules themselves;
the loop with its accumulators is proved to meet it. -/
namespace CfFw
open Text OrderedMap

/-! ### Domains -/

/-- A label as a DNS name has it: 1 to 63 ASCII letters, digits or hyphens, with
no hyphen at either end. -/
structure ValidLabel (label : String) : Prop where
  nonempty : 1 ≤ label.toList.length
  short : label.toList.length ≤ 63
  start : label.toList.head? ≠ some '-'
  finish : label.toList.getLast? ≠ some '-'
  characters : ∀ c ∈ label.toList, c.isAlphanum = true ∨ c = '-'

/-- A domain: 1 to 253 bytes of valid labels. -/
structure ValidDomain (domain : String) : Prop where
  nonempty : 1 ≤ len domain
  short : len domain ≤ 253
  labels : ∀ label ∈ split domain '.', ValidLabel label

private theorem labelByte_iff (n : Nat) (small : n < 128) :
    (isAsciiAlphanumeric (UInt8.ofNat n) || UInt8.ofNat n == hyphen) = true ↔
      (97 ≤ n ∧ n ≤ 122) ∨ (65 ≤ n ∧ n ≤ 90) ∨ (48 ≤ n ∧ n ≤ 57) ∨ n = 45 := by
  simp only [isAsciiAlphanumeric, isAsciiLowercase, isAsciiDigit, hyphen, Bool.or_eq_true,
    Bool.and_eq_true, decide_eq_true_eq, beq_iff_eq, UInt8.le_iff_toNat_le, ← UInt8.toNat_inj,
    UInt8.toNat_ofNat', UInt8.reduceToNat]
  omega

private theorem labelByte_ascii (b : UInt8)
    (accepted : (isAsciiAlphanumeric b || b == hyphen) = true) : b < 128 := by
  simp only [isAsciiAlphanumeric, isAsciiLowercase, isAsciiDigit, hyphen, Bool.or_eq_true,
    Bool.and_eq_true, decide_eq_true_eq, beq_iff_eq, UInt8.le_iff_toNat_le, ← UInt8.toNat_inj,
    UInt8.reduceToNat] at accepted
  simp only [UInt8.lt_iff_toNat_lt, UInt8.reduceToNat]
  omega

/-- The byte test of a label's characters is the character test, and does not
notice lowercasing. -/
theorem labelBytes_iff (label : String) :
    ((bytes (toAsciiLowercase label)).all fun b => isAsciiAlphanumeric b || b == hyphen) = true ↔
      ∀ c ∈ label.toList, c.isAlphanum = true ∨ c = '-' := by
  rw [bytes_all_iff labelByte_ascii]
  simp only [toList_toAsciiLowercase, List.mem_map, forall_exists_index, and_imp,
    forall_apply_eq_imp_iff₂]
  refine forall₂_congr fun c _ => ?_
  have dash : c = '-' ↔ c.toNat = 45 := by
    rw [← Char.toNat_inj]
    rfl
  rw [isAlphanum_iff, dash]
  constructor
  · rintro ⟨small, accepted⟩
    rw [labelByte_iff _ small, toNat_toLower] at accepted
    split_ifs at accepted <;> omega
  · intro character
    have small : c.toLower.toNat < 128 := by
      rw [toNat_toLower]
      split_ifs <;> omega
    refine ⟨small, (labelByte_iff _ small).mpr ?_⟩
    rw [toNat_toLower]
    split_ifs <;> omega

private theorem toLower_ne_hyphen_iff (c : Char) : c.toLower = '-' ↔ c = '-' :=
  toLower_eq_iff (by decide) c (by decide)

theorem validLabel_iff (label : String) :
    validLabel (toAsciiLowercase label) = true ↔ ValidLabel label := by
  have first : startsWith (toAsciiLowercase label) '-' = false ↔
      label.toList.head? ≠ some '-' := by
    simp [startsWith, List.head?_map, toLower_ne_hyphen_iff]
  have last : endsWith (toAsciiLowercase label) '-' = false ↔
      label.toList.getLast? ≠ some '-' := by
    simp [endsWith, List.getLast?_map, toLower_ne_hyphen_iff]
  have ascii : (∀ c ∈ label.toList, c.isAlphanum = true ∨ c = '-') →
      len label = label.toList.length := by
    intro characters
    refine len_ascii fun c member => ?_
    rcases characters c member with letter | rfl
    · have range := (isAlphanum_iff c).mp letter
      omega
    · decide
  simp only [validLabel, Bool.and_eq_true, decide_eq_true_eq, Bool.not_eq_true',
    len_toAsciiLowercase, first, last, labelBytes_iff]
  constructor
  · rintro ⟨⟨⟨⟨nonempty, short⟩, start⟩, finish⟩, characters⟩
    rw [ascii characters] at nonempty short
    exact ⟨nonempty, short, start, finish, characters⟩
  · rintro ⟨nonempty, short, start, finish, characters⟩
    rw [ascii characters]
    exact ⟨⟨⟨⟨nonempty, short⟩, start⟩, finish⟩, characters⟩

/-- The labels of the lowercased domain pass the code's test exactly when the
labels as written are valid. -/
theorem labels_valid_iff (domain : String) :
    (split (toAsciiLowercase domain) '.').all validLabel = true ↔
      ∀ label ∈ split domain '.', ValidLabel label := by
  have lowered : split (toAsciiLowercase domain) '.' =
      (split domain '.').map toAsciiLowercase :=
    split_toAsciiLowercase (by decide) (by decide)
  simp only [lowered, List.all_eq_true, List.mem_map, forall_exists_index, and_imp,
    forall_apply_eq_imp_iff₂, validLabel_iff]

/-- `wildcard_base_domain` on a name with `*.` in front. -/
theorem wildcardBaseDomain_ok {hostname : String} {index : Nat} {domain : String}
    (starred : stripPrefix hostname "*." = some domain) (valid : ValidDomain domain) :
    wildcardBaseDomain hostname index = .ok (some (toAsciiLowercase domain)) := by
  have nonempty : toAsciiLowercase domain ≠ "" := by
    intro empty
    have zero := len_toAsciiLowercase domain
    rw [len_eq_zero.mpr empty] at zero
    have := valid.nonempty
    omega
  have labels := (labels_valid_iff domain).mpr valid.labels
  simp only [wildcardBaseDomain, starred, len_toAsciiLowercase]
  rw [if_pos ⟨nonempty, valid.short, labels⟩]

theorem wildcardBaseDomain_error {hostname : String} {index : Nat} {domain : String}
    (starred : stripPrefix hostname "*." = some domain) (invalid : ¬ ValidDomain domain) :
    ∃ error, wildcardBaseDomain hostname index = .error error := by
  simp only [wildcardBaseDomain, starred, len_toAsciiLowercase]
  rw [if_neg]
  · exact ⟨_, rfl⟩
  rintro ⟨nonempty, short, labels⟩
  refine invalid ⟨?_, short, ?_⟩
  · rw [← len_toAsciiLowercase]
    exact Nat.pos_of_ne_zero fun zero => nonempty (len_eq_zero.mp zero)
  · exact (labels_valid_iff domain).mp labels

/-! ### Rules -/

/-- A rule without a `hostname` key. -/
def hostless (rule : Mapping) : Bool := !containsKey rule "hostname"

/-- The text after `*.` in the hostname of a rule without a `path` key. -/
def wildcardDomain (rule : Mapping) : Option String :=
  if containsKey rule "path" then none
  else ((get? rule "hostname").bind Value.asStr).bind (stripPrefix · "*.")

/-- The rules normalisation manages. -/
def isWildcard (rule : Mapping) : Bool := (wildcardDomain rule).isSome

/-- The rules normalisation leaves as they are. -/
def isSpecific (rule : Mapping) : Bool := !hostless rule && !isWildcard rule

/-- What a rule must satisfy by itself. -/
def AcceptableRule (rule : Mapping) : Prop :=
  (hostless rule = true → get? rule "service" = some (.string "http_status:404")) ∧
    ∀ domain, wildcardDomain rule = some domain → ValidDomain domain

/-- The rule as normalisation writes it for a port. -/
def serviceRule (service : String) (rule : Mapping) : Mapping :=
  insert rule "service" (.string service)

/-- The managed rule and its base domain, when the rule is the wildcard. -/
def managedPart (service : String) (rule : Mapping) : Option (Mapping × String) :=
  (wildcardDomain rule).map fun domain => (serviceRule service rule, toAsciiLowercase domain)

theorem hostless_not_wildcard {rule : Mapping} (none : hostless rule = true) :
    wildcardDomain rule = Option.none := by
  simp only [hostless, containsKey, Bool.not_eq_true', Option.isSome_eq_false_iff,
    Option.isNone_iff_eq_none] at none
  simp [wildcardDomain, none]

private theorem service_iff (rule : Mapping) :
    ((get? rule "service").bind Value.asStr) = some "http_status:404" ↔
      get? rule "service" = some (.string "http_status:404") := by
  cases get? rule "service" with
  | none => simp
  | some value => cases value <;> simp [Value.asStr]

variable {service : String} {index : Nat} {rule : Mapping} {rules : List Mapping}
  {scan next out : Scan}

/-- What one iteration adds to the accumulators. -/
structure ScannedRule (service : String) (rule : Mapping) (scan next : Scan) : Prop where
  acceptable : AcceptableRule rule
  specific : next.specific = scan.specific ++ if isSpecific rule then [.mapping rule] else []
  fallback : next.fallback = scan.fallback.or (if hostless rule then some rule else none)
  single : isWildcard rule = true → scan.managed = none
  managed : next.managed.map (fun found => (found.rule, found.baseDomain)) =
    (scan.managed.map fun found => (found.rule, found.baseDomain)).or (managedPart service rule)

/-- A hostless rule is taken as the fallback, unless there is one already. -/
private theorem scan_hostless (none : hostless rule = true)
    (ran : scanMapping service index rule scan = .ok next) :
    ScannedRule service rule scan next := by
  have notWildcard := hostless_not_wildcard none
  simp only [hostless, Bool.not_eq_true'] at none
  simp only [scanMapping, none, ↓reduceIte] at ran
  split at ran
  · rename_i fallbackService
    cases ran
    refine ⟨⟨fun _ => (service_iff rule).mp fallbackService, by simp [notWildcard]⟩, ?_, ?_, ?_, ?_⟩ <;>
      simp [isSpecific, hostless, isWildcard, managedPart, none, notWildcard]
  · cases ran

/-- A rule that is neither hostless nor the wildcard is kept. -/
private theorem scanned_specific (present : hostless rule = false)
    (notWildcard : wildcardDomain rule = none) :
    ScannedRule service rule scan (keepSpecific scan rule) := by
  refine ⟨⟨by simp [present], by simp [notWildcard]⟩, ?_, ?_, ?_, ?_⟩ <;>
    simp [keepSpecific, isSpecific, isWildcard, managedPart, present, notWildcard]

private theorem wildcardDomain_eq_some {domain : String} :
    wildcardDomain rule = some domain ↔ containsKey rule "path" = false ∧
      ∃ hostname, (get? rule "hostname").bind Value.asStr = some hostname ∧
        stripPrefix hostname "*." = some domain := by
  unfold wildcardDomain
  cases containsKey rule "path" <;> simp [Option.bind_eq_some_iff]

private theorem scanMapping_specific (present : hostless rule = false)
    (notWildcard : wildcardDomain rule = none) :
    scanMapping service index rule scan = .ok (keepSpecific scan rule) := by
  simp only [hostless, Bool.not_eq_false'] at present
  simp only [scanMapping, present, Bool.true_eq_false, ↓reduceIte]
  cases path : containsKey rule "path" with
  | true => rfl
  | false =>
    cases named : (get? rule "hostname").bind Value.asStr with
    | none => rfl
    | some hostname =>
      have plain : stripPrefix hostname "*." = none := by
        simpa [wildcardDomain, path, named] using notWildcard
      simp only [Bool.false_eq_true, ↓reduceIte, scanNamed, wildcardBaseDomain, plain]

private theorem scanMapping_wildcard {domain : String} (present : hostless rule = false)
    (wildcard : wildcardDomain rule = some domain) :
    ∃ hostname, stripPrefix hostname "*." = some domain ∧
      scanMapping service index rule scan = scanNamed service index hostname rule scan := by
  obtain ⟨path, hostname, named, starred⟩ := wildcardDomain_eq_some.mp wildcard
  simp only [hostless, Bool.not_eq_false'] at present
  refine ⟨hostname, starred, ?_⟩
  simp only [scanMapping, present, path, named, Bool.true_eq_false, Bool.false_eq_true, ↓reduceIte]

/-- What a successful iteration did. -/
theorem scanMapping_ok (ran : scanMapping service index rule scan = .ok next) :
    ScannedRule service rule scan next := by
  cases present : hostless rule with
  | true => exact scan_hostless present ran
  | false =>
    cases wildcard : wildcardDomain rule with
    | none =>
      rw [scanMapping_specific present wildcard] at ran
      cases ran
      exact scanned_specific present wildcard
    | some domain =>
      obtain ⟨hostname, starred, named⟩ :=
        @scanMapping_wildcard service index rule scan domain present wildcard
      rw [named, scanNamed] at ran
      by_cases valid : ValidDomain domain
      · simp only [wildcardBaseDomain_ok starred valid] at ran
        cases unmanaged : scan.managed with
        | some first =>
          rw [unmanaged] at ran
          cases ran
        | none =>
          rw [unmanaged] at ran
          cases ran
          refine ⟨⟨by simp [present], fun found same => ?_⟩, ?_, ?_, fun _ => unmanaged, ?_⟩
          · rw [wildcard] at same
            cases same
            exact valid
          · simp [isSpecific, isWildcard, wildcard]
          · simp [present]
          · simp [unmanaged, managedPart, serviceRule, wildcard]
      · obtain ⟨error, failed⟩ := @wildcardBaseDomain_error hostname index domain starred valid
        simp only [failed] at ran
        cases ran

/-- An acceptable rule is accepted, unless it is a second wildcard. -/
theorem scanMapping_total (acceptable : AcceptableRule rule)
    (single : isWildcard rule = true → scan.managed = none) :
    ∃ next, scanMapping service index rule scan = .ok next := by
  cases present : hostless rule with
  | true =>
    have fallbackService := (service_iff rule).mpr (acceptable.1 present)
    simp only [hostless, Bool.not_eq_true'] at present
    simp only [scanMapping, present, ↓reduceIte, fallbackService]
    exact ⟨_, rfl⟩
  | false =>
    cases wildcard : wildcardDomain rule with
    | none => exact ⟨_, scanMapping_specific present wildcard⟩
    | some domain =>
      obtain ⟨hostname, starred, named⟩ :=
        @scanMapping_wildcard service index rule scan domain present wildcard
      simp only [named, scanNamed, wildcardBaseDomain_ok starred (acceptable.2 domain wildcard),
        single (by simp [isWildcard, wildcard])]
      exact ⟨_, rfl⟩

/-! ### The loop -/

/-- What the loop leaves in the accumulators after a list of rules. -/
structure ScannedRules (service : String) (rules : List Mapping) (scan out : Scan) : Prop where
  acceptable : ∀ rule ∈ rules, AcceptableRule rule
  specific : out.specific = scan.specific ++ (rules.filter isSpecific).map .mapping
  fallback : out.fallback = scan.fallback.or (rules.find? hostless)
  single : rules.countP isWildcard + scan.managed.toList.length ≤ 1
  managed : out.managed.map (fun found => (found.rule, found.baseDomain)) =
    (scan.managed.map fun found => (found.rule, found.baseDomain)).or
      (rules.findSome? (managedPart service))

private theorem managed_isSome (step : ScannedRule service rule scan next) :
    next.managed.toList.length = scan.managed.toList.length + [rule].countP isWildcard := by
  have part := congrArg Option.isSome step.managed
  have counted : (managedPart service rule).isSome = isWildcard rule := by
    simp [managedPart, isWildcard]
  have single := step.single
  cases wildcard : isWildcard rule <;> cases held : scan.managed <;> cases after : next.managed <;>
    simp_all

private theorem scannedRules_cons (step : ScannedRule service rule scan next)
    (rest : ScannedRules service rules next out) :
    ScannedRules service (rule :: rules) scan out where
  acceptable := List.forall_mem_cons.mpr ⟨step.acceptable, rest.acceptable⟩
  specific := by
    rw [rest.specific, step.specific, List.filter_cons]
    cases isSpecific rule <;> simp
  fallback := by
    rw [rest.fallback, step.fallback, List.find?_cons, Option.or_assoc]
    cases hostless rule <;> simp
  single := by
    have counted := managed_isSome step
    have bound := rest.single
    rw [List.countP_cons]
    simp only [List.countP_cons, List.countP_nil] at counted
    omega
  managed := by
    rw [rest.managed, step.managed, List.findSome?_cons, Option.or_assoc]
    cases managedPart service rule <;> simp

private theorem scanRules_ok {entries : List Value}
    (ran : scanRules service index entries scan = .ok out) :
    ∃ rules, entries = rules.map Value.mapping ∧ ScannedRules service rules scan out := by
  induction entries generalizing index scan with
  | nil =>
    cases ran
    refine ⟨[], rfl, by simp, by simp, by simp, ?_, by simp⟩
    cases out.managed <;> simp
  | cons entry rest ih =>
    unfold scanRules at ran
    cases first : scanRule service index entry scan with
    | error error =>
      rw [first] at ran
      cases ran
    | ok next =>
      rw [first] at ran
      obtain ⟨rules, rfl, tail⟩ := ih ran
      cases entry with
      | mapping rule => exact ⟨rule :: rules, rfl, scannedRules_cons (scanMapping_ok first) tail⟩
      | _ => cases first

private theorem scanRules_total (acceptable : ∀ rule ∈ rules, AcceptableRule rule)
    (single : rules.countP isWildcard + scan.managed.toList.length ≤ 1) :
    ∃ out, scanRules service index (rules.map Value.mapping) scan = .ok out := by
  induction rules generalizing index scan with
  | nil => exact ⟨scan, rfl⟩
  | cons rule rules ih =>
    obtain ⟨head, tail⟩ := List.forall_mem_cons.mp acceptable
    have room : isWildcard rule = true → scan.managed = none := by
      intro wildcard
      rw [List.countP_cons_of_pos wildcard] at single
      cases held : scan.managed with
      | none => rfl
      | some found =>
        rw [held, Option.toList_some, List.length_singleton] at single
        omega
    obtain ⟨next, taken⟩ := @scanMapping_total service index rule scan head room
    have counted := managed_isSome (scanMapping_ok taken)
    rw [List.countP_cons] at single
    simp only [List.countP_cons, List.countP_nil] at counted
    obtain ⟨out, ran⟩ := @ih (index + 1) next tail (by omega)
    refine ⟨out, ?_⟩
    simp only [List.map_cons, scanRules, scanRule, taken]
    exact ran

/-! ### The document -/

/-- The documents normalisation accepts: a mapping whose `ingress` is a sequence
of mappings, each acceptable, exactly one of them the wildcard. -/
def AcceptedDocument (document : Value) (root : Mapping) (rules : List Mapping) : Prop :=
  document = .mapping root ∧ get? root "ingress" = some (.sequence (rules.map .mapping)) ∧
    (∀ rule ∈ rules, AcceptableRule rule) ∧ rules.countP isWildcard = 1

/-- The rules of the normalised document: the specific rules in order, the
managed rule, the fallback. -/
def normalizedRules (rules : List Mapping) (managed : Mapping) : List Mapping :=
  rules.filter isSpecific ++ [managed, (rules.find? hostless).getD freshFallback]

/-- The normalised document of an accepted one. -/
def normalizedDocument (root : Mapping) (rules : List Mapping) (managed : Mapping) : Value :=
  .mapping (insert root "ingress" (.sequence ((normalizedRules rules managed).map .mapping)))

private theorem exists_wildcard (one : rules.countP isWildcard = 1) :
    ∃ rule ∈ rules, ∃ domain, wildcardDomain rule = some domain := by
  obtain ⟨rule, member, wildcard⟩ := List.countP_pos_iff.mp (by omega : 0 < rules.countP isWildcard)
  exact ⟨rule, member, Option.isSome_iff_exists.mp wildcard⟩

private theorem findSome?_managedPart {found : Mapping × String} :
    rules.findSome? (managedPart service) = some found → ∃ rule ∈ rules, ∃ domain,
      wildcardDomain rule = some domain ∧
        found = (serviceRule service rule, toAsciiLowercase domain) := by
  intro located
  obtain ⟨rule, member, part⟩ := List.exists_of_findSome?_eq_some located
  obtain ⟨domain, wildcard, same⟩ := Option.map_eq_some_iff.mp part
  exact ⟨rule, member, domain, wildcard, same.symm⟩

/-- What a successful normalisation read and wrote. -/
theorem normalizeValue_ok {document value : Value} {proxyPort : UInt16} {baseDomain : String}
    (ran : normalizeValue document proxyPort = some (.ok (value, baseDomain))) :
    ∃ root rules, AcceptedDocument document root rules ∧ ∃ rule ∈ rules, ∃ domain,
      wildcardDomain rule = some domain ∧ baseDomain = toAsciiLowercase domain ∧
      value = normalizedDocument root rules (serviceRule (canonicalService proxyPort) rule) := by
  unfold normalizeValue at ran
  split at ran
  case h_2 => cases ran
  rename_i root
  cases listed : ingressEntries root with
  | error error =>
    rw [listed] at ran
    cases ran
  | ok entries =>
    rw [listed] at ran
    dsimp only at ran
    cases scanned : scanRules (canonicalService proxyPort) 0 entries Scan.start with
    | error error =>
      rw [scanned] at ran
      cases ran
    | ok scan =>
      rw [scanned] at ran
      obtain ⟨rules, rfl, result⟩ := scanRules_ok scanned
      simp only [rebuild] at ran
      cases held : scan.managed with
      | none =>
        rw [held] at ran
        cases ran
      | some found =>
        have managed := result.managed
        simp only [held, Scan.start, Option.map_some, Option.map_none, Option.none_or] at managed
        obtain ⟨rule, member, domain, wildcard, same⟩ := findSome?_managedPart managed.symm
        obtain ⟨sameRule, sameDomain⟩ := Prod.mk.inj same
        have present : get? root "ingress" = some (.sequence (rules.map .mapping)) := by
          unfold ingressEntries at listed
          split at listed
          · rename_i shape
            rw [shape]
            cases listed
            rfl
          · cases listed
          · cases rules with
            | nil => cases member
            | cons => cases listed
        have some_wildcard : 0 < rules.countP isWildcard :=
          List.countP_pos_iff.mpr ⟨rule, member, by simp [isWildcard, wildcard]⟩
        have single := result.single
        refine ⟨root, rules, ⟨rfl, present, result.acceptable, by omega⟩, rule, member, domain,
          wildcard, ?_⟩
        rw [held] at ran
        simp only [containsKey, present, Option.isSome_some, ↓reduceIte, Option.some.injEq,
          Except.ok.injEq, Prod.mk.injEq] at ran
        obtain ⟨rfl, rfl⟩ := ran
        refine ⟨sameDomain, ?_⟩
        simp [normalizedDocument, normalizedRules, result.specific, result.fallback, sameRule,
          Scan.start]

/-- Every accepted document is normalised. -/
theorem normalizeValue_total {document : Value} {root : Mapping} (proxyPort : UInt16)
    (accepted : AcceptedDocument document root rules) :
    ∃ result, normalizeValue document proxyPort = some (.ok result) := by
  obtain ⟨rfl, present, acceptable, one⟩ := accepted
  obtain ⟨scan, scanned⟩ := @scanRules_total (canonicalService proxyPort) 0 rules Scan.start
    acceptable (by simp [Scan.start, one])
  obtain ⟨_, same, result⟩ := scanRules_ok scanned
  obtain rfl := List.map_injective_iff.mpr (fun _ _ => Value.mapping.inj) same
  obtain ⟨rule, member, domain, wildcard⟩ := exists_wildcard one
  have managed : (scan.managed.map fun found => (found.rule, found.baseDomain)).isSome = true := by
    rw [result.managed]
    simp only [Scan.start, Option.map_none, Option.none_or, List.findSome?_isSome_iff]
    exact ⟨rule, member, by simp [managedPart, wildcard]⟩
  obtain ⟨found, held⟩ := Option.isSome_iff_exists.mp (by simpa using managed)
  simp only [normalizeValue, ingressEntries, present, scanned, rebuild, held, containsKey,
    Option.isSome_some, ↓reduceIte]
  exact ⟨_, rfl⟩

/-- The `expect` after the loop never fails: a wildcard rule came out of an
`ingress` key. -/
theorem normalizeValue_no_panic (document : Value) (proxyPort : UInt16) :
    normalizeValue document proxyPort ≠ none := by
  unfold normalizeValue
  split
  case h_2 => simp
  rename_i root
  cases listed : ingressEntries root with
  | error error => simp
  | ok entries =>
    dsimp only
    cases scanned : scanRules (canonicalService proxyPort) 0 entries Scan.start with
    | error error => simp
    | ok scan =>
      dsimp only [rebuild]
      cases held : scan.managed with
      | none => simp
      | some found =>
        have present : containsKey root "ingress" = true := by
          unfold ingressEntries at listed
          split at listed
          · rename_i shape
            simp [containsKey, shape]
          · cases listed
          · cases listed
            cases scanned
            cases held
        simp [present]

/-- **Normalisation accepts and produces exactly its contract.** It never
panics; it succeeds exactly on the accepted documents; and it then changes the
document only at `ingress`, where the specific rules stay in order, the wildcard
rule follows with only its `service` changed, and the first hostless rule, or a
fresh one, comes last. -/
theorem normalize_value_contract (document : Value) (proxyPort : UInt16) :
    normalizeValue document proxyPort ≠ none ∧
    ((∃ result, normalizeValue document proxyPort = some (.ok result)) ↔
      ∃ root rules, AcceptedDocument document root rules) ∧
    ∀ value baseDomain, normalizeValue document proxyPort = some (.ok (value, baseDomain)) →
      ∃ root rules result rule domain managed, AcceptedDocument document root rules ∧
        value = .mapping result ∧
        ChangedAt "ingress"
          (.sequence ((rules.filter isSpecific ++
            [managed, (rules.find? hostless).getD freshFallback]).map .mapping)) root result ∧
        rule ∈ rules ∧ wildcardDomain rule = some domain ∧
        ChangedAt "service" (.string s!"http://127.0.0.1:{proxyPort}") rule managed ∧
        baseDomain = toAsciiLowercase domain := by
  refine ⟨normalizeValue_no_panic document proxyPort, ⟨?_, ?_⟩, ?_⟩
  · rintro ⟨⟨value, baseDomain⟩, ran⟩
    obtain ⟨root, rules, accepted, _⟩ := normalizeValue_ok ran
    exact ⟨root, rules, accepted⟩
  · rintro ⟨root, rules, accepted⟩
    exact normalizeValue_total proxyPort accepted
  · intro value baseDomain ran
    obtain ⟨root, rules, accepted, rule, member, domain, wildcard, rfl, rfl⟩ := normalizeValue_ok ran
    exact ⟨root, rules, _, rule, domain, _, accepted, rfl, changedAt_insert _ _ _, member, wildcard,
      changedAt_insert _ _ _, rfl⟩

end CfFw
