import CfFw.Error
import CfFw.OrderedMap
import CfFw.Text

/-! Ingress normalisation, from `cloudflare_config.rs`: the loop over the rules,
its accumulators and error exits, and the rebuilt document. Parsing and printing
YAML belong to another crate and are parameters of `normalizeYaml`. -/
namespace CfFw
open Text

/-- A YAML number; a float is kept as its bits. -/
inductive Number where
  | posInt (value : UInt64)
  | negInt (value : Int64)
  | float (bits : UInt64)
  deriving DecidableEq

/-- `serde_yml::Value` without tags. Mappings keep the order of their keys. -/
inductive Value where
  | null
  | bool (value : Bool)
  | number (value : Number)
  | string (value : String)
  | sequence (items : List Value)
  | mapping (entries : List (String × Value))

/-- `serde_yml::Mapping`. -/
abbrev Mapping := List (String × Value)

/-- `Value::as_str`. -/
def Value.asStr : Value → Option String
  | .string value => some value
  | _ => none

/-- The result of code that may also panic; `none` is the panic. -/
abbrev Panicking (α : Type) := Option α

/-- `wildcard_base_domain`'s test of one label. -/
def validLabel (label : String) : Bool :=
  decide (1 ≤ len label) && decide (len label ≤ 63) && !startsWith label '-' &&
    !endsWith label '-' && (bytes label).all fun b => isAsciiAlphanumeric b || b == hyphen

/-- `cloudflare_config.rs::wildcard_base_domain`. -/
def wildcardBaseDomain (hostname : String) (index : Nat) : Result (Option String) :=
  match stripPrefix hostname "*." with
  | none => .ok none
  | some domain =>
    let domain := toAsciiLowercase domain
    let valid := domain ≠ "" ∧ len domain ≤ 253 ∧ (split domain '.').all validLabel
    if valid then .ok (some domain)
    else .error (.invalidIngress
      s!"Ingress[{index}] contains an invalid wildcard hostname `{hostname}`.")

/-- `cloudflare_config.rs::mapping`. -/
def mapping (entries : List (String × Value)) : Mapping :=
  entries.foldl (fun result entry => OrderedMap.insert result entry.1 entry.2) []

/-- The managed rule, once found: its index and hostname as they were, the
rewritten rule and its base domain. -/
structure ManagedRule where
  index : Nat
  hostname : String
  rule : Mapping
  baseDomain : String

/-- The accumulators of the rule loop. -/
structure Scan where
  specific : List Value
  managed : Option ManagedRule
  fallback : Option Mapping

/-- The rule loop before its first iteration. -/
def Scan.start : Scan := ⟨[], none, none⟩

/-- The text of the error for a second wildcard. -/
def ambiguousWildcards (first : ManagedRule) (index : Nat) (hostname : String) : String :=
  "Ingress rules contain ambiguous multiple wildcard hostnames. Expected exactly one.\n\n" ++
  s!"Detected ingress[{first.index}]: {first.hostname}\n" ++
  s!"Detected ingress[{index}]: {hostname}\n\n" ++
  "Please choose one as the intended FW wildcard hostname and remove the others."

/-- A rule that carries a hostname and is not the managed one. -/
def keepSpecific (scan : Scan) (rule : Mapping) : Scan :=
  { scan with specific := scan.specific ++ [.mapping rule] }

/-- The loop body for a pathless rule with a string hostname. -/
def scanNamed (canonicalService : String) (index : Nat) (hostname : String) (rule : Mapping)
    (scan : Scan) : Result Scan :=
  match wildcardBaseDomain hostname index with
  | .error error => .error error
  | .ok none => .ok (keepSpecific scan rule)
  | .ok (some baseDomain) =>
    match scan.managed with
    | some first => .error (.invalidIngress (ambiguousWildcards first index hostname))
    | none =>
      let rule := OrderedMap.insert rule "service" (.string canonicalService)
      .ok { scan with managed := some ⟨index, hostname, rule, baseDomain⟩ }

/-- The loop body for a rule that is a mapping. -/
def scanMapping (canonicalService : String) (index : Nat) (rule : Mapping) (scan : Scan) :
    Result Scan :=
  if OrderedMap.containsKey rule "hostname" = false then
    if ((OrderedMap.get? rule "service").bind Value.asStr) = some "http_status:404" then
      .ok { scan with fallback := scan.fallback.or (some rule) }
    else .error (.invalidIngress
      s!"ingress[{index}] is a hostless catch-all whose service is not `http_status:404`")
  else
    let hostname := (OrderedMap.get? rule "hostname").bind Value.asStr
    if OrderedMap.containsKey rule "path" then .ok (keepSpecific scan rule)
    else match hostname with
    | none => .ok (keepSpecific scan rule)
    | some hostname => scanNamed canonicalService index hostname rule scan

/-- The loop body of `normalize_value`. -/
def scanRule (canonicalService : String) (index : Nat) (entry : Value) (scan : Scan) :
    Result Scan :=
  match entry with
  | .mapping rule => scanMapping canonicalService index rule scan
  | _ => .error (.invalidIngress s!"ingress[{index}] must be a mapping")

/-- The loop of `normalize_value` over the rules from `index` on. -/
def scanRules (canonicalService : String) : Nat → List Value → Scan → Result Scan
  | _, [], scan => .ok scan
  | index, entry :: rest, scan =>
    match scanRule canonicalService index entry scan with
    | .error error => .error error
    | .ok scan => scanRules canonicalService (index + 1) rest scan

/-- The rules of the document; a missing `ingress` has none. -/
def ingressEntries (root : Mapping) : Result (List Value) :=
  match OrderedMap.get? root "ingress" with
  | some (.sequence entries) => .ok entries
  | some _ => .error (.invalidIngress "`ingress` must be a sequence")
  | none => .ok []

/-- The service the managed rule is given. -/
def canonicalService (proxyPort : UInt16) : String := s!"http://{loopbackHost}:{proxyPort}"

/-- A fallback rule made from nothing. -/
def freshFallback : Mapping := mapping [("service", .string "http_status:404")]

/-- What `normalize_value` does with the accumulators after the loop. Writing
`ingress` back expects the key to be there. -/
def rebuild (root : Mapping) (scan : Scan) : Panicking (Result (Value × String)) :=
  match scan.managed with
  | none => some (.error (.invalidIngress
      ("No pathless wildcard hostname was found. Expected exactly one rule such as " ++
        "`hostname: \"*.example.com\"`.")))
  | some managed =>
    let fallback := scan.fallback.getD freshFallback
    let rules := scan.specific ++ [.mapping managed.rule] ++ [.mapping fallback]
    if OrderedMap.containsKey root "ingress" then
      some (.ok (.mapping (OrderedMap.insert root "ingress" (.sequence rules)),
        managed.baseDomain))
    else none

/-- `cloudflare_config.rs::normalize_value`. -/
def normalizeValue (document : Value) (proxyPort : UInt16) :
    Panicking (Result (Value × String)) :=
  match document with
  | .mapping root =>
    match ingressEntries root with
    | .error error => some (.error error)
    | .ok entries =>
      match scanRules (canonicalService proxyPort) 0 entries Scan.start with
      | .error error => some (.error error)
      | .ok scan => rebuild root scan
  | _ => some (.error (.invalidIngress "the YAML document must be a top-level mapping"))

/-- `cloudflare_config.rs::NormalizedConfig`. -/
structure NormalizedConfig where
  yaml : String
  baseDomain : String

/-- `cloudflare_config.rs::normalize_yaml`, for the YAML crate's parser and
printer. -/
def normalizeYaml (parse : String → Except String Value) (print : Value → Result String)
    (input : String) (proxyPort : UInt16) : Panicking (Result NormalizedConfig) :=
  match parse input with
  | .error error => some (.error (.invalidIngress s!"Invalid YAML: {error}"))
  | .ok document =>
    match normalizeValue document proxyPort with
    | none => none
    | some (.error error) => some (.error error)
    | some (.ok (normalized, baseDomain)) =>
      match print normalized with
      | .error error => some (.error error)
      | .ok yaml => some (.ok { yaml, baseDomain })

end CfFw
