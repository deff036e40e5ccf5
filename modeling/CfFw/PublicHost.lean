import CfFw.Headers
import CfFw.NormalizeContract
import CfFw.RegistryInvariant
import Mathlib.Data.List.TakeWhile

/-! The public URL of a route leads back to that route. The slug rules of
registration and of the proxy agree, the base domain is in lower case, and so
stripping it from the host is undoing the URL's construction. -/
namespace CfFw
open Text

variable {http : Http} {registry : RouteRegistry} {route : Route} {request : Request http}
  {authority : http.Authority} {baseDomain : String}

/-- The name under which a route is published. -/
def publicName (route : Route) (baseDomain : String) : String := route.slug ++ "." ++ baseDomain

/-- A DNS name as it is written in a URL. -/
def HostName (name : String) : Prop :=
  name ≠ "" ∧ len name ≤ 512 ∧ ∀ c ∈ name.toList, c.isAlphanum = true ∨ c = '-' ∨ c = '.'

/-- What the proxy relies on in `http::uri::Authority`: a DNS name is an
authority, alone or with a port, and the port is no part of its host. -/
def Http.StripsPort (http : Http) : Prop :=
  ∀ name, HostName name →
    (∃ authority, http.parseAuthority name = some authority ∧ http.host authority = name) ∧
    ∀ port : UInt16, ∃ authority, http.parseAuthority s!"{name}:{port}" = some authority ∧
      http.host authority = name

/-- The proxy accepts exactly the slugs that registration accepts. -/
theorem validSlug_eq_true (slug : String) : validSlug slug = true ↔ ValidSlug slug := by
  have nonempty : 1 ≤ len slug ↔ slug ≠ "" := by
    rw [Nat.one_le_iff_ne_zero, ne_eq, len_eq_zero]
  have same : (fun b => isAsciiLowercase b || isAsciiDigit b || b == hyphen) = isSlugByte := rfl
  simp only [validSlug_iff, validSlug, maxSlugLen, Bool.and_eq_true, decide_eq_true_eq,
    Bool.not_eq_true', nonempty, same]
  constructor
  · rintro ⟨⟨⟨⟨⟨present, short⟩, first⟩, last⟩, letters⟩, characters⟩
    exact ⟨present, short, first, last, characters, letters⟩
  · rintro ⟨present, short, first, last, characters, letters⟩
    exact ⟨⟨⟨⟨⟨present, short⟩, first⟩, last⟩, letters⟩, characters⟩

/-- Parsing a host undoes the construction of a public name. -/
theorem parsePublicHost_eq_some {host : String} {parsed : PublicHost} :
    parsePublicHost host baseDomain = some parsed ↔
      toAsciiLowercase host = parsed.slug ++ "." ++ baseDomain ∧ ValidSlug parsed.slug ∧
        parsed.hostname = toAsciiLowercase host := by
  have suffix : s!".{baseDomain}" = "." ++ baseDomain := by simp [toString]
  simp only [parsePublicHost, suffix]
  cases stripped : stripSuffix (toAsciiLowercase host) ("." ++ baseDomain) with
  | none =>
    refine iff_of_false (by simp) ?_
    rintro ⟨shape, _, _⟩
    rw [String.append_assoc] at shape
    rw [stripSuffix_eq_some.mpr shape] at stripped
    cases stripped
  | some slug =>
    have shape := stripSuffix_eq_some.mp stripped
    have determined : toAsciiLowercase host = parsed.slug ++ "." ++ baseDomain ↔
        slug = parsed.slug := by
      rw [String.append_assoc, ← stripSuffix_eq_some, stripped, Option.some.injEq]
    rw [determined]
    obtain ⟨parsedSlug, parsedHostname⟩ := parsed
    by_cases valid : ValidSlug slug
    · simp only [(validSlug_eq_true slug).mpr valid, ↓reduceIte, Option.some.injEq,
        PublicHost.mk.injEq]
      constructor
      · rintro ⟨rfl, rfl⟩
        exact ⟨rfl, valid, rfl⟩
      · rintro ⟨rfl, _, rfl⟩
        exact ⟨rfl, rfl⟩
    · have refused : validSlug slug = false := by
        rw [Bool.eq_false_iff]
        exact fun accepted => valid ((validSlug_eq_true slug).mp accepted)
      simp only [refused, Bool.false_eq_true, ↓reduceIte, reduceCtorEq, false_iff]
      rintro ⟨rfl, accepted, _⟩
      exact valid accepted

/-! ### The base domain -/

/-- A base domain is the lower case of a valid domain. -/
theorem wildcardBaseDomain_eq_some {hostname : String} {index : Nat}
    (configured : wildcardBaseDomain hostname index = .ok (some baseDomain)) :
    ∃ domain, ValidDomain domain ∧ baseDomain = toAsciiLowercase domain := by
  cases starred : stripPrefix hostname "*." with
  | none => simp [wildcardBaseDomain, starred] at configured
  | some domain =>
    by_cases valid : ValidDomain domain
    · rw [wildcardBaseDomain_ok starred valid] at configured
      cases configured
      exact ⟨domain, valid, rfl⟩
    · obtain ⟨error, failed⟩ := @wildcardBaseDomain_error _ index _ starred valid
      rw [failed] at configured
      cases configured

/-- The characters of a valid domain. -/
theorem ValidDomain.characters {domain : String} (valid : ValidDomain domain) :
    ∀ c ∈ domain.toList, c.isAlphanum = true ∨ c = '-' ∨ c = '.' := by
  intro c member
  rcases mem_split '.' member with rfl | ⟨label, listed, inLabel⟩
  · exact .inr (.inr rfl)
  · rcases (valid.labels label listed).characters c inLabel with letter | rfl
    · exact .inl letter
    · exact .inr (.inl rfl)

/-! ### Forwarding -/

/-- A host leads to a route exactly when, in lower case, it is the public name
of that route. -/
theorem forwardRoute_eq_some (wellFormed : registry.WellFormed)
    (read : requestAuthority request = some authority) (live : registry.Live route)
    {target : ProxyRoute} (same : target.target = route.target) :
    forwardRoute registry baseDomain request = some target ↔
      toAsciiLowercase (http.host authority) = publicName route baseDomain ∧
        target.metrics = route.metrics := by
  simp only [forwardRoute, extractPublicHost, read, Option.bind_some, Option.bind_eq_some_iff,
    RouteRegistry.lookup, RouteRegistry.routeForSlug, Option.map_eq_some_iff]
  constructor
  · rintro ⟨parsed, accepted, found, present, rfl⟩
    obtain ⟨shape, _, _⟩ := parsePublicHost_eq_some.mp accepted
    have foundLive := wellFormed.live present
    obtain rfl := RouteRegistry.live_port_unique wellFormed foundLive live
      (congrArg SocketAddr.port same)
    rw [← wellFormed.keyed present] at shape
    exact ⟨shape, rfl⟩
  · rintro ⟨shape, sameMetrics⟩
    refine ⟨⟨route.slug, _⟩, parsePublicHost_eq_some.mpr ⟨shape, ?_, rfl⟩, route, live, ?_⟩
    · exact (wellFormed.valid live).1
    · rw [← same, ← sameMetrics]

/-- Any other host leads nowhere. -/
theorem forwardRoute_eq_none (wellFormed : registry.WellFormed)
    (read : requestAuthority request = some authority)
    (foreign : ∀ route, registry.Live route →
      toAsciiLowercase (http.host authority) ≠ publicName route baseDomain) :
    forwardRoute registry baseDomain request = none := by
  simp only [forwardRoute, extractPublicHost, read, Option.bind_some, Option.bind_eq_none_iff,
    RouteRegistry.lookup, RouteRegistry.routeForSlug, Option.map_eq_none_iff]
  intro parsed accepted
  obtain ⟨shape, _, _⟩ := parsePublicHost_eq_some.mp accepted
  cases present : registry.bySlug[parsed.slug]? with
  | none => rfl
  | some found =>
    rw [← wellFormed.keyed present] at shape
    exact absurd shape (foreign found (wellFormed.live present))

private theorem hostCharacter_toLower (c : Char) :
    (c.toLower.isAlphanum = true ∨ c.toLower = '-' ∨ c.toLower = '.') ↔
      (c.isAlphanum = true ∨ c = '-' ∨ c = '.') := by
  have same : ∀ separator : Char, separator = '-' ∨ separator = '.' →
      (c.toLower = separator ↔ c = separator) := by
    rintro separator (rfl | rfl) <;> exact toLower_eq_iff (by decide) c (by decide)
  rw [isAlphanum_toLower, same '-' (.inl rfl), same '.' (.inr rfl)]

/-- The text of a request's `Host` header. -/
def hostHeader (request : Request http) : Option String :=
  (headerValue request "host").bind http.toStr

/-- A public name, in any letter case, is a DNS name. -/
theorem hostName_of_publicName {written domain : String} (valid : ValidSlug route.slug)
    (validDomain : ValidDomain domain)
    (same : toAsciiLowercase written = publicName route (toAsciiLowercase domain)) :
    HostName written := by
  have shape : toAsciiLowercase written = route.slug ++ "." ++ toAsciiLowercase domain := same
  have length : len written = len route.slug + 1 + len domain := by
    rw [← len_toAsciiLowercase written, shape]
    simp only [len_append, len_toAsciiLowercase]
    rfl
  refine ⟨?_, ?_, fun c member => ?_⟩
  · rintro rfl
    have zero : len "" = 0 := rfl
    omega
  · have slugShort := (validSlug_iff.mp valid).2.1
    have domainShort := validDomain.short
    simp only [maxSlugLen] at slugShort
    omega
  · have lowered : c.toLower ∈ (toAsciiLowercase written).toList := by
      rw [toList_toAsciiLowercase]
      exact List.mem_map_of_mem member
    rw [shape, String.toList_append, String.toList_append, List.mem_append, List.mem_append]
      at lowered
    refine (hostCharacter_toLower c).mp ?_
    rcases lowered with (inSlug | inDot) | inDomain
    · have range := valid.characters _ inSlug
      rw [isAlphanum_iff, ← Char.toNat_inj]
      have dash : '-'.toNat = 45 := rfl
      omega
    · exact .inr (.inr (List.mem_singleton.mp inDot))
    · rw [toList_toAsciiLowercase] at inDomain
      obtain ⟨d, inDomain, sameLower⟩ := List.mem_map.mp inDomain
      rw [← sameLower]
      exact (hostCharacter_toLower d).mpr (validDomain.characters d inDomain)

/-- **The public URL reaches exactly its route.** In every reachable registry
and for every configured base domain, a request is forwarded to a live route
exactly when its host, in lower case, is that route's public name, and to
nothing when it is no live route's public name. The name in a live route's
public URL, in any letter case and with any port, is forwarded to that route. -/
theorem public_url_reaches_its_route {R : Type} [Rng R]
    (operations : List (RouteRegistry.Operation R)) (http : Http)
    (strips : http.StripsPort) {hostname : String} {index : Nat} {baseDomain : String}
    (configured : wildcardBaseDomain hostname index = .ok (some baseDomain)) :
    let registry := RouteRegistry.reached operations
    (∀ (request : Request http) (authority : http.Authority),
      requestAuthority request = some authority →
        (∀ route, registry.Live route →
          ((forwardRoute registry baseDomain request).map ProxyRoute.target = some route.target ↔
            toAsciiLowercase (http.host authority) = route.slug ++ "." ++ baseDomain)) ∧
        ((∀ route, registry.Live route →
            toAsciiLowercase (http.host authority) ≠ route.slug ++ "." ++ baseDomain) →
          forwardRoute registry baseDomain request = none)) ∧
    ∀ route, registry.Live route → ∀ name written : String,
      (route.view baseDomain).publicUrl = "https://" ++ name →
      toAsciiLowercase written = toAsciiLowercase name →
      ∀ request : Request http, request.uriAuthority = none →
        (hostHeader request = some written ∨
          ∃ port : UInt16, hostHeader request = some s!"{written}:{port}") →
        forwardRoute registry baseDomain request = some ⟨route.target, route.metrics⟩ := by
  intro registry
  have wellFormed : registry.WellFormed := RouteRegistry.wellFormed_reached operations
  obtain ⟨domain, validDomain, rfl⟩ := wildcardBaseDomain_eq_some configured
  refine ⟨fun request authority read => ⟨fun route live => ?_, ?_⟩, ?_⟩
  · rw [Option.map_eq_some_iff]
    constructor
    · rintro ⟨target, forwarded, same⟩
      exact ((forwardRoute_eq_some wellFormed read live same).mp forwarded).1
    · intro shape
      have forwarded := (@forwardRoute_eq_some _ _ _ _ _ _ wellFormed read live
        ⟨route.target, route.metrics⟩ rfl).mpr ⟨shape, rfl⟩
      exact ⟨_, forwarded, rfl⟩
  · exact forwardRoute_eq_none wellFormed read
  · intro route live name written url same request noUri header
    have valid : ValidSlug route.slug := (wellFormed.valid live).1
    have named : name = publicName route (toAsciiLowercase domain) := by
      simp only [Route.view, RouteView.new] at url
      apply String.toList_inj.mp
      simpa [publicName, toString] using (congrArg String.toList url).symm
    have shape : toAsciiLowercase written = publicName route (toAsciiLowercase domain) := by
      rw [same, named, publicName, toAsciiLowercase_append, toAsciiLowercase_append,
        toAsciiLowercase_idem, valid.lowercase]
      rfl
    obtain ⟨alone, withPort⟩ := strips written (hostName_of_publicName valid validDomain shape)
    have read : ∃ authority, requestAuthority request = some authority ∧
        http.host authority = written := by
      simp only [hostHeader] at header
      rcases header with plain | ⟨port, ported⟩
      · obtain ⟨authority, parsed, host⟩ := alone
        exact ⟨authority, by simp [requestAuthority, noUri, plain, parsed], host⟩
      · obtain ⟨authority, parsed, host⟩ := withPort port
        exact ⟨authority, by simp only [requestAuthority, noUri, ported, Option.bind_some, parsed],
          host⟩
    obtain ⟨authority, read, host⟩ := read
    exact (@forwardRoute_eq_some _ _ _ _ _ _ wellFormed read live _ rfl).mpr
      ⟨by rw [host, shape], rfl⟩

/-- Authorities kept as text, for hosts without user information or brackets. -/
def textHttp : Http where
  Authority := String
  HeaderValue := String
  host authority := String.ofList (authority.toList.takeWhile (· ≠ ':'))
  parseAuthority text := if text = "" then none else some text
  toStr := some

theorem textHttp_stripsPort : textHttp.StripsPort := by
  rintro name ⟨nonempty, _, characters⟩
  have noColon : ∀ c ∈ name.toList, decide (c ≠ ':') = true := by
    intro c member
    rw [decide_eq_true_eq]
    rintro rfl
    have colon := characters ':' member
    revert colon
    decide
  have whole : String.ofList (name.toList.takeWhile (· ≠ ':')) = name := by
    rw [List.takeWhile_eq_self_iff.mpr noColon, String.ofList_toList]
  refine ⟨⟨name, if_neg nonempty, whole⟩, fun port => ?_⟩
  have shape : s!"{name}:{port}".toList = name.toList ++ ':' :: (toString port).toList := by
    simp [toString]
  refine ⟨s!"{name}:{port}", if_neg ?_, ?_⟩
  · intro empty
    rw [empty] at shape
    simp at shape
  · have front : (name.toList ++ ':' :: (toString port).toList).takeWhile (· ≠ ':') =
        name.toList := by
      rw [List.takeWhile_append_of_pos noColon]
      simp
    change String.ofList (s!"{name}:{port}".toList.takeWhile (· ≠ ':')) = name
    rw [shape, front, String.ofList_toList]

/-- A request for a registered route's public name, in mixed case and with a
port, arrives at that route. -/
theorem public_url_reaches_app :
    forwardRoute (RouteRegistry.reached
        [.register 3000 (some "App") 1 42 (⟨[]⟩ : DrawStream) ⟨0, 7⟩])
      "example.com" (⟨none, [("host", "app.EXAMPLE.com:8080")]⟩ : Request textHttp) =
      some ⟨⟨.localhost, 3000⟩, 7⟩ :=
  (public_url_reaches_its_route _ textHttp textHttp_stripsPort
    (show wildcardBaseDomain "*.Example.com" 0 = .ok (some "example.com") by decide)).2
    ⟨"app", ⟨.localhost, 3000⟩, 1, 42, 0, 7⟩ (by decide) "app.example.com"
    "app.EXAMPLE.com" (by decide) (by decide) _ rfl (.inr ⟨8080, by decide⟩)

end CfFw
