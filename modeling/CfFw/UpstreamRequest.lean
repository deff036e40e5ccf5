import CfFw.JsonText
import CfFw.PublicHost

/-! The request that the proxy sends to the local service: `rewrite_for_upstream` of
`proxy/headers.rs` and `forward` of `proxy/mod.rs` up to its send. Header names are
lowercase, as the `http` crate keeps them, and iteration over different names has no
order there, so a header map is known by the values under each name. -/
namespace CfFw
open Text

variable {http : Http}

/-! ### Header maps -/

namespace HeaderMap

/-- `HeaderMap::get_all`. -/
def getAll (headers : List (String × http.HeaderValue)) (name : String) : List http.HeaderValue :=
  (headers.filter fun header => header.1 = name).map Prod.snd

/-- `HeaderMap::insert`: the value replaces all values of the name. -/
def insert (headers : List (String × http.HeaderValue)) (name : String)
    (value : http.HeaderValue) : List (String × http.HeaderValue) :=
  (headers.filter fun header => header.1 ≠ name) ++ [(name, value)]

variable {headers : List (String × http.HeaderValue)} {name other : String}
  {value : http.HeaderValue}

@[simp] theorem getAll_insert_self : getAll (insert headers name value) name = [value] := by
  simp [getAll, insert, List.filter_append, List.filter_filter]

private theorem getAll_insert_ne (different : other ≠ name) :
    getAll (insert headers name value) other = getAll headers other := by
  have kept : (headers.filter fun header => header.1 ≠ name).filter
      (fun header => header.1 = other) = headers.filter fun header => header.1 = other := by
    rw [List.filter_filter]
    apply List.filter_congr
    intro header _
    by_cases same : header.1 = other
    · simp [same, different]
    · simp [same]
  have absent : [(name, value)].filter (fun header => header.1 = other) = [] := by
    simp [different.symm]
  rw [getAll, insert, List.filter_append, kept, absent, List.append_nil, getAll]

end HeaderMap

/-! ### Requests -/

/-- What rewriting uses of the `http` crate besides `Http`: paths with queries,
`PathAndQuery::from_static("/")`, `HeaderValue::from_str` and
`HeaderValue::from_static("https")`. -/
structure Rewriting (http : Http) where
  PathAndQuery : Type
  root : PathAndQuery
  headerValue : String → Option http.HeaderValue
  https : http.HeaderValue

/-- What the proxy relies on there: text of visible ASCII characters is a header
value and reads back. -/
structure Rewriting.Lawful (rewriting : Rewriting http) : Prop where
  visible : ∀ text : String, (∀ c ∈ text.toList, 33 ≤ c.toNat ∧ c.toNat ≤ 126) →
    ∃ value, rewriting.headerValue text = some value ∧ http.toStr value = some text
  https : http.toStr rewriting.https = some "https"

variable {rewriting : Rewriting http} {β : Type}

/-- `http::Request`: besides what the host is read from, its `Uri::path_and_query`
and everything that rewriting leaves alone. -/
structure ClientRequest (rewriting : Rewriting http) (β : Type) extends Request http where
  pathAndQuery : Option rewriting.PathAndQuery
  rest : β

/-- A URI with all of its parts. -/
structure Uri (rewriting : Rewriting http) where
  scheme : String
  authority : String
  pathAndQuery : rewriting.PathAndQuery

/-- A rewritten request. -/
structure UpstreamRequest (rewriting : Rewriting http) (β : Type) where
  uri : Uri rewriting
  headers : List (String × http.HeaderValue)
  rest : β

/-- The two errors that `http::Error` wraps here. -/
inductive RewriteError where
  | invalidUri
  | invalidHeaderValue

/-- `proxy/headers.rs::rewrite_for_upstream`. -/
def rewriteForUpstream (request : ClientRequest rewriting β) (target : SocketAddr)
    (publicHostname : String) : Except RewriteError (UpstreamRequest rewriting β) :=
  let pathAndQuery := request.pathAndQuery.getD rewriting.root
  let connectorAuthority := s!"localhost:{target.port}"
  let upstreamAuthority := s!"127.0.0.1:{target.port}"
  match http.parseAuthority connectorAuthority with
  | none => .error .invalidUri
  | some _ =>
    match rewriting.headerValue upstreamAuthority with
    | none => .error .invalidHeaderValue
    | some host =>
      match rewriting.headerValue publicHostname with
      | none => .error .invalidHeaderValue
      | some forwardedHost =>
        let headers := HeaderMap.insert request.headers "host" host
        let headers := HeaderMap.insert headers "x-forwarded-host" forwardedHost
        let headers := HeaderMap.insert headers "x-forwarded-proto" rewriting.https
        .ok ⟨⟨"http", connectorAuthority, pathAndQuery⟩, headers, request.rest⟩

/-- How `Proxy::forward` goes on: one of its own answers, or the request it sends. -/
inductive Forwarded (rewriting : Rewriting http) (β : Type) where
  | invalidHost
  | notFound
  | serverError
  | upstream (request : UpstreamRequest rewriting β) (route : ProxyRoute)

/-- `Proxy::forward`, up to the request it sends. -/
def forward (registry : RouteRegistry) (baseDomain : String)
    (request : ClientRequest rewriting β) : Forwarded rewriting β :=
  match extractPublicHost request.toRequest baseDomain with
  | none => .invalidHost
  | some publicHost =>
    match registry.lookup publicHost.slug with
    | none => .notFound
    | some route =>
      if route.target.ip ≠ .localhost then .serverError
      else
        match rewriteForUpstream request route.target publicHost.hostname with
        | .error _ => .serverError
        | .ok request => .upstream request route

/-- The headers that the proxy sets. -/
def rewrittenHeaders : List String := ["host", "x-forwarded-host", "x-forwarded-proto"]

/-- The values of a header read as texts. -/
def headerTexts (headers : List (String × http.HeaderValue)) (name : String) :
    List (Option String) :=
  (HeaderMap.getAll headers name).map http.toStr

variable {request : ClientRequest rewriting β} {sent : UpstreamRequest rewriting β}
  {target : SocketAddr} {hostname baseDomain : String} {registry : RouteRegistry}
  {publicHost : PublicHost} {route : Route} {port : UInt16}

/-- The request that goes to the service on a port, made of a client's request whose
host is the given name. -/
structure SentFor (request : ClientRequest rewriting β) (hostname : String) (port : UInt16)
    (sent : UpstreamRequest rewriting β) : Prop where
  uri : sent.uri = ⟨"http", s!"localhost:{port}", request.pathAndQuery.getD rewriting.root⟩
  host : headerTexts sent.headers "host" = [some s!"127.0.0.1:{port}"]
  forwardedHost : headerTexts sent.headers "x-forwarded-host" = [some hostname]
  forwardedProto : headerTexts sent.headers "x-forwarded-proto" = [some "https"]
  others : ∀ name, name ∉ rewrittenHeaders →
    HeaderMap.getAll sent.headers name = HeaderMap.getAll request.headers name
  rest : sent.rest = request.rest

/-- The two requests differ in nothing but the headers that the proxy sets. -/
structure SameApartFromHost (first second : ClientRequest rewriting β) : Prop where
  pathAndQuery : first.pathAndQuery = second.pathAndQuery
  others : ∀ name, name ∉ rewrittenHeaders →
    HeaderMap.getAll first.headers name = HeaderMap.getAll second.headers name
  rest : first.rest = second.rest

/-- The service cannot tell the two requests apart. -/
structure SameUpstream (first second : UpstreamRequest rewriting β) : Prop where
  uri : first.uri = second.uri
  headers : ∀ name, HeaderMap.getAll first.headers name = HeaderMap.getAll second.headers name
  rest : first.rest = second.rest

/-! ### Rewriting -/

/-- What a rewritten request consists of. -/
theorem rewriteForUpstream_ok (rewritten : rewriteForUpstream request target hostname = .ok sent) :
    sent.uri = ⟨"http", s!"localhost:{target.port}", request.pathAndQuery.getD rewriting.root⟩ ∧
      sent.rest = request.rest ∧
      ∃ host forwardedHost, rewriting.headerValue s!"127.0.0.1:{target.port}" = some host ∧
        rewriting.headerValue hostname = some forwardedHost ∧
        ∀ name, HeaderMap.getAll sent.headers name =
          if name = "x-forwarded-proto" then [rewriting.https]
          else if name = "x-forwarded-host" then [forwardedHost]
          else if name = "host" then [host]
          else HeaderMap.getAll request.headers name := by
  simp only [rewriteForUpstream] at rewritten
  cases parsed : http.parseAuthority s!"localhost:{target.port}" with
  | none => simp [parsed] at rewritten
  | some _ =>
    cases value : rewriting.headerValue s!"127.0.0.1:{target.port}" with
    | none => simp [parsed, value] at rewritten
    | some host =>
      cases named : rewriting.headerValue hostname with
      | none => simp [parsed, value, named] at rewritten
      | some forwardedHost =>
        simp only [parsed, value, named, Except.ok.injEq] at rewritten
        subst rewritten
        refine ⟨rfl, rfl, host, forwardedHost, rfl, rfl, fun name => ?_⟩
        split_ifs with proto forwarded host
        · subst proto
          exact HeaderMap.getAll_insert_self
        · subst forwarded
          rw [HeaderMap.getAll_insert_ne proto, HeaderMap.getAll_insert_self]
        · subst host
          rw [HeaderMap.getAll_insert_ne proto, HeaderMap.getAll_insert_ne forwarded,
            HeaderMap.getAll_insert_self]
        · rw [HeaderMap.getAll_insert_ne proto, HeaderMap.getAll_insert_ne forwarded,
            HeaderMap.getAll_insert_ne host]

/-- The error branches are not reached once the three texts are accepted. -/
theorem rewriteForUpstream_isOk {authority : http.Authority} {host forwardedHost : http.HeaderValue}
    (parsed : http.parseAuthority s!"localhost:{target.port}" = some authority)
    (value : rewriting.headerValue s!"127.0.0.1:{target.port}" = some host)
    (named : rewriting.headerValue hostname = some forwardedHost) :
    ∃ sent, rewriteForUpstream request target hostname = .ok sent := by
  simp only [rewriteForUpstream, parsed, value, named]
  exact ⟨_, rfl⟩

private theorem loopback_text_visible (port : UInt16) :
    ∀ c ∈ (s!"127.0.0.1:{port}").toList, 33 ≤ c.toNat ∧ c.toNat ≤ 126 := by
  have shape : (s!"127.0.0.1:{port}").toList = "127.0.0.1:".toList ++ port.toNat.repr.toList := by
    simp [toString]
  have address : ∀ c ∈ "127.0.0.1:".toList, 33 ≤ c.toNat ∧ c.toNat ≤ 126 :=
    forall_mem_of_all (by decide)
  rw [shape]
  intro c member
  rcases List.mem_append.mp member with inAddress | inPort
  · exact address c inAddress
  · have digit := JsonText.digit_of_mem_repr inPort
    omega

theorem HostName.visible {name : String} (valid : HostName name) :
    ∀ c ∈ name.toList, 33 ≤ c.toNat ∧ c.toNat ≤ 126 := by
  intro c member
  rcases valid.2.2 c member with letter | rfl | rfl
  · have range := (isAlphanum_iff c).mp letter
    omega
  · decide
  · decide

/-- The name that a request is forwarded under is a DNS name in lower case. -/
theorem publicHost_hostName (wellFormed : registry.WellFormed)
    {domain : String} (validDomain : ValidDomain domain)
    (extracted : extractPublicHost request.toRequest (toAsciiLowercase domain) = some publicHost)
    (found : registry.routeForSlug publicHost.slug = some route) :
    publicHost.hostname = publicName route (toAsciiLowercase domain) ∧
      toAsciiLowercase publicHost.hostname = publicHost.hostname ∧
      HostName publicHost.hostname := by
  obtain ⟨authority, _, parsed⟩ := Option.bind_eq_some_iff.mp extracted
  obtain ⟨shape, valid, lowered⟩ := parsePublicHost_eq_some.mp parsed
  have keyed : route.slug = publicHost.slug := wellFormed.keyed found
  have named : publicHost.hostname = publicName route (toAsciiLowercase domain) := by
    rw [lowered, shape, publicName, keyed]
  have idem : toAsciiLowercase publicHost.hostname = publicHost.hostname := by
    rw [lowered, toAsciiLowercase_idem]
  refine ⟨named, idem, hostName_of_publicName (keyed ▸ valid) validDomain ?_⟩
  rw [idem, named]

/-- The hostname determines the slug. -/
theorem publicHost_unique {first second : Request http} {firstHost secondHost : PublicHost}
    (firstExtracted : extractPublicHost first baseDomain = some firstHost)
    (secondExtracted : extractPublicHost second baseDomain = some secondHost)
    (sameName : firstHost.hostname = secondHost.hostname) : secondHost = firstHost := by
  obtain ⟨_, _, firstParsed⟩ := Option.bind_eq_some_iff.mp firstExtracted
  obtain ⟨_, _, secondParsed⟩ := Option.bind_eq_some_iff.mp secondExtracted
  obtain ⟨firstShape, _, firstLowered⟩ := parsePublicHost_eq_some.mp firstParsed
  obtain ⟨secondShape, _, secondLowered⟩ := parsePublicHost_eq_some.mp secondParsed
  have slugs : secondHost.slug ++ "." ++ baseDomain = firstHost.slug ++ "." ++ baseDomain := by
    rw [← secondShape, ← firstShape, ← secondLowered, ← firstLowered, sameName]
  have lists := congrArg String.toList slugs
  simp only [String.toList_append] at lists
  have slug : secondHost.slug = firstHost.slug :=
    String.toList_inj.mp (List.append_cancel_right (List.append_cancel_right lists))
  obtain ⟨_, _⟩ := firstHost
  obtain ⟨_, _⟩ := secondHost
  cases slug
  cases sameName
  rfl

/-- Every request whose host has a live route is sent to it. -/
theorem forward_eq_upstream (wellFormed : registry.WellFormed) (strips : http.StripsPort)
    (lawful : rewriting.Lawful) {domain : String} (validDomain : ValidDomain domain)
    (extracted : extractPublicHost request.toRequest (toAsciiLowercase domain) = some publicHost)
    (found : registry.routeForSlug publicHost.slug = some route) :
    ∃ sent, forward registry (toAsciiLowercase domain) request =
        .upstream sent ⟨route.target, route.metrics⟩ ∧
      rewriteForUpstream request route.target publicHost.hostname = .ok sent := by
  obtain ⟨_, _, name⟩ := publicHost_hostName wellFormed validDomain extracted found
  have localhost : HostName "localhost" := 
    ⟨by decide, by decide, forall_mem_of_all (by decide)⟩
  obtain ⟨authority, parsed, _⟩ := (strips "localhost" localhost).2 route.target.port
  obtain ⟨host, value, _⟩ := lawful.visible _ (loopback_text_visible route.target.port)
  obtain ⟨forwardedHost, named, _⟩ := lawful.visible _ name.visible
  have parsedPort : http.parseAuthority s!"localhost:{route.target.port}" = some authority := by
    simpa [toString] using parsed
  obtain ⟨sent, rewritten⟩ := @rewriteForUpstream_isOk _ _ _ request _ _ _ _ _ parsedPort value named
  refine ⟨sent, ?_, rewritten⟩
  have loopback : route.target.ip = .localhost := (wellFormed.valid found).2.1
  simp only [forward, extracted, RouteRegistry.lookup, found, Option.map_some, loopback, ne_eq,
    not_true_eq_false, ↓reduceIte, rewritten]

/-- What a rewritten request says to the service. -/
theorem sentFor_of_rewritten (lawful : rewriting.Lawful) (name : HostName hostname)
    (rewritten : rewriteForUpstream request target hostname = .ok sent) :
    SentFor request hostname target.port sent := by
  obtain ⟨uri, rest, host, forwardedHost, value, named, headers⟩ := rewriteForUpstream_ok rewritten
  obtain ⟨_, accepted, readHost⟩ := lawful.visible _ (loopback_text_visible target.port)
  rw [value] at accepted
  cases accepted
  obtain ⟨_, accepted, readForwarded⟩ := lawful.visible _ name.visible
  rw [named] at accepted
  cases accepted
  refine ⟨uri, ?_, ?_, ?_, fun other unset => ?_, rest⟩
  · simp [headerTexts, headers, readHost]
  · simp [headerTexts, headers, readForwarded]
  · simp [headerTexts, headers, lawful.https]
  · simp only [rewrittenHeaders, List.mem_cons, List.not_mem_nil, or_false, not_or] at unset
    rw [headers, if_neg unset.2.2, if_neg unset.2.1, if_neg unset.1]

/-- Requests that differ in the three headers only are rewritten to the same. -/
theorem sameUpstream_of_rewritten {first second : ClientRequest rewriting β}
    {firstSent secondSent : UpstreamRequest rewriting β} (same : SameApartFromHost first second)
    (firstRewritten : rewriteForUpstream first target hostname = .ok firstSent)
    (secondRewritten : rewriteForUpstream second target hostname = .ok secondSent) :
    SameUpstream firstSent secondSent := by
  obtain ⟨uri, rest, host, forwardedHost, value, named, headers⟩ :=
    rewriteForUpstream_ok firstRewritten
  obtain ⟨uri', rest', host', forwardedHost', value', named', headers'⟩ :=
    rewriteForUpstream_ok secondRewritten
  rw [value] at value'
  cases value'
  rw [named] at named'
  cases named'
  refine ⟨?_, fun name => ?_, ?_⟩
  · rw [uri, uri', same.pathAndQuery]
  · rw [headers, headers']
    split_ifs with proto forwarded isHost
    · rfl
    · rfl
    · rfl
    · exact same.others name (by simp [rewrittenHeaders, proto, forwarded, isHost])
  · rw [rest, rest', same.rest]

/-- **Upstream requests cannot be spoofed.** In every reachable registry and for every
configured base domain, a request whose host belongs to a live route is sent to that
route's port with the host headers the proxy sets and everything else unchanged, and
the name it carries is the lowercase public name of the route. Two requests for the
same name that differ in those headers only reach the service as the same request. -/
theorem forwarded_request_unspoofed {R : Type} [Rng R]
    (operations : List (RouteRegistry.Operation R)) (http : Http) (rewriting : Rewriting http)
    (strips : http.StripsPort) (lawful : rewriting.Lawful) {configured : String} {index : Nat}
    {baseDomain : String}
    (base : wildcardBaseDomain configured index = .ok (some baseDomain)) :
    let registry := RouteRegistry.reached operations
    (∀ (request : ClientRequest rewriting β) (publicHost : PublicHost) (route : Route),
      extractPublicHost request.toRequest baseDomain = some publicHost →
      registry.routeForSlug publicHost.slug = some route →
      publicHost.hostname = publicName route baseDomain ∧
        toAsciiLowercase publicHost.hostname = publicHost.hostname ∧
        ∃ sent, forward registry baseDomain request =
            .upstream sent ⟨route.target, route.metrics⟩ ∧
          SentFor request publicHost.hostname route.port sent) ∧
    ∀ (first second : ClientRequest rewriting β) (firstHost secondHost : PublicHost)
      (route : Route),
      extractPublicHost first.toRequest baseDomain = some firstHost →
      extractPublicHost second.toRequest baseDomain = some secondHost →
      firstHost.hostname = secondHost.hostname →
      registry.routeForSlug firstHost.slug = some route →
      SameApartFromHost first second →
      ∃ firstSent secondSent,
        forward registry baseDomain first = .upstream firstSent ⟨route.target, route.metrics⟩ ∧
        forward registry baseDomain second = .upstream secondSent ⟨route.target, route.metrics⟩ ∧
        SameUpstream firstSent secondSent := by
  intro registry
  have wellFormed : registry.WellFormed := RouteRegistry.wellFormed_reached operations
  obtain ⟨domain, validDomain, rfl⟩ := wildcardBaseDomain_eq_some base
  refine ⟨fun request publicHost route extracted found => ?_, ?_⟩
  · obtain ⟨named, lowered, name⟩ := publicHost_hostName wellFormed validDomain extracted found
    obtain ⟨sent, forwarded, rewritten⟩ :=
      forward_eq_upstream wellFormed strips lawful validDomain extracted found
    exact ⟨named, lowered, sent, forwarded, sentFor_of_rewritten lawful name rewritten⟩
  · intro first second firstHost secondHost route firstExtracted secondExtracted sameName found
      same
    have sameHost := publicHost_unique firstExtracted secondExtracted sameName
    subst sameHost
    obtain ⟨firstSent, firstForwarded, firstRewritten⟩ :=
      forward_eq_upstream wellFormed strips lawful validDomain firstExtracted found
    obtain ⟨secondSent, secondForwarded, secondRewritten⟩ :=
      forward_eq_upstream wellFormed strips lawful validDomain secondExtracted found
    exact ⟨firstSent, secondSent, firstForwarded, secondForwarded,
      sameUpstream_of_rewritten same firstRewritten secondRewritten⟩

/-- Header values and paths kept as text. -/
def textRewriting : Rewriting textHttp where
  PathAndQuery := String
  root := "/"
  headerValue := some
  https := "https"

theorem textRewriting_lawful : textRewriting.Lawful where
  visible text _ := ⟨text, rfl, rfl⟩
  https := rfl

/-- A client that claims to come from elsewhere, twice. -/
def spoofedRequest : ClientRequest textRewriting Unit where
  uriAuthority := none
  headers := [("x-forwarded-host", "evil.test"), ("host", "App.example.com:8080"),
    ("accept", "a"), ("x-forwarded-host", "other.test"), ("accept", "b"),
    ("x-forwarded-proto", "http")]
  pathAndQuery := some "/api?value=1"
  rest := ()

theorem spoofed_request_rewritten :
    ∃ sent, forward (RouteRegistry.reached
        [.register 3000 (some "App") 1 42 (⟨[]⟩ : DrawStream) ⟨0, 7⟩]) "example.com"
        spoofedRequest = .upstream sent ⟨⟨.localhost, 3000⟩, 7⟩ ∧
      SentFor spoofedRequest "app.example.com" 3000 sent :=
  ((forwarded_request_unspoofed _ textHttp textRewriting textHttp_stripsPort textRewriting_lawful
    (show wildcardBaseDomain "*.Example.com" 0 = .ok (some "example.com") by decide)).1
    spoofedRequest ⟨"app", "app.example.com"⟩ ⟨"app", ⟨.localhost, 3000⟩, 1, 42, 0, 7⟩
    (by decide) (by decide)).2.2

end CfFw
