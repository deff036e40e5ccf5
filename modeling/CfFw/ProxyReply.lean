import CfFw.LossyText
import CfFw.Metrics
import CfFw.UpstreamRequest

/-! What the proxy answers: `forward` of `proxy/mod.rs` after its send, `not_found.rs`
and `server_error.rs`. Bodies that come from the service are streams and not part of
an answer here; the bundled pages are a parameter, since no code reads them. -/
namespace CfFw
open Text

variable {http : Http} {rewriting : Rewriting http} {β : Type}

/-! ### Answers of the proxy itself -/

/-- `proxy/mod.rs::FALLBACK_HEADER` and `FALLBACK_HEADER_VALUE`. -/
def fallbackHeader : String := "x-fw-fallback"
def fallbackHeaderValue : String := "1"

/-- A response that is built here, with fixed headers. -/
structure OwnResponse where
  status : UInt16
  headers : List (String × String)
  body : List UInt8
  deriving DecidableEq

/-- The builder that all of them share. -/
def ownResponse (status : UInt16) (contentType : String) (body : List UInt8) : OwnResponse where
  status := status
  headers := [("content-type", contentType), ("cache-control", "no-store"),
    (fallbackHeader, fallbackHeaderValue)]
  body := body

/-- `proxy/mod.rs::generated_error`. -/
def generatedError (status : UInt16) (message : String) : OwnResponse :=
  ownResponse status "text/plain; charset=utf-8" (bytes message)

/-- `assets/404.html` and `assets/500.html`. -/
structure Pages where
  notFoundHtml : List UInt8
  serverErrorHtml : List UInt8

/-- `str::eq_ignore_ascii_case`. -/
def eqIgnoreAsciiCase (first second : String) : Bool :=
  toAsciiLowercase first = toAsciiLowercase second

/-- The parts between commas in all values of a header that are text. -/
def listed (headers : List (String × http.HeaderValue)) (name : String) : List String :=
  ((HeaderMap.getAll headers name).filterMap http.toStr).flatMap (split · ',')

/-- `not_found.rs::accepts_json`. -/
def acceptsJson (headers : List (String × http.HeaderValue)) : Bool :=
  ((listed headers "accept").filterMap fun range => (split range ';').head?).any
    fun mediaType => eqIgnoreAsciiCase (trim mediaType) "application/json"

/-- `proxy/headers.rs::is_upgrade`. -/
def isUpgrade (headers : List (String × http.HeaderValue)) : Bool :=
  OrderedMap.containsKey headers "upgrade" &&
    (listed headers "connection").any fun token => eqIgnoreAsciiCase (trim token) "upgrade"

/-- `NotFoundJson` and `ServerErrorJson`, serialized. -/
def failureJson (code message : String) : String :=
  JsonText.object [("success", "false"), ("code", JsonText.string code),
    ("message", JsonText.string message)]

/-- The body and content type that the two error pages choose between. -/
def errorPage (status : UInt16) (headers : List (String × http.HeaderValue)) (json : String)
    (html : List UInt8) : OwnResponse :=
  if acceptsJson headers then ownResponse status "application/json; charset=utf-8" (bytes json)
  else ownResponse status "text/html; charset=utf-8" html

/-- `not_found.rs::response`. -/
def notFoundResponse (pages : Pages) (headers : List (String × http.HeaderValue)) : OwnResponse :=
  errorPage 404 headers
    (failureJson "forward_not_found" "This subdomain forwarding can't be found/unavailable.")
    pages.notFoundHtml

/-- `server_error.rs::response`. -/
def serverErrorResponse (pages : Pages) (headers : List (String × http.HeaderValue)) :
    OwnResponse :=
  errorPage 500 headers
    (failureJson "forward_error" "The forwarding proxy encountered an internal error.")
    pages.serverErrorHtml

/-! ### The service's answer -/

/-- What `error_is_timeout` asks of one error: whether it is an `io::Error` of the kind
`TimedOut`, and whether it is an `Elapsed`. -/
structure ErrorLink where
  timedOut : Bool
  elapsed : Bool
  deriving DecidableEq

/-- An error with its `source()`s. -/
inductive SendError where
  | root (link : ErrorLink)
  | caused (link : ErrorLink) (source : SendError)

/-- `proxy/mod.rs::error_is_timeout`. -/
def errorIsTimeout : SendError → Bool
  | .root link => link.timedOut || link.elapsed
  | .caused link source => if link.timedOut || link.elapsed then true else errorIsTimeout source

/-- The head of an `http::Response`. -/
structure ResponseHead (http : Http) where
  status : UInt16
  headers : List (String × http.HeaderValue)

/-- How the send ends under `UPSTREAM_HEADER_TIMEOUT`. -/
inductive SendOutcome (http : Http) where
  | elapsed
  | failed (error : SendError)
  | response (head : ResponseHead http)

/-- `proxy/mod.rs::ProxyResponse`: one of the proxy's own, or the service's with its body
counted for a route. `bridged` says that a task was spawned which joins the two
connections. -/
inductive ProxyResponse (http : Http) where
  | own (response : OwnResponse)
  | relayed (head : ResponseHead http) (route : ProxyRoute) (bridged : Bool)

/-- `Proxy::forward` after its send. -/
def receive (route : ProxyRoute) (upgrading : Bool) : SendOutcome http → ProxyResponse http
  | .elapsed => .own (generatedError 504 "Local service timed out")
  | .failed error =>
    if errorIsTimeout error then .own (generatedError 504 "Local service timed out")
    else .own (generatedError 502 "Local service unavailable")
  | .response head => .relayed head route (head.status == 101 && upgrading)

/-- `Proxy::forward`, with how its send ends if there is one. -/
def respond (registry : RouteRegistry) (baseDomain : String) (pages : Pages)
    (request : ClientRequest rewriting β) (outcome : SendOutcome http) : ProxyResponse http :=
  match forward registry baseDomain request with
  | .invalidHost => .own (generatedError 400 "Invalid host")
  | .notFound => .own (notFoundResponse pages request.headers)
  | .serverError => .own (serverErrorResponse pages request.headers)
  | .upstream _ route => receive route (isUpgrade request.headers) outcome

/-! ### What an answer tells -/

/-- An error and the causes under it. -/
def SendError.chain : SendError → List ErrorLink
  | .root link => [link]
  | .caused link source => link :: source.chain

/-- A timeout somewhere in the chain of causes. -/
def SendError.TimedOut (error : SendError) : Prop :=
  ∃ link ∈ error.chain, link.timedOut = true ∨ link.elapsed = true

private theorem errorIsTimeout_iff (error : SendError) :
    errorIsTimeout error = true ↔ error.TimedOut := by
  induction error with
  | root link => simp [errorIsTimeout, SendError.TimedOut, SendError.chain]
  | caused link source ih =>
    rw [errorIsTimeout, SendError.TimedOut, SendError.chain]
    by_cases here : (link.timedOut || link.elapsed) = true
    · rw [if_pos here]
      exact iff_of_true rfl ⟨link, List.mem_cons_self, (Bool.or_eq_true _ _).mp here⟩
    · rw [if_neg here, ih]
      simp only [Bool.or_eq_true] at here
      simp [SendError.TimedOut, here]

/-- A response that caches must not keep and that is told apart from the service's. -/
structure OwnResponse.Marked (response : OwnResponse) : Prop where
  fallback : OrderedMap.get? response.headers fallbackHeader = some fallbackHeaderValue
  uncached : OrderedMap.get? response.headers "cache-control" = some "no-store"

private theorem marked_ownResponse (status : UInt16) (contentType : String) (body : List UInt8) :
    (ownResponse status contentType body).Marked :=
  ⟨by simp [ownResponse, OrderedMap.get?, fallbackHeader],
    by simp [ownResponse, OrderedMap.get?, fallbackHeader]⟩

private theorem marked_errorPage (status : UInt16) (headers : List (String × http.HeaderValue))
    (json : String) (html : List UInt8) :
    (errorPage status headers json html).Marked ∧ (errorPage status headers json html).status = status := by
  rw [errorPage]
  split
  · exact ⟨marked_ownResponse _ _ _, rfl⟩
  · exact ⟨marked_ownResponse _ _ _, rfl⟩

/-- What `forward` can come to in a well-formed registry. The two errors of its
middle part do not occur. -/
inductive ForwardCase (registry : RouteRegistry) (baseDomain : String)
    (request : ClientRequest rewriting β) : Prop where
  | invalidHost (unnamed : extractPublicHost request.toRequest baseDomain = none)
      (forwarded : forward registry baseDomain request = .invalidHost)
  | notFound (publicHost : PublicHost)
      (named : extractPublicHost request.toRequest baseDomain = some publicHost)
      (absent : registry.routeForSlug publicHost.slug = none)
      (forwarded : forward registry baseDomain request = .notFound)
  | upstream (publicHost : PublicHost) (route : Route) (sent : UpstreamRequest rewriting β)
      (named : extractPublicHost request.toRequest baseDomain = some publicHost)
      (live : registry.routeForSlug publicHost.slug = some route)
      (forwarded : forward registry baseDomain request = .upstream sent ⟨route.target, route.metrics⟩)
      (rewritten : rewriteForUpstream request route.target publicHost.hostname = .ok sent)

private theorem forward_cases {registry : RouteRegistry} (wellFormed : registry.WellFormed)
    (strips : http.StripsPort) (lawful : rewriting.Lawful) {domain : String}
    (validDomain : ValidDomain domain) (request : ClientRequest rewriting β) :
    ForwardCase registry (toAsciiLowercase domain) request := by
  cases named : extractPublicHost request.toRequest (toAsciiLowercase domain) with
  | none =>
    apply ForwardCase.invalidHost named
    simp only [forward, named]
  | some publicHost =>
    cases live : registry.routeForSlug publicHost.slug with
    | none =>
      apply ForwardCase.notFound publicHost named live
      simp only [forward, named, RouteRegistry.lookup, live, Option.map_none]
    | some route =>
      obtain ⟨sent, forwarded, rewritten⟩ :=
        forward_eq_upstream wellFormed strips lawful validDomain named live
      exact .upstream publicHost route sent named live forwarded rewritten

/-- How a send that brought no response ended, and the status that says so. -/
def SendOutcome.Failure : SendOutcome http → UInt16 → Prop
  | .elapsed, status => status = 504
  | .failed error, status => (error.TimedOut ∧ status = 504) ∨ (¬ error.TimedOut ∧ status = 502)
  | .response _, _ => False

/-- Why the proxy answers itself, and the status that says so. -/
inductive OwnAnswer (registry : RouteRegistry) (baseDomain : String)
    (request : Request http) (outcome : SendOutcome http) : UInt16 → Prop where
  | invalidHost (unnamed : extractPublicHost request baseDomain = none) :
      OwnAnswer registry baseDomain request outcome 400
  | notFound (publicHost : PublicHost) (named : extractPublicHost request baseDomain = some publicHost)
      (absent : registry.routeForSlug publicHost.slug = none) :
      OwnAnswer registry baseDomain request outcome 404
  | failed {status : UInt16} (target : ProxyRoute)
      (routed : forwardRoute registry baseDomain request = some target)
      (failure : outcome.Failure status) : OwnAnswer registry baseDomain request outcome status

private theorem receive_own {route : ProxyRoute} {upgrading : Bool} {outcome : SendOutcome http}
    {own : OwnResponse} (answered : receive route upgrading outcome = .own own) :
    own.Marked ∧ outcome.Failure own.status := by
  cases outcome with
  | elapsed =>
    cases answered
    exact ⟨marked_ownResponse _ _ _, rfl⟩
  | failed error =>
    rw [receive] at answered
    by_cases slow : errorIsTimeout error = true
    · rw [if_pos slow] at answered
      cases answered
      exact ⟨marked_ownResponse _ _ _, .inl ⟨(errorIsTimeout_iff error).mp slow, rfl⟩⟩
    · rw [if_neg slow] at answered
      cases answered
      exact ⟨marked_ownResponse _ _ _, .inr ⟨mt (errorIsTimeout_iff error).mpr slow, rfl⟩⟩
  | response head => cases answered

private theorem receive_relayed {route target : ProxyRoute} {upgrading bridged : Bool}
    {outcome : SendOutcome http} {head : ResponseHead http} :
    receive route upgrading outcome = .relayed head target bridged ↔
      route = target ∧ outcome = .response head ∧ bridged = (head.status == 101 && upgrading) := by
  cases outcome with
  | elapsed => simp [receive]
  | failed error =>
    rw [receive]
    split <;> simp
  | response found =>
    simp only [receive, ProxyResponse.relayed.injEq, SendOutcome.response.injEq]
    constructor
    · rintro ⟨rfl, rfl, rfl⟩
      exact ⟨rfl, rfl, rfl⟩
    · rintro ⟨rfl, rfl, rfl⟩
      exact ⟨rfl, rfl, rfl⟩

/-- **An answer tells its cause.** In every reachable registry and for every configured
base domain, a request is answered with the service's response, its head unchanged, exactly
when its host has a live route and the send brought that response; the connections are joined
exactly for a 101 to a request that asked for an upgrade. Any other answer is marked as the
proxy's own and its status says why: 400 without a public host, 404 without a route, 504 when
some cause of the failed send is a timeout, 502 otherwise. The 500 page is never sent. -/
theorem answer_tells_its_cause {R : Type} [Rng R]
    (operations : List (RouteRegistry.Operation R)) (http : Http) (rewriting : Rewriting http)
    (strips : http.StripsPort) (lawful : rewriting.Lawful) {configured : String} {index : Nat}
    {baseDomain : String}
    (base : wildcardBaseDomain configured index = .ok (some baseDomain)) (pages : Pages)
    (request : ClientRequest rewriting β) (outcome : SendOutcome http) :
    let registry := RouteRegistry.reached operations
    let answer := respond registry baseDomain pages request outcome
    (∀ head target bridged, answer = .relayed head target bridged ↔
      forwardRoute registry baseDomain request.toRequest = some target ∧
        outcome = .response head ∧
        bridged = (head.status == 101 && isUpgrade request.headers)) ∧
    (∀ own, answer = .own own → own.Marked ∧
      OwnAnswer registry baseDomain request.toRequest outcome own.status) := by
  intro registry answer
  obtain ⟨domain, validDomain, rfl⟩ := wildcardBaseDomain_eq_some base
  have wellFormed : registry.WellFormed := RouteRegistry.wellFormed_reached operations
  rcases forward_cases wellFormed strips lawful validDomain request with
    ⟨unnamed, forwarded⟩ | ⟨publicHost, named, absent, forwarded⟩ |
    ⟨publicHost, route, sent, named, live, forwarded, _⟩
  · have same : answer = .own (generatedError 400 "Invalid host") := by
      simp only [answer, respond, forwarded]
    have unrouted : forwardRoute registry (toAsciiLowercase domain) request.toRequest = none := by
      rw [forwardRoute, unnamed, Option.bind_none]
    refine ⟨fun head target bridged => ?_, fun own answered => ?_⟩
    · simp [same, unrouted]
    · rw [same] at answered
      cases answered
      exact ⟨marked_ownResponse _ _ _, .invalidHost unnamed⟩
  · have same : answer = .own (notFoundResponse pages request.headers) := by
      simp only [answer, respond, forwarded]
    have unrouted : forwardRoute registry (toAsciiLowercase domain) request.toRequest = none := by
      rw [forwardRoute, named, Option.bind_some, RouteRegistry.lookup, absent, Option.map_none]
    refine ⟨fun head target bridged => ?_, fun own answered => ?_⟩
    · simp [same, unrouted]
    · rw [same] at answered
      cases answered
      obtain ⟨marked, status⟩ := marked_errorPage 404 request.headers _ pages.notFoundHtml
      refine ⟨marked, ?_⟩
      rw [notFoundResponse, status]
      exact .notFound publicHost named absent
  · have same : answer =
        receive ⟨route.target, route.metrics⟩ (isUpgrade request.headers) outcome := by
      simp only [answer, respond, forwarded]
    have routed : forwardRoute registry (toAsciiLowercase domain) request.toRequest =
        some ⟨route.target, route.metrics⟩ := by
      rw [forwardRoute, named, Option.bind_some, RouteRegistry.lookup, live, Option.map_some]
    refine ⟨fun head target bridged => ?_, fun own answered => ?_⟩
    · rw [same, receive_relayed, routed, Option.some.injEq]
    · rw [same] at answered
      obtain ⟨marked, failure⟩ := receive_own answered
      exact ⟨marked, .failed _ routed failure⟩

/-- A request that asks for a WebSocket. -/
def upgradeRequest : ClientRequest textRewriting Unit where
  uriAuthority := none
  headers := [("host", "app.example.com"), ("connection", "keep-alive, Upgrade"),
    ("upgrade", "websocket")]
  pathAndQuery := some "/socket"
  rest := ()

theorem upgrade_request_bridged :
    respond (RouteRegistry.reached
        [.register 3000 (some "App") 1 42 (⟨[]⟩ : DrawStream) ⟨0, 7⟩]) "example.com"
        ⟨[], []⟩ upgradeRequest (.response ⟨101, [("upgrade", "websocket")]⟩) =
      .relayed ⟨101, [("upgrade", "websocket")]⟩ ⟨⟨.localhost, 3000⟩, 7⟩ true :=
  ((answer_tells_its_cause _ textHttp textRewriting textHttp_stripsPort textRewriting_lawful
    (show wildcardBaseDomain "*.Example.com" 0 = .ok (some "example.com") by decide) ⟨[], []⟩
    upgradeRequest (.response ⟨101, [("upgrade", "websocket")]⟩)).1 _ _ _).mpr
    ⟨by decide, rfl, by decide⟩

/-! ### Header lines -/

end CfFw
