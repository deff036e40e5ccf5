import CfFw.OrderedMap
import CfFw.Registry

/-! How the proxy finds the route of a request, from `proxy/headers.rs` and
`daemon/lifecycle.rs`. URI authorities and header values belong to the `http`
crate and are parameters. -/
namespace CfFw
open Text

/-- What the proxy uses of the `http` crate: `Uri::authority`'s type with
`Authority::host` and its `FromStr`, and `HeaderValue::to_str`. -/
structure Http where
  Authority : Type
  HeaderValue : Type
  host : Authority → String
  parseAuthority : String → Option Authority
  toStr : HeaderValue → Option String

/-- `http::Request`, as the host is read from it. Header names are lowercase and
one name may stand several times. -/
structure Request (http : Http) where
  uriAuthority : Option http.Authority
  headers : List (String × http.HeaderValue)

/-- `proxy/headers.rs::PublicHost`. -/
structure PublicHost where
  slug : String
  hostname : String
  deriving DecidableEq

/-- `proxy/mod.rs::ProxyRoute`. -/
structure ProxyRoute where
  target : SocketAddr
  metrics : Nat
  deriving DecidableEq

/-- `proxy/headers.rs::valid_slug`. -/
def validSlug (slug : String) : Bool :=
  decide (1 ≤ len slug) && decide (len slug ≤ 63) && !startsWith slug '-' && !endsWith slug '-' &&
    !(bytes slug).all isAsciiDigit &&
    (bytes slug).all fun b => isAsciiLowercase b || isAsciiDigit b || b == hyphen

/-- `proxy/headers.rs::parse_public_host`. -/
def parsePublicHost (host baseDomain : String) : Option PublicHost :=
  let hostname := toAsciiLowercase host
  match stripSuffix hostname s!".{baseDomain}" with
  | none => none
  | some slug => if validSlug slug then some { slug, hostname } else none

variable {http : Http}

/-- `HeaderMap::get`: the first value under a name. -/
def headerValue (request : Request http) (name : String) : Option http.HeaderValue :=
  OrderedMap.get? request.headers name

/-- The authority `extract_public_host` reads: that of the URI, or else the one
in the `Host` header. -/
def requestAuthority (request : Request http) : Option http.Authority :=
  match request.uriAuthority with
  | some authority => some authority
  | none => ((headerValue request "host").bind http.toStr).bind http.parseAuthority

/-- `proxy/headers.rs::extract_public_host`. -/
def extractPublicHost (request : Request http) (baseDomain : String) : Option PublicHost :=
  (requestAuthority request).bind fun authority => parsePublicHost (http.host authority) baseDomain

/-- `RegistryLookup::lookup`. -/
def RouteRegistry.lookup (registry : RouteRegistry) (slug : String) : Option ProxyRoute :=
  (registry.routeForSlug slug).map fun route => ⟨route.target, route.metrics⟩

/-- The route `Proxy::forward` sends a request to. -/
def forwardRoute (registry : RouteRegistry) (baseDomain : String) (request : Request http) :
    Option ProxyRoute :=
  (extractPublicHost request baseDomain).bind fun host => registry.lookup host.slug

end CfFw
