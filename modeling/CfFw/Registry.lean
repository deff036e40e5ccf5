import CfFw.Protocol
import CfFw.Slug
import Std.Data.ExtTreeMap
import Std.Data.ExtTreeSet
import Mathlib.Data.List.Sort
import Mathlib.Data.String.Basic

/-! The route registry of `registry.rs`: three maps kept in step by hand. The
maps are extensional, so a registry is determined by what its lookups answer.
Where the source iterates over a hash map or set, the order here is the key
order; `removeSlugs_perm` and the sorted results show that no order matters. -/
namespace CfFw
open Std Text

/-- `std::net::IpAddr`. -/
inductive IpAddr where
  | v4 (a b c d : UInt8)
  | v6 (segments : List UInt16)
  deriving DecidableEq

/-- `Ipv4Addr::LOCALHOST`. -/
def IpAddr.localhost : IpAddr := .v4 127 0 0 1

/-- `std::net::SocketAddr`. -/
structure SocketAddr where
  ip : IpAddr
  port : UInt16
  deriving DecidableEq

/-- What registering takes from outside besides the random source: the clock,
and the address of the new `Arc<RouteMetrics>`. -/
structure Stamp where
  createdAt : Nat
  metrics : Nat
  deriving DecidableEq

/-- `registry.rs::Route`. -/
structure Route where
  slug : String
  target : SocketAddr
  ownerSession : UInt64
  ownerPid : UInt32
  createdAt : Nat
  metrics : Nat
  deriving DecidableEq

/-- `Route::port`. -/
def Route.port (route : Route) : UInt16 := route.target.port

/-- `Route::view`. -/
def Route.view (route : Route) (baseDomain : String) : RouteView :=
  RouteView.new route.slug route.port baseDomain

/-- `registry.rs::RouteRegistry`. -/
@[ext]
structure RouteRegistry where
  bySlug : ExtTreeMap String Route
  slugByPort : ExtTreeMap UInt16 String
  slugsBySession : ExtTreeMap UInt64 (ExtTreeSet String)

namespace RouteRegistry

/-- `RouteRegistry::new`. -/
def new : RouteRegistry := ⟨∅, ∅, ∅⟩

/-- `RouteRegistry::is_empty`. -/
def isEmpty (registry : RouteRegistry) : Bool := registry.bySlug.isEmpty

/-- The slug `register_with_rng` will use, or why there is none. -/
def chooseSlug {R : Type} [Rng R] (registry : RouteRegistry) (requested : Option String)
    (rng : R) : Result String × R :=
  match requested with
  | some slug =>
    match normalizeSlug slug with
    | .error error => (.error error, rng)
    | .ok slug =>
      if registry.bySlug.contains slug then (.error (.duplicateSlug slug), rng)
      else (.ok slug, rng)
  | none => generateUniqueSlug rng fun candidate => registry.bySlug.contains candidate

/-- The three insertions at the end of `register_with_rng`. -/
def insertRoute (registry : RouteRegistry) (route : Route) : RouteRegistry where
  bySlug := registry.bySlug.insert route.slug route
  slugByPort := registry.slugByPort.insert route.port route.slug
  slugsBySession := registry.slugsBySession.insert route.ownerSession
    ((registry.slugsBySession[route.ownerSession]?.getD ∅).insert route.slug)

/-- `RouteRegistry::register_with_rng`. -/
def registerWithRng {R : Type} [Rng R] (registry : RouteRegistry) (port : UInt16)
    (requested : Option String) (ownerSession : UInt64) (ownerPid : UInt32) (rng : R)
    (stamp : Stamp) : Result Route × RouteRegistry × R :=
  if port = 0 then (.error (.invalidPort (toString port)), registry, rng)
  else match registry.slugByPort[port]? with
  | some activeSlug => (.error (.duplicatePort port activeSlug), registry, rng)
  | none =>
    match registry.chooseSlug requested rng with
    | (.error error, rng) => (.error error, registry, rng)
    | (.ok slug, rng) =>
      let route : Route :=
        { slug, target := ⟨.localhost, port⟩, ownerSession, ownerPid
          createdAt := stamp.createdAt, metrics := stamp.metrics }
      (.ok route, registry.insertRoute route, rng)

/-- `RouteRegistry::route_for_slug`. -/
def routeForSlug (registry : RouteRegistry) (slug : String) : Option Route := registry.bySlug[slug]?

/-- `RouteRegistry::route_for_port`. -/
def routeForPort (registry : RouteRegistry) (port : UInt16) : Option Route :=
  registry.slugByPort[port]?.bind fun slug => registry.bySlug[slug]?

/-- `RouteRegistry::resolve`. -/
def resolve (registry : RouteRegistry) : StopSelector → Option Route
  | .slug slug => registry.routeForSlug slug
  | .port port => registry.routeForPort port

/-- `sort_unstable_by` on slugs. -/
def sortBySlug (routes : List Route) : List Route :=
  routes.insertionSort fun left right => left.slug ≤ right.slug

/-- The values of `by_slug`. -/
def routes (registry : RouteRegistry) : List Route := registry.bySlug.toList.map Prod.snd

/-- `RouteRegistry::list`. The views are sorted by the slugs they copy. -/
def list (registry : RouteRegistry) (baseDomain : String) : List RouteView :=
  (registry.routes.map fun route => route.view baseDomain).insertionSort
    fun left right => left.slug ≤ right.slug

/-- The session index after `remove_slug` took one slug out of it, with the
entry dropped when that leaves it empty. -/
def forgetSlug (sessions : ExtTreeMap UInt64 (ExtTreeSet String)) (session : UInt64)
    (slug : String) : ExtTreeMap UInt64 (ExtTreeSet String) :=
  match sessions[session]? with
  | none => sessions
  | some slugs =>
    if (slugs.erase slug).isEmpty then sessions.erase session
    else sessions.insert session (slugs.erase slug)

/-- `RouteRegistry::remove_slug`. -/
def removeSlug (registry : RouteRegistry) (slug : String) : Option Route × RouteRegistry :=
  match registry.bySlug[slug]? with
  | none => (none, registry)
  | some route =>
    (some route,
      { bySlug := registry.bySlug.erase slug
        slugByPort := registry.slugByPort.erase route.port
        slugsBySession := forgetSlug registry.slugsBySession route.ownerSession slug })

/-- `RouteRegistry::remove_owned_slug`. -/
def removeOwnedSlug (registry : RouteRegistry) (ownerSession : UInt64) (slug : String) :
    Option Route × RouteRegistry :=
  match registry.routeForSlug slug with
  | none => (none, registry)
  | some route =>
    if route.ownerSession ≠ ownerSession then (none, registry) else registry.removeSlug slug

/-- The loop of `remove_session`. -/
def removeSlugs (registry : RouteRegistry) : List String → List Route × RouteRegistry
  | [] => ([], registry)
  | slug :: rest =>
    match registry.bySlug[slug]? with
    | none => registry.removeSlugs rest
    | some route =>
      let (removed, after) := removeSlugs
        { registry with
          bySlug := registry.bySlug.erase slug
          slugByPort := registry.slugByPort.erase route.port } rest
      (route :: removed, after)

/-- `RouteRegistry::remove_session`. -/
def removeSession (registry : RouteRegistry) (ownerSession : UInt64) :
    List Route × RouteRegistry :=
  match registry.slugsBySession[ownerSession]? with
  | none => ([], registry)
  | some slugs =>
    let (removed, after) := removeSlugs
      { registry with slugsBySession := registry.slugsBySession.erase ownerSession } slugs.toList
    (sortBySlug removed, after)

/-- `RouteRegistry::clear`. -/
def clear (registry : RouteRegistry) : List Route × RouteRegistry :=
  (sortBySlug registry.routes, new)

end RouteRegistry

end CfFw
