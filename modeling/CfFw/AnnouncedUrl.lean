import CfFw.ReplyOrder
import CfFw.UpstreamRequest

/-! What a client may rely on once it has been told a public URL: the daemon's protocol, its
registry and the proxy together. As long as nobody removes the session, and for every
removal the run has a reason, each request for the URL is sent to the client's port. -/
namespace CfFw.AnnouncedUrl
open CfFw Std Text Transition ReplyOrder

variable {http : Http} {rewriting : Rewriting http} {β : Type} {registry : RouteRegistry}
  {route : Route} {baseDomain domain : String} {now : Instant} {start d v : Daemon} {c : ConnId}
  {labels more : List Label} {session : UInt64} {slug localUrl publicUrl : String}

/-- The request is for the host of the URL, in any letter case and with any port. Its target
names the host, as in the absolute form and in HTTP/2, or its `Host` header does when the target
names none. -/
def Addresses (request : Request http) (url : String) : Prop :=
  ∃ name written, url = "https://" ++ name ∧ toAsciiLowercase written = toAsciiLowercase name ∧
    match request.uriAuthority with
    | some authority => http.host authority = written
    | none => hostHeader request = some written ∨
        ∃ port : UInt16, hostHeader request = some s!"{written}:{port}"

/-- Every request for the public URL is sent to the port of the local URL, under the name in
the public URL. -/
def Served (rewriting : Rewriting http) (β : Type) (registry : RouteRegistry)
    (baseDomain localUrl publicUrl : String) : Prop :=
  ∃ (name : String) (port : UInt16), publicUrl = "https://" ++ name ∧
    localUrl = s!"http://127.0.0.1:{port}" ∧
    ∀ request : ClientRequest rewriting β, Addresses request.toRequest publicUrl →
      ∃ sent target, forward registry baseDomain request = .upstream sent target ∧
        SentFor request name port sent

theorem publicUrl_eq (route : Route) (baseDomain : String) :
    (route.view baseDomain).publicUrl = "https://" ++ publicName route baseDomain := by
  apply String.toList_inj.mp
  simp [Route.view, RouteView.new, publicName, toString]

/-- The host of a request for a route's URL is the public name of the route. -/
theorem extracted_of_addresses (wellFormed : registry.WellFormed) (strips : http.StripsPort)
    (validDomain : ValidDomain domain) (live : registry.Live route) {request : Request http}
    (addresses :
      Addresses request (route.view (toAsciiLowercase domain)).publicUrl) :
    ∃ publicHost, extractPublicHost request (toAsciiLowercase domain) = some publicHost ∧
      registry.routeForSlug publicHost.slug = some route := by
  obtain ⟨name, written, url, same, named⟩ := addresses
  have valid : ValidSlug route.slug := (wellFormed.valid live).1
  rw [publicUrl_eq] at url
  obtain rfl : publicName route (toAsciiLowercase domain) = name := by
    apply String.toList_inj.mp
    simpa using congrArg String.toList url
  have shape : toAsciiLowercase written = publicName route (toAsciiLowercase domain) := by
    rw [same, publicName, toAsciiLowercase_append, toAsciiLowercase_append, toAsciiLowercase_idem,
      valid.lowercase]
    rfl
  obtain ⟨alone, withPort⟩ := strips written (hostName_of_publicName valid validDomain shape)
  have read : ∃ authority, requestAuthority request = some authority ∧
      http.host authority = written := by
    cases target : request.uriAuthority with
    | some authority =>
      simp only [target] at named
      exact ⟨authority, by simp only [requestAuthority, target], named⟩
    | none =>
      simp only [target, hostHeader] at named
      rcases named with plain | ⟨port, ported⟩
      · obtain ⟨authority, parsed, host⟩ := alone
        exact ⟨authority, by simp [requestAuthority, target, plain, parsed], host⟩
      · obtain ⟨authority, parsed, host⟩ := withPort port
        exact ⟨authority, by simp only [requestAuthority, target, ported, Option.bind_some, parsed],
          host⟩
  obtain ⟨authority, read, host⟩ := read
  refine ⟨⟨route.slug, toAsciiLowercase written⟩, ?_, live⟩
  rw [extractPublicHost, read, Option.bind_some, parsePublicHost_eq_some, host]
  exact ⟨shape, valid, rfl⟩

/-- A live route is served. -/
theorem served_of_live (wellFormed : registry.WellFormed) (strips : http.StripsPort)
    (lawful : rewriting.Lawful) (validDomain : ValidDomain domain) (live : registry.Live route) :
    Served rewriting β registry (toAsciiLowercase domain)
      (route.view (toAsciiLowercase domain)).localUrl
      (route.view (toAsciiLowercase domain)).publicUrl := by
  refine ⟨_, route.port, publicUrl_eq route _, rfl, fun request addresses => ?_⟩
  obtain ⟨publicHost, extracted, found⟩ :=
    extracted_of_addresses wellFormed strips validDomain live addresses
  obtain ⟨named, _, hostName⟩ := publicHost_hostName wellFormed validDomain extracted found
  obtain ⟨sent, forwarded, rewritten⟩ :=
    forward_eq_upstream wellFormed strips lawful validDomain extracted found
  rw [← named]
  exact ⟨sent, _, forwarded, sentFor_of_rewritten lawful hostName rewritten⟩

/-! ### From the announcement on -/

/-- A step of the run took the route out of the registry, for one of the reasons there are. -/
def Removed (start : Daemon) (route : Route) (labels : List Label) : Prop :=
  ∃ before label after mid next, labels = before ++ label :: after ∧
    Run Daemon.step Unrestricted start before mid ∧ mid.step label = some next ∧
    mid.shared.registry.Live route ∧ ¬ next.shared.registry.Live route ∧
    Reason start before mid label route.ownerSession

/-- A route that is live stays so until a step removes it. -/
theorem live_or_removed (begins : ∀ c, start.handlers c = ⟨.absent, none⟩)
    (ran : Run Daemon.step NoWrap start labels d) (holds : SessionsHold start)
    (live : d.shared.registry.Live route) (rest : Run Daemon.step NoWrap d more v) :
    v.shared.registry.Live route ∨ Removed start route (labels ++ more) := by
  induction rest with
  | nil => exact .inl live
  | @snoc past mid next label between permitted taken ih =>
    rcases ih with stays | ⟨before, removal, after, rest⟩
    · by_cases kept : next.shared.registry.Live route
      · exact .inl kept
      · have whole := ran.append between
        have free := whole.mono (fun _ _ _ => trivial)
        refine .inr ⟨labels ++ past, label, [], mid, next, by simp, free, taken, stays, kept, ?_⟩
        exact reason_of_step taken (holds.run whole) (recorded_of_run free begins) stays kept
    · obtain ⟨mid, next, split, others⟩ := rest
      refine .inr ⟨before, removal, after ++ [label], mid, next, ?_, others⟩
      rw [← List.append_assoc, split]
      simp

/-- What a client is told when it has registered was so at a moment before. -/
theorem registered_of_announced
    (ran : Run Daemon.step Unrestricted (.start baseDomain now) labels d)
    {envelope : Envelope ServerMessage} (queued : envelope ∈ (d.channels c).sent)
    (message : envelope.message = .registered session slug localUrl publicUrl) :
    ∃ before after mid route, labels = before ++ after ∧
      Run Daemon.step Unrestricted (.start baseDomain now) before mid ∧
      mid.shared.registry.Live route ∧
      registeredMessage route baseDomain = .registered session slug localUrl publicUrl := by
  have reply : envelope ∈ replies d c := by
    refine List.mem_filter.mpr ⟨queued, ?_⟩
    rw [message]
    rfl
  obtain ⟨index, inside, rfl⟩ := List.getElem_of_mem reply
  have talk := conversation_of_run ran c
  have asked : index < (requests c labels).length :=
    Nat.lt_of_lt_of_le inside talk.standing.within.1
  obtain ⟨_, before, after, mid, split, reached, _, _, truthful⟩ :=
    talk.answers index _ _ (List.getElem?_eq_getElem asked) (List.getElem?_eq_getElem inside)
  have domain := (conversation_of_run reached c).bounded.domain
  rw [message] at truthful
  generalize (requests c labels)[index].message = request at truthful
  generalize shape : ServerMessage.registered session slug localUrl publicUrl = told at truthful
  cases truthful with
  | registered live => exact ⟨before, after, mid, _, split, reached, live, by rw [domain]⟩
  | _ => cases shape

/-- **An announced URL works until somebody takes it back.** In every run of the daemon with
fewer than `2 ^ 64` registrations and for every configured base domain: once a client was sent
`Registered`, either each request for the public URL, in any letter case and with any port, is
sent to the port of the local URL, with nothing but the host headers changed, or a step of the
run has removed the route, and the owner asked for it or left, a Stop resolved to it, a Kill
was asked for, or `cloudflared` had exited. -/
theorem announced_url_served (http : Http) (rewriting : Rewriting http)
    (strips : http.StripsPort) (lawful : rewriting.Lawful) {configured : String} {index : Nat}
    (base : wildcardBaseDomain configured index = .ok (some baseDomain))
    (ran : Run Daemon.step Unrestricted (.start baseDomain now) labels d)
    (few : registerAttempts labels < 2 ^ 64) {envelope : Envelope ServerMessage}
    (queued : envelope ∈ (d.channels c).sent)
    (message : envelope.message = .registered session slug localUrl publicUrl) :
    Served rewriting β d.shared.registry baseDomain localUrl publicUrl ∨
      ∃ route, route.ownerSession = session ∧ Removed (.start baseDomain now) route labels := by
  obtain ⟨domain, validDomain, rfl⟩ := wildcardBaseDomain_eq_some base
  obtain ⟨before, after, mid, route, rfl, reached, live, told⟩ :=
    registered_of_announced ran queued message
  obtain ⟨first, second⟩ := (run_noWrap ran few).parts reached
  have holds := sessionsHold_start (toAsciiLowercase domain) now
  have fate := live_or_removed (fun _ => rfl) first holds live second
  cases told
  rcases fate with stays | removed
  · exact .inl (served_of_live (holds.run (first.append second)).wellFormed strips lawful
      validDomain stays)
  · exact .inr ⟨route, rfl, removed⟩

/-- Client 0 is told its URL, and another client registers. -/
def announcedLabels : List Label :=
  registrationLabels 0 3000 "app" ++ registrationLabels 1 4000 "other"

/-- The daemon when both are registered. -/
def announcedDaemon : Daemon :=
  (execute Daemon.step (.start "example.com" 0) announcedLabels).get (by decide)

theorem app_url_served :
    Served textRewriting Unit announcedDaemon.shared.registry "example.com" "http://127.0.0.1:3000"
        "https://app.example.com" ∨
      ∃ route, route.ownerSession = 1 ∧
        Removed (.start "example.com" 0) route announcedLabels := by
  have ran : Run Daemon.step Unrestricted (.start "example.com" 0) announcedLabels announcedDaemon :=
    run_to_execute _
  have sent : (announcedDaemon.channels 0).sent = [Envelope.new (some 1)
      (.registered 1 "app" "http://127.0.0.1:3000" "https://app.example.com")] := rfl
  exact announced_url_served textHttp textRewriting textHttp_stripsPort textRewriting_lawful
    (show wildcardBaseDomain "*.Example.com" 0 = .ok (some "example.com") by decide) ran (by decide)
    (sent ▸ List.mem_cons_self) rfl

end CfFw.AnnouncedUrl
