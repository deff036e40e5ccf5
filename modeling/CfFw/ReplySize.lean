import CfFw.KillFinal
import CfFw.PublicHost
import CfFw.Registration
import CfFw.StopRemoval
import CfFw.TaskSteps
import CfFw.Wire

/-! Which replies fit into a frame. Nothing bounds a list of routes, nor the text
that a client has quoted back to it; every other reply is short, because slugs, the
base domain and numbers are. -/
namespace CfFw
open Std Text JsonText Transition

variable {d d' : Daemon} {c : ConnId} {label : Label} {shared : Shared} {handler : Handler}
  {route : Route} {baseDomain : String} {requestId : Option UInt64} {message : ServerMessage}
  {after : AfterReply} {floats : UInt64 → String} {labels : List Label}
  {toVec : Envelope ServerMessage → Except String (List UInt8)}

/-- The bytes of a `RouteList` reply. -/
def listSize (requestId : Option UInt64) (baseDomain : String) (routes : List Route) : Nat :=
  71 + len (requestIdText requestId) +
    (routes.map fun route =>
      76 + 2 * len route.slug + 2 * len (toString route.port) + len baseDomain).sum +
    (routes.length - 1)

/-- A slug that a registration is going to refuse can be quoted in the refusal. -/
def RefusalFits (registry : RouteRegistry) : Phase → Prop
  | .registering requestId port (some slug) _ _ =>
    port ≠ 0 → registry.slugByPort[port]? = none → ¬ ValidSlug (toAsciiLowercase slug) →
      143 + len (requestIdText requestId) + len (escaped slug) ≤ maxIpcFrame
  | _ => True

/-- The live routes can be listed, and a selector that matches none can be quoted. -/
def AnswerFits (shared : Shared) : Phase → Prop
  | .listing requestId =>
    listSize requestId shared.baseDomain shared.registry.routes ≤ maxIpcFrame
  | .resolving requestId (.slug value) =>
    shared.registry.resolve (.slug value) = none →
      122 + len (requestIdText requestId) + len (escaped value) ≤ maxIpcFrame
  | _ => True

/-- The reply that the step makes, if it makes one, fits into a frame. -/
def ReplyFits (d : Daemon) : Label → Prop
  | .register c _ _ => RefusalFits d.shared.registry (d.handlers c).phase
  | .proceed c => AnswerFits d.shared (d.handlers c).phase
  | _ => True

instance (registry : RouteRegistry) (phase : Phase) : Decidable (RefusalFits registry phase) := by
  unfold RefusalFits
  split <;> infer_instance

instance (shared : Shared) (phase : Phase) : Decidable (AnswerFits shared phase) := by
  unfold AnswerFits
  split <;> infer_instance

instance (d : Daemon) (label : Label) : Decidable (ReplyFits d label) :=
  match label with
  | .register c _ _ =>
    inferInstanceAs (Decidable (RefusalFits d.shared.registry (d.handlers c).phase))
  | .proceed c => inferInstanceAs (Decidable (AnswerFits d.shared (d.handlers c).phase))
  | .accept | .acceptEnds | .read .. | .snapshot .. | .timeout _ | .queue .. | .send _ | .drained _
  | .take _ | .wrote .. | .writerEnds _ | .statsTick _ | .statsCheck .. | .statsSend _ | .supervise
  | .poll _ | .fatalSnapshot _ | .fatalSend | .fatalClear | .exit | .idleTick | .idleStops | .signal
  | .cancelTimer | .advance _ => instDecidableTrue

/-- The route that a handler is registering or stopping. -/
def Phase.handles (phase : Phase) : Option Route :=
  phase.activates.or (phase.stops.map Prod.fst)

/-- What bounds the replies to come: the routes have valid slugs, and there are no
more of them than ports. -/
structure Bounded (baseDomain : String) (d : Daemon) : Prop where
  wellFormed : d.shared.registry.WellFormed
  domain : d.shared.baseDomain = baseDomain
  handled : ∀ c route, (d.handlers c).phase.handles = some route → ValidSlug route.slug
  counted : ∀ c count, (d.handlers c).phase.routeCount = some count → count ≤ 65536

/-! ### The base domain -/

private theorem plain_baseDomain {hostname : String} {index : Nat}
    (configured : wildcardBaseDomain hostname index = .ok (some baseDomain)) :
    Plain baseDomain ∧ len baseDomain ≤ 253 := by
  obtain ⟨domain, valid, rfl⟩ := wildcardBaseDomain_eq_some configured
  refine ⟨?_, ?_⟩
  · intro c member
    rw [toList_toAsciiLowercase, List.mem_map] at member
    obtain ⟨upper, inDomain, rfl⟩ := member
    have plainChar : ∀ c : Char, (c.isAlphanum = true ∨ c = '-' ∨ c = '.') →
        32 ≤ c.toNat ∧ c ≠ '"' ∧ c ≠ '\\' := by
      rintro c (alphanum | rfl | rfl)
      · rw [isAlphanum_iff] at alphanum
        refine ⟨by omega, ?_, ?_⟩
        · rintro rfl
          exact absurd alphanum (by decide)
        · rintro rfl
          exact absurd alphanum (by decide)
      · decide
      · decide
    apply plainChar
    rcases valid.characters upper inDomain with alphanum | rfl | rfl
    · exact .inl (by rwa [isAlphanum_toLower])
    · exact .inr (.inl (by decide))
    · exact .inr (.inr (by decide))
  · rw [len_toAsciiLowercase]
    exact valid.short

/-! ### Refusals -/

/-- Why a registration is refused. -/
inductive Refused (registry : RouteRegistry) (port : UInt16) (requested : Option String) :
    FwError → Prop where
  | zeroPort (zero : port = 0) : Refused registry port requested (.invalidPort "0")
  | samePort {slug : String} (nonzero : port ≠ 0) (active : registry.slugByPort[port]? = some slug) :
      Refused registry port requested (.duplicatePort port slug)
  | badSlug {slug reason : String} (nonzero : port ≠ 0)
      (free : registry.slugByPort[port]? = none) (asked : requested = some slug)
      (invalid : validateNormalizedSlug (toAsciiLowercase slug) = .error reason) :
      Refused registry port requested (.invalidSlug slug reason)
  | sameSlug {slug : String} (asked : requested = some slug)
      (valid : ValidSlug (toAsciiLowercase slug)) :
      Refused registry port requested (.duplicateSlug (toAsciiLowercase slug))
  | exhausted (unasked : requested = none) :
      Refused registry port requested (.other "all generated slug combinations are already active")

private theorem refused_of_register {registry : RouteRegistry} {port : UInt16}
    {requested : Option String}
    {session : UInt64} {pid : UInt32} {rng : DrawStream} {stamp : Stamp} {error : FwError}
    (wellFormed : registry.WellFormed)
    (failed : (registry.registerWithRng port requested session pid rng stamp).1 = .error error) :
    Refused registry port requested error := by
  cases (wellFormed.registerWithRng_error session pid stamp error).mp failed with
  | zeroPort zero => exact .zeroPort zero
  | heldPort nonzero live held =>
    exact .samePort nonzero ((wellFormed.ports port _).mpr ⟨_, live, held⟩)
  | invalidSlug nonzero freePort asked invalid =>
    refine .badSlug nonzero ?_ asked invalid
    cases active : registry.slugByPort[port]? with
    | none => rfl
    | some slug =>
      obtain ⟨holder, live, held, _⟩ := wellFormed.port_held active
      exact absurd held (freePort holder live)
  | activeSlug _ _ asked valid _ same =>
    rw [same]
    exact .sameSlug asked valid
  | exhausted _ _ unasked => exact .exhausted unasked

/-! ### One reply -/

private theorem sendable_of_short (compact : Compact (ServerMessage.json floats) toVec)
    (short : len (message.json floats) ≤ 65000) :
    Sendable toVec (Envelope.new requestId message) := by
  have id := len_requestIdText requestId
  rw [sendable_iff compact, maxIpcFrame]
  omega

private theorem sendable_of_short_error (compact : Compact (ServerMessage.json floats) toVec)
    {code : ErrorCode} {text : String} (short : len text ≤ 10000) :
    Sendable toVec (Envelope.new requestId (.error code text)) := by
  have tag := len_tag code
  have quoted := len_escaped_le text
  apply sendable_of_short compact
  rw [len_errorJson]
  omega

private theorem sendable_stopped (compact : Compact (ServerMessage.json floats) toVec)
    (valid : ValidSlug route.slug) (plain : Plain baseDomain) (short : len baseDomain ≤ 253) :
    Sendable toVec (Envelope.new requestId (.stopped (route.view baseDomain))) := by
  have slug := len_slug valid
  have port := len_port route.port
  apply sendable_of_short compact
  rw [len_stoppedJson, Route.view, len_routeJson valid plain]
  omega

private theorem sendable_registered (compact : Compact (ServerMessage.json floats) toVec)
    (valid : ValidSlug route.slug) (plain : Plain baseDomain) (short : len baseDomain ≤ 253) :
    Sendable toVec (Envelope.new requestId (registeredMessage route baseDomain)) := by
  have slug := len_slug valid
  have port := len_port route.port
  have session := len_session route.ownerSession
  have slugText : len (escaped (route.view baseDomain).slug) = len route.slug :=
    len_escaped_plain (plain_slug valid)
  have localUrl := len_localUrl route.slug route.port baseDomain
  have publicUrl := len_publicUrl valid plain route.port
  apply sendable_of_short compact
  rw [registeredMessage, len_registeredJson, slugText, Route.view, localUrl, publicUrl]
  omega

private theorem sendable_unregistered (compact : Compact (ServerMessage.json floats) toVec)
    (session : UInt64) : Sendable toVec (Envelope.new requestId (.unregistered session)) := by
  have digits := len_session session
  apply sendable_of_short compact
  rw [len_unregisteredJson]
  omega

private theorem sendable_killAccepted (compact : Compact (ServerMessage.json floats) toVec)
    {count : Nat}
    (counted : count ≤ 65536) : Sendable toVec (Envelope.new requestId (.killAccepted count)) := by
  have digits : len (toString count) ≤ 5 := len_repr_le (by decide) (by omega)
  apply sendable_of_short compact
  rw [len_killAcceptedJson]
  omega

private theorem sendable_shuttingDown (compact : Compact (ServerMessage.json floats) toVec) :
    Sendable toVec (Envelope.new requestId shuttingDownMessage) :=
  sendable_of_short_error compact (by decide)

private theorem invalidSlug_display (slug reason : String) :
    (FwError.invalidSlug slug reason).display = "Invalid slug \"" ++ slug ++ "\": " ++ reason := rfl

private theorem validateNormalizedSlug_reason {slug reason : String}
    (invalid : validateNormalizedSlug slug = .error reason) :
    (reason = "must be between 1 and 63 characters" ∨ len slug ≤ 63) ∧ len reason ≤ 80 := by
  have text : s!"must be between 1 and {maxSlugLen} characters" =
      "must be between 1 and 63 characters" := by decide
  unfold validateNormalizedSlug at invalid
  rw [text] at invalid
  split_ifs at invalid with long nonAscii hyphens foreign digits
  · cases invalid
    exact ⟨.inl rfl, (len_ofList rfl).trans_le (by decide)⟩
  all_goals
    cases invalid
    have short : len slug ≤ 63 := Nat.not_lt.mp (not_or.mp long).2
    exact ⟨.inr short, (len_ofList rfl).trans_le (by decide)⟩

/-- The refusal of a slug fits exactly if the slug is not too long to be quoted. -/
theorem sendable_invalidSlug_iff (compact : Compact (ServerMessage.json floats) toVec)
    {slug reason : String} (invalid : validateNormalizedSlug (toAsciiLowercase slug) = .error reason) :
    Sendable toVec (Envelope.new requestId (errorMessage (.invalidSlug slug reason))) ↔
      143 + len (requestIdText requestId) + len (escaped slug) ≤ maxIpcFrame := by
  obtain ⟨short, reasonShort⟩ := validateNormalizedSlug_reason invalid
  have quoted := len_escaped_le slug
  have id := len_requestIdText requestId
  rw [len_toAsciiLowercase] at short
  have text : len (escaped (FwError.invalidSlug slug reason).display) =
      19 + len (escaped slug) + len (escaped reason) := by
    rw [invalidSlug_display]
    simp only [escaped_append, len_append,
      show len (escaped "Invalid slug \"") = 15 from len_escaped_ofList rfl,
      show len (escaped "\": ") = 4 from len_escaped_ofList rfl]
    omega
  have size : 38 + len (requestIdText requestId) +
      len ((errorMessage (.invalidSlug slug reason)).json floats) =
        108 + len (requestIdText requestId) + len (escaped slug) + len (escaped reason) := by
    rw [errorMessage, len_errorJson, text,
      show len (escaped ErrorCode.invalidSlug.tag) = 12 from len_escaped_ofList rfl]
    omega
  rw [sendable_iff compact, size]
  rcases short with rfl | short
  · rw [show len (escaped "must be between 1 and 63 characters") = 35 from len_escaped_ofList rfl]
    omega
  · have reasonQuoted := len_escaped_le reason
    rw [maxIpcFrame]
    omega

/-- A refusal fits unless it quotes a slug that is too long. -/
theorem sendable_refusal_iff (compact : Compact (ServerMessage.json floats) toVec)
    {registry : RouteRegistry} (wellFormed : registry.WellFormed) {port : UInt16}
    {requested : Option String} {pid : UInt32} {session : UInt64} {error : FwError}
    (refused : Refused registry port requested error) :
    Sendable toVec (Envelope.new requestId (errorMessage error)) ↔
      RefusalFits registry (.registering requestId port requested pid session) := by
  cases refused with
  | zeroPort zero =>
    have sendable : Sendable toVec (Envelope.new requestId (errorMessage (.invalidPort "0"))) :=
      sendable_of_short_error compact (by decide)
    refine iff_of_true sendable ?_
    cases requested with
    | none => trivial
    | some slug => exact fun nonzero => absurd zero nonzero
  | @samePort slug nonzero active =>
    obtain ⟨route, found, _⟩ := (wellFormed.ports port slug).mp active
    have slugShort := len_slug (wellFormed.valid found).1
    have portShort := len_port port
    have text : (FwError.duplicatePort port slug).display =
        "Port " ++ toString port ++ " is already forwarded as \"" ++ slug ++ "\"" := rfl
    have short : len (FwError.duplicatePort port slug).display ≤ 10000 := by
      rw [text]
      simp only [len_append, show len "Port " = 5 from len_ofList rfl,
        show len " is already forwarded as \"" = 26 from len_ofList rfl,
        show len "\"" = 1 from len_ofList rfl]
      omega
    refine iff_of_true (sendable_of_short_error compact short) ?_
    cases requested with
    | none => trivial
    | some slug =>
      intro _ free
      rw [active] at free
      cases free
  | badSlug nonzero free asked invalid =>
    subst asked
    rw [sendable_invalidSlug_iff compact invalid]
    constructor
    · exact fun fits _ _ _ => fits
    · intro fits
      refine fits nonzero free fun valid => ?_
      rw [ValidSlug, invalid] at valid
      cases valid
  | @sameSlug slug asked valid =>
    subst asked
    have slugShort := len_slug valid
    have text : (FwError.duplicateSlug (toAsciiLowercase slug)).display =
        "Slug \"" ++ toAsciiLowercase slug ++ "\" is already active" := rfl
    have short : len (FwError.duplicateSlug (toAsciiLowercase slug)).display ≤ 10000 := by
      rw [text]
      simp only [len_append, show len "Slug \"" = 6 from len_ofList rfl,
        show len "\" is already active" = 19 from len_ofList rfl]
      omega
    exact iff_of_true (sendable_of_short_error compact short) fun _ _ invalid => absurd valid invalid
  | exhausted unasked =>
    subst unasked
    have sendable : Sendable toVec (Envelope.new requestId
        (errorMessage (.other "all generated slug combinations are already active"))) :=
      sendable_of_short_error compact (by decide)
    exact iff_of_true sendable trivial

private theorem len_routeNotFound (value : String) :
    len (escaped s!"no active forward matches \"{value}\"") = 30 + len (escaped value) := by
  have text : s!"no active forward matches \"{value}\"" =
      "no active forward matches \"" ++ value ++ "\"" := by
    simp [toString]
  rw [text]
  simp only [escaped_append, len_append,
    show len (escaped "no active forward matches \"") = 28 from len_escaped_ofList rfl,
    show len (escaped "\"") = 2 from len_escaped_ofList rfl]
  omega

/-- The answer to an unresolved Stop fits unless it quotes a slug that is too long. -/
theorem sendable_unresolved_iff (compact : Compact (ServerMessage.json floats) toVec)
    {selector : StopSelector} (nothing : shared.registry.resolve selector = none) :
    Sendable toVec (Envelope.new requestId (routeNotFoundMessage selector)) ↔
      AnswerFits shared (.resolving requestId selector) := by
  cases selector with
  | port value =>
    have digits := len_port value
    have short : len (escaped s!"no active forward matches \"{toString value}\"") ≤ 60 := by
      have quoted := len_escaped_le (toString value)
      rw [len_routeNotFound]
      omega
    refine iff_of_true (sendable_of_short compact ?_) trivial
    change len ((ServerMessage.error .routeNotFound _).json floats) ≤ 65000
    rw [len_errorJson,
      show len (escaped ErrorCode.routeNotFound.tag) = 15 from len_escaped_ofList rfl]
    exact (Nat.add_le_add_left short _).trans (by decide)
  | slug value =>
    have size : 38 + len (requestIdText requestId) +
        len ((routeNotFoundMessage (.slug value)).json floats) =
          122 + len (requestIdText requestId) + len (escaped value) := by
      change 38 + len (requestIdText requestId) +
        len ((ServerMessage.error .routeNotFound s!"no active forward matches \"{value}\"").json
          floats) = _
      rw [len_errorJson, len_routeNotFound,
        show len (escaped ErrorCode.routeNotFound.tag) = 15 from len_escaped_ofList rfl]
      omega
    rw [sendable_iff compact, size]
    exact ⟨fun fits _ => fits, fun fits => fits nothing⟩

/-- A list of the live routes fits exactly if it is not too long. -/
theorem sendable_list_iff (compact : Compact (ServerMessage.json floats) toVec)
    {registry : RouteRegistry} (wellFormed : registry.WellFormed) (plain : Plain baseDomain) :
    Sendable toVec (Envelope.new requestId (.routeList (registry.list baseDomain))) ↔
      listSize requestId baseDomain registry.routes ≤ maxIpcFrame := by
  have permuted : (registry.list baseDomain).Perm
      (registry.routes.map fun route => route.view baseDomain) := List.perm_insertionSort _ _
  have lengths : (registry.list baseDomain).length = registry.routes.length := by
    rw [permuted.length_eq, List.length_map]
  have sizes : ((registry.list baseDomain).map fun view => len view.json).sum =
      (registry.routes.map fun route =>
        76 + 2 * len route.slug + 2 * len (toString route.port) + len baseDomain).sum := by
    rw [(permuted.map _).sum_eq, List.map_map]
    refine congrArg List.sum (List.map_congr_left ?_)
    intro route member
    obtain ⟨entry, listed, rfl⟩ := List.mem_map.mp member
    have found := ExtTreeMap.mem_toList_iff_getElem?_eq_some.mp listed
    have valid := (wellFormed.valid found).1
    rw [← wellFormed.keyed found] at valid
    rw [Function.comp_apply, Route.view, len_routeJson valid plain]
  have size := len_routeListJson floats (registry.list baseDomain)
  rw [sizes, lengths] at size
  rw [sendable_iff compact, size, listSize]
  generalize (registry.routes.map fun route =>
    76 + 2 * len route.slug + 2 * len (toString route.port) + len baseDomain).sum = total
  generalize len (requestIdText requestId) = id
  omega

/-! ### Every step keeps the bounds -/

/-- There are no more routes than ports. -/
theorem RouteRegistry.WellFormed.routes_length {registry : RouteRegistry}
    (wellFormed : registry.WellFormed) : registry.routes.length ≤ 65536 := by
  have distinct : (registry.bySlug.toList.map fun entry => entry.2.port.toNat).Nodup := by
    apply List.pairwise_map.mpr
    refine ExtTreeMap.distinct_keys_toList.imp_of_mem ?_
    intro first second member other different same
    have found := ExtTreeMap.mem_toList_iff_getElem?_eq_some.mp member
    have otherFound := ExtTreeMap.mem_toList_iff_getElem?_eq_some.mp other
    have port : first.2.port = second.2.port := UInt16.toNat_inj.mp same
    have claims := (wellFormed.ports first.2.port first.1).mpr ⟨first.2, found, rfl⟩
    have otherClaims := (wellFormed.ports second.2.port second.1).mpr ⟨second.2, otherFound, rfl⟩
    rw [port, otherClaims] at claims
    rw [Option.some.inj claims] at different
    exact different compare_self
  have within : (registry.bySlug.toList.map fun entry => entry.2.port.toNat) ⊆ List.range 65536 := by
    intro port member
    obtain ⟨entry, _, rfl⟩ := List.mem_map.mp member
    exact List.mem_range.mpr entry.2.port.toNat_lt
  have bound := (List.subperm_of_subset distinct within).length_le
  simpa [RouteRegistry.routes] using bound

theorem HandlerStep.handles (taken : HandlerStep d c label shared handler)
    (wellFormed : d.shared.registry.WellFormed) (handled : handler.phase.handles = some route) :
    (d.handlers c).phase.handles = some route ∨ ValidSlug route.slug := by
  cases taken with
  | registered phase addable =>
    cases handled
    exact .inr addable.valid
  | resolved phase found =>
    cases handled
    have live := RouteRegistry.live_of_resolve wellFormed found
    exact .inr (wellFormed.valid live).1
  | acknowledgeIgnored => exact .inl handled
  | published phase | removedRoutes phase | removedOwner phase | acknowledged phase
  | foundEmpty phase | notified phase | located phase | unlocated phase | terminated phase
  | timedOut phase =>
    rw [phase]
    exact .inl handled
  | @foundBusy _ after | @markedIdle _ after => cases after <;> cases handled
  | _ => cases handled

theorem HandlerStep.counted {count : Nat} (taken : HandlerStep d c label shared handler)
    (wellFormed : d.shared.registry.WellFormed) (counted : handler.phase.routeCount = some count) :
    (d.handlers c).phase.routeCount = some count ∨ count ≤ 65536 := by
  cases taken with
  | cleared phase =>
    cases counted
    right
    simp only [RouteRegistry.clear, RouteRegistry.sortBySlug, List.length_insertionSort]
    exact wellFormed.routes_length
  | acknowledgeIgnored => exact .inl counted
  | broadcasted phase | snapshotted phase | broadcastOne phase =>
    rw [phase]
    exact .inl counted
  | @foundBusy _ after | @markedIdle _ after => cases after <;> cases counted
  | _ => cases counted

theorem Bounded.step (bounded : Bounded baseDomain d) (change : Change d label d') :
    Bounded baseDomain d' where
  wellFormed := change.wellFormed bounded.wellFormed
  domain := by
    rcases change.shared with ⟨c, handler, taken⟩ | ⟨_, _, _, same⟩ | ⟨_, same⟩
    · exact taken.baseDomain.trans bounded.domain
    · rw [same]
      exact bounded.domain
    · rw [same]
      exact bounded.domain
  handled c route handled := by
    rcases change.handlers c with same | ⟨_, fresh⟩ | taken
    · exact bounded.handled c route (same ▸ handled)
    · rw [fresh] at handled
      cases handled
    · rcases taken.handles bounded.wellFormed handled with old | valid
      · exact bounded.handled c route old
      · exact valid
  counted c count counted := by
    rcases change.handlers c with same | ⟨_, fresh⟩ | taken
    · exact bounded.counted c count (same ▸ counted)
    · rw [fresh] at counted
      cases counted
    · rcases taken.counted bounded.wellFormed counted with old | small
      · exact bounded.counted c count old
      · exact small

theorem bounded_start (baseDomain : String) (now : Instant) :
    Bounded baseDomain (.start baseDomain now) where
  wellFormed := RouteRegistry.wellFormed_new
  domain := rfl
  handled _ _ handled := by cases handled
  counted _ _ counted := by cases counted

/-- **Step lemma.** The reply that a step makes can be sent exactly if the step
meets the condition. -/
theorem HandlerStep.reply_sendable_iff (compact : Compact (ServerMessage.json floats) toVec)
    (plain : Plain baseDomain) (short : len baseDomain ≤ 253) (bounded : Bounded baseDomain d)
    (taken : HandlerStep d c label shared handler)
    (unreplied : ∀ requestId message after, (d.handlers c).phase ≠ .replying requestId message after)
    (phase : handler.phase = .replying requestId message after) :
    Sendable toVec (Envelope.new requestId message) ↔ ReplyFits d label := by
  have handled := bounded.handled c
  have counted := bounded.counted c
  have domain := bounded.domain
  cases taken with
  | registerRefused | killRefused =>
    cases phase
    exact iff_of_true (sendable_shuttingDown compact) trivial
  | unregisterRefused =>
    cases phase
    exact iff_of_true (sendable_of_short_error compact (by decide)) trivial
  | acknowledgeIgnored => exact absurd phase (unreplied _ _ _)
  | registerFailed registering failed =>
    cases phase
    rw [ReplyFits, registering]
    exact sendable_refusal_iff compact bounded.wellFormed
      (refused_of_register bounded.wellFormed failed)
  | activated activating =>
    cases phase
    rw [activating] at handled
    rw [ReplyFits, activating, domain]
    exact iff_of_true (sendable_registered compact (handled _ rfl) plain short) trivial
  | @foundBusy session next removing | @markedIdle session next removing =>
    rw [removing] at handled
    rw [ReplyFits, removing, domain] at *
    cases next with
    | unregistered =>
      cases phase
      exact iff_of_true (sendable_unregistered compact session) trivial
    | stopped id route notify =>
      cases phase
      exact iff_of_true (sendable_stopped compact (handled _ rfl) plain short) trivial
    | acknowledged | disconnected => cases phase
  | listed listing =>
    cases phase
    rw [ReplyFits, listing, AnswerFits, domain]
    exact sendable_list_iff compact bounded.wellFormed plain
  | unresolved resolving nothing =>
    cases phase
    rw [ReplyFits, resolving]
    exact sendable_unresolved_iff compact nothing
  | woken waiting =>
    cases phase
    rw [waiting] at handled
    rw [ReplyFits, waiting, domain]
    exact iff_of_true (sendable_stopped compact (handled _ rfl) plain short) trivial
  | broadcasted broadcasting =>
    cases phase
    rw [broadcasting] at counted
    rw [ReplyFits, broadcasting]
    exact iff_of_true (sendable_killAccepted compact (counted _ rfl)) trivial
  | _ => cases phase

theorem Bounded.run {now : Instant}
    (ran : Run Daemon.step Unrestricted (.start baseDomain now) labels d) : Bounded baseDomain d :=
  ran.invariant (Bounded baseDomain) (bounded_start baseDomain now) fun _ _ _ bounded _ taken =>
    bounded.step (change_of_step taken)

/-- Every reply that is pending or queued can be sent. -/
structure RepliesSendable (toVec : Envelope ServerMessage → Except String (List UInt8))
    (d : Daemon) : Prop where
  pending : ∀ c requestId message after, (d.handlers c).phase = .replying requestId message after →
    Sendable toVec (Envelope.new requestId message)
  queued : ∀ c, ∀ envelope ∈ (d.channels c).sent, envelope.message.unsolicited = false →
    Sendable toVec envelope

theorem RepliesSendable.step (compact : Compact (ServerMessage.json floats) toVec)
    (plain : Plain baseDomain) (short : len baseDomain ≤ 253) (bounded : Bounded baseDomain d)
    (sendable : RepliesSendable toVec d) (fits : ReplyFits d label)
    (taken : d.step label = some d') : RepliesSendable toVec d' where
  pending c requestId message after phase := by
    rcases (change_of_step taken).handlers c with same | ⟨_, fresh⟩ | moved
    · exact sendable.pending c requestId message after (same ▸ phase)
    · rw [fresh] at phase
      cases phase
    · by_cases replying : ∃ requestId message after,
          (d.handlers c).phase = .replying requestId message after
      · obtain ⟨oldId, old, next, before⟩ := replying
        generalize d'.handlers c = handler at moved phase
        generalize d'.shared = shared at moved
        cases moved with
        | acknowledgeIgnored => exact sendable.pending c _ _ _ phase
        | @foundBusy _ after removing | @markedIdle _ after removing =>
          rw [before] at removing
          cases removing
        | replied | released | replyFailed => cases phase
        | _ => simp_all
      · have unreplied : ∀ requestId message after,
            (d.handlers c).phase ≠ .replying requestId message after :=
          fun _ _ _ before => replying ⟨_, _, _, before⟩
        exact (moved.reply_sendable_iff compact plain short bounded unreplied phase).mpr fits
  queued c envelope member solicited := by
    have queued := queued_of_step taken c
    generalize (d'.channels c).sent = history at queued member
    cases queued with
    | kept => exact sendable.queued c envelope member solicited
    | opened => cases member
    | @reply requestId message after phase alive =>
      rcases List.mem_append.mp member with old | new
      · exact sendable.queued c envelope old solicited
      · obtain rfl := List.mem_singleton.mp new
        exact sendable.pending c requestId message after phase
    | @pushed _ pushed unsolicited =>
      rcases List.mem_append.mp member with old | new
      · exact sendable.queued c envelope old solicited
      · obtain rfl := List.mem_singleton.mp new
        rw [solicited] at unsolicited
        cases unsolicited

/-- **Replies that can be sent.** In every reachable state of a daemon with a
configured base domain, the reply that a step makes is accepted by `encode_frame`
exactly if the step meets the condition; so in a run whose steps all meet it, every
reply ever queued is accepted. -/
theorem replies_sendable_iff {hostname : String} {index : Nat} {now : Instant}
    (configured : wildcardBaseDomain hostname index = .ok (some baseDomain))
    (compact : Compact (ServerMessage.json floats) toVec)
    (ran : Run Daemon.step Unrestricted (.start baseDomain now) labels d) :
    (∀ label d' c requestId message after, d.step label = some d' →
      (∀ requestId message after, (d.handlers c).phase ≠ .replying requestId message after) →
      (d'.handlers c).phase = .replying requestId message after →
        (Sendable toVec (Envelope.new requestId message) ↔ ReplyFits d label)) ∧
    (Run Daemon.step ReplyFits (.start baseDomain now) labels d → RepliesSendable toVec d) := by
  obtain ⟨plain, short⟩ := plain_baseDomain configured
  refine ⟨?_, ?_⟩
  · intro label d' c requestId message after taken unreplied phase
    rcases (change_of_step taken).handlers c with same | ⟨_, fresh⟩ | moved
    · rw [same] at phase
      exact absurd phase (unreplied _ _ _)
    · rw [fresh] at phase
      cases phase
    · exact moved.reply_sendable_iff compact plain short (.run ran) unreplied phase
  · intro fitting
    have both := fitting.invariant
      (fun d : Daemon => Bounded baseDomain d ∧ RepliesSendable toVec d)
      ⟨bounded_start baseDomain now, ?_⟩ ?_
    · exact both.2
    · constructor
      · intro c requestId message after phase
        cases phase
      · intro c envelope member
        cases member
    · intro d label d' ⟨bounded, sendable⟩ fits taken
      exact ⟨bounded.step (change_of_step taken),
        sendable.step compact plain short bounded fits taken⟩

/-- The compact encoder, for idle connections. -/
def compactToVec (envelope : Envelope ServerMessage) : Except String (List UInt8) :=
  .ok (bytes (envelope.json (ServerMessage.json fun _ => "0.0")))

/-- A registration under a short slug is answered. -/
theorem short_slug_replies_sendable : RepliesSendable compactToVec oneRoute := by
  have compact : Compact (ServerMessage.json fun _ => "0.0") compactToVec := fun _ => rfl
  have fitting : Run Daemon.step ReplyFits (.start "example.com" 0)
      (registrationLabels 0 3000 "app") oneRoute := run_to_executeChecked rfl
  have configured : wildcardBaseDomain "*.example.com" 0 = .ok (some "example.com") := by decide
  exact (replies_sendable_iff configured compact (fitting.mono fun _ _ _ => trivial)).2 fitting

/-! ### A slug that cannot be quoted -/

/-- A slug of this many letters. -/
def slugOfLength (length : Nat) : String := String.ofList (List.replicate length 'A')

private theorem letter_of_slugOfLength {length : Nat} {c : Char}
    (member : c ∈ (slugOfLength length).toList) : c = 'A' := by
  rw [slugOfLength, String.toList_ofList] at member
  exact List.eq_of_mem_replicate member

private theorem len_slugOfLength (length : Nat) : len (slugOfLength length) = length := by
  have ascii : ∀ c ∈ (slugOfLength length).toList, c.toNat < 128 := by
    intro c member
    rw [letter_of_slugOfLength member]
    decide
  rw [len_ascii ascii, slugOfLength, String.toList_ofList, List.length_replicate]

private theorem plain_slugOfLength (length : Nat) : Plain (slugOfLength length) := by
  intro c member
  rw [letter_of_slugOfLength member]
  decide

private theorem normalizeSlug_long {slug : String} (long : maxSlugLen < len slug) :
    normalizeSlug slug = .error (.invalidSlug slug "must be between 1 and 63 characters") := by
  have invalid : validateNormalizedSlug (toAsciiLowercase slug) =
      .error "must be between 1 and 63 characters" := by
    unfold validateNormalizedSlug
    rw [if_pos (.inr (by rwa [len_toAsciiLowercase]))]
    rfl
  rw [normalizeSlug, invalid]

/-- A registration with this slug. -/
def quotedRegistration (slug : String) : Envelope ClientMessage :=
  Envelope.new (some 1) (.register 3000 (some slug) 42)

/-- The client connects and its registration is read and refused. -/
def refusalLabels (slug : String) : List Label :=
  [.accept, .read 0 (.ok (quotedRegistration slug)), .register 0 ⟨[]⟩ ⟨0, 0⟩]

/-- The daemon when the registration waits for the registry. -/
def registeringDaemon (slug : String) : Daemon :=
  { Daemon.start "example.com" 0 with
    shared := { (Daemon.start "example.com" 0).shared with nextSession := 2 }
    accepted := 1
    handlers := Function.update
      (Function.update (Daemon.start "example.com" 0).handlers 0 .fresh) 0
      ⟨.registering (some 1) 3000 (some slug) 42 1, none⟩
    channels := Function.update (Daemon.start "example.com" 0).channels 0 .fresh }

private theorem refused_run {slug : String} (long : maxSlugLen < len slug) :
    ∃ d, Run Daemon.step Unrestricted (.start "example.com" 0) (refusalLabels slug) d ∧
      (d.handlers 0).phase = .replying (some 1)
        (errorMessage (.invalidSlug slug "must be between 1 and 63 characters")) .resume := by
  have invalid := normalizeSlug_long long
  have reading : Run Daemon.step Unrestricted (.start "example.com" 0)
      [.accept, .read 0 (.ok (quotedRegistration slug))] (registeringDaemon slug) :=
    run_of_execute rfl
  have waiting : (registeringDaemon slug).handlers 0 =
      ⟨.registering (some 1) 3000 (some slug) 42 1, none⟩ := rfl
  have refused : (RouteRegistry.registerWithRng .new 3000 (some slug) 1 42 (⟨[]⟩ : DrawStream)
      ⟨0, 0⟩) = (.error (.invalidSlug slug "must be between 1 and 63 characters"), .new, ⟨[]⟩) := by
    have free : RouteRegistry.new.slugByPort[(3000 : UInt16)]? = none := by simp [RouteRegistry.new]
    rw [RouteRegistry.registerWithRng, if_neg (by decide), free]
    simp only [RouteRegistry.chooseSlug, invalid]
  have taken : ∃ d, (registeringDaemon slug).step (.register 0 ⟨[]⟩ ⟨0, 0⟩) = some d ∧
      (d.handlers 0).phase = .replying (some 1)
        (errorMessage (.invalidSlug slug "must be between 1 and 63 characters")) .resume := by
    change ∃ d, (registerSection _ ((registeringDaemon slug).handlers 0) _ _).map
      ((registeringDaemon slug).move 0) = some d ∧ _
    rw [waiting]
    simp only [registerSection]
    rw [show (registeringDaemon slug).shared.registry = .new from rfl, refused]
    exact ⟨_, rfl, by simp [Daemon.move, Handler.respond]⟩
  obtain ⟨d, taken, phase⟩ := taken
  exact ⟨d, .snoc reading trivial taken, phase⟩

private theorem len_registration {slug : String} (plain : Plain slug) :
    len (ClientMessage.json (.register 3000 (some slug) 42)) = 50 + len slug := by
  rw [ClientMessage.json, len_object]
  simp only [nullable, List.map_cons, List.map_nil, List.sum_cons, List.sum_nil, List.length_cons,
    List.length_nil, len_string, len_escaped_plain plain,
    show len (escaped "type") = 4 from len_escaped_ofList rfl,
    show len (escaped "register") = 8 from len_escaped_ofList rfl,
    show len (escaped "port") = 4 from len_escaped_ofList rfl,
    show len (escaped "slug") = 4 from len_escaped_ofList rfl,
    show len (escaped "pid") = 3 from len_escaped_ofList rfl,
    show len (toString (3000 : UInt16)) = 4 by decide,
    show len (toString (42 : UInt32)) = 2 by decide]
  omega

/-- **A refusal that cannot be sent.** A registration with a slug of 65400 letters
arrives in a frame of its own, but the reply that quotes the slug is refused by
`encode_frame`. -/
theorem long_slug_refusal_unsendable :
    Sendable (fun envelope => .ok (bytes (envelope.json ClientMessage.json)))
        (quotedRegistration (slugOfLength 65400)) ∧
      ∃ d, Run Daemon.step Unrestricted (.start "example.com" 0)
          (refusalLabels (slugOfLength 65400)) d ∧
        ∃ message, (d.handlers 0).phase = .replying (some 1) message .resume ∧
          ∀ floats toVec, Compact (ServerMessage.json floats) toVec →
            ¬ Sendable toVec (Envelope.new (some 1) message) := by
  have plain := plain_slugOfLength 65400
  have length := len_slugOfLength 65400
  have id : len (requestIdText (some 1)) = 1 := by decide
  refine ⟨?_, ?_⟩
  · have compact : Compact ClientMessage.json
        (fun envelope => .ok (bytes (envelope.json ClientMessage.json))) := fun _ => rfl
    refine (sendable_iff compact _ _).mpr ?_
    rw [len_registration plain, length, id]
    decide
  · have long : maxSlugLen < len (slugOfLength 65400) := by
      rw [length]
      decide
    obtain ⟨d, ran, phase⟩ := refused_run long
    refine ⟨d, ran, _, phase, fun floats toVec compact sendable => ?_⟩
    have invalid : validateNormalizedSlug (toAsciiLowercase (slugOfLength 65400)) =
        .error "must be between 1 and 63 characters" := by
      unfold validateNormalizedSlug
      rw [if_pos (.inr (by rwa [len_toAsciiLowercase]))]
      rfl
    have fits := (sendable_invalidSlug_iff compact invalid).mp sendable
    rw [id, len_escaped_plain plain, length] at fits
    exact absurd fits (by decide)

end CfFw
