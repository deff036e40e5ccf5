import CfFw.Framing
import CfFw.JsonText
import CfFw.Registry

/-! The JSON that `serde` derives for the messages of `ipc/protocol.rs`, field by
field in declaration order, and the exact sizes of the replies whose size depends
on the routes or on what a client sent. The text of a float belongs to another
crate and is a parameter. -/
namespace CfFw
open Text JsonText

/-! ### Texts -/

def ErrorCode.tag : ErrorCode → String
  | .invalidRequest => "invalid_request"
  | .invalidPort => "invalid_port"
  | .invalidSlug => "invalid_slug"
  | .duplicateSlug => "duplicate_slug"
  | .duplicatePort => "duplicate_port"
  | .routeNotFound => "route_not_found"
  | .noActiveForwards => "no_active_forwards"
  | .daemonShuttingDown => "daemon_shutting_down"
  | .cloudflaredExited => "cloudflared_exited"
  | .internal => "internal"

def TerminateReason.tag : TerminateReason → String
  | .remoteStop => "remote_stop"
  | .daemonKill => "daemon_kill"

/-- An optional value. -/
def nullable {α : Type} (text : α → String) : Option α → String
  | none => "null"
  | some value => text value

def StopSelector.json : StopSelector → String
  | .slug value => object [("type", string "slug"), ("value", string value)]
  | .port value => object [("type", string "port"), ("value", toString value)]

def ClientMessage.json : ClientMessage → String
  | .register port slug pid =>
    object [("type", string "register"), ("port", toString port), ("slug", nullable string slug),
      ("pid", toString pid)]
  | .unregister sessionId =>
    object [("type", string "unregister"), ("session_id", toString sessionId)]
  | .list => object [("type", string "list")]
  | .stop selector => object [("type", string "stop"), ("selector", selector.json)]
  | .kill => object [("type", string "kill")]
  | .terminateAcknowledged sessionId =>
    object [("type", string "terminate_acknowledged"), ("session_id", toString sessionId)]

def RouteView.json (view : RouteView) : String :=
  object [("slug", string view.slug), ("port", toString view.port),
    ("local_url", string view.localUrl), ("public_url", string view.publicUrl)]

def ServerMessage.json (floats : UInt64 → String) : ServerMessage → String
  | .registered sessionId slug localUrl publicUrl =>
    object [("type", string "registered"), ("session_id", toString sessionId),
      ("slug", string slug), ("local_url", string localUrl), ("public_url", string publicUrl)]
  | .unregistered sessionId =>
    object [("type", string "unregistered"), ("session_id", toString sessionId)]
  | .routeList routes =>
    object [("type", string "route_list"), ("routes", array (routes.map RouteView.json))]
  | .stopped route => object [("type", string "stopped"), ("route", route.json)]
  | .killAccepted routeCount =>
    object [("type", string "kill_accepted"), ("route_count", toString routeCount)]
  | .terminate reason => object [("type", string "terminate"), ("reason", string reason.tag)]
  | .stats sessionId sample =>
    object [("type", string "stats"), ("session_id", toString sessionId),
      ("uploaded_bytes", toString sample.uploadedBytes),
      ("downloaded_bytes", toString sample.downloadedBytes),
      ("upload_bytes_per_second", floats sample.uploadBytesPerSecond),
      ("download_bytes_per_second", floats sample.downloadBytesPerSecond)]
  | .error code message =>
    object [("type", string "error"), ("code", string code.tag), ("message", string message)]
  | .fatal code message =>
    object [("type", string "fatal"), ("code", string code.tag), ("message", string message)]

def requestIdText (requestId : Option UInt64) : String := nullable toString requestId

def Envelope.json {α : Type} (message : α → String) (envelope : Envelope α) : String :=
  object [("version", toString envelope.version), ("request_id", requestIdText envelope.requestId),
    ("message", message envelope.message)]

/-- `serde_json::to_vec` writes this text. -/
def Compact {α : Type} (message : α → String)
    (toVec : Envelope α → Except String (List UInt8)) : Prop :=
  ∀ envelope, toVec envelope = .ok (bytes (envelope.json message))

/-- `encode_frame` accepts the envelope. -/
def Sendable {α : Type} (toVec : Envelope α → Except String (List UInt8))
    (envelope : Envelope α) : Prop :=
  ∃ frame, encodeFrame toVec envelope = .ok frame

/-! ### Sizes -/

theorem len_escaped_plain {s : String} (plain : Plain s) : len (escaped s) = len s := by
  rw [escaped_plain plain]

private theorem len_envelope {α : Type} (message : α → String) (requestId : Option UInt64)
    (content : α) :
    len ((Envelope.new requestId content).json message) =
      38 + len (requestIdText requestId) + len (message content) := by
  have version : len (toString (Envelope.new requestId content).version) = 1 :=
    show len (toString protocolVersion) = 1 by decide
  rw [Envelope.json, len_object]
  simp only [List.map_cons, List.map_nil, List.sum_cons, List.sum_nil, List.length_cons,
    List.length_nil, version, show len (escaped "version") = 7 from len_escaped_ofList rfl,
    show len (escaped "request_id") = 10 from len_escaped_ofList rfl,
    show len (escaped "message") = 7 from len_escaped_ofList rfl]
  simp only [Envelope.new]
  omega

/-- An envelope can be sent exactly if its text fits into a frame. -/
theorem sendable_iff {α : Type} {message : α → String}
    {toVec : Envelope α → Except String (List UInt8)} (compact : Compact message toVec)
    (requestId : Option UInt64) (content : α) :
    Sendable toVec (Envelope.new requestId content) ↔
      38 + len (requestIdText requestId) + len (message content) ≤ maxIpcFrame := by
  have size : (bytes ((Envelope.new requestId content).json message)).length =
      38 + len (requestIdText requestId) + len (message content) :=
    len_envelope message requestId content
  have current : (Envelope.new requestId content).validateVersion = .ok () := if_pos rfl
  unfold Sendable encodeFrame
  rw [current, compact]
  simp only [bind, Except.bind, Except.mapError, size, validatePayloadLen, pure, Except.pure]
  constructor
  · rintro ⟨frame, encoded⟩
    split_ifs at encoded with empty long
    exact Nat.not_lt.mp long
  · intro fits
    rw [if_neg (by omega), if_neg (by omega)]
    exact ⟨_, rfl⟩

theorem len_requestIdText (requestId : Option UInt64) : len (requestIdText requestId) ≤ 20 := by
  cases requestId with
  | none => decide
  | some id =>
    have bound := id.toNat_lt
    exact len_repr_le (by decide) (by omega)

theorem len_port (port : UInt16) : len (toString port) ≤ 5 := by
  have bound := port.toNat_lt
  exact len_repr_le (by decide) (by omega)

theorem len_session (session : UInt64) : len (toString session) ≤ 20 := by
  have bound := session.toNat_lt
  exact len_repr_le (by decide) (by omega)

theorem len_errorJson (floats : UInt64 → String) (code : ErrorCode) (text : String) :
    len ((ServerMessage.error code text).json floats) =
      39 + len (escaped code.tag) + len (escaped text) := by
  rw [ServerMessage.json, len_object]
  simp only [List.map_cons, List.map_nil, List.sum_cons, List.sum_nil, List.length_cons,
    List.length_nil, len_string, show len (escaped "type") = 4 from len_escaped_ofList rfl,
    show len (escaped "error") = 5 from len_escaped_ofList rfl,
    show len (escaped "code") = 4 from len_escaped_ofList rfl,
    show len (escaped "message") = 7 from len_escaped_ofList rfl]
  omega

theorem plain_slug {slug : String} (valid : ValidSlug slug) : Plain slug := by
  intro c member
  have range := valid.characters c member
  refine ⟨by omega, ?_, ?_⟩
  · rintro rfl
    exact absurd range (by decide)
  · rintro rfl
    exact absurd range (by decide)

theorem len_slug {slug : String} (valid : ValidSlug slug) : len slug ≤ 63 :=
  (validSlug_iff.mp valid).2.1

private theorem localUrl_eq (slug : String) (port : UInt16) (baseDomain : String) :
    (RouteView.new slug port baseDomain).localUrl = "http://127.0.0.1:" ++ toString port := by
  have host : toString "http://" ++ toString loopbackHost ++ toString ":" = "http://127.0.0.1:" := by
    decide
  exact congrArg (· ++ toString port) host

theorem publicUrl_eq (slug : String) (port : UInt16) (baseDomain : String) :
    (RouteView.new slug port baseDomain).publicUrl = "https://" ++ slug ++ "." ++ baseDomain := by
  simp [RouteView.new, toString]

theorem len_localUrl (slug : String) (port : UInt16) (baseDomain : String) :
    len (escaped (RouteView.new slug port baseDomain).localUrl) = 17 + len (toString port) := by
  have plain : Plain (toString port) := plain_repr port.toNat
  rw [localUrl_eq, escaped_append, len_append, len_escaped_plain plain,
    show len (escaped "http://127.0.0.1:") = 17 from len_escaped_ofList rfl]

theorem len_publicUrl {slug baseDomain : String} (valid : ValidSlug slug) (plain : Plain baseDomain)
    (port : UInt16) :
    len (escaped (RouteView.new slug port baseDomain).publicUrl) = 9 + len slug + len baseDomain := by
  rw [publicUrl_eq]
  simp only [escaped_append, len_append, len_escaped_plain plain,
    len_escaped_plain (plain_slug valid),
    show len (escaped "https://") = 8 from len_escaped_ofList rfl,
    show len (escaped ".") = 1 from len_escaped_ofList rfl]
  omega

/-- The text of a route is as long as its slug and its port, twice each, and the
base domain make it. -/
theorem len_routeJson {slug baseDomain : String} (valid : ValidSlug slug) (plain : Plain baseDomain)
    (port : UInt16) :
    len (RouteView.new slug port baseDomain).json =
      76 + 2 * len slug + 2 * len (toString port) + len baseDomain := by
  have slugText : len (escaped (RouteView.new slug port baseDomain).slug) = len slug :=
    len_escaped_plain (plain_slug valid)
  have portText : (RouteView.new slug port baseDomain).port = port := rfl
  rw [RouteView.json, len_object]
  simp only [List.map_cons, List.map_nil, List.sum_cons, List.sum_nil, List.length_cons,
    List.length_nil, len_string, slugText, portText, len_localUrl, len_publicUrl valid plain,
    show len (escaped "slug") = 4 from len_escaped_ofList rfl,
    show len (escaped "port") = 4 from len_escaped_ofList rfl,
    show len (escaped "local_url") = 9 from len_escaped_ofList rfl,
    show len (escaped "public_url") = 10 from len_escaped_ofList rfl]
  omega

theorem len_stoppedJson (floats : UInt64 → String) (view : RouteView) :
    len ((ServerMessage.stopped view).json floats) = 27 + len view.json := by
  rw [ServerMessage.json, len_object]
  simp only [List.map_cons, List.map_nil, List.sum_cons, List.sum_nil, List.length_cons,
    List.length_nil, len_string, show len (escaped "type") = 4 from len_escaped_ofList rfl,
    show len (escaped "stopped") = 7 from len_escaped_ofList rfl,
    show len (escaped "route") = 5 from len_escaped_ofList rfl]
  omega

theorem len_routeListJson (floats : UInt64 → String) (views : List RouteView) :
    len ((ServerMessage.routeList views).json floats) =
      33 + (views.map fun view => len view.json).sum + (views.length - 1) := by
  rw [ServerMessage.json, len_object]
  simp only [List.map_cons, List.map_nil, List.sum_cons, List.sum_nil, List.length_cons,
    List.length_nil, len_string, len_array, List.length_map, List.map_map, Function.comp_def,
    show len (escaped "type") = 4 from len_escaped_ofList rfl,
    show len (escaped "route_list") = 10 from len_escaped_ofList rfl,
    show len (escaped "routes") = 6 from len_escaped_ofList rfl]
  omega

theorem len_registeredJson (floats : UInt64 → String) (session : UInt64)
    (slug localUrl publicUrl : String) :
    len ((ServerMessage.registered session slug localUrl publicUrl).json floats) =
      76 + len (toString session) + len (escaped slug) + len (escaped localUrl) +
        len (escaped publicUrl) := by
  rw [ServerMessage.json, len_object]
  simp only [List.map_cons, List.map_nil, List.sum_cons, List.sum_nil, List.length_cons,
    List.length_nil, len_string, show len (escaped "type") = 4 from len_escaped_ofList rfl,
    show len (escaped "registered") = 10 from len_escaped_ofList rfl,
    show len (escaped "session_id") = 10 from len_escaped_ofList rfl,
    show len (escaped "slug") = 4 from len_escaped_ofList rfl,
    show len (escaped "local_url") = 9 from len_escaped_ofList rfl,
    show len (escaped "public_url") = 10 from len_escaped_ofList rfl]
  omega

theorem len_unregisteredJson (floats : UInt64 → String) (session : UInt64) :
    len ((ServerMessage.unregistered session).json floats) = 37 + len (toString session) := by
  rw [ServerMessage.json, len_object]
  simp only [List.map_cons, List.map_nil, List.sum_cons, List.sum_nil, List.length_cons,
    List.length_nil, len_string, show len (escaped "type") = 4 from len_escaped_ofList rfl,
    show len (escaped "unregistered") = 12 from len_escaped_ofList rfl,
    show len (escaped "session_id") = 10 from len_escaped_ofList rfl]
  omega

theorem len_killAcceptedJson (floats : UInt64 → String) (routeCount : Nat) :
    len ((ServerMessage.killAccepted routeCount).json floats) = 39 + len (toString routeCount) := by
  rw [ServerMessage.json, len_object]
  simp only [List.map_cons, List.map_nil, List.sum_cons, List.sum_nil, List.length_cons,
    List.length_nil, len_string, show len (escaped "type") = 4 from len_escaped_ofList rfl,
    show len (escaped "kill_accepted") = 13 from len_escaped_ofList rfl,
    show len (escaped "route_count") = 11 from len_escaped_ofList rfl]
  omega

theorem len_statsJson (floats : UInt64 → String) (session : UInt64) (sample : MetricsSample) :
    len ((ServerMessage.stats session sample).json floats) =
      124 + len (toString session) + len (toString sample.uploadedBytes) +
        len (toString sample.downloadedBytes) + len (floats sample.uploadBytesPerSecond) +
        len (floats sample.downloadBytesPerSecond) := by
  rw [ServerMessage.json, len_object]
  simp only [List.map_cons, List.map_nil, List.sum_cons, List.sum_nil, List.length_cons,
    List.length_nil, len_string, show len (escaped "type") = 4 from len_escaped_ofList rfl,
    show len (escaped "stats") = 5 from len_escaped_ofList rfl,
    show len (escaped "session_id") = 10 from len_escaped_ofList rfl,
    show len (escaped "uploaded_bytes") = 14 from len_escaped_ofList rfl,
    show len (escaped "downloaded_bytes") = 16 from len_escaped_ofList rfl,
    show len (escaped "upload_bytes_per_second") = 23 from len_escaped_ofList rfl,
    show len (escaped "download_bytes_per_second") = 25 from len_escaped_ofList rfl]
  omega

theorem len_tag (code : ErrorCode) : len (escaped code.tag) ≤ 20 := by
  cases code <;> exact (len_escaped_ofList rfl).trans_le (by decide)

end CfFw
