import CfFw.FrameStreams
import CfFw.LossyText
import CfFw.Unambiguous
import CfFw.Wire
import Mathlib.Tactic.IntervalCases

/-! The bytes on a connection determine the messages. The compact JSON of an envelope is
delimited, value by value, frames carry their length, and so no two sequences of messages
have the same bytes, and a prefix of the bytes is a prefix of the messages. The text of a
float belongs to another crate and is a parameter. -/
namespace CfFw.WireText
open Text JsonText Unambiguous

/-! ### Values -/

/-- What can come right after a value. -/
def Closes (c : Char) : Prop := c = ',' ∨ c = ']' ∨ c = '\x7d'

/-- The value of a character of an escape. -/
def hexValue (c : Char) : Nat := if c.toNat < 58 then c.toNat - 48 else c.toNat - 87

/-- Reads back one character of a string. -/
def readChar : List Char → Option (Char × List Char)
  | '\\' :: 'u' :: '0' :: '0' :: high :: low :: rest =>
    some (Char.ofNat (16 * hexValue high + hexValue low), rest)
  | '\\' :: 'b' :: rest => some (Char.ofNat 8, rest)
  | '\\' :: 't' :: rest => some (Char.ofNat 9, rest)
  | '\\' :: 'n' :: rest => some (Char.ofNat 10, rest)
  | '\\' :: 'f' :: rest => some (Char.ofNat 12, rest)
  | '\\' :: 'r' :: rest => some (Char.ofNat 13, rest)
  | '\\' :: c :: rest => some (c, rest)
  | '"' :: _ => none
  | c :: rest => some (c, rest)
  | [] => none

private theorem control_escape (n : Nat) (control : n < 32) (rest : List Char) :
    readChar (escapeChar (Char.ofNat n) ++ rest) = some (Char.ofNat n, rest) := by
  interval_cases n <;> rfl

private theorem readChar_escapeChar (c : Char) (rest : List Char) :
    readChar (escapeChar c ++ rest) = some (c, rest) := by
  by_cases control : c.toNat < 32
  · have same : Char.ofNat c.toNat = c := Char.ofNat_toNat c
    rw [← same]
    exact control_escape c.toNat control rest
  · by_cases quote : c = '"'
    · subst quote
      rfl
    · by_cases backslash : c = '\\'
      · subst backslash
        rfl
      · rw [escapeChar, if_neg quote, if_neg backslash, if_pos (Nat.not_lt.mp control)]
        show readChar (c :: rest) = some (c, rest)
        unfold readChar
        split <;> simp_all

/-- The inside of a string ends at its quote. -/
theorem escaped_ends (first second rest rest' : List Char)
    (same : first.flatMap escapeChar ++ '"' :: rest = second.flatMap escapeChar ++ '"' :: rest') :
    first = second ∧ rest = rest' := by
  have open_ : ∀ (c : Char) (cs tail : List Char),
      readChar ((c :: cs).flatMap escapeChar ++ tail) = some (c, cs.flatMap escapeChar ++ tail) := by
    intro c cs tail
    rw [List.flatMap_cons, List.append_assoc]
    exact readChar_escapeChar c _
  have closed : ∀ tail, readChar ('"' :: tail) = none := fun _ => rfl
  induction first generalizing second with
  | nil =>
    cases second with
    | nil => exact ⟨rfl, (List.cons.inj same).2⟩
    | cons d ds =>
      have read := congrArg readChar same
      rw [open_, List.flatMap_nil, List.nil_append, closed] at read
      cases read
  | cons c cs ih =>
    cases second with
    | nil =>
      have read := congrArg readChar same
      rw [open_, List.flatMap_nil, List.nil_append, closed] at read
      cases read
    | cons d ds =>
      have read := congrArg readChar same
      rw [open_, open_, Option.some.injEq, Prod.mk.injEq] at read
      obtain ⟨rfl, left⟩ := read
      obtain ⟨rfl, rests⟩ := ih ds left
      exact ⟨rfl, rests⟩

private theorem toList_string (s : String) :
    (string s).toList = '"' :: (s.toList.flatMap escapeChar ++ ['"']) := by
  simp [string, escaped]

private theorem delimited_string (stop : Char → Prop) :
    Delimited stop fun s => (string s).toList := by
  intro s t rest rest' _ _ same
  simp only [toList_string, List.cons_append, List.append_assoc, List.nil_append, List.cons.injEq,
    true_and] at same
  obtain ⟨texts, left⟩ := escaped_ends _ _ _ _ same
  exact ⟨String.toList_inj.mp texts, left⟩

private theorem repr_injective : Function.Injective fun n : Nat => n.repr.toList := by
  intro m n same
  have digits : Nat.toDigits 10 m = Nat.toDigits 10 n := by
    rw [← Nat.toList_repr, ← Nat.toList_repr]
    exact same
  rw [← @Nat.ofDigitChars_ten_toDigits m, digits, Nat.ofDigitChars_ten_toDigits]

private theorem delimited_number : Delimited Closes fun n : Nat => n.repr.toList := by
  apply Delimited.of_free
  · intro n c member closes
    have digit := digit_of_mem_repr member
    rcases closes with rfl | rfl | rfl <;> exact absurd digit (by decide)
  · exact repr_injective

private theorem delimited_uint64 : Delimited Closes fun n : UInt64 => (toString n).toList :=
  delimited_number.comap fun _ _ same => UInt64.toNat_inj.mp same

private theorem delimited_uint32 : Delimited Closes fun n : UInt32 => (toString n).toList :=
  delimited_number.comap fun _ _ same => UInt32.toNat_inj.mp same

private theorem delimited_uint16 : Delimited Closes fun n : UInt16 => (toString n).toList :=
  delimited_number.comap fun _ _ same => UInt16.toNat_inj.mp same

private theorem delimited_nullable {α : Type} {text : α → String}
    (delimited : Delimited Closes fun a => (text a).toList)
    (apart : ∀ a rest rest', (text a).toList ++ rest ≠ "null".toList ++ rest') :
    Delimited Closes fun value : Option α => (nullable text value).toList := by
  intro a b rest rest' stops stops' same
  apply delimited.optional apart a b rest rest' stops stops'
  cases a <;> cases b <;> exact same

/-! ### Objects -/

/-- A field with its key. -/
def fieldText (field : String × String) : List Char :=
  (string field.1).toList ++ ':' :: field.2.toList

/-- The fields that come after another one, and the end of the object. -/
def restText : List (String × String) → List Char
  | [] => ['\x7d']
  | field :: fields => ',' :: (fieldText field ++ restText fields)

private theorem toList_joined (value : String) (values : List String) :
    (joined (value :: values)).toList =
      value.toList ++ values.flatMap fun next => ',' :: next.toList := by
  induction values generalizing value with
  | nil => simp [joined]
  | cons next values ih =>
    rw [joined, String.toList_append, String.toList_append, ih]
    simp

private theorem toList_object (field : String × String) (fields : List (String × String)) :
    (object (field :: fields)).toList = '\x7b' :: (fieldText field ++ restText fields) := by
  have others : ∀ fields : List (String × String),
      ((fields.map fun field => string field.1 ++ ":" ++ field.2).flatMap
        fun next => ',' :: next.toList) ++ ['\x7d'] = restText fields := by
    intro fields
    induction fields with
    | nil => rfl
    | cons next fields ih =>
      rw [restText, ← ih]
      simp [fieldText]
  rw [object, List.map_cons, String.toList_append, String.toList_append, toList_joined]
  simp [← others, fieldText]

private theorem stops_restText (fields : List (String × String)) (rest : List Char) :
    Stops Closes (restText fields ++ rest) := by
  cases fields with
  | nil => exact stops_cons (.inr (.inr rfl))
  | cons field fields => exact stops_cons (.inl rfl)

variable {α : Type} (text : α → String) {key : String} {a b : α}
  {fields fields' : List (String × String)} {rest rest' : List Char}

private theorem field_ends (delimited : Delimited Closes fun a => (text a).toList)
    (same : fieldText (key, text a) ++ (restText fields ++ rest) =
      fieldText (key, text b) ++ (restText fields' ++ rest')) :
    a = b ∧ restText fields ++ rest = restText fields' ++ rest' := by
  simp only [fieldText, List.append_assoc, List.cons_append] at same
  have values := (List.cons.inj (List.append_cancel_left same)).2
  exact delimited a b _ _ (stops_restText fields rest) (stops_restText fields' rest') values

/-- Two objects with the same first key agree in its value and in the other fields. -/
theorem object_ends (delimited : Delimited Closes fun a => (text a).toList)
    (same : (object ((key, text a) :: fields)).toList ++ rest =
      (object ((key, text b) :: fields')).toList ++ rest') :
    a = b ∧ restText fields ++ rest = restText fields' ++ rest' := by
  rw [toList_object, toList_object, List.cons_append, List.cons_append, List.append_assoc,
    List.append_assoc] at same
  exact field_ends text delimited (List.cons.inj same).2

/-- And so on for the fields behind it. -/
theorem rest_ends (delimited : Delimited Closes fun a => (text a).toList)
    (same : restText ((key, text a) :: fields) ++ rest =
      restText ((key, text b) :: fields') ++ rest') :
    a = b ∧ restText fields ++ rest = restText fields' ++ rest' := by
  rw [restText, restText, List.cons_append, List.cons_append, List.append_assoc,
    List.append_assoc] at same
  exact field_ends text delimited (List.cons.inj same).2

private theorem object_closes (same : restText [] ++ rest = restText [] ++ rest') : rest = rest' :=
  (List.cons.inj same).2

private theorem object_opens (field : String × String) (fields : List (String × String))
    (rest : List Char) :
    ∃ tail, (object (field :: fields)).toList ++ rest = '\x7b' :: tail :=
  ⟨_, by rw [toList_object]; rfl⟩

/-! ### Messages -/

/-- An internally tagged value. -/
theorem tagged_ends {first second : String}
    (same : (object (("type", string first) :: fields)).toList ++ rest =
      (object (("type", string second) :: fields')).toList ++ rest') :
    first = second ∧ restText fields ++ rest = restText fields' ++ rest' :=
  object_ends string (delimited_string Closes) same

private theorem delimited_stopSelector (stop : Char → Prop) :
    Delimited stop fun selector : StopSelector => selector.json.toList := by
  intro first second rest rest' _ _ same
  cases first with
  | slug value =>
    cases second with
    | slug other =>
      simp only [StopSelector.json] at same
      obtain ⟨rfl, left⟩ := rest_ends string (delimited_string Closes) (tagged_ends same).2
      exact ⟨rfl, object_closes left⟩
    | port other =>
      simp only [StopSelector.json] at same
      exact absurd (tagged_ends same).1 (by decide)
  | port value =>
    cases second with
    | slug other =>
      simp only [StopSelector.json] at same
      exact absurd (tagged_ends same).1 (by decide)
    | port other =>
      simp only [StopSelector.json] at same
      obtain ⟨rfl, left⟩ := rest_ends toString delimited_uint16 (tagged_ends same).2
      exact ⟨rfl, object_closes left⟩

private theorem string_apart_null (s : String) (rest rest' : List Char) :
    (string s).toList ++ rest ≠ "null".toList ++ rest' := by
  intro same
  rw [toList_string] at same
  exact absurd (List.cons.inj same).1 (by decide)

private theorem delimited_slug : Delimited Closes fun slug :
    Option String => (nullable string slug).toList :=
  delimited_nullable (delimited_string Closes) string_apart_null

/-- The tag of a request, and its other fields. -/
def clientTag : ClientMessage → String
  | .register .. => "register"
  | .unregister _ => "unregister"
  | .list => "list"
  | .stop _ => "stop"
  | .kill => "kill"
  | .terminateAcknowledged _ => "terminate_acknowledged"

def clientFields : ClientMessage → List (String × String)
  | .register port slug pid =>
    [("port", toString port), ("slug", nullable string slug), ("pid", toString pid)]
  | .unregister sessionId | .terminateAcknowledged sessionId => [("session_id", toString sessionId)]
  | .stop selector => [("selector", selector.json)]
  | .list | .kill => []

private theorem clientMessage_json (message : ClientMessage) :
    message.json = object (("type", string (clientTag message)) :: clientFields message) := by
  cases message <;> rfl

private theorem delimited_client (stop : Char → Prop) :
    Delimited stop fun message : ClientMessage => message.json.toList := by
  intro first second rest rest' _ _ same
  simp only [clientMessage_json] at same
  obtain ⟨tags, fields⟩ := tagged_ends same
  clear same
  cases first with
  | register port slug pid =>
    cases second with
    | register port' slug' pid' =>
      simp only [clientFields] at fields
      obtain ⟨ports, fields⟩ := rest_ends toString delimited_uint16 fields
      obtain ⟨slugs, fields⟩ := rest_ends (nullable string) delimited_slug fields
      obtain ⟨pids, fields⟩ := rest_ends toString delimited_uint32 fields
      exact ⟨by rw [ports, slugs, pids], object_closes fields⟩
    | _ => simp [clientTag] at tags
  | unregister sessionId =>
    cases second with
    | unregister sessionId' =>
      simp only [clientFields] at fields
      obtain ⟨sessions, fields⟩ := rest_ends toString delimited_uint64 fields
      exact ⟨by rw [sessions], object_closes fields⟩
    | _ => simp [clientTag] at tags
  | list =>
    cases second with
    | list => exact ⟨rfl, object_closes fields⟩
    | _ => simp [clientTag] at tags
  | stop selector =>
    cases second with
    | stop selector' =>
      simp only [clientFields] at fields
      obtain ⟨selectors, fields⟩ :=
        rest_ends StopSelector.json (delimited_stopSelector Closes) fields
      exact ⟨by rw [selectors], object_closes fields⟩
    | _ => simp [clientTag] at tags
  | kill =>
    cases second with
    | kill => exact ⟨rfl, object_closes fields⟩
    | _ => simp [clientTag] at tags
  | terminateAcknowledged sessionId =>
    cases second with
    | terminateAcknowledged sessionId' =>
      simp only [clientFields] at fields
      obtain ⟨sessions, fields⟩ := rest_ends toString delimited_uint64 fields
      exact ⟨by rw [sessions], object_closes fields⟩
    | _ => simp [clientTag] at tags

private theorem delimited_routeView (stop : Char → Prop) :
    Delimited stop fun view : RouteView => view.json.toList := by
  intro first second rest rest' _ _ same
  obtain ⟨slug, port, localUrl, publicUrl⟩ := first
  obtain ⟨slug', port', localUrl', publicUrl'⟩ := second
  simp only [RouteView.json] at same
  obtain ⟨slugs, fields⟩ := object_ends string (delimited_string Closes) same
  obtain ⟨ports, fields⟩ := rest_ends toString delimited_uint16 fields
  obtain ⟨locals, fields⟩ := rest_ends string (delimited_string Closes) fields
  obtain ⟨publics, fields⟩ := rest_ends string (delimited_string Closes) fields
  exact ⟨by rw [slugs, ports, locals, publics], object_closes fields⟩

private theorem toList_array (values : List String) :
    (array values).toList = '[' :: (separated ',' (values.map String.toList) ++ [']']) := by
  have inner : ∀ values : List String,
      (joined values).toList = separated ',' (values.map String.toList) := by
    intro values
    induction values with
    | nil => rfl
    | cons value values ih =>
      cases values with
      | nil => rfl
      | cons next values =>
        rw [joined, String.toList_append, String.toList_append, ih]
        simp [separated]
  simp [array, inner]

private theorem delimited_routes :
    Delimited Closes fun routes : List RouteView => (array (routes.map RouteView.json)).toList := by
  have apart : ∀ (view : RouteView) (rest rest' : List Char),
      view.json.toList ++ rest ≠ ']' :: rest' := by
    intro view rest rest' same
    obtain ⟨tail, opens⟩ := object_opens ("slug", string view.slug) [("port", toString view.port),
      ("local_url", string view.localUrl), ("public_url", string view.publicUrl)] rest
    rw [RouteView.json, opens] at same
    exact absurd (List.cons.inj same).1 (by decide)
  have items : Delimited Closes fun routes : List RouteView =>
      separated ',' (routes.map fun view => view.json.toList) ++ [']'] :=
    (delimited_routeView Closes).sequence (.inl rfl) (.inr (.inl rfl)) (by decide) apart Closes
  intro first second rest rest' stops stops' same
  apply items first second rest rest' stops stops'
  simp only [toList_array, List.map_map, List.cons_append, List.cons.injEq, true_and] at same
  exact same

/-- A float that is neither infinite nor no number, by its bits. -/
def FiniteBits (bits : UInt64) : Prop := bits.toNat / 2 ^ 52 % 2 ^ 11 ≠ 2 ^ 11 - 1

/-- What the JSON of a float is relied on for: finite ones have different texts, of digits,
signs, points and letters. -/
structure FloatTexts (floats : UInt64 → String) : Prop where
  distinct : ∀ a b, FiniteBits a → FiniteBits b → floats a = floats b → a = b
  plain : ∀ a, FiniteBits a → ∀ c ∈ (floats a).toList, ¬ Closes c

theorem FloatTexts.delimited {floats : UInt64 → String} (texts : FloatTexts floats) :
    Delimited Closes fun bits : { bits // FiniteBits bits } => (floats bits.1).toList := by
  apply Delimited.of_free
  · exact fun bits => texts.plain bits.1 bits.2
  · intro first second same
    exact Subtype.ext (texts.distinct _ _ first.2 second.2 (String.toList_inj.mp same))

/-- The rates in a message are finite, as every rate that is computed is. -/
def FiniteRates : ServerMessage → Prop
  | .stats _ sample => FiniteBits sample.uploadBytesPerSecond ∧ FiniteBits sample.downloadBytesPerSecond
  | _ => True

private theorem tag_injective : Function.Injective ErrorCode.tag := by
  intro first second same
  cases first <;> cases second <;> first | rfl | simp [ErrorCode.tag] at same

private theorem delimited_errorCode : Delimited Closes fun code :
    ErrorCode => (string code.tag).toList :=
  (delimited_string Closes).comap tag_injective

private theorem delimited_terminateReason :
    Delimited Closes fun reason : TerminateReason => (string reason.tag).toList := by
  apply (delimited_string Closes).comap
  intro first second same
  cases first <;> cases second <;> first | rfl | simp [TerminateReason.tag] at same

/-- The tag of a reply, and its other fields. -/
def serverTag : ServerMessage → String
  | .registered .. => "registered"
  | .unregistered _ => "unregistered"
  | .routeList _ => "route_list"
  | .stopped _ => "stopped"
  | .killAccepted _ => "kill_accepted"
  | .terminate _ => "terminate"
  | .stats .. => "stats"
  | .error .. => "error"
  | .fatal .. => "fatal"

def serverFields (floats : UInt64 → String) : ServerMessage → List (String × String)
  | .registered sessionId slug localUrl publicUrl =>
    [("session_id", toString sessionId), ("slug", string slug), ("local_url", string localUrl),
      ("public_url", string publicUrl)]
  | .unregistered sessionId => [("session_id", toString sessionId)]
  | .routeList routes => [("routes", array (routes.map RouteView.json))]
  | .stopped route => [("route", route.json)]
  | .killAccepted routeCount => [("route_count", toString routeCount)]
  | .terminate reason => [("reason", string reason.tag)]
  | .stats sessionId sample =>
    [("session_id", toString sessionId), ("uploaded_bytes", toString sample.uploadedBytes),
      ("downloaded_bytes", toString sample.downloadedBytes),
      ("upload_bytes_per_second", floats sample.uploadBytesPerSecond),
      ("download_bytes_per_second", floats sample.downloadBytesPerSecond)]
  | .error code message | .fatal code message =>
    [("code", string code.tag), ("message", string message)]

private theorem serverMessage_json (floats : UInt64 → String) (message : ServerMessage) :
    message.json floats =
      object (("type", string (serverTag message)) :: serverFields floats message) := by
  cases message <;> rfl

private theorem stats_ends {floats : UInt64 → String} (texts : FloatTexts floats)
    {session session' : UInt64} {sample sample' : MetricsSample} {rest rest' : List Char}
    (finite : FiniteRates (.stats session sample)) (finite' : FiniteRates (.stats session' sample'))
    (same : restText (serverFields floats (.stats session sample)) ++ rest =
      restText (serverFields floats (.stats session' sample')) ++ rest') :
    session = session' ∧ sample = sample' ∧ rest = rest' := by
  let float : { bits // FiniteBits bits } → String := fun bits => floats bits.1
  have delimited : Delimited Closes fun bits => (float bits).toList := texts.delimited
  obtain ⟨uploaded, downloaded, upload, download⟩ := sample
  obtain ⟨uploaded', downloaded', upload', download'⟩ := sample'
  simp only [serverFields] at same
  obtain ⟨sessions, fields⟩ := rest_ends toString delimited_uint64 same
  obtain ⟨uploads, fields⟩ := rest_ends toString delimited_uint64 fields
  obtain ⟨downloads, fields⟩ := rest_ends toString delimited_uint64 fields
  obtain ⟨rates, fields⟩ :=
    @rest_ends _ float _ ⟨upload, finite.1⟩ ⟨upload', finite'.1⟩ _ _ _ _ delimited fields
  obtain ⟨rates', fields⟩ :=
    @rest_ends _ float _ ⟨download, finite.2⟩ ⟨download', finite'.2⟩ _ _ _ _ delimited fields
  rw [Subtype.mk.injEq] at rates rates'
  exact ⟨sessions, by rw [uploads, downloads, rates, rates'], object_closes fields⟩

private theorem delimited_server {floats : UInt64 → String} (texts : FloatTexts floats)
    (stop : Char → Prop) :
    Delimited stop fun message : { message // FiniteRates message } =>
      (message.1.json floats).toList := by
  rintro ⟨first, finite⟩ ⟨second, finite'⟩ rest rest' _ _ same
  simp only [serverMessage_json] at same
  rw [Subtype.mk.injEq]
  obtain ⟨tags, fields⟩ := tagged_ends same
  clear same
  cases first with
  | registered session slug localUrl publicUrl =>
    cases second with
    | registered session' slug' localUrl' publicUrl' =>
      simp only [serverFields] at fields
      obtain ⟨sessions, fields⟩ := rest_ends toString delimited_uint64 fields
      obtain ⟨slugs, fields⟩ := rest_ends string (delimited_string Closes) fields
      obtain ⟨locals, fields⟩ := rest_ends string (delimited_string Closes) fields
      obtain ⟨publics, fields⟩ := rest_ends string (delimited_string Closes) fields
      exact ⟨by rw [sessions, slugs, locals, publics], object_closes fields⟩
    | _ => simp [serverTag] at tags
  | unregistered session =>
    cases second with
    | unregistered session' =>
      simp only [serverFields] at fields
      obtain ⟨sessions, fields⟩ := rest_ends toString delimited_uint64 fields
      exact ⟨by rw [sessions], object_closes fields⟩
    | _ => simp [serverTag] at tags
  | routeList routes =>
    cases second with
    | routeList routes' =>
      simp only [serverFields] at fields
      obtain ⟨lists, fields⟩ := rest_ends (fun routes : List RouteView =>
        array (routes.map RouteView.json)) delimited_routes fields
      exact ⟨by rw [lists], object_closes fields⟩
    | _ => simp [serverTag] at tags
  | stopped route =>
    cases second with
    | stopped route' =>
      simp only [serverFields] at fields
      obtain ⟨routes, fields⟩ := rest_ends RouteView.json (delimited_routeView Closes) fields
      exact ⟨by rw [routes], object_closes fields⟩
    | _ => simp [serverTag] at tags
  | killAccepted count =>
    cases second with
    | killAccepted count' =>
      simp only [serverFields] at fields
      obtain ⟨counts, fields⟩ := rest_ends toString delimited_number fields
      exact ⟨by rw [counts], object_closes fields⟩
    | _ => simp [serverTag] at tags
  | terminate reason =>
    cases second with
    | terminate reason' =>
      simp only [serverFields] at fields
      obtain ⟨reasons, fields⟩ := rest_ends (fun reason : TerminateReason => string reason.tag)
        delimited_terminateReason fields
      exact ⟨by rw [reasons], object_closes fields⟩
    | _ => simp [serverTag] at tags
  | stats session sample =>
    cases second with
    | stats session' sample' =>
      obtain ⟨sessions, samples, left⟩ := stats_ends texts finite finite' fields
      exact ⟨by rw [sessions, samples], left⟩
    | _ => simp [serverTag] at tags
  | error code message =>
    cases second with
    | error code' message' =>
      simp only [serverFields] at fields
      obtain ⟨codes, fields⟩ := rest_ends (fun code : ErrorCode => string code.tag)
        delimited_errorCode fields
      obtain ⟨messages, fields⟩ := rest_ends string (delimited_string Closes) fields
      exact ⟨by rw [codes, messages], object_closes fields⟩
    | _ => simp [serverTag] at tags
  | fatal code message =>
    cases second with
    | fatal code' message' =>
      simp only [serverFields] at fields
      obtain ⟨codes, fields⟩ := rest_ends (fun code : ErrorCode => string code.tag)
        delimited_errorCode fields
      obtain ⟨messages, fields⟩ := rest_ends string (delimited_string Closes) fields
      exact ⟨by rw [codes, messages], object_closes fields⟩
    | _ => simp [serverTag] at tags

/-! ### Envelopes -/

private theorem delimited_requestId :
    Delimited Closes fun requestId : Option UInt64 => (requestIdText requestId).toList := by
  apply delimited_nullable delimited_uint64
  intro id rest rest' same
  obtain ⟨first, digits, shape⟩ := List.exists_cons_of_ne_nil (l := (toString id).toList) (by
    intro empty
    have length : 0 < (toString id).length := Nat.length_repr_pos
    rw [← String.length_toList, empty] at length
    exact Nat.lt_irrefl _ length)
  have digit : 48 ≤ first.toNat ∧ first.toNat ≤ 57 :=
    @digit_of_mem_repr id.toNat first (by
      show first ∈ (toString id).toList
      rw [shape]
      exact List.mem_cons_self)
  rw [shape] at same
  rw [(List.cons.inj same).1] at digit
  exact absurd digit (by decide)

/-- Texts of envelopes of messages that are delimited themselves. -/
theorem envelope_json_injective {α : Type} {message : α → String} {expected : α → Prop}
    (delimited : Delimited Closes fun content : { content // expected content } =>
      (message content.1).toList)
    {first second : Envelope α} (holds : expected first.message) (holds' : expected second.message)
    (same : first.json message = second.json message) : first = second := by
  obtain ⟨version, requestId, content⟩ := first
  obtain ⟨version', requestId', content'⟩ := second
  have texts : (Envelope.json message ⟨version, requestId, content⟩).toList ++ [] =
      (Envelope.json message ⟨version', requestId', content'⟩).toList ++ [] := by rw [same]
  simp only [Envelope.json] at texts
  let inner : { content // expected content } → String := fun content => message content.1
  obtain ⟨versions, fields⟩ := object_ends toString delimited_uint16 texts
  obtain ⟨requestIds, fields⟩ := rest_ends requestIdText delimited_requestId fields
  obtain ⟨contents, _⟩ :=
    @rest_ends _ inner _ ⟨content, holds⟩ ⟨content', holds'⟩ _ _ _ _ delimited fields
  rw [Subtype.mk.injEq] at contents
  rw [versions, requestIds, contents]

/-! ### Connections -/

private theorem bytes_injective : Function.Injective bytes := by
  have characters : ∀ first second : List Char,
      first.flatMap String.utf8EncodeChar = second.flatMap String.utf8EncodeChar →
        first = second := by
    intro first
    induction first with
    | nil =>
      intro second same
      cases second with
      | nil => rfl
      | cons d ds =>
        have read := congrArg decodeChar same
        rw [List.flatMap_cons, decodeChar_encoded] at read
        cases read
    | cons c cs ih =>
      intro second same
      cases second with
      | nil =>
        have read := congrArg decodeChar same
        rw [List.flatMap_cons, decodeChar_encoded] at read
        cases read
      | cons d ds =>
        have read := congrArg decodeChar same
        rw [List.flatMap_cons, List.flatMap_cons, decodeChar_encoded, decodeChar_encoded,
          Option.some.injEq] at read
        subst read
        rw [ih ds (List.append_cancel_left same)]
  intro first second same
  exact String.toList_inj.mp (characters _ _ same)

open Classical in
/-- A decoder for the texts of the expected messages, which their being different provides. -/
noncomputable def readBack {α : Type} (message : α → String) (expected : α → Prop)
    (payload : List UInt8) : Except String (Envelope α) :=
  if written : ∃ envelope : Envelope α, expected envelope.message ∧
      bytes (envelope.json message) = payload then .ok written.choose
  else .error ""

variable {α : Type} {message : α → String} {expected : α → Prop}
  {toVec : Envelope α → Except String (List UInt8)} {frames frames' : List (List UInt8)}
  {first second : List (Envelope α)}

private theorem readBack_bytes
    (delimited : Delimited Closes fun content : { content // expected content } =>
    (message content.1).toList) {envelope : Envelope α} (holds : expected envelope.message) :
    readBack message expected (bytes (envelope.json message)) = .ok envelope := by
  have written : ∃ other : Envelope α, expected other.message ∧
      bytes (other.json message) = bytes (envelope.json message) := ⟨envelope, holds, rfl⟩
  rw [readBack, dif_pos written]
  obtain ⟨expects, texts⟩ := written.choose_spec
  rw [envelope_json_injective delimited expects holds (bytes_injective texts)]

private theorem framed_readBack
    (delimited : Delimited Closes fun content : { content // expected content } =>
      (message content.1).toList) (compact : Compact message toVec)
    (holds : ∀ envelope ∈ first, expected envelope.message)
    (encoded : first.mapM (encodeFrame toVec) = .ok frames) :
    List.Forall₂ (IsFrame (readBack message expected)) first frames := by
  refine framed_of_encoded (fun envelope member payload written => ?_) encoded
  have same : bytes (envelope.json message) = payload :=
    Except.ok.inj ((compact envelope).symm.trans written)
  rw [← same]
  exact readBack_bytes delimited (holds envelope member)

/-- Frames for one decoder, one after the other: a prefix of the bytes is one of the
envelopes. -/
theorem isPrefix_of_framed {fromSlice : List UInt8 → Except String (Envelope α)}
    (framed : List.Forall₂ (IsFrame fromSlice) first frames)
    (framed' : List.Forall₂ (IsFrame fromSlice) second frames')
    (isPrefix : frames.flatten <+: frames'.flatten) : first <+: second := by
  induction framed generalizing second frames' with
  | nil => exact List.nil_prefix
  | @cons envelope frame rest restFrames isFrame framed ih =>
    obtain ⟨later, whole⟩ := isPrefix
    rw [List.flatten_cons, List.append_assoc] at whole
    cases framed' with
    | nil =>
      have empty : frame = [] := (List.append_eq_nil_iff.mp whole).1
      exact absurd empty isFrame.ne_nil
    | @cons envelope' frame' rest' restFrames' isFrame' framed' =>
      have read := isFrame.read (restFrames.flatten ++ later) .daemonStartTimeout
      rw [whole, List.flatten_cons, isFrame'.read restFrames'.flatten .daemonStartTimeout] at read
      simp only [Except.ok.injEq, Prod.mk.injEq, Stream.mk.injEq, and_true] at read
      obtain ⟨rfl, left⟩ := read
      exact List.cons_prefix_cons.mpr ⟨rfl, ih framed' ⟨later, left.symm⟩⟩

/-- **The bytes on a connection determine its messages.** In either direction, if the bytes of
one sequence of messages are the beginning of the bytes of another, then so are the messages;
in particular no two sequences have the same bytes. -/
theorem connection_bytes_determine_messages {floats : UInt64 → String} (texts : FloatTexts floats)
    {toVec : Envelope ClientMessage → Except String (List UInt8)}
    (compact : Compact ClientMessage.json toVec)
    {toVec' : Envelope ServerMessage → Except String (List UInt8)}
    (compact' : Compact (ServerMessage.json floats) toVec') :
    (∀ (requests others : List (Envelope ClientMessage)) (frames frames' : List (List UInt8)),
      requests.mapM (encodeFrame toVec) = .ok frames →
      others.mapM (encodeFrame toVec) = .ok frames' →
      frames.flatten <+: frames'.flatten → requests <+: others) ∧
    ∀ (replies others : List (Envelope ServerMessage)) (frames frames' : List (List UInt8)),
      (∀ envelope ∈ replies, FiniteRates envelope.message) →
      (∀ envelope ∈ others, FiniteRates envelope.message) →
      replies.mapM (encodeFrame toVec') = .ok frames →
      others.mapM (encodeFrame toVec') = .ok frames' →
      frames.flatten <+: frames'.flatten → replies <+: others := by
  have client : Delimited Closes fun content : { content : ClientMessage // True } =>
      content.1.json.toList := (delimited_client Closes).comap Subtype.val_injective
  have server := delimited_server texts Closes
  refine ⟨fun requests others frames frames' encoded encoded' isPrefix => ?_,
    fun replies others frames frames' finite finite' encoded encoded' isPrefix => ?_⟩
  · exact isPrefix_of_framed (framed_readBack client compact (fun _ _ => trivial) encoded)
      (framed_readBack client compact (fun _ _ => trivial) encoded') isPrefix
  · exact isPrefix_of_framed (framed_readBack server compact' finite encoded)
      (framed_readBack server compact' finite' encoded') isPrefix

/-- Texts that are right for a rate of zero. -/
def zeroRates (bits : UInt64) : String := if bits = 0 then "0.0" else toString bits

private theorem zeroRates_texts : FloatTexts zeroRates where
  distinct first second _ _ same := by
    have digits : ∀ bits : UInt64, toString bits ≠ "0.0" := by
      intro bits equal
      have point : '.' ∈ bits.toNat.repr.toList := by
        rw [show bits.toNat.repr = "0.0" from equal]
        decide
      exact absurd (digit_of_mem_repr point) (by decide)
    unfold zeroRates at same
    split at same <;> split at same
    · simp [*]
    · exact absurd same.symm (digits _)
    · exact absurd same (digits _)
    · exact UInt64.toNat_inj.mp (repr_injective (congrArg String.toList same))
  plain bits _ c member closes := by
    unfold zeroRates at member
    split at member
    · rcases closes with rfl | rfl | rfl <;> exact absurd member (by decide)
    · have digit := @digit_of_mem_repr bits.toNat c member
      rcases closes with rfl | rfl | rfl <;> exact absurd digit (by decide)

/-- A first report and the end of a session. -/
def firstReport : Envelope ServerMessage := Envelope.new none (.stats 1 ⟨5, 6, 0, 0⟩)

def lastReply : Envelope ServerMessage := Envelope.new (some 2) (.unregistered 1)

def zeroRatesToVec (envelope : Envelope ServerMessage) : Except String (List UInt8) :=
  .ok (bytes (envelope.json (ServerMessage.json zeroRates)))

theorem report_comes_first :
    ∃ frames frames', [firstReport].mapM (encodeFrame zeroRatesToVec) = .ok frames ∧
      [firstReport, lastReply].mapM (encodeFrame zeroRatesToVec) = .ok frames' ∧
      frames.flatten <+: frames'.flatten ∧ [firstReport] <+: [firstReport, lastReply] := by
  have compact : Compact (ServerMessage.json zeroRates) zeroRatesToVec := fun _ => rfl
  have session := len_session
  obtain ⟨report, encoded⟩ := (sendable_iff compact none (.stats 1 ⟨5, 6, 0, 0⟩)).mpr (by
    have id := len_requestIdText none
    have rate : len (zeroRates 0) = 3 := len_ofList rfl
    have sizes := And.intro (session 1) (And.intro (session 5) (session 6))
    rw [len_statsJson, maxIpcFrame]
    dsimp only
    omega)
  obtain ⟨reply, encoded'⟩ := (sendable_iff compact (some 2) (.unregistered 1)).mpr (by
    have id := len_requestIdText (some 2)
    have size := session 1
    rw [len_unregisteredJson, maxIpcFrame]
    omega)
  have finite : ∀ envelope ∈ [firstReport, lastReply], FiniteRates envelope.message := by
    intro envelope member
    simp only [List.mem_cons, List.not_mem_nil, or_false] at member
    rcases member with rfl | rfl
    · exact ⟨by unfold FiniteBits; decide, by unfold FiniteBits; decide⟩
    · trivial
  have one : [firstReport].mapM (encodeFrame zeroRatesToVec) = .ok [report] := by
    simp only [List.mapM_cons, List.mapM_nil, firstReport, encoded]
    rfl
  have two : [firstReport, lastReply].mapM (encodeFrame zeroRatesToVec) = .ok [report, reply] := by
    simp only [List.mapM_cons, List.mapM_nil, firstReport, lastReply, encoded, encoded']
    rfl
  have isPrefix : [report].flatten <+: [report, reply].flatten := ⟨reply, by simp⟩
  refine ⟨_, _, one, two, isPrefix, ?_⟩
  exact (connection_bytes_determine_messages zeroRates_texts
      (show Compact ClientMessage.json fun envelope => .ok (bytes (envelope.json ClientMessage.json))
        from fun _ => rfl) compact).2
    [firstReport] [firstReport, lastReply] _ _
    (fun envelope member => finite envelope (by
      rw [List.mem_singleton.mp member]
      exact List.mem_cons_self)) finite one two isPrefix

end CfFw.WireText
