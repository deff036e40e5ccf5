import CfFw.Loop
import CfFw.Text

/-! The requests of the shell setup: `BoundedRedirect` in the opener of `urllib.request`, and
`Setup.request` over it. The server answers as it likes, with all that it has seen; what is
said here holds of every request that it gets to see. Parsing and joining URLs is taken from
the library of Python. -/
namespace CfFw.Redirects
open Text

abbrev Body := List UInt8

/-- What `urlsplit` finds; a port that is no number raises only when it is read. -/
structure SplitUrl where
  scheme : String
  hostname : Option String
  port : Except String (Option Nat)

/-- The functions of `urllib` that are not modelled: `urlsplit`, the target of a `Location`
(quoted, and joined with the URL of the request), and the text of an HTTP error. -/
structure Library where
  urlsplit : String → Except String SplitUrl
  newurl : String → String → String
  describe : Nat → Body → String

/-- A `urllib.request.Request`, with `_fw_redirect_count` and `redirect_dict`. The names of
the headers are capitalized. -/
structure Request where
  fullUrl : String
  method : String
  data : Option Body
  headers : List (String × String)
  redirectCount : Nat
  visited : List String
  deriving DecidableEq

def Request.getHeader (request : Request) (name : String) : Option String :=
  (request.headers.find? (·.1 = name)).map (·.2)

inductive Answer where
  | reply (status : Nat) (location : Option String) (body : Body)
  | failed (error : String)

/-- `SetupError`, `HTTPError` and `ValueError`. -/
inductive Failure where
  | setup (message : String)
  | http (code : Nat) (body : Body)
  | value (message : String)
  deriving DecidableEq

def redirectLimit : Nat := 5
def maxRepeats : Nat := 4
def maxRedirections : Nat := 10

def redirectCodes : List Nat := [301, 302, 303, 307, 308]
def contentHeaders : List String := ["content-length", "content-type"]

variable {library : Library} {server : List Request → Answer}

/-- An `if` that does nothing but raise. -/
def raiseIf (condition : Prop) [Decidable condition] (failure : Failure) : Except Failure Unit :=
  if condition then .error failure else .ok ()

def Library.split (library : Library) (url : String) : Except Failure SplitUrl :=
  (library.urlsplit url).mapError .value

def SplitUrl.lowerScheme (url : SplitUrl) : String := toAsciiLowercase url.scheme

def defaultPort (scheme : String) : Nat := if scheme = "https" then 443 else 80

/-- Scheme, host and port, where `0` is no port. -/
def SplitUrl.origin (url : SplitUrl) : Except Failure (String × Option String × Nat) :=
  match url.port with
  | .error message => .error (.value message)
  | .ok none | .ok (some 0) => .ok (url.lowerScheme, url.hostname, defaultPort url.lowerScheme)
  | .ok (some (port + 1)) => .ok (url.lowerScheme, url.hostname, port + 1)

def replaceSpaces (text : String) : String :=
  String.ofList (text.toList.flatMap fun c => if c = ' ' then "%20".toList else [c])

/-- `HTTPRedirectHandler.redirect_request`, and the count that is set on its result. -/
def redirectedRequest (request : Request) (code : Nat) (body : Body) (newurl : String) :
    Except Failure Request :=
  if (code ∈ redirectCodes ∧ (request.method = "GET" ∨ request.method = "HEAD")) ∨
      (code ∈ [301, 302, 303] ∧ request.method = "POST") then
    .ok {
      fullUrl := replaceSpaces newurl
      method := if request.method = "HEAD" then "HEAD" else "GET"
      data := none
      headers := request.headers.filter fun header =>
        toAsciiLowercase header.1 ∉ contentHeaders
      redirectCount := request.redirectCount + 1
      visited := request.visited }
  else .error (.http code body)

/-- The check of the origins, for a request that carries `Authorization`. -/
def sameOrigin (request : Request) (source target : SplitUrl) : Except Failure Unit :=
  if (request.getHeader "Authorization").any (· ≠ "") then do
    let sourceOrigin ← source.origin
    let targetOrigin ← target.origin
    raiseIf (sourceOrigin ≠ targetOrigin)
      (.setup "Refusing to forward authorization credentials to a different origin.")
  else .ok ()

/-- `BoundedRedirect.redirect_request`. -/
def redirectRequest (library : Library) (request : Request) (code : Nat) (body : Body)
    (newurl : String) : Except Failure Request := do
  raiseIf (request.redirectCount + 1 > redirectLimit) (.setup "Too many HTTP redirects.")
  let source ← library.split request.fullUrl
  let target ← library.split newurl
  raiseIf (source.lowerScheme = "https" ∧ target.lowerScheme ≠ "https")
    (.setup "Refusing an HTTPS redirect to a non-HTTPS URL.")
  sameOrigin request source target
  redirectedRequest request code body newurl

/-- `HTTPRedirectHandler.http_error_302`, for a `Location` that is there. -/
def httpError302 (library : Library) (request : Request) (code : Nat) (body : Body)
    (location : String) : Except Failure Request := do
  let parts ← library.split location
  raiseIf (parts.scheme ∉ ["http", "https", "ftp", ""]) (.http code body)
  let newurl := library.newurl request.fullUrl location
  let redirected ← redirectRequest library request code body newurl
  raiseIf (maxRepeats ≤ request.visited.count newurl ∨
    maxRedirections ≤ request.visited.dedup.length) (.http code body)
  Pure.pure { redirected with visited := request.visited ++ [newurl] }

/-- What becomes of an answer: a response, an error, or one more request. -/
def handleAnswer (library : Library) (request : Request) :
    Answer → Except Failure (Nat × Body) ⊕ Request
  | .failed error => .inl (.error (.setup s!"Network request failed: {error}"))
  | .reply status location body =>
    if 200 ≤ status ∧ status < 300 then .inl (.ok (status, body))
    else
      match if status ∈ redirectCodes then location else none with
      | none => .inl (.error (.http status body))
      | some location =>
        match httpError302 library request status body location with
        | .ok redirected => .inr redirected
        | .error failure => .inl (.error failure)

/-- One exchange of the opener. The state is the request that is sent next, after those that
were. -/
def exchange (library : Library) (server : List Request → Answer) (state : List Request × Request) :
    Except Failure (Nat × Body) × List Request ⊕ List Request × Request :=
  let sent := state.1 ++ [state.2]
  match handleAnswer library state.2 (server sent) with
  | .inl outcome => .inl (outcome, sent)
  | .inr redirected => .inr (sent, redirected)

/-- `OPENER.open`, with the exchanges that it may make. -/
def openUrl (library : Library) (server : List Request → Answer) (fuel : Nat) (request : Request) :
    Option (Except Failure (Nat × Body) × List Request) :=
  Loop.run (exchange library server) fuel ([], request)

/-- `Setup.request` after `OPENER.open`, with `response.read(max_bytes + 1)`. -/
def receive (library : Library) (url : String) (maxBytes : Nat) :
    Except Failure (Nat × Body) → Except Failure (Nat × Body)
  | .ok (status, body) =>
    if (body.take (maxBytes + 1)).length > maxBytes then do
      let parts ← library.split url
      let host := parts.hostname.getD "None"
      throw (.setup s!"Response from {host} exceeded the safety limit.")
    else .ok (status, body.take (maxBytes + 1))
  | .error (.http code body) =>
    if (body.take (maxBytes + 1)).length > maxBytes then
      .error (.setup "HTTP error response exceeded the safety limit.")
    else .error (.setup (library.describe code body))
  | .error failure => .error failure

/-- `Setup.request`, with the headers of `Request`. -/
def request (library : Library) (server : List Request → Answer) (fuel : Nat) (url method : String)
    (data : Option Body) (headers : List (String × String)) (maxBytes : Nat) :
    Option (Except Failure (Nat × Body) × List Request) :=
  (openUrl library server fuel ⟨url, method, data, headers, 0, []⟩).map fun (outcome, sent) =>
    (receive library url maxBytes outcome, sent)

/-! ### One redirect -/

/-- `quote` leaves no blank. -/
structure Library.Lawful (library : Library) : Prop where
  quoted : ∀ base location, ' ' ∉ base.toList → ' ' ∉ (library.newurl base location).toList

def Library.origin (library : Library) (url : String) :
    Except Failure (String × Option String × Nat) := do
  let parts ← library.split url
  parts.origin

def Library.Secure (library : Library) (url : String) : Prop :=
  ∃ parts, library.split url = .ok parts ∧ parts.lowerScheme = "https"

/-- The request carries credentials. -/
def Request.Carries (request : Request) : Prop :=
  (request.getHeader "Authorization").any (· ≠ "") = true

/-- A request that has lost what was sent with the first one. -/
structure Request.Stripped (request : Request) : Prop where
  method : request.method = "GET" ∨ request.method = "HEAD"
  data : request.data = none
  headers : ∀ header ∈ request.headers, toAsciiLowercase header.1 ∉ contentHeaders

variable {first before after : Request} {code : Nat} {body : Body} {newurl location : String}

private theorem bind_ok {α β : Type} {result : Except Failure α} {next : α → Except Failure β}
    {b : β} :
    (result >>= next) = .ok b ↔ ∃ a, result = .ok a ∧ next a = .ok b := by
  cases result with
  | ok a => exact ⟨fun same => ⟨a, rfl, same⟩, fun ⟨_, rfl, same⟩ => same⟩
  | error e => exact ⟨fun same => (nomatch same), fun ⟨_, raised, _⟩ => (nomatch raised)⟩

private theorem raiseIf_ok {condition : Prop} [Decidable condition] {failure : Failure}
    {done : Unit} :
    raiseIf condition failure = .ok done ↔ ¬ condition := by
  unfold raiseIf
  by_cases holds : condition
  · rw [if_pos holds]
    exact ⟨fun same => (nomatch same), fun not => absurd holds not⟩
  · rw [if_neg holds]
    exact ⟨fun _ => holds, fun _ => rfl⟩

private theorem replaceSpaces_eq_self {text : String} (spaceless : ' ' ∉ text.toList) :
    replaceSpaces text = text := by
  have kept : ∀ c ∈ text.toList, (if c = ' ' then "%20".toList else [c]) = [c] := by
    intro c member
    refine if_neg fun same => ?_
    rw [same] at member
    exact spaceless member
  rw [replaceSpaces, List.flatMap_congr kept, List.flatMap_singleton', String.ofList_toList]

private theorem getHeader_filter (kept : toAsciiLowercase "Authorization" ∉ contentHeaders)
    (headers : List (String × String)) :
    (headers.filter fun header => toAsciiLowercase header.1 ∉ contentHeaders).find?
      (·.1 = "Authorization") = headers.find? (·.1 = "Authorization") := by
  rw [List.find?_filter]
  congr 1
  funext header
  by_cases same : header.1 = "Authorization"
  · simp [same, kept]
  · simp [same]

private theorem sameOrigin_ok {source target : SplitUrl} {done : Unit}
    (passed : sameOrigin before source target = .ok done) (carries : before.Carries) :
    ∃ origin, source.origin = .ok origin ∧ target.origin = .ok origin := by
  unfold sameOrigin at passed
  rw [Request.Carries] at carries
  rw [if_pos carries] at passed
  obtain ⟨sourceOrigin, known, passed⟩ := bind_ok.mp passed
  obtain ⟨targetOrigin, found, passed⟩ := bind_ok.mp passed
  have same : sourceOrigin = targetOrigin := not_not.mp (raiseIf_ok.mp passed)
  exact ⟨sourceOrigin, known, same ▸ found⟩

private theorem redirectedRequest_ok
    (redirected : redirectedRequest before code body newurl = .ok after) :
    after.Stripped ∧ after.fullUrl = replaceSpaces newurl ∧
      after.redirectCount = before.redirectCount + 1 ∧
      after.getHeader "Authorization" = before.getHeader "Authorization" := by
  unfold redirectedRequest at redirected
  split at redirected
  · cases redirected
    refine ⟨⟨?_, rfl, fun header member => ?_⟩, rfl, rfl, ?_⟩
    · dsimp only
      split
      · exact .inr rfl
      · exact .inl rfl
    · simpa using (List.mem_filter.mp member).2
    · exact congrArg (Option.map Prod.snd) (getHeader_filter (by decide) before.headers)
  · cases redirected

/-- What a redirect keeps: the number of requests is bounded, a request over TLS stays over
TLS, credentials stay with their origin, and all else of the request is dropped. -/
structure Redirected (library : Library) (before after : Request) : Prop where
  stripped : after.Stripped
  count : after.redirectCount = before.redirectCount + 1
  limit : after.redirectCount ≤ redirectLimit
  spaceless : ' ' ∉ after.fullUrl.toList
  authorization : after.getHeader "Authorization" = before.getHeader "Authorization"
  secure : library.Secure before.fullUrl → library.Secure after.fullUrl
  origin : before.Carries → library.origin after.fullUrl = library.origin before.fullUrl

private theorem redirectRequest_ok (spaceless : ' ' ∉ newurl.toList)
    (redirected : redirectRequest library before code body newurl = .ok after) :
    Redirected library before after := by
  unfold redirectRequest at redirected
  obtain ⟨_, few, redirected⟩ := bind_ok.mp redirected
  obtain ⟨source, known, redirected⟩ := bind_ok.mp redirected
  obtain ⟨target, found, redirected⟩ := bind_ok.mp redirected
  obtain ⟨_, secure, redirected⟩ := bind_ok.mp redirected
  obtain ⟨_, passed, redirected⟩ := bind_ok.mp redirected
  obtain ⟨stripped, url, count, authorization⟩ := redirectedRequest_ok redirected
  rw [replaceSpaces_eq_self spaceless] at url
  have few := raiseIf_ok.mp few
  have secure := raiseIf_ok.mp secure
  refine ⟨stripped, count, by omega, by rwa [url], authorization, ?_, fun carries => ?_⟩
  · rintro ⟨parts, split, scheme⟩
    rw [known] at split
    cases split
    refine ⟨target, by rw [url]; exact found, ?_⟩
    by_contra plain
    exact secure ⟨scheme, plain⟩
  · obtain ⟨origin, ours, theirs⟩ := sameOrigin_ok passed carries
    simp only [Library.origin, url, found, known, Bind.bind, Except.bind, ours, theirs]

private theorem httpError302_ok (lawful : library.Lawful) (spaceless : ' ' ∉ before.fullUrl.toList)
    (redirected : httpError302 library before code body location = .ok after) :
    Redirected library before after := by
  unfold httpError302 at redirected
  obtain ⟨parts, _, redirected⟩ := bind_ok.mp redirected
  obtain ⟨_, _, redirected⟩ := bind_ok.mp redirected
  obtain ⟨next, made, redirected⟩ := bind_ok.mp redirected
  obtain ⟨_, _, redirected⟩ := bind_ok.mp redirected
  cases redirected
  have kept := redirectRequest_ok (lawful.quoted _ location spaceless) made
  exact { kept with stripped := { kept.stripped with } }

/-! ### The whole request -/

/-- What a later request may still tell, and whom. -/
structure Confined (library : Library) (first later : Request) : Prop where
  authorization : later.getHeader "Authorization" = first.getHeader "Authorization"
  secure : library.Secure first.fullUrl → library.Secure later.fullUrl
  origin : first.Carries → library.origin later.fullUrl = library.origin first.fullUrl

theorem Confined.redirected (confined : Confined library first before)
    (redirected : Redirected library before after) : Confined library first after := by
  refine ⟨redirected.authorization.trans confined.authorization,
    fun secure => redirected.secure (confined.secure secure), fun carries => ?_⟩
  have still : before.Carries := by
    rw [Request.Carries, confined.authorization]
    exact carries
  exact (redirected.origin still).trans (confined.origin carries)

/-- Where the opener stands: the requests that were sent, and the one that comes next. -/
structure Follows (library : Library) (first : Request) (state : List Request × Request) :
    Prop where
  count : state.1.length = state.2.redirectCount
  limit : state.2.redirectCount ≤ redirectLimit
  spaceless : ' ' ∉ state.2.fullUrl.toList
  confined : Confined library first state.2
  sent : ∃ rest, state.1 ++ [state.2] = first :: rest ∧
    ∀ later ∈ rest, later.Stripped ∧ Confined library first later

variable {state next : List Request × Request} {outcome : Except Failure (Nat × Body)}
  {sent : List Request} {answer : Answer} {status maxBytes fuel : Nat} {url method : String}
  {data : Option Body} {headers : List (String × String)}

private theorem handleAnswer_redirected (lawful : library.Lawful)
    (spaceless : ' ' ∉ before.fullUrl.toList)
    (handled : handleAnswer library before answer = .inr after) :
    Redirected library before after := by
  unfold handleAnswer at handled
  split at handled
  · cases handled
  · split at handled
    · cases handled
    · split at handled
      · cases handled
      · split at handled
        · rename_i made
          cases handled
          exact httpError302_ok lawful spaceless made
        · cases handled

/-- A response is the answer to the last request. -/
theorem handleAnswer_response (handled : handleAnswer library before answer = .inl (.ok (status, body))) :
    (200 ≤ status ∧ status < 300) ∧ ∃ location, answer = .reply status location body := by
  unfold handleAnswer at handled
  split at handled
  · cases handled
  · split at handled
    · rename_i accepted
      cases handled
      exact ⟨accepted, _, rfl⟩
    · split at handled
      · cases handled
      · split at handled <;> cases handled

theorem Follows.exchange (lawful : library.Lawful) (follows : Follows library first state)
    (onward : exchange library server state = .inr next) :
    Follows library first next ∧ next.2.redirectCount = state.2.redirectCount + 1 := by
  obtain ⟨sent, request⟩ := state
  dsimp only [Redirects.exchange] at onward
  cases handled : handleAnswer library request (server (sent ++ [request])) with
  | inl outcome =>
    rw [handled] at onward
    cases onward
  | inr redirected =>
    rw [handled] at onward
    cases onward
    have made := handleAnswer_redirected lawful follows.spaceless handled
    obtain ⟨rest, all, stripped⟩ := follows.sent
    have confined := follows.confined.redirected made
    refine ⟨⟨?_, made.limit, made.spaceless, confined, rest ++ [redirected], ?_,
      fun later member => ?_⟩, made.count⟩
    · rw [List.length_append, made.count, follows.count]
      rfl
    · exact congrArg (· ++ [redirected]) all
    · rcases List.mem_append.mp member with earlier | last
      · exact stripped later earlier
      · obtain rfl := List.mem_singleton.mp last
        exact ⟨made.stripped, confined⟩

private theorem follows_start (fresh : first.redirectCount = 0)
    (spaceless : ' ' ∉ first.fullUrl.toList) :
    Follows library first ([], first) where
  count := fresh.symm
  limit := by rw [fresh]; exact Nat.zero_le _
  spaceless := spaceless
  confined := ⟨rfl, id, fun _ => rfl⟩
  sent := ⟨[], rfl, fun _ member => (nomatch member)⟩

/-- An opener that never gives up follows so many redirects at most. -/
theorem openUrl_returns (lawful : library.Lawful) (fresh : first.redirectCount = 0)
    (spaceless : ' ' ∉ first.fullUrl.toList) :
    ∃ result, openUrl library server (redirectLimit + 1) first = some result := by
  refine Loop.run_terminates (Follows library first) (fun state => redirectLimit - state.2.redirectCount)
    (follows_start fresh spaceless) (fun state next follows onward => ?_) ?_
  · obtain ⟨kept, count⟩ := follows.exchange lawful onward
    refine ⟨kept, ?_⟩
    have limit := kept.limit
    omega
  · exact Nat.lt_succ_of_le (Nat.sub_le _ _)

/-- What was sent, and what a response is, whenever the opener returns. -/
theorem openUrl_sent (lawful : library.Lawful) (fresh : first.redirectCount = 0)
    (spaceless : ' ' ∉ first.fullUrl.toList)
    (opened : openUrl library server fuel first = some (outcome, sent)) :
    ∃ rest, sent = first :: rest ∧ rest.length ≤ redirectLimit ∧
      (∀ later ∈ rest, later.Stripped ∧ Confined library first later) ∧
      ∀ status body, outcome = .ok (status, body) → (200 ≤ status ∧ status < 300) ∧
        ∃ location, server sent = .reply status location body := by
  obtain ⟨⟨before, last⟩, follows, ended⟩ := Loop.run_invariant (Follows library first)
    (follows_start fresh spaceless) (fun _ _ follows onward => (follows.exchange lawful onward).1)
    opened
  dsimp only [Redirects.exchange] at ended
  cases handled : handleAnswer library last (server (before ++ [last])) with
  | inr redirected =>
    rw [handled] at ended
    cases ended
  | inl result =>
    rw [handled] at ended
    cases ended
    obtain ⟨rest, all, stripped⟩ := follows.sent
    refine ⟨rest, all, ?_, stripped, fun status body same => ?_⟩
    · have lengths := congrArg List.length all
      have limit := follows.limit
      rw [← follows.count] at limit
      simp only [List.length_append, List.length_cons, List.length_nil] at lengths limit
      omega
    · rw [same] at handled
      exact handleAnswer_response handled

private theorem receive_ok (received : receive library url maxBytes outcome = .ok (status, body)) :
    body.length ≤ maxBytes ∧ outcome = .ok (status, body) := by
  rcases outcome with failure | ⟨code, whole⟩
  · cases failure with
    | http code text =>
      simp only [receive] at received
      split at received <;> cases received
    | setup | value => cases received
  · simp only [receive, List.length_take] at received
    split at received
    · obtain ⟨_, _, received⟩ := bind_ok.mp received
      cases received
    · have fits : whole.length ≤ maxBytes := by omega
      rw [List.take_of_length_le (Nat.le_succ_of_le fits)] at received
      cases received
      exact ⟨fits, rfl⟩

/-- **Redirects tell nobody else.** Whatever the server answers to each request, `request`
returns, after five redirects at most. Only the first request has a body; the later ones
fetch, with the headers that do not describe one. A request that carries `Authorization` is
only ever sent to the origin of the first one, and one that began over TLS stays there. A
body that is returned is all that the server sent to the last request, and not too long. -/
theorem redirects_tell_nobody_else (lawful : library.Lawful) (spaceless : ' ' ∉ url.toList) :
    ∃ result rest, request library server (redirectLimit + 1) url method data headers maxBytes =
        some (result, ⟨url, method, data, headers, 0, []⟩ :: rest) ∧
      rest.length ≤ redirectLimit ∧
      (∀ later ∈ rest, later.Stripped ∧
        Confined library ⟨url, method, data, headers, 0, []⟩ later) ∧
      ∀ status body, result = .ok (status, body) → (200 ≤ status ∧ status < 300) ∧
        body.length ≤ maxBytes ∧ ∃ location,
          server (⟨url, method, data, headers, 0, []⟩ :: rest) = .reply status location body := by
  obtain ⟨⟨outcome, sent⟩, opened⟩ := @openUrl_returns library server
    ⟨url, method, data, headers, 0, []⟩ lawful rfl spaceless
  obtain ⟨rest, rfl, few, confined, response⟩ := openUrl_sent lawful rfl spaceless opened
  refine ⟨receive library url maxBytes outcome, rest, ?_, few, confined, fun status body same => ?_⟩
  · rw [request, opened]
    rfl
  · obtain ⟨short, whole⟩ := receive_ok same
    obtain ⟨accepted, answered⟩ := response status body whole
    exact ⟨accepted, short, answered⟩

/-- The library on the absolute URLs of two hosts. -/
def apiLibrary : Library where
  urlsplit url := .ok
    (if (stripPrefix url "https://api.cloudflare.com/").isSome then
      ⟨"https", some "api.cloudflare.com", .ok none⟩
    else if (stripPrefix url "https://example.com/").isSome then
      ⟨"https", some "example.com", .ok none⟩
    else ⟨"", none, .ok none⟩)
  newurl _ location := String.ofList (location.toList.filter (· ≠ ' '))
  describe code _ := s!"HTTP {code}: request failed"

private theorem apiLibrary_lawful : apiLibrary.Lawful where
  quoted base location _ member := by simp [apiLibrary] at member

/-- A server that has moved the list of accounts. -/
def movedServer (location : String) (sent : List Request) : Answer :=
  if sent.length = 1 then .reply 307 (some location) [] else .reply 200 none [123, 125]

def accountsUrl : String := "https://api.cloudflare.com/client/v4/accounts"

def listAccounts (location : String) : Option (Except Failure (Nat × Body) × List Request) :=
  request apiLibrary (movedServer location) (redirectLimit + 1) accountsUrl "GET" none
    [("Authorization", "Bearer token")] 100

theorem moved_accounts_confined :
    ∃ result rest, listAccounts "https://api.cloudflare.com/v4" = some (result,
        ⟨accountsUrl, "GET", none, [("Authorization", "Bearer token")], 0, []⟩ :: rest) ∧
      rest.length ≤ redirectLimit := by
  have spaceless : ' ' ∉ accountsUrl.toList := by
    have literal : accountsUrl = String.ofList _ := rfl
    rw [literal, String.toList_ofList]
    decide
  obtain ⟨result, rest, sent, few, -⟩ := @redirects_tell_nobody_else apiLibrary
    (movedServer "https://api.cloudflare.com/v4") 100 accountsUrl "GET" none
    [("Authorization", "Bearer token")] apiLibrary_lawful spaceless
  exact ⟨result, rest, sent, few⟩

example : (listAccounts "https://api.cloudflare.com/v4").map Prod.fst =
    some (.ok (200, [123, 125])) := by decide +kernel

example : (listAccounts "https://example.com/v4").map Prod.fst = some (.error (.setup
    "Refusing to forward authorization credentials to a different origin.")) := by decide +kernel

end CfFw.Redirects
