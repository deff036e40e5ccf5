import CfFw.SetupHostname
import CfFw.Transition

/-! The access tokens of the two setup scripts, from the reply of the token endpoint to
the revocation endpoint. The scripts log in once or twice, fail or are interrupted
anywhere in between, and revoke the tokens that they have recorded. -/
namespace CfFw.OAuth
open Text Transition

inductive Script where
  | sh
  | ps1
  deriving DecidableEq

def baseScopes : List String :=
  ["account-settings.read", "zone.read", "dns.write", "argotunnel.write",
    "ssl-and-certificates.read"]

def workersScope : String := "workers-scripts.write"

/-- What the token endpoint replies; the texts are empty where the fields are missing. -/
structure TokenReply where
  accessToken : String
  scope : String
  errorText : String
  deriving DecidableEq

def words (separates : Char → Bool) (text : String) : List String :=
  ((text.toList.splitOnP separates).filter (· ≠ [])).map String.ofList

def missingScopes (missing : List String) : String :=
  let listed := ", ".intercalate missing
  s!"Cloudflare authorization did not grant every required permission: {listed}."

def noAccessToken : String := "Cloudflare returned no access token."

/-- The requested scopes that a reply does not grant. PowerShell compares without
regard to case. -/
def missing (script : Script) (scopes : List String) (reply : TokenReply) : List String :=
  match script with
  | .sh =>
    let granted := words isSpace reply.scope
    if granted = [] then [] else scopes.filter (· ∉ granted)
  | .ps1 =>
    let granted := (words (· == ' ') reply.scope).map toAsciiLowercase
    if reply.scope = "" then [] else scopes.filter (toAsciiLowercase · ∉ granted)

/-- The end of `Setup.oauth_login`: the token it records, and its result. -/
def oauthLogin (scopes : List String) (reply : TokenReply) :
    Option String × Except String Unit :=
  if reply.accessToken = "" then
    (none, .error (if reply.errorText = "" then noAccessToken else reply.errorText))
  else if missing .sh scopes reply ≠ [] then
    (some reply.accessToken, .error (missingScopes (missing .sh scopes reply)))
  else (some reply.accessToken, .ok ())

/-- The end of `Invoke-CloudflareLogin`. A reply without the field fails in strict mode
with PowerShell's own message; here it is a reply with an empty one. -/
def invokeCloudflareLogin (scopes : List String) (reply : TokenReply) :
    Option String × Except String Unit :=
  if reply.accessToken = "" then (none, .error noAccessToken)
  else if missing .ps1 scopes reply ≠ [] then
    (none, .error (missingScopes (missing .ps1 scopes reply)))
  else (some reply.accessToken, .ok ())

def login : Script → List String → TokenReply → Option String × Except String Unit
  | .sh => oauthLogin
  | .ps1 => invokeCloudflareLogin

/-- Why the script gives up. -/
inductive Cause where
  | interrupted
  | error (message : String)
  deriving DecidableEq

/-- Where the script stands. `revoking` has the tokens that are still to be submitted;
without a cause it is the revocation at the end of a successful run. -/
inductive Phase where
  | running
  | answered (scopes : List String) (reply : TokenReply)
  | completing
  | handling (cause : Cause)
  | rollingBack (cause : Cause)
  | revoking (rest : List String) (cause : Option Cause)
  | reporting (cause : Cause)
  | exited (code : Option Nat)
  deriving DecidableEq

/-- The tokens that the endpoint has returned, those the script has recorded, and those
it has submitted to be revoked. -/
structure Session where
  issued : List String
  recorded : List String
  submitted : List String
  logins : Nat
  phase : Phase
  deriving DecidableEq

inductive Label where
  | work
  | raise (message : String)
  | interrupt
  | reply (reply : TokenReply)
  | finishLogin
  | commit
  | handled
  | rolledBack
  | submit
  | revoked
  | exit
  deriving DecidableEq

def Session.start : Session := ⟨[], [], [], 0, .running⟩

/-- The scopes of the next login: of the first one, and of the one of the Worker
workaround. -/
def nextScopes : Nat → Option (List String)
  | 0 => some baseScopes
  | 1 => some (baseScopes ++ [workersScope])
  | _ => none

def exitCode : Script → Cause → Nat
  | .sh, .interrupted => 130
  | _, _ => 1

/-- An interrupt. Python raises it where it is: the top level handles it like an error,
`recover` goes on after it with what comes next, and nothing handles it in a handler.
PowerShell runs no `catch` for it. -/
def interrupt (script : Script) (d : Session) : Option Session :=
  match script, d.phase with
  | _, .exited _ => none
  | .ps1, _ => some { d with phase := .exited none }
  | .sh, .running | .sh, .answered _ _ | .sh, .completing | .sh, .revoking _ none =>
    some { d with phase := .handling .interrupted }
  | .sh, .handling _ | .sh, .reporting _ => some { d with phase := .exited none }
  | .sh, .rollingBack cause => some { d with phase := .revoking d.recorded (some cause) }
  | .sh, .revoking _ (some cause) => some { d with phase := .reporting cause }

/-- One step of the script. -/
def step (script : Script) (d : Session) (label : Label) : Option Session :=
  match label, d.phase with
  | .interrupt, _ => interrupt script d
  | .work, .running | .work, .completing => some d
  | .raise message, .running | .raise message, .completing =>
    some { d with phase := .handling (.error message) }
  -- Python suppresses errors in its handler, in a `catch` they end the script.
  | .raise _, .handling cause =>
    match script with
    | .sh => some { d with phase := .rollingBack cause }
    | .ps1 => some { d with phase := .exited none }
  | .reply reply, .running =>
    match nextScopes d.logins with
    | none => none
    | some scopes =>
      some { d with
        issued := if reply.accessToken = "" then d.issued else d.issued ++ [reply.accessToken]
        logins := d.logins + 1
        phase := .answered scopes reply }
  | .finishLogin, .answered scopes reply =>
    let (token, result) := login script scopes reply
    let d := { d with recorded := d.recorded ++ token.toList }
    match result with
    | .ok () => some { d with phase := .running }
    | .error message => some { d with phase := .handling (.error message) }
  | .commit, .running => some { d with phase := .revoking d.recorded none }
  | .handled, .handling cause => some { d with phase := .rollingBack cause }
  | .rolledBack, .rollingBack cause => some { d with phase := .revoking d.recorded (some cause) }
  | .submit, .revoking (token :: rest) cause =>
    -- Whatever becomes of the request, the loop goes on.
    some { d with submitted := d.submitted ++ [token], phase := .revoking rest cause }
  | .revoked, .revoking [] none => some { d with recorded := [], phase := .completing }
  | .revoked, .revoking [] (some cause) =>
    some { d with recorded := [], phase := .reporting cause }
  | .exit, .completing => some { d with phase := .exited (some 0) }
  | .exit, .reporting cause => some { d with phase := .exited (some (exitCode script cause)) }
  | _, _ => none

/-- Every token of the run was submitted. -/
def Session.AllSubmitted (d : Session) : Prop := ∀ token ∈ d.issued, token ∈ d.submitted

/-- The steps after which no token is lost. PowerShell has no login that grants too
little, and neither an error in its handler nor an interrupt while a token is out; in
Python no interrupt comes between a token and its recording, or in the handler or the
last revocation while a token is out. -/
def Careful (script : Script) (d : Session) (label : Label) : Prop :=
  match script, label, d.phase with
  | .ps1, .finishLogin, .answered scopes reply =>
    reply.accessToken = "" ∨ missing .ps1 scopes reply = []
  | .ps1, .raise _, .handling _ | .ps1, .interrupt, _ => d.AllSubmitted
  | .sh, .interrupt, .answered _ reply => reply.accessToken = ""
  | .sh, .interrupt, .handling _ | .sh, .interrupt, .revoking _ (some _) => d.AllSubmitted
  | _, _, _ => True

variable {script : Script} {d d' : Session} {label : Label} {labels : List Label}
  {scopes : List String} {reply : TokenReply}

/-! ### Logins -/

/-- The shell script records every token that is returned. -/
theorem oauthLogin_records (issued : reply.accessToken ≠ "") :
    (oauthLogin scopes reply).1 = some reply.accessToken := by
  unfold oauthLogin
  rw [if_neg issued]
  split_ifs
  · rfl
  · rfl

/-- The PowerShell script records the tokens that grant every scope. -/
theorem invokeCloudflareLogin_records (issued : reply.accessToken ≠ "") :
    (invokeCloudflareLogin scopes reply).1 = some reply.accessToken ↔
      missing .ps1 scopes reply = [] := by
  unfold invokeCloudflareLogin
  rw [if_neg issued]
  split_ifs with incomplete
  · simp [incomplete]
  · simp [not_not.mp incomplete]

/-! ### One step -/

/-- The token is recorded or was submitted. -/
def Session.Covers (d : Session) (token : String) : Prop :=
  token ∈ d.recorded ∨ token ∈ d.submitted

/-- No token is lost: each is recorded or submitted, or is in the reply that is being
looked at, and what is recorded is submitted by the revocation that is under way. -/
def Session.Sound (d : Session) : Prop :=
  match d.phase with
  | .running | .handling _ | .rollingBack _ => ∀ token ∈ d.issued, d.Covers token
  | .answered _ reply => ∀ token ∈ d.issued,
      d.Covers token ∨ (token = reply.accessToken ∧ reply.accessToken ≠ "")
  | .revoking rest _ => (∀ token ∈ d.issued, d.Covers token) ∧
      ∀ token ∈ d.recorded, token ∈ rest ∨ token ∈ d.submitted
  | .completing | .reporting _ | .exited _ => d.AllSubmitted

theorem Session.Covers.mono {token : String} (covers : d.Covers token)
    (recorded : ∀ t ∈ d.recorded, t ∈ d'.recorded) (submitted : ∀ t ∈ d.submitted, t ∈ d'.submitted) :
    d'.Covers token :=
  covers.imp (recorded token) (submitted token)

private theorem allSubmitted_covers (all : d.AllSubmitted) : ∀ token ∈ d.issued, d.Covers token :=
  fun token issued => .inr (all token issued)

/-- Where a revocation begins it has every recorded token before it. -/
theorem sound_revoking (covers : ∀ token ∈ d.issued, d.Covers token) (cause : Option Cause) :
    Session.Sound { d with phase := .revoking d.recorded cause } :=
  ⟨covers, fun _ recorded => .inl recorded⟩

/-- At the end of a revocation every token was submitted. -/
theorem allSubmitted_revoked {cause : Option Cause} (sound : d.Sound)
    (phase : d.phase = .revoking [] cause) : d.AllSubmitted := by
  simp only [Session.Sound, phase] at sound
  intro token issued
  rcases sound.1 token issued with recorded | submitted
  · exact (sound.2 token recorded).resolve_left List.not_mem_nil
  · exact submitted

private theorem sound_submit {token : String} {rest : List String} {cause : Option Cause}
    (sound : d.Sound)
    (phase : d.phase = .revoking (token :: rest) cause) :
    Session.Sound { d with submitted := d.submitted ++ [token], phase := .revoking rest cause } := by
  simp only [Session.Sound, phase] at sound
  refine ⟨fun other issued => ?_, fun other recorded => ?_⟩
  · exact (sound.1 other issued).imp id fun submitted => List.mem_append_left _ submitted
  · rcases sound.2 other recorded with waiting | submitted
    · rcases List.mem_cons.mp waiting with rfl | later
      · exact .inr (List.mem_append_right _ List.mem_cons_self)
      · exact .inl later
    · exact .inr (List.mem_append_left _ submitted)

/-- A login that the condition allows records the token of its reply. -/
theorem login_records (careful : Careful script d .finishLogin)
    (phase : d.phase = .answered scopes reply) (issued : reply.accessToken ≠ "") :
    (login script scopes reply).1 = some reply.accessToken := by
  cases script with
  | sh => exact oauthLogin_records issued
  | ps1 =>
    simp only [Careful, phase] at careful
    exact (invokeCloudflareLogin_records issued).mpr (careful.resolve_left issued)

private theorem sound_finishLogin (sound : d.Sound) (careful : Careful script d .finishLogin)
    (phase : d.phase = .answered scopes reply) : ∀ token ∈ d.issued,
      token ∈ d.recorded ++ (login script scopes reply).1.toList ∨ token ∈ d.submitted := by
  simp only [Session.Sound, phase] at sound
  intro token issued
  rcases sound token issued with (recorded | submitted) | ⟨rfl, some⟩
  · exact .inl (List.mem_append_left _ recorded)
  · exact .inr submitted
  · rw [login_records careful phase some]
    exact .inl (List.mem_append_right _ List.mem_cons_self)

/-- An interrupt of the PowerShell script, while no token is out. -/
theorem sound_stopped (careful : Careful .ps1 d .interrupt)
    (taken : interrupt .ps1 d = some d') : d'.Sound := by
  have all : d.AllSubmitted := by
    simpa only [Careful] using careful
  cases phase : d.phase with
  | exited code => simp only [interrupt, phase, reduceCtorEq] at taken
  | _ =>
    simp only [interrupt, phase, Option.some.injEq] at taken
    rw [← taken]
    exact all

/-- An interrupt of the shell script, where it is handled or no token is out. -/
theorem sound_interrupt (sound : d.Sound) (careful : Careful .sh d .interrupt)
    (taken : interrupt .sh d = some d') : d'.Sound := by
  cases phase : d.phase with
  | running =>
    simp only [interrupt, phase, Option.some.injEq] at taken
    simp only [Session.Sound, phase] at sound
    rw [← taken]
    exact sound
  | answered scopes reply =>
    simp only [interrupt, phase, Option.some.injEq] at taken
    simp only [Session.Sound, Careful, phase] at sound careful
    rw [← taken]
    exact fun token issued => (sound token issued).resolve_right fun pending => pending.2 careful
  | completing =>
    simp only [interrupt, phase, Option.some.injEq] at taken
    simp only [Session.Sound, phase] at sound
    rw [← taken]
    exact allSubmitted_covers sound
  | handling cause =>
    simp only [interrupt, phase, Option.some.injEq] at taken
    simp only [Careful, phase] at careful
    rw [← taken]
    exact careful
  | rollingBack cause =>
    simp only [interrupt, phase, Option.some.injEq] at taken
    simp only [Session.Sound, phase] at sound
    rw [← taken]
    exact sound_revoking sound _
  | revoking rest cause =>
    cases cause with
    | none =>
      simp only [interrupt, phase, Option.some.injEq] at taken
      simp only [Session.Sound, phase] at sound
      rw [← taken]
      exact sound.1
    | some cause =>
      simp only [interrupt, phase, Option.some.injEq] at taken
      simp only [Careful, phase] at careful
      rw [← taken]
      exact careful
  | reporting cause =>
    simp only [interrupt, phase, Option.some.injEq] at taken
    simp only [Session.Sound, phase] at sound
    rw [← taken]
    exact sound
  | exited code =>
    simp only [interrupt, phase, reduceCtorEq] at taken

/-- Every step that the condition allows loses no token. -/
theorem sound_step (sound : d.Sound) (careful : Careful script d label)
    (taken : step script d label = some d') : d'.Sound := by
  unfold step at taken
  split at taken
  case h_1 =>
    cases script with
    | sh => exact sound_interrupt sound careful taken
    | ps1 => exact sound_stopped careful taken
  case h_2 phase =>
    cases taken
    exact sound
  case h_3 phase =>
    cases taken
    exact sound
  case h_4 phase =>
    cases taken
    simp only [Session.Sound, phase] at sound
    exact sound
  case h_5 phase =>
    cases taken
    simp only [Session.Sound, phase] at sound
    exact allSubmitted_covers sound
  case h_6 message cause phase =>
    simp only [Session.Sound, phase] at sound
    cases script with
    | sh =>
      cases taken
      exact sound
    | ps1 =>
      cases taken
      have all : d.AllSubmitted := by
        simpa only [Careful, phase] using careful
      exact all
  case h_7 reply phase =>
    simp only [Session.Sound, phase] at sound
    split at taken
    · cases taken
    · cases taken
      intro token issued
      dsimp only at issued
      split_ifs at issued with empty
      · exact .inl (sound token issued)
      · rcases List.mem_append.mp issued with earlier | new
        · exact .inl (sound token earlier)
        · exact .inr ⟨List.mem_singleton.mp new, empty⟩
  case h_8 scopes reply phase =>
    have covers := sound_finishLogin sound careful phase
    dsimp only at taken
    split at taken <;> cases taken
    · exact covers
    · exact covers
  case h_9 phase =>
    cases taken
    simp only [Session.Sound, phase] at sound
    exact sound_revoking sound none
  case h_10 cause phase =>
    cases taken
    simp only [Session.Sound, phase] at sound
    exact sound
  case h_11 cause phase =>
    cases taken
    simp only [Session.Sound, phase] at sound
    exact sound_revoking sound (some cause)
  case h_12 token rest cause phase =>
    cases taken
    exact sound_submit sound phase
  case h_13 phase =>
    cases taken
    have all := allSubmitted_revoked sound phase
    exact all
  case h_14 cause phase =>
    cases taken
    have all := allSubmitted_revoked sound phase
    exact all
  case h_15 phase =>
    cases taken
    simp only [Session.Sound, phase] at sound
    exact sound
  case h_16 cause phase =>
    cases taken
    simp only [Session.Sound, phase] at sound
    exact sound
  case h_17 => cases taken

/-- **No token survives.** In every run of either script whose steps meet the condition,
every token that the endpoint has returned was submitted to be revoked when the script
exits. -/
theorem exit_revokes_tokens {code : Option Nat}
    (run : Run (step script) (Careful script) Session.start labels d)
    (exited : d.phase = .exited code) : ∀ token ∈ d.issued, token ∈ d.submitted := by
  have sound : d.Sound := by
    refine run.invariant Session.Sound ?_ fun state label after sound careful taken =>
      sound_step sound careful taken
    rintro token ⟨⟩
  simp only [Session.Sound, exited] at sound
  exact sound

/-! ### Single runs -/

def fullReply : TokenReply :=
  ⟨"first", "account-settings.read zone.read dns.write argotunnel.write ssl-and-certificates.read",
    ""⟩

/-- A reply that does not grant the scopes of the Worker workaround. -/
def narrowReply : TokenReply := { fullReply with accessToken := "second" }

/-- The second login is rejected, and the script recovers. -/
def rejectedRun : List Label :=
  [.work, .reply fullReply, .finishLogin, .work, .reply narrowReply, .finishLogin, .handled,
    .rolledBack, .submit, .submit, .revoked, .exit]

def rejectedEnd : Session :=
  ⟨["first", "second"], [], ["first", "second"], 2, .exited (some 1)⟩

private theorem words_fullReply : words isSpace fullReply.scope = baseScopes := by
  -- The characters are read off the literal, so that nothing has to be decoded.
  have text : fullReply.scope = String.ofList _ := rfl
  rw [words, text, String.toList_ofList]
  rfl

private theorem login_fullReply : oauthLogin baseScopes fullReply = (some "first", .ok ()) := by
  have granted : missing .sh baseScopes fullReply = [] := by
    simp [missing, words_fullReply]
  have returned : fullReply.accessToken = "first" := rfl
  simp [oauthLogin, granted, returned]

/-- The second reply lacks the scope of the Worker workaround. -/
theorem login_narrowReply : oauthLogin (baseScopes ++ [workersScope]) narrowReply =
    (some "second", .error (missingScopes [workersScope])) := by
  have lacks : missing .sh (baseScopes ++ [workersScope]) narrowReply = [workersScope] := by
    have granted : words isSpace narrowReply.scope = baseScopes := words_fullReply
    have some : baseScopes ≠ [] := nofun
    have absent : workersScope ∉ baseScopes := by decide
    simp [missing, granted, some, absent]
  have returned : narrowReply.accessToken = "second" := rfl
  simp [oauthLogin, lacks, returned]

/-- A login that is granted, and one that is not. -/
theorem step_finishLogin {issued recorded submitted : List String} {logins : Nat}
    {token message : String} :
    (login script scopes reply = (some token, .ok ()) →
      step script ⟨issued, recorded, submitted, logins, .answered scopes reply⟩ .finishLogin =
        some ⟨issued, recorded ++ [token], submitted, logins, .running⟩) ∧
    (login script scopes reply = (some token, .error message) →
      step script ⟨issued, recorded, submitted, logins, .answered scopes reply⟩ .finishLogin =
        some ⟨issued, recorded ++ [token], submitted, logins, .handling (.error message)⟩) := by
  constructor
  · intro granted
    simp only [step, granted, Option.toList_some]
  · intro refused
    simp only [step, refused, Option.toList_some]

private theorem rejectedRun_careful :
    Run (step .sh) (Careful .sh) .start rejectedRun rejectedEnd := by
  have asked : step .sh .start (.reply fullReply) =
      some ⟨["first"], [], [], 1, .answered baseScopes fullReply⟩ := rfl
  have first : step .sh ⟨["first"], [], [], 1, .answered baseScopes fullReply⟩ .finishLogin =
      some ⟨["first"], ["first"], [], 1, .running⟩ :=
    (@step_finishLogin .sh _ _ _ _ _ _ _ "").1 login_fullReply
  have again : step .sh ⟨["first"], ["first"], [], 1, .running⟩ (.reply narrowReply) =
      some ⟨["first", "second"], ["first"], [], 2,
        .answered (baseScopes ++ [workersScope]) narrowReply⟩ := rfl
  have second : step .sh ⟨["first", "second"], ["first"], [], 2,
      .answered (baseScopes ++ [workersScope]) narrowReply⟩ .finishLogin =
      some ⟨["first", "second"], ["first", "second"], [], 2,
        .handling (.error (missingScopes [workersScope]))⟩ :=
    step_finishLogin.2 login_narrowReply
  refine .cons trivial rfl (.cons trivial asked (.cons trivial first (.cons trivial rfl
    (.cons trivial again (.cons trivial second ?_)))))
  -- What is left goes the same way whatever the error says.
  generalize missingScopes [workersScope] = message
  exact .cons trivial rfl (.cons trivial rfl (.cons trivial rfl (.cons trivial rfl
    (.cons trivial rfl (.one trivial rfl)))))

theorem rejected_login_revoked : "second" ∈ rejectedEnd.issued ∧
    ∀ token ∈ rejectedEnd.issued, token ∈ rejectedEnd.submitted :=
  ⟨by decide, exit_revokes_tokens rejectedRun_careful rfl⟩

/-- The PowerShell script does not record a token that grants too little, and neither
script one that it is interrupted on. -/
theorem rejected_token_kept :
    (∃ d, Run (step .ps1) Unrestricted Session.start
        [.reply { fullReply with scope := "zone.read" }, .finishLogin, .handled, .rolledBack,
          .revoked, .exit] d ∧
      d.phase = .exited (some 1) ∧ "first" ∈ d.issued ∧ "first" ∉ d.submitted) ∧
    ∃ d, Run (step .sh) Unrestricted Session.start
        [.reply fullReply, .interrupt, .handled, .rolledBack, .revoked, .exit] d ∧
      d.phase = .exited (some 130) ∧ "first" ∈ d.issued ∧ "first" ∉ d.submitted :=
  ⟨⟨⟨["first"], [], [], 1, .exited (some 1)⟩, run_of_execute (by decide +kernel), rfl, by decide,
    by decide⟩, ⟨⟨["first"], [], [], 1, .exited (some 130)⟩, run_of_execute (by decide +kernel), rfl,
    by decide, by decide⟩⟩

end CfFw.OAuth
