import CfFw.SetupRollback

/-! What a run of setup that returns has left: one tunnel with its DNS record, the files
that name them, a checked `cloudflared`, and nothing else. Each part of the run has an
equation for the states in which it returns; `run` is their composition. -/
namespace CfFw.SetupRun
open Text Program

variable {env : Env} {s s' : State} {site : Site} {message hostname : String}
  {path staged destination : Path} {target : Target} {content : Content} {done : Unit}

/-! ### Steps -/

variable {login : Login} {kind : Kind} {id name : String} {poll : Poll}

def workerName (env : Env) : String := s!"proxy-fw-{env.setupHex}"

/-- What the Worker approach makes, where it is taken. -/
def workerResources (env : Env) (account : Account) (worker : Bool) : List Resource :=
  if worker then [.workerScript account.id (workerName env), .workerDomain account.id env.domainId]
  else []

/-- How that is asked for: the domain of the Worker is the hostname without the wildcard. -/
def workerRequests (env : Env) (account : Account) (zone : Zone) (hostname : String)
    (worker : Bool) : List Request :=
  if worker then [workerRequest account.id (workerName env),
    domainRequest account.id (plain hostname) (workerName env) zone.id zone.name]
  else []

/-- The token of the second login, where there is one. -/
def workerTokens (env : Env) (worker : Bool) : List String :=
  if worker then [(env.tokenReply .workers).accessToken] else []

/-- Without a Worker there is no second login and no more resources. -/
theorem unchanged (s : State) (account : Account) (zone : Zone) (hostname : String) : { s with
    tokens := s.tokens ++ workerTokens env false
    created := s.created ++ workerResources env account false
    requested := s.requested ++ workerRequests env account zone hostname false } = s := by
  simp [workerTokens, workerResources, workerRequests]

variable {before files later : Path → Option Entry} {paths more : List Path} {account : Account}
  {zone : Zone} {worker : Bool}

/-- No file is changed or removed, and the new ones are at these paths. -/
structure Extends (before after : Path → Option Entry) (paths : List Path) : Prop where
  kept : ∀ path entry, before path = some entry → after path = some entry
  added : ∀ path, before path = none → after path ≠ none → path ∈ paths

theorem Extends.trans (first : Extends before files paths) (second : Extends files later more) :
    Extends before later (paths ++ more) := by
  refine ⟨fun path entry held => second.kept path entry (first.kept path entry held),
    fun path absent present => ?_⟩
  by_cases middle : files path = none
  · exact List.mem_append_right _ (second.added path middle present)
  · exact List.mem_append_left _ (first.added path absent middle)

theorem Extends.put {entry : Entry} (absent : files path = none) :
    Extends files (Function.update files path (some entry)) [path] := by
  refine ⟨fun other entry held => ?_, fun other none present => ?_⟩
  · have apart : other ≠ path := by
      rintro rfl
      rw [absent] at held
      cases held
    rwa [Function.update_of_ne apart]
  · by_contra apart
    rw [Function.update_of_ne (by simpa using apart)] at present
    exact present none

end CfFw.SetupRun
