import CfFw.SetupRun

/-! That `recover` undoes a run of setup. Between its steps a run keeps account of what
it has created, so that what `rollback` reads off the recorded fields and the two lists
of files is exactly what the run has made. -/
namespace CfFw.SetupRun
open Text Program

/-! ### Accounts -/

/-- The points after an effect and before its record. -/
def Env.Unrecorded (env : Env) : Site → Prop
  | .leaveProbe => env.fails .openProbe = none
  | .keep .worker | .startThread | .place _ .unstage | .place _ .record => True
  | .keep .domain => env.domainId ≠ ""
  | .keep .tunnel => env.tunnelId ≠ ""
  | .keep .dnsRecord => env.dnsRecordId ≠ ""
  | _ => False

/-- The paths with a random part. -/
def Env.drawn (env : Env) : List Path :=
  [probePath env, downloadPath env, installPath env, stagedPath env .credentials,
    stagedPath env .config]

def Sent.deleted : Sent → Option Resource
  | .delete resource _ => some resource
  | .revoke _ => none

/-- The state accounts for the recorded identifiers, for the resources that were made, and
for the files that differ from those before the run. -/
structure Holds (before : Path → Option Entry) (recorded : Recorded) (made : List Resource)
    (s : State) : Prop where
  recorded : s.recorded = recorded
  created : s.created = made
  files : ∀ path, path ∉ s.createdFiles ++ s.stagedFiles → s.files path = before path
  fresh : ∀ path ∈ s.createdFiles ++ s.stagedFiles, before path = none
  signed : made ≠ [] → (truthy s.accessToken).isSome
  serving : s.testServer ≠ some false
  uncommitted : s.committed = false
  silent : s.sent = []

/-- What was made is what `rollback` would delete, in the opposite order. -/
def Journaled (before : Path → Option Entry) (recorded : Recorded) : State → Prop :=
  Holds before recorded (operations recorded).reverse

structure Finished (before : Path → Option Entry) (s : State) : Prop where
  committed : s.committed = true
  files : ∀ path, before path ≠ none → s.files path = before path
  undeleted : ∀ resource token, .delete resource token ∉ s.sent

/-- Where a run may end early: at a point that is unrecorded, or in a state that can be
recovered. -/
def Recoverable (env : Env) (before : Path → Option Entry) : Halt → State → Prop
  | .blocked, _ => False
  | .raised site _, s => (∃ point, site = some point ∧ env.Unrecorded point) ∨
      (∃ recorded, Journaled before recorded s) ∨ Finished before s

/-- The files are as before the run, and the resources were deleted with the token before
any was revoked. -/
structure Reverted (before : Path → Option Entry) (resources : List Resource) (s : State) :
    Prop where
  files : s.files = before
  sent : ∃ (token : String) (revoked : List String),
    s.sent = resources.map (.delete · token) ++ revoked.map .revoke ∧
    (resources ≠ [] → token ≠ "")

variable {env : Env} {before : Path → Option Entry} {recorded next : Recorded}
  {made resources : List Resource} {s s' : State} {site : Site} {message : String}
  {p : State → Prop} {α : Type} {after : α → State → Prop} {path staged destination : Path}
  {target : Target} {id account zone : String}

abbrev Spec (env : Env) (before : Path → Option Entry) (p : State → Prop) (program : Setup α)
    (after : α → State → Prop) : Prop :=
  Triple env p program after (Recoverable env before)

/-! ### Steps -/

private theorem truthy_eq_some {text : Option String} {t : String} :
    truthy text = some t ↔ text = some t ∧ t ≠ "" := by
  simp [truthy, Option.filter_eq_some_iff]

private theorem truthy_some (text : String) :
    truthy (some text) = if text = "" then none else some text := by
  by_cases empty : text = ""
  · simp [truthy, empty]
  · simp [truthy, empty]

private theorem truthy_isSome {text : String} : (truthy (some text)).isSome ↔ text ≠ "" := by
  rw [truthy_some]
  split_ifs with empty
  · simp [empty]
  · simp [empty]

private theorem truthy_cases {field : Option String} (present : (truthy field).isSome) :
    ∃ text, field = some text ∧ (truthy (some text)).isSome := by
  cases field with
  | none => cases present
  | some text => exact ⟨text, rfl, present⟩

private theorem recoverable_of_journaled {halt : Halt} (raised : halt ≠ .blocked)
    (journaled : Journaled before recorded s) : Recoverable env before halt s := by
  cases halt with
  | raised site message => exact .inr (.inl ⟨recorded, journaled⟩)
  | blocked => exact absurd rfl raised

private theorem fail_spec (journaled : ∀ s, p s → Journaled before recorded s) :
    Spec env before p (fail message : Setup α) after :=
  Triple.raise fun s holds => .inr (.inl ⟨recorded, journaled s holds⟩)

private theorem step_triple {raised : Halt → State → Prop}
    (failing : ∀ message s, env.fails site = some message → p s →
      raised (.raised (some site) message) s) :
    Triple env p (step site) (fun _ s => p s ∧ env.fails site = none) raised := by
  unfold step
  apply Triple.askBind
  cases answer : env.fails site with
  | none => exact Triple.pure fun _ holds => ⟨holds, rfl⟩
  | some message => exact Triple.raise fun s holds => failing message s answer holds

private theorem step_spec (journaled : ∀ s, p s → Journaled before recorded s) :
    Spec env before p (step site) fun _ => p :=
  (step_triple fun _ s _ holds => .inr (.inl ⟨recorded, journaled s holds⟩)).weaken
    fun _ _ passed => passed.1

private theorem step_unrecorded (unrecorded : env.Unrecorded site) :
    Spec env before p (step site) fun _ => p :=
  (step_triple fun _ _ _ _ => .inl ⟨site, rfl, unrecorded⟩).weaken fun _ _ passed => passed.1

private theorem require_triple {condition : Bool} {raised : Halt → State → Prop}
    (failing : ∀ s, p s → raised (.raised none message) s) :
    Triple env p (require condition message) (fun _ s => p s ∧ condition = true) raised := by
  unfold require
  cases condition with
  | true => exact Triple.pure fun _ holds => ⟨holds, rfl⟩
  | false => exact Triple.raise failing

private theorem require_spec {condition : Bool}
    (journaled : ∀ s, p s → Journaled before recorded s) :
    Spec env before p (require condition message) fun _ s => p s ∧ condition = true :=
  require_triple fun s holds => .inr (.inl ⟨recorded, journaled s holds⟩)

private theorem ofExcept_spec {result : Except String α}
    (journaled : ∀ s, p s → Journaled before recorded s) :
    Spec env before p (ofExcept result) fun a s => p s ∧ result = .ok a := by
  cases result with
  | ok a => exact Triple.pure fun _ holds => ⟨holds, rfl⟩
  | error message => exact fail_spec journaled

private theorem cfApi_spec :
    Spec env before (Journaled before recorded) (cfApi site) fun _ s =>
      Journaled before recorded s ∧ (truthy s.accessToken).isSome := by
  unfold cfApi
  apply Triple.getBind
  intro token
  refine (require_spec fun s holds => holds.1).bind fun _ => ?_
  refine ((step_spec fun s holds => holds.1.1).weaken ?_)
  rintro _ s ⟨⟨holds, rfl⟩, signed⟩
  exact ⟨holds, signed⟩

private theorem cfApi_keeps : Spec env before (Journaled before recorded) (cfApi site) fun _ =>
    Journaled before recorded :=
  cfApi_spec.weaken fun _ _ passed => passed.1

/-! ### Files -/

/-- The account, and that the paths are on its lists. -/
def Listing (before : Path → Option Entry) (recorded : Recorded) (paths : List Path) (s : State) :
    Prop :=
  Journaled before recorded s ∧ ∀ path ∈ paths, path ∈ s.createdFiles ++ s.stagedFiles

theorem Holds.setFile {entry : Option Entry} (holds : Holds before recorded made s)
    (listed : path ∈ s.createdFiles ++ s.stagedFiles ∨ entry = before path) :
    Holds before recorded made { s with files := Function.update s.files path entry } := by
  refine { holds with files := fun other unlisted => ?_ }
  dsimp only at unlisted ⊢
  by_cases same : other = path
  · rw [same] at unlisted ⊢
    rw [Function.update_self]
    exact listed.resolve_left unlisted
  · rw [Function.update_of_ne same]
    exact holds.files other unlisted

theorem Holds.stage (holds : Holds before recorded made s) {paths : List Path}
    (absent : ∀ path ∈ paths, before path = none) :
    Holds before recorded made { s with stagedFiles := s.stagedFiles ++ paths } := by
  refine { holds with files := fun path unlisted => ?_, fresh := fun path listed => ?_ }
  · apply holds.files
    intro listed
    apply unlisted
    rw [← List.append_assoc]
    exact List.mem_append_left _ listed
  · rw [← List.append_assoc] at listed
    rcases List.mem_append.mp listed with earlier | new
    · exact holds.fresh path earlier
    · exact absent path new

/-- A staged file that is gone need not be listed. -/
theorem Holds.unstage (holds : Holds before recorded made s) (gone : s.files path = before path) :
    Holds before recorded made { s with stagedFiles := s.stagedFiles.erase path } := by
  refine { holds with files := fun other unlisted => ?_, fresh := fun other listed => ?_ }
  · by_cases same : other = path
    · rw [same, gone]
    · apply holds.files
      intro listed
      apply unlisted
      rcases List.mem_append.mp listed with created | staged
      · exact List.mem_append_left _ created
      · exact List.mem_append_right _ ((List.mem_erase_of_ne same).mpr staged)
  · rcases List.mem_append.mp listed with created | staged
    · exact holds.fresh other (List.mem_append_left _ created)
    · exact holds.fresh other (List.mem_append_right _ (List.mem_of_mem_erase staged))

theorem Holds.keepFile (holds : Holds before recorded made s) (absent : before path = none)
    {entry : Option Entry} : Holds before recorded made
      { s with
        files := Function.update s.files path entry
        createdFiles := s.createdFiles ++ [path] } := by
  have listed : Holds before recorded made { s with createdFiles := s.createdFiles ++ [path] } := by
    refine { holds with files := fun other unlisted => ?_, fresh := fun other listed => ?_ }
    · apply holds.files
      intro earlier
      apply unlisted
      rcases List.mem_append.mp earlier with created | staged
      · exact List.mem_append_left _ (List.mem_append_left _ created)
      · exact List.mem_append_right _ staged
    · rcases List.mem_append.mp listed with created | staged
      · rcases List.mem_append.mp created with earlier | new
        · exact holds.fresh other (List.mem_append_left _ earlier)
        · rw [List.mem_singleton.mp new]
          exact absent
      · exact holds.fresh other (List.mem_append_right _ staged)
  apply listed.setFile
  apply Or.inl
  exact List.mem_append_left _ (List.mem_append_right _ List.mem_cons_self)

private theorem openExclusive_spec {paths : List Path} (member : path ∈ paths) :
    Spec env before (Listing before recorded paths) (openExclusive site path message) fun _ =>
      Listing before recorded paths := by
  unfold openExclusive
  refine (step_spec fun s holds => holds.1).bind fun _ => ?_
  apply Triple.getBind
  intro files
  refine (require_spec fun s holds => holds.1.1).bind fun _ => ?_
  refine Triple.modify fun s holds => ⟨?_, holds.1.1.2⟩
  exact Holds.setFile holds.1.1.1 (.inl (holds.1.1.2 path member))

private theorem writeFile_spec {paths : List Path} {content : Content} (member : path ∈ paths) :
    Spec env before (Listing before recorded paths) (writeFile site path content) fun _ =>
      Listing before recorded paths := by
  unfold writeFile
  refine (step_spec fun s holds => holds.1).bind fun _ => ?_
  exact Triple.modify fun s holds => ⟨Holds.setFile holds.1 (.inl (holds.2 path member)), holds.2⟩

/-- Between the replacement and the two records nothing may raise. -/
theorem placeFile_spec (staged_absent : before staged = none) (absent : before destination = none) :
    Spec env before (Journaled before recorded) (placeFile target staged destination) fun _ =>
      Journaled before recorded := by
  have unstaged : env.Unrecorded (.place target .unstage) := trivial
  have unlisted : env.Unrecorded (.place target .record) := trivial
  unfold placeFile
  refine (step_spec fun s holds => holds).bind fun _ => ?_
  refine Triple.modifyBind (fun s holds => ?_)
    ((step_unrecorded unstaged).bind fun _ => Triple.modifyBind (fun s holds => holds)
      ((step_unrecorded unlisted).bind fun _ => Triple.modify fun s holds => holds))
  have cleared : Holds before recorded (operations recorded).reverse
      { s with files := Function.update s.files staged none } :=
    Holds.setFile holds (.inr staged_absent.symm)
  have gone : Function.update s.files staged none staged = before staged := by
    rw [Function.update_self, staged_absent]
  exact (cleared.unstage gone).keepFile absent

/-- The probe is gone again, also where the code fails to open it. -/
theorem probe_spec (absent : before (probePath env) = none)
    (unlinked : env.fails .unlinkProbe = none) :
    Spec env before (Journaled before recorded) probe fun _ => Journaled before recorded := by
  let cleared : State → Prop := fun s => Journaled before recorded
    { s with files := Function.update s.files (probePath env) none }
  have clears : ∀ s, Journaled before recorded s → cleared s :=
    fun s holds => Holds.setFile holds (.inr absent.symm)
  have cleans : Spec env before cleared
      ((unlink .unlinkProbe (probePath env)).suppress fun halt => halt ≠ .blocked)
      fun _ => Journaled before recorded := by
    refine Triple.suppress ((step_triple fun message s failed _ => ?_).bind fun _ =>
      Triple.modify fun s passed => passed.1)
    rw [unlinked] at failed
    cases failed
  unfold probe
  apply Triple.askBind
  refine @Triple.ensuring _ _ _ _ _ _ _ _ _ _ (fun _ s => cleared s ∧ env.fails .openProbe = none)
    (fun halt s => Journaled before recorded s ∧ halt ≠ .blocked) ?_ (fun _ => ?_) (fun halt => ?_)
  · unfold openExclusive
    refine (step_triple fun message s failed holds => ?_).bind fun _ => Triple.getBind fun files =>
      (require_triple fun s holds => ?_).bind fun _ => Triple.modify fun s holds => ⟨?_, ?_⟩
    · exact ⟨holds, Halt.noConfusion⟩
    · exact ⟨holds.1.1, Halt.noConfusion⟩
    · have holds := clears s holds.1.1.1
      dsimp only [cleared, id_eq] at holds ⊢
      rwa [Function.update_idem]
    · exact holds.1.1.2
  · refine Triple.ofAnd fun opened => ?_
    have unrecorded : env.Unrecorded .leaveProbe := opened
    exact (step_unrecorded unrecorded).bind fun _ => cleans
  · refine Triple.ofAnd fun raised => ?_
    refine ((step_spec fun s holds => holds).bind fun _ => cleans.strengthen clears).weaken ?_
    exact fun _ s holds => recoverable_of_journaled raised holds

private theorem validatePaths_spec (absent : before (probePath env) = none)
    (unlinked : env.fails .unlinkProbe = none) :
    Spec env before (Journaled before recorded) validatePaths fun _ =>
      Journaled before recorded := by
  unfold validatePaths
  refine (step_spec fun s holds => holds).bind fun _ => ?_
  refine (step_spec fun s holds => holds).bind fun _ => ?_
  refine (probe_spec absent unlinked).bind fun _ => ?_
  apply Triple.askBind
  apply Triple.getBind
  intro files
  exact (require_spec fun s holds => holds.1).weaken fun _ s passed => passed.1.1

private theorem findArtifact_spec :
    Spec env before (Journaled before recorded) findArtifact fun _ =>
    Journaled before recorded := by
  unfold findArtifact
  apply Triple.askBind
  dsimp only [id_eq]
  cases env.artifact with
  | none => exact fail_spec fun s holds => holds
  | some artifact => exact Triple.pure fun s holds => holds

/-- A path that the account does not list and that names nothing now named nothing before. -/
theorem Holds.absent (holds : Holds before recorded made s) (free : (s.files path).isNone) :
    before path = none := by
  by_cases listed : path ∈ s.createdFiles ++ s.stagedFiles
  · exact holds.fresh path listed
  · rw [← holds.files path listed]
    exact Option.isNone_iff_eq_none.mp free

private theorem downloadCloudflared_spec {artifact : Artifact}
    (download : before (downloadPath env) = none)
    (install : before (installPath env) = none) (absent : before (cloudflaredPath env) = none) :
    Spec env before (Journaled before recorded) (downloadCloudflared artifact) fun _ =>
      Journaled before recorded := by
  let paths := [downloadPath env, installPath env]
  have downloads : downloadPath env ∈ paths := List.mem_cons_self
  have installs : installPath env ∈ paths := List.mem_cons_of_mem _ List.mem_cons_self
  unfold downloadCloudflared
  apply Triple.askBind
  refine @Triple.modifyBind _ _ _ _ _ _ _ _ _ (Listing before recorded paths) _ (fun s holds => ?_) ?_
  · refine ⟨Holds.stage holds fun path member => ?_, fun path member => ?_⟩
    · rcases List.mem_cons.mp member with rfl | member
      · exact download
      · rw [List.mem_singleton.mp member]
        exact install
    · exact List.mem_append_right _ (List.mem_append_right _ member)
  refine (openExclusive_spec downloads).bind fun _ => ?_
  refine (openExclusive_spec installs).bind fun _ => ?_
  refine (writeFile_spec downloads).bind fun _ => ?_
  refine (require_spec fun s holds => holds.1).bind fun _ => Triple.ofAnd fun _ => ?_
  refine (writeFile_spec installs).bind fun _ => ?_
  refine (require_spec fun s holds => holds.1).bind fun _ => Triple.ofAnd fun _ => ?_
  refine ((step_spec fun s holds => holds.1).weaken fun _ s passed => passed.1).bind fun _ => ?_
  refine (placeFile_spec install absent).bind fun _ => ?_
  have unlinks : Spec env before (Journaled before recorded)
      (unlink .unlinkDownload (downloadPath env)) fun _ s => Journaled before recorded
        { s with stagedFiles := s.stagedFiles.erase (downloadPath env) } := by
    refine (step_spec fun s holds => holds).bind fun _ => Triple.modify fun s holds => ?_
    refine Holds.unstage (Holds.setFile holds (.inr download.symm)) ?_
    dsimp only
    rw [Function.update_self, download]
  exact unlinks.bind fun _ => Triple.modify fun s holds => holds

private theorem installCloudflared_spec (download : before (downloadPath env) = none)
    (install : before (installPath env) = none) :
    Spec env before (Journaled before recorded) installCloudflared fun _ =>
      Journaled before recorded := by
  unfold installCloudflared
  refine findArtifact_spec.bind fun artifact => ?_
  apply Triple.askBind
  apply Triple.getBind
  intro files
  refine (step_spec fun s holds => holds.1).bind fun _ => ?_
  dsimp only [id_eq]
  cases found : files (cloudflaredPath env) with
  | none =>
    refine Triple.fact (fun s holds => ?_) fun absent =>
      (downloadCloudflared_spec download install absent).strengthen fun s holds => holds.1
    apply Holds.absent holds.1
    rw [holds.2, found]
    rfl
  | some entry =>
    cases entry with
    | other => exact fail_spec fun s holds => holds.1
    | regular content =>
      refine (require_spec fun s holds => holds.1).bind fun _ => ?_
      exact (step_spec fun s holds => holds.1.1).weaken fun _ s passed => passed.1.1

private theorem writeAtomic_spec {content : Content}
    (staged : before (stagedPath env target) = none) :
    Spec env before (Journaled before recorded) (writeAtomic target destination content) fun _ =>
      Journaled before recorded := by
  let paths := [stagedPath env target]
  have writes : stagedPath env target ∈ paths := List.mem_cons_self
  unfold writeAtomic
  apply Triple.getBind
  intro files
  refine (require_spec fun s holds => holds.1).bind fun _ => ?_
  refine Triple.fact (fun s holds => ?_) fun (absent : before destination = none) => ?_
  · apply Holds.absent holds.1.1
    rw [holds.1.2]
    exact holds.2
  apply Triple.askBind
  refine @Triple.modifyBind _ _ _ _ _ _ _ _ _ (Listing before recorded paths) _ (fun s holds => ?_) ?_
  · refine ⟨Holds.stage holds.1.1 fun path member => ?_, fun path member => ?_⟩
    · rw [List.mem_singleton.mp member]
      exact staged
    · exact List.mem_append_right _ (List.mem_append_right _ member)
  refine (openExclusive_spec writes).bind fun _ => ?_
  refine (writeFile_spec writes).bind fun _ => ?_
  refine ((step_spec fun s holds => holds.1).weaken fun _ s passed => passed.1).bind fun _ => ?_
  exact placeFile_spec staged absent

/-! ### Resources -/

private theorem operation_none {resource : String → String → Resource} {owner : Option String} :
    operation resource none owner = [] := rfl

private theorem operation_some {resource : String → String → Resource} {id owner : String}
    (owned : (truthy (some owner)).isSome) :
    operation resource (some id) (some owner) = if id = "" then [] else [resource owner id] := by
  unfold operation
  rw [truthy_some, truthy_some, if_neg (truthy_isSome.mp owned)]
  split_ifs
  · rfl
  · rfl

theorem Holds.make (holds : Holds before recorded made s) (signed : (truthy s.accessToken).isSome)
    (resources : List Resource) (requested : List Request) :
    Holds before recorded (made ++ resources)
      { s with created := s.created ++ resources, requested } := by
  refine { holds with created := ?_, signed := fun _ => signed }
  dsimp only
  rw [holds.created]

theorem Holds.record (holds : Holds before recorded made s) (next : Recorded) :
    Holds before next made { s with recorded := next } := by
  exact { holds with recorded := rfl }

/-- Recording what changes nothing for `rollback`. -/
theorem Journaled.record (journaled : Journaled before recorded s)
    (same : operations next = operations recorded) :
    Journaled before next { s with recorded := next } := by
  unfold Journaled
  rw [same]
  exact Holds.record journaled next

theorem create_spec {kind : Kind} {request : Recorded → Request} {id : String}
    {resource : Recorded → Resource}
    {record : Recorded → Recorded} (unrecorded : id ≠ "" → env.Unrecorded (.keep kind))
    (recording : operations (record recorded) =
      (if id = "" then [] else [resource recorded]) ++ operations recorded) :
    Spec env before (Journaled before recorded) (create kind request id resource record message)
      fun _ => Journaled before (record recorded) := by
  let new := if id = "" then [] else [resource recorded]
  have mirrored : (operations recorded).reverse ++ new = (operations (record recorded)).reverse := by
    rw [recording, List.reverse_append]
    dsimp only [new]
    split_ifs
    · rfl
    · rfl
  unfold create
  refine cfApi_spec.bind fun _ => ?_
  refine @Triple.modifyBind _ _ _ _ _ _ _ _ _
    (Holds before recorded ((operations recorded).reverse ++ new)) _ (fun s holds => ?_) ?_
  · have made := Holds.make holds.1 holds.2 new (s.requested ++ [request s.recorded])
    have same : s.recorded = recorded := Holds.recorded holds.1
    simp only [same] at made ⊢
    exact made
  have keeps : Spec env before (Holds before recorded ((operations recorded).reverse ++ new))
      (step (.keep kind)) fun _ => Holds before recorded ((operations recorded).reverse ++ new) := by
    by_cases missing : id = ""
    · have nothing : new = [] := if_pos missing
      rw [nothing, List.append_nil]
      exact step_spec fun s holds => holds
    · exact step_unrecorded (unrecorded missing)
  refine keeps.bind fun _ => ?_
  refine @Triple.modifyBind _ _ _ _ _ _ _ _ _ (Journaled before (record recorded)) _
    (fun s holds => ?_) ?_
  · unfold Journaled
    rw [holds.recorded, ← mirrored]
    exact holds.record _
  · exact (require_spec fun s holds => holds).weaken fun _ s passed => passed.1

theorem Holds.login (holds : Holds before recorded made s) (token : Option String)
    (issued : ∀ t, token = some t → t ≠ "") : Holds before recorded made { s with
      accessToken := token.orElse fun _ => s.accessToken
      tokens := s.tokens ++ token.toList } := by
  cases token with
  | none => exact { holds with }
  | some t =>
    refine { holds with signed := fun _ => ?_ }
    exact truthy_isSome.mpr (issued t rfl)

private theorem oauthLogin_token {scopes : List String} {reply : OAuth.TokenReply} {token : String}
    (issued : (OAuth.oauthLogin scopes reply).1 = some token) : token ≠ "" := by
  unfold OAuth.oauthLogin at issued
  split_ifs at issued with empty incomplete
  · simp only [Option.some.injEq] at issued
    rwa [← issued]
  · simp only [Option.some.injEq] at issued
    rwa [← issued]

private theorem oauthLogin_spec {login : Login} :
    Spec env before (Journaled before recorded) (oauthLogin login) fun _ =>
      Journaled before recorded := by
  unfold oauthLogin
  refine (step_spec fun s holds => holds).bind fun _ => ?_
  refine (step_spec fun s holds => holds).bind fun _ => ?_
  apply Triple.askBind
  refine @Triple.modifyBind _ _ _ _ _ _ _ _ _ (Journaled before recorded) _ (fun s holds => ?_) ?_
  · exact Holds.login holds _ fun token issued => oauthLogin_token issued
  · cases (OAuth.oauthLogin login.scopes (env.tokenReply login)).2 with
    | ok => exact Triple.pure fun s holds => holds
    | error message => exact fail_spec fun s holds => holds

private theorem lookForCertificate_spec {poll : Poll} {hostname : String} :
    Spec env before (Journaled before recorded) (lookForCertificate poll hostname) fun _ =>
      Journaled before recorded := by
  unfold lookForCertificate
  apply Triple.getBind
  intro fields
  refine (require_spec fun s holds => holds.1).bind fun _ => ?_
  refine (cfApi_keeps.strengthen fun s holds => holds.1.1).bind fun _ => ?_
  exact Triple.ask fun s holds => holds

/-- It asserts that there is a zone. -/
theorem dnsByName_spec {name : String} :
    Spec env before (Journaled before recorded) (dnsByName name) fun _ s =>
      Journaled before recorded s ∧ (truthy recorded.zoneId).isSome := by
  unfold dnsByName
  apply Triple.getBind
  intro fields
  refine (require_spec fun s holds => holds.1).bind fun _ => ?_
  refine Triple.fact (fun s holds => ?_) fun (zoned : (truthy recorded.zoneId).isSome) => ?_
  · rw [← Holds.recorded holds.1.1, holds.1.2]
    exact holds.2
  refine (cfApi_keeps.strengthen fun s holds => holds.1.1).bind fun _ => ?_
  exact Triple.ask fun s holds => ⟨holds, zoned⟩

private theorem pollWorkerCertificate_spec {hostname : String} (left : Nat) :
    Spec env before (Journaled before recorded) (pollWorkerCertificate hostname left) fun _ =>
      Journaled before recorded := by
  induction left with
  | zero => exact fail_spec fun s holds => holds
  | succ left more =>
    unfold pollWorkerCertificate
    refine lookForCertificate_spec.bind fun found => ?_
    cases found with
    | none => exact more
    | some pack =>
      refine (require_spec fun s holds => holds).bind fun _ => ?_
      exact Triple.pure fun s holds => holds.1

/-- The fields once the account and the zone are known. -/
def located (account zone : String) : Recorded :=
  { Recorded.start with accountId := some account, zoneId := some zone }

/-- The run may go on to create a tunnel and a record. -/
def Ready (recorded : Recorded) : Prop :=
  (truthy recorded.accountId).isSome ∧ (truthy recorded.zoneId).isSome ∧
    recorded.tunnelId = none ∧ recorded.dnsRecordId = none

private theorem operations_dnsRecord (owned : (truthy (some zone)).isSome)
    (chosen : recorded.zoneId = some zone) (unset : recorded.dnsRecordId = none) :
    operations { recorded with dnsRecordId := some id } =
      (if id = "" then [] else [.dnsRecord zone id]) ++ operations recorded := by
  simp only [operations, unset, chosen, operation_none, operation_some owned, List.nil_append,
    List.append_assoc]

private theorem operations_tunnel (owned : (truthy (some account)).isSome)
    (chosen : recorded.accountId = some account) (unset : recorded.tunnelId = none)
    (later : recorded.dnsRecordId = none) :
    operations { recorded with tunnelId := some id } =
      (if id = "" then [] else [.tunnel account id]) ++ operations recorded := by
  simp only [operations, unset, later, chosen, operation_none, operation_some owned,
    List.nil_append, List.append_assoc]

private theorem operations_domain (owned : (truthy (some account)).isSome)
    (chosen : recorded.accountId = some account) (unset : recorded.workerDomainId = none)
    (later : recorded.tunnelId = none) (last : recorded.dnsRecordId = none) :
    operations { recorded with workerDomainId := some id } =
      (if id = "" then [] else [.workerDomain account id]) ++ operations recorded := by
  simp only [operations, unset, later, last, chosen, operation_none, operation_some owned,
    List.nil_append]

/-- It asserts that the account and the name are not empty. -/
theorem uploadWorker_spec {account name : String} (chosen : recorded.accountId = some account)
    (named : recorded.workerName = some name) (nothing : operations recorded = []) :
    Spec env before (Journaled before recorded) uploadWorker fun _ s =>
      Holds before recorded [.workerScript account name] s ∧
        (truthy (some account)).isSome ∧ (truthy (some name)).isSome := by
  unfold uploadWorker
  apply Triple.getBind
  intro state
  refine (require_spec fun s holds => holds.1).bind fun _ => ?_
  refine (step_spec fun s holds => holds.1.1).bind fun _ => ?_
  refine Triple.modify fun s holds => ?_
  obtain ⟨⟨journaled, rfl⟩, asserted⟩ := holds
  have same : s.recorded = recorded := Holds.recorded journaled
  simp only [id_eq, same, chosen, named, Bool.and_eq_true] at asserted
  have made := Holds.make journaled asserted.2 [.workerScript account name]
    (s.requested ++ [workerRequest account name])
  rw [nothing] at made
  simp only [same, chosen, named] at made ⊢
  exact ⟨made, asserted.1⟩

private theorem workerWorkaround_spec {hostname zoneName account zone : String} :
    Spec env before (Journaled before (located account zone)) (workerWorkaround hostname zoneName)
      fun _ s => ∃ recorded, Ready recorded ∧ Journaled before recorded s := by
  let name := s!"proxy-fw-{env.setupHex}"
  let named : Recorded := { located account zone with workerName := some name }
  let created : Recorded := { named with workerCreated := true }
  have nothing : operations named = operations (located account zone) := rfl
  unfold workerWorkaround
  apply Triple.getBind
  intro fields
  refine (require_spec fun s holds => holds.1).bind fun _ => ?_
  apply Triple.askBind
  refine (dnsByName_spec.strengthen fun s holds => holds.1.1).bind fun found => ?_
  refine Triple.ofAnd fun zoned => ?_
  refine (require_spec fun s holds => holds).bind fun _ => Triple.ofAnd fun _ => ?_
  refine (require_spec fun s holds => holds).bind fun _ => Triple.ofAnd fun _ => ?_
  refine oauthLogin_spec.bind fun _ => ?_
  refine cfApi_keeps.bind fun _ => ?_
  refine cfApi_keeps.bind fun _ => ?_
  refine (require_spec fun s holds => holds).bind fun _ => Triple.ofAnd fun _ => ?_
  refine @Triple.modifyBind _ _ _ _ _ _ _ _ _ (Journaled before named) _ (fun s holds => ?_) ?_
  · rw [Holds.recorded holds]
    exact holds.record nothing
  refine (require_spec fun s holds => holds).bind fun _ => Triple.ofAnd fun _ => ?_
  refine (uploadWorker_spec rfl rfl rfl).bind fun _ => Triple.ofAnd fun truths => ?_
  obtain ⟨chosen, given⟩ := truths
  have script : operations created = [.workerScript account name] := by
    change operation .workerScript (some name) (some account) = _
    rw [operation_some chosen, if_neg (truthy_isSome.mp given)]
  have unrecorded : env.Unrecorded (.keep .worker) := trivial
  refine (step_unrecorded unrecorded).bind fun _ => ?_
  refine @Triple.modifyBind _ _ _ _ _ _ _ _ _ (Journaled before created) _ (fun s holds => ?_) ?_
  · rw [holds.recorded]
    unfold Journaled
    rw [script, List.reverse_singleton]
    exact holds.record created
  have creates (request : Recorded → Request) : Spec env before (Journaled before created)
      (create .domain request env.domainId
        (fun recorded => .workerDomain (shown recorded.accountId) env.domainId)
      (fun recorded => { recorded with workerDomainId := some env.domainId })
      "Cloudflare returned no Worker domain ID.") fun _ => Journaled before
        { created with workerDomainId := some env.domainId } := by
    refine create_spec (fun present => present) ?_
    exact operations_domain chosen rfl rfl rfl rfl
  refine (creates _).bind fun _ => ?_
  exact (pollWorkerCertificate_spec _).weaken fun _ s holds =>
    ⟨{ created with workerDomainId := some env.domainId }, ⟨chosen, zoned, rfl, rfl⟩, holds⟩

/-! ### The run -/

theorem choose_mem {accounts : List Account} {answers : List Nat} {account : Account}
    (chosen : choose accounts answers = .ok account) : account ∈ accounts := by
  fun_induction choose accounts answers with
  | case1 => cases chosen
  | case2 only =>
    cases chosen
    exact List.mem_cons_self
  | case3 => cases chosen
  | case4 accounts answer answers _ _ found picked =>
    cases chosen
    split_ifs at picked
    exact List.mem_of_getElem? picked
  | case5 accounts answer answers _ _ picked again => exact again chosen

private theorem chooseDomain_spec (ids : ∀ account ∈ env.accounts, account.id ≠ "") :
    Spec env before (Journaled before Recorded.start) chooseDomain fun _ s =>
      ∃ recorded, Ready recorded ∧ Journaled before recorded s := by
  unfold chooseDomain
  apply Triple.askBind
  refine cfApi_keeps.bind fun _ => ?_
  refine (ofExcept_spec fun s holds => holds).bind fun account => Triple.ofAnd fun chosen => ?_
  have owned : (truthy (some account.id)).isSome :=
    truthy_isSome.mpr (ids account (choose_mem chosen))
  refine @Triple.modifyBind _ _ _ _ _ _ _ _ _
    (Journaled before { Recorded.start with accountId := some account.id }) _ (fun s holds => ?_) ?_
  · rw [Holds.recorded holds]
    exact holds.record rfl
  refine (ofExcept_spec fun s holds => holds).bind fun hostname => Triple.ofAnd fun _ => ?_
  refine cfApi_keeps.bind fun _ => ?_
  dsimp only [id_eq]
  cases matchZone (env.zones account.id) (plain hostname) with
  | none => exact fail_spec fun s holds => holds
  | some zone =>
    refine @Triple.modifyBind _ _ _ _ _ _ _ _ _ (Journaled before (located account.id zone.id)) _
      (fun s holds => ?_) ?_
    · rw [Holds.recorded holds]
      exact holds.record rfl
    refine (require_spec fun s holds => holds).bind fun _ => Triple.ofAnd fun _ => ?_
    refine dnsByName_spec.bind fun found => Triple.ofAnd fun zoned => ?_
    have ready : Ready (located account.id zone.id) := ⟨owned, zoned, rfl, rfl⟩
    refine (require_spec fun s holds => holds).bind fun _ => Triple.ofAnd fun _ => ?_
    refine lookForCertificate_spec.bind fun certificate => ?_
    cases certificate with
    | some pack =>
      refine (require_spec fun s holds => holds).bind fun _ => ?_
      exact Triple.pure fun s holds => ⟨_, ready, holds.1⟩
    | none =>
      dsimp only
      generalize relativeLabels (plain hostname) zone.name = labels
      split_ifs
      · exact workerWorkaround_spec.bind fun _ => Triple.pure fun s holds => holds
      · exact Triple.pure fun s holds => ⟨_, ready, holds⟩

private theorem createTunnel_spec {hostname : String} (ready : Ready recorded)
    (staged : before (stagedPath env .credentials) = none) :
    Spec env before (Journaled before recorded) (createTunnel hostname) fun _ s =>
      ∃ recorded, Journaled before recorded s := by
  obtain ⟨owned, zoned, tunnel_unset, record_unset⟩ := ready
  obtain ⟨account, chosen, owned⟩ := truthy_cases owned
  obtain ⟨zone, matched, zoned⟩ := truthy_cases zoned
  let tunneled := { recorded with tunnelId := some env.tunnelId }
  have tunnels (request : Recorded → Request) : Spec env before (Journaled before recorded)
      (create .tunnel request env.tunnelId
        (fun recorded => .tunnel (shown recorded.accountId) env.tunnelId)
      (fun recorded => { recorded with tunnelId := some env.tunnelId })
      "Cloudflare reported tunnel creation success but returned no tunnel ID.") fun _ =>
        Journaled before tunneled := by
    refine create_spec (fun present => present) ?_
    rw [operations_tunnel owned chosen tunnel_unset record_unset, chosen]
    rfl
  have records (request : Recorded → Request) : Spec env before (Journaled before tunneled)
      (create .dnsRecord request env.dnsRecordId
        (fun recorded => .dnsRecord (shown recorded.zoneId) env.dnsRecordId)
      (fun recorded => { recorded with dnsRecordId := some env.dnsRecordId })
      "Cloudflare reported DNS record creation success but returned no record ID.") fun _ =>
        Journaled before { tunneled with dnsRecordId := some env.dnsRecordId } := by
    refine create_spec (fun present => present) ?_
    rw [@operations_dnsRecord tunneled _ _ zoned matched record_unset]
    dsimp only [tunneled]
    rw [matched]
    rfl
  unfold createTunnel
  apply Triple.askBind
  refine cfApi_keeps.bind fun _ => ?_
  refine (require_spec fun s holds => holds).bind fun _ => Triple.ofAnd fun _ => ?_
  refine (tunnels _).bind fun _ => ?_
  apply Triple.getBind
  intro fields
  refine ((writeAtomic_spec staged).strengthen fun s holds => holds.1).bind fun _ => ?_
  exact (records _).weaken fun _ s holds => ⟨_, holds⟩

/-- No interrupt comes between the binding of the server and the start of its thread. -/
theorem startTestServer_spec : Spec env before (Journaled before recorded) startTestServer fun _ =>
    Journaled before recorded := by
  have unrecorded : env.Unrecorded .startThread := trivial
  unfold startTestServer
  refine (step_spec fun s holds => holds).bind fun _ => ?_
  refine @Triple.modifyBind _ _ _ _ _ _ _ _ _
    (fun s => Journaled before recorded { s with testServer := some true }) _
    (fun s holds => { holds with serving := by rintro ⟨⟩ }) ?_
  refine (step_unrecorded unrecorded).bind fun _ => ?_
  refine @Triple.modifyBind _ _ _ _ _ _ _ _ _ (Journaled before recorded) _
    (fun s holds => holds) ?_
  refine (step_spec fun s holds => holds).bind fun _ => ?_
  apply Triple.askBind
  refine (require_spec fun s holds => holds).bind fun _ => ?_
  exact Triple.pure fun s holds => holds.1

private theorem waitTunnel_spec (left : Nat) : Spec env before (Journaled before recorded)
    (waitTunnel left) fun _ => Journaled before recorded := by
  induction left with
  | zero => exact fail_spec fun s holds => holds
  | succ left more =>
    unfold waitTunnel
    refine cfApi_keeps.bind fun _ => ?_
    apply Triple.askBind
    split_ifs
    · exact Triple.pure fun s holds => holds
    · exact more

private theorem waitCertificate_spec {hostname : String} (left : Nat) :
    Spec env before (Journaled before recorded) (waitCertificate hostname left) fun _ =>
      Journaled before recorded := by
  induction left with
  | zero => exact fail_spec fun s holds => holds
  | succ left more =>
    unfold waitCertificate
    refine lookForCertificate_spec.bind fun found => ?_
    cases found with
    | none => exact more
    | some pack =>
      dsimp only
      split_ifs
      · exact Triple.pure fun s holds => holds
      · exact fail_spec fun s holds => holds
      · exact more

private theorem testTunnel_spec {hostname : String}
    (staged : before (stagedPath env .config) = none) :
    Spec env before (Journaled before recorded) (testTunnel hostname) fun _ =>
      Journaled before recorded := by
  unfold testTunnel
  apply Triple.askBind
  refine startTestServer_spec.bind fun port => ?_
  refine (writeAtomic_spec staged).bind fun _ => ?_
  refine (step_spec fun s holds => holds).bind fun _ => ?_
  refine (require_spec fun s holds => holds).bind fun _ => Triple.ofAnd fun _ => ?_
  refine (step_spec fun s holds => holds).bind fun _ => ?_
  refine @Triple.modifyBind _ _ _ _ _ _ _ _ _ (Journaled before recorded) _ (fun s holds => ?_) ?_
  · exact { holds with }
  dsimp only [id_eq]
  cases env.fwExit with
  | some code => exact fail_spec fun s holds => holds
  | none =>
    apply Triple.getBind
    intro fields
    refine (require_spec fun s holds => holds.1).bind fun _ => ?_
    refine ((waitTunnel_spec _).strengthen fun s holds => holds.1.1).bind fun _ => ?_
    refine (waitCertificate_spec _).bind fun _ => ?_
    exact step_spec fun s holds => holds

/-- The server stops, as its thread runs if there is one. -/
theorem stopProcesses_triple {raised : Halt → State → Prop} :
    Triple env (Holds before recorded made) stopProcesses (fun _ => Holds before recorded made)
      raised := by
  unfold stopProcesses
  refine @Triple.modifyBind _ _ _ _ _ _ _ _ _ (Holds before recorded made) _
    (fun s holds => { holds with }) ?_
  apply Triple.getBind
  intro server
  refine Triple.fact (fun s holds => ?_) fun (serving : server ≠ some false) => ?_
  · rw [← holds.2]
    exact holds.1.serving
  rw [if_neg serving]
  exact Triple.modify fun s holds => { holds.1 with serving := by rintro ⟨⟩ }

private theorem revokeEach_triple {raised : Halt → State → Prop}
    (sends : ∀ s token, p s → p { s with sent := s.sent ++ [.revoke token] })
    (failing : ∀ message s, p s → raised (.raised (some .revokeToken) message) s)
    (tokens : List String) : Triple env p (revokeEach tokens) (fun _ => p) raised := by
  induction tokens with
  | nil => exact Triple.pure fun s holds => holds
  | cons token rest more =>
    unfold revokeEach
    refine (step_triple fun message s _ holds => failing message s holds).bind fun _ => ?_
    exact Triple.modifyBind (fun s holds => sends s token holds.1) more

private theorem revokeTokens_triple {raised : Halt → State → Prop}
    (sends : ∀ s token, p s → p { s with sent := s.sent ++ [.revoke token] })
    (clears : ∀ s, p s → p { s with tokens := [], accessToken := none })
    (failing : ∀ message s, p s → raised (.raised (some .revokeToken) message) s) :
    Triple env p revokeTokens (fun _ => p) raised := by
  unfold revokeTokens
  apply Triple.getBind
  intro tokens
  refine ((revokeEach_triple sends failing tokens).strengthen fun s holds => holds.1).bind fun _ => ?_
  exact Triple.modify clears

theorem Holds.committed (holds : Holds before recorded made s) :
    Finished before { s with committed := true } := by
  refine ⟨rfl, fun path existed => ?_, fun resource token sent => ?_⟩
  · apply holds.files
    intro listed
    exact existed (holds.fresh path listed)
  · rw [holds.silent] at sent
    cases sent

theorem Finished.revoke (finished : Finished before s) (token : String) :
    Finished before { s with sent := s.sent ++ [.revoke token] } := by
  refine { finished with undeleted := fun resource other sent => ?_ }
  rcases List.mem_append.mp sent with earlier | new
  · exact finished.undeleted resource other earlier
  · cases List.mem_singleton.mp new

/-- Before the commit the run can be undone, after it there is nothing to undo. -/
theorem finishRun_spec : Spec env before (Journaled before recorded) finishRun fun _ =>
    Finished before := by
  unfold finishRun
  refine (step_spec fun s holds => holds).bind fun _ => ?_
  refine stopProcesses_triple.bind fun _ => ?_
  refine Triple.modifyBind (fun s holds => Holds.committed holds) ?_
  refine (revokeTokens_triple (fun s token finished => finished.revoke token)
    (fun s finished => { finished with }) fun _ s finished => .inr (.inr finished)).bind fun _ => ?_
  exact (step_triple fun _ s _ finished => .inr (.inr finished)).weaken fun _ s passed => passed.1

private theorem run_spec (names : ∀ path ∈ env.drawn, before path = none)
    (ids : ∀ account ∈ env.accounts, account.id ≠ "")
    (unlinked : env.fails .unlinkProbe = none) :
    Spec env before (Journaled before Recorded.start) run fun _ => Finished before := by
  simp only [Env.drawn, List.mem_cons, List.not_mem_nil, or_false, forall_eq_or_imp, forall_eq]
    at names
  obtain ⟨probe, download, install, credentials, config⟩ := names
  unfold run
  refine (step_spec fun s holds => holds).bind fun _ => ?_
  refine (validatePaths_spec probe unlinked).bind fun _ => ?_
  refine findArtifact_spec.bind fun _ => ?_
  refine oauthLogin_spec.bind fun _ => ?_
  refine (chooseDomain_spec ids).bind fun hostname => Triple.ofExists fun recorded => ?_
  refine Triple.fact (fun s holds => holds.1) fun ready => ?_
  refine ((installCloudflared_spec download install).strengthen fun s holds => holds.2).bind fun _ => ?_
  refine (createTunnel_spec ready credentials).bind fun _ => Triple.ofExists fun recorded => ?_
  refine (testTunnel_spec config).bind fun _ => ?_
  exact finishRun_spec

private theorem start_journaled : Journaled before Recorded.start (State.start before) where
  recorded := rfl
  created := rfl
  files := fun _ _ => rfl
  fresh := fun _ listed => absurd listed List.not_mem_nil
  signed := fun made => absurd rfl made
  serving := by rintro ⟨⟩
  uncommitted := rfl
  silent := rfl

/-! ### Recovery -/

/-- The requests of `rollback` are out, and all else is as the run has left it. -/
def Deleting (before : Path → Option Entry) (recorded : Recorded) (s : State) : Prop :=
  ∃ token, s.sent = (operations recorded).map (.delete · token) ∧
    (operations recorded ≠ [] → token ≠ "") ∧ Journaled before recorded { s with sent := [] }

theorem Journaled.deleting (journaled : Journaled before recorded s) {token : String}
    (named : operations recorded ≠ [] → token ≠ "") : Deleting before recorded
      { s with sent := s.sent ++ (operations s.recorded).map (.delete · token) } := by
  refine ⟨token, ?_, named, { journaled with silent := rfl }⟩
  dsimp only
  rw [Holds.silent journaled, Holds.recorded journaled, List.nil_append]

theorem Deleting.reverted (deleting : Deleting before recorded s) :
    Reverted before (operations recorded) { s with
      files := fun path => if path ∈ s.createdFiles ++ s.stagedFiles then none else s.files path } := by
  obtain ⟨token, sent, named, journaled⟩ := deleting
  refine ⟨funext fun path => ?_, token, [], ?_, named⟩
  · dsimp only
    split_ifs with listed
    · exact (Holds.fresh journaled path listed).symm
    · exact Holds.files journaled path listed
  · rw [List.map_nil, List.append_nil]
    exact sent

private theorem sendDeletes_triple {raised : Halt → State → Prop} :
    Triple env (Journaled before recorded) sendDeletes (fun _ => Deleting before recorded)
      raised := by
  unfold sendDeletes
  apply Triple.getBind
  intro token
  cases signed : truthy token with
  | none =>
    refine Triple.pure fun s holds => ?_
    have nothing : operations recorded = [] := by
      by_contra made
      have present := Holds.signed holds.1 (List.reverse_ne_nil_iff.mpr made)
      rw [holds.2, signed] at present
      cases present
    refine ⟨"", ?_, fun made => absurd nothing made, { holds.1 with silent := rfl }⟩
    rw [nothing, List.map_nil]
    exact Holds.silent holds.1
  | some token' =>
    exact Triple.modify fun s holds => holds.1.deleting fun _ => (truthy_eq_some.mp signed).2

private theorem rollback_triple {raised : Halt → State → Prop} :
    Triple env (Journaled before recorded) rollback
      (fun _ => Reverted before (operations recorded)) raised := by
  unfold rollback
  apply Triple.getBind
  intro committed
  refine Triple.fact (fun s holds => ?_) fun (uncommitted : ¬ committed = true) => ?_
  · rw [← holds.2, Holds.uncommitted holds.1]
    exact Bool.false_ne_true
  rw [if_neg uncommitted]
  refine (stopProcesses_triple.strengthen fun s holds => holds.1).bind fun _ => ?_
  exact sendDeletes_triple.bind fun _ => Triple.modify fun s deleting => deleting.reverted

theorem Reverted.revoke (reverted : Reverted before resources s) (token : String) :
    Reverted before resources { s with sent := s.sent ++ [.revoke token] } := by
  obtain ⟨files, deleter, revoked, sent, named⟩ := reverted
  refine ⟨files, deleter, revoked ++ [token], ?_, named⟩
  dsimp only
  rw [sent, List.map_append, List.append_assoc]
  rfl

/-- What is left to `recover` after `rollback` keeps what holds of it. -/
theorem recover_of_rollback {q : State → Prop} {raised : Halt → State → Prop}
    (rolls : ∀ raised, Triple env p rollback (fun _ => q) raised)
    (sends : ∀ s token, q s → q { s with sent := s.sent ++ [.revoke token] })
    (clears : ∀ s, q s → q { s with tokens := [], accessToken := none }) :
    Triple env p recover (fun _ => q) raised := by
  unfold recover
  refine (Triple.suppress (rolls _)).bind fun _ => Triple.suppress ?_
  refine revokeTokens_triple sends clears fun message s holds => ?_
  rw [if_pos (by rfl)]
  exact holds

private theorem recover_triple {raised : Halt → State → Prop} :
    Triple env (Journaled before recorded) recover
      (fun _ => Reverted before (operations recorded)) raised :=
  recover_of_rollback (fun _ => rollback_triple) (fun _ token reverted => reverted.revoke token)
    fun _ reverted => { reverted with }

/-- There is nothing to roll back after a commit. -/
theorem recover_finished {files : Path → Option Entry} {raised : Halt → State → Prop} :
    Triple env (fun s => Finished before s ∧ s.files = files) recover
      (fun _ s => Finished before s ∧ s.files = files) raised := by
  refine recover_of_rollback (fun _ => ?_)
    (fun _ token holds => ⟨holds.1.revoke token, holds.2⟩)
    fun _ holds => ⟨{ holds.1 with }, holds.2⟩
  unfold rollback
  apply Triple.getBind
  intro committed
  refine Triple.fact (fun s holds => ?_) fun (done : committed = true) => ?_
  · rw [← holds.2]
    exact holds.1.1.committed
  rw [if_pos done]
  exact Triple.pure fun s holds => holds.1

private theorem operation_cases (resource : String → String → Resource) (id owner : Option String) :
    operation resource id owner = [] ∨ ∃ o i, operation resource id owner = [resource o i] := by
  unfold operation
  split
  · exact .inr ⟨_, _, rfl⟩
  · exact .inl rfl

private theorem operations_nodup (recorded : Recorded) : (operations recorded).Nodup := by
  unfold operations
  rcases operation_cases .dnsRecord recorded.dnsRecordId recorded.zoneId with a | ⟨_, _, a⟩ <;>
  rcases operation_cases .tunnel recorded.tunnelId recorded.accountId with b | ⟨_, _, b⟩ <;>
  rcases operation_cases .workerDomain recorded.workerDomainId recorded.accountId
    with c | ⟨_, _, c⟩ <;>
  rcases operation_cases .workerScript recorded.workerName recorded.accountId
    with d | ⟨_, _, d⟩ <;>
  · rw [a, b, c, d]
    split_ifs <;> simp

private theorem deleted_sent (resources : List Resource) (token : String) (revoked : List String) :
    (resources.map (Sent.delete · token) ++ revoked.map Sent.revoke).filterMap Sent.deleted =
      resources := by
  rw [List.filterMap_append, List.filterMap_map, List.filterMap_map]
  have deletes : Sent.deleted ∘ (Sent.delete · token) = some := rfl
  have revokes : Sent.deleted ∘ Sent.revoke = fun _ => none := rfl
  rw [deletes, revokes]
  simp

/-- What a run has made is deleted once, with a token that is not revoked yet, nothing else
is deleted, and the files are as before. -/
structure Undone (before : Path → Option Entry) (s s' : State) : Prop where
  deleted : ∀ resource, (s'.sent.filterMap Sent.deleted).count resource =
    if resource ∈ s.created then 1 else 0
  signed : ∀ earlier later resource token, s'.sent = earlier ++ .delete resource token :: later →
    token ≠ "" ∧ .revoke token ∉ earlier
  files : s'.files = before

private theorem delete_notMem_revokes {resource : Resource} {token : String}
    (revoked : List String) :
    .delete resource token ∉ revoked.map Sent.revoke := by
  intro member
  obtain ⟨_, -, same⟩ := List.mem_map.mp member
  cases same

theorem Reverted.signed (reverted : Reverted before resources s) {earlier later : List Sent}
    {resource : Resource} {token : String}
    (sent : s.sent = earlier ++ .delete resource token :: later) :
    token ≠ "" ∧ .revoke token ∉ earlier := by
  obtain ⟨-, deleter, revoked, all, named⟩ := reverted
  rw [all] at sent
  have member : Sent.delete resource token ∈ earlier ++ .delete resource token :: later :=
    List.mem_append_right _ List.mem_cons_self
  rw [← sent] at member
  have deletes := (List.mem_append.mp member).resolve_right (delete_notMem_revokes revoked)
  obtain ⟨deleted, listed, same⟩ := List.mem_map.mp deletes
  cases same
  refine ⟨named (List.ne_nil_of_mem listed), fun early => ?_⟩
  rcases List.append_eq_append_iff.mp sent with ⟨rest, -, late⟩ | ⟨rest, first, -⟩
  · apply delete_notMem_revokes revoked
    rw [late]
    exact List.mem_append_right _ List.mem_cons_self
  · have revokes := List.mem_append_left rest early
    rw [← first] at revokes
    obtain ⟨_, -, same⟩ := List.mem_map.mp revokes
    cases same

theorem Reverted.undone (reverted : Reverted before (operations recorded) s')
    (journaled : Journaled before recorded s) : Undone before s s' := by
  refine ⟨fun resource => ?_, fun _ _ _ _ sent => reverted.signed sent, reverted.files⟩
  obtain ⟨-, token, revoked, all, -⟩ := reverted
  rw [all, deleted_sent, Holds.created journaled, (operations_nodup recorded).count]
  simp only [List.mem_reverse]

/-- **Recovery undoes the run.** Where a run of setup raises at a point that is not
between an effect and its record, `recover` returns; it deletes what the run has made and
restores the files, and it leaves a run alone that has committed. -/
theorem recover_undoes_run {site : Option Site} {message : String}
    (names : ∀ path ∈ env.drawn, before path = none)
    (ids : ∀ account ∈ env.accounts, account.id ≠ "")
    (unlinked : env.fails .unlinkProbe = none)
    (recorded : ∀ point, site = some point → ¬ env.Unrecorded point)
    (raised : run env (State.start before) = (.error (.raised site message), s)) :
    ∃ s', recover env s = (.ok (), s') ∧
      (s.committed = false → Undone before s s') ∧
      (s.committed = true → s'.files = s.files ∧
        (∀ resource token, .delete resource token ∉ s'.sent) ∧
        ∀ path, before path ≠ none → s'.files path = before path) := by
  have ended := (run_spec names ids unlinked).of_error start_journaled raised
  rcases ended with ⟨point, here, unrecorded⟩ | ⟨fields, journaled⟩ | finished
  · exact absurd unrecorded (recorded point here)
  · obtain ⟨_, s', recovered, reverted⟩ := recover_triple.returns journaled
    refine ⟨s', recovered, fun _ => reverted.undone journaled, fun committed => ?_⟩
    rw [Holds.uncommitted journaled] at committed
    cases committed
  · obtain ⟨_, s', recovered, after, files⟩ := recover_finished.returns ⟨finished, rfl⟩
    refine ⟨s', recovered, fun uncommitted => ?_, fun _ => ⟨files, after.undeleted, after.files⟩⟩
    rw [finished.committed] at uncommitted
    cases uncommitted

/-! ### Single runs -/

/-- A run of an account with one zone, in which every step succeeds. -/
def smoothEnv : Env where
  fails := fun _ => none
  lower := toAsciiLowercase
  sha256 := fun _ => "03f1"
  cfDir := "cf"
  setupHex := "00ff"
  probeHex := "01"
  downloadHex := "02"
  installHex := "03"
  stagedHex := fun target => if target = .config then "05" else "04"
  system := "linux"
  machine := "x86_64"
  artifact := some ⟨"cloudflared-linux-amd64", "03f1", "03f1", false⟩
  tokenReply := fun login => if login = .base then ⟨"first", "", ""⟩ else ⟨"second", "", ""⟩
  accounts := [⟨"a1", "account"⟩]
  accountAnswers := []
  hostnameLines := ["*.fw.example.com"]
  zones := fun _ => [⟨"z1", "example.com", "active"⟩]
  hasRecord := fun _ => false
  packs := fun poll => if poll = .first then [] else [⟨["*.fw.example.com"], "active", []⟩]
  approval := some "y"
  workers := []
  workerDomains := []
  domainId := "w1"
  downloaded := [1]
  member := []
  tunnels := []
  tunnelSecret := "secret"
  tunnelId := "t1"
  dnsRecordId := "d1"
  testPort := 40000
  testReply := (200, [111, 107])
  credentialsJson := fun _ _ _ => [2]
  configYaml := fun _ _ _ _ => [3]
  validation := 0
  fwExit := none
  tunnelStatus := fun _ => "healthy"

/-- The same with a step that fails. -/
def failingEnv (site : Site) : Env :=
  { smoothEnv with fails := fun other => if other = site then some "failed" else none }

/-- A directory with one file. -/
def directory : Path → Option Entry := fun path => if path = "cf/notes" then some .other else none

def failedRun (site : Site) : State := (run (failingEnv site) (State.start directory)).2

theorem failed_run_undone : (failedRun .testHttps).created =
      [.workerScript "a1" "proxy-fw-00ff", .workerDomain "a1" "w1", .tunnel "a1" "t1",
        .dnsRecord "z1" "d1"] ∧
    ∃ s', recover (failingEnv .testHttps) (failedRun .testHttps) = (.ok (), s') ∧
      Undone directory (failedRun .testHttps) s' := by
  refine ⟨by decide +kernel, ?_⟩
  have result := @recover_undoes_run (failingEnv .testHttps) directory (failedRun .testHttps)
    (some .testHttps) "failed" (by decide +kernel) (by decide +kernel) rfl
    (by rintro _ ⟨⟩; exact id) (Prod.ext (by decide +kernel) rfl)
  obtain ⟨s', recovered, undone, -⟩ := result
  exact ⟨s', recovered, undone (by decide +kernel)⟩

/-- The probe cannot be removed, and the first call of the API fails. -/
def probeEnv : Env :=
  { smoothEnv with fails := fun site =>
      if site = .unlinkProbe ∨ site = .listAccounts then some "failed" else none }

/-- Where the thread of the test server cannot be started, `recover` waits for its end
before it deletes anything; a probe that could not be removed stays; and so does what an
interrupt keeps from being recorded. -/
theorem unrecorded_effect_stays :
    (∃ s s', run (failingEnv .startThread) (State.start directory) =
        (.error (.raised (some .startThread) "failed"), s) ∧
      .tunnel "a1" "t1" ∈ s.created ∧
      recover (failingEnv .startThread) s = (.error .blocked, s') ∧ s'.sent = []) ∧
    (∃ s s', run probeEnv (State.start directory) =
        (.error (.raised (some .listAccounts) "failed"), s) ∧
      recover probeEnv s = (.ok (), s') ∧
      directory "cf/.write-01" = none ∧ s'.files "cf/.write-01" = some (.regular [])) ∧
    ∃ s s', run (failingEnv (.keep .tunnel)) (State.start directory) =
        (.error (.raised (some (.keep .tunnel)) "failed"), s) ∧
      .tunnel "a1" "t1" ∈ s.created ∧
      recover (failingEnv (.keep .tunnel)) s = (.ok (), s') ∧
      .tunnel "a1" "t1" ∉ s'.sent.filterMap Sent.deleted :=
  ⟨⟨failedRun .startThread, (recover (failingEnv .startThread) (failedRun .startThread)).2,
      Prod.ext (by decide +kernel) rfl, by decide +kernel, Prod.ext (by decide +kernel) rfl,
      by decide +kernel⟩,
    ⟨(run probeEnv (State.start directory)).2,
      (recover probeEnv (run probeEnv (State.start directory)).2).2,
      Prod.ext (by decide +kernel) rfl, Prod.ext (by decide +kernel) rfl, by decide +kernel,
      by decide +kernel⟩,
    ⟨failedRun (.keep .tunnel),
      (recover (failingEnv (.keep .tunnel)) (failedRun (.keep .tunnel))).2,
      Prod.ext (by decide +kernel) rfl, by decide +kernel, Prod.ext (by decide +kernel) rfl,
      by decide +kernel⟩⟩

end CfFw.SetupRun
