import CfFw.OAuthTokens
import CfFw.Program
import Mathlib.Data.List.MinMax
import Mathlib.Logic.Function.Basic

/-! `Setup.run` of the shell script with `rollback` and `recover`: what it creates in
the account and in the configuration directory, and what it records of that. Any step
may fail; the files and the replies of Cloudflare are read from an environment. -/
namespace CfFw.SetupRun
open Text

/-! ### Data -/

inductive Login where
  | base
  | workers
  deriving DecidableEq

/-- The files that the run leaves behind. -/
inductive Target where
  | cloudflared
  | credentials
  | config
  deriving DecidableEq

/-- `os.replace` and the two lines that record it. -/
inductive Placing where
  | replace
  | unstage
  | record
  deriving DecidableEq

/-- What the run creates in the account. -/
inductive Kind where
  | worker
  | domain
  | tunnel
  | dnsRecord
  deriving DecidableEq

/-- The lists of certificate packs: of the first look, while the Worker waits for its
certificate, and at the end. -/
inductive Poll where
  | first
  | worker (attempt : Nat)
  | final (attempt : Nat)
  deriving DecidableEq

/-- The points at which a step may raise before it has had an effect. An interrupt is
raised at the next one; `keep`, `unstage`, `record`, `leaveProbe` and `startThread`
are those that come after an effect and before its record. -/
inductive Site where
  | releaseConfiguration
  | fwPath
  | configDirectory
  | openProbe
  | leaveProbe
  | unlinkProbe
  | authorize (login : Login)
  | redeemCode (login : Login)
  | listAccounts
  | listZones
  | findRecords (name : String)
  | listPacks (poll : Poll)
  | listWorkers
  | listDomains
  | call (kind : Kind)
  | keep (kind : Kind)
  | checkInstalled
  | openDownload
  | openInstall
  | download
  | unpack
  | unlinkDownload
  | openStaged (target : Target)
  | writeStaged (target : Target)
  | chmod (target : Target)
  | place (target : Target) (part : Placing)
  | listTunnels
  | bindServer
  | startThread
  | askServer
  | validateConfig
  | startFw
  | askTunnel (attempt : Nat)
  | testHttps
  | stopProcesses
  | revokeToken
  | finish
  deriving DecidableEq

abbrev Path := String
abbrev Content := List UInt8

/-- What a path names; links and directories are `other`. -/
inductive Entry where
  | regular (content : Content)
  | other
  deriving DecidableEq

/-- What the paths of `rollback`'s requests name. -/
inductive Resource where
  | dnsRecord (zone id : String)
  | tunnel (account id : String)
  | workerDomain (account id : String)
  | workerScript (account name : String)
  deriving DecidableEq

/-- The requests that matter for a rollback. -/
inductive Sent where
  | delete (resource : Resource) (token : String)
  | revoke (token : String)
  deriving DecidableEq

/-- A value in the body of a request. -/
inductive Field where
  | text (value : String)
  | number (value : Nat)
  | flag (value : Bool)
  deriving DecidableEq

/-- A request that creates something: its method, its path and its JSON body. -/
structure Request where
  method : String
  path : String
  body : List (String × Field)
  deriving DecidableEq

structure Account where
  id : String
  name : String

structure Zone where
  id : String
  name : String
  status : String

structure Pack where
  hosts : List String
  status : String
  certificates : List String

/-- A Worker script as Cloudflare lists it. -/
structure Script where
  id : String
  name : String

/-- An entry of `ARTIFACTS`. -/
structure Artifact where
  asset : String
  assetHash : String
  binaryHash : String
  archive : Bool

/-- The identifiers that the run has recorded; `None` and the empty one are both false. -/
structure Recorded where
  accountId : Option String
  zoneId : Option String
  tunnelId : Option String
  dnsRecordId : Option String
  workerName : Option String
  workerDomainId : Option String
  workerCreated : Bool
  deriving DecidableEq

/-- The fields of `Setup`, the files, what exists in the account because of the run, the
requests that have created it, and those that delete or revoke. `testServer` says of the
bound server whether its thread runs, and `fwProcess` whether that field is set: the
processes themselves are not here. -/
structure State where
  files : Path → Option Entry
  createdFiles : List Path
  stagedFiles : List Path
  tokens : List String
  accessToken : Option String
  recorded : Recorded
  testServer : Option Bool
  fwProcess : Bool
  committed : Bool
  created : List Resource
  requested : List Request
  sent : List Sent

/-- What a run meets: which steps fail, what is drawn and typed, and what the other side
replies. An identifier that a reply leaves out is empty. -/
structure Env where
  fails : Site → Option String
  lower : String → String
  sha256 : Content → String
  cfDir : Path
  setupHex : String
  probeHex : String
  downloadHex : String
  installHex : String
  stagedHex : Target → String
  system : String
  machine : String
  artifact : Option Artifact
  tokenReply : Login → OAuth.TokenReply
  accounts : List Account
  accountAnswers : List Nat
  hostnameLines : List String
  zones : String → List Zone
  hasRecord : String → Bool
  packs : Poll → List Pack
  approval : Option String
  workers : List Script
  workerDomains : List String
  domainId : String
  downloaded : Content
  member : Content
  tunnels : List String
  tunnelSecret : String
  tunnelId : String
  dnsRecordId : String
  testPort : UInt16
  testReply : Nat × Content
  credentialsJson : String → String → String → Content
  configYaml : String → Path → String → UInt16 → Content
  validation : Int
  fwExit : Option Int
  tunnelStatus : Nat → String

def Recorded.start : Recorded := ⟨none, none, none, none, none, none, false⟩

def State.start (files : Path → Option Entry) : State :=
  ⟨files, [], [], [], none, Recorded.start, none, false, false, [], [], []⟩

/-- How a run ends early: the step at a site or a check of the code raises, or a call never
returns. -/
inductive Halt where
  | raised (site : Option Site) (message : String)
  | blocked
  deriving DecidableEq

abbrev Setup := Program Env State Halt

open Program

/-! ### Steps -/

def fail {α : Type} (message : String) : Setup α := raise (.raised none message)

def step (site : Site) : Setup Unit := do
  match ← ask (Env.fails · site) with
  | none => Pure.pure ()
  | some message => raise (.raised (some site) message)

def require (condition : Bool) (message : String) : Setup Unit :=
  if condition then Pure.pure () else fail message

/-- An `assert`. -/
def assert (condition : Bool) : Setup Unit := require condition ""

/-- A string that is true in Python. -/
def truthy (text : Option String) : Option String := text.filter (· ≠ "")

def fileExists (path : Path) : String := s!"[Errno 17] File exists: '{path}'"

/-- `os.open` with `O_EXCL`, closed again. -/
def openExclusive (site : Site) (path : Path) (message : String) : Setup Unit := do
  step site
  let files ← get State.files
  require (files path).isNone message
  modify fun s => { s with files := Function.update s.files path (some (.regular [])) }

def writeFile (site : Site) (path : Path) (content : Content) : Setup Unit := do
  step site
  modify fun s => { s with files := Function.update s.files path (some (.regular content)) }

def unlink (site : Site) (path : Path) : Setup Unit := do
  step site
  modify fun s => { s with files := Function.update s.files path none }

/-- `os.replace`, `staged_files.remove` and `created_files.append`. -/
def placeFile (target : Target) (staged destination : Path) : Setup Unit := do
  step (.place target .replace)
  modify fun s => { s with
    files := Function.update (Function.update s.files staged none) destination (s.files staged) }
  step (.place target .unstage)
  modify fun s => { s with stagedFiles := s.stagedFiles.erase staged }
  step (.place target .record)
  modify fun s => { s with createdFiles := s.createdFiles ++ [destination] }

/-- `cf_api` up to its reply. -/
def cfApi (site : Site) : Setup Unit := do
  let token ← get State.accessToken
  require (truthy token).isSome "Cloudflare access token is unavailable."
  step site

/-- What an f-string shows of a field. -/
def shown (field : Option String) : String := field.getD "None"

/-- A call that creates something, the field that its identifier goes to, and the check
of the identifier. -/
def create (kind : Kind) (request : Recorded → Request) (id : String)
    (resource : Recorded → Resource) (record : Recorded → Recorded) (message : String) :
    Setup Unit := do
  cfApi (.call kind)
  modify fun s => { s with
    created := s.created ++ if id = "" then [] else [resource s.recorded]
    requested := s.requested ++ [request s.recorded] }
  step (.keep kind)
  modify fun s => { s with recorded := record s.recorded }
  require (id ≠ "") message

/-! ### The parts of the run -/

def Login.scopes : Login → List String
  | .base => OAuth.baseScopes
  | .workers => OAuth.baseScopes ++ [OAuth.workersScope]

/-- `oauth_login`; how it ends is `OAuth.oauthLogin`. -/
def oauthLogin (login : Login) : Setup Unit := do
  step (.authorize login)
  step (.redeemCode login)
  let reply ← ask (Env.tokenReply · login)
  let ended := OAuth.oauthLogin login.scopes reply
  modify fun s => { s with
    accessToken := ended.1.orElse fun _ => s.accessToken
    tokens := s.tokens ++ ended.1.toList }
  match ended.2 with
  | .ok () => Pure.pure ()
  | .error message => fail message

def configPath (env : Env) : Path := s!"{env.cfDir}/config.yml"
def cloudflaredPath (env : Env) : Path := s!"{env.cfDir}/cloudflared"
def credentialsPath (env : Env) : Path := s!"{env.cfDir}/credentials-{env.tunnelId}.json"
def probePath (env : Env) : Path := s!"{env.cfDir}/.write-{env.probeHex}"
def downloadPath (env : Env) : Path := s!"{env.cfDir}/.cloudflared-download-{env.downloadHex}"
def installPath (env : Env) : Path := s!"{env.cfDir}/.cloudflared-install-{env.installHex}"
def stagedPath (env : Env) (target : Target) : Path :=
  s!"{env.cfDir}/.fw-file-{env.stagedHex target}"

/-- The probe of `validate_paths`: errors of its `unlink` are suppressed. -/
def probe : Setup Unit := do
  let env ← ask id
  let path := probePath env
  let cleanup : Setup Unit := do
    step .leaveProbe
    (unlink .unlinkProbe path).suppress fun halt => halt ≠ .blocked
  (openExclusive .openProbe path s!"FW cannot write to {env.cfDir}: {fileExists path}").ensuring
    cleanup

def validatePaths : Setup Unit := do
  step .fwPath
  step .configDirectory
  probe
  let config ← ask configPath
  let files ← get State.files
  require (files config).isNone s!"FW will not overwrite the existing configuration: {config}"

def findArtifact : Setup Artifact := do
  let env ← ask id
  match env.artifact with
  | some artifact => Pure.pure artifact
  | none =>
    fail (s!"No pinned cloudflared checksum is available for {env.system}/{env.machine}; " ++
      "refusing an unverified download.")

def downloadCloudflared (artifact : Artifact) : Setup Unit := do
  let env ← ask id
  let download := downloadPath env
  let staged := installPath env
  modify fun s => { s with stagedFiles := s.stagedFiles ++ [download, staged] }
  openExclusive .openDownload download (fileExists download)
  openExclusive .openInstall staged (fileExists staged)
  writeFile .download download env.downloaded
  let actual := env.sha256 env.downloaded
  require (actual = artifact.assetHash)
    s!"cloudflared integrity check failed. Expected {artifact.assetHash}, received {actual}."
  let binary := if artifact.archive then env.member else env.downloaded
  writeFile .unpack staged binary
  let binaryActual := env.sha256 binary
  require (binaryActual = artifact.binaryHash)
    (s!"Extracted cloudflared integrity check failed. Expected {artifact.binaryHash}, " ++
      s!"received {binaryActual}.")
  step (.chmod .cloudflared)
  placeFile .cloudflared staged (cloudflaredPath env)
  unlink .unlinkDownload download
  modify fun s => { s with stagedFiles := s.stagedFiles.erase download }

def installCloudflared : Setup Unit := do
  let artifact ← findArtifact
  let env ← ask id
  let path := cloudflaredPath env
  let files ← get State.files
  step .checkInstalled
  match files path with
  | some .other => fail s!"Existing cloudflared path is not a regular file: {path}"
  | some (.regular content) => do
    require (env.sha256 content = artifact.binaryHash)
      ("An existing cloudflared binary has an unexpected SHA-256 hash. " ++
        s!"FW will not overwrite it: {path}")
    step (.chmod .cloudflared)
  | none => downloadCloudflared artifact

def writeAtomic (target : Target) (destination : Path) (content : Content) : Setup Unit := do
  let files ← get State.files
  require (files destination).isNone s!"FW will not overwrite the existing file: {destination}"
  let staged ← ask (stagedPath · target)
  modify fun s => { s with stagedFiles := s.stagedFiles ++ [staged] }
  openExclusive (.openStaged target) staged (fileExists staged)
  writeFile (.writeStaged target) staged content
  step (.chmod target)
  placeFile target staged destination

/-- `choose` on the numbers that are typed, `0` for what is not one, until the interrupt
that ends them. -/
def choose : List Account → List Nat → Except String Account
  | [], _ => .error "No Cloudflare accounts are available to this authorization."
  | [account], _ => .ok account
  | _, [] => .error ""
  | accounts, answer :: answers =>
    match if answer = 0 then none else accounts[answer - 1]? with
    | some account => .ok account
    | none => choose accounts answers

def ofExcept {α : Type} : Except String α → Setup α
  | .ok a => Pure.pure a
  | .error message => fail message

def failureStates : List String :=
  ["validation_timed_out", "issuance_timed_out", "deployment_timed_out", "deletion_timed_out",
    "initializing_timed_out"]

def findCertificate (lower : String → String) (packs : List Pack) (hostname : String) :
    Option Pack :=
  packs.find? fun pack => pack.hosts.any (lower · = lower hostname)

def certificateActive (pack : Pack) : Bool :=
  pack.status = "active" || pack.certificates.any (· = "active")

def certificateFailed (pack : Pack) : Bool :=
  failureStates.contains pack.status || pack.certificates.any failureStates.contains

/-- `certificate_packs` and `find_certificate`. -/
def lookForCertificate (poll : Poll) (hostname : String) : Setup (Option Pack) := do
  let recorded ← get State.recorded
  assert (truthy recorded.zoneId).isSome
  cfApi (.listPacks poll)
  ask fun env => findCertificate env.lower (env.packs poll) hostname

/-- `dns_by_name`, which is only asked whether it has found something. -/
def dnsByName (name : String) : Setup Bool := do
  let recorded ← get State.recorded
  assert (truthy recorded.zoneId).isSome
  cfApi (.findRecords name)
  ask (Env.hasRecord · name)

/-- `yes_no`; the input may end before an answer. -/
def yesNo (lower : String → String) : Option String → Bool
  | some answer => ["", "y", "yes"].contains (lower (strip answer))
  | none => false

def workerCompatibilityDate : String := "2026-09-17"

/-- The upload of `upload_worker` without the code, which is the same for every Worker. -/
def workerRequest (account name : String) : Request where
  method := "PUT"
  path := s!"/accounts/{account}/workers/scripts/{name}"
  body := [("main_module", .text "worker.js"),
    ("compatibility_date", .text workerCompatibilityDate)]

def domainRequest (account hostname service zone zoneName : String) : Request where
  method := "PUT"
  path := s!"/accounts/{account}/workers/domains"
  body := [("hostname", .text hostname), ("service", .text service), ("zone_id", .text zone),
    ("zone_name", .text zoneName)]

def tunnelRequest (account name secret : String) : Request where
  method := "POST"
  path := s!"/accounts/{account}/cfd_tunnel"
  body := [("name", .text name), ("config_src", .text "local"), ("tunnel_secret", .text secret)]

def recordRequest (zone hostname tunnel : String) : Request where
  method := "POST"
  path := s!"/zones/{zone}/dns_records"
  body := [("type", .text "CNAME"), ("name", .text hostname),
    ("content", .text s!"{tunnel}.cfargotunnel.com"), ("proxied", .flag true), ("ttl", .number 1)]

def uploadWorker : Setup Unit := do
  let s ← get id
  assert ((truthy s.recorded.accountId).isSome && (truthy s.recorded.workerName).isSome &&
    (truthy s.accessToken).isSome)
  step (.call .worker)
  modify fun s => { s with
    created := s.created ++
      [.workerScript (shown s.recorded.accountId) (shown s.recorded.workerName)]
    requested := s.requested ++
      [workerRequest (shown s.recorded.accountId) (shown s.recorded.workerName)] }

def workerCertificateAttempts : Nat := 4
def certificatePollAttempts : Nat := 40

/-- The loop at the end of `worker_workaround`, with the attempts that are left. -/
def pollWorkerCertificate (hostname : String) : Nat → Setup Pack
  | 0 =>
    fail ("The Worker domain was created, but Cloudflare did not create the requested wildcard " ++
      "certificate. Use Advanced Certificate Manager and try again.")
  | left + 1 => do
    match ← lookForCertificate (.worker (workerCertificateAttempts - left)) hostname with
    | some pack => do
      require (!certificateFailed pack)
        s!"The Worker approach created a certificate pack in a failed state: {pack.status}."
      Pure.pure pack
    | none => pollWorkerCertificate hostname left

/-- `hostname[2:]`. -/
def plain (hostname : String) : String := String.ofList (hostname.toList.drop 2)

def workerWorkaround (hostname zoneName : String) : Setup Pack := do
  let recorded ← get State.recorded
  assert ((truthy recorded.accountId).isSome && (truthy recorded.zoneId).isSome)
  let env ← ask id
  let custom := plain hostname
  let found ← dnsByName custom
  require (!found)
    (s!"A DNS record already exists for {custom}, which conflicts with the Worker certificate " ++
      "workaround.")
  require (yesNo env.lower env.approval)
    ("Setup stopped. Create the required wildcard certificate with Advanced Certificate " ++
      "Manager, then run setup again.")
  oauthLogin .workers
  cfApi .listWorkers
  cfApi .listDomains
  require (!env.workerDomains.any (env.lower · = env.lower custom))
    s!"A Worker custom domain already exists for {custom}. FW will not overwrite it."
  let name := s!"proxy-fw-{env.setupHex}"
  modify fun s => { s with recorded := { s.recorded with workerName := some name } }
  require (!env.workers.any fun script => script.id = name || script.name = name)
    s!"The generated Worker name already exists: {name}. Run setup again."
  uploadWorker
  step (.keep .worker)
  modify fun s => { s with recorded := { s.recorded with workerCreated := true } }
  create .domain
    (fun recorded => domainRequest (shown recorded.accountId) custom (shown recorded.workerName)
      (shown recorded.zoneId) zoneName)
    env.domainId (fun recorded => .workerDomain (shown recorded.accountId) env.domainId)
    (fun recorded => { recorded with workerDomainId := some env.domainId })
    "Cloudflare returned no Worker domain ID."
  pollWorkerCertificate hostname workerCertificateAttempts

/-- The zone whose name is a suffix of the domain, the longest one. -/
def matchZone (zones : List Zone) (domain : String) : Option Zone :=
  (zones.filter fun zone => zone.status = "active" &&
    (domain = zone.name || (stripSuffix domain s!".{zone.name}").isSome)).argmax
      fun zone => zone.name.length

/-- `relative_labels`. -/
def relativeLabels (domain zoneName : String) : Nat :=
  match stripSuffix domain s!".{zoneName}" with
  | some relative => if relative = "" then 0 else (split relative '.').length
  | none => 0

/-- From the accounts to the certificate that the domain has. -/
def chooseDomain : Setup String := do
  let env ← ask id
  cfApi .listAccounts
  let account ← ofExcept (choose env.accounts env.accountAnswers)
  modify fun s => { s with recorded := { s.recorded with accountId := some account.id } }
  let hostname ← ofExcept (readHostname env.lower env.hostnameLines).1
  cfApi .listZones
  match matchZone (env.zones account.id) (plain hostname) with
  | none => fail "No active Cloudflare zone in the selected account matches that domain."
  | some zone => do
    modify fun s => { s with recorded := { s.recorded with zoneId := some zone.id } }
    let labels := relativeLabels (plain hostname) zone.name
    require (labels ≤ 2)
      "The wildcard domain may be at most three levels deep relative to its Cloudflare zone."
    let found ← dnsByName hostname
    require (!found) s!"A DNS record already exists for {hostname}. FW will not overwrite it."
    let certificate ← lookForCertificate .first hostname
    match certificate with
    | some pack => do
      require (!certificateFailed pack)
        s!"The existing certificate for {hostname} is in a failed state: {pack.status}."
      Pure.pure hostname
    | none =>
      if labels = 1 ∨ labels = 2 then do
        let _ ← workerWorkaround hostname zone.name
        Pure.pure hostname
      else Pure.pure hostname

/-- From the list of tunnels to the DNS record. -/
def createTunnel (hostname : String) : Setup Unit := do
  let env ← ask id
  cfApi .listTunnels
  let name := s!"tunnel-fw-{env.setupHex}"
  require (!env.tunnels.any (· = name))
    s!"The generated tunnel name already exists: {name}. Run setup again."
  create .tunnel
    (fun recorded => tunnelRequest (shown recorded.accountId) name env.tunnelSecret)
    env.tunnelId (fun recorded => .tunnel (shown recorded.accountId) env.tunnelId)
    (fun recorded => { recorded with tunnelId := some env.tunnelId })
    "Cloudflare reported tunnel creation success but returned no tunnel ID."
  let recorded ← get State.recorded
  writeAtomic .credentials (credentialsPath env)
    (env.credentialsJson (shown recorded.accountId) env.tunnelSecret env.tunnelId)
  create .dnsRecord
    (fun recorded => recordRequest (shown recorded.zoneId) hostname (shown recorded.tunnelId))
    env.dnsRecordId (fun recorded => .dnsRecord (shown recorded.zoneId) env.dnsRecordId)
    (fun recorded => { recorded with dnsRecordId := some env.dnsRecordId })
    "Cloudflare reported DNS record creation success but returned no record ID."

def startTestServer : Setup UInt16 := do
  step .bindServer
  modify fun s => { s with testServer := some false }
  step .startThread
  modify fun s => { s with testServer := some true }
  step .askServer
  let env ← ask id
  require (env.testReply = (200, [111, 107]))
    "The local test server returned an unexpected response."
  Pure.pure env.testPort

/-- `stop_processes`, of which `SetupProcesses` has the signals and the waits: here the
field is cleared, and `shutdown` waits for the end of a `serve_forever` that may never have
begun. -/
def stopProcesses : Setup Unit := do
  modify fun s => { s with fwProcess := false }
  let server ← get State.testServer
  if server = some false then raise .blocked
  else modify fun s => { s with testServer := none }

/-- `wait_tunnel`, with the attempts that are left. -/
def waitTunnel : Nat → Setup Unit
  | 0 => fail "The Cloudflare Tunnel did not connect in time."
  | left + 1 => do
    cfApi (.askTunnel (20 - left))
    let status ← ask (Env.tunnelStatus · (20 - left))
    if status = "healthy" ∨ status = "degraded" then Pure.pure () else waitTunnel left

/-- `wait_certificate`, with the attempts that are left. -/
def waitCertificate (hostname : String) : Nat → Setup Unit
  | 0 => fail "The wildcard certificate was not active after 10 minutes."
  | left + 1 => do
    match ← lookForCertificate (.final (certificatePollAttempts - left)) hostname with
    | none => waitCertificate hostname left
    | some pack =>
      if certificateActive pack then Pure.pure ()
      else if certificateFailed pack then
        fail s!"Certificate provisioning failed with status '{pack.status}'."
      else waitCertificate hostname left

/-- From the test server to the HTTPS test. -/
def testTunnel (hostname : String) : Setup Unit := do
  let env ← ask id
  let port ← startTestServer
  writeAtomic .config (configPath env)
    (env.configYaml env.tunnelId (credentialsPath env) hostname port)
  step .validateConfig
  require (env.validation = 0) "cloudflared rejected the generated config.yml."
  step .startFw
  modify fun s => { s with fwProcess := true }
  match env.fwExit with
  | some code => fail s!"FW start exited unexpectedly with code {code}."
  | none => do
    let recorded ← get State.recorded
    assert ((truthy recorded.accountId).isSome && (truthy recorded.tunnelId).isSome)
    waitTunnel 20
    waitCertificate hostname certificatePollAttempts
    step .testHttps

def revokeEach : List String → Setup Unit
  | [] => Pure.pure ()
  | token :: rest => do
    step .revokeToken
    modify fun s => { s with sent := s.sent ++ [.revoke token] }
    revokeEach rest

/-- `revoke_tokens`; the errors of a request are suppressed, an interrupt is not. -/
def revokeTokens : Setup Unit := do
  let tokens ← get State.tokens
  revokeEach tokens
  modify fun s => { s with tokens := [], accessToken := none }

def finishRun : Setup Unit := do
  step .stopProcesses
  stopProcesses
  modify fun s => { s with committed := true }
  revokeTokens
  step .finish

/-- `Setup.run`. -/
def run : Setup Unit := do
  step .releaseConfiguration
  validatePaths
  let _ ← findArtifact
  oauthLogin .base
  let hostname ← chooseDomain
  installCloudflared
  createTunnel hostname
  testTunnel hostname
  finishRun

/-! ### Recovery -/

/-- One entry of `operations`, for an identifier and the zone or account it belongs to. -/
def operation (resource : String → String → Resource) (id owner : Option String) : List Resource :=
  match truthy id, truthy owner with
  | some id, some owner => [resource owner id]
  | _, _ => []

/-- The paths of the requests of `rollback`, in order. -/
def operations (recorded : Recorded) : List Resource :=
  operation .dnsRecord recorded.dnsRecordId recorded.zoneId ++
  operation .tunnel recorded.tunnelId recorded.accountId ++
  operation .workerDomain recorded.workerDomainId recorded.accountId ++
  if recorded.workerCreated then operation .workerScript recorded.workerName recorded.accountId
  else []

/-- The requests of `rollback`, which may fail. -/
def sendDeletes : Setup Unit := do
  let token ← get State.accessToken
  match truthy token with
  | none => Pure.pure ()
  | some token => modify fun s => { s with
      sent := s.sent ++ (operations s.recorded).map (.delete · token) }

/-- `rollback`, whose `unlink` calls succeed. -/
def rollback : Setup Unit := do
  let committed ← get State.committed
  if committed then Pure.pure ()
  else do
    stopProcesses
    sendDeletes
    modify fun s => { s with
      files := fun path => if path ∈ s.createdFiles ++ s.stagedFiles then none else s.files path }

/-- `recover`, which goes on after whatever is raised. -/
def recover : Setup Unit := do
  rollback.suppress fun halt => halt ≠ .blocked
  revokeTokens.suppress fun halt => halt ≠ .blocked

end CfFw.SetupRun
