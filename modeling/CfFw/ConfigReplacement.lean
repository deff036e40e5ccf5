import CfFw.NormalizeContract
import Mathlib.Logic.Function.Basic

/-! Installing the normalised configuration, from `cloudflare_config.rs`: the
temporary candidate, the validator and the rename, over a file system whose every
call may fail. The world remembers each state the file system was in. -/
namespace CfFw
open Text

def cloudflaredFilename : String := "cloudflared"
def cloudflareConfigFilename : String := "config.yml"

/-! ### Paths and files -/

/-- `std::path::Path`, of normal components. -/
structure FilePath where
  absolute : Bool
  components : List String
  deriving DecidableEq

namespace FilePath

/-- `Path::parent`. -/
def parent (path : FilePath) : Option FilePath :=
  if path.components = [] then none else some { path with components := path.components.dropLast }

/-- `Path::file_name`. -/
def fileName (path : FilePath) : Option String := path.components.getLast?

/-- `Path::join` with one component. -/
def join (path : FilePath) (name : String) : FilePath :=
  { path with components := path.components ++ [name] }

/-- `Path::display`. -/
def display (path : FilePath) : String :=
  (if path.absolute then "/" else "") ++ "/".intercalate path.components

end FilePath

/-- What a path names. -/
inductive Node where
  | file (contents : List UInt8)
  | directory
  | link (target : FilePath)
  deriving DecidableEq

/-- The files by path. -/
abbrev FileSystem := FilePath → Option Node

/-- The file system now and in all its earlier states, and `TEMP_SEQUENCE`. -/
structure DiskWorld where
  files : FileSystem
  visited : List FileSystem
  sequence : UInt64

/-- A new state of the file system. -/
def DiskWorld.change (world : DiskWorld) (files : FileSystem) : DiskWorld :=
  { world with files, visited := world.visited ++ [world.files] }

/-- `std::io::Error`. -/
structure IoError where
  kind : ErrorKind
  details : String
  deriving DecidableEq

/-- `From<std::io::Error> for FwError`. -/
def IoError.toFwError (error : IoError) : FwError := .io error.kind error.details

/-- How the validator's process went: it did not run or could not be waited for,
or it exited. -/
inductive ValidatorRun where
  | failed (error : FwError)
  | exited (success : Bool) (output : String)

/-- What may go wrong outside, call by call. Opening a candidate is counted by
attempts; a failed write leaves some of the bytes. -/
structure Outcomes where
  metadata : FilePath → Option IoError
  setupEligible : Bool
  read : Option IoError
  create : Nat → Option IoError
  write : Option (Nat × IoError)
  flush : Option IoError
  sync : Option IoError
  validator : ValidatorRun
  rename : Option IoError

/-! ### Calls of the file system -/

/-- What a path leads to, over so many links. -/
def followLinks (files : FileSystem) : Nat → FilePath → Option Node
  | 0, _ => none
  | hops + 1, path =>
    match files path with
    | some (.link target) => followLinks files hops target
    | node => node

/-- `fs::metadata`, as far as it tells a file from a directory. -/
def metadata (outcomes : Outcomes) (world : DiskWorld) (path : FilePath) : Option Node :=
  match outcomes.metadata path with
  | some _ => none
  | none => followLinks world.files 40 path

/-- `fs::read_to_string`. -/
def readToString (outcomes : Outcomes) (world : DiskWorld) (path : FilePath) : Result String :=
  match outcomes.read with
  | some error => .error error.toFwError
  | none =>
    match followLinks world.files 40 path with
    | some (.file contents) =>
      match String.fromUTF8? contents.toByteArray with
      | some text => .ok text
      | none => .error (.io .invalidData "stream did not contain valid UTF-8")
    | some _ => .error (.io .other "Is a directory (os error 21)")
    | none => .error (.io .notFound "No such file or directory (os error 2)")

/-- `OpenOptions::open` with `create_new`: any entry at the path is in the way. -/
def createNew (outcomes : Outcomes) (attempt : Nat) (world : DiskWorld) (path : FilePath) :
    Except IoError Unit × DiskWorld :=
  match outcomes.create attempt with
  | some error => (.error error, world)
  | none =>
    if (world.files path).isSome then
      (.error ⟨.alreadyExists, "File exists (os error 17)"⟩, world)
    else (.ok (), world.change (Function.update world.files path (some (.file []))))

/-- `fs::remove_file` of a file this process created, which succeeds. -/
def removeFile (world : DiskWorld) (path : FilePath) : DiskWorld :=
  world.change (Function.update world.files path none)

/-- `platform::atomic_replace`: one step that either happens or does not. -/
def atomicReplace (outcomes : Outcomes) (source destination : FilePath) (world : DiskWorld) :
    Result Unit × DiskWorld :=
  match outcomes.rename with
  | some error => (.error error.toFwError, world)
  | none =>
    match world.files source, world.files destination with
    | none, _ => (.error (.io .notFound "No such file or directory (os error 2)"), world)
    | some _, some .directory => (.error (.io .other "Is a directory (os error 21)"), world)
    | some node, _ =>
      (.ok (), world.change
        (Function.update (Function.update world.files destination (some node)) source none))

/-- `cloudflare_config.rs::write_and_flush`, to the file at a path. -/
def writeAndFlush (outcomes : Outcomes) (path : FilePath) (contents : List UInt8)
    (world : DiskWorld) : Result Unit × DiskWorld :=
  let written (bytes : List UInt8) :=
    world.change (Function.update world.files path (some (.file bytes)))
  match outcomes.write with
  | some (count, error) => (.error error.toFwError, written (contents.take count))
  | none =>
    match outcomes.flush with
    | some error => (.error error.toFwError, written contents)
    | none =>
      match outcomes.sync with
      | some error => (.error error.toFwError, written contents)
      | none => (.ok (), written contents)

/-! ### The candidate -/

/-- `cloudflare_config.rs::TempCandidate`. -/
structure TempCandidate where
  path : FilePath
  armed : Bool
  deriving DecidableEq

namespace TempCandidate

/-- The name of the candidate with a sequence number. -/
def name (filename : String) (processId : UInt32) (sequence : UInt64) : String :=
  s!".{filename}.{processId}.{sequence}.tmp"

/-- The loop of `TempCandidate::create`, from one attempt on. -/
def createFrom (outcomes : Outcomes) (processId : UInt32) (parent : FilePath) (filename : String)
    (contents : List UInt8) : Nat → Nat → DiskWorld → Result TempCandidate × DiskWorld
  | 0, _, world =>
    (.error (.other "could not create a unique temporary Cloudflare config"), world)
  | remaining + 1, attempt, world =>
    let candidate := parent.join (name filename processId world.sequence)
    let world := { world with sequence := world.sequence + 1 }
    match createNew outcomes attempt world candidate with
    | (.ok (), world) =>
      match writeAndFlush outcomes candidate contents world with
      | (.error error, world) => (.error error, removeFile world candidate)
      | (.ok (), world) => (.ok ⟨candidate, true⟩, world)
    | (.error error, world) =>
      if error.kind = .alreadyExists then
        createFrom outcomes processId parent filename contents remaining (attempt + 1) world
      else (.error error.toFwError, world)

/-- `TempCandidate::create`. -/
def create (outcomes : Outcomes) (processId : UInt32) (destination : FilePath)
    (contents : List UInt8) (world : DiskWorld) : Result TempCandidate × DiskWorld :=
  match destination.parent, destination.fileName with
  | some parent, some filename =>
    createFrom outcomes processId parent filename contents 100 0 world
  | _, _ => (.error .invalidExecutableDirectory, world)

/-- `TempCandidate::disarm`. -/
def disarm (candidate : TempCandidate) : TempCandidate := { candidate with armed := false }

/-- `Drop for TempCandidate`. -/
def drop (candidate : TempCandidate) (world : DiskWorld) : DiskWorld :=
  if candidate.armed then removeFile world candidate.path else world

end TempCandidate

/-! ### Installation -/

/-- `cloudflare_config.rs::InstallPaths`. -/
structure InstallPaths where
  fwExecutable : FilePath
  installDir : FilePath
  cloudflareDir : FilePath
  cloudflared : FilePath
  cloudflareConfig : FilePath

/-- `platform::executable_name_from`. -/
def executableNameFrom (executable : FilePath) : Result String :=
  match executable.fileName.filter (· ≠ "") with
  | some name => .ok name
  | none => .error .invalidExecutableDirectory

/-- `cloudflare_config.rs::require_cloudflare_directory`. -/
def requireCloudflareDirectory (outcomes : Outcomes) (world : DiskWorld)
    (path fwExecutable : FilePath) : Result Unit :=
  match metadata outcomes world path with
  | some .directory => .ok ()
  | _ =>
    match executableNameFrom fwExecutable with
    | .error error => .error error
    | .ok name => .error (.missingCloudflareDirectory name path.display outcomes.setupEligible)

/-- `cloudflare_config.rs::require_regular_file`. -/
def requireRegularFile (outcomes : Outcomes) (world : DiskWorld) (name : String)
    (path fwExecutable : FilePath) : Result Unit :=
  match metadata outcomes world path with
  | some (.file _) => .ok ()
  | _ =>
    match executableNameFrom fwExecutable with
    | .error error => .error error
    | .ok executableName => .error (.missingSibling name executableName path.display)

/-- `cloudflared.rs::require_absolute`. -/
def requireAbsolute (path : FilePath) (description : String) : Result Unit :=
  if path.absolute then .ok ()
  else .error (.other s!"{description} path must be absolute: {path.display}")

/-- `cloudflared.rs::validate_config`. The validator only reads. -/
def validateConfig (outcomes : Outcomes) (executable candidateConfig installDir : FilePath) :
    Result Unit := do
  requireAbsolute executable "cloudflared executable"
  requireAbsolute candidateConfig "temporary cloudflared configuration"
  requireAbsolute installDir "installation directory"
  match outcomes.validator with
  | .failed error => .error error
  | .exited true _ => .ok ()
  | .exited false output => .error (.cloudflaredValidation output)

/-- The checks and the reading before anything is written. -/
def readConfig (outcomes : Outcomes) (paths : InstallPaths) (world : DiskWorld) :
    Result String := do
  requireCloudflareDirectory outcomes world paths.cloudflareDir paths.fwExecutable
  requireRegularFile outcomes world cloudflaredFilename paths.cloudflared paths.fwExecutable
  requireRegularFile outcomes world cloudflareConfigFilename paths.cloudflareConfig
    paths.fwExecutable
  readToString outcomes world paths.cloudflareConfig

/-- `cloudflare_config.rs::normalize_validate_and_replace`. The candidate is
dropped wherever the function returns. -/
def normalizeValidateAndReplace (parse : String → Except String Value)
    (print : Value → Result String) (outcomes : Outcomes) (processId : UInt32)
    (paths : InstallPaths) (proxyPort : UInt16) (world : DiskWorld) :
    Panicking (Result String) × DiskWorld :=
  match readConfig outcomes paths world with
  | .error error => (some (.error error), world)
  | .ok input =>
    match normalizeYaml parse print input proxyPort with
    | none => (none, world)
    | some (.error error) => (some (.error error), world)
    | some (.ok normalized) =>
      match TempCandidate.create outcomes processId paths.cloudflareConfig (bytes normalized.yaml)
        world with
      | (.error error, world) => (some (.error error), world)
      | (.ok candidate, world) =>
        match validateConfig outcomes paths.cloudflared candidate.path paths.cloudflareDir with
        | .error error => (some (.error error), candidate.drop world)
        | .ok () =>
          match atomicReplace outcomes candidate.path paths.cloudflareConfig world with
          | (.error error, world) => (some (.error error), candidate.drop world)
          | (.ok (), world) =>
            (some (.ok normalized.baseDomain), candidate.disarm.drop world)

/-! ### What no step touches -/

/-- Every file there was is still there, and the configuration is the old one or
its replacement. -/
structure Safe (initial : FileSystem) (config : FilePath) (replacement : Option Node)
    (files : FileSystem) : Prop where
  kept : ∀ path node, initial path = some node → path ≠ config → files path = some node
  config : files config = initial config ∨ files config = replacement

/-- Every state so far was safe. -/
def AlwaysSafe (initial : FileSystem) (config : FilePath) (replacement : Option Node)
    (world : DiskWorld) : Prop :=
  ∀ files ∈ world.visited ++ [world.files], Safe initial config replacement files

variable {initial files : FileSystem} {config path : FilePath} {replacement : Option Node}
  {world : DiskWorld}

theorem alwaysSafe_initial (initial : FileSystem) (config : FilePath) (replacement : Option Node)
    (sequence : UInt64) : AlwaysSafe initial config replacement ⟨initial, [], sequence⟩ := by
  intro files member
  rw [List.mem_singleton.mp member]
  exact ⟨fun _ _ held _ => held, .inl rfl⟩

/-- A path that was free at first, other than the configuration's, may be used at
will. -/
theorem Safe.update (safe : Safe initial config replacement files) (free : initial path = none)
    (other : path ≠ config) (node : Option Node) :
    Safe initial config replacement (Function.update files path node) where
  kept place held found different := by
    have apart : place ≠ path := by
      rintro rfl
      rw [free] at found
      cases found
    rw [Function.update_of_ne apart]
    exact safe.kept place held found different
  config := by
    rw [Function.update_of_ne (Ne.symm other)]
    exact safe.config

theorem AlwaysSafe.change (always : AlwaysSafe initial config replacement world)
    (safe : Safe initial config replacement files) :
    AlwaysSafe initial config replacement (world.change files) := by
  intro state member
  rcases List.mem_append.mp member with past | now
  · exact always state past
  · rw [List.mem_singleton.mp now]
    exact safe

theorem AlwaysSafe.now (always : AlwaysSafe initial config replacement world) :
    Safe initial config replacement world.files :=
  always _ (List.mem_append_right _ (List.mem_singleton_self _))

/-- Taking the candidate away again leaves the files as they were. -/
theorem removeFile_files (free : initial path = none)
    (written : ∀ other, other ≠ path → world.files other = initial other) :
    (removeFile world path).files = initial := by
  funext other
  by_cases same : other = path
  · rw [same, free]
    exact Function.update_self ..
  · exact (Function.update_of_ne same _ _).trans (written other same)

theorem AlwaysSafe.removeFile (always : AlwaysSafe initial config replacement world)
    (free : initial path = none) (other : path ≠ config) :
    AlwaysSafe initial config replacement (removeFile world path) :=
  always.change (always.now.update free other none)

/-! ### Names of candidates -/

private theorem join_of_parent {destination parent : FilePath} {filename : String}
    (above : destination.parent = some parent) (last : destination.fileName = some filename) :
    destination = parent.join filename := by
  unfold FilePath.parent at above
  split at above
  · cases above
  · cases above
    rw [FilePath.fileName] at last
    have shape := List.dropLast_append_getLast? filename last
    cases destination
    simpa [FilePath.join] using shape.symm

private theorem candidate_ne_destination (parent : FilePath) (filename : String)
    (processId : UInt32)
    (sequence : UInt64) :
    parent.join (TempCandidate.name filename processId sequence) ≠ parent.join filename := by
  intro same
  have names := List.append_inj_right (congrArg FilePath.components same) rfl
  have lengths := congrArg (fun name => name.toList.length) (List.singleton_inj.mp names)
  simp [TempCandidate.name, toString] at lengths
  omega

/-! ### Creating the candidate -/

/-- What writing does to the file that was created: it leaves something there, and
all of the contents when it succeeds. -/
theorem writeAndFlush_cases (outcomes : Outcomes) (path : FilePath) (contents : List UInt8)
    (world : DiskWorld) : ∃ result written,
      writeAndFlush outcomes path contents world =
        (result, world.change (Function.update world.files path (some (.file written)))) ∧
      (result = .ok () → written = contents) := by
  unfold writeAndFlush
  cases outcomes.write with
  | some failure => exact ⟨_, _, rfl, nofun⟩
  | none =>
    cases outcomes.flush with
    | some error => exact ⟨_, _, rfl, nofun⟩
    | none =>
      cases outcomes.sync with
      | some error => exact ⟨_, _, rfl, nofun⟩
      | none => exact ⟨_, _, rfl, fun _ => rfl⟩

/-- Creating a file fails and does nothing, or the path was free. -/
theorem createNew_cases (outcomes : Outcomes) (attempt : Nat) (world : DiskWorld)
    (path : FilePath) :
    (∃ error, createNew outcomes attempt world path = (.error error, world)) ∨
      world.files path = none ∧ createNew outcomes attempt world path =
        (.ok (), world.change (Function.update world.files path (some (.file [])))) := by
  unfold createNew
  cases outcomes.create attempt with
  | some error => exact .inl ⟨error, rfl⟩
  | none =>
    cases held : world.files path with
    | some node => exact .inl ⟨_, rfl⟩
    | none => exact .inr ⟨rfl, rfl⟩

/-- What creating a candidate left: nothing, or one new file with the contents. -/
inductive Created (initial : FileSystem) (config : FilePath) (contents : List UInt8)
    (after : DiskWorld) : Result TempCandidate → Prop where
  | failed (error : FwError) (unchanged : after.files = initial) :
      Created initial config contents after (.error error)
  | made {path : FilePath} (free : initial path = none) (other : path ≠ config)
      (files : after.files = Function.update initial path (some (.file contents))) :
      Created initial config contents after (.ok ⟨path, true⟩)

/-- Collision after collision, the loop touches nothing that was there. -/
theorem createFrom_spec (outcomes : Outcomes) (processId : UInt32) (parent : FilePath)
    (filename : String) (contents : List UInt8) (replacement : Option Node) (remaining attempt : Nat)
    (always : AlwaysSafe initial (parent.join filename) replacement world)
    (unchanged : world.files = initial) :
    let (result, after) := TempCandidate.createFrom outcomes processId parent filename contents
      remaining attempt world
    Created initial (parent.join filename) contents after result ∧
      AlwaysSafe initial (parent.join filename) replacement after := by
  induction remaining generalizing attempt world with
  | zero => exact ⟨.failed _ unchanged, always⟩
  | succ remaining ih =>
    rw [TempCandidate.createFrom]
    generalize named : parent.join (TempCandidate.name filename processId world.sequence) = path
    have other : path ≠ parent.join filename := named ▸ candidate_ne_destination _ _ _ _
    have counted : AlwaysSafe initial (parent.join filename) replacement
        { world with sequence := world.sequence + 1 } := always
    rcases createNew_cases outcomes attempt { world with sequence := world.sequence + 1 } path with
      ⟨error, refused⟩ | ⟨free, created⟩
    · rw [refused]
      dsimp only
      split
      · exact ih (attempt + 1) counted unchanged
      · exact ⟨.failed _ unchanged, counted⟩
    · have free : initial path = none := unchanged ▸ free
      rw [created]
      dsimp only
      have opened := counted.change (counted.now.update free other (some (.file [])))
      obtain ⟨result, written, wrote, complete⟩ := writeAndFlush_cases outcomes path contents
        (({ world with sequence := world.sequence + 1 } : DiskWorld).change
          (Function.update world.files path (some (.file []))))
      have filled := opened.change (opened.now.update free other (some (.file written)))
      rw [wrote]
      cases result with
      | error error =>
        refine ⟨.failed _ (removeFile_files free fun place different => ?_),
          filled.removeFile free other⟩
        simp only [DiskWorld.change, Function.update_of_ne different, unchanged]
      | ok _ =>
        refine ⟨.made free other ?_, filled⟩
        simp only [DiskWorld.change, Function.update_idem, unchanged, complete rfl]

theorem create_spec (outcomes : Outcomes) (processId : UInt32) (destination : FilePath)
    (contents : List UInt8) (replacement : Option Node)
    (always : AlwaysSafe initial destination replacement world) (unchanged : world.files = initial) :
    let (result, after) := TempCandidate.create outcomes processId destination contents world
    Created initial destination contents after result ∧
      AlwaysSafe initial destination replacement after := by
  rw [TempCandidate.create]
  cases above : destination.parent with
  | none => exact ⟨.failed _ unchanged, always⟩
  | some parent =>
    cases last : destination.fileName with
    | none => exact ⟨.failed _ unchanged, always⟩
    | some filename =>
      obtain rfl := join_of_parent above last
      exact createFrom_spec outcomes processId parent filename contents replacement 100 0 always
        unchanged

/-! ### Installing it -/

/-- A rename happens as a whole or not at all. -/
theorem atomicReplace_cases (outcomes : Outcomes) (source destination : FilePath)
    (world : DiskWorld) :
    (∃ error, atomicReplace outcomes source destination world = (.error error, world)) ∨
      ∃ node, world.files source = some node ∧
        atomicReplace outcomes source destination world = (.ok (), world.change
          (Function.update (Function.update world.files destination (some node)) source none)) := by
  unfold atomicReplace
  cases outcomes.rename with
  | some error => exact .inl ⟨_, rfl⟩
  | none =>
    cases held : world.files source with
    | none => exact .inl ⟨_, rfl⟩
    | some node =>
      cases occupied : world.files destination with
      | none => exact .inr ⟨node, rfl, rfl⟩
      | some blocking =>
        cases blocking with
        | directory => exact .inl ⟨_, rfl⟩
        | file | link => exact .inr ⟨node, rfl, rfl⟩

theorem normalizeYaml_no_panic (parse : String → Except String Value)
    (print : Value → Result String) (input : String) (proxyPort : UInt16) :
    normalizeYaml parse print input proxyPort ≠ none := by
  unfold normalizeYaml
  cases parse input with
  | error error => nofun
  | ok document =>
    dsimp only
    cases outcome : normalizeValue document proxyPort with
    | none => exact absurd outcome (normalizeValue_no_panic document proxyPort)
    | some result =>
      cases result with
      | error error => nofun
      | ok normalized =>
        dsimp only
        cases print normalized.1 <;> nofun

/-- The text that is normalised is the one that was read. -/
theorem readConfig_ok {outcomes : Outcomes} {paths : InstallPaths} {input : String}
    (read : readConfig outcomes paths world = .ok input) :
    readToString outcomes world paths.cloudflareConfig = .ok input := by
  have bind : ∀ {α : Type} (check : Result Unit) (rest : Result α) (value : α),
      (check >>= fun _ => rest) = .ok value → rest = .ok value := by
    intro α check rest value ran
    cases check with
    | error error => cases ran
    | ok _ => exact ran
  exact bind _ _ _ (bind _ _ _ (bind _ _ _ read))

/-- What a call leaves: after success the normalised text as the configuration and
nothing else new, after failure nothing new, and at no time a file lost or a
configuration that is neither the old one nor the final one. -/
structure AllOrNothing (read : Result String)
    (normalize : String → Panicking (Result NormalizedConfig)) (initial : FileSystem)
    (config : FilePath) (result : Panicking (Result String)) (after : DiskWorld) : Prop where
  returned : result ≠ none
  installed (baseDomain : String) : result = some (.ok baseDomain) → ∃ input normalized,
    read = .ok input ∧ normalize input = some (.ok normalized) ∧
    baseDomain = normalized.baseDomain ∧
    after.files = Function.update initial config (some (.file (bytes normalized.yaml)))
  untouched (error : FwError) : result = some (.error error) → after.files = initial
  safe : AlwaysSafe initial config (after.files config) after

private theorem allOrNothing_failed {read : Result String}
    {normalize : String → Panicking (Result NormalizedConfig)} (error : FwError)
    (unchanged : world.files = initial)
    (always : AlwaysSafe initial config (initial config) world) :
    AllOrNothing read normalize initial config (some (.error error)) world where
  returned := nofun
  installed := nofun
  untouched _ _ := unchanged
  safe := by rwa [unchanged]

/-- The rename moves the candidate's contents, and the candidate is gone. -/
theorem allOrNothing_installed {read : Result String}
    {normalize : String → Panicking (Result NormalizedConfig)} {input : String}
    {normalized : NormalizedConfig} {node : Node} (reading : read = .ok input)
    (text : normalize input = some (.ok normalized)) (free : initial path = none)
    (other : path ≠ config)
    (files : world.files = Function.update initial path (some (.file (bytes normalized.yaml))))
    (safe : ∀ replacement, AlwaysSafe initial config replacement world)
    (held : world.files path = some node) :
    AllOrNothing read normalize initial config (some (.ok normalized.baseDomain))
      (world.change
        (Function.update (Function.update world.files config (some node)) path none)) := by
  obtain rfl : node = .file (bytes normalized.yaml) := by
    rw [files, Function.update_self] at held
    exact (Option.some.inj held).symm
  have final : Function.update (Function.update world.files config
      (some (.file (bytes normalized.yaml)))) path none =
      Function.update initial config (some (.file (bytes normalized.yaml))) := by
    funext place
    by_cases here : place = path
    · rw [here, Function.update_self, Function.update_of_ne other, free]
    · rw [Function.update_of_ne here, files]
      by_cases there : place = config
      · rw [there, Function.update_self, Function.update_self]
      · rw [Function.update_of_ne there, Function.update_of_ne there, Function.update_of_ne here]
  rw [final]
  refine ⟨nofun, fun baseDomain same => ?_, nofun, ?_⟩
  · cases same
    exact ⟨input, normalized, reading, text, rfl, rfl⟩
  · refine (safe _).change ⟨fun place node held different => ?_, .inr rfl⟩
    rwa [Function.update_of_ne different]

/-- **Config replacement is all-or-nothing.** Whatever fails, and wherever, the
function returns; if it succeeds the configuration is the normalised text and
nothing else changed, and if it fails nothing changed at all. In between, no file
that was there is overwritten or deleted. -/
theorem config_replacement_all_or_nothing (parse : String → Except String Value)
    (print : Value → Result String) (outcomes : Outcomes) (processId : UInt32)
    (paths : InstallPaths) (proxyPort : UInt16) (initial : FileSystem) (sequence : UInt64) :
    let start : DiskWorld := ⟨initial, [], sequence⟩
    let (result, after) := normalizeValidateAndReplace parse print outcomes processId paths
      proxyPort start
    AllOrNothing (readToString outcomes start paths.cloudflareConfig)
      (normalizeYaml parse print · proxyPort) initial paths.cloudflareConfig result after := by
  intro start
  have always := fun replacement =>
    alwaysSafe_initial initial paths.cloudflareConfig replacement sequence
  rw [normalizeValidateAndReplace]
  cases read : readConfig outcomes paths start with
  | error error => exact allOrNothing_failed error rfl (always _)
  | ok input =>
    dsimp only
    cases text : normalizeYaml parse print input proxyPort with
    | none => exact absurd text (normalizeYaml_no_panic parse print input proxyPort)
    | some outcome =>
      cases outcome with
      | error error => exact allOrNothing_failed error rfl (always _)
      | ok normalized =>
        dsimp only
        have created := fun replacement => create_spec outcomes processId paths.cloudflareConfig
          (bytes normalized.yaml) replacement (always replacement) rfl
        cases candidate : TempCandidate.create outcomes processId paths.cloudflareConfig
          (bytes normalized.yaml) start with
        | mk made world =>
          simp only [start, candidate] at created
          obtain ⟨what, _⟩ := created none
          have safe := fun replacement => (created replacement).2
          cases what with
          | failed error unchanged => exact allOrNothing_failed error unchanged (safe _)
          | @made path free other files =>
            have written : ∀ place, place ≠ path → world.files place = initial place := by
              intro place different
              rw [files, Function.update_of_ne different]
            have dropped : ∀ error, AllOrNothing (readToString outcomes start paths.cloudflareConfig)
                (normalizeYaml parse print · proxyPort) initial paths.cloudflareConfig
                (some (.error error)) (TempCandidate.drop ⟨path, true⟩ world) :=
              fun error => allOrNothing_failed error (removeFile_files free written)
                ((safe _).removeFile free other)
            dsimp only
            cases validateConfig outcomes paths.cloudflared path paths.cloudflareDir with
            | error error => exact dropped error
            | ok _ =>
              dsimp only
              rcases atomicReplace_cases outcomes path paths.cloudflareConfig world with
                ⟨error, failed⟩ | ⟨node, held, replaced⟩
              · rw [failed]
                exact dropped error
              · rw [replaced]
                exact allOrNothing_installed (readConfig_ok read) text free other files safe held

end CfFw
