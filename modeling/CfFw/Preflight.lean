import CfFw.Restarts

/-! The look that a client takes at the configuration before it spawns a daemon. It tries
one port and the daemon normalises for another, later and after any number of other starts,
so what it promises has to outlast them. -/
namespace CfFw.Preflight
open CfFw Text Transition Restarts

variable {parse : String → Except String Value} {print : Value → Result String}
  {paths : InstallPaths} {initial files later : FileSystem} {input text : String}
  {launch : Start} {launches : List Start} {outcomes : Outcomes} {world : DiskWorld}
  {path config : FilePath} {node other : Node} {contents : List UInt8} {hops : Nat}

/-! ### Finding the installation -/

/-- `platform::executable_directory_from`. -/
def executableDirectoryFrom (executable : FilePath) : Result FilePath :=
  if executable.absolute then
    match executable.parent.filter FilePath.absolute with
    | some directory => .ok directory
    | none => .error .invalidExecutableDirectory
  else .error .invalidExecutableDirectory

/-- `platform/unix.rs::absolute_user_path`. -/
def absoluteUserPath (path : FilePath) : Result FilePath :=
  if path.absolute then .ok path
  else .error (.other s!"User home directory must be absolute: {path.display}")

/-- `platform/unix.rs::user_data_directory` on Linux, for what `XDG_DATA_HOME` and `HOME` are
set to. -/
def userDataDirectory (xdgDataHome home : Option FilePath) : Result FilePath :=
  match xdgDataHome.filter FilePath.absolute with
  | some path => .ok (path.join "fw")
  | none =>
    match home with
    | none => .error (.other "HOME is not set; cannot locate the user data directory")
    | some home => do
      let home ← absoluteUserPath home
      .ok (((home.join ".local").join "share").join "fw")

/-- `Path::try_exists`. -/
def tryExists (outcomes : Outcomes) (world : DiskWorld) (path : FilePath) : Result Bool :=
  match outcomes.metadata path with
  | some error => if error.kind = .notFound then .ok false else .error error.toFwError
  | none => .ok (followLinks world.files 40 path).isSome

def cloudflareDirectory : String := "cf"

/-- `cloudflare_config.rs::select_cloudflare_directory`. -/
def selectCloudflareDirectory (outcomes : Outcomes) (userData : Result FilePath)
    (world : DiskWorld) (installDir : FilePath) : Result FilePath := do
  let adjacent := installDir.join cloudflareDirectory
  if ← tryExists outcomes world adjacent then .ok adjacent
  else
    let directory ← userData
    .ok (directory.join cloudflareDirectory)

/-- `InstallPaths::from_executable`. -/
def fromExecutable (outcomes : Outcomes) (userData : Result FilePath) (world : DiskWorld)
    (fwExecutable : FilePath) : Result InstallPaths := do
  let executableDir ← executableDirectoryFrom fwExecutable
  let cloudflareDir ← selectCloudflareDirectory outcomes userData world executableDir
  let installDir ← cloudflareDir.parent.elim (.error .invalidExecutableDirectory) .ok
  let cloudflared := cloudflareDir.join cloudflaredFilename
  let cloudflareConfig := cloudflareDir.join cloudflareConfigFilename
  requireCloudflareDirectory outcomes world cloudflareDir fwExecutable
  requireRegularFile outcomes world cloudflaredFilename cloudflared fwExecutable
  requireRegularFile outcomes world cloudflareConfigFilename cloudflareConfig fwExecutable
  .ok { fwExecutable, installDir, cloudflareDir, cloudflared, cloudflareConfig }

/-- `cloudflare_config.rs::preflight_validate`. -/
def preflightValidate (parse : String → Except String Value) (print : Value → Result String)
    (outcomes : Outcomes) (paths : InstallPaths) (world : DiskWorld) : Panicking (Result Unit) :=
  match readConfig outcomes paths world with
  | .error error => some (.error error)
  | .ok input =>
    match normalizeYaml parse print input minProxyPort with
    | none => none
    | some (.error error) => some (.error error)
    | some (.ok _) => some (.ok ())

/-- What this text normalises to can be printed. -/
def Prints (parse : String → Except String Value) (print : Value → Result String)
    (input : String) : Prop :=
  ∀ document port value baseDomain, parse input = .ok document →
    normalizeValue document port = some (.ok (value, baseDomain)) → ∃ text, print value = .ok text

/-! ### The checks on the files -/

/-- Where links lead does not depend on how many of them are followed. -/
theorem followLinks_unique {first second : Nat} (found : followLinks files first path = some node)
    (again : followLinks files second path = some other) : node = other := by
  induction first generalizing second path with
  | zero => cases found
  | succ first ih =>
    cases second with
    | zero => cases again
    | succ second =>
      unfold followLinks at found again
      split at found
      · rename_i target held
        rw [held] at again
        exact ih found again
      · rename_i unlinked
        split at again
        · rename_i target held
          exact absurd held (unlinked target)
        · exact Option.some.inj (found.symm.trans again)

/-- The same node, or one file for another. -/
inductive SameKind : Node → Node → Prop where
  | same (node : Node) : SameKind node node
  | files (first second : List UInt8) : SameKind (.file first) (.file second)

/-- Replacing one file, whatever leads to it, changes no answer to what kind of thing a path
names. -/
theorem followLinks_replaced {many : Nat} {old : List UInt8}
    (kept : ∀ path node, initial path = some node → path ≠ config → later path = some node)
    (replaced : later config = some (.file contents))
    (leads : followLinks initial many config = some (.file old))
    (found : followLinks initial hops path = some node) :
    ∃ other, followLinks later hops path = some other ∧ SameKind node other := by
  induction hops generalizing path with
  | zero => cases found
  | succ hops ih =>
    by_cases here : path = config
    · subst here
      obtain rfl := followLinks_unique found leads
      refine ⟨.file contents, ?_, .files old contents⟩
      rw [followLinks, replaced]
    · unfold followLinks at found ⊢
      cases held : initial path with
      | none =>
        rw [held] at found
        cases found
      | some first =>
        rw [held] at found
        rw [kept path first held here]
        cases first with
        | link target => exact ih found
        | file | directory => exact ⟨node, found, .same node⟩

/-- A start leaves what paths name as it was. -/
theorem survived_sameKind (original : Reads initial paths.cloudflareConfig input)
    (survived : Survived parse print initial paths.cloudflareConfig input launches later)
    (found : followLinks initial hops path = some node) :
    ∃ other, followLinks later hops path = some other ∧ SameKind node other := by
  obtain ⟨old, leads, _⟩ := original
  rcases survived.config with same | ⟨_, _, written, _, replaced⟩
  · exact ⟨node, followLinks_kept (survived.kept_all same) found, .same node⟩
  · exact followLinks_replaced survived.kept replaced leads found

private theorem requireCloudflareDirectory_ok {executable : FilePath} :
    requireCloudflareDirectory outcomes world path executable = .ok () ↔
      metadata outcomes world path = some .directory := by
  unfold requireCloudflareDirectory
  split
  · rename_i found
    exact iff_of_true rfl found
  · rename_i other
    refine iff_of_false ?_ other
    cases executableNameFrom executable <;> nofun

private theorem requireRegularFile_ok {executable : FilePath} {name : String} :
    requireRegularFile outcomes world name path executable = .ok () ↔
      ∃ contents, metadata outcomes world path = some (.file contents) := by
  unfold requireRegularFile
  split
  · rename_i contents found
    exact iff_of_true rfl ⟨contents, found⟩
  · rename_i other
    refine iff_of_false ?_ fun ⟨contents, found⟩ => other contents found
    cases executableNameFrom executable <;> nofun

private theorem result_bind_eq_ok {α β : Type} {first : Result α} {next : α → Result β}
    {value : β} :
    (first >>= next) = .ok value ↔ ∃ between, first = .ok between ∧ next between = .ok value := by
  cases first with
  | error error => exact iff_of_false nofun (fun ⟨_, impossible, _⟩ => nomatch impossible)
  | ok between => exact ⟨fun ran => ⟨between, rfl, ran⟩, fun ⟨_, same, ran⟩ => by cases same; exact ran⟩

private theorem check_eq_ok {α : Type} {check : Result Unit} {rest : Result α} {value : α} :
    (check >>= fun _ => rest) = .ok value ↔ check = .ok () ∧ rest = .ok value := by
  rw [result_bind_eq_ok]
  exact ⟨fun ⟨(), passed, ran⟩ => ⟨passed, ran⟩, fun ⟨passed, ran⟩ => ⟨(), passed, ran⟩⟩

private theorem readConfig_eq_ok : readConfig outcomes paths world = .ok text ↔
    metadata outcomes world paths.cloudflareDir = some .directory ∧
    (∃ contents, metadata outcomes world paths.cloudflared = some (.file contents)) ∧
    (∃ contents, metadata outcomes world paths.cloudflareConfig = some (.file contents)) ∧
    readToString outcomes world paths.cloudflareConfig = .ok text := by
  rw [readConfig, check_eq_ok, check_eq_ok, check_eq_ok, requireCloudflareDirectory_ok,
    requireRegularFile_ok, requireRegularFile_ok]

private theorem readToString_of_reads (readable : outcomes.read = none)
    (reads : Reads world.files path text) : readToString outcomes world path = .ok text := by
  obtain ⟨contents, found, decoded⟩ := reads
  simp only [readToString, readable, found, decoded]

private theorem readable_of_read (read : readToString outcomes world path = .ok text) :
    outcomes.read = none := by
  unfold readToString at read
  split at read
  · cases read
  · assumption

private theorem reads_of_readConfig (read : readConfig outcomes paths world = .ok text) :
    Reads world.files paths.cloudflareConfig text :=
  reads_of_readToString (readConfig_eq_ok.mp read).2.2.2

private theorem metadata_sameKind {sequence again : UInt64} {changed : Outcomes}
    (original : Reads initial paths.cloudflareConfig input)
    (survived : Survived parse print initial paths.cloudflareConfig input launches later)
    (metadataSame : changed.metadata = outcomes.metadata)
    (found : metadata outcomes ⟨initial, [], sequence⟩ path = some node) :
    ∃ other, metadata changed ⟨later, [], again⟩ path = some other ∧ SameKind node other := by
  unfold metadata at found ⊢
  rw [metadataSame]
  cases failed : outcomes.metadata path with
  | some error =>
    rw [failed] at found
    cases found
  | none =>
    rw [failed] at found
    exact survived_sameKind original survived found

private theorem metadata_file {sequence again : UInt64} {changed : Outcomes}
    (original : Reads initial paths.cloudflareConfig input)
    (survived : Survived parse print initial paths.cloudflareConfig input launches later)
    (metadataSame : changed.metadata = outcomes.metadata)
    (found : ∃ contents, metadata outcomes ⟨initial, [], sequence⟩ path = some (.file contents)) :
    ∃ contents, metadata changed ⟨later, [], again⟩ path = some (.file contents) := by
  obtain ⟨contents, held⟩ := found
  obtain ⟨other, now, kind⟩ := metadata_sameKind original survived metadataSame held
  cases kind with
  | same => exact ⟨contents, now⟩
  | files _ second => exact ⟨second, now⟩

/-- A text is there to be read after any starts, if one was before them. -/
theorem survived_reads (original : Reads initial paths.cloudflareConfig input)
    (survived : Survived parse print initial paths.cloudflareConfig input launches later) :
    ∃ text, Reads later paths.cloudflareConfig text := by
  rcases survived.config with same | ⟨_, _, written, _, replaced⟩
  · obtain ⟨contents, found, decoded⟩ := original
    exact ⟨input, contents, followLinks_kept (survived.kept_all same) found, decoded⟩
  · exact ⟨written.yaml, reads_bytes replaced⟩

/-- What could be read before can be read after any starts. -/
theorem readConfig_survived {sequence again : UInt64} {changed : Outcomes}
    (survived : Survived parse print initial paths.cloudflareConfig input launches later)
    (metadataSame : changed.metadata = outcomes.metadata) (readSame : changed.read = outcomes.read)
    (read : readConfig outcomes paths ⟨initial, [], sequence⟩ = .ok input) :
    ∃ text, readConfig changed paths ⟨later, [], again⟩ = .ok text := by
  have original : Reads initial paths.cloudflareConfig input := reads_of_readConfig read
  obtain ⟨directory, binary, config, readable⟩ := readConfig_eq_ok.mp read
  obtain ⟨text, reads⟩ := survived_reads original survived
  obtain ⟨node, now, kind⟩ := metadata_sameKind original survived metadataSame directory
  refine ⟨text, readConfig_eq_ok.mpr ⟨?_, metadata_file original survived metadataSame binary,
    metadata_file original survived metadataSame config, readToString_of_reads ?_ reads⟩⟩
  · cases kind
    exact now
  · rw [readSame, readable_of_read readable]

/-! ### The ports -/

/-- Whether a text is accepted does not depend on the port. -/
theorem normalizeYaml_port (prints : Prints parse print input) {first : UInt16}
    {normalized : NormalizedConfig}
    (ran : normalizeYaml parse print input first = some (.ok normalized)) (second : UInt16) :
    ∃ other, normalizeYaml parse print input second = some (.ok other) ∧
      other.baseDomain = normalized.baseDomain := by
  obtain ⟨document, value, parsed, kept, _⟩ := normalizeYaml_ok ran
  obtain ⟨root, rules, accepted, rule, member, domain, starred, named, _⟩ := normalizeValue_ok kept
  have other := normalizeValue_eq accepted member starred second
  obtain ⟨text, printed⟩ := prints document second _ _ parsed other
  refine ⟨⟨text, toAsciiLowercase domain⟩, ?_, named.symm⟩
  simp only [normalizeYaml, parsed, other, printed]

private theorem preflightValidate_eq_ok :
    preflightValidate parse print outcomes paths world = some (.ok ()) ↔
    ∃ input normalized, readConfig outcomes paths world = .ok input ∧
      normalizeYaml parse print input minProxyPort = some (.ok normalized) := by
  constructor
  · intro passed
    unfold preflightValidate at passed
    split at passed
    · cases passed
    · rename_i input read
      split at passed
      · cases passed
      · cases passed
      · rename_i normalized ran
        exact ⟨input, normalized, read, ran⟩
  · rintro ⟨input, normalized, read, ran⟩
    simp only [preflightValidate, read, ran]

/-! ### The candidate -/

/-- The calls of the start that write go through, and the validator accepts. -/
structure Succeeds (outcomes : Outcomes) : Prop where
  create : ∀ attempt, outcomes.create attempt = none
  write : outcomes.write = none
  flush : outcomes.flush = none
  sync : outcomes.sync = none
  validator : ∃ output, outcomes.validator = .exited true output
  rename : outcomes.rename = none

/-- One of the names that the next attempts would use is free. -/
def Room (files : FileSystem) (parent : FilePath) (filename : String) (processId : UInt32)
    (sequence : UInt64) (attempts : Nat) : Prop :=
  ∃ skipped < attempts, files (parent.join
    (TempCandidate.name filename processId (sequence + UInt64.ofNat skipped))) = none

private theorem writeAndFlush_succeeds (succeeds : Succeeds outcomes) :
    writeAndFlush outcomes path contents world =
      (.ok (), world.change (Function.update world.files path (some (.file contents)))) := by
  simp only [writeAndFlush, succeeds.write, succeeds.flush, succeeds.sync]

/-- The loop goes past the names that are in the way. -/
theorem createFrom_succeeds (succeeds : Succeeds outcomes) {processId : UInt32}
    {parent : FilePath} {filename : String} (remaining attempt : Nat)
    (room : Room world.files parent filename processId world.sequence remaining) :
    ∃ candidate after, TempCandidate.createFrom outcomes processId parent filename contents
      remaining attempt world = (.ok candidate, after) ∧
      candidate.path.absolute = parent.absolute := by
  induction remaining generalizing attempt world with
  | zero =>
    obtain ⟨skipped, inside, _⟩ := room
    exact absurd inside (Nat.not_lt_zero skipped)
  | succ remaining ih =>
    rw [TempCandidate.createFrom]
    cases held : world.files (parent.join (TempCandidate.name filename processId world.sequence)) with
    | none =>
      simp only [createNew, succeeds.create, held, Option.isSome_none, Bool.false_eq_true,
        ↓reduceIte, writeAndFlush_succeeds succeeds]
      exact ⟨_, _, rfl, rfl⟩
    | some blocking =>
      simp only [createNew, succeeds.create, held, Option.isSome_some, ↓reduceIte]
      refine ih (attempt + 1) ?_
      obtain ⟨skipped, inside, free⟩ := room
      cases skipped with
      | zero =>
        have first : world.sequence + UInt64.ofNat 0 = world.sequence := UInt64.add_zero _
        rw [first, held] at free
        cases free
      | succ skipped =>
        refine ⟨skipped, Nat.lt_of_succ_lt_succ inside, ?_⟩
        rw [UInt64.ofNat_add, UInt64.add_comm (UInt64.ofNat skipped), ← UInt64.add_assoc] at free
        exact free

/-! ### The paths -/

/-- The paths of an installation: two files in an absolute directory. -/
structure Placed (paths : InstallPaths) : Prop where
  absolute : paths.cloudflareDir.absolute = true
  cloudflared : paths.cloudflared = paths.cloudflareDir.join cloudflaredFilename
  config : paths.cloudflareConfig = paths.cloudflareDir.join cloudflareConfigFilename

private theorem absoluteUserPath_ok {found : FilePath}
    (absolute : absoluteUserPath path = .ok found) :
    found.absolute = true := by
  unfold absoluteUserPath at absolute
  split at absolute
  · cases absolute
    assumption
  · cases absolute

private theorem userDataDirectory_absolute {xdgDataHome home : Option FilePath}
    {directory : FilePath}
    (found : userDataDirectory xdgDataHome home = .ok directory) : directory.absolute = true := by
  unfold userDataDirectory at found
  split at found
  · rename_i path given
    cases found
    exact (Option.filter_eq_some_iff.mp given).2
  · split at found
    · cases found
    · obtain ⟨base, absolute, same⟩ := result_bind_eq_ok.mp found
      cases same
      have rooted := absoluteUserPath_ok absolute
      exact rooted

private theorem selectCloudflareDirectory_absolute {xdgDataHome home : Option FilePath}
    {installDir directory : FilePath} (rooted : installDir.absolute = true)
    (selected : selectCloudflareDirectory outcomes (userDataDirectory xdgDataHome home) world
      installDir = .ok directory) : directory.absolute = true := by
  obtain ⟨present, _, ran⟩ := result_bind_eq_ok.mp selected
  cases present with
  | true =>
    cases ran
    exact rooted
  | false =>
    obtain ⟨parent, data, same⟩ := result_bind_eq_ok.mp ran
    cases same
    have rooted := userDataDirectory_absolute data
    exact rooted

private theorem executableDirectoryFrom_absolute {executable directory : FilePath}
    (found : executableDirectoryFrom executable = .ok directory) : directory.absolute = true := by
  unfold executableDirectoryFrom at found
  split at found
  · split at found
    · rename_i parent above
      cases found
      exact (Option.filter_eq_some_iff.mp above).2
    · cases found
  · cases found

/-- What is resolved is placed in an absolute directory. -/
theorem placed_of_resolved {xdgDataHome home : Option FilePath} {executable : FilePath}
    (resolved : fromExecutable outcomes (userDataDirectory xdgDataHome home) world executable =
      .ok paths) : Placed paths := by
  obtain ⟨executableDir, above, ran⟩ := result_bind_eq_ok.mp resolved
  obtain ⟨directory, selected, ran⟩ := result_bind_eq_ok.mp ran
  obtain ⟨installDir, _, ran⟩ := result_bind_eq_ok.mp ran
  obtain ⟨_, ran⟩ := check_eq_ok.mp ran
  obtain ⟨_, ran⟩ := check_eq_ok.mp ran
  obtain ⟨_, same⟩ := check_eq_ok.mp ran
  cases same
  exact ⟨selectCloudflareDirectory_absolute (executableDirectoryFrom_absolute above) selected, rfl,
    rfl⟩

/-! ### A start that goes through -/

private theorem validateConfig_succeeds (placed : Placed paths) (succeeds : Succeeds outcomes)
    {candidate : FilePath} (rooted : candidate.absolute = true) :
    validateConfig outcomes paths.cloudflared candidate paths.cloudflareDir = .ok () := by
  have binary : paths.cloudflared.absolute = true := by
    rw [placed.cloudflared]
    exact placed.absolute
  obtain ⟨output, accepts⟩ := succeeds.validator
  have checks : ∀ {path : FilePath} (description : String), path.absolute = true →
      requireAbsolute path description = .ok () := fun description absolute => if_pos absolute
  simp only [validateConfig, check_eq_ok, accepts]
  exact ⟨checks _ binary, checks _ rooted, checks _ placed.absolute, trivial⟩

/-- A rename from a file that is there onto no directory. -/
theorem atomicReplace_succeeds {source destination : FilePath} (rename : outcomes.rename = none)
    (held : world.files source = some node)
    (apart : world.files destination ≠ some .directory) :
    ∃ after, atomicReplace outcomes source destination world = (.ok (), after) ∧
      after.visited = world.visited ++ [world.files] := by
  simp only [atomicReplace, rename, held]
  exact ⟨_, rfl, rfl⟩

private theorem not_directory_of_readConfig {sequence : UInt64}
    (read : readConfig outcomes paths ⟨files, [], sequence⟩ = .ok text) :
    files paths.cloudflareConfig ≠ some .directory := by
  intro directory
  obtain ⟨contents, found, _⟩ := reads_of_readConfig read
  simp only [followLinks, directory] at found
  cases found

/-- A replacement, once its parts are known. -/
theorem normalizeValidateAndReplace_eq {processId : UInt32} {port : UInt16}
    {world opened after : DiskWorld} {candidate : TempCandidate} {written : NormalizedConfig}
    (read : readConfig outcomes paths world = .ok text)
    (ran : normalizeYaml parse print text port = some (.ok written))
    (create : TempCandidate.create outcomes processId paths.cloudflareConfig (bytes written.yaml)
      world = (.ok candidate, opened))
    (valid : validateConfig outcomes paths.cloudflared candidate.path paths.cloudflareDir = .ok ())
    (replaced : atomicReplace outcomes candidate.path paths.cloudflareConfig opened =
      (.ok (), after)) :
    normalizeValidateAndReplace parse print outcomes processId paths port world =
      (some (.ok written.baseDomain), candidate.disarm.drop after) := by
  simp only [normalizeValidateAndReplace, read, ran, create, valid, replaced]

private theorem replace_succeeds (placed : Placed paths) (succeeds : Succeeds launch.outcomes)
    {written : NormalizedConfig}
    (read : readConfig launch.outcomes paths ⟨files, [], launch.sequence⟩ = .ok text)
    (ran : normalizeYaml parse print text launch.port = some (.ok written))
    (room : Room files paths.cloudflareDir cloudflareConfigFilename launch.processId
      launch.sequence 100) :
    (launch.replace parse print paths files).1 = some (.ok written.baseDomain) := by
  have parent : paths.cloudflareConfig.parent = some paths.cloudflareDir := by
    simp [placed.config, FilePath.parent, FilePath.join]
  have filename : paths.cloudflareConfig.fileName = some cloudflareConfigFilename := by
    simp [placed.config, FilePath.fileName, FilePath.join]
  obtain ⟨candidate, world, created, rooted⟩ :=
    @createFrom_succeeds launch.outcomes ⟨files, [], launch.sequence⟩ (bytes written.yaml) succeeds
      launch.processId paths.cloudflareDir cloudflareConfigFilename 100 0 room
  have create : TempCandidate.create launch.outcomes launch.processId paths.cloudflareConfig
      (bytes written.yaml) ⟨files, [], launch.sequence⟩ = (.ok candidate, world) := by
    simp only [TempCandidate.create, parent, filename, created]
  obtain ⟨what, _⟩ := create ▸ create_spec launch.outcomes launch.processId paths.cloudflareConfig
    (bytes written.yaml) none (alwaysSafe_initial files paths.cloudflareConfig none launch.sequence)
    rfl
  cases what with
  | @made path free other held =>
    have source : world.files path = some (.file (bytes written.yaml)) := by
      rw [held, Function.update_self]
    have target : world.files paths.cloudflareConfig ≠ some .directory := by
      rw [held, Function.update_of_ne (Ne.symm other)]
      exact not_directory_of_readConfig read
    have valid := validateConfig_succeeds placed succeeds (rooted.trans placed.absolute)
    obtain ⟨after, replaced, _⟩ := atomicReplace_succeeds succeeds.rename source target
    rw [Start.replace, normalizeValidateAndReplace_eq read ran create valid replaced]

/-- **What the preflight has accepted, no daemon refuses.** Once the paths were resolved and the
preflight has passed, it passes after any number of starts, for whichever ports, and whatever
failed or wherever each of them was killed. A start whose system calls then go through, that
finds one of a hundred candidate names free and whose candidate `cloudflared` accepts, installs
what the original text normalises to for its port and returns the base domain, which is the
same for all of them. -/
theorem preflight_keeps_its_word (parse : String → Except String Value)
    (print : Value → Result String) (outcomes : Outcomes) (xdgDataHome home : Option FilePath)
    (executable : FilePath) (paths : InstallPaths) (initial files : FileSystem) (input : String)
    (launches : List Start) (sequence again : UInt64) (roundTrip : RoundTrip parse print input)
    (prints : Prints parse print input)
    (original : Reads initial paths.cloudflareConfig input)
    (resolved : fromExecutable outcomes (userDataDirectory xdgDataHome home)
      ⟨initial, [], sequence⟩ executable = .ok paths)
    (passed : preflightValidate parse print outcomes paths ⟨initial, [], sequence⟩ = some (.ok ()))
    (run : Run (restart parse print paths) Unrestricted initial launches files) :
    preflightValidate parse print outcomes paths ⟨files, [], again⟩ = some (.ok ()) ∧
    ∃ baseDomain, ∀ launch : Start, launch.outcomes.metadata = outcomes.metadata →
      launch.outcomes.read = outcomes.read → Succeeds launch.outcomes →
      Room files paths.cloudflareDir cloudflareConfigFilename launch.processId launch.sequence 100 →
      (launch.replace parse print paths files).1 = some (.ok baseDomain) ∧
      ∃ written, normalizeYaml parse print input launch.port = some (.ok written) ∧
        (launch.replace parse print paths files).2.files paths.cloudflareConfig =
          some (.file (bytes written.yaml)) := by
  obtain ⟨found, normalized, read, ran⟩ := preflightValidate_eq_ok.mp passed
  obtain rfl := original.unique (reads_of_readConfig read)
  have survived := survived_of_run roundTrip original run
  have readsLater : ∀ {changed : Outcomes} {now : UInt64}, changed.metadata = outcomes.metadata →
      changed.read = outcomes.read → ∃ text, readConfig changed paths ⟨files, [], now⟩ = .ok text ∧
        ∀ port, normalizeYaml parse print text port = normalizeYaml parse print input port := by
    intro changed now metadataSame readSame
    obtain ⟨text, readNow⟩ := @readConfig_survived _ _ _ _ _ _ _ _ sequence now changed survived
      metadataSame readSame read
    exact ⟨text, readNow, survived.normalize roundTrip original (reads_of_readConfig readNow)⟩
  refine ⟨?_, normalized.baseDomain, fun launch metadataSame readSame succeeds room => ?_⟩
  · obtain ⟨text, readNow, same⟩ := @readsLater outcomes again rfl rfl
    exact preflightValidate_eq_ok.mpr ⟨text, normalized, readNow, (same _).trans ran⟩
  · obtain ⟨text, readNow, same⟩ := @readsLater launch.outcomes launch.sequence metadataSame readSame
    obtain ⟨written, accepted, domain⟩ := normalizeYaml_port prints ran launch.port
    have returned := replace_succeeds (placed_of_resolved resolved) succeeds readNow
      ((same launch.port).trans accepted) room
    obtain ⟨installed, text, _, held⟩ := survived.installed roundTrip original returned
    rw [← domain]
    exact ⟨returned, installed, text, held⟩

private theorem normalizeValue_oneRule (service : String) (port : UInt16) :
    normalizeValue (oneRule service) port =
      some (.ok (oneRule (canonicalService port), "example.com")) := by
  rfl

private theorem printOneRule_oneRule (service : String) :
    printOneRule (oneRule service) = .ok (oneRuleText service) := by
  rfl

private theorem normalizeYaml_oneRule (service : String) (port : UInt16) :
    normalizeYaml parseOneRule printOneRule (oneRuleText service) port =
      some (.ok ⟨oneRuleText (canonicalService port), "example.com"⟩) := by
  simp only [normalizeYaml, parseOneRule_text, normalizeValue_oneRule, printOneRule_oneRule]

private theorem oneRule_prints (input : String) : Prints parseOneRule printOneRule input := by
  intro document port value baseDomain parsed kept
  unfold parseOneRule at parsed
  split at parsed
  · cases parsed
    rw [normalizeValue_oneRule] at kept
    cases kept
    exact ⟨_, printOneRule_oneRule _⟩
  · cases parsed

private theorem read_exampleInput (port : UInt16) (killed : Option Nat) :
    readConfig (smoothStart port killed).outcomes examplePaths ⟨exampleFiles, [], 0⟩ =
      .ok exampleInput := by
  have config : exampleFiles examplePaths.cloudflareConfig = some (.file (bytes exampleInput)) := rfl
  refine readConfig_eq_ok.mpr ⟨rfl, ⟨[], rfl⟩, ⟨bytes exampleInput, ?_⟩, ?_⟩
  · simp only [metadata, smoothStart, followLinks, config]
  · exact readToString_of_reads rfl (reads_bytes config)

def exampleCandidate : FilePath := ⟨true, ["opt", "fw", "cf", ".config.yml.4321.0.tmp"]⟩

/-- The files with a candidate, and how it came to be there. -/
def candidateWorld (contents : List UInt8) : DiskWorld :=
  let opened := Function.update exampleFiles exampleCandidate (some (.file []))
  ⟨Function.update opened exampleCandidate (some (.file contents)), [exampleFiles, opened], 1⟩

/-- What a start leaves that is killed before it renames its candidate. -/
def abandonedFiles (port : UInt16) : FileSystem :=
  (candidateWorld (bytes (oneRuleText (canonicalService port)))).files

private theorem smoothStart_succeeds (port : UInt16) (killed : Option Nat) :
    Succeeds (smoothStart port killed).outcomes :=
  ⟨fun _ => rfl, rfl, rfl, rfl, ⟨"", rfl⟩, rfl⟩

/-- The first name is free. -/
theorem create_example (port : UInt16) (killed : Option Nat) :
    TempCandidate.create (smoothStart port killed).outcomes 4321 examplePaths.cloudflareConfig
      contents ⟨exampleFiles, [], 0⟩ = (.ok ⟨exampleCandidate, true⟩, candidateWorld contents) := by
  have parent : examplePaths.cloudflareConfig.parent = some examplePaths.cloudflareDir := rfl
  have filename : examplePaths.cloudflareConfig.fileName = some cloudflareConfigFilename := rfl
  have named : examplePaths.cloudflareDir.join
      (TempCandidate.name cloudflareConfigFilename 4321 0) = exampleCandidate := by decide +kernel
  have free : (exampleFiles exampleCandidate).isSome = false := by rfl
  have succeeds := smoothStart_succeeds port killed
  have next : (0 : UInt64) + 1 = 1 := rfl
  simp only [TempCandidate.create, parent, filename]
  rw [TempCandidate.createFrom, named]
  simp only [next, createNew, succeeds.create, free, Bool.false_eq_true, ↓reduceIte,
    writeAndFlush_succeeds succeeds, DiskWorld.change, candidateWorld, List.nil_append,
    List.singleton_append]

private theorem restart_abandoned (port : UInt16) :
    restart parseOneRule printOneRule examplePaths exampleFiles (smoothStart port (some 2)) =
      some (abandonedFiles port) := by
  have whole : (smoothStart port (some 2)).replace parseOneRule printOneRule examplePaths
      exampleFiles = normalizeValidateAndReplace parseOneRule printOneRule
        (smoothStart port (some 2)).outcomes 4321 examplePaths port ⟨exampleFiles, [], 0⟩ := rfl
  have killed : (smoothStart port (some 2)).killed = some 2 := rfl
  have valid : validateConfig (smoothStart port (some 2)).outcomes examplePaths.cloudflared
      exampleCandidate examplePaths.cloudflareDir = .ok () := rfl
  have apart : examplePaths.cloudflareConfig ≠ exampleCandidate := by decide
  have present : exampleFiles examplePaths.cloudflareConfig = some (.file (bytes exampleInput)) :=
    rfl
  have held : (candidateWorld (bytes (oneRuleText (canonicalService port)))).files
      exampleCandidate = some (.file (bytes (oneRuleText (canonicalService port)))) := by
    simp [candidateWorld]
  obtain ⟨after, replaced, visited⟩ := @atomicReplace_succeeds (smoothStart port (some 2)).outcomes
    _ _ _ examplePaths.cloudflareConfig rfl held (by simp [candidateWorld, apart, present])
  rw [restart, killed, whole, normalizeValidateAndReplace_eq (read_exampleInput port (some 2))
    (normalizeYaml_oneRule "http://127.0.0.1:8080" port) (create_example port (some 2)) valid
    replaced]
  simp [TempCandidate.drop, TempCandidate.disarm, visited, candidateWorld, abandonedFiles]

/-- After a start that was killed before it renamed its candidate, the preflight passes as it
did before, and the next start goes past that candidate. -/
theorem example_preflight_lasts :
    preflightValidate parseOneRule printOneRule (smoothStart 0 none).outcomes examplePaths
      ⟨abandonedFiles 20001, [], 0⟩ = some (.ok ()) ∧
    ∃ baseDomain written,
      ((smoothStart 20002 none).replace parseOneRule printOneRule examplePaths
        (abandonedFiles 20001)).1 = some (.ok baseDomain) ∧
      normalizeYaml parseOneRule printOneRule exampleInput 20002 = some (.ok written) ∧
      ((smoothStart 20002 none).replace parseOneRule printOneRule examplePaths
        (abandonedFiles 20001)).2.files examplePaths.cloudflareConfig =
          some (.file (bytes written.yaml)) := by
  have original : Reads exampleFiles examplePaths.cloudflareConfig exampleInput :=
    reads_bytes (by rfl)
  have passed : preflightValidate parseOneRule printOneRule (smoothStart 0 none).outcomes
      examplePaths ⟨exampleFiles, [], 0⟩ = some (.ok ()) :=
    preflightValidate_eq_ok.mpr
      ⟨exampleInput, _, read_exampleInput 0 none, normalizeYaml_oneRule _ _⟩
  obtain ⟨passes, baseDomain, starts⟩ := preflight_keeps_its_word parseOneRule printOneRule
    (smoothStart 0 none).outcomes none none examplePaths.fwExecutable examplePaths exampleFiles _
    exampleInput [smoothStart 20001 (some 2)] 0 0 (oneRule_roundTrip exampleInput)
    (oneRule_prints exampleInput) original (by rfl) passed
    (.one trivial (restart_abandoned 20001))
  obtain ⟨returned, written, text, installed⟩ := starts (smoothStart 20002 none) rfl rfl
    (smoothStart_succeeds 20002 none) ⟨1, by decide, by rfl⟩
  exact ⟨passes, baseDomain, written, returned, text, installed⟩

end CfFw.Preflight
