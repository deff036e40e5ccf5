import CfFw.ConfigReplacement
import CfFw.NormalizeStability
import CfFw.Transition
import Mathlib.Data.List.DropRight

/-! The configuration over many starts of the daemon. Each start normalises what it finds
for a port of its own, and may fail or be killed anywhere in between; the next one finds
what that has left. -/
namespace CfFw.Restarts
open CfFw Text Transition

/-- One start: its port, what goes wrong in it, and after how many changes of the file
system it is killed, if it is. -/
structure Start where
  port : UInt16
  outcomes : Outcomes
  processId : UInt32
  sequence : UInt64
  killed : Option Nat

variable {parse : String → Except String Value} {print : Value → Result String}
  {paths : InstallPaths} {files later : FileSystem} {input text : String} {launch : Start}
  {launches : List Start} {document : Value}

/-- How `normalize_validate_and_replace` goes in a start that nobody kills. -/
def Start.replace (parse : String → Except String Value) (print : Value → Result String)
    (paths : InstallPaths) (files : FileSystem) (launch : Start) :
    Panicking (Result String) × DiskWorld :=
  normalizeValidateAndReplace parse print launch.outcomes launch.processId paths launch.port
    ⟨files, [], launch.sequence⟩

/-- What a start leaves of the files. -/
def restart (parse : String → Except String Value) (print : Value → Result String)
    (paths : InstallPaths) (files : FileSystem) (launch : Start) : Option FileSystem :=
  let world := (launch.replace parse print paths files).2
  match launch.killed with
  | none => some world.files
  | some changes => some (world.visited[changes]?.getD world.files)

/-- What this text normalises to is read back as it was printed. -/
def RoundTrip (parse : String → Except String Value) (print : Value → Result String)
    (input : String) : Prop :=
  ∀ document port value baseDomain text, parse input = .ok document →
    normalizeValue document port = some (.ok (value, baseDomain)) → print value = .ok text →
    parse text = .ok value

/-- A path leads to a file with this text. -/
def Reads (files : FileSystem) (path : FilePath) (text : String) : Prop :=
  ∃ contents, followLinks files 40 path = some (.file contents) ∧
    String.fromUTF8? contents.toByteArray = some text

/-! ### One start -/

theorem reads_of_readToString {outcomes : Outcomes} {world : DiskWorld} {path : FilePath}
    (read : readToString outcomes world path = .ok text) : Reads world.files path text := by
  unfold readToString at read
  split at read
  · cases read
  · split at read
    · rename_i contents found
      split at read
      · rename_i decoded
        cases read
        exact ⟨contents, found, decoded⟩
      · cases read
    · cases read
    · cases read

theorem Reads.unique {path : FilePath} (reads : Reads files path text)
    (again : Reads files path input) : text = input := by
  obtain ⟨contents, found, decoded⟩ := reads
  obtain ⟨other, also, same⟩ := again
  cases found.symm.trans also
  exact Option.some.inj (decoded.symm.trans same)

/-- Links lead where they led while nothing that was there changes. -/
theorem followLinks_kept
    (kept : ∀ {path : FilePath} {node : Node}, files path = some node → later path = some node)
    {hops : Nat} {path : FilePath} {node : Node} (found : followLinks files hops path = some node) :
    followLinks later hops path = some node := by
  induction hops generalizing path with
  | zero => cases found
  | succ hops ih =>
    unfold followLinks at found ⊢
    cases held : files path with
    | none =>
      rw [held] at found
      cases found
    | some here =>
      rw [held] at found
      rw [kept held]
      cases here with
      | link target => exact ih found
      | file | directory => exact found

private theorem fromUTF8_bytes (text : String) :
    String.fromUTF8? (bytes text).toByteArray = some text := by
  have encoded : (bytes text).toByteArray = text.toByteArray := String.utf8Encode_toList
  rw [encoded, String.fromUTF8?, dif_pos text.isValidUTF8]
  rfl

theorem reads_bytes {path : FilePath} (held : files path = some (.file (bytes text))) :
    Reads files path text := by
  refine ⟨bytes text, ?_, fromUTF8_bytes text⟩
  rw [followLinks, held]

/-! ### Normalising the text again -/

theorem normalizeYaml_ok {port : UInt16} {normalized : NormalizedConfig}
    (ran : normalizeYaml parse print input port = some (.ok normalized)) :
    ∃ document value, parse input = .ok document ∧
      normalizeValue document port = some (.ok (value, normalized.baseDomain)) ∧
      print value = .ok normalized.yaml := by
  unfold normalizeYaml at ran
  split at ran
  · cases ran
  · rename_i document parsed
    split at ran
    · cases ran
    · cases ran
    · rename_i value baseDomain kept
      split at ran
      · cases ran
      · rename_i yaml printed
        cases ran
        exact ⟨document, value, parsed, kept, printed⟩

/-- A text that normalisation wrote normalises as the one it was written from. -/
theorem normalizeYaml_again (roundTrip : RoundTrip parse print input) {first : UInt16}
    {normalized : NormalizedConfig}
    (ran : normalizeYaml parse print input first = some (.ok normalized)) (second : UInt16) :
    normalizeYaml parse print normalized.yaml second = normalizeYaml parse print input second := by
  obtain ⟨document, value, parsed, kept, printed⟩ := normalizeYaml_ok ran
  have again := roundTrip document first value _ _ parsed kept printed
  simp only [normalizeYaml, parsed, again, normalize_again kept second]

private theorem normalizeYaml_baseDomain {first second : UInt16}
    {normalized other : NormalizedConfig}
    (ran : normalizeYaml parse print input first = some (.ok normalized))
    (again : normalizeYaml parse print input second = some (.ok other)) :
    normalized.baseDomain = other.baseDomain := by
  obtain ⟨document, value, parsed, kept, _⟩ := normalizeYaml_ok ran
  obtain ⟨same, otherValue, alsoParsed, alsoKept, _⟩ := normalizeYaml_ok again
  cases parsed.symm.trans alsoParsed
  obtain ⟨root, rules, accepted, rule, member, domain, starred, named, _⟩ := normalizeValue_ok kept
  have other := (normalizeValue_eq accepted member starred second).symm.trans alsoKept
  simp only [Option.some.injEq, Except.ok.injEq, Prod.mk.injEq] at other
  exact named.trans other.2

/-! ### What one start does -/

/-- What a start may leave: the configuration as it was, or the normalised text of what it
read, never anything else. Only the latter returns a base domain. -/
inductive Replaced (parse : String → Except String Value) (print : Value → Result String)
    (paths : InstallPaths) (files : FileSystem) (launch : Start) :
    Panicking (Result String) → DiskWorld → Prop where
  | nothing {result : Panicking (Result String)} {after : DiskWorld}
      (failed : ∀ baseDomain, result ≠ some (.ok baseDomain))
      (safe : AlwaysSafe files paths.cloudflareConfig (files paths.cloudflareConfig) after) :
      Replaced parse print paths files launch result after
  | normalized {result : Panicking (Result String)} {after : DiskWorld} {found : String}
      {written : NormalizedConfig}
      (read : Reads files paths.cloudflareConfig found)
      (text : normalizeYaml parse print found launch.port = some (.ok written))
      (safe : AlwaysSafe files paths.cloudflareConfig (some (.file (bytes written.yaml))) after)
      (installed : ∀ baseDomain, result = some (.ok baseDomain) →
        baseDomain = written.baseDomain ∧
        after.files paths.cloudflareConfig = some (.file (bytes written.yaml))) :
      Replaced parse print paths files launch result after

theorem Replaced.refused {after : DiskWorld} (error : FwError)
    (safe : AlwaysSafe files paths.cloudflareConfig (files paths.cloudflareConfig) after) :
    Replaced parse print paths files launch (some (.error error)) after :=
  .nothing (fun _ same => by cases same) safe

theorem Replaced.abandoned {after : DiskWorld} {found : String} {written : NormalizedConfig}
    (error : FwError) (read : Reads files paths.cloudflareConfig found)
    (text : normalizeYaml parse print found launch.port = some (.ok written))
    (safe : AlwaysSafe files paths.cloudflareConfig (some (.file (bytes written.yaml))) after) :
    Replaced parse print paths files launch (some (.error error)) after :=
  .normalized read text safe fun _ same => by cases same

theorem Start.replace_spec (launch : Start) (files : FileSystem) :
    Replaced parse print paths files launch (launch.replace parse print paths files).1
      (launch.replace parse print paths files).2 := by
  have always := fun replacement =>
    alwaysSafe_initial files paths.cloudflareConfig replacement launch.sequence
  rw [Start.replace, normalizeValidateAndReplace]
  cases read : readConfig launch.outcomes paths ⟨files, [], launch.sequence⟩ with
  | error error => exact .refused error (always _)
  | ok found =>
    dsimp only
    cases text : normalizeYaml parse print found launch.port with
    | none => exact absurd text (normalizeYaml_no_panic parse print found launch.port)
    | some outcome =>
      cases outcome with
      | error error => exact .refused error (always _)
      | ok written =>
        have reads : Reads files paths.cloudflareConfig found :=
          reads_of_readToString (readConfig_ok read)
        dsimp only
        have created := create_spec launch.outcomes launch.processId paths.cloudflareConfig
          (bytes written.yaml) (some (.file (bytes written.yaml))) (always _) rfl
        cases candidate : TempCandidate.create launch.outcomes launch.processId
          paths.cloudflareConfig (bytes written.yaml) ⟨files, [], launch.sequence⟩ with
        | mk made world =>
          rw [candidate] at created
          obtain ⟨what, safe⟩ := created
          cases what with
          | failed error unchanged => exact .abandoned error reads text safe
          | @made path free other held =>
            have dropped := safe.removeFile free other
            dsimp only
            cases validateConfig launch.outcomes paths.cloudflared path paths.cloudflareDir with
            | error error => exact .abandoned error reads text dropped
            | ok _ =>
              dsimp only
              rcases atomicReplace_cases launch.outcomes path paths.cloudflareConfig world with
                ⟨error, failed⟩ | ⟨node, moved, replaced⟩
              · rw [failed]
                exact .abandoned error reads text dropped
              · rw [replaced]
                obtain rfl : node = .file (bytes written.yaml) := by
                  rw [held, Function.update_self] at moved
                  exact (Option.some.inj moved).symm
                have installed : Function.update (Function.update world.files
                    paths.cloudflareConfig (some (.file (bytes written.yaml)))) path none
                    paths.cloudflareConfig = some (.file (bytes written.yaml)) := by
                  rw [Function.update_of_ne (Ne.symm other), Function.update_self]
                refine .normalized reads text (safe.change ⟨fun place node kept apart => ?_,
                  .inr installed⟩) fun baseDomain same => ⟨?_, installed⟩
                · have elsewhere : place ≠ path := by
                    rintro rfl
                    rw [free] at kept
                    cases kept
                  rw [Function.update_of_ne elsewhere, Function.update_of_ne apart]
                  exact safe.now.kept place node kept apart
                · cases same
                  rfl

/-- Wherever a start is cut off, what it leaves is safe if all of its states were. -/
theorem restart_safe {replacement : Option Node}
    (safe : AlwaysSafe files paths.cloudflareConfig replacement
      (launch.replace parse print paths files).2)
    (left : restart parse print paths files launch = some later) :
    Safe files paths.cloudflareConfig replacement later := by
  unfold restart at left
  dsimp only at left
  split at left
  · cases left
    exact safe.now
  · rename_i changes _
    cases Option.some.inj left
    cases held : (launch.replace parse print paths files).2.visited[changes]? with
    | none => exact safe.now
    | some state =>
      exact safe state (List.mem_append_left _ (List.mem_of_getElem? held))

/-! ### Many starts -/

/-- What is left of the files after these starts: everything but the configuration, which is
the original or its normalised text for the port of one of them. -/
structure Survived (parse : String → Except String Value) (print : Value → Result String)
    (initial : FileSystem) (config : FilePath) (input : String) (launches : List Start)
    (files : FileSystem) : Prop where
  kept : ∀ path node, initial path = some node → path ≠ config → files path = some node
  config : files config = initial config ∨ ∃ launch ∈ launches, ∃ written,
    normalizeYaml parse print input launch.port = some (.ok written) ∧
    files config = some (.file (bytes written.yaml))

variable {initial : FileSystem}

theorem Survived.kept_all {config : FilePath}
    (survived : Survived parse print initial config input launches files)
    (same : files config = initial config) {path : FilePath} {node : Node}
    (held : initial path = some node) : files path = some node := by
  by_cases here : path = config
  · rw [here] at held ⊢
    rw [same, held]
  · exact survived.kept path node held here

/-- Whatever a later start reads normalises as the original does. -/
theorem Survived.normalize (roundTrip : RoundTrip parse print input)
    (original : Reads initial paths.cloudflareConfig input)
    (survived : Survived parse print initial paths.cloudflareConfig input launches files)
    (read : Reads files paths.cloudflareConfig text) (port : UInt16) :
    normalizeYaml parse print text port = normalizeYaml parse print input port := by
  rcases survived.config with same | ⟨earlier, _, written, ran, held⟩
  · obtain ⟨contents, found, decoded⟩ := original
    have again : Reads files paths.cloudflareConfig input :=
      ⟨contents, followLinks_kept (survived.kept_all same) found, decoded⟩
    rw [read.unique again]
  · rw [read.unique (reads_bytes held)]
    exact normalizeYaml_again roundTrip ran port

theorem Survived.restart (roundTrip : RoundTrip parse print input)
    (original : Reads initial paths.cloudflareConfig input)
    (survived : Survived parse print initial paths.cloudflareConfig input launches files)
    (left : restart parse print paths files launch = some later) :
    Survived parse print initial paths.cloudflareConfig input (launches ++ [launch]) later := by
  have earlier : later paths.cloudflareConfig = files paths.cloudflareConfig →
      later paths.cloudflareConfig = initial paths.cloudflareConfig ∨
        ∃ start ∈ launches ++ [launch], ∃ written,
          normalizeYaml parse print input start.port = some (.ok written) ∧
          later paths.cloudflareConfig = some (.file (bytes written.yaml)) := by
    intro same
    rw [same]
    rcases survived.config with untouched | ⟨start, member, written, ran, held⟩
    · exact .inl untouched
    · exact .inr ⟨start, List.mem_append_left _ member, written, ran, held⟩
  cases @Start.replace_spec parse print paths launch files with
  | nothing _ safe =>
    have safe := restart_safe safe left
    refine ⟨fun path node held apart => safe.kept path node (survived.kept path node held apart)
      apart, earlier ?_⟩
    rcases safe.config with same | same <;> exact same
  | normalized read text safe _ =>
    have safe := restart_safe safe left
    refine ⟨fun path node held apart => safe.kept path node (survived.kept path node held apart)
      apart, ?_⟩
    rcases safe.config with same | replaced
    · exact earlier same
    · rw [survived.normalize roundTrip original read] at text
      exact .inr ⟨launch, List.mem_append_right _ (List.mem_singleton_self _), _, text, replaced⟩

/-- **Run lemma.** -/
theorem survived_of_run (roundTrip : RoundTrip parse print input)
    (original : Reads initial paths.cloudflareConfig input)
    (run : Run (restart parse print paths) Unrestricted initial launches files) :
    Survived parse print initial paths.cloudflareConfig input launches files :=
  run.historyInvariant (Survived parse print initial paths.cloudflareConfig input)
    ⟨fun _ _ held _ => held, .inl rfl⟩
    fun _ _ _ _ holds _ left => holds.restart roundTrip original left

/-- A start that succeeds installs what the original normalises to for its own port. -/
theorem Survived.installed {baseDomain : String} (roundTrip : RoundTrip parse print input)
    (original : Reads initial paths.cloudflareConfig input)
    (survived : Survived parse print initial paths.cloudflareConfig input launches files)
    (returned : (launch.replace parse print paths files).1 = some (.ok baseDomain)) :
    ∃ written, normalizeYaml parse print input launch.port = some (.ok written) ∧
      baseDomain = written.baseDomain ∧
      (launch.replace parse print paths files).2.files paths.cloudflareConfig =
        some (.file (bytes written.yaml)) := by
  cases @Start.replace_spec parse print paths launch files with
  | nothing failed _ => exact absurd returned (failed baseDomain)
  | normalized read text _ installed =>
    rw [survived.normalize roundTrip original read] at text
    exact ⟨_, text, installed baseDomain returned⟩

/-- **The configuration survives every restart.** However often the daemon is started, for
whichever ports, and whatever fails or wherever each start is killed, no file but the
configuration changes, and that is the original or its normalised text for the port of some
start. So a start that succeeds in the end installs what the original normalises to for its
own port, under the base domain the original has for every port. -/
theorem config_survives_restarts (parse : String → Except String Value)
    (print : Value → Result String) (paths : InstallPaths) (initial files : FileSystem)
    (input : String) (launches : List Start) (roundTrip : RoundTrip parse print input)
    (original : Reads initial paths.cloudflareConfig input)
    (run : Run (restart parse print paths) Unrestricted initial launches files) :
    Survived parse print initial paths.cloudflareConfig input launches files ∧
    ∀ (launch : Start) (baseDomain : String),
      (launch.replace parse print paths files).1 = some (.ok baseDomain) →
      (∃ written, normalizeYaml parse print input launch.port = some (.ok written) ∧
        (launch.replace parse print paths files).2.files paths.cloudflareConfig =
          some (.file (bytes written.yaml))) ∧
      ∀ port written, normalizeYaml parse print input port = some (.ok written) →
        baseDomain = written.baseDomain := by
  have survived := survived_of_run roundTrip original run
  refine ⟨survived, fun launch baseDomain returned => ?_⟩
  obtain ⟨written, text, same, held⟩ := survived.installed roundTrip original returned
  exact ⟨⟨written, text, held⟩, fun port other ran => same.trans (normalizeYaml_baseDomain text ran)⟩

/-- A configuration of one wildcard rule, as the YAML crate prints it. -/
def oneRule (service : String) : Value :=
  .mapping [("ingress", .sequence [
    .mapping [("hostname", .string "*.example.com"), ("service", .string service)],
    .mapping [("service", .string "http_status:404")]])]

def oneRuleHead : List Char := "ingress:\n- hostname: '*.example.com'\n  service: ".toList

def oneRuleTail : List Char := "\n- service: http_status:404\n".toList

def oneRuleText (service : String) : String :=
  String.ofList (oneRuleHead ++ service.toList ++ oneRuleTail)

/-- The crate's printer on such configurations. -/
def printOneRule : Value → Result String
  | .mapping [("ingress", .sequence [
      .mapping [("hostname", .string "*.example.com"), ("service", .string service)],
      .mapping [("service", .string "http_status:404")]])] => .ok (oneRuleText service)
  | _ => .error (.other "unsupported")

/-- The crate's parser on such texts. -/
def parseOneRule (text : String) : Except String Value :=
  if oneRuleHead.isPrefixOf text.toList && oneRuleTail.isSuffixOf text.toList then
    .ok (oneRule (String.ofList ((text.toList.drop oneRuleHead.length).rdrop oneRuleTail.length)))
  else .error "unsupported"

theorem parseOneRule_text (service : String) :
    parseOneRule (oneRuleText service) = .ok (oneRule service) := by
  have shape : (oneRuleText service).toList = oneRuleHead ++ (service.toList ++ oneRuleTail) := by
    simp [oneRuleText]
  have isHead : oneRuleHead.isPrefixOf (oneRuleText service).toList = true := by
    rw [List.isPrefixOf_iff_prefix, shape]
    exact List.prefix_append _ _
  have isTail : oneRuleTail.isSuffixOf (oneRuleText service).toList = true := by
    rw [List.isSuffixOf_iff_suffix, shape, ← List.append_assoc]
    exact List.suffix_append _ _
  rw [parseOneRule, isHead, isTail, shape, List.drop_left, List.rdrop_append_length]
  simp [oneRule]

theorem oneRule_roundTrip (input : String) : RoundTrip parseOneRule printOneRule input := by
  intro document port value baseDomain text _ _ printed
  unfold printOneRule at printed
  split at printed
  · cases printed
    exact parseOneRule_text _
  · cases printed

def examplePaths : InstallPaths where
  fwExecutable := ⟨true, ["opt", "fw", "fw"]⟩
  installDir := ⟨true, ["opt", "fw"]⟩
  cloudflareDir := ⟨true, ["opt", "fw", "cf"]⟩
  cloudflared := ⟨true, ["opt", "fw", "cf", "cloudflared"]⟩
  cloudflareConfig := ⟨true, ["opt", "fw", "cf", "config.yml"]⟩

def exampleInput : String := oneRuleText "http://127.0.0.1:8080"

def exampleFiles (path : FilePath) : Option Node :=
  if path = examplePaths.cloudflareDir then some .directory
  else if path = examplePaths.cloudflared then some (.file [])
  else if path = examplePaths.cloudflareConfig then some (.file (bytes exampleInput))
  else none

/-- A start in which nothing fails. -/
def smoothStart (port : UInt16) (killed : Option Nat) : Start where
  port
  outcomes :=
    { metadata := fun _ => none, setupEligible := false, read := none, create := fun _ => none
      write := none, flush := none, sync := none, validator := .exited true "", rename := none }
  processId := 4321
  sequence := 0
  killed

/-- A start killed with its candidate half written, one killed after the rename, and one that
is not killed. -/
def exampleStarts : List Start :=
  [smoothStart 20001 (some 2), smoothStart 20002 (some 3), smoothStart 20003 none]

theorem example_survives : ∃ files,
    Survived parseOneRule printOneRule exampleFiles examplePaths.cloudflareConfig exampleInput
      exampleStarts files := by
  have original : Reads exampleFiles examplePaths.cloudflareConfig exampleInput :=
    reads_bytes (by rfl)
  have run := @run_to_execute _ _ (restart parseOneRule printOneRule examplePaths) exampleFiles
    exampleStarts (by rfl)
  exact ⟨_, (config_survives_restarts parseOneRule printOneRule examplePaths exampleFiles _
    exampleInput exampleStarts (oneRule_roundTrip exampleInput) original run).1⟩

end CfFw.Restarts
