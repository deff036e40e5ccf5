import CfFw.Text
import CfFw.Transition

/-! The setup script between its verification and its execution, from `setup.rs` on
Unix. The client hashes the file behind an open descriptor and hands the descriptor to
the shell, while other processes write to files and replace paths as far as permissions
let them. -/
namespace CfFw.SetupScript
open Text Transition

/-! ### Metadata and checks -/

abbrev Bytes := List UInt8

/-- `setup.rs::SetupMetadata`. -/
structure SetupMetadata where
  version : String
  sha256 : String
  deriving DecidableEq

def maxSetupScriptBytes : Nat := 16 * 1024 * 1024

/-- What the download yields: an error, or the announced length and the body. -/
inductive Response where
  | failed (error : String)
  | received (contentLength : Option Nat) (body : Except String Bytes)

/-- `download_script` up to `fs::write`. -/
def downloadBytes : Response → Except String Bytes
  | .failed error => .error s!"Could not download setup script: {error}"
  | .received contentLength body =>
    if contentLength.any (maxSetupScriptBytes < ·) then
      .error "The setup script is unexpectedly large."
    else
      match body with
      | .error error => .error s!"Could not download setup script: {error}"
      | .ok bytes =>
        if maxSetupScriptBytes < bytes.length then .error "The setup script is unexpectedly large."
        else .ok bytes

/-- `verify_script` after `io::copy`, on the bytes that were copied. -/
def verifyScript (sha256 : Bytes → String) (copied : Bytes) (expected : String) :
    Except String Unit :=
  if maxSetupScriptBytes < copied.length then .error "The setup script is unexpectedly large."
  else if sha256 copied ≠ expected then .error "Setup script integrity verification failed."
  else .ok ()

/-! ### The machine -/

/-- A file behind its names, and whether other processes may write to it. -/
structure File where
  bytes : Bytes
  othersWrite : Bool

/-- What opening `/dev/fd/3` does: open the file again, or duplicate the descriptor with
its offset. -/
inductive DevFd where
  | reopens
  | shares
  deriving DecidableEq

/-- What a machine has fixed: the hash function, the embedded metadata, the meaning of
`/dev/fd`, and what other processes may do in the temporary directory and with files
that the client creates there. -/
structure Settings where
  sha256 : Bytes → String
  metadata : SetupMetadata
  devFd : DevFd
  othersReplace : Bool
  createdWritable : Bool

/-- The shell's side of the descriptor. -/
structure Shell where
  offset : Nat
  read : Bytes
  atEnd : Bool

/-- Where `run_inner` stands. A descriptor is the number of the file it refers to. -/
inductive Client where
  | starting
  | downloading
  | creating (body : Bytes)
  | writing (file : Nat) (body : Bytes)
  | opening
  | hashing (file : Nat) (copied : Bytes)
  | copied (file : Nat) (copied : Bytes)
  | verified (file : Nat) (copied : Bytes)
  | spawned (file : Nat) (copied : Bytes)
  | running (file : Nat) (copied : Bytes) (shell : Shell)
  | removing
  | finished
  | failed (error : String)

/-- All files that exist or existed, the one at the temporary path, and the client. -/
structure Machine where
  files : List File
  path : Option Nat
  client : Client

inductive Label where
  | checkPath
  | respond (response : Response) (removed : Bool)
  | createScript (error : Option String) (removed : Bool)
  | writeScript (error : Option String) (removed : Bool)
  | openScript (error : Option String) (removed : Bool)
  | readScript (count : Nat)
  | readFails (error : String) (removed : Bool)
  | verify (removed : Bool)
  | spawn (error : Option String)
  | shellOpens
  | shellReads (count : Nat)
  | shellExits (code : Option Int)
  | removeScript (error : Option String)
  | overwrite (file : Nat) (bytes : Bytes)
  | newFile (file : File)
  | replacePath (file : Option Nat)

namespace Machine

variable (settings : Settings) (d : Machine)

/-- The client fails, after `remove_if_present` where that is called. -/
def fail (error : String) (removed : Bool) : Machine :=
  { d with path := if removed then none else d.path, client := .failed error }

/-- `open` with `O_CREAT` and `O_TRUNC`: the file at the path, emptied, or a new one. -/
def createOrTruncate (body : Bytes) : Machine :=
  match d.path with
  | some file =>
    { d with
      files := d.files.modify file fun held => { held with bytes := [] }
      client := .writing file body }
  | none =>
    { files := d.files ++ [⟨[], settings.createdWritable⟩]
      path := some d.files.length
      client := .writing d.files.length body }

/-- The bytes of a file. -/
def contents (file : Nat) : Bytes := (d.files[file]?).elim [] File.bytes

/-- One `read` of at most `count` bytes. -/
def readAt (file offset count : Nat) : Bytes := ((d.contents file).drop offset).take count

/-- A step of the client or of the shell it has started. -/
def clientStep : Label → Client → Option Machine
  | .checkPath, .starting =>
    some { d with client := if d.path.isSome then .opening else .downloading }
  | .respond response removed, .downloading =>
    match downloadBytes response with
    | .error error => some (d.fail error removed)
    | .ok body => some { d with client := .creating body }
  | .createScript error removed, .creating body =>
    match error with
    | some error => some (d.fail error removed)
    | none => some (d.createOrTruncate settings body)
  | .writeScript error removed, .writing file body =>
    match error with
    | some error => some (d.fail error removed)
    | none =>
      some { d with
        files := d.files.modify file fun held =>
          { held with bytes := body ++ held.bytes.drop body.length }
        client := .opening }
  | .openScript error removed, .opening =>
    match error, d.path with
    | some error, _ => some (d.fail error removed)
    | none, some file =>
      if file < d.files.length then some { d with client := .hashing file [] } else none
    | none, none => none
  | .readScript count, .hashing file copied =>
    if count = 0 then none
    else
      match d.readAt file copied.length count with
      | [] => some { d with client := .copied file copied }
      | more => some { d with client := .hashing file (copied ++ more) }
  | .readFails error removed, .hashing _ _ => some (d.fail error removed)
  | .verify removed, .copied file copied =>
    match verifyScript settings.sha256 copied settings.metadata.sha256 with
    | .error error => some (d.fail error removed)
    | .ok () => some { d with client := .verified file copied }
  | .spawn error, .verified file copied =>
    match error with
    | some error => some (d.fail error false)
    | none => some { d with client := .spawned file copied }
  | .shellOpens, .spawned file copied =>
    -- The hashing has left the shared offset behind the bytes it read.
    let offset := if settings.devFd = .reopens then 0 else copied.length
    some { d with client := .running file copied ⟨offset, [], false⟩ }
  | .shellReads count, .running file copied shell =>
    if count = 0 ∨ shell.atEnd = true then none
    else
      match d.readAt file shell.offset count with
      | [] => some { d with client := .running file copied { shell with atEnd := true } }
      | more =>
        some { d with
          client := .running file copied
            { shell with offset := shell.offset + more.length, read := shell.read ++ more } }
  | .shellExits code, .running _ _ _ =>
    if code = some 0 then some { d with client := .removing }
    else
      let code := code.elim "unknown" toString
      some (d.fail s!"Setup script exited with code {code}." false)
  | .removeScript error, .removing =>
    match error with
    | some error => some (d.fail error false)
    | none => some { d with path := none, client := .finished }
  | _, _ => none

/-- A step of the machine. Other processes write to the files that they may write to,
create files, and change what the path leads to where they may. -/
def step (d : Machine) : Label → Option Machine
  | .overwrite file bytes =>
    match d.files[file]? with
    | some held =>
      if held.othersWrite then some { d with files := d.files.set file { held with bytes } }
      else none
    | none => none
  | .newFile file => some { d with files := d.files ++ [file] }
  | .replacePath file =>
    if settings.othersReplace = true then some { d with path := file } else none
  | label => d.clientStep settings label d.client

/-- The client is about to begin, whatever there is at the path. -/
def Initial : Prop := d.client = .starting

/-- Where the shell runs, the hash of the bytes that were verified is the embedded one,
and the shell has read them from the beginning, all of them once it is at the end. -/
def RunsVerified : Prop :=
  match d.client with
  | .spawned _ copied => settings.sha256 copied = settings.metadata.sha256
  | .running _ copied shell =>
    settings.sha256 copied = settings.metadata.sha256 ∧ shell.read <+: copied ∧
      (shell.atEnd = true → shell.read = copied)
  | _ => True

/-- Bytes that a write may not change: those that were hashed, as long as the shell may
still read them, and the end of the file once it was reached. -/
def KeepsHashed (d : Machine) (file : Nat) (bytes : Bytes) : Prop :=
  match d.client with
  | .hashing held copied => file = held → copied <+: bytes
  | .copied held copied | .verified held copied | .spawned held copied =>
    file = held → bytes = copied
  | .running held copied shell =>
    file = held → shell.atEnd = true ∨ bytes.drop shell.read.length = copied.drop shell.read.length
  | _ => True

/-- The shell gets a descriptor at the beginning of the file, and nobody changes what was
hashed. -/
def Guarded (d : Machine) : Label → Prop
  | .overwrite file bytes => d.KeepsHashed file bytes
  | .shellOpens =>
    settings.devFd = .reopens ∨ ∀ file copied, d.client = .spawned file copied → copied = []
  | _ => True

/-! ### One step -/

/-- What holds of the descriptor in every phase: the bytes hashed so far are in front of
the file, and once they are all hashed what the shell has yet to read is still the same. -/
def Sound : Prop :=
  match d.client with
  | .hashing file copied => file < d.files.length ∧ copied <+: d.contents file
  | .copied file copied => file < d.files.length ∧ d.contents file = copied
  | .verified file copied | .spawned file copied =>
    (file < d.files.length ∧ d.contents file = copied) ∧
      settings.sha256 copied = settings.metadata.sha256
  | .running file copied shell =>
    file < d.files.length ∧ settings.sha256 copied = settings.metadata.sha256 ∧
      shell.offset = shell.read.length ∧ shell.read <+: copied ∧
      (shell.atEnd = true → shell.read = copied) ∧
      (shell.atEnd = true ∨
        (d.contents file).drop shell.read.length = copied.drop shell.read.length)
  | _ => True

variable {settings d} {d' : Machine} {label : Label} {labels : List Label}
  {file other count offset : Nat} {bytes more : Bytes}

private theorem readAt_nil (some : count ≠ 0) (empty : d.readAt file offset count = []) :
    (d.contents file).drop offset = [] := by
  rcases List.take_eq_nil_iff.mp empty with zero | empty
  · exact absurd zero some
  · exact empty

private theorem readAt_prefix (read : d.readAt file offset count = more) :
    more <+: (d.contents file).drop offset :=
  read ▸ List.take_prefix _ _

private theorem contents_set {held : File} (exists_ : d.files[other]? = some held)
    (path : Option Nat)
    (client : Client) : contents ⟨d.files.set other { held with bytes }, path, client⟩ file =
      if file = other then bytes else d.contents file := by
  obtain ⟨inside, _⟩ := List.getElem?_eq_some_iff.mp exists_
  rw [contents, contents, List.getElem?_set]
  by_cases same : other = file
  · subst same
    rw [if_pos rfl, if_pos inside, if_pos rfl]
    rfl
  · rw [if_neg same, if_neg (Ne.symm same)]

private theorem contents_append (inside : file < d.files.length) (added : File) (path : Option Nat)
    (client : Client) : contents ⟨d.files ++ [added], path, client⟩ file = d.contents file := by
  rw [contents, contents, List.getElem?_append_left inside]

/-- A file that is a given text still is, after a write that does not change it. -/
theorem whole_set {held : File} {copied : Bytes} (exists_ : d.files[other]? = some held)
    (path : Option Nat) (client : Client) (whole : d.contents file = copied)
    (keeps : other = file → bytes = copied) :
    contents ⟨d.files.set other { held with bytes }, path, client⟩ file = copied := by
  rw [contents_set exists_]
  split_ifs with same
  · exact keeps same.symm
  · exact whole

/-- Writes of other processes keep the descriptor sound, as far as they are guarded. -/
theorem sound_overwrite {held : File} (sound : d.Sound settings)
    (exists_ : d.files[other]? = some held) (keeps : d.KeepsHashed other bytes) :
    ({ d with files := d.files.set other { held with bytes } } : Machine).Sound settings := by
  cases client : d.client with
  | hashing file copied =>
    simp only [Sound, KeepsHashed, client, List.length_set, contents_set exists_] at sound keeps ⊢
    refine ⟨sound.1, ?_⟩
    split_ifs with same
    · exact keeps same.symm
    · exact sound.2
  | copied file copied =>
    simp only [Sound, KeepsHashed, client, List.length_set] at sound keeps ⊢
    exact ⟨sound.1, whole_set exists_ _ _ sound.2 keeps⟩
  | verified file copied =>
    simp only [Sound, KeepsHashed, client, List.length_set] at sound keeps ⊢
    exact ⟨⟨sound.1.1, whole_set exists_ _ _ sound.1.2 keeps⟩, sound.2⟩
  | spawned file copied =>
    simp only [Sound, KeepsHashed, client, List.length_set] at sound keeps ⊢
    exact ⟨⟨sound.1.1, whole_set exists_ _ _ sound.1.2 keeps⟩, sound.2⟩
  | running file copied shell =>
    simp only [Sound, KeepsHashed, client, List.length_set, contents_set exists_] at sound keeps ⊢
    obtain ⟨inside, verified, offset, front, ended, unread⟩ := sound
    refine ⟨inside, verified, offset, front, ended, ?_⟩
    split_ifs with same
    · exact keeps same.symm
    · exact unread
  | _ => simp only [Sound]

private theorem sound_newFile (sound : d.Sound settings) (added : File) :
    ({ d with files := d.files ++ [added] } : Machine).Sound settings := by
  have longer : ∀ {file}, file < d.files.length → file < (d.files ++ [added]).length := by
    intro file inside
    rw [List.length_append]
    omega
  cases client : d.client with
  | hashing file copied =>
    simp only [Sound, client] at sound ⊢
    exact ⟨longer sound.1, by rw [contents_append sound.1]; exact sound.2⟩
  | copied file copied =>
    simp only [Sound, client] at sound ⊢
    exact ⟨longer sound.1, by rw [contents_append sound.1]; exact sound.2⟩
  | verified file copied =>
    simp only [Sound, client] at sound ⊢
    exact ⟨⟨longer sound.1.1, by rw [contents_append sound.1.1]; exact sound.1.2⟩, sound.2⟩
  | spawned file copied =>
    simp only [Sound, client] at sound ⊢
    exact ⟨⟨longer sound.1.1, by rw [contents_append sound.1.1]; exact sound.1.2⟩, sound.2⟩
  | running file copied shell =>
    simp only [Sound, client] at sound ⊢
    rw [contents_append sound.1]
    exact ⟨longer sound.1, sound.2⟩
  | _ => simp only [Sound]

private theorem sound_fail (error : String) (removed : Bool) :
    (d.fail error removed).Sound settings :=
  trivial

/-- The reading of the hashed bytes goes on, or is at the end. -/
theorem sound_read {copied : Bytes} (sound : d.Sound settings)
    (client : d.client = .hashing file copied) (some : count ≠ 0)
    (read : d.readAt file copied.length count = more) :
    (more ≠ [] → Sound settings ⟨d.files, d.path, .hashing file (copied ++ more)⟩) ∧
      (more = [] → Sound settings ⟨d.files, d.path, .copied file copied⟩) := by
  simp only [Sound, client] at sound
  obtain ⟨inside, rest, shape⟩ := sound
  refine ⟨fun _ => ⟨inside, ?_⟩, ?_⟩
  · obtain ⟨later, following⟩ := readAt_prefix read
    rw [← shape, List.drop_left] at following
    refine ⟨later, ?_⟩
    rw [List.append_assoc, following]
    exact shape
  · rintro rfl
    have finished := readAt_nil some read
    rw [← shape, List.drop_left] at finished
    refine ⟨inside, ?_⟩
    change d.contents file = copied
    rw [← shape, finished, List.append_nil]

/-- The shell's reading goes on, or is at the end. -/
theorem sound_shellReads {copied : Bytes} {shell : Shell} (sound : d.Sound settings)
    (client : d.client = .running file copied shell) (some : count ≠ 0) (going : shell.atEnd ≠ true)
    (read : d.readAt file shell.offset count = more) :
    (more ≠ [] → Sound settings ⟨d.files, d.path, .running file copied
      ⟨shell.offset + more.length, shell.read ++ more, shell.atEnd⟩⟩) ∧
      (more = [] → Sound settings ⟨d.files, d.path, .running file copied
        ⟨shell.offset, shell.read, true⟩⟩) := by
  simp only [Sound, client] at sound
  obtain ⟨inside, verified, offset, ⟨rest, shape⟩, ended, unread⟩ := sound
  have same := unread.resolve_left going
  rw [← shape, List.drop_left] at same
  refine ⟨fun _ => ?_, ?_⟩
  · obtain ⟨later, following⟩ := readAt_prefix read
    rw [offset, same] at following
    refine ⟨inside, verified, ?_, ⟨later, ?_⟩, fun atEnd => absurd atEnd going, .inr ?_⟩
    · rw [List.length_append, offset]
    · rw [List.append_assoc, following, shape]
    · change (d.contents file).drop (shell.read ++ more).length = _
      rw [List.length_append, ← List.drop_drop, same, ← shape, ← List.drop_drop, List.drop_left]
  · rintro rfl
    have finished := readAt_nil some read
    rw [offset, same] at finished
    rw [finished, List.append_nil] at shape
    exact ⟨inside, verified, offset, shape ▸ List.prefix_refl _, fun _ => shape, .inl rfl⟩

private theorem verifyScript_ok {copied : Bytes} {expected : String} {sha256 : Bytes → String}
    (checked : verifyScript sha256 copied expected = .ok ()) : sha256 copied = expected := by
  unfold verifyScript at checked
  split_ifs at checked with _ same
  exact not_not.mp same

/-- A descriptor at the beginning of the file has everything to read. -/
theorem sound_shellOpens {copied : Bytes}
    (whole : file < d.files.length ∧ d.contents file = copied)
    (verified : settings.sha256 copied = settings.metadata.sha256)
    (atStart : settings.devFd = .reopens ∨ copied = []) :
    Sound settings ⟨d.files, d.path, .running file copied
      ⟨if settings.devFd = .reopens then 0 else copied.length, [], false⟩⟩ := by
  refine ⟨whole.1, verified, ?_, List.nil_prefix, fun atEnd => absurd atEnd Bool.false_ne_true,
    .inr ?_⟩
  · rcases atStart with reopens | rfl
    · exact if_pos reopens
    · exact ite_self 0
  · exact congrArg (List.drop 0) whole.2

private theorem sound_clientStep {client : Client} (sound : d.Sound settings)
    (current : d.client = client)
    (guarded : d.Guarded settings label)
    (taken : d.clientStep settings label client = some d') : d'.Sound settings := by
  unfold clientStep at taken
  split at taken
  · cases taken
    split_ifs <;> exact trivial
  · split at taken <;> cases taken
    · exact sound_fail _ _
    · exact trivial
  · split at taken <;> cases taken
    · exact sound_fail _ _
    · unfold createOrTruncate
      split <;> exact trivial
  · split at taken <;> cases taken
    · exact sound_fail _ _
    · exact trivial
  · split at taken
    · cases taken
      exact sound_fail _ _
    · split_ifs at taken with inside
      cases taken
      exact ⟨inside, List.nil_prefix⟩
    · cases taken
  · split_ifs at taken with some
    split at taken <;> cases taken
    · rename_i read
      exact (sound_read sound current some read).2 rfl
    · rename_i nonempty
      exact (sound_read sound current some rfl).1 nonempty
  · cases taken
    exact sound_fail _ _
  · rename_i removed file copied
    split at taken <;> cases taken
    · exact sound_fail _ _
    · rename_i checked
      simp only [Sound, current] at sound
      exact ⟨sound, verifyScript_ok checked⟩
  · split at taken <;> cases taken
    · exact sound_fail _ _
    · simp only [Sound, current] at sound
      exact sound
  · cases taken
    simp only [Sound, current] at sound
    exact sound_shellOpens sound.1 sound.2
      (guarded.imp_right fun nothing => nothing _ _ current)
  · split_ifs at taken with stuck
    obtain ⟨some, going⟩ := not_or.mp stuck
    split at taken <;> cases taken
    · rename_i read
      exact (sound_shellReads sound current some going read).2 rfl
    · rename_i nonempty
      exact (sound_shellReads sound current some going rfl).1 nonempty
  · split_ifs at taken <;> cases taken
    · exact trivial
    · exact sound_fail _ _
  · split at taken <;> cases taken
    · exact sound_fail _ _
    · exact trivial
  · cases taken

/-- Every guarded step keeps the descriptor sound. -/
theorem sound_step (sound : d.Sound settings) (guarded : d.Guarded settings label)
    (taken : step settings d label = some d') : d'.Sound settings := by
  unfold step at taken
  split at taken
  · split at taken
    · rename_i file bytes held exists_
      split_ifs at taken
      cases taken
      exact sound_overwrite sound exists_ guarded
    · cases taken
  · cases taken
    exact sound_newFile sound _
  · split_ifs at taken
    cases taken
    exact sound
  · exact sound_clientStep sound rfl guarded taken

theorem Sound.runsVerified (sound : d.Sound settings) : d.RunsVerified settings := by
  cases client : d.client with
  | spawned file copied =>
    simp only [Sound, RunsVerified, client] at sound ⊢
    exact sound.2
  | running file copied shell =>
    simp only [Sound, RunsVerified, client] at sound ⊢
    obtain ⟨_, verified, _, front, ended, _⟩ := sound
    exact ⟨verified, front, ended⟩
  | _ => simp only [RunsVerified, client]

/-- **The script that runs is the script that was verified.** In every run in which the
shell's descriptor begins at the beginning of the file, and nobody writes other bytes
over what was hashed, the bytes that the shell reads are those whose hash is the
embedded one, from the first to the last. -/
theorem runs_verified_script {start : Machine} (initial : start.Initial)
    (run : Run (step settings) (Guarded settings) start labels d) : d.RunsVerified settings := by
  refine Sound.runsVerified (run.invariant (Sound settings) ?_ ?_)
  · rw [Sound, initial]
    exact trivial
  · intro state label after sound guarded taken
    exact sound_step sound guarded taken

/-! ### Runs on one machine -/

/-- The bytes of `Write-Output 'setup'`. -/
def setupBytes : Bytes :=
  [87, 114, 105, 116, 101, 45, 79, 117, 116, 112, 117, 116, 32, 39, 115, 101, 116, 117, 112, 39]

def setupSha256 : String := "ec12dbb43b188304b188895cc7348b85912425507c44ed32e7daa25e86f94522"

/-- A machine where others own the file at the path; the hash is known for one text. -/
def sharedMachine (devFd : DevFd) : Settings where
  sha256 bytes := if bytes = setupBytes then setupSha256 else ""
  metadata := ⟨"v1.2.3", setupSha256⟩
  devFd := devFd
  othersReplace := true
  createdWritable := false

def presentScript : Machine := ⟨[⟨setupBytes, true⟩], some 0, .starting⟩

/-- The client verifies the script that is present and starts the shell. -/
def launch : List Label :=
  [.checkPath, .openScript none false, .readScript 8192, .readScript 8192, .verify false,
    .spawn none]

/-- The path is replaced after the hashing; the shell still reads what was hashed. -/
def replacedRun : List Label :=
  launch ++ [.newFile ⟨[120], true⟩, .replacePath (some 1), .shellOpens, .shellReads 4096,
    .shellReads 4096]

theorem replaced_script_not_run :
    RunsVerified (sharedMachine .reopens)
      ((execute (step (sharedMachine .reopens)) presentScript replacedRun).get (by decide)) :=
  @runs_verified_script _ _ replacedRun presentScript rfl
    (@run_of_executeChecked _ _ _ _ _ _ _
      (fun _ label => match label with | .overwrite _ _ => false | _ => true)
      (by
        intro state label checked
        cases label with
        | overwrite => cases checked
        | shellOpens => exact .inl rfl
        | _ => exact trivial)
      rfl)

/-- Where the descriptor is shared the shell finds nothing to read, and where it is
opened again it reads what another process has written after the hashing. -/
theorem unverified_script_run :
    (∃ d, Run (step (sharedMachine .shares)) Unrestricted presentScript
        (launch ++ [.shellOpens, .shellReads 4096]) d ∧
      d.client = .running 0 setupBytes ⟨20, [], true⟩ ∧ ¬ d.RunsVerified (sharedMachine .shares)) ∧
    ∃ d, Run (step (sharedMachine .reopens)) Unrestricted presentScript
        (launch ++ [.overwrite 0 [120], .shellOpens, .shellReads 4096]) d ∧
      d.client = .running 0 setupBytes ⟨1, [120], false⟩ ∧
      ¬ d.RunsVerified (sharedMachine .reopens) := by
  refine ⟨⟨⟨[⟨setupBytes, true⟩], some 0, .running 0 setupBytes ⟨20, [], true⟩⟩,
    run_of_execute rfl, rfl, fun verified => ?_⟩, ⟨⟨[⟨[120], true⟩], some 0,
    .running 0 setupBytes ⟨1, [120], false⟩⟩, run_of_execute rfl, rfl, fun verified => ?_⟩⟩
  · exact absurd (verified.2.2 rfl) (by decide)
  · exact absurd verified.2.1 (by decide)

end Machine

end CfFw.SetupScript
