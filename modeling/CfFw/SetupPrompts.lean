import CfFw.Loop
import CfFw.SetupHostname
import CfFw.SetupRun

/-! What setup asks at the terminal. The account and the hostname are each asked for in a
loop, over the lines that come before the input ends. -/
namespace CfFw.SetupPrompts
open Loop

/-! ### The number on a line -/

/-- What `int` depends on in the interpreter that runs setup. `decimal` is the digit that a
character beyond ASCII stands for, and `maxStrDigits` is `sys.get_int_max_str_digits`,
where zero is no limit. -/
structure Interpreter where
  decimal : Char → Option (Fin 10)
  maxStrDigits : Nat

/-- A character of the text as `int` reads it. -/
def asciiChar (python : Interpreter) (c : Char) : Char :=
  if c.toNat < 127 then c
  else if isSpace c then ' '
  else
    match python.decimal c with
    | some digit => Char.ofNat (48 + digit)
    | none => '?'

def isAsciiSpace (c : Char) : Bool :=
  (decide (9 ≤ c.toNat) && decide (c.toNat ≤ 13)) || c == ' '

/-- The digits of a literal, where each underscore stands between two of them. -/
def literalDigits : List Char → Option (List Char)
  | [] => none
  | [c] => if c.isDigit then some [c] else none
  | c :: next :: rest =>
    if ¬ c.isDigit then none
    else if next = '_' then (literalDigits rest).map (c :: ·)
    else (literalDigits (next :: rest)).map (c :: ·)

/-- Whether a literal is negative, and what comes after its sign. -/
def splitSign : List Char → Bool × List Char
  | [] => (false, [])
  | c :: rest => if c = '-' then (true, rest) else if c = '+' then (false, rest) else (false, c :: rest)

def trimAscii (text : List Char) : List Char :=
  (text.dropWhile isAsciiSpace).rdropWhile isAsciiSpace

/-- `int` on a text; `none` is `ValueError`. -/
def int (python : Interpreter) (text : String) : Option Int :=
  let (negative, literal) := splitSign (trimAscii (text.toList.map (asciiChar python)))
  match literalDigits literal with
  | none => none
  | some digits =>
    if python.maxStrDigits ≠ 0 ∧ python.maxStrDigits < digits.length then none
    else
      let value : Nat := Nat.ofDigitChars 10 digits 0
      some (if negative then -(value : Int) else value)

/-! ### The prompts -/

/-- The terminal: the lines to be read before the input ends, and what has been shown. -/
structure Terminal where
  input : List String
  shown : List String

/-- `CONSOLE.line`. -/
def Terminal.line (text : String) (t : Terminal) : Terminal := { t with shown := t.shown ++ [text] }

/-- `CONSOLE.error`. -/
def Terminal.error (message : String) (t : Terminal) : Terminal := t.line s!" ERROR  {message}"

/-- `CONSOLE.prompt`; `none` is `EOFError`, which it raises each time once the input has
ended. -/
def Terminal.prompt (message : String) (t : Terminal) : Option String × Terminal :=
  match t.input with
  | [] => (none, t.line message)
  | typed :: rest => (some typed, { t.line message with input := rest })

variable {α : Type*}

/-- An entry of the list that `Setup.choose` shows, which `CONSOLE.detail` puts together.
`describe` is `clean(item.get(label, ""))`. -/
def entryLine (describe : α → String) (entry : α × Nat) : String :=
  s!"  [{entry.2}] {describe entry.1}"

/-- What `Setup.choose` does before its loop. -/
def announce (describe : α → String) (items : List α) (t : Terminal) : Terminal :=
  (items.zipIdx 1).foldl (fun t entry => t.line (entryLine describe entry))
    ((t.line "").line "Select a Cloudflare account:")

/-- The item of a value in range. -/
def itemAt (items : List α) (value : Int) : Option α :=
  if 1 ≤ value ∧ value ≤ items.length then items[(value - 1).toNat]? else none

/-- One pass of the loop in `Setup.choose`. -/
def choosePass (python : Interpreter) (items : List α) (t : Terminal) : (α × Terminal) ⊕ Terminal :=
  let (typed, t) := t.prompt "Account number: "
  let value :=
    match typed with
    | some text =>
      match int python text with
      | some value => value
      -- `except (ValueError, EOFError)` makes both the same value.
      | none => 0
    | none => 0
  match itemAt items value with
  | some item => .inl (item, t)
  | none => .inr (t.error "Choose one of the account numbers shown above.")

/-- `Setup.choose` with a bound on the passes of its loop, `none` where they are not
enough. -/
def choose (python : Interpreter) (describe : α → String) (items : List α) (fuel : Nat)
    (t : Terminal) : Option (Except String α × Terminal) :=
  match items with
  | [] => some (.error "No Cloudflare accounts are available to this authorization.", t)
  | [item] => some (.ok item, t)
  | _ =>
    (run (choosePass python items) fuel (announce describe items t)).map
      fun (item, t) => (.ok item, t)

def hostnamePrompt : String := "Wildcard domain (for example, *.fw.example.com): "

/-- One pass of the loop in `Setup.read_hostname`. -/
def readHostnamePass (lower : String → String) (t : Terminal) :
    (Except String String × Terminal) ⊕ Terminal :=
  let (typed, t) := t.prompt hostnamePrompt
  match typed with
  | none => .inl (.error "Input ended while reading the wildcard domain.", t)
  | some text =>
    let value := rstripDots (lower (strip text))
    if Regex.fullmatch hostRe value.toList then .inl (.ok value, t)
    else .inr (t.error "Enter a valid wildcard hostname beginning with *.")

/-! ### Numbers -/

variable {python : Interpreter} {describe : α → String} {items : List α} {item : α}
  {t left : Terminal} {lines shown : List String} {text : String} {value : Int} {fuel n : Nat}

/-- The account that a line asks for. -/
def accountFor (python : Interpreter) (items : List α) (text : String) : Option α :=
  (int python text).bind (itemAt items)

/-- The line is a number in range. -/
def InRange (python : Interpreter) (items : List α) (text : String) : Prop :=
  ∃ value, int python text = some value ∧ 1 ≤ value ∧ value ≤ items.length

private theorem itemAt_isSome : (itemAt items value).isSome ↔ 1 ≤ value ∧ value ≤ items.length := by
  unfold itemAt
  split_ifs with inside
  · have bound : (value - 1).toNat < items.length := by omega
    rw [List.getElem?_eq_getElem bound]
    exact iff_of_true rfl inside
  · exact iff_of_false Bool.false_ne_true inside

private theorem itemAt_zero :
    itemAt items 0 = none := if_neg fun inside => absurd inside.1 (by decide)

private theorem accountFor_isSome :
    (accountFor python items text).isSome ↔ InRange python items text := by
  unfold accountFor InRange
  cases int python text with
  | none =>
    refine iff_of_false Bool.false_ne_true ?_
    rintro ⟨value, read, _⟩
    cases read
  | some value =>
    rw [Option.bind_some, itemAt_isSome]
    constructor
    · intro inside
      exact ⟨value, rfl, inside⟩
    · rintro ⟨_, ⟨⟩, inside⟩
      exact inside

/-! ### Choosing an account -/

/-- What a pass shows that goes on. -/
def exchange : List String :=
  ["Account number: ", " ERROR  Choose one of the account numbers shown above."]

/-- What `count` passes show that go on. -/
def exchanges (count : Nat) : List String := (List.replicate count exchange).flatten

private theorem shown_exchange : shown ++ ["Account number: "] ++
    [" ERROR  Choose one of the account numbers shown above."] = shown ++ exchange := by
  rw [List.append_assoc]
  rfl

private theorem choosePass_typed : choosePass python items ⟨text :: lines, shown⟩ =
    match accountFor python items text with
    | some item => .inl (item, ⟨lines, shown ++ ["Account number: "]⟩)
    | none => .inr ⟨lines, shown ++ exchange⟩ := by
  unfold choosePass accountFor
  rw [← shown_exchange]
  cases read : int python text with
  | none =>
    simp only [Terminal.prompt, read, itemAt_zero, Option.bind_none]
    rfl
  | some value =>
    simp only [Terminal.prompt, read, Option.bind_some]
    cases itemAt items value with
    | none => rfl
    | some item => rfl

/-- The end of the input is one more answer that is out of range. -/
theorem choosePass_ended :
    choosePass python items ⟨[], shown⟩ = .inr ⟨[], shown ++ exchange⟩ := by
  unfold choosePass
  rw [← shown_exchange]
  simp only [Terminal.prompt, itemAt_zero]
  rfl

/-- The loop goes on over refused lines, and over the end of the input. -/
theorem after_choosePass (refused : ∀ text ∈ lines.take n, accountFor python items text = none) :
    after (choosePass python items) n ⟨lines, shown⟩ =
      some ⟨lines.drop n, shown ++ exchanges n⟩ := by
  induction n generalizing lines shown with
  | zero =>
    rw [List.drop_zero, exchanges, List.replicate_zero, List.flatten_nil, List.append_nil]
    rfl
  | succ n ih =>
    have longer : shown ++ exchanges (n + 1) = shown ++ exchange ++ exchanges n := by
      rw [exchanges, List.replicate_succ, List.flatten_cons, List.append_assoc, exchanges]
    cases lines with
    | nil =>
      rw [List.take_nil] at refused
      rw [after_onward choosePass_ended, longer, ih (by rwa [List.take_nil]), List.drop_nil,
        List.drop_nil]
    | cons text lines =>
      rw [List.take_succ_cons] at refused
      obtain ⟨here, later⟩ := List.forall_mem_cons.mp refused
      have onward : choosePass python items ⟨text :: lines, shown⟩ =
          .inr ⟨lines, shown ++ exchange⟩ := by
        rw [choosePass_typed, here]
      rw [after_onward onward, longer, ih later]
      rfl

/-- What `Setup.choose` shows before its loop. -/
def listing (describe : α → String) (items : List α) : List String :=
  ["", "Select a Cloudflare account:"] ++ (items.zipIdx 1).map (entryLine describe)

private theorem foldl_line {β : Type*} (text : β → String) (entries : List β) :
    entries.foldl (fun t entry => t.line (text entry)) t =
      ⟨t.input, t.shown ++ entries.map text⟩ := by
  induction entries generalizing t with
  | nil => rw [List.foldl_nil, List.map_nil, List.append_nil]
  | cons entry entries ih =>
    rw [List.foldl_cons, ih, List.map_cons]
    simp only [Terminal.line, List.append_assoc, List.singleton_append]

private theorem announce_eq :
    announce describe items t = ⟨t.input, t.shown ++ listing describe items⟩ := by
  rw [announce, foldl_line, listing]
  simp only [Terminal.line, List.append_assoc, List.cons_append, List.nil_append]

private theorem choose_several (several : 2 ≤ items.length) :
    choose python describe items fuel t =
      (run (choosePass python items) fuel ⟨t.input, t.shown ++ listing describe items⟩).map
        fun (item, t) => (.ok item, t) := by
  rw [← announce_eq]
  match items, several with
  | first :: second :: rest, _ => rfl

/-- `Setup.choose` has one result, whatever bounds its loop. -/
theorem choose_unique {first second : Except String α × Terminal} {other : Nat}
    (ended : choose python describe items fuel t = some first)
    (again : choose python describe items other t = some second) : first = second := by
  match items with
  | [] => exact Option.some.inj (ended.symm.trans again)
  | [only] => exact Option.some.inj (ended.symm.trans again)
  | _ :: _ :: _ =>
    obtain ⟨_, ran, rfl⟩ := Option.map_eq_some_iff.mp ended
    obtain ⟨_, ranAgain, rfl⟩ := Option.map_eq_some_iff.mp again
    rw [run_unique ran ranAgain]

/-- The first line that is accepted decides, and no line after it is read. -/
theorem choose_first {earlier : List String} (several : 2 ≤ items.length)
    (refused : ∀ text ∈ earlier, accountFor python items text = none)
    (accepted : accountFor python items text = some item) :
    choose python describe items (earlier.length + 1) ⟨earlier ++ text :: lines, shown⟩ =
      some (.ok item, ⟨lines, shown ++ listing describe items ++ exchanges earlier.length ++
        ["Account number: "]⟩) := by
  have passed : after (choosePass python items) earlier.length
      ⟨earlier ++ text :: lines, shown ++ listing describe items⟩ =
        some ⟨text :: lines, shown ++ listing describe items ++ exchanges earlier.length⟩ := by
    have front := @after_choosePass _ python items (earlier ++ text :: lines)
      (shown ++ listing describe items) earlier.length
    rw [List.take_left, List.drop_left] at front
    exact front refused
  have left : choosePass python items
      ⟨text :: lines, shown ++ listing describe items ++ exchanges earlier.length⟩ =
        .inl (item, ⟨lines, shown ++ listing describe items ++ exchanges earlier.length ++
          ["Account number: "]⟩) := by
    rw [choosePass_typed, accepted]
  rw [choose_several several, run_after passed, run_left left]
  rfl

/-- Without a line that is accepted, no bound on the passes is enough. -/
theorem choose_never (several : 2 ≤ items.length)
    (refused : ∀ text ∈ t.input, accountFor python items text = none) :
    choose python describe items fuel t = none := by
  have onward := @after_choosePass _ python items t.input (t.shown ++ listing describe items) fuel
    fun text member => refused text (List.mem_of_mem_take member)
  rw [choose_several several, run_eq_none onward]
  rfl

/-- `Setup.choose` ends, with the account for the first line that is a number in range, or
with an error where the input has no such line. -/
def Selects (python : Interpreter) (describe : α → String) (items : List α) (t : Terminal) : Prop :=
  ∃ fuel result left, choose python describe items fuel t = some (result, left) ∧
    match t.input.findSome? (accountFor python items) with
    | some item => result = .ok item
    | none => ∃ message, result = .error message

/-- **The choice ends on an answer, and on nothing else.** With two accounts or more,
`Setup.choose` ends as it should exactly when one of the lines before the end of the input
is a number in range. -/
theorem choose_selects_iff (several : 2 ≤ items.length) :
    Selects python describe items t ↔ ∃ text ∈ t.input, InRange python items text := by
  cases first : t.input.findSome? (accountFor python items) with
  | none =>
    have refused := List.findSome?_eq_none_iff.mp first
    refine iff_of_false ?_ ?_
    · rintro ⟨fuel, result, left, ended, _⟩
      rw [choose_never several refused] at ended
      cases ended
    · rintro ⟨text, member, inRange⟩
      have accepted := accountFor_isSome.mpr inRange
      rw [refused text member] at accepted
      cases accepted
  | some item =>
    obtain ⟨earlier, text, later, shape, accepted, refused⟩ := List.findSome?_eq_some_iff.mp first
    refine iff_of_true ?_ ⟨text, ?_, ?_⟩
    · refine ⟨earlier.length + 1, .ok item, ⟨later, t.shown ++ listing describe items ++
        exchanges earlier.length ++ ["Account number: "]⟩, ?_, ?_⟩
      · rw [← choose_first several refused accepted, ← shape]
      · rw [first]
    · rw [shape]
      exact List.mem_append_right earlier List.mem_cons_self
    · apply accountFor_isSome.mp
      rw [accepted]
      rfl

/-- An interpreter that is given ASCII lines only. -/
def ascii : Interpreter := ⟨fun _ => none, 4300⟩

def twoAccounts : List SetupRun.Account := [⟨"a1", "Home"⟩, ⟨"a2", "Work"⟩]

/-- Three lines are refused before one chooses the second account. -/
theorem second_account_selected :
    Selects ascii SetupRun.Account.name twoAccounts ⟨["0", "two", "3", " +2 ", "1"], []⟩ :=
  (choose_selects_iff (by decide)).mpr
    ⟨" +2 ", by decide, 2, by decide, by decide, by decide⟩

/-- A number out of range, and then the end of the input. -/
theorem ended_input_never_selects :
    2 ≤ twoAccounts.length ∧ ¬ Selects ascii SetupRun.Account.name twoAccounts ⟨["3"], []⟩ := by
  have several : 2 ≤ twoAccounts.length := by decide
  refine ⟨several, ?_⟩
  rintro ⟨fuel, result, left, ended, _⟩
  have refused : ∀ text ∈ ["3"], accountFor ascii twoAccounts text = none := by decide
  rw [choose_never several refused] at ended
  cases ended

/-! ### The other models of the prompts -/

/-- A line as the numbers of `SetupRun.choose` have it. -/
def answer (python : Interpreter) (text : String) : Nat :=
  match int python text with
  | some value => value.toNat
  | none => 0

private theorem answer_picks :
    (if answer python text = 0 then none else items[answer python text - 1]?) =
    accountFor python items text := by
  unfold answer accountFor
  cases int python text with
  | none => rfl
  | some value =>
    rw [Option.bind_some]
    unfold itemAt
    dsimp only
    by_cases positive : 1 ≤ value
    · rw [if_neg (by omega)]
      have same : value.toNat - 1 = (value - 1).toNat := by omega
      rw [same]
      split_ifs with inside
      · rfl
      · exact List.getElem?_eq_none (by omega)
    · rw [if_pos (by omega), if_neg (by omega)]

private theorem choose_answers {accounts : List SetupRun.Account} (several : 2 ≤ accounts.length) :
    SetupRun.choose accounts (lines.map (answer python)) =
      match lines.findSome? (accountFor python accounts) with
      | some account => .ok account
      | none => .error "" := by
  match accounts, several with
  | first :: second :: rest, _ =>
    induction lines with
    | nil => rfl
    | cons text lines ih =>
      rw [List.map_cons, SetupRun.choose, answer_picks, List.findSome?_cons]
      · cases accountFor python (first :: second :: rest) text with
        | none => exact ih
        | some account => rfl
      · rintro ⟨⟩
      · rintro _ ⟨⟩

/-- The run of setup, where an interrupt ends the answers, chooses what the loop does. -/
theorem setupRun_choose_iff {accounts : List SetupRun.Account} {account : SetupRun.Account}
    {describe : SetupRun.Account → String} :
    SetupRun.choose accounts (lines.map (answer python)) = .ok account ↔
      ∃ fuel left, choose python describe accounts fuel ⟨lines, shown⟩ = some (.ok account, left) := by
  match accounts with
  | [] =>
    rw [SetupRun.choose]
    refine iff_of_false ?_ ?_
    · rintro ⟨⟩
    · rintro ⟨fuel, left, ⟨⟩⟩
  | [only] =>
    rw [SetupRun.choose]
    constructor
    · rintro ⟨⟩
      exact ⟨0, ⟨lines, shown⟩, rfl⟩
    · rintro ⟨fuel, left, ⟨⟩⟩
      rfl
  | first :: second :: rest =>
    have several : 2 ≤ (first :: second :: rest).length := by
      rw [List.length_cons, List.length_cons]
      omega
    rw [choose_answers several]
    cases found : lines.findSome? (accountFor python (first :: second :: rest)) with
    | none =>
      refine iff_of_false ?_ ?_
      · rintro ⟨⟩
      · rintro ⟨fuel, left, ended⟩
        rw [choose_never several (List.findSome?_eq_none_iff.mp found)] at ended
        cases ended
    | some chosen =>
      obtain ⟨earlier, text, later, rfl, accepted, refused⟩ :=
        List.findSome?_eq_some_iff.mp found
      have ended := @choose_first _ python describe _ _ later shown _ _ several refused accepted
      constructor
      · rintro ⟨⟩
        exact ⟨_, _, ended⟩
      · rintro ⟨fuel, left, again⟩
        have same := choose_unique again ended
        cases same
        rfl

/-- The loop for the hostname ends on every input. -/
theorem readHostname_ends {lower : String → String} :
    ∃ left, run (readHostnamePass lower) (lines.length + 1) ⟨lines, shown⟩ =
      some ((readHostname lower lines).1, left) := by
  induction lines generalizing shown with
  | nil => exact ⟨_, rfl⟩
  | cons text lines ih =>
    by_cases valid : Regex.fullmatch hostRe (rstripDots (lower (strip text))).toList = true
    · have left : readHostnamePass lower ⟨text :: lines, shown⟩ =
          .inl (.ok (rstripDots (lower (strip text))), ⟨lines, shown ++ [hostnamePrompt]⟩) := by
        rw [readHostnamePass]
        dsimp only [Terminal.prompt, Terminal.line]
        rw [if_pos valid]
      have read : (readHostname lower (text :: lines)).1 =
          .ok (rstripDots (lower (strip text))) := by
        rw [readHostname]
        dsimp only
        rw [if_pos valid]
      rw [read]
      exact ⟨_, run_left left⟩
    · have onward : readHostnamePass lower ⟨text :: lines, shown⟩ =
          .inr (Terminal.error "Enter a valid wildcard hostname beginning with *."
            ⟨lines, shown ++ [hostnamePrompt]⟩) := by
        rw [readHostnamePass]
        dsimp only [Terminal.prompt, Terminal.line]
        rw [if_neg valid]
      have read : (readHostname lower (text :: lines)).1 = (readHostname lower lines).1 := by
        rw [readHostname]
        dsimp only
        rw [if_neg valid]
      rw [read, List.length_cons, run_onward onward]
      exact ih

end CfFw.SetupPrompts
