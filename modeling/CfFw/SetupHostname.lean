import CfFw.HostnameLength
import CfFw.JsonText
import CfFw.NormalizeStability
import CfFw.Regex
import Mathlib.Data.List.DropRight

/-! The hostname that `fw-setup.sh` asks for, and what the daemon makes of it. Setup
checks it with a regular expression before it creates anything in the cloud, the
daemon label by label when it reads the configuration that setup wrote. -/
namespace CfFw
open Text Regex OrderedMap

/-! ### What setup asks for and writes -/

def isLowerAlnum (c : Char) : Bool :=
  (decide (97 ≤ c.toNat) && decide (c.toNat ≤ 122)) || (decide (48 ≤ c.toNat) && decide (c.toNat ≤ 57))

def isLowerLetter (c : Char) : Bool := decide (97 ≤ c.toNat) && decide (c.toNat ≤ 122)

/-- One label of `HOST_RE`, `[first](?:[a-z0-9-]{0,61}[a-z0-9])?`. -/
def labelRe (first : Char → Bool) : Pattern :=
  .seq (.char first) (.optional
    (.seq (.between (.char fun c => isLowerAlnum c || c == '-') 0 61) (.char isLowerAlnum)))

/-- `(?=.{1,253}$)` of `HOST_RE`. -/
def lengthRe : Pattern := .ahead (.seq (.between (.char (· != '\n')) 1 253) .textEnd)

/-- `HOST_RE`. -/
def hostRe : Pattern :=
  .seq .textStart (.seq (.char (· == '*')) (.seq (.char (· == '.')) (.seq lengthRe
    (.seq (.oneOrMore (.seq (labelRe isLowerAlnum) (.char (· == '.'))))
      (.seq (labelRe isLowerLetter) .textEnd)))))

/-- The characters that `str.strip` takes off. -/
def isSpace (c : Char) : Bool :=
  let n := c.toNat
  (decide (9 ≤ n) && decide (n ≤ 13)) || (decide (28 ≤ n) && decide (n ≤ 32)) ||
    (decide (0x2000 ≤ n) && decide (n ≤ 0x200a)) ||
    [0x85, 0xa0, 0x1680, 0x2028, 0x2029, 0x202f, 0x205f, 0x3000].contains n

/-- `str.strip`. -/
def strip (text : String) : String :=
  String.ofList ((text.toList.dropWhile isSpace).rdropWhile isSpace)

/-- `str.rstrip(".")`. -/
def rstripDots (text : String) : String := String.ofList (text.toList.rdropWhile (· == '.'))

/-- `Setup.read_hostname` on the lines that are typed until the input ends: its
result, and the error lines it has shown. `lower` is `str.lower`, which follows the
Unicode tables. -/
def readHostname (lower : String → String) : List String → Except String String × List String
  | [] => (.error "Input ended while reading the wildcard domain.", [])
  | line :: lines =>
    let value := rstripDots (lower (strip line))
    if fullmatch hostRe value.toList then (.ok value, [])
    else
      let (result, shown) := readHostname lower lines
      (result, "Enter a valid wildcard hostname beginning with *." :: shown)

/-- `secrets.token_hex(2)`, from its two random bytes. -/
def tokenHex (first second : UInt8) : String :=
  String.ofList ([first, second].flatMap fun b =>
    [JsonText.hexDigit (b.toNat / 16), JsonText.hexDigit (b.toNat % 16)])

/-- `test_slug` of `Setup.run`. -/
def testSlug (setupHex : String) : String := s!"setup-{setupHex}"

/-- `test_hostname` of `Setup.run`; `hostname[2:]` leaves the `*.` out. -/
def testHostname (setupHex hostname : String) : String :=
  s!"{testSlug setupHex}.{String.ofList (hostname.toList.drop 2)}"

/-- The managed rule of the configuration that setup writes. -/
def setupRule (hostname : String) (testPort : UInt16) : Mapping :=
  [("hostname", .string hostname), ("service", .string s!"http://127.0.0.1:{testPort}")]

/-- The document of `yaml` in `Setup.run`. -/
def setupRoot (tunnelId credentialsPath hostname : String) (testPort : UInt16) : Mapping :=
  [("tunnel", .string tunnelId), ("credentials-file", .string credentialsPath),
    ("ingress", .sequence [.mapping (setupRule hostname testPort),
      .mapping [("service", .string "http_status:404")]])]

/-! ### Labels -/

variable {p q : Position} {first : Char → Bool} {c : Char} {hostname base : String}
  {lower : String → String} {lines shown : List String} {text tail : List Char}

private theorem isLowerAlnum_iff : isLowerAlnum c = true ↔
    (97 ≤ c.toNat ∧ c.toNat ≤ 122) ∨ (48 ≤ c.toNat ∧ c.toNat ≤ 57) := by
  simp [isLowerAlnum]

private theorem isLowerAlnum_of_letter (letter : isLowerLetter c = true) :
    isLowerAlnum c = true := by
  rw [isLowerAlnum, Bool.or_eq_true]
  exact .inl letter

/-- Alphanumeric at both ends, alphanumeric or hyphen between, at most 63 long. -/
theorem dnsLabel_ofList (nonempty : 1 ≤ text.length) (short : text.length ≤ 63)
    (start : ∀ c ∈ text.head?, isLowerAlnum c = true)
    (finish : ∀ c ∈ text.getLast?, isLowerAlnum c = true)
    (all : ∀ c ∈ text, (isLowerAlnum c || c == '-') = true) : DnsLabel (String.ofList text) := by
  have range : ∀ c ∈ text,
      ((97 ≤ c.toNat ∧ c.toNat ≤ 122) ∨ (48 ≤ c.toNat ∧ c.toNat ≤ 57)) ∨ c = '-' := by
    intro c member
    have accepted := all c member
    rwa [Bool.or_eq_true, isLowerAlnum_iff, beq_iff_eq] at accepted
  refine ⟨⟨?_, ?_, ?_, ?_, ?_⟩, toAsciiLowercase_eq_self ?_⟩ <;> rw [String.toList_ofList]
  · exact nonempty
  · exact short
  · intro hyphen
    exact absurd (start '-' hyphen) (by decide)
  · intro hyphen
    exact absurd (finish '-' hyphen) (by decide)
  · intro c member
    refine (range c member).imp_left fun alnum => ?_
    rw [isAlphanum_iff]
    omega
  · intro c member
    rcases range c member with alnum | rfl
    · omega
    · decide

/-- What a label of the expression matches is a DNS label. -/
theorem mem_ends_labelRe (alnum : ∀ c, first c = true → isLowerAlnum c = true)
    (member : q ∈ ends (labelRe first) p) :
    ∃ label, p.rest = label ++ q.rest ∧ DnsLabel (String.ofList label) := by
  obtain ⟨m, once, more⟩ := mem_ends_seq.mp member
  obtain ⟨c, accepted, shape, _⟩ := mem_ends_char.mp once
  have starts := alnum c accepted
  rcases mem_ends_optional.mp more with long | rfl
  · obtain ⟨n, middle, last⟩ := mem_ends_seq.mp long
    obtain ⟨taken, rest, few, inner⟩ := mem_between_char middle
    obtain ⟨d, ends, final, _⟩ := mem_ends_char.mp last
    refine ⟨c :: (taken ++ [d]), ?_, dnsLabel_ofList ?_ ?_ ?_ ?_ ?_⟩
    · rw [shape, rest, final, List.cons_append, List.append_assoc, List.singleton_append]
    · rw [List.length_cons]
      omega
    · rw [List.length_cons, List.length_append, List.length_singleton]
      omega
    · rintro e ⟨⟩
      exact starts
    · intro e last
      rw [← List.cons_append, List.getLast?_concat, Option.mem_def] at last
      cases last
      exact ends
    · intro e inside
      rw [List.mem_cons, List.mem_append, List.mem_singleton] at inside
      rw [Bool.or_eq_true]
      rcases inside with rfl | between | rfl
      · exact .inl starts
      · exact Bool.or_eq_true _ _ ▸ inner e between
      · exact .inl ends
  · refine ⟨[c], shape, dnsLabel_ofList (Nat.le_refl 1) (Nat.le_add_left 1 62) ?_ ?_ ?_⟩
    · rintro e ⟨⟩
      exact starts
    · rintro e ⟨⟩
      exact starts
    · intro e inside
      rw [List.mem_singleton.mp inside, starts]
      rfl

/-! ### The whole expression -/

/-- Every label of the text is a DNS label. -/
def DnsLabels (text : List Char) : Prop := ∀ label ∈ split (String.ofList text) '.', DnsLabel label

theorem DnsLabel.noDot (valid : DnsLabel (String.ofList text)) : '.' ∉ text := by
  intro member
  have characters := valid.characters
  rw [String.toList_ofList] at characters
  rcases characters '.' member with alnum | hyphen
  · exact absurd alnum (by decide)
  · exact absurd hyphen (by decide)

theorem DnsLabel.alone (valid : DnsLabel (String.ofList text)) : DnsLabels text := by
  intro label listed
  rw [split, String.toList_ofList, List.splitOn_eq_singleton valid.noDot, List.map_singleton,
    List.mem_singleton] at listed
  rwa [listed]

theorem DnsLabel.dot (valid : DnsLabel (String.ofList text)) (labels : DnsLabels tail) :
    DnsLabels (text ++ '.' :: tail) := by
  intro label listed
  rw [split, String.toList_ofList, List.splitOn_append_cons_self, List.map_append,
    List.splitOn_eq_singleton valid.noDot, List.mem_append] at listed
  rcases listed with here | later
  · rw [List.map_singleton, List.mem_singleton] at here
    rwa [here]
  · refine labels label ?_
    rwa [split, String.toList_ofList]

/-- What a repetition of labels with dots matches is a front of a dotted name. -/
theorem mem_ends_dotted
    (member : q ∈ ends (.oneOrMore (.seq (labelRe isLowerAlnum) (.char (· == '.')))) p) :
    ∃ text, p.rest = text ++ q.rest ∧ ∀ tail, DnsLabels tail → DnsLabels (text ++ tail) := by
  refine mem_greedily
    (fun p q => ∃ text, p.rest = text ++ q.rest ∧ ∀ tail, DnsLabels tail → DnsLabels (text ++ tail))
    (fun p => ⟨[], rfl, fun _ labels => labels⟩) ?_ member
  rintro p m q once ⟨text, shape, closed⟩
  obtain ⟨n, atLabel, atDot⟩ := mem_ends_seq.mp once
  obtain ⟨label, front, valid⟩ := mem_ends_labelRe (fun _ alnum => alnum) atLabel
  obtain ⟨d, isDot, rest, _⟩ := mem_ends_char.mp atDot
  obtain rfl := beq_iff_eq.mp isDot
  refine ⟨label ++ '.' :: text, ?_, fun tail labels => ?_⟩
  · rw [front, rest, shape, List.append_assoc, List.cons_append]
  · rw [List.append_assoc, List.cons_append]
    exact valid.dot (closed tail labels)

/-- The lookahead bounds what comes next, when that has no line break. -/
theorem mem_ends_lengthRe (member : q ∈ ends lengthRe p) (oneLine : '\n' ∉ p.rest) :
    q = p ∧ p.rest.length ≤ 253 := by
  obtain ⟨same, m, found⟩ := mem_ends_ahead.mp member
  obtain ⟨n, counted, final⟩ := mem_ends_seq.mp found
  obtain ⟨taken, shape, few, _⟩ := mem_between_char counted
  refine ⟨same, ?_⟩
  rcases (mem_ends_textEnd.mp final).2 with finished | broken
  · rw [shape, finished, List.append_nil]
    exact few
  · rw [shape, broken] at oneLine
    exact absurd (List.mem_append_right taken (List.mem_singleton_self '\n')) oneLine

theorem DnsLabels.characters (labels : DnsLabels text) :
    ∀ c ∈ text, ((97 ≤ c.toNat ∧ c.toNat ≤ 122) ∨ (48 ≤ c.toNat ∧ c.toNat ≤ 57)) ∨
      c = '-' ∨ c = '.' := by
  intro c member
  have written : c ∈ (String.ofList text).toList := by rwa [String.toList_ofList]
  rcases mem_split '.' written with rfl | ⟨label, listed, inside⟩
  · exact .inr (.inr rfl)
  · have valid := labels label listed
    have lowered : c.toLower = c := by
      have same := congrArg String.toList valid.lowercase
      rw [toList_toAsciiLowercase] at same
      exact List.map_inj_left.mp (same.trans (List.map_id _).symm) c inside
    have notUpper : c.toNat = if 65 ≤ c.toNat ∧ c.toNat ≤ 90 then c.toNat + 32 else c.toNat := by
      rw [← toNat_toLower, lowered]
    rcases valid.characters c inside with alnum | hyphen
    · rw [isAlphanum_iff] at alnum
      split_ifs at notUpper <;> omega
    · exact .inr (.inl hyphen)

theorem DnsLabels.oneLine (labels : DnsLabels text) : '\n' ∉ text := by
  intro member
  rcases labels.characters '\n' member with alnum | hyphen | dot
  · exact absurd alnum (by decide)
  · exact absurd hyphen (by decide)
  · exact absurd dot (by decide)

/-- A name of DNS labels is in lower case. -/
theorem DnsLabels.lowercase (labels : DnsLabels text) :
    toAsciiLowercase (String.ofList text) = String.ofList text := by
  refine toAsciiLowercase_eq_self fun c member => ?_
  rw [String.toList_ofList] at member
  rcases labels.characters c member with alnum | rfl | rfl
  · omega
  · decide
  · decide

/-- A name of DNS labels is a base domain as far as it is short enough. -/
theorem DnsLabels.validDomain (labels : DnsLabels text) (nonempty : 1 ≤ text.length)
    (short : text.length ≤ 253) : ValidDomain (String.ofList text) := by
  have size : len (String.ofList text) = text.length := by
    rw [len_ascii, String.toList_ofList]
    intro c member
    rw [String.toList_ofList] at member
    rcases labels.characters c member with alnum | rfl | rfl
    · omega
    · decide
    · decide
  refine ⟨?_, ?_, fun label listed => (labels label listed).toValidLabel⟩
  · rwa [size]
  · rwa [size]

/-- What the expression matches is a wildcard over a valid base domain in lower
case. -/
theorem fullmatch_hostRe (matched : fullmatch hostRe hostname.toList = true) :
    ∃ base, hostname = "*." ++ base ∧ ValidDomain base ∧ toAsciiLowercase base = base := by
  obtain ⟨q, member, finished⟩ := List.any_eq_true.mp matched
  have finished : q.rest = [] := of_decide_eq_true finished
  -- One position between each two pieces of the expression.
  obtain ⟨p₀, start, member⟩ := mem_ends_seq.mp member
  obtain ⟨p₁, atStar, member⟩ := mem_ends_seq.mp member
  obtain ⟨p₂, atDot, member⟩ := mem_ends_seq.mp member
  obtain ⟨p₃, atAhead, member⟩ := mem_ends_seq.mp member
  obtain ⟨p₄, atLabels, member⟩ := mem_ends_seq.mp member
  obtain ⟨p₅, atLast, atEnd⟩ := mem_ends_seq.mp member
  have start : p₀ = ⟨none, hostname.toList⟩ := List.mem_singleton.mp start
  obtain ⟨star, isStar, starred, _⟩ := mem_ends_char.mp atStar
  obtain ⟨dot, isDot, dotted, _⟩ := mem_ends_char.mp atDot
  obtain rfl := beq_iff_eq.mp isStar
  obtain rfl := beq_iff_eq.mp isDot
  obtain ⟨front, frontShape, closed⟩ := mem_ends_dotted atLabels
  obtain ⟨last, lastShape, valid⟩ := mem_ends_labelRe (fun _ => isLowerAlnum_of_letter) atLast
  obtain rfl := (mem_ends_textEnd.mp atEnd).1
  obtain rfl : p₃ = p₂ := (mem_ends_ahead.mp atAhead).1
  have labels : DnsLabels (front ++ last) := closed last valid.alone
  have rest : p₃.rest = front ++ last := by
    rw [frontShape, lastShape, finished, List.append_nil]
  have short := (mem_ends_lengthRe atAhead (rest ▸ labels.oneLine)).2
  have nonempty := valid.nonempty
  rw [String.toList_ofList] at nonempty
  refine ⟨String.ofList (front ++ last), ?_, labels.validDomain ?_ ?_, labels.lowercase⟩
  · have whole : hostname.toList = '*' :: '.' :: (front ++ last) := by
      rw [← rest, ← dotted, ← starred, start]
    apply String.toList_inj.mp
    simp [whole]
  · rw [List.length_append]
    omega
  · rw [← rest]
    exact short

/-- What setup goes on with has matched the expression. -/
theorem readHostname_ok (read : readHostname lower lines = (.ok hostname, shown)) :
    fullmatch hostRe hostname.toList = true := by
  induction lines generalizing shown with
  | nil => cases read
  | cons line lines ih =>
    rw [readHostname] at read
    split at read
    · rename_i matched
      cases read
      exact matched
    · cases rest : readHostname lower lines with
      | mk result later =>
        rw [rest] at read
        cases read
        exact ih rest

/-! ### The daemon's side -/

variable {domain tunnelId credentialsPath : String} {testPort : UInt16}

private theorem wildcardDomain_setupRule :
    wildcardDomain (setupRule ("*." ++ domain) testPort) = some domain := by
  have starred : stripPrefix ("*." ++ domain) "*." = some domain := stripPrefix_eq_some.mpr rfl
  simp [wildcardDomain, setupRule, containsKey, get?_cons, Value.asStr, starred]

/-- What setup writes for a valid base domain is a document that normalisation
accepts. -/
theorem setupRoot_accepted (valid : ValidDomain domain) :
    AcceptedDocument (.mapping (setupRoot tunnelId credentialsPath ("*." ++ domain) testPort))
      (setupRoot tunnelId credentialsPath ("*." ++ domain) testPort)
      [setupRule ("*." ++ domain) testPort, freshFallback] := by
  have named : hostless (setupRule ("*." ++ domain) testPort) = false := rfl
  have starred : isWildcard (setupRule ("*." ++ domain) testPort) = true := by
    rw [isWildcard, wildcardDomain_setupRule]
    rfl
  have fallback : isWildcard freshFallback = false := by
    rw [isWildcard, hostless_not_wildcard hostless_fresh]
    rfl
  refine ⟨rfl, rfl, ?_, ?_⟩
  · refine List.forall_mem_cons.mpr ⟨⟨fun missing => ?_, fun written same => ?_⟩, ?_⟩
    · rw [named] at missing
      cases missing
    · rw [wildcardDomain_setupRule] at same
      cases same
      exact valid
    · exact List.forall_mem_singleton.mpr fresh_acceptable
  · rw [List.countP_cons_of_pos starred, List.countP_cons_of_neg (by simp [fallback])]
    rfl

private theorem hexDigit_range {n : Nat} (small : n < 16) :
    (97 ≤ (JsonText.hexDigit n).toNat ∧ (JsonText.hexDigit n).toNat ≤ 122) ∨
      (48 ≤ (JsonText.hexDigit n).toNat ∧ (JsonText.hexDigit n).toNat ≤ 57) := by
  revert n
  decide

private theorem testSlug_toList (first second : UInt8) : (testSlug (tokenHex first second)).toList =
    "setup-".toList ++ [JsonText.hexDigit (first.toNat / 16), JsonText.hexDigit (first.toNat % 16),
      JsonText.hexDigit (second.toNat / 16), JsonText.hexDigit (second.toNat % 16)] := by
  simp [testSlug, tokenHex, toString]

/-- Every test slug is valid. -/
theorem testSlug_valid (first second : UInt8) : ValidSlug (testSlug (tokenHex first second)) := by
  have high : ∀ b : UInt8, b.toNat / 16 < 16 := fun b => Nat.div_lt_of_lt_mul b.toNat_lt
  have low : ∀ b : UInt8, b.toNat % 16 < 16 := fun b => Nat.mod_lt _ (by decide)
  have lastRange := hexDigit_range (low second)
  refine @validSlug_of_range _ 's' (JsonText.hexDigit (second.toNat % 16)) ?_ ?_ ?_ (by decide)
    ?_ ?_
  · rw [testSlug_toList]
    rfl
  · rw [testSlug_toList, List.getLast?_append]
    rfl
  · rw [testSlug_toList]
    exact Nat.le_of_ble_eq_true rfl
  · intro hyphen
    rw [hyphen] at lastRange
    exact absurd lastRange (by decide)
  · intro c member
    rw [testSlug_toList, List.mem_append] at member
    have digit : ∀ {n}, n < 16 → (97 ≤ (JsonText.hexDigit n).toNat ∧
        (JsonText.hexDigit n).toNat ≤ 122) ∨ (48 ≤ (JsonText.hexDigit n).toNat ∧
        (JsonText.hexDigit n).toNat ≤ 57) ∨ (JsonText.hexDigit n).toNat = 45 := fun small =>
      (hexDigit_range small).imp_right .inl
    have letters : ∀ c ∈ "setup-".toList, (97 ≤ c.toNat ∧ c.toNat ≤ 122) ∨
        (48 ≤ c.toNat ∧ c.toNat ≤ 57) ∨ c.toNat = 45 := forall_mem_of_all (by decide)
    rcases member with front | digits
    · exact letters c front
    · simp only [List.mem_cons, List.not_mem_nil, or_false] at digits
      rcases digits with rfl | rfl | rfl | rfl
      · exact digit (high first)
      · exact digit (low first)
      · exact digit (high second)
      · exact digit (low second)

/-- **What setup accepts, the daemon accepts.** A hostname that setup goes on with is
a wildcard over a base domain such that, for every test port and proxy port, the
daemon normalises the configuration that setup writes with that base domain, and
every test slug is a slug as it stands, to which the proxy resolves the test
hostname. -/
theorem setup_hostname_served (read : readHostname lower lines = (.ok hostname, shown)) :
    ∃ base, hostname = "*." ++ base ∧
      (∀ (tunnelId credentialsPath : String) (testPort proxyPort : UInt16), ∃ normalized,
        normalizeValue (.mapping (setupRoot tunnelId credentialsPath hostname testPort)) proxyPort =
          some (.ok (normalized, base))) ∧
      ∀ first second : UInt8,
        normalizeSlug (testSlug (tokenHex first second)) =
            .ok (testSlug (tokenHex first second)) ∧
          ∃ parsed, parsePublicHost (testHostname (tokenHex first second) hostname) base =
            some parsed ∧ parsed.slug = testSlug (tokenHex first second) := by
  obtain ⟨base, rfl, valid, lowercase⟩ := fullmatch_hostRe (readHostname_ok read)
  refine ⟨base, rfl, fun tunnelId credentialsPath testPort proxyPort => ?_, fun first second => ?_⟩
  · have normalized := normalizeValue_eq
      (@setupRoot_accepted _ tunnelId credentialsPath testPort valid) List.mem_cons_self
      wildcardDomain_setupRule proxyPort
    rw [lowercase] at normalized
    exact ⟨_, normalized⟩
  · have slug := testSlug_valid first second
    have named : testHostname (tokenHex first second) ("*." ++ base) =
        testSlug (tokenHex first second) ++ "." ++ base := by
      apply String.toList_inj.mp
      simp [testHostname, toString]
    refine ⟨normalizeSlug_eq_ok.mpr ⟨slug.lowercase.symm, slug⟩, ⟨_, _⟩,
      parsePublicHost_eq_some.mpr ⟨?_, slug, rfl⟩, rfl⟩
    rw [named, toAsciiLowercase_append, toAsciiLowercase_append, slug.lowercase, lowercase]
    rfl

/-- A hostname typed with capitals, after a line that is refused. -/
theorem setup_hostname_typed :
    ∃ base, "*.fw.example.com" = "*." ++ base ∧
      (∀ (tunnelId credentialsPath : String) (testPort proxyPort : UInt16), ∃ normalized,
        normalizeValue (.mapping (setupRoot tunnelId credentialsPath "*.fw.example.com" testPort))
          proxyPort = some (.ok (normalized, base))) ∧
      ∀ first second : UInt8,
        normalizeSlug (testSlug (tokenHex first second)) =
            .ok (testSlug (tokenHex first second)) ∧
          ∃ parsed, parsePublicHost (testHostname (tokenHex first second) "*.fw.example.com") base =
            some parsed ∧ parsed.slug = testSlug (tokenHex first second) :=
  setup_hostname_served (show readHostname toAsciiLowercase
    ["fw.example.com", " *.FW.Example.com. "] = (.ok "*.fw.example.com",
      ["Enter a valid wildcard hostname beginning with *."]) by decide +kernel)

end CfFw
