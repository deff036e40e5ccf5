import CfFw.PublicHost

/-! The hostnames that routes are published under as DNS names. Slugs and base
domains are checked apart, each with its own bound, and nothing checks the length of
the two together. -/
namespace CfFw
open Text

/-- A label of a published name: 1 to 63 lowercase ASCII letters, digits or hyphens,
with no hyphen at either end. -/
structure DnsLabel (label : String) : Prop extends ValidLabel label where
  lowercase : toAsciiLowercase label = label

/-- A hostname that DNS can carry. -/
structure DnsName (name : String) : Prop where
  short : len name ≤ 253
  labels : ∀ label ∈ split name '.', DnsLabel label

variable {R : Type} [Rng R] {slug baseDomain domain input hostname s t : String} {index : Nat}

private theorem split_append_dot : split (s ++ "." ++ t) '.' = split s '.' ++ split t '.' := by
  have dot : (".":String).toList = ['.'] := rfl
  simp only [split, String.toList_append, dot, List.append_assoc, List.singleton_append,
    List.splitOn_append_cons_self, List.map_append]

private theorem len_append_dot : len (s ++ "." ++ t) = len s + 1 + len t := by
  simp only [len_append]
  rfl

/-! ### Slugs -/

/-- Accepted and generated slugs are valid. -/
theorem validSlug_of_named {rng : R}
    (named : normalizeSlug input = .ok slug ∨ (generateSlug rng).1 = slug) : ValidSlug slug := by
  rcases named with accepted | rfl
  · exact (normalizeSlug_eq_ok.mp accepted).2
  · exact allSlugs_valid (generateSlug_mem rng)

theorem ValidSlug.ascii (valid : ValidSlug slug) : ∀ c ∈ slug.toList, c.toNat < 128 := by
  intro c member
  have range := valid.characters c member
  omega

/-- A valid slug is one label of a name. -/
theorem ValidSlug.dnsLabel (valid : ValidSlug slug) : DnsLabel slug := by
  obtain ⟨nonempty, short, start, finish, _, _⟩ := validSlug_iff.mp valid
  rw [len_ascii valid.ascii] at short
  refine ⟨⟨?_, short, ?_, ?_, fun c member => ?_⟩, valid.lowercase⟩
  · refine Nat.pos_of_ne_zero fun empty => nonempty ?_
    exact String.toList_inj.mp (List.length_eq_zero_iff.mp empty)
  · simpa [startsWith] using start
  · simpa [endsWith] using finish
  · have range := valid.characters c member
    have dash : '-'.toNat = 45 := rfl
    rw [isAlphanum_iff, ← Char.toNat_inj]
    omega

theorem ValidSlug.split_dot (valid : ValidSlug slug) : split slug '.' = [slug] := by
  have noDot : '.' ∉ slug.toList := by
    intro member
    have range := valid.characters '.' member
    have dot : '.'.toNat = 46 := rfl
    omega
  rw [split, List.splitOn_eq_singleton noDot, List.map_singleton, String.ofList_toList]

/-! ### Base domains -/

theorem ValidLabel.lowered {label : String} (valid : ValidLabel label) :
    ValidLabel (toAsciiLowercase label) := by
  have accepted := (validLabel_iff label).mpr valid
  rw [← toAsciiLowercase_idem] at accepted
  exact (validLabel_iff _).mp accepted

/-- The labels of a configured base domain. -/
theorem baseDomain_labels (valid : ValidDomain domain) :
    ∀ label ∈ split (toAsciiLowercase domain) '.', DnsLabel label := by
  rw [split_toAsciiLowercase (by decide) (by decide)]
  intro label member
  obtain ⟨written, listed, rfl⟩ := List.mem_map.mp member
  exact ⟨(valid.labels written listed).lowered, toAsciiLowercase_idem written⟩

private theorem publicUrl_shape {port : UInt16} : (RouteView.new slug port baseDomain).publicUrl =
    "https://" ++ (slug ++ "." ++ baseDomain) := by
  apply String.toList_inj.mp
  simp [RouteView.new, toString]

/-- **When a published name is a DNS name.** For every configured base domain and
every accepted or generated slug, each label of the name in the public URL is valid,
and the name is a DNS name exactly when slug, dot and base domain together have at
most 253 bytes. -/
theorem public_name_valid_iff {rng : R} (port : UInt16)
    (configured : wildcardBaseDomain hostname index = .ok (some baseDomain))
    (named : normalizeSlug input = .ok slug ∨ (generateSlug rng).1 = slug) :
    ∃ name, (RouteView.new slug port baseDomain).publicUrl = "https://" ++ name ∧
      (∀ label ∈ split name '.', DnsLabel label) ∧
      (DnsName name ↔ len slug + 1 + len baseDomain ≤ 253) := by
  obtain ⟨domain, validDomain, rfl⟩ := wildcardBaseDomain_eq_some configured
  have valid := validSlug_of_named named
  have labels : ∀ label ∈ split (slug ++ "." ++ toAsciiLowercase domain) '.', DnsLabel label := by
    rw [split_append_dot, valid.split_dot, List.singleton_append]
    exact List.forall_mem_cons.mpr ⟨valid.dnsLabel, baseDomain_labels validDomain⟩
  refine ⟨_, publicUrl_shape, labels, fun name => ?_, fun short => ⟨?_, labels⟩⟩
  · rw [← len_append_dot]
    exact name.short
  · rw [len_append_dot]
    exact short

theorem public_name_app_valid :
    ∃ name, (RouteView.new "app" 3000 "example.com").publicUrl = "https://" ++ name ∧
      (∀ label ∈ split name '.', DnsLabel label) ∧
      (DnsName name ↔ len "app" + 1 + len "example.com" ≤ 253) :=
  @public_name_valid_iff DrawStream _ "app" "example.com" "App" "*.Example.com" 0 ⟨[]⟩ 3000
    (by decide) (.inl (by decide))

/-- A label of `n` letters. -/
def longLabel (n : Nat) : String := String.ofList (List.replicate n 'a')

/-- A base domain that is as long as the configuration may have it. -/
def longBaseDomain : String :=
  longLabel 63 ++ "." ++ (longLabel 63 ++ "." ++ (longLabel 63 ++ "." ++ longLabel 61))

private theorem mem_longLabel {n : Nat} {c : Char} (member : c ∈ (longLabel n).toList) :
    c = 'a' := by
  rw [longLabel, String.toList_ofList] at member
  exact List.eq_of_mem_replicate member

private theorem length_longLabel (n : Nat) : (longLabel n).toList.length = n := by
  rw [longLabel, String.toList_ofList, List.length_replicate]

private theorem len_longLabel (n : Nat) : len (longLabel n) = n := by
  rw [len_ascii fun c member => mem_longLabel member ▸ by decide, length_longLabel]

private theorem split_longLabel (n : Nat) : split (longLabel n) '.' = [longLabel n] := by
  have noDot : '.' ∉ (longLabel n).toList := fun member => by cases mem_longLabel member
  rw [split, List.splitOn_eq_singleton noDot, List.map_singleton, String.ofList_toList]

private theorem validLabel_longLabel {n : Nat} (some : 1 ≤ n) (short : n ≤ 63) :
    ValidLabel (longLabel n) where
  nonempty := (length_longLabel n).symm ▸ some
  short := (length_longLabel n).symm ▸ short
  start first := by cases mem_longLabel (List.mem_of_mem_head? first)
  finish last := by cases mem_longLabel (List.mem_of_getLast? last)
  characters c member := .inl (mem_longLabel member ▸ by decide)

private theorem len_longBaseDomain : len longBaseDomain = 253 := by
  simp only [longBaseDomain, len_append_dot, len_longLabel]

private theorem validDomain_longBaseDomain : ValidDomain longBaseDomain where
  nonempty := by rw [len_longBaseDomain]; decide
  short := by rw [len_longBaseDomain]
  labels label listed := by
    simp only [longBaseDomain, split_append_dot, split_longLabel, List.singleton_append,
      List.mem_cons, List.not_mem_nil, or_false] at listed
    rcases listed with rfl | rfl | rfl | rfl <;>
      exact validLabel_longLabel (by decide) (by decide)

private theorem longBaseDomain_configured :
    wildcardBaseDomain ("*." ++ longBaseDomain) 0 = .ok (some longBaseDomain) := by
  have labels : split longBaseDomain '.' =
      [longLabel 63, longLabel 63, longLabel 63, longLabel 61] := by
    simp only [longBaseDomain, split_append_dot, split_longLabel, List.singleton_append]
  have lowered : toAsciiLowercase longBaseDomain = longBaseDomain := by
    refine toAsciiLowercase_eq_self fun c member => ?_
    rcases mem_split '.' member with rfl | ⟨label, listed, inside⟩
    · decide
    · rw [labels] at listed
      simp only [List.mem_cons, List.not_mem_nil, or_false] at listed
      rcases listed with rfl | rfl | rfl | rfl <;>
        exact mem_longLabel inside ▸ by decide
  rw [wildcardBaseDomain_ok (stripPrefix_eq_some.mpr rfl) validDomain_longBaseDomain, lowered]

/-- The longest base domain leaves no room for any slug. -/
theorem long_public_name_invalid :
    wildcardBaseDomain ("*." ++ longBaseDomain) 0 = .ok (some longBaseDomain) ∧
      normalizeSlug "app" = .ok "app" ∧
      (RouteView.new "app" 3000 longBaseDomain).publicUrl =
        "https://" ++ ("app" ++ "." ++ longBaseDomain) ∧
      ¬ DnsName ("app" ++ "." ++ longBaseDomain) := by
  refine ⟨longBaseDomain_configured, by decide, publicUrl_shape, fun valid => ?_⟩
  have long : len ("app" ++ "." ++ longBaseDomain) = 257 := by
    rw [len_append_dot, len_longBaseDomain]
    rfl
  have short := valid.short
  omega

end CfFw
