import CfFw.Slug
import Mathlib.Data.List.Nodup

/-! Slug generation does not depend on luck. What the random candidates miss,
the pass over the word lists finds, and different pairs of words are different
slugs. -/
namespace CfFw
open Text

variable {R : Type} [Rng R] {isTaken : String → Bool}

/-! ### What is tried, in which order -/

/-- The random candidates that a number of attempts draw. -/
def randomCandidates : Nat → R → List String
  | 0, _ => []
  | attempts + 1, rng => (generateSlug rng).1 :: randomCandidates attempts (generateSlug rng).2

/-- The random source after that many candidates. -/
def afterCandidates : Nat → R → R
  | 0, rng => rng
  | attempts + 1, rng => afterCandidates attempts (generateSlug rng).2

@[simp] theorem randomCandidates_length (attempts : Nat) (rng : R) :
    (randomCandidates attempts rng).length = attempts := by
  induction attempts generalizing rng with
  | zero => rfl
  | succ attempts ih => simp [randomCandidates, ih]

private theorem mem_randomCandidates {attempts : Nat} {rng : R} {slug : String}
    (member : slug ∈ randomCandidates attempts rng) : slug ∈ allSlugs := by
  induction attempts generalizing rng with
  | zero => cases member
  | succ attempts ih =>
    rcases List.mem_cons.mp member with rfl | later
    · exact generateSlug_mem rng
    · exact ih later

/-- The random part returns the first free candidate, and draws none after it. -/
theorem tryRandomSlugs_eq (isTaken : String → Bool) (attempts : Nat) (rng : R) :
    tryRandomSlugs isTaken attempts rng =
      ((randomCandidates attempts rng).find? fun slug => !isTaken slug,
        afterCandidates (min attempts
          ((randomCandidates attempts rng).findIdx (fun slug => !isTaken slug) + 1)) rng) := by
  induction attempts generalizing rng with
  | zero => rfl
  | succ attempts ih =>
    cases first : isTaken (generateSlug rng).1 with
    | false =>
      simp [tryRandomSlugs, randomCandidates, first, afterCandidates, List.findIdx_cons]
    | true =>
      have unfolded : tryRandomSlugs isTaken (attempts + 1) rng =
          tryRandomSlugs isTaken attempts (generateSlug rng).2 := by
        simp [tryRandomSlugs, first]
      rw [unfolded, ih]
      simp [randomCandidates, first, List.findIdx_cons, afterCandidates]

/-- The slugs `generate_unique_slug` tries, in order: its random candidates, and
then one pass over the word lists. -/
def triedSlugs (rng : R) : List String :=
  randomCandidates generatedSlugRandomAttempts rng ++ allSlugs

private theorem mem_triedSlugs {rng : R} {slug : String} :
    slug ∈ triedSlugs rng ↔ slug ∈ allSlugs := by
  rw [triedSlugs, List.mem_append]
  exact ⟨fun member => member.elim mem_randomCandidates id, Or.inr⟩

/-- `generate_unique_slug` returns the first slug it tries that is free. -/
theorem generateUniqueSlug_eq (rng : R) (isTaken : String → Bool) :
    (generateUniqueSlug rng isTaken).1 =
      match (triedSlugs rng).find? fun slug => !isTaken slug with
      | some slug => .ok slug
      | none => .error (.other "all generated slug combinations are already active") := by
  rw [generateUniqueSlug, tryRandomSlugs_eq, triedSlugs, List.find?_append]
  cases (randomCandidates generatedSlugRandomAttempts rng).find? fun slug => !isTaken slug with
  | some candidate => rfl
  | none =>
    rw [Option.none_or]
    cases allSlugs.find? fun candidate => !isTaken candidate <;> rfl

/-- It draws no more random candidates than its attempts, and none after a free
one. -/
theorem generateUniqueSlug_draws (rng : R) (isTaken : String → Bool) :
    (generateUniqueSlug rng isTaken).2 =
      afterCandidates (min generatedSlugRandomAttempts
        ((randomCandidates generatedSlugRandomAttempts rng).findIdx
          (fun slug => !isTaken slug) + 1)) rng := by
  rw [generateUniqueSlug, tryRandomSlugs_eq]
  cases (randomCandidates generatedSlugRandomAttempts rng).find? fun slug => !isTaken slug with
  | some candidate => rfl
  | none => cases allSlugs.find? fun candidate => !isTaken candidate <;> rfl

/-- Generation fails exactly when every combination is taken. -/
theorem generateUniqueSlug_error {rng : R} {error : FwError} :
    (generateUniqueSlug rng isTaken).1 = .error error ↔
      (∀ slug ∈ allSlugs, isTaken slug = true) ∧
        error = .other "all generated slug combinations are already active" := by
  rw [generateUniqueSlug_eq]
  cases found : (triedSlugs rng).find? fun slug => !isTaken slug with
  | some slug =>
    have free : isTaken slug = false := by simpa using List.find?_some found
    have listed := mem_triedSlugs.mp (List.mem_of_find?_eq_some found)
    simp only [reduceCtorEq, false_iff, not_and]
    intro all
    rw [all slug listed] at free
    cases free
  | none =>
    have all : ∀ slug ∈ allSlugs, isTaken slug = true := fun slug member => by
      simpa using List.find?_eq_none.mp found slug (mem_triedSlugs.mpr member)
    simp only [Except.error.injEq]
    exact ⟨fun same => ⟨all, same.symm⟩, fun ⟨_, same⟩ => same.symm⟩

theorem mem_allSlugs {slug : String} : slug ∈ allSlugs ↔
    ∃ adjective ∈ adjectives, ∃ noun ∈ nouns, joinWords adjective noun = slug := by
  simp only [allSlugs, List.mem_flatMap, List.mem_map]

/-- Generation succeeds exactly when some combination is free. -/
theorem generateUniqueSlug_isOk {rng : R} :
    (∃ slug, (generateUniqueSlug rng isTaken).1 = .ok slug) ↔
      ∃ adjective ∈ adjectives, ∃ noun ∈ nouns, isTaken (joinWords adjective noun) = false := by
  constructor
  · rintro ⟨slug, generated⟩
    obtain ⟨listed, free⟩ := generateUniqueSlug_ok generated
    obtain ⟨adjective, first, noun, second, rfl⟩ := mem_allSlugs.mp listed
    exact ⟨adjective, first, noun, second, free⟩
  · rintro ⟨adjective, first, noun, second, free⟩
    cases outcome : (generateUniqueSlug rng isTaken).1 with
    | ok slug => exact ⟨slug, rfl⟩
    | error error =>
      have taken := (generateUniqueSlug_error.mp outcome).1 (joinWords adjective noun)
        (mem_allSlugs.mpr ⟨adjective, first, noun, second, rfl⟩)
      rw [free] at taken
      cases taken

/-! ### Different pairs, different slugs -/

private theorem noHyphen_of_isWord {word : String} (isWord : IsWord word = true) :
    '-' ∉ word.toList := by
  simp only [IsWord, Bool.and_eq_true, List.all_eq_true, decide_eq_true_eq] at isWord
  intro member
  exact absurd (isWord.2 '-' member).1 (by decide)

/-- The hyphen tells where the first word ends. -/
theorem joinWords_injective {adjective noun otherAdjective otherNoun : String}
    (first : adjective ∈ adjectives) (second : noun ∈ nouns)
    (same : joinWords adjective noun = joinWords otherAdjective otherNoun) :
    adjective = otherAdjective ∧ noun = otherNoun := by
  have shape := congrArg String.toList same
  rw [joinWords_toList, joinWords_toList, List.append_cons_inj_of_notMem
    (noHyphen_of_isWord (adjectives_are_words _ first))
    (noHyphen_of_isWord (nouns_are_words _ second))] at shape
  exact ⟨String.toList_inj.mp shape.1, String.toList_inj.mp shape.2.2⟩

private theorem adjectives_nodup : adjectives.Nodup := by simp [adjectives]

private theorem nouns_nodup : nouns.Nodup := by simp [nouns]

theorem allSlugs_nodup : allSlugs.Nodup := by
  refine List.nodup_flatMap.mpr ⟨fun adjective listed => ?_, ?_⟩
  · refine List.Nodup.map_on (fun noun member other _ same => ?_) nouns_nodup
    exact (joinWords_injective listed member same).2
  · refine adjectives_nodup.imp_of_mem fun {adjective other} listed _ different => ?_
    rintro slug left right
    obtain ⟨noun, member, rfl⟩ := List.mem_map.mp left
    obtain ⟨otherNoun, _, same⟩ := List.mem_map.mp right
    exact different (joinWords_injective listed member same.symm).1

theorem allSlugs_length : allSlugs.length = adjectives.length * nouns.length := by
  simp [allSlugs, List.length_flatMap, List.map_const']

end CfFw
