import CfFw.Loop
import Mathlib.Data.List.Nodup

/-! `all_pages` of the shell setup: a list of the Cloudflare API, page after page, until what
a page says of the whole list is reached. -/
namespace CfFw.Pagination

variable {α : Type}

/-- What `envelope.get("result") or []` is. -/
inductive Result (α : Type) where
  | absent
  | list (items : List α)
  | invalid

/-- The fields of `result_info` that are read. -/
structure Info where
  totalPages : Option Int
  totalCount : Option Int
  perPage : Option Int

structure Envelope (α : Type) where
  result : Result α
  info : Info

def Result.items : Result α → Option (List α)
  | .absent => some []
  | .list items => some items
  | .invalid => none

def askedPerPage : Nat := 50

def pagePath (path : String) (page : Nat) : String :=
  let separator := if '?' ∈ path.toList then "&" else "?"
  s!"{path}{separator}page={page}&per_page=50"

/-- `total_pages`, where zero and an absent field are the same but for `total_count`. -/
def totalPages (info : Info) (page fetched : Nat) : Int :=
  match info.totalPages.filter (· ≠ 0) with
  | some total => total
  | none =>
    match info.totalCount with
    | some count =>
      let perPage := (info.perPage.filter (· ≠ 0)).getD askedPerPage
      (count + perPage - 1).fdiv perPage
    | none => if fetched = askedPerPage then page + 1 else page

/-- Where the loop stands, with the requests that it has sent. -/
structure Progress (α : Type) where
  items : List α
  page : Nat
  asked : List String

/-- One pass. `server` is `cf_api` with its errors. -/
def fetchPage (server : String → Except String (Envelope α)) (path : String) (state : Progress α) :
    Except String (List α) × List String ⊕ Progress α :=
  let asked := state.asked ++ [pagePath path state.page]
  match server (pagePath path state.page) with
  | .error message => .inl (.error message, asked)
  | .ok envelope =>
    match envelope.result.items with
    | none => .inl (.error "Cloudflare returned invalid pagination data.", asked)
    | some fetched =>
      let items := state.items ++ fetched
      if totalPages envelope.info state.page fetched.length ≤ state.page then .inl (.ok items, asked)
      else .inr ⟨items, state.page + 1, asked⟩

def allPages (server : String → Except String (Envelope α)) (path : String) (fuel : Nat) :
    Option (Except String (List α) × List String) :=
  Loop.run (fetchPage server path) fuel ⟨[], 1, []⟩

variable {server : String → Except String (Envelope α)} {path : String} {state next : Progress α}
  {items : List α} {outcome : Except String (List α)} {asked : List String} {info : Info}
  {size count page fuel : Nat}

/-! ### Any server -/

/-- What a page holds, or nothing where it cannot be read. -/
def pageItems (server : String → Except String (Envelope α)) (path : String) (page : Nat) : List α :=
  match server (pagePath path page) with
  | .error _ => []
  | .ok envelope => envelope.result.items.getD []

def pagePaths (path : String) (pages : Nat) : List String :=
  (List.range pages).map fun page => pagePath path (page + 1)

def pagesItems (server : String → Except String (Envelope α)) (path : String) (pages : Nat) :
    List α :=
  (List.range pages).flatMap fun page => pageItems server path (page + 1)

/-- The loop has fetched so many pages. -/
def fetched (server : String → Except String (Envelope α)) (path : String) (pages : Nat) : Progress α :=
  ⟨pagesItems server path pages, pages + 1, pagePaths path pages⟩

/-- Each page has a request of its own. -/
theorem pagePath_injective (path : String) : Function.Injective (pagePath path) := by
  intro page other same
  have lists : ∀ text : String, text ++ toString page ++ "&per_page=50" =
      text ++ toString other ++ "&per_page=50" → page = other := by
    intro text same
    have characters := congrArg String.toList same
    simp only [String.toList_append] at characters
    have digits : Nat.toDigits 10 page = Nat.toDigits 10 other := by
      simpa [toString, Nat.toList_repr] using
        List.append_cancel_left (List.append_cancel_right characters)
    rw [← @Nat.ofDigitChars_ten_toDigits page, digits, Nat.ofDigitChars_ten_toDigits]
  exact lists _ same

private theorem pagePaths_nodup (path : String) (pages : Nat) : (pagePaths path pages).Nodup := by
  refine List.Nodup.map (fun page other same => ?_) List.nodup_range
  exact Nat.succ.inj (pagePath_injective path same)

private theorem pagePaths_succ (pages : Nat) :
    pagePaths path (pages + 1) = pagePaths path pages ++ [pagePath path (pages + 1)] := by
  simp [pagePaths, List.range_succ]

private theorem pagesItems_succ (pages : Nat) : pagesItems server path (pages + 1) =
    pagesItems server path pages ++ pageItems server path (pages + 1) := by
  simp [pagesItems, List.range_succ]

/-- What a pass makes of an answer that can be read. -/
theorem fetchPage_list {pages : Nat} {envelope : Envelope α}
    (answered : server (pagePath path (pages + 1)) = .ok envelope)
    (listed : envelope.result.items = some items) : fetchPage server path (fetched server path pages) =
      if totalPages envelope.info (pages + 1) items.length ≤ (pages + 1 : Nat) then
        .inl (.ok (pagesItems server path (pages + 1)), pagePaths path (pages + 1))
      else .inr (fetched server path (pages + 1)) := by
  have page : pageItems server path (pages + 1) = items := by
    rw [pageItems, answered]
    exact congrArg (Option.getD · []) listed
  simp only [fetchPage, fetched, answered, listed, pagePaths_succ, pagesItems_succ, page]
  rfl

/-- A pass asks for its page; it goes on with what the page holds, or ends with all that was
fetched, or with an error. -/
theorem fetchPage_cases (server : String → Except String (Envelope α)) (path : String)
    (pages : Nat) :
    (∃ message, fetchPage server path (fetched server path pages) =
      .inl (.error message, pagePaths path (pages + 1))) ∨
    fetchPage server path (fetched server path pages) =
      .inl (.ok (pagesItems server path (pages + 1)), pagePaths path (pages + 1)) ∨
    fetchPage server path (fetched server path pages) = .inr (fetched server path (pages + 1)) := by
  cases answered : server (pagePath path (pages + 1)) with
  | error message =>
    refine .inl ⟨message, ?_⟩
    simp only [fetchPage, fetched, answered, pagePaths_succ]
  | ok envelope =>
    cases listed : envelope.result.items with
    | none =>
      refine .inl ⟨"Cloudflare returned invalid pagination data.", ?_⟩
      simp only [fetchPage, fetched, answered, listed, pagePaths_succ]
    | some items =>
      rw [fetchPage_list answered listed]
      split
      · exact .inr (.inl rfl)
      · exact .inr (.inr rfl)

/-- What `all_pages` ends with, whatever the server says: each page was asked for once and in
order, and a result is all that they held. -/
theorem allPages_ends (ended : allPages server path fuel = some (outcome, asked)) :
    ∃ pages, asked = pagePaths path pages ∧
      ∀ items, outcome = .ok items → items = pagesItems server path pages := by
  obtain ⟨last, ⟨pages, rfl⟩, ended⟩ := Loop.run_invariant
    (fun state => ∃ pages, state = fetched server path pages) ⟨0, rfl⟩
    (fun state next ⟨pages, same⟩ onward => by
      rw [same] at onward
      rcases fetchPage_cases server path pages with ⟨_, ends⟩ | ends | goesOn
      · cases ends.symm.trans onward
      · cases ends.symm.trans onward
      · exact ⟨pages + 1, (Sum.inr.inj (goesOn.symm.trans onward)).symm⟩) ended
  refine ⟨pages + 1, ?_⟩
  rcases fetchPage_cases server path pages with ⟨_, ends⟩ | ends | goesOn
  · cases ends.symm.trans ended
    exact ⟨rfl, fun _ same => (nomatch same)⟩
  · cases ends.symm.trans ended
    exact ⟨rfl, fun _ same => (Except.ok.inj same).symm⟩
  · cases goesOn.symm.trans ended

/-! ### A list that is served page by page -/

/-- The part of a list that is its page, for pages from one on. -/
def pageOf (items : List α) (size page : Nat) : List α := (items.drop ((page - 1) * size)).take size

/-- The server has this list, in pages of this size. -/
def Serves (server : String → Except String (Envelope α)) (path : String) (items : List α)
    (size : Nat) (info : Info) : Prop :=
  ∀ page, 0 < page → server (pagePath path page) = .ok ⟨.list (pageOf items size page), info⟩

/-- What is said of the list is so. -/
structure Truthful (info : Info) (count size : Nat) : Prop where
  totalPages : ∀ total, info.totalPages = some total → total = ((count + size - 1) / size : Nat)
  totalCount : ∀ total, info.totalCount = some total → total = count
  perPage : ∀ length, info.perPage = some length → length = size

/-- The number of pages is said, or their size with the length of the list; or the pages are
of the size that was asked for. -/
def Sufficient (info : Info) (size : Nat) : Prop :=
  info.totalPages.isSome ∨ (info.totalCount.isSome ∧ info.perPage.isSome) ∨ size = askedPerPage

private theorem pagesItems_of_serves (serves : Serves server path items size info) (pages : Nat) :
    pagesItems server path pages = items.take (pages * size) := by
  induction pages with
  | zero => simp [pagesItems]
  | succ pages ih =>
    have page : pageItems server path (pages + 1) = (items.drop (pages * size)).take size := by
      rw [pageItems, serves (pages + 1) (Nat.succ_pos _)]
      rfl
    rw [pagesItems_succ, ih, page, Nat.succ_mul, List.take_add]

/-- The number of pages that the list needs is reached with its end. -/
theorem pages_le_iff (positive : 0 < size) (pages : Nat) :
    (count + size - 1) / size ≤ pages ↔ count ≤ pages * size := by
  rw [Nat.div_le_iff_le_mul_add_pred positive, Nat.mul_comm]
  omega

private theorem ceil_fdiv (positive : 0 < size) :
    ((count : Int) + size - 1).fdiv size = ((count + size - 1) / size : Nat) := by
  rw [Int.fdiv_eq_ediv_of_nonneg _ (Int.natCast_nonneg _)]
  have whole : (count : Int) + size - 1 = ((count + size - 1 : Nat) : Int) := by omega
  rw [whole, Int.natCast_ediv]

private theorem filter_nonzero {number : Option Int} (absent : number.filter (· ≠ 0) = none)
    {n : Int}
    (present : number = some n) : n = 0 := by
  rw [present, Option.filter_some] at absent
  by_contra nonzero
  rw [if_pos (by simpa using nonzero)] at absent
  cases absent

/-- A list of no pages is empty. -/
theorem empty_of_no_pages (positive : 0 < size) (truthful : Truthful info count size)
    (absent : info.totalPages.filter (· ≠ 0) = none) (said : info.totalPages.isSome = true) :
    count = 0 := by
  obtain ⟨total, present⟩ := Option.isSome_iff_exists.mp said
  have pages := truthful.totalPages total present
  rw [filter_nonzero absent present] at pages
  have none : (count + size - 1) / size ≤ 0 := by omega
  simpa using (pages_le_iff positive 0).mp none

/-- Where the number of pages is computed from the length of the list. -/
theorem counted_pages (positive : 0 < size) (truthful : Truthful info count size)
    (sufficient : Sufficient info size) {total : Int} (absent : info.totalPages.filter (· ≠ 0) = none)
    (counted : info.totalCount = some total) (page fetched : Nat) :
    totalPages info page fetched = ((count + size - 1) / size : Nat) := by
  have length := truthful.totalCount total counted
  simp only [totalPages, absent, counted, length]
  cases said : info.perPage with
  | some perPage =>
    have size' := truthful.perPage perPage said
    have nonzero : (some perPage).filter (· ≠ 0) = some perPage := by
      rw [Option.filter_some, if_pos]
      simp only [decide_eq_true_eq]
      omega
    rw [nonzero, Option.getD_some, size']
    exact ceil_fdiv positive
  | none =>
    simp only [Option.filter_none, Option.getD_none]
    rcases sufficient with pages | ⟨_, perPage⟩ | rfl
    · obtain rfl := empty_of_no_pages positive truthful absent pages
      have none : (0 + size - 1) / size = 0 := Nat.div_eq_of_lt (by omega)
      rw [none]
      decide
    · rw [said] at perPage
      cases perPage
    · exact ceil_fdiv positive

private theorem counted_spec (positive : 0 < size) {total : Int} {pages : Nat}
    (whole : total = ((count + size - 1) / size : Nat)) :
    (total ≤ (pages + 1 : Nat) → count ≤ (pages + 1) * size) ∧
      (¬ total ≤ (pages + 1 : Nat) → pages * size < count) := by
  rw [whole, Int.ofNat_le, pages_le_iff positive]
  exact ⟨id, fun more => Nat.lt_of_le_of_lt (Nat.mul_le_mul_right size (Nat.le_succ pages))
    (Nat.lt_of_not_le more)⟩

/-- The loop ends on a page behind which nothing is left, and goes on from one that was not
empty. -/
theorem totalPages_spec (positive : 0 < size) (truthful : Truthful info count size)
    (sufficient : Sufficient info size) (pages : Nat) :
    (totalPages info (pages + 1) (min size (count - pages * size)) ≤ (pages + 1 : Nat) →
      count ≤ (pages + 1) * size) ∧
    (¬ totalPages info (pages + 1) (min size (count - pages * size)) ≤ (pages + 1 : Nat) →
      pages * size < count) := by
  cases said : info.totalPages.filter (· ≠ 0) with
  | some total =>
    apply counted_spec positive
    simp only [totalPages, said]
    exact truthful.totalPages total (Option.eq_some_of_filter_eq_some said)
  | none =>
    cases counted : info.totalCount with
    | some total => exact counted_spec positive (counted_pages positive truthful sufficient said counted _ _)
    | none =>
      simp only [totalPages, said, counted]
      rcases sufficient with given | ⟨count', _⟩ | rfl
      · obtain rfl := empty_of_no_pages positive truthful said given
        simp [askedPerPage]
      · rw [counted] at count'
        cases count'
      · unfold askedPerPage
        constructor
        · intro ends
          split at ends <;> omega
        · intro onward
          split at onward <;> omega

private theorem length_pageOf (items : List α) (size pages : Nat) :
    (pageOf items size (pages + 1)).length = min size (items.length - pages * size) := by
  rw [pageOf, List.length_take, List.length_drop, Nat.add_sub_cancel]

/-- A pass over a list that is served page by page. -/
theorem fetchPage_serves (serves : Serves server path items size info) (pages : Nat) :
    fetchPage server path (fetched server path pages) =
      if totalPages info (pages + 1) (min size (items.length - pages * size)) ≤ (pages + 1 : Nat) then
        .inl (.ok (items.take ((pages + 1) * size)), pagePaths path (pages + 1))
      else .inr (fetched server path (pages + 1)) := by
  rw [fetchPage_list (serves (pages + 1) (Nat.succ_pos _)) rfl, length_pageOf,
    pagesItems_of_serves serves]

/-- **Every item of a list, once and in order.** Whatever a server answers, `all_pages` asks
for each page once, in order, and what it returns is what these pages hold. From a server
that has a list of any length in pages of any size, and that says enough of it, `all_pages`
returns with exactly that list. -/
theorem all_pages_complete (server : String → Except String (Envelope α)) (path : String) :
    (∀ fuel outcome asked, allPages server path fuel = some (outcome, asked) →
      ∃ pages, asked = pagePaths path pages ∧ asked.Nodup ∧
        ∀ items, outcome = .ok items → items = pagesItems server path pages) ∧
    ∀ items size info, 0 < size → Serves server path items size info →
      Truthful info items.length size → Sufficient info size →
        ∃ fuel pages, allPages server path fuel = some (.ok items, pagePaths path pages) := by
  refine ⟨fun fuel outcome asked ended => ?_, fun items size info positive serves truthful
    sufficient => ?_⟩
  · obtain ⟨pages, rfl, result⟩ := allPages_ends ended
    exact ⟨pages, rfl, pagePaths_nodup path pages, result⟩
  have spec := totalPages_spec positive truthful sufficient
  -- a page that the loop goes on from was not empty
  have ends : ∃ result, allPages server path (items.length + 1) = some result := by
    refine Loop.run_terminates (fun state => ∃ pages, state = fetched server path pages)
      (fun state => items.length - (state.page - 1) * size) ⟨0, rfl⟩ ?_ (by simp)
    rintro _ next ⟨pages, rfl⟩ onward
    rw [fetchPage_serves serves] at onward
    split at onward
    · cases onward
    · rename_i more
      cases onward
      have left := (spec pages).2 more
      refine ⟨⟨pages + 1, rfl⟩, ?_⟩
      simp only [fetched, Nat.add_sub_cancel, Nat.succ_mul]
      omega
  obtain ⟨⟨outcome, asked⟩, ended⟩ := ends
  obtain ⟨last, ⟨pages, rfl⟩, result⟩ := Loop.run_invariant
    (fun state => ∃ pages, state = fetched server path pages) ⟨0, rfl⟩
    (fun state next ⟨pages, same⟩ onward => by
      rw [same, fetchPage_serves serves] at onward
      split at onward <;> cases onward
      exact ⟨pages + 1, rfl⟩) ended
  rw [fetchPage_serves serves] at result
  split at result
  · rename_i reached
    cases result
    refine ⟨items.length + 1, pages + 1, ended.trans ?_⟩
    rw [List.take_of_length_le ((spec pages).1 reached)]
  · cases result

/-- A server of three accounts in pages of two, which says how many pages there are. -/
def twoPages (url : String) : Except String (Envelope Nat) :=
  .ok ⟨.list (if url = pagePath "/accounts" 1 then [7, 8]
    else if url = pagePath "/accounts" 2 then [9] else []), ⟨some 2, none, none⟩⟩

private theorem twoPages_serves : Serves twoPages "/accounts" [7, 8, 9] 2 ⟨some 2, none, none⟩ := by
  intro page positive
  have first : pagePath "/accounts" page = pagePath "/accounts" 1 ↔ page = 1 :=
    (pagePath_injective "/accounts").eq_iff
  have second : pagePath "/accounts" page = pagePath "/accounts" 2 ↔ page = 2 :=
    (pagePath_injective "/accounts").eq_iff
  simp only [twoPages, first, second]
  split
  · rename_i same
    rw [same]
    rfl
  · split
    · rename_i same
      rw [same]
      rfl
    · have past : pageOf [7, 8, 9] 2 page = [] := by
        rw [pageOf, List.drop_eq_nil_of_le (by simp; omega), List.take_nil]
      rw [past]

theorem three_accounts_listed : ∃ fuel pages,
    allPages twoPages "/accounts" fuel = some (.ok [7, 8, 9], pagePaths "/accounts" pages) :=
  (all_pages_complete twoPages "/accounts").2 [7, 8, 9] 2 ⟨some 2, none, none⟩ (by decide)
    twoPages_serves ⟨by simp, by simp, by simp⟩ (.inl rfl)

/-- A server that says nothing of the list, with pages of another size than was asked for,
is left after its first page. -/
example : totalPages ⟨none, none, none⟩ 1 20 = 1 := by decide

end CfFw.Pagination
