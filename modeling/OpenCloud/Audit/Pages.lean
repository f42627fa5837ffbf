import OpenCloud.Accounts.Users
import OpenCloud.Audit.Journals
import OpenCloud.Common.Dates
import OpenCloud.Common.Integers
import OpenCloud.Integrations.Listings
import OpenCloud.Lib.Paging

/-!
# Reading the journals

Both journals are shown newest first, a page at a time, to the administrators of an account, who see
the rows of their own, and to the operators.  While the pages are read the journal goes on, and new
rows come before the old ones.

The pages are those of the framework's paginator, which is a parameter, and the database orders the
rows by their moments only.  Who may look is not modelled here.

## Main results

* `journal_walk` : whatever is recorded meanwhile, the pages read one after the other miss no row
  that was there at the beginning, if no two rows are of one moment.
* `journal_pages` : where nothing is, they are the rows that match, newest first, each once.
-/

namespace OpenCloud

/-! ### The pages -/

/-- The parameters of a request for a page. -/
structure PageParams where
  page : Option String
  perPage : Option String

/-- A page as the framework's paginator gives it, `self.page`. -/
structure PageObject (α : Type) where
  items : List α
  number : ℕ
  /-- `paginator.count`. -/
  count : ℕ
  /-- `paginator.num_pages`. -/
  numPages : ℕ

/-- `PageNumberPagination` of the framework, with the page size and the largest one that are set. -/
structure PageNumberPagination where
  getPageSize : PageParams → ℕ
  paginateQueryset {α : Type} : PageParams → List α → Except AppError (PageObject α)

/-- What the framework says of it: the pages have a size, and the page of a number holds the items
after those of the pages before it. -/
structure PageNumberPagination.Documented (pagination : PageNumberPagination) : Prop where
  getPageSize_pos : ∀ params, 0 < pagination.getPageSize params
  items : ∀ {α : Type} (params : PageParams) (queryset : List α) (object : PageObject α),
    pagination.paginateQueryset params queryset = .ok object →
      object.items = page queryset (pagination.getPageSize params) object.number
  count : ∀ {α : Type} (params : PageParams) (queryset : List α) (object : PageObject α),
    pagination.paginateQueryset params queryset = .ok object →
      object.count = queryset.length ∧ object.numPages =
        pageCount queryset.length (pagination.getPageSize params)

/-- What `get_paginated_response` answers. -/
structure PageReply (α : Type) where
  data : List α
  total : ℕ
  page : ℕ
  perPage : ℕ
  pages : ℕ
  deriving DecidableEq

/-- `EnvelopePagination`, on the rows that the database answers. -/
def envelopePagination (pagination : PageNumberPagination) {α : Type} (params : PageParams)
    (queryset : List α) :
    Except AppError (PageReply α) := do
  let object ← pagination.paginateQueryset params queryset
  return ⟨object.items, object.count, object.number, pagination.getPageSize params, object.numPages⟩

/-- A row of a journal, with the moment it is recorded at. -/
structure JournalRow (α : Type) where
  createdAt : Instant
  row : α
  deriving DecidableEq

/-- The database answers the rows of a journal that a view selects, `ordering = ['-created_at']`:
rows of one moment come in any order. -/
structure Answers {α : Type} (selects : α → Bool) (journal queryset : List (JournalRow α)) :
    Prop where
  rows : queryset.Perm (journal.filter fun r => selects r.row)
  ordered : queryset.Pairwise fun a b => b.createdAt ≤ a.createdAt

/-- No two rows are of one moment. -/
def ApartInTime {α : Type} (journal : List (JournalRow α)) : Prop :=
  (journal.map JournalRow.createdAt).Nodup

/-- `Outcome` as the database has it. -/
def Outcome.value : Outcome → String
  | success => "SUCCESS"
  | failure => "FAILURE"

/-! ### The views -/

/-- The filters of a request; a parameter that is empty filters nothing. -/
structure AuditFilters where
  account : Option String
  action : Option String
  username : Option String
  resourceId : Option String
  outcome : Option String
  actor : Option String
  search : Option String

/-- A filter that a parameter sets. -/
def filteredBy (param : Option String) (selects : String → Bool) : Bool :=
  match keep param with
  | none => true
  | some value => selects value

section

variable (c : Casing) (icontains : String → String → Bool) (filters : AuditFilters)

/-- `AdminAuditView.get_queryset`: the rows of the user's own account. -/
def adminAuditSelects (user : User) (row : AuditLog) : Bool :=
  row.account == user.account && filteredBy (filters.action.map strip) (row.action == ·) &&
    filteredBy (filters.username.map strip) (row.username == ·) &&
    filteredBy (filters.resourceId.map strip) (row.resourceId == ·) &&
    filteredBy (filters.outcome.map strip) (row.outcome.value == ·)

/-- `AuditView.get_queryset`; `icontains` is that of the database. -/
def auditSelects (row : AuditLog) : Bool :=
  filteredBy filters.account (fun account => decide (c.iexact row.account account)) &&
    filteredBy filters.action (row.action == ·) &&
      filteredBy filters.username (icontains row.username ·) &&
    filteredBy filters.outcome (row.outcome.value == ·) &&
    filteredBy filters.search fun q =>
      icontains row.username q || icontains row.resourceName q || icontains row.account q

/-- `ActivityView.get_queryset`. -/
def activitySelects (row : AdminAction) : Bool :=
  filteredBy filters.actor (icontains row.actorEmail ·) &&
    filteredBy filters.action (row.action == ·) &&
    filteredBy filters.outcome (row.outcome.value == ·)

end

/-! ### Pages of a journal -/

section

variable {α : Type} {pagination : PageNumberPagination} {params : PageParams} {selects : α → Bool}
  {journal journal' queryset queryset' : List (JournalRow α)} {reply : PageReply (JournalRow α)}
    {r : JournalRow α}

theorem Answers.mem_iff (h : Answers selects journal queryset) :
    r ∈ queryset ↔ r ∈ journal ∧ selects r.row = true := by
  rw [h.rows.mem_iff, List.mem_filter]

theorem Answers.pairwise_lt (h : Answers selects journal queryset) (hapart : ApartInTime journal) :
    queryset.Pairwise fun a b => b.createdAt < a.createdAt := by
  have hmoments : (queryset.map JournalRow.createdAt).Nodup :=
    (h.rows.map JournalRow.createdAt).nodup_iff.2 (hapart.sublist (List.filter_sublist.map _))
  have hne : queryset.Pairwise fun a b => a.createdAt ≠ b.createdAt := List.pairwise_map.1 hmoments
  refine (h.ordered.and hne).imp ?_
  rintro a b ⟨hle, hne⟩
  exact lt_of_le_of_ne hle (Ne.symm hne)

theorem Answers.sublist (h : Answers selects journal queryset)
    (h' : Answers selects journal' queryset') (hapart : ApartInTime journal')
    (hgrow : journal <+: journal') :
    queryset.Sublist queryset' := by
  have : Std.Antisymm fun a b : JournalRow α => b.createdAt < a.createdAt :=
    ⟨fun a b hab hba => absurd hab (Nat.lt_asymm hba)⟩
  have hsubperm : queryset.Subperm queryset' :=
    h.rows.subperm.trans (((hgrow.sublist.filter _).subperm).trans h'.rows.symm.subperm)
  have hold : ApartInTime journal := hapart.sublist (hgrow.sublist.map _)
  exact List.sublist_of_subperm_of_pairwise hsubperm (h.pairwise_lt hold) (h'.pairwise_lt hapart)

theorem envelopePagination_eq_ok (hdocumented : pagination.Documented)
    (h : envelopePagination pagination params queryset = .ok reply) :
    reply.data = page queryset reply.perPage reply.page ∧ reply.total = queryset.length ∧
      0 < reply.perPage ∧
      reply.pages = pageCount queryset.length reply.perPage := by
  obtain ⟨object, hobject, h⟩ := exists_of_bind_eq_ok h
  obtain rfl := Except.ok.inj h
  obtain ⟨hcount, hnumPages⟩ := hdocumented.count params queryset object hobject
  exact ⟨hdocumented.items params queryset object hobject, hcount,
    hdocumented.getPageSize_pos params, hnumPages⟩

/-- **Reading the pages in turn misses nothing.**  Rows are added to a journal while its pages are
read, from the first to the one that is then the last: every row that matches and was there at the
beginning has been on one of the pages. -/
theorem journal_walk {journals querysets : ℕ → List (JournalRow α)} {walk : ℕ → PageParams}
    {replies : ℕ → PageReply (JournalRow α)} {n : ℕ} (hdocumented : pagination.Documented)
    (hanswers : ∀ k, Answers selects (journals k) (querysets k))
    (hapart : ∀ k, ApartInTime (journals k)) (hgrow : ∀ k, journals k <+: journals (k + 1))
    (hreplies : ∀ k ≤ n, envelopePagination pagination (walk k) (querysets k) = .ok (replies k))
    (hpages : ∀ k ≤ n, (replies k).page = k + 1)
    (hsize : ∀ k ≤ n, (replies k).perPage = (replies 0).perPage) (hlast : (replies n).pages ≤ n + 1)
    (hr : r ∈ journals 0) (hselects : selects r.row = true) :
    ∃ k ≤ n, r ∈ (replies k).data := by
  have hpos : 0 < (replies 0).perPage :=
    (envelopePagination_eq_ok hdocumented (hreplies 0 (Nat.zero_le n))).2.2.1
  have hlast' : pageCount (querysets n).length (replies 0).perPage ≤ n + 1 := by
    rw [← hsize n (Nat.le_refl n),
      ← (envelopePagination_eq_ok hdocumented (hreplies n (Nat.le_refl n))).2.2.2]
    exact hlast
  obtain ⟨k, hk, hpage⟩ := mem_page_of_walk querysets hpos
    (fun k => (hanswers k).sublist (hanswers (k + 1)) (hapart (k + 1)) (hgrow k)) hlast'
    ((hanswers 0).mem_iff.2 ⟨hr, hselects⟩)
  refine ⟨k, hk, ?_⟩
  rw [(envelopePagination_eq_ok hdocumented (hreplies k hk)).1, hsize k hk, hpages k hk]
  exact hpage

/-- Where nothing is recorded meanwhile, the pages are the rows that match, newest first. -/
theorem journal_pages {walk : ℕ → PageParams} {replies : ℕ → PageReply (JournalRow α)} {size : ℕ}
    (hsize : 0 < size) (hdocumented : pagination.Documented)
    (hreplies : ∀ k < pageCount queryset.length size,
      envelopePagination pagination (walk k) queryset = .ok (replies k))
    (hpages : ∀ k < pageCount queryset.length size, (replies k).page = k + 1 ∧
      (replies k).perPage = size) :
    (List.range (pageCount queryset.length size)).flatMap (fun k => (replies k).data) =
      queryset := by
  calc
    _ = (List.range (pageCount queryset.length size)).flatMap
          (fun k => page queryset size (k + 1)) := by
        refine List.flatMap_congr fun k hk => ?_
        have hlt := List.mem_range.1 hk
        rw [(envelopePagination_eq_ok hdocumented (hreplies k hlt)).1, (hpages k hlt).1,
          (hpages k hlt).2]
    _ = queryset := flatMap_page _ hsize

end

/-- The page size that is asked for, up to 200; 25 where none is. -/
def plainSize (params : PageParams) : ℕ :=
  match params.perPage.bind (int .plain) with
  | some n => if 0 < n then min n.toNat 200 else 25
  | none => 25

/-- The number of the page that is asked for, the first where none is. -/
def plainNumber (params : PageParams) : ℕ := ((int .plain (params.page.getD "1")).getD 0).toNat

/-- The page of a number, if there is one. -/
def numberedPage {α : Type} (queryset : List α) (size number : ℕ) :
    Except AppError (PageObject α) :=
  if 1 ≤ number ∧ number ≤ pageCount queryset.length size then
    .ok ⟨page queryset size number, number, queryset.length, pageCount queryset.length size⟩
  else .error ⟨"Invalid page.", "not_found", 404⟩

theorem numberedPage_eq_ok {α : Type} {queryset : List α} {size number : ℕ} {object : PageObject α}
    (h : numberedPage queryset size number = .ok object) :
    object =
      ⟨page queryset size number, number, queryset.length, pageCount queryset.length size⟩ := by
  unfold numberedPage at h
  split_ifs at h
  exact (Except.ok.inj h).symm

/-- A paginator that reads plain numbers. -/
def plainPagination : PageNumberPagination where
  getPageSize := plainSize
  paginateQueryset params queryset :=
    numberedPage queryset (plainSize params) (plainNumber params)

theorem plainPagination_documented : plainPagination.Documented := by
  constructor
  case getPageSize_pos =>
    intro params
    show 0 < plainSize params
    unfold plainSize
    split
    · split_ifs <;> omega
    · decide
  case items =>
    intro α params queryset object h
    simp only [plainPagination] at h ⊢
    rw [numberedPage_eq_ok h]
  case count =>
    intro α params queryset object h
    simp only [plainPagination] at h ⊢
    rw [numberedPage_eq_ok h]
    exact ⟨rfl, rfl⟩

/-- A sign-in of an operator. -/
def signInRow (moment : Instant) : JournalRow AdminAction :=
  ⟨moment, ⟨"ann@opencloud.uz", "auth.login", "", "", "", "", .success, "", []⟩⟩

/-- After the first page another operator's row comes in. -/
def growingJournal : ℕ → List (JournalRow AdminAction)
  | 0 => [signInRow 1, signInRow 2]
  | _ + 1 => [signInRow 1, signInRow 2, signInRow 3]

/-- Pages of one row. -/
def singleRows : ℕ → PageParams
  | 0 => ⟨none, some "1"⟩
  | 1 => ⟨some "2", some "1"⟩
  | _ + 2 => ⟨some "3", some "1"⟩

/-- What the pages answer: the second row twice. -/
def singleReplies : ℕ → PageReply (JournalRow AdminAction)
  | 0 => ⟨[signInRow 2], 2, 1, 1, 2⟩
  | 1 => ⟨[signInRow 2], 3, 2, 1, 3⟩
  | _ + 2 => ⟨[signInRow 1], 3, 3, 1, 3⟩

/-- No filter. -/
def noFilters : AuditFilters := ⟨none, none, none, none, none, none, none⟩

/-- The row that was there first is on the third page. -/
theorem journal_walk_signIns : ∃ k ≤ 2, signInRow 1 ∈ (singleReplies k).data := by
  have hanswers : ∀ k, Answers (activitySelects (fun _ _ => true) noFilters) (growingJournal k)
      (growingJournal k).reverse := by
    rintro (_ | k)
    · exact ⟨List.reverse_perm _, by decide⟩
    · exact ⟨List.reverse_perm _, show [signInRow 3, signInRow 2, signInRow 1].Pairwise _ by decide⟩
  have hapart : ∀ k, ApartInTime (growingJournal k) := by
    rintro (_ | k)
    · show [1, 2].Nodup
      decide
    · show [1, 2, 3].Nodup
      decide
  have hgrow : ∀ k, growingJournal k <+: growingJournal (k + 1) := by
    rintro (_ | k)
    · exact ⟨[signInRow 3], rfl⟩
    · exact List.prefix_rfl
  have hreplies :
    ∀ k ≤ 2, envelopePagination plainPagination (singleRows k) (growingJournal k).reverse =
      .ok (singleReplies k) := by
    decide +kernel
  exact @journal_walk AdminAction plainPagination (activitySelects (fun _ _ => true) noFilters)
    (signInRow 1)
    growingJournal (fun k => (growingJournal k).reverse) singleRows singleReplies 2
      plainPagination_documented hanswers
    hapart hgrow hreplies (by decide) (by decide) (by decide) (by decide) (by decide +kernel)

end OpenCloud
