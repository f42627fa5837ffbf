import OpenCloud.Accounts.Sessions
import OpenCloud.Common.Integers
import OpenCloud.Integrations.Listings
import OpenCloud.Lib.Slices
import Mathlib.Data.List.Sort

/-!
# The cloud's event log

The cloud reports no total, so `listEvents` takes the whole window of a project, and `eventListGet`
searches it, counts it and cuts the page out of it.  The limit has an upper bound and no lower one.

## Main results

* `eventListGet_eq_ok` : what a page is made of.
* `pagedOnce_iff` : the pages show each event once if and only if the limit is not negative.
-/

namespace OpenCloud

/-- `PAGE_SIZE_MAX`. -/
def pageSizeMax : ℤ := 200

/-- `EVENT_FETCH_CAP`. -/
def eventFetchCap : ℕ := 1000

/-- `EVENT_PERIODS`, in seconds. -/
def eventPeriods : Dict String ℤ :=
  [("1h", 3600), ("24h", 24 * 3600), ("7d", 7 * 86400), ("30d", 30 * 86400)]

/-- `EVENT_SEVERITIES`. -/
def eventSeverities : List String := ["INFO", "WARNING", "ERROR"]

/-- An event as the cloud reports it. -/
structure RawEvent where
  id : Option String
  /-- In milliseconds. -/
  timestamp : Option ℤ
  severity : Option String
  typeId : Option String
  typeName : Option String
  description : Option String
  entityType : Option String
  entityName : Option String
  entityId : Option String
  projectId : Option String
  userId : Option String
  originIp : Option String
  hostname : Option String
  requestId : Option String
  domain : Option String
  accountName : Option String

/-- An event as it is shown. -/
structure CloudEvent where
  id : String
  timestamp : Option ℤ
  severity : String
  typeId : String
  typeName : String
  description : String
  entityType : String
  entityName : String
  entityId : String
  projectId : Option String
  userId : Option String
  originIp : String
  hostname : String
  requestId : String
  account : String
  deriving DecidableEq

/-- What is asked of `/events/query`. -/
structure EventQuery where
  startTimestamp : ℤ
  endTimestamp : ℤ
  limit : ℕ
  projectId : String
  severity : Option String
  entityType : Option String
  entityId : Option String
  eventType : Option String

/-- What `list_events` returns. -/
structure EventWindow where
  events : List CloudEvent
  start : ℤ
  stop : ℤ
  period : String
  truncated : Bool

/-- The query of a request. -/
structure EventParams where
  limit : Option String
  offset : Option String
  period : Option String
  severity : Option String
  entityType : Option String
  entityId : Option String
  eventType : Option String
  search : Option String

/-- What is answered. -/
structure EventPage where
  data : List CloudEvent
  total : ℕ
  limit : ℤ
  offset : ℤ
  period : String
  start : ℤ
  stop : ℤ
  truncated : Bool
  project : Option String
  severities : List (String × ℕ)
  entityTypes : List String
  topTypes : List (String × String × ℕ)

/-- `collections.Counter`, in the order in which the keys come. -/
def countsOf {α κ : Type} [DecidableEq κ] (key : α → κ) (items : List α) : Dict κ ℕ :=
  Dict.collect (fun a => some (key a)) 0 (fun _ n => n + 1) [] items

/-- `int(param or default)`, none for the `ValueError`. -/
def intOr (table : DigitTable) (default : ℤ) (param : Option String) : Option ℤ :=
  match keep param with
  | none => some default
  | some text => int table text

section

variable (c : Casing) (upper : String → String) (table : DigitTable)
  (cloud : String → EventQuery → Except ZadaraError (List RawEvent))

/-- `normalize_event`; `upper` is `str.upper`. -/
def normalizeEvent (raw : RawEvent) : CloudEvent where
  id := raw.id.getD ""
  timestamp := raw.timestamp
  severity := upper (orElse (raw.severity.getD "") "INFO")
  typeId := raw.typeId.getD ""
  typeName := raw.typeName.getD ""
  description := raw.description.getD ""
  entityType := raw.entityType.getD ""
  entityName := raw.entityName.getD ""
  entityId := raw.entityId.getD ""
  projectId := keep raw.projectId
  userId := keep raw.userId
  originIp := raw.originIp.getD ""
  hostname := raw.hostname.getD ""
  requestId := raw.requestId.getD ""
  account := orElse (raw.domain.getD "") (raw.accountName.getD "")

/-- `list_events`, at the moment `now`; the cloud answers the entries that are objects. -/
def listEvents (now : ℤ) (token projectId period : String) (params : EventParams) :
    Except ZadaraError EventWindow := do
  let some seconds := eventPeriods.get? period
    | throw ⟨"invalid_request", "Unknown period: " ++ period⟩
  let severity := (keep params.severity).map upper
  if let some level := severity then
    if level ∉ eventSeverities then
      throw ⟨"invalid_request", "Unknown severity: " ++ params.severity.getD ""⟩
  let start := now - seconds * 1000
  let data ← cloud token ⟨start, now, eventFetchCap, projectId, severity, keep params.entityType,
    keep params.entityId, keep params.eventType⟩
  let events := (data.map (normalizeEvent upper)).insertionSort fun a b =>
    b.timestamp.getD 0 ≤ a.timestamp.getD 0
  return ⟨events, start, now, period, decide (eventFetchCap ≤ events.length)⟩

/-- What a search for a text that is not blank finds. -/
def CloudEvent.Matches (search : String) (e : CloudEvent) : Prop :=
  search.toList <:+: (c.lower e.description).toList ∨
    search.toList <:+: (c.lower e.typeName).toList ∨
    search.toList <:+: (c.lower e.entityName).toList

instance (search : String) : DecidablePred (CloudEvent.Matches c search) := fun _ =>
  inferInstanceAs (Decidable (_ ∨ _ ∨ _))

/-- The events that a request pages through. -/
def searched (params : EventParams) (window : EventWindow) : List CloudEvent :=
  let search := c.lower (strip (params.search.getD ""))
  if search = "" then window.events else window.events.filter fun e => e.Matches c search

/-- The answer for a window, a limit and an offset. -/
def eventPage (session : CabinetSession) (params : EventParams) (window : EventWindow)
    (limit offset : ℤ) : EventPage :=
  let events := searched c params window
  { data := slice events offset (offset + limit)
    total := events.length
    limit := limit
    offset := offset
    period := window.period
    start := window.start
    stop := window.stop
    truncated := window.truncated
    project := session.projectName
    severities := eventSeverities.map fun level =>
      (level, ((countsOf CloudEvent.severity events).get? level).getD 0)
    entityTypes :=
      (((events.map CloudEvent.entityType).filter fun t => t ≠ "").dedup).insertionSort (· ≤ ·)
    topTypes :=
      (((countsOf (fun e => (e.typeId, e.typeName)) events).insertionSort fun a b => b.2 ≤ a.2).take
        8).map
      fun e => (e.1.1, e.1.2, e.2) }

/-- What a failed window is answered. -/
def eventsFailed (err : ZadaraError) : AppError :=
  if err.code = "invalid_request" then ⟨err.message, err.code, 400⟩
  else if err.code = "forbidden" then
    ⟨"Your account cannot read the cloud event log.", "forbidden", 403⟩
  else ⟨"Failed to load events", err.code, 502⟩

/-- `EventListView.get`. -/
def eventListGet (now : ℤ) (vaulted : Option String) (session : CabinetSession)
    (params : EventParams) :
    Except AppError EventPage := do
  let some token := keep vaulted | throw sessionExpired
  let some projectId := keep session.projectId
    | throw ⟨"This session has no project scope, so there is no event log to show.",
      "no_project_scope", 409⟩
  let some limit := intOr table 50 params.limit
    | throw ⟨"limit and offset must be numbers", "invalid_request", 400⟩
  let some offset := intOr table 0 params.offset
    | throw ⟨"limit and offset must be numbers", "invalid_request", 400⟩
  let window ← (listEvents upper cloud now token projectId
    (strip (orElse (params.period.getD "") "24h")) params).mapError
    eventsFailed
  return eventPage c session params window (min limit pageSizeMax) (max offset 0)

/-! ### Paging -/

/-- The page is a run of the events from its offset on, no longer than it may be, and the pages from
the first one on are the events. -/
structure PagedOnce (get : EventParams → Except AppError EventPage) (params : EventParams)
    (events : List CloudEvent) (page : EventPage) : Prop where
  run : page.data <+: events.drop page.offset.toNat
  cap : page.data.length ≤ pageSizeMax
  limit : page.data.length ≤ page.limit
  total : page.total = events.length
  laid : 0 < page.limit → ∀ n : ℕ, events.length ≤ n * page.limit → ∀ offsets : ℕ → String,
    (∀ k < n, int table (offsets k) = some (k * page.limit)) → ∃ pages : ℕ → EventPage,
      (∀ k < n, get { params with offset := some (offsets k) } = .ok (pages k) ∧
        (pages k).total = events.length ∧ (pages k).limit = page.limit) ∧
      (List.range n).flatMap (fun k => (pages k).data) = events

/-- The window that a request looks at. -/
def LooksAt (now : ℤ) (vaulted : Option String) (session : CabinetSession) (params : EventParams)
    (window : EventWindow) : Prop :=
  ∃ token projectId, keep vaulted = some token ∧ keep session.projectId = some projectId ∧
    listEvents upper cloud now token projectId
      (strip (orElse (params.period.getD "") "24h")) params = .ok window

/-- The limit that is asked for, if any, is not negative. -/
def LimitNonneg (params : EventParams) : Prop :=
  ∀ text n, params.limit = some text → int table text = some n → 0 ≤ n

end

section

variable {c : Casing} {upper : String → String} {table : DigitTable}
  {cloud : String → EventQuery → Except ZadaraError (List RawEvent)} {now : ℤ}
    {vaulted : Option String}
  {session : CabinetSession} {params : EventParams} {page : EventPage}

theorem int_empty : int table "" = none := by
  have hstrip : strip "" = "" := by decide
  rw [int, hstrip]
  rfl

theorem intOr_some {text : String} {n default : ℤ} (h : int table text = some n) :
    intOr table default (some text) = some n := by
  have hne : text ≠ "" := by
    rintro rfl
    rw [int_empty] at h
    cases h
  simp [intOr, keep, truthy, hne, h]

/-- A number that was read is the default, or that of a text. -/
theorem limitNonneg_iff {n : ℤ} (h : intOr table 50 params.limit = some n) :
    LimitNonneg table params ↔ 0 ≤ n := by
  cases hlimit : params.limit with
  | none =>
    obtain rfl : 50 = n := by
      rw [hlimit] at h
      exact Option.some.inj h
    exact iff_of_true (fun text n htext => by rw [hlimit] at htext; cases htext) (by decide)
  | some text =>
    rw [hlimit] at h
    by_cases hempty : text = ""
    · subst hempty
      obtain rfl : 50 = n := Option.some.inj h
      refine iff_of_true (fun text n htext hn => ?_) (by decide)
      obtain rfl := Option.some.inj (hlimit.symm.trans htext)
      rw [int_empty] at hn
      cases hn
    · have hn : int table text = some n := by simpa [intOr, keep, truthy, hempty] using h
      constructor
      · exact fun hnonneg => hnonneg text n hlimit hn
      · intro hnonneg text' n' htext' hn'
        obtain rfl := Option.some.inj (hlimit.symm.trans htext')
        obtain rfl := Option.some.inj (hn.symm.trans hn')
        exact hnonneg

theorem LooksAt.offset {window : EventWindow}
    (h : LooksAt upper cloud now vaulted session params window) (offset : Option String) :
    LooksAt upper cloud now vaulted session { params with offset := offset } window := by
  obtain ⟨token, projectId, htoken, hproject, hwindow⟩ := h
  refine ⟨token, projectId, htoken, hproject, ?_⟩
  simp only [listEvents] at hwindow ⊢
  exact hwindow

/-- What a page is made of. -/
theorem eventListGet_eq_ok : eventListGet c upper table cloud now vaulted session params =
    .ok page ↔
    ∃ limit offset window, intOr table 50 params.limit = some limit ∧
      intOr table 0 params.offset = some offset ∧
      LooksAt upper cloud now vaulted session params window ∧
      page = eventPage c session params window (min limit pageSizeMax) (max offset 0) := by
  unfold eventListGet LooksAt
  cases htoken : keep vaulted with
  | none => simp [throw, throwThe, MonadExceptOf.throw]
  | some token =>
  cases hproject : keep session.projectId with
  | none => simp [throw, throwThe, MonadExceptOf.throw]
  | some projectId =>
  cases hlimit : intOr table 50 params.limit with
  | none => simp [throw, throwThe, MonadExceptOf.throw]
  | some limit =>
  cases hoffset : intOr table 0 params.offset with
  | none => simp [throw, throwThe, MonadExceptOf.throw]
  | some offset =>
  cases hwindow : listEvents upper cloud now token projectId
    (strip (orElse (params.period.getD "") "24h")) params with
  | error err => simp [bind, Except.bind, Except.mapError, hwindow]
  | ok window => simp [bind, Except.bind, Except.mapError, hwindow, pure, Except.pure, eq_comm]

/-- **Paging shows each event once** if and only if the limit that is asked for is not negative. -/
theorem pagedOnce_iff (h : eventListGet c upper table cloud now vaulted session params = .ok page) :
    (∃ window, LooksAt upper cloud now vaulted session params window ∧
      PagedOnce table (eventListGet c upper table cloud now vaulted session) params
        (searched c params window) page) ↔
    LimitNonneg table params := by
  obtain ⟨limit, offset, window, hlimit, hoffset, hwindow, rfl⟩ := eventListGet_eq_ok.1 h
  rw [limitNonneg_iff hlimit]
  constructor
  · rintro ⟨window', -, hpaged⟩
    have hlength := (Int.natCast_nonneg _).trans hpaged.limit
    exact hlength.trans (min_le_left _ _)
  · intro hnonneg
    refine ⟨window, hwindow, ?_⟩
    obtain ⟨len, hlen⟩ := Int.eq_ofNat_of_zero_le (le_min hnonneg (by decide : 0 ≤ pageSizeMax))
    obtain ⟨start, hstart⟩ := Int.eq_ofNat_of_zero_le (le_max_right offset 0)
    have hcap : (len : ℤ) ≤ pageSizeMax := hlen ▸ min_le_right _ _
    rw [hlen, hstart]
    constructor
    case run => exact slice_prefix_drop _ _
    case cap => exact (Int.ofNat_le.2 (length_slice_le _ _)).trans hcap
    case limit => exact Int.ofNat_le.2 (length_slice_le _ _)
    case total => rfl
    case laid =>
      intro _ n hn offsets hoffsets
      refine ⟨fun k => eventPage c session params window len (k * len : ℕ),
        fun k hk => ⟨?_, rfl, rfl⟩, ?_⟩
      · have hread : intOr table 0 (some (offsets k)) = some ((k * len : ℕ) : ℤ) := by
          rw [Int.natCast_mul]
          exact intOr_some (hoffsets k hk)
        refine eventListGet_eq_ok.2 ⟨limit, _, window, hlimit, hread, hwindow.offset _, ?_⟩
        rw [hlen, max_eq_left (Int.natCast_nonneg _)]
        rfl
      · have hall : ((searched c params window).length : ℤ) ≤ n * len := hn
        have hlaid := flatMap_slices (searched c params window) len n
        rw [List.take_of_length_le (by exact_mod_cast hall)] at hlaid
        exact hlaid

end

/-- A request with a limit and nothing else. -/
def askLimit (limit : String) : EventParams :=
  ⟨some limit, none, none, none, none, none, none, none⟩

/-- A window of as many like events. -/
def likeEvents (n : ℕ) (_token : String) (_query : EventQuery) :
    Except ZadaraError (List RawEvent) :=
  .ok (List.replicate n ⟨none, none, none, none, none, none, none, none, none, none, none, none,
    none, none, none, none⟩)

/-- A session in a project. -/
def inProject : CabinetSession := ⟨"u1", some "p1", none, "project", []⟩

theorem pagedOnce_of_limit_two : ∃ page,
    eventListGet .ascii id .plain (likeEvents 3) 0 (some "token") inProject (askLimit "2") =
      .ok page ∧
    ((∃ window, LooksAt id (likeEvents 3) 0 (some "token") inProject (askLimit "2") window ∧
      PagedOnce .plain (eventListGet .ascii id .plain (likeEvents 3) 0 (some "token") inProject)
        (askLimit "2")
        (searched .ascii (askLimit "2") window) page) ↔ LimitNonneg .plain (askLimit "2")) :=
  ⟨_, rfl, pagedOnce_iff rfl⟩

/-- With the limit -1 the page is all of three hundred events but the last. -/
theorem page_of_limit_minus_one :
    (eventListGet .ascii id .plain (likeEvents 300) 0 (some "token") inProject
      (askLimit "-1")).toOption.map
      (fun page => (page.limit, page.data.length)) = some (-1, 299) ∧ pageSizeMax < 299 := by
  decide +kernel

end OpenCloud
