import OpenCloud.Common.Tenancy
import OpenCloud.Integrations.Fetches
import OpenCloud.Lib.Gathers
import OpenCloud.Quotas.Rows

/-!
# The quota pages

A user sees the use of the session's project beside the ceilings of the account; an administrator
sees the ceilings of the account and which project spends them.  The user's page is read with the
token of the session, the administrator's with the service token, which may read everything: what is
asked with it is the account's.

## Main results

* `admin_quota_of_yields` : nothing outside the account is asked for, and every project is listed or
  named.
* `user_quota_of_steps` : a user's page shows what was read and names what was not, whatever the
  order of the reads.
* `near_limit_counts` : how many rows are near their limit.
-/

namespace OpenCloud

/-! ### The reads -/

/-- Whose quotas a document is about. -/
inductive QuotaScope where
  | domain (domainId : String)
  | project (projectId : String)
  deriving DecidableEq

/-- What the pages read. -/
inductive QuotaRead where
  | domains
  | serviceToken
  | projects (domainId : String)
  | quotas (scope : QuotaScope) (token : String)
  | volumeTypes (token : String)
  deriving DecidableEq

/-- What a read is answered. -/
abbrev QuotaRead.Answer : QuotaRead → Type
  | domains => Except ZadaraError (List DirectoryEntry)
  | serviceToken => Except ZadaraError String
  | projects _ => Except ZadaraError (List (String × String))
  | quotas _ _ => Except ZadaraError (List RawQuota)
  | volumeTypes _ => Except ZadaraError (List RawVolumeType)

/-- A read with its answer. -/
abbrev QuotaCall := Σ r : QuotaRead, r.Answer

/-- The directory was read. -/
def QuotaCall.domains (entries : List DirectoryEntry) : QuotaCall := ⟨.domains, Except.ok entries⟩

/-- The projects of a domain were read. -/
def QuotaCall.projects (domainId : String) (entries : List (String × String)) : QuotaCall :=
  ⟨.projects domainId, Except.ok entries⟩

/-- The service token was given. -/
def QuotaCall.token (token : String) : QuotaCall := ⟨.serviceToken, Except.ok token⟩

/-- A document was read. -/
def QuotaCall.document (scope : QuotaScope) (token : String) (raw : List RawQuota) : QuotaCall :=
  ⟨.quotas scope token, Except.ok raw⟩

abbrev QuotaFetch := Fetch QuotaRead QuotaRead.Answer

/-- The cloud, as far as its directory has been read. -/
def directoryCloud (directory : Except ZadaraError (List DirectoryEntry))
    (projects : Except ZadaraError (List (String × String))) : Cloud :=
  let unread : ZadaraError := ⟨"unread", ""⟩
  ⟨⟨.error unread, .error unread, .error unread, .error unread⟩, .error unread, directory,
    fun _ => projects⟩

/-- `_list_quotas`: the volume types are read once the document has been. -/
def listQuotas (c : Casing) {υ : Type} (scope : QuotaScope) (token : String)
    (next : Except ZadaraError (List Quota) → QuotaFetch υ) : QuotaFetch υ :=
  .call (.quotas scope token) fun
    | .error err => next (.error err)
    | .ok raw => .call (.volumeTypes token) fun types => next (.ok (listedQuotas c types raw))

/-- How many rows have a ceiling, and how many of them are near it. -/
def quotaLimits (quotas : List Quota) : ℕ × ℕ :=
  let limited := quotas.filter fun q => !q.unlimited
  (limited.length, limited.countP Quota.nearLimit)

/-! ### The administrator's page -/

/-- What a project uses. -/
structure ProjectQuotas where
  id : String
  name : String
  /-- The rows that are used or have a ceiling. -/
  quotas : List Quota

/-- What `AdminQuotaView` answers. -/
structure AdminQuotaPage where
  quotas : List Quota
  projects : List ProjectQuotas
  account : String
  limits : ℕ × ℕ
  unavailable : List String

/-- How the page fails. -/
inductive QuotaFailure where
  | app (err : AppError)
  /-- The service account could not sign in, which the view does not catch. -/
  | zadara (err : ZadaraError)

/-- The loop over the projects. -/
def readProjects (c : Casing) {υ : Type} (token : String)
    (next : List ProjectQuotas → List String → QuotaFetch υ) :
    List (String × String) → List ProjectQuotas → List String → QuotaFetch υ
  | [], rows, unavailable => next rows unavailable
  | (id, name) :: projects, rows, unavailable => listQuotas c (.project id) token fun
    | .error _ => readProjects c token next projects rows (unavailable ++ [name])
    | .ok quotas =>
      let used := quotas.filter fun q => q.allocated.val ≠ 0 ∨ q.unlimited = false
      readProjects c token next projects (rows ++ [⟨id, name, used⟩]) unavailable

/-- `sorted(projects.items(), key=lambda p: p[1].lower())`. -/
def projectsByName (c : Casing) (projects : Dict String String) : List (String × String) :=
  projects.insertionSort fun a b => c.lower a.2 ≤ c.lower b.2

/-- `AdminQuotaView.get`. -/
def adminQuotaFetch (c : Casing) (user : CabinetUser) :
    QuotaFetch (Except QuotaFailure AdminQuotaPage) :=
  let failed (err : ZadaraError) : QuotaFailure :=
    .app ⟨"Failed to load account quotas", err.code, 502⟩
  if strip user.account = "" then
    .done
      (.error (.app ⟨"Your session has no account, please sign in again.", "session_expired", 401⟩))
  else .call .domains fun directory =>
    match accountDomain c (directoryCloud directory (.ok [])) user with
    | .error err => .done (.error (.app err))
    | .ok (account, domainId) => .call .serviceToken fun
      | .error err => .done (.error (.zadara err))
      | .ok token => listQuotas c (.domain domainId) token fun
        | .error err => .done (.error (failed err))
        | .ok quotas => .call (.projects domainId) fun answer =>
          match (directoryCloud directory answer).listDomainProjects domainId with
          | .error err => .done (.error (failed err))
          | .ok projects => readProjects c token
              (fun rows unavailable =>
                .done (.ok ⟨quotas, rows, account, quotaLimits quotas, unavailable⟩))
              (projectsByName c projects) [] []

/-! ### The user's page -/

/-- The two halves of the page. -/
inductive QuotaHalf where
  | account
  | project
  deriving DecidableEq

instance : Fintype QuotaHalf where
  elems := [QuotaHalf.account, .project].toFinset
  complete h := by cases h <;> decide

/-- What becomes of a half; it may have no document. -/
abbrev HalfResult := Except ZadaraError (Option (List Quota))

/-- `account_half`. -/
def accountHalf (c : Casing) (token account : String) : QuotaFetch HalfResult :=
  if account = "" then .done (.ok none)
  else .call .domains fun directory =>
    match (directoryCloud directory (.ok [])).resolveDomainId c account with
    | .error raised => .done (.error raised.logged)
    | .ok found =>
      match keep found with
      | none => .done (.ok none)
      | some domainId => listQuotas c (.domain domainId) token fun quotas => .done (quotas.map some)

/-- The half of the session's project. -/
def projectHalf (c : Casing) (token projectId : String) : QuotaFetch HalfResult :=
  listQuotas c (.project projectId) token fun quotas => .done (quotas.map some)

/-- What `UserQuotaView` answers. -/
structure UserQuotaPage where
  project : Option (List Quota)
  account : Option (List Quota)
  accountName : String
  projectName : Option String
  limits : ℕ × ℕ
  unavailable : List String

/-- `result.value`. -/
def halfValue : HalfResult → Option (List Quota)
  | .ok value => value
  | .error _ => none

/-- `UserQuotaView.get`, from what became of the halves on; a session without a project has no
second one. -/
def userQuotaPage (accountName : String) (projectName : Option String) (account : HalfResult)
    (project : Option HalfResult) : Except AppError UserQuotaPage :=
  let accountQuotas := halfValue account
  let projectQuotas := project.bind halfValue
  let unavailable := (if project.isNone then ["project"] else []) ++
    (if accountQuotas.isNone then ["account"] else []) ++
    if project.isSome ∧ projectQuotas.isNone then ["project"] else []
  if projectQuotas.isNone ∧ accountQuotas.isNone then
    .error ⟨"Failed to load quotas", "upstream_error", 502⟩
  else .ok {
    project := projectQuotas
    account := accountQuotas
    accountName := accountName
    projectName := projectName
    limits := quotaLimits (accountQuotas.getD [])
    unavailable := unavailable.dedup.insertionSort fun a b => a ≤ b }

/-- `UserQuotaView.get`, once the session's token has been found. -/
def userQuotaFetch (c : Casing) (token account : String) (projectId projectName : Option String) :
    QuotaFetch (Except AppError UserQuotaPage) :=
  let account := strip account
  match keep projectId with
  | some projectId => @Fetch.gather _ _ _ QuotaHalf _ _ (fun _ => HalfResult)
      (fun
        | .account => accountHalf c token account
        | .project => projectHalf c token projectId)
      fun results =>
        .done (userQuotaPage account projectName (results .account) (some (results .project)))
  | none =>
    @Fetch.gather _ _ _ Unit _ _ (fun _ => HalfResult) (fun _ => accountHalf c token account)
      fun results => .done (userQuotaPage account projectName (results ()) none)

/-! ### What is asked for -/

section Asked

variable {c : Casing} {υ : Type} {scope : QuotaScope} {token account : String} {user : CabinetUser}
  {calls : Multiset QuotaCall} {value : υ}

/-- The calls of `_list_quotas`, with what they give. -/
inductive DocumentRead (c : Casing) (scope : QuotaScope) (token : String) :
    Multiset QuotaCall → Except ZadaraError (List Quota) → Prop
  | refused (err : ZadaraError) :
    DocumentRead c scope token {⟨.quotas scope token, Except.error err⟩} (.error err)
  | read (raw : List RawQuota) (types : Except ZadaraError (List RawVolumeType)) :
    DocumentRead c scope token
      ({QuotaCall.document scope token raw} + {⟨.volumeTypes token, types⟩})
        (.ok (listedQuotas c types raw))

theorem yields_listQuotas {next : Except ZadaraError (List Quota) → QuotaFetch υ}
    (h : (listQuotas c scope token next).Yields calls value) :
    ∃ own rest quotas, calls = own + rest ∧
      (next quotas).Yields rest value ∧ DocumentRead c scope token own quotas := by
  unfold listQuotas at h
  cases h with
  | @call _ _ _ answer rest _ hnext =>
    cases answer with
    | error err => exact ⟨_, rest, .error err, rfl, hnext, .refused err⟩
    | ok raw =>
      cases hnext with
      | @call _ _ _ types rest _ hnext =>
        exact ⟨_, rest, _, (add_assoc ..).symm, hnext, .read raw types⟩

theorem DocumentRead.asked {own : Multiset QuotaCall} {quotas : Except ZadaraError (List Quota)}
    (h : DocumentRead c scope token own quotas) {call : QuotaCall} (hcall : call ∈ own) :
    call.1 = .quotas scope token ∨ call.1 = .volumeTypes token := by
  cases h with
  | refused err =>
    rw [Multiset.mem_singleton.1 hcall]
    exact .inl rfl
  | read raw types =>
    rcases Multiset.mem_add.1 hcall with hcall | hcall
    · rw [Multiset.mem_singleton.1 hcall]
      exact .inl rfl
    · rw [Multiset.mem_singleton.1 hcall]
      exact .inr rfl

/-- The rows are those of a document that these calls have read, with the media of the volume types
that they have. -/
structure ReadQuotas (c : Casing) (token : String) (scope : QuotaScope) (calls : Multiset QuotaCall)
    (rows : List Quota) (raw : List RawQuota) (types : Except ZadaraError (List RawVolumeType)) :
    Prop where
  document : QuotaCall.document scope token raw ∈ calls
  volumeTypes : (⟨.volumeTypes token, types⟩ : QuotaCall) ∈ calls
  listed : rows = listedQuotas c types raw
  rows : ∃ shown : List Quota, shown.Perm rows ∧ List.Forall₂ ShowsRow raw shown

theorem ReadQuotas.mono {before after : Multiset QuotaCall} {rows : List Quota}
    {raw : List RawQuota} {types : Except ZadaraError (List RawVolumeType)}
    (h : ReadQuotas c token scope before rows raw types) (hsub : before ⊆ after) :
    ReadQuotas c token scope after rows raw types :=
  { h with document := hsub h.document, volumeTypes := hsub h.volumeTypes }

theorem DocumentRead.refusal {own : Multiset QuotaCall} {err : ZadaraError}
    (h : DocumentRead c scope token own (.error err)) :
    (⟨.quotas scope token, Except.error err⟩ : QuotaCall) ∈ own := by
  cases h
  exact Multiset.mem_singleton_self _

theorem DocumentRead.readQuotas {own : Multiset QuotaCall} {rows : List Quota}
    (h : DocumentRead c scope token own (.ok rows)) :
    ∃ raw types, ReadQuotas c token scope own rows raw types := by
  cases h with
  | read raw types =>
    exact ⟨raw, types, Multiset.mem_add.2 (.inl (Multiset.mem_singleton_self _)),
      Multiset.mem_add.2 (.inr (Multiset.mem_singleton_self _)), rfl,
        exists_showsRow_listedQuotas c types raw⟩

/-- Every project is listed with the rows of its document that say something, or named where it was
refused. -/
structure ListsProjects (c : Casing) (token : String) (calls : Multiset QuotaCall)
    (projects : List (String × String)) (rows : List ProjectQuotas) (unavailable : List String) :
    Prop where
  all : (rows.map ProjectQuotas.name ++ unavailable).Perm (projects.map Prod.snd)
  listed : (rows.map fun row => (row.id, row.name)).Sublist projects
  used : ∀ row ∈ rows, ∀ q ∈ row.quotas, q.allocated.val ≠ 0 ∨ q.unlimited = false
  read : ∀ row ∈ rows, ∃ quotas raw types,
    ReadQuotas c token (.project row.id) calls quotas raw types ∧
    row.quotas = quotas.filter fun q => q.allocated.val ≠ 0 ∨ q.unlimited = false
  refused : ∀ name ∈ unavailable, ∃ id err, (id, name) ∈ projects ∧
    (⟨.quotas (.project id) token, Except.error err⟩ : QuotaCall) ∈ calls

theorem ListsProjects.mono {before after : Multiset QuotaCall} {projects : List (String × String)}
    {rows : List ProjectQuotas} {unavailable : List String}
    (h : ListsProjects c token before projects rows unavailable) (hsub : before ⊆ after) :
    ListsProjects c token after projects rows unavailable where
  all := h.all
  listed := h.listed
  used := h.used
  read row hrow := by
    obtain ⟨quotas, raw, types, hread, hquotas⟩ := h.read row hrow
    exact ⟨quotas, raw, types, hread.mono hsub, hquotas⟩
  refused name hname := by
    obtain ⟨id, err, hproject, hrefused⟩ := h.refused name hname
    exact ⟨id, err, hproject, hsub hrefused⟩

/-- The loop asks for the documents of its projects, and lists or names each. -/
theorem yields_readProjects {next : List ProjectQuotas → List String → QuotaFetch υ}
    {projects : List (String × String)} {rows : List ProjectQuotas} {unavailable : List String}
    (h : (readProjects c token next projects rows unavailable).Yields calls value) :
    ∃ own rest read missed, calls = own + rest ∧
      (next (rows ++ read) (unavailable ++ missed)).Yields rest value ∧
      (∀ call ∈ own, (∃ p ∈ projects, call.1 = .quotas (.project p.1) token) ∨
        call.1 = .volumeTypes token) ∧
      ListsProjects c token own projects read missed := by
  induction projects generalizing rows unavailable calls with
  | nil =>
    refine ⟨0, calls, [], [], (zero_add _).symm,
      ?_, by simp, ⟨.nil, .slnil, by simp, by simp, by simp⟩⟩
    rwa [List.append_nil, List.append_nil]
  | cons p projects ih =>
    obtain ⟨id, name⟩ := p
    obtain ⟨own, rest, quotas, rfl, hnext, hdocument⟩ := yields_listQuotas h
    have hsub : ∀ own' : Multiset QuotaCall, own' ⊆ own + own' :=
      fun own' _ hmem => Multiset.mem_add.2 (.inr hmem)
    have hasked : ∀ own' : Multiset QuotaCall,
      (∀ call ∈ own', (∃ p ∈ projects, call.1 = .quotas (.project p.1) token) ∨
        call.1 = .volumeTypes token) → ∀ call ∈ own + own', (∃ p ∈ (id, name) :: projects,
          call.1 = .quotas (.project p.1) token) ∨ call.1 = .volumeTypes token := by
      intro own' hown' call hcall
      rcases Multiset.mem_add.1 hcall with hcall | hcall
      · exact (hdocument.asked hcall).imp (fun hread => ⟨(id, name), List.mem_cons_self, hread⟩)
          fun hread => hread
      · exact (hown' call hcall).imp (fun ⟨p, hp, hread⟩ => ⟨p, List.mem_cons_of_mem _ hp, hread⟩)
          fun hread => hread
    -- a refused document is named and the loop goes on, one that was read is listed
    cases quotas with
    | error err =>
      obtain ⟨own', rest, read, missed, rfl, hrest, hown', hlists⟩ := ih hnext
      refine ⟨own + own', rest, read, name :: missed, (add_assoc ..).symm, ?_, hasked own' hown',
        ?_⟩
      · rwa [List.append_assoc] at hrest
      · have hlists := hlists.mono (hsub own')
        refine ⟨List.perm_middle.trans (hlists.all.cons name), hlists.listed.cons _, hlists.used,
          hlists.read, ?_⟩
        intro missing hmissing
        rcases List.mem_cons.1 hmissing with rfl | hmissing
        · exact ⟨id, err, List.mem_cons_self, Multiset.mem_add.2 (.inl hdocument.refusal)⟩
        · obtain ⟨id', err', hproject, hrefused⟩ := hlists.refused missing hmissing
          exact ⟨id', err', List.mem_cons_of_mem _ hproject, hrefused⟩
    | ok quotas =>
      obtain ⟨own', rest, read, missed, rfl, hrest, hown', hlists⟩ := ih hnext
      let row : ProjectQuotas :=
        ⟨id, name, quotas.filter fun q => q.allocated.val ≠ 0 ∨ q.unlimited = false⟩
      refine ⟨own + own', rest, row :: read, missed, (add_assoc ..).symm, ?_, hasked own' hown', ?_⟩
      · rwa [List.append_assoc] at hrest
      · have hlists := hlists.mono (hsub own')
        refine ⟨hlists.all.cons name, hlists.listed.cons_cons _, ?_, ?_, ?_⟩
        · intro row hrow q hq
          rcases List.mem_cons.1 hrow with rfl | hrow
          · simpa using (List.mem_filter.1 hq).2
          · exact hlists.used row hrow q hq
        · intro row hrow
          rcases List.mem_cons.1 hrow with rfl | hrow
          · obtain ⟨raw, types, hread⟩ := hdocument.readQuotas
            exact ⟨quotas, raw, types, hread.mono fun _ hmem => Multiset.mem_add.2 (.inl hmem), rfl⟩
          · exact hlists.read row hrow
        · intro missing hmissing
          obtain ⟨id', err', hproject, hrefused⟩ := hlists.refused missing hmissing
          exact ⟨id', err', List.mem_cons_of_mem _ hproject, hrefused⟩

/-- The domain of an account in a directory. -/
def IsDomainOf (c : Casing) (entries : List DirectoryEntry) (account domainId : String) : Prop :=
  (entries.find? fun d => c.lower d.name = c.lower account).bind (fun d => d.id.str) = some domainId

theorem isDomainOf_of_resolve {directory : Except ZadaraError (List DirectoryEntry)} {d : String}
    (h : (directoryCloud directory (.ok [])).resolveDomainId c account = .ok (some d)) :
    ∃ entries, directory = .ok entries ∧ IsDomainOf c entries account d := by
  obtain ⟨entries, hdirectory, entry, hfind, hid⟩ := Cloud.resolveDomainId_eq_ok_iff.1 h
  refine ⟨entries, hdirectory, ?_⟩
  rw [IsDomainOf, hfind]
  exact hid

/-- What may be asked for with the service token, once these calls have been made: the domain of the
account, as the directory has it, and the projects that the domain lists. -/
def OwnRead (c : Casing) (account : String) (before : Multiset QuotaCall) : QuotaRead → Prop
  | .domains | .serviceToken => True
  | .projects d => ∃ entries, QuotaCall.domains entries ∈ before ∧ IsDomainOf c entries account d
  | .quotas (.domain d) token =>
    QuotaCall.token token ∈ before ∧ ∃ entries, QuotaCall.domains entries ∈ before ∧
      IsDomainOf c entries account d
  | .quotas (.project p) token =>
    QuotaCall.token token ∈ before ∧ ∃ d entries, QuotaCall.projects d entries ∈ before ∧
      ∃ name, (p, name) ∈ entries
  | .volumeTypes token => QuotaCall.token token ∈ before

theorem OwnRead.mono {before after : Multiset QuotaCall} (hsub : before ⊆ after) {r : QuotaRead}
    (h : OwnRead c account before r) : OwnRead c account after r := by
  cases r with
  | domains => trivial
  | serviceToken => trivial
  | projects d => exact h.imp fun _ hentries => hentries.imp_left (@hsub _)
  | quotas scope token =>
    cases scope with
    | domain d => exact ⟨hsub h.1, h.2.imp fun _ hentries => hentries.imp_left (@hsub _)⟩
    | project p =>
      exact ⟨hsub h.1, h.2.imp fun _ hd => hd.imp fun _ hentries => hentries.imp_left (@hsub _)⟩
  | volumeTypes token => exact hsub h

theorem DocumentRead.own {before own : Multiset QuotaCall}
    {quotas : Except ZadaraError (List Quota)} (h : DocumentRead c scope token own quotas)
    (htoken : QuotaCall.token token ∈ before)
    (hscope : OwnRead c account before (.quotas scope token)) :
    ∀ call ∈ own, OwnRead c account before call.1 := by
  intro call hcall
  rcases h.asked hcall with hread | hread
  · rwa [hread]
  · rwa [hread]

theorem mem_listDomainProjects {directory : Except ZadaraError (List DirectoryEntry)}
    {entries : List (String × String)} {d : String} {projects : Dict String String}
    {p : String × String}
    (h : (directoryCloud directory (.ok entries)).listDomainProjects d = .ok projects)
    (hp : p ∈ projects) :
    p ∈ entries := by
  obtain rfl := Except.ok.inj h
  have hget := (Dict.mem_iff_get? (@Dict.nodup_keys_foldl_set _ _ _ _ [] _ _ List.nodup_nil _)).1 hp
  rcases Dict.get?_foldl_set_some hget with hnone | ⟨e, he, hkey, hval⟩
  · cases hnone
  · obtain rfl : e = p := Prod.ext hkey hval
    exact (List.mem_filter.1 he).1

end Asked

/-! ### The administrator sees the account's -/

section Admin

variable {c : Casing} {account : String} {user : CabinetUser} {before calls : Multiset QuotaCall}
  {answer : Except QuotaFailure AdminQuotaPage}

/-- The rows of the page are those of the domain's document, and its projects those of a listing
that was read. -/
structure AdminQuotaPage.Lists (c : Casing) (account : String) (calls : Multiset QuotaCall)
    (page : AdminQuotaPage) (domainId token : String) (entries : List (String × String))
    (projects : Dict String String) :
    Prop where
  account : page.account = account
  quotas : ∃ raw types, ReadQuotas c token (.domain domainId) calls page.quotas raw types
  read : QuotaCall.projects domainId entries ∈ calls
  listed : (directoryCloud (.ok []) (.ok entries)).listDomainProjects domainId = .ok projects
  each : ListsProjects c token calls (projectsByName c projects) page.projects page.unavailable

/-- After these calls, those may be made, and the page is about a listing of the account. -/
structure AnswersOwn (c : Casing) (account : String) (before calls : Multiset QuotaCall)
    (answer : Except QuotaFailure AdminQuotaPage) : Prop where
  asks : ∀ call ∈ calls, OwnRead c account (before + calls) call.1
  lists : ∀ page, answer = .ok page → ∃ d token entries projects,
    page.Lists c account (before + calls) d token entries projects

namespace AnswersOwn

theorem refused (err : QuotaFailure) : AnswersOwn c account before 0 (.error err) where
  asks call hcall := absurd hcall (Multiset.notMem_zero call)
  lists := by
    rintro page ⟨⟩

theorem add {own rest : Multiset QuotaCall} (hown : ∀ call ∈ own, OwnRead c account before call.1)
    (hrest : AnswersOwn c account (before + own) rest answer) :
    AnswersOwn c account before (own + rest) answer where
  asks call hcall := by
    rw [← add_assoc]
    rcases Multiset.mem_add.1 hcall with hcall | hcall
    · refine (hown call hcall).mono fun _ hmem => ?_
      exact Multiset.mem_add.2 (.inl (Multiset.mem_add.2 (.inl hmem)))
    · exact hrest.asks call hcall
  lists := by
    rw [← add_assoc]
    exact hrest.lists

theorem call {rest : Multiset QuotaCall} {call : QuotaCall}
    (hcall : OwnRead c account before call.1)
    (hrest : AnswersOwn c account (before + {call}) rest answer) :
    AnswersOwn c account before ({call} + rest) answer :=
  .add (fun _ hmem => Multiset.mem_singleton.1 hmem ▸ hcall) hrest

end AnswersOwn

/-- The projects, once they have been listed. -/
theorem answersOwn_of_yields_readProjects {token d : String} {entries : List (String × String)}
    {projects : Dict String String} {quotas : List Quota} (htoken : QuotaCall.token token ∈ before)
    (hquotas : ∃ raw types, ReadQuotas c token (.domain d) before quotas raw types)
    (hlisted : QuotaCall.projects d entries ∈ before)
    (hprojects : (directoryCloud (.ok []) (.ok entries)).listDomainProjects d = .ok projects)
    (h : (readProjects c token (fun rows unavailable =>
      .done (.ok ⟨quotas, rows, account, quotaLimits quotas, unavailable⟩))
        (projectsByName c projects) [] []).Yields
        calls answer) : AnswersOwn c account before calls answer := by
  obtain ⟨own, rest, read, missed, rfl, hpage, hasked, hlists⟩ := yields_readProjects h
  cases hpage
  refine .add (fun call hcall => ?_) ⟨fun call hcall => absurd hcall (Multiset.notMem_zero call),
    ?_⟩
  · rcases hasked call hcall with ⟨p, hp, hread⟩ | hread
    · rw [hread]
      have hmem : p ∈ projects := (List.mem_insertionSort _).1 hp
      exact ⟨htoken, d, entries, hlisted, p.2, mem_listDomainProjects hprojects hmem⟩
    · rw [hread]
      exact htoken
  · rintro page hpage
    obtain rfl := Except.ok.inj hpage
    have hbefore : before ⊆ before + own + 0 :=
      fun _ hmem => Multiset.mem_add.2 (.inl (Multiset.mem_add.2 (.inl hmem)))
    have hown : own ⊆ before + own + 0 :=
      fun _ hmem => Multiset.mem_add.2 (.inl (Multiset.mem_add.2 (.inr hmem)))
    obtain ⟨raw, types, hread⟩ := hquotas
    exact ⟨d, token, entries, projects, rfl, ⟨raw, types, hread.mono hbefore⟩, hbefore hlisted,
      hprojects, hlists.mono hown⟩

theorem answersOwn_of_yields (h : (adminQuotaFetch c user).Yields calls answer) :
    AnswersOwn c (strip user.account) 0 calls answer := by
  unfold adminQuotaFetch at h
  dsimp only at h
  split at h
  · cases h
    exact .refused _
  cases h with
  | @call _ _ _ directory rest _ h =>
    -- the directory and the token may always be read, every later read rests on their answers
    refine .call trivial ?_
    dsimp only at h
    cases hdomain : accountDomain c (directoryCloud directory (.ok [])) user with
    | error err =>
      rw [hdomain] at h
      cases h
      exact .refused _
    | ok found =>
      obtain ⟨account, d⟩ := found
      rw [hdomain] at h
      obtain ⟨rfl, -, -, hfound⟩ := accountDomain_eq_ok_iff.1 hdomain
      obtain ⟨entries, rfl, hown⟩ := isDomainOf_of_resolve hfound
      cases h with
      | @call _ _ _ token rest _ h =>
        refine .call trivial ?_
        cases token with
        | error err =>
          cases h
          exact .refused _
        | ok token =>
          obtain ⟨own, rest, quotas, rfl, h, hdocument⟩ := yields_listQuotas h
          have htoken : QuotaCall.token token ∈
              (0 : Multiset QuotaCall) + {QuotaCall.domains entries} + {QuotaCall.token token} :=
            Multiset.mem_add.2 (.inr (Multiset.mem_singleton_self _))
          have hdomains : QuotaCall.domains entries ∈
              (0 : Multiset QuotaCall) + {QuotaCall.domains entries} + {QuotaCall.token token} :=
            Multiset.mem_add.2 (.inl (Multiset.mem_add.2 (.inr (Multiset.mem_singleton_self _))))
          refine .add (hdocument.own htoken ⟨htoken, entries, hdomains, hown⟩) ?_
          cases quotas with
          | error err =>
            cases h
            exact .refused _
          | ok quotas =>
            cases h with
            | @call _ _ _ listed rest _ h =>
              refine .call ⟨entries, Multiset.mem_add.2 (.inl hdomains), hown⟩ ?_
              cases listed with
              | error err =>
                cases h
                exact .refused _
              | ok listed =>
                refine answersOwn_of_yields_readProjects (d := d) ?_ ?_ ?_ rfl h
                · exact Multiset.mem_add.2 (.inl (Multiset.mem_add.2 (.inl htoken)))
                · obtain ⟨raw, types, hread⟩ := hdocument.readQuotas
                  refine ⟨raw, types, hread.mono fun _ hmem => ?_⟩
                  exact Multiset.mem_add.2 (.inl (Multiset.mem_add.2 (.inr hmem)))
                · exact Multiset.mem_add.2 (.inr (Multiset.mem_singleton_self _))

/-- **A project of another account is never fetched**, and every one of this account is listed or
named. -/
theorem admin_quota_of_yields (h : (adminQuotaFetch c user).Yields calls answer) :
    (∀ call ∈ calls, OwnRead c (strip user.account) calls call.1) ∧
      ∀ page, answer = .ok page → ∃ d token entries projects,
        page.Lists c (strip user.account) calls d token entries projects := by
  have hown := answersOwn_of_yields h
  have hasks := hown.asks
  have hlists := hown.lists
  rw [zero_add] at hasks hlists
  exact ⟨hasks, hlists⟩

/-- An account of one project, whose document is refused. -/
def refusedProject : Multiset QuotaCall :=
  {.domains [⟨"d1", "Acme"⟩]} + ({.token "t"} + ({.document (.domain "d1") "t" []} +
    ({⟨.volumeTypes "t", Except.ok []⟩} + ({.projects "d1" [("p1", "Web")]} +
      ({⟨.quotas (.project "p1") "t", Except.error ⟨"forbidden", ""⟩⟩} + 0)))))

theorem yields_refusedProject : (adminQuotaFetch .ascii ⟨"acme", "ann", "u1"⟩).Yields refusedProject
    (.ok ⟨[], [], "acme", (0, 0), ["Web"]⟩) := by
  have hdomain :
    accountDomain .ascii (directoryCloud (.ok [⟨"d1", "Acme"⟩]) (.ok [])) ⟨"acme", "ann", "u1"⟩ =
      .ok ("acme", "d1") :=
    accountDomain_eq_ok_iff.2 ⟨by decide, by decide, by decide, rfl⟩
  unfold adminQuotaFetch
  dsimp only
  rw [if_neg (by decide)]
  refine .call ?_
  rw [hdomain]
  exact .call (.call (.call (.call (.call (.done _)))))

theorem admin_quota_of_yields_refusedProject : ∃ page : AdminQuotaPage, page.unavailable = ["Web"] ∧
    (∀ call ∈ refusedProject, OwnRead .ascii "acme" refusedProject call.1) ∧
      ∃ d token entries projects,
        page.Lists .ascii "acme" refusedProject d token entries projects := by
  have hown := admin_quota_of_yields yields_refusedProject
  have hstrip : strip "acme" = "acme" := by decide
  dsimp only at hown
  rw [hstrip] at hown
  exact ⟨_, rfl, hown.1, hown.2 _ rfl⟩

end Admin

/-! ### A user sees what was read -/

section User

variable {c : Casing} {token account : String} {projectId projectName : Option String}
  {calls : Multiset QuotaCall}

/-- A half asks for documents of its own scope, and gives the one that was read. -/
structure ReadsHalf (c : Casing) (token : String) (own : QuotaScope → Prop)
    (calls : Multiset QuotaCall) (quotas : Option (List Quota)) : Prop where
  asks : ∀ call ∈ calls, call.1 = .domains ∨ call.1 = .volumeTypes token ∨
    ∃ scope, own scope ∧ call.1 = .quotas scope token
  read : ∀ rows, quotas = some rows →
    ∃ scope raw types, ReadQuotas c token scope calls rows raw types
  missed : quotas = none → ∀ scope raw, QuotaCall.document scope token raw ∉ calls

/-- The domain of the account, as a directory has it that was read. -/
def AccountScope (c : Casing) (account : String) (calls : Multiset QuotaCall) (scope : QuotaScope) :
    Prop :=
  ∃ d, scope = .domain d ∧ ∃ entries, QuotaCall.domains entries ∈ calls ∧
    IsDomainOf c entries account d

theorem readsHalf_of_listQuotas {scope : QuotaScope} {result : HalfResult}
    (h : (listQuotas c scope token fun quotas => .done (quotas.map some)).Yields calls result) :
    ReadsHalf c token (fun own => own = scope) calls (halfValue result) := by
  obtain ⟨own, rest, quotas, rfl, h, hdocument⟩ := yields_listQuotas h
  cases h
  rw [add_zero]
  refine ⟨fun call hcall => ?_, ?_, ?_⟩
  · rcases hdocument.asked hcall with hread | hread
    · exact .inr (.inr ⟨scope, rfl, hread⟩)
    · exact .inr (.inl hread)
  · intro rows hrows
    cases quotas with
    | error err => cases hrows
    | ok quotas =>
      obtain rfl := Option.some.inj hrows
      exact ⟨scope, hdocument.readQuotas⟩
  · intro hnone scope' raw hmem
    cases hdocument with
    | refused err => cases Multiset.mem_singleton.1 hmem
    | read raw types => cases hnone

theorem readsHalf_accountHalf {result : HalfResult}
    (h : (accountHalf c token account).Yields calls result) :
    ReadsHalf c token (AccountScope c account calls) calls (halfValue result) := by
  unfold accountHalf at h
  split at h
  · cases h
    exact ⟨by simp, by rintro rows ⟨⟩, by simp⟩
  cases h with
  | @call _ _ _ directory rest _ h =>
    dsimp only at h
    -- the half fails after the directory alone, and no document was read
    have hunread : ∀ {result' : HalfResult}, rest = 0 → halfValue result' = none →
        ReadsHalf c token (AccountScope c account ({⟨.domains, directory⟩} + rest))
          ({⟨.domains, directory⟩} + rest)
          (halfValue result') := by
      rintro result' rfl hresult
      rw [hresult, add_zero]
      refine ⟨fun call hcall => ?_, by rintro rows ⟨⟩, fun _ scope raw hmem => ?_⟩
      · rw [Multiset.mem_singleton.1 hcall]
        exact .inl rfl
      · cases Multiset.mem_singleton.1 hmem
    cases hfound : (directoryCloud directory (.ok [])).resolveDomainId c account with
    | error err =>
      rw [hfound] at h
      cases h
      exact hunread rfl rfl
    | ok found =>
      rw [hfound] at h
      dsimp only at h
      cases hkeep : keep found with
      | none =>
        rw [hkeep] at h
        cases h
        exact hunread rfl rfl
      | some d =>
        rw [hkeep] at h
        obtain ⟨rfl, -⟩ := keep_eq_some.1 hkeep
        obtain ⟨entries, rfl, hown⟩ := isDomainOf_of_resolve hfound
        have hhalf := readsHalf_of_listQuotas h
        have hdomains : QuotaCall.domains entries ∈ {QuotaCall.domains entries} + rest := by simp
        refine ⟨fun call hcall => ?_, fun rows hrows => ?_, fun hnone scope raw hmem => ?_⟩
        · rcases Multiset.mem_add.1 hcall with hcall | hcall
          · rw [Multiset.mem_singleton.1 hcall]
            exact .inl rfl
          · refine (hhalf.asks call hcall).imp_right fun hread => hread.imp_right ?_
            rintro ⟨scope, rfl, hread⟩
            exact ⟨.domain d, ⟨d, rfl, entries, hdomains, hown⟩, hread⟩
        · obtain ⟨scope, raw, types, hread⟩ := hhalf.read rows hrows
          exact ⟨scope, raw, types, hread.mono fun _ hmem => Multiset.mem_add.2 (.inr hmem)⟩
        · rcases Multiset.mem_add.1 hmem with hmem | hmem
          · cases Multiset.mem_singleton.1 hmem
          · exact hhalf.missed hnone scope raw hmem

theorem userQuotaPage_eq_ok {name : String} {account : HalfResult} {project : Option HalfResult}
    {page : UserQuotaPage} (h : userQuotaPage name projectName account project = .ok page) :
    page.account = halfValue account ∧ page.project = project.bind halfValue ∧
      ("account" ∈ page.unavailable ↔ halfValue account = none) ∧
      ("project" ∈ page.unavailable ↔ project.bind halfValue = none) := by
  unfold userQuotaPage at h
  dsimp only at h
  split at h
  · cases h
  · obtain rfl := Except.ok.inj h
    refine ⟨rfl, rfl, ?_, ?_⟩
    · rw [List.mem_insertionSort, List.mem_dedup]
      cases project <;> cases halfValue account <;> simp
    · rw [List.mem_insertionSort, List.mem_dedup]
      cases project <;> cases halfValue account <;> simp

theorem userQuotaPage_eq_error {name : String} {account : HalfResult} {project : Option HalfResult}
    {err : AppError} (h : userQuotaPage name projectName account project = .error err) :
    halfValue account = none ∧ project.bind halfValue = none := by
  unfold userQuotaPage at h
  dsimp only at h
  split at h
  · rename_i hnone
    simpa [and_comm] using hnone
  · cases h

theorem yields_userQuotaFetch {answer : Except AppError UserQuotaPage}
    (h : (userQuotaFetch c token account projectId projectName).Yields calls answer) :
    ∃ own rest first second, calls = own + rest ∧
      answer = userQuotaPage (strip account) projectName first second ∧
      ReadsHalf c token (AccountScope c (strip account) own) own (halfValue first) ∧
      ReadsHalf c token (fun scope => ∃ p, keep projectId = some p ∧ scope = .project p) rest
        (second.bind halfValue) := by
  unfold userQuotaFetch at h
  dsimp only at h
  cases hkeep : keep projectId with
  | none =>
    rw [hkeep] at h
    cases h with
    | @gather _ _ _ _ _ _ _ each results _ _ heach hnext =>
      cases hnext
      refine ⟨each (), 0, results (), none, ?_, rfl, readsHalf_accountHalf (heach ()), ?_⟩
      · have hsum : ∑ s, each s = each () + 0 := rfl
        rw [hsum, add_zero]
      · exact ⟨by simp, by rintro rows ⟨⟩, by simp⟩
  | some p =>
    rw [hkeep] at h
    cases h with
    | @gather _ _ _ _ _ _ _ each results _ _ heach hnext =>
      cases hnext
      refine ⟨each .account, each .project, results .account, some (results .project), ?_, rfl,
        readsHalf_accountHalf (heach .account), ?_⟩
      · have hsum : ∑ s, each s = each .account + (each .project + 0) := rfl
        rw [hsum, add_zero, add_zero]
      · have hhalf := readsHalf_of_listQuotas (heach .project)
        refine ⟨fun call hcall => ?_, hhalf.read, hhalf.missed⟩
        refine (hhalf.asks call hcall).imp_right fun hread => hread.imp_right ?_
        rintro ⟨scope, rfl, hread⟩
        exact ⟨.project p, ⟨p, rfl, rfl⟩, hread⟩

/-- A half of a page is the document that was read, or is named. -/
structure ShowsHalf (c : Casing) (token : String) (scopes : String → QuotaScope)
    (calls : Multiset QuotaCall) (quotas : Option (List Quota)) (named : Prop) : Prop where
  read : ∀ rows, quotas = some rows →
    ∃ id raw types, ReadQuotas c token (scopes id) calls rows raw types
  named : named ↔ ∀ id raw, QuotaCall.document (scopes id) token raw ∉ calls

theorem ReadsHalf.scope {own : QuotaScope → Prop} {quotas : Option (List Quota)}
    {scope : QuotaScope} {raw : List RawQuota} (h : ReadsHalf c token own calls quotas)
    (hmem : QuotaCall.document scope token raw ∈ calls) :
    own scope := by
  rcases h.asks _ hmem with hread | hread | ⟨scope', hown, hread⟩
  · cases hread
  · cases hread
  · cases hread
    exact hown

theorem ReadsHalf.shows {own : QuotaScope → Prop} {quotas : Option (List Quota)}
    {scopes : String → QuotaScope}
    {all : Multiset QuotaCall} (h : ReadsHalf c token own calls quotas)
    (hscopes : ∀ scope, own scope → ∃ id, scope = scopes id) (hsub : calls ⊆ all)
    (hall : ∀ id raw, QuotaCall.document (scopes id) token raw ∈ all →
      QuotaCall.document (scopes id) token raw ∈ calls) :
        ShowsHalf c token scopes all quotas (quotas = none) := by
  have hread : ∀ rows, quotas = some rows →
    ∃ id raw types, ReadQuotas c token (scopes id) all rows raw types := by
    intro rows hrows
    obtain ⟨scope, raw, types, hread⟩ := h.read rows hrows
    obtain ⟨id, rfl⟩ := hscopes scope (h.scope hread.document)
    exact ⟨id, raw, types, hread.mono hsub⟩
  refine ⟨hread, fun hnone id raw hmem => h.missed hnone _ _ (hall id raw hmem), fun hmissed => ?_⟩
  cases hquotas : quotas with
  | none => rfl
  | some rows =>
    obtain ⟨id, raw, types, hrows⟩ := hread rows hquotas
    exact absurd hrows.document (hmissed id raw)

/-- What a user asks for, and what becomes of it. -/
structure ShowsRead (c : Casing) (token account : String) (projectId : Option String)
    (calls : Multiset QuotaCall) (answer : Except AppError UserQuotaPage) : Prop where
  asks : ∀ call ∈ calls, call.1 = .domains ∨ call.1 = .volumeTypes token ∨ ∃ scope,
    (AccountScope c account calls scope ∨ ∃ p, keep projectId = some p ∧ scope = .project p) ∧
      call.1 = .quotas scope token
  /-- The page fails only if there is no document. -/
  refused : ∀ err, answer = .error err → ∀ scope raw, QuotaCall.document scope token raw ∉ calls
  account : ∀ page, answer = .ok page →
    ShowsHalf c token .domain calls page.account ("account" ∈ page.unavailable)
  project : ∀ page, answer = .ok page →
    ShowsHalf c token .project calls page.project ("project" ∈ page.unavailable)

/-- **A half that cannot be read does not take the other with it**, in whatever order the workers
read them.  Nothing is asked for but the project of the session and the domain that the directory
has for the account, with the token of the session. -/
theorem user_quota_of_steps {answer : Except AppError UserQuotaPage}
    (h : ((userQuotaFetch c token account projectId projectName).begin
      (gatherWorkers maxWorkers)).Steps
      (gatherWorkers maxWorkers) calls (.returned answer)) :
    ShowsRead c token (strip account) projectId calls answer := by
  obtain ⟨own, rest, first, second, rfl, rfl, hfirst, hsecond⟩ :=
    yields_userQuotaFetch (Fetch.yields_of_steps h)
  have hown : own ⊆ own + rest := fun _ hmem => Multiset.mem_add.2 (.inl hmem)
  have hrest : rest ⊆ own + rest := fun _ hmem => Multiset.mem_add.2 (.inr hmem)
  have haccount :
    ShowsHalf c token .domain (own + rest) (halfValue first) (halfValue first = none) := by
    refine hfirst.shows (fun scope hscope => hscope.imp fun _ hd => hd.1) hown fun d raw hmem => ?_
    rcases Multiset.mem_add.1 hmem with hmem | hmem
    · exact hmem
    · obtain ⟨p, -, hscope⟩ := hsecond.scope hmem
      cases hscope
  have hproject : ShowsHalf c token .project (own + rest) (second.bind halfValue)
    (second.bind halfValue = none) := by
    refine hsecond.shows (fun scope hscope => hscope.imp fun _ hp => hp.2) hrest fun p raw hmem =>
      ?_
    rcases Multiset.mem_add.1 hmem with hmem | hmem
    · obtain ⟨d, hscope, -⟩ := hfirst.scope hmem
      cases hscope
    · exact hmem
  refine ⟨fun call hcall => ?_, fun err herr scope raw hmem => ?_, fun page hpage => ?_,
    fun page hpage => ?_⟩
  · rcases Multiset.mem_add.1 hcall with hcall | hcall
    · refine (hfirst.asks call hcall).imp_right fun hread => hread.imp_right ?_
      rintro ⟨scope, ⟨d, hscope, entries, hentries, hdomain⟩, hread⟩
      exact ⟨scope, .inl ⟨d, hscope, entries, hown hentries, hdomain⟩, hread⟩
    · exact (hsecond.asks call hcall).imp_right fun hread =>
        hread.imp_right fun ⟨scope, hscope, hread⟩ =>
        ⟨scope, .inr hscope, hread⟩
  · obtain ⟨hnone, hnone'⟩ := userQuotaPage_eq_error herr
    cases scope with
    | domain d => exact haccount.named.1 hnone d raw hmem
    | project p => exact hproject.named.1 hnone' p raw hmem
  · obtain ⟨hshown, -, hnamed, -⟩ := userQuotaPage_eq_ok hpage
    rw [hshown, hnamed]
    exact haccount
  · obtain ⟨-, hshown, -, hnamed⟩ := userQuotaPage_eq_ok hpage
    rw [hshown, hnamed]
    exact hproject

/-- The document of the account is refused. -/
def refusedAccount : QuotaHalf → Multiset QuotaCall
  | .account => {.domains [⟨"d1", "Acme"⟩]} +
    ({⟨.quotas (.domain "d1") "t", Except.error ⟨"forbidden", ""⟩⟩} + 0)
  | .project => {.document (.project "p1") "t" []} + ({⟨.volumeTypes "t", Except.ok []⟩} + 0)

theorem yields_refusedAccount : (userQuotaFetch .ascii "t" "acme" (some "p1") (some "Web")).Yields
    (∑ h, refusedAccount h + 0) (.ok ⟨some [], none, "acme", some "Web", (0, 0), ["account"]⟩) := by
  let results : QuotaHalf → HalfResult
    | .account => .error ⟨"forbidden", ""⟩
    | .project => .ok (some [])
  refine @Fetch.Yields.gather _ _ _ _ _ _ _ _ _ refusedAccount results _ _ (fun h => ?_) (.done _)
  cases h with
  | account =>
    have haccount : strip "acme" ≠ "" := by decide
    show (accountHalf .ascii "t" (strip "acme")).Yields _ _
    rw [accountHalf, if_neg haccount]
    exact .call (.call (.done _))
  | project => exact .call (.call (.done _))

theorem user_quota_of_steps_refusedAccount :
    ∃ page : UserQuotaPage, page.unavailable = ["account"] ∧
    ShowsHalf .ascii "t" .project (∑ h, refusedAccount h + 0) page.project
      ("project" ∈ page.unavailable) := by
  have hsteps :=
    (Fetch.yields_iff_steps fun _ => gatherWorkers_pos (show 0 < maxWorkers by decide)).1
    yields_refusedAccount
  exact ⟨_, rfl, (user_quota_of_steps hsteps).project _ rfl⟩

theorem user_quota_in_turn {cloud : (r : QuotaRead) → r.Answer}
    {answer : Except AppError UserQuotaPage}
    (h : ((userQuotaFetch c token account projectId projectName).begin
      (gatherWorkers maxWorkers)).Steps
      (gatherWorkers maxWorkers) calls (.returned answer)) (hcloud :
      ∀ call ∈ calls, call.2 = cloud call.1) :
    answer = (userQuotaFetch c token account projectId projectName).eval cloud :=
  (Fetch.yields_of_steps h).eq_eval hcloud

end User

/-! ### Near the limit -/

/-- **No row that is four fifths used is missed**, and none is counted that is under 79.9 percent,
or has no limit. -/
theorem near_limit_counts (c : Casing) (types : Except ZadaraError (List RawVolumeType))
    (raw : List RawQuota) :
    (quotaLimits (listedQuotas c types raw)).1 = raw.countP (fun row => row.total.isSome) ∧
      raw.countP (fun row => 4 / 5 ≤ row.share) ≤ (quotaLimits (listedQuotas c types raw)).2 ∧
      (quotaLimits (listedQuotas c types raw)).2 ≤ raw.countP fun row =>
        799 / 1000 < row.share := by
  unfold quotaLimits
  dsimp only
  obtain ⟨index, hlimits⟩ := countP_listedQuotas c types (fun q => !q.unlimited) raw
  obtain ⟨index', hnear⟩ := countP_listedQuotas c types (fun q => q.nearLimit && !q.unlimited) raw
  rw [← List.countP_eq_length_filter, List.countP_filter, hlimits, hnear]
  refine ⟨?_, ?_, ?_⟩
  · refine List.countP_congr fun row _ => ?_
    simp [normalizeQuota]
  · refine List.countP_mono_left fun row _ hrow => ?_
    have hshare : 4 / 5 ≤ row.share := of_decide_eq_true hrow
    have hpos : 0 < row.share := lt_of_lt_of_le (by norm_num) hshare
    simp [nearLimit_of_four_fifths hshare, limited_of_share hpos]
  · refine List.countP_mono_left fun row _ hrow => ?_
    rw [labelQuotaMedia_nearLimit, Bool.and_eq_true] at hrow
    exact decide_eq_true (lt_share_of_nearLimit hrow.1)

end OpenCloud
