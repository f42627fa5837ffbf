import OpenCloud.Accounts.Users

/-!
# Whose domain the boundary finds

`account_domain` looks the account up in the directory of the cloud by its name, while the row of
the user keeps the id of the domain it signed in to.

## Main results

* `own_domain_iff` : the boundary keeps to the user's own domain exactly when the directory leads
  the name of the account to it.
-/

namespace OpenCloud

/-- The boundary refuses, or gives the domain with this id. -/
def OwnDomain (c : Casing) (cloud : Cloud) (user : CabinetUser) (accountId : String) : Prop :=
  ∀ account domainId, accountDomain c cloud user = .ok (account, domainId) → domainId = accountId

/-- The first entry under a name, ignoring case, is the domain with this id, or the lookup ends at
it: its id is not there or is empty.  A null id is looked up as the text `None`. -/
def LeadsTo (c : Casing) (entries : List DirectoryEntry) (name accountId : String) : Prop :=
  ∀ pre d post, entries = pre ++ d :: post → c.lower d.name = c.lower name →
    (∀ e ∈ pre, c.lower e.name ≠ c.lower name) →
      d.id = .absent ∨ d.id = .text "" ∨ d.id = .text accountId ∨
        (d.id = .null ∧ accountId = "None")

section

variable {c : Casing} {cloud : Cloud} {user : CabinetUser} {entries : List DirectoryEntry}
  {name accountId : String}

theorem find?_eq_some_iff_first {d : DirectoryEntry} :
    (entries.find? fun d => c.lower d.name = c.lower name) = some d ↔
      ∃ pre post, entries = pre ++ d :: post ∧ c.lower d.name = c.lower name ∧
        ∀ e ∈ pre, c.lower e.name ≠ c.lower name := by
  rw [List.find?_eq_some_iff_append]
  constructor
  · rintro ⟨hd, pre, post, hsplit, hpre⟩
    exact ⟨pre, post, hsplit, by simpa using hd, fun e he => by simpa using hpre e he⟩
  · rintro ⟨pre, post, hsplit, hd, hpre⟩
    exact ⟨by simpa using hd, pre, post, hsplit, fun e he => by simpa using hpre e he⟩

theorem str_iff {id : EntryId} :
    (∀ domainId, id.str = some domainId → domainId ≠ "" → domainId = accountId) ↔
    id = .absent ∨ id = .text "" ∨ id = .text accountId ∨ (id = .null ∧ accountId = "None") := by
  cases id with
  | text s =>
    have hs : (s ≠ "" → s = accountId) ↔ s = "" ∨ s = accountId := by tauto
    simpa [EntryId.str] using hs
  | null =>
    have hnone : "None" = accountId ↔ accountId = "None" := eq_comm
    simpa [EntryId.str] using hnone
  | absent => simp [EntryId.str]

theorem leadsTo_iff : LeadsTo c entries name accountId ↔
    ∀ d, (entries.find? fun d => c.lower d.name = c.lower name) = some d →
      ∀ domainId, d.id.str = some domainId → domainId ≠ "" → domainId = accountId := by
  constructor
  · intro h d hd
    obtain ⟨pre, post, hsplit, hname, hpre⟩ := find?_eq_some_iff_first.1 hd
    exact str_iff.2 (h pre d post hsplit hname hpre)
  · intro h pre d post hsplit hname hpre
    exact str_iff.1 (h d (find?_eq_some_iff_first.2 ⟨pre, post, hsplit, hname, hpre⟩))

theorem ownDomain_iff : OwnDomain c cloud user accountId ↔
    strip user.account = "" ∨
      ∀ entries, cloud.directory = .ok entries →
        LeadsTo c entries (strip user.account) accountId := by
  simp only [leadsTo_iff]
  constructor
  · intro h
    refine or_iff_not_imp_left.2 fun hblank entries hdir d hd domainId hid hne => ?_
    exact h _ _ (accountDomain_eq_ok_iff.2
      ⟨rfl, hblank, hne, Cloud.resolveDomainId_eq_ok_iff.2 ⟨entries, hdir, d, hd, hid⟩⟩)
  · intro h account domainId hok
    obtain ⟨rfl, hblank, hne, hfound⟩ := accountDomain_eq_ok_iff.1 hok
    obtain ⟨entries, hdir, d, hd, hid⟩ := Cloud.resolveDomainId_eq_ok_iff.1 hfound
    exact (h.resolve_left hblank) entries hdir d hd domainId hid hne

end

/-- After any sign-ins and for any directory, the boundary keeps a user to the domain it last signed
in to exactly when its account name is blank, the directory cannot be read, or the first entry under
the name is that domain. -/
theorem own_domain_iff (c : Casing) (cloud : Cloud) (users : UserTable)
    (before after : List AuthResult) (result : AuthResult) (u : User)
    (hu : u ∈ (signIns c users (before ++ result :: after)).rows) (hid : u.userId = result.userId)
    (hlast : ∀ r ∈ after, r.userId ≠ result.userId) :
    OwnDomain c cloud u.toCabinetUser (result.accountId.getD "") ↔
      strip result.accountName = "" ∨ ∀ entries, cloud.directory = .ok entries →
        LeadsTo c entries (strip result.accountName) (result.accountId.getD "") := by
  obtain rfl := eq_of_mem_signIns hu hid hlast
  exact ownDomain_iff

/-- An administrator of the domain `d1`, which is named Acme at the sign-in. -/
def acmeSignIn : AuthResult := ⟨"u1", "ann", none, some "d1", "Acme", ["admin"]⟩

/-- A cloud of which only the directory matters. -/
def cloudOf (directory : List DirectoryEntry) : Cloud where
  vms := .ok []
  volumes := .ok []
  elasticIps := .ok []
  volumeSnapshots := .ok []
  serviceToken := .ok "service"
  directory := .ok directory
  projects _ := .ok []

/-- Two entries that differ in case. -/
def twoSpellings : Cloud := cloudOf [⟨"d2", "ACME"⟩, ⟨"d1", "Acme"⟩]

theorem other_domain_found : ∃ u ∈ (signIns .ascii .empty ([] ++ acmeSignIn :: [])).rows,
    u.userId = acmeSignIn.userId ∧ acmeSignIn.accountId = some "d1" ∧
      ¬ OwnDomain .ascii twoSpellings u.toCabinetUser "d1" := by
  refine ⟨acmeSignIn.user .ascii, by simp [signIns, mem_upsertUser], rfl, rfl, fun h => ?_⟩
  have hfound : accountDomain .ascii twoSpellings (acmeSignIn.user .ascii).toCabinetUser =
      .ok ("Acme", "d2") := by decide +kernel
  exact absurd (h _ _ hfound) (by decide)

theorem own_domain_iff_of_renamed :
    OwnDomain .ascii (cloudOf [⟨"d1", "Umbrella"⟩, ⟨"d2", "acme"⟩])
        (acmeSignIn.user .ascii).toCabinetUser "d1" ↔
      strip "Acme" = "" ∨ ∀ entries, (cloudOf [⟨"d1", "Umbrella"⟩, ⟨"d2", "acme"⟩]).directory =
        .ok entries → LeadsTo .ascii entries (strip "Acme") "d1" :=
  own_domain_iff .ascii _ .empty [] [] acmeSignIn _ (by simp [signIns, mem_upsertUser]) rfl
    (by simp)

end OpenCloud
