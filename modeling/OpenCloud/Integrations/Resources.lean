import OpenCloud.Lib.Dicts
import OpenCloud.Common.Text

/-!
# What the cloud answers

The lists of the cloud as the integration layer normalises them, with the fields the modelled
functions read, and the directory of accounts.  Every upstream read either answers or raises a
`ZadaraError`.
-/

namespace OpenCloud

/-- A failure of the cloud, `ZadaraError`. -/
structure ZadaraError where
  code : String
  message : String
  deriving DecidableEq

/-- An exception: a `ZadaraError`, or one of another class. -/
inductive Raised where
  | zadara (err : ZadaraError)
  | other (name : String)
  deriving DecidableEq

/-- An exception as it is logged for a list that may be missing. -/
def Raised.logged : Raised → ZadaraError
  | .zadara err => err
  | .other name => ⟨"unexpected", name⟩

/-- A machine, as `normalize_vm` gives it. -/
structure Vm where
  projectId : Option String
  status : String
  vcpus : ℕ
  ramMB : ℕ

/-- A block volume, as `normalize_volume` gives it. -/
structure Volume where
  projectId : Option String
  media : String
  sizeGiB : ℕ

/-- A public address. -/
structure ElasticIp where
  projectId : Option String

/-- A point-in-time copy of a volume. -/
structure VolumeSnapshot where
  projectId : Option String
  sizeGiB : ℕ
  protectionGroupId : Option String

/-- The truth value Python gives an optional string. -/
def truthy : Option String → Bool
  | none => false
  | some s => s != ""

/-- The `id` of an entry of the directory: a text, null, or not there at all. -/
inductive EntryId where
  | text (id : String)
  | null
  | absent
  deriving DecidableEq

instance : Coe String EntryId := ⟨.text⟩

/-- `str(d['id'])`, which raises where there is none. -/
def EntryId.str : EntryId → Option String
  | text id => some id
  | null => some "None"
  | absent => none

/-- An entry of the cloud directory. -/
structure DirectoryEntry where
  id : EntryId
  name : String
  deriving DecidableEq

/-- An account, as `list_domains` gives it. -/
structure Domain where
  id : String
  name : String
  deriving DecidableEq

/-- `list_domains`, on one entry: one without an id is left out. -/
def DirectoryEntry.domain (entry : DirectoryEntry) : Option Domain :=
  match entry.id with
  | .text id => if id = "" then none else some ⟨id, entry.name⟩
  | .null | .absent => none

theorem DirectoryEntry.id_ne_empty_of_domain {entry : DirectoryEntry} {d : Domain}
    (h : entry.domain = some d) :
    d.id ≠ "" := by
  unfold DirectoryEntry.domain at h
  split at h
  · split_ifs at h with hne
    exact Option.some.inj h ▸ hne
  · cases h
  · cases h

/-- The four lists a measurement is taken from. -/
structure CloudLists where
  vms : Except ZadaraError (List Vm)
  volumes : Except ZadaraError (List Volume)
  elasticIps : Except ZadaraError (List ElasticIp)
  volumeSnapshots : Except ZadaraError (List VolumeSnapshot)

/-- What the cloud answers while a request runs. -/
structure Cloud extends CloudLists where
  serviceToken : Except ZadaraError String
  /-- The entries of `/identity/domains`. -/
  directory : Except ZadaraError (List DirectoryEntry)
  /-- The entries of `/identity/projects` of a domain, id and name. -/
  projects : String → Except ZadaraError (List (String × String))

namespace Cloud

/-- `service.list_domains`: every account of the cluster that has an id. -/
def listDomains (cloud : Cloud) : Except ZadaraError (List Domain) :=
  cloud.directory.map fun entries => entries.filterMap DirectoryEntry.domain

/-- `service.list_domain_projects`: id and name of the projects that have an id. -/
def listDomainProjects (cloud : Cloud) (domainId : String) :
    Except ZadaraError (Dict String String) :=
  (cloud.projects domainId).map fun entries =>
    (entries.filter fun p => p.1 != "").foldl (fun d p => d.set p.1 p.2) []

/-- `service.resolve_domain_id`: the id of the first entry with that name, ignoring case. -/
def resolveDomainId (c : Casing) (cloud : Cloud) (accountName : String) :
    Except Raised (Option String) := do
  let entries ← cloud.directory.mapError .zadara
  match entries.find? fun d => c.lower d.name = c.lower accountName with
  | none => return none
  | some d => match d.id.str with
    | some id => return some id
    | none => throw (.other "KeyError")

theorem resolveDomainId_eq_ok_iff {c : Casing} {cloud : Cloud} {name domainId : String} :
    cloud.resolveDomainId c name = .ok (some domainId) ↔
      ∃ entries, cloud.directory = .ok entries ∧
        ∃ d, (entries.find? fun d => c.lower d.name = c.lower name) = some d ∧
          d.id.str = some domainId := by
  unfold Cloud.resolveDomainId
  cases cloud.directory with
  | error e => simp [Except.mapError, bind, Except.bind]
  | ok entries =>
    simp only [Except.mapError, bind, Except.bind, Except.ok.injEq, exists_eq_left']
    split
    · rename_i hfind
      simp [hfind, pure, Except.pure]
    · rename_i d hfind
      split <;> simp_all [pure, Except.pure, throw, throwThe, MonadExceptOf.throw]

end Cloud

end OpenCloud
