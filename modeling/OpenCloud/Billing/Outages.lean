import OpenCloud.Billing.Footprint

/-!
# Measuring during an outage

A measurement reads the token, four lists, the domains and the projects of each domain.  Where a
list is refused its figures are left at zero, and where the projects of a domain are refused its
projects are left without an account.

Running a day again overwrites the whole row of every project that holds something, with these zeros
and blanks (`keepsMeasured_iff`).  The list of the domains is read without a guard: where it is
refused the run raises before it writes (`savesTheDay_iff`).

## Main results

* `keepsRefused_iff` : what is left of a row when its day is run again.
* `records_usageRow` : the row that is written is what the answers say.
-/

namespace OpenCloud

/-- The read raised. -/
def Refused {α : Type} (read : Except ZadaraError α) : Prop := ∃ e, read = .error e

theorem refused_or_answered {α : Type} (read : Except ZadaraError α) :
    Refused read ∨ ∃ value, read = .ok value := by
  cases read with
  | error e => exact .inl ⟨e, rfl⟩
  | ok value => exact .inr ⟨value, rfl⟩

/-- The table after a run of the collector; one that raises has written nothing. -/
def afterCapture (c : Casing) (cloud : Cloud) (now : Instant) (takenOn : Date)
    (table : SnapshotTable) :
    SnapshotTable :=
  match capture c cloud now takenOn table with
  | .ok (table', _) => table'
  | .error _ => table

section AfterCapture

variable {c : Casing} {cloud : Cloud} {now : Instant} {takenOn : Date} {table : SnapshotTable}

theorem afterCapture_of_token_refused (h : Refused cloud.serviceToken) :
    afterCapture c cloud now takenOn table = table := by
  obtain ⟨e, he⟩ := h
  simp [afterCapture, capture, he, bind, Except.bind]

theorem afterCapture_of_domains_refused (h : Refused cloud.listDomains) :
    afterCapture c cloud now takenOn table = table := by
  obtain ⟨e, he⟩ := h
  have hdir : projectDirectory cloud = .error e := by rw [projectDirectory_eq, he]; rfl
  cases htoken : cloud.serviceToken with
  | error e' => exact afterCapture_of_token_refused ⟨e', htoken⟩
  | ok token => simp [afterCapture, capture, htoken, hdir, bind, Except.bind]

/-- Where the token and the domains are answered the run completes, with a row for each project that
holds something, and the rows before of other days and of other projects. -/
theorem mem_afterCapture {token : String} {domains : List Domain}
    (htoken : cloud.serviceToken = .ok token) (hdomains : cloud.listDomains = .ok domains) :
    ∃ directory, projectDirectory cloud = .ok directory ∧
      ∀ row, row ∈ (afterCapture c cloud now takenOn table).rows ↔
        (∃ p, Holds cloud.toCloudLists p ∧
          row = usageRow now takenOn directory p (footprint c cloud.toCloudLists p)) ∨
        (row ∈ table.rows ∧
          ¬ (row.takenOn = takenOn ∧ Holds cloud.toCloudLists row.projectId)) := by
  have hdir : projectDirectory cloud = .ok (domains.foldl (addProjects cloud) []) := by
    rw [projectDirectory_eq, hdomains]
    rfl
  refine ⟨_, hdir, fun row => ?_⟩
  obtain ⟨out, hout⟩ : ∃ out, capture c cloud now takenOn table = .ok out := by
    simp [capture, htoken, hdir, bind, Except.bind, pure, Except.pure]
  obtain ⟨table', report⟩ := out
  have hafter : afterCapture c cloud now takenOn table = table' := by rw [afterCapture, hout]
  rw [hafter, mem_capture hout hdir, mem_keys_measureCluster]
  refine or_congr_left ⟨?_, ?_⟩
  · rintro ⟨⟨p, values⟩, hmem, rfl⟩
    obtain ⟨hp, rfl⟩ := mem_measureCluster.1 hmem
    exact ⟨p, hp, rfl⟩
  · rintro ⟨p, hp, rfl⟩
    exact ⟨(p, footprint c cloud.toCloudLists p), mem_measureCluster.2 ⟨hp, rfl⟩, rfl⟩

end AfterCapture

/-! ### Running a day again -/

/-- The projects of the row's account are refused: its domain is listed, and its project list
raises. -/
def OwnerRefused (cloud : Cloud) (row : UsageSnapshot) : Prop :=
  ∃ domains, cloud.listDomains = .ok domains ∧
    ∃ domain ∈ domains, domain.id = row.domainId ∧ Refused (cloud.listDomainProjects domain.id)

/-- `row'` has the values of `row` in the fields whose source is refused. -/
structure KeepsRefused (cloud : Cloud) (row row' : UsageSnapshot) : Prop where
  vms : Refused cloud.vms → row'.vmsTotal = row.vmsTotal ∧ row'.vmsRunning = row.vmsRunning ∧
    row'.vcpus = row.vcpus ∧ row'.ramMb = row.ramMb
  volumes : Refused cloud.volumes →
    row'.ssdGib = row.ssdGib ∧ row'.hddGib = row.hddGib ∧ row'.unlabelledGib = row.unlabelledGib
  elasticIps : Refused cloud.elasticIps → row'.elasticIps = row.elasticIps
  volumeSnapshots : Refused cloud.volumeSnapshots →
    row'.snapshotGib = row.snapshotGib ∧ row'.backupSnapshotGib = row.backupSnapshotGib
  owner : OwnerRefused cloud row →
    row'.account = row.account ∧ row'.domainId = row.domainId ∧ row'.projectName = row.projectName

/-- What was measured is kept: the row of each project and day has the values it had in the fields
whose source is refused, and the rows of other days are the same. -/
structure KeepsMeasured (cloud : Cloud) (takenOn : Date) (table table' : SnapshotTable) : Prop where
  otherDays : ∀ row, row.takenOn ≠ takenOn → (row ∈ table'.rows ↔ row ∈ table.rows)
  sameDay : ∀ row ∈ table.rows, row.takenOn = takenOn → ∃ row' ∈ table'.rows,
    row'.projectId = row.projectId ∧ row'.takenOn = takenOn ∧ KeepsRefused cloud row row'

theorem KeepsRefused.refl {cloud : Cloud} {row : UsageSnapshot} : KeepsRefused cloud row row where
  vms _ := ⟨rfl, rfl, rfl, rfl⟩
  volumes _ := ⟨rfl, rfl, rfl⟩
  elasticIps _ := rfl
  volumeSnapshots _ := ⟨rfl, rfl⟩
  owner _ := ⟨rfl, rfl, rfl⟩

/-- The row has nothing of a source that is refused. -/
structure NothingRefused (cloud : Cloud) (row : UsageSnapshot) : Prop where
  vms : Refused cloud.vms → row.vmsTotal = 0 ∧ row.vmsRunning = 0 ∧ row.vcpus = 0 ∧ row.ramMb = 0
  volumes : Refused cloud.volumes → row.ssdGib = 0 ∧ row.hddGib = 0 ∧ row.unlabelledGib = 0
  elasticIps : Refused cloud.elasticIps → row.elasticIps = 0
  volumeSnapshots : Refused cloud.volumeSnapshots → row.snapshotGib = 0 ∧ row.backupSnapshotGib = 0
  owner : ¬ OwnerRefused cloud row

section Again

variable {c : Casing} {cloud : Cloud} {now : Instant} {takenOn : Date} {table : SnapshotTable}
  {directory : Dict String Owner} {row : UsageSnapshot} {p : String}

theorem footprint_of_refused (c : Casing) (lists : CloudLists) (p : String) :
    (Refused lists.vms → (footprint c lists p).vmsTotal = 0 ∧ (footprint c lists p).vmsRunning = 0 ∧
      (footprint c lists p).vcpus = 0 ∧ (footprint c lists p).ramMb = 0) ∧
    (Refused lists.volumes → (footprint c lists p).ssdGib = 0 ∧ (footprint c lists p).hddGib = 0 ∧
      (footprint c lists p).unlabelledGib = 0) ∧
    (Refused lists.elasticIps → (footprint c lists p).elasticIps = 0) ∧
    (Refused lists.volumeSnapshots → (footprint c lists p).snapshotGib = 0 ∧
      (footprint c lists p).backupSnapshotGib = 0) := by
  refine ⟨?_, ?_, ?_, ?_⟩
  all_goals
    rintro ⟨e, he⟩
    simp [footprint, he, source]

/-- The row written over `row` does not keep an account that is refused. -/
theorem not_kept_owner (hdir : projectDirectory cloud = .ok directory)
    (howner : OwnerRefused cloud row) (values : Measurements) :
    (usageRow now takenOn directory p values).domainId ≠ row.domainId := by
  intro heq
  obtain ⟨domains, hdomains, domain, hdomain, hid, e, he⟩ := howner
  obtain ⟨hsome, -⟩ := @get?_projectDirectory cloud directory p hdir
  cases hget : directory.get? p with
  | none =>
    -- a row without an owner has no domain id, and a listed domain has one
    have hempty : row.domainId = "" := by
      rw [← heq, usageRow, hget]
      rfl
    exact absurd (hid.trans hempty) (id_ne_empty_of_listDomains hdomains hdomain)
  | some owner =>
    obtain ⟨-, -, domain', -, projects, hread, hnames⟩ := hsome owner hget
    obtain ⟨name, -, rfl⟩ := Option.map_eq_some_iff.1 hnames
    have hsame : domain'.id = domain.id := by
      rw [hid, ← heq, usageRow, hget]
      rfl
    rw [hsame, he] at hread
    cases hread

/-- What is left of a row whose project holds something when its day is run again. -/
theorem keepsRefused_iff (hdir : projectDirectory cloud = .ok directory) :
    KeepsRefused cloud row (usageRow now takenOn directory p (footprint c cloud.toCloudLists p)) ↔
      NothingRefused cloud row := by
  obtain ⟨hvms, hvolumes, helasticIps, hsnapshots⟩ := footprint_of_refused c cloud.toCloudLists p
  constructor
  · intro h
    refine ⟨fun hr => ?_, fun hr => ?_, fun hr => ?_, fun hr => ?_, fun hr => ?_⟩
    · obtain ⟨h₁, h₂, h₃, h₄⟩ := h.vms hr
      obtain ⟨z₁, z₂, z₃, z₄⟩ := hvms hr
      exact ⟨h₁.symm.trans z₁, h₂.symm.trans z₂, h₃.symm.trans z₃, h₄.symm.trans z₄⟩
    · obtain ⟨h₁, h₂, h₃⟩ := h.volumes hr
      obtain ⟨z₁, z₂, z₃⟩ := hvolumes hr
      exact ⟨h₁.symm.trans z₁, h₂.symm.trans z₂, h₃.symm.trans z₃⟩
    · exact (h.elasticIps hr).symm.trans (helasticIps hr)
    · obtain ⟨h₁, h₂⟩ := h.volumeSnapshots hr
      obtain ⟨z₁, z₂⟩ := hsnapshots hr
      exact ⟨h₁.symm.trans z₁, h₂.symm.trans z₂⟩
    · exact not_kept_owner hdir hr _ (h.owner hr).2.1
  · intro h
    refine ⟨fun hr => ?_, fun hr => ?_, fun hr => ?_, fun hr => ?_, fun hr => absurd hr h.owner⟩
    · obtain ⟨h₁, h₂, h₃, h₄⟩ := h.vms hr
      obtain ⟨z₁, z₂, z₃, z₄⟩ := hvms hr
      exact ⟨z₁.trans h₁.symm, z₂.trans h₂.symm, z₃.trans h₃.symm, z₄.trans h₄.symm⟩
    · obtain ⟨h₁, h₂, h₃⟩ := h.volumes hr
      obtain ⟨z₁, z₂, z₃⟩ := hvolumes hr
      exact ⟨z₁.trans h₁.symm, z₂.trans h₂.symm, z₃.trans h₃.symm⟩
    · exact (helasticIps hr).trans (h.elasticIps hr).symm
    · obtain ⟨h₁, h₂⟩ := h.volumeSnapshots hr
      obtain ⟨z₁, z₂⟩ := hsnapshots hr
      exact ⟨z₁.trans h₁.symm, z₂.trans h₂.symm⟩

/-- Running a day keeps what was measured exactly when the token or the domains are refused, or each
row of the day whose project holds something now has nothing of a source that is refused. -/
theorem keepsMeasured_iff (c : Casing) (cloud : Cloud) (now : Instant) (takenOn : Date)
    (table : SnapshotTable) :
    KeepsMeasured cloud takenOn table (afterCapture c cloud now takenOn table) ↔
      Refused cloud.serviceToken ∨ Refused cloud.listDomains ∨
        ∀ row ∈ table.rows, row.takenOn = takenOn → Holds cloud.toCloudLists row.projectId →
          NothingRefused cloud row := by
  have hsame : KeepsMeasured cloud takenOn table table :=
    ⟨fun _ _ => Iff.rfl, fun row hrow hday => ⟨row, hrow, rfl, hday, .refl⟩⟩
  rcases refused_or_answered cloud.serviceToken with htoken | ⟨token, htoken⟩
  · rw [afterCapture_of_token_refused htoken]
    exact iff_of_true hsame (.inl htoken)
  rcases refused_or_answered cloud.listDomains with hdomains | ⟨domains, hdomains⟩
  · rw [afterCapture_of_domains_refused hdomains]
    exact iff_of_true hsame (.inr (.inl hdomains))
  obtain ⟨directory, hdir, hmem⟩ := @mem_afterCapture c cloud now takenOn table _ _ htoken hdomains
  have hnot : ¬ Refused cloud.serviceToken ∧ ¬ Refused cloud.listDomains := by
    simp [Refused, htoken, hdomains]
  simp only [hnot, false_or]
  constructor
  · intro h row hrow hday hholds
    obtain ⟨row', hrow', hproject, hday', hkeeps⟩ := h.sameDay row hrow hday
    rcases (hmem row').1 hrow' with ⟨p, -, rfl⟩ | ⟨-, hold⟩
    · exact (keepsRefused_iff hdir).1 hkeeps
    · exact absurd ⟨hday', hproject ▸ hholds⟩ hold
  · intro h
    refine ⟨fun row hday => ?_, fun row hrow hday => ?_⟩
    · rw [hmem]
      constructor
      · rintro (⟨p, -, rfl⟩ | ⟨hrow, -⟩)
        · exact absurd rfl hday
        · exact hrow
      · exact fun hrow => .inr ⟨hrow, fun hold => hday hold.1⟩
    · by_cases hholds : Holds cloud.toCloudLists row.projectId
      · refine ⟨_, (hmem _).2 (.inl ⟨row.projectId, hholds, rfl⟩), rfl, rfl, ?_⟩
        exact (keepsRefused_iff hdir).2 (h row hrow hday hholds)
      · exact ⟨row, (hmem _).2 (.inr ⟨hrow, fun hold => hholds hold.2⟩), rfl, hday, .refl⟩

end Again

/-- One account with a running machine and a disk. -/
def oneProject : Cloud where
  vms := .ok [⟨some "p1", "active", 4, 8192⟩]
  volumes := .ok [⟨some "p1", "SSD", 100⟩]
  elasticIps := .ok []
  volumeSnapshots := .ok []
  serviceToken := .ok "token"
  directory := .ok [⟨"d1", "Acme"⟩]
  projects := fun _ => .ok [("p1", "main")]

/-- The same while the volumes are refused. -/
def withoutVolumes : Cloud := { oneProject with volumes := .error ⟨"zadara_unavailable", ""⟩ }

/-- The day is measured, and measured again while the volumes are refused: the disk is gone. -/
theorem measured_disk_lost :
    ¬ KeepsMeasured withoutVolumes august.first
      (afterCapture .ascii oneProject 0 august.first .empty)
      (afterCapture .ascii withoutVolumes 1 august.first
        (afterCapture .ascii oneProject 0 august.first .empty)) := by
  intro h
  have hbefore : ∃ row ∈ (afterCapture .ascii oneProject 0 august.first .empty).rows,
      row.takenOn = august.first ∧ row.ssdGib = 100 := by decide +kernel
  have hafter : ∀ row ∈ (afterCapture .ascii withoutVolumes 1 august.first
      (afterCapture .ascii oneProject 0 august.first .empty)).rows, row.ssdGib = 0 := by
        decide +kernel
  obtain ⟨row, hrow, hday, hssd⟩ := hbefore
  obtain ⟨row', hrow', -, -, hkeeps⟩ := h.sameDay row hrow hday
  have hkept : row'.ssdGib = row.ssdGib := (hkeeps.volumes ⟨_, rfl⟩).1
  rw [hafter row' hrow', hssd] at hkept
  exact absurd hkept (by decide)

/-! ### A day measured in part -/

/-- The row of a project has the figures of the lists that answered, and its account where the
project list of its domain was read. -/
structure Records (c : Casing) (cloud : Cloud) (takenOn : Date) (p : String) (row : UsageSnapshot) :
    Prop where
  day : row.takenOn = takenOn
  project : row.projectId = p
  figures : row.toMeasurements = footprint c cloud.toCloudLists p
  owner : OwnedBy cloud p ⟨row.account, row.domainId, row.projectName⟩ ∨
    ((∀ owner, ¬ OwnedBy cloud p owner) ∧ row.account = "" ∧ row.domainId = "" ∧
      row.projectName = "")

/-- Every project that holds something in a list that answered has its row. -/
def SavesTheDay (c : Casing) (cloud : Cloud) (takenOn : Date) (table : SnapshotTable) : Prop :=
  ∀ p, Holds cloud.toCloudLists p → ∃ row ∈ table.rows, Records c cloud takenOn p row

section InPart

variable {c : Casing} {cloud : Cloud} {now : Instant} {takenOn : Date} {table : SnapshotTable}
  {directory : Dict String Owner} {p : String}

/-- The row that is written is what the answers say. -/
theorem records_usageRow (hdir : projectDirectory cloud = .ok directory) :
    Records c cloud takenOn p
      (usageRow now takenOn directory p (footprint c cloud.toCloudLists p)) := by
  refine ⟨rfl, rfl, rfl, ?_⟩
  obtain ⟨hsome, hnone⟩ := @get?_projectDirectory cloud directory p hdir
  cases hget : directory.get? p with
  | none =>
    refine .inr ⟨hnone hget, ?_⟩
    rw [usageRow, hget]
    exact ⟨rfl, rfl, rfl⟩
  | some owner =>
    refine .inl ?_
    rw [usageRow, hget]
    exact hsome owner hget

/-- On a day without rows, and with the token obtained, a run saves the day exactly when the list of
the domains answers or nothing is held in the lists that answered. -/
theorem savesTheDay_iff {token : String} (htoken : cloud.serviceToken = .ok token)
    (hnew : ∀ row ∈ table.rows, row.takenOn ≠ takenOn) :
    SavesTheDay c cloud takenOn (afterCapture c cloud now takenOn table) ↔
      (∃ domains, cloud.listDomains = .ok domains) ∨ ∀ p, ¬ Holds cloud.toCloudLists p := by
  rcases refused_or_answered cloud.listDomains with hdomains | ⟨domains, hdomains⟩
  · rw [afterCapture_of_domains_refused hdomains]
    have hnot : ¬ ∃ domains, cloud.listDomains = .ok domains := by
      rintro ⟨domains, hok⟩
      obtain ⟨e, he⟩ := hdomains
      cases he.symm.trans hok
    simp only [hnot, false_or]
    constructor
    · intro h p hp
      obtain ⟨row, hrow, hrecords⟩ := h p hp
      exact hnew row hrow hrecords.day
    · exact fun h p hp => absurd hp (h p)
  · obtain ⟨directory, hdir, hmem⟩ :=
      @mem_afterCapture c cloud now takenOn table _ _ htoken hdomains
    refine iff_of_true (fun p hp => ?_) (.inl ⟨domains, hdomains⟩)
    exact ⟨_, (hmem _).2 (.inl ⟨p, hp, rfl⟩), records_usageRow hdir⟩

end InPart

/-- The same account while its project list is refused, and while the list of the domains is. -/
def withoutProjects : Cloud :=
  { oneProject with projects := fun _ => .error ⟨"zadara_unavailable", ""⟩ }

def withoutDomains : Cloud := { oneProject with directory := .error ⟨"zadara_unavailable", ""⟩ }

theorem savesTheDay_iff_of_projects_refused :
    SavesTheDay .ascii withoutProjects august.first
        (afterCapture .ascii withoutProjects 0 august.first .empty) ↔
      (∃ domains, withoutProjects.listDomains = .ok domains) ∨
        ∀ p, ¬ Holds withoutProjects.toCloudLists p := by
  have htoken : withoutProjects.serviceToken = .ok "token" := rfl
  exact savesTheDay_iff htoken (by simp [SnapshotTable.empty])

theorem day_lost_with_domains :
    ¬ SavesTheDay .ascii withoutDomains august.first
      (afterCapture .ascii withoutDomains 0 august.first .empty) := by
  intro h
  obtain ⟨row, hrow, -⟩ := h "p1" (by decide +kernel)
  have hnone : (afterCapture .ascii withoutDomains 0 august.first .empty).rows = [] := by
    decide +kernel
  rw [hnone] at hrow
  cases hrow

end OpenCloud
