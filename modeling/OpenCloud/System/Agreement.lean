import OpenCloud.System.Conservation

/-!
# The panel and the bill see the same footprint

The snapshot of the panel and the daily measurement classify the same rows in two ways of writing.
Their figures agree for every project with an id and for every account that is read.  A listed
project whose id is missing takes, in the panel only, the rows that have no project; and an account
is blanked with another one of its name (`same_footprint_iff`).

## Main results

* `measured_footprint` : a bucket has what the project's rows weigh.
* `shown_eq` : an entry shows what its rows weigh.
-/

namespace OpenCloud

/-- The figures that both sides have. -/
inductive SharedFigure where
  | vmCount
  | runningVms
  | storageGiB
  | ssdGiB
  | hddGiB
  | unlabelledGiB
  | volumeSnapshotGiB
  | backupSnapshotGiB
  | publicIps

namespace SharedFigure

/-- The list it comes from. -/
abbrev source : SharedFigure → Source
  | vmCount | runningVms => .vms
  | storageGiB | ssdGiB | hddGiB | unlabelledGiB => .volumes
  | volumeSnapshotGiB | backupSnapshotGiB => .volumeSnapshots
  | publicIps => .publicIps

/-- The figure of a bucket. -/
def measured (m : Measurements) : SharedFigure → ℕ
  | vmCount => m.vmsTotal
  | runningVms => m.vmsRunning
  | storageGiB => m.ssdGib + m.hddGib + m.unlabelledGib
  | ssdGiB => m.ssdGib
  | hddGiB => m.hddGib
  | unlabelledGiB => m.unlabelledGib
  | volumeSnapshotGiB => m.snapshotGib
  | backupSnapshotGiB => m.backupSnapshotGib
  | publicIps => m.elasticIps

/-- The figure of an entry of the picture; the media are those of its split. -/
def shown (usage : ShownUsage) : SharedFigure → Option ℕ
  | vmCount => usage.figure .vmCount
  | runningVms => usage.figure .runningVms
  | storageGiB => usage.figure .storageGiB
  | ssdGiB => usage.storageByMedia.map (capacityOn fun media => media = "SSD")
  | hddGiB => usage.storageByMedia.map (capacityOn fun media => media = "HDD")
  | unlabelledGiB =>
    usage.storageByMedia.map (capacityOn fun media => media ≠ "SSD" ∧ media ≠ "HDD")
  | volumeSnapshotGiB => usage.figure .volumeSnapshotGiB
  | backupSnapshotGiB => usage.figure .backupSnapshotGiB
  | publicIps => usage.figure .publicIps

/-- What a row adds to it. -/
def weight (c : Casing) (k : SharedFigure) (row : k.source.Row) : ℕ :=
  match k, row with
  | vmCount, _ => 1
  | runningVms, (vm : Vm) => if vm.Running c then 1 else 0
  | storageGiB, (volume : Volume) => volume.sizeGiB
  | ssdGiB, (volume : Volume) => if volume.media = "SSD" then volume.sizeGiB else 0
  | hddGiB, (volume : Volume) => if volume.media = "HDD" then volume.sizeGiB else 0
  | unlabelledGiB, (volume : Volume) => if volume.Unlabelled then volume.sizeGiB else 0
  | volumeSnapshotGiB, (snap : VolumeSnapshot) => snap.sizeGiB
  | backupSnapshotGiB, (snap : VolumeSnapshot) => if snap.Backup then snap.sizeGiB else 0
  | publicIps, _ => 1

end SharedFigure

/-- The bucket of a project; all zeros if it has none. -/
def bucketOf (c : Casing) (cloud : PanelCloud) (p : String) : Measurements :=
  ((measureCluster c cloud.toCloudLists).get? p).getD .blank

/-- The entries of an account and its projects show what was measured: each project its bucket, and
an account whose projects were read the sum of theirs. -/
structure SameFootprint (c : Casing) (cloud : PanelCloud) (domains : List Domain)
    (picture : Picture) : Prop where
  listed : ∀ d ∈ domains, ∃ a ∈ picture.accounts, a.id = d.id ∧
    a.projects.map ProjectView.project = cloud.listed d.id
  projects : ∀ a ∈ picture.accounts, ∀ pv ∈ a.projects, ∀ k : SharedFigure,
    k.shown pv.usage = some (k.measured (bucketOf c cloud pv.project.id))
  accounts : ∀ a ∈ picture.accounts, ¬ cloud.ProjectsRefused a.id → ∀ k : SharedFigure,
    k.shown a.usage =
      some (tally (fun pv => k.measured (bucketOf c cloud pv.project.id)) a.projects)

/-- No machine and no address is without a project, nor a volume or a snapshot that has a size. -/
structure NothingLoose (cloud : PanelCloud) : Prop where
  vms : ∀ vm ∈ source cloud.vms, vm.projectId.getD "" ≠ ""
  volumes : ∀ v ∈ source cloud.volumes, v.projectId.getD "" = "" → v.sizeGiB = 0
  volumeSnapshots : ∀ s ∈ source cloud.volumeSnapshots, s.projectId.getD "" = "" → s.sizeGiB = 0
  elasticIps : ∀ e ∈ source cloud.elasticIps, e.projectId.getD "" ≠ ""

section Agreement

variable {c : Casing} {cloud : PanelCloud} {domains : List Domain} {picture : Picture}
  {k : SharedFigure} {p : String}

theorem getD_eq_iff {projectId : Option String} (hp : p ≠ "") :
    projectId.getD "" = p ↔ projectId = some p := by
  cases projectId with
  | none => simpa using hp.symm
  | some q => simp

theorem rowsIn_eq (hp : p ≠ "") :
    ((source cloud.vms).filter fun vm => vm.projectId = some p) = cloud.rowsIn .vms p ∧
    ((source cloud.volumes).filter fun v => v.projectId = some p) = cloud.rowsIn .volumes p ∧
    ((source cloud.elasticIps).filter fun e => e.projectId = some p) = cloud.rowsIn .publicIps p ∧
    ((source cloud.volumeSnapshots).filter fun s => s.projectId = some p) =
      cloud.rowsIn .volumeSnapshots p := by
  refine ⟨?_, ?_, ?_, ?_⟩
  all_goals
    refine List.filter_congr fun row _ => ?_
    rw [decide_eq_decide]
    exact (getD_eq_iff hp).symm

theorem tally_media (volumes : List Volume) :
    tally Volume.sizeGiB (volumes.filter fun v => v.media = "SSD") +
      tally Volume.sizeGiB (volumes.filter fun v => v.media = "HDD") +
      tally Volume.sizeGiB (volumes.filter fun v => v.Unlabelled) =
        tally Volume.sizeGiB volumes := by
  rw [← tally_ite, ← tally_ite, ← tally_ite, ← tally_add, ← tally_add]
  refine tally_congr fun v _ => ?_
  by_cases hssd : v.media = "SSD"
  · simp [Volume.Unlabelled, hssd]
  · by_cases hhdd : v.media = "HDD" <;> simp [Volume.Unlabelled, hssd, hhdd]

/-- A bucket has what the project's rows weigh. -/
theorem measured_footprint (hp : p ≠ "") : k.measured (footprint c cloud.toCloudLists p) =
    tally (k.weight c) (cloud.rowsIn k.source p) := by
  obtain ⟨hvms, hvolumes, heips, hsnapshots⟩ := @rowsIn_eq cloud p hp
  cases k with
  | vmCount => exact hvms ▸ tally_one.symm
  | runningVms => exact hvms ▸ length_eq_tally_ite
  | storageGiB => exact hvolumes ▸ tally_media _
  | ssdGiB => exact hvolumes ▸ tally_ite.symm
  | hddGiB => exact hvolumes ▸ tally_ite.symm
  | unlabelledGiB => exact hvolumes ▸ tally_ite.symm
  | volumeSnapshotGiB =>
    rw [← hsnapshots]
    rfl
  | backupSnapshotGiB => exact hsnapshots ▸ tally_ite.symm
  | publicIps => exact heips ▸ tally_one.symm

theorem measured_bucketOf (k : SharedFigure) (p : String) : k.measured (bucketOf c cloud p) =
    if p = "" then 0 else tally (k.weight c) (cloud.rowsIn k.source p) := by
  by_cases hp : p = ""
  · have hnone : (measureCluster c cloud.toCloudLists).get? p = none := by
      rw [Dict.get?_eq_none_iff, mem_keys_measureCluster]
      exact fun h => h.1 hp
    rw [if_pos hp, bucketOf, hnone]
    cases k <;> rfl
  · rw [if_neg hp, bucketOf, measureCluster_eq_footprint hp, measured_footprint hp]

/-- An entry shows what its rows weigh. -/
theorem shown_eq {usage : ShownUsage} {rows : (s : Source) → List s.Row}
    (hmeasure : ∀ k : Measure, ¬ cloud.Unavailable k.source →
      usage.measure k = some (tally (weight c k.source k) (rows k.source)))
    (hsplit : ¬ cloud.Unavailable .volumes →
      usage.storageByMedia = some (mediaTotals (rows .volumes)))
    (hread : ¬ cloud.Unavailable k.source) :
    k.shown usage = some (tally (k.weight c) (rows k.source)) := by
  cases k with
  | vmCount => exact hmeasure (.figure .vmCount) hread
  | runningVms => exact hmeasure (.figure .runningVms) hread
  | storageGiB => exact hmeasure (.figure .storageGiB) hread
  | volumeSnapshotGiB => exact hmeasure (.figure .volumeSnapshotGiB) hread
  | backupSnapshotGiB => exact hmeasure (.figure .backupSnapshotGiB) hread
  | publicIps => exact hmeasure (.figure .publicIps) hread
  | ssdGiB | hddGiB | unlabelledGiB =>
    rw [SharedFigure.shown, hsplit hread, Option.map_some, capacityOn_mediaTotals, ← tally_ite]
    rfl

theorem mem_rowsIn {s : Source} {row : s.Row} :
    row ∈ cloud.rowsIn s p ↔ row ∈ cloud.rows s ∧ s.projectId row = p := by
  rw [PanelCloud.rowsIn, List.mem_filter, decide_eq_true_eq]

/-- Nothing is loose exactly when the rows without a project weigh nothing. -/
theorem nothingLoose_iff (c : Casing) :
    NothingLoose cloud ↔ ∀ k : SharedFigure, tally (k.weight c) (cloud.rowsIn k.source "") = 0 := by
  simp only [tally_eq_zero_iff]
  constructor
  · intro h k row hrow
    obtain ⟨hrow, hp⟩ := mem_rowsIn.1 hrow
    cases k with
    | vmCount | runningVms => exact absurd hp (h.vms row hrow)
    | storageGiB => exact h.volumes row hrow hp
    | ssdGiB | hddGiB | unlabelledGiB =>
      simp only [SharedFigure.weight, h.volumes row hrow hp, ite_self]
    | volumeSnapshotGiB => exact h.volumeSnapshots row hrow hp
    | backupSnapshotGiB => simp only [SharedFigure.weight, h.volumeSnapshots row hrow hp, ite_self]
    | publicIps => exact absurd hp (h.elasticIps row hrow)
  · intro h
    exact
      { vms := fun vm hvm hp => absurd (h .vmCount vm (mem_rowsIn.2 ⟨hvm, hp⟩)) one_ne_zero
        volumes := fun v hv hp => h .storageGiB v (mem_rowsIn.2 ⟨hv, hp⟩)
        volumeSnapshots := fun s hs hp => h .volumeSnapshotGiB s (mem_rowsIn.2 ⟨hs, hp⟩)
        elasticIps := fun e he hp => absurd (h .publicIps e (mem_rowsIn.2 ⟨he, hp⟩)) one_ne_zero }

/-- Where the lists are read, the picture shows the measured footprint exactly when no listed
project is without an id or nothing is loose, and no account that is read is shown under the name of
one that is not. -/
theorem same_footprint_iff {token : String} {vms : List Vm} {volumes : List Volume}
    {eips : List ElasticIp} {snapshots : List VolumeSnapshot}
    (htoken : cloud.serviceToken = .ok token) (hdomains : cloud.listDomains = .ok domains)
    (hvms : cloud.vms = .ok vms) (hvolumes : cloud.volumes = .ok volumes)
    (heips : cloud.elasticIps = .ok eips) (hsnapshots : cloud.volumeSnapshots = .ok snapshots)
    (honce : cloud.ListedOnce domains) :
    ∃ picture, buildPicture c cloud = .ok picture ∧
      (SameFootprint c cloud domains picture ↔
        ((∀ d ∈ domains, "" ∉ cloud.listedIds d.id) ∨ NothingLoose cloud) ∧
          ∀ d ∈ domains, ¬ cloud.ProjectsRefused d.id → ∀ entry,
            (blankAccounts domains).get? d.id = some entry →
              ¬ cloud.NameRefused domains entry.name) := by
  obtain ⟨picture, hok⟩ := @buildPicture_eq_ok c cloud domains token vms htoken hdomains hvms
  have hshows := shows_buildPicture hok hdomains honce
  have hread : ∀ k : SharedFigure, ¬ cloud.Unavailable k.source := by
    intro k
    cases k <;> simp [PanelCloud.Unavailable, PanelCloud.list, hvms, hvolumes, heips, hsnapshots]
  have hproject : ∀ a ∈ picture.accounts, ∀ pv ∈ a.projects, ∀ k : SharedFigure,
      k.shown pv.usage = some (tally (k.weight c) (cloud.rowsIn k.source pv.project.id)) := by
    intro a ha pv hpv k
    have hpv := hshows.projects a ha pv hpv
    exact @shown_eq c cloud k pv.usage (fun s => cloud.rowsIn s pv.project.id) hpv.known hpv.split
      (hread k)
  have haccount : ∀ a ∈ picture.accounts, ¬ cloud.NameRefused domains a.name → ∀ k : SharedFigure,
      k.shown a.usage = some (tally (k.weight c) (cloud.rowsOf k.source a.id)) := by
    intro a ha hnot k
    have hshown := hshows.accounts a ha
    exact @shown_eq c cloud k a.usage (fun s => cloud.rowsOf s a.id)
      (fun k hk => hshown.known k hk hnot)
      (fun hk => hshown.split hk hnot) (hread k)
  refine ⟨picture, hok, ⟨fun h => ⟨?_, ?_⟩, fun h => ⟨fun d hd => ?_, ?_, ?_⟩⟩⟩
  · -- a listed project without an id shows the loose rows, and measures nothing
    by_contra hnot
    obtain ⟨hlisted, hloose⟩ := not_or.1 hnot
    push Not at hlisted
    obtain ⟨d, hd, hempty⟩ := hlisted
    refine hloose ((nothingLoose_iff c).2 fun k => ?_)
    obtain ⟨a, ha, -, hprojects⟩ := h.listed d hd
    rw [PanelCloud.listedIds, ← hprojects, List.map_map] at hempty
    obtain ⟨pv, hpv, hid⟩ := List.mem_map.1 hempty
    have hid : pv.project.id = "" := hid
    have hsame := (hproject a ha pv hpv k).symm.trans (h.projects a ha pv hpv k)
    rw [hid, measured_bucketOf, if_pos rfl] at hsame
    exact Option.some.inj hsame
  · -- a blanked account shows no figure
    intro d hd hreadable entry hentry hname
    obtain ⟨a, ha, hid⟩ := hshows.complete d hd
    have hnamed := (hshows.accounts a ha).named
    rw [hid, hentry] at hnamed
    obtain hnamed : entry.name = a.name := Option.some.inj hnamed
    have hnone := (hshows.accounts a ha).unknown (.figure .vmCount) (.inr (hnamed ▸ hname))
    have hsome := h.accounts a ha (hid.symm ▸ hreadable) .vmCount
    cases hnone.symm.trans hsome
  · obtain ⟨a, ha, hid⟩ := hshows.complete d hd
    exact ⟨a, ha, hid, hid ▸ (hshows.accounts a ha).projects⟩
  all_goals
    obtain ⟨hids, hnames⟩ := h
    have hbucket : ∀ a ∈ picture.accounts, ∀ pv ∈ a.projects, ∀ k : SharedFigure,
        k.measured (bucketOf c cloud pv.project.id) =
          tally (k.weight c) (cloud.rowsIn k.source pv.project.id) := by
      intro a ha pv hpv k
      rw [measured_bucketOf]
      split_ifs with hempty
      -- a project without an id has no bucket, and nothing is loose
      · obtain ⟨d, hd, hid, -⟩ := (hshows.accounts a ha).domain
        have hlisted : "" ∈ cloud.listedIds d.id := by
          rw [PanelCloud.listedIds, hid, ← (hshows.accounts a ha).projects, List.map_map]
          exact List.mem_map.2 ⟨pv, hpv, hempty⟩
        have hloose := hids.resolve_left fun hnone => hnone d hd hlisted
        rw [hempty, (nothingLoose_iff c).1 hloose k]
      · rfl
  · intro a ha pv hpv k
    rw [hproject a ha pv hpv, hbucket a ha pv hpv]
  · -- the projects of an account make up what is measured for it
    intro a ha hreadable k
    obtain ⟨d, hd, hid, -⟩ := (hshows.accounts a ha).domain
    obtain ⟨entry, hentry, hname⟩ := Option.map_eq_some_iff.1 (hshows.accounts a ha).named
    have hnot := hnames d hd (hid.symm ▸ hreadable) entry (hid ▸ hentry)
    rw [haccount a ha (hname ▸ hnot), ← tally_rowsIn_projects honce (hshows.accounts a ha) k.source,
      tally_congr fun pv hpv => hbucket a ha pv hpv k]

end Agreement

/-- A directory with a project whose id is missing, and a machine that has no project. -/
def idMissing : PanelCloud :=
  { partlyRead with
    volumes := .ok []
    vms := .ok [⟨some "p1", "active", 4, 8192⟩, ⟨none, "active", 2, 4096⟩]
    projectDetails := fun a => .ok (if a = "d1" then
      [⟨"p1", "main", none, true, false⟩, ⟨"", "nameless", none, true, false⟩] else []) }

/-- The panel shows the machine in that project, and the measurement nowhere. -/
theorem loose_machine_shown : ∃ picture, buildPicture .ascii idMissing = .ok picture ∧
    ¬ SameFootprint .ascii idMissing [⟨"d1", "Acme"⟩, ⟨"d2", "Umbrella"⟩] picture := by
  have hplay : (buildPicture .ascii idMissing).toOption.map (fun picture =>
      picture.accounts.map fun a => a.projects.map fun pv =>
        (pv.project.id, pv.usage.figure .vmCount)) =
        some [[("p1", some 1), ("", some 1)], []] := by decide +kernel
  have hmeasured : (bucketOf .ascii idMissing "").vmsTotal = 0 := by decide +kernel
  cases hok : buildPicture .ascii idMissing with
  | error e =>
    rw [hok] at hplay
    cases hplay
  | ok picture =>
    refine ⟨picture, rfl, fun h => ?_⟩
    rw [hok] at hplay
    have hviews : (picture.accounts.map fun a =>
        a.projects.map fun pv => (pv.project.id, pv.usage.figure .vmCount)) =
          [[("p1", some 1), ("", some 1)], []] := Option.some.inj hplay
    have hmem : [("p1", some 1), ("", some 1)] ∈ picture.accounts.map fun a =>
        a.projects.map fun pv => (pv.project.id, pv.usage.figure .vmCount) := by simp [hviews]
    obtain ⟨a, ha, hprojects⟩ := List.mem_map.1 hmem
    have hlast : ("", some 1) ∈ a.projects.map fun pv =>
      (pv.project.id, pv.usage.figure .vmCount) := by
      simp [hprojects]
    obtain ⟨pv, hpv, heq⟩ := List.mem_map.1 hlast
    obtain ⟨hid, hfigure⟩ := Prod.mk.inj heq
    have hsame := h.projects a ha pv hpv .vmCount
    rw [hid] at hsame
    have : some 1 = some 0 := hfigure.symm.trans (hsame.trans (congrArg some hmeasured))
    cases this

/-- Two accounts that are read, one project and all lists. -/
def wholeRead : PanelCloud :=
  { idMissing with
    projectDetails := fun a => .ok (if a = "d1" then [⟨"p1", "main", none, true, false⟩] else []) }

theorem same_footprint_iff_wholeRead :
    ∃ picture, buildPicture .ascii wholeRead = .ok picture ∧
      (SameFootprint .ascii wholeRead [⟨"d1", "Acme"⟩, ⟨"d2", "Umbrella"⟩] picture ↔
        ((∀ d ∈ [⟨"d1", "Acme"⟩, ⟨"d2", "Umbrella"⟩], "" ∉ wholeRead.listedIds (Domain.id d)) ∨
          NothingLoose wholeRead) ∧
          ∀ d ∈ [⟨"d1", "Acme"⟩, ⟨"d2", "Umbrella"⟩], ¬ wholeRead.ProjectsRefused (Domain.id d) →
            ∀ entry,
            (blankAccounts [⟨"d1", "Acme"⟩, ⟨"d2", "Umbrella"⟩]).get? d.id = some entry →
              ¬ wholeRead.NameRefused [⟨"d1", "Acme"⟩, ⟨"d2", "Umbrella"⟩] entry.name) := by
  have hdomains : wholeRead.listDomains = .ok [⟨"d1", "Acme"⟩, ⟨"d2", "Umbrella"⟩] := by
    simp [Cloud.listDomains, DirectoryEntry.domain, wholeRead, idMissing, partlyRead, Except.map]
  have honce : wholeRead.ListedOnce [⟨"d1", "Acme"⟩, ⟨"d2", "Umbrella"⟩] := by
    unfold PanelCloud.ListedOnce
    decide +kernel
  exact same_footprint_iff rfl hdomains rfl rfl rfl rfl honce

end OpenCloud
