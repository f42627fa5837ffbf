import OpenCloud.Lib.Tallies
import OpenCloud.Billing.Collector

/-!
# What a measurement says

The footprint of a project is what the lists that answered hold of it, figure by figure; its owner
is a domain whose project list was read and names it.  The loops of `measure_cluster` and of
`project_directory` compute these.

## Main results

* `measureCluster_eq_footprint` : a project's bucket is its footprint.
* `mem_keys_measureCluster` : the projects with a bucket are those that hold something.
* `get?_projectDirectory` : the directory knows the projects that have an owner, and gives each an
  owner.
-/

namespace OpenCloud

/-- A machine that runs. -/
def Vm.Running (c : Casing) (vm : Vm) : Prop := c.lower vm.status ∈ ["active", "running"]

instance (c : Casing) : DecidablePred (Vm.Running c) := fun _ => inferInstanceAs (Decidable (_ ∈ _))

/-- A volume whose media is neither of the two that are told apart. -/
def Volume.Unlabelled (volume : Volume) : Prop := volume.media ≠ "SSD" ∧ volume.media ≠ "HDD"

instance : DecidablePred Volume.Unlabelled := fun _ => inferInstanceAs (Decidable (_ ∧ _))

/-- A copy that a protection group took. -/
def VolumeSnapshot.Backup (snapshot : VolumeSnapshot) : Prop :=
  isBackup snapshot.protectionGroupId none = true

instance : DecidablePred VolumeSnapshot.Backup := fun _ => inferInstanceAs (Decidable (_ = true))

/-- What the lists say of a project. -/
def footprint (c : Casing) (lists : CloudLists) (p : String) : Measurements :=
  let vms := (source lists.vms).filter fun vm => vm.projectId = some p
  let running := vms.filter fun vm => vm.Running c
  let volumes := (source lists.volumes).filter fun v => v.projectId = some p
  let snapshots := (source lists.volumeSnapshots).filter fun s => s.projectId = some p
  { vmsTotal := vms.length
    vmsRunning := running.length
    vcpus := tally Vm.vcpus running
    ramMb := tally Vm.ramMB running
    ssdGib := tally Volume.sizeGiB (volumes.filter fun v => v.media = "SSD")
    hddGib := tally Volume.sizeGiB (volumes.filter fun v => v.media = "HDD")
    unlabelledGib := tally Volume.sizeGiB (volumes.filter fun v => v.Unlabelled)
    elasticIps := ((source lists.elasticIps).filter fun e => e.projectId = some p).length
    snapshotGib := tally VolumeSnapshot.sizeGiB snapshots
    backupSnapshotGib := tally VolumeSnapshot.sizeGiB (snapshots.filter fun s => s.Backup) }

namespace Measurements

variable {c : Casing} {m : Measurements}

theorem foldl_addVm {vms : List Vm} : vms.foldl (fun m vm => m.addVm c vm) m =
    { m with
      vmsTotal := m.vmsTotal + vms.length
      vmsRunning := m.vmsRunning + (vms.filter fun vm => vm.Running c).length
      vcpus := m.vcpus + tally Vm.vcpus (vms.filter fun vm => vm.Running c)
      ramMb := m.ramMb + tally Vm.ramMB (vms.filter fun vm => vm.Running c) } := by
  induction vms generalizing m with
  | nil => rfl
  | cons vm vms ih =>
    rw [List.foldl_cons, ih]
    by_cases hrun : vm.Running c
    · rw [List.filter_cons_of_pos (by simpa using hrun)]
      simp [addVm, show c.lower vm.status ∈ ["active", "running"] from hrun]
      omega
    · rw [List.filter_cons_of_neg (by simpa using hrun)]
      simp [addVm, show c.lower vm.status ∉ ["active", "running"] from hrun]
      omega

theorem foldl_addVolume {volumes : List Volume} : volumes.foldl (fun m v => m.addVolume v) m =
    { m with
      ssdGib := m.ssdGib + tally Volume.sizeGiB (volumes.filter fun v => v.media = "SSD")
      hddGib := m.hddGib + tally Volume.sizeGiB (volumes.filter fun v => v.media = "HDD")
      unlabelledGib :=
        m.unlabelledGib + tally Volume.sizeGiB (volumes.filter fun v => v.Unlabelled) } := by
  induction volumes generalizing m with
  | nil => rfl
  | cons v volumes ih =>
    rw [List.foldl_cons, ih]
    by_cases hssd : v.media = "SSD"
    · simp [addVolume, Volume.Unlabelled, hssd, Nat.add_assoc]
    · by_cases hhdd : v.media = "HDD"
      · simp [addVolume, Volume.Unlabelled, hhdd, Nat.add_assoc]
      · simp [addVolume, Volume.Unlabelled, hssd, hhdd, Nat.add_assoc]

theorem foldl_addElasticIp {eips : List ElasticIp} : eips.foldl (fun m e => m.addElasticIp e) m =
    { m with elasticIps := m.elasticIps + eips.length } := by
  induction eips generalizing m with
  | nil => rfl
  | cons e eips ih =>
    rw [List.foldl_cons, ih]
    simp [addElasticIp]
    omega

theorem foldl_addSnapshot {snapshots : List VolumeSnapshot} :
    snapshots.foldl (fun m s => m.addSnapshot s) m =
      { m with
        snapshotGib := m.snapshotGib + tally VolumeSnapshot.sizeGiB snapshots
        backupSnapshotGib := m.backupSnapshotGib +
          tally VolumeSnapshot.sizeGiB (snapshots.filter fun s => s.Backup) } := by
  induction snapshots generalizing m with
  | nil => rfl
  | cons s snapshots ih =>
    rw [List.foldl_cons, ih]
    by_cases hbackup : s.Backup
    · rw [List.filter_cons_of_pos (by simpa using hbackup)]
      simp [addSnapshot, show isBackup s.protectionGroupId none = true from hbackup, Nat.add_assoc]
    · rw [List.filter_cons_of_neg (by simpa using hbackup)]
      have hno : isBackup s.protectionGroupId none = false := by
        simpa [VolumeSnapshot.Backup] using hbackup
      simp [addSnapshot, hno, Nat.add_assoc]

end Measurements

section MeasureCluster

variable {c : Casing} {lists : CloudLists} {p : String}

/-- A project's bucket is its footprint; one without a bucket has the footprint of nothing. -/
theorem measureCluster_eq_footprint (hp : p ≠ "") :
    ((measureCluster c lists).get? p).getD .blank = footprint c lists p := by
  rw [getD_measureCluster c lists hp, Measurements.foldl_addVm, Measurements.foldl_addVolume,
    Measurements.foldl_addElasticIp, Measurements.foldl_addSnapshot]
  simp [Measurements.blank, footprint]

/-- The project holds something in a list that answered. -/
def Holds (lists : CloudLists) (p : String) : Prop :=
  p ≠ "" ∧ ((∃ vm ∈ source lists.vms, vm.projectId = some p) ∨
    (∃ v ∈ source lists.volumes, v.projectId = some p) ∨
    (∃ e ∈ source lists.elasticIps, e.projectId = some p) ∨
    ∃ s ∈ source lists.volumeSnapshots, s.projectId = some p)

instance : Decidable (Holds lists p) := inferInstanceAs (Decidable (_ ∧ _))

theorem bucket_ne_empty {projectId : Option String} : bucket projectId ≠ some "" := by
  cases projectId with
  | none => simp [bucket, truthy]
  | some q =>
    by_cases hq : q = ""
    · simp [bucket, truthy, hq]
    · simp [bucket, truthy, hq]

/-- The projects with a bucket are those that hold something. -/
theorem mem_keys_measureCluster : p ∈ (measureCluster c lists).keys ↔ Holds lists p := by
  have hkeys : p ∈ (measureCluster c lists).keys ↔ ((measureCluster c lists).get? p).isSome := by
    rw [Option.isSome_iff_ne_none, ne_eq, Dict.get?_eq_none_iff, not_not]
  rw [hkeys, measureCluster]
  simp only [Dict.isSome_collect]
  by_cases hp : p = ""
  · subst hp
    simp [Dict.get?, bucket_ne_empty, Holds]
  · simp only [bucket_eq_some hp, Dict.get?, Option.isSome_none, Bool.false_eq_true, false_or,
      Holds, hp, ne_eq, not_false_eq_true, true_and, or_assoc]

theorem mem_measureCluster {values : Measurements} :
    (p, values) ∈ measureCluster c lists ↔ Holds lists p ∧ values = footprint c lists p := by
  have hnodup := nodup_keys_measureCluster c lists
  rw [← mem_keys_measureCluster (c := c)]
  constructor
  · intro hmem
    have hp : p ∈ (measureCluster c lists).keys := List.mem_map_of_mem hmem
    refine ⟨hp, ?_⟩
    have hget := (Dict.mem_iff_get? hnodup).1 hmem
    rw [← measureCluster_eq_footprint (mem_keys_measureCluster.1 hp).1, hget]
    rfl
  · rintro ⟨hp, rfl⟩
    obtain ⟨⟨p, values⟩, hmem, rfl⟩ := List.mem_map.1 hp
    have hget := (Dict.mem_iff_get? hnodup).1 hmem
    rw [← measureCluster_eq_footprint (mem_keys_measureCluster.1 hp).1, hget]
    exact hmem

end MeasureCluster

/-! ### Owners -/

/-- The domain's project list was read and names the project, as `owner` has it. -/
def Names (cloud : Cloud) (domain : Domain) (p : String) (owner : Owner) : Prop :=
  ∃ projects, cloud.listDomainProjects domain.id = .ok projects ∧
    (projects.get? p).map (Owner.mk domain.name domain.id) = some owner

/-- A listed domain names the project. -/
def OwnedBy (cloud : Cloud) (p : String) (owner : Owner) : Prop :=
  ∃ domains, cloud.listDomains = .ok domains ∧ ∃ domain ∈ domains, Names cloud domain p owner

section Directory

variable {cloud : Cloud} {directory : Dict String Owner} {p : String}

theorem id_ne_empty_of_listDomains {domains : List Domain} {domain : Domain}
    (h : cloud.listDomains = .ok domains) (hdomain : domain ∈ domains) : domain.id ≠ "" := by
  unfold Cloud.listDomains at h
  cases hraw : cloud.directory with
  | error e => simp [hraw, Except.map] at h
  | ok entries =>
    obtain rfl : entries.filterMap DirectoryEntry.domain = domains := by
      simpa [hraw, Except.map] using h
    obtain ⟨entry, -, hentry⟩ := List.mem_filterMap.1 hdomain
    exact DirectoryEntry.id_ne_empty_of_domain hentry

theorem nodup_keys_listDomainProjects {domainId : String} {projects : Dict String String}
    (h : cloud.listDomainProjects domainId = .ok projects) : projects.keys.Nodup := by
  unfold Cloud.listDomainProjects at h
  cases hraw : cloud.projects domainId with
  | error e => simp [hraw, Except.map] at h
  | ok entries =>
    obtain rfl : _ = projects := by simpa [hraw, Except.map] using h
    exact @Dict.nodup_keys_foldl_set _ _ _ _ [] _ _ List.nodup_nil _

/-- One turn of the loop over the domains. -/
def addProjects (cloud : Cloud) (directory : Dict String Owner) (domain : Domain) :
    Dict String Owner :=
  match cloud.listDomainProjects domain.id with
  | .error _ => directory
  | .ok projects => projects.foldl (fun d p => d.set p.1 ⟨domain.name, domain.id, p.2⟩) directory

theorem projectDirectory_eq :
    projectDirectory cloud = cloud.listDomains.map fun domains =>
      domains.foldl (addProjects cloud) [] := rfl

/-- The loop knows what the domains it has seen name. -/
theorem get?_foldl_addProjects (domains : List Domain) :
    (∀ owner, Dict.get? (domains.foldl (addProjects cloud) []) p = some owner →
      ∃ domain ∈ domains, Names cloud domain p owner) ∧
    (Dict.get? (domains.foldl (addProjects cloud) []) p = none →
      ∀ domain ∈ domains, ∀ owner, ¬ Names cloud domain p owner) := by
  induction domains using List.reverseRecOn with
  | nil => simp [Dict.get?]
  | append_singleton domains domain ih =>
    obtain ⟨hsome, hnone⟩ := ih
    rw [List.foldl_append, List.foldl_cons, List.foldl_nil, addProjects]
    cases hread : cloud.listDomainProjects domain.id with
    | error e =>
      have hno : ∀ owner, ¬ Names cloud domain p owner := by
        rintro owner ⟨projects, hok, -⟩
        cases hread.symm.trans hok
      dsimp only
      refine ⟨fun owner howner => ?_, fun hget domain' hdomain' => ?_⟩
      · obtain ⟨domain', hdomain', hnames⟩ := hsome owner howner
        exact ⟨domain', List.mem_append_left _ hdomain', hnames⟩
      · rcases List.mem_append.1 hdomain' with hdomain' | hdomain'
        · exact hnone hget domain' hdomain'
        · rw [List.mem_singleton.1 hdomain']
          exact hno
    | ok projects =>
      have hnames : ∀ owner, Names cloud domain p owner ↔
          (projects.get? p).map (Owner.mk domain.name domain.id) = some owner := by
        intro owner
        constructor
        · rintro ⟨projects', hok, howner⟩
          obtain rfl : projects = projects' := Except.ok.inj (hread.symm.trans hok)
          exact howner
        · exact fun howner => ⟨projects, hread, howner⟩
      simp only [Dict.get?_foldl_set_entries (nodup_keys_listDomainProjects hread)]
      -- the last domain that names the project is the owner that stays
      cases hget : (projects.get? p).map (Owner.mk domain.name domain.id) with
      | some named =>
        refine ⟨fun owner howner => ⟨domain, by simp, ?_⟩, by simp⟩
        rw [hnames, hget]
        exact howner
      | none =>
        refine ⟨fun owner howner => ?_, fun hrest domain' hdomain' => ?_⟩
        · obtain ⟨domain', hdomain', hnames'⟩ := hsome owner howner
          exact ⟨domain', List.mem_append_left _ hdomain', hnames'⟩
        · rcases List.mem_append.1 hdomain' with hdomain' | hdomain'
          · exact hnone hrest domain' hdomain'
          · obtain rfl := List.mem_singleton.1 hdomain'
            intro owner howner
            rw [hnames, hget] at howner
            cases howner

/-- The directory knows the projects that have an owner, and gives each an owner. -/
theorem get?_projectDirectory (h : projectDirectory cloud = .ok directory) :
    (∀ owner, directory.get? p = some owner → OwnedBy cloud p owner) ∧
      (directory.get? p = none → ∀ owner, ¬ OwnedBy cloud p owner) := by
  rw [projectDirectory_eq] at h
  cases hdomains : cloud.listDomains with
  | error e => simp [hdomains, Except.map] at h
  | ok domains =>
    obtain rfl : _ = directory := by simpa [hdomains, Except.map] using h
    obtain ⟨hsome, hnone⟩ := @get?_foldl_addProjects cloud p domains
    refine ⟨fun owner howner => ?_, fun hget owner => ?_⟩
    · exact ⟨domains, hdomains, hsome owner howner⟩
    · rintro ⟨domains', hok, domain, hdomain, hnames⟩
      obtain rfl : domains = domains' := Except.ok.inj (hdomains.symm.trans hok)
      exact hnone hget domain hdomain owner hnames

theorem ne_empty_of_get?_projectDirectory {owner : Owner}
    (h : projectDirectory cloud = .ok directory) (hp : directory.get? p = some owner) : p ≠ "" := by
  obtain ⟨-, -, domain, -, projects, hok, howner⟩ := (get?_projectDirectory h).1 owner hp
  obtain ⟨name, hname, -⟩ := Option.map_eq_some_iff.1 howner
  unfold Cloud.listDomainProjects at hok
  cases hraw : cloud.projects domain.id with
  | error e => simp [hraw, Except.map] at hok
  | ok entries =>
    obtain rfl : _ = projects := by simpa [hraw, Except.map] using hok
    rcases Dict.get?_foldl_set_some hname with hnone | ⟨a, ha, rfl, -⟩
    · cases hnone
    · simpa using (List.mem_filter.1 ha).2

end Directory

end OpenCloud
