import OpenCloud.Billing.Database

/-!
# Taking the daily measurement

One pass covers the whole cluster: four lists, grouped by project.  Each list is optional; a
resource with no project is not counted anywhere.  `capture` writes one row per project for the
given day, and running a day again overwrites it.

## Main results

* `getD_measureCluster` : the measurement of a project is what the loops make of its own resources.
* `mem_capture` : after a capture the table holds the rows written and, of the rows before, those of
  other days and of projects that hold nothing now.
-/

namespace OpenCloud

namespace Measurements

/-- `_blank()`. -/
def blank : Measurements := ⟨0, 0, 0, 0, 0, 0, 0, 0, 0, 0⟩

/-- Compute is counted only while the machine runs. -/
def addVm (c : Casing) (vm : Vm) (m : Measurements) : Measurements :=
  let m := { m with vmsTotal := m.vmsTotal + 1 }
  if c.lower vm.status ∈ ["active", "running"] then
    { m with
      vmsRunning := m.vmsRunning + 1, vcpus := m.vcpus + vm.vcpus, ramMb := m.ramMb + vm.ramMB }
  else m

def addVolume (volume : Volume) (m : Measurements) : Measurements :=
  if volume.media = "SSD" then { m with ssdGib := m.ssdGib + volume.sizeGiB }
  else if volume.media = "HDD" then { m with hddGib := m.hddGib + volume.sizeGiB }
  else { m with unlabelledGib := m.unlabelledGib + volume.sizeGiB }

def addElasticIp (_ : ElasticIp) (m : Measurements) : Measurements :=
  { m with elasticIps := m.elasticIps + 1 }

/-- Scheduled backups are measured for every account; the setting is applied when pricing. -/
def addSnapshot (snapshot : VolumeSnapshot) (m : Measurements) : Measurements :=
  let m := { m with snapshotGib := m.snapshotGib + snapshot.sizeGiB }
  if isBackup snapshot.protectionGroupId none then
    { m with backupSnapshotGib := m.backupSnapshotGib + snapshot.sizeGiB }
  else m

end Measurements

/-- What a list holds; one that is unavailable counts as empty. -/
def source {α : Type} : Except ZadaraError (List α) → List α
  | .ok items => items
  | .error _ => []

/-- The key of the bucket of a resource; one with no project has no bucket. -/
def bucket (projectId : Option String) : Option String :=
  if truthy projectId then projectId else none

theorem bucket_eq_some {projectId : Option String} {p : String} (hp : p ≠ "") :
    bucket projectId = some p ↔ projectId = some p := by
  cases projectId with
  | none => simp [bucket, truthy]
  | some q =>
    by_cases hq : q = ""
    · subst hq; simpa [bucket, truthy] using Ne.symm hp
    · simp [bucket, truthy, hq]

section MeasureCluster

variable (c : Casing) (lists : CloudLists)

/-- project → the day's measurements, for every project holding anything. -/
def measureCluster : Dict String Measurements :=
  let buckets := Dict.collect (fun vm => bucket vm.projectId) .blank (Measurements.addVm c) []
    (source lists.vms)
  let buckets := Dict.collect (fun v => bucket v.projectId) .blank Measurements.addVolume buckets
    (source lists.volumes)
  let buckets := Dict.collect (fun e => bucket e.projectId) .blank Measurements.addElasticIp buckets
    (source lists.elasticIps)
  Dict.collect (fun s => bucket s.projectId) .blank Measurements.addSnapshot buckets
    (source lists.volumeSnapshots)

theorem nodup_keys_measureCluster : (measureCluster c lists).keys.Nodup :=
  Dict.nodup_keys_collect (Dict.nodup_keys_collect (Dict.nodup_keys_collect
    (Dict.nodup_keys_collect (d := []) List.nodup_nil _) _) _) _

/-- The measurement of a project is what the loops make of its own resources. -/
theorem getD_measureCluster {p : String} (hp : p ≠ "") :
    ((measureCluster c lists).get? p).getD .blank =
      ((source lists.volumeSnapshots).filter fun s => s.projectId = some p).foldl
        (fun m s => m.addSnapshot s) (((source lists.elasticIps).filter
          fun e => e.projectId = some p).foldl (fun m e => m.addElasticIp e) (((source
            lists.volumes).filter fun v => v.projectId = some p).foldl (fun m v => m.addVolume v)
              (((source lists.vms).filter fun vm => vm.projectId = some p).foldl
                (fun m vm => m.addVm c vm) .blank))) := by
  simp only [measureCluster, Dict.getD_collect, bucket_eq_some hp, Dict.get?, Option.getD_none]

end MeasureCluster

/-- An entry of the directory of projects. -/
structure Owner where
  account : String
  domainId : String
  name : String
  deriving DecidableEq

/-- project → its account, across every account; the projects of an account that cannot be read
are left out. -/
def projectDirectory (cloud : Cloud) : Except ZadaraError (Dict String Owner) :=
  cloud.listDomains.map fun domains => domains.foldl
    (fun directory domain => match cloud.listDomainProjects domain.id with
      | .error _ => directory
      | .ok projects =>
        projects.foldl (fun d p => d.set p.1 ⟨domain.name, domain.id, p.2⟩) directory) []

/-- The row of one project and day.  A project whose owner is not known is recorded without an
account. -/
def usageRow (now : Instant) (takenOn : Date) (directory : Dict String Owner) (projectId : String)
    (values : Measurements) : UsageSnapshot :=
  let known := (directory.get? projectId).getD ⟨"", "", ""⟩
  { values with
    takenOn := takenOn, takenAt := now, account := known.account, domainId := known.domainId
    projectId := projectId, projectName := known.name }

/-- What `capture` answers. -/
structure CaptureReport where
  date : String
  projects : ℕ
  unattributed : ℕ
  deriving DecidableEq

/-- Write one row per project for the given day. -/
def capture (c : Casing) (cloud : Cloud) (now : Instant) (takenOn : Date) (table : SnapshotTable) :
    Except ZadaraError (SnapshotTable × CaptureReport) := do
  let _token ← cloud.serviceToken
  let measurements := measureCluster c cloud.toCloudLists
  let directory ← projectDirectory cloud
  return (measurements.foldl
      (fun table e => table.updateOrCreate (usageRow now takenOn directory e.1 e.2)) table,
    { date := takenOn.toStr
      projects := measurements.length
      unattributed := measurements.countP fun e => (directory.get? e.1).isNone })

/-! ### What a capture leaves in the table -/

section Capture

variable {c : Casing} {cloud : Cloud} {now : Instant} {takenOn : Date}
  {table table' : SnapshotTable} {report : CaptureReport}

theorem capture_eq_ok (h : capture c cloud now takenOn table = .ok (table', report)) :
    ∃ directory, projectDirectory cloud = .ok directory ∧
      table' = (measureCluster c cloud.toCloudLists).foldl
        (fun table e => table.updateOrCreate (usageRow now takenOn directory e.1 e.2)) table := by
  unfold capture at h
  cases htoken : cloud.serviceToken with
  | error e => simp [htoken, bind, Except.bind] at h
  | ok token =>
    cases hdir : projectDirectory cloud with
    | error e => simp [htoken, hdir, bind, Except.bind] at h
    | ok directory =>
      refine ⟨directory, rfl, ?_⟩
      simp only [htoken, hdir, bind, Except.bind, pure, Except.pure, Except.ok.injEq,
        Prod.mk.injEq] at h
      exact h.1.symm

theorem mem_foldl_updateOrCreate {directory : Dict String Owner} {row : UsageSnapshot}
    {measured : Dict String Measurements} (hkeys : measured.keys.Nodup) :
    row ∈ (measured.foldl (fun table e =>
        table.updateOrCreate (usageRow now takenOn directory e.1 e.2)) table).rows ↔
      (∃ e ∈ measured, row = usageRow now takenOn directory e.1 e.2) ∨
        (row ∈ table.rows ∧ ¬ (row.takenOn = takenOn ∧ row.projectId ∈ measured.keys)) := by
  induction measured generalizing table with
  | nil => simp [Dict.keys]
  | cons e measured ih =>
    obtain ⟨he, hkeys⟩ := List.nodup_cons.1 hkeys
    rw [List.foldl_cons, ih hkeys, SnapshotTable.mem_updateOrCreate, List.exists_mem_cons_iff]
    have hkey : SnapshotTable.SameKey (usageRow now takenOn directory e.1 e.2) row ↔
        row.projectId = e.1 ∧ row.takenOn = takenOn := Iff.rfl
    have hne : row = usageRow now takenOn directory e.1 e.2 →
      row.projectId ∉ Dict.keys measured := by
      rintro rfl
      exact he
    simp only [Dict.keys, List.map_cons, List.mem_cons] at hne ⊢
    rw [hkey]
    -- what is left is propositional
    generalize (∃ e ∈ measured, row = usageRow now takenOn directory e.1 e.2) = written
    generalize (row.projectId ∈ measured.map Prod.fst) = later at hne ⊢
    by_cases hrow : row = usageRow now takenOn directory e.1 e.2
    · simp [hrow, hne hrow]
    · simp only [hrow, false_or]
      tauto

/-- After a capture the table holds the rows written and, of the rows before, those of other days
and of projects that hold nothing now. -/
theorem mem_capture {directory : Dict String Owner} {row : UsageSnapshot}
    (h : capture c cloud now takenOn table = .ok (table', report))
    (hdir : projectDirectory cloud = .ok directory) :
    row ∈ table'.rows ↔
      (∃ e ∈ measureCluster c cloud.toCloudLists, row = usageRow now takenOn directory e.1 e.2) ∨
        (row ∈ table.rows ∧ ¬ (row.takenOn = takenOn ∧
          row.projectId ∈ (measureCluster c cloud.toCloudLists).keys)) := by
  obtain ⟨directory', hdir', rfl⟩ := capture_eq_ok h
  obtain rfl : directory = directory' := Except.ok.inj (hdir.symm.trans hdir')
  exact mem_foldl_updateOrCreate (nodup_keys_measureCluster c _)

end Capture

end OpenCloud
