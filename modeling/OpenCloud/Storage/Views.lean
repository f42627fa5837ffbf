import OpenCloud.Accounts.Backups
import OpenCloud.Lib.Tallies
import OpenCloud.Networking.Overview

/-!
# The storage pages

The volumes of a session's project with the machines they serve, and its snapshots: those of
volumes, each with the name and the medium of the volume it came from, and those of machines.  An
account that is set not to count its scheduled backups is shown neither, and the totals are of what
is shown.

The lists of a page are read at the same time; what became of them is a parameter.

## Main results

* `volumeListGet_eq_ok`, `snapshotListGet_eq_ok` : what the pages hold.
-/

namespace OpenCloud

/-! ### The lists -/

/-- A row of `/api/v3/volumes`, the whole of it. -/
structure RawStorageVolume extends RawVolume where
  id : Option String
  name : Option String
  state : Option String
  health : Option String
  attachmentStatus : Option String
  guestDeviceName : Option String
  accessMode : Option String
  createdAt : Option String
  /-- `permissions`. -/
  update : Bool
  delete : Bool

/-- A row of `list_volumes`, the whole of it. -/
structure StorageVolume extends ListedVolume where
  id : String
  name : String
  state : String
  health : String
  attachmentStatus : String
  guestDevice : Option String
  accessMode : Option String
  createdAt : Option String
  canUpdate : Bool
  canDelete : Bool

/-- `list_volumes`, on one row, the types having been read. -/
def normalizeStorageVolume (types : Dict String VolumeType) (raw : RawStorageVolume) :
    StorageVolume :=
  { labelVolumeMedia types (normalizeVolume raw.toRawVolume) with
    id := raw.id.getD ""
    name := raw.name.getD ""
    state := orElse (raw.state.getD "") "unknown"
    health := orElse (raw.health.getD "") "unknown"
    attachmentStatus := orElse (raw.attachmentStatus.getD "") "available"
    guestDevice := raw.guestDeviceName
    accessMode := raw.accessMode
    createdAt := raw.createdAt
    canUpdate := raw.update
    canDelete := raw.delete }

/-- A row of `/api/v4/snapshots`, the whole of it. -/
structure RawVolumeSnapshot extends RawSnapshot where
  id : Option String
  name : Option String
  description : Option String
  state : Option String
  health : Option String
  sourceVolumeId : Option String
  createdAt : Option String

/-- A row of `list_volume_snapshots`, the whole of it. -/
structure ListedSnapshot extends VolumeSnapshot where
  id : String
  name : String
  description : Option String
  state : String
  health : String
  sourceVolumeId : Option String
  createdAt : Option String

/-- `list_volume_snapshots`, on one row. -/
def normalizeVolumeSnapshot (raw : RawVolumeSnapshot) : ListedSnapshot :=
  { normalizeSnapshot raw.toRawSnapshot with
    id := raw.id.getD ""
    name := raw.name.getD ""
    description := keep raw.description
    state := orElse (raw.state.getD "") "unknown"
    health := orElse (raw.health.getD "") "unknown"
    sourceVolumeId := keep raw.sourceVolumeId
    createdAt := raw.createdAt }

/-- A row of `/api/v2/compute/vm-snapshots`. -/
structure RawVmSnapshot where
  id : Option String
  name : Option String
  description : Option String
  status : Option String
  progress : Option ℤ
  numberOfVolumes : Option ℕ
  sourceVmId : Option String
  sourceVmName : Option String
  enableIncrementalBackup : Bool
  protectionGroupName : Option String
  createdAt : Option String
  projectId : Option String

/-- A row of `list_vm_snapshots`. -/
structure VmSnapshot where
  id : String
  name : String
  description : Option String
  status : String
  progress : Option ℤ
  volumes : ℕ
  sourceVmId : Option String
  sourceVmName : String
  incremental : Bool
  protectionGroup : Option String
  createdAt : Option String
  projectId : Option String

/-- `list_vm_snapshots`, on one row. -/
def normalizeVmSnapshot (raw : RawVmSnapshot) : VmSnapshot where
  id := raw.id.getD ""
  name := raw.name.getD ""
  description := keep raw.description
  status := orElse (raw.status.getD "") "unknown"
  progress := raw.progress
  volumes := raw.numberOfVolumes.getD 0
  sourceVmId := keep raw.sourceVmId
  sourceVmName := raw.sourceVmName.getD ""
  incremental := raw.enableIncrementalBackup
  protectionGroup := raw.protectionGroupName
  createdAt := raw.createdAt
  projectId := keep raw.projectId

/-! ### The volumes -/

/-- A volume, with the name of its machine. -/
structure ShownVolume extends StorageVolume where
  attachedToName : String

/-- What `VolumeListView` answers. -/
structure VolumePage where
  volumes : List ShownVolume
  total : ℕ
  totalGiB : ℕ
  attached : ℕ
  unattached : ℕ
  media : List MediaTotal

/-- `VolumeListView.get`, from what became of the two lists on. -/
def volumeListGet (volumes : Except ZadaraError (List StorageVolume))
    (machines : Except ZadaraError (List ListedVm)) :
    Except AppError VolumePage :=
  match volumes with
  | .error err =>
    if err.code = "forbidden" then
      .error ⟨"Your account cannot list volumes in this project.", "forbidden", 403⟩
    else .error ⟨"Failed to load volumes", err.code, 502⟩
  | .ok volumes =>
    let names := nameIndex (fun vm : ListedVm => vm.id) (fun vm => vm.name) (valueOrNone machines)
    let attached := volumes.countP fun v => v.attachmentStatus = "in-use"
    .ok {
      volumes := volumes.map fun v => { v with attachedToName := shownName names v.attachedToId }
      total := volumes.length
      totalGiB := tally (fun v => v.sizeGiB) volumes
      attached := attached
      unattached := volumes.length - attached
      media := mediaTotals (volumes.map fun v => v.toVolume) }

/-! ### The snapshots -/

/-- What became of the lists of the page. -/
structure SnapshotReads where
  volumes : Except ZadaraError (List ListedSnapshot)
  machines : Except ZadaraError (List VmSnapshot)
  /-- The volumes that the snapshots name. -/
  sources : Except ZadaraError (List StorageVolume)

/-- A snapshot of a volume, with what is known of the volume. -/
structure ShownSnapshot extends ListedSnapshot where
  sourceVolumeName : String
  media : String
  volumeType : String

/-- What `SnapshotListView` answers, without the counts that are lengths of its lists. -/
structure SnapshotPage where
  volumeSnapshots : List ShownSnapshot
  vmSnapshots : List VmSnapshot
  volumeSnapshotGiB : ℕ
  unavailable : List String

/-- The code of a list that was refused. -/
def refusedCode {α : Type} : Except ZadaraError α → Option String
  | .ok _ => none
  | .error err => keep (some err.code)

/-- `not (hidden and backups.is_backup(s))`, of a snapshot of a volume. -/
def ListedSnapshot.shown (withBackups : Bool) (s : ListedSnapshot) : Bool :=
  withBackups || !isBackup s.protectionGroupId none

/-- The same of a snapshot of a machine. -/
def VmSnapshot.shown (withBackups : Bool) (s : VmSnapshot) : Bool :=
  withBackups || !isBackup none s.protectionGroup

/-- A snapshot is labelled with the volume it came from, where that still exists. -/
def showSnapshot (sources : Dict String StorageVolume) (s : ListedSnapshot) : ShownSnapshot :=
  match sources.get? (s.sourceVolumeId.getD "") with
  | some source =>
    { s with
      sourceVolumeName := source.name, media := source.media, volumeType := source.volumeType }
  | none => { s with sourceVolumeName := "", media := "", volumeType := "" }

/-- `SnapshotListView.get`, from what became of its lists on. -/
def snapshotListGet (withBackups : Bool) (reads : SnapshotReads) : Except AppError SnapshotPage :=
  match refusedCode reads.volumes, refusedCode reads.machines with
  | some code, some _ => .error ⟨"Failed to load snapshots", code, 502⟩
  | volumeError, vmError =>
    let volumeSnapshots := (valueOrNone reads.volumes).filter (ListedSnapshot.shown withBackups)
    let vmSnapshots := (valueOrNone reads.machines).filter (VmSnapshot.shown withBackups)
    let sources := (valueOrNone reads.sources).foldl
      (fun (sources : Dict String StorageVolume) v => sources.set v.id v) []
    .ok {
      volumeSnapshots := volumeSnapshots.map (showSnapshot sources)
      vmSnapshots := vmSnapshots
      volumeSnapshotGiB := tally (fun s => s.sizeGiB) volumeSnapshots
      unavailable := (if volumeError.isSome then ["volumes"] else []) ++ if vmError.isSome then
        ["machines"] else [] }

section

variable {withBackups : Bool} {reads : SnapshotReads} {page : SnapshotPage}
  {volumePage : VolumePage} {volumes : Except ZadaraError (List StorageVolume)}
    {machines : Except ZadaraError (List ListedVm)}

theorem toListedSnapshot_showSnapshot (sources : Dict String StorageVolume) (s : ListedSnapshot) :
    (showSnapshot sources s).toListedSnapshot = s := by
  unfold showSnapshot
  split <;> rfl

/-- The volumes of a page that is answered. -/
theorem volumeListGet_eq_ok (h : volumeListGet volumes machines = .ok volumePage) :
    ∃ rows, volumes = .ok rows ∧
    volumePage.volumes.map ShownVolume.toStorageVolume = rows ∧
    volumePage.totalGiB = tally (fun v => v.sizeGiB) rows ∧
    volumePage.media = mediaTotals (rows.map fun v => v.toVolume) := by
  unfold volumeListGet at h
  cases volumes with
  | error err =>
    dsimp only at h
    split_ifs at h
  | ok rows =>
    obtain rfl := Except.ok.inj h
    refine ⟨rows, rfl, ?_, rfl, rfl⟩
    simp [Function.comp_def]

/-- The snapshots of a page that is answered. -/
theorem snapshotListGet_eq_ok (h : snapshotListGet withBackups reads = .ok page) :
    page.volumeSnapshots.map ShownSnapshot.toListedSnapshot =
        (valueOrNone reads.volumes).filter (ListedSnapshot.shown withBackups) ∧
      page.vmSnapshots = (valueOrNone reads.machines).filter (VmSnapshot.shown withBackups) ∧
      page.volumeSnapshotGiB =
        tally (fun s => s.sizeGiB)
          ((valueOrNone reads.volumes).filter (ListedSnapshot.shown withBackups)) := by
  unfold snapshotListGet at h
  split at h
  · cases h
  · obtain rfl := Except.ok.inj h
    refine ⟨?_, rfl, rfl⟩
    rw [List.map_map]
    exact (List.map_congr_left fun s _ => toListedSnapshot_showSnapshot _ s).trans (List.map_id _)

end

end OpenCloud
