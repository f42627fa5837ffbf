import OpenCloud.Billing.Estimate
import OpenCloud.Platform.Attribution
import OpenCloud.Platform.BackupSwitch
import OpenCloud.Storage.Views
import OpenCloud.System.Agreement

/-!
# The storage pages and the bill

The cabinet shows a client the volumes and the snapshots of a project, the estimate prices them, and
the daily measurement stores them for the bill.  The three read the same lists of the cloud and
count them apart; an operator's switch says whether scheduled backups are among them.

## Main results

* `setting_in_journal` : the setting of an account can be read off the operators' journal.
* `storage_pages_agree` : what the pages show is what the estimate prices and the bill counts,
  whatever the switch.
-/

namespace OpenCloud

/-- The journal took the row of the request. -/
def BackupEvent.recorded : BackupEvent → Bool
  | .patch request => request.recorded
  | .pass _ => true

/-- The setting that a row of the journal records for an account. -/
def AdminAction.backupSetting (domainId : String) (action : AdminAction) : Option Bool :=
  if action.action = "account.settings.update" ∧ action.targetId = domainId then
    match action.detail with
    | [("countBackupSnapshots", .flag count)] => some count
    | _ => none
  else none

/-- What the cloud answers to a session. -/
structure SessionLists where
  machines : Except ZadaraError (List ListedVm)
  volumes : Except ZadaraError (List StorageVolume)
  volumeSnapshots : Except ZadaraError (List ListedSnapshot)
  vmSnapshots : Except ZadaraError (List VmSnapshot)
  elasticIps : Except ZadaraError (List ElasticIp)

namespace SessionLists

variable (lists : SessionLists)

/-- What of them is measured. -/
def measured : CloudLists where
  vms := lists.machines.map fun rows => rows.map fun vm => vm.toVm
  volumes := lists.volumes.map fun rows => rows.map fun v => v.toVolume
  elasticIps := lists.elasticIps
  volumeSnapshots := lists.volumeSnapshots.map fun rows => rows.map fun s => s.toVolumeSnapshot

/-- What `VolumeListView` answers. -/
def volumePage : Except AppError VolumePage := volumeListGet lists.volumes lists.machines

/-- What `SnapshotListView` answers to a user of the account. -/
def snapshotPage (settings : List AccountSettings) (domainId : String) :
    Except AppError SnapshotPage :=
  snapshotListGet (countsBackups settings domainId)
    ⟨lists.volumeSnapshots, lists.vmSnapshots, lists.volumes⟩

/-- The token of the session is scoped to the project: the cloud lists the volumes of it alone. -/
structure Scoped (p : String) : Prop where
  volumes : ∀ v ∈ valueOrNone lists.volumes, v.projectId = some p
  volumeSnapshots : ∀ s ∈ valueOrNone lists.volumeSnapshots, s.projectId = some p

end SessionLists

/-- The pages show what the estimate prices and what the bill counts of the measured. -/
structure ShowsAsPriced (lists : SessionLists) (withBackups : Bool) (priced measured : Measurements)
    (volumes : VolumePage) (snapshots : SnapshotPage) : Prop where
  ssd : (mediaOn volumes.media "SSD").totalGiB = priced.ssdGib ∧
    (mediaOn volumes.media "SSD").totalGiB = measured.ssdGib
  hdd : (mediaOn volumes.media "HDD").totalGiB = priced.hddGib ∧
    (mediaOn volumes.media "HDD").totalGiB = measured.hddGib
  /-- The capacity of all volumes, those of another medium among them. -/
  volumeGiB : volumes.totalGiB = priced.ssdGib + priced.hddGib + priced.unlabelledGib ∧
    volumes.totalGiB = measured.ssdGib + measured.hddGib + measured.unlabelledGib
  estimated : snapshots.volumeSnapshotGiB = priced.snapshotGib
  billed : (snapshots.volumeSnapshotGiB : ℤ) = snapshotGib measured withBackups
  /-- A copy is shown unless it is a backup that does not count. -/
  volumeCopies : ∀ s, s ∈ snapshots.volumeSnapshots.map ShownSnapshot.toListedSnapshot ↔
    s ∈ valueOrNone lists.volumeSnapshots ∧
      (withBackups = true ∨ isBackup s.protectionGroupId none = false)
  vmCopies : ∀ s, s ∈ snapshots.vmSnapshots ↔
    s ∈ valueOrNone lists.vmSnapshots ∧
      (withBackups = true ∨ isBackup none s.protectionGroup = false)

/-! ### The journal -/

section

variable {desk : BackupDesk} {events : List BackupEvent} {domainId : String}

theorem backupSetting_action (event : BackupEvent) :
    event.action.bind (AdminAction.backupSetting domainId) =
    if event.recorded then event.sets domainId else none := by
  cases event with
  | pass duration => rfl
  | patch patch =>
    rw [BackupEvent.action, BackupEvent.sets, BackupEvent.recorded]
    cases patch.recorded with
    | false => rfl
    | true =>
      rcases serve_cases patch .fresh with ⟨hmade, -⟩ | ⟨entry, count, hmade, -⟩
      · rw [hmade]
        split_ifs <;> rfl
      · rw [hmade]
        show (if _ ∧ patch.accountId = domainId then _ else _) = _
        simp only [BackupPatch.action, true_and]
        rfl

theorem getLast?_filterMap_ite {α β : Type*} {f : α → Option β} {p : α → Prop} [DecidablePred p]
    {items : List α} (hlast : ∀ a ∈ (items.filter fun a => (f a).isSome).getLast?, p a) :
    (items.filterMap fun a => if p a then f a else none).getLast? =
      (items.filterMap f).getLast? := by
  induction items using List.reverseRecOn with
  | nil => rfl
  | append_singleton items a ih =>
    rw [List.filter_append, List.filter_cons, List.filter_nil] at hlast
    rw [List.filterMap_append, List.filterMap_append, List.filterMap_cons, List.filterMap_cons,
      List.filterMap_nil, List.filterMap_nil]
    cases ha : f a with
    | none =>
      rw [ha] at hlast
      simpa using ih (by simpa using hlast)
    | some b =>
      have hp : p a := hlast a (by simp [ha])
      simp [hp]

/-- The setting in force for an account is that of the last row of the journal on it, if the journal
took the row of the last request that set it. -/
theorem setting_in_journal (hd : domainId ≠ "")
    (hrun : backupSwitch.Run System.Free .fresh events desk)
    (hlast : ∀ event ∈ (events.filter fun event => (event.sets domainId).isSome).getLast?,
      event.recorded = true) :
    countsBackups desk.table.settings domainId =
      ((desk.journal.filterMap (AdminAction.backupSetting domainId)).getLast?).getD true := by
  rw [counts_of_run hd hrun, lastSet, settings_recorded_of_run hrun, List.filterMap_filterMap]
  simp only [backupSetting_action]
  rw [getLast?_filterMap_ite hlast]

end

/-- An operator sets whether the backups of an account count. -/
def acmeSwitched (count recorded : Bool) : BackupEvent :=
  let unread : ShownUsage := ⟨fun _ => none, none⟩
  .patch {
    accountId := "d1"
    email := "ops@example.com"
    role := .owner
    data := .object [("countBackupSnapshots", .bool count)]
    snapshot :=
      .ok ⟨⟨[⟨"d1", "Acme", [], unread⟩], ⟨1, 0, unread⟩, fun _ => none, [], []⟩, 0, 0, false⟩
    recorded := recorded }

theorem exists_run_acmeSwitched : ∃ desk, backupSwitch.Run System.Free .fresh
    [acmeSwitched false true, acmeSwitched true false, .pass 60, acmeSwitched false true] desk :=
  ⟨_, System.Run.of_exec rfl⟩

theorem setting_in_journal_acme : ∃ desk : BackupDesk, desk.journal.length = 2 ∧
    countsBackups desk.table.settings "d1" =
      ((desk.journal.filterMap (AdminAction.backupSetting "d1")).getLast?).getD true := by
  obtain ⟨desk, hrun⟩ := exists_run_acmeSwitched
  refine ⟨desk, ?_, setting_in_journal (by decide) hrun (by decide)⟩
  rw [settings_recorded_of_run hrun]
  rfl

/-! ### The pages -/

theorem foldl_addLiveSnapshot {withBackups : Bool} {snapshots : List VolumeSnapshot}
    {m : Measurements} :
    snapshots.foldl (fun m s => m.addLiveSnapshot withBackups s) m =
      { m with snapshotGib := m.snapshotGib +
          tally VolumeSnapshot.sizeGiB (snapshots.filter fun s =>
            withBackups || !isBackup s.protectionGroupId none) } := by
  induction snapshots generalizing m with
  | nil => rfl
  | cons s snapshots ih =>
    rw [List.foldl_cons, ih, Measurements.addLiveSnapshot, List.filter_cons]
    split_ifs
    · rw [tally_cons, Nat.add_assoc]
    · rfl

section

variable {p : String} {volumes : List Volume} {snapshots : List VolumeSnapshot} {cloud : CloudLists}

theorem liveMeasurements_storage (c : Casing) (withBackups : Bool)
    (hvolumes : source cloud.volumes = volumes)
    (hsnapshots : source cloud.volumeSnapshots = snapshots)
    (hv : ∀ v ∈ volumes, v.projectId = some p) (hs : ∀ s ∈ snapshots, s.projectId = some p) :
    let live := (liveMeasurements c cloud p withBackups).1
    live.ssdGib = tally Volume.sizeGiB (volumes.filter fun v => v.media = "SSD") ∧
      live.hddGib = tally Volume.sizeGiB (volumes.filter fun v => v.media = "HDD") ∧
      live.unlabelledGib = tally Volume.sizeGiB (volumes.filter fun v => v.Unlabelled) ∧
      live.snapshotGib = tally VolumeSnapshot.sizeGiB
        (snapshots.filter fun s => withBackups || !isBackup s.protectionGroupId none) := by
  have hmine : volumes.filter (fun v => v.projectId = some p) = volumes :=
    List.filter_eq_self.2 fun v hmem => by simpa using hv v hmem
  have hmineToo : snapshots.filter (fun s => s.projectId = some p) = snapshots :=
    List.filter_eq_self.2 fun s hmem => by simpa using hs s hmem
  simp only [liveMeasurements, hvolumes, hsnapshots, hmine, hmineToo, Measurements.foldl_addVm,
    Measurements.foldl_addVolume, Measurements.foldl_addElasticIp, foldl_addLiveSnapshot,
      Measurements.blank,
    Nat.zero_add, and_self]

end

section

variable {lists : SessionLists} {p domainId : String} {withBackups : Bool} {desk : BackupDesk}
  {events : List BackupEvent} {volumePage : VolumePage} {snapshotPage : SnapshotPage}

theorem source_map {α β : Type} (f : α → β) (list : Except ZadaraError (List α)) :
    source (list.map (List.map f)) = (valueOrNone list).map f := by
  cases list <;> rfl

theorem tally_snapshots (snapshots : List ListedSnapshot) :
    tally VolumeSnapshot.sizeGiB ((snapshots.map ListedSnapshot.toVolumeSnapshot).filter fun s =>
        withBackups || !isBackup s.protectionGroupId none) =
      tally (fun s : ListedSnapshot => s.sizeGiB)
        (snapshots.filter (ListedSnapshot.shown withBackups)) := by
  rw [List.filter_map, tally_map]
  rfl

/-- What a session is shown of the storage of its project is what the estimate prices of it and what
the bill counts of the measurement, each copy being left out of all three or of none, as the
operators have set last. -/
theorem storage_pages_agree (c : Casing) (hd : domainId ≠ "") (hp : p ≠ "")
    (hscoped : lists.Scoped p) (hrun : backupSwitch.Run System.Free .fresh events desk)
    (hvolumes : lists.volumePage = .ok volumePage)
    (hsnapshots : lists.snapshotPage desk.table.settings domainId = .ok snapshotPage) :
    ShowsAsPriced lists (lastSet events domainId)
      (liveMeasurements c lists.measured p (lastSet events domainId)).1
      (((measureCluster c lists.measured).get? p).getD .blank) volumePage snapshotPage := by
  rw [SessionLists.snapshotPage, counts_of_run hd hrun] at hsnapshots
  generalize lastSet events domainId = withBackups at hsnapshots ⊢
  obtain ⟨rows, hrows, -, htotal, hmedia⟩ := volumeListGet_eq_ok hvolumes
  obtain ⟨hshown, hvms, hsize⟩ := snapshotListGet_eq_ok hsnapshots
  have hvalue : valueOrNone lists.volumes = rows := by
    rw [hrows]
    rfl
  obtain ⟨hssd, hhdd, hunlabelled, hcopies⟩ :=
    @liveMeasurements_storage p _ _ lists.measured c withBackups (source_map _ lists.volumes)
      (source_map _ lists.volumeSnapshots) (by simpa using hscoped.volumes)
        (by simpa using hscoped.volumeSnapshots)
  rw [hvalue] at hssd hhdd hunlabelled
  have hestimated : snapshotPage.volumeSnapshotGiB =
      (liveMeasurements c lists.measured p withBackups).1.snapshotGib := by
    rw [hcopies, hsize]
    exact (tally_snapshots _).symm
  -- each page is compared with the estimate, and the estimate with the measurement
  have hagree := agree_liveMeasurements c lists.measured hp withBackups
  have hssdShown : (mediaOn volumePage.media "SSD").totalGiB =
      (liveMeasurements c lists.measured p withBackups).1.ssdGib := by
    rw [hmedia, mediaOn_mediaTotals, hssd]
  have hhddShown : (mediaOn volumePage.media "HDD").totalGiB =
      (liveMeasurements c lists.measured p withBackups).1.hddGib := by
    rw [hmedia, mediaOn_mediaTotals, hhdd]
  have hallShown : volumePage.totalGiB =
    (liveMeasurements c lists.measured p withBackups).1.ssdGib +
      (liveMeasurements c lists.measured p withBackups).1.hddGib +
      (liveMeasurements c lists.measured p withBackups).1.unlabelledGib := by
    rw [htotal, hssd, hhdd, hunlabelled, tally_media, tally_map]
  refine ⟨⟨hssdShown, ?_⟩, ⟨hhddShown, ?_⟩, ⟨hallShown, ?_⟩, hestimated, ?_, ?_, ?_⟩
  · rw [hssdShown, hagree.ssdGib]
  · rw [hhddShown, hagree.hddGib]
  · rw [hallShown, hagree.ssdGib, hagree.hddGib, hagree.unlabelledGib]
  · rw [hestimated]
    exact hagree.snapshotGib.symm
  · intro s
    rw [hshown, List.mem_filter]
    simp [ListedSnapshot.shown]
  · intro s
    rw [hvms, List.mem_filter]
    simp [VmSnapshot.shown]

end

/-- A project with a volume, a copy of it and a backup of it. -/
def acmeStorage : SessionLists where
  machines := .ok []
  volumes :=
    .ok [⟨⟨⟨some "p1", "SSD", 50⟩, none, none, ""⟩, "v1", "disk", "in-use", "ok", "in-use", none,
      none, none, true,
    true⟩]
  volumeSnapshots :=
    .ok [⟨⟨some "p1", 20, some "pg1"⟩, "s1", "nightly", none, "ok", "ok", some "v1", none⟩,
    ⟨⟨some "p1", 10, none⟩, "s2", "by hand", none, "ok", "ok", some "v1", none⟩]
  vmSnapshots := .error ⟨"upstream_error", "Upstream error"⟩
  elasticIps := .ok []

theorem storage_pages_agree_acme : ∃ volumes snapshots, snapshots.volumeSnapshotGiB = 10 ∧
    ShowsAsPriced acmeStorage false (liveMeasurements .ascii acmeStorage.measured "p1" false).1
      (((measureCluster .ascii acmeStorage.measured).get? "p1").getD .blank) volumes snapshots := by
  obtain ⟨desk, hrun⟩ := exists_run_acmeSwitched
  have hoff : countsBackups desk.table.settings "d1" = false := by
    rw [counts_of_run (by decide) hrun]
    rfl
  have hscoped : acmeStorage.Scoped "p1" := by
    constructor <;> simp [acmeStorage, valueOrNone]
  obtain ⟨snapshots, hpage, hgib⟩ : ∃ page, acmeStorage.snapshotPage desk.table.settings "d1" =
    .ok page ∧
      page.volumeSnapshotGiB = 10 := by
    rw [SessionLists.snapshotPage, hoff]
    exact ⟨_, rfl, rfl⟩
  exact ⟨_, snapshots, hgib,
    storage_pages_agree .ascii (by decide) (by decide) hscoped hrun rfl hpage⟩

end OpenCloud
