import OpenCloud.Platform.Snapshot

/-!
# What the loops over the rows count

A `Measure` is what can be read off an entry: a figure, or the volumes and the capacity on one
medium.  A row weighs something for the measures of its list and nothing for the others, and every
loop of the snapshot adds up weights.

## Main results

* `figure_foldRow` : `_FOLD` adds the weight of the row.
* `accountMeasure_countRows`, `projectMeasure_countRows` : what is counted for an account or a
  project object is the weight of the rows attributed to it.
* `measure_totalUsage` : the totals are the weight of all rows.
-/

namespace OpenCloud

/-! ### Measures -/

/-- The list a figure comes from. -/
def Figure.source : Figure → Source
  | .vmCount | .runningVms | .vcpus | .ramMB => .vms
  | .volumeCount | .storageGiB => .volumes
  | .volumeSnapshotCount | .volumeSnapshotGiB | .backupSnapshotCount | .backupSnapshotGiB =>
    .volumeSnapshots
  | .vmSnapshotCount => .vmSnapshots
  | .publicIps => .publicIps
  | .vpcCount => .vpcs
  | .subnetCount => .subnets
  | .securityGroupCount => .securityGroups

/-- What can be read off an entry. -/
inductive Measure where
  | figure (f : Figure)
  | mediaVolumes (media : String)
  | mediaGiB (media : String)
  deriving DecidableEq

/-- The list a measure comes from. -/
def Measure.source : Measure → Source
  | .figure f => f.source
  | .mediaVolumes _ | .mediaGiB _ => .volumes

/-- The line of a medium; nothing where there is none. -/
def mediaOn (totals : List MediaTotal) (media : String) : MediaTally :=
  (Dict.get? (totals.map fun t => (t.media, t.toMediaTally)) media).getD ⟨0, 0⟩

/-- A measure of an entry as it is shown. -/
def ShownUsage.measure (usage : ShownUsage) : Measure → Option ℕ
  | .figure f => usage.figure f
  | .mediaVolumes media => usage.storageByMedia.map fun totals => (mediaOn totals media).volumes
  | .mediaGiB media => usage.storageByMedia.map fun totals => (mediaOn totals media).totalGiB

/-- What a row adds to a measure. -/
def weight (c : Casing) (s : Source) (k : Measure) (row : s.Row) : ℕ :=
  match s, k, row with
  | .vms, .figure .vmCount, _ => 1
  | .vms, .figure .runningVms, (vm : Vm) => if vm.Running c then 1 else 0
  | .vms, .figure .vcpus, (vm : Vm) => vm.vcpus
  | .vms, .figure .ramMB, (vm : Vm) => vm.ramMB
  | .volumes, .figure .volumeCount, _ => 1
  | .volumes, .figure .storageGiB, (volume : Volume) => volume.sizeGiB
  | .volumes, .mediaVolumes media, (volume : Volume) => if volume.media = media then 1 else 0
  | .volumes, .mediaGiB media, (volume : Volume) =>
    if volume.media = media then volume.sizeGiB else 0
  | .volumeSnapshots, .figure .volumeSnapshotCount, _ => 1
  | .volumeSnapshots, .figure .volumeSnapshotGiB, (snap : VolumeSnapshot) => snap.sizeGiB
  | .volumeSnapshots, .figure .backupSnapshotCount, (snap : VolumeSnapshot) =>
    if snap.Backup then 1 else 0
  | .volumeSnapshots, .figure .backupSnapshotGiB, (snap : VolumeSnapshot) =>
    if snap.Backup then snap.sizeGiB else 0
  | .vmSnapshots, .figure .vmSnapshotCount, _ => 1
  | .publicIps, .figure .publicIps, _ => 1
  | .vpcs, .figure .vpcCount, _ => 1
  | .subnets, .figure .subnetCount, _ => 1
  | .securityGroups, .figure .securityGroupCount, _ => 1
  | _, _, _ => 0

theorem weight_of_ne {c : Casing} {s : Source} {k : Measure} (hs : s ≠ k.source) (row : s.Row) :
    weight c s k row = 0 := by
  cases k with
  | figure f => cases s <;> cases f <;> first | rfl | exact absurd rfl hs
  | mediaVolumes media => cases s <;> first | rfl | exact absurd rfl hs
  | mediaGiB media => cases s <;> first | rfl | exact absurd rfl hs

@[simp] theorem figure_add {usage : Usage} {f g : Figure} {n : ℕ} :
    (usage.add g n).figure f = usage.figure f + if f = g then n else 0 := by
  unfold Usage.add
  by_cases h : f = g
  · subst h
    simp
  · simp [h]

theorem figure_addVm {c : Casing} {vm : Vm} {usage : Usage} {f : Figure} :
    (addVm c vm usage).figure f = usage.figure f + weight c .vms (.figure f) vm := by
  have hperm : c.lower vm.status ∈ ["running", "active"] ↔ vm.Running c := by
    simp [Vm.Running, or_comm]
  unfold addVm
  by_cases hrun : vm.Running c
  · rw [if_pos (hperm.2 hrun)]
    cases f <;> simp [weight, hrun]
  · rw [if_neg fun h => hrun (hperm.1 h)]
    cases f <;> simp [weight, hrun]

theorem figure_addVolumeSnapshot {c : Casing} {snap : VolumeSnapshot} {usage : Usage} {f : Figure} :
    (addVolumeSnapshot snap usage).figure f =
      usage.figure f + weight c .volumeSnapshots (.figure f) snap := by
  have hiff : isBackup snap.protectionGroupId none = true ↔ snap.Backup := Iff.rfl
  unfold addVolumeSnapshot
  by_cases hbackup : snap.Backup
  · rw [if_pos (hiff.2 hbackup)]
    cases f <;> simp [weight, hbackup]
  · rw [if_neg fun h => hbackup (hiff.1 h)]
    cases f <;> simp [weight, hbackup]

/-- `_FOLD` adds the weight of the row. -/
theorem figure_foldRow {c : Casing} {s : Source} {row : s.Row} {usage : Usage} {f : Figure} :
    (foldRow c s row usage).figure f = usage.figure f + weight c s (.figure f) row := by
  cases s with
  | vms => exact figure_addVm
  | volumes => cases f <;> simp [foldRow, addVolume, weight]
  | volumeSnapshots => exact figure_addVolumeSnapshot
  | vmSnapshots | publicIps | vpcs | subnets | securityGroups => cases f <;> simp [foldRow, weight]

/-! ### The split by medium -/

theorem foldl_add_mediaTally {volumes : List Volume} {t : MediaTally} :
    volumes.foldl (fun t v => t.add v) t =
      ⟨t.volumes + volumes.length, t.totalGiB + tally Volume.sizeGiB volumes⟩ := by
  induction volumes generalizing t with
  | nil => rfl
  | cons v volumes ih =>
    rw [List.foldl_cons, ih, MediaTally.add, tally_cons, List.length_cons]
    simp
    omega

/-- The line of a medium counts the volumes on it. -/
theorem mediaOn_mediaTotals (volumes : List Volume) (media : String) :
    mediaOn (mediaTotals volumes) media =
      ⟨(volumes.filter fun v => v.media = media).length,
        tally Volume.sizeGiB (volumes.filter fun v => v.media = media)⟩ := by
  have hnodup :
    (Dict.collect (fun v : Volume => some v.media) ⟨0, 0⟩ MediaTally.add [] volumes).keys.Nodup :=
    @Dict.nodup_keys_collect _ _ _ _ [] _ _ _ List.nodup_nil _
  have hcollect :=
    Dict.getD_collect (fun v : Volume => some v.media) ⟨0, 0⟩ MediaTally.add [] volumes media
  unfold mediaOn mediaTotals
  dsimp only
  generalize Dict.collect (fun v : Volume => some v.media) ⟨0, 0⟩ MediaTally.add [] volumes =
    buckets
    at hnodup hcollect ⊢
  have hperm : List.Perm (((buckets.map fun e => { e.2 with media := e.1 }).insertionSort
      MediaTotal.le).map fun t : MediaTotal => (t.media, t.toMediaTally)) buckets := by
    refine ((List.perm_insertionSort _ _).map _).trans ?_
    rw [List.map_map]
    exact List.Perm.of_eq (List.map_id' buckets)
  rw [← Dict.get?_perm hnodup hperm.symm, hcollect]
  simp only [Dict.get?, Option.getD_none, Option.some.injEq, foldl_add_mediaTally, Nat.zero_add]

/-- The capacity on some of the media. -/
def capacityOn (p : String → Prop) [DecidablePred p] (totals : List MediaTotal) : ℕ :=
  tally (fun t => t.totalGiB) (totals.filter fun t => p t.media)

theorem tally_update {p : String → Prop} [DecidablePred p] {d : Dict String MediaTally}
    {v : Volume} :
    tally (fun e : String × MediaTally => if p e.1 then e.2.totalGiB else 0)
        (d.update v.media ⟨0, 0⟩ (MediaTally.add v)) =
      tally (fun e : String × MediaTally => if p e.1 then e.2.totalGiB else 0) d +
        if p v.media then v.sizeGiB else 0 := by
  induction d with
  | nil => simp [Dict.update, MediaTally.add]
  | cons e d ih =>
    obtain ⟨media, t⟩ := e
    rw [Dict.update]
    by_cases hmedia : media = v.media
    · subst hmedia
      rw [if_pos rfl, tally_cons, tally_cons]
      split_ifs
      · simp only [MediaTally.add]
        omega
      · omega
    · rw [if_neg hmedia, tally_cons, tally_cons, ih, Nat.add_assoc]

theorem capacityOn_mediaTotals (p : String → Prop) [DecidablePred p] (volumes : List Volume) :
    capacityOn p (mediaTotals volumes) =
      tally Volume.sizeGiB (volumes.filter fun v => p v.media) := by
  have hperm := List.perm_insertionSort MediaTotal.le
    ((Dict.collect (fun v : Volume => some v.media) ⟨0, 0⟩ MediaTally.add [] volumes).map
      fun e => ({ e.2 with media := e.1 } : MediaTotal))
  rw [capacityOn, ← tally_ite, mediaTotals, tally_perm hperm, tally_map, ← tally_ite]
  have hloop :=
    @figure_foldl Volume (Dict String MediaTally) (fun v => if p v.media then v.sizeGiB else 0)
    volumes (fun d v => d.update v.media ⟨0, 0⟩ (MediaTally.add v))
    (tally fun e => if p e.1 then e.2.totalGiB else 0) (fun d v _ => tally_update) []
  rw [tally_nil, Nat.zero_add] at hloop
  exact hloop

theorem length_eq_tally_ite {α : Type} {p : α → Prop} [DecidablePred p] {items : List α} :
    (items.filter fun a => p a).length = tally (fun a => if p a then 1 else 0) items := by
  rw [tally_ite, tally_one]

/-! ### The rows of an account and of a project -/

/-- The account and the object of a project. -/
def PanelDirectory.owner (dir : PanelDirectory) (p : String) : Option (String × ℕ) :=
  match keep (dir.accountOfProject.get? p), dir.projects.get? p with
  | some accountId, some object => some (accountId, object)
  | _, _ => none

/-- What has been counted for an account. -/
def Counting.accountMeasure (st : Counting) (a : String) : Measure → ℕ
  | .figure f => (st.ofAccount a).figure f
  | .mediaVolumes media => (mediaOn (mediaTotals (st.volumesOfAccount a)) media).volumes
  | .mediaGiB media => (mediaOn (mediaTotals (st.volumesOfAccount a)) media).totalGiB

/-- What has been counted for a project and its object. -/
def Counting.projectMeasure (st : Counting) (p : String) (object : ℕ) : Measure → ℕ
  | .figure f => (st.ofProject object).figure f
  | .mediaVolumes media => (mediaOn (mediaTotals (st.volumesOfProject p)) media).volumes
  | .mediaGiB media => (mediaOn (mediaTotals (st.volumesOfProject p)) media).totalGiB

section Rows

variable {c : Casing} {cloud : PanelCloud} {dir : PanelDirectory} {s : Source} {st : Counting}
  {row : s.Row} {k : Measure} {a p : String} {object : ℕ}

theorem mediaOn_append_keptVolume {held : List Volume} {media : String} :
    (mediaOn (mediaTotals (held ++ keptVolume s row)) media).volumes =
        (mediaOn (mediaTotals held) media).volumes + weight c s (.mediaVolumes media) row ∧
      (mediaOn (mediaTotals (held ++ keptVolume s row)) media).totalGiB =
        (mediaOn (mediaTotals held) media).totalGiB + weight c s (.mediaGiB media) row := by
  simp only [mediaOn_mediaTotals, List.filter_append, List.length_append, tally_append]
  cases s with
  | volumes =>
    by_cases hmedia : Volume.media row = media <;> simp [keptVolume, weight, hmedia]
  | _ => simp [keptVolume, weight]

theorem attributeRow_of_owner (howner : dir.owner (s.projectId row) = some (a, object)) :
    attributeRow c dir s st row =
      { st with
        ofAccount := Function.update st.ofAccount a (foldRow c s row (st.ofAccount a))
        ofProject := Function.update st.ofProject object (foldRow c s row (st.ofProject object))
        volumesOfAccount := Function.update st.volumesOfAccount a
          (st.volumesOfAccount a ++ keptVolume s row)
        volumesOfProject := Function.update st.volumesOfProject (s.projectId row)
          (st.volumesOfProject (s.projectId row) ++ keptVolume s row) } := by
  unfold PanelDirectory.owner at howner
  unfold attributeRow
  split at howner
  · rename_i haccount hobject
    obtain ⟨rfl, rfl⟩ := Prod.mk.inj (Option.some.inj howner)
    simp only [haccount, hobject]
  · cases howner

theorem attributeRow_of_no_owner (howner : dir.owner (s.projectId row) = none) :
    attributeRow c dir s st row =
      { st with unattributed := Function.update st.unattributed s (st.unattributed s + 1) } := by
  unfold PanelDirectory.owner at howner
  unfold attributeRow
  split at howner
  · cases howner
  · rename_i hnot
    dsimp only
    split
    · rename_i haccount hobject
      exact absurd hobject (hnot _ _ haccount)
    · rfl

/-- A row adds its weight to its account. -/
theorem accountMeasure_attributeRow :
    (attributeRow c dir s st row).accountMeasure a k = st.accountMeasure a k +
      if (dir.owner (s.projectId row)).map Prod.fst = some a then weight c s k row else 0 := by
  cases howner : dir.owner (s.projectId row) with
  | none =>
    rw [attributeRow_of_no_owner howner]
    cases k <;> simp [Counting.accountMeasure]
  | some o =>
    obtain ⟨a', object'⟩ := o
    rw [attributeRow_of_owner howner]
    by_cases ha : a' = a
    · subst ha
      cases k with
      | figure f => simp [Counting.accountMeasure, figure_foldRow]
      | mediaVolumes media => simpa [Counting.accountMeasure] using mediaOn_append_keptVolume.1
      | mediaGiB media => simpa [Counting.accountMeasure] using mediaOn_append_keptVolume.2
    · cases k <;> simp [Counting.accountMeasure, ha, Function.update_of_ne (Ne.symm ha)]

/-- A row adds its weight to its project. -/
theorem projectMeasure_attributeRow (hobject : ∀ p', (dir.owner p').map Prod.snd = some object ↔
    p' = p) :
    (attributeRow c dir s st row).projectMeasure p object k = st.projectMeasure p object k +
      if s.projectId row = p then weight c s k row else 0 := by
  have hrow := hobject (s.projectId row)
  cases howner : dir.owner (s.projectId row) with
  | none =>
    have hp : s.projectId row ≠ p := by
      intro hp
      have := hrow.2 hp
      rw [howner] at this
      cases this
    rw [attributeRow_of_no_owner howner, if_neg hp]
    cases k <;> rfl
  | some o =>
    obtain ⟨a', object'⟩ := o
    rw [howner] at hrow
    rw [attributeRow_of_owner howner]
    by_cases hp : s.projectId row = p
    · obtain rfl : object' = object := Option.some.inj (hrow.2 hp)
      subst hp
      cases k with
      | figure f => simp [Counting.projectMeasure, figure_foldRow]
      | mediaVolumes media => simpa [Counting.projectMeasure] using mediaOn_append_keptVolume.1
      | mediaGiB media => simpa [Counting.projectMeasure] using mediaOn_append_keptVolume.2
    · have hne : object ≠ object' := by
        rintro rfl
        exact hp (hrow.1 rfl)
      cases k <;> simp [Counting.projectMeasure, hp, Function.update_of_ne hne,
        Function.update_of_ne (Ne.symm hp)]

theorem unattributed_attributeRow {s' : Source} :
    (attributeRow c dir s st row).unattributed s' = st.unattributed s' +
      if s = s' ∧ dir.owner (s.projectId row) = none then 1 else 0 := by
  cases howner : dir.owner (s.projectId row) with
  | none =>
    rw [attributeRow_of_no_owner howner]
    by_cases hs : s = s'
    · subst hs
      simp
    · simp [hs, Function.update_of_ne (Ne.symm hs)]
  | some o =>
    rw [attributeRow_of_owner howner]
    simp

theorem figure_countRows {figure : Counting → ℕ} {w : (s : Source) → s.Row → ℕ}
    (hrow : ∀ s st (row : s.Row), figure (attributeRow c dir s st row) = figure st + w s row) :
    figure (countRows c cloud dir) =
      figure .blank + tally (fun s => tally (w s) (cloud.rows s)) Source.all := by
  unfold countRows
  refine figure_foldl (fun st s _ => ?_) _
  exact figure_foldl (fun st row _ => hrow s st row) st

theorem tally_sources {w : (s : Source) → s.Row → ℕ} (s₀ : Source)
    (hzero : ∀ s, s ≠ s₀ → ∀ row, w s row = 0) :
    tally (fun s => tally (w s) (cloud.rows s)) Source.all = tally (w s₀) (cloud.rows s₀) := by
  refine tally_eq_single (by decide) s₀.mem_all fun s _ hs => ?_
  rw [tally_congr fun row _ => hzero s hs row, tally_zero]

/-- What is counted for an account is the weight of the rows attributed to it. -/
theorem accountMeasure_countRows :
    (countRows c cloud dir).accountMeasure a k = tally (weight c k.source k)
      ((cloud.rows k.source).filter fun row =>
        (dir.owner (k.source.projectId row)).map Prod.fst = some a) := by
  have hcount := @figure_countRows c cloud dir (fun st => st.accountMeasure a k)
    (fun s row => if (dir.owner (s.projectId row)).map Prod.fst = some a then
      weight c s k row else 0)
    fun s st row => accountMeasure_attributeRow
  have hblank : Counting.blank.accountMeasure a k = 0 := by cases k <;> rfl
  rw [hcount, hblank, Nat.zero_add, tally_sources k.source, tally_ite]
  intro s hs row
  rw [weight_of_ne hs, ite_self]

/-- What is counted for a project is the weight of its rows. -/
theorem projectMeasure_countRows (hobject : ∀ p', (dir.owner p').map Prod.snd = some object ↔
    p' = p) :
    (countRows c cloud dir).projectMeasure p object k = tally (weight c k.source k)
      ((cloud.rows k.source).filter fun row => k.source.projectId row = p) := by
  have hcount := @figure_countRows c cloud dir (fun st => st.projectMeasure p object k)
    (fun s row => if s.projectId row = p then weight c s k row else 0)
    fun s st row => projectMeasure_attributeRow hobject
  have hblank : Counting.blank.projectMeasure p object k = 0 := by cases k <;> rfl
  rw [hcount, hblank, Nat.zero_add, tally_sources k.source, tally_ite]
  intro s hs row
  rw [weight_of_ne hs, ite_self]

theorem unattributed_countRows :
    (countRows c cloud dir).unattributed s =
      ((cloud.rows s).filter fun row => dir.owner (s.projectId row) = none).length := by
  have hcount := @figure_countRows c cloud dir (fun st => st.unattributed s)
    (fun s' row => if s' = s ∧ dir.owner (s'.projectId row) = none then 1 else 0)
    fun s' st row => unattributed_attributeRow
  have hblank : Counting.blank.unattributed s = 0 := rfl
  rw [hcount, hblank, Nat.zero_add, tally_sources s, length_eq_tally_ite]
  · simp
  · intro s' hs row
    simp [hs]

/-- The volumes kept aside are those that a row's turn appends. -/
theorem list_countRows {list : Counting → List Volume} {p : (s : Source) → s.Row → Bool}
    (hrow : ∀ s st (row : s.Row), list (attributeRow c dir s st row) =
      list st ++ if p s row then keptVolume s row else []) :
    list (countRows c cloud dir) = list .blank ++ (cloud.rows .volumes).filter (p .volumes) := by
  have hall : list (countRows c cloud dir) = list .blank ++ Source.all.flatMap fun s =>
      (cloud.rows s).flatMap fun row => if p s row then keptVolume s row else [] := by
    unfold countRows
    refine list_foldl (fun st s _ => ?_) _
    exact list_foldl (fun st row _ => hrow s st row) st
  rw [hall]
  congr 1
  have hvolumes : ∀ volumes : List Volume,
      (volumes.flatMap fun row => if p .volumes row then keptVolume .volumes row else []) =
        volumes.filter (p .volumes) := by
    intro volumes
    induction volumes with
    | nil => rfl
    | cons volume volumes ih =>
      rw [List.flatMap_cons, ih]
      by_cases hp : p .volumes volume = true
      · simp [keptVolume, hp]
      · simp [hp]
  have hothers : ∀ s, s ≠ .volumes → ∀ rows : List s.Row,
      (rows.flatMap fun row => if p s row then keptVolume s row else []) = [] := by
    intro s hs rows
    refine List.flatMap_eq_nil_iff.2 fun row _ => ?_
    cases s <;> first | exact absurd rfl hs | simp [keptVolume]
  simp only [Source.all, List.flatMap_cons, List.flatMap_nil, hvolumes, hothers .vms (by decide),
    hothers .volumeSnapshots (by decide), hothers .vmSnapshots (by decide),
      hothers .publicIps (by decide),
    hothers .vpcs (by decide), hothers .subnets (by decide), hothers .securityGroups (by decide),
    List.nil_append, List.append_nil]

theorem volumesOfAccount_countRows : (countRows c cloud dir).volumesOfAccount a =
    (cloud.rows .volumes).filter fun row =>
      (dir.owner (Source.volumes.projectId row)).map Prod.fst = some a := by
  refine @list_countRows c cloud dir (fun st => st.volumesOfAccount a)
    (fun s row => (dir.owner (s.projectId row)).map Prod.fst = some a) fun s st row => ?_
  cases howner : dir.owner (s.projectId row) with
  | none =>
    rw [attributeRow_of_no_owner howner]
    simp
  | some o =>
    obtain ⟨a', object'⟩ := o
    rw [attributeRow_of_owner howner]
    by_cases ha : a' = a
    · subst ha
      simp
    · simp [ha, Function.update_of_ne (Ne.symm ha)]

/-- The volumes kept aside for a project that has an owner. -/
theorem volumesOfProject_countRows (hp : dir.owner p ≠ none) :
    (countRows c cloud dir).volumesOfProject p =
    (cloud.rows .volumes).filter fun row => Source.volumes.projectId row = p := by
  refine @list_countRows c cloud dir (fun st => st.volumesOfProject p)
    (fun s row => s.projectId row = p) fun s st row => ?_
  cases howner : dir.owner (s.projectId row) with
  | none =>
    have hne : s.projectId row ≠ p := by
      rintro rfl
      exact hp howner
    rw [attributeRow_of_no_owner howner]
    simp [hne]
  | some o =>
    obtain ⟨a', object'⟩ := o
    rw [attributeRow_of_owner howner]
    by_cases hrow : s.projectId row = p
    · subst hrow
      simp
    · simp [hrow, Function.update_of_ne (Ne.symm hrow)]

/-- A measure of the totals. -/
def Usage.measure (usage : Usage) : Measure → ℕ
  | .figure f => usage.figure f
  | .mediaVolumes media => (mediaOn usage.storageByMedia media).volumes
  | .mediaGiB media => (mediaOn usage.storageByMedia media).totalGiB

/-- The totals are the weight of all rows. -/
theorem measure_totalUsage :
    (totalUsage c cloud).measure k = tally (weight c k.source k) (cloud.rows k.source) := by
  cases k with
  | figure f =>
    cases f <;>
      simp only [Usage.measure, totalUsage, ← tally_ite, ← tally_one] <;> rfl
  | mediaVolumes media =>
    simp only [Usage.measure, totalUsage, mediaOn_mediaTotals, length_eq_tally_ite]
    rfl
  | mediaGiB media =>
    simp only [Usage.measure, totalUsage, mediaOn_mediaTotals, ← tally_ite]
    rfl

end Rows

end OpenCloud
