import OpenCloud.Billing.Footprint
import OpenCloud.Billing.Rates

/-!
# The estimate and the bill

`liveMeasurements` takes today's shape of one project from the same lists the daily measurement
groups by project.  It leaves scheduled backups out at the source where the measurement stores both
figures and pricing subtracts them, and `estimateMonth` prices it as one day where `costOf` averages
over the days.

The two agree (`estimate_month_agrees_with_cost_of`): measurements that `Agree` are priced alike,
the two measuring loops keep the relation, and the average of equal days is the day.
-/

namespace OpenCloud

/-- The names of the lists that could not be read. -/
def unavailable (lists : CloudLists) : List String :=
  let name := fun {α : Type} (name : String) (list : Except ZadaraError (List α)) =>
    match list with
    | .ok _ => []
    | .error _ => [name]
  name "machines" lists.vms ++ name "volumes" lists.volumes ++ name "addresses" lists.elasticIps ++
    name "snapshots" lists.volumeSnapshots

/-- Count a snapshot into the shape shown to the client. -/
def Measurements.addLiveSnapshot (withBackups : Bool) (snapshot : VolumeSnapshot)
    (m : Measurements) :
    Measurements :=
  if withBackups || !isBackup snapshot.protectionGroupId none then
    { m with snapshotGib := m.snapshotGib + snapshot.sizeGiB }
  else m

/-- Today's shape of one project, for the estimate, and the lists that could not be read.  Machines,
volumes and addresses are counted as in the daily measurement; `backupSnapshotGib` is not counted
and keeps the default of the column. -/
def liveMeasurements (c : Casing) (lists : CloudLists) (projectId : String) (withBackups : Bool) :
    Measurements × List String :=
  let values := ((source lists.vms).filter fun vm => vm.projectId = some projectId).foldl
    (fun m vm => m.addVm c vm) .blank
  let values := ((source lists.volumes).filter fun v => v.projectId = some projectId).foldl
    (fun m v => m.addVolume v) values
  let values := ((source lists.elasticIps).filter fun e => e.projectId = some projectId).foldl
    (fun m e => m.addElasticIp e) values
  let values := ((source lists.volumeSnapshots).filter fun s => s.projectId = some projectId).foldl
    (fun m s => m.addLiveSnapshot withBackups s) values
  (values, unavailable lists)

/-! ### The two measuring loops -/

/-- A measurement with its backups, and a shape they were left out of, that price alike. -/
structure Agree (withBackups : Bool) (measured live : Measurements) : Prop where
  vcpus : measured.vcpus = live.vcpus
  ramMb : measured.ramMb = live.ramMb
  ssdGib : measured.ssdGib = live.ssdGib
  hddGib : measured.hddGib = live.hddGib
  unlabelledGib : measured.unlabelledGib = live.unlabelledGib
  elasticIps : measured.elasticIps = live.elasticIps
  snapshotGib : OpenCloud.snapshotGib measured withBackups = live.snapshotGib

namespace Agree

variable {withBackups : Bool} {measured live : Measurements}

theorem blank : Agree withBackups .blank .blank := by
  constructor <;> first | rfl | (cases withBackups <;> rfl)

theorem addVm (h : Agree withBackups measured live) (c : Casing) (vm : Vm) :
    Agree withBackups (measured.addVm c vm) (live.addVm c vm) := by
  obtain ⟨h1, h2, h3, h4, hu, h5, h6⟩ := h
  unfold Measurements.addVm
  dsimp only
  split_ifs
  · exact ⟨by rw [h1], by rw [h2], h3, h4, hu, h5, h6⟩
  · exact ⟨h1, h2, h3, h4, hu, h5, h6⟩

theorem addVolume (h : Agree withBackups measured live) (v : Volume) :
    Agree withBackups (measured.addVolume v) (live.addVolume v) := by
  obtain ⟨h1, h2, h3, h4, hu, h5, h6⟩ := h
  unfold Measurements.addVolume
  split_ifs
  · exact ⟨h1, h2, by rw [h3], h4, hu, h5, h6⟩
  · exact ⟨h1, h2, h3, by rw [h4], hu, h5, h6⟩
  · exact ⟨h1, h2, h3, h4, by rw [hu], h5, h6⟩

theorem addElasticIp (h : Agree withBackups measured live) (e : ElasticIp) :
    Agree withBackups (measured.addElasticIp e) (live.addElasticIp e) := by
  obtain ⟨h1, h2, h3, h4, hu, h5, h6⟩ := h
  exact ⟨h1, h2, h3, h4, hu, by rw [Measurements.addElasticIp, Measurements.addElasticIp, h5], h6⟩

theorem addSnapshot (h : Agree withBackups measured live) (s : VolumeSnapshot) :
    Agree withBackups (measured.addSnapshot s) (live.addLiveSnapshot withBackups s) := by
  obtain ⟨h1, h2, h3, h4, hu, h5, h6⟩ := h
  unfold Measurements.addSnapshot Measurements.addLiveSnapshot
  cases withBackups <;> cases isBackup s.protectionGroupId none <;>
    refine ⟨h1, h2, h3, h4, hu, h5, ?_⟩ <;>
    simp only [OpenCloud.snapshotGib, Bool.false_eq_true, ↓reduceIte, Bool.not_true, Bool.not_false,
      Bool.or_self, Bool.or_true, Bool.true_or] at h6 ⊢ <;> omega

theorem quantity (h : Agree withBackups measured live) (r : Resource) :
    r.quantity measured withBackups = r.quantity live true := by
  obtain ⟨h1, h2, h3, h4, hu, h5, h6⟩ := h
  by_cases hr : r = .snapshotGb
  · rw [Resource.quantity, if_pos hr, Resource.quantity, if_pos hr, h6]
    rfl
  · rw [Resource.quantity, if_neg hr, Resource.quantity, if_neg hr]
    cases r <;> simp_all [Resource.measure]

end Agree

theorem agree_liveMeasurements (c : Casing) (lists : CloudLists) {p : String} (hp : p ≠ "")
    (withBackups : Bool) :
    Agree withBackups (((measureCluster c lists).get? p).getD .blank)
      (liveMeasurements c lists p withBackups).1 := by
  rw [getD_measureCluster c lists hp]
  refine List.foldl_rel (List.foldl_rel (List.foldl_rel (List.foldl_rel Agree.blank ?_) ?_) ?_) ?_
  · exact fun vm _ _ _ h => h.addVm c vm
  · exact fun v _ _ _ h => h.addVolume v
  · exact fun e _ _ _ h => h.addElasticIp e
  · exact fun s _ _ _ h => h.addSnapshot s

/-! ### The two pricing loops -/

theorem estimateCharges_eq (measurements : Measurements) (rates : RateMap) :
    estimateCharges measurements rates = Resource.sorted.filterMap fun r =>
      if r.quantity measurements true ≠ 0 then some (charge rates r (r.quantity measurements true))
      else none := by
  rw [estimateCharges, sortedItems_eq (nodup_keys_quantities _ _), ← List.filterMap_eq_map,
    ← List.filterMap_eq_filter, List.filterMap_filterMap, List.filterMap_filterMap]
  refine List.filterMap_congr fun r _ => ?_
  rw [get?_quantities]
  by_cases hq : r.quantity measurements true = 0 <;> simp [hq, Option.guard]

/-- The bill of days that all hold the same is the bill of one of them. -/
theorem charges_of_equal_days {settings : List AccountSettings} {rows : List UsageSnapshot}
    (rates : RateMap) {q : Resource → ℚ} (hrows : rows ≠ [])
    (hdays : (rows.map UsageSnapshot.takenOn).Nodup)
    (hq : ∀ s ∈ rows, ∀ r, held settings r s = q r) :
    charges settings rows rates =
      Resource.sorted.filterMap fun r => if q r ≠ 0 then some (charge rates r (q r)) else none := by
  have hmeasured : measuredDays rows = rows.length := by
    rw [measuredDays, hdays.dedup, List.length_map]
  have hlen : (rows.length : ℚ) ≠ 0 := by
    exact_mod_cast List.length_pos_iff.2 hrows |>.ne'
  rw [charges_eq]
  refine List.filterMap_congr fun r _ => ?_
  have hany : (∃ s ∈ rows, held settings r s ≠ 0) ↔ q r ≠ 0 := by
    obtain ⟨s, hs⟩ := List.exists_mem_of_ne_nil rows hrows
    exact ⟨fun ⟨t, ht, h⟩ => hq t ht r ▸ h, fun h => ⟨s, hs, (hq s hs r).symm ▸ h⟩⟩
  have hsum : (rows.map (held settings r)).sum = rows.length * q r := by
    rw [List.map_congr_left fun s hs => hq s hs r, List.map_const', List.sum_replicate,
      nsmul_eq_mul]
  have haverage : chargeOf rows rates (r, rows.length * q r) = charge rates r (q r) := by
    simp only [chargeOf, hmeasured]
    rw [if_neg (by exact_mod_cast hlen), mul_div_cancel_left₀ _ hlen]
  rw [if_congr hany rfl rfl, hsum, haverage]

theorem lines_costOf (settings : List AccountSettings) (snapshots : List UsageSnapshot)
    (rates : RateMap) : (costOf settings snapshots rates).lines.map CostLine.toEstimateLine =
      (charges settings snapshots rates).map Charge.line := by
  simp only [costOf, charges, List.map_map]
  rfl

/-! ### Capturing the same lists on several days -/

/-- A call of `capture`. -/
structure CaptureCall where
  cloud : Cloud
  now : Instant
  takenOn : Date

/-- The calls, one after the other. -/
def captures (c : Casing) (calls : List CaptureCall) (table : SnapshotTable) :
    Except ZadaraError SnapshotTable :=
  calls.foldlM (fun table call =>
    (capture c call.cloud call.now call.takenOn table).map Prod.fst) table

theorem captures_cons_eq_ok {c : Casing} {call : CaptureCall} {calls : List CaptureCall}
    {table table' : SnapshotTable} (h : captures c (call :: calls) table = .ok table') :
    ∃ table₁ report,
      capture c call.cloud call.now call.takenOn table = .ok (table₁, report) ∧
        captures c calls table₁ = .ok table' := by
  cases hcall : capture c call.cloud call.now call.takenOn table with
  | error e => simp [captures, hcall, bind, Except.bind, Except.map] at h
  | ok answer =>
    obtain ⟨table₁, report⟩ := answer
    exact ⟨table₁, report, rfl, by simpa [captures, hcall, bind, Except.bind, Except.map] using h⟩

/-- The directory places the project in the domain. -/
def Cloud.Places (cloud : Cloud) (p d : String) : Prop :=
  ∃ directory owner, projectDirectory cloud = .ok directory ∧ directory.get? p = some owner ∧
    owner.domainId = d

section Days

variable {c : Casing} {lists : CloudLists} {p d : String} {table table' : SnapshotTable}

/-- The table holds for the project and day what the lists say, and nothing else. -/
def Captured (c : Casing) (lists : CloudLists) (p d : String) (day : Date)
    (table : SnapshotTable) : Prop :=
  (∃ row ∈ table.rows, row.projectId = p ∧ row.takenOn = day) ∧
    ∀ row ∈ table.rows, row.projectId = p → row.takenOn = day →
      row.domainId = d ∧ (measureCluster c lists).get? p = some row.toMeasurements

/-- A capture of the lists makes its own day captured, and leaves the captured days so. -/
theorem captured_of_capture {call : CaptureCall} {report : CaptureReport} (day : Date)
    (hcall : capture c call.cloud call.now call.takenOn table = .ok (table', report))
    (hlists : call.cloud.toCloudLists = lists) (hplaced : call.cloud.Places p d)
    (hp : p ∈ (measureCluster c lists).keys)
    (hday : day = call.takenOn ∨ Captured c lists p d day table) :
    Captured c lists p d day table' := by
  obtain ⟨directory, owner, hdir, hget, rfl⟩ := hplaced
  obtain ⟨⟨q, m⟩, hmem, rfl⟩ := List.mem_map.1 hp
  have hget_m := (Dict.mem_iff_get? (nodup_keys_measureCluster c lists)).1 hmem
  have hrows : ∀ row, row ∈ table'.rows ↔ _ := fun _ => mem_capture hcall hdir
  rw [hlists] at hrows
  have hnew : usageRow call.now call.takenOn directory q m ∈ table'.rows :=
    (hrows _).2 (.inl ⟨(q, m), hmem, rfl⟩)
  constructor
  · by_cases heq : day = call.takenOn
    · exact ⟨_, hnew, rfl, heq.symm⟩
    · obtain ⟨row, hrow, hproject, hon⟩ := (hday.resolve_left heq).1
      refine ⟨row, (hrows row).2 (.inr ⟨hrow, fun hcl => heq ?_⟩), hproject, hon⟩
      exact hon.symm.trans hcl.1
  · intro row hrow hproject hon
    rcases (hrows row).1 hrow with ⟨⟨q', m'⟩, hmem', rfl⟩ | ⟨hold, hkept⟩
    · obtain rfl : q' = q := hproject
      refine ⟨by simp [usageRow, hget], ?_⟩
      exact (Dict.mem_iff_get? (nodup_keys_measureCluster c lists)).1 hmem'
    · have hne : day ≠ call.takenOn := by
        rintro rfl
        exact hkept ⟨hon, hproject ▸ List.mem_map_of_mem hmem⟩
      exact (hday.resolve_left hne).2 row hold hproject hon

/-- The days of the calls are captured. -/
theorem captured_of_captures {calls : List CaptureCall} (day : Date)
    (hlists : ∀ call ∈ calls, call.cloud.toCloudLists = lists)
    (hplaced : ∀ call ∈ calls, call.cloud.Places p d) (hp : p ∈ (measureCluster c lists).keys)
    (h : captures c calls table = .ok table')
    (hday : (∃ call ∈ calls, call.takenOn = day) ∨ Captured c lists p d day table) :
    Captured c lists p d day table' := by
  induction calls generalizing table with
  | nil =>
    obtain rfl : table = table' := by simpa [captures, pure, Except.pure] using h
    simpa using hday
  | cons call calls ih =>
    obtain ⟨table₁, report, hcall, hrest⟩ := captures_cons_eq_ok h
    refine ih (fun cl hcl => hlists cl (by simp [hcl])) (fun cl hcl => hplaced cl (by simp [hcl]))
      hrest ?_
    have hstep := fun hor => captured_of_capture day hcall (hlists call (by simp))
      (hplaced call (by simp)) hp hor
    rcases hday with ⟨cl, hcl, rfl⟩ | hday
    · rcases List.mem_cons.1 hcl with rfl | hcl
      · exact .inr (hstep (.inl rfl))
      · exact .inl ⟨cl, hcl, rfl⟩
    · exact .inr (hstep (.inr hday))

theorem mem_of_captures {calls : List CaptureCall} {row : UsageSnapshot}
    (hlists : ∀ call ∈ calls, call.cloud.toCloudLists = lists)
    (hp : row.projectId ∉ (measureCluster c lists).keys) (h : captures c calls table = .ok table')
    (hrow : row ∈ table'.rows) : row ∈ table.rows := by
  induction calls generalizing table with
  | nil =>
    obtain rfl : table = table' := by simpa [captures, pure, Except.pure] using h
    exact hrow
  | cons call calls ih =>
    obtain ⟨table₁, report, hcall, hrest⟩ := captures_cons_eq_ok h
    obtain ⟨directory, hdir, -⟩ := capture_eq_ok hcall
    have h₁ : row ∈ table₁.rows := ih (fun cl hcl => hlists cl (by simp [hcl])) hrest
    rcases (mem_capture hcall hdir).1 h₁ with ⟨e, he, rfl⟩ | ⟨hold, -⟩
    · rw [hlists call (by simp)] at he
      exact absurd (List.mem_map_of_mem he) hp
    · exact hold

end Days

/-- The rows of a project on the days of the calls. -/
def capturedRows (table : SnapshotTable) (calls : List CaptureCall) (p : String) :
    List UsageSnapshot :=
  table.rows.filter fun row => row.projectId = p ∧ row.takenOn ∈ calls.map CaptureCall.takenOn

theorem nodup_days_capturedRows (table : SnapshotTable) (calls : List CaptureCall) (p : String) :
    ((capturedRows table calls p).map UsageSnapshot.takenOn).Nodup := by
  rw [List.Nodup, List.pairwise_map]
  refine List.Pairwise.imp_of_mem (fun {a b} ha hb hab hon => ?_) (table.unique.filter _)
  have hpa : a.projectId = p := by simpa using And.left (by simpa using (List.mem_filter.1 ha).2)
  have hpb : b.projectId = p := by simpa using And.left (by simpa using (List.mem_filter.1 hb).2)
  exact hab ⟨hpa.trans hpb.symm, hon⟩

/-- The estimate and the bill cannot drift apart: the estimate of a project's live shape and the
bill of the rows captured from the same lists, on any number of days, have the same lines and the
same total.  Earlier rows of these days are overwritten, unless the project holds nothing now. -/
theorem estimate_month_agrees_with_cost_of (c : Casing) (settings : List AccountSettings)
    (rates : RateMap) (lists : CloudLists) (p d : String) (calls : List CaptureCall)
    (table table' : SnapshotTable) (hcalls : calls ≠ [])
    (hlists : ∀ call ∈ calls, call.cloud.toCloudLists = lists)
    (hplaced : ∀ call ∈ calls, call.cloud.Places p d)
    (hstale : p ∉ (measureCluster c lists).keys → capturedRows table calls p = [])
    (h : captures c calls table = .ok table') :
    let bill := costOf settings (capturedRows table' calls p) rates
    let estimate := estimateMonth
      (liveMeasurements c lists p (countsBackups settings d)).1 rates
    bill.lines.map CostLine.toEstimateLine = estimate.lines ∧ bill.total = estimate.total := by
  have hne : p ≠ "" := by
    obtain ⟨call, hcall⟩ := List.exists_mem_of_ne_nil calls hcalls
    obtain ⟨directory, owner, hdir, hget, -⟩ := hplaced call hcall
    exact ne_empty_of_get?_projectDirectory hdir hget
  have hagree := agree_liveMeasurements c lists hne (countsBackups settings d)
  suffices hcharges : charges settings (capturedRows table' calls p) rates =
      estimateCharges (liveMeasurements c lists p (countsBackups settings d)).1 rates by
    refine ⟨?_, by simp only [costOf, estimateMonth, hcharges]⟩
    rw [lines_costOf, hcharges]
    rfl
  rw [estimateCharges_eq]
  by_cases hp : p ∈ (measureCluster c lists).keys
  · -- every row holds what the lists say of the project
    have hcaptured := fun day hday =>
      captured_of_captures day hlists hplaced hp h (.inl hday)
    have hrow : ∀ row ∈ capturedRows table' calls p, row.domainId = d ∧
        (measureCluster c lists).get? p = some row.toMeasurements := by
      intro row hrow
      obtain ⟨hmem, hproject, hon⟩ : row ∈ table'.rows ∧ row.projectId = p ∧
          row.takenOn ∈ calls.map CaptureCall.takenOn := by simpa [capturedRows] using hrow
      obtain ⟨call, hcall, hday⟩ := List.mem_map.1 hon
      exact (hcaptured row.takenOn ⟨call, hcall, hday⟩).2 row hmem hproject rfl
    have hsome : capturedRows table' calls p ≠ [] := by
      obtain ⟨call, hcall⟩ := List.exists_mem_of_ne_nil calls hcalls
      obtain ⟨row, hmem, hproject, hon⟩ := (hcaptured call.takenOn ⟨call, hcall, rfl⟩).1
      refine List.ne_nil_of_mem (a := row) (List.mem_filter.2 ⟨hmem, ?_⟩)
      simpa [hproject, hon] using ⟨call, hcall, rfl⟩
    refine charges_of_equal_days rates hsome (nodup_days_capturedRows _ _ _) fun row hmem r => ?_
    obtain ⟨hdomain, hget⟩ := hrow row hmem
    rw [hget, Option.getD_some] at hagree
    rw [held, hdomain, hagree.quantity r]
  · -- the project holds nothing and has no rows
    have hnone : capturedRows table' calls p = [] := by
      rw [capturedRows, List.filter_eq_nil_iff]
      intro row hrow hkey
      obtain ⟨rfl, hon⟩ : row.projectId = p ∧ row.takenOn ∈ calls.map CaptureCall.takenOn := by
        simpa using hkey
      have hmem : row ∈ capturedRows table calls row.projectId :=
        List.mem_filter.2 ⟨mem_of_captures hlists hp h hrow, by simpa using hon⟩
      rw [hstale hp] at hmem
      cases hmem
    rw [Dict.get?_eq_none_iff.2 hp, Option.getD_none] at hagree
    rw [hnone]
    refine Eq.symm (List.filterMap_eq_nil_iff.2 fun r _ => ?_)
    rw [← hagree.quantity r, if_neg]
    cases countsBackups settings d <;> cases r <;> decide +kernel

/-- A cloud with one project: a running machine, a disk and a scheduled backup. -/
def oneProjectCloud : Cloud where
  serviceToken := .ok "token"
  vms := .ok [⟨some "p1", "ACTIVE", 2, 1536⟩]
  volumes := .ok [⟨some "p1", "SSD", 50⟩]
  elasticIps := .ok []
  volumeSnapshots := .ok [⟨some "p1", 20, some "pg1"⟩]
  directory := .ok [⟨"d1", "Acme"⟩]
  projects _ := .ok [("p1", "Main")]

/-- Two days of that cloud, the account being set not to count its backups. -/
theorem estimate_month_agrees_with_cost_of_one_project :
    let settings := [⟨"d1", "Acme", false⟩]
    let rates := [(Resource.ramGb, 100), (Resource.snapshotGb, 5)]
    let days := [CaptureCall.mk oneProjectCloud 0 ⟨2026, 8, 1, by decide, by decide, by decide⟩,
      ⟨oneProjectCloud, 1, ⟨2026, 8, 2, by decide, by decide, by decide⟩⟩]
    ∃ table, captures .ascii days .empty = .ok table ∧
      let bill := costOf settings (capturedRows table days "p1") rates
      let estimate := estimateMonth
        (liveMeasurements .ascii oneProjectCloud.toCloudLists "p1" (countsBackups settings "d1")).1
          rates
      bill.lines.map CostLine.toEstimateLine = estimate.lines ∧ bill.total = estimate.total := by
  refine ⟨_, rfl, ?_⟩
  refine estimate_month_agrees_with_cost_of .ascii _ _ oneProjectCloud.toCloudLists "p1" "d1" _
    .empty
    _ (by simp) (by simp) ?_ (fun _ => rfl) rfl
  simpa using ⟨_, _, rfl, rfl, rfl⟩

end OpenCloud
