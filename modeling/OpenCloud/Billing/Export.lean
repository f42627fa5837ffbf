import OpenCloud.Billing.Averages
import OpenCloud.Billing.Usage
import OpenCloud.Lib.Csv

/-!
# The export and the bill

`adminUsageExportGet` writes the measurements of a month as a file of comma separated values.  The
file is there to be checked against the bill: `repriced` reads it, knowing only the names of its
columns, and prices it.

## Main results

* `records_csvText` : the file reads back as the rows that were written, under the names of the
  columns.
* `export_agrees` : repriced, the file is the bill, and it has one row for each project and day
  measured.
-/

namespace OpenCloud

/-- `str` of a number. -/
def intText (n : ℤ) : String :=
  String.ofList (if n < 0 then '-' :: numeral n.natAbs else numeral n.natAbs)

/-- The columns of the file. -/
def exportColumns : List String :=
  ["date", "account", "project", "project_id", "vms_total", "vms_running", "vcpus", "ram_mb",
    "ssd_gib", "hdd_gib", "unlabelled_gib", "elastic_ips", "snapshot_gib"]

/-- The row of a measurement, under the setting of the account on backups. -/
def exportRow (withBackups : Bool) (row : UsageSnapshot) : List String :=
  [row.takenOn.toStr, row.account, row.projectName, row.projectId, intText row.vmsTotal,
    intText row.vmsRunning, intText row.vcpus, intText row.ramMb, intText row.ssdGib,
    intText row.hddGib, intText row.unlabelledGib, intText row.elasticIps,
    intText (snapshotGib row.toMeasurements withBackups)]

/-- The text that `csv.writer` writes of these rows. -/
def csvText (rows : List (List String)) : String :=
  String.ofList (Csv.encode (rows.map (List.map String.toList)))

/-- A file to download. -/
structure CsvFile where
  content : String
  filename : String
  deriving DecidableEq

/-- `order_by('taken_on', 'project_name')`. -/
def ExportOrder (a b : UsageSnapshot) : Prop :=
  a.takenOn < b.takenOn ∨ (a.takenOn = b.takenOn ∧ a.projectName ≤ b.projectName)

instance : DecidableRel ExportOrder := fun _ _ => inferInstanceAs (Decidable (_ ∨ _))

section Export

variable (c : Casing) (cloud : Cloud) (user : CabinetUser) (db : Db) (m : Month)

/-- The file of an account. -/
def exportFile (account domainId : String) : CsvFile :=
  let rows := (domainRows db domainId m).insertionSort ExportOrder
  let withBackups := countsBackups db.accountSettings domainId
  { content := csvText (exportColumns :: rows.map (exportRow withBackups))
    filename := "usage-" ++ account ++ "-" ++ m.label ++ ".csv" }

/-- `AdminUsageExportView.get`. -/
def adminUsageExportGet : Except AppError CsvFile :=
  match accountDomain c cloud user with
  | .error err => .error err
  | .ok (account, domainId) => .ok (exportFile db m account domainId)

end Export

/-! ### Checking the file -/

/-- The rows of a file under the names in its first row. -/
def records (content : String) : List (Dict String String) :=
  match (Csv.decode content.toList).map (List.map String.ofList) with
  | [] => []
  | header :: rows => rows.map fun row => header.zip row

/-- The number in a column, zero if there is none. -/
def column (name : String) (record : Dict String String) : ℤ :=
  match ((record.get? name).getD "").toList with
  | '-' :: digits => -(Nat.ofDigitChars 10 digits 0 : ℤ)
  | digits => Nat.ofDigitChars 10 digits 0

/-- The amount of a resource in a row of the file. -/
def Resource.exported : Resource → Dict String String → ℚ
  | vcpu, record => column "vcpus" record
  | ramGb, record => column "ram_mb" record / 1024
  | ssdGb, record => column "ssd_gib" record
  | hddGb, record => column "hdd_gib" record
  | elasticIp, record => column "elastic_ips" record
  | snapshotGb, record => column "snapshot_gib" record

/-- Price a file: the mean over the dates in it of each resource that is not zero throughout,
rounded to the hundredth, times the monthly price, rounded again; the total is the sum. -/
def repriced (rates : RateMap) (records : List (Dict String String)) : Cost CostLine :=
  let days := (records.map fun record => record.get? "date").dedup.length
  let summed := fun r : Resource => (records.map r.exported).sum
  let mean := fun r => quantize 2 (summed r / days)
  let price := fun r => (rates.get? r).getD 0
  let amount := fun r => quantize 2 (mean r * price r)
  let listed := Resource.sorted.filter fun r => ∃ record ∈ records, r.exported record ≠ 0
  { lines := listed.map fun r => {
      resource := r
      label := r.label
      quantity := .ofRat (mean r)
      unitPrice := .ofRat (price r)
      cost := .ofRat (amount r)
      priced := (rates.get? r).isSome
      unitDays := .ofRat (quantize 2 (summed r)) }
    total := .ofRat (listed.map amount).sum
    days := days }

/-- What the file holds of a measurement. -/
def exportRecord (withBackups : Bool) (row : UsageSnapshot) : Dict String String :=
  exportColumns.zip (exportRow withBackups row)

/-- The project and day a row of the file is of. -/
def recordKey (record : Dict String String) : Option String × Option String :=
  (record.get? "project_id", record.get? "date")

section

variable {settings : List AccountSettings} {snapshots : List UsageSnapshot} {rates : RateMap}
  {withBackups : Bool}

theorem column_intText {record : Dict String String} {name : String} {n : ℤ}
    (h : record.get? name = some (intText n)) : column name record = n := by
  unfold column intText at *
  rw [h, Option.getD_some, String.toList_ofList]
  have hvalue : Nat.ofDigitChars 10 (numeral n.natAbs) 0 = n.natAbs := Nat.ofDigitChars_ten_toDigits
  split_ifs with hneg
  · show -(Nat.ofDigitChars 10 (numeral n.natAbs) 0 : ℤ) = n
    rw [hvalue]
    omega
  · split
    · -- no numeral starts with a sign
      rename_i digits hdigits
      have hminus : '-'.isDigit := isDigit_of_mem_numeral (hdigits ▸ List.mem_cons_self)
      exact absurd hminus (by decide)
    · rw [hvalue]
      omega

/-- The file reads back as the rows that were written. -/
theorem records_csvText :
    records (csvText (exportColumns :: snapshots.map (exportRow withBackups))) =
    snapshots.map (exportRecord withBackups) := by
  have hstrings : ∀ rows : List (List String),
      (rows.map (List.map String.toList)).map (List.map String.ofList) = rows := by
    intro rows
    rw [List.map_map]
    refine List.map_id'' (fun row => ?_) rows
    rw [Function.comp_apply, List.map_map]
    exact List.map_id'' (fun _ => String.ofList_toList) row
  rw [records, csvText, String.toList_ofList, Csv.decode_encode, hstrings]
  exact List.map_map

theorem exported_exportRow (row : UsageSnapshot) (r : Resource) :
    r.exported (exportRecord withBackups row) = r.quantity row.toMeasurements withBackups := by
  cases r with
  | vcpu => exact congrArg Int.cast (column_intText rfl)
  | ramGb => exact congrArg (fun n : ℤ => (n : ℚ) / 1024) (column_intText rfl)
  | ssdGb => exact congrArg Int.cast (column_intText rfl)
  | hddGb => exact congrArg Int.cast (column_intText rfl)
  | elasticIp => exact congrArg Int.cast (column_intText rfl)
  | snapshotGb => exact congrArg Int.cast (column_intText rfl)

/-- Repriced, a file is the bill of the rows in it. -/
theorem repriced_eq (hsetting : ∀ s ∈ snapshots, countsBackups settings s.domainId = withBackups) :
    repriced rates (snapshots.map fun row => exportRecord withBackups row) =
      costOf settings snapshots rates := by
  have hheld : ∀ row ∈ snapshots, ∀ r : Resource,
      r.exported (exportRecord withBackups row) = held settings r row := by
    intro row hrow r
    rw [exported_exportRow, held, hsetting row hrow]
  have hsum : ∀ r : Resource, ((snapshots.map (exportRecord withBackups)).map
      r.exported).sum = accumulated settings snapshots r := by
    intro r
    rw [List.map_map]
    rw [accumulated_eq]
    exact congrArg List.sum (List.map_congr_left fun row hrow => hheld row hrow r)
  have hlisted : (Resource.sorted.filter fun r => ∃ record ∈
      snapshots.map (exportRecord withBackups), r.exported record ≠ 0) =
        Resource.sorted.filter fun r => ∃ s ∈ snapshots, held settings r s ≠ 0 := by
    refine List.filter_congr fun r _ => decide_eq_decide.2 ?_
    constructor
    · rintro ⟨record, hrecord, hne⟩
      obtain ⟨row, hrow, rfl⟩ := List.mem_map.1 hrecord
      rw [hheld row hrow] at hne
      exact ⟨row, hrow, hne⟩
    · rintro ⟨row, hrow, hne⟩
      rw [← hheld row hrow] at hne
      exact ⟨_, List.mem_map_of_mem hrow, hne⟩
  -- two days are one exactly if their texts are
  have hdays : ((snapshots.map (exportRecord withBackups)).map
      fun record : Dict String String => record.get? "date").dedup.length =
        measuredDays snapshots := by
    have hdates : (snapshots.map (exportRecord withBackups)).map
        (fun record : Dict String String => record.get? "date") =
          (snapshots.map UsageSnapshot.takenOn).map fun day => some day.toStr := by
      rw [List.map_map, List.map_map]
      rfl
    rw [hdates, List.dedup_map_of_injective fun _ _ h => Date.toStr_inj (Option.some.inj h),
      List.length_map]
    rfl
  unfold repriced costOf charges
  dsimp only
  rw [hlisted, hdays, sortedItems_unitDays, List.map_map, List.map_map]
  simp only [hsum, Function.comp_def, chargeOf_eq, totalOf_charges]
  rfl

end

/-- What the file of a month is, beside the bill. -/
structure ExportAgrees (rows : List UsageSnapshot) (rates : RateMap) (bill : Cost CostLine)
    (file : CsvFile) : Prop where
  /-- Its columns, repriced, give the lines and the total of the bill. -/
  bill : repriced rates (records file.content) = bill
  /-- One row for each project and day measured. -/
  once : ((records file.content).map recordKey).Nodup
  measured : ∀ key, key ∈ (records file.content).map recordKey ↔
    ∃ row ∈ rows, key = (some row.projectId, some row.takenOn.toStr)

/-- **The export, repriced, is the bill**, and has one row for each project and day measured. -/
theorem export_agrees {c : Casing} {cloud : Cloud} {user : CabinetUser} {db : Db} {m : Month}
    {file : CsvFile} (h : adminUsageExportGet c cloud user db m = .ok file) :
    ∃ account domainId page, accountDomain c cloud user = .ok (account, domainId) ∧
      adminBillingGet c cloud user db m = .ok page ∧
      ExportAgrees (domainRows db domainId m) (cabinetRates c db account) page.cost file := by
  unfold adminUsageExportGet at h
  split at h
  · cases h
  · rename_i account domainId hscope
    obtain rfl := Except.ok.inj h
    have hperm :
      ((domainRows db domainId m).insertionSort ExportOrder).Perm (domainRows db domainId m) :=
      List.perm_insertionSort _ _
    have hrecords := @records_csvText ((domainRows db domainId m).insertionSort ExportOrder)
      (countsBackups db.accountSettings domainId)
    have hkeys : ((domainRows db domainId m).insertionSort ExportOrder).map
        (recordKey ∘ exportRecord (countsBackups db.accountSettings domainId)) =
          ((domainRows db domainId m).insertionSort ExportOrder).map
            fun row => (some row.projectId, some row.takenOn.toStr) := rfl
    refine ⟨account, domainId, _, hscope, adminBillingGet_of_accountDomain hscope m, ?_, ?_, ?_⟩
    · rw [exportFile, hrecords, repriced_eq]
      · exact costOf_perm (hperm.trans (List.perm_insertionSort _ _).symm)
      · intro row hrow
        have hdomain := (List.mem_filter.1 (hperm.mem_iff.1 hrow)).2
        have hboth : row.domainId = domainId ∧ m.Covers row.takenOn := by simpa using hdomain
        rw [hboth.1]
    · -- the table has one row for each project and day
      rw [exportFile, hrecords, List.map_map, hkeys, (hperm.map _).nodup_iff]
      refine List.pairwise_map.2 ((db.usageSnapshots.unique.filter _).imp fun hrows hkey => ?_)
      obtain ⟨hproject, hday⟩ := Prod.mk.inj hkey
      exact hrows ⟨Option.some.inj hproject, Date.toStr_inj (Option.some.inj hday)⟩
    · intro key
      rw [exportFile, hrecords, List.map_map, hkeys, List.mem_map]
      exact exists_congr fun row => and_congr hperm.mem_iff eq_comm

/-- The file of an account with one measurement. -/
theorem export_agrees_oneRow :
    let db := pricedDb "Acme" (measuredRow "Acme" "d1" "p1")
    ∃ account domainId page, accountDomain .ascii emptyAccount accountAdmin =
      .ok (account, domainId) ∧
      adminBillingGet .ascii emptyAccount accountAdmin db august = .ok page ∧
      ExportAgrees (domainRows db domainId august) (cabinetRates .ascii db account) page.cost
        (exportFile db august "Acme" "d1") := by
  intro db
  have hscope : accountDomain .ascii emptyAccount accountAdmin = .ok ("Acme", "d1") := by
    decide +kernel
  refine export_agrees ?_
  rw [adminUsageExportGet, hscope]

end OpenCloud
