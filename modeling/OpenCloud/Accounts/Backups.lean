import OpenCloud.Integrations.Resources

/-!
# Scheduled backups

A snapshot that names a protection group is a scheduled backup.  An account can be set not to count
those; the setting is a row of `account_settings`, keyed by the domain id, and no row means that
they count.
-/

namespace OpenCloud

/-- A row of `account_settings`. -/
structure AccountSettings where
  domainId : String
  account : String
  countBackupSnapshots : Bool
  deriving DecidableEq

/-- Whether a protection group took the snapshot. -/
def isBackup (protectionGroupId protectionGroup : Option String) : Bool :=
  truthy protectionGroupId || truthy protectionGroup

/-- Which of these accounts have their backups out of view and off the bill. -/
def uncounted (settings : List AccountSettings) (domainIds : List String) : List String :=
  let wanted := domainIds.filter fun d => d != ""
  if wanted = [] then []
  else (settings.filter fun row => row.domainId ∈ wanted ∧ row.countBackupSnapshots = false).map
    AccountSettings.domainId

/-- `counts_backups`. -/
def countsBackups (settings : List AccountSettings) (domainId : String) : Bool :=
  decide (domainId ∉ uncounted settings [domainId])

/-- A row of the settings of the domain says that its backups do not count. -/
def LeavesOutBackups (settings : List AccountSettings) (domainId : String) : Prop :=
  domainId ≠ "" ∧ ∃ row ∈ settings, row.domainId = domainId ∧ row.countBackupSnapshots = false

instance (settings : List AccountSettings) : DecidablePred (LeavesOutBackups settings) :=
  fun _ => inferInstanceAs (Decidable (_ ∧ ∃ row ∈ settings, _))

theorem mem_uncounted {settings : List AccountSettings} {domainIds : List String} {d : String} :
    d ∈ uncounted settings domainIds ↔
      d ∈ domainIds ∧ d ≠ "" ∧
        ∃ row ∈ settings, row.domainId = d ∧ row.countBackupSnapshots = false := by
  unfold uncounted
  dsimp only
  split_ifs with hw
  · simp only [List.not_mem_nil, false_iff, not_and]
    intro hd hne
    have : d ∈ domainIds.filter fun d => d != "" := List.mem_filter.2 ⟨hd, by simpa using hne⟩
    rw [hw] at this
    simp at this
  · simp only [List.mem_map, List.mem_filter, bne_iff_ne, ne_eq, decide_eq_true_eq]
    constructor
    · rintro ⟨row, ⟨hrow, ⟨hd, hne⟩, hc⟩, rfl⟩
      exact ⟨hd, hne, row, hrow, rfl, hc⟩
    · rintro ⟨hd, hne, row, hrow, rfl, hc⟩
      exact ⟨row, ⟨hrow, ⟨hd, hne⟩, hc⟩, rfl⟩

theorem countsBackups_eq_false {settings : List AccountSettings} {d : String} :
    countsBackups settings d = false ↔ LeavesOutBackups settings d := by
  rw [countsBackups, decide_eq_false_iff_not, not_not, mem_uncounted]
  exact and_iff_right (List.mem_singleton_self d)

theorem countsBackups_eq_true {settings : List AccountSettings} {d : String} :
    countsBackups settings d = true ↔ ¬ LeavesOutBackups settings d := by
  rw [← countsBackups_eq_false, Bool.not_eq_false]

theorem mem_uncounted_iff {settings : List AccountSettings} {domainIds : List String} {d : String}
    (hd : d ∈ domainIds) : d ∈ uncounted settings domainIds ↔ countsBackups settings d = false := by
  rw [countsBackups, decide_eq_false_iff_not, not_not, mem_uncounted, mem_uncounted]
  simp [hd]

end OpenCloud
