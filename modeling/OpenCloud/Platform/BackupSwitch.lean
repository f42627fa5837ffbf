import OpenCloud.Accounts.Backups
import OpenCloud.Audit.Journals
import OpenCloud.Lib.Json
import OpenCloud.Lib.Tables
import OpenCloud.Platform.Operators
import OpenCloud.System.LastPicture

/-!
# The switch of an account's backups

An operator sets whether the scheduled backups of an account count.  The setting is looked up by the
id of the account, and an account that has none counts them.

## Main results

* `counts_of_run` : what is looked up is what was set last.
* `settings_recorded_of_run` : the journal holds the settings that were made and taken down, in
  their order.
-/

namespace OpenCloud

/-- A row of `account_settings`, the whole of it. -/
structure SettingsRow extends AccountSettings where
  updatedBy : String
  updatedAt : Instant

/-- The table `account_settings`: an account has one row. -/
structure SettingsTable where
  rows : List SettingsRow
  unique : rows.Pairwise fun a b => a.domainId ≠ b.domainId

/-- `_settings_payload`. -/
structure SettingsPayload where
  countBackupSnapshots : Bool
  updatedAt : Option Instant
  updatedBy : Option String
  deriving DecidableEq

namespace SettingsTable

/-- The row of an account. -/
def SameDomain (domainId : String) (row : SettingsRow) : Prop := row.domainId = domainId

instance (domainId : String) : DecidablePred (SameDomain domainId) :=
  fun _ => inferInstanceAs (Decidable (_ = _))

def empty : SettingsTable := ⟨[], .nil⟩

/-- `update_or_create(domain_id=…)`. -/
def updateOrCreate (table : SettingsTable) (row : SettingsRow) : SettingsTable where
  rows := Table.upsert (SameDomain row.domainId) row (fun _ => row) table.rows
  unique := Table.pairwise_upsert table.unique
    (fun a b (ha : a.domainId = row.domainId) hab => by
      show row.domainId ≠ b.domainId
      exact ha ▸ hab)
    (fun a b (hb : b.domainId = row.domainId) hab => by
      show a.domainId ≠ row.domainId
      exact hb ▸ hab)
    (fun a ha => ha)

/-- What the other modules read. -/
def settings (table : SettingsTable) : List AccountSettings :=
  table.rows.map SettingsRow.toAccountSettings

/-- `_settings_payload`. -/
def payload (table : SettingsTable) (domainId : String) : SettingsPayload :=
  match table.rows.find? fun row => row.domainId = domainId with
  | some row => ⟨row.countBackupSnapshots, some row.updatedAt, some row.updatedBy⟩
  | none => ⟨true, none, none⟩

end SettingsTable

/-- A request to `AccountDetailView.patch`. -/
structure BackupPatch where
  accountId : String
  /-- The operator. -/
  email : String
  role : Role
  data : Json
  /-- What `snapshot.get` answers. -/
  snapshot : Except Raised PanelSnapshot
  /-- Whether the journal takes the row; where it does not, the request goes on. -/
  recorded : Bool

/-- How the request fails. -/
inductive BackupFailure where
  | app (err : AppError)
  | raised (err : Raised)

/-- The settings and the operators' journal. -/
structure BackupDesk where
  table : SettingsTable
  journal : List AdminAction
  now : Instant

namespace BackupPatch

variable (patch : BackupPatch)

/-- `CanWriteOrBill`. -/
def permitted : Bool := patch.role.canWrite || patch.role.canBill

/-- `snapshot.account`. -/
def account : Except Raised (Option AccountView) :=
  patch.snapshot.map fun snapshot => snapshot.picture.accounts.find? fun a => a.id = patch.accountId

/-- The row that the request writes. -/
def row (entry : AccountView) (count : Bool) (now : Instant) : SettingsRow :=
  ⟨⟨patch.accountId, entry.name, count⟩, patch.email, now⟩

/-- The row of the journal. -/
def action (entry : AccountView) (count : Bool) : AdminAction :=
  ⟨patch.email, "account.settings.update", entry.name, "account", patch.accountId, entry.name,
    .success, "", [("countBackupSnapshots", .flag count)]⟩

/-- `services.record`, which never raises. -/
def written (entry : AccountView) (count : Bool) : List AdminAction :=
  if patch.recorded then [patch.action entry count] else []

/-- `AccountDetailView.patch`. -/
def serve (desk : BackupDesk) : Except BackupFailure (String × SettingsPayload) × BackupDesk :=
  if patch.permitted then
    match patch.account with
    | .error err => (.error (.raised err), desk)
    | .ok none => (.error (.app ⟨"No such account.", "account_not_found", 404⟩), desk)
    | .ok (some entry) =>
      match patch.data.entry "countBackupSnapshots" with
      | .bool count =>
        let table := desk.table.updateOrCreate (patch.row entry count desk.now)
        (.ok (patch.accountId, table.payload patch.accountId),
          { desk with table := table, journal := desk.journal ++ patch.written entry count })
      | _ =>
        (.error (.app ⟨"`countBackupSnapshots` must be true or false.", "invalid_request", 400⟩),
          desk)
  else
    (.error (.app ⟨"This action needs the Owner, Operations or Finance role.", "forbidden", 403⟩),
      desk)

/-- What the request makes of the setting of its account, and the row it has for the journal. -/
def made : Option (Bool × AdminAction) :=
  if patch.permitted then
    match patch.account, patch.data.entry "countBackupSnapshots" with
    | .ok (some entry), .bool count => some (count, patch.action entry count)
    | _, _ => none
  else none

end BackupPatch

/-- What happens to the settings. -/
inductive BackupEvent where
  | patch (patch : BackupPatch)
  /-- Time passes. -/
  | pass (duration : ℕ)

/-- The desk after an event. -/
def serveBackups (desk : BackupDesk) : BackupEvent → BackupDesk
  | .patch patch => (patch.serve desk).2
  | .pass duration => { desk with now := desk.now + duration }

/-- The settings over time. -/
def backupSwitch : System BackupDesk BackupEvent :=
  System.ofExec fun desk event => some (serveBackups desk event)

/-- The setting that an event makes for an account. -/
def BackupEvent.sets (domainId : String) : BackupEvent → Option Bool
  | .patch request => if request.accountId = domainId then request.made.map Prod.fst else none
  | .pass _ => none

/-- The row that an event leaves in the journal. -/
def BackupEvent.action : BackupEvent → Option AdminAction
  | .patch request => if request.recorded then request.made.map Prod.snd else none
  | .pass _ => none

/-- The setting that was made last; backups count where none was. -/
def lastSet (events : List BackupEvent) (domainId : String) : Bool :=
  ((events.filterMap fun event => event.sets domainId).getLast?).getD true

/-- Nothing is set. -/
def BackupDesk.fresh : BackupDesk := ⟨.empty, [], 0⟩

section

variable {desk : BackupDesk} {patch : BackupPatch} {event : BackupEvent} {events : List BackupEvent}
  {table : SettingsTable} {row : SettingsRow} {domainId : String}

theorem countsBackups_iff (hd : domainId ≠ "") : countsBackups table.settings domainId = false ↔
    ∃ row ∈ table.rows, row.domainId = domainId ∧ row.countBackupSnapshots = false := by
  rw [countsBackups, decide_eq_false_iff_not, not_not, mem_uncounted]
  simp [hd, SettingsTable.settings]

theorem mem_updateOrCreate_settings {b : SettingsRow} :
    b ∈ (table.updateOrCreate row).rows ↔ b = row ∨
      (b ∈ table.rows ∧ b.domainId ≠ row.domainId) := by
  refine Table.mem_upsert_iff (table.unique.imp ?_)
  intro a b hab ⟨ha, hb⟩
  exact hab (Eq.trans ha (Eq.symm hb))

/-- The setting of the account is what was written, and those of others stay. -/
theorem countsBackups_updateOrCreate (hd : domainId ≠ "") :
    countsBackups (table.updateOrCreate row).settings domainId =
      if row.domainId = domainId then
        row.countBackupSnapshots else countsBackups table.settings domainId := by
  rw [Bool.eq_iff_iff, ← not_iff_not, Bool.not_eq_true, Bool.not_eq_true, countsBackups_iff hd]
  simp only [mem_updateOrCreate_settings]
  split_ifs with hrow
  · subst hrow
    constructor
    · rintro ⟨b, rfl | ⟨-, hne⟩, hb, hcount⟩
      · exact hcount
      · exact absurd hb hne
    · exact fun hcount => ⟨row, .inl rfl, rfl, hcount⟩
  · rw [countsBackups_iff hd]
    constructor
    · rintro ⟨b, rfl | ⟨hmem, -⟩, hb, hcount⟩
      · exact absurd hb hrow
      · exact ⟨b, hmem, hb, hcount⟩
    · rintro ⟨b, hmem, hb, hcount⟩
      exact ⟨b, .inr ⟨hmem, fun h => hrow (h.symm.trans hb)⟩, hb, hcount⟩

/-- A request writes its row and records it, or does nothing. -/
theorem serve_cases (patch : BackupPatch) (desk : BackupDesk) :
    (patch.made = none ∧ (patch.serve desk).2 = desk) ∨
      ∃ entry count, patch.made = some (count, patch.action entry count) ∧
        (patch.serve desk).2 = { desk with
          table := desk.table.updateOrCreate (patch.row entry count desk.now)
          journal := desk.journal ++ patch.written entry count } := by
  unfold BackupPatch.made BackupPatch.serve
  split_ifs with hpermitted
  · cases haccount : patch.account with
    | error err => exact .inl ⟨rfl, rfl⟩
    | ok found =>
      cases found with
      | none => exact .inl ⟨rfl, rfl⟩
      | some entry =>
        cases hcount : patch.data.entry "countBackupSnapshots" with
        | bool count => exact .inr ⟨entry, count, rfl, rfl⟩
        | null => exact .inl ⟨rfl, rfl⟩
        | int n => exact .inl ⟨rfl, rfl⟩
        | float x => exact .inl ⟨rfl, rfl⟩
        | string s => exact .inl ⟨rfl, rfl⟩
        | list items => exact .inl ⟨rfl, rfl⟩
        | object fields => exact .inl ⟨rfl, rfl⟩
  · exact .inl ⟨rfl, rfl⟩

theorem lastSet_snoc : lastSet (events ++ [event]) domainId =
    (event.sets domainId).getD (lastSet events domainId) := by
  unfold lastSet
  rw [List.filterMap_append, List.filterMap_cons, List.filterMap_nil]
  cases event.sets domainId <;> simp

theorem counts_of_step (hd : domainId ≠ "") (desk : BackupDesk) (event : BackupEvent) :
    countsBackups (serveBackups desk event).table.settings domainId =
      (event.sets domainId).getD (countsBackups desk.table.settings domainId) := by
  cases event with
  | pass duration => rfl
  | patch patch =>
    rw [serveBackups, BackupEvent.sets]
    rcases serve_cases patch desk with ⟨hmade, hserve⟩ | ⟨entry, count, hmade, hserve⟩
    · rw [hserve, hmade]
      split_ifs <;> rfl
    · rw [hserve, hmade, countsBackups_updateOrCreate hd]
      show (if patch.accountId = domainId then _ else _) = _
      split_ifs <;> rfl

/-- The setting of an account is the one made last. -/
theorem counts_of_run (hd : domainId ≠ "")
    (hrun : backupSwitch.Run System.Free .fresh events desk) :
    countsBackups desk.table.settings domainId = lastSet events domainId := by
  refine hrun.invariant (I := fun events desk => countsBackups desk.table.settings domainId =
    lastSet events domainId)
    (by
      simp [BackupDesk.fresh, SettingsTable.settings, SettingsTable.empty, countsBackups, uncounted,
        lastSet])
    fun events desk event desk' h _ hstep => ?_
  obtain rfl := Option.some.inj hstep
  rw [counts_of_step hd, lastSet_snoc, h]

/-- The journal holds the settings that were made and taken down, in their order, and nothing
else. -/
theorem settings_recorded_of_run (hrun : backupSwitch.Run System.Free .fresh events desk) :
    desk.journal = events.filterMap BackupEvent.action := by
  refine hrun.invariant (I := fun events desk => desk.journal = events.filterMap BackupEvent.action)
    rfl
    fun events desk event desk' h _ hstep => ?_
  obtain rfl := Option.some.inj hstep
  rw [List.filterMap_append, ← h]
  cases event with
  | pass duration => exact (List.append_nil _).symm
  | patch patch =>
    rw [serveBackups, List.filterMap_cons, List.filterMap_nil, BackupEvent.action]
    rcases serve_cases patch desk with ⟨hmade, hserve⟩ | ⟨entry, count, hmade, hserve⟩
    · rw [hserve, hmade, Option.map_none, ite_self]
      exact (List.append_nil _).symm
    · rw [hserve, hmade, BackupPatch.written]
      split_ifs <;> rfl

end

end OpenCloud
