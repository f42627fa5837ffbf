import OpenCloud.Billing.Footprint
import OpenCloud.Integrations.Listings

/-!
# One picture of the whole cluster

Eight lists that span the cluster are folded into figures per account and per project, each row
attributed by the project it carries.  A list, or the projects of an account, may be refused: its
figures are then unknown, which is not zero.  The totals are counted from the lists themselves, and
the rows that no account has are counted apart.

Project objects are shared between the account that lists them and the dictionary of projects; the
model names an object by its place among those listed.  When a project is listed twice the
dictionary has the later object, and the earlier one keeps its blank figures.
-/

namespace OpenCloud

/-- The lists that are folded in. -/
inductive Source where
  | vms
  | volumes
  | volumeSnapshots
  | vmSnapshots
  | publicIps
  | vpcs
  | subnets
  | securityGroups
  deriving DecidableEq

/-- `SOURCES`. -/
def Source.all : List Source :=
  [.vms, .volumes, .volumeSnapshots, .vmSnapshots, .publicIps, .vpcs, .subnets, .securityGroups]

theorem Source.mem_all (s : Source) : s ∈ Source.all := by
  cases s <;> decide

/-- A row that is only counted. -/
structure CountedItem where
  projectId : Option String

/-- The rows of a list. -/
abbrev Source.Row : Source → Type
  | .vms => Vm
  | .volumes => Volume
  | .volumeSnapshots => VolumeSnapshot
  | .publicIps => ElasticIp
  | .vmSnapshots | .vpcs | .subnets | .securityGroups => CountedItem

/-- `row.get('projectId') or ''`. -/
def Source.projectId (s : Source) (row : s.Row) : String :=
  match s, row with
  | .vms, (vm : Vm) => vm.projectId.getD ""
  | .volumes, (volume : Volume) => volume.projectId.getD ""
  | .volumeSnapshots, (snap : VolumeSnapshot) => snap.projectId.getD ""
  | .publicIps, (eip : ElasticIp) => eip.projectId.getD ""
  | .vmSnapshots, (item : CountedItem) | .vpcs, (item : CountedItem) | .subnets,
    (item : CountedItem)
  | .securityGroups, (item : CountedItem) => item.projectId.getD ""

/-! ### Figures -/

/-- The usage fields that are numbers. -/
inductive Figure where
  | vmCount
  | runningVms
  | vcpus
  | ramMB
  | volumeCount
  | storageGiB
  | volumeSnapshotCount
  | volumeSnapshotGiB
  | backupSnapshotCount
  | backupSnapshotGiB
  | vmSnapshotCount
  | publicIps
  | vpcCount
  | subnetCount
  | securityGroupCount
  deriving DecidableEq

/-- The usage fields. -/
inductive UsageField where
  | figure (f : Figure)
  | storageByMedia
  deriving DecidableEq

/-- `FIELDS_BY_SOURCE`. -/
def fieldsBySource : Source → List UsageField
  | .vms => [.figure .vmCount, .figure .runningVms, .figure .vcpus, .figure .ramMB]
  | .volumes => [.figure .volumeCount, .figure .storageGiB, .storageByMedia]
  | .volumeSnapshots => [.figure .volumeSnapshotCount, .figure .volumeSnapshotGiB,
      .figure .backupSnapshotCount, .figure .backupSnapshotGiB]
  | .vmSnapshots => [.figure .vmSnapshotCount]
  | .publicIps => [.figure .publicIps]
  | .vpcs => [.figure .vpcCount]
  | .subnets => [.figure .subnetCount]
  | .securityGroups => [.figure .securityGroupCount]

/-- The figures of an entry while they are counted. -/
structure Usage where
  figure : Figure → ℕ
  storageByMedia : List MediaTotal

/-- `_blank_usage()`. -/
def blankUsage : Usage := ⟨fun _ => 0, []⟩

/-- `usage[field] += n`. -/
def Usage.add (usage : Usage) (f : Figure) (n : ℕ) : Usage :=
  { usage with figure := Function.update usage.figure f (usage.figure f + n) }

/-- `_add_vm`. -/
def addVm (c : Casing) (vm : Vm) (usage : Usage) : Usage :=
  let usage := ((usage.add .vmCount 1).add .vcpus vm.vcpus).add .ramMB vm.ramMB
  if c.lower vm.status ∈ ["running", "active"] then usage.add .runningVms 1 else usage

/-- `_add_volume`. -/
def addVolume (volume : Volume) (usage : Usage) : Usage :=
  (usage.add .volumeCount 1).add .storageGiB volume.sizeGiB

/-- `_add_volume_snapshot`. -/
def addVolumeSnapshot (snap : VolumeSnapshot) (usage : Usage) : Usage :=
  let usage := (usage.add .volumeSnapshotCount 1).add .volumeSnapshotGiB snap.sizeGiB
  if isBackup snap.protectionGroupId none then
    (usage.add .backupSnapshotCount 1).add .backupSnapshotGiB snap.sizeGiB
  else usage

/-- `_FOLD`. -/
def foldRow (c : Casing) (s : Source) (row : s.Row) (usage : Usage) : Usage :=
  match s, row with
  | .vms, vm => addVm c vm usage
  | .volumes, volume => addVolume volume usage
  | .volumeSnapshots, snap => addVolumeSnapshot snap usage
  | .vmSnapshots, _ => usage.add .vmSnapshotCount 1
  | .publicIps, _ => usage.add .publicIps 1
  | .vpcs, _ => usage.add .vpcCount 1
  | .subnets, _ => usage.add .subnetCount 1
  | .securityGroups, _ => usage.add .securityGroupCount 1

/-- The figures as they are shown: a number nobody could read is none. -/
structure ShownUsage where
  figure : Figure → Option ℕ
  storageByMedia : Option (List MediaTotal)

def Usage.shown (usage : Usage) : ShownUsage :=
  ⟨fun f => some (usage.figure f), some usage.storageByMedia⟩

/-- `entry[field] = None`. -/
def ShownUsage.blankOut (entry : ShownUsage) : UsageField → ShownUsage
  | .figure f => { entry with figure := Function.update entry.figure f none }
  | .storageByMedia => { entry with storageByMedia := none }

/-- `_mark_unavailable`. -/
def ShownUsage.markUnavailable (entry : ShownUsage) (unavailable : List Source) : ShownUsage :=
  unavailable.foldl (fun entry s => (fieldsBySource s).foldl ShownUsage.blankOut entry) entry

/-! ### The accounts and their projects -/

/-- What the cloud answers while the picture is built. -/
structure PanelCloud extends Cloud where
  /-- `service.list_domain_project_details`. -/
  projectDetails : String → Except ZadaraError (List ProjectDetails)
  vmSnapshots : Except ZadaraError (List CountedItem)
  vpcs : Except ZadaraError (List CountedItem)
  subnets : Except ZadaraError (List CountedItem)
  securityGroups : Except ZadaraError (List CountedItem)

/-- The answer for a list. -/
def PanelCloud.list (cloud : PanelCloud) : (s : Source) → Except ZadaraError (List s.Row)
  | .vms => cloud.vms
  | .volumes => cloud.volumes
  | .volumeSnapshots => cloud.volumeSnapshots
  | .vmSnapshots => cloud.vmSnapshots
  | .publicIps => cloud.elasticIps
  | .vpcs => cloud.vpcs
  | .subnets => cloud.subnets
  | .securityGroups => cloud.securityGroups

/-- The rows of a list; none where it is refused. -/
def PanelCloud.rows (cloud : PanelCloud) (s : Source) : List s.Row := source (cloud.list s)

/-- An account, with the objects of the projects it lists. -/
structure AccountEntry where
  id : String
  name : String
  projects : List ℕ

/-- What the loop over the domains has put together. -/
structure PanelDirectory where
  accounts : Dict String AccountEntry
  /-- The project objects, in the order in which they were listed. -/
  objects : List ProjectDetails
  /-- project → its object. -/
  projects : Dict String ℕ
  accountOfProject : Dict String String
  unreadable : List String

/-- `_blank_account`, for every domain. -/
def blankAccounts (domains : List Domain) : Dict String AccountEntry :=
  domains.foldl (fun accounts d => accounts.set d.id ⟨d.id, d.name, []⟩) []

/-- One project that a domain lists. -/
def listProject (domainId : String) (dir : PanelDirectory) (project : ProjectDetails) :
    PanelDirectory :=
  { dir with
    objects := dir.objects ++ [project]
    projects := dir.projects.set project.id dir.objects.length
    accountOfProject := dir.accountOfProject.set project.id domainId }

/-- One domain: nothing can be attributed to an account whose projects are refused. -/
def readDomain (cloud : PanelCloud) (dir : PanelDirectory) (domain : Domain) : PanelDirectory :=
  match cloud.projectDetails domain.id with
  | .error _ => { dir with unreadable := dir.unreadable ++ [domain.name] }
  | .ok listed =>
    let listing := listed.foldl (listProject domain.id) dir
    { listing with
      accounts := listing.accounts.update domain.id ⟨domain.id, domain.name, []⟩ fun account =>
        { account with projects := List.range' dir.objects.length listed.length } }

def panelDirectory (cloud : PanelCloud) (domains : List Domain) : PanelDirectory :=
  domains.foldl (readDomain cloud) ⟨blankAccounts domains, [], [], [], []⟩

/-! ### Counting the rows -/

/-- The figures of the accounts and of the project objects, the volumes kept aside for the split by
medium, and the rows that no account has. -/
structure Counting where
  ofAccount : String → Usage
  ofProject : ℕ → Usage
  volumesOfAccount : String → List Volume
  volumesOfProject : String → List Volume
  unattributed : Source → ℕ

/-- Before the first row. -/
def Counting.blank : Counting :=
  ⟨fun _ => blankUsage, fun _ => blankUsage, fun _ => [], fun _ => [], fun _ => 0⟩

/-- The row itself, if it is a volume. -/
def keptVolume (s : Source) (row : s.Row) : List Volume :=
  match s, row with
  | .volumes, volume => [volume]
  | _, _ => []

/-- One row.  A row whose project is in no account is counted apart. -/
def attributeRow (c : Casing) (dir : PanelDirectory) (s : Source) (st : Counting) (row : s.Row) :
    Counting :=
  let projectId := s.projectId row
  -- a project is put into both dictionaries at once
  match keep (dir.accountOfProject.get? projectId), dir.projects.get? projectId with
  | some accountId, some object =>
    { st with
      ofAccount := Function.update st.ofAccount accountId (foldRow c s row (st.ofAccount accountId))
      ofProject := Function.update st.ofProject object (foldRow c s row (st.ofProject object))
      volumesOfAccount := Function.update st.volumesOfAccount accountId
        (st.volumesOfAccount accountId ++ keptVolume s row)
      volumesOfProject := Function.update st.volumesOfProject projectId
        (st.volumesOfProject projectId ++ keptVolume s row) }
  | _, _ => { st with unattributed := Function.update st.unattributed s (st.unattributed s + 1) }

/-- The rows of every list that was read. -/
def countRows (c : Casing) (cloud : PanelCloud) (dir : PanelDirectory) : Counting :=
  Source.all.foldl (fun st s => (cloud.rows s).foldl (attributeRow c dir s) st) .blank

/-! ### The picture -/

/-- A list was refused. -/
def PanelCloud.Unavailable (cloud : PanelCloud) (s : Source) : Prop :=
  match cloud.list s with
  | .ok _ => False
  | .error _ => True

instance (cloud : PanelCloud) : DecidablePred cloud.Unavailable := fun s => by
  unfold PanelCloud.Unavailable
  cases cloud.list s <;> infer_instance

/-- The lists that were refused. -/
def PanelCloud.unavailable (cloud : PanelCloud) : List Source :=
  Source.all.filter fun s => cloud.Unavailable s

/-- `entry['storageByMedia'] = media_totals(held)`, if the volumes were read. -/
def Usage.splitByMedia (cloud : PanelCloud) (held : List Volume) (usage : Usage) : Usage :=
  if cloud.Unavailable .volumes then usage else { usage with storageByMedia := mediaTotals held }

/-- A project with its figures. -/
structure ProjectView where
  project : ProjectDetails
  usage : ShownUsage

/-- An account with its projects and its figures. -/
structure AccountView where
  id : String
  name : String
  projects : List ProjectView
  usage : ShownUsage

/-- The figures of the whole cluster. -/
structure Totals where
  accounts : ℕ
  projects : ℕ
  usage : ShownUsage

/-- What `_build` returns. -/
structure Picture where
  accounts : List AccountView
  totals : Totals
  /-- The rows without an account, for the lists that were read. -/
  unattributed : Source → Option ℕ
  unavailable : List Source
  unreadableAccounts : List String

/-- A project object as it is shown; one that the dictionary of projects does not have is blank. -/
def viewProject (cloud : PanelCloud) (dir : PanelDirectory) (st : Counting) (object : ℕ) :
    Option ProjectView :=
  dir.objects[object]?.map fun project =>
    { project
      usage :=
        if dir.projects.get? project.id = some object then
          ((st.ofProject object).splitByMedia cloud
            (st.volumesOfProject project.id)).shown.markUnavailable
            cloud.unavailable
        else blankUsage.shown }

/-- An account as it is shown; one whose projects could not be listed has no known figures. -/
def viewAccount (cloud : PanelCloud) (dir : PanelDirectory) (st : Counting)
    (account : AccountEntry) :
    AccountView :=
  let usage := ((st.ofAccount account.id).splitByMedia cloud
    (st.volumesOfAccount account.id)).shown.markUnavailable cloud.unavailable
  { id := account.id
    name := account.name
    projects := account.projects.filterMap (viewProject cloud dir st)
    usage := if account.name ∈ dir.unreadable then usage.markUnavailable Source.all else usage }

/-- The figures of `_totals`, from the lists themselves. -/
def totalUsage (c : Casing) (cloud : PanelCloud) : Usage where
  figure
    | .vmCount => (source cloud.vms).length
    | .runningVms => ((source cloud.vms).filter fun vm => vm.Running c).length
    | .vcpus => tally Vm.vcpus (source cloud.vms)
    | .ramMB => tally Vm.ramMB (source cloud.vms)
    | .volumeCount => (source cloud.volumes).length
    | .storageGiB => tally Volume.sizeGiB (source cloud.volumes)
    | .volumeSnapshotCount => (source cloud.volumeSnapshots).length
    | .volumeSnapshotGiB => tally VolumeSnapshot.sizeGiB (source cloud.volumeSnapshots)
    | .backupSnapshotCount => ((source cloud.volumeSnapshots).filter fun s => s.Backup).length
    | .backupSnapshotGiB => tally VolumeSnapshot.sizeGiB
        ((source cloud.volumeSnapshots).filter fun s => s.Backup)
    | .vmSnapshotCount => (source cloud.vmSnapshots).length
    | .publicIps => (source cloud.elasticIps).length
    | .vpcCount => (source cloud.vpcs).length
    | .subnetCount => (source cloud.subnets).length
    | .securityGroupCount => (source cloud.securityGroups).length
  storageByMedia := mediaTotals (source cloud.volumes)

/-- `_build`.  The machines are the one list the picture cannot be built without. -/
def buildPicture (c : Casing) (cloud : PanelCloud) : Except ZadaraError Picture := do
  let _token ← cloud.serviceToken
  let domains ← cloud.listDomains
  let _vms ← cloud.list .vms
  let dir := panelDirectory cloud domains
  let st := countRows c cloud dir
  let accounts := dir.accounts.map Prod.snd
  return {
    accounts := (accounts.map (viewAccount cloud dir st)).insertionSort
      fun a b => c.lower a.name ≤ c.lower b.name
    totals :=
      { accounts := accounts.length
        projects := (accounts.map fun account => account.projects.length).sum
        usage := (totalUsage c cloud).shown.markUnavailable cloud.unavailable }
    unattributed := fun s => if cloud.Unavailable s then none else some (st.unattributed s)
    unavailable := cloud.unavailable
    unreadableAccounts := dir.unreadable }

end OpenCloud
