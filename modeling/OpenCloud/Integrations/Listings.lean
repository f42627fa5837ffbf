import OpenCloud.Integrations.Resources
import Mathlib.Algebra.Ring.Nat
import Mathlib.Data.List.Infix

/-!
# The lists of the cluster, row by row

What the integration layer makes of the rows the cloud answers: machines with their addresses and
disks, volumes labelled with the medium of their type.  A `Cluster` is the answers of the cloud to
the service token, in rows of the expected types; `Cluster.cloud` is what the other modules read of
it.

An optional field is one the row may leave out.

## Main results

* `get?_publicIpsByInstance` : the addresses listed for a machine are those bound to it, in order.
-/

namespace OpenCloud

/-! ### The rows of the cloud -/

/-- A row of `/api/v2/vms`. -/
structure RawVm where
  id : Option String
  name : Option String
  status : Option String
  vcpus : Option ℕ
  ramMB : Option ℕ
  diskGB : Option ℕ
  instanceType : Option String
  imageId : Option String
  created : Option String
  launchedAt : Option String
  keyPair : Option String
  vpcId : Option String
  availabilityZone : Option String
  /-- The addresses of its networks. -/
  networks : List (Option String)
  tags : List String
  projectId : Option String

/-- A row of `/api/v2/vpcs/elastic-ips`. -/
structure RawElasticIp where
  publicIp : Option String
  instanceId : Option String
  projectId : Option String

/-- A row of `/api/v3/volumes`. -/
structure RawVolume where
  sizeGib : Option ℕ
  /-- The machines of `attachment.hosts`. -/
  hosts : List (Option String)
  /-- The id of the volume type. -/
  storagePool : Option String
  projectId : Option String

/-- A row of `/api/v4/volumes/volume-types`. -/
structure RawVolumeType where
  id : Option String
  name : Option String
  description : Option String
  storageClassId : Option String

/-- A row of `/api/v4/snapshots`. -/
structure RawSnapshot where
  sizeGib : Option ℕ
  protectionGroupId : Option String
  projectId : Option String

/-- A row of `/identity/projects`. -/
structure RawProject where
  id : Option String
  name : Option String
  description : Option String
  enabled : Option Bool
  isVpc : Bool
  isDomain : Bool

/-- The answers of the cloud to the service token. -/
structure Cluster where
  serviceToken : Except ZadaraError String
  directory : Except ZadaraError (List DirectoryEntry)
  projects : String → Except ZadaraError (List RawProject)
  vms : Except ZadaraError (List RawVm)
  volumes : Except ZadaraError (List RawVolume)
  volumeTypes : Except ZadaraError (List RawVolumeType)
  elasticIps : Except ZadaraError (List RawElasticIp)
  volumeSnapshots : Except ZadaraError (List RawSnapshot)

/-- `str(x) if x else None`. -/
def keep (x : Option String) : Option String := if truthy x then x else none

/-- `x or y`. -/
def firstOf (x y : Option String) : Option String := if truthy x then x else y

theorem keep_eq_some {x : Option String} {s : String} : keep x = some s ↔ x = some s ∧ s ≠ "" := by
  cases x with
  | none => simp [keep, truthy]
  | some t =>
    by_cases ht : t = ""
    · subst ht
      simp only [keep, truthy, bne_self_eq_false, Bool.false_eq_true, ↓reduceIte, reduceCtorEq,
        Option.some.injEq, false_iff, not_and, not_not]
      exact Eq.symm
    · simp only [keep, truthy, bne_iff_ne, ne_eq, ht, not_false_eq_true, ↓reduceIte,
        Option.some.injEq, iff_self_and]
      rintro rfl
      exact ht

theorem keep_keep (x : Option String) : keep (keep x) = keep x := by
  by_cases h : truthy x = true <;> simp [keep, h]

theorem truthy_keep (x : Option String) : truthy (keep x) = (keep x).isSome := by
  cases h : keep x with
  | none => rfl
  | some s => simpa [truthy] using (keep_eq_some.1 h).2

/-! ### Machines -/

/-- A machine, as `normalize_vm` gives it. -/
structure VmRow extends Vm where
  id : String
  name : String
  diskGB : ℕ
  instanceType : String
  imageId : Option String
  createdAt : Option String
  keyPair : Option String
  vpcId : Option String
  availabilityZone : Option String
  privateIps : List String
  tags : List String

def normalizeVm (raw : RawVm) : VmRow where
  id := raw.id.getD ""
  name := raw.name.getD ""
  status := (firstOf raw.status (some "unknown")).getD ""
  vcpus := raw.vcpus.getD 0
  ramMB := raw.ramMB.getD 0
  diskGB := raw.diskGB.getD 0
  instanceType := raw.instanceType.getD ""
  imageId := keep raw.imageId
  createdAt := firstOf raw.created raw.launchedAt
  keyPair := raw.keyPair
  vpcId := keep raw.vpcId
  availabilityZone := raw.availabilityZone
  privateIps := raw.networks.filterMap keep
  tags := raw.tags
  projectId := keep raw.projectId

/-! ### Public addresses -/

/-- A public address with the machine it is bound to. -/
structure ListedElasticIp extends ElasticIp where
  publicIp : Option String
  instanceId : Option String

/-- A row of `list_elastic_ips`. -/
def normalizeElasticIp (raw : RawElasticIp) : ListedElasticIp where
  publicIp := raw.publicIp
  instanceId := keep raw.instanceId
  projectId := keep raw.projectId

def listElasticIps (cluster : Cluster) : Except ZadaraError (List ListedElasticIp) :=
  cluster.elasticIps.map (List.map normalizeElasticIp)

/-- machine → its public addresses. -/
def publicIpsByInstance (eips : List ListedElasticIp) : Dict String (List String) :=
  eips.foldl (fun mapping eip => match keep eip.instanceId, keep eip.publicIp with
    | some instanceId, some publicIp => mapping.update instanceId [] fun ips => ips ++ [publicIp]
    | _, _ => mapping) []

/-- The addresses that `eips` bind to a machine, in order. -/
def boundIps (eips : List ListedElasticIp) (instanceId : String) : List String :=
  (eips.filter fun eip => keep eip.instanceId = some instanceId).filterMap fun eip =>
    keep eip.publicIp

/-- The addresses listed for a machine are those bound to it, in order. -/
theorem get?_publicIpsByInstance (eips : List ListedElasticIp) (instanceId : String) :
    ((publicIpsByInstance eips).get? instanceId).getD [] = boundIps eips instanceId := by
  suffices ∀ mapping : Dict String (List String),
      ((eips.foldl (fun mapping eip => match keep eip.instanceId, keep eip.publicIp with
        | some instanceId, some publicIp => mapping.update instanceId [] fun ips => ips ++
          [publicIp]
        | _, _ => mapping) mapping).get? instanceId).getD [] =
          (mapping.get? instanceId).getD [] ++ boundIps eips instanceId by
    simpa [publicIpsByInstance, Dict.get?] using this []
  induction eips with
  | nil => simp [boundIps]
  | cons eip eips ih =>
    intro mapping
    rw [List.foldl_cons, ih]
    unfold boundIps
    cases hi : keep eip.instanceId with
    | none => simp [hi]
    | some i =>
      cases hp : keep eip.publicIp with
      | none =>
        by_cases hii : i = instanceId
        · simp [hi, hii, hp]
        · simp [hi, hii]
      | some ip =>
        dsimp only
        rw [Dict.get?_update]
        by_cases hii : i = instanceId
        · subst hii
          simp [hi, hp]
        · simp [hi, hii]

/-! ### Volumes and their media -/

/-- A volume with the machine it serves and its type. -/
structure ListedVolume extends Volume where
  attachedToId : Option String
  volumeTypeId : Option String
  volumeType : String

/-- `_attached_instance`: the first machine the volume names. -/
def attachedInstance (hosts : List (Option String)) : Option String := (hosts.filterMap keep).head?

def normalizeVolume (raw : RawVolume) : ListedVolume where
  sizeGiB := raw.sizeGib.getD 0
  attachedToId := attachedInstance raw.hosts
  volumeTypeId := keep raw.storagePool
  volumeType := ""
  media := ""
  projectId := keep raw.projectId

/-- `hint in text`. -/
def contains (text hint : String) : Bool := decide (hint.toList <:+: text.toList)

/-- What says SSD in the name or description of a type. -/
def ssdHints : List String := ["ssd", "flash", "nvme", "general purpose", "general-purpose"]

/-- What says HDD. -/
def hddHints : List String := ["hdd", "hard drive", "hard-drive", "spinning", "sata"]

/-- `_media_from_text`: a text that says both, or neither, is not labelled. -/
def mediaFromText (c : Casing) (text : String) : String :=
  let lowered := c.lower text
  let ssd := ssdHints.any (contains lowered)
  let hdd := hddHints.any (contains lowered)
  if ssd && !hdd then "SSD"
  else if hdd && !ssd then "HDD"
  else ""

/-- A volume type with its medium. -/
structure VolumeType where
  name : String
  storageClassId : String
  media : String

/-- The types that have an id, each with what its own text says. -/
def volumeTypesByText (c : Casing) (raw : List RawVolumeType) : Dict String VolumeType :=
  raw.foldl (fun types entry => match keep entry.id with
    | none => types
    | some id => types.set id
        { name := entry.name.getD "", storageClassId := entry.storageClassId.getD ""
          media := mediaFromText c (entry.name.getD "" ++ " " ++ entry.description.getD "") }) []

/-- class → the media its types say. -/
def mediaByClass (types : Dict String VolumeType) : Dict String (List String) :=
  types.foldl (fun byClass e =>
    if e.2.media ≠ "" ∧ e.2.storageClassId ≠ "" then
      byClass.update e.2.storageClassId [] fun media =>
        if e.2.media ∈ media then media else media ++ [e.2.media]
    else byClass) []

/-- `_classify_volume_types`: a type whose text says nothing takes the one medium of its class. -/
def classifyVolumeTypes (c : Casing) (raw : List RawVolumeType) : Dict String VolumeType :=
  let types := volumeTypesByText c raw
  let byClass := mediaByClass types
  types.map fun e =>
    if e.2.media ≠ "" then e
    else match (byClass.get? e.2.storageClassId).getD [] with
      | [media] => (e.1, { e.2 with media := media })
      | _ => e

/-- `safe_volume_type_index`: the types, or nothing. -/
def safeVolumeTypeIndex (c : Casing) (cluster : Cluster) : Dict String VolumeType :=
  match cluster.volumeTypes with
  | .ok raw => classifyVolumeTypes c raw
  | .error _ => []

/-- `label_volume_media`, on one volume. -/
def labelVolumeMedia (types : Dict String VolumeType) (volume : ListedVolume) : ListedVolume :=
  match types.get? (volume.volumeTypeId.getD "") with
  | some entry => { volume with volumeType := entry.name, media := entry.media }
  | none => { volume with volumeType := "", media := "" }

def listVolumes (c : Casing) (cluster : Cluster) : Except ZadaraError (List ListedVolume) :=
  cluster.volumes.map fun rows =>
    rows.map fun raw => labelVolumeMedia (safeVolumeTypeIndex c cluster) (normalizeVolume raw)

/-- How many volumes, and how much. -/
structure MediaTally where
  volumes : ℕ
  totalGiB : ℕ
  deriving DecidableEq

/-- The capacity on one medium. -/
structure MediaTotal extends MediaTally where
  media : String
  deriving DecidableEq

/-- Count one more volume. -/
def MediaTally.add (volume : Volume) (t : MediaTally) : MediaTally :=
  ⟨t.volumes + 1, t.totalGiB + volume.sizeGiB⟩

/-- Biggest first, what is unlabelled last. -/
def MediaTotal.le (a b : MediaTotal) : Prop :=
  (a.media ≠ "" ∧ b.media = "") ∨ ((a.media = "" ↔ b.media = "") ∧ b.totalGiB ≤ a.totalGiB)

instance : DecidableRel MediaTotal.le := fun _ _ => inferInstanceAs (Decidable (_ ∨ _))

/-- `media_totals`: capacity per medium. -/
def mediaTotals (volumes : List Volume) : List MediaTotal :=
  let buckets := Dict.collect (fun v : Volume => some v.media) ⟨0, 0⟩ MediaTally.add [] volumes
  (buckets.map fun e => { e.2 with media := e.1 }).insertionSort MediaTotal.le

/-! ### Machines with their addresses and disks -/

/-- A machine of `list_vms`. -/
structure ListedVm extends VmRow where
  publicIps : List String

/-- A machine of `list_vms(with_disks=True)`. -/
structure VmWithDisks extends ListedVm where
  /-- Unknown where the volumes could not be read. -/
  diskGiB : Option ℕ
  diskVolumes : ℕ
  diskMedia : List MediaTotal

/-- `list_vms`: the machines; their addresses are left out where they cannot be read. -/
def listVms (cluster : Cluster) : Except ZadaraError (List ListedVm) :=
  cluster.vms.map fun items =>
    let published := match listElasticIps cluster with
      | .ok eips => publicIpsByInstance eips
      | .error _ => []
    items.map fun raw =>
      let vm := normalizeVm raw
      { vm with publicIps := (published.get? vm.id).getD [] }

/-- The volumes by the machine they serve. -/
def volumesByInstance (volumes : List ListedVolume) : Dict String (List ListedVolume) :=
  Dict.collect (fun v => keep v.attachedToId) [] (fun v attached => attached ++ [v]) [] volumes

/-- `summarise_vm_disks`, on one machine. -/
def summariseVmDisks (volumes : Option (List ListedVolume)) (vm : ListedVm) : VmWithDisks :=
  let attached := ((volumesByInstance (volumes.getD [])).get? vm.id).getD []
  { vm with
    diskGiB := volumes.map fun _ => (attached.map fun v => v.sizeGiB).sum
    diskVolumes := attached.length
    diskMedia := mediaTotals (attached.map ListedVolume.toVolume) }

/-- `list_vms(with_disks=True)`. -/
def listVmsWithDisks (c : Casing) (cluster : Cluster) : Except ZadaraError (List VmWithDisks) :=
  (listVms cluster).map fun vms => vms.map (summariseVmDisks (listVolumes c cluster).toOption)

/-! ### What the other modules read -/

/-- A row of `list_volume_snapshots`. -/
def normalizeSnapshot (raw : RawSnapshot) : VolumeSnapshot where
  sizeGiB := raw.sizeGib.getD 0
  protectionGroupId := raw.protectionGroupId
  projectId := keep raw.projectId

/-- A cluster with the fields the other modules read. -/
def Cluster.cloud (c : Casing) (cluster : Cluster) : Cloud where
  serviceToken := cluster.serviceToken
  directory := cluster.directory
  projects domainId := (cluster.projects domainId).map fun rows =>
    rows.map fun p => (p.id.getD "", p.name.getD "")
  vms := (listVms cluster).map (List.map fun vm => vm.toVm)
  volumes := (listVolumes c cluster).map (List.map ListedVolume.toVolume)
  elasticIps := (listElasticIps cluster).map (List.map ListedElasticIp.toElasticIp)
  volumeSnapshots := cluster.volumeSnapshots.map (List.map normalizeSnapshot)

/-- A project of an account. -/
structure ProjectDetails where
  id : String
  name : String
  description : Option String
  enabled : Bool
  isVpc : Bool

/-- `list_domain_project_details`: the projects of an account, without the one that stands for the
domain itself. -/
def listDomainProjectDetails (cluster : Cluster) (domainId : String) :
    Except ZadaraError (List ProjectDetails) :=
  (cluster.projects domainId).map fun rows => (rows.filter fun p => !p.isDomain).map fun p =>
    { id := p.id.getD "", name := p.name.getD "", description := keep p.description
      enabled := p.enabled.getD true, isVpc := p.isVpc }

end OpenCloud
