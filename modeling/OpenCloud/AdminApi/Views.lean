import OpenCloud.Common.Tenancy
import OpenCloud.Integrations.Listings

/-!
# The administrator's own account

Reads go through the service token, which can see the whole cluster, so every view narrows the
result to the caller's account before it answers.
-/

namespace OpenCloud

section

variable (c : Casing) (cluster : Cluster) (user : CabinetUser)

/-- A machine as `AdminResourcesView` shows it. -/
structure ShownVm extends VmWithDisks where
  projectName : String

/-- What `AdminResourcesView` answers. -/
structure ResourcesReply where
  vms : List ShownVm
  total : ℕ
  diskInfo : Bool
  account : String
  projects : List (String × String)

/-- The machines in the projects asked for: `requested`, or all of the account. -/
def resourcesReply (account : String) (projects : Dict String String) (requested : Option String)
    (vms : List VmWithDisks) : ResourcesReply :=
  let allowed (pid : String) : Bool := pid ∈ projects.keys ∧ ∀ r, keep requested = some r → pid = r
  let vms := vms.filter fun vm => vm.projectId.any allowed
  { vms := vms.map fun vm =>
    { vm with projectName := (projects.get? (vm.projectId.getD "")).getD "" }
    total := vms.length
    diskInfo := vms.any fun vm => vm.diskGiB.isSome
    account := account
    projects := projects.insertionSort fun a b => a.2 ≤ b.2 }

/-- `AdminResourcesView.get`. -/
def adminResourcesGet (requested : Option String) : Except AppError ResourcesReply := do
  let account := strip user.account
  if account = "" then
    throw ⟨"Your session has no account, please sign in again.", "session_expired", 401⟩
  let failed (err : ZadaraError) : AppError := ⟨"Failed to load account resources", err.code, 502⟩
  let _token ← cluster.serviceToken.mapError failed
  let found ← ((cluster.cloud c).resolveDomainId c account).mapError (Raised.answered failed)
  let domainId := found.getD ""
  if domainId = "" then
    throw ⟨"Account not found in the cloud.", "account_not_found", 404⟩
  let projects ← ((cluster.cloud c).listDomainProjects domainId).mapError failed
  let vms ← (listVmsWithDisks c cluster).mapError failed
  return resourcesReply account projects requested vms

variable {c cluster user}

/-- What an answer of `AdminResourcesView` went through. -/
theorem adminResourcesGet_eq_ok {requested : Option String} {reply : ResourcesReply}
    (h : adminResourcesGet c cluster user requested = .ok reply) :
    ∃ d projects vms, (cluster.cloud c).resolveDomainId c (strip user.account) = .ok (some d) ∧
      (cluster.cloud c).listDomainProjects d = .ok projects ∧ listVmsWithDisks c cluster = .ok vms ∧
      reply = resourcesReply (strip user.account) projects requested vms := by
  unfold adminResourcesGet at h
  dsimp only at h
  split at h
  · cases h
  obtain ⟨_, -, h⟩ := exists_of_bind_eq_ok h
  obtain ⟨found, hfound, h⟩ := exists_of_bind_eq_ok h
  split at h
  · cases h
  · rename_i hne
    cases found with
    | none => exact absurd rfl hne
    | some d =>
      obtain ⟨projects, hprojects, h⟩ := exists_of_bind_eq_ok h
      obtain ⟨vms, hvms, h⟩ := exists_of_bind_eq_ok h
      exact ⟨d, projects, vms, eq_ok_of_mapError hfound, eq_ok_of_mapError hprojects,
        eq_ok_of_mapError hvms, (Except.ok.inj h).symm⟩

variable (c cluster user)

/-- What a project is running. -/
structure ProjectUsage where
  vms : ℕ
  running : ℕ
  vcpus : ℕ
  ramMB : ℕ
  deriving DecidableEq

namespace ProjectUsage

def blank : ProjectUsage := ⟨0, 0, 0, 0⟩

/-- Count one more machine. -/
def add (vm : Vm) (u : ProjectUsage) : ProjectUsage where
  vms := u.vms + 1
  running := u.running + if c.lower vm.status ∈ ["active", "running"] then 1 else 0
  vcpus := u.vcpus + vm.vcpus
  ramMB := u.ramMB + vm.ramMB

end ProjectUsage

/-- A project with what it is running. -/
structure TenantRow extends ProjectDetails, ProjectUsage

/-- What `AdminTenantsView` answers. -/
structure TenantsReply where
  data : List TenantRow
  total : ℕ
  account : String

/-- Most machines first, then by name. -/
def TenantRow.le (a b : TenantRow) : Prop :=
  b.vms < a.vms ∨ (a.vms = b.vms ∧ c.lower a.name ≤ c.lower b.name)

instance : DecidableRel (TenantRow.le c) := fun _ _ => inferInstanceAs (Decidable (_ ∨ _))

/-- The projects with the machines of the account counted; another account's machine is passed
over. -/
def tenantsReply (account : String) (projects : List ProjectDetails) (vms : List ListedVm) :
    TenantsReply :=
  let owned := projects.map ProjectDetails.id
  let usage := Dict.collect (fun vm : ListedVm => vm.projectId.filter fun pid => pid ∈ owned)
    .blank (fun vm => ProjectUsage.add c vm.toVm) (owned.map fun pid => (pid, .blank)) vms
  let rows := projects.map fun p : ProjectDetails =>
    { p, (usage.get? p.id).getD .blank with : TenantRow }
  { data := rows.insertionSort (TenantRow.le c), total := rows.length, account := account }

/-- `AdminTenantsView.get`. -/
def adminTenantsGet : Except AppError TenantsReply := do
  let (account, domainId) ← accountDomain c (cluster.cloud c) user
  let failed (err : ZadaraError) : AppError := ⟨"Failed to load account projects", err.code, 502⟩
  let projects ← (listDomainProjectDetails cluster domainId).mapError failed
  let _token ← cluster.serviceToken.mapError failed
  let vms ← (listVms cluster).mapError failed
  return tenantsReply c account projects vms

end

end OpenCloud
