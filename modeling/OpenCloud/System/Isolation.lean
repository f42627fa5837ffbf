import OpenCloud.AdminApi.Views

/-!
# Other tenants do not show

The views of an administrator read the whole cluster with the service token.  What they answer is
determined by the rows of the account alone: its projects, the machines in them, and the addresses
and volumes of those machines.

## Main results

* `resourcesReply_congr`, `tenantsReply_congr` : an answer depends on the machines in the account's
  projects only.
* `other_tenants_do_not_show` : two clusters that agree on the account's rows give the same answers.
-/

namespace OpenCloud

/-- The rows a readable cluster lists. -/
structure Listing where
  vms : List VmRow
  elasticIps : List ListedElasticIp
  volumes : List ListedVolume

/-- The lists of the cluster can be read, and these are their rows. -/
structure Reads (c : Casing) (A : Cluster) (l : Listing) : Prop where
  token : ∃ token, A.serviceToken = .ok token
  vms : A.vms.map (List.map normalizeVm) = .ok l.vms
  elasticIps : listElasticIps A = .ok l.elasticIps
  volumes : listVolumes c A = .ok l.volumes

/-- The ids of the projects that have one. -/
def projectIds (projects : List RawProject) : List String := projects.filterMap fun p => keep p.id

/-- The machine is in one of the projects. -/
def InProjects (ids : List String) (vm : Vm) : Bool := vm.projectId.any fun pid => pid ∈ ids

/-- The rows agree on the machines in the projects, and on the addresses and volumes of those. -/
structure SameRows (ids : List String) (l l' : Listing) : Prop where
  vms : (l.vms.filter fun vm => InProjects ids vm.toVm) = l'.vms.filter fun vm =>
    InProjects ids vm.toVm
  elasticIps : ∀ vm ∈ l.vms, InProjects ids vm.toVm →
    (l.elasticIps.filter fun eip => eip.instanceId = some vm.id) =
      l'.elasticIps.filter fun eip => eip.instanceId = some vm.id
  volumes : ∀ vm ∈ l.vms, InProjects ids vm.toVm →
    (l.volumes.filter fun v => v.attachedToId = some vm.id) =
      l'.volumes.filter fun v => v.attachedToId = some vm.id

/-- The clusters agree on the domain of the account, on its projects and on their rows. -/
structure SameAccount (c : Casing) (account : String) (A B : Cluster) (l l' : Listing) : Prop where
  domain : (A.cloud c).resolveDomainId c account = (B.cloud c).resolveDomainId c account
  projects : ∀ d, (A.cloud c).resolveDomainId c account = .ok (some d) → A.projects d = B.projects d
  rows : ∀ d projects, (A.cloud c).resolveDomainId c account = .ok (some d) →
    A.projects d = .ok projects → SameRows (projectIds projects) l l'

/-! ### The rows of a machine -/

section Rows

variable {c : Casing} {A : Cluster} {l l' : Listing} {ids : List String}

/-- A machine with its addresses. -/
def withIps (eips : List ListedElasticIp) (vm : VmRow) : ListedVm :=
  { vm with publicIps := boundIps eips vm.id }

/-- A machine with its addresses and disks. -/
def withDisks (l : Listing) (vm : VmRow) : VmWithDisks :=
  let attached := l.volumes.filter fun v => keep v.attachedToId = some vm.id
  { withIps l.elasticIps vm with
    diskGiB := some (attached.map fun v => v.sizeGiB).sum
    diskVolumes := attached.length
    diskMedia := mediaTotals (attached.map ListedVolume.toVolume) }

theorem listVms_eq (h : Reads c A l) : listVms A = .ok (l.vms.map (withIps l.elasticIps)) := by
  have hvms := h.vms
  cases hraw : A.vms with
  | error e => simp [hraw, Except.map] at hvms
  | ok raw =>
    have hrows : raw.map normalizeVm = l.vms := by simpa [hraw, Except.map] using hvms
    simp only [listVms, hraw, h.elasticIps, ← hrows, Except.map, List.map_map, Except.ok.injEq]
    refine List.map_congr_left fun vm _ => ?_
    simp [withIps, get?_publicIpsByInstance]

theorem Reads.projectId_ne (h : Reads c A l) {vm : VmRow} (hvm : vm ∈ l.vms) :
    vm.projectId ≠ some "" := by
  have hvms := h.vms
  cases hraw : A.vms with
  | error e => simp [hraw, Except.map] at hvms
  | ok raw =>
    have hrows : raw.map normalizeVm = l.vms := by simpa [hraw, Except.map] using hvms
    rw [← hrows] at hvm
    obtain ⟨row, -, rfl⟩ := List.mem_map.1 hvm
    intro hempty
    exact (keep_eq_some.1 hempty).2 rfl

theorem getD_volumesByInstance (volumes : List ListedVolume) (id : String) :
    ((volumesByInstance volumes).get? id).getD [] =
      volumes.filter fun v => keep v.attachedToId = some id := by
  have happend : ∀ (l acc : List ListedVolume), l.foldl (fun w v => w ++ [v]) acc = acc ++ l := by
    intro l
    induction l with
    | nil => simp
    | cons v l ih => intro acc; rw [List.foldl_cons, ih, List.append_assoc, List.singleton_append]
  rw [volumesByInstance, Dict.getD_collect, happend]
  rfl

theorem listVmsWithDisks_eq (h : Reads c A l) :
    listVmsWithDisks c A = .ok (l.vms.map (withDisks l)) := by
  simp only [listVmsWithDisks, listVms_eq h, h.volumes, Except.map, Except.toOption, List.map_map,
    Except.ok.injEq]
  refine List.map_congr_left fun vm _ => ?_
  simp [summariseVmDisks, withDisks, withIps, getD_volumesByInstance]

theorem filter_keep_congr {α : Type} {rows rows' : List α} {key : α → Option String} {id : String}
    (h : (rows.filter fun a => key a = some id) = rows'.filter fun a => key a = some id) :
    (rows.filter fun a => keep (key a) = some id) = rows'.filter fun a => keep (key a) =
      some id := by
  have hsplit : ∀ rows : List α, (rows.filter fun a => keep (key a) = some id) =
      (rows.filter fun a => key a = some id).filter fun _ => id ≠ "" := by
    intro rows
    rw [List.filter_filter]
    refine List.filter_congr fun a _ => ?_
    simp only [keep_eq_some, Bool.decide_and, ne_eq, decide_not, Bool.and_comm]
  rw [hsplit, hsplit, h]

theorem withIps_congr (h : SameRows ids l l') {vm : VmRow} (hvm : vm ∈ l.vms)
    (hin : InProjects ids vm.toVm) : withIps l.elasticIps vm = withIps l'.elasticIps vm := by
  simp only [withIps, boundIps, filter_keep_congr (h.elasticIps vm hvm hin)]

theorem withDisks_congr (h : SameRows ids l l') {vm : VmRow} (hvm : vm ∈ l.vms)
    (hin : InProjects ids vm.toVm) : withDisks l vm = withDisks l' vm := by
  simp only [withDisks, withIps_congr h hvm hin, filter_keep_congr (h.volumes vm hvm hin)]

theorem filter_map_congr {β : Type} (h : SameRows ids l l') {f g : VmRow → β} {toVm : β → Vm}
    (hf : ∀ vm, toVm (f vm) = vm.toVm) (hg : ∀ vm, toVm (g vm) = vm.toVm)
    (hfg : ∀ vm ∈ l.vms, InProjects ids vm.toVm → f vm = g vm) :
    ((l.vms.map f).filter fun vm => InProjects ids (toVm vm)) =
      (l'.vms.map g).filter fun vm => InProjects ids (toVm vm) := by
  rw [List.filter_map, List.filter_map]
  simp only [Function.comp_def, hf, hg]
  rw [← h.vms]
  refine List.map_congr_left fun vm hvm => ?_
  obtain ⟨hmem, hin⟩ := List.mem_filter.1 hvm
  exact hfg vm hmem hin

end Rows

/-! ### What an answer depends on -/

section Answers

variable {c : Casing} {account : String} {ids : List String}

/-- The resources shown depend on the machines in the account's projects only. -/
theorem resourcesReply_congr {projects : Dict String String} {requested : Option String}
    {vms vms' : List VmWithDisks} (hids : ∀ pid ∈ projects.keys, pid ∈ ids)
    (h : (vms.filter fun vm => InProjects ids vm.toVm) = vms'.filter fun vm =>
      InProjects ids vm.toVm) :
    resourcesReply account projects requested vms =
      resourcesReply account projects requested vms' := by
  have hnarrow : ∀ (allowed : String → Bool) (vms : List VmWithDisks),
      (∀ pid, allowed pid = true → pid ∈ projects.keys) →
      (vms.filter fun vm => vm.projectId.any allowed) =
        (vms.filter fun vm => InProjects ids vm.toVm).filter fun vm =>
          vm.projectId.any allowed := by
    intro allowed vms hallowed
    rw [List.filter_filter]
    refine List.filter_congr fun vm _ => ?_
    cases hp : vm.projectId with
    | none => simp
    | some pid =>
      cases hpid : allowed pid with
      | false => simp [hpid]
      | true => simp [InProjects, hp, hpid, hids pid (hallowed pid hpid)]
  unfold resourcesReply
  simp only
  rw [hnarrow _ vms, hnarrow _ vms', h] <;>
  · intro pid hpid
    exact (of_decide_eq_true hpid).1

/-- So do the projects listed. -/
theorem tenantsReply_congr {projects : List ProjectDetails} {vms vms' : List ListedVm}
    (hids : ∀ p ∈ projects, p.id ≠ "" → p.id ∈ ids)
    (hvms : ∀ vm ∈ vms ++ vms', vm.projectId ≠ some "")
    (h : (vms.filter fun vm => InProjects ids vm.toVm) = vms'.filter fun vm =>
      InProjects ids vm.toVm) :
    tenantsReply c account projects vms = tenantsReply c account projects vms' := by
  have hnarrow : ∀ l : List ListedVm, (∀ vm ∈ l, vm.projectId ≠ some "") →
      ∀ (v : ProjectUsage) (f : ListedVm → ProjectUsage → ProjectUsage)
        (d : Dict String ProjectUsage),
      Dict.collect (fun vm : ListedVm => vm.projectId.filter fun pid =>
          pid ∈ projects.map ProjectDetails.id) v f d (l.filter fun vm => InProjects ids vm.toVm) =
        Dict.collect (fun vm : ListedVm => vm.projectId.filter fun pid =>
          pid ∈ projects.map ProjectDetails.id) v f d l := by
    intro l hl v f d
    refine Dict.collect_filter _ v f d l _ fun vm hvm hout => ?_
    cases hp : vm.projectId with
    | none => rfl
    | some pid =>
      have hne : pid ≠ "" := by
        rintro rfl
        exact hl vm hvm hp
      have hnot : pid ∉ ids := by simpa [InProjects, hp] using hout
      refine Option.filter_eq_none_iff.2 fun q hq hmem => ?_
      obtain rfl := Option.some.inj hq
      obtain ⟨p, hpmem, rfl⟩ := List.mem_map.1 (of_decide_eq_true hmem)
      exact hnot (hids p hpmem hne)
  unfold tenantsReply
  simp only
  rw [← hnarrow vms fun vm hvm => hvms vm (List.mem_append_left _ hvm),
    ← hnarrow vms' fun vm hvm => hvms vm (List.mem_append_right _ hvm), h]

end Answers

/-! ### The views -/

section Views

variable {c : Casing} {A B : Cluster} {l l' : Listing} {user : CabinetUser}

theorem listDomainProjects_congr {d : String} (h : A.projects d = B.projects d) :
    (A.cloud c).listDomainProjects d = (B.cloud c).listDomainProjects d := by
  simp only [Cloud.listDomainProjects, Cluster.cloud, h]

/-- The projects of the account are those with an id. -/
theorem mem_projectIds_of_mem_keys {d : String} {rows : List RawProject}
    {projects : Dict String String} (hrows : A.projects d = .ok rows)
    (h : (A.cloud c).listDomainProjects d = .ok projects) {pid : String}
    (hpid : pid ∈ projects.keys) :
    pid ∈ projectIds rows := by
  by_contra hnot
  have hset : projects.get? pid = none := by
    simp only [Cloud.listDomainProjects, Cluster.cloud, hrows, Except.map, Except.ok.injEq] at h
    rw [← h]
    refine Dict.get?_foldl_set rfl fun p hp hname => hnot ?_
    obtain ⟨hmem, hne⟩ := List.mem_filter.1 hp
    obtain ⟨raw, hraw, rfl⟩ := List.mem_map.1 hmem
    dsimp only at hname hne
    refine List.mem_filterMap.2 ⟨raw, hraw, keep_eq_some.2 ⟨?_, ?_⟩⟩
    · cases hid : raw.id with
      | none => simp [hid] at hne
      | some id => simpa [hid] using hname
    · rw [← hname]
      simpa using hne
  exact Dict.get?_eq_none_iff.1 hset hpid

theorem mem_projectIds_of_details {d : String} {rows : List RawProject}
    {projects : List ProjectDetails} (hrows : A.projects d = .ok rows)
    (h : listDomainProjectDetails A d = .ok projects) {p : ProjectDetails} (hp : p ∈ projects)
    (hne : p.id ≠ "") : p.id ∈ projectIds rows := by
  simp only [listDomainProjectDetails, hrows, Except.map, Except.ok.injEq] at h
  rw [← h] at hp
  obtain ⟨raw, hraw, rfl⟩ := List.mem_map.1 hp
  refine List.mem_filterMap.2 ⟨raw, (List.mem_filter.1 hraw).1, keep_eq_some.2 ⟨?_, hne⟩⟩
  dsimp only at hne ⊢
  cases hid : raw.id with
  | none => simp [hid] at hne
  | some id => rfl

theorem adminResourcesGet_congr (hA : Reads c A l) (hB : Reads c B l')
    (h : SameAccount c (strip user.account) A B l l') (requested : Option String) :
    adminResourcesGet c A user requested = adminResourcesGet c B user requested := by
  obtain ⟨tokenA, htokenA⟩ := hA.token
  obtain ⟨tokenB, htokenB⟩ := hB.token
  unfold adminResourcesGet
  simp only [htokenA, htokenB, h.domain, listVmsWithDisks_eq hA, listVmsWithDisks_eq hB]
  cases hdomain : (A.cloud c).resolveDomainId c (strip user.account) with
  | error err => rw [← h.domain, hdomain]; rfl
  | ok found =>
    rw [← h.domain, hdomain]
    cases found with
    | none => rfl
    | some d =>
      have hprojects := h.projects d hdomain
      simp only [Except.mapError, bind, Except.bind, Option.getD_some]
      rw [listDomainProjects_congr hprojects]
      cases hlist : (B.cloud c).listDomainProjects d with
      | error err => rfl
      | ok projects =>
        cases hrows : A.projects d with
        | error err =>
          simp [Cloud.listDomainProjects, Cluster.cloud, ← hprojects, hrows, Except.map] at hlist
        | ok rows =>
          have hsame := h.rows d rows hdomain hrows
          have hreply :=
            @resourcesReply_congr (strip user.account) (projectIds rows) projects requested
            (l.vms.map (withDisks l)) (l'.vms.map (withDisks l'))
            (fun pid => mem_projectIds_of_mem_keys (hprojects ▸ hrows) hlist)
            (filter_map_congr hsame (fun _ => rfl) (fun _ => rfl)
              fun vm hvm hin => withDisks_congr hsame hvm hin)
          simp only [hreply]

theorem adminTenantsGet_congr (hA : Reads c A l) (hB : Reads c B l')
    (h : SameAccount c (strip user.account) A B l l') :
    adminTenantsGet c A user = adminTenantsGet c B user := by
  obtain ⟨tokenA, htokenA⟩ := hA.token
  obtain ⟨tokenB, htokenB⟩ := hB.token
  have hscope : accountDomain c (A.cloud c) user = accountDomain c (B.cloud c) user := by
    simp only [accountDomain, h.domain]
  unfold adminTenantsGet
  simp only [htokenA, htokenB, ← hscope, listVms_eq hA, listVms_eq hB]
  cases hok : accountDomain c (A.cloud c) user with
  | error err => rfl
  | ok scope =>
    obtain ⟨account, d⟩ := scope
    obtain ⟨rfl, -, -, hdomain⟩ := accountDomain_eq_ok_iff.1 hok
    have hprojects := h.projects d hdomain
    simp only [Except.mapError, bind, Except.bind]
    have hdetails : listDomainProjectDetails A d = listDomainProjectDetails B d := by
      simp only [listDomainProjectDetails, hprojects]
    rw [← hdetails]
    cases hlist : listDomainProjectDetails A d with
    | error err => rfl
    | ok projects =>
      cases hrows : A.projects d with
      | error err => simp [listDomainProjectDetails, hrows, Except.map] at hlist
      | ok rows =>
        have hsame := h.rows d rows hdomain hrows
        have hreply := @tenantsReply_congr c (strip user.account) (projectIds rows) projects
          (l.vms.map (withIps l.elasticIps)) (l'.vms.map (withIps l'.elasticIps))
          (fun p hp hne => mem_projectIds_of_details hrows hlist hp hne)
          (fun vm hvm => by
            rcases List.mem_append.1 hvm with hvm | hvm
            · obtain ⟨row, hrow, rfl⟩ := List.mem_map.1 hvm
              exact hA.projectId_ne hrow
            · obtain ⟨row, hrow, rfl⟩ := List.mem_map.1 hvm
              exact hB.projectId_ne hrow)
          (filter_map_congr hsame (fun _ => rfl) (fun _ => rfl)
            fun vm hvm hin => withIps_congr hsame hvm hin)
        simp only [hreply]

/-- Every machine shown is in a project of the account. -/
theorem own_machine_of_shown {requested : Option String} {reply : ResourcesReply}
    (hreply : adminResourcesGet c A user requested = .ok reply) :
    ∃ d rows, (A.cloud c).resolveDomainId c (strip user.account) = .ok (some d) ∧
      A.projects d = .ok rows ∧ ∀ vm ∈ reply.vms, InProjects (projectIds rows) vm.toVm := by
  obtain ⟨d, projects, vms, hdomain, hlist, -, rfl⟩ := adminResourcesGet_eq_ok hreply
  cases hrows : A.projects d with
  | error err => simp [Cloud.listDomainProjects, Cluster.cloud, hrows, Except.map] at hlist
  | ok rows =>
    refine ⟨d, rows, hdomain, hrows, fun shown hshown => ?_⟩
    obtain ⟨vm, hvm, rfl⟩ := List.mem_map.1 hshown
    obtain ⟨-, hallowed⟩ := List.mem_filter.1 hvm
    cases hp : vm.projectId with
    | none => simp [hp] at hallowed
    | some pid =>
      have hkeys : pid ∈ projects.keys := by
        simp only [hp, Option.any_some, decide_eq_true_eq] at hallowed
        exact hallowed.1
      simp [InProjects, hp, mem_projectIds_of_mem_keys hrows hlist hkeys]

/-- The machines counted for a project are the machines in it. -/
theorem vms_of_mem_tenantsReply {account : String} {projects : List ProjectDetails}
    {vms : List ListedVm} {row : TenantRow} (h : row ∈ (tenantsReply c account projects vms).data) :
    (∃ p ∈ projects, p.id = row.id) ∧ row.vms = vms.countP fun vm => vm.projectId =
      some row.id := by
  have hcount : ∀ (l : List ListedVm) (u : ProjectUsage),
      (l.foldl (fun u vm => ProjectUsage.add c vm.toVm u) u).vms = u.vms + l.length := by
    intro l
    induction l with
    | nil => intro u; rfl
    | cons vm l ih =>
      intro u; rw [List.foldl_cons, ih, List.length_cons]; simp only [ProjectUsage.add]; omega
  obtain ⟨p, hp, rfl⟩ := List.mem_map.1 ((List.mem_insertionSort _).1 h)
  refine ⟨⟨p, hp, rfl⟩, ?_⟩
  dsimp only
  have hblank :
    ((Dict.get? ((projects.map ProjectDetails.id).map fun pid => (pid, ProjectUsage.blank))
      p.id).getD .blank) = .blank := by
    generalize projects.map ProjectDetails.id = owned
    induction owned with
    | nil => rfl
    | cons pid owned ih =>
      rw [List.map_cons, Dict.get?]
      split_ifs
      · rfl
      · exact ih
  rw [Dict.getD_collect, hblank, hcount, List.countP_eq_length_filter]
  simp only [ProjectUsage.blank, Nat.zero_add]
  congr 1
  refine List.filter_congr fun vm _ => ?_
  have hmem : p.id ∈ projects.map ProjectDetails.id := List.mem_map_of_mem hp
  cases hpid : vm.projectId with
  | none => simp
  | some pid =>
    by_cases heq : pid = p.id
    · subst heq
      simp [Option.filter, hmem]
    · simp [Option.filter, heq]

theorem own_machines_counted {reply : TenantsReply}
    (hreply : adminTenantsGet c A user = .ok reply) :
    ∃ d projects vms, (A.cloud c).resolveDomainId c (strip user.account) = .ok (some d) ∧
      listDomainProjectDetails A d = .ok projects ∧ listVms A = .ok vms ∧
      ∀ row ∈ reply.data, (∃ p ∈ projects, p.id = row.id) ∧
        row.vms = vms.countP fun vm => vm.projectId = some row.id := by
  unfold adminTenantsGet at hreply
  obtain ⟨⟨account, d⟩, hscope, hreply⟩ := exists_of_bind_eq_ok hreply
  obtain ⟨projects, hprojects, hreply⟩ := exists_of_bind_eq_ok hreply
  obtain ⟨_, -, hreply⟩ := exists_of_bind_eq_ok hreply
  obtain ⟨vms, hvms, hreply⟩ := exists_of_bind_eq_ok hreply
  obtain ⟨rfl, -, -, hdomain⟩ := accountDomain_eq_ok_iff.1 hscope
  obtain rfl := Except.ok.inj hreply
  exact ⟨d, projects, vms, hdomain, eq_ok_of_mapError hprojects, eq_ok_of_mapError hvms,
    fun row hrow => vms_of_mem_tenantsReply hrow⟩

/-- Two fully readable clusters that agree on the account's domain and projects, on the machines in
those projects and on the addresses and volumes of those machines give the administrator the same
answers.  No machine shown, and none counted for a project, is outside the account's projects. -/
theorem other_tenants_do_not_show (c : Casing) (A B : Cluster) (l l' : Listing) (user : CabinetUser)
    (hA : Reads c A l) (hB : Reads c B l') (h : SameAccount c (strip user.account) A B l l') :
    (∀ requested, adminResourcesGet c A user requested = adminResourcesGet c B user requested) ∧
    adminTenantsGet c A user = adminTenantsGet c B user ∧
    (∀ requested reply, adminResourcesGet c A user requested = .ok reply →
      ∃ d rows, (A.cloud c).resolveDomainId c (strip user.account) = .ok (some d) ∧
        A.projects d = .ok rows ∧ ∀ vm ∈ reply.vms, InProjects (projectIds rows) vm.toVm) ∧
    ∀ reply, adminTenantsGet c A user = .ok reply →
      ∃ d projects vms, (A.cloud c).resolveDomainId c (strip user.account) = .ok (some d) ∧
        listDomainProjectDetails A d = .ok projects ∧ listVms A = .ok vms ∧
        ∀ row ∈ reply.data, (∃ p ∈ projects, p.id = row.id) ∧
          row.vms = vms.countP fun vm => vm.projectId = some row.id :=
  ⟨adminResourcesGet_congr hA hB h, adminTenantsGet_congr hA hB h,
    fun _ _ hreply => own_machine_of_shown hreply, fun _ hreply => own_machines_counted hreply⟩

/-- A machine of a project with nothing but an id. -/
def plainVm (id projectId : String) : RawVm where
  id := some id
  name := none
  status := some "active"
  vcpus := some 2
  ramMB := some 1024
  diskGB := none
  instanceType := none
  imageId := none
  created := none
  launchedAt := none
  keyPair := none
  vpcId := none
  availabilityZone := none
  networks := []
  tags := []
  projectId := some projectId

/-- The address and the volume of the machine `vm1`. -/
def ownIp : RawElasticIp := ⟨some "10.0.0.1", some "vm1", some "p1"⟩

def ownVolume : RawVolume := ⟨some 10, [some "vm1"], none, some "p1"⟩

/-- A cluster where the account Acme has the project `p1` with one machine, next to these machines,
addresses and volumes. -/
def acmeCluster (vms : List RawVm) (elasticIps : List RawElasticIp) (volumes : List RawVolume) :
    Cluster where
  serviceToken := .ok "service"
  directory := .ok [⟨"d1", "Acme"⟩]
  projects d := .ok (if d = "d1" then [⟨some "p1", some "Alpha", none, none, false, false⟩] else [])
  vms := .ok (vms ++ [plainVm "vm1" "p1"])
  volumes := .ok (volumes ++ [ownVolume])
  volumeTypes := .ok []
  elasticIps := .ok (elasticIps ++ [ownIp])
  volumeSnapshots := .ok []

/-- The cluster with the account alone. -/
def aloneCluster : Cluster := acmeCluster [] [] []

/-- The cluster with a machine, an address and a volume of another account. -/
def sharedCluster : Cluster :=
  acmeCluster [plainVm "vm2" "p2"] [⟨some "10.0.0.9", some "vm2", some "p2"⟩]
    [⟨some 99, [some "vm2"], none, some "p2"⟩]

/-- The rows of a cluster of this shape. -/
def acmeListing (vms : List RawVm) (elasticIps : List RawElasticIp) (volumes : List RawVolume) :
    Listing where
  vms := (vms ++ [plainVm "vm1" "p1"]).map normalizeVm
  elasticIps := (elasticIps ++ [ownIp]).map normalizeElasticIp
  volumes := (volumes ++ [ownVolume]).map fun raw =>
    labelVolumeMedia [] (normalizeVolume raw)

theorem reads_acmeCluster (vms : List RawVm) (elasticIps : List RawElasticIp)
    (volumes : List RawVolume) :
    Reads .ascii (acmeCluster vms elasticIps volumes) (acmeListing vms elasticIps volumes) :=
  ⟨⟨_, rfl⟩, rfl, rfl, rfl⟩

theorem other_tenants_do_not_show_beside_acme :
    (∀ requested, adminResourcesGet .ascii aloneCluster ⟨"Acme", "ann", "u1"⟩ requested =
      adminResourcesGet .ascii sharedCluster ⟨"Acme", "ann", "u1"⟩ requested) ∧
    adminTenantsGet .ascii aloneCluster ⟨"Acme", "ann", "u1"⟩ =
      adminTenantsGet .ascii sharedCluster ⟨"Acme", "ann", "u1"⟩ := by
  have hdomain : (aloneCluster.cloud .ascii).resolveDomainId .ascii (strip "Acme") =
    .ok (some "d1") := by
    decide +kernel
  have h := other_tenants_do_not_show .ascii aloneCluster sharedCluster (acmeListing [] [] [])
    (acmeListing [plainVm "vm2" "p2"] [⟨some "10.0.0.9", some "vm2", some "p2"⟩]
      [⟨some 99, [some "vm2"], none, some "p2"⟩]) ⟨"Acme", "ann", "u1"⟩
    (reads_acmeCluster _ _ _) (reads_acmeCluster _ _ _)
    { domain := rfl
      projects := fun _ _ => rfl
      rows := fun d projects hd hprojects => by
        obtain rfl : "d1" = d := by simpa using hdomain.symm.trans hd
        obtain rfl : [⟨some "p1", some "Alpha", none, none, false, false⟩] = projects :=
          Except.ok.inj hprojects
        refine ⟨rfl, fun vm hvm _ => ?_, fun vm hvm _ => ?_⟩ <;>
        · obtain rfl : vm = normalizeVm (plainVm "vm1" "p1") := by simpa [acmeListing] using hvm
          rfl }
  exact ⟨h.1, h.2.1⟩

end Views

end OpenCloud
