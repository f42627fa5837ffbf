import OpenCloud.Platform.Attribution

/-!
# What the picture shows

Where the cloud lists each project once, the picture is determined by who lists which project: an
account shows the weight of the rows of the projects it lists, a project the weight of its own rows,
and what could not be read is unknown.

## Main results

* `gathered_panelDirectory` : what the loop over the domains has put together.
* `owner_eq` : the account of a project is the one that lists it.
* `shows_buildPicture` : what the picture shows of an account and of a project.
-/

namespace OpenCloud

/-! ### Unknown figures -/

section Marking

variable {entry : ShownUsage} {fields : List UsageField} {unavailable : List Source} {k : Measure}

theorem figure_foldl_blankOut {f : Figure} : (fields.foldl ShownUsage.blankOut entry).figure f =
    if UsageField.figure f ∈ fields then none else entry.figure f := by
  induction fields generalizing entry with
  | nil => rfl
  | cons field fields ih =>
    rw [List.foldl_cons, ih]
    cases field with
    | figure g =>
      by_cases hfg : f = g
      · subst hfg
        simp [ShownUsage.blankOut]
      · simp [ShownUsage.blankOut, hfg]
    | storageByMedia => simp [ShownUsage.blankOut]

theorem storageByMedia_foldl_blankOut : (fields.foldl ShownUsage.blankOut entry).storageByMedia =
    if UsageField.storageByMedia ∈ fields then none else entry.storageByMedia := by
  induction fields generalizing entry with
  | nil => rfl
  | cons field fields ih =>
    rw [List.foldl_cons, ih]
    cases field <;> simp [ShownUsage.blankOut]

theorem figure_mem_fieldsBySource {f : Figure} {s : Source} :
    UsageField.figure f ∈ fieldsBySource s ↔ f.source = s := by
  cases s <;> cases f <;> decide

theorem storageByMedia_mem_fieldsBySource {s : Source} :
    UsageField.storageByMedia ∈ fieldsBySource s ↔ .volumes = s := by
  cases s <;> decide

/-- The measures of the lists that are marked are unknown. -/
theorem measure_markUnavailable : (entry.markUnavailable unavailable).measure k =
    if k.source ∈ unavailable then none else entry.measure k := by
  unfold ShownUsage.markUnavailable
  induction unavailable generalizing entry with
  | nil => rfl
  | cons s unavailable ih =>
    rw [List.foldl_cons, ih]
    have hone : ((fieldsBySource s).foldl ShownUsage.blankOut entry).measure k =
        if k.source = s then none else entry.measure k := by
      cases k with
      | figure f =>
        rw [ShownUsage.measure, figure_foldl_blankOut]
        exact if_congr figure_mem_fieldsBySource rfl rfl
      | mediaVolumes media | mediaGiB media =>
        rw [ShownUsage.measure, storageByMedia_foldl_blankOut]
        by_cases hs : .volumes = s
        · rw [if_pos (storageByMedia_mem_fieldsBySource.2 hs)]
          exact (if_pos hs).symm
        · rw [if_neg (mt storageByMedia_mem_fieldsBySource.1 hs)]
          exact (if_neg hs).symm
    rw [hone]
    by_cases hs : k.source = s
    · simp [hs]
    · simp [hs]

theorem storageByMedia_markUnavailable : (entry.markUnavailable unavailable).storageByMedia =
    if .volumes ∈ unavailable then none else entry.storageByMedia := by
  unfold ShownUsage.markUnavailable
  induction unavailable generalizing entry with
  | nil => rfl
  | cons s unavailable ih =>
    rw [List.foldl_cons, ih, storageByMedia_foldl_blankOut]
    simp only [storageByMedia_mem_fieldsBySource, List.mem_cons]
    by_cases hs : Source.volumes = s
    · simp [hs]
    · simp [hs]

theorem measure_shown {usage : Usage} : usage.shown.measure k = some (usage.measure k) := by
  cases k <;> rfl

theorem mem_unavailable {cloud : PanelCloud} {s : Source} : s ∈ cloud.unavailable ↔
    cloud.Unavailable s := by
  simp [PanelCloud.unavailable, s.mem_all]

theorem measure_shown_splitByMedia {cloud : PanelCloud} {usage : Usage} {held : List Volume} :
    ((usage.splitByMedia cloud held).shown.markUnavailable cloud.unavailable).measure k =
      if cloud.Unavailable k.source then none
      else some (Usage.measure { usage with storageByMedia := mediaTotals held } k) := by
  rw [measure_markUnavailable]
  simp only [mem_unavailable]
  split_ifs with h
  · rfl
  · rw [measure_shown, Usage.splitByMedia]
    cases k with
    | figure f => split_ifs <;> rfl
    | mediaVolumes media | mediaGiB media =>
      have hvolumes : ¬ cloud.Unavailable .volumes := h
      rw [if_neg hvolumes]

theorem storageByMedia_shown_splitByMedia {cloud : PanelCloud} {usage : Usage} {held : List Volume}
    (h : ¬ cloud.Unavailable .volumes) :
    ((usage.splitByMedia cloud held).shown.markUnavailable cloud.unavailable).storageByMedia =
      some (mediaTotals held) := by
  rw [storageByMedia_markUnavailable, if_neg (mt mem_unavailable.1 h), Usage.splitByMedia, if_neg h]
  rfl

end Marking

/-! ### Who lists what -/

/-- The projects an account lists; none where they are refused. -/
def PanelCloud.listed (cloud : PanelCloud) (a : String) : List ProjectDetails :=
  source (cloud.projectDetails a)

/-- The ids of the projects an account lists. -/
def PanelCloud.listedIds (cloud : PanelCloud) (a : String) : List String :=
  (cloud.listed a).map ProjectDetails.id

/-- Each project is listed once. -/
def PanelCloud.ListedOnce (cloud : PanelCloud) (domains : List Domain) : Prop :=
  (domains.flatMap fun d => cloud.listedIds d.id).Nodup

/-- The projects of an account are refused. -/
def PanelCloud.ProjectsRefused (cloud : PanelCloud) (a : String) : Prop :=
  ∃ e, cloud.projectDetails a = .error e

/-- What the loop over the domains has put together of `domains`. -/
structure Gathered (cloud : PanelCloud) (accounts : Dict String AccountEntry)
    (domains : List Domain) (dir : PanelDirectory) : Prop where
  objects : dir.objects = domains.flatMap fun d => cloud.listed d.id
  found : ∀ p object, dir.projects.get? p = some object →
    ∃ project, dir.objects[object]? = some project ∧ project.id = p
  covers : ∀ project ∈ dir.objects, dir.projects.get? project.id ≠ none
  together : ∀ p, dir.accountOfProject.get? p = none ↔ dir.projects.get? p = none
  account : ∀ p a, dir.accountOfProject.get? p = some a →
    (∃ d ∈ domains, d.id = a) ∧ p ∈ cloud.listedIds a
  keys : ∀ a, dir.accounts.get? a = none ↔ accounts.get? a = none
  entries : ∀ a entry, dir.accounts.get? a = some entry → ∃ blank, accounts.get? a = some blank ∧
    entry.id = blank.id ∧ entry.name = blank.name ∧
      ∀ object ∈ entry.projects, object < dir.objects.length
  blocks : ∀ a entry, dir.accounts.get? a = some entry → (∃ d ∈ domains, d.id = a) →
    entry.projects.filterMap (fun object => dir.objects[object]?) = cloud.listed a
  unread : ∀ a entry, dir.accounts.get? a = some entry →
    (¬ ∃ d ∈ domains, d.id = a) → entry.projects = []
  nodup : accounts.keys.Nodup → dir.accounts.keys.Nodup
  unreadable : ∀ name, name ∈ dir.unreadable ↔
    ∃ d ∈ domains, d.name = name ∧ cloud.ProjectsRefused d.id

section Gathered

variable {cloud : PanelCloud} {accounts : Dict String AccountEntry} {domains : List Domain}
  {dir : PanelDirectory} {domain : Domain} {listed : List ProjectDetails}

theorem objects_foldl_listProject {domainId : String} :
    (listed.foldl (listProject domainId) dir).objects = dir.objects ++ listed ∧
      (listed.foldl (listProject domainId) dir).accounts = dir.accounts ∧
      (listed.foldl (listProject domainId) dir).unreadable = dir.unreadable := by
  induction listed generalizing dir with
  | nil => simp
  | cons project listed ih =>
    obtain ⟨hobjects, haccounts, hunreadable⟩ := @ih (listProject domainId dir project)
    rw [List.foldl_cons, hobjects, haccounts, hunreadable]
    simp [listProject]

theorem found_foldl_listProject {domainId : String}
    (hfound : ∀ p object, dir.projects.get? p = some object →
      ∃ project, dir.objects[object]? = some project ∧ project.id = p)
    (hcovers : ∀ project ∈ dir.objects, dir.projects.get? project.id ≠ none)
    (htogether : ∀ p, dir.accountOfProject.get? p = none ↔ dir.projects.get? p = none) :
    (∀ p object, (listed.foldl (listProject domainId) dir).projects.get? p = some object →
      ∃ project, (listed.foldl (listProject domainId) dir).objects[object]? = some project ∧
        project.id = p) ∧
    (∀ project ∈ (listed.foldl (listProject domainId) dir).objects,
      (listed.foldl (listProject domainId) dir).projects.get? project.id ≠ none) ∧
    (∀ p, (listed.foldl (listProject domainId) dir).accountOfProject.get? p = none ↔
      (listed.foldl (listProject domainId) dir).projects.get? p = none) ∧
    ∀ p a, (listed.foldl (listProject domainId) dir).accountOfProject.get? p = some a →
      dir.accountOfProject.get? p = some a ∨ (a = domainId ∧ p ∈ listed.map ProjectDetails.id) := by
  induction listed generalizing dir with
  | nil => exact ⟨hfound, hcovers, htogether, fun p a ha => .inl ha⟩
  | cons project listed ih =>
    have hnext := @ih (listProject domainId dir project) (fun p object hobject => ?_)
      (fun project' hproject' => ?_) (fun p => ?_)
    · obtain ⟨hfound', hcovers', htogether', haccount'⟩ := hnext
      refine ⟨hfound', hcovers', htogether', fun p a ha => ?_⟩
      rcases haccount' p a ha with ha | ⟨rfl, hp⟩
      · simp only [listProject, Dict.get?_set] at ha
        split_ifs at ha with hid
        · obtain rfl := Option.some.inj ha
          exact .inr ⟨rfl, by simp [hid]⟩
        · exact .inl ha
      · exact .inr ⟨rfl, by simp [List.mem_map.1 hp]⟩
    · -- the id leads to the project put there last
      simp only [listProject, Dict.get?_set] at hobject ⊢
      split_ifs at hobject with hid
      · obtain rfl := Option.some.inj hobject
        exact ⟨project, by simp, hid⟩
      · obtain ⟨project', hproject', hid'⟩ := hfound p object hobject
        obtain ⟨hlt, -⟩ := List.getElem?_eq_some_iff.1 hproject'
        exact ⟨project', by rw [List.getElem?_append_left hlt, hproject'], hid'⟩
    · simp only [listProject, Dict.get?_set] at hproject' ⊢
      split_ifs with hid
      · simp
      · rcases List.mem_append.1 hproject' with hproject' | hproject'
        · exact hcovers project' hproject'
        · exact absurd (by rw [List.mem_singleton.1 hproject']) hid
    · simp only [listProject, Dict.get?_set]
      split_ifs
      · simp
      · exact htogether p

theorem filterMap_range' {α : Type} (before block : List α) :
    (List.range' before.length block.length).filterMap (fun i => (before ++ block)[i]?) =
      block := by
  induction block generalizing before with
  | nil => rfl
  | cons a block ih =>
    have hrest := ih (before ++ [a])
    rw [List.length_append, List.length_singleton, List.append_assoc,
      List.singleton_append] at hrest
    have hfirst : (before ++ a :: block)[before.length]? = some a := by simp
    rw [List.length_cons, List.range'_succ, List.filterMap_cons_some hfirst, hrest]

/-- One more domain whose projects are refused. -/
theorem Gathered.refuse {e : ZadaraError} (h : Gathered cloud accounts domains dir)
    (herror : cloud.projectDetails domain.id = .error e) :
    Gathered cloud accounts (domains ++ [domain])
      { dir with unreadable := dir.unreadable ++ [domain.name] } := by
  have hlisted : cloud.listed domain.id = [] := by rw [PanelCloud.listed, herror, source]
  refine ⟨?_, h.found, h.covers, h.together, fun p a ha => ?_, h.keys, h.entries,
    fun a entry hentry ha => ?_, fun a entry hentry ha => ?_, h.nodup, fun name => ?_⟩
  · simp [h.objects, hlisted]
  · obtain ⟨⟨d, hd, hid⟩, hp⟩ := h.account p a ha
    exact ⟨⟨d, List.mem_append_left _ hd, hid⟩, hp⟩
  · by_cases hbefore : ∃ d ∈ domains, d.id = a
    · exact h.blocks a entry hentry hbefore
    · obtain ⟨d, hd, rfl⟩ := ha
      rcases List.mem_append.1 hd with hd | hd
      · exact absurd ⟨d, hd, rfl⟩ hbefore
      · rw [h.unread _ entry hentry hbefore, List.mem_singleton.1 hd, hlisted]
        rfl
  · refine h.unread a entry hentry ?_
    rintro ⟨d, hd, hid⟩
    exact ha ⟨d, List.mem_append_left _ hd, hid⟩
  · have hnew : cloud.ProjectsRefused domain.id := ⟨e, herror⟩
    simp only [List.mem_append, List.mem_singleton, h.unreadable, or_and_right, exists_or,
      exists_eq_left, hnew, and_true]
    exact or_congr_right eq_comm

/-- One more domain whose projects are listed. -/
theorem Gathered.list (h : Gathered cloud accounts domains dir)
    (hok : cloud.projectDetails domain.id = .ok listed) (hkey : accounts.get? domain.id ≠ none) :
    Gathered cloud accounts (domains ++ [domain]) (readDomain cloud dir domain) := by
  have hlisted : cloud.listed domain.id = listed := by rw [PanelCloud.listed, hok, source]
  obtain ⟨hobjects, haccounts, hunreadable⟩ := @objects_foldl_listProject dir listed domain.id
  obtain ⟨hfound, hcovers, htogether, haccount⟩ :=
    @found_foldl_listProject dir listed domain.id h.found h.covers h.together
  simp only [readDomain, hok]
  generalize listed.foldl (listProject domain.id) dir = listing at *
  have hold := mt (h.keys domain.id).1 hkey
  obtain ⟨old, hold⟩ := Option.ne_none_iff_exists'.1 hold
  refine ⟨?_, hfound, hcovers, htogether, fun p a ha => ?_, fun a => ?_, fun a entry hentry => ?_,
    fun a entry hentry ha => ?_, fun a entry hentry ha => ?_, fun hnodup => ?_, fun name => ?_⟩
  · simp [hobjects, h.objects, hlisted]
  · rcases haccount p a ha with ha | ⟨rfl, hp⟩
    · obtain ⟨⟨d, hd, hid⟩, hp⟩ := h.account p a ha
      exact ⟨⟨d, List.mem_append_left _ hd, hid⟩, hp⟩
    · exact ⟨⟨domain, by simp, rfl⟩, by rwa [PanelCloud.listedIds, hlisted]⟩
  · simp only [haccounts, Dict.get?_update]
    split_ifs with hid
    · subst hid
      simp [hkey]
    · exact h.keys a
  · simp only [haccounts, Dict.get?_update] at hentry
    split_ifs at hentry with hid
    · subst hid
      obtain rfl := Option.some.inj hentry
      obtain ⟨blank, hblank, hid, hname, -⟩ := h.entries _ old hold
      -- the places of the new block end where the list of objects does
      refine ⟨blank, hblank, by simpa [hold] using hid, by simpa [hold] using hname,
        fun object hobject => ?_⟩
      have hrange := List.mem_range'_1.1 hobject
      rw [hobjects, List.length_append]
      exact hrange.2
    · obtain ⟨blank, hblank, hid, hname, hbound⟩ := h.entries a entry hentry
      refine ⟨blank, hblank, hid, hname, fun object hobject => ?_⟩
      rw [hobjects, List.length_append]
      exact Nat.lt_add_right _ (hbound object hobject)
  · simp only [haccounts, Dict.get?_update] at hentry
    rw [hobjects]
    split_ifs at hentry with hid
    · -- the block of this domain is what was just appended
      obtain rfl := Option.some.inj hentry
      rw [← hid, hlisted]
      exact filterMap_range' dir.objects listed
    · have hbefore : ∃ d ∈ domains, d.id = a := by
        obtain ⟨d, hd, hda⟩ := ha
        rcases List.mem_append.1 hd with hd | hd
        · exact ⟨d, hd, hda⟩
        · exact absurd (by rw [← hda, List.mem_singleton.1 hd]) hid
      obtain ⟨-, -, -, -, hbound⟩ := h.entries a entry hentry
      rw [← h.blocks a entry hentry hbefore]
      exact List.filterMap_congr fun object hobject =>
        List.getElem?_append_left (hbound object hobject)
  · simp only [haccounts, Dict.get?_update] at hentry
    rw [if_neg fun hid => ha ⟨domain, by simp, hid⟩] at hentry
    refine h.unread a entry hentry ?_
    rintro ⟨d, hd, hid⟩
    exact ha ⟨d, List.mem_append_left _ hd, hid⟩
  · rw [haccounts]
    exact Dict.nodup_keys_update (h.nodup hnodup)
  · have hnot : ¬ cloud.ProjectsRefused domain.id := by
      rintro ⟨e, he⟩
      cases hok.symm.trans he
    rw [hunreadable]
    simp [h.unreadable, or_and_right, exists_or, hnot]

theorem gathered_foldl_readDomain (hkeys : ∀ d ∈ domains, accounts.get? d.id ≠ none)
    (hblank : ∀ a entry, accounts.get? a = some entry → entry.projects = []) :
    Gathered cloud accounts domains
      (domains.foldl (readDomain cloud) ⟨accounts, [], [], [], []⟩) := by
  induction domains using List.reverseRecOn with
  | nil =>
    exact ⟨rfl, by simp [Dict.get?], by simp, by simp [Dict.get?], by simp [Dict.get?],
      fun _ => Iff.rfl,
      fun a entry hentry => ⟨entry, hentry, rfl, rfl, by simp [hblank a entry hentry]⟩, by simp,
      fun a entry hentry _ => hblank a entry hentry, id, by simp⟩
  | append_singleton domains domain ih =>
    have hdir := ih fun d hd => hkeys d (List.mem_append_left _ hd)
    rw [List.foldl_append, List.foldl_cons, List.foldl_nil]
    cases hread : cloud.projectDetails domain.id with
    | error e =>
      have hrefuse := hdir.refuse hread
      rwa [readDomain, hread]
    | ok listed => exact hdir.list hread (hkeys domain (by simp))

theorem get?_blankAccounts {a : String} {entry : AccountEntry}
    (h : (blankAccounts domains).get? a = some entry) :
    ∃ d ∈ domains, d.id = a ∧ entry = ⟨d.id, d.name, []⟩ := by
  rcases Dict.get?_foldl_set_some h with h | ⟨d, hd, hid, hentry⟩
  · cases h
  · exact ⟨d, hd, hid, hentry.symm⟩

theorem nodup_keys_blankAccounts : (blankAccounts domains).keys.Nodup :=
  @Dict.nodup_keys_foldl_set _ _ _ _ [] _ _ List.nodup_nil _

theorem gathered_panelDirectory :
    Gathered cloud (blankAccounts domains) domains (panelDirectory cloud domains) := by
  refine gathered_foldl_readDomain (fun d hd => ?_) fun a entry hentry => ?_
  · exact Dict.get?_foldl_set_ne_none (.inr ⟨d, hd, rfl⟩)
  · obtain ⟨d, -, -, rfl⟩ := get?_blankAccounts hentry
    rfl

end Gathered

/-! ### The owner of a project -/

section Owner

variable {cloud : PanelCloud} {domains : List Domain} {a p : String} {object : ℕ}
  {project : ProjectDetails}

theorem get?_projects_eq (honce : cloud.ListedOnce domains)
    (hobject : (panelDirectory cloud domains).objects[object]? = some project) :
    (panelDirectory cloud domains).projects.get? project.id = some object := by
  have hdir := @gathered_panelDirectory cloud domains
  obtain ⟨j, hj⟩ :=
    Option.ne_none_iff_exists'.1 (hdir.covers project (List.mem_of_getElem? hobject))
  obtain ⟨project', hproject', hid⟩ := hdir.found _ j hj
  have hnodup : ((panelDirectory cloud domains).objects.map ProjectDetails.id).Nodup := by
    rw [hdir.objects, List.map_flatMap]
    exact honce
  have hlt : j < ((panelDirectory cloud domains).objects.map ProjectDetails.id).length := by
    rw [List.length_map]
    exact (List.getElem?_eq_some_iff.1 hproject').1
  have hsame : j = object := by
    refine (List.getElem?_inj hlt hnodup).1 ?_
    rw [List.getElem?_map, List.getElem?_map, hproject', hobject, Option.map_some, Option.map_some,
      hid]
  rw [hj, hsame]

theorem listedIds_unique (honce : cloud.ListedOnce domains) {d d' : Domain} (hd : d ∈ domains)
    (hd' : d' ∈ domains) (hp : p ∈ cloud.listedIds d.id) (hp' : p ∈ cloud.listedIds d'.id) :
    d = d' := by
  by_contra hne
  obtain ⟨-, hdisjoint⟩ := List.nodup_flatMap.1 honce
  have : Std.Symm (Function.onFun List.Disjoint fun d : Domain => cloud.listedIds d.id) :=
    ⟨fun _ _ h => h.symm⟩
  exact hdisjoint.forall hd hd' hne hp hp'

/-- A listed project has an account and an object. -/
theorem owner_of_mem_listedIds (honce : cloud.ListedOnce domains) (hids : ∀ d ∈ domains, d.id ≠ "")
    {d : Domain} (hd : d ∈ domains) (hp : p ∈ cloud.listedIds d.id) :
    ∃ object, (panelDirectory cloud domains).owner p = some (d.id, object) ∧
      (panelDirectory cloud domains).projects.get? p = some object := by
  have hdir := @gathered_panelDirectory cloud domains
  obtain ⟨project, hproject, rfl⟩ := List.mem_map.1 hp
  have hmem : project ∈ (panelDirectory cloud domains).objects := by
    rw [hdir.objects]
    exact List.mem_flatMap.2 ⟨d, hd, hproject⟩
  obtain ⟨object, hobject⟩ := Option.ne_none_iff_exists'.1 (hdir.covers project hmem)
  obtain ⟨a, ha⟩ := Option.ne_none_iff_exists'.1
    (mt (hdir.together project.id).1 (hdir.covers project hmem))
  obtain ⟨⟨d', hd', rfl⟩, hp'⟩ := hdir.account _ a ha
  obtain rfl := listedIds_unique honce hd hd' hp hp'
  have hkeep : keep ((panelDirectory cloud domains).accountOfProject.get? project.id) = some d.id :=
    keep_eq_some.2 ⟨ha, hids d hd⟩
  refine ⟨object, ?_, hobject⟩
  rw [PanelDirectory.owner, hkeep, hobject]

/-- The account of a project is the one that lists it. -/
theorem owner_eq (honce : cloud.ListedOnce domains) (hids : ∀ d ∈ domains, d.id ≠ "") :
    ((panelDirectory cloud domains).owner p).map Prod.fst = some a ↔
      (∃ d ∈ domains, d.id = a) ∧ p ∈ cloud.listedIds a := by
  constructor
  · intro h
    obtain ⟨⟨a, object⟩, howner, rfl⟩ := Option.map_eq_some_iff.1 h
    unfold PanelDirectory.owner at howner
    split at howner
    · rename_i haccount hobject
      obtain ⟨rfl, -⟩ := Prod.mk.inj (Option.some.inj howner)
      exact gathered_panelDirectory.account p _ (keep_eq_some.1 haccount).1
    · cases howner
  · rintro ⟨⟨d, hd, rfl⟩, hp⟩
    obtain ⟨object, howner, -⟩ := owner_of_mem_listedIds honce hids hd hp
    rw [howner]
    rfl

theorem owner_eq_none (honce : cloud.ListedOnce domains) (hids : ∀ d ∈ domains, d.id ≠ "") :
    (panelDirectory cloud domains).owner p = none ↔ ∀ d ∈ domains, p ∉ cloud.listedIds d.id := by
  constructor
  · intro h d hd hp
    obtain ⟨object, howner, -⟩ := owner_of_mem_listedIds honce hids hd hp
    cases h.symm.trans howner
  · intro h
    by_contra hne
    obtain ⟨⟨a, object⟩, howner⟩ := Option.ne_none_iff_exists'.1 hne
    have howner' : ((panelDirectory cloud domains).owner p).map Prod.fst = some a := by
      rw [howner]; rfl
    obtain ⟨⟨d, hd, rfl⟩, hp⟩ := (owner_eq honce hids).1 howner'
    exact h d hd hp

/-- An object belongs to its project alone. -/
theorem owner_object (honce : cloud.ListedOnce domains) (hids : ∀ d ∈ domains, d.id ≠ "")
    (hobject : (panelDirectory cloud domains).objects[object]? = some project) (p : String) :
    ((panelDirectory cloud domains).owner p).map Prod.snd = some object ↔ p = project.id := by
  have hdir := @gathered_panelDirectory cloud domains
  constructor
  · intro h
    obtain ⟨⟨a, object'⟩, howner, rfl⟩ := Option.map_eq_some_iff.1 h
    unfold PanelDirectory.owner at howner
    split at howner
    · rename_i haccount hget
      obtain ⟨-, rfl⟩ := Prod.mk.inj (Option.some.inj howner)
      obtain ⟨project', hproject', rfl⟩ := hdir.found p _ hget
      rw [Option.some.inj (hproject'.symm.trans hobject)]
    · cases howner
  · rintro rfl
    have hmem : project ∈ (panelDirectory cloud domains).objects := List.mem_of_getElem? hobject
    rw [hdir.objects] at hmem
    obtain ⟨d, hd, hlisted⟩ := List.mem_flatMap.1 hmem
    obtain ⟨object', howner, hget⟩ :=
      owner_of_mem_listedIds honce hids hd (List.mem_map_of_mem hlisted)
    rw [get?_projects_eq honce hobject] at hget
    rw [howner, Option.map_some, Option.some.inj hget]

end Owner

/-! ### The picture -/

/-- The rows of the projects an account lists. -/
def PanelCloud.rowsOf (cloud : PanelCloud) (s : Source) (a : String) : List s.Row :=
  (cloud.rows s).filter fun row => s.projectId row ∈ cloud.listedIds a

/-- The rows of a project. -/
def PanelCloud.rowsIn (cloud : PanelCloud) (s : Source) (p : String) : List s.Row :=
  (cloud.rows s).filter fun row => s.projectId row = p

/-- The rows whose project no account lists. -/
def PanelCloud.unownedRows (cloud : PanelCloud) (domains : List Domain) (s : Source) : List s.Row :=
  (cloud.rows s).filter fun row => ∀ d ∈ domains, s.projectId row ∉ cloud.listedIds d.id

/-- Some account of this name has its projects refused. -/
def PanelCloud.NameRefused (cloud : PanelCloud) (domains : List Domain) (name : String) : Prop :=
  ∃ d ∈ domains, d.name = name ∧ cloud.ProjectsRefused d.id

/-- An account is shown with what the rows of its projects weigh. -/
structure ShowsAccount (c : Casing) (cloud : PanelCloud) (domains : List Domain) (v : AccountView) :
    Prop where
  domain : ∃ d ∈ domains, d.id = v.id ∧ d.name = v.name
  projects : v.projects.map ProjectView.project = cloud.listed v.id
  unknown : ∀ k, cloud.Unavailable k.source ∨ cloud.NameRefused domains v.name →
    v.usage.measure k = none
  known : ∀ k, ¬ cloud.Unavailable k.source → ¬ cloud.NameRefused domains v.name →
    v.usage.measure k = some (tally (weight c k.source k) (cloud.rowsOf k.source v.id))
  split : ¬ cloud.Unavailable .volumes → ¬ cloud.NameRefused domains v.name →
    v.usage.storageByMedia = some (mediaTotals (cloud.rowsOf .volumes v.id))
  named : ((blankAccounts domains).get? v.id).map AccountEntry.name = some v.name

/-- A project is shown with what its rows weigh. -/
structure ShowsProject (c : Casing) (cloud : PanelCloud) (v : ProjectView) : Prop where
  unknown : ∀ k, cloud.Unavailable k.source → v.usage.measure k = none
  known : ∀ k, ¬ cloud.Unavailable k.source →
    v.usage.measure k = some (tally (weight c k.source k) (cloud.rowsIn k.source v.project.id))
  split : ¬ cloud.Unavailable .volumes →
    v.usage.storageByMedia = some (mediaTotals (cloud.rowsIn .volumes v.project.id))

/-- What a picture shows. -/
structure Shows (c : Casing) (cloud : PanelCloud) (domains : List Domain) (picture : Picture) :
    Prop where
  accounts : ∀ v ∈ picture.accounts, ShowsAccount c cloud domains v
  projects : ∀ v ∈ picture.accounts, ∀ pv ∈ v.projects, ShowsProject c cloud pv
  nodup : (picture.accounts.map AccountView.id).Nodup
  complete : ∀ d ∈ domains, ∃ v ∈ picture.accounts, v.id = d.id
  totals : ∀ k, picture.totals.usage.measure k = if cloud.Unavailable k.source then none
    else some (tally (weight c k.source k) (cloud.rows k.source))
  unattributed : ∀ s, picture.unattributed s = if cloud.Unavailable s then none
    else some (cloud.unownedRows domains s).length

section Picture

variable {c : Casing} {cloud : PanelCloud} {domains : List Domain} {picture : Picture}

theorem showsProject_viewProject (honce : cloud.ListedOnce domains)
    (hids : ∀ d ∈ domains, d.id ≠ "")
    {object : ℕ} {v : ProjectView} (hview : viewProject cloud (panelDirectory cloud domains)
      (countRows c cloud (panelDirectory cloud domains)) object = some v) :
        ShowsProject c cloud v := by
  obtain ⟨project, hobject, heq⟩ := Option.map_eq_some_iff.1 hview
  have hproject : v.project = project := by rw [← heq]
  have hmeasure : ∀ k, v.usage.measure k = if cloud.Unavailable k.source then none
      else some ((countRows c cloud (panelDirectory cloud domains)).projectMeasure project.id object
        k) := by
    intro k
    rw [← heq]
    dsimp only
    rw [if_pos (get?_projects_eq honce hobject), measure_shown_splitByMedia]
    cases k <;> rfl
  refine ⟨fun k hk => by rw [hmeasure, if_pos hk], fun k hk => ?_, fun hk => ?_⟩
  · rw [hmeasure, if_neg hk, projectMeasure_countRows (owner_object honce hids hobject), hproject]
    rfl
  · have howner : (panelDirectory cloud domains).owner project.id ≠ none := by
      intro hnone
      have := (owner_object honce hids hobject project.id).2 rfl
      rw [hnone] at this
      cases this
    rw [hproject, ← heq]
    dsimp only
    rw [if_pos (get?_projects_eq honce hobject), storageByMedia_shown_splitByMedia hk,
      volumesOfProject_countRows howner]
    rfl

theorem showsAccount_viewAccount (honce : cloud.ListedOnce domains)
    (hids : ∀ d ∈ domains, d.id ≠ "") {a : String} {entry : AccountEntry}
    (hentry : (panelDirectory cloud domains).accounts.get? a = some entry) :
    entry.id = a ∧ ShowsAccount c cloud domains (viewAccount cloud (panelDirectory cloud domains)
      (countRows c cloud (panelDirectory cloud domains)) entry) := by
  have hdir := @gathered_panelDirectory cloud domains
  obtain ⟨blank, hblank, hid, hname, -⟩ := hdir.entries a entry hentry
  obtain ⟨d, hd, rfl, rfl⟩ := get?_blankAccounts hblank
  have hmeasure : ∀ k, (viewAccount cloud (panelDirectory cloud domains)
      (countRows c cloud (panelDirectory cloud domains)) entry).usage.measure k =
        if entry.name ∈ (panelDirectory cloud domains).unreadable then none
        else if cloud.Unavailable k.source then none
        else some
          ((countRows c cloud (panelDirectory cloud domains)).accountMeasure entry.id k) := by
    intro k
    unfold viewAccount
    dsimp only
    split_ifs with hunreadable hk
    · rw [measure_markUnavailable, if_pos k.source.mem_all]
    · rw [measure_shown_splitByMedia, if_pos hk]
    · rw [measure_shown_splitByMedia, if_neg hk]
      cases k <;> rfl
  have howner : ∀ p, ((panelDirectory cloud domains).owner p).map Prod.fst = some entry.id ↔
      p ∈ cloud.listedIds entry.id := by
    intro p
    rw [owner_eq honce hids]
    exact and_iff_right ⟨d, hd, hid.symm⟩
  refine ⟨hid, ⟨d, hd, hid.symm, hname.symm⟩, ?_, fun k hk => ?_, fun k hk hnot => ?_,
    fun hk hnot => ?_, ?_⟩
  · have hblock := hdir.blocks _ entry hentry ⟨d, hd, rfl⟩
    rw [viewAccount, List.map_filterMap, hid, ← hblock]
    -- each place of the block is shown as the project there
    refine List.filterMap_congr fun object _ => ?_
    rw [viewProject, Option.map_map]
    exact Option.map_id'
  · rw [hmeasure]
    rcases hk with hk | hk
    · simp [hk]
    · have hunreadable : entry.name ∈ (panelDirectory cloud domains).unreadable :=
        (hdir.unreadable _).2 hk
      rw [if_pos hunreadable]
  · have hreadable : entry.name ∉ (panelDirectory cloud domains).unreadable :=
      fun h => hnot ((hdir.unreadable _).1 h)
    rw [hmeasure, if_neg hreadable, if_neg hk, accountMeasure_countRows]
    simp only [howner]
    rfl
  · have hreadable : entry.name ∉ (panelDirectory cloud domains).unreadable :=
      fun h => hnot ((hdir.unreadable _).1 h)
    unfold viewAccount
    dsimp only
    rw [if_neg hreadable, storageByMedia_shown_splitByMedia hk, volumesOfAccount_countRows]
    simp only [howner]
    rfl
  · rw [viewAccount, hid, hblank, Option.map_some, hname]

/-- What the picture shows, where each project is listed once. -/
theorem shows_buildPicture (hok : buildPicture c cloud = .ok picture)
    (hdomains : cloud.listDomains = .ok domains) (honce : cloud.ListedOnce domains) :
    Shows c cloud domains picture := by
  have hids : ∀ d ∈ domains, d.id ≠ "" := fun d hd => id_ne_empty_of_listDomains hdomains hd
  have hdir := @gathered_panelDirectory cloud domains
  unfold buildPicture at hok
  obtain ⟨token, htoken, hok⟩ := exists_of_bind_eq_ok hok
  obtain ⟨domains', hdomains', hok⟩ := exists_of_bind_eq_ok hok
  obtain rfl : domains = domains' := Except.ok.inj (hdomains.symm.trans hdomains')
  obtain ⟨vms, hvms, hok⟩ := exists_of_bind_eq_ok hok
  obtain rfl := Except.ok.inj hok
  have hnodup := hdir.nodup nodup_keys_blankAccounts
  have hmem : ∀ entry, entry ∈ (panelDirectory cloud domains).accounts.map Prod.snd ↔
      ∃ a, (panelDirectory cloud domains).accounts.get? a = some entry := by
    intro entry
    simp only [List.mem_map, Prod.exists, exists_eq_right, Dict.mem_iff_get? hnodup]
  -- the views are the entries of the directory, in the order of their names
  have hperm := List.perm_insertionSort (fun a b : AccountView => c.lower a.name ≤ c.lower b.name)
    (((panelDirectory cloud domains).accounts.map Prod.snd).map (viewAccount cloud
      (panelDirectory cloud domains) (countRows c cloud (panelDirectory cloud domains))))
  refine ⟨fun v hv => ?_, fun v hv pv hpv => ?_, ?_, fun d hd => ?_, fun k => ?_, fun s => ?_⟩
  · obtain ⟨entry, hentry, rfl⟩ := List.mem_map.1 (hperm.mem_iff.1 hv)
    obtain ⟨a, ha⟩ := (hmem entry).1 hentry
    exact (showsAccount_viewAccount honce hids ha).2
  · obtain ⟨entry, hentry, rfl⟩ := List.mem_map.1 (hperm.mem_iff.1 hv)
    obtain ⟨object, -, hview⟩ := List.mem_filterMap.1 hpv
    exact showsProject_viewProject honce hids hview
  · -- the ids are the keys
    have hkeys : ((panelDirectory cloud domains).accounts.map Prod.snd).map AccountEntry.id =
        (panelDirectory cloud domains).accounts.keys := by
      rw [List.map_map]
      refine List.map_congr_left fun e he => ?_
      obtain ⟨a, entry⟩ := e
      exact (@showsAccount_viewAccount c cloud domains honce hids a entry
        ((Dict.mem_iff_get? hnodup).1 he)).1
    refine ((hperm.map AccountView.id).nodup_iff).2 ?_
    rw [List.map_map]
    exact hkeys ▸ hnodup
  · have hkey : (panelDirectory cloud domains).accounts.get? d.id ≠ none := by
      rw [ne_eq, hdir.keys]
      exact Dict.get?_foldl_set_ne_none (.inr ⟨d, hd, rfl⟩)
    obtain ⟨entry, hentry⟩ := Option.ne_none_iff_exists'.1 hkey
    refine ⟨_, hperm.mem_iff.2 (List.mem_map_of_mem ((hmem entry).2 ⟨_, hentry⟩)), ?_⟩
    exact (@showsAccount_viewAccount c cloud domains honce hids _ entry hentry).1
  · rw [measure_markUnavailable, measure_shown, measure_totalUsage]
    simp only [mem_unavailable]
  · simp only [unattributed_countRows, owner_eq_none honce hids]
    rfl

end Picture

end OpenCloud
