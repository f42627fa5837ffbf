import Mathlib.Data.List.Basic
import Mathlib.Data.List.Dedup
import Mathlib.Data.List.Induction
import Mathlib.Data.List.Nodup
import Mathlib.Data.List.Sort

/-!
# Dictionaries in order of insertion

A dictionary is the list of its entries, in the order in which the keys first came.  `update d k v
f` applies `f` to the entry of `k`, after putting `v` there if there is none yet: the idiom
`d.setdefault(k, v)` followed by a change in place.

Most dictionaries of the model are made by a loop that sends each item to the entry of its key and
skips items without one; `collect` is this loop.  `getD_collect` says what it leaves under a key:
the same loop over the items of that key alone.
-/

namespace OpenCloud

/-- A dictionary: its entries in order of insertion. -/
abbrev Dict (κ ν : Type*) := List (κ × ν)

namespace Dict

variable {κ ν α : Type*} [DecidableEq κ]

/-- The keys, in order of insertion. -/
def keys (d : Dict κ ν) : List κ := d.map Prod.fst

/-- `d.get(k)`. -/
def get? : Dict κ ν → κ → Option ν
  | [], _ => none
  | (k', v) :: d, k => if k' = k then some v else get? d k

/-- Apply `f` to the entry of `k`, which is `v` if there is none yet. -/
def update : Dict κ ν → κ → ν → (ν → ν) → Dict κ ν
  | [], k, v, f => [(k, f v)]
  | (k', w) :: d, k, v, f => if k' = k then (k', f w) :: d else (k', w) :: update d k v f

/-- `d[k] = v`. -/
def set (d : Dict κ ν) (k : κ) (v : ν) : Dict κ ν := d.update k v fun _ => v

/-- The loop that sends every item to the entry of its key, and skips items without a key. -/
def collect (key : α → Option κ) (v : ν) (f : α → ν → ν) (d : Dict κ ν) (items : List α) :
    Dict κ ν :=
  items.foldl (fun d a => match key a with
    | none => d
    | some k => d.update k v (f a)) d

variable {d : Dict κ ν} {k k' : κ} {v : ν} {f : ν → ν}

theorem get?_update : (d.update k v f).get? k' =
    if k = k' then some (f ((d.get? k).getD v)) else d.get? k' := by
  induction d with
  | nil => simp [update, get?]
  | cons e d ih =>
    obtain ⟨j, w⟩ := e
    simp only [update, get?]
    by_cases hj : j = k
    · subst hj
      by_cases hk : j = k' <;> simp [get?, hk]
    · rw [if_neg hj, get?, ih]
      by_cases hk : k = k'
      · subst hk; simp [hj]
      · simp [hk]

theorem get?_set : (d.set k v).get? k' = if k = k' then some v else d.get? k' := get?_update

theorem mem_keys_update : k' ∈ (d.update k v f).keys ↔ k' = k ∨ k' ∈ d.keys := by
  induction d with
  | nil => simp [update, keys]
  | cons e d ih =>
    obtain ⟨j, w⟩ := e
    simp only [update]
    split_ifs with hj
    · subst hj; simp [keys]
    · simp only [keys, List.map_cons, List.mem_cons] at ih ⊢
      rw [ih]; tauto

theorem nodup_keys_update (h : d.keys.Nodup) : (d.update k v f).keys.Nodup := by
  induction d with
  | nil => simp [update, keys]
  | cons e d ih =>
    obtain ⟨j, w⟩ := e
    obtain ⟨hj, hd⟩ := List.nodup_cons.1 h
    simp only [update]
    split_ifs with hjk
    · exact List.nodup_cons.2 ⟨hj, hd⟩
    · refine List.nodup_cons.2 ⟨fun hmem => ?_, ih hd⟩
      rcases mem_keys_update.1 hmem with rfl | hmem
      · exact hjk rfl
      · exact hj hmem

theorem mem_iff_get? (h : d.keys.Nodup) : (k, v) ∈ d ↔ d.get? k = some v := by
  induction d with
  | nil => simp [get?]
  | cons e d ih =>
    obtain ⟨j, w⟩ := e
    obtain ⟨hj, hd⟩ := List.nodup_cons.1 h
    simp only [List.mem_cons, Prod.mk.injEq, get?]
    split_ifs with hjk
    · subst hjk
      constructor
      · rintro (⟨-, rfl⟩ | hmem)
        · rfl
        · exact absurd (List.mem_map_of_mem (f := Prod.fst) hmem) hj
      · intro hv; exact .inl ⟨rfl, (Option.some.inj hv).symm⟩
    · rw [← ih hd]
      exact ⟨fun hor => hor.resolve_left fun ⟨hk, _⟩ => hjk hk.symm, .inr⟩

theorem get?_perm {d' : Dict κ ν} (h : d.keys.Nodup) (hperm : List.Perm d d') :
    d.get? k = d'.get? k := by
  have h' : d'.keys.Nodup := (hperm.map Prod.fst).nodup_iff.1 h
  refine Option.ext fun v => ?_
  rw [← mem_iff_get? h, ← mem_iff_get? h', hperm.mem_iff]

theorem get?_map {f : κ × ν → κ × ν} (hf : ∀ e, (f e).1 = e.1) :
    Dict.get? (d.map f) k = (d.get? k).map fun v => (f (k, v)).2 := by
  induction d with
  | nil => rfl
  | cons e d ih =>
    obtain ⟨j, w⟩ := e
    have hhead : f (j, w) = (j, (f (j, w)).2) := Prod.ext (hf _) rfl
    rw [List.map_cons, hhead, get?, get?, ih]
    by_cases hjk : j = k
    · rw [if_pos hjk, if_pos hjk, hjk]
      rfl
    · rw [if_neg hjk, if_neg hjk]

theorem get?_eq_none_iff : d.get? k = none ↔ k ∉ d.keys := by
  induction d with
  | nil => simp [get?, keys]
  | cons e d ih =>
    obtain ⟨j, w⟩ := e
    simp only [get?, keys, List.map_cons, List.mem_cons, not_or] at ih ⊢
    split_ifs with hjk
    · simp [hjk]
    · rw [ih]
      exact ⟨fun h => ⟨Ne.symm hjk, h⟩, And.right⟩

theorem get?_foldl_set {items : List α} {key : α → κ} {val : α → ν} (h : d.get? k = none)
    (hkey : ∀ a ∈ items, key a ≠ k) :
    (items.foldl (fun d a => d.set (key a) (val a)) d).get? k = none := by
  induction items generalizing d with
  | nil => exact h
  | cons a items ih =>
    refine ih ?_ fun b hb => hkey b (by simp [hb])
    rw [get?_set, if_neg (hkey a (by simp)), h]

theorem get?_foldl_set_last {items : List α} {key : α → κ} {val : α → ν} :
    (items.foldl (fun d a => d.set (key a) (val a)) d).get? k =
      ((items.filter fun a => key a = k).getLast?.map val).or (d.get? k) := by
  induction items using List.reverseRecOn with
  | nil => rfl
  | append_singleton items a ih =>
    rw [List.foldl_append, List.foldl_cons, List.foldl_nil, get?_set, ih, List.filter_append]
    by_cases hkey : key a = k
    · rw [if_pos hkey, List.filter_cons_of_pos (by simpa using hkey), List.filter_nil,
        List.getLast?_append]
      rfl
    · rw [if_neg hkey, List.filter_cons_of_neg (by simpa using hkey), List.filter_nil,
        List.append_nil]

theorem get?_foldl_set_some {items : List α} {key : α → κ} {val : α → ν}
    (h : (items.foldl (fun d a => d.set (key a) (val a)) d).get? k = some v) :
    d.get? k = some v ∨ ∃ a ∈ items, key a = k ∧ val a = v := by
  induction items generalizing d with
  | nil => exact .inl h
  | cons a items ih =>
    rcases ih h with hd | ⟨b, hb, hkey, hval⟩
    · rw [get?_set] at hd
      split_ifs at hd with hkey
      · exact .inr ⟨a, by simp, hkey, Option.some.inj hd⟩
      · exact .inl hd
    · exact .inr ⟨b, by simp [hb], hkey, hval⟩

theorem get?_foldl_set_ne_none {items : List α} {key : α → κ} {val : α → ν}
    (h : d.get? k ≠ none ∨ ∃ a ∈ items, key a = k) :
    (items.foldl (fun d a => d.set (key a) (val a)) d).get? k ≠ none := by
  induction items generalizing d with
  | nil => simpa using h
  | cons a items ih =>
    rw [List.foldl_cons]
    refine ih ?_
    rw [get?_set]
    by_cases hkey : key a = k
    · simp [hkey]
    · rcases h with h | ⟨b, hb, hbk⟩
      · simp [hkey, h]
      · rcases List.mem_cons.1 hb with rfl | hb
        · exact absurd hbk hkey
        · exact .inr ⟨b, hb, hbk⟩

theorem nodup_keys_foldl_set {key : α → κ} {val : α → ν} (h : d.keys.Nodup) (items : List α) :
    (items.foldl (fun d a => d.set (key a) (val a)) d).keys.Nodup := by
  induction items generalizing d with
  | nil => exact h
  | cons a items ih => exact ih (nodup_keys_update h)

theorem get?_foldl_set_entries {ξ : Type*} {e : Dict κ ξ} {val : ξ → ν} (he : e.keys.Nodup) :
    (e.foldl (fun d a => d.set a.1 (val a.2)) d).get? k = ((e.get? k).map val).or (d.get? k) := by
  induction e generalizing d with
  | nil => rfl
  | cons a e ih =>
    obtain ⟨j, x⟩ := a
    obtain ⟨hj, he⟩ := List.nodup_cons.1 he
    rw [List.foldl_cons, ih he, get?_set, get?]
    by_cases hjk : j = k
    · subst hjk
      rw [if_pos rfl, if_pos rfl, get?_eq_none_iff.2 hj]
      rfl
    · rw [if_neg hjk, if_neg hjk]

theorem filter_key (h : d.keys.Nodup) (k : κ) :
    (d.filter fun e => e.1 = k) = ((d.get? k).map (k, ·)).toList := by
  induction d with
  | nil => rfl
  | cons e d ih =>
    obtain ⟨j, w⟩ := e
    obtain ⟨hj, hd⟩ := List.nodup_cons.1 h
    by_cases hjk : j = k
    · subst hjk
      have hnone : (d.filter fun e => e.1 = j) = [] := List.filter_eq_nil_iff.2 fun e he hk =>
        hj (List.mem_map.2 ⟨e, he, by simpa using hk⟩)
      rw [List.filter_cons_of_pos (by simp), hnone, get?, if_pos rfl]
      rfl
    · rw [List.filter_cons_of_neg (by simpa using hjk), get?, if_neg hjk]
      exact ih hd

theorem nodup_keys_collect {key : α → Option κ} {f : α → ν → ν} (h : d.keys.Nodup)
    (items : List α) : (collect key v f d items).keys.Nodup := by
  induction items generalizing d with
  | nil => exact h
  | cons a items ih =>
    simp only [collect, List.foldl_cons]
    cases key a with
    | none => exact ih h
    | some k => exact ih (nodup_keys_update h)

/-- What the loop leaves under a key, given the value an absent entry stands for. -/
theorem getD_collect (key : α → Option κ) (v : ν) (f : α → ν → ν) (d : Dict κ ν)
    (items : List α) (k : κ) :
    ((collect key v f d items).get? k).getD v =
      (items.filter fun a => key a = some k).foldl (fun w a => f a w) ((d.get? k).getD v) := by
  induction items generalizing d with
  | nil => rfl
  | cons a items ih =>
    have hrec := fun d' : Dict κ ν => ih d'
    simp only [collect] at hrec
    simp only [collect, List.foldl_cons]
    rcases hkey : key a with _ | j
    · rw [hrec, List.filter_cons_of_neg (by simp [hkey])]
    · rw [hrec, get?_update]
      by_cases hj : j = k
      · subst hj
        rw [List.filter_cons_of_pos (by simp [hkey])]
        simp
      · rw [List.filter_cons_of_neg (by simp [hkey, hj])]
        simp [hj]

theorem getD_group (key : α → Option κ) (items : List α) (k : κ) :
    ((collect key [] (fun a group => group ++ [a]) [] items).get? k).getD [] =
      items.filter fun a => key a = some k := by
  have happend : ∀ as group : List α, as.foldl (fun group a => group ++ [a]) group =
    group ++ as := by
    intro as
    induction as with
    | nil => simp
    | cons a as ih =>
      intro group
      rw [List.foldl_cons, ih, List.append_assoc]
      rfl
  rw [getD_collect, happend]
  rfl

theorem collect_filter (key : α → Option κ) (v : ν) (f : α → ν → ν) (d : Dict κ ν) (items : List α)
    (p : α → Bool) (hp : ∀ a ∈ items, p a = false → key a = none) :
    collect key v f d (items.filter p) = collect key v f d items := by
  induction items generalizing d with
  | nil => rfl
  | cons a items ih =>
    obtain ⟨ha, hrest⟩ := List.forall_mem_cons.1 hp
    have hrec := fun d' : Dict κ ν => ih d' hrest
    simp only [collect] at hrec ⊢
    by_cases hpa : p a = true
    · rw [List.filter_cons_of_pos hpa, List.foldl_cons, List.foldl_cons, hrec]
    · rw [List.filter_cons_of_neg hpa, List.foldl_cons, ha (by simpa using hpa), hrec]

theorem isSome_collect (key : α → Option κ) (v : ν) (f : α → ν → ν) (d : Dict κ ν)
    (items : List α) (k : κ) :
    ((collect key v f d items).get? k).isSome ↔
      (d.get? k).isSome ∨ ∃ a ∈ items, key a = some k := by
  induction items generalizing d with
  | nil => simp [collect]
  | cons a items ih =>
    have hrec := fun d' : Dict κ ν => ih d'
    simp only [collect] at hrec
    simp only [collect, List.foldl_cons, List.exists_mem_cons_iff]
    rcases hkey : key a with _ | j
    · rw [hrec]; simp
    · rw [hrec, get?_update]
      by_cases hj : j = k
      · subst hj; simp
      · simp [hj]

/-- The entries of the loop that groups items: the keys that some item has, each with its items. -/
theorem mem_group_iff {key : α → κ} {items : List α} {e : κ × List α} :
    e ∈ collect (fun a => some (key a)) [] (fun a group => group ++ [a]) [] items ↔
      (∃ a ∈ items, key a = e.1) ∧ e.2 = items.filter fun a => key a = e.1 := by
  obtain ⟨k, group⟩ := e
  have hnodup :
    (collect (fun a => some (key a)) [] (fun a group => group ++ [a]) [] items).keys.Nodup :=
    nodup_keys_collect (d := []) List.nodup_nil items
  have hgroup := getD_group (fun a => some (key a)) items k
  have hsome := isSome_collect (fun a => some (key a)) [] (fun a group => group ++ [a]) [] items k
  simp only [Option.some_inj] at hgroup hsome
  rw [mem_iff_get? hnodup]
  constructor
  · intro hget
    rw [hget] at hgroup hsome
    exact ⟨(hsome.1 rfl).resolve_left (by simp [get?]), hgroup⟩
  · rintro ⟨hkey, hitems⟩
    obtain ⟨found, hfound⟩ := Option.isSome_iff_exists.1 (hsome.2 (.inr hkey))
    rw [hfound, Option.getD_some] at hgroup
    exact hfound.trans (congrArg some (hgroup.trans hitems.symm))

theorem group_perm (key : α → κ) (items : List α) :
    (collect (fun a => some (key a)) [] (fun a group => group ++ [a]) [] items).Perm
      ((items.map key).dedup.map fun k => (k, items.filter fun a => key a = k)) := by
  have hnodup :
    (collect (fun a => some (key a)) [] (fun a group => group ++ [a]) [] items).keys.Nodup :=
    nodup_keys_collect (d := []) List.nodup_nil items
  have hkeys : ((items.map key).dedup.map fun k => (k, items.filter fun a => key a = k)).Nodup :=
    (List.nodup_dedup _).map fun k k' h => (Prod.mk.inj h).1
  refine (List.perm_ext_iff_of_nodup (List.Nodup.of_map _ hnodup) hkeys).2 fun e => ?_
  rw [mem_group_iff, List.mem_map]
  constructor
  · rintro ⟨⟨a, ha, hkey⟩, hgroup⟩
    exact ⟨e.1, List.mem_dedup.2 (List.mem_map.2 ⟨a, ha, hkey⟩), Prod.ext rfl hgroup.symm⟩
  · rintro ⟨k, hk, rfl⟩
    exact ⟨List.mem_map.1 (List.mem_dedup.1 hk), rfl⟩

/-! ### The items in the order of the keys -/

/-- The items sorted by key are the keys in their order, each with its value. -/
theorem insertionSort_items (le : κ → κ → Prop) [DecidableRel le]
    [Std.Total fun a b : κ × ν => le a.1 b.1] [IsTrans (κ × ν) fun a b => le a.1 b.1] {ks : List κ}
    (hanti : ∀ a b, le a b → le b a → a = b) (hsorted : ks.Pairwise le) (hks : ks.Nodup)
    (hd : d.keys.Nodup) (hall : ∀ k ∈ d.keys, k ∈ ks) :
    d.insertionSort (fun a b => le a.1 b.1) = ks.filterMap fun k => (d.get? k).map (k, ·) := by
  have hmem : ∀ e : κ × ν, e ∈ ks.filterMap (fun k => (d.get? k).map (k, ·)) ↔ e ∈ d := by
    rintro ⟨k, v⟩
    rw [mem_iff_get? hd]
    constructor
    · intro h
      obtain ⟨k', -, hk'⟩ := List.mem_filterMap.1 h
      obtain ⟨w, hw, he⟩ := Option.map_eq_some_iff.1 hk'
      obtain ⟨rfl, rfl⟩ := Prod.mk.inj he
      exact hw
    · intro h
      have hk : k ∈ d.keys := List.mem_map.2 ⟨(k, v), (mem_iff_get? hd).2 h, rfl⟩
      exact List.mem_filterMap.2 ⟨k, hall k hk, by simp [h]⟩
  have hfst : ∀ {a : κ} {e : κ × ν}, (d.get? a).map (a, ·) = some e → e.1 = a := by
    intro a e h
    obtain ⟨v, -, rfl⟩ := Option.map_eq_some_iff.1 h
    rfl
  have hnodup : (ks.filterMap fun k => (d.get? k).map (k, ·)).Nodup :=
    hks.filterMap fun a a' e he he' => (hfst he).symm.trans (hfst he')
  have hperm : (d.insertionSort fun a b => le a.1 b.1).Perm
      (ks.filterMap fun k => (d.get? k).map (k, ·)) :=
    (List.perm_insertionSort _ d).trans
      ((List.perm_ext_iff_of_nodup (List.Nodup.of_map _ hd) hnodup).2 fun e => (hmem e).symm)
  refine hperm.eq_of_pairwise ?_ (List.pairwise_insertionSort _ d) ?_
  · rintro ⟨k, v⟩ ⟨k', v'⟩ he he' h h'
    obtain rfl : k = k' := hanti _ _ h h'
    have hv := (mem_iff_get? hd).1 ((List.mem_insertionSort _).1 he)
    have hv' := (mem_iff_get? hd).1 ((hmem _).1 he')
    rw [Option.some.inj (hv.symm.trans hv')]
  · refine List.Pairwise.filterMap _ (fun a a' haa' e he e' he' => ?_) hsorted
    rw [hfst he, hfst he']
    exact haa'

end Dict

end OpenCloud
