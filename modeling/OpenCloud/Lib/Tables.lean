import OpenCloud.Lib.Dicts
import Mathlib.Data.List.Sort

/-!
# Tables

A table is the list of its rows.  `firstBy le rows` is `rows.order_by(…).first()`: the first row in
the order `le`, rows that compare equal keeping their order in the table.  `upsert p row change
rows` is `update_or_create`: it changes the row that satisfies `p`, or adds `row` if there is none.

## Main results

* `filter_insertionSort` : selecting from an ordered query is ordering what is selected.
* `get?_foldl_set_ordered` : in a dictionary filled from an ordered query the last row of a key
  stays.
* `mem_upsert_iff`, `pairwise_upsert` : what `update_or_create` leaves in the table.
-/

namespace OpenCloud

namespace Table

variable {α : Type*}

/-- The first row in the order `le`. -/
def firstBy (le : α → α → Prop) [DecidableRel le] (rows : List α) : Option α :=
  (rows.insertionSort le).head?

section

variable {le : α → α → Prop} [DecidableRel le] {rows : List α} {a : α}

theorem mem_of_firstBy (h : firstBy le rows = some a) : a ∈ rows :=
  (List.mem_insertionSort le).1 (List.mem_of_mem_head? h)

theorem le_of_firstBy [Std.Total le] [IsTrans α le] (h : firstBy le rows = some a) {b : α}
    (hb : b ∈ rows) : le a b := by
  have hsorted := List.pairwise_insertionSort le rows
  have hmem := (List.mem_insertionSort le).2 hb
  unfold firstBy at h
  cases hl : rows.insertionSort le with
  | nil => simp [hl] at h
  | cons a' l =>
    obtain rfl : a' = a := by simpa [hl] using h
    rw [hl] at hmem hsorted
    rcases List.mem_cons.1 hmem with rfl | hmem
    · exact (or_self _).mp (Std.Total.total b b)
    · exact (List.pairwise_cons.1 hsorted).1 b hmem

theorem firstBy_eq_none_iff : firstBy le rows = none ↔ rows = [] := by
  rw [firstBy, List.head?_eq_none_iff, ← List.length_eq_zero_iff, List.length_insertionSort,
    List.length_eq_zero_iff]

end

theorem filter_eq_find?_toList {p : α → Bool} {rows : List α}
    (h : rows.Pairwise fun a b => ¬ (p a = true ∧ p b = true)) :
    rows.filter p = (rows.find? p).toList := by
  induction rows with
  | nil => rfl
  | cons a rows ih =>
    obtain ⟨ha, hrows⟩ := List.pairwise_cons.1 h
    by_cases hp : p a = true
    · have hnone : rows.filter p = [] :=
        List.filter_eq_nil_iff.2 fun b hb hpb => ha b hb ⟨hp, hpb⟩
      rw [List.filter_cons_of_pos hp, hnone, List.find?_cons_of_pos hp]
      rfl
    · rw [List.filter_cons_of_neg hp, List.find?_cons_of_neg hp]
      exact ih hrows

/-! ### Order and selection -/

section

variable {κ μ : Type*} [LinearOrder κ] [LinearOrder μ]

/-- The order by two columns. -/
def ByTwo (f : α → κ) (g : α → μ) (a b : α) : Prop := f a < f b ∨ (f a = f b ∧ g a ≤ g b)

variable {f : α → κ} {g : α → μ}

instance : Std.Total (ByTwo f g) := ⟨fun a b => by
  rcases lt_trichotomy (f a) (f b) with h | h | h
  · exact .inl (.inl h)
  · rcases le_total (g a) (g b) with hg | hg
    · exact .inl (.inr ⟨h, hg⟩)
    · exact .inr (.inr ⟨h.symm, hg⟩)
  · exact .inr (.inl h)⟩

instance : IsTrans α (ByTwo f g) := ⟨fun a b d hab hbd => by
  rcases hab with hab | ⟨hab, hab'⟩
  · rcases hbd with hbd | ⟨hbd, -⟩
    · exact .inl (hab.trans hbd)
    · exact .inl (hbd ▸ hab)
  · rcases hbd with hbd | ⟨hbd, hbd'⟩
    · exact .inl (hab ▸ hbd)
    · exact .inr ⟨hab.trans hbd, hab'.trans hbd'⟩⟩

end

theorem head?_eq_getLast?_iff {rows : List α} (h : rows.Nodup) :
    rows.head? = rows.getLast? ↔ rows.length ≤ 1 := by
  match rows with
  | [] => simp
  | [a] => simp
  | a :: b :: rows =>
    rw [List.getLast?_cons_cons, List.head?_cons]
    constructor
    · intro heq
      exact absurd (List.mem_of_getLast? heq.symm) (List.nodup_cons.1 h).1
    · intro hlen
      simp at hlen

section

variable {le : α → α → Prop} [DecidableRel le] [IsTrans α le] {rows : List α}

theorem filter_orderedInsert {a : α} (h : rows.Pairwise le) (p : α → Bool) :
    (rows.orderedInsert le a).filter p =
      if p a then (rows.filter p).orderedInsert le a else rows.filter p := by
  induction rows with
  | nil =>
    rw [List.orderedInsert_nil]
    cases hp : p a with
    | true => simp [hp]
    | false => simp [hp]
  | cons b rows ih =>
    obtain ⟨hb, hrows⟩ := List.pairwise_cons.1 h
    by_cases hab : le a b
    · rw [List.orderedInsert_cons_of_le _ _ hab, List.filter_cons]
      cases hp : p a with
      | false => rfl
      | true =>
        -- `a` comes before whatever is left of the rows
        have hall : ∀ d ∈ (b :: rows).filter p, le a d := by
          intro d hd
          rcases List.mem_cons.1 (List.mem_filter.1 hd).1 with rfl | hd
          · exact hab
          · exact Trans.trans hab (hb d hd)
        simp only [if_true]
        cases hl : (b :: rows).filter p with
        | nil => rfl
        | cons d l =>
          rw [List.orderedInsert_cons_of_le _ _ (hall d (by simp [hl]))]
    · rw [List.orderedInsert_of_not_le _ _ hab, List.filter_cons, List.filter_cons, ih hrows]
      cases hpb : p b with
      | false => rfl
      | true =>
        cases hpa : p a with
        | false => rfl
        | true =>
          simp only [if_true]
          rw [List.orderedInsert_of_not_le _ _ hab]

/-- Selecting the rows of an ordered query is ordering the selected rows. -/
theorem filter_insertionSort [Std.Total le] (p : α → Bool) :
    (rows.insertionSort le).filter p = (rows.filter p).insertionSort le := by
  induction rows with
  | nil => rfl
  | cons a rows ih =>
    rw [List.insertionSort_cons, filter_orderedInsert (List.pairwise_insertionSort _ _), ih,
      List.filter_cons]
    cases hp : p a with
    | true => rfl
    | false => rfl

theorem firstBy_filter_of_lower [Std.Total le] {p : α → Bool}
    (hlower : ∀ a b, p b = true → le a b → p a = true) (h : ∃ b ∈ rows, p b = true) :
    firstBy le (rows.filter p) = firstBy le rows := by
  obtain ⟨b, hb, hp⟩ := h
  unfold firstBy
  rw [← filter_insertionSort]
  cases hl : rows.insertionSort le with
  | nil =>
    have := (List.mem_insertionSort le).2 hb
    rw [hl] at this
    cases this
  | cons a l =>
    have ha : firstBy le rows = some a := by rw [firstBy, hl, List.head?_cons]
    rw [List.filter_cons_of_pos (hlower a b hp (le_of_firstBy ha hb))]
    rfl

theorem firstBy_map_filter [Std.Total le] {p : α → Bool} {f : α → α} {a : α}
    (hle : ∀ a b, le a b ↔ le (f a) (f b)) (h : firstBy le rows = some a) (hp : p a = true) :
    firstBy le ((rows.filter p).map f) = some (f a) := by
  unfold firstBy at *
  rw [← List.map_insertionSort le le f _ fun a _ b _ => hle a b, ← filter_insertionSort,
    List.head?_map]
  cases hl : rows.insertionSort le with
  | nil => rw [hl] at h; cases h
  | cons b l =>
    rw [hl] at h
    obtain rfl : b = a := Option.some.inj h
    rw [List.filter_cons_of_pos hp]
    rfl

theorem filter_and {p q : α → Prop} [DecidablePred p] [DecidablePred q] :
    (rows.filter fun a => p a).filter (fun a => q a) = rows.filter fun a => p a ∧ q a := by
  rw [List.filter_filter]
  refine List.filter_congr fun a _ => ?_
  rw [Bool.and_comm, ← Bool.decide_and]

/-- A dictionary filled from an ordered query holds under a key the last of the selected rows of the
key. -/
theorem get?_foldl_set_ordered {κ : Type*} [DecidableEq κ] [Std.Total le] {p : α → Prop}
    [DecidablePred p] {key : α → κ} {k : κ} :
    (((rows.filter fun a => p a).insertionSort le).foldl (fun d a => Dict.set d (key a) a)
      ([] : Dict κ α)).get? k =
        ((rows.filter fun a => p a ∧ key a = k).insertionSort le).getLast? := by
  rw [Dict.get?_foldl_set_last, Option.map_id', Dict.get?, Option.or_none, filter_insertionSort,
    filter_and]

end

theorem le_foldl_max {keys : List ℕ} {n : ℕ} :
    n ≤ keys.foldl max n ∧ ∀ key ∈ keys, key ≤ keys.foldl max n := by
  induction keys generalizing n with
  | nil => exact ⟨le_rfl, by simp⟩
  | cons a keys ih =>
    obtain ⟨hn, hkeys⟩ := @ih (max n a)
    rw [List.foldl_cons]
    refine ⟨(le_max_left n a).trans hn, fun key hkey => ?_⟩
    rcases List.mem_cons.1 hkey with rfl | hkey
    · exact (le_max_right n key).trans hn
    · exact hkeys key hkey

theorem nextKey_notMem (keys : List ℕ) : keys.foldl max 0 + 1 ∉ keys := by
  intro hmem
  have := (@le_foldl_max keys 0).2 _ hmem
  omega

/-- Change the first row that satisfies `p`, or add `row`. -/
def upsert (p : α → Prop) [DecidablePred p] (row : α) (change : α → α) : List α → List α
  | [] => [row]
  | a :: rows => if p a then change a :: rows else a :: upsert p row change rows

variable {p : α → Prop} [DecidablePred p] {row : α} {change : α → α} {rows : List α} {b : α}

theorem filter_upsert {q : α → Bool} (hrow : q row = false)
    (hchange : ∀ a, p a → q a = false ∧ q (change a) = false) :
    (upsert p row change rows).filter q = rows.filter q := by
  induction rows with
  | nil => simp [upsert, hrow]
  | cons a rows ih =>
    simp only [upsert]
    split_ifs with hp
    · obtain ⟨ha, ha'⟩ := hchange a hp
      rw [List.filter_cons_of_neg (by simp [ha']), List.filter_cons_of_neg (by simp [ha])]
    · rw [List.filter_cons, List.filter_cons, ih]

theorem find?_upsert_of_imp {q : α → Prop} [DecidablePred q] (himp : ∀ a, p a → q a) (hrow : q row)
    (hchange : ∀ a, p a → q (change a)) :
    (upsert p row change rows).find? (fun a => q a) =
      some (((rows.find? fun a => q a).map fun a => if p a then change a else a).getD row) := by
  induction rows with
  | nil => simp [upsert, hrow]
  | cons a rows ih =>
    simp only [upsert]
    by_cases hp : p a
    · simp [hp, himp a hp, hchange a hp]
    · rw [if_neg hp]
      by_cases hq : q a
      · simp [hq, hp]
      · rw [List.find?_cons_of_neg (by simpa using hq), List.find?_cons_of_neg (by simpa using hq),
          ih]

theorem find?_upsert (hrow : p row) (hchange : ∀ a, p a → p (change a)) :
    (upsert p row change rows).find? (fun a => p a) =
      some (((rows.find? fun a => p a).map change).getD row) := by
  rw [find?_upsert_of_imp (fun _ h => h) hrow hchange]
  cases hfind : rows.find? fun a => p a with
  | none => rfl
  | some a =>
    have hp : p a := by simpa using List.find?_some hfind
    simp [hp]

theorem upsert_eq_self (h : rows.find? (fun a => p a) = some b) (hchange : change b = b) :
    upsert p row change rows = rows := by
  induction rows with
  | nil => cases h
  | cons a rows ih =>
    simp only [upsert]
    split_ifs with hp
    · rw [List.find?_cons_of_pos (by simpa using hp)] at h
      rw [Option.some.inj h, hchange]
    · rw [List.find?_cons_of_neg (by simpa using hp)] at h
      rw [ih h]

theorem mem_upsert (h : b ∈ upsert p row change rows) :
    b = row ∨ (∃ a ∈ rows, p a ∧ b = change a) ∨ b ∈ rows := by
  induction rows with
  | nil => simpa [upsert] using h
  | cons a rows ih =>
    simp only [upsert] at h
    split_ifs at h with hp
    · rcases List.mem_cons.1 h with rfl | h
      · exact .inr (.inl ⟨a, by simp, hp, rfl⟩)
      · exact .inr (.inr (by simp [h]))
    · rcases List.mem_cons.1 h with rfl | h
      · exact .inr (.inr (by simp))
      · rcases ih h with rfl | ⟨c, hc, hpc, rfl⟩ | h
        · exact .inl rfl
        · exact .inr (.inl ⟨c, by simp [hc], hpc, rfl⟩)
        · exact .inr (.inr (by simp [h]))

/-- With at most one row satisfying `p`, writing `row` in its place leaves the other rows. -/
theorem mem_upsert_iff (h : rows.Pairwise fun a b => ¬ (p a ∧ p b)) :
    b ∈ upsert p row (fun _ => row) rows ↔ b = row ∨ (b ∈ rows ∧ ¬ p b) := by
  induction rows with
  | nil => simp [upsert]
  | cons a rows ih =>
    obtain ⟨ha, hrows⟩ := List.pairwise_cons.1 h
    simp only [upsert]
    split_ifs with hp
    · have hnot : ∀ c ∈ rows, ¬ p c := fun c hc hpc => ha c hc ⟨hp, hpc⟩
      rw [List.mem_cons, List.mem_cons]
      constructor
      · rintro (rfl | hb)
        · exact .inl rfl
        · exact .inr ⟨.inr hb, hnot b hb⟩
      · rintro (rfl | ⟨rfl | hb, hpb⟩)
        · exact .inl rfl
        · exact absurd hp hpb
        · exact .inr hb
    · rw [List.mem_cons, ih hrows, List.mem_cons]
      constructor
      · rintro (rfl | rfl | ⟨hb, hpb⟩)
        · exact .inr ⟨.inl rfl, hp⟩
        · exact .inl rfl
        · exact .inr ⟨.inr hb, hpb⟩
      · rintro (rfl | ⟨rfl | hb, hpb⟩)
        · exact .inr (.inl rfl)
        · exact .inl rfl
        · exact .inr (.inr ⟨hb, hpb⟩)

/-- A relation between the rows survives if `change` keeps it on both sides and the new row stands
in it to the rows outside `p`. -/
theorem pairwise_upsert {R : α → α → Prop} (h : rows.Pairwise R)
    (hleft : ∀ a b, p a → R a b → R (change a) b) (hright : ∀ a b, p b → R a b → R a (change b))
    (hrow : ∀ a, ¬ p a → R a row) : (upsert p row change rows).Pairwise R := by
  induction rows with
  | nil => exact List.pairwise_singleton _ _
  | cons a rows ih =>
    obtain ⟨ha, hrows⟩ := List.pairwise_cons.1 h
    simp only [upsert]
    split_ifs with hp
    · exact List.pairwise_cons.2 ⟨fun b hb => hleft a b hp (ha b hb), hrows⟩
    · refine List.pairwise_cons.2 ⟨fun b hb => ?_, ih hrows⟩
      rcases mem_upsert hb with rfl | ⟨a', ha', hp', rfl⟩ | hb
      · exact hrow a hp
      · exact hright a a' hp' (ha a' ha')
      · exact ha b hb

end Table

end OpenCloud
