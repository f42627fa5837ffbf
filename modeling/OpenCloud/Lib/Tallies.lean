import Mathlib.Algebra.BigOperators.Group.List.Basic
import Mathlib.Algebra.Ring.Nat
import Mathlib.Data.List.Dedup
import Mathlib.Data.Multiset.Bind

/-!
# Tallies

`tally w items` adds up the weights of a list.  A loop that changes a record item by item adds to
each of its figures the tally of what the items add to it (`figure_foldl`), and a list whose items
have keys splits into the items of each key and those whose key is none of them (`sum_by_key`, of
any weights; `flatten_by_own_key`, of the items themselves).
-/

namespace OpenCloud

variable {α β κ : Type*} {w w' : α → ℕ} {items items' : List α}

/-- The sum of the weights. -/
def tally (w : α → ℕ) (items : List α) : ℕ := (items.map w).sum

@[simp] theorem tally_nil : tally w [] = 0 := rfl

@[simp] theorem tally_cons {a : α} : tally w (a :: items) = w a + tally w items := by
  rw [tally, List.map_cons, List.sum_cons, tally]

@[simp] theorem tally_append : tally w (items ++ items') = tally w items + tally w items' := by
  rw [tally, List.map_append, List.sum_append, tally, tally]

theorem tally_congr (h : ∀ a ∈ items, w a = w' a) : tally w items = tally w' items := by
  rw [tally, List.map_congr_left h, tally]

theorem tally_one : tally (fun _ => 1) items = items.length := by
  induction items with
  | nil => rfl
  | cons a items ih => rw [tally_cons, ih, List.length_cons, Nat.add_comm]

theorem tally_zero : tally (fun _ => 0) items = 0 := by
  induction items with
  | nil => rfl
  | cons a items ih => rw [tally_cons, ih]

theorem tally_eq_zero_iff : tally w items = 0 ↔ ∀ a ∈ items, w a = 0 := by
  induction items with
  | nil => simp
  | cons a items ih => rw [tally_cons, Nat.add_eq_zero_iff, ih, List.forall_mem_cons]

theorem tally_add : tally (fun a => w a + w' a) items = tally w items + tally w' items := by
  induction items with
  | nil => rfl
  | cons a items ih =>
    rw [tally_cons, tally_cons, tally_cons, ih]
    omega

theorem tally_map {f : β → α} {items : List β} :
    tally w (items.map f) = tally (fun b => w (f b)) items := by
  rw [tally, List.map_map, tally]
  rfl

theorem tally_perm (h : items.Perm items') : tally w items = tally w items' := (h.map w).sum_eq

theorem tally_ite {p : α → Prop} [DecidablePred p] :
    tally (fun a => if p a then w a else 0) items = tally w (items.filter fun a => p a) := by
  induction items with
  | nil => rfl
  | cons a items ih =>
    by_cases hp : p a
    · rw [tally_cons, if_pos hp, List.filter_cons_of_pos (by simpa using hp), tally_cons, ih]
    · rw [tally_cons, if_neg hp, List.filter_cons_of_neg (by simpa using hp), ih, Nat.zero_add]

theorem tally_filter_le (p : α → Bool) : tally w (items.filter p) ≤ tally w items := by
  induction items with
  | nil => rfl
  | cons a items ih =>
    rw [List.filter_cons, tally_cons]
    split_ifs
    · rw [tally_cons]
      omega
    · omega

/-- Where all but one of the items weigh nothing. -/
theorem tally_eq_single [DecidableEq α] {a : α} (hitems : items.Nodup) (ha : a ∈ items)
    (hothers : ∀ b ∈ items, b ≠ a → w b = 0) : tally w items = w a := by
  induction items with
  | nil => cases ha
  | cons b items ih =>
    obtain ⟨hb, hitems⟩ := List.nodup_cons.1 hitems
    rw [tally_cons]
    by_cases hab : a = b
    · subst hab
      have hrest : tally w items = tally (fun _ => 0) items := by
        refine tally_congr fun x hx => hothers x (by simp [hx]) ?_
        rintro rfl
        exact hb hx
      rw [hrest, tally_zero, Nat.add_zero]
    · rw [hothers b (by simp) (Ne.symm hab), Nat.zero_add]
      refine ih hitems ((List.mem_cons.1 ha).resolve_left hab) fun x hx => ?_
      exact hothers x (by simp [hx])

/-- A loop adds to a figure the tally of what its steps add to it. -/
theorem figure_foldl {step : β → α → β} {figure : β → ℕ}
    (hstep : ∀ b, ∀ a ∈ items, figure (step b a) = figure b + w a) (b : β) :
    figure (items.foldl step b) = figure b + tally w items := by
  induction items generalizing b with
  | nil => rfl
  | cons a items ih =>
    obtain ⟨ha, hitems⟩ : (∀ b, figure (step b a) = figure b + w a) ∧
        ∀ b, ∀ a ∈ items, figure (step b a) = figure b + w a :=
      ⟨fun b => hstep b a (by simp), fun b a ha => hstep b a (by simp [ha])⟩
    rw [List.foldl_cons, ih hitems, ha, tally_cons, Nat.add_assoc]

theorem list_foldl {γ : Type*} {step : β → α → β} {list : β → List γ} {f : α → List γ}
    (hstep : ∀ b, ∀ a ∈ items, list (step b a) = list b ++ f a) (b : β) :
    list (items.foldl step b) = list b ++ items.flatMap f := by
  induction items generalizing b with
  | nil => simp
  | cons a items ih =>
    have hrest : ∀ b, ∀ a ∈ items, list (step b a) = list b ++ f a :=
      fun b a ha => hstep b a (by simp [ha])
    rw [List.foldl_cons, ih hrest, hstep b a (by simp), List.flatMap_cons, List.append_assoc]

/-- The items of each key, and those whose key is none of them, are all the items. -/
theorem sum_by_key {M : Type*} [AddCommMonoid M] [DecidableEq κ] {key : α → κ} {w : α → M}
    {keys : List κ} (hkeys : keys.Nodup) :
    (keys.map fun k => ((items.filter fun a => key a = k).map w).sum).sum +
      ((items.filter fun a => key a ∉ keys).map w).sum = (items.map w).sum := by
  induction keys with
  | nil => simp
  | cons k keys ih =>
    obtain ⟨hk, hkeys⟩ := List.nodup_cons.1 hkeys
    have hone : (items.filter fun a => key a ∉ keys).filter (fun a => key a = k) =
        items.filter fun a => key a = k := by
      rw [List.filter_filter]
      refine List.filter_congr fun a _ => ?_
      by_cases ha : key a = k <;> simp [ha, hk]
    have hrest : (items.filter fun a => key a ∉ keys).filter (fun a => ¬ key a = k) =
        items.filter fun a => key a ∉ k :: keys := by
      rw [List.filter_filter]
      refine List.filter_congr fun a _ => ?_
      by_cases ha : key a = k <;> simp [ha]
    have hsplit := List.sum_map_filter_add_sum_map_filter_not (fun a => key a = k) w
      (items.filter fun a => key a ∉ keys)
    rw [hone, hrest] at hsplit
    rw [List.map_cons, List.sum_cons, ← ih hkeys, ← hsplit, ← add_assoc,
      add_comm ((List.map w _).sum)]

theorem tally_by_key [DecidableEq κ] {key : α → κ} {keys : List κ} (hkeys : keys.Nodup) :
    tally (fun k => tally w (items.filter fun a => key a = k)) keys +
      tally w (items.filter fun a => key a ∉ keys) = tally w items := sum_by_key hkeys

theorem sum_by_own_key {M : Type*} [AddCommMonoid M] [DecidableEq κ] (key : α → κ) (w : α → M)
    (items : List α) :
    (items.map w).sum =
      ((items.map key).dedup.map fun k => ((items.filter fun a => key a = k).map w).sum).sum := by
  have hnone : (items.filter fun a => key a ∉ (items.map key).dedup) = [] := by
    refine List.filter_eq_nil_iff.2 fun a ha => ?_
    have hkey : key a ∈ (items.map key).dedup := List.mem_dedup.2 (List.mem_map_of_mem ha)
    simpa using hkey
  have hsplit := @sum_by_key _ _ items M _ _ key w _ (List.nodup_dedup (items.map key))
  rw [hnone, List.map_nil, List.sum_nil, add_zero] at hsplit
  exact hsplit.symm

/-- The items of the keys they have, one key after the other, are the items. -/
theorem flatten_by_own_key [DecidableEq κ] (key : α → κ) (items : List α) :
    ((items.map key).dedup.map fun k => items.filter fun a => key a = k).flatten.Perm items := by
  have hsingle : ∀ l : List α, (l.map fun a => ({a} : Multiset α)).sum = l := by
    intro l
    induction l with
    | nil => rfl
    | cons a l ih =>
      rw [List.map_cons, List.sum_cons, ih, Multiset.singleton_add, Multiset.cons_coe]
  have hsum := sum_by_own_key key (fun a => ({a} : Multiset α)) items
  simp only [hsingle] at hsum
  rw [← Multiset.coe_eq_coe, hsum]
  generalize (items.map key).dedup = ks
  induction ks with
  | nil => rfl
  | cons k ks ih =>
    rw [List.map_cons, List.flatten_cons, ← Multiset.coe_add, ih, List.map_cons, List.sum_cons]

end OpenCloud
