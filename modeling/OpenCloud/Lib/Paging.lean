import Mathlib.Data.List.Flatten
import Mathlib.Data.List.Infix
import Mathlib.Tactic.ByContra

/-!
# Pages of a list

`page items size number` are the items of a page, the first page being number 1, and `pageCount` is
how many pages there are; an empty list has one page.

Pages that are read one after the other while the list grows repeat items, where new ones were put
before them, but they miss none (`mem_page_of_walk`).
-/

namespace OpenCloud

variable {α : Type*} {items items' : List α} {size n : ℕ} {a : α}

/-- The items of a page. -/
def page (items : List α) (size number : ℕ) : List α := (items.drop ((number - 1) * size)).take size

/-- `ceil(max(1, count) / size)`. -/
def pageCount (count size : ℕ) : ℕ := (max 1 count + size - 1) / size

theorem le_pageCount_mul (count : ℕ) (hsize : 0 < size) : count ≤ pageCount count size * size := by
  have hdiv := Nat.div_add_mod (max 1 count + size - 1) size
  have hmod := Nat.mod_lt (max 1 count + size - 1) hsize
  rw [pageCount, Nat.mul_comm]
  omega

theorem mem_page_or_mem_drop (h : a ∈ items.drop (n * size)) :
    a ∈ page items size (n + 1) ∨ a ∈ items.drop ((n + 1) * size) := by
  rw [← List.take_append_drop size (items.drop (n * size)), List.mem_append, List.drop_drop] at h
  rwa [page, Nat.add_sub_cancel, Nat.succ_mul]

/-- A list that grows while its pages are read, from the first to the one that is then the last:
what it held at the beginning is on one of them. -/
theorem mem_page_of_walk (lists : ℕ → List α) (hsize : 0 < size)
    (hgrow : ∀ k, (lists k).Sublist (lists (k + 1)))
    (hlast : pageCount (lists n).length size ≤ n + 1) (ha : a ∈ lists 0) :
    ∃ k ≤ n, a ∈ page (lists k) size (k + 1) := by
  by_contra hnone
  have hbehind : ∀ k ≤ n + 1, a ∈ (lists k).drop (k * size) := by
    intro k
    induction k with
    | zero => exact fun _ => by rwa [Nat.zero_mul]
    | succ k ih =>
      intro hk
      have hle : k ≤ n := Nat.le_of_succ_le_succ hk
      rcases mem_page_or_mem_drop (ih (Nat.le_succ_of_le hle)) with hpage | hdrop
      · exact absurd ⟨k, hle, hpage⟩ hnone
      · -- what was put before it only moves it back
        exact ((hgrow k).drop _).subset hdrop
  rcases mem_page_or_mem_drop (hbehind n (Nat.le_succ n)) with hpage | hdrop
  · exact hnone ⟨n, Nat.le_refl n, hpage⟩
  · have hall : (lists n).length ≤ (n + 1) * size :=
      (le_pageCount_mul _ hsize).trans (Nat.mul_le_mul_right size hlast)
    rw [List.drop_eq_nil_of_le hall] at hdrop
    exact List.not_mem_nil hdrop

theorem flatMap_page (items : List α) (hsize : 0 < size) :
    (List.range (pageCount items.length size)).flatMap (fun k => page items size (k + 1)) =
      items := by
  have htake : ∀ n, (List.range n).flatMap (fun k => page items size (k + 1)) =
    items.take (n * size) := by
    intro n
    induction n with
    | zero => rw [List.range_zero, List.flatMap_nil, Nat.zero_mul, List.take_zero]
    | succ n ih =>
      rw [List.range_succ, List.flatMap_append, ih, List.flatMap_singleton, page,
        Nat.add_sub_cancel, Nat.succ_mul, List.take_add]
  rw [htake, List.take_of_length_le (le_pageCount_mul _ hsize)]

end OpenCloud
