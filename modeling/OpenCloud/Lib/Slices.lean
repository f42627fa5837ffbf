import Mathlib.Data.List.Flatten
import Mathlib.Data.List.Infix

/-!
# Slices of a list

`slice items start stop` is Python's `items[start:stop]`: a bound that is negative counts from the
end, and a bound outside the list stands for the end it is beyond.  Slices of one length, each
beginning where the one before ends, are the list (`flatMap_slices`).
-/

namespace OpenCloud

variable {α : Type*}

/-- A bound of a slice of `n` items, as a number of items from the beginning. -/
def sliceBound (n : ℕ) (bound : ℤ) : ℕ := min (if bound < 0 then bound + n else bound).toNat n

/-- `items[start:stop]`. -/
def slice (items : List α) (start stop : ℤ) : List α :=
  (items.take (sliceBound items.length stop)).drop (sliceBound items.length start)

variable {items : List α}

theorem sliceBound_natCast (n k : ℕ) : sliceBound n k = min k n := by
  rw [sliceBound, if_neg (by omega), Int.toNat_natCast]

theorem slice_natCast (start len : ℕ) : slice items start (start + len) =
    (items.drop start).take len := by
  have hstop : ((start : ℤ) + len) = ((start + len : ℕ) : ℤ) := by omega
  rw [slice, hstop, sliceBound_natCast, sliceBound_natCast, List.drop_take]
  rcases Nat.le_total start items.length with hle | hle
  · rw [Nat.min_eq_left hle]
    refine List.take_eq_take_iff.2 ?_
    rw [List.length_drop]
    omega
  · rw [Nat.min_eq_right hle, List.drop_length, List.drop_eq_nil_of_le hle, List.take_nil,
      List.take_nil]

theorem slice_prefix_drop (start len : ℕ) :
    slice items start (start + len) <+: items.drop start := by
  rw [slice_natCast]
  exact List.take_prefix _ _

theorem length_slice_le (start len : ℕ) : (slice items start (start + len)).length ≤ len := by
  rw [slice_natCast, List.length_take]
  exact Nat.min_le_left _ _

/-- Slices of one length, end to end. -/
theorem flatMap_slices (items : List α) (len n : ℕ) :
    (List.range n).flatMap (fun k => slice items (k * len : ℕ) ((k * len : ℕ) + len)) =
      items.take (n * len) := by
  induction n with
  | zero => simp
  | succ n ih =>
    rw [List.range_succ, List.flatMap_append, ih, List.flatMap_singleton, slice_natCast,
      Nat.succ_mul, List.take_add]

end OpenCloud
