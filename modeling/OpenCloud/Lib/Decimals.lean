import Mathlib.Algebra.Order.Floor.Ring
import Mathlib.Data.Rat.Floor
import Mathlib.Tactic.Linarith
import Mathlib.Tactic.Ring
import Mathlib.Tactic.FieldSimp
import Mathlib.Tactic.Positivity

/-!
# Decimals and decimal columns

Decimals are rational numbers.  `roundHalfUp` rounds to an integer, a half going away from zero,
and `quantize k` rounds to `k` digits after the point in the same way.

A database column `numeric(p, s)` holds the numbers with `s` digits after the point and fewer
than `p` digits in all: `Numeric p s`.  `Numeric.store` puts a decimal into such a column, rounding
it to the scale of the column and refusing one that does not fit.

## Main results

* `quantize_eq_self_iff` : rounding keeps exactly the numbers that have `k` decimals.
* `quantize_mono` : rounding keeps the order.
* `Numeric.val_of_store` : a column gives back what was put into it, rounded to its scale.
-/

namespace OpenCloud

/-- The nearest integer, a half going away from zero (`ROUND_HALF_UP`). -/
def roundHalfUp (x : ℚ) : ℤ := if 0 ≤ x then ⌊x + 1 / 2⌋ else -⌊-x + 1 / 2⌋

theorem roundHalfUp_intCast (n : ℤ) : roundHalfUp n = n := by
  have hfloor : ∀ m : ℤ, ⌊(m : ℚ) + 1 / 2⌋ = m := fun m => by
    rw [Int.floor_intCast_add]; norm_num
  unfold roundHalfUp
  split_ifs
  · exact hfloor n
  · rw [← Int.cast_neg, hfloor, neg_neg]

theorem roundHalfUp_mono {x y : ℚ} (h : x ≤ y) : roundHalfUp x ≤ roundHalfUp y := by
  unfold roundHalfUp
  split_ifs with hx hy
  · exact Int.floor_mono (by linarith)
  · linarith
  · have h1 : 0 ≤ ⌊-x + 1 / 2⌋ := Int.floor_nonneg.2 (by linarith)
    have h2 : 0 ≤ ⌊y + 1 / 2⌋ := Int.floor_nonneg.2 (by linarith)
    linarith
  · exact neg_le_neg (Int.floor_mono (by linarith))

theorem abs_roundHalfUp_sub_le (x : ℚ) : |(roundHalfUp x : ℚ) - x| ≤ 1 / 2 := by
  unfold roundHalfUp
  split_ifs
  · have h1 := Int.floor_le (x + 1 / 2)
    have h2 := Int.lt_floor_add_one (x + 1 / 2)
    rw [abs_le]
    constructor <;> linarith
  · have h1 := Int.floor_le (-x + 1 / 2)
    have h2 := Int.lt_floor_add_one (-x + 1 / 2)
    rw [Int.cast_neg, abs_le]
    constructor <;> linarith

theorem roundHalfUp_eq_of_abs_sub_lt {x : ℚ} {n : ℤ} (h : |x - n| < 1 / 2) : roundHalfUp x = n := by
  obtain ⟨hlo, hhi⟩ := abs_lt.1 h
  unfold roundHalfUp
  split_ifs
  · rw [Int.floor_eq_iff]
    constructor <;> linarith
  · rw [neg_eq_iff_eq_neg, Int.floor_eq_iff]
    push_cast
    constructor <;> linarith

/-- `x` has at most `k` digits after the point. -/
def HasDecimals (k : ℕ) (x : ℚ) : Prop := ∃ m : ℤ, x = m / 10 ^ k

namespace HasDecimals

variable {k : ℕ} {x y : ℚ}

theorem zero : HasDecimals k 0 := ⟨0, by simp⟩

theorem add (hx : HasDecimals k x) (hy : HasDecimals k y) : HasDecimals k (x + y) := by
  obtain ⟨m, rfl⟩ := hx
  obtain ⟨n, rfl⟩ := hy
  exact ⟨m + n, by push_cast; ring⟩

theorem neg (hx : HasDecimals k x) : HasDecimals k (-x) := by
  obtain ⟨m, rfl⟩ := hx
  exact ⟨-m, by push_cast; ring⟩

theorem sub (hx : HasDecimals k x) (hy : HasDecimals k y) : HasDecimals k (x - y) :=
  sub_eq_add_neg x y ▸ hx.add hy.neg

theorem mul {j : ℕ} (hx : HasDecimals j x) (hy : HasDecimals k y) :
    HasDecimals (j + k) (x * y) := by
  obtain ⟨m, rfl⟩ := hx
  obtain ⟨n, rfl⟩ := hy
  exact ⟨m * n, by rw [pow_add, div_mul_div_comm]; push_cast; rfl⟩

theorem natCast (n : ℕ) : HasDecimals k n :=
  ⟨n * 10 ^ k, by rw [eq_div_iff (by positivity)]; push_cast; rfl⟩

end HasDecimals

/-- Round to `k` digits after the point, a half going away from zero. -/
def quantize (k : ℕ) (x : ℚ) : ℚ := roundHalfUp (x * 10 ^ k) / 10 ^ k

theorem hasDecimals_quantize (k : ℕ) (x : ℚ) : HasDecimals k (quantize k x) := ⟨_, rfl⟩

theorem quantize_eq_self_iff {k : ℕ} {x : ℚ} : quantize k x = x ↔ HasDecimals k x := by
  constructor
  · intro h
    exact h ▸ hasDecimals_quantize k x
  · rintro ⟨m, rfl⟩
    have h10 : (10 : ℚ) ^ k ≠ 0 := by positivity
    rw [quantize, div_mul_cancel₀ _ h10, roundHalfUp_intCast]

instance (k : ℕ) (x : ℚ) : Decidable (HasDecimals k x) := decidable_of_iff _ quantize_eq_self_iff

theorem HasDecimals.quantize_eq {k : ℕ} {x : ℚ} (h : HasDecimals k x) : quantize k x = x :=
  quantize_eq_self_iff.2 h

theorem quantize_zero (k : ℕ) : quantize k 0 = 0 := HasDecimals.zero.quantize_eq

theorem quantize_mono (k : ℕ) {x y : ℚ} (h : x ≤ y) : quantize k x ≤ quantize k y := by
  unfold quantize
  have := roundHalfUp_mono (mul_le_mul_of_nonneg_right h (by positivity : (0 : ℚ) ≤ 10 ^ k))
  gcongr

theorem quantize_nonneg {k : ℕ} {x : ℚ} (h : 0 ≤ x) : 0 ≤ quantize k x :=
  quantize_zero k ▸ quantize_mono k h

theorem abs_quantize_sub_le (k : ℕ) (x : ℚ) : |quantize k x - x| ≤ 1 / 2 / 10 ^ k := by
  have h10 : (0 : ℚ) < 10 ^ k := by positivity
  have hunits : quantize k x - x = ((roundHalfUp (x * 10 ^ k) : ℚ) - x * 10 ^ k) / 10 ^ k := by
    rw [quantize, sub_div, mul_div_cancel_right₀ _ h10.ne']
  rw [hunits, abs_div, abs_of_pos h10]
  exact div_le_div_of_nonneg_right (abs_roundHalfUp_sub_le _) h10.le

/-! ### Columns of fixed scale -/

/-- The values of a column `numeric(p, s)`: `units` of `1 / 10 ^ s`, fewer than `10 ^ p`. -/
structure Numeric (p s : ℕ) where
  /-- The value in units of the last digit. -/
  units : ℤ
  /-- The value has at most `p` digits. -/
  fits : units.natAbs < 10 ^ p
  deriving DecidableEq

namespace Numeric

variable {p s : ℕ}

/-- The number in the column. -/
def val (n : Numeric p s) : ℚ := n.units / 10 ^ s

/-- Put a number into the column: rounded to its scale, refused when it does not fit. -/
def store (p s : ℕ) (x : ℚ) : Option (Numeric p s) :=
  if h : (roundHalfUp (x * 10 ^ s)).natAbs < 10 ^ p then some ⟨roundHalfUp (x * 10 ^ s), h⟩
  else none

theorem val_of_store {x : ℚ} {n : Numeric p s} (h : store p s x = some n) :
    n.val = quantize s x := by
  unfold store at h
  split_ifs at h with hf
  obtain rfl := Option.some.inj h
  rfl

theorem abs_val_lt {k : ℕ} (n : Numeric p s) (hp : p = k + s) : |n.val| < 10 ^ k := by
  have h10 : (0 : ℚ) < 10 ^ s := by positivity
  have hunits : |n.units| < 10 ^ p := by
    rw [← Int.natCast_natAbs]
    exact_mod_cast n.fits
  have hfits : |(n.units : ℚ)| < 10 ^ p := by exact_mod_cast hunits
  rw [val, abs_div, abs_of_pos h10, div_lt_iff₀ h10, ← pow_add, ← hp]
  exact hfits

end Numeric

end OpenCloud
