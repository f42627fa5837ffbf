import OpenCloud.Lib.Binary64

/-!
# Decimal arithmetic in a context

A context of `p` digits rounds the exact result of each operation to `p` digits, ties to even
(`roundDigits`), and refuses to quantize a number to a result of more digits (`quantizeIn`).

## Main results

* `roundDigits_eq_self` : a result that has no more digits is exact.
* `quantize_roundDigits` : rounding to `p` digits first does not change what a number is quantized
  to, as long as the number stays farther from a tie than it is moved.
-/

namespace OpenCloud

/-- The weight of the last of the `p` digits of `x`. -/
def digitUnit (p : ℕ) (x : ℚ) : ℚ := 10 ^ (Int.log 10 |x| + 1 - p)

/-- Round to `p` digits, ties to even. -/
def roundDigits (p : ℕ) (x : ℚ) : ℚ := roundHalfEven (x / digitUnit p x) * digitUnit p x

/-- `x.quantize(…, ROUND_HALF_UP)` to `k` decimals, none where the result has more than `p`
digits. -/
def quantizeIn (p k : ℕ) (x : ℚ) : Option ℚ :=
  if |quantize k x| * 10 ^ k < 10 ^ p then some (quantize k x) else none

variable {p k : ℕ} {x y : ℚ}

theorem digitUnit_pos : 0 < digitUnit p x := by
  unfold digitUnit
  positivity

theorem log_lt {e : ℕ} (hx : x ≠ 0) (h : |x| < 10 ^ e) : Int.log 10 |x| < e :=
  (Int.lt_zpow_iff_log_lt (by norm_num) (abs_pos.2 hx)).1 (by exact_mod_cast h)

theorem digitUnit_le {e : ℕ} (hx : x ≠ 0) (h : |x| < 10 ^ e) :
    digitUnit p x ≤ 10 ^ ((e : ℤ) - p) := by
  have hlog := log_lt hx h
  exact zpow_le_zpow_right₀ (by norm_num) (by omega)

theorem abs_roundDigits_sub_le : |roundDigits p x - x| ≤ digitUnit p x / 2 := by
  have hu := @digitUnit_pos p x
  have hround := abs_roundHalfEven_sub_le (x / digitUnit p x)
  have hscale : roundDigits p x - x =
    (roundHalfEven (x / digitUnit p x) - x / digitUnit p x) * digitUnit p x := by
    rw [roundDigits, sub_mul, div_mul_cancel₀ _ hu.ne']
  rw [hscale, abs_mul, abs_of_pos hu]
  calc _ ≤ 1 / 2 * digitUnit p x := mul_le_mul_of_nonneg_right hround hu.le
    _ = digitUnit p x / 2 := by ring

@[simp] theorem roundDigits_zero : roundDigits p 0 = 0 := by
  rw [roundDigits, zero_div]
  simpa using congrArg (fun n : ℤ => (n : ℚ) * digitUnit p 0) (roundHalfEven_intCast 0)

/-- A number of no more than `p` digits is kept. -/
theorem roundDigits_eq_self {e : ℕ} (h : HasDecimals k x) (hx : |x| < 10 ^ e) (hp : e + k ≤ p) :
    roundDigits p x = x := by
  rcases eq_or_ne x 0 with rfl | hne
  · exact roundDigits_zero
  obtain ⟨n, rfl⟩ := h
  have hlog := log_lt hne hx
  have hunit : digitUnit p (n / 10 ^ k) = 10 ^ (Int.log 10 |(n : ℚ) / 10 ^ k| + 1 - p) := rfl
  generalize Int.log 10 |(n : ℚ) / 10 ^ k| = log at hlog hunit
  -- the number is a whole number of units
  have hint : (n : ℚ) / 10 ^ k / digitUnit p (n / 10 ^ k) =
    (n * 10 ^ ((p : ℤ) - k - (log + 1)).toNat : ℤ) := by
    have hexponent : (10 : ℚ) ^ ((p : ℤ) - k - (log + 1)).toNat =
      10 ^ (-((k : ℤ) + (log + 1 - p))) := by
      rw [← zpow_natCast, Int.toNat_of_nonneg (by omega)]
      congr 1
      ring
    rw [hunit, div_div, ← zpow_natCast, ← zpow_add₀ (by norm_num), div_eq_mul_inv, ← zpow_neg]
    push_cast
    rw [hexponent]
  rw [roundDigits, hint, roundHalfEven_intCast, ← hint, div_mul_cancel₀ _ digitUnit_pos.ne']

theorem quantize_eq_of_abs_sub_lt {a : ℚ} (ha : HasDecimals k a) (h : |x - a| < 1 / 2 / 10 ^ k) :
    quantize k x = a := by
  obtain ⟨n, rfl⟩ := ha
  have h10 : (0 : ℚ) < 10 ^ k := by positivity
  have hclose : |x * 10 ^ k - n| < 1 / 2 := by
    have hscale : x * 10 ^ k - n = (x - n / 10 ^ k) * 10 ^ k := by
      rw [sub_mul, div_mul_cancel₀ _ h10.ne']
    rw [hscale, abs_mul, abs_of_pos h10]
    exact (lt_div_iff₀ h10).1 h
  rw [quantize, roundHalfUp_eq_of_abs_sub_lt hclose]

theorem roundHalfUp_eq_of_no_tie (h : ∀ n : ℤ, |y - x| < |x - (n + 1 / 2)|) :
    roundHalfUp y = roundHalfUp x := by
  obtain ⟨n, hn⟩ : ∃ n : ℤ, ⌊x + 1 / 2⌋ = n := ⟨_, rfl⟩
  obtain ⟨hlo, hhi⟩ := Int.floor_eq_iff.1 hn
  have hbelow : |y - x| < x - (n - 1 + 1 / 2) := by
    have htie := h (n - 1)
    push_cast at htie
    rwa [abs_of_nonneg (a := x - _) (by linarith)] at htie
  have habove : |y - x| < n + 1 / 2 - x := by
    have htie := h n
    rwa [abs_of_nonpos (a := x - _) (by linarith), neg_sub] at htie
  have hdown := neg_abs_le (y - x)
  have hup := le_abs_self (y - x)
  have hnonneg := abs_nonneg (y - x)
  have hy : roundHalfUp y = n := roundHalfUp_eq_of_abs_sub_lt (abs_lt.2 ⟨by linarith, by linarith⟩)
  have hx : roundHalfUp x = n := roundHalfUp_eq_of_abs_sub_lt (abs_lt.2 ⟨by linarith, by linarith⟩)
  rw [hy, hx]

/-- A quotient is a tie, or stays away from the ties by half of a part. -/
theorem tie_or_away {a b : ℤ} (hb : 0 < b) :
    (∃ n : ℤ, (a : ℚ) / b = n + 1 / 2) ∨ ∀ n : ℤ, 1 / (2 * (b : ℚ)) ≤ |(a : ℚ) / b -
      (n + 1 / 2)| := by
  by_cases htie : ∃ n : ℤ, (a : ℚ) / b = n + 1 / 2
  · exact .inl htie
  · refine .inr fun n => ?_
    have hb' : (0 : ℚ) < b := by exact_mod_cast hb
    have hscale : (a : ℚ) / b - (n + 1 / 2) = ((2 * a - (2 * n + 1) * b : ℤ) : ℚ) / (2 * b) := by
      push_cast
      field_simp
    have hne : 2 * a - (2 * n + 1) * b ≠ 0 := by
      intro hzero
      refine htie ⟨n, sub_eq_zero.1 ?_⟩
      rw [hscale, hzero, Int.cast_zero, zero_div]
    have hone : (1 : ℚ) ≤ |((2 * a - (2 * n + 1) * b : ℤ) : ℚ)| := by
      exact_mod_cast Int.one_le_abs hne
    rw [hscale, abs_div, abs_of_pos (by positivity : (0 : ℚ) < 2 * b)]
    exact div_le_div_of_nonneg_right hone (by positivity)

/-- A quotient by a small number is quantized to the same, rounded to `p` digits first or not. -/
theorem quantize_roundDigits {a b : ℤ} {e f : ℕ} (hb : 0 < b) (hx : x * 10 ^ k = a / b)
    (hsize : |x| < 10 ^ e) (hdigits : (b : ℚ) < 10 ^ f) (hp : e + f + k ≤ p) (hf : 0 < f) :
    quantize k (roundDigits p x) = quantize k x := by
  rcases eq_or_ne x 0 with rfl | hne
  · rw [roundDigits_zero]
  have h10 : (0 : ℚ) < 10 ^ k := by positivity
  rcases @tie_or_away a b hb with ⟨n, htie⟩ | haway
  · -- a tie has one decimal more, and is kept
    have hdecimals : HasDecimals (k + 1) x := by
      refine ⟨10 * n + 5, ?_⟩
      rw [htie] at hx
      rw [pow_succ, eq_div_iff (by positivity), ← mul_assoc, hx]
      push_cast
      ring
    rw [roundDigits_eq_self hdecimals hsize (by omega)]
  · rw [quantize, quantize, roundHalfUp_eq_of_no_tie]
    intro n
    have hmoved : |roundDigits p x * 10 ^ k - x * 10 ^ k| ≤ 10 ^ ((e : ℤ) - p) / 2 * 10 ^ k := by
      rw [← sub_mul, abs_mul, abs_of_pos h10]
      refine mul_le_mul_of_nonneg_right (abs_roundDigits_sub_le.trans ?_) h10.le
      exact div_le_div_of_nonneg_right (digitUnit_le hne hsize) (by norm_num)
    have hb' : (0 : ℚ) < b := by exact_mod_cast hb
    have hsmall : (10 : ℚ) ^ ((e : ℤ) - p) / 2 * 10 ^ k < 1 / (2 * b) := by
      have hunit : (10 : ℚ) ^ ((e : ℤ) - p) * 10 ^ k ≤ (10 ^ f)⁻¹ := by
        rw [← zpow_natCast, ← zpow_add₀ (by norm_num), ← zpow_natCast, ← zpow_neg]
        exact zpow_le_zpow_right₀ (by norm_num) (by omega)
      calc (10 : ℚ) ^ ((e : ℤ) - p) / 2 * 10 ^ k = 10 ^ ((e : ℤ) - p) * 10 ^ k / 2 := by ring
        _ ≤ (10 ^ f)⁻¹ / 2 := div_le_div_of_nonneg_right hunit (by norm_num)
        _ < (b : ℚ)⁻¹ / 2 := by
            refine div_lt_div_of_pos_right ?_ (by norm_num)
            exact (inv_lt_inv₀ (by positivity) hb').2 hdigits
        _ = 1 / (2 * b) := by rw [one_div, mul_inv]; ring
    rw [hx] at hmoved ⊢
    exact (hmoved.trans_lt hsmall).trans_le (haway n)

theorem quantizeIn_eq_some {e : ℕ} (h : |quantize k x| < 10 ^ e) (hp : e + k ≤ p) :
    quantizeIn p k x = some (quantize k x) := by
  rw [quantizeIn, if_pos]
  calc |quantize k x| * 10 ^ k < 10 ^ e * 10 ^ k := mul_lt_mul_of_pos_right h (by positivity)
    _ = 10 ^ (e + k) := (pow_add _ _ _).symm
    _ ≤ 10 ^ p := pow_le_pow_right₀ (by norm_num) hp

end OpenCloud
