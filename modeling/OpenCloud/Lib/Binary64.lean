import OpenCloud.Lib.Decimals
import Mathlib.Algebra.Order.Field.Power
import Mathlib.Data.Int.Log
import Mathlib.Tactic.NormNum
import Mathlib.Tactic.GCongr

/-!
# Floats and the decimals they print

A `Double` is a number `m * 2 ^ e` with `|m| ≤ 2 ^ 53`: a binary64 float, without the limits of
its exponent.  `Double.ofRat x` is the float nearest to `x`, ties going to the even mantissa.
`Double.decimal` is the decimal a float prints: the one with the fewest digits that reads back as
the same float, and the nearest to it among these.

## Main results

* `rnd_mono`, `rnd_of_isDouble`, `abs_rnd_sub_le` : rounding to a float keeps the order, keeps
  the floats and has a relative error of at most `2 ^ (-53)`.
* `rnd_decimal` : the decimal a float prints reads back as that float.
* `decimal_ofRat` : a decimal of at most fifteen digits survives the way through a float.
* `hasDecimals_decimal_ofRat` : a float made from a number with `k` decimals prints no more than
  `k` decimals.
-/

namespace OpenCloud

/-! ### Rounding to a float -/

/-- The nearest integer, a half going to the even one. -/
def roundHalfEven (x : ℚ) : ℤ :=
  if x - ⌊x⌋ < 1 / 2 then ⌊x⌋
  else if 1 / 2 < x - ⌊x⌋ then ⌊x⌋ + 1
  else if ⌊x⌋ % 2 = 0 then ⌊x⌋ else ⌊x⌋ + 1

theorem abs_roundHalfEven_sub_le (x : ℚ) : |(roundHalfEven x : ℚ) - x| ≤ 1 / 2 := by
  have h1 := Int.floor_le x
  have h2 := Int.lt_floor_add_one x
  unfold roundHalfEven
  split_ifs <;> push_cast <;> rw [abs_le] <;> constructor <;> linarith

theorem roundHalfEven_intCast (n : ℤ) : roundHalfEven n = n := by
  simp [roundHalfEven]

theorem roundHalfEven_mono {x y : ℚ} (h : x ≤ y) : roundHalfEven x ≤ roundHalfEven y := by
  have hf : ⌊x⌋ ≤ ⌊y⌋ := Int.floor_mono h
  rcases hf.eq_or_lt with heq | hlt
  · have hr : x - ⌊x⌋ ≤ y - ⌊y⌋ := by rw [heq]; linarith
    unfold roundHalfEven
    rw [heq] at hr ⊢
    split_ifs <;> first | omega | linarith
  · have hx : roundHalfEven x ≤ ⌊x⌋ + 1 := by unfold roundHalfEven; split_ifs <;> omega
    have hy : ⌊y⌋ ≤ roundHalfEven y := by unfold roundHalfEven; split_ifs <;> omega
    omega

theorem roundHalfEven_neg (x : ℚ) : roundHalfEven (-x) = -roundHalfEven x := by
  by_cases hint : (⌊x⌋ : ℚ) = x
  · rw [← hint, ← Int.cast_neg, roundHalfEven_intCast, roundHalfEven_intCast]
  · have h1 := lt_of_le_of_ne (Int.floor_le x) hint
    have h2 := Int.lt_floor_add_one x
    have hneg : ⌊-x⌋ = -⌊x⌋ - 1 := by
      rw [Int.floor_eq_iff]; push_cast; constructor <;> linarith
    unfold roundHalfEven
    rw [hneg]
    push_cast
    split_ifs <;> first | omega | (exfalso; linarith)

/-- The weight of the last of the 53 binary digits of `x`. -/
def ulp (x : ℚ) : ℚ := 2 ^ (Int.log 2 |x| - 52)

/-- Round to 53 binary digits, ties to even. -/
def rnd (x : ℚ) : ℚ := roundHalfEven (x / ulp x) * ulp x

theorem ulp_pos (x : ℚ) : 0 < ulp x := by unfold ulp; positivity

theorem ulp_neg (x : ℚ) : ulp (-x) = ulp x := by rw [ulp, ulp, abs_neg]

@[simp] theorem rnd_zero : rnd 0 = 0 := by
  rw [rnd, zero_div]
  simpa using congrArg (fun n : ℤ => (n : ℚ) * ulp 0) (roundHalfEven_intCast 0)

theorem rnd_neg (x : ℚ) : rnd (-x) = -rnd x := by
  rw [rnd, rnd, ulp_neg, neg_div, roundHalfEven_neg, Int.cast_neg, neg_mul]

theorem le_abs_div_ulp {x : ℚ} (hx : x ≠ 0) : 2 ^ 52 ≤ |x| / ulp x := by
  rw [le_div_iff₀ (ulp_pos x), ulp, zpow_sub₀ (by norm_num)]
  have := Int.zpow_log_le_self (b := 2) (by norm_num) (abs_pos.2 hx)
  push_cast at this
  calc (2 : ℚ) ^ 52 * (2 ^ Int.log 2 |x| / 2 ^ (52 : ℤ)) = 2 ^ Int.log 2 |x| := by norm_cast; ring
    _ ≤ |x| := this

theorem abs_div_ulp_lt (x : ℚ) : |x| / ulp x < 2 ^ 53 := by
  rw [div_lt_iff₀ (ulp_pos x), ulp]
  have := Int.lt_zpow_succ_log_self (b := 2) (by norm_num) |x|
  push_cast at this
  calc |x| < 2 ^ (Int.log 2 |x| + 1) := this
    _ = 2 ^ ((53 : ℤ) + (Int.log 2 |x| - 52)) := by congr 1; ring
    _ = 2 ^ 53 * 2 ^ (Int.log 2 |x| - 52) := by rw [zpow_add₀ (by norm_num)]; norm_cast

theorem abs_rnd_sub_le (x : ℚ) : |rnd x - x| ≤ |x| / 2 ^ 53 := by
  rcases eq_or_ne x 0 with rfl | hx
  · simp
  · have hu := ulp_pos x
    have hround := abs_roundHalfEven_sub_le (x / ulp x)
    have hscale : rnd x - x = (roundHalfEven (x / ulp x) - x / ulp x) * ulp x := by
      rw [rnd, sub_mul, div_mul_cancel₀ _ hu.ne']
    have hulp : ulp x ≤ |x| / 2 ^ 52 := by
      rw [le_div_iff₀ (by positivity), mul_comm]
      exact (le_div_iff₀ hu).1 (le_abs_div_ulp hx)
    rw [hscale, abs_mul, abs_of_pos hu]
    calc _ ≤ 1 / 2 * (|x| / 2 ^ 52) := mul_le_mul hround hulp hu.le (by norm_num)
      _ = |x| / 2 ^ 53 := by ring

/-- The numbers a float can hold. -/
def IsDouble (v : ℚ) : Prop := ∃ m e : ℤ, |m| ≤ 2 ^ 53 ∧ v = m * 2 ^ e

theorem roundHalfEven_two_pow (k : ℕ) : roundHalfEven (2 ^ k) = 2 ^ k := by
  rw [← roundHalfEven_intCast (2 ^ k)]
  push_cast
  rfl

theorem abs_mantissa_le (x : ℚ) : |roundHalfEven (x / ulp x)| ≤ 2 ^ 53 := by
  have habs : |x / ulp x| < 2 ^ 53 := by
    rw [abs_div, abs_of_pos (ulp_pos x)]; exact abs_div_ulp_lt x
  obtain ⟨hlo, hhi⟩ := abs_lt.1 habs
  have h1 := roundHalfEven_mono hhi.le
  have h2 := roundHalfEven_mono hlo.le
  rw [roundHalfEven_neg, roundHalfEven_two_pow] at h2
  rw [roundHalfEven_two_pow] at h1
  exact abs_le.2 ⟨h2, h1⟩

theorem isDouble_rnd (x : ℚ) : IsDouble (rnd x) :=
  ⟨roundHalfEven (x / ulp x), Int.log 2 |x| - 52, abs_mantissa_le x, rfl⟩

/-- Rounding keeps what a float can hold. -/
theorem rnd_of_isDouble {v : ℚ} (h : IsDouble v) : rnd v = v := by
  rcases eq_or_ne v 0 with rfl | hv
  · exact rnd_zero
  obtain ⟨m, e, hm, rfl⟩ := h
  set v := (m : ℚ) * 2 ^ e with hvdef
  have hm0 : m ≠ 0 := by rintro rfl; simp [hvdef] at hv
  have h2e : (0 : ℚ) < 2 ^ e := by positivity
  have habs : |v| = |(m : ℚ)| * 2 ^ e := by rw [hvdef, abs_mul, abs_of_pos h2e]
  -- the mantissa is a whole number of units in the last place
  have hint : ∃ n : ℤ, v / ulp v = n := by
    have hlog : Int.log 2 |v| - 52 ≤ e ∨ |m| = 2 ^ 53 := by
      by_cases hlt : |m| < 2 ^ 53
      · left
        have hv53 : |v| < (2 : ℕ) ^ (e + 53) := by
          rw [habs, zpow_add₀ (by norm_num), mul_comm]
          have : |(m : ℚ)| < 2 ^ 53 := by exact_mod_cast hlt
          push_cast
          exact mul_lt_mul_of_pos_left (by exact_mod_cast this) (by positivity)
        have := (Int.lt_zpow_iff_log_lt (by norm_num) (abs_pos.2 hv)).1 hv53
        omega
      · exact .inr (le_antisymm hm (not_lt.1 hlt))
    rcases hlog with hlog | hm53
    · refine ⟨m * 2 ^ (e - (Int.log 2 |v| - 52)).toNat, ?_⟩
      rw [hvdef, ulp, ← hvdef, mul_div_assoc, ← zpow_sub₀ (by norm_num)]
      push_cast
      congr 1
      rw [← zpow_natCast, Int.toNat_of_nonneg (by omega)]
    · have hv53 : |v| = (2 : ℕ) ^ (53 + e) := by
        rw [habs, zpow_add₀ (by norm_num)]
        push_cast
        congr 1
        exact_mod_cast hm53
      have hL : Int.log 2 |v| = 53 + e := by rw [hv53]; exact Int.log_zpow (by norm_num) _
      refine ⟨m / 2, ?_⟩
      have hdvd : (2 : ℤ) ∣ m := by
        rw [← dvd_abs, hm53]; exact ⟨2 ^ 52, by norm_num⟩
      rw [Int.cast_div hdvd (by norm_num), ulp, hL, hvdef]
      rw [show (53 + e - 52 : ℤ) = e + 1 by ring, zpow_add₀ (by norm_num)]
      field_simp
      norm_num
  obtain ⟨n, hn⟩ := hint
  rw [rnd, hn, roundHalfEven_intCast, ← hn, div_mul_cancel₀ _ (ulp_pos v).ne']

theorem rnd_nonneg {x : ℚ} (h : 0 ≤ x) : 0 ≤ rnd x := by
  have h0 : roundHalfEven 0 = 0 := by simpa using roundHalfEven_intCast 0
  have := roundHalfEven_mono (div_nonneg h (ulp_pos x).le)
  rw [h0] at this
  exact mul_nonneg (by exact_mod_cast this) (ulp_pos x).le

theorem rnd_mono_of_nonneg {x y : ℚ} (hx : 0 ≤ x) (h : x ≤ y) : rnd x ≤ rnd y := by
  rcases hx.eq_or_lt with rfl | hx
  · rw [rnd_zero]; exact rnd_nonneg h
  have hy : 0 < y := hx.trans_le h
  have hlog : Int.log 2 |x| ≤ Int.log 2 |y| := by
    rw [abs_of_pos hx, abs_of_pos hy]; exact Int.log_mono_right hx h
  rcases hlog.eq_or_lt with heq | hlt
  · have hu : ulp x = ulp y := by rw [ulp, ulp, heq]
    have := roundHalfEven_mono (div_le_div_of_nonneg_right h (ulp_pos y).le)
    rw [rnd, rnd, hu]
    exact mul_le_mul_of_nonneg_right (by exact_mod_cast this) (ulp_pos y).le
  · -- a power of two lies between the two
    have hup : rnd x ≤ 2 ^ (Int.log 2 |x| + 1) := by
      have hm := (abs_le.1 (abs_mantissa_le x)).2
      calc rnd x ≤ 2 ^ 53 * ulp x :=
            mul_le_mul_of_nonneg_right (by exact_mod_cast hm) (ulp_pos x).le
        _ = 2 ^ ((53 : ℤ) + (Int.log 2 |x| - 52)) := by
            rw [ulp, zpow_add₀ (by norm_num)]; norm_cast
        _ = 2 ^ (Int.log 2 |x| + 1) := by congr 1; ring
    have hdown : 2 ^ Int.log 2 |y| ≤ rnd y := by
      have h52 := le_abs_div_ulp hy.ne'
      rw [abs_of_pos hy] at h52
      have hm := roundHalfEven_mono h52
      rw [roundHalfEven_two_pow] at hm
      calc (2 : ℚ) ^ Int.log 2 |y| = 2 ^ ((52 : ℤ) + (Int.log 2 |y| - 52)) := by congr 1; ring
        _ = 2 ^ 52 * ulp y := by rw [ulp, zpow_add₀ (by norm_num)]; norm_cast
        _ ≤ rnd y := mul_le_mul_of_nonneg_right (by exact_mod_cast hm) (ulp_pos y).le
    exact hup.trans ((zpow_le_zpow_right₀ (by norm_num) (by omega)).trans hdown)

theorem rnd_mono {x y : ℚ} (h : x ≤ y) : rnd x ≤ rnd y := by
  rcases le_total 0 x with hx | hx
  · exact rnd_mono_of_nonneg hx h
  rcases le_total 0 y with hy | hy
  · have : rnd x ≤ 0 := by
      rw [← neg_nonneg, ← rnd_neg]; exact rnd_nonneg (by linarith)
    exact this.trans (rnd_nonneg hy)
  · have := rnd_mono_of_nonneg (neg_nonneg.2 hy) (neg_le_neg h)
    rw [rnd_neg, rnd_neg] at this
    linarith

/-! ### The decimal a float prints -/

/-- A float. -/
structure Double where
  /-- The number it holds. -/
  val : ℚ
  /-- A float has 53 binary digits. -/
  isDouble : IsDouble val
  deriving DecidableEq

namespace Double

/-- The float nearest to `x`. -/
def ofRat (x : ℚ) : Double := ⟨rnd x, isDouble_rnd x⟩

/-- The two neighbours of `d` among the multiples of `g`, the nearer one first. -/
def candidates (d g : ℚ) : List ℚ :=
  if d - ⌊d / g⌋ * g ≤ (⌊d / g⌋ + 1) * g - d then [⌊d / g⌋ * g, (⌊d / g⌋ + 1) * g]
  else [(⌊d / g⌋ + 1) * g, ⌊d / g⌋ * g]

/-- The first neighbour of `d` that reads back as `d`, on the grids `10 ^ e`, `10 ^ (e - 1)`, …:
each grid costs one digit more than the one before. -/
def shortestFrom (d : ℚ) : ℕ → ℤ → ℚ
  | 0, _ => d
  | n + 1, e =>
    match (candidates d (10 ^ e)).find? fun y => rnd y = d with
    | some y => y
    | none => shortestFrom d n (e - 1)

/-- The decimal a float prints (`repr`).  Seventeen digits always suffice, so the search ends
before its twenty grids do. -/
def decimal (d : Double) : ℚ := shortestFrom d.val 20 (Int.log 10 |d.val| + 1)

theorem mem_candidates {d g y : ℚ} :
    y ∈ candidates d g ↔ y = ⌊d / g⌋ * g ∨ y = (⌊d / g⌋ + 1) * g := by
  unfold candidates
  split_ifs
  · simp
  · simp [or_comm]

theorem rnd_shortestFrom {d : ℚ} (hd : IsDouble d) (n : ℕ) (e : ℤ) :
    rnd (shortestFrom d n e) = d := by
  induction n generalizing e with
  | zero => exact rnd_of_isDouble hd
  | succ n ih =>
    unfold shortestFrom
    split
    · rename_i y hy
      simpa using List.find?_some hy
    · exact ih (e - 1)

theorem shortestFrom_grid {d : ℚ} {e₀ : ℤ} (h₀ : ∃ y ∈ candidates d (10 ^ e₀), rnd y = d)
    (n : ℕ) (e : ℤ) (he : e₀ ≤ e) (hn : e - e₀ < n) :
    ∃ e' ≥ e₀, shortestFrom d n e ∈ candidates d (10 ^ e') := by
  induction n generalizing e with
  | zero => simp at hn; omega
  | succ n ih =>
    unfold shortestFrom
    split
    · rename_i y hy
      exact ⟨e, he, List.mem_of_find?_eq_some hy⟩
    · rename_i hnone
      have hne : e ≠ e₀ := by
        rintro rfl
        obtain ⟨y, hy, hround⟩ := h₀
        exact absurd (by simpa using hround) (List.find?_eq_none.1 hnone y hy)
      exact ih (e - 1) (by omega) (by push_cast at hn; omega)

/-- The decimal a float prints reads back as that float. -/
theorem rnd_decimal (d : Double) : rnd d.decimal = d.val := rnd_shortestFrom d.isDouble _ _

@[simp] theorem ofRat_decimal (d : Double) : ofRat d.decimal = d := by
  obtain ⟨v, hv⟩ := d
  simp only [ofRat, mk.injEq]
  exact rnd_decimal ⟨v, hv⟩

/-! ### What survives the way through a float -/

/-- `x` has a numeral whose digits, read as an integer, do not exceed `b`. -/
def DigitsUpTo (b : ℤ) (x : ℚ) : Prop := ∃ m k : ℤ, |m| ≤ b ∧ x = m * 10 ^ k

theorem gap {m n k l : ℤ} (hkl : k ≤ l) (hne : (m : ℚ) * 10 ^ k ≠ n * 10 ^ l) :
    (10 : ℚ) ^ k ≤ |(n : ℚ) * 10 ^ l - m * 10 ^ k| := by
  have h10 : (0 : ℚ) < 10 ^ k := by positivity
  have hl : (10 : ℚ) ^ l = ((10 ^ (l - k).toNat : ℤ) : ℚ) * 10 ^ k := by
    push_cast
    rw [← zpow_natCast, Int.toNat_of_nonneg (by omega), ← zpow_add₀ (by norm_num)]
    congr 1; ring
  have hfact : (n : ℚ) * 10 ^ l - m * 10 ^ k
      = ((n * 10 ^ (l - k).toNat - m : ℤ) : ℚ) * 10 ^ k := by
    rw [hl]; push_cast; ring
  have hnz : n * 10 ^ (l - k).toNat - m ≠ 0 := by
    intro h0
    rw [h0, Int.cast_zero, zero_mul, sub_eq_zero] at hfact
    exact hne hfact.symm
  rw [hfact, abs_mul, abs_of_pos h10]
  have h1 : (1 : ℚ) ≤ |((n * 10 ^ (l - k).toNat - m : ℤ) : ℚ)| := by
    exact_mod_cast Int.one_le_abs hnz
  exact le_mul_of_one_le_left h10.le h1

/-- Two decimals of at most fifteen digits (and somewhat more) never share a float: they lie
further apart than the floats around them. -/
theorem eq_of_rnd_eq {x y : ℚ} (hx : DigitsUpTo (2 ^ 51) x) (hy : DigitsUpTo (2 ^ 51) y)
    (h : rnd x = rnd y) : x = y := by
  by_contra hne
  have hδ : 0 < |y - x| := abs_pos.2 (sub_ne_zero.2 (Ne.symm hne))
  have hclose : |y - x| ≤ |x| / 2 ^ 53 + |y| / 2 ^ 53 := by
    have e1 : y - x = (rnd x - x) - (rnd y - y) := by rw [h]; ring
    rw [e1]
    exact (abs_sub _ _).trans (add_le_add (abs_rnd_sub_le x) (abs_rnd_sub_le y))
  have hyx : |y| ≤ |x| + |y - x| := by
    have := abs_sub_abs_le_abs_sub y x; linarith
  have hxy : |x| ≤ |y| + |y - x| := by
    have := abs_sub_abs_le_abs_sub x y; rw [abs_sub_comm x y] at this; linarith
  have hfar : |x| ≤ 2 ^ 51 * |y - x| ∨ |y| ≤ 2 ^ 51 * |y - x| := by
    have hsize : ∀ m k : ℤ, |m| ≤ 2 ^ 51 → |(m : ℚ) * 10 ^ k| ≤ 2 ^ 51 * 10 ^ k := by
      intro m k hm
      have h10 : (0 : ℚ) < 10 ^ k := by positivity
      rw [abs_mul, abs_of_pos h10]
      exact mul_le_mul_of_nonneg_right (by exact_mod_cast hm) h10.le
    obtain ⟨m, k, hm, rfl⟩ := hx
    obtain ⟨n, l, hn, rfl⟩ := hy
    rcases le_total k l with hkl | hlk
    · have := gap hkl hne
      exact .inl ((hsize m k hm).trans (by gcongr))
    · have := gap hlk (Ne.symm hne)
      rw [abs_sub_comm] at this
      exact .inr ((hsize n l hn).trans (by gcongr))
  rcases hfar with hfar | hfar <;> linarith

theorem mem_candidates_of_near {d : ℚ} {m k : ℤ} (h : |d - m * 10 ^ k| < 10 ^ k) :
    (m : ℚ) * 10 ^ k ∈ candidates d (10 ^ k) := by
  have h10 : (0 : ℚ) < 10 ^ k := by positivity
  obtain ⟨h1, h2⟩ := abs_lt.1 h
  have hlo : ((m - 1 : ℤ) : ℚ) < d / 10 ^ k := by
    rw [lt_div_iff₀ h10]; push_cast; linarith
  have hhi : d / 10 ^ k < ((m + 1 : ℤ) : ℚ) := by
    rw [div_lt_iff₀ h10]; push_cast; linarith
  have hm : ⌊d / 10 ^ k⌋ = m ∨ ⌊d / 10 ^ k⌋ + 1 = m := by
    have := Int.floor_lt.2 hhi
    have := Int.le_floor.2 hlo.le
    omega
  rw [mem_candidates]
  rcases hm with hm | hm
  · left; rw [hm]
  · right; rw [← hm]; push_cast; ring

theorem abs_rnd_lt {x b : ℚ} (h : |x| ≤ b) (hb : 0 < b) : |rnd x| < 2 * b := by
  have h1 := abs_rnd_sub_le x
  have h2 := abs_sub_abs_le_abs_sub (rnd x) x
  linarith

theorem lt_abs_rnd {x b : ℚ} (h : b ≤ |x|) (hb : 0 < b) : b / 10 < |rnd x| := by
  have h1 := abs_rnd_sub_le x
  have h2 := abs_sub_abs_le_abs_sub x (rnd x)
  rw [abs_sub_comm] at h2
  linarith

/-- The search for the decimal of a float made from `x` reaches the last digit of `x`. -/
theorem decimal_grid {x : ℚ} {k : ℤ} (hlo : (10 : ℚ) ^ k ≤ |x|) (hhi : |x| < 10 ^ (k + 18))
    (h₀ : ∃ y ∈ candidates (rnd x) (10 ^ k), rnd y = rnd x) :
    ∃ e ≥ k, (ofRat x).decimal ∈ candidates (rnd x) (10 ^ e) := by
  have hpos : 0 < |rnd x| := lt_of_le_of_lt (by positivity) (lt_abs_rnd hlo (by positivity))
  have hL1 : k - 1 ≤ Int.log 10 |rnd x| := by
    refine (Int.zpow_le_iff_le_log (b := 10) (by norm_num) hpos).1 ?_
    have := (lt_abs_rnd hlo (by positivity)).le
    push_cast
    rwa [zpow_sub₀ (by norm_num), zpow_one]
  have hL2 : Int.log 10 |rnd x| < k + 19 := by
    refine (Int.lt_zpow_iff_log_lt (b := 10) (by norm_num) hpos).1 ?_
    have := abs_rnd_lt hhi.le (by positivity)
    have e1 : (10 : ℚ) ^ (k + 19) = 10 * 10 ^ (k + 18) := by
      rw [show k + 19 = 1 + (k + 18) by ring, zpow_add₀ (by norm_num), zpow_one]
    have h18 : (0 : ℚ) < 10 ^ (k + 18) := by positivity
    push_cast
    rw [e1]
    linarith
  exact shortestFrom_grid h₀ 20 _ (by change k ≤ Int.log 10 |rnd x| + 1; omega)
    (by change Int.log 10 |rnd x| + 1 - k < _; push_cast; omega)

@[simp] theorem decimal_zero : (ofRat 0).decimal = 0 := by decide +kernel

/-- **A decimal of at most fifteen digits survives the way through a float.** -/
theorem decimal_ofRat {x : ℚ} (hx : DigitsUpTo (10 ^ 15) x) : (ofRat x).decimal = x := by
  rcases eq_or_ne x 0 with rfl | hx0
  · exact decimal_zero
  have hmono : ∀ y, DigitsUpTo (10 ^ 15) y → DigitsUpTo (2 ^ 51) y :=
    fun _ ⟨m, k, hm, h⟩ => ⟨m, k, hm.trans (by norm_num), h⟩
  obtain ⟨m, k, hm, hxk⟩ := id hx
  have h10 : (0 : ℚ) < 10 ^ k := by positivity
  have hm0 : m ≠ 0 := by rintro rfl; simp [hxk] at hx0
  have habs : |x| = |(m : ℚ)| * 10 ^ k := by rw [hxk, abs_mul, abs_of_pos h10]
  have hm1 : (1 : ℚ) ≤ |(m : ℚ)| := by exact_mod_cast Int.one_le_abs hm0
  have hm15 : |(m : ℚ)| ≤ 10 ^ 15 := by exact_mod_cast hm
  have hlo : (10 : ℚ) ^ k ≤ |x| := habs ▸ le_mul_of_one_le_left h10.le hm1
  have hup : |x| ≤ 10 ^ 15 * 10 ^ k := habs ▸ mul_le_mul_of_nonneg_right hm15 h10.le
  have hhi : |x| < 10 ^ (k + 18) := by
    rw [add_comm, zpow_add₀ (by norm_num)]
    refine hup.trans_lt (mul_lt_mul_of_pos_right (by norm_num) h10)
  have hnear : |rnd x - m * 10 ^ k| < 10 ^ k := by
    rw [← hxk]
    have := abs_rnd_sub_le x
    linarith
  obtain ⟨e, he, hy⟩ := decimal_grid hlo hhi
    ⟨x, hxk ▸ mem_candidates_of_near (hxk ▸ hnear), rfl⟩
  have hround : rnd (ofRat x).decimal = rnd x := rnd_decimal (ofRat x)
  -- the decimal found has few digits as well, so it is `x`
  refine eq_of_rnd_eq ?_ (hmono x hx) hround
  have hge : (10 : ℚ) ^ k ≤ 10 ^ e := zpow_le_zpow_right₀ (by norm_num) he
  have he10 : (0 : ℚ) < 10 ^ e := by positivity
  have ht : |rnd x / 10 ^ e| ≤ 10 ^ 15 + 1 := by
    rw [abs_div, abs_of_pos he10, div_le_iff₀ he10]
    have h1 := abs_rnd_sub_le x
    have h2 := abs_sub_abs_le_abs_sub (rnd x) x
    nlinarith
  obtain ⟨ht1, ht2⟩ := abs_le.1 ht
  have hf1 := Int.floor_le (rnd x / 10 ^ e)
  have hf2 := Int.lt_floor_add_one (rnd x / 10 ^ e)
  have hq : ∀ q : ℤ, q = ⌊rnd x / 10 ^ e⌋ ∨ q = ⌊rnd x / 10 ^ e⌋ + 1 → |q| ≤ 2 ^ 51 := by
    rintro q hq
    have hq1 : -(10 ^ 15 + 2 : ℚ) ≤ q ∧ (q : ℚ) ≤ 10 ^ 15 + 2 := by
      rcases hq with rfl | rfl <;> push_cast <;> constructor <;> linarith
    rw [abs_le]
    constructor
    · have h1 : (-(10 ^ 15 + 2) : ℤ) ≤ q := by exact_mod_cast hq1.1
      omega
    · have h2 : q ≤ (10 ^ 15 + 2 : ℤ) := by exact_mod_cast hq1.2
      omega
  rcases mem_candidates.1 hy with hy | hy
  · exact ⟨_, e, hq _ (.inl rfl), hy⟩
  · exact ⟨_, e, hq _ (.inr rfl), by rw [hy]; push_cast; ring⟩

theorem exists_candidate_of_grid {d g : ℚ} {m : ℤ} (hg : 0 < g) (hd : IsDouble d)
    (hx : rnd (m * g) = d) : ∃ y ∈ candidates d g, rnd y = d := by
  have hdd : rnd d = d := rnd_of_isDouble hd
  have hfl : ⌊d / g⌋ * g ≤ d := (le_div_iff₀ hg).1 (Int.floor_le _)
  have hup : d < (⌊d / g⌋ + 1) * g := (div_lt_iff₀ hg).1 (Int.lt_floor_add_one _)
  rcases le_or_gt m ⌊d / g⌋ with hm | hm
  · -- the number lies below the float: take the lower neighbour
    have hle : (m : ℚ) * g ≤ ⌊d / g⌋ * g :=
      mul_le_mul_of_nonneg_right (by exact_mod_cast hm) hg.le
    exact ⟨_, mem_candidates.2 (.inl rfl),
      le_antisymm ((rnd_mono hfl).trans_eq hdd) (hx.ge.trans (rnd_mono hle))⟩
  · have hm' : (⌊d / g⌋ : ℚ) + 1 ≤ m := by exact_mod_cast hm
    have hle : ((⌊d / g⌋ : ℚ) + 1) * g ≤ m * g := mul_le_mul_of_nonneg_right hm' hg.le
    exact ⟨_, mem_candidates.2 (.inr rfl),
      le_antisymm ((rnd_mono hle).trans hx.le) (hdd.ge.trans (rnd_mono hup.le))⟩

theorem hasDecimals_of_grid {k : ℕ} {e : ℤ} (he : -(k : ℤ) ≤ e) (q : ℤ) :
    HasDecimals k ((q : ℚ) * 10 ^ e) := by
  refine ⟨q * 10 ^ (e + k).toNat, ?_⟩
  rw [eq_div_iff (by positivity)]
  push_cast
  rw [← zpow_natCast (10 : ℚ) (e + k).toNat, Int.toNat_of_nonneg (by omega),
    zpow_add₀ (by norm_num), zpow_natCast]
  ring

/-- **A float made from a number with `k` decimals prints at most `k` decimals.** -/
theorem hasDecimals_decimal_ofRat {k : ℕ} {x : ℚ} (hx : HasDecimals k x)
    (hhi : |x| < 10 ^ (18 - k : ℤ)) : HasDecimals k (ofRat x).decimal := by
  rcases eq_or_ne x 0 with rfl | hx0
  · rw [decimal_zero]; exact HasDecimals.zero
  obtain ⟨m, hm⟩ := hx
  have hgrid : x = m * 10 ^ (-(k : ℤ)) := by rw [hm, zpow_neg, zpow_natCast, div_eq_mul_inv]
  have hm0 : m ≠ 0 := by rintro rfl; simp [hm] at hx0
  have hlo : (10 : ℚ) ^ (-(k : ℤ)) ≤ |x| := by
    rw [hgrid, abs_mul, abs_of_pos (show (0 : ℚ) < 10 ^ (-(k : ℤ)) by positivity)]
    refine le_mul_of_one_le_left (by positivity) ?_
    exact_mod_cast Int.one_le_abs hm0
  obtain ⟨e, he, hy⟩ := decimal_grid hlo (by rwa [neg_add_eq_sub])
    (exists_candidate_of_grid (m := m) (by positivity) (isDouble_rnd x) (by rw [← hgrid]))
  rcases mem_candidates.1 hy with hy | hy
  · rw [hy]; exact hasDecimals_of_grid he _
  · rw [hy]; exact_mod_cast hasDecimals_of_grid he (⌊rnd x / 10 ^ e⌋ + 1)

theorem le_decimal_ofRat {b x : ℚ} (hb : DigitsUpTo (10 ^ 15) b) (h : b ≤ x) :
    b ≤ (ofRat x).decimal := by
  by_contra hlt
  push Not at hlt
  have hle : rnd x ≤ rnd b := (rnd_decimal (ofRat x)).ge.trans (rnd_mono hlt.le)
  have heq : ofRat x = ofRat b := by
    simp only [ofRat, mk.injEq]
    exact le_antisymm hle (rnd_mono h)
  rw [heq, decimal_ofRat hb] at hlt
  exact lt_irrefl b hlt

theorem decimal_ofRat_le {b x : ℚ} (hb : DigitsUpTo (10 ^ 15) b) (h : x ≤ b) :
    (ofRat x).decimal ≤ b := by
  by_contra hlt
  push Not at hlt
  have hle : rnd b ≤ rnd x := (rnd_mono hlt.le).trans (rnd_decimal (ofRat x)).le
  have heq : ofRat x = ofRat b := by
    simp only [ofRat, mk.injEq]
    exact le_antisymm (rnd_mono h) hle
  rw [heq, decimal_ofRat hb] at hlt
  exact lt_irrefl b hlt

end Double

end OpenCloud
