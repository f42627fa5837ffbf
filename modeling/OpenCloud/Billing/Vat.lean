import OpenCloud.Billing.Invoices
import OpenCloud.Lib.Contexts

/-!
# Tax added and tax extracted

`split_vat` takes an amount apart into subtotal, VAT and total, from either side: prices that
exclude VAT have it added, prices that include it have it extracted.  The results are quantized to
hundredths, and what goes into them is computed in decimals of 28 digits (`splitVatIn`).  Within
that many digits it makes no difference, and the exact split is what is computed
(`splitVatIn_added`, `splitVatIn_extracted`).

## Main results

* `extracted_of_added` : extracting the tax from the total with tax gives back the amount and the
  tax.
* `splits_well` : this, and what holds of every split, for amounts and rates within the digits.
-/

namespace OpenCloud

/-- The digits of Python's decimal context. -/
def contextDigits : ℕ := 28

/-- `_money`; a result of more digits is refused. -/
def moneyIn (value : ℚ) : Option ℚ := quantizeIn contextDigits 2 value

/-- `split_vat`, none where an operation of the context fails. -/
def splitVatIn (s : Settings) (grossOrNet : ℚ) : Option VatSplit := do
  let rate := roundDigits contextDigits (vatRate s / 100)
  if rate = 0 then
    let amount ← moneyIn grossOrNet
    return ⟨amount, 0, amount⟩
  else if s.billingPricesIncludeVat then
    let total ← moneyIn grossOrNet
    let base := roundDigits contextDigits (1 + rate)
    if base = 0 then none
    else
      let subtotal ← moneyIn (roundDigits contextDigits (total / base))
      let vat ← moneyIn (roundDigits contextDigits (total - subtotal))
      return ⟨subtotal, vat, total⟩
  else
    let subtotal ← moneyIn grossOrNet
    let vat ← moneyIn (roundDigits contextDigits (subtotal * rate))
    let total ← moneyIn (roundDigits contextDigits (subtotal + vat))
    return ⟨subtotal, vat, total⟩

/-- The same configuration with prices on the given side. -/
def Settings.pricesIncludeVat (s : Settings) (side : Bool) : Settings :=
  { s with billingPricesIncludeVat := side }

@[simp] theorem vatRate_pricesIncludeVat (s : Settings) (side : Bool) :
    vatRate (s.pricesIncludeVat side) = vatRate s := rfl

@[simp] theorem billingPricesIncludeVat_pricesIncludeVat (s : Settings) (side : Bool) :
    (s.pricesIncludeVat side).billingPricesIncludeVat = side := rfl

/-- The rate, in percent, is not negative, is below `10 ^ m` and has at most `d` decimals; with
amounts below `10 ^ n` the digits are few enough. -/
structure FewDigits (s : Settings) (n m d : ℕ) : Prop where
  nonneg : 0 ≤ vatRate s
  bound : vatRate s < 10 ^ m
  decimals : HasDecimals d (vatRate s)
  digits : n + m + d ≤ 23

/-- A split of whole hundredths that closes. -/
structure VatSplit.Sound (split : VatSplit) : Prop where
  subtotal : HasDecimals 2 split.subtotal ∧ 0 ≤ split.subtotal
  vat : HasDecimals 2 split.vat ∧ 0 ≤ split.vat
  total : HasDecimals 2 split.total ∧ 0 ≤ split.total
  closes : split.subtotal + split.vat = split.total

/-! ### Exact splits -/

section

variable {s : Settings} {x y : ℚ} {side : Bool}

theorem money_eq_self (h : HasDecimals 2 x) : money x = x := h.quantize_eq

theorem money_mono (h : x ≤ y) : money x ≤ money y := quantize_mono 2 h

theorem money_nonneg (h : 0 ≤ x) : 0 ≤ money x := quantize_nonneg h

theorem money_le_pow {e : ℕ} (h : x ≤ 10 ^ e) : money x ≤ 10 ^ e := by
  have hten : HasDecimals 2 ((10 : ℚ) ^ e) := by exact_mod_cast HasDecimals.natCast (10 ^ e)
  exact (money_mono h).trans_eq (money_eq_self hten)

theorem money_base_le {rate : ℚ} (hrate : 0 ≤ rate) (h : 0 ≤ money x) :
    money (money x / (1 + rate)) ≤ money x := by
  calc money (money x / (1 + rate)) ≤ money (money x) := money_mono (div_le_self h (by linarith))
    _ = money x := money_eq_self (hasDecimals_money x)

theorem total_added {a : ℚ} (ha : HasDecimals 2 a) :
    (splitVat (s.pricesIncludeVat false) a).total = a + money (a * (vatRate s / 100)) := by
  unfold splitVat
  simp only [vatRate_pricesIncludeVat, billingPricesIncludeVat_pricesIncludeVat, Bool.false_eq_true,
    if_false]
  split_ifs with hzero
  · rw [hzero, mul_zero, money_eq_self HasDecimals.zero, add_zero, money_eq_self ha]
  · rw [money_eq_self ha, money_eq_self (ha.add (hasDecimals_money _))]

/-- Extracting the tax from the total with tax gives back the amount and the tax. -/
theorem extracted_of_added (hrate : 0 ≤ vatRate s) {a : ℚ} (ha : HasDecimals 2 a) :
    splitVat (s.pricesIncludeVat true) (splitVat (s.pricesIncludeVat false) a).total =
      ⟨a, (splitVat (s.pricesIncludeVat false) a).vat,
        (splitVat (s.pricesIncludeVat false) a).total⟩ := by
  unfold splitVat
  simp only [vatRate_pricesIncludeVat, billingPricesIncludeVat_pricesIncludeVat, if_true,
    Bool.false_eq_true, if_false]
  split_ifs with hzero
  · simp only [money_eq_self ha]
  · have hpos : 0 < vatRate s / 100 := lt_of_le_of_ne (by positivity) (Ne.symm hzero)
    generalize vatRate s / 100 = rate at hpos
    have hv : HasDecimals 2 (money (a * rate)) := hasDecimals_money _
    have ht : HasDecimals 2 (a + money (a * rate)) := ha.add hv
    -- the tax was rounded by at most half a hundredth, of which the division leaves less
    have hsub : money ((a + money (a * rate)) / (1 + rate)) = a := by
      refine quantize_eq_of_abs_sub_lt ha ?_
      have hround : |money (a * rate) - a * rate| ≤ 1 / 2 / 10 ^ 2 := abs_quantize_sub_le 2 _
      have hscale : (a + money (a * rate)) / (1 + rate) - a =
        (money (a * rate) - a * rate) / (1 + rate) := by
        field_simp
        ring
      rw [hscale, abs_div, abs_of_pos (by linarith : 0 < 1 + rate), div_lt_iff₀ (by linarith)]
      calc _ ≤ (1 : ℚ) / 2 / 10 ^ 2 := hround
        _ < 1 / 2 / 10 ^ 2 * (1 + rate) := lt_mul_of_one_lt_right (by norm_num) (by linarith)
    simp only [money_eq_self ha, money_eq_self ht, hsub, add_sub_cancel_left, money_eq_self hv]

theorem splitVat_mono (hrate : 0 ≤ vatRate s) (h : x ≤ y) :
    (splitVat s x).subtotal ≤ (splitVat s y).subtotal ∧
      (splitVat s x).total ≤ (splitVat s y).total := by
  have hrate' : 0 ≤ vatRate s / 100 := by positivity
  unfold splitVat
  generalize vatRate s / 100 = rate at hrate'
  dsimp only
  split_ifs
  · exact ⟨money_mono h, money_mono h⟩
  · exact ⟨money_mono (div_le_div_of_nonneg_right (money_mono h) (by linarith)), money_mono h⟩
  · have hvat : money (money x * rate) ≤ money (money y * rate) :=
      money_mono (mul_le_mul_of_nonneg_right (money_mono h) hrate')
    exact ⟨money_mono h, money_mono (add_le_add (money_mono h) hvat)⟩

theorem splitVat_sound (hrate : 0 ≤ vatRate s) (hx : 0 ≤ x) : (splitVat s x).Sound := by
  obtain ⟨h1, h2, h3⟩ := hasDecimals_splitVat s x
  have hrate' : 0 ≤ vatRate s / 100 := by positivity
  have hnonneg : 0 ≤ (splitVat s x).subtotal ∧ 0 ≤ (splitVat s x).vat ∧
    0 ≤ (splitVat s x).total := by
    unfold splitVat
    generalize vatRate s / 100 = rate at hrate'
    have hm := money_nonneg hx
    dsimp only
    split_ifs
    · exact ⟨hm, le_rfl, hm⟩
    · have hbase : 0 ≤ money x / (1 + rate) := div_nonneg hm (by linarith)
      have hle : money (money x / (1 + rate)) ≤ money x := money_base_le hrate' hm
      exact ⟨money_nonneg hbase, money_nonneg (by linarith), hm⟩
    · have hvat := money_nonneg (mul_nonneg hm hrate')
      exact ⟨hm, hvat, money_nonneg (add_nonneg hm hvat)⟩
  exact ⟨⟨h1, hnonneg.1⟩, ⟨h2, hnonneg.2.1⟩, ⟨h3, hnonneg.2.2⟩, splitVat_closes s x⟩

end

/-! ### The context -/

section

variable {s : Settings} {n m d : ℕ} {x : ℚ}

theorem moneyIn_eq_some {e : ℕ} (h0 : 0 ≤ x) (hx : x ≤ 10 ^ e) (he : e ≤ 25) :
    moneyIn x = some (money x) := by
  refine quantizeIn_eq_some (e := e + 1) ?_ (by unfold contextDigits; omega)
  rw [← money, abs_of_nonneg (money_nonneg h0)]
  exact (money_le_pow hx).trans_lt (pow_lt_pow_right₀ (by norm_num) (by omega))

theorem roundDigits_eq {k e : ℕ} (h : HasDecimals k x) (h0 : 0 ≤ x) (hx : x < 10 ^ e)
    (he : e + k ≤ 28) :
    roundDigits contextDigits x = x :=
  roundDigits_eq_self h ((abs_of_nonneg h0).trans_lt hx) he

namespace FewDigits

theorem hasDecimals_rate (h : FewDigits s n m d) : HasDecimals (d + 2) (vatRate s / 100) := by
  obtain ⟨p, hp⟩ := h.decimals
  exact ⟨p, by rw [hp, div_div, pow_add]; norm_num⟩

theorem rate_lt (h : FewDigits s n m d) : vatRate s / 100 < 10 ^ m :=
  (div_le_self h.nonneg (by norm_num)).trans_lt h.bound

theorem rate_nonneg (h : FewDigits s n m d) : 0 ≤ vatRate s / 100 :=
  div_nonneg h.nonneg (by norm_num)

theorem rate_eq (h : FewDigits s n m d) :
    roundDigits contextDigits (vatRate s / 100) = vatRate s / 100 := by
  have hdigits := h.digits
  exact roundDigits_eq h.hasDecimals_rate h.rate_nonneg h.rate_lt (by omega)

theorem base_eq (h : FewDigits s n m d) :
    roundDigits contextDigits (1 + vatRate s / 100) = 1 + vatRate s / 100 := by
  have hdigits := h.digits
  have hone : HasDecimals (d + 2) (1 : ℚ) := by exact_mod_cast HasDecimals.natCast 1
  have hbase : 1 + vatRate s / 100 < 10 ^ (m + 1) := by
    have hrate := h.rate_lt
    have hpow : (1 : ℚ) ≤ 10 ^ m := one_le_pow₀ (by norm_num)
    rw [pow_succ]
    linarith
  exact roundDigits_eq (hone.add h.hasDecimals_rate) (add_nonneg zero_le_one h.rate_nonneg) hbase
    (by omega)

/-- The subtotal that is extracted is the exact one. -/
theorem moneyIn_base (h : FewDigits s n m d) {t : ℚ} (ht : HasDecimals 2 t) (h0 : 0 ≤ t)
    (hbase : t / (1 + vatRate s / 100) < 10 ^ n) :
    moneyIn (roundDigits contextDigits (t / (1 + vatRate s / 100))) =
      some (money (t / (1 + vatRate s / 100))) := by
  have hdigits := h.digits
  have hrate := h.nonneg
  have hbound := h.bound
  obtain ⟨p, hp⟩ := h.decimals
  obtain ⟨hundredths, rfl⟩ := ht
  have h10 : (0 : ℚ) < 10 ^ d := by positivity
  have hp0 : (0 : ℚ) ≤ p := by
    rw [hp] at hrate
    simpa using mul_nonneg hrate h10.le
  have hpm : (p : ℚ) < 10 ^ m * 10 ^ d := by
    rw [hp] at hbound
    exact (div_lt_iff₀ h10).1 hbound
  -- the quotient is of whole numbers, the divisor as small as the rate has digits
  have hparts : (0 : ℤ) < 10 ^ (d + 2) + p := by
    have hp0' : (0 : ℤ) ≤ p := by exact_mod_cast hp0
    positivity
  have hquotient : (hundredths : ℚ) / 10 ^ 2 / (1 + vatRate s / 100) * 10 ^ 2 =
      (hundredths * 10 ^ (d + 2) : ℤ) / (10 ^ (d + 2) + p : ℤ) := by
    have hne : (10 : ℚ) ^ (d + 2) + p ≠ 0 := by positivity
    rw [hp]
    push_cast
    rw [pow_add] at hne ⊢
    field_simp
    ring
  have hfew : ((10 ^ (d + 2) + p : ℤ) : ℚ) < 10 ^ (m + d + 3) := by
    have hone : (1 : ℚ) ≤ 10 ^ m := one_le_pow₀ (by norm_num)
    push_cast
    rw [pow_add, pow_add, pow_add]
    nlinarith
  have hsize : |(hundredths : ℚ) / 10 ^ 2 / (1 + vatRate s / 100)| < 10 ^ n := by
    rw [abs_of_nonneg (div_nonneg h0 (by linarith))]
    exact hbase
  have hquantize := quantize_roundDigits (p := contextDigits) hparts hquotient hsize hfew
    (by unfold contextDigits; omega) (by omega)
  have hsome := moneyIn_eq_some (div_nonneg h0 (by linarith)) hbase.le (by omega)
  unfold moneyIn quantizeIn at hsome ⊢
  rw [hquantize]
  exact hsome

end FewDigits

/-- Within the digits the tax is added exactly. -/
theorem splitVatIn_added (h : FewDigits s n m d) (h0 : 0 ≤ x) (hx : x ≤ 10 ^ n) :
    splitVatIn (s.pricesIncludeVat false) x = some (splitVat (s.pricesIncludeVat false) x) := by
  have hdigits := h.digits
  have hsubtotal := moneyIn_eq_some h0 hx (by omega)
  unfold splitVatIn splitVat
  simp only [vatRate_pricesIncludeVat, billingPricesIncludeVat_pricesIncludeVat, h.rate_eq,
    hsubtotal, Option.bind_eq_bind, Option.bind_some, Option.pure_def, Bool.false_eq_true, if_false]
  split_ifs with hzero
  · rfl
  · have hrate0 := h.rate_nonneg
    have hrate := h.rate_lt
    have hdecimals := h.hasDecimals_rate
    generalize vatRate s / 100 = rate at hrate0 hrate hdecimals
    have ha0 : 0 ≤ money x := money_nonneg h0
    have ha : money x ≤ 10 ^ n := money_le_pow hx
    -- the product and the sum are both exact before they are quantized
    have hproduct : money x * rate < 10 ^ (n + m) := by
      rw [pow_add]
      exact mul_lt_mul' ha hrate hrate0 (by positivity)
    have hproduct0 : 0 ≤ money x * rate := mul_nonneg ha0 hrate0
    have hexact : roundDigits contextDigits (money x * rate) = money x * rate :=
      roundDigits_eq ((hasDecimals_money x).mul hdecimals) hproduct0 hproduct (by omega)
    have hv0 : 0 ≤ money (money x * rate) := money_nonneg hproduct0
    have hv : money (money x * rate) ≤ 10 ^ (n + m) := money_le_pow hproduct.le
    have hsum : money x + money (money x * rate) < 10 ^ (n + m + 1) := by
      have hle : (10 : ℚ) ^ n ≤ 10 ^ (n + m) := pow_le_pow_right₀ (by norm_num) (by omega)
      have hpos : (0 : ℚ) < 10 ^ (n + m) := by positivity
      rw [pow_succ]
      linarith
    have hexact' : roundDigits contextDigits (money x + money (money x * rate)) =
        money x + money (money x * rate) :=
      roundDigits_eq ((hasDecimals_money x).add (hasDecimals_money _)) (add_nonneg ha0 hv0) hsum
        (by omega)
    rw [hexact, moneyIn_eq_some hproduct0 hproduct.le (by omega), Option.bind_some, hexact',
      moneyIn_eq_some (add_nonneg ha0 hv0) hsum.le (by omega), Option.bind_some]

/-- And extracted. -/
theorem splitVatIn_extracted (h : FewDigits s n m d) (h0 : 0 ≤ x) (hx : x ≤ 10 ^ (n + m + 1))
    (hbase : vatRate s / 100 ≠ 0 → money x / (1 + vatRate s / 100) < 10 ^ n) :
    splitVatIn (s.pricesIncludeVat true) x = some (splitVat (s.pricesIncludeVat true) x) := by
  have hdigits := h.digits
  have hrate0 := h.rate_nonneg
  have htotal := moneyIn_eq_some h0 hx (by omega)
  unfold splitVatIn splitVat
  simp only [vatRate_pricesIncludeVat, billingPricesIncludeVat_pricesIncludeVat, h.rate_eq,
    h.base_eq, htotal, Option.bind_eq_bind, Option.bind_some, Option.pure_def, if_true]
  split_ifs with hzero hbasezero
  · rfl
  · -- the division cannot fail
    linarith
  · rw [h.moneyIn_base (hasDecimals_money x) (money_nonneg h0) (hbase hzero), Option.bind_some]
    generalize vatRate s / 100 = rate at hrate0
    have ht0 : 0 ≤ money x := money_nonneg h0
    have ht : money x ≤ 10 ^ (n + m + 1) := money_le_pow hx
    have hsub0 : 0 ≤ money (money x / (1 + rate)) := money_nonneg (div_nonneg ht0 (by linarith))
    have hsub : money (money x / (1 + rate)) ≤ money x := money_base_le hrate0 ht0
    have hpow : (10 : ℚ) ^ (n + m + 1) < 10 ^ (n + m + 2) :=
      pow_lt_pow_right₀ (by norm_num) (by omega)
    have hexact : roundDigits contextDigits (money x - money (money x / (1 + rate))) =
        money x - money (money x / (1 + rate)) :=
      roundDigits_eq (e := n + m + 2) ((hasDecimals_money x).sub (hasDecimals_money _))
        (by linarith) (by linarith)
        (by omega)
    rw [hexact, moneyIn_eq_some (by linarith) (by linarith : _ ≤ (10 : ℚ) ^ (n + m + 1)) (by omega),
      Option.bind_some]

end

/-! ### The law -/

/-- What `split_vat` does to amounts below `10 ^ n`, at one rate. -/
structure SplitsWell (s : Settings) (n : ℕ) : Prop where
  /-- Extracting undoes adding. -/
  inverse : ∀ a, 0 ≤ a → a < 10 ^ n → HasDecimals 2 a → ∃ v t,
    splitVatIn (s.pricesIncludeVat false) a = some ⟨a, v, t⟩ ∧
      splitVatIn (s.pricesIncludeVat true) t = some ⟨a, v, t⟩
  /-- Every amount is split, into whole hundredths that are not negative and close. -/
  sound : ∀ side x, 0 ≤ x → x < 10 ^ n → ∃ split,
    splitVatIn (s.pricesIncludeVat side) x = some split ∧ split.Sound
  mono : ∀ side x y split split', 0 ≤ x → x ≤ y → y < 10 ^ n →
    splitVatIn (s.pricesIncludeVat side) x = some split →
      splitVatIn (s.pricesIncludeVat side) y = some split' →
    split.subtotal ≤ split'.subtotal ∧ split.total ≤ split'.total

theorem le_sub_of_lt_pow {a : ℚ} {n : ℕ} (ha : HasDecimals 2 a) (h : a < 10 ^ n) :
    a ≤ 10 ^ n - 0.01 := by
  obtain ⟨hundredths, rfl⟩ := ha
  have hint : hundredths < 10 ^ n * 100 := by
    have hlt : (hundredths : ℚ) < 10 ^ n * 10 ^ 2 := (div_lt_iff₀ (by norm_num)).1 h
    norm_num at hlt
    exact_mod_cast hlt
  have hle : (hundredths : ℚ) ≤ 10 ^ n * 100 - 1 := by exact_mod_cast Int.le_sub_one_of_lt hint
  rw [div_le_iff₀ (by norm_num)]
  norm_num
  linarith

/-- The total with tax of an amount below `10 ^ n` can be split. -/
theorem FewDigits.total_bounds {s : Settings} {n m d : ℕ} (h : FewDigits s n m d) {a : ℚ}
    (ha : HasDecimals 2 a) (h0 : 0 ≤ a) (hlt : a < 10 ^ n) {t : ℚ}
    (ht : t = a + money (a * (vatRate s / 100))) :
    0 ≤ t ∧ t ≤ 10 ^ (n + m + 1) ∧ t / (1 + vatRate s / 100) < 10 ^ n := by
  have hrate0 := h.rate_nonneg
  have hrate := h.rate_lt
  have hle := le_sub_of_lt_pow ha hlt
  generalize vatRate s / 100 = rate at *
  have hround : |money (a * rate) - a * rate| ≤ 1 / 2 / 10 ^ 2 := abs_quantize_sub_le 2 _
  -- at most half a hundredth is added, and the amount stays a whole one below the power
  obtain ⟨-, hup⟩ := abs_le.1 hround
  have htax0 : 0 ≤ a * rate := mul_nonneg h0 hrate0
  have htax : a * rate ≤ 10 ^ n * 10 ^ m := mul_le_mul hlt.le hrate.le hrate0 (by positivity)
  refine ⟨?_, ?_, ?_⟩
  · rw [ht]
    exact add_nonneg h0 (money_nonneg htax0)
  · have hn : (1 : ℚ) ≤ 10 ^ n := one_le_pow₀ (by norm_num)
    have hnm : (10 : ℚ) ^ n ≤ 10 ^ n * 10 ^ m :=
      le_mul_of_one_le_right (by positivity) (one_le_pow₀ (by norm_num))
    rw [ht, pow_succ, pow_add]
    norm_num at hup
    linarith
  · rw [ht, div_lt_iff₀ (by linarith)]
    norm_num at hup hle
    nlinarith

/-- **Adding tax and extracting it are inverse**, within the digits. -/
theorem splits_well {s : Settings} {n m d : ℕ} (h : FewDigits s n m d) : SplitsWell s n := by
  have hsplit : ∀ side x, 0 ≤ x → x < 10 ^ n →
      splitVatIn (s.pricesIncludeVat side) x = some (splitVat (s.pricesIncludeVat side) x) := by
    intro side x h0 hx
    cases side with
    | false => exact splitVatIn_added h h0 hx.le
    | true =>
      refine splitVatIn_extracted h h0 (hx.le.trans (pow_le_pow_right₀ (by norm_num) (by omega)))
        fun hne => ?_
      have hmoney : money x ≤ 10 ^ n := money_le_pow hx.le
      have hpos : 0 < vatRate s / 100 := lt_of_le_of_ne h.rate_nonneg hne.symm
      have hpow : (0 : ℚ) < 10 ^ n := by positivity
      rw [div_lt_iff₀ (by linarith)]
      nlinarith
  constructor
  case inverse =>
    intro a h0 ha hdecimals
    have hsubtotal : (splitVat (s.pricesIncludeVat false) a).subtotal = a :=
      subtotal_splitVat hdecimals (.inl rfl)
    obtain ⟨ht0, ht, hbase⟩ := h.total_bounds hdecimals h0 ha (total_added hdecimals)
    have htotal : money (splitVat (s.pricesIncludeVat false) a).total =
        (splitVat (s.pricesIncludeVat false) a).total :=
          money_eq_self (hasDecimals_splitVat _ a).2.2
    refine ⟨(splitVat (s.pricesIncludeVat false) a).vat,
      (splitVat (s.pricesIncludeVat false) a).total, ?_, ?_⟩
    · have hparts : ∀ split : VatSplit, split.subtotal = a → split =
        ⟨a, split.vat, split.total⟩ := by
        rintro split rfl
        rfl
      exact (hsplit false a h0 ha).trans (congrArg some (hparts _ hsubtotal))
    · have hbound : money (splitVat (s.pricesIncludeVat false) a).total / (1 + vatRate s / 100) <
        10 ^ n := by
        rw [htotal]
        exact hbase
      rw [splitVatIn_extracted h ht0 ht fun _ => hbound, extracted_of_added h.nonneg hdecimals]
  case sound =>
    exact fun side x h0 hx => ⟨_, hsplit side x h0 hx, splitVat_sound h.nonneg h0⟩
  case mono =>
    intro side x y split split' h0 hxy hy hx hy'
    rw [hsplit side x h0 (hxy.trans_lt hy)] at hx
    rw [hsplit side y (h0.trans hxy) hy] at hy'
    rw [← Option.some.inj hx, ← Option.some.inj hy']
    exact splitVat_mono h.nonneg hxy

/-- Amounts and rates that the columns of an invoice hold, at twelve percent. -/
theorem splits_well_of_columns : SplitsWell { plainSettings with billingVatRate := some 12 } 16 :=
  splits_well (m := 3) (d := 2)
    ⟨by decide +kernel, by decide +kernel, by decide +kernel, by decide +kernel⟩

/-- An amount of eighteen digits at a rate of the eighteenth decimal: what was added is not
extracted. -/
theorem not_inverse_of_many_digits : ¬ ∀ (s : Settings) (a v t : ℚ), 0 ≤ vatRate s → 0 ≤ a →
    HasDecimals 2 a →
    splitVatIn (s.pricesIncludeVat false) a = some ⟨a, v, t⟩ →
      splitVatIn (s.pricesIncludeVat true) t = some ⟨a, v, t⟩ := by
  intro h
  have hout := h { plainSettings with billingVatRate := some (1 / 10 ^ 18) } 500000000000000000 0.01
    500000000000000000.01 (by decide +kernel) (by decide +kernel) (by decide +kernel)
      (by decide +kernel)
  exact absurd hout (by decide +kernel)

end OpenCloud
