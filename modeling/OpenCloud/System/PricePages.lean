import OpenCloud.Billing.PricePages
import OpenCloud.System.LastWritten

/-!
# The price pages and the bill

The pages take any list of the account, the engine the active ones alone; and a page shows floats
where the table has decimals.

## Main results

* `price_pages_of_run` : after any writes, the pages show the list that the account is billed by.
* `saved_unchanged_of_run` : a page that is saved as it is shown changes nobody's bill.
-/

namespace OpenCloud

/-- The page shows the list that the account is billed by, and each price. -/
structure ShowsBilled (c : Casing) (lists : PriceLists) (account : String) (page : PricePage) :
    Prop where
  titled : page.account = account
  name : page.name = (resolveTariff c lists.tariffs account).map Tariff.name
  currency : page.currency =
    ((resolveTariff c lists.tariffs account).map Tariff.currency).getD "UZS"
  rates : page.rates = rateRowsOf fun r => (Dict.get? (billedBy c lists account) r).getD 0
  inherited : page.inherited = true ↔
    account ≠ "" ∧ ∀ t ∈ lists.tariffs, ¬ c.iexact t.account account
  hasDefault : page.hasDefault = true ↔ ∃ t ∈ lists.tariffs, t.account = ""

/-- The prices of a page, as a payload has them: the page's floats are read by `f`. -/
def PricePage.payload (f : Double → ℚ) (page : PricePage) : SubmittedRates :=
  some (page.rates.map fun row => (row.resource, some (.number (f row.pricePerMonth))))

/-- A page that is saved as it is shown. -/
inductive PageSave where
  /-- In the cabinet; the cloud is asked for the account when the page is shown and when it is
  saved. -/
  | admin (shown saved : Cloud) (user : CabinetUser)
  /-- On the panel. -/
  | panel (account : String)

/-- The request that saves the page: the cabinet takes prices as floats, the panel the decimals that
they print. -/
def PageSave.request (c : Casing) (lists : PriceLists) : PageSave → Option PriceWrite
  | .admin shown saved user =>
    match lists.adminTariffGet c shown user with
    | .ok page => some (.adminPut saved user page.currency (page.payload Double.val))
    | .error _ => none
  | .panel account =>
    let page := (lists.tariffGet c account).toPricePage
    some (.panelPut page.account page.currency (page.payload Double.decimal))

/-! ### What is shown -/

section Shown

variable {c : Casing} {lists : PriceLists} {account : String}

theorem iexact_blank_iff (hblank : ∀ a, c.iexact a "" → a = "") {a : String} :
    c.iexact a "" ↔ a = "" :=
  ⟨hblank a, fun h => h ▸ rfl⟩

theorem isNone_ownList : (lists.ownList c account).isNone = true ↔
    ∀ t ∈ lists.tariffs, ¬ c.iexact t.account account := by
  rw [Option.isNone_iff_eq_none, PriceLists.ownList, Table.firstBy_eq_none_iff,
    List.filter_eq_nil_iff]
  simp

theorem isSome_defaultList : lists.defaultList.isSome = true ↔
    ∃ t ∈ lists.tariffs, t.account = "" := by
  rw [Option.isSome_iff_ne_none, PriceLists.defaultList, Ne, Table.firstBy_eq_none_iff,
    List.filter_eq_nil_iff]
  simp

theorem ownList_orElse (hwritten : Written lists) :
    (lists.ownList c account <|> lists.defaultList) = resolveTariff c lists.tariffs account := by
  rw [resolveTariff_of_active hwritten.active, Option.orElse_eq_orElse, Option.orElse_eq_or]
  rfl

theorem resolveTariff_blank (hwritten : Written lists) (hblank : ∀ a, c.iexact a "" → a = "") :
    resolveTariff c lists.tariffs "" = lists.defaultList := by
  rw [resolveTariff_of_active hwritten.active]
  simp only [iexact_blank_iff hblank, Option.or_self]
  rfl

theorem adminPage_showsBilled (hlists : lists.Sound) (hwritten : Written lists)
    (haccount : account ≠ "") :
    ShowsBilled c lists account (lists.adminPage c account) := by
  unfold PriceLists.adminPage
  dsimp only
  rw [ownList_orElse hwritten]
  refine ⟨rfl, rfl, rfl, ?_, ?_, isSome_defaultList⟩
  · rw [adminRateRows_eq hlists.rates, rateRows_eq hlists.rates]
    rfl
  · rw [isNone_ownList]
    exact ⟨fun h => ⟨haccount, h⟩, And.right⟩

theorem tariffGet_showsBilled (hlists : lists.Sound) (hwritten : Written lists)
    (hblank : ∀ a, c.iexact a "" → a = "") (query : String) :
    ShowsBilled c lists (strip query) (lists.tariffGet c query).toPricePage := by
  unfold PriceLists.tariffGet
  dsimp only
  have heffective :
    ((if strip query = "" then none else lists.ownList c (strip query)) <|> lists.defaultList) =
      resolveTariff c lists.tariffs (strip query) := by
    split_ifs with hquery
    · rw [hquery, resolveTariff_blank hwritten hblank]
      rfl
    · exact ownList_orElse hwritten
  rw [heffective]
  refine ⟨rfl, rfl, rfl, ?_, ?_, isSome_defaultList⟩
  · rw [rateRows_eq hlists.rates]
    rfl
  · rw [decide_eq_true_iff]
    refine and_congr_right fun hquery => ?_
    rw [if_neg hquery, isNone_ownList]

theorem adminTariffGet_eq_ok {cloud : Cloud} {user : CabinetUser} {page : PricePage}
    (h : lists.adminTariffGet c cloud user = .ok page) :
    page = lists.adminPage c (strip user.account) ∧ strip user.account ≠ "" := by
  unfold PriceLists.adminTariffGet at h
  rcases haccount : accountDomain c cloud user with err | ⟨account, d⟩
  · rw [haccount] at h
    cases h
  · obtain ⟨hname, hne, -⟩ := accountDomain_eq_ok_iff.1 haccount
    rw [haccount] at h
    obtain rfl := Except.ok.inj h
    exact ⟨hname ▸ rfl, hname ▸ hne⟩

/-- **The price pages show what is billed.**  After every run of writes, the page of an account, in
the cabinet and on the panel, shows the list that the account is billed by and what that list
charges for each resource. -/
theorem price_pages_of_run {ws : List (Bool × PriceWrite)} (hblank : ∀ a, c.iexact a "" → a = "")
    (hrun : (pricing c).Run System.Free .empty ws lists) :
    (∀ query, ShowsBilled c lists (strip query) (lists.tariffGet c query).toPricePage) ∧
      ∀ cloud user page, lists.adminTariffGet c cloud user = .ok page →
        ShowsBilled c lists (strip user.account) page := by
  have hlists := sound_of_run hrun
  have hwritten := written_of_run hrun
  refine ⟨tariffGet_showsBilled hlists hwritten hblank, fun cloud user page hpage => ?_⟩
  obtain ⟨rfl, hne⟩ := adminTariffGet_eq_ok hpage
  exact adminPage_showsBilled hlists hwritten hne

end Shown

theorem ascii_blank : ∀ a, Casing.ascii.iexact a "" → a = "" := by
  intro a h
  have hlist : a.toList.map Char.toUpper = [] := by
    simpa [Casing.iexact, Casing.ascii] using congrArg String.toList h
  exact String.toList_eq_nil_iff.1 (List.map_eq_nil_iff.1 hlist)

/-- The service starts, and an operator writes the list of an account. -/
def firstLists : List (Bool × PriceWrite) :=
  [(false, .ensure), (false, .panelPut "Acme" "UZS" (some [("vcpu", some (.number 1000))]))]

theorem exists_run_firstLists : ∃ lists, (pricing .ascii).Run System.Free .empty firstLists lists ∧
    (lists.tariffs.map Tariff.account = ["", "Acme"] ∧
      ∀ row ∈ lists.rates, row.pricePerMonth.units.natAbs ≤ 500000000) := by
  have hexec : (System.execAll (fun lists (w : Bool × PriceWrite) =>
      some (writePriceLists .ascii lists w.1 w.2).2) System.Free [] PriceLists.empty firstLists).map
        (fun lists => (lists.tariffs.map Tariff.account,
          decide (∀ row ∈ lists.rates, row.pricePerMonth.units.natAbs ≤ 500000000))) =
            some (["", "Acme"], true) := by
    decide +kernel
  obtain ⟨lists, hlists, hpair⟩ := Option.map_eq_some_iff.1 hexec
  obtain ⟨htariffs, hrates⟩ := Prod.mk.inj hpair
  exact ⟨lists, System.Run.of_exec hlists, htariffs, of_decide_eq_true hrates⟩

theorem price_pages_of_run_firstLists :
    ∃ lists, (pricing .ascii).Run System.Free .empty firstLists lists ∧
    ShowsBilled .ascii lists "Acme" (lists.tariffGet .ascii " Acme").toPricePage := by
  obtain ⟨lists, hrun, -⟩ := exists_run_firstLists
  exact ⟨lists, hrun, (price_pages_of_run ascii_blank hrun).1 " Acme"⟩

/-! ### What is saved -/

section Saved

variable {c : Casing} {lists : PriceLists} {account : String} {x : ListWrite}

theorem resolveTariff_of_standBefore (hwritten : Written lists) {t : Tariff}
    (h : Table.firstBy Tariff.le (standBefore c lists account) = some t) :
    resolveTariff c lists.tariffs account = some t := by
  have hbefore :
    (lists.tariffs.filter fun t => c.iexact t.account account).filter
      (fun t => t.account < account) =
      standBefore c lists account := Table.filter_and
  have hmem := Table.mem_of_firstBy h
  rw [← hbefore, Table.firstBy_filter_of_lower] at h
  · rw [resolveTariff_of_active hwritten.active, h, Option.some_or]
  · intro a b hb hab
    exact decide_eq_true (lt_of_le_of_lt (account_le_of_le hab) (of_decide_eq_true hb))
  · rw [← hbefore] at hmem
    obtain ⟨ht, hlt⟩ := List.mem_filter.1 hmem
    exact ⟨t, ht, hlt⟩

theorem resolveTariff_of_no_list (hwritten : Written lists) (hblank : ∀ a, c.iexact a "" → a = "")
    (hnone : (lists.tariffs.filter fun t => c.iexact t.account account) = []) :
    resolveTariff c lists.tariffs account = resolveTariff c lists.tariffs "" := by
  rw [resolveTariff_blank hwritten hblank, resolveTariff_of_active hwritten.active, hnone]
  rfl

theorem billedBy_of_iexact (lists : PriceLists) (h : c.iexact x.account account) :
    billedBy c lists account = billedBy c lists x.account := by
  have hlists : (lists.tariffs.filter fun t => t.isActive = true ∧ c.iexact t.account account) =
      lists.tariffs.filter fun t => t.isActive = true ∧ c.iexact t.account x.account := by
    refine List.filter_congr fun t _ => ?_
    rw [decide_eq_decide]
    exact and_congr_right fun _ => ⟨fun ht => Eq.trans ht (Eq.symm h), fun ht => Eq.trans ht h⟩
  rw [billedBy, billedBy, resolveTariff, resolveTariff, hlists]

/-- To write the rates that an account is billed by changes nobody's bill. -/
theorem billedBy_write (hlists : lists.Sound) (hwritten : Written lists)
    (hblank : ∀ a, c.iexact a "" → a = "") (hstored : ∀ e ∈ x.prices, e.2.store ≠ none)
    (hsame : ∀ r, charged (lastPrice x.prices r) = Dict.get? (billedBy c lists x.account) r)
    (r : Resource) :
    Dict.get? (billedBy c (lists.write false x.account x.name x.currency x.prices false).2 account)
      r =
      Dict.get? (billedBy c lists account) r := by
  by_cases hrefused : HeaderRefused lists x.account x.name x.currency
  · rw [(write_of_headerRefused hrefused).2]
  obtain ⟨headed, pk, hupdate, hheaded, hwrite⟩ := write_of_not_headerRefused hlists.keys hrefused
  have hwritten' : Written headed := hwritten.updateTariff hupdate
  rw [hwrite]
  dsimp only
  rw [if_pos hstored]
  show Dict.get? (billedBy c (x.leaves lists headed pk) account) r = _
  have hown : Dict.get? (billedBy c (x.leaves lists headed pk) x.account) r =
      Dict.get? (billedBy c lists x.account) r := by
    rw [← hsame]
    refine (billed_own_iff hlists hwritten'.active hheaded hstored).2 (fun t ht r => ?_) r
    rw [hsame, billedBy, resolveTariff_of_standBefore hwritten ht]
  by_cases haccount : c.iexact x.account account
  · rw [billedBy_of_iexact _ haccount, billedBy_of_iexact _ haccount, hown]
  · by_cases hdefault : x.account = "" → ∃ t ∈ lists.tariffs, c.iexact t.account account
    · rw [billed_others hwritten.active hwritten'.active hheaded haccount hdefault]
    · -- the default is written, and the account has no list before and after
      obtain ⟨hx, hnone⟩ := Classical.not_imp.1 hdefault
      have hbefore : (lists.tariffs.filter fun t => c.iexact t.account account) = [] :=
        List.filter_eq_nil_iff.2 fun t ht hiexact => hnone ⟨t, ht, of_decide_eq_true hiexact⟩
      have hafter : (headed.tariffs.filter fun t => c.iexact t.account account) = [] := by
        rw [hheaded.others _ fun t ht => decide_eq_false (ht ▸ haccount), hbefore]
      rw [hx, billedBy, billedBy] at hown
      rw [billedBy, billedBy, resolveTariff_of_no_list hwritten hblank hbefore, ← hown]
      show Dict.get? (rateMap _ (resolveTariff c headed.tariffs account)) r = _
      rw [resolveTariff_of_no_list hwritten' hblank hafter]
      rfl

end Saved

/-! ### A page saved as it is shown -/

theorem ofValue_value (r : Resource) : Resource.ofValue r.value = some r :=
  ofValue_eq_some_iff.2 rfl

theorem foldlM_eq_ok {step : Dict Resource Price → String × Option Price →
    Except PriceOutcome (Dict Resource Price)}
    (hstep : ∀ d r price d', step d (r.value, some price) = .ok d' → d' = d.set r price)
    {f : Resource → Price}
    {rs : List Resource} {d prices : Dict Resource Price}
    (h : (rs.map fun r => (r.value, some (f r))).foldlM step d = .ok prices) :
    prices = rs.foldl (fun d r => d.set r (f r)) d := by
  induction rs generalizing d with
  | nil => exact (Except.ok.inj h).symm
  | cons r rs ih =>
    rw [List.map_cons, List.foldlM_cons] at h
    obtain ⟨d', hd', hrest⟩ := exists_of_bind_eq_ok h
    rw [List.foldl_cons, ← hstep d r (f r) d' hd']
    exact ih hrest

theorem checkedPrices_all {comparesNan : Bool} {f : Resource → Price} {prices : Dict Resource Price}
    (h : checkedPrices comparesNan (some (Resource.all.map fun r => (r.value, some (f r)))) =
      .ok prices) :
    prices = Resource.all.map fun r => (r, f r) := by
  unfold checkedPrices at h
  dsimp only at h
  rw [if_neg (by simp [ofValue_value])] at h
  refine foldlM_eq_ok (fun d r price d' hstep => ?_) h
  simp only [ofValue_value] at hstep
  split_ifs at hstep
  exact (Except.ok.inj hstep).symm

theorem lastPrice_all (f : Resource → Price) (r : Resource) :
    lastPrice (Resource.all.map fun r => (r, f r)) r = (f r).store := by cases r <;> rfl

theorem store_val_shown {n : Numeric 18 4} (h : |n.val| < 10 ^ 11) :
    (Price.number (Double.ofRat n.val).val).store = some n := by
  have hnear : |(Double.ofRat n.val).val * 10 ^ 4 - n.units| < 1 / 2 := by
    have hunits : (n.units : ℚ) = n.val * 10 ^ 4 := by
      rw [Numeric.val, div_mul_cancel₀ _ (by norm_num)]
    have hclose := abs_rnd_sub_le n.val
    rw [hunits, ← sub_mul, abs_mul, abs_of_pos (by norm_num : (0 : ℚ) < 10 ^ 4)]
    have hrnd : |(Double.ofRat n.val).val - n.val| ≤ |n.val| / 2 ^ 53 := hclose
    have hsmall : |n.val| / 2 ^ 53 < 10 ^ 11 / 2 ^ 53 := by gcongr
    have hbound : (10 : ℚ) ^ 11 / 2 ^ 53 * 10 ^ 4 < 1 / 2 := by norm_num
    linarith
  have hunits : roundHalfUp ((Double.ofRat n.val).val * 10 ^ 4) = n.units :=
    roundHalfUp_eq_of_abs_sub_lt hnear
  have hfits := n.fits
  rw [← hunits] at hfits
  rw [Price.store, Numeric.store, dif_pos hfits]
  simp only [hunits]

theorem store_decimal_shown {n : Numeric 18 4} (h : |n.val| < 10 ^ 11) :
    (Price.number (Double.ofRat n.val).decimal).store = some n := by
  have hdigits : Double.DigitsUpTo (10 ^ 15) n.val := by
    refine ⟨n.units, -4, ?_, by rw [Numeric.val, zpow_neg, div_eq_mul_inv]; norm_num⟩
    have hval : |n.val| * 10 ^ 4 < 10 ^ 15 := by linarith
    rw [Numeric.val, abs_div, abs_of_pos (by norm_num : (0 : ℚ) < 10 ^ 4),
      div_mul_cancel₀ _ (by norm_num)] at hval
    exact_mod_cast hval.le
  have hunits : roundHalfUp (n.val * 10 ^ 4) = n.units := by
    rw [Numeric.val, div_mul_cancel₀ _ (by norm_num), roundHalfUp_intCast]
  have hfits := n.fits
  rw [← hunits] at hfits
  rw [Double.decimal_ofRat hdigits, Price.store, Numeric.store, dif_pos hfits]
  simp only [hunits]

section Unchanged

variable {c : Casing} {lists : PriceLists} {account : String}

theorem exists_price (hlists : lists.Sound)
    (hsmall : ∀ row ∈ lists.rates, |row.pricePerMonth.val| < 10 ^ 11) (account : String)
    (r : Resource) : ∃ n : Numeric 18 4, |n.val| < 10 ^ 11 ∧
      (Dict.get? (billedBy c lists account) r).getD 0 = n.val ∧
      charged (some n) = Dict.get? (billedBy c lists account) r := by
  have hnothing : ∃ n : Numeric 18 4, |n.val| < 10 ^ 11 ∧
    (none : Option ℚ).getD 0 = n.val ∧ charged (some n) = none :=
    ⟨⟨0, by decide⟩, by
      simp [Numeric.val], by simp [Numeric.val], by simp [charged, Numeric.val, Option.filter]⟩
  unfold billedBy
  cases resolveTariff c lists.tariffs account with
  | none => exact hnothing
  | some t =>
    rw [get?_rateMap hlists.rates]
    unfold priceOf
    cases hfind : lists.rates.find? fun row => row.tariff = t.pk ∧ row.resource = r with
    | none => exact hnothing
    | some row =>
      exact ⟨row.pricePerMonth, hsmall row (List.mem_of_find?_eq_some hfind), getD_charged _, rfl⟩

/-- To send back what a page shows writes the rates that the account is billed by. -/
theorem prices_of_page (hlists : lists.Sound)
    (hsmall : ∀ row ∈ lists.rates, |row.pricePerMonth.val| < 10 ^ 11)
    {page : PricePage} (hpage : ShowsBilled c lists account page) {f : Double → ℚ}
    (hf : ∀ n : Numeric 18 4, |n.val| < 10 ^ 11 →
      (Price.number (f (Double.ofRat n.val))).store = some n)
    {comparesNan : Bool} {prices : Dict Resource Price}
    (h : checkedPrices comparesNan (page.payload f) = .ok prices) :
    (∀ e ∈ prices, e.2.store ≠ none) ∧
      ∀ r, charged (lastPrice prices r) = Dict.get? (billedBy c lists account) r := by
  have hpayload : page.payload f = some (Resource.all.map fun r => (r.value,
      some (.number (f (Double.ofRat ((Dict.get? (billedBy c lists account) r).getD 0)))))) := by
    rw [PricePage.payload, hpage.rates, rateRowsOf, List.map_map]
    rfl
  rw [hpayload] at h
  obtain rfl :=
    checkedPrices_all (f := fun r =>
      .number (f (Double.ofRat ((Dict.get? (billedBy c lists account) r).getD 0)))) h
  constructor
  · intro e he
    obtain ⟨r, -, rfl⟩ := List.mem_map.1 he
    obtain ⟨n, hn, hval, -⟩ := exists_price (c := c) hlists hsmall account r
    dsimp only
    rw [hval, hf n hn]
    exact Option.some_ne_none n
  · intro r
    obtain ⟨n, hn, hval, hcharged⟩ := exists_price (c := c) hlists hsmall account r
    rw [lastPrice_all, hval, hf n hn, hcharged]

/-- **Saving a page as it is shown changes nobody's bill**, whether the save is taken or refused:
after every run of writes whose prices are below a hundred milliards, every account is billed by the
same rates as before. -/
theorem saved_unchanged_of_run {ws : List (Bool × PriceWrite)}
    (hblank : ∀ a, c.iexact a "" → a = "") (hrun : (pricing c).Run System.Free .empty ws lists)
    (hsmall : ∀ row ∈ lists.rates, |row.pricePerMonth.val| < 10 ^ 11) {save : PageSave}
    {w : PriceWrite} (hw : save.request c lists = some w) (account : String) (r : Resource) :
    Dict.get? (billedBy c (writePriceLists c lists false w).2 account) r =
      Dict.get? (billedBy c lists account) r := by
  have hlists := sound_of_run hrun
  have hwritten := written_of_run hrun
  cases save with
  | admin shown saved user =>
    rw [PageSave.request] at hw
    split at hw
    · rename_i page hpage
      obtain rfl := Option.some.inj hw
      obtain ⟨rfl, hne⟩ := adminTariffGet_eq_ok hpage
      have hshows := adminPage_showsBilled (c := c) hlists hwritten hne
      rw [writePriceLists]
      rcases haccount : accountDomain c saved user with err | ⟨account', d⟩
      · rfl
      · obtain ⟨rfl, -⟩ := accountDomain_eq_ok_iff.1 haccount
        rcases hprices : adminPrices _ with outcome | prices
        · rfl
        · obtain ⟨hstored, hsame⟩ :=
            prices_of_page hlists hsmall hshows (fun n hn => store_val_shown hn) hprices
          exact billedBy_write (x := ⟨_, _, _, prices⟩) hlists hwritten hblank hstored hsame r
    · cases hw
  | panel query =>
    rw [PageSave.request] at hw
    obtain rfl := Option.some.inj hw
    have hshows := tariffGet_showsBilled (c := c) hlists hwritten hblank query
    rw [writePriceLists]
    rcases hprices : validatedPrices _ with outcome | prices
    · rfl
    · obtain ⟨hstored, hsame⟩ :=
        prices_of_page hlists hsmall hshows (fun n hn => store_decimal_shown hn) hprices
      rw [hshows.titled, strip_strip]
      exact billedBy_write (x := ⟨_, _, _, prices⟩) hlists hwritten hblank hstored hsame r

end Unchanged

theorem saved_unchanged_of_run_firstLists :
    ∃ lists w, PageSave.request .ascii lists (.panel "Acme") = some w ∧
    ∀ account r, Dict.get? (billedBy .ascii (writePriceLists .ascii lists false w).2 account) r =
      Dict.get? (billedBy .ascii lists account) r := by
  obtain ⟨lists, hrun, -, hrates⟩ := exists_run_firstLists
  refine ⟨lists, _, rfl, fun account r =>
    @saved_unchanged_of_run .ascii lists firstLists ascii_blank hrun (fun row hrow => ?_)
      (.panel "Acme") _ rfl account r⟩
  have hunits : |(row.pricePerMonth.units : ℚ)| ≤ 500000000 := by
    have hnat := hrates row hrow
    rw [← Int.cast_abs, Int.abs_eq_natAbs]
    exact_mod_cast hnat
  rw [Numeric.val, abs_div, abs_of_pos (by norm_num : (0 : ℚ) < 10 ^ 4), div_lt_iff₀ (by norm_num)]
  linarith

/-! ### What a write answers -/

section Answers

variable {c : Casing} {lists lists' : PriceLists} {account : String}

/-- The rows that show the prices of a write, and zero for what it leaves out. -/
def ListWrite.rows (x : ListWrite) : List RateRow :=
  rateRowsOf fun r => ((lastPrice x.prices r).map Numeric.val).getD 0

theorem answered_eq_ok {α : Type} {page : PriceLists → α} {written : PriceOutcome × PriceLists}
    {answer : α} (h : PriceLists.answered page written = (.ok answer, lists')) :
    written = (.saved, lists') ∧ answer = page lists' := by
  obtain ⟨outcome, after⟩ := written
  cases outcome with
  | saved =>
    obtain ⟨hanswer, rfl⟩ := Prod.mk.inj h
    exact ⟨rfl, (Except.ok.inj hanswer).symm⟩
  | refused err => cases (Prod.mk.inj h).1
  | several => cases (Prod.mk.inj h).1
  | invalidOperation => cases (Prod.mk.inj h).1

/-- After a write that is saved and in sight, a page of the account has the rows of the write, and a
page of another account, the default aside, has the rows it had. -/
theorem rows_of_saved (hlists : lists.Sound) (hwritten : Written lists) {w : PriceWrite}
    {x : ListWrite} (hsaved : writePriceLists c lists false w = (.saved, lists'))
    (htarget : w.target c = some x) (hsight : Unshadowed c lists x) {page page' : PricePage}
    (hpage : ShowsBilled c lists account page) (hpage' : ShowsBilled c lists' account page') :
    (c.iexact x.account account → page'.rates = x.rows) ∧
      (¬ c.iexact x.account account →
        (x.account = "" → ∃ t ∈ lists.tariffs, c.iexact t.account account) →
        page'.rates = page.rates) := by
  have hbilled : BilledBy c lists lists' x := by
    have := (billedAsWritten_iff hlists hwritten w).2 fun x' htarget' _ _ =>
      Option.some.inj (htarget.symm.trans htarget') ▸ hsight
    have := this x htarget
    rw [hsaved] at this
    exact (this rfl).2
  rw [hpage.rates, hpage'.rates]
  constructor
  · intro haccount
    rw [billedBy_of_iexact lists' haccount, ListWrite.rows]
    simp only [hbilled.1, getD_charged]
  · intro hother hdefault
    rw [hbilled.2 account hother hdefault]

/-- **What a price list's write answers.**  In every reachable state, the page that answers a saved
write in sight has the rows that were written: in the cabinet always, and on the panel if the
account of the address is the one of the body. If it is another, the default aside, the answer has
the rows of the page before. -/
theorem put_answers_of_run {ws : List (Bool × PriceWrite)} (hblank : ∀ a, c.iexact a "" → a = "")
    (hrun : (pricing c).Run System.Free .empty ws lists) :
    (∀ cloud user currency rates lists' page x, lists.adminTariffPut c cloud user currency rates =
      (.ok (.ok page), lists') →
        PriceWrite.target c (.adminPut cloud user currency rates) = some x → Unshadowed c lists x →
        page.rates = x.rows) ∧
      ∀ query account currency rates lists' page x, lists.tariffPut c query account currency rates =
        (.ok page, lists') →
        PriceWrite.target c (.panelPut account currency rates) = some x → Unshadowed c lists x →
        (c.iexact x.account (strip query) → page.rates = x.rows) ∧
        (¬ c.iexact x.account (strip query) →
          (x.account = "" → ∃ t ∈ lists.tariffs, c.iexact t.account (strip query)) →
          page.rates = (lists.tariffGet c query).rates) := by
  have hlists := sound_of_run hrun
  have hwritten := written_of_run hrun
  have hafter : ∀ w lists', writePriceLists c lists false w = (.saved, lists') →
    lists'.Sound ∧ Written lists' := by
    intro w lists' hw
    have hrun' := hrun.snoc (e := (false, w)) trivial (congrArg some (congrArg Prod.snd hw))
    exact ⟨sound_of_run hrun', written_of_run hrun'⟩
  constructor
  · intro cloud user currency rates lists' page x hput htarget hsight
    obtain ⟨hsaved, hpage⟩ := answered_eq_ok hput
    obtain ⟨hlists', hwritten'⟩ := hafter _ _ hsaved
    obtain ⟨rfl, hne⟩ := adminTariffGet_eq_ok hpage.symm
    have hx : x.account = strip user.account := by
      rw [PriceWrite.target] at htarget
      split at htarget
      · rename_i haccount _
        obtain rfl := Option.some.inj htarget
        exact (accountDomain_eq_ok_iff.1 haccount).1
      · cases htarget
    have hrows := rows_of_saved hlists hwritten hsaved htarget hsight
      (adminPage_showsBilled (c := c) hlists hwritten hne)
        (adminPage_showsBilled (c := c) hlists' hwritten' hne)
    refine hrows.1 ?_
    rw [hx]
    exact Eq.refl _
  · intro query account currency rates lists' page x hput htarget hsight
    obtain ⟨hsaved, rfl⟩ := answered_eq_ok hput
    obtain ⟨hlists', hwritten'⟩ := hafter _ _ hsaved
    exact rows_of_saved hlists hwritten hsaved htarget hsight
      (tariffGet_showsBilled (c := c) hlists hwritten hblank query)
      (tariffGet_showsBilled (c := c) hlists' hwritten' hblank query)

end Answers

theorem put_answers_of_run_empty : ∃ page lists' x,
    PriceLists.empty.tariffPut .ascii "acme" "Acme" "UZS" (some [("vcpu", some (.number 1000))]) =
      (.ok page, lists') ∧
      page.rates = ListWrite.rows x := by
  have hsaved : (writePriceLists .ascii .empty false
      (.panelPut "Acme" "UZS" (some [("vcpu", some (.number 1000))]))).1 = .saved := by
        decide +kernel
  have hput : ∃ page lists', PriceLists.empty.tariffPut .ascii "acme" "Acme" "UZS"
      (some [("vcpu", some (.number 1000))]) = (.ok page, lists') := by
    unfold PriceLists.tariffPut PriceLists.answered
    split
    · exact ⟨_, _, rfl⟩
    · rename_i hne heq
      rw [heq] at hsaved
      exact absurd hsaved hne
  obtain ⟨page, lists', hput⟩ := hput
  obtain ⟨x, htarget⟩ : ∃ x, PriceWrite.target .ascii
      (.panelPut "Acme" "UZS" (some [("vcpu", some (.number 1000))])) = some x := ⟨_, rfl⟩
  have haccount : x.account = "Acme" := by
    obtain rfl := Option.some.inj htarget
    decide +kernel
  refine ⟨page, lists', x, hput,
    ((put_answers_of_run ascii_blank System.Run.nil).2 _ _ _ _ _ page x hput htarget ?_).1 ?_⟩
  · intro t ht
    cases ht
  · rw [haccount]
    decide +kernel

end OpenCloud
