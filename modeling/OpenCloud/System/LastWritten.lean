import OpenCloud.Billing.Quotes
import OpenCloud.System.Resolvers

/-!
# The list last written

A write puts a list under the exact name of the account; the engine bills an account by the first
list, in the order of the table, whose account is the name ignoring case.  So the list just written
is the one the account is billed by unless a list of another spelling stands before it.

## Main results

* `billed_others` : a write changes the rates of no other account, the default aside.
* `billed_own_iff` : the account is billed by what was written exactly if no other spelling shadows
  it.
* `billed_as_written_iff` : the same, over runs.
-/

namespace OpenCloud

/-- The rates an account is billed by. -/
def billedBy (c : Casing) (lists : PriceLists) (account : String) : RateMap :=
  rateMap lists.rates (resolveTariff c lists.tariffs account)

/-- The lists of other spellings that stand before the account's own in the order of the table. -/
def standBefore (c : Casing) (lists : PriceLists) (account : String) : List Tariff :=
  lists.tariffs.filter fun t => c.iexact t.account account ∧ t.account < account

/-- The first list of another spelling before the account's own, if there is one, charges what is
written. -/
def Unshadowed (c : Casing) (lists : PriceLists) (x : ListWrite) : Prop :=
  ∀ t, Table.firstBy Tariff.le (standBefore c lists x.account) = some t →
    ∀ r, Dict.get? (rateMap lists.rates (some t)) r = charged (lastPrice x.prices r)

/-- The account is billed by the prices written, as stored and without the zero ones, and no other
account is billed by other rates than before, unless the default was written and the account has no
list. -/
def BilledBy (c : Casing) (lists lists' : PriceLists) (x : ListWrite) : Prop :=
  (∀ r, Dict.get? (billedBy c lists' x.account) r = charged (lastPrice x.prices r)) ∧
  ∀ account, ¬ c.iexact x.account account →
    (x.account = "" → ∃ t ∈ lists.tariffs, c.iexact t.account account) →
    billedBy c lists' account = billedBy c lists account

/-- A write that is saved has the prices of the request, and is billed by. -/
def BilledAsWritten (c : Casing) (lists : PriceLists) (w : PriceWrite) : Prop :=
  ∀ x, w.target c = some x → (writePriceLists c lists false w).1 = .saved →
    w.Gives x ∧ BilledBy c lists (writePriceLists c lists false w).2 x

/-- A write that is not refused is not shadowed. -/
def WrittenInSight (c : Casing) (lists : PriceLists) (w : PriceWrite) : Prop :=
  ∀ x, w.target c = some x → ¬ HeaderRefused lists x.account x.name x.currency →
    (∀ e ∈ x.prices, e.2.store ≠ none) → Unshadowed c lists x

/-! ### The tables over runs -/

section Sound

variable {c : Casing} {lists lists' : PriceLists} {crossing keepOthers : Bool}
  {account name currency : String} {pk : ℕ} {prices : List (Resource × Price)}

theorem rates_updateTariff {out : PriceLists × ℕ}
    (h : lists.updateTariff crossing account name currency = some out) :
    out.1.rates = lists.rates := by
  unfold PriceLists.updateTariff at h
  split at h
  · cases h
    rfl
  · cases h
    rfl
  · cases h
    rfl
  · cases h

theorem oneRateEach_updateRates (h : OneRateEach lists.rates) :
    OneRateEach (lists.updateRates pk prices).1.rates := by
  rw [updateRates_eq]
  exact oneRateEach_foldl h _

theorem oneRateEach_write (h : OneRateEach lists.rates) :
    OneRateEach (lists.write crossing account name currency prices keepOthers).2.rates := by
  unfold PriceLists.write
  by_cases hfits : 255 < account.length ∨ 120 < name.length ∨ 8 < currency.length
  · rwa [if_pos hfits]
  · rw [if_neg hfits]
    split
    · exact h
    · rename_i updated pk hupdate
      have hrates : OneRateEach (updated.updateRates pk prices).1.rates :=
        oneRateEach_updateRates (by rwa [rates_updateTariff hupdate])
      split
      · rename_i hout
        rwa [hout] at hrates
      · rename_i hout
        rw [hout] at hrates
        cases keepOthers with
        | true => exact hrates
        | false => exact List.Pairwise.filter _ hrates

theorem oneRateEach_step {w : Bool × PriceWrite} (h : OneRateEach lists.rates)
    (hstep : (pricing c).step lists w lists') : OneRateEach lists'.rates := by
  obtain rfl : (writePriceLists c lists w.1 w.2).2 = lists' := Option.some.inj hstep
  rcases writePriceLists_cases c lists w.1 w.2 with hsame | ⟨_, _, _, _, _, hwrite⟩ | hfirst
  · rwa [hsame]
  · rw [hwrite]
    exact oneRateEach_write h
  · rw [hfirst]
    exact oneRateEach_updateRates h

theorem sound_of_run {C : List (Bool × PriceWrite) → PriceLists → Bool × PriceWrite → Prop}
    {ws : List (Bool × PriceWrite)} (hrun : (pricing c).Run C .empty ws lists) : lists.Sound := by
  refine ⟨(written_of_run (hrun.mono fun _ _ _ _ => trivial)).keys, ?_⟩
  exact hrun.keeps (I := fun lists : PriceLists => OneRateEach lists.rates) List.Pairwise.nil
    fun _ _ _ hs hstep => oneRateEach_step hs hstep

end Sound

/-! ### One write -/

section Write

variable {c : Casing} {lists headed : PriceLists} {pk : ℕ} {x : ListWrite}

theorem rateMap_congr {rates rates' : List TariffRate} {t : Tariff}
    (h : (rates'.filter fun r => r.tariff = t.pk) = rates.filter fun r => r.tariff = t.pk) :
    rateMap rates' (some t) = rateMap rates (some t) := by
  unfold rateMap Tariff.rates
  dsimp only
  rw [h]

/-- What a saved write leaves. -/
def ListWrite.leaves (x : ListWrite) (lists headed : PriceLists) (pk : ℕ) : PriceLists :=
  PriceLists.clearOthers
    { headed with rates := (storedPrices x.prices).foldl (putRate pk) lists.rates } pk x.prices

theorem rateMap_leaves {t : Tariff} (ht : t.pk ≠ pk) :
    rateMap (x.leaves lists headed pk).rates (some t) = rateMap lists.rates (some t) := by
  refine rateMap_congr ?_
  have hq : ∀ row : TariffRate, row.tariff = pk → decide (row.tariff = t.pk) = false :=
    fun row hrow =>
    decide_eq_false fun h => ht (h.symm.trans hrow)
  rw [ListWrite.leaves, PriceLists.clearOthers, List.filter_filter,
    ← filter_foldl hq (storedPrices x.prices)]
  refine List.filter_congr fun row _ => ?_
  by_cases hrow : row.tariff = t.pk
  · simp [hrow, ht]
  · simp [hrow]

/-- A saved write leaves its list with the prices written. -/
theorem priceOf_leaves (hstored : ∀ e ∈ x.prices, e.2.store ≠ none) (r : Resource) :
    priceOf (x.leaves lists headed pk).rates pk r = lastPrice x.prices r := by
  rw [← getLast?_storedPrices hstored]
  have hfold := @priceOf_foldl lists.rates pk pk r (storedPrices x.prices)
  rw [if_pos rfl] at hfold
  rw [ListWrite.leaves, PriceLists.clearOthers, priceOf, List.find?_filter]
  by_cases hr : r ∈ x.prices.map Prod.fst
  · -- the price is not cleared, and it was put
    have hput : ((storedPrices x.prices).filter fun e => e.1 = r).getLast?.map Prod.snd ≠ none := by
      rw [getLast?_storedPrices hstored, lastPrice]
      obtain ⟨e, he, rfl⟩ := List.mem_map.1 hr
      cases hlast : (x.prices.filter fun e' => e'.1 = e.1).getLast? with
      | none =>
        rw [List.getLast?_eq_none_iff, List.filter_eq_nil_iff] at hlast
        exact absurd (hlast e he) (by simp)
      | some e' => exact hstored e' (List.mem_filter.1 (List.mem_of_getLast? hlast)).1
    obtain ⟨price, hprice⟩ := Option.ne_none_iff_exists'.1 hput
    rw [hprice, Option.some_or, priceOf] at hfold
    rw [hprice, ← hfold]
    congr 2
    funext row
    by_cases hrow : row.tariff = pk ∧ row.resource = r
    · simp [hrow.1, hrow.2, hr]
    · simp [hrow]
  · have hnone : ((storedPrices x.prices).filter fun e => e.1 = r) = [] := by
      refine List.filter_eq_nil_iff.2 fun e he hre => hr ?_
      have hmem := keys_storedPrices.subset (List.mem_map_of_mem (f := Prod.fst) he)
      rwa [of_decide_eq_true hre] at hmem
    rw [hnone, List.find?_eq_none.2]
    · rfl
    · intro row _ hrow
      simp only [decide_eq_true_eq] at hrow
      obtain ⟨h, hpk, rfl⟩ := hrow
      exact h.elim (fun h => h hpk) hr

theorem resolveTariff_of_active {tariffs : List Tariff} (hactive : ∀ t ∈ tariffs, t.isActive = true)
    (account : String) : resolveTariff c tariffs account =
      (Table.firstBy Tariff.le (tariffs.filter fun t => c.iexact t.account account)).or
        (Table.firstBy Tariff.le (tariffs.filter fun t => t.account = "")) := by
  have hfilter : ∀ p : Tariff → Prop, ∀ _ : DecidablePred p,
      (tariffs.filter fun t => t.isActive = true ∧ p t) = tariffs.filter fun t => p t := by
    intro p _
    exact List.filter_congr fun t ht => by simp [hactive t ht]
  unfold resolveTariff
  dsimp only
  rw [hfilter (fun t => c.iexact t.account account), hfilter (fun t => t.account = ""),
    Option.orElse_eq_orElse, Option.orElse_eq_or]

/-- The default aside, another account is billed by the list it was billed by. -/
theorem resolveTariff_headed (hactive : ∀ t ∈ lists.tariffs, t.isActive = true)
    (hactive' : ∀ t ∈ headed.tariffs, t.isActive = true)
    (hheaded : Headed lists headed pk x.account x.name x.currency) {account : String}
    (hother : ¬ c.iexact x.account account)
    (hdefault : x.account = "" → ∃ t ∈ lists.tariffs, c.iexact t.account account) :
    resolveTariff c headed.tariffs account = resolveTariff c lists.tariffs account := by
  have hown : (headed.tariffs.filter fun t => c.iexact t.account account) =
      lists.tariffs.filter fun t => c.iexact t.account account :=
    hheaded.others _ fun t ht => decide_eq_false (ht ▸ hother)
  rw [resolveTariff_of_active hactive, resolveTariff_of_active hactive', hown]
  by_cases haccount : x.account = ""
  · -- the account's own list answers before the default
    obtain ⟨t, ht, hiexact⟩ := hdefault haccount
    cases hfirst :
      Table.firstBy Tariff.le (lists.tariffs.filter fun t => c.iexact t.account account) with
    | none =>
      rw [Table.firstBy_eq_none_iff, List.filter_eq_nil_iff] at hfirst
      exact absurd (hfirst t ht) (by simpa using hiexact)
    | some t' => rfl
  · rw [hheaded.others (fun t => t.account = "") fun t ht => decide_eq_false (ht ▸ haccount)]

theorem rateMap_resolved (hheaded : Headed lists headed pk x.account x.name x.currency) {t : Tariff}
    (ht : t ∈ lists.tariffs) (haccount : t.account ≠ x.account) :
    rateMap (x.leaves lists headed pk).rates (some t) = rateMap lists.rates (some t) :=
  rateMap_leaves (hheaded.fresh t ht haccount)

/-- A saved write changes the rates of no other account, the default aside. -/
theorem billed_others (hactive : ∀ t ∈ lists.tariffs, t.isActive = true)
    (hactive' : ∀ t ∈ headed.tariffs, t.isActive = true)
    (hheaded : Headed lists headed pk x.account x.name x.currency) {account : String}
    (hother : ¬ c.iexact x.account account)
    (hdefault : x.account = "" → ∃ t ∈ lists.tariffs, c.iexact t.account account) :
    billedBy c (x.leaves lists headed pk) account = billedBy c lists account := by
  have hresolve := resolveTariff_headed hactive hactive' hheaded hother hdefault
  unfold billedBy
  rw [show (x.leaves lists headed pk).tariffs = headed.tariffs from rfl, hresolve]
  cases hres : resolveTariff c lists.tariffs account with
  | none => rfl
  | some t =>
    rw [resolveTariff_of_active hactive] at hres
    refine rateMap_resolved hheaded ?_ ?_
    · rcases Option.or_eq_some_iff.1 hres with h | ⟨-, h⟩
      · exact (List.mem_filter.1 (Table.mem_of_firstBy h)).1
      · exact (List.mem_filter.1 (Table.mem_of_firstBy h)).1
    · rintro haccount
      rcases Option.or_eq_some_iff.1 hres with h | ⟨hnone, h⟩
      · have hiexact : c.iexact t.account account := by
          simpa using (List.mem_filter.1 (Table.mem_of_firstBy h)).2
        exact hother (haccount ▸ hiexact)
      · -- the default answers only where no list of the account does
        have hblank : t.account = "" := by
          simpa using (List.mem_filter.1 (Table.mem_of_firstBy h)).2
        obtain ⟨t', ht', hiexact⟩ := hdefault (haccount.symm.trans hblank)
        rw [Table.firstBy_eq_none_iff, List.filter_eq_nil_iff] at hnone
        exact hnone t' ht' (by simpa using hiexact)

theorem account_le_of_le {a b : Tariff} (h : Tariff.le a b) : a.account ≤ b.account := by
  rcases h with h | ⟨h, -⟩
  · exact le_of_lt h
  · exact le_of_eq h

/-- After a saved write the account is billed by its own list, unless another spelling stands before
it. -/
theorem resolveTariff_own (hactive' : ∀ t ∈ headed.tariffs, t.isActive = true)
    (hheaded : Headed lists headed pk x.account x.name x.currency) :
    resolveTariff c headed.tariffs x.account =
      (Table.firstBy Tariff.le (standBefore c lists x.account)).or
        (some ⟨pk, x.name, x.currency, x.account, true⟩) := by
  have hbefore : (headed.tariffs.filter fun t => c.iexact t.account x.account).filter
      (fun t => t.account < x.account) = standBefore c lists x.account := by
    rw [Table.filter_and, hheaded.others _ fun t ht => decide_eq_false ?_]
    · rfl
    · rintro ⟨-, hlt⟩
      exact absurd hlt (ht ▸ lt_irrefl _)
  have hmem : ⟨pk, x.name, x.currency, x.account, true⟩ ∈
      headed.tariffs.filter fun t => t.account = x.account := by
    rw [hheaded.own]
    exact List.mem_singleton_self _
  have hanswers : ⟨pk, x.name, x.currency, x.account, true⟩ ∈
      headed.tariffs.filter fun t => c.iexact t.account x.account :=
    List.mem_filter.2 ⟨(List.mem_filter.1 hmem).1, by simp⟩
  -- the lists that answer are ordered by the spelling of their account
  rw [resolveTariff_of_active hactive']
  by_cases hshadow : ∃ t ∈ headed.tariffs.filter fun t => c.iexact t.account x.account,
      decide (t.account < x.account) = true
  · -- the first list that answers is the first of those that stand before
    rw [← Table.firstBy_filter_of_lower (fun a b hb hab => ?_) hshadow, hbefore]
    · cases hfirst : Table.firstBy Tariff.le (standBefore c lists x.account) with
      | none =>
        rw [Table.firstBy_eq_none_iff, ← hbefore, List.filter_eq_nil_iff] at hfirst
        obtain ⟨t, ht, hlt⟩ := hshadow
        exact absurd hlt (hfirst t ht)
      | some t => rfl
    · exact decide_eq_true (lt_of_le_of_lt (account_le_of_le hab) (of_decide_eq_true hb))
  · -- the first list that answers is of no other spelling
    have hnil : standBefore c lists x.account = [] := by
      rw [← hbefore]
      exact List.filter_eq_nil_iff.2 fun t ht hlt => hshadow ⟨t, ht, hlt⟩
    rw [hnil]
    cases hfirst : Table.firstBy Tariff.le
        (headed.tariffs.filter fun t => c.iexact t.account x.account) with
    | none =>
      rw [Table.firstBy_eq_none_iff] at hfirst
      rw [hfirst] at hanswers
      cases hanswers
    | some t =>
      have hle := account_le_of_le (Table.le_of_firstBy hfirst hanswers)
      have ht := Table.mem_of_firstBy hfirst
      have haccount : t.account = x.account := le_antisymm hle
        (not_lt.1 fun hlt => hshadow ⟨t, ht, decide_eq_true hlt⟩)
      have hown : t ∈ headed.tariffs.filter fun t => t.account = x.account :=
        List.mem_filter.2 ⟨(List.mem_filter.1 ht).1, decide_eq_true haccount⟩
      rw [hheaded.own, List.mem_singleton] at hown
      rw [hown]
      rfl

/-- After a saved write the account is billed by what was written exactly if no other spelling
shadows it. -/
theorem billed_own_iff (hlists : lists.Sound) (hactive' : ∀ t ∈ headed.tariffs, t.isActive = true)
    (hheaded : Headed lists headed pk x.account x.name x.currency)
    (hstored : ∀ e ∈ x.prices, e.2.store ≠ none) :
    (∀ r, Dict.get? (billedBy c (x.leaves lists headed pk) x.account) r =
      charged (lastPrice x.prices r)) ↔
      Unshadowed c lists x := by
  unfold billedBy Unshadowed
  rw [show (x.leaves lists headed pk).tariffs = headed.tariffs from rfl,
    resolveTariff_own hactive' hheaded]
  cases hfirst : Table.firstBy Tariff.le (standBefore c lists x.account) with
  | none =>
    have hrates : OneRateEach (x.leaves lists headed pk).rates :=
      List.Pairwise.filter _ (oneRateEach_foldl hlists.rates _)
    refine iff_of_true (fun r => ?_) (by simp)
    rw [Option.none_or, get?_rateMap hrates, priceOf_leaves hstored]
  | some t =>
    obtain ⟨ht, hbefore⟩ := List.mem_filter.1 (Table.mem_of_firstBy hfirst)
    have hne : t.account ≠ x.account := ne_of_lt (of_decide_eq_true hbefore).2
    rw [Option.some_or, rateMap_resolved hheaded ht hne]
    exact ⟨fun h t' ht' => Option.some.inj ht' ▸ h, fun h => h t rfl⟩

end Write

/-- A saved write is billed by exactly if it is in sight. -/
theorem billedAsWritten_iff {c : Casing} {lists : PriceLists} (hlists : lists.Sound)
    (hwritten : Written lists) (w : PriceWrite) :
    BilledAsWritten c lists w ↔ WrittenInSight c lists w := by
  refine forall_congr' fun x => forall_congr' fun htarget => ?_
  rw [writePriceLists_of_target htarget]
  by_cases hrefused : HeaderRefused lists x.account x.name x.currency
  · exact iff_of_true (fun h => absurd h (write_of_headerRefused hrefused).1) fun h =>
      absurd hrefused h
  · obtain ⟨headed, pk, hupdate, hheaded, hwrite⟩ := write_of_not_headerRefused hlists.keys hrefused
    rw [hwrite, imp_iff_right hrefused]
    by_cases hall : ∀ e ∈ x.prices, e.2.store ≠ none
    · have hactive' : ∀ t ∈ headed.tariffs, t.isActive = true :=
        (hwritten.updateTariff hupdate).active
      dsimp only
      rw [if_pos hall, imp_iff_right hall, ← billed_own_iff hlists hactive' hheaded hall]
      constructor
      · intro h
        exact (h rfl).2.1
      · intro h _
        exact ⟨gives_of_target htarget, h,
          fun account => billed_others hwritten.active hactive' hheaded⟩
    · dsimp only
      rw [if_neg hall]
      exact iff_of_true (fun h => by cases h) fun h => absurd h hall

/-- **The list last written.**  In every run of writes one after the other, every write is billed by
exactly if every write is in sight. -/
theorem billed_as_written_iff {c : Casing} {ws : List (Bool × PriceWrite)} {lists : PriceLists} :
    (pricing c).Run (fun _ lists w => w.1 = false ∧ BilledAsWritten c lists w.2) .empty ws lists ↔
      (pricing c).Run (fun _ lists w => w.1 = false ∧ WrittenInSight c lists w.2)
        .empty ws lists := by
  have hiff : ∀ {C : List (Bool × PriceWrite) → PriceLists → Bool × PriceWrite → Prop} {ws lists}
      (w : Bool × PriceWrite), (pricing c).Run C .empty ws lists →
        (BilledAsWritten c lists w.2 ↔ WrittenInSight c lists w.2) := fun w hrun =>
    billedAsWritten_iff (sound_of_run hrun) (written_of_run (hrun.mono fun _ _ _ _ => trivial)) w.2
  constructor
  · intro h
    exact h.mono_of_run fun _ _ w hrun hw => ⟨hw.1, (hiff w hrun).1 hw.2⟩
  · intro h
    exact h.mono_of_run fun _ _ w hrun hw => ⟨hw.1, (hiff w hrun).2 hw.2⟩

/-- An operator wrote the list of the account in capitals; the list of the account's own name is
then not the one it is billed by. -/
theorem billed_by_capitals : ∃ lists, (pricing .ascii).Run (fun _ _ w => w.1 = false) .empty
      [(false, .panelPut "ACME" "UZS" (some [("vcpu", some (.number 1000))]))] lists ∧
    ¬ BilledAsWritten .ascii lists
      (.panelPut "Acme" "UZS" (some [("vcpu", some (.number 2000))])) := by
  refine ⟨_, System.Run.nil.snoc rfl rfl, fun h => ?_⟩
  have hvcpu := (h ⟨"Acme", "Acme price list", "UZS", [(.vcpu, .number 2000)]⟩ (by decide +kernel)
    (by decide +kernel)).2.1 .vcpu
  revert hvcpu
  decide +kernel

end OpenCloud
