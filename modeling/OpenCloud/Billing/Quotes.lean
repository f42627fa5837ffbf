import OpenCloud.Billing.PriceLists

/-!
# What a write of a price list leaves

A write finds or adds the list of an account, puts its prices one after the other and clears the
rest.  The prices before one that the column refuses stay (`updateRates_eq`), and no other list is
touched (`filter_foldl`).

## Main results

* `get?_rateMap` : what a list charges for a resource is its price, unless that is zero.
* `write_of_headerRefused`, `write_of_not_headerRefused` : how a write ends, and what it leaves.
-/

namespace OpenCloud

/-- `unique_together`: no two rates are of one list and resource. -/
def OneRateEach (rates : List TariffRate) : Prop :=
  rates.Pairwise fun a b => ¬ (a.tariff = b.tariff ∧ a.resource = b.resource)

instance : DecidablePred OneRateEach := fun rates => inferInstanceAs (Decidable (rates.Pairwise _))

/-- The constraints of the database on the tables of the price lists. -/
structure PriceLists.Sound (lists : PriceLists) : Prop where
  /-- The primary key. -/
  keys : (lists.tariffs.map Tariff.pk).Nodup
  rates : OneRateEach lists.rates

/-- The price of a resource in a list. -/
def priceOf (rates : List TariffRate) (pk : ℕ) (r : Resource) : Option (Numeric 18 4) :=
  (rates.find? fun row => row.tariff = pk ∧ row.resource = r).map TariffRate.pricePerMonth

/-- The prices a payload gives, as stored, up to the first that is refused. -/
def storedPrices : List (Resource × Price) → List (Resource × Numeric 18 4)
  | [] => []
  | (resource, price) :: prices =>
    match price.store with
    | none => []
    | some stored => (resource, stored) :: storedPrices prices

/-- `update_or_create` of one rate. -/
def putRate (pk : ℕ) (rates : List TariffRate) (e : Resource × Numeric 18 4) : List TariffRate :=
  Table.upsert (fun r => r.tariff = pk ∧ r.resource = e.1) ⟨pk, e.1, e.2⟩
    (fun r => { r with pricePerMonth := e.2 }) rates

/-- The price written last for a resource, as stored. -/
def lastPrice (prices : List (Resource × Price)) (r : Resource) : Option (Numeric 18 4) :=
  (prices.filter fun e => e.1 = r).getLast?.bind fun e => e.2.store

/-- What is charged for a resource under a price: nothing if there is none or it is zero. -/
def charged (price : Option (Numeric 18 4)) : Option ℚ :=
  (price.map Numeric.val).filter fun v => v ≠ 0

section Rates

variable {rates : List TariffRate} {pk pk' : ℕ} {e : Resource × Numeric 18 4} {r : Resource}
  {prices : List (Resource × Price)} {lists : PriceLists}

/-- What a list charges for a resource is its price, unless that is zero. -/
theorem get?_rateMap (h : OneRateEach rates) (t : Tariff) (r : Resource) :
    Dict.get? (rateMap rates (some t)) r = charged (priceOf rates t.pk r) := by
  unfold rateMap Tariff.rates
  dsimp only
  rw [Dict.get?_foldl_set_last, Dict.get?, Option.or_none]
  -- at most one row of the list is of the resource
  have hrow : (rates.filter fun row => row.tariff = t.pk ∧ row.resource = r) =
      (rates.find? fun row => row.tariff = t.pk ∧ row.resource = r).toList := by
    refine Table.filter_eq_find?_toList (List.Pairwise.imp (fun {a b} hab => ?_) h)
    rintro ⟨ha, hb⟩
    obtain ⟨hat, har⟩ := of_decide_eq_true ha
    obtain ⟨hbt, hbr⟩ := of_decide_eq_true hb
    exact hab ⟨hat.trans hbt.symm, har.trans hbr.symm⟩
  have hperm : ((((rates.filter fun row => row.tariff = t.pk).insertionSort fun a b =>
        a.resource.value ≤ b.resource.value).filter fun row => row.pricePerMonth.val ≠ 0).filter
          fun row => row.resource = r).Perm
      ((rates.find? fun row => row.tariff = t.pk ∧ row.resource = r).toList.filter
        fun row => row.pricePerMonth.val ≠ 0) := by
    have hand : (rates.filter fun row => row.tariff = t.pk ∧ row.resource = r) =
        (rates.filter fun row => row.tariff = t.pk).filter fun row => row.resource = r :=
      Table.filter_and.symm
    rw [← hrow, hand, List.filter_filter, List.filter_filter]
    simp only [Bool.and_comm]
    exact (List.perm_insertionSort _ _).filter _
  unfold priceOf charged
  cases hfind : rates.find? fun row => row.tariff = t.pk ∧ row.resource = r with
  | none =>
    rw [hfind] at hperm
    rw [List.perm_nil.1 hperm]
    rfl
  | some row =>
    rw [hfind] at hperm
    by_cases hzero : row.pricePerMonth.val = 0
    · rw [Option.toList_some, List.filter_cons_of_neg (by simpa using hzero),
        List.filter_nil] at hperm
      rw [List.perm_nil.1 hperm]
      simp [hzero, Option.filter]
    · rw [Option.toList_some, List.filter_cons_of_pos (by simpa using hzero),
        List.filter_nil] at hperm
      rw [List.perm_singleton.1 hperm]
      simp [hzero, Option.filter]

/-- Putting a rate changes that price alone. -/
theorem priceOf_putRate : priceOf (putRate pk rates e) pk' r =
    if pk = pk' ∧ e.1 = r then some e.2 else priceOf rates pk' r := by
  unfold priceOf putRate
  split_ifs with h
  · obtain ⟨rfl, rfl⟩ := h
    have hput :=
      @Table.find?_upsert _ (fun row : TariffRate => row.tariff = pk ∧ row.resource = e.1) _
      ⟨pk, e.1, e.2⟩ (fun row => { row with pricePerMonth := e.2 }) rates ⟨rfl, rfl⟩ fun _ ha => ha
    rw [hput]
    cases rates.find? fun row => row.tariff = pk ∧ row.resource = e.1 with
    | none => rfl
    | some row => rfl
  · rw [← List.head?_filter, ← List.head?_filter, Table.filter_upsert]
    · exact decide_eq_false h
    · intro a ha
      have hnot : ¬ (a.tariff = pk' ∧ a.resource = r) := by
        rintro ⟨ha', hr⟩
        exact h ⟨ha.1.symm.trans ha', ha.2.symm.trans hr⟩
      exact ⟨decide_eq_false hnot, decide_eq_false hnot⟩

theorem oneRateEach_putRate (h : OneRateEach rates) : OneRateEach (putRate pk rates e) := by
  refine Table.pairwise_upsert h (fun _ _ _ hab => hab) (fun _ _ _ hab => hab) fun a ha heq => ?_
  exact ha ⟨heq.1, heq.2⟩

theorem filter_putRate {q : TariffRate → Bool} (hq : ∀ row, row.tariff = pk → q row = false) :
    (putRate pk rates e).filter q = rates.filter q :=
  Table.filter_upsert (hq _ rfl) fun a ha => ⟨hq a ha.1, hq _ ha.1⟩

/-- The prices are put one after the other, until one is refused. -/
theorem updateRates_eq (lists : PriceLists) (pk : ℕ) (prices : List (Resource × Price)) :
    lists.updateRates pk prices =
      ({ lists with rates := (storedPrices prices).foldl (putRate pk) lists.rates },
        if ∀ e ∈ prices, e.2.store ≠ none then none else some .data) := by
  induction prices generalizing lists with
  | nil => simp [PriceLists.updateRates, storedPrices]
  | cons e prices ih =>
    obtain ⟨resource, price⟩ := e
    rw [PriceLists.updateRates, storedPrices]
    cases hstore : price.store with
    | none => simp [hstore]
    | some stored =>
      dsimp only
      rw [ih]
      simp only [List.forall_mem_cons, hstore, ne_eq, reduceCtorEq, not_false_eq_true, true_and,
        List.foldl_cons]
      rfl

theorem priceOf_foldl (es : List (Resource × Numeric 18 4)) :
    priceOf (es.foldl (putRate pk) rates) pk' r =
    if pk = pk' then ((es.filter fun e => e.1 = r).getLast?.map Prod.snd).or (priceOf rates pk' r)
    else priceOf rates pk' r := by
  induction es using List.reverseRecOn with
  | nil => simp
  | append_singleton es e ih =>
    rw [List.foldl_append, List.foldl_cons, List.foldl_nil, priceOf_putRate, ih, List.filter_append]
    by_cases hpk : pk = pk'
    · by_cases hr : e.1 = r
      · simp [hpk, hr]
      · simp [hpk, hr]
    · simp [hpk]

theorem oneRateEach_foldl (h : OneRateEach rates) (es : List (Resource × Numeric 18 4)) :
    OneRateEach (es.foldl (putRate pk) rates) := by
  induction es generalizing rates with
  | nil => exact h
  | cons e es ih => exact ih (oneRateEach_putRate h)

theorem filter_foldl {q : TariffRate → Bool} (hq : ∀ row, row.tariff = pk → q row = false)
    (es : List (Resource × Numeric 18 4)) :
    (es.foldl (putRate pk) rates).filter q = rates.filter q := by
  induction es generalizing rates with
  | nil => rfl
  | cons e es ih => rw [List.foldl_cons, ih, filter_putRate hq]

theorem foldl_putRate_eq_self {es : List (Resource × Numeric 18 4)}
    (h : ∀ e ∈ es, priceOf rates pk e.1 = some e.2) : es.foldl (putRate pk) rates = rates := by
  induction es with
  | nil => rfl
  | cons e es ih =>
    obtain ⟨row, hfind, hprice⟩ := Option.map_eq_some_iff.1 (h e (by simp))
    have hput : putRate pk rates e = rates := by
      refine Table.upsert_eq_self hfind ?_
      rw [← hprice]
    rw [List.foldl_cons, hput]
    exact ih fun e he => h e (by simp [he])

theorem priceOf_congr {rates' : List TariffRate}
    (h : (rates'.filter fun row => row.tariff = pk) = rates.filter fun row => row.tariff = pk) :
    priceOf rates' pk r = priceOf rates pk r := by
  have hfind : ∀ rows : List TariffRate, priceOf rows pk r =
      ((rows.filter fun row => row.tariff = pk).filter fun row => row.resource = r).head?.map
        TariffRate.pricePerMonth := by
    intro rows
    rw [Table.filter_and, List.head?_filter]
    rfl
  rw [hfind, hfind, h]

theorem keys_storedPrices : ((storedPrices prices).map Prod.fst).Sublist (prices.map Prod.fst) := by
  induction prices with
  | nil => exact List.Sublist.slnil
  | cons e prices ih =>
    obtain ⟨resource, price⟩ := e
    rw [storedPrices]
    cases price.store with
    | none => exact List.nil_sublist _
    | some stored => exact ih.cons_cons resource

/-- Where no price is refused, all of them are stored. -/
theorem getLast?_storedPrices (h : ∀ e ∈ prices, e.2.store ≠ none) (r : Resource) :
    ((storedPrices prices).filter fun e => e.1 = r).getLast?.map Prod.snd = lastPrice prices r := by
  unfold lastPrice
  induction prices with
  | nil => rfl
  | cons e prices ih =>
    obtain ⟨resource, price⟩ := e
    obtain ⟨hprice, hprices⟩ := List.forall_mem_cons.1 h
    obtain ⟨stored, hstored⟩ := Option.ne_none_iff_exists'.1 hprice
    have hstored' : price.store = some stored := hstored
    specialize ih hprices
    rw [storedPrices, hstored']
    dsimp only
    by_cases hr : resource = r
    · rw [List.filter_cons_of_pos (by simpa using hr), List.filter_cons_of_pos (by simpa using hr),
        List.getLast?_cons, List.getLast?_cons]
      cases hlast : (prices.filter fun e => e.1 = r).getLast? with
      | none =>
        rw [hlast, Option.bind_none, Option.map_eq_none_iff] at ih
        rw [ih]
        exact hstored'.symm
      | some e =>
        rw [hlast, Option.bind_some] at ih
        have he : e ∈ prices := (List.mem_filter.1 (List.mem_of_getLast? hlast)).1
        obtain ⟨stored', he'⟩ := Option.ne_none_iff_exists'.1 (hprices e he)
        rw [he'] at ih
        obtain ⟨e', hlast', hsnd⟩ := Option.map_eq_some_iff.1 ih
        rw [hlast']
        simp [he', hsnd]
    · rw [List.filter_cons_of_neg (by simpa using hr), List.filter_cons_of_neg (by simpa using hr)]
      exact ih

end Rates

/-! ### One write -/

/-- The list of the account has been found or added, and is headed. -/
structure Headed (lists headed : PriceLists) (pk : ℕ) (account name currency : String) : Prop where
  own : (headed.tariffs.filter fun t => t.account = account) = [⟨pk, name, currency, account, true⟩]
  others : ∀ q : Tariff → Bool, (∀ t, t.account = account → q t = false) →
    headed.tariffs.filter q = lists.tariffs.filter q
  rates : headed.rates = lists.rates
  fresh : ∀ t ∈ lists.tariffs, t.account ≠ account → t.pk ≠ pk

section Write

variable {lists headed : PriceLists} {pk : ℕ} {account name currency : String}
  {prices : List (Resource × Price)} {keepOthers : Bool}

theorem filter_map_of_outside {α : Type*} {rows : List α} {change : α → α} {q : α → Bool}
    (h : ∀ a ∈ rows, change a = a ∨ (q a = false ∧ q (change a) = false)) :
    (rows.map change).filter q = rows.filter q := by
  induction rows with
  | nil => rfl
  | cons a rows ih =>
    obtain ⟨ha, hrows⟩ := List.forall_mem_cons.1 h
    rw [List.map_cons, List.filter_cons, List.filter_cons, ih hrows]
    rcases ha with ha | ⟨ha, ha'⟩
    · rw [ha]
    · rw [ha, ha']
      rfl

theorem headed_of_create (h : ∀ t ∈ lists.tariffs, t.account ≠ account) :
    Headed lists (lists.create account name currency).1 lists.nextPk account name currency := by
  have hnone : (lists.tariffs.filter fun t => t.account = account) = [] :=
    List.filter_eq_nil_iff.2 fun t ht => by simpa using h t ht
  refine ⟨?_, fun q hq => ?_, rfl, fun t ht _ hpk => ?_⟩
  · rw [PriceLists.create, List.filter_append, hnone]
    simp
  · rw [PriceLists.create, List.filter_append, List.filter_cons_of_neg (by simp [hq])]
    simp
  · refine @nextPk_notMem lists ?_
    rw [← hpk]
    exact List.mem_map_of_mem ht

theorem headed_of_found (hkeys : (lists.tariffs.map Tariff.pk).Nodup) {found : Tariff}
    (h : (lists.tariffs.filter fun t => t.account = account) = [found]) :
    Headed lists { lists with
      tariffs := lists.tariffs.map fun t =>
        if t.pk = found.pk then
          { t with name := name, currency := currency, isActive := true } else t }
      found.pk account name currency := by
  have hmem : found ∈ lists.tariffs.filter fun t => t.account = account := by
    rw [h]
    exact List.mem_singleton_self found
  have hfound : found ∈ lists.tariffs ∧ found.account = account := by simpa using hmem
  -- the row changed is the only one of the account
  have hpk : ∀ t ∈ lists.tariffs, t.pk = found.pk → t = found := fun t ht ht' =>
    List.inj_on_of_nodup_map hkeys ht hfound.1 ht'
  refine ⟨?_, fun q hq => ?_, rfl, fun t ht hne ht' => hne ((hpk t ht ht') ▸ hfound.2)⟩
  · have hmap : ((lists.tariffs.map fun t => if t.pk = found.pk then
        { t with name := name, currency := currency, isActive := true } else t).filter
          fun t => t.account = account) =
        (lists.tariffs.filter fun t => t.account = account).map fun t => if t.pk = found.pk then
          { t with name := name, currency := currency, isActive := true } else t := by
      rw [List.filter_map]
      congr 1
      refine List.filter_congr fun t _ => ?_
      show decide (Tariff.account (if _ then _ else _) = account) = _
      split_ifs
      · rfl
      · rfl
    rw [hmap, h]
    simp [hfound.2]
  · refine filter_map_of_outside fun t ht => ?_
    by_cases ht' : t.pk = found.pk
    · rw [if_pos ht']
      have haccount : t.account = account := hpk t ht ht' ▸ hfound.2
      exact .inr ⟨hq t haccount, hq _ haccount⟩
    · exact .inl (if_neg ht')

theorem headed_of_updateTariff (hkeys : (lists.tariffs.map Tariff.pk).Nodup)
    (h : lists.updateTariff false account name currency = some (headed, pk)) :
    Headed lists headed pk account name currency := by
  unfold PriceLists.updateTariff at h
  split at h
  · rename_i hcrossing
    cases hcrossing
  · rename_i hnone
    cases h
    refine headed_of_create fun t ht haccount => ?_
    exact (List.filter_eq_nil_iff.1 hnone) t ht (by simpa using haccount)
  · rename_i hfound
    cases h
    exact headed_of_found hkeys hfound
  · cases h

/-- The write is refused at the list itself: a text too long, or several lists of the account. -/
def HeaderRefused (lists : PriceLists) (account name currency : String) : Prop :=
  (255 < account.length ∨ 120 < name.length ∨ 8 < currency.length) ∨
    1 < (lists.tariffs.filter fun t => t.account = account).length

theorem updateTariff_eq_none_iff : lists.updateTariff false account name currency = none ↔
    1 < (lists.tariffs.filter fun t => t.account = account).length := by
  match hl : lists.tariffs.filter fun t => t.account = account with
  | [] => simp [PriceLists.updateTariff, hl]
  | [found] => simp [PriceLists.updateTariff, hl]
  | a :: b :: rest => simp [PriceLists.updateTariff, hl]

/-- A write refused at the list itself changes nothing. -/
theorem write_of_headerRefused (h : HeaderRefused lists account name currency) :
    (lists.write false account name currency prices keepOthers).1 ≠ .saved ∧
      (lists.write false account name currency prices keepOthers).2 = lists := by
  unfold PriceLists.write
  rcases h with h | h
  · rw [if_pos h]
    exact ⟨by simp, rfl⟩
  · by_cases hfits : 255 < account.length ∨ 120 < name.length ∨ 8 < currency.length
    · rw [if_pos hfits]
      exact ⟨by simp, rfl⟩
    · rw [if_neg hfits, updateTariff_eq_none_iff.2 h]
      exact ⟨by simp, rfl⟩

/-- Otherwise the list is headed, and the prices are put until one is refused. -/
theorem write_of_not_headerRefused (hkeys : (lists.tariffs.map Tariff.pk).Nodup)
    (h : ¬ HeaderRefused lists account name currency) :
    ∃ headed pk, lists.updateTariff false account name currency = some (headed, pk) ∧
      Headed lists headed pk account name currency ∧
      ∀ prices keepOthers, lists.write false account name currency prices keepOthers =
        let put : PriceLists :=
  { headed with rates := (storedPrices prices).foldl (putRate pk) lists.rates }
        if ∀ e ∈ prices, e.2.store ≠ none then
          (.saved, if keepOthers then put else put.clearOthers pk prices)
        else (.refused (.db .data), put) := by
  rw [HeaderRefused, not_or] at h
  obtain ⟨hfits, hseveral⟩ := h
  obtain ⟨⟨headed, pk⟩, hupdate⟩ : ∃ out, lists.updateTariff false account name currency =
    some out :=
    Option.ne_none_iff_exists'.1 fun hnone => hseveral (updateTariff_eq_none_iff.1 hnone)
  have hheaded := headed_of_updateTariff hkeys hupdate
  refine ⟨headed, pk, hupdate, hheaded, fun prices keepOthers => ?_⟩
  unfold PriceLists.write
  rw [if_neg hfits, hupdate]
  dsimp only
  rw [updateRates_eq, hheaded.rates]
  by_cases hall : ∀ e ∈ prices, e.2.store ≠ none
  · rw [if_pos hall, if_pos hall]
  · rw [if_neg hall, if_neg hall]

end Write

/-! ### The requests -/

/-- A list as a request writes it. -/
structure ListWrite where
  account : String
  name : String
  currency : String
  prices : List (Resource × Price)
  deriving DecidableEq

/-- The list a request writes in place of an account's; none if the request is refused before, keeps
the other prices or is the first start. -/
def PriceWrite.target (c : Casing) : PriceWrite → Option ListWrite
  | .adminPut cloud user currency rates =>
    match accountDomain c cloud user, adminPrices rates with
    | .ok (account, _), .ok prices =>
      some ⟨account, account ++ " price list", submittedCurrency currency, prices⟩
    | _, _ => none
  | .panelPut account currency rates =>
    match validatedPrices rates with
    | .ok prices =>
      some ⟨strip account, listName (strip account), submittedCurrency currency, prices⟩
    | .error _ => none
  | .setTariff account name currency prices keepOthers =>
    if keepOthers then none
    else some ⟨strip account, orElse name (listName (strip account)), strip currency, prices⟩
  | .ensure => none

section Target

variable {c : Casing} {lists : PriceLists} {w : PriceWrite} {x : ListWrite}

/-- A request with a target writes it. -/
theorem writePriceLists_of_target (h : w.target c = some x) :
    writePriceLists c lists false w =
      lists.write false x.account x.name x.currency x.prices false := by
  cases w with
  | adminPut cloud user currency rates =>
    rw [PriceWrite.target] at h
    split at h
    · rename_i haccount hprices
      obtain rfl := Option.some.inj h
      simp only [writePriceLists, haccount, hprices]
    · cases h
  | panelPut account currency rates =>
    rw [PriceWrite.target] at h
    split at h
    · rename_i hprices
      obtain rfl := Option.some.inj h
      simp only [writePriceLists, hprices]
    · cases h
  | setTariff account name currency prices keepOthers =>
    rw [PriceWrite.target] at h
    split_ifs at h with hkeep
    obtain rfl := Option.some.inj h
    rw [writePriceLists, Bool.eq_false_iff.2 hkeep]
  | ensure => cases h

theorem nodup_keys_checkedPrices {comparesNan : Bool} {rates : SubmittedRates}
    {prices : Dict Resource Price} (h : checkedPrices comparesNan rates = .ok prices) :
    prices.keys.Nodup := by
  unfold checkedPrices at h
  split at h
  · cases h
  · dsimp only at h
    split_ifs at h
    refine foldlM_keeps (I := fun prices : Dict Resource Price => prices.keys.Nodup) h
      List.nodup_nil
      fun prices e prices' hprices he => ?_
    split at he
    · cases he
    · obtain rfl := Except.ok.inj he
      exact hprices
    · split_ifs at he
      obtain rfl := Except.ok.inj he
      exact Dict.nodup_keys_update hprices

/-- The price that a payload gives a resource last, as stored. -/
def lastSubmitted (rates : SubmittedRates) (r : Resource) : Option (Numeric 18 4) :=
  ((rates.getD []).filter fun e => e.1 = r.value).getLast?.bind fun e => e.2.bind Price.store

/-- The prices of the list are those of the request. -/
def PriceWrite.Gives : PriceWrite → ListWrite → Prop
  | .adminPut _ _ _ rates, x | .panelPut _ _ rates, x =>
    ∀ r, lastPrice x.prices r = lastSubmitted rates r
  | .setTariff _ _ _ prices _, x => x.prices = prices
  | .ensure, _ => False

theorem ofValue_eq_some_iff {value : String} {r : Resource} : Resource.ofValue value = some r ↔
    value = r.value := by
  constructor
  · intro h
    have hfound := List.find?_some (p := fun r : Resource => decide (r.value = value)) h
    exact (of_decide_eq_true hfound).symm
  · rintro rfl
    cases r <;> decide +kernel

/-- A loop that sets the price of each entry keeps the last one of every resource. -/
theorem get?_of_foldlM_eq_ok {step : Dict Resource Price → String × Option Price →
      Except PriceOutcome (Dict Resource Price)}
    (hstep : ∀ d e d', step d e = .ok d' →
      (∃ r price, e = (r.value, some price) ∧ d' = d.set r price) ∨
      ((∀ r : Resource, e.1 ≠ r.value) ∧ d' = d))
    {entries : List (String × Option Price)} {d prices : Dict Resource Price}
    (h : entries.foldlM step d = .ok prices) (r : Resource) : prices.get? r =
      match (entries.filter fun e => e.1 = r.value).getLast? with
      | none => d.get? r
      | some e => e.2 := by
  induction entries generalizing d with
  | nil => exact congrArg (Dict.get? · r) (Except.ok.inj h).symm
  | cons e entries ih =>
    rw [List.foldlM_cons] at h
    obtain ⟨d', hd', hrest⟩ := exists_of_bind_eq_ok h
    rw [ih hrest]
    rcases hstep d e d' hd' with ⟨r', price, rfl, rfl⟩ | ⟨hother, rfl⟩
    · rw [Dict.get?_set]
      by_cases hr : r' = r
      · subst hr
        rw [List.filter_cons_of_pos (by simp), List.getLast?_cons, if_pos rfl]
        cases (entries.filter fun e => e.1 = r'.value).getLast? <;> rfl
      · have hvalue : r'.value ≠ r.value := fun heq => hr (Resource.value_injective heq)
        rw [List.filter_cons_of_neg (by simpa using hvalue), if_neg hr]
    · rw [List.filter_cons_of_neg (by simpa using hother r)]

/-- The check keeps the last price that the payload gives a resource. -/
theorem lastPrice_checkedPrices {comparesNan : Bool} {rates : SubmittedRates}
    {prices : Dict Resource Price}
    (h : checkedPrices comparesNan rates = .ok prices) (r : Resource) :
    lastPrice prices r = lastSubmitted rates r := by
  have hlast : lastPrice prices r = (prices.get? r).bind Price.store := by
    rw [lastPrice, Dict.filter_key (nodup_keys_checkedPrices h)]
    cases prices.get? r <;> rfl
  unfold checkedPrices at h
  split at h
  · cases h
  · dsimp only at h
    split_ifs at h
    rw [hlast, get?_of_foldlM_eq_ok (fun d e d' he => ?_) h r, lastSubmitted, Option.getD_some]
    · cases (List.filter _ _).getLast? <;> rfl
    · obtain ⟨key, price⟩ := e
      split at he
      · cases he
      · rename_i hunknown _
        refine .inr ⟨fun r hr => ?_, (Except.ok.inj he).symm⟩
        rw [ofValue_eq_some_iff.2 hr] at hunknown
        cases hunknown
      · rename_i resource price hresource hprice
        split_ifs at he
        exact .inl ⟨resource, price, Prod.ext (ofValue_eq_some_iff.1 hresource) hprice,
          (Except.ok.inj he).symm⟩

/-- The list that a request writes has its prices. -/
theorem gives_of_target (h : w.target c = some x) : w.Gives x := by
  cases w with
  | adminPut cloud user currency rates =>
    rw [PriceWrite.target] at h
    split at h
    · rename_i hprices
      obtain rfl := Option.some.inj h
      exact lastPrice_checkedPrices hprices
    · cases h
  | panelPut account currency rates =>
    rw [PriceWrite.target] at h
    split at h
    · rename_i hprices
      obtain rfl := Option.some.inj h
      exact lastPrice_checkedPrices hprices
    · cases h
  | setTariff account name currency prices keepOthers =>
    rw [PriceWrite.target] at h
    split_ifs at h
    obtain rfl := Option.some.inj h
    rfl
  | ensure => cases h

theorem refusal_ne_saved {comparesNan : Bool} {rates : SubmittedRates} {outcome : PriceOutcome}
    (h : checkedPrices comparesNan rates = .error outcome) : outcome ≠ .saved := by
  rintro rfl
  unfold checkedPrices at h
  split at h
  · cases h
  · dsimp only at h
    split_ifs at h
    · cases h
    · obtain ⟨prices, e, -, he⟩ := exists_of_foldlM_eq_error h
      split at he
      · cases he
      · cases he
      · split_ifs at he
        · cases he
        · cases he

end Target

end OpenCloud
