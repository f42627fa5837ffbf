import OpenCloud.Billing.Quotes
import OpenCloud.Lib.Binary64

/-!
# The price pages

The cabinet shows an administrator the price list of the account, the panel shows an operator the
list of any account. Both show every resource, priced or not, and answer a write with the page
again.

## Main results

* `rateRows_eq` : a row shows what the list charges, and zero where it charges nothing.
* `adminRateRows_eq` : the two pages show the rows alike.
-/

namespace OpenCloud

/-- A resource on a price page. -/
structure RateRow where
  resource : String
  label : String
  pricePerMonth : Double
  deriving DecidableEq

/-- A price page. -/
structure PricePage where
  account : String
  name : Option String
  currency : String
  /-- The account has no list of its own. -/
  inherited : Bool
  rates : List RateRow
  hasDefault : Bool

/-- A row of `_tariff_index`. -/
structure TariffEntry where
  account : String
  name : String
  currency : String
  active : Bool

/-- What `TariffView` answers. -/
structure PanelPricePage extends PricePage where
  lists : List TariffEntry

/-- The prices shown, resource by resource. -/
def rateRowsOf (price : Resource → ℚ) : List RateRow :=
  Resource.all.map fun r => ⟨r.value, r.label, Double.ofRat (price r)⟩

/-- `_rate_rows`. -/
def rateRows (rates : List TariffRate) (t : Option Tariff) : List RateRow :=
  let priced : Dict Resource ℚ := match t with
    | some t => (t.rates rates).foldl (fun d row => d.set row.resource row.pricePerMonth.val) []
    | none => []
  rateRowsOf fun r => (priced.get? r).getD 0

/-- The rows of `AdminTariffView`, each from the first rate of its resource. -/
def adminRateRows (rates : List TariffRate) (t : Option Tariff) : List RateRow :=
  let listed := match t with
    | some t => t.rates rates
    | none => []
  rateRowsOf fun r =>
    ((listed.find? fun row => row.resource = r).map fun row => row.pricePerMonth.val).getD 0

namespace PriceLists

variable (lists : PriceLists)

/-- `Tariff.objects.filter(account__iexact=account).first()`. -/
def ownList (c : Casing) (account : String) : Option Tariff :=
  Table.firstBy Tariff.le (lists.tariffs.filter fun t => c.iexact t.account account)

/-- `Tariff.objects.filter(account='').first()`. -/
def defaultList : Option Tariff :=
  Table.firstBy Tariff.le (lists.tariffs.filter fun t => t.account = "")

/-- `_tariff_index`. -/
def tariffIndex : List TariffEntry :=
  (lists.tariffs.insertionSort Tariff.le).map fun t => ⟨t.account, t.name, t.currency, t.isActive⟩

/-- `AdminTariffView.get`, of the account the request is of. -/
def adminPage (c : Casing) (account : String) : PricePage :=
  let own := lists.ownList c account
  let effective := own <|> lists.defaultList
  { account := account
    name := effective.map Tariff.name
    currency := (effective.map Tariff.currency).getD "UZS"
    inherited := own.isNone
    rates := adminRateRows lists.rates effective
    hasDefault := lists.defaultList.isSome }

/-- `AdminTariffView.get`. -/
def adminTariffGet (c : Casing) (cloud : Cloud) (user : CabinetUser) : Except AppError PricePage :=
  (accountDomain c cloud user).map fun e => lists.adminPage c e.1

/-- `TariffView.get`. -/
def tariffGet (c : Casing) (query : String) : PanelPricePage :=
  let account := strip query
  let own := if account = "" then none else lists.ownList c account
  let effective := own <|> lists.defaultList
  { account := account
    name := effective.map Tariff.name
    currency := (effective.map Tariff.currency).getD "UZS"
    inherited := account ≠ "" ∧ own.isNone
    rates := rateRows lists.rates effective
    hasDefault := lists.defaultList.isSome
    lists := lists.tariffIndex }

/-- What a write that is saved answers. -/
def answered {α : Type} (page : PriceLists → α) (written : PriceOutcome × PriceLists) :
    Except PriceOutcome α × PriceLists :=
  match written with
  | (.saved, lists) => (.ok (page lists), lists)
  | (outcome, lists) => (.error outcome, lists)

/-- `AdminTariffView.put`. -/
def adminTariffPut (c : Casing) (cloud : Cloud) (user : CabinetUser) (currency : String)
    (rates : SubmittedRates) :
    Except PriceOutcome (Except AppError PricePage) × PriceLists :=
  answered (fun lists => lists.adminTariffGet c cloud user)
    (writePriceLists c lists false (.adminPut cloud user currency rates))

/-- `TariffView.put`: the page it answers is of the account in the address, the list it writes of
that in the body. -/
def tariffPut (c : Casing) (query account currency : String) (rates : SubmittedRates) :
    Except PriceOutcome PanelPricePage × PriceLists :=
  answered (fun lists => lists.tariffGet c query)
    (writePriceLists c lists false (.panelPut account currency rates))

end PriceLists

section Rows

variable {rates : List TariffRate} {t : Option Tariff} {r : Resource}

/-- A list has one rate of a resource at most. -/
theorem filter_rates (h : OneRateEach rates) (t : Tariff) (r : Resource) :
    ((t.rates rates).filter fun row => row.resource = r) =
      (rates.find? fun row => row.tariff = t.pk ∧ row.resource = r).toList := by
  have hrow : (rates.filter fun row => row.tariff = t.pk ∧ row.resource = r) =
      (rates.find? fun row => row.tariff = t.pk ∧ row.resource = r).toList := by
    refine Table.filter_eq_find?_toList (List.Pairwise.imp (fun {a b} hab => ?_) h)
    rintro ⟨ha, hb⟩
    obtain ⟨hat, har⟩ := of_decide_eq_true ha
    obtain ⟨hbt, hbr⟩ := of_decide_eq_true hb
    exact hab ⟨hat.trans hbt.symm, har.trans hbr.symm⟩
  have hperm : List.Perm ((t.rates rates).filter fun row => row.resource = r)
      (rates.filter fun row => row.tariff = t.pk ∧ row.resource = r) := by
    rw [← Table.filter_and (p := fun row : TariffRate => row.tariff = t.pk)]
    exact (List.perm_insertionSort _ _).filter _
  rw [hrow] at hperm
  cases hfind : rates.find? fun row => row.tariff = t.pk ∧ row.resource = r with
  | none =>
    rw [hfind] at hperm
    exact List.perm_nil.1 hperm
  | some row =>
    rw [hfind] at hperm
    exact List.perm_singleton.1 hperm

theorem getD_charged (price : Option (Numeric 18 4)) :
    (charged price).getD 0 = (price.map Numeric.val).getD 0 := by
  cases price with
  | none => rfl
  | some price => by_cases hzero : price.val = 0 <;> simp [charged, Option.filter, hzero]

/-- A row shows what the list charges. -/
theorem rateRows_eq (h : OneRateEach rates) (t : Option Tariff) :
    rateRows rates t = rateRowsOf fun r => (Dict.get? (rateMap rates t) r).getD 0 := by
  cases t with
  | none => rfl
  | some t =>
    unfold rateRows rateRowsOf
    refine List.map_congr_left fun r _ => ?_
    dsimp only
    rw [get?_rateMap h, getD_charged, Dict.get?_foldl_set_last, filter_rates h]
    unfold priceOf
    cases rates.find? fun row => row.tariff = t.pk ∧ row.resource = r <;> rfl

/-- The two pages show the rows alike. -/
theorem adminRateRows_eq (h : OneRateEach rates) (t : Option Tariff) :
    adminRateRows rates t = rateRows rates t := by
  cases t with
  | none => rfl
  | some t =>
    unfold adminRateRows rateRows rateRowsOf
    refine List.map_congr_left fun r _ => ?_
    dsimp only
    rw [Dict.get?_foldl_set_last, ← List.head?_filter, filter_rates h]
    cases rates.find? fun row => row.tariff = t.pk ∧ row.resource = r <;> rfl

end Rows

end OpenCloud
