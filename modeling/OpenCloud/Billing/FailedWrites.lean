import OpenCloud.Billing.Quotes

/-!
# A write of a price list that fails

The panel's and the cabinet's write of a price list is the header, a loop over the prices and a
deletion, each committed by itself.  A price that is not finite or has too many digits passes the
check of the payload and is refused by its column, when the header and the prices before it are
written.

## Main results

* `failed_put_keeps_iff` : a failed write leaves the tables as they were exactly if it is refused
  before its first price or writes again what is there.
-/

namespace OpenCloud

/-- The list of an account and its rates are the same. -/
def SameList (lists lists' : PriceLists) (account : String) : Prop :=
  (lists'.tariffs.filter fun t => t.account = account) =
    (lists.tariffs.filter fun t => t.account = account) ∧
  ∀ t ∈ lists.tariffs, t.account = account →
    (lists'.rates.filter fun r => r.tariff = t.pk) = lists.rates.filter fun r => r.tariff = t.pk

/-- The two views that write price lists. -/
def PriceWrite.IsPut : PriceWrite → Prop
  | .adminPut .. | .panelPut .. => True
  | _ => False

/-- The account's list has this header, and the prices before one that is refused. -/
def AlreadySays (lists : PriceLists) (x : ListWrite) : Prop :=
  ∃ t, (lists.tariffs.filter fun t => t.account = x.account) = [t] ∧ t.name = x.name ∧
    t.currency = x.currency ∧ t.isActive = true ∧
    ∀ e ∈ storedPrices x.prices, priceOf lists.rates t.pk e.1 = some e.2

/-- The request is refused before its first price, or no price is refused, or what it writes before
the one that is refused is there already. -/
def StopsClean (c : Casing) (lists : PriceLists) (w : PriceWrite) : Prop :=
  ∀ x, w.target c = some x → HeaderRefused lists x.account x.name x.currency ∨
    (∀ e ∈ x.prices, e.2.store ≠ none) ∨ AlreadySays lists x

section

variable {c : Casing} {lists headed : PriceLists} {w : PriceWrite} {x : ListWrite} {pk : ℕ}

/-- A view refuses a request without a target and writes nothing, or the target's prices are those
of a dictionary. -/
theorem put_cases (c : Casing) (hput : w.IsPut) :
    (w.target c = none ∧ ∀ lists, (writePriceLists c lists false w).1 ≠ .saved ∧
        (writePriceLists c lists false w).2 = lists) ∨
      ∃ x, w.target c = some x ∧ (x.prices.map Prod.fst).Nodup := by
  cases w with
  | adminPut cloud user currency rates =>
    simp only [writePriceLists, PriceWrite.target]
    cases accountDomain c cloud user with
    | error err => exact .inl ⟨rfl, fun _ => ⟨by simp, rfl⟩⟩
    | ok account =>
      cases hprices : adminPrices rates with
      | error outcome => exact .inl ⟨rfl, fun _ => ⟨refusal_ne_saved hprices, rfl⟩⟩
      | ok prices => exact .inr ⟨_, rfl, nodup_keys_checkedPrices hprices⟩
  | panelPut account currency rates =>
    simp only [writePriceLists, PriceWrite.target]
    cases hprices : validatedPrices rates with
    | error outcome => exact .inl ⟨rfl, fun _ => ⟨refusal_ne_saved hprices, rfl⟩⟩
    | ok prices => exact .inr ⟨_, rfl, nodup_keys_checkedPrices hprices⟩
  | setTariff => cases hput
  | ensure => cases hput

theorem put_of_target_none (hput : w.IsPut) (h : w.target c = none) :
    (writePriceLists c lists false w).1 ≠ .saved ∧ (writePriceLists c lists false w).2 = lists := by
  rcases put_cases c hput with ⟨-, hrefused⟩ | ⟨x, hx, -⟩
  · exact hrefused lists
  · rw [h] at hx
    cases hx

theorem nodup_target (hput : w.IsPut) (h : w.target c = some x) :
    (x.prices.map Prod.fst).Nodup := by
  rcases put_cases c hput with ⟨hnone, -⟩ | ⟨x', hx', hnodup⟩
  · rw [h] at hnone
    cases hnone
  · obtain rfl := Option.some.inj (h.symm.trans hx')
    exact hnodup

theorem getLast?_of_nodup {es : List (Resource × Numeric 18 4)} {e : Resource × Numeric 18 4}
    (h : (es.map Prod.fst).Nodup) (he : e ∈ es) :
    (es.filter fun e' => e'.1 = e.1).getLast?.map Prod.snd = some e.2 := by
  rw [Dict.filter_key h, (Dict.mem_iff_get? h).1 he]
  rfl

/-- The list before a write has the header and the first prices that it leaves exactly if the write
changes nothing of the list. -/
theorem sameList_iff (hheaded : Headed lists headed pk x.account x.name x.currency)
    (hfound : ∀ t, (lists.tariffs.filter fun t => t.account = x.account) = [t] → pk = t.pk)
    (hnodup : (x.prices.map Prod.fst).Nodup) :
    (∀ account, SameList lists
      { headed with rates := (storedPrices x.prices).foldl (putRate pk) lists.rates } account) ↔
      AlreadySays lists x := by
  constructor
  · intro hsame
    obtain ⟨htariffs, hrates⟩ := hsame x.account
    rw [hheaded.own] at htariffs
    refine ⟨_, htariffs.symm, rfl, rfl, rfl, fun e he => ?_⟩
    have hmem : ⟨pk, x.name, x.currency, x.account, true⟩ ∈
        lists.tariffs.filter fun t => t.account = x.account := by
      rw [← htariffs]
      exact List.mem_singleton_self _
    have hprice := priceOf_congr (r := e.1) (hrates _ (List.mem_filter.1 hmem).1 rfl)
    rw [priceOf_foldl, if_pos rfl, getLast?_of_nodup (keys_storedPrices.nodup hnodup) he] at hprice
    exact hprice.symm
  · rintro ⟨t, hown, hname, hcurrency, hactive, hprices⟩ account
    obtain rfl := hfound t hown
    rw [foldl_putRate_eq_self hprices]
    refine ⟨?_, fun _ _ _ => rfl⟩
    by_cases haccount : account = x.account
    · rw [haccount, hheaded.own, hown]
      have hmem : t ∈ lists.tariffs.filter fun t => t.account = x.account := by
        rw [hown]
        exact List.mem_singleton_self t
      obtain ⟨pk, name, currency, own, active⟩ := t
      obtain rfl : own = x.account := by simpa using (List.mem_filter.1 hmem).2
      simp only at hname hcurrency hactive
      rw [hname, hcurrency, hactive]
    · refine hheaded.others _ fun t ht => decide_eq_false ?_
      rw [ht]
      exact Ne.symm haccount

end

/-- **A failed write.**  Where the tables keep their constraints, a write of a price list through a
view that fails leaves every list as it was exactly if it stops clean. -/
theorem failed_put_keeps_iff {c : Casing} {lists : PriceLists} {w : PriceWrite}
    (hlists : lists.Sound) (hput : w.IsPut) :
    ((writePriceLists c lists false w).1 ≠ .saved →
      ∀ account, SameList lists (writePriceLists c lists false w).2 account) ↔
        StopsClean c lists w := by
  cases htarget : w.target c with
  | none =>
    obtain ⟨-, hlists'⟩ : _ ∧ (writePriceLists c lists false w).2 = lists :=
      put_of_target_none hput htarget
    rw [hlists']
    exact iff_of_true (fun _ _ => ⟨rfl, fun _ _ _ => rfl⟩) fun x hx => by
      rw [htarget] at hx; cases hx
  | some x =>
    have hclean : StopsClean c lists w ↔ HeaderRefused lists x.account x.name x.currency ∨
        (∀ e ∈ x.prices, e.2.store ≠ none) ∨ AlreadySays lists x := by
      rw [StopsClean, htarget]
      exact ⟨fun h => h x rfl, fun h y hy => Option.some.inj hy ▸ h⟩
    rw [hclean, writePriceLists_of_target htarget]
    by_cases hrefused : HeaderRefused lists x.account x.name x.currency
    · rw [(write_of_headerRefused hrefused).2]
      exact iff_of_true (fun _ _ => ⟨rfl, fun _ _ _ => rfl⟩) (.inl hrefused)
    · obtain ⟨headed, pk, hupdate, hheaded, hwrite⟩ :=
        write_of_not_headerRefused hlists.keys hrefused
      rw [hwrite, or_iff_right hrefused]
      dsimp only
      by_cases hall : ∀ e ∈ x.prices, e.2.store ≠ none
      · rw [if_pos hall]
        exact iff_of_true (fun h => absurd rfl h) (.inl hall)
      · rw [if_neg hall, or_iff_right hall]
        refine Iff.trans ⟨fun h => h (by simp), fun h _ => h⟩
          (sameList_iff hheaded (fun t ht => ?_) (nodup_target hput htarget))
        simp only [PriceLists.updateTariff, ht, Option.some.injEq, Prod.mk.injEq] at hupdate
        exact hupdate.2.symm

/-- A list with one price. -/
def acmeLists : PriceLists :=
  ⟨[⟨1, "Acme price list", "UZS", "Acme", true⟩], [⟨1, .vcpu, ⟨10000000, by decide⟩⟩]⟩

/-- The list of the account written with a price for a processor, and a price too large. -/
def overflowingPut (vcpu : ℚ) : PriceWrite :=
  .panelPut "Acme" "UZS"
    (some [("vcpu", some (.number vcpu)), ("ram_gb", some (.number (10 ^ 20)))])

theorem sound_acmeLists : acmeLists.Sound := ⟨by decide, by decide⟩

theorem failed_put_keeps_iff_acme :
    ((writePriceLists .ascii acmeLists false (overflowingPut 1000)).1 ≠ .saved →
      ∀ account, SameList acmeLists
        (writePriceLists .ascii acmeLists false (overflowingPut 1000)).2 account) ↔
      StopsClean .ascii acmeLists (overflowingPut 1000) :=
  failed_put_keeps_iff sound_acmeLists trivial

/-- The request fails at the second price, and the first is written. -/
theorem half_written : acmeLists.Sound ∧ (overflowingPut 2000).IsPut ∧
    (writePriceLists .ascii acmeLists false (overflowingPut 2000)).1 = .refused (.db .data) ∧
    ¬ SameList acmeLists
      (writePriceLists .ascii acmeLists false (overflowingPut 2000)).2 "Acme" := by
  refine ⟨sound_acmeLists, trivial, by decide +kernel, fun h => ?_⟩
  have hrates := h.2 ⟨1, "Acme price list", "UZS", "Acme", true⟩ (List.mem_singleton_self _) rfl
  revert hrates
  decide +kernel

end OpenCloud
