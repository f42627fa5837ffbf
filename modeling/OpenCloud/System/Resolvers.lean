import OpenCloud.Billing.PriceLists
import OpenCloud.Platform.BillingViews
import Mathlib.Data.String.Basic

/-!
# Two resolvers of the price list

The engine takes the first list, in the order of the table, whose account equals the name ignoring
case; the panel keeps the last of them in a dictionary.  They give one answer exactly when one list
at most answers to the name (`same_rule_iff`).

## Main results

* `own_tariffOf` : the panel's own list of an account is the last that answers to the name.
* `resolveTariff_eq` : the engine's is the first.
-/

namespace OpenCloud

/-- In lower case only the empty name is blank. -/
def Casing.BlankOn (c : Casing) (names : List String) : Prop :=
  ∀ a ∈ names, c.lower a = c.lower "" → a = ""

/-- The lists of named accounts that answer to a name, in the order of the table. -/
def answering (c : Casing) (tariffs : List Tariff) (account : String) : List Tariff :=
  (tariffs.filter fun t => t.account ≠ "" ∧ c.iexact t.account account).insertionSort Tariff.le

instance : Std.Total Tariff.le :=
  inferInstanceAs (Std.Total (Table.ByTwo Tariff.account Tariff.name))

instance : IsTrans Tariff Tariff.le :=
  inferInstanceAs (IsTrans _ (Table.ByTwo Tariff.account Tariff.name))

section Resolvers

variable {c : Casing} {tariffs : List Tariff} {account : String}

/-- The shared default, of the active lists in the order of the table. -/
def defaultTariff (tariffs : List Tariff) : Option Tariff :=
  Table.firstBy Tariff.le (tariffs.filter fun t => t.account = "")

theorem iexact_iff_of_agreeOn (hcase : c.AgreeOn (account :: tariffs.map Tariff.account))
    {t : Tariff} (ht : t ∈ tariffs) :
    c.iexact t.account account ↔ c.lower t.account = c.lower account :=
  hcase _ (List.mem_cons_of_mem _ (List.mem_map_of_mem ht)) _ List.mem_cons_self

theorem blank_iff_of_blankOn (hblank : c.BlankOn (account :: tariffs.map Tariff.account))
    {t : Tariff} (ht : t ∈ tariffs) (h : c.lower t.account = c.lower account) : t.account = "" ↔
      account = "" := by
  constructor
  · intro ht'
    rw [ht'] at h
    exact hblank _ List.mem_cons_self h.symm
  · intro haccount
    rw [haccount] at h
    exact hblank _ (List.mem_cons_of_mem _ (List.mem_map_of_mem ht)) h

/-- The engine takes the first list that answers, else the default. -/
theorem resolveTariff_eq (hactive : ∀ t ∈ tariffs, t.isActive = true)
    (hcase : c.AgreeOn (account :: tariffs.map Tariff.account))
    (hblank : c.BlankOn (account :: tariffs.map Tariff.account)) :
    resolveTariff c tariffs account =
      (answering c tariffs account).head?.or (defaultTariff tariffs) := by
  have hdefault : (tariffs.filter fun t => t.isActive = true ∧ t.account = "") =
      tariffs.filter fun t => t.account = "" :=
    List.filter_congr fun t ht => by simp [hactive t ht]
  unfold resolveTariff
  dsimp only
  rw [hdefault, Option.orElse_eq_orElse, Option.orElse_eq_or]
  by_cases haccount : account = ""
  · -- only the shared lists answer to the blank name
    have hown : (tariffs.filter fun t => t.isActive = true ∧ c.iexact t.account account) =
        tariffs.filter fun t => t.account = "" := by
      refine List.filter_congr fun t ht => ?_
      rw [decide_eq_decide]
      constructor
      · intro h
        exact (blank_iff_of_blankOn hblank ht ((iexact_iff_of_agreeOn hcase ht).1 h.2)).2 haccount
      · intro h
        rw [h, haccount]
        exact ⟨hactive t ht, Casing.iexact_refl c ""⟩
    have hnone : answering c tariffs account = [] := by
      have hnot : ∀ t ∈ tariffs, ¬ (t.account ≠ "" ∧ c.iexact t.account account) := fun t ht h =>
        h.1 ((blank_iff_of_blankOn hblank ht ((iexact_iff_of_agreeOn hcase ht).1 h.2)).2 haccount)
      rw [answering, List.filter_eq_nil_iff.2 fun t ht => by simpa using hnot t ht]
      rfl
    rw [hown, hnone]
    exact Option.or_self
  · have hown : (tariffs.filter fun t => t.isActive = true ∧ c.iexact t.account account) =
        tariffs.filter fun t => t.account ≠ "" ∧ c.iexact t.account account := by
      refine List.filter_congr fun t ht => ?_
      rw [decide_eq_decide]
      constructor
      · intro h
        exact ⟨fun ht' =>
          haccount
            ((blank_iff_of_blankOn hblank ht ((iexact_iff_of_agreeOn hcase ht).1 h.2)).1 ht'), h.2⟩
      · intro h
        exact ⟨hactive t ht, h.2⟩
    rw [hown]
    rfl

/-- The panel's own list of an account is the last that answers to the name. -/
theorem own_tariffOf (hcase : c.AgreeOn (account :: tariffs.map Tariff.account)) :
    Dict.get? (((tariffs.insertionSort Tariff.le).filter fun t => t.account ≠ "").foldl
      (fun d t => Dict.set d (c.lower t.account) t) ([] : Dict String Tariff)) (c.lower account) =
      (answering c tariffs account).getLast? := by
  rw [Table.filter_insertionSort, Table.get?_foldl_set_ordered, answering]
  congr 2
  refine List.filter_congr fun t ht => ?_
  rw [decide_eq_decide, iexact_iff_of_agreeOn hcase ht]

theorem tariffOf_eq (hactive : ∀ t ∈ tariffs, t.isActive = true)
    (hcase : c.AgreeOn (account :: tariffs.map Tariff.account)) :
    tariffOf c tariffs account =
      (answering c tariffs account).getLast?.or (defaultTariff tariffs) := by
  have hlisted : (tariffs.filter fun t => t.isActive) = tariffs :=
    List.filter_eq_self.2 fun t ht => hactive t ht
  unfold tariffOf
  dsimp only
  rw [hlisted, own_tariffOf hcase, Option.orElse_eq_orElse, Option.orElse_eq_or,
    ← List.head?_filter, Table.filter_insertionSort]
  rfl

end Resolvers

/-- **One rule.**  After any writes of price lists, the panel prices an account by the list the
engine prices it by, with its rates, exactly if at most one list of a named account answers to the
name. -/
theorem same_rule_iff {c : Casing} {ws : List (Bool × PriceWrite)} {lists : PriceLists}
    (hrun : (pricing c).Run System.Free .empty ws lists) (account : String)
    (hcase : c.AgreeOn (account :: lists.tariffs.map Tariff.account))
    (hblank : c.BlankOn (account :: lists.tariffs.map Tariff.account)) :
    (tariffOf c lists.tariffs account = resolveTariff c lists.tariffs account ∧
      rateMap lists.rates (tariffOf c lists.tariffs account) =
        rateMap lists.rates (resolveTariff c lists.tariffs account)) ↔
      (answering c lists.tariffs account).length ≤ 1 := by
  have hwritten := written_of_run hrun
  have hnodup : (answering c lists.tariffs account).Nodup :=
    (List.perm_insertionSort _ _).nodup_iff.2 (hwritten.keys.of_map.filter _)
  rw [and_iff_left_of_imp fun h => by rw [h], tariffOf_eq hwritten.active hcase,
    resolveTariff_eq hwritten.active hcase hblank, ← Table.head?_eq_getLast?_iff hnodup]
  cases hl : answering c lists.tariffs account with
  | nil => simp
  | cons t rest =>
    rw [List.head?_cons, List.getLast?_cons, Option.some_or, Option.some_or]
    exact eq_comm

/-- The list of an account is written by its name, then by another spelling. -/
def acmeTwice : List (Bool × PriceWrite) :=
  [(false, .panelPut "Acme" "UZS" (some [("vcpu", some (.number 1000))])),
    (false, .panelPut "ACME" "UZS" (some [("vcpu", some (.number 2000))]))]

/-- The first of the two writes. -/
def acmeOnce : List (Bool × PriceWrite) := acmeTwice.take 1

theorem tariffs_acmeOnce : ∃ lists, (pricing .ascii).Run System.Free .empty acmeOnce lists ∧
    lists.tariffs = [⟨1, "Acme price list", "UZS", "Acme", true⟩] := by
  have hexec : (System.execAll (fun lists (w : Bool × PriceWrite) =>
      some (writePriceLists .ascii lists w.1 w.2).2) System.Free [] PriceLists.empty acmeOnce).map
        PriceLists.tariffs = some [⟨1, "Acme price list", "UZS", "Acme", true⟩] := by decide +kernel
  obtain ⟨lists, hlists, htariffs⟩ := Option.map_eq_some_iff.1 hexec
  exact ⟨lists, System.Run.of_exec hlists, htariffs⟩

theorem same_rule_iff_acmeOnce : ∃ lists, (pricing .ascii).Run System.Free .empty acmeOnce lists ∧
    ((tariffOf .ascii lists.tariffs "acme" = resolveTariff .ascii lists.tariffs "acme" ∧
      rateMap lists.rates (tariffOf .ascii lists.tariffs "acme") =
        rateMap lists.rates (resolveTariff .ascii lists.tariffs "acme")) ↔
      (answering .ascii lists.tariffs "acme").length ≤ 1) := by
  obtain ⟨lists, hrun, htariffs⟩ := tariffs_acmeOnce
  refine ⟨lists, hrun, same_rule_iff hrun "acme" ?_ ?_⟩
  · rw [htariffs]
    unfold Casing.AgreeOn
    decide +kernel
  · rw [htariffs]
    unfold Casing.BlankOn
    decide +kernel

/-- The panel prices the account by one list, the engine by the other. -/
theorem priced_two_ways : ∃ lists, (pricing .ascii).Run System.Free .empty acmeTwice lists ∧
    Casing.ascii.AgreeOn ("acme" :: lists.tariffs.map Tariff.account) ∧
    ¬ (tariffOf .ascii lists.tariffs "acme" = resolveTariff .ascii lists.tariffs "acme" ∧
      rateMap lists.rates (tariffOf .ascii lists.tariffs "acme") =
        rateMap lists.rates (resolveTariff .ascii lists.tariffs "acme")) := by
  have hexec : (System.execAll (fun lists (w : Bool × PriceWrite) =>
      some (writePriceLists .ascii lists w.1 w.2).2) System.Free [] PriceLists.empty acmeTwice).map
        PriceLists.tariffs = some [⟨1, "Acme price list", "UZS", "Acme", true⟩,
          ⟨2, "ACME price list", "UZS", "ACME", true⟩] := by decide +kernel
  obtain ⟨lists, hlists, htariffs⟩ := Option.map_eq_some_iff.1 hexec
  refine ⟨lists, System.Run.of_exec hlists, ?_, fun h => ?_⟩
  · rw [htariffs]
    unfold Casing.AgreeOn
    decide +kernel
  · have hsame := h.1
    rw [htariffs] at hsame
    revert hsame
    decide +kernel

end OpenCloud
