import OpenCloud.Billing.PriceLists
import Mathlib.Data.Fintype.Defs

/-!
# The first price list

On every start `ensure` gives a deployment its prices, if it has none.  It looks for a list, adds
one, and adds the prices of the one it added: three statements, each committed by itself.  Starts
may overlap, and one may die between any two of its statements.

## Main results

* `priced_once_iff` : there is one list with all its prices exactly if no start added its list
  beside another one, and none died with its own list still unpriced.
-/

namespace OpenCloud

/-- Where a start is. -/
inductive EnsurePhase where
  | idle
  /-- It found no list. -/
  | vacant
  /-- It added a list, of this key. -/
  | listed (pk : ℕ)
  | returned (created : Bool)
  | dead
  deriving DecidableEq

/-- It is between two statements. -/
def EnsurePhase.UnderWay : EnsurePhase → Prop
  | vacant | listed _ => True
  | _ => False

instance : DecidablePred EnsurePhase.UnderWay := fun phase => by
  cases phase <;> unfold EnsurePhase.UnderWay <;> infer_instance

/-- The statements of `ensure`. -/
inductive EnsureStatement where
  /-- `Tariff.objects.exists()`. -/
  | look
  /-- `Tariff.objects.create(…)`. -/
  | create
  /-- `TariffRate.objects.bulk_create(…)`. -/
  | bulkCreate
  /-- The process dies before the next one. -/
  | crash
  deriving DecidableEq

namespace PriceLists

/-- The prices that `ensure` gives its list. -/
def firstRates (pk : ℕ) : List TariffRate :=
  firstPrices.filterMap fun e => e.2.store.map fun price => ⟨pk, e.1, price⟩

/-- `bulk_create`: all of the rows, or none where the constraint on list and resource refuses
one. -/
def bulkCreate (lists : PriceLists) (rows : List TariffRate) : Option PriceLists :=
  if ∃ row ∈ rows, ∃ rate ∈ lists.rates, rate.tariff = row.tariff ∧
    rate.resource = row.resource then none
  else some { lists with rates := lists.rates ++ rows }

/-- The list has a price for every resource. -/
def Complete (lists : PriceLists) (t : Tariff) : Prop :=
  ∀ r, ∃ rate ∈ lists.rates, rate.tariff = t.pk ∧ rate.resource = r

/-- There is one default list, and it is complete. -/
def PricedOnce (lists : PriceLists) : Prop :=
  ∃ t, (lists.tariffs.filter fun t => t.account = "") = [t] ∧ lists.Complete t

/-- Every complete list is still there, with the prices it had. -/
def KeptIn (lists lists' : PriceLists) : Prop := ∀ t ∈ lists.tariffs, lists.Complete t →
  t ∈ lists'.tariffs ∧ (lists'.rates.filter fun rate => rate.tariff = t.pk) =
    lists.rates.filter fun rate => rate.tariff = t.pk

/-- Keys are distinct and every price belongs to a list. -/
structure Keyed (lists : PriceLists) : Prop where
  keys : (lists.tariffs.map Tariff.pk).Nodup
  owned : ∀ rate ∈ lists.rates, rate.tariff ∈ lists.tariffs.map Tariff.pk

end PriceLists

/-- The tables, and where each start is. -/
structure Starting (ι : Type*) where
  lists : PriceLists
  phase : ι → EnsurePhase

namespace Starting

variable {ι : Type*} [DecidableEq ι]

/-- Nothing has started. -/
def before (lists : PriceLists) : Starting ι := ⟨lists, fun _ => .idle⟩

/-- One start goes on, the tables as they are. -/
def goto (s : Starting ι) (i : ι) (phase : EnsurePhase) : Starting ι :=
  { s with phase := Function.update s.phase i phase }

/-- One statement of a start. -/
def exec (s : Starting ι) : ι × EnsureStatement → Option (Starting ι)
  | (i, .look) =>
    if s.phase i = .idle then
      some (s.goto i (if s.lists.tariffs = [] then .vacant else .returned false))
    else none
  | (i, .create) =>
    if s.phase i = .vacant then
      let (lists, pk) := s.lists.create "" "Default price list" "UZS"
      some ⟨lists, Function.update s.phase i (.listed pk)⟩
    else none
  | (i, .bulkCreate) => match s.phase i with
    | .listed pk => match s.lists.bulkCreate (PriceLists.firstRates pk) with
      | some lists => some ⟨lists, Function.update s.phase i (.returned true)⟩
      | none => some (s.goto i .dead)
    | _ => none
  | (i, .crash) => match s.phase i with
    | .vacant | .listed _ => some (s.goto i .dead)
    | _ => none

/-- No start is under way. -/
def Ended (s : Starting ι) : Prop := ∀ i, ¬ (s.phase i).UnderWay

/-- A start has completed. -/
def Completed (s : Starting ι) (i : ι) : Prop := ∃ created, s.phase i = .returned created

/-- A start began after all that died had died, and completed. -/
def CompletedLast (es : List (ι × EnsureStatement)) (s : Starting ι) : Prop :=
  ∃ i es₁ es₂, es = es₁ ++ (i, .look) :: es₂ ∧ (∀ e ∈ es₂, e.2 ≠ .crash) ∧ s.Completed i

/-- A list is added only while there is none, and no start dies with its list unpriced. -/
def InTurn (s : Starting ι) : ι × EnsureStatement → Prop
  | (_, .create) => s.lists.tariffs = []
  | (i, .crash) => ∀ pk, s.phase i ≠ .listed pk
  | _ => True

end Starting

/-- Starts of the service, in any number. -/
def starting (ι : Type*) [DecidableEq ι] : System (Starting ι) (ι × EnsureStatement) :=
  System.ofExec Starting.exec

section

variable {lists : PriceLists} {pk : ℕ}

theorem create_tariffs : (lists.create "" "Default price list" "UZS").1.tariffs =
    lists.tariffs ++ [⟨lists.nextPk, "Default price list", "UZS", "", true⟩] := rfl

theorem tariff_of_mem_firstRates {rate : TariffRate} (h : rate ∈ PriceLists.firstRates pk) :
    rate.tariff = pk := by
  obtain ⟨e, -, hrate⟩ := List.mem_filterMap.1 h
  obtain ⟨price, -, rfl⟩ := Option.map_eq_some_iff.1 hrate
  rfl

theorem exists_mem_firstRates (pk : ℕ) (r : Resource) :
    ∃ rate ∈ PriceLists.firstRates pk, rate.tariff = pk ∧ rate.resource = r := by
  have hprice : ∃ e ∈ firstPrices, e.1 = r ∧ (e.2.store).isSome := by
    cases r <;> decide +kernel
  obtain ⟨e, he, rfl, hstore⟩ := hprice
  obtain ⟨price, hprice⟩ := Option.isSome_iff_exists.1 hstore
  exact ⟨⟨pk, e.1, price⟩, List.mem_filterMap.2 ⟨e, he, by rw [hprice]; rfl⟩, rfl, rfl⟩

theorem bulkCreate_firstRates (h : ∀ rate ∈ lists.rates, rate.tariff ≠ pk) :
    lists.bulkCreate (PriceLists.firstRates pk) =
      some { lists with rates := lists.rates ++ PriceLists.firstRates pk } := by
  refine if_neg ?_
  rintro ⟨row, hrow, rate, hrate, htariff, -⟩
  exact h rate hrate (htariff.trans (tariff_of_mem_firstRates hrow))

theorem PriceLists.keyed_empty : PriceLists.empty.Keyed :=
  ⟨List.nodup_nil, fun _ hrate => absurd hrate List.not_mem_nil⟩

variable {ι : Type*} [DecidableEq ι] {s s' : Starting ι} {e : ι × EnsureStatement}
  {es : List (ι × EnsureStatement)} {i j : ι} {phase : EnsurePhase}

/-! ### One statement -/

/-- The tables are in order, and each list that is being priced has no price yet and one start of
its own. -/
structure Coherent (s : Starting ι) : Prop where
  keyed : s.lists.Keyed
  pending : ∀ i pk, s.phase i = .listed pk →
    pk ∈ s.lists.tariffs.map Tariff.pk ∧ ∀ rate ∈ s.lists.rates, rate.tariff ≠ pk
  apart : ∀ i j pk, s.phase i = .listed pk → s.phase j = .listed pk → i = j

/-- What a statement does. -/
theorem starting_cases (hs : Coherent s) (h : (starting ι).step s e s') : ∃ i,
    (e = (i, .look) ∧ s.phase i = .idle ∧
      s' = s.goto i (if s.lists.tariffs = [] then .vacant else .returned false)) ∨
    (e = (i, .create) ∧ s.phase i = .vacant ∧
      s' = ⟨(s.lists.create "" "Default price list" "UZS").1,
        Function.update s.phase i (.listed s.lists.nextPk)⟩) ∨
    (∃ pk, e = (i, .bulkCreate) ∧ s.phase i = .listed pk ∧
      s' = ⟨{ s.lists with rates := s.lists.rates ++ PriceLists.firstRates pk },
        Function.update s.phase i (.returned true)⟩) ∨
    (e = (i, .crash) ∧ (s.phase i = .vacant ∨ ∃ pk, s.phase i = .listed pk) ∧
      s' = s.goto i .dead) := by
  obtain ⟨i, statement⟩ := e
  refine ⟨i, ?_⟩
  change s.exec (i, statement) = some s' at h
  cases statement with
  | look =>
    simp only [Starting.exec] at h
    split_ifs at h with hphase
    · exact .inl ⟨rfl, hphase, by rw [if_pos (by assumption)]; exact (Option.some.inj h).symm⟩
    · exact .inl ⟨rfl, hphase, by rw [if_neg (by assumption)]; exact (Option.some.inj h).symm⟩
  | create =>
    simp only [Starting.exec] at h
    split_ifs at h with hphase
    exact .inr (.inl ⟨rfl, hphase, (Option.some.inj h).symm⟩)
  | bulkCreate =>
    simp only [Starting.exec] at h
    cases hphase : s.phase i with
    | listed pk =>
      simp only [hphase, bulkCreate_firstRates (hs.pending i pk hphase).2] at h
      exact .inr (.inr (.inl ⟨pk, rfl, rfl, (Option.some.inj h).symm⟩))
    | _ => simp [hphase] at h
  | crash =>
    simp only [Starting.exec] at h
    cases hphase : s.phase i with
    | vacant =>
      simp only [hphase] at h
      exact .inr (.inr (.inr ⟨rfl, .inl rfl, (Option.some.inj h).symm⟩))
    | listed pk =>
      simp only [hphase] at h
      exact .inr (.inr (.inr ⟨rfl, .inr ⟨pk, rfl⟩, (Option.some.inj h).symm⟩))
    | _ => simp [hphase] at h

theorem phase_update (h : Function.update s.phase i phase j = .listed pk)
    (hphase : phase ≠ .listed pk) : s.phase j = .listed pk ∧ j ≠ i := by
  by_cases hj : j = i
  · subst hj
    rw [Function.update_self] at h
    exact absurd h hphase
  · rw [Function.update_of_ne hj] at h
    exact ⟨h, hj⟩

theorem listed_goto (hj : s.phase j = .listed pk) (hi : s.phase i ≠ .listed pk) :
    (s.goto i phase).phase j = .listed pk := by
  have hji : j ≠ i := by
    rintro rfl
    exact hi hj
  exact (Function.update_of_ne hji _ _).trans hj

theorem not_completed_goto (h : ∀ j, ¬ s.Completed j)
    (hphase : ∀ created, phase ≠ .returned created) (j : ι) :
    ¬ (s.goto i phase).Completed j := by
  rintro ⟨created, hj⟩
  by_cases hji : j = i
  · subst hji
    exact hphase created ((Function.update_self _ _ _).symm.trans hj)
  · exact h j ⟨created, (Function.update_of_ne hji _ _).symm.trans hj⟩

theorem Coherent.goto (hs : Coherent s) (i : ι) (h : ∀ pk, phase ≠ .listed pk) :
    Coherent (s.goto i phase) where
  keyed := hs.keyed
  pending := fun _ pk hj => hs.pending _ pk (phase_update hj (h pk)).1
  apart := fun _ _ pk hj hk => hs.apart _ _ pk (phase_update hj (h pk)).1 (phase_update hk (h pk)).1

omit [DecidableEq ι] in
theorem Coherent.not_listed_nextPk (hs : Coherent s) (j : ι) : s.phase j ≠ .listed s.lists.nextPk :=
  fun hj => nextPk_notMem (hs.pending j _ hj).1

/-- Adding a list keeps them coherent: its key is new. -/
theorem Coherent.create (hs : Coherent s) (i : ι) : Coherent
    (⟨(s.lists.create "" "Default price list" "UZS").1,
      Function.update s.phase i (.listed s.lists.nextPk)⟩ : Starting ι) := by
  have hnew : ∀ rate ∈ s.lists.rates, rate.tariff ≠ s.lists.nextPk := fun rate hrate heq =>
    nextPk_notMem (heq ▸ hs.keyed.owned rate hrate)
  have hold : ∀ pk ∈ s.lists.tariffs.map Tariff.pk, pk ≠ s.lists.nextPk := fun pk hpk =>
    ne_of_mem_of_not_mem hpk nextPk_notMem
  have hkeys : (s.lists.create "" "Default price list" "UZS").1.tariffs.map Tariff.pk =
      s.lists.tariffs.map Tariff.pk ++ [s.lists.nextPk] := by
    rw [create_tariffs, List.map_append]
    rfl
  -- only the start that created the list has its key
  have hphase : ∀ j pk, Function.update s.phase i (.listed s.lists.nextPk) j = .listed pk →
      (j = i ∧ pk = s.lists.nextPk) ∨ (s.phase j = .listed pk ∧ pk ≠ s.lists.nextPk) := by
    intro j pk hj
    by_cases hpk : pk = s.lists.nextPk
    · subst hpk
      by_cases hji : j = i
      · exact .inl ⟨hji, rfl⟩
      · rw [Function.update_of_ne hji] at hj
        exact absurd hj (hs.not_listed_nextPk j)
    · obtain ⟨hj, -⟩ := phase_update hj fun heq => hpk (EnsurePhase.listed.inj heq).symm
      exact .inr ⟨hj, hpk⟩
  constructor
  case keyed =>
    refine ⟨?_, fun rate hrate => ?_⟩
    · rw [hkeys, List.nodup_append]
      exact ⟨hs.keyed.keys, List.nodup_singleton _,
        fun pk hpk pk' hpk' => List.mem_singleton.1 hpk' ▸ hold pk hpk⟩
    · rw [hkeys]
      exact List.mem_append_left _ (hs.keyed.owned rate hrate)
  case pending =>
    intro j pk hj
    rw [hkeys]
    rcases hphase j pk hj with ⟨-, rfl⟩ | ⟨hj, -⟩
    · exact ⟨List.mem_append_right _ (List.mem_singleton_self _), hnew⟩
    · exact ⟨List.mem_append_left _ (hs.pending j pk hj).1, (hs.pending j pk hj).2⟩
  case apart =>
    intro j k pk hj hk
    rcases hphase j pk hj with ⟨rfl, hpk⟩ | ⟨hj, hpk⟩
    · rcases hphase k pk hk with ⟨rfl, -⟩ | ⟨-, hne⟩
      · rfl
      · exact absurd hpk hne
    · rcases hphase k pk hk with ⟨-, heq⟩ | ⟨hk, -⟩
      · exact absurd heq hpk
      · exact hs.apart j k pk hj hk

/-- So does pricing it: the others wait for keys of their own. -/
theorem Coherent.bulkCreate (hs : Coherent s) {i : ι} (hi : s.phase i = .listed pk) : Coherent
    (⟨{ s.lists with rates := s.lists.rates ++ PriceLists.firstRates pk },
      Function.update s.phase i (.returned true)⟩ : Starting ι) := by
  have hphase : ∀ j pk', Function.update s.phase i (.returned true) j = .listed pk' →
      s.phase j = .listed pk' ∧ j ≠ i := fun j pk' hj => phase_update hj (by simp)
  constructor
  case keyed =>
    refine ⟨hs.keyed.keys, fun rate hrate => ?_⟩
    rcases List.mem_append.1 hrate with hrate | hrate
    · exact hs.keyed.owned rate hrate
    · rw [tariff_of_mem_firstRates hrate]
      exact (hs.pending i pk hi).1
  case pending =>
    intro j pk' hj
    obtain ⟨hj, hne⟩ := hphase j pk' hj
    refine ⟨(hs.pending j pk' hj).1, fun rate hrate => ?_⟩
    rcases List.mem_append.1 hrate with hrate | hrate
    · exact (hs.pending j pk' hj).2 rate hrate
    · rw [tariff_of_mem_firstRates hrate]
      rintro rfl
      exact hne (hs.apart j i pk hj hi)
  case apart => exact fun j k pk' hj hk => hs.apart j k pk' (hphase j pk' hj).1 (hphase k pk' hk).1

theorem coherent_step (hs : Coherent s) (h : (starting ι).step s e s') : Coherent s' := by
  obtain ⟨i, ⟨-, -, rfl⟩ | ⟨-, -, rfl⟩ | ⟨pk, -, hi, rfl⟩ | ⟨-, -, rfl⟩⟩ := starting_cases hs h
  · exact hs.goto i fun pk => by split_ifs <;> simp
  · exact hs.create i
  · exact hs.bulkCreate hi
  · exact hs.goto i fun pk => by simp

omit [DecidableEq ι] in
theorem coherent_before (h : lists.Keyed) : Coherent (.before lists : Starting ι) :=
  ⟨h, fun _ _ hi => (by cases hi), fun _ _ _ hi => (by cases hi)⟩

/-! ### Complete lists are kept -/

theorem keptIn_step (hs : Coherent s) (h : (starting ι).step s e s') : s.lists.KeptIn s'.lists := by
  intro t ht hcomplete
  obtain ⟨i, ⟨-, -, rfl⟩ | ⟨-, -, rfl⟩ | ⟨pk, -, hi, rfl⟩ | ⟨-, -, rfl⟩⟩ := starting_cases hs h
  · exact ⟨ht, rfl⟩
  · exact ⟨List.mem_append_left _ ht, rfl⟩
  · refine ⟨ht, ?_⟩
    -- the list being priced has no prices, so it is another one
    have hother : t.pk ≠ pk := by
      rintro rfl
      obtain ⟨rate, hrate, htariff, -⟩ := hcomplete .vcpu
      exact (hs.pending i t.pk hi).2 rate hrate htariff
    have hnone : ((PriceLists.firstRates pk).filter fun rate => rate.tariff = t.pk) = [] := by
      refine List.filter_eq_nil_iff.2 fun rate hrate heq => hother ?_
      rw [← of_decide_eq_true heq, tariff_of_mem_firstRates hrate]
    rw [List.filter_append, hnone, List.append_nil]
  · exact ⟨ht, rfl⟩

theorem PriceLists.KeptIn.trans {lists' lists'' : PriceLists} (h : lists.KeptIn lists')
    (h' : lists'.KeptIn lists'') :
    lists.KeptIn lists'' := by
  intro t ht hcomplete
  obtain ⟨ht', hrates⟩ := h t ht hcomplete
  have hcomplete' : lists'.Complete t := by
    intro r
    obtain ⟨rate, hrate, htariff, hresource⟩ := hcomplete r
    have hmem : rate ∈ lists.rates.filter fun rate => rate.tariff = t.pk :=
      List.mem_filter.2 ⟨hrate, decide_eq_true htariff⟩
    rw [← hrates] at hmem
    exact ⟨rate, List.mem_of_mem_filter hmem, htariff, hresource⟩
  obtain ⟨ht'', hrates'⟩ := h' t ht' hcomplete'
  exact ⟨ht'', hrates'.trans hrates⟩

theorem keptIn_of_run (hs : Coherent s) (hrun : (starting ι).Run System.Free s es s') :
    s.lists.KeptIn s'.lists := by
  have hboth : Coherent s' ∧ s.lists.KeptIn s'.lists := by
    refine hrun.keeps (I := fun s' => Coherent s' ∧ s.lists.KeptIn s'.lists)
      ⟨hs, fun t ht _ => ⟨ht, rfl⟩⟩ fun s₁ e s₂ h₁ hstep => ?_
    exact ⟨coherent_step h₁.1 hstep, h₁.2.trans (keptIn_step h₁.1 hstep)⟩
  exact hboth.2

/-! ### One list, with all its prices -/

/-- There are two lists, or one that nobody will price. -/
def Spoiled (s : Starting ι) : Prop :=
  2 ≤ s.lists.tariffs.length ∨ ∃ pk ∈ s.lists.tariffs.map Tariff.pk,
  (∀ rate ∈ s.lists.rates, rate.tariff ≠ pk) ∧ ∀ i, s.phase i ≠ .listed pk

theorem Spoiled.goto (h : Spoiled s) (i : ι) (hphase : ∀ pk, phase ≠ .listed pk) :
    Spoiled (s.goto i phase) :=
  h.imp_right fun ⟨pk, hpk, hrates, hnobody⟩ =>
    ⟨pk, hpk, hrates, fun j hj => hnobody j (phase_update hj (hphase pk)).1⟩

theorem spoiled_step (hs : Coherent s) (hspoiled : Spoiled s) (h : (starting ι).step s e s') :
    Spoiled s' := by
  obtain ⟨i, ⟨-, -, rfl⟩ | ⟨-, -, rfl⟩ | ⟨pk, -, hi, rfl⟩ | ⟨-, -, rfl⟩⟩ := starting_cases hs h
  · exact hspoiled.goto i fun pk => by split_ifs <;> simp
  · rcases hspoiled with hlength | ⟨pk, hpk, -⟩
    · exact .inl (by rw [create_tariffs, List.length_append]; omega)
    · obtain ⟨t, ht, -⟩ := List.mem_map.1 hpk
      have hpos := List.length_pos_of_mem ht
      exact .inl (by rw [create_tariffs, List.length_append, List.length_singleton]; omega)
  · refine hspoiled.imp_right fun ⟨pk', hpk, hrates, hnobody⟩ =>
      ⟨pk', hpk, fun rate hrate => ?_, fun j hj => ?_⟩
    · rcases List.mem_append.1 hrate with hrate | hrate
      · exact hrates rate hrate
      · rw [tariff_of_mem_firstRates hrate]
        rintro rfl
        exact hnobody i hi
    · exact hnobody j (phase_update hj (by simp)).1
  · exact hspoiled.goto i fun pk => by simp

theorem spoiled_of_not_inTurn (hs : Coherent s) (h : (starting ι).step s e s')
    (hturn : ¬ s.InTurn e) :
    Spoiled s' := by
  obtain ⟨i, ⟨rfl, -, rfl⟩ | ⟨rfl, -, rfl⟩ | ⟨pk, rfl, -, rfl⟩ | ⟨rfl, -, rfl⟩⟩ :=
    starting_cases hs h
  · exact absurd trivial hturn
  · have hpos : 0 < s.lists.tariffs.length := List.length_pos_iff.2 hturn
    exact .inl (by rw [create_tariffs, List.length_append, List.length_singleton]; omega)
  · exact absurd trivial hturn
  · obtain ⟨pk, hi⟩ : ∃ pk, s.phase i = .listed pk := not_forall_not.1 hturn
    refine .inr ⟨pk, (hs.pending i pk hi).1, (hs.pending i pk hi).2, fun j hj => ?_⟩
    obtain ⟨hj, hne⟩ := phase_update hj (by simp)
    exact hne (hs.apart j i pk hj hi)

theorem inTurn_of_not_spoiled (hlists : lists.Keyed)
    (hrun : (starting ι).Run System.Free (.before lists) es s) (h : ¬ Spoiled s) :
    Coherent s ∧ (starting ι).Run (fun _ s e => s.InTurn e) (.before lists) es s := by
  induction hrun with
  | nil => exact ⟨coherent_before hlists, .nil⟩
  | @snoc es s s' e hrun _ hstep ih =>
    have hs : Coherent s := hrun.keeps (coherent_before hlists) fun _ _ _ => coherent_step
    have hbefore : ¬ Spoiled s := fun hspoiled => h (spoiled_step hs hspoiled hstep)
    have hturn : s.InTurn e := not_not.1 fun hturn => h (spoiled_of_not_inTurn hs hstep hturn)
    exact ⟨coherent_step hs hstep, (ih hbefore).2.snoc hturn hstep⟩

/-- There is no list and no start has completed, or one list that is complete or being priced. -/
def Tidy (s : Starting ι) : Prop :=
  (s.lists.tariffs = [] ∧ ∀ i, ¬ s.Completed i) ∨
    ∃ t, s.lists.tariffs = [t] ∧ t.account = "" ∧
      (s.lists.Complete t ∨ ∃ i, s.phase i = .listed t.pk)

/-- Statements in their turn keep the tables tidy. -/
theorem tidy_step (hs : Coherent s) (htidy : Tidy s) (hturn : s.InTurn e)
    (h : (starting ι).step s e s') :
    Tidy s' := by
  obtain ⟨i, ⟨rfl, hi, rfl⟩ | ⟨rfl, -, rfl⟩ | ⟨pk, rfl, hi, rfl⟩ | ⟨rfl, hi, rfl⟩⟩ :=
    starting_cases hs h
  · rcases htidy with ⟨hnone, hcompleted⟩ | ⟨t, hone, haccount, hpriced⟩
    · refine .inl ⟨hnone, not_completed_goto hcompleted fun created => ?_⟩
      rw [if_pos hnone]
      simp
    · refine .inr ⟨t, hone, haccount, hpriced.imp_right fun ⟨j, hj⟩ => ⟨j, listed_goto hj ?_⟩⟩
      simp [hi]
  · -- the list is added to none
    have hnone : s.lists.tariffs = [] := hturn
    exact .inr ⟨_, by rw [create_tariffs, hnone]; rfl, rfl, .inr ⟨i, Function.update_self _ _ _⟩⟩
  · rcases htidy with ⟨hnone, -⟩ | ⟨t, hone, haccount, -⟩
    · have hmem := (hs.pending i pk hi).1
      rw [hnone] at hmem
      exact absurd hmem List.not_mem_nil
    · have hpk : pk = t.pk := by
        have hmem := (hs.pending i pk hi).1
        rw [hone] at hmem
        exact List.mem_singleton.1 hmem
      refine .inr ⟨t, hone, haccount, .inl fun r => ?_⟩
      obtain ⟨rate, hrate, htariff, hresource⟩ := exists_mem_firstRates pk r
      exact ⟨rate, List.mem_append_right _ hrate, htariff.trans hpk, hresource⟩
  · rcases htidy with ⟨hnone, hcompleted⟩ | ⟨t, hone, haccount, hpriced⟩
    · exact .inl ⟨hnone, not_completed_goto hcompleted fun created => by simp⟩
    · exact .inr ⟨t, hone, haccount, hpriced.imp_right fun ⟨j, hj⟩ =>
        ⟨j, listed_goto hj (hturn t.pk)⟩⟩

theorem account_of_run (hrun : (starting ι).Run System.Free (.before .empty) es s) :
    ∀ t ∈ s.lists.tariffs, t.account = "" := by
  have hboth : Coherent s ∧ ∀ t ∈ s.lists.tariffs, t.account = "" := by
    refine hrun.keeps (I := fun s => Coherent s ∧ ∀ t ∈ s.lists.tariffs, t.account = "")
      ⟨coherent_before PriceLists.keyed_empty, fun t ht => absurd ht List.not_mem_nil⟩
        fun s e s' h hstep => ?_
    refine ⟨coherent_step h.1 hstep, ?_⟩
    obtain ⟨i, ⟨-, -, rfl⟩ | ⟨-, -, rfl⟩ | ⟨pk, -, -, rfl⟩ | ⟨-, -, rfl⟩⟩ :=
      starting_cases h.1 hstep
    · exact h.2
    · intro t ht
      rw [create_tariffs] at ht
      rcases List.mem_append.1 ht with ht | ht
      · exact h.2 t ht
      · rw [List.mem_singleton.1 ht]
    · exact h.2
    · exact h.2
  exact hboth.2

/-- **A deployment is priced once** exactly if every start adds its list in turn and none dies with
its list unpriced: once all starts have ended, one of them by completing.  A list that had all its
prices is kept by every start, whatever tables it finds. -/
theorem priced_once_iff (hrun : (starting ι).Run System.Free (.before .empty) es s)
    (hended : s.Ended) (hcompleted : ∃ i, s.Completed i) :
    (s.lists.PricedOnce ↔ (starting ι).Run (fun _ s e => s.InTurn e) (.before .empty) es s) ∧
      ∀ (lists : PriceLists) (es₁ es₂ : List (ι × EnsureStatement))
      (s₁ s₂ : Starting ι), lists.Keyed →
        (starting ι).Run System.Free (.before lists) es₁ s₁ →
          (starting ι).Run System.Free s₁ es₂ s₂ →
          s₁.lists.KeptIn s₂.lists := by
  have hkept : ∀ (lists : PriceLists) (es₁ es₂ : List (ι × EnsureStatement)) (s₁ s₂ : Starting ι),
    lists.Keyed →
      (starting ι).Run System.Free (.before lists) es₁ s₁ → (starting ι).Run System.Free s₁ es₂ s₂ →
        s₁.lists.KeptIn s₂.lists := by
    intro lists es₁ es₂ s₁ s₂ hlists hrun₁ hrun₂
    exact keptIn_of_run (hrun₁.keeps (coherent_before hlists) fun _ _ _ => coherent_step) hrun₂
  refine ⟨⟨?_, ?_⟩, hkept⟩
  · rintro ⟨t, hone, hcomplete⟩
    refine (inTurn_of_not_spoiled PriceLists.keyed_empty hrun ?_).2
    have hall : s.lists.tariffs = [t] := by
      rw [← hone]
      exact (List.filter_eq_self.2 fun t ht => decide_eq_true (account_of_run hrun t ht)).symm
    rintro (hlength | ⟨pk, hpk, hrates, -⟩)
    · rw [hall] at hlength
      simp at hlength
    · rw [hall] at hpk
      obtain ⟨rate, hrate, htariff, -⟩ := hcomplete .vcpu
      exact hrates rate hrate (htariff.trans (List.mem_singleton.1 hpk).symm)
  · intro hturns
    -- in turn the tables hold nothing, one priced list, or one that a start is about to price
    have htidy : Coherent s ∧ Tidy s := by
      refine hturns.invariant (I := fun _ s => Coherent s ∧ Tidy s)
        ⟨coherent_before PriceLists.keyed_empty, .inl ⟨rfl, ?_⟩⟩ fun _ s e s' h hturn hstep => ?_
      · rintro i ⟨created, hi⟩
        cases hi
      · exact ⟨coherent_step h.1 hstep, tidy_step h.1 h.2 hturn hstep⟩
    rcases htidy.2 with ⟨-, hnone⟩ | ⟨t, hone, haccount, hcomplete | ⟨i, hi⟩⟩
    · obtain ⟨i, hi⟩ := hcompleted
      exact absurd hi (hnone i)
    · exact ⟨t, by rw [hone]; simp [haccount], hcomplete⟩
    · have hover := hended i
      rw [hi] at hover
      exact absurd trivial hover

end

/-! ### Three starts -/

/-- Three starts of the deployment. -/
inductive SampleStart where
  | blue
  | green
  | later
  deriving DecidableEq

instance : Fintype SampleStart := ⟨{.blue, .green, .later}, fun i => by cases i <;> decide⟩

/-- Two starts, one after the other. -/
def oneAfterTheOther : List (SampleStart × EnsureStatement) :=
  [(.blue, .look), (.blue, .create), (.blue, .bulkCreate), (.green, .look)]

/-- Two starts look before either has added its list; a third comes after them. -/
def bothLookFirst : List (SampleStart × EnsureStatement) :=
  [(.blue, .look), (.green, .look), (.blue, .create), (.green, .create), (.blue, .bulkCreate),
    (.green, .bulkCreate), (.later, .look)]

/-- A start dies once it has added its list; another comes after it. -/
def diesUnpriced : List (SampleStart × EnsureStatement) :=
  [(.blue, .look), (.blue, .create), (.blue, .crash), (.green, .look)]

/-- What is so after these statements of three starts. -/
def holdsAfter (es : List (SampleStart × EnsureStatement)) (P : Starting SampleStart → Prop)
    [DecidablePred P] : Bool :=
  (System.execAll Starting.exec System.Free [] (.before .empty) es).any fun s => P s

theorem exists_of_after {es : List (SampleStart × EnsureStatement)}
    {P : Starting SampleStart → Prop} [DecidablePred P] (h : holdsAfter es P = true) :
    ∃ s, (starting SampleStart).Run System.Free (.before .empty) es s ∧ P s := by
  obtain ⟨s, hs, hP⟩ := (Option.any_eq_true _ _).1 h
  exact ⟨s, System.Run.of_exec hs, of_decide_eq_true hP⟩

theorem priced_once_iff_oneAfterTheOther : ∃ s : Starting SampleStart,
    (s.lists.PricedOnce ↔
      (starting SampleStart).Run (fun _ s e => s.InTurn e) (.before .empty) oneAfterTheOther s) ∧
      ∀ (lists : PriceLists) (es₁ es₂ : List (SampleStart × EnsureStatement))
      (s₁ s₂ : Starting SampleStart), lists.Keyed →
        (starting SampleStart).Run System.Free (.before lists) es₁ s₁ →
          (starting SampleStart).Run System.Free s₁ es₂ s₂ →
          s₁.lists.KeptIn s₂.lists := by
  obtain ⟨s, hrun, hended, hcompleted⟩ := @exists_of_after oneAfterTheOther
    (fun s => (∀ i, ¬ (s.phase i).UnderWay) ∧ ∃ i, ∃ created, s.phase i = .returned created) _
      (by decide +kernel)
  exact ⟨s, priced_once_iff hrun hended hcompleted⟩

/-- Looking at the same time they leave two lists, and a start that dies leaves one without prices,
which those that come after take for a price list. -/
theorem priced_twice_or_not_at_all :
    (∃ s, (starting SampleStart).Run System.Free (.before .empty) bothLookFirst s ∧ s.Ended ∧
      Starting.CompletedLast bothLookFirst s ∧ ¬ s.lists.PricedOnce) ∧
    ∃ s, (starting SampleStart).Run System.Free (.before .empty) diesUnpriced s ∧ s.Ended ∧
      Starting.CompletedLast diesUnpriced s ∧ ¬ s.lists.PricedOnce := by
  constructor
  · obtain ⟨s, hrun, hended, hcompleted, htwo⟩ := @exists_of_after bothLookFirst
      (fun s => (∀ i, ¬ (s.phase i).UnderWay) ∧ (∃ created, s.phase .later = .returned created) ∧
        (s.lists.tariffs.filter fun t => t.account = "").length = 2) _ (by decide +kernel)
    refine ⟨s, hrun, hended, ⟨.later, bothLookFirst.dropLast, [], rfl, by simp, hcompleted⟩, ?_⟩
    rintro ⟨t, hone, -⟩
    rw [hone] at htwo
    cases htwo
  · obtain ⟨s, hrun, hended, hcompleted, hrates⟩ := @exists_of_after diesUnpriced
      (fun s => (∀ i, ¬ (s.phase i).UnderWay) ∧ (∃ created, s.phase .green = .returned created) ∧
        s.lists.rates = []) _ (by decide +kernel)
    refine ⟨s, hrun, hended, ⟨.green, diesUnpriced.dropLast, [], rfl, by simp, hcompleted⟩, ?_⟩
    rintro ⟨t, -, hcomplete⟩
    obtain ⟨rate, hrate, -⟩ := hcomplete .vcpu
    rw [hrates] at hrate
    cases hrate

end OpenCloud
