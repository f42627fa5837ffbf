import OpenCloud.Billing.Invoices

/-!
# Invoice numbers

The number of an invoice is made of the year of its month and its place in that year
(`Invoice.Named`), and determines both (`numberOf_inj`).  Where the invoices of a year are numbered
without a gap, `next_number` gives the next one (`nextNumber_of_range`); it never gives a number
that is taken (`ne_nextNumber`).
-/

namespace OpenCloud

/-- The year an invoice bills. -/
def Invoice.year (inv : Invoice) : ℕ := inv.periodFrom.year

/-- The number is the one of the year and the place in it. -/
def Invoice.Named (inv : Invoice) : Prop := inv.number = numberOf inv.year inv.numberSeq

/-- The invoices of a year. -/
def ofYear (year : ℕ) (invoices : List Invoice) : List Invoice :=
  invoices.filter fun inv => inv.year = year

theorem toList_numberOf (year seq : ℕ) :
    (numberOf year seq).toList = "СФ-".toList ++ (numeral year ++ '-' :: padded 4 seq) := by
  simp [numberOf, numberPrefix]

/-- Different places have different numbers. -/
theorem numberOf_inj {year year' seq seq' : ℕ} (h : numberOf year seq = numberOf year' seq') :
    year = year' ∧ seq = seq' := by
  have hlist := congrArg String.toList h
  rw [toList_numberOf, toList_numberOf] at hlist
  obtain ⟨hyear, hseq⟩ := split_at_separator (by decide) (fun _ => isDigit_of_mem_numeral)
    (fun _ => isDigit_of_mem_numeral) (List.append_cancel_left hlist)
  exact ⟨numeral_inj hyear, padded_inj hseq⟩

theorem isPrefixOf_numberOf {year year' seq : ℕ} :
    (numberPrefix year).isPrefixOf (numberOf year' seq).toList ↔ year' = year := by
  rw [List.isPrefixOf_iff_prefix, toList_numberOf, numberPrefix, List.prefix_append_right_inj]
  constructor
  · intro h
    exact (prefix_at_separator (by decide) h).symm
  · rintro rfl
    exact ⟨padded 4 seq, by simp⟩

variable {invoices : List Invoice} {year : ℕ}

theorem numberedIn_eq (h : ∀ inv ∈ invoices, inv.Named) :
    numberedIn year invoices = ofYear year invoices := by
  refine List.filter_congr fun inv hinv => ?_
  rw [h inv hinv, Bool.eq_iff_iff, isPrefixOf_numberOf, decide_eq_true_iff]

instance : Std.Total fun a b : Invoice => b.numberSeq ≤ a.numberSeq :=
  ⟨fun a b => Nat.le_total b.numberSeq a.numberSeq⟩

instance : IsTrans Invoice fun a b => b.numberSeq ≤ a.numberSeq :=
  ⟨fun _ _ _ hab hbc => Nat.le_trans hbc hab⟩

theorem nextNumber_snd :
    (nextNumber invoices year).2 = numberOf year (nextNumber invoices year).1 :=
  rfl

theorem lt_nextNumber (h : ∀ inv ∈ invoices, inv.Named) {inv : Invoice} (hinv : inv ∈ invoices)
    (hyear : inv.year = year) : inv.numberSeq < (nextNumber invoices year).1 := by
  have hmem : inv ∈ ofYear year invoices := List.mem_filter.2 ⟨hinv, by simpa using hyear⟩
  unfold nextNumber
  rw [numberedIn_eq h]
  cases hfirst : Table.firstBy (fun a b : Invoice => b.numberSeq ≤ a.numberSeq)
    (ofYear year invoices) with
  | none =>
    rw [Table.firstBy_eq_none_iff.1 hfirst] at hmem
    cases hmem
  | some last => exact Nat.lt_succ_of_le (Table.le_of_firstBy hfirst hmem)

/-- The next number is not taken. -/
theorem ne_nextNumber (h : ∀ inv ∈ invoices, inv.Named) {inv : Invoice} (hinv : inv ∈ invoices) :
    inv.number ≠ (nextNumber invoices year).2 := by
  rw [h inv hinv, nextNumber_snd]
  intro heq
  obtain ⟨hyear, hseq⟩ := numberOf_inj heq
  exact (lt_nextNumber h hinv hyear).ne hseq

/-- After the places `1, …, n` comes `n + 1`. -/
theorem nextNumber_of_range (h : ∀ inv ∈ invoices, inv.Named) {n : ℕ}
    (hrange : (ofYear year invoices).map Invoice.numberSeq = List.range' 1 n) :
    (nextNumber invoices year).1 = n + 1 := by
  unfold nextNumber
  rw [numberedIn_eq h]
  cases hfirst : Table.firstBy (fun a b : Invoice => b.numberSeq ≤ a.numberSeq)
    (ofYear year invoices) with
  | none =>
    rw [Table.firstBy_eq_none_iff.1 hfirst] at hrange
    have : n = 0 := by simpa using hrange.symm
    simp [this]
  | some last =>
    have hplaces : ∀ k, k ∈ (ofYear year invoices).map Invoice.numberSeq ↔ 1 ≤ k ∧ k < 1 + n := by
      intro k
      rw [hrange, List.mem_range'_1]
    have hlast := (hplaces last.numberSeq).1 (List.mem_map_of_mem (Table.mem_of_firstBy hfirst))
    obtain ⟨inv, hinv, hn⟩ := List.mem_map.1 ((hplaces n).2 ⟨by omega, by omega⟩)
    have hle := Table.le_of_firstBy hfirst hinv
    change last.numberSeq + 1 = n + 1
    omega

end OpenCloud
