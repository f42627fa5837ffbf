import OpenCloud.Common.Integers
import OpenCloud.Billing.Database

/-!
# The month of a request

The cabinet and the operators' panel each read the month of `?period=` with a function of their own,
and an invoice of a month is kept under the label they make of it.  Both catch the `ValueError` of
`int` and `date`; neither catches the `OverflowError` that `date` raises for a number no C int
holds.

## Main results

* `readFirst_cases` : what a text is read as.
* `billingPeriod_eq` : the cabinet's months are those of `readPeriod`.
* `monthBounds_label` : a label reads as its month.
* `periodsAgree_iff` : the two agree if and only if the numbers are no larger than a C int.
-/

namespace OpenCloud

/-- What `int` and `date` raise. -/
inductive DateError where
  /-- `ValueError`. -/
  | value
  /-- `OverflowError`. -/
  | overflow
  deriving DecidableEq

/-- `except (ValueError, TypeError)` around the two. -/
def DateError.caught : DateError → PeriodError
  | .value => badPeriod
  | .overflow => .overflow

/-- A C int holds the number. -/
def CInt (n : ℤ) : Prop := -2 ^ 31 ≤ n ∧ n < 2 ^ 31

instance : DecidablePred CInt := fun _ => inferInstanceAs (Decidable (_ ∧ _))

/-- `date(year, month, 1)`. -/
def dateOfFirst (year month : ℤ) : Except DateError Date :=
  if CInt year ∧ CInt month then
    if hyear : 1 ≤ year.toNat ∧ year.toNat ≤ 9999 then
      if hmonth : 1 ≤ month.toNat ∧ month.toNat ≤ 12 then
        .ok (Month.first ⟨year.toNat, month.toNat, hyear, hmonth⟩)
      else .error .value
    else .error .value
  else .error .overflow

/-- `first.replace(day=calendar.monthrange(first.year, first.month)[1])`. -/
def Date.lastOfMonth (first : Date) : Date := first.monthOf.last

section

variable (table : DigitTable) (today : Date)

/-- `year, month = (int(part) for part in period.split('-', 1))`, none for the `ValueError`. -/
def yearAndMonth (period : String) : Option (ℤ × ℤ) :=
  match period.toList.span (· != '-') with
  | (_, []) => none
  | (year, _ :: month) =>
    match int table (String.ofList year), int table (String.ofList month) with
    | some year, some month => some (year, month)
    | _, _ => none

/-- The first day of the month that a text is read as. -/
def readFirst (period : String) : Except DateError Date :=
  match yearAndMonth table period with
  | some (year, month) => dateOfFirst year month
  | none => .error .value

/-- `month_bounds`. -/
def monthBounds (period : String) : Except DateError (Date × Date) := do
  let first ← readFirst table period
  return (first, first.lastOfMonth)

/-- `_period` of the cabinet. -/
def billingPeriod (param : Option String) : Except PeriodError (Date × Date × String) := do
  let raw := strip (param.getD "")
  let first ← if raw = "" then
    .ok today.monthOf.first else (readFirst table raw).mapError DateError.caught
  return (first, first.lastOfMonth, first.monthLabel)

/-- `_period` of the operators' panel. -/
def platformPeriod (param : Option String) : Except PeriodError (Date × Date × String) := do
  let raw := strip (param.getD "")
  let raw := if raw = "" then today.monthLabel else raw
  let (first, last) ← (monthBounds table raw).mapError DateError.caught
  return (first, last, first.monthLabel)

/-- One of the two reads the parameter as a month, with its first and last day and its label. -/
def ReadAs (param : Option String) (read : Date × Date × String) : Prop :=
  billingPeriod table today param = .ok read ∨ platformPeriod table today param = .ok read

/-- Both refuse the parameter, or both read it as one month, which its label reads as; and a label
is that of one month only. -/
structure PeriodsAgree (param : Option String) : Prop where
  agree :
    (billingPeriod table today param = .error badPeriod ∧
      platformPeriod table today param = .error badPeriod) ∨
    ∃ m : Month, billingPeriod table today param = .ok (m.first, m.last, m.label) ∧
      platformPeriod table today param = .ok (m.first, m.last, m.label) ∧
      monthBounds table m.label = .ok (m.first, m.last)
  canonical : ∀ param' read read', ReadAs table today param read → ReadAs table today param' read' →
    (read.2.2 = read'.2.2 ↔ read.1 = read'.1 ∧ read.2.1 = read'.2.1)

/-- The parameter is read as two numbers, and a C int does not hold both. -/
def TooLarge (param : Option String) : Prop :=
  ∃ year month, yearAndMonth table (strip (param.getD "")) = some (year, month) ∧
    ¬ (CInt year ∧ CInt month)

end

section

variable {table : DigitTable} {today : Date} {param : Option String} {period : String}

theorem dateOfFirst_cases (year month : ℤ) :
    (¬ (CInt year ∧ CInt month) ∧ dateOfFirst year month = .error .overflow) ∨
    ((CInt year ∧ CInt month) ∧
      (dateOfFirst year month = .error .value ∨ ∃ m : Month, dateOfFirst year month =
        .ok m.first)) := by
  unfold dateOfFirst
  by_cases hint : CInt year ∧ CInt month
  · rw [if_pos hint]
    refine .inr ⟨hint, ?_⟩
    by_cases hyear : 1 ≤ year.toNat ∧ year.toNat ≤ 9999
    · rw [dif_pos hyear]
      by_cases hmonth : 1 ≤ month.toNat ∧ month.toNat ≤ 12
      · rw [dif_pos hmonth]
        exact .inr ⟨_, rfl⟩
      · rw [dif_neg hmonth]
        exact .inl rfl
    · rw [dif_neg hyear]
      exact .inl rfl
  · rw [if_neg hint]
    exact .inl ⟨hint, rfl⟩

/-- What a text is read as: no month, one that is not caught, or a month. -/
theorem readFirst_cases (table : DigitTable) (param : Option String) :
    (TooLarge table param ∧ readFirst table (strip (param.getD "")) = .error .overflow) ∨
    (¬ TooLarge table param ∧ (readFirst table (strip (param.getD "")) = .error .value ∨
      ∃ m : Month, readFirst table (strip (param.getD "")) = .ok m.first)) := by
  unfold readFirst TooLarge
  cases hnumbers : yearAndMonth table (strip (param.getD "")) with
  | none =>
    refine .inr ⟨?_, .inl rfl⟩
    rintro ⟨year, month, hnone, -⟩
    cases hnone
  | some numbers =>
    obtain ⟨year, month⟩ := numbers
    rcases dateOfFirst_cases year month with ⟨hlarge, hdate⟩ | ⟨hint, hdate⟩
    · exact .inl ⟨⟨year, month, rfl, hlarge⟩, hdate⟩
    · refine .inr ⟨?_, hdate⟩
      rintro ⟨year', month', hsame, hlarge⟩
      obtain ⟨rfl, rfl⟩ := Prod.mk.inj (Option.some.inj hsame)
      exact hlarge hint

theorem firstOfMonth_eq (year month : ℤ) :
    firstOfMonth year month =
      ((dateOfFirst year month).map Date.monthOf).mapError DateError.caught := by
  unfold firstOfMonth dateOfFirst CInt
  by_cases hint : (-2 ^ 31 ≤ year ∧ year < 2 ^ 31) ∧ -2 ^ 31 ≤ month ∧ month < 2 ^ 31
  · rw [if_pos hint, if_pos hint]
    by_cases hyear : 1 ≤ year.toNat ∧ year.toNat ≤ 9999
    · rw [dif_pos hyear]
      by_cases hmonth : 1 ≤ month.toNat ∧ month.toNat ≤ 12
      · rw [dif_pos ⟨hyear, hmonth⟩, dif_pos hmonth]
        rfl
      · rw [dif_neg fun h => hmonth h.2, dif_neg hmonth]
        rfl
    · rw [dif_neg fun h => hyear h.1, dif_neg hyear]
      rfl
  · rw [if_neg hint, if_neg hint]
    rfl

theorem readPeriod_eq : readPeriod table today param = if strip (param.getD "") = "" then
    .ok today.monthOf else
    ((readFirst table (strip (param.getD ""))).map Date.monthOf).mapError DateError.caught := by
  unfold readPeriod readFirst yearAndMonth
  by_cases hblank : strip (param.getD "") = ""
  · simp only [hblank, if_true]
  · simp only [if_neg hblank]
    rcases (strip (param.getD "")).toList.span (· != '-') with ⟨year, _ | ⟨dash, month⟩⟩
    · rfl
    · cases hyear : int table (String.ofList year) with
      | none => simp [Except.map, Except.mapError, DateError.caught, hyear]
      | some y =>
        cases hmonth : int table (String.ofList month) with
        | none => simp [Except.map, Except.mapError, DateError.caught, hyear, hmonth]
        | some mo => simp [hyear, hmonth, firstOfMonth_eq]

theorem readFirst_label (m : Month) : readFirst table m.label = .ok m.first := by
  have hread : readPeriod table m.first (some m.label) = .ok m := readPeriod_label m.first m
  have hcases := readFirst_cases table (some m.label)
  rw [readPeriod_eq] at hread
  rw [Option.getD_some, strip_label] at hread hcases
  rw [if_neg (label_ne_empty m)] at hread
  rcases hcases with ⟨-, h⟩ | ⟨-, h | ⟨m', h⟩⟩
  · rw [h] at hread
    cases hread
  · rw [h] at hread
    cases hread
  · rw [h] at hread
    obtain rfl : m' = m := Except.ok.inj hread
    exact h

/-- A label reads as its month. -/
theorem monthBounds_label (m : Month) : monthBounds table m.label = .ok (m.first, m.last) := by
  rw [monthBounds, readFirst_label]
  rfl

/-- The cabinet reads the months of `readPeriod`. -/
theorem billingPeriod_eq : billingPeriod table today param =
    (readPeriod table today param).map fun m => (m.first, m.last, m.label) := by
  rw [readPeriod_eq]
  unfold billingPeriod
  by_cases hblank : strip (param.getD "") = ""
  · rw [if_pos hblank, if_pos hblank]
    rfl
  · rw [if_neg hblank, if_neg hblank]
    rcases readFirst_cases table param with ⟨-, h⟩ | ⟨-, h | ⟨m, h⟩⟩
    · rw [h]
      rfl
    · rw [h]
      rfl
    · rw [h]
      rfl

/-- So does the panel. -/
theorem platformPeriod_eq : platformPeriod table today param =
    (readPeriod table today param).map fun m => (m.first, m.last, m.label) := by
  rw [readPeriod_eq]
  unfold platformPeriod
  by_cases hblank : strip (param.getD "") = ""
  · have htoday : monthBounds table today.monthLabel =
      .ok (today.monthOf.first, today.monthOf.last) :=
      monthBounds_label today.monthOf
    simp only [if_pos hblank, htoday]
    rfl
  · simp only [if_neg hblank, monthBounds]
    rcases readFirst_cases table param with ⟨-, h⟩ | ⟨-, h | ⟨m, h⟩⟩
    · rw [h]
      rfl
    · rw [h]
      rfl
    · rw [h]
      rfl

theorem ReadAs.month {read : Date × Date × String} (h : ReadAs table today param read) :
    ∃ m : Month, read = (m.first, m.last, m.label) := by
  have hread : (readPeriod table today param).map (fun m => (m.first, m.last, m.label)) =
    .ok read := by
    rcases h with h | h
    · rw [← billingPeriod_eq, h]
    · rw [← platformPeriod_eq, h]
  cases hperiod : readPeriod table today param with
  | error err =>
    rw [hperiod] at hread
    cases hread
  | ok m =>
    rw [hperiod] at hread
    exact ⟨m, (Except.ok.inj hread).symm⟩

/-- Nothing is read, the text is refused, or it is a month. -/
theorem readPeriod_cases (table : DigitTable) (today : Date) (param : Option String) :
    (TooLarge table param ∧ readPeriod table today param = .error .overflow) ∨
      (¬ TooLarge table param ∧
        (readPeriod table today param = .error badPeriod ∨
          ∃ m, readPeriod table today param = .ok m)) := by
  rw [readPeriod_eq]
  by_cases hblank : strip (param.getD "") = ""
  · rw [if_pos hblank]
    refine .inr ⟨?_, .inr ⟨_, rfl⟩⟩
    rintro ⟨year, month, hnumbers, -⟩
    rw [hblank] at hnumbers
    cases hnumbers
  · rw [if_neg hblank]
    rcases readFirst_cases table param with ⟨hlarge, h⟩ | ⟨hsmall, h | ⟨m, h⟩⟩
    · rw [h]
      exact .inl ⟨hlarge, rfl⟩
    · rw [h]
      exact .inr ⟨hsmall, .inl rfl⟩
    · rw [h]
      exact .inr ⟨hsmall, .inr ⟨m, rfl⟩⟩

/-- **The month parsers agree**, and their labels are canonical, if and only if a C int holds both
numbers. -/
theorem periodsAgree_iff : PeriodsAgree table today param ↔ ¬ TooLarge table param := by
  constructor
  · intro h hlarge
    rcases readPeriod_cases table today param with ⟨-, hread⟩ | ⟨hsmall, -⟩
    · have hbilling : billingPeriod table today param = .error .overflow := by
        rw [billingPeriod_eq, hread]
        rfl
      rcases h.agree with ⟨h, -⟩ | ⟨m, h, -⟩
      · rw [hbilling] at h
        cases h
      · rw [hbilling] at h
        cases h
    · exact hsmall hlarge
  · intro hsmall
    constructor
    case agree =>
      rw [billingPeriod_eq, platformPeriod_eq]
      rcases readPeriod_cases table today param with ⟨hlarge, -⟩ | ⟨-, h | ⟨m, h⟩⟩
      · exact absurd hlarge hsmall
      · rw [h]
        exact .inl ⟨rfl, rfl⟩
      · rw [h]
        exact .inr ⟨m, rfl, rfl, monthBounds_label m⟩
    case canonical =>
      intro param' read read' hread hread'
      obtain ⟨m, rfl⟩ := hread.month
      obtain ⟨m', rfl⟩ := hread'.month
      constructor
      · intro hlabel
        rw [Month.label_inj hlabel]
        exact ⟨rfl, rfl⟩
      · rintro ⟨hfirst, -⟩
        have hmonth : m.first.monthOf = m'.first.monthOf := congrArg Date.monthOf hfirst
        exact congrArg Month.label hmonth

/-- The eleven nines of a year are no C int, and neither function answers. -/
theorem periods_raise_overflow :
    billingPeriod .plain august.first (some "99999999999-1") = .error .overflow ∧
      platformPeriod .plain august.first (some "99999999999-1") = .error .overflow := by
  decide +kernel

end

end OpenCloud
