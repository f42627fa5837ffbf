import OpenCloud.Lib.Numerals
import Mathlib.Algebra.Ring.Nat
import Mathlib.Order.Basic

/-!
# Dates and months

`Date` is `datetime.date`: a day of the Gregorian calendar, years 1 to 9999.  `Month` is the month a
bill is for; `Month.label` is the text `YYYY-MM` it goes by, and different months have different
labels (`Month.label_inj`).
-/

namespace OpenCloud

/-- A point in time, in microseconds. -/
abbrev Instant := ℕ

/-- `timedelta(seconds=n)`. -/
def seconds (n : ℕ) : ℕ := n * 10 ^ 6

/-- `timedelta(minutes=n)`. -/
def minutes (n : ℕ) : ℕ := seconds (60 * n)

/-- `calendar.isleap`. -/
def isLeap (year : ℕ) : Bool := year % 4 == 0 && (year % 100 != 0 || year % 400 == 0)

/-- The number of days of a month, `calendar.monthrange(year, month)[1]`. -/
def monthRange (year month : ℕ) : ℕ :=
  if month = 2 then (if isLeap year then 29 else 28)
  else if month = 4 ∨ month = 6 ∨ month = 9 ∨ month = 11 then 30 else 31

/-- `datetime.date`. -/
structure Date where
  year : ℕ
  month : ℕ
  day : ℕ
  year_ok : 1 ≤ year ∧ year ≤ 9999
  month_ok : 1 ≤ month ∧ month ≤ 12
  day_ok : 1 ≤ day ∧ day ≤ monthRange year month
  deriving DecidableEq

namespace Date

/-- The digits `YYYYMMDD` as a number, which compares as the dates do. -/
def key (d : Date) : ℕ := d.year * 10000 + d.month * 100 + d.day

instance : LE Date := ⟨fun a b => a.key ≤ b.key⟩

instance : LT Date := ⟨fun a b => a.key < b.key⟩

instance (a b : Date) : Decidable (a ≤ b) := inferInstanceAs (Decidable (a.key ≤ b.key))

instance (a b : Date) : Decidable (a < b) := inferInstanceAs (Decidable (a.key < b.key))

/-- `str(date)`. -/
def toStr (d : Date) : String :=
  String.ofList (padded 4 d.year ++ '-' :: padded 2 d.month ++ '-' :: padded 2 d.day)

/-- The month of the day, `YYYY-MM`. -/
def monthLabel (d : Date) : String :=
  String.ofList (padded 4 d.year ++ '-' :: padded 2 d.month)

end Date

/-- The month of a bill. -/
structure Month where
  year : ℕ
  month : ℕ
  year_ok : 1 ≤ year ∧ year ≤ 9999
  month_ok : 1 ≤ month ∧ month ≤ 12
  deriving DecidableEq

/-- The month of the day. -/
def Date.monthOf (d : Date) : Month := ⟨d.year, d.month, d.year_ok, d.month_ok⟩

namespace Month

theorem monthRange_pos (year month : ℕ) : 1 ≤ monthRange year month := by
  unfold monthRange
  split_ifs <;> omega

/-- The first day of the month. -/
def first (m : Month) : Date :=
  ⟨m.year, m.month, 1, m.year_ok, m.month_ok, by decide, monthRange_pos _ _⟩

/-- The last day of the month. -/
def last (m : Month) : Date :=
  ⟨m.year, m.month, monthRange m.year m.month, m.year_ok, m.month_ok, monthRange_pos _ _,
    Nat.le_refl _⟩

/-- `f'{year:04d}-{month:02d}'`. -/
def label (m : Month) : String := String.ofList (padded 4 m.year ++ '-' :: padded 2 m.month)

/-- `(last - first).days + 1`. -/
def days (m : Month) : ℕ := m.last.day - m.first.day + 1

/-- The day lies in the month. -/
def Covers (m : Month) (d : Date) : Prop := m.first ≤ d ∧ d ≤ m.last

instance (m : Month) (d : Date) : Decidable (m.Covers d) :=
  inferInstanceAs (Decidable (_ ∧ _))

/-- Months compare as their first days do. -/
instance : LT Month := ⟨fun m n => m.first < n.first⟩

instance (m n : Month) : Decidable (m < n) := inferInstanceAs (Decidable (m.first < n.first))

instance : LE Month := ⟨fun m n => m.first ≤ n.first⟩

instance (m n : Month) : Decidable (m ≤ n) := inferInstanceAs (Decidable (m.first ≤ n.first))

theorem lt_iff {m n : Month} : m < n ↔ m.year < n.year ∨ (m.year = n.year ∧ m.month < n.month) := by
  have hm := m.month_ok
  have hn := n.month_ok
  show m.year * 10000 + m.month * 100 + 1 < n.year * 10000 + n.month * 100 + 1 ↔ _
  omega

theorem eq_of_not_lt {m n : Month} (hmn : ¬ m < n) (hnm : ¬ n < m) : m = n := by
  obtain ⟨y, mo, _, _⟩ := m
  obtain ⟨y', mo', _, _⟩ := n
  rw [lt_iff] at hmn hnm
  dsimp only at hmn hnm
  obtain rfl : y = y' := by omega
  obtain rfl : mo = mo' := by omega
  rfl

theorem not_lt {m n : Month} : ¬ m < n ↔ n ≤ m := Nat.not_lt

theorem lt_of_le_of_ne {m n : Month} (h : m ≤ n) (hne : m ≠ n) : m < n := by
  by_contra hnot
  exact hne (eq_of_not_lt hnot (Nat.not_lt.2 h))

instance : Std.Total fun m n : Month => m ≤ n := ⟨fun m n => Nat.le_total m.first.key n.first.key⟩

instance : IsTrans Month fun m n => m ≤ n := ⟨fun _ _ _ => Nat.le_trans⟩

theorem label_lt_label {m n : Month} (h : m < n) : m.label < n.label := by
  have hm := m.month_ok
  have hn := n.month_ok
  have hmy := m.year_ok
  have hny := n.year_ok
  show (String.ofList _).toList < (String.ofList _).toList
  rw [String.toList_ofList, String.toList_ofList]
  rcases lt_iff.1 h with hyear | ⟨hyear, hmonth⟩
  · refine append_lt_append ?_ (padded_lt_padded (by decide) (by omega) hyear)
    rw [length_padded (by decide) (by omega), length_padded (by decide) (by omega)]
  · rw [hyear]
    refine List.append_left_lt (List.cons_lt_cons_iff.2 (.inr ⟨rfl, ?_⟩))
    exact padded_lt_padded (by decide) (by omega) hmonth

theorem label_inj {m n : Month} (h : m.label = n.label) : m = n := by
  have hlist := String.ofList_injective h
  obtain ⟨hy, hm⟩ := split_at_separator (by decide) (fun _ => isDigit_of_mem_padded)
    (fun _ => isDigit_of_mem_padded) hlist
  obtain ⟨y, mo, _, _⟩ := m
  obtain ⟨y', mo', _, _⟩ := n
  obtain rfl : y = y' := padded_inj hy
  obtain rfl : mo = mo' := padded_inj hm
  rfl

theorem label_le_label {m n : Month} : m.label ≤ n.label ↔ m ≤ n := by
  constructor
  · intro h
    exact not_lt.1 fun hlt => h (label_lt_label hlt)
  · intro h hlt
    by_cases hmn : m = n
    · rw [hmn] at hlt
      exact List.lt_irrefl _ hlt
    · exact List.lt_asymm hlt (label_lt_label (lt_of_le_of_ne h hmn))

/-- The days of a month are those of its year and month. -/
theorem covers_iff {m : Month} {d : Date} : m.Covers d ↔ d.monthOf = m := by
  have hrange : ∀ year month, monthRange year month ≤ 31 := by
    intro year month
    unfold monthRange
    split_ifs <;> omega
  have hd := d.day_ok
  have hmonth := d.month_ok
  have hmm := m.month_ok
  have hlast := hrange m.year m.month
  have hday := hrange d.year d.month
  constructor
  · rintro ⟨hfirst, hlast'⟩
    have h1 : m.year * 10000 + m.month * 100 + 1 ≤ d.year * 10000 + d.month * 100 + d.day := hfirst
    have h2 : d.year * 10000 + d.month * 100 + d.day ≤
        m.year * 10000 + m.month * 100 + monthRange m.year m.month := hlast'
    obtain ⟨y, mo, _, _⟩ := m
    dsimp only at h1 h2 hmm hlast
    obtain rfl : d.year = y := by omega
    obtain rfl : d.month = mo := by omega
    rfl
  · rintro rfl
    constructor
    · show d.year * 10000 + d.month * 100 + 1 ≤ d.year * 10000 + d.month * 100 + d.day
      omega
    · show d.year * 10000 + d.month * 100 + d.day ≤ d.year * 10000 + d.month * 100 +
        monthRange d.year d.month
      omega

theorem monthLabel_eq_label_iff {m : Month} {d : Date} : d.monthLabel = m.label ↔ m.Covers d := by
  rw [covers_iff]
  exact ⟨fun h => label_inj (m := d.monthOf) h, fun h => h ▸ rfl⟩

end Month

theorem Date.toStr_inj {d e : Date} (h : d.toStr = e.toStr) : d = e := by
  have hlist := String.ofList_injective h
  simp only [List.append_assoc, List.cons_append] at hlist
  obtain ⟨hyear, hrest⟩ := split_at_separator (by decide) (fun _ => isDigit_of_mem_padded)
    (fun _ => isDigit_of_mem_padded) hlist
  obtain ⟨hmonth, hday⟩ := split_at_separator (by decide) (fun _ => isDigit_of_mem_padded)
    (fun _ => isDigit_of_mem_padded) hrest
  obtain ⟨y, mo, dd, _, _, _⟩ := d
  obtain ⟨y', mo', dd', _, _, _⟩ := e
  obtain rfl : y = y' := padded_inj hyear
  obtain rfl : mo = mo' := padded_inj hmonth
  obtain rfl : dd = dd' := padded_inj hday
  rfl

end OpenCloud
