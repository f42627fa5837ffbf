import Mathlib.Algebra.Ring.Int.Defs
import OpenCloud.Common.Dates
import OpenCloud.Common.Exceptions
import OpenCloud.Common.Text

/-!
# Numbers and months in a request

`int` is Python's: blanks around, a sign, digits of any script with single underscores between them.
The values of the digits outside ASCII are a table of Unicode that the repository does not contain.

`readPeriod` reads the month of a request, in the cabinet and in the operators' panel alike.
-/

namespace OpenCloud

/-- The values of the decimal digits of all scripts. -/
structure DigitTable where
  value : Char → Option ℕ
  ascii : ∀ ch, ch.isDigit → value ch = some (ch.toNat - '0'.toNat)

/-- Only the digits of ASCII. -/
def DigitTable.plain : DigitTable where
  value ch := if ch.isDigit then some (ch.toNat - '0'.toNat) else none
  ascii _ h := if_pos h

/-- Read on: `after` says that a digit came last, `n` is what was read. -/
def readDigits (table : DigitTable) : Bool → ℕ → List Char → Option ℕ
  | after, n, [] => if after then some n else none
  | after, n, ch :: rest =>
    -- an underscore stands between two digits
    if ch = '_' then (if after then readDigits table false n rest else none)
    else (table.value ch).bind fun d => readDigits table true (10 * n + d) rest

/-- `int(text)`, none for the `ValueError`.  Texts of more digits than
`sys.get_int_max_str_digits()` are refused. -/
def int (table : DigitTable) (text : String) : Option ℤ :=
  let chars := (strip text).toList
  if 4300 < (chars.filter fun ch => (table.value ch).isSome).length then none
  else match chars with
    | '-' :: rest => (readDigits table false 0 rest).map fun n => -(n : ℤ)
    | '+' :: rest => (readDigits table false 0 rest).map fun n => (n : ℤ)
    | rest => (readDigits table false 0 rest).map fun n => (n : ℤ)

/-- Why no month is read: the view's own error, or the `OverflowError` that `date` raises for a
number that is none of the machine's, which no view catches. -/
inductive PeriodError where
  | app (err : AppError)
  | overflow
  deriving DecidableEq

/-- `AppError(message='period must look like 2026-08', …)`. -/
def badPeriod : PeriodError := .app ⟨"period must look like 2026-08", "invalid_request", 400⟩

/-- `date(year, month, 1)`. -/
def firstOfMonth (year month : ℤ) : Except PeriodError Month :=
  if (-2 ^ 31 ≤ year ∧ year < 2 ^ 31) ∧ -2 ^ 31 ≤ month ∧ month < 2 ^ 31 then
    if h : (1 ≤ year.toNat ∧ year.toNat ≤ 9999) ∧ 1 ≤ month.toNat ∧ month.toNat ≤ 12 then
      .ok ⟨year.toNat, month.toNat, h.1, h.2⟩
    else .error badPeriod
  else .error .overflow

/-- `_period`: the month of `?period=YYYY-MM`, the current one if there is none. -/
def readPeriod (table : DigitTable) (today : Date) (param : Option String) :
    Except PeriodError Month :=
  let raw := strip (param.getD "")
  if raw = "" then .ok today.monthOf
  else match raw.toList.span (· != '-') with
    | (_, []) => .error badPeriod
    | (year, _ :: month) =>
      match int table (String.ofList year), int table (String.ofList month) with
      | some year, some month => firstOfMonth year month
      | _, _ => .error badPeriod

section

variable {table : DigitTable} {xs : List Char}

theorem isSpace_of_isDigit {ch : Char} (h : ch.isDigit) : isSpace ch = false := by
  obtain ⟨hlo, hhi⟩ : 48 ≤ ch.toNat ∧ ch.toNat ≤ 57 := by
    simpa [Char.isDigit, UInt32.le_iff_toNat_le] using h
  simp only [isSpace, Bool.or_eq_false_iff, Bool.and_eq_false_iff, decide_eq_false_iff_not,
    beq_eq_false_iff_ne]
  omega

theorem strip_eq_self (h : ∀ ch ∈ xs, isSpace ch = false) :
    strip (String.ofList xs) = String.ofList xs := by
  have hdrop : ∀ ys : List Char, (∀ ch ∈ ys, isSpace ch = false) → ys.dropWhile isSpace = ys := by
    intro ys hys
    cases ys with
    | nil => rfl
    | cons y ys => rw [List.dropWhile_cons_of_neg (by simp [hys y])]
  rw [strip, String.toList_ofList, hdrop xs h, hdrop _ (by simpa using h), List.reverse_reverse]

theorem readDigits_of_isDigit (h : ∀ ch ∈ xs, ch.isDigit) (n : ℕ) :
    readDigits table true n xs = some (Nat.ofDigitChars 10 xs n) := by
  induction xs generalizing n with
  | nil => rfl
  | cons ch xs ih =>
    obtain ⟨hch, hxs⟩ := List.forall_mem_cons.1 h
    have hbar : ch ≠ '_' := by
      rintro rfl
      exact absurd hch (by decide)
    rw [readDigits, if_neg hbar, table.ascii ch hch, Option.bind_some, ih hxs,
      Nat.ofDigitChars_cons]

/-- Digits read as the number they write. -/
theorem int_of_isDigit (hne : xs ≠ []) (h : ∀ ch ∈ xs, ch.isDigit) (hlen : xs.length ≤ 4300) :
    int table (String.ofList xs) = some (Nat.ofDigitChars 10 xs 0 : ℤ) := by
  obtain ⟨ch, rest, rfl⟩ := List.exists_cons_of_ne_nil hne
  obtain ⟨hch, hrest⟩ := List.forall_mem_cons.1 h
  have hbar : ch ≠ '_' := by
    rintro rfl
    exact absurd hch (by decide)
  have hminus : ch ≠ '-' := by
    rintro rfl
    exact absurd hch (by decide)
  have hplus : ch ≠ '+' := by
    rintro rfl
    exact absurd hch (by decide)
  have hread : readDigits table false 0 (ch :: rest) =
    some (Nat.ofDigitChars 10 (ch :: rest) 0) := by
    rw [readDigits, if_neg hbar, table.ascii ch hch, Option.bind_some, readDigits_of_isDigit hrest,
      Nat.ofDigitChars_cons]
  have hfew : ¬ 4300 < ((ch :: rest).filter fun ch => (table.value ch).isSome).length :=
    fun hmany => absurd (hmany.trans_le ((List.length_filter_le _ _).trans hlen)) (lt_irrefl _)
  unfold int
  -- no blanks to strip, and no sign
  rw [strip_eq_self fun c hc => isSpace_of_isDigit (h c hc), String.toList_ofList]
  dsimp only
  rw [if_neg hfew]
  split
  · rename_i heq
    exact absurd (List.cons.inj heq).1 hminus
  · rename_i heq
    exact absurd (List.cons.inj heq).1 hplus
  · rw [hread]
    rfl

theorem int_padded {w n : ℕ} (hw : 0 < w) (hn : n < 10 ^ w) (hlen : w ≤ 4300) :
    int table (String.ofList (padded w n)) = some (n : ℤ) := by
  have hlength := length_padded hw hn
  have hne : padded w n ≠ [] := by
    intro hnil
    rw [hnil] at hlength
    exact absurd hlength hw.ne
  rw [int_of_isDigit hne (fun _ => isDigit_of_mem_padded) (hlength.trans_le hlen),
    ofDigitChars_padded]

theorem strip_label (m : Month) : strip m.label = m.label := by
  refine strip_eq_self fun ch hch => ?_
  rcases List.mem_append.1 hch with hch | hch
  · exact isSpace_of_isDigit (isDigit_of_mem_padded hch)
  · rcases List.mem_cons.1 hch with rfl | hch
    · rfl
    · exact isSpace_of_isDigit (isDigit_of_mem_padded hch)

theorem label_ne_empty (m : Month) : m.label ≠ "" := by simp [Month.label]

/-- The label of a month reads as the month. -/
theorem readPeriod_label (today : Date) (m : Month) :
    readPeriod table today (some m.label) = .ok m := by
  have hyear : m.year < 10 ^ 4 := by have := m.year_ok; omega
  have hmonth : m.month < 10 ^ 2 := by have := m.month_ok; omega
  have hspan : (padded 4 m.year ++ '-' :: padded 2 m.month).span (· != '-') =
      (padded 4 m.year, '-' :: padded 2 m.month) := by
    have hdigits : ∀ ch ∈ padded 4 m.year, (ch != '-') = true := by
      intro ch hch
      rw [bne_iff_ne]
      rintro rfl
      exact absurd (isDigit_of_mem_padded hch) (by decide)
    rw [List.span_eq_takeWhile_dropWhile, List.takeWhile_append_of_pos hdigits,
      List.dropWhile_append_of_pos hdigits]
    simp
  have hok : firstOfMonth m.year m.month = .ok m := by
    have hm := m.month_ok
    have hy := m.year_ok
    unfold firstOfMonth
    rw [if_pos (by omega), dif_pos (by omega)]
    rfl
  unfold readPeriod
  rw [Option.getD_some, strip_label]
  dsimp only
  rw [if_neg (label_ne_empty m), Month.label, String.toList_ofList, hspan]
  dsimp only
  rw [int_padded (by decide) hyear (by decide), int_padded (by decide) hmonth (by decide)]
  exact hok

end

end OpenCloud
