import Mathlib.Algebra.Ring.Nat
import Mathlib.Data.List.Basic
import Mathlib.Data.List.TakeDrop

/-!
# Decimal numerals in strings

`padded w n` is the decimal numeral of `n`, filled with zeros on the left up to `w` characters,
as the format `{n:0wd}` writes it; `numeral n` is the one without a filling.  Both determine `n`
(`padded_inj`, `numeral_inj`) and consist of digits only, so a text of the shape *numeral,
separator, rest* determines its parts as long as the separator is not a digit
(`split_at_separator`).
-/

namespace OpenCloud

/-- The decimal numeral of `n`. -/
def numeral (n : ℕ) : List Char := Nat.toDigits 10 n

/-- The decimal numeral of `n`, with zeros on the left up to `w` characters. -/
def padded (w n : ℕ) : List Char :=
  List.replicate (w - (numeral n).length) '0' ++ numeral n

theorem isDigit_of_mem_numeral {n : ℕ} {c : Char} (h : c ∈ numeral n) : c.isDigit :=
  Nat.isDigit_of_mem_toDigits (by decide) (by decide) h

theorem isDigit_of_mem_padded {w n : ℕ} {c : Char} (h : c ∈ padded w n) : c.isDigit := by
  rcases List.mem_append.1 h with h | h
  · rw [List.eq_of_mem_replicate h]; decide
  · exact isDigit_of_mem_numeral h

theorem ofDigitChars_padded (w n : ℕ) : Nat.ofDigitChars 10 (padded w n) 0 = n := by
  rw [padded, Nat.ofDigitChars_append, Nat.ofDigitChars_replicate_zero, Nat.mul_zero]
  exact Nat.ofDigitChars_ten_toDigits

theorem padded_inj {w m n : ℕ} (h : padded w m = padded w n) : m = n := by
  rw [← ofDigitChars_padded w m, h, ofDigitChars_padded]

theorem numeral_inj {m n : ℕ} (h : numeral m = numeral n) : m = n := by
  have hm : Nat.ofDigitChars 10 (numeral m) 0 = m := Nat.ofDigitChars_ten_toDigits
  have hn : Nat.ofDigitChars 10 (numeral n) 0 = n := Nat.ofDigitChars_ten_toDigits
  rw [← hm, h, hn]

theorem length_padded {w n : ℕ} (hw : 0 < w) (hn : n < 10 ^ w) : (padded w n).length = w := by
  have hle : (numeral n).length ≤ w := (Nat.length_toDigits_le_iff (by decide) hw).2 hn
  rw [padded, List.length_append, List.length_replicate]
  omega

/-! ### The order of numerals -/

theorem digit_lt_ten {c : Char} (hc : c.isDigit) : c.toNat - '0'.toNat < 10 := by
  obtain ⟨-, hle⟩ : '0'.toNat ≤ c.toNat ∧ c.toNat ≤ '9'.toNat := by
    simpa [Char.isDigit, UInt32.le_iff_toNat_le] using hc
  have hnine : '9'.toNat = '0'.toNat + 9 := rfl
  omega

theorem ofDigitChars_lt_pow {xs : List Char} (hxs : ∀ c ∈ xs, c.isDigit) :
    Nat.ofDigitChars 10 xs 0 < 10 ^ xs.length := by
  induction xs with
  | nil => simp
  | cons c xs ih =>
    obtain ⟨hc, hxs⟩ := List.forall_mem_cons.1 hxs
    have hrest := ih hxs
    have hhead := digit_lt_ten hc
    rw [Nat.ofDigitChars_cons, Nat.ofDigitChars_eq_ofDigitChars_zero, Nat.mul_zero, Nat.zero_add,
      List.length_cons, Nat.pow_succ]
    calc 10 ^ xs.length * (c.toNat - '0'.toNat) + Nat.ofDigitChars 10 xs 0
        < 10 ^ xs.length * (c.toNat - '0'.toNat) + 10 ^ xs.length := Nat.add_lt_add_left hrest _
      _ = 10 ^ xs.length * (c.toNat - '0'.toNat + 1) := (Nat.mul_succ _ _).symm
      _ ≤ 10 ^ xs.length * 10 := Nat.mul_le_mul_left _ hhead

/-- Of two numerals of one length, the one that comes first is that of the smaller number. -/
theorem ofDigitChars_lt {xs ys : List Char} (hlen : xs.length = ys.length)
    (hxs : ∀ c ∈ xs, c.isDigit) (hys : ∀ c ∈ ys, c.isDigit) (h : xs < ys) (n : ℕ) :
    Nat.ofDigitChars 10 xs n < Nat.ofDigitChars 10 ys n := by
  induction xs generalizing ys n with
  | nil =>
    obtain rfl : ys = [] := List.length_eq_zero_iff.1 hlen.symm
    exact absurd h (List.lt_irrefl _)
  | cons x xs ih =>
    cases ys with
    | nil => simp at hlen
    | cons y ys =>
      obtain ⟨hx, hxs⟩ := List.forall_mem_cons.1 hxs
      have hrests : ∀ c ∈ ys, c.isDigit := fun c hc => hys c (by simp [hc])
      have htail : xs.length = ys.length := by simpa using hlen
      rw [Nat.ofDigitChars_cons, Nat.ofDigitChars_cons]
      rcases List.cons_lt_cons_iff.1 h with hlt | ⟨rfl, hrest⟩
      · -- the first digits differ, and the rest is less than a unit of theirs
        have hdigit : 10 * n + (x.toNat - '0'.toNat) + 1 ≤ 10 * n + (y.toNat - '0'.toNat) := by
          have hzero : '0'.toNat ≤ x.toNat := by
            have hboth : '0'.toNat ≤ x.toNat ∧ x.toNat ≤ '9'.toNat := by
              simpa [Char.isDigit, UInt32.le_iff_toNat_le] using hx
            exact hboth.1
          have hval : x.toNat < y.toNat := hlt
          omega
        have hrest := ofDigitChars_lt_pow hxs
        rw [@Nat.ofDigitChars_eq_ofDigitChars_zero xs, @Nat.ofDigitChars_eq_ofDigitChars_zero ys,
          htail]
        rw [htail] at hrest
        calc _ < 10 ^ ys.length * (10 * n + (x.toNat - '0'.toNat)) + 10 ^ ys.length :=
              Nat.add_lt_add_left hrest _
          _ = 10 ^ ys.length * (10 * n + (x.toNat - '0'.toNat) + 1) := (Nat.mul_succ _ _).symm
          _ ≤ 10 ^ ys.length * (10 * n + (y.toNat - '0'.toNat)) := Nat.mul_le_mul_left _ hdigit
          _ ≤ _ := Nat.le_add_right _ _
      · exact ih htail hxs hrests hrest _

theorem padded_lt_padded {w m n : ℕ} (hw : 0 < w) (hn : n < 10 ^ w) (h : m < n) :
    padded w m < padded w n := by
  have hlen : (padded w n).length = (padded w m).length := by
    rw [length_padded hw hn, length_padded hw (Nat.lt_trans h hn)]
  by_contra hnot
  rcases List.le_iff_lt_or_eq.1 (List.not_lt.1 hnot) with hlt | heq
  · have hvalue :=
      ofDigitChars_lt hlen (fun _ => isDigit_of_mem_padded) (fun _ => isDigit_of_mem_padded) hlt 0
    rw [ofDigitChars_padded, ofDigitChars_padded] at hvalue
    omega
  · exact Nat.ne_of_lt h (padded_inj heq).symm

theorem append_lt_append {xs ys r t : List Char} (hlen : xs.length = ys.length) (h : xs < ys) :
    xs ++ r < ys ++ t := by
  induction xs generalizing ys with
  | nil =>
    obtain rfl : ys = [] := List.length_eq_zero_iff.1 hlen.symm
    exact absurd h (List.lt_irrefl _)
  | cons x xs ih =>
    cases ys with
    | nil => simp at hlen
    | cons y ys =>
      rw [List.cons_append, List.cons_append, List.cons_lt_cons_iff]
      rcases List.cons_lt_cons_iff.1 h with hlt | ⟨rfl, hrest⟩
      · exact .inl hlt
      · exact .inr ⟨rfl, ih (by simpa using hlen) hrest⟩

/-! ### Numerals in a text -/

/-- A text *digits, separator, rest* can be cut in one way only. -/
theorem split_at_separator {xs ys r t : List Char} {sep : Char} (hsep : ¬ sep.isDigit)
    (hxs : ∀ c ∈ xs, c.isDigit) (hys : ∀ c ∈ ys, c.isDigit)
    (h : xs ++ sep :: r = ys ++ sep :: t) : xs = ys ∧ r = t := by
  induction xs generalizing ys with
  | nil =>
    cases ys with
    | nil => simpa using h
    | cons y ys =>
      obtain rfl : sep = y := (List.cons.inj h).1
      exact absurd (hys sep (by simp)) hsep
  | cons x xs ih =>
    cases ys with
    | nil =>
      obtain rfl : x = sep := (List.cons.inj h).1
      exact absurd (hxs x (by simp)) hsep
    | cons y ys =>
      obtain ⟨rfl, htail⟩ := List.cons.inj h
      obtain ⟨rfl, hr⟩ := ih (fun c hc => hxs c (by simp [hc]))
        (fun c hc => hys c (by simp [hc])) htail
      exact ⟨rfl, hr⟩

theorem prefix_at_separator {m n : ℕ} {r : List Char} {sep : Char} (hsep : ¬ sep.isDigit)
    (h : numeral m ++ [sep] <+: numeral n ++ sep :: r) : m = n := by
  obtain ⟨t, ht⟩ := h
  rw [List.append_assoc, List.singleton_append] at ht
  exact numeral_inj (split_at_separator hsep (fun _ => isDigit_of_mem_numeral)
    (fun _ => isDigit_of_mem_numeral) ht).1

end OpenCloud
