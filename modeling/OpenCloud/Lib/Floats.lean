import OpenCloud.Lib.Binary64

/-!
# Floats that are no numbers

`PyFloat` is Python's `float`: a number, an infinity or a NaN.  A NaN compares as false with
everything, and `max` and `min` keep their first argument unless the second one compares as larger
or smaller, so that they keep a NaN in the first place and drop it in the second.
-/

namespace OpenCloud

/-- A float. -/
inductive PyFloat where
  | finite (d : Double)
  | infinity (negative : Bool)
  | nan
  deriving DecidableEq

namespace PyFloat

/-- The float nearest to `x`. -/
def ofRat (x : ℚ) : PyFloat := finite (.ofRat x)

/-- `a < b`. -/
def lt : PyFloat → PyFloat → Bool
  | nan, _ | _, nan => false
  | finite a, finite b => a.val < b.val
  | finite _, infinity negative => !negative
  | infinity negative, finite _ => negative
  | infinity a, infinity b => a && !b

/-- `max(a, b)`. -/
def max (a b : PyFloat) : PyFloat := if lt a b then b else a

/-- `min(a, b)`. -/
def min (a b : PyFloat) : PyFloat := if lt b a then b else a

/-- A number from zero on, or the positive infinity. -/
def Nonneg : PyFloat → Prop
  | finite d => 0 ≤ d.val
  | infinity negative => negative = false
  | nan => False

instance : DecidablePred Nonneg
  | finite d => inferInstanceAs (Decidable (0 ≤ d.val))
  | infinity negative => inferInstanceAs (Decidable (negative = false))
  | nan => inferInstanceAs (Decidable False)

/-- A number between two numbers. -/
def Within (lo hi : ℚ) (x : PyFloat) : Prop := ∃ d, x = finite d ∧ lo ≤ d.val ∧ d.val ≤ hi

variable {x : PyFloat} {d : Double}

theorem nonneg_max (hd : 0 ≤ d.val) (x : PyFloat) : Nonneg (max (finite d) x) := by
  unfold max
  split_ifs with hlt
  · cases x with
    | finite e => exact hd.trans (of_decide_eq_true hlt).le
    | infinity negative =>
      cases negative
      · rfl
      · cases hlt
    | nan => cases hlt
  · exact hd

theorem within_min (hd : 0 ≤ d.val) (h : Nonneg x) : Within 0 d.val (min x (finite d)) := by
  unfold min
  split_ifs with hlt
  · exact ⟨d, rfl, hd, le_rfl⟩
  · cases x with
    | finite e => exact ⟨e, rfl, h, not_lt.1 fun hed => hlt (decide_eq_true hed)⟩
    | infinity negative =>
      obtain rfl : negative = false := h
      exact absurd rfl hlt
    | nan => exact absurd h not_false

end PyFloat

end OpenCloud
