import Mathlib.Data.List.DropRight

/-!
# Text

Text is `String`.  `strip` is Python's `str.strip`.  Two ways of ignoring case meet in the code:
the database's, behind every `iexact` lookup, and Python's `str.lower`.  Both are tables of
Unicode that the repository does not contain, so the model takes them as a parameter `Casing`.
-/

namespace OpenCloud

/-- Ignoring case: `upper` is the database's, behind `iexact`; `lower` is `str.lower`. -/
structure Casing where
  /-- `UPPER` of the database. -/
  upper : String → String
  /-- `str.lower`. -/
  lower : String → String

/-- `a__iexact=b`. -/
def Casing.iexact (c : Casing) (a b : String) : Prop := c.upper a = c.upper b

instance (c : Casing) (a b : String) : Decidable (c.iexact a b) :=
  inferInstanceAs (Decidable (c.upper a = c.upper b))

/-- On these names, ignoring case means one thing in the database and in Python. -/
def Casing.AgreeOn (c : Casing) (names : List String) : Prop :=
  ∀ a ∈ names, ∀ b ∈ names, c.iexact a b ↔ c.lower a = c.lower b

namespace Casing

variable {c : Casing} {x y z : String}

@[simp] theorem iexact_refl (c : Casing) (x : String) : c.iexact x x := rfl

theorem iexact_comm : c.iexact x y ↔ c.iexact y x := ⟨Eq.symm, Eq.symm⟩

theorem iexact_trans (hxy : c.iexact x y) (hyz : c.iexact y z) : c.iexact x z := hxy.trans hyz

/-- The tables on ASCII letters. -/
def ascii : Casing where
  upper s := String.ofList (s.toList.map Char.toUpper)
  lower s := String.ofList (s.toList.map Char.toLower)

end Casing

/-- The characters `str.strip` removes. -/
def isSpace (c : Char) : Bool :=
  (9 ≤ c.toNat && c.toNat ≤ 13) || (28 ≤ c.toNat && c.toNat ≤ 32) || c.toNat == 0x85 ||
    c.toNat == 0xa0 || c.toNat == 0x1680 || (0x2000 ≤ c.toNat && c.toNat ≤ 0x200a) ||
    c.toNat == 0x2028 || c.toNat == 0x2029 || c.toNat == 0x202f || c.toNat == 0x205f ||
    c.toNat == 0x3000

/-- `str.strip`. -/
def strip (s : String) : String :=
  String.ofList ((s.toList.dropWhile isSpace).reverse.dropWhile isSpace).reverse

theorem strip_strip (s : String) : strip (strip s) = strip s := by
  have hleft : ∀ xs : List Char, ((xs.dropWhile isSpace).rdropWhile isSpace).dropWhile isSpace =
      (xs.dropWhile isSpace).rdropWhile isSpace := by
    intro xs
    refine List.dropWhile_eq_self_iff.2 fun hpos => ?_
    have hpre : (xs.dropWhile isSpace).rdropWhile isSpace <+: xs.dropWhile isSpace :=
      List.rdropWhile_prefix _ _
    rw [hpre.getElem hpos]
    exact List.dropWhile_eq_self_iff.1 (List.dropWhile_idempotent _ _) _
  calc
    strip (strip s) = String.ofList
        ((((s.toList.dropWhile isSpace).rdropWhile isSpace).dropWhile isSpace).rdropWhile
          isSpace) := by
        simp [strip, List.rdropWhile]
    _ = strip s := by
        rw [hleft, List.rdropWhile_idempotent]
        rfl

/-- `sep.join(parts)`. -/
def join (sep : String) : List String → String
  | [] => ""
  | [s] => s
  | s :: t :: rest => s ++ sep ++ join sep (t :: rest)

/-- `a or b` of two strings. -/
def orElse (a b : String) : String := if a = "" then b else a

end OpenCloud
