import OpenCloud.System.Service

/-!
# What freezing an invoice keeps

`issue` answers with the document of the invoice it holds in memory; `serialize` of the stored
invoice is what everyone sees later.  Nothing the service does afterwards touches the stored rows,
so the two documents can differ only where they differ on the day of issue or where `serialize`
reads something else than the rows.  Both happen: the VAT rate is stored with two decimals, and the
side of the tax the prices are on is read from the configuration.  `frozen_iff` says that there is
nothing else.

The amounts survive: they have two decimals, and a float made from such a number prints at most two
(`money_decimal_stored`).
-/

namespace OpenCloud

variable {c : Casing} {w w' : World} {es : List Served}

/-! ### The stored figures -/

theorem digitsUpTo_ten_pow (n : ℕ) : Double.DigitsUpTo (10 ^ 15) (10 ^ n) :=
  ⟨1, n, by norm_num, by simp⟩

/-- An amount of money that fits its column is stored as the float prints it. -/
theorem money_decimal_stored {x : ℚ} (hx : HasDecimals 2 x)
    (hfit : |quantize 2 (Double.ofRat x).decimal| < 10 ^ 16) :
    quantize 2 (Double.ofRat x).decimal = (Double.ofRat x).decimal := by
  refine HasDecimals.quantize_eq (Double.hasDecimals_decimal_ofRat hx ?_)
  have hcolumn : HasDecimals 2 (10 ^ 16) := ⟨10 ^ 18, by norm_num⟩
  obtain ⟨hlo, hhi⟩ := abs_lt.1 hfit
  rw [show (18 - (2 : ℕ) : ℤ) = (16 : ℕ) by norm_num, zpow_natCast, abs_lt]
  -- a number past the column prints, and is rounded, past the column
  constructor
  · by_contra h
    push Not at h
    have hbound : Double.DigitsUpTo (10 ^ 15) (-10 ^ 16) := ⟨-1, 16, by norm_num, by norm_num⟩
    have := quantize_mono 2 (Double.decimal_ofRat_le hbound h)
    rw [hcolumn.neg.quantize_eq] at this
    exact absurd hlo (not_lt.2 this)
  · by_contra h
    push Not at h
    have := quantize_mono 2 (Double.le_decimal_ofRat (digitsUpTo_ten_pow 16) h)
    rw [hcolumn.quantize_eq] at this
    exact absurd hhi (not_lt.2 this)

/-- A rate that fits its column shows the float it came from if and only if that float prints two
decimals at most. -/
theorem ofRat_stored_rate_iff {x : ℚ} (hfit : |quantize 2 (Double.ofRat x).decimal| < 10 ^ 3) :
    Double.ofRat (quantize 2 (Double.ofRat x).decimal) = Double.ofRat x ↔
      HasDecimals 2 (Double.ofRat x).decimal := by
  constructor
  · intro h
    obtain ⟨k, hk⟩ := hasDecimals_quantize 2 (Double.ofRat x).decimal
    have hsmall : |k| ≤ 10 ^ 15 := by
      rw [hk, abs_div, abs_of_pos (show (0 : ℚ) < 10 ^ 2 by norm_num),
        div_lt_iff₀ (by norm_num)] at hfit
      have : |(k : ℚ)| < 10 ^ 5 := by linarith
      have : |k| < 10 ^ 5 := by exact_mod_cast this
      omega
    have hdigits : Double.DigitsUpTo (10 ^ 15) (quantize 2 (Double.ofRat x).decimal) :=
      ⟨k, -2, hsmall, by rw [hk, zpow_neg, div_eq_mul_inv]; norm_num⟩
    rw [← quantize_eq_self_iff, ← Double.decimal_ofRat hdigits, h]
  · intro h
    rw [h.quantize_eq, Double.ofRat_decimal]

theorem saved_invoiceOf {s : Settings} {db : Db} {now : Instant} {account domainId : String}
    {m : Month} {issuedBy number : String} {seq : ℕ} {row : Invoice}
    (h : (invoiceOf (draft c s db account domainId m) now domainId m issuedBy number seq).saved =
      some row) :
    row = { invoiceOf (draft c s db account domainId m) now domainId m issuedBy number seq with
      vatRate := quantize 2 (Double.ofRat (vatRate s)).decimal } ∧
      |quantize 2 (Double.ofRat (vatRate s)).decimal| < 10 ^ 3 := by
  obtain ⟨hrow, hsubtotal, hrate, hvat, htotal⟩ := Invoice.saved_spec h
  obtain ⟨h1, h2, h3⟩ := hasDecimals_splitVat s (billableSum (draftLines c db account domainId m))
  rw [hrow] at hsubtotal hrate hvat htotal
  rw [hrow]
  simp only [invoiceOf, draft] at hsubtotal hrate hvat htotal ⊢
  rw [money_decimal_stored h1 hsubtotal, money_decimal_stored h2 hvat,
    money_decimal_stored h3 htotal]
  exact ⟨rfl, hrate⟩

/-! ### The stored rows -/

theorem kept_by_step {e : Served} {inv : Invoice} (hinv : inv ∈ w.db.book.invoices)
    (h : (service c).step w e w') :
    inv ∈ w'.db.book.invoices ∧ w'.db.book.linesOf inv.number = w.db.book.linesOf inv.number := by
  obtain ⟨⟨added, hadded⟩, rows, hrows, hother⟩ := invoices_of_step h
  refine ⟨hadded ▸ List.mem_append_left _ hinv, ?_⟩
  have hnone : rows.filter (fun l => l.invoice = inv.number) = [] :=
    List.filter_eq_nil_iff.2 fun l hl => by simpa using hother l hl inv hinv
  rw [InvoiceBook.linesOf, linesIn, hrows, List.filter_append, hnone, List.append_nil]
  rfl

theorem kept_by_run (inv : Invoice) (hinv : inv ∈ w.db.book.invoices)
    (h : (service c).Run System.Free w es w') :
    inv ∈ w'.db.book.invoices ∧ w'.db.book.linesOf inv.number = w.db.book.linesOf inv.number := by
  induction h with
  | nil => exact ⟨hinv, rfl⟩
  | snoc _ _ hstep ih =>
    obtain ⟨hmem, hlines⟩ := kept_by_step ih.1 hstep
    exact ⟨hmem, hlines.trans ih.2⟩

theorem serialize_eq_iff (s s' : Settings) (inv : Invoice) (rate : ℚ) (lines : List InvoiceLine) :
    serialize s' { inv with vatRate := rate } lines = serialize s inv lines ↔
      s'.billingPricesIncludeVat = s.billingPricesIncludeVat ∧
        Double.ofRat rate = Double.ofRat inv.vatRate := by
  have hlines : lines.map (InvoiceLine.line { inv with vatRate := rate }) =
      lines.map (InvoiceLine.line inv) := rfl
  simp only [serialize, hlines, Document.mk.injEq, true_and, and_true]
  exact and_comm

/-- A document `issue` returned equals, after any run, the document of the stored invoice exactly
when the configuration still puts the prices on the same side of the tax and, if the call created
the invoice, the VAT rate was one a float prints with two decimals at most. -/
theorem frozen_iff (c : Casing) (w w' : World) (now : Instant) (account domainId : String)
    (m : Month) (issuedBy : String) (doc : Document) (book : InvoiceBook) (es : List Served)
    (hissue : issue c w.settings w.db now account domainId m issuedBy = .ok (doc, book))
    (hrun : (service c).Run System.Free { w with db := w.db.setBook book } es w') :
    ∃ row ∈ w'.db.book.invoices, doc.number = some row.number ∧
      (serialize w'.settings row (w'.db.book.linesOf row.number) = doc ↔
        w'.settings.billingPricesIncludeVat = w.settings.billingPricesIncludeVat ∧
          (findInvoice c w.db.book.invoices account m.label = none →
            HasDecimals 2 (Double.ofRat (vatRate w.settings)).decimal)) := by
  rcases issue_cases hissue with ⟨inv, hfind, rfl, rfl⟩ |
    ⟨hnone, inv, row, rows, hinv, hsaved, -, -, hinvoices, -, rfl⟩
  · obtain ⟨hmem, hlines⟩ := kept_by_run inv (findInvoice_spec hfind).1 hrun
    refine ⟨inv, hmem, rfl, ?_⟩
    have := serialize_eq_iff w.settings w'.settings inv inv.vatRate (w.db.book.linesOf inv.number)
    simp only [hlines, hfind, reduceCtorEq, false_imp_iff, and_true] at this ⊢
    exact this
  · subst hinv
    obtain ⟨hrow, hfit⟩ := saved_invoiceOf hsaved
    have hbook : row ∈ book.invoices := by rw [hinvoices]; simp
    obtain ⟨hmem, hlines⟩ := kept_by_run row hbook hrun
    refine ⟨row, hmem, by rw [hrow]; rfl, ?_⟩
    rw [hlines]
    simp only [Db.setBook_book, hrow, hnone, true_imp_iff]
    rw [serialize_eq_iff, ← ofRat_stored_rate_iff hfit]
    simp only [invoiceOf, draft, Double.ofRat_decimal]

/-- The same configuration with the prices on the other side of the tax. -/
def Settings.otherSide (s : Settings) : Settings :=
  { s with billingPricesIncludeVat := !s.billingPricesIncludeVat }

/-- The configuration with a VAT rate. -/
def Settings.withRate (s : Settings) (rate : ℚ) : Settings := { s with billingVatRate := some rate }

/-- An account that can be invoiced, at a VAT rate. -/
def taxedWorld (rate : ℚ) : World where
  settings := plainSettings.withRate rate
  db := pricedDb "Acme" (measuredRow "Acme" "d1" "p1")

/-- The document of an issued invoice, and the one shown for its number after a request. -/
def documentThen (w : World) (request : Request) : Option (Document × Document) :=
  match issue .ascii w.settings w.db 0 "Acme" "d1" august "op" with
  | .error _ => none
  | .ok (doc, book) =>
    let later := (serve .ascii { w with db := w.db.setBook book } request).2
    (later.db.book.invoices.find? fun inv => doc.number = some inv.number).map fun inv =>
      (doc, serialize later.settings inv (later.db.book.linesOf inv.number))

/-- Issued at 12 % with prices excluding the tax, shown after the configuration puts the prices on
the other side; and issued at 12.345 %, shown after nothing: the document is another one. -/
theorem document_moves :
    (documentThen (taxedWorld 12) (.configure (taxedWorld 12).settings.otherSide)).map (fun docs =>
        (decide (docs.2 = docs.1), docs.1.vatIncludedInPrices, docs.2.vatIncludedInPrices)) =
      some (false, false, true) ∧
    (documentThen (taxedWorld 12.345) (.configure (taxedWorld 12.345).settings)).map (fun docs =>
        (decide (docs.2 = docs.1), docs.1.vatRate.decimal, docs.2.vatRate.decimal)) =
      some (false, 12.345, 12.35) := by
  constructor <;> decide +kernel

/-- At 12 % the document survives a change of the price list. -/
theorem frozen_iff_of_repricing :
    ∃ doc book, issue .ascii (taxedWorld 12).settings (taxedWorld 12).db 0 "Acme" "d1" august "op" =
        .ok (doc, book) ∧
      let w' := (play .ascii { taxedWorld 12 with db := (taxedWorld 12).db.setBook book }
        [.write [] [] [] []]).2
      ∃ row ∈ w'.db.book.invoices, doc.number = some row.number ∧
        serialize w'.settings row (w'.db.book.linesOf row.number) = doc := by
  have hsome : (issue .ascii (taxedWorld 12).settings (taxedWorld 12).db 0 "Acme" "d1" august
      "op").toOption.isSome = true := by decide +kernel
  rcases hissue : issue .ascii (taxedWorld 12).settings (taxedWorld 12).db 0 "Acme" "d1" august
    "op" with err | ⟨doc, book⟩
  · rw [hissue] at hsome
    cases hsome
  · obtain ⟨row, hrow, hnumber, hiff⟩ :=
      frozen_iff .ascii (taxedWorld 12) _ 0 "Acme" "d1" august "op"
      doc book _ hissue (run_play .ascii _ [.write [] [] [] []])
    refine ⟨doc, book, rfl, row, hrow, hnumber, hiff.2 ⟨rfl, fun _ => ?_⟩⟩
    decide +kernel

end OpenCloud
