import Mathlib.Data.List.Basic

/-!
# Comma separated values

`encode` writes rows of fields as text: fields are separated by commas, rows end with a carriage
return and a line feed, and a field that holds a comma, a quote or an end of line stands in quotes,
the quotes in it doubled. A row that is one empty field is written as two quotes, to tell it from an
empty row.  `decode` reads such a text character by character.

## Main results

* `decode_encode` : what was written is read back, whatever the fields hold.
-/

namespace OpenCloud

namespace Csv

/-- The quote. -/
def quote : Char := '\x22'

/-- A field that holds it stands in quotes. -/
def Special (ch : Char) : Prop := ch = ',' ∨ ch = quote ∨ ch = '\r' ∨ ch = '\n'

instance : DecidablePred Special := fun _ => inferInstanceAs (Decidable (_ ∨ _))

/-- Inside quotes a quote is written twice. -/
def escape (ch : Char) : List Char := if ch = quote then [quote, quote] else [ch]

def encodeField (field : List Char) : List Char :=
  if field.any fun ch => Special ch then quote :: (field.flatMap escape ++ [quote]) else field

/-- The fields of a row, separated by commas. -/
def encodeFields : List (List Char) → List Char
  | [] => []
  | [field] => encodeField field
  | field :: next :: rest => encodeField field ++ ',' :: encodeFields (next :: rest)

def encodeRow (row : List (List Char)) : List Char :=
  (if row = [[]] then [quote, quote] else encodeFields row) ++ ['\r', '\n']

def encode (rows : List (List (List Char))) : List Char := rows.flatMap encodeRow

/-! ### The reader -/

/-- Where the reader is. -/
inductive Mode where
  | rowStart
  | fieldStart
  /-- In a field without quotes. -/
  | plain
  | quoted
  /-- After a quote in quotes: the second of two, or the end of the field. -/
  | quoteSeen
  /-- After the carriage return. -/
  | rowEnd
  deriving DecidableEq

/-- What was read: whole rows, whole fields of the row, and the field so far. -/
structure Reader where
  rows : List (List (List Char))
  row : List (List Char)
  field : List Char
  mode : Mode

namespace Reader

/-- Before the first character, and after each row. -/
def start (rows : List (List (List Char))) : Reader := ⟨rows, [], [], .rowStart⟩

/-- The field ends, and with it the row if a line ends. -/
def close (r : Reader) (ch : Char) : Reader :=
  if ch = ',' then ⟨r.rows, r.row ++ [r.field], [], .fieldStart⟩
  else ⟨r.rows ++ [r.row ++ [r.field]], [], [], if ch = '\r' then .rowEnd else .rowStart⟩

/-- A character outside quotes. -/
def unquoted (r : Reader) (ch : Char) : Reader :=
  if ch = ',' ∨ ch = '\r' ∨ ch = '\n' then r.close ch
  else { r with field := r.field ++ [ch], mode := .plain }

/-- A character that may open the quotes. -/
def opening (r : Reader) (ch : Char) : Reader :=
  if ch = quote then { r with mode := .quoted } else r.unquoted ch

/-- Read a character. -/
def step (r : Reader) (ch : Char) : Reader :=
  match r.mode with
  | .rowStart =>
    if ch = '\r' then ⟨r.rows ++ [[]], [], [], .rowEnd⟩
    else if ch = '\n' then ⟨r.rows ++ [[]], [], [], .rowStart⟩
    else r.opening ch
  | .fieldStart => r.opening ch
  | .plain => r.unquoted ch
  | .quoted => if ch = quote then
    { r with mode := .quoteSeen } else { r with field := r.field ++ [ch] }
  | .quoteSeen => if ch = quote then
    { r with field := r.field ++ [ch], mode := .quoted } else r.unquoted ch
  | .rowEnd => if ch = '\n' then { r with mode := .rowStart } else r.opening ch

end Reader

/-- The rows of a text. -/
def decode (text : List Char) : List (List (List Char)) := (text.foldl Reader.step (.start [])).rows

/-! ### Reading what was written -/

section

variable {r : Reader} {field : List Char} {ch : Char}

theorem foldl_escaped (h : r.mode = .quoted) :
    (field.flatMap escape).foldl Reader.step r = { r with field := r.field ++ field } := by
  induction field generalizing r with
  | nil => simp
  | cons ch field ih =>
    have hone : (escape ch).foldl Reader.step r = { r with field := r.field ++ [ch] } := by
      unfold escape
      split_ifs with hquote
      · subst hquote
        obtain ⟨rows, row, field, mode⟩ := r
        obtain rfl : mode = .quoted := h
        rfl
      · simp only [List.foldl_cons, List.foldl_nil, Reader.step, h, if_neg hquote]
    rw [List.flatMap_cons, List.foldl_append, hone, @ih { r with field := r.field ++ [ch] } h]
    simp

theorem foldl_plain (h : r.mode = .plain) (hfield : ∀ ch ∈ field, ¬ Special ch) :
    field.foldl Reader.step r = { r with field := r.field ++ field } := by
  induction field generalizing r with
  | nil => simp
  | cons ch field ih =>
    obtain ⟨hch, hfield⟩ := List.forall_mem_cons.1 hfield
    simp only [Special, not_or] at hch
    have hone : r.step ch = { r with field := r.field ++ [ch] } := by
      simp only [Reader.step, h, Reader.unquoted, hch, or_false, if_false]
    rw [List.foldl_cons, hone, @ih { r with field := r.field ++ [ch] } h hfield]
    simp

/-- A field has been read, whichever way it was written: an empty one leaves the reader where it
was. -/
structure Field (r r' : Reader) (field : List Char) : Prop where
  rows : r'.rows = r.rows
  row : r'.row = r.row
  field : r'.field = field
  mode : r'.mode = .plain ∨ r'.mode = .quoteSeen ∨ r' = r

theorem foldl_encodeField (hempty : r.field = [])
    (hmode : r.mode = .rowStart ∨ r.mode = .fieldStart) :
    Field r ((encodeField field).foldl Reader.step r) field := by
  unfold encodeField
  split_ifs with hspecial
  · have hopen : r.step quote = { r with mode := .quoted } := by
      rcases hmode with h | h <;> simp [Reader.step, h, Reader.opening, quote]
    have hclose : ({ r with field := field, mode := .quoted } : Reader).step quote =
        { r with field := field, mode := .quoteSeen } := rfl
    rw [List.foldl_cons, hopen, List.foldl_append, foldl_escaped rfl, List.foldl_cons,
      List.foldl_nil]
    simp only [hempty, List.nil_append, hclose]
    exact ⟨rfl, rfl, rfl, .inr (.inl rfl)⟩
  · cases field with
    | nil => exact ⟨rfl, rfl, hempty, .inr (.inr rfl)⟩
    | cons ch field =>
      have hplain : ∀ x ∈ ch :: field, ¬ Special x := by simpa [List.any_eq_true] using hspecial
      obtain ⟨hch, hrest⟩ := List.forall_mem_cons.1 hplain
      simp only [Special, not_or] at hch
      have hfirst : r.step ch = { r with field := [ch], mode := .plain } := by
        rcases hmode with h | h <;>
          simp [Reader.step, h, Reader.opening, Reader.unquoted, hch, hempty]
      rw [List.foldl_cons, hfirst, foldl_plain rfl hrest]
      exact ⟨rfl, rfl, rfl, .inl rfl⟩

theorem step_comma {r' : Reader} (hmode : r.mode = .rowStart ∨ r.mode = .fieldStart)
    (h : Field r r' field) :
    r'.step ',' = ⟨r.rows, r.row ++ [field], [], .fieldStart⟩ := by
  obtain ⟨hrows, hrow, hfield, h | h | rfl⟩ := h
  · simp [Reader.step, h, Reader.unquoted, Reader.close, hrows, hrow, hfield]
  · simp [Reader.step, h, Reader.unquoted, Reader.close, hrows, hrow, hfield, quote]
  · rcases hmode with h | h <;>
      simp [Reader.step, h, Reader.opening, Reader.unquoted, Reader.close, hfield, quote]

theorem foldl_lineEnd {r' : Reader}
    (hmode : r.mode = .fieldStart ∨ (r.mode = .rowStart ∧ field ≠ [])) (hempty : r.field = [])
    (h : Field r r' field) :
    ['\r', '\n'].foldl Reader.step r' = .start (r.rows ++ [r.row ++ [field]]) := by
  obtain ⟨hrows, hrow, hfield, h | h | rfl⟩ := h
  · simp [Reader.step, h, Reader.unquoted, Reader.close, hrows, hrow, hfield, Reader.start]
  · simp [Reader.step, h, Reader.unquoted, Reader.close, hrows, hrow, hfield, quote, Reader.start]
  · rcases hmode with h | ⟨-, hne⟩
    · simp [Reader.step, h, Reader.opening, Reader.unquoted, Reader.close, hfield, quote,
        Reader.start]
    · -- an empty field here would read as a row without fields
      exact absurd (hfield.symm.trans hempty) hne

theorem foldl_encodeFields (fields : List (List Char)) (hne : fields ≠ []) (hempty : r.field = [])
    (hmode : r.mode = .fieldStart ∨ (r.mode = .rowStart ∧ fields ≠ [[]])) :
    (encodeFields fields ++ ['\r', '\n']).foldl Reader.step r =
      .start (r.rows ++ [r.row ++ fields]) := by
  induction fields generalizing r with
  | nil => exact absurd rfl hne
  | cons field rest ih =>
    have hstart : r.mode = .rowStart ∨ r.mode = .fieldStart := hmode.elim .inr fun h => .inl h.1
    have hfield := @foldl_encodeField r field hempty hstart
    cases rest with
    | nil =>
      rw [encodeFields, List.foldl_append]
      refine foldl_lineEnd (hmode.imp_right fun h => ⟨h.1, ?_⟩) hempty hfield
      rintro rfl
      exact h.2 rfl
    | cons next rest =>
      rw [encodeFields, List.append_assoc, List.foldl_append, List.cons_append, List.foldl_cons,
        step_comma hstart hfield, ih (by simp) rfl (.inl rfl)]
      simp

theorem foldl_encodeRow (rows : List (List (List Char))) (row : List (List Char)) :
    (encodeRow row).foldl Reader.step (.start rows) = .start (rows ++ [row]) := by
  unfold encodeRow
  split_ifs with hone
  · subst hone
    rfl
  · cases row with
    | nil => rfl
    | cons field rest =>
      exact @foldl_encodeFields (.start rows) _ (by simp) rfl (.inr ⟨rfl, hone⟩)

/-- **What was written is read back.** -/
theorem decode_encode (rows : List (List (List Char))) : decode (encode rows) = rows := by
  have hrows : ∀ before : List (List (List Char)),
      (encode rows).foldl Reader.step (.start before) = .start (before ++ rows) := by
    induction rows with
    | nil => simp [encode]
    | cons row rows ih =>
      intro before
      rw [encode, List.flatMap_cons, List.foldl_append, foldl_encodeRow, ← encode, ih]
      simp
  rw [decode, hrows]
  rfl

end

end Csv

end OpenCloud
