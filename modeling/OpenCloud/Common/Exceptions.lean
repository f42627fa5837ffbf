import Mathlib.Data.List.Basic

/-!
# How a request fails

A view either raises an `AppError`, which the exception handler turns into a response with its
status, code and message, or it does not catch what the database raised.
-/

namespace OpenCloud

/-- `AppError`. -/
structure AppError where
  message : String
  code : String
  statusCode : ℕ
  deriving DecidableEq

/-- What the database may answer to a write. -/
inductive DbError where
  /-- A constraint is violated, `IntegrityError`. -/
  | integrity
  /-- A value does not fit its column, `DataError`. -/
  | data
  deriving DecidableEq, Repr

/-- How a request fails. -/
inductive Failure where
  | app (err : AppError)
  | db (err : DbError)
  deriving DecidableEq

theorem exists_of_bind_eq_ok {ε α β : Type} {x : Except ε α} {f : α → Except ε β} {b : β}
    (h : x >>= f = .ok b) : ∃ a, x = .ok a ∧ f a = .ok b := by
  cases x with
  | error e => cases h
  | ok a => exact ⟨a, rfl, h⟩

theorem eq_ok_of_mapError {ε ε' α : Type} {x : Except ε α} {f : ε → ε'} {a : α}
    (h : x.mapError f = .ok a) : x = .ok a := by
  cases x with
  | error e => cases h
  | ok a' => exact congrArg Except.ok (Except.ok.inj h)

theorem foldlM_keeps {ε α β : Type} {f : β → α → Except ε β} {I : β → Prop} {as : List α} {b b' : β}
    (h : as.foldlM f b = .ok b') (hb : I b) (hstep : ∀ b a b', I b → f b a = .ok b' → I b') :
    I b' := by
  induction as generalizing b with
  | nil =>
    obtain rfl : b = b' := Except.ok.inj h
    exact hb
  | cons a as ih =>
    rw [List.foldlM_cons] at h
    obtain ⟨b₁, hb₁, hrest⟩ := exists_of_bind_eq_ok h
    exact ih hrest (hstep b a b₁ hb hb₁)

theorem exists_of_foldlM_eq_error {ε α β : Type} {f : β → α → Except ε β} {as : List α} {b : β}
    {err : ε} (h : as.foldlM f b = .error err) : ∃ b', ∃ a ∈ as, f b' a = .error err := by
  induction as generalizing b with
  | nil => cases h
  | cons a as ih =>
    rw [List.foldlM_cons] at h
    cases hb : f b a with
    | error err' =>
      rw [hb] at h
      obtain rfl : err' = err := Except.error.inj h
      exact ⟨b, a, by simp, hb⟩
    | ok b₁ =>
      rw [hb] at h
      obtain ⟨b', a', ha', herr⟩ := ih h
      exact ⟨b', a', by simp [ha'], herr⟩

end OpenCloud
