import OpenCloud.Lib.Runs

/-!
# What happened in a run

`Happened P es` says that some event of `es` fired in a state where `P` held of the events before
it, of the state and of the event.  What a state holds and the first one did not goes back to the
event that brought it (`Run.happened`); what is said of that event may itself say what had happened
before.
-/

namespace OpenCloud

namespace System

variable {S E : Type*}

/-- An event of the run fired where `P` held, of the events before, the state and the event. -/
def Happened (A : System S E) (s₀ : S) (P : List E → S → E → Prop) (es : List E) : Prop :=
  ∃ before e after s, es = before ++ e :: after ∧ A.Run Free s₀ before s ∧ P before s e

variable {A : System S E} {s₀ s : S} {P : List E → S → E → Prop} {es : List E} {e : E}

theorem Run.append {C D : List E → S → E → Prop} {es' : List E} {s' : S} (h : A.Run C s₀ es s)
    (h' : A.Run D s es' s') (hCD : ∀ past s e, D past s e → C (es ++ past) s e) :
    A.Run C s₀ (es ++ es') s' := by
  induction h' with
  | nil =>
    rw [List.append_nil]
    exact h
  | snoc _ hd hst ih =>
    rw [← List.append_assoc]
    exact ih.snoc (hCD _ _ _ hd) hst

namespace Happened

theorem snoc (h : A.Happened s₀ P es) : A.Happened s₀ P (es ++ [e]) := by
  obtain ⟨before, e', after, s, rfl, hrest⟩ := h
  exact ⟨before, e', after ++ [e], s, by rw [List.append_assoc, List.cons_append], hrest⟩

theorem last (hrun : A.Run Free s₀ es s) (h : P es s e) : A.Happened s₀ P (es ++ [e]) :=
  ⟨es, e, [], s, rfl, hrun, h⟩

end Happened

/-- What a state of a run holds goes back to the event that brought it, if the first state does not
hold it. -/
theorem Run.happened {X : Type*} {Holds : S → X → Prop} {Brings : X → List E → S → E → Prop}
    (hrun : A.Run Free s₀ es s) (h₀ : ∀ x, ¬ Holds s₀ x)
    (hstep : ∀ es s e s', A.Run Free s₀ es s → A.step s e s' → ∀ x, Holds s' x →
      Holds s x ∨ Brings x es s e)
    {x : X} (hx : Holds s x) : A.Happened s₀ (Brings x) es := by
  induction hrun with
  | nil => exact absurd hx (h₀ x)
  | snoc hrun _ hst ih =>
    rcases hstep _ _ _ _ hrun hst x hx with hold | hnew
    · exact (ih hold).snoc
    · exact .last hrun hnew

end System

end OpenCloud
