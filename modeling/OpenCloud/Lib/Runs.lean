import Mathlib.Data.List.Induction
import Mathlib.Data.Option.Basic
import Mathlib.Tactic.SplitIfs

/-!
# Runs of a system

A *system* is a step relation `S → E → S → Prop` on states `S` with events `E` (requests,
statements, the passing of time).  `Run C s₀ es s` says that the events `es`, in this order,
lead from `s₀` to `s`, and that every one of them met the condition `C` at the moment it
happened; `C` sees the events before it, the state it fires in and the event itself.

A run without a condition is a run whose condition always holds (`Free`).

## Main results

* `Run.invariant` : what holds at the start and is kept by every step holds of every run.
* `Run.keeps_iff` : where an event keeps `I` exactly if it meets `C`, so does a run.
* `Run.of_exec` : for a system given by a function, executing the events,
  checking the condition at each, is a run.
-/

namespace OpenCloud

/-- A system: the steps from a state to a state, each with its event. -/
structure System (S E : Type*) where
  /-- `step s e s'` : the event `e` can take the system from `s` to `s'`. -/
  step : S → E → S → Prop

namespace System

variable {S E : Type*}

/-- The condition that every event meets. -/
def Free : List E → S → E → Prop := fun _ _ _ => True

/-- The runs of `A` from `s₀` in which every event meets `C`. -/
inductive Run (A : System S E) (C : List E → S → E → Prop) (s₀ : S) : List E → S → Prop
  | nil : Run A C s₀ [] s₀
  | snoc {es : List E} {s s' : S} {e : E} :
      Run A C s₀ es s → C es s e → A.step s e s' → Run A C s₀ (es ++ [e]) s'

variable {A : System S E} {C D : List E → S → E → Prop} {s₀ s : S} {es : List E}

namespace Run

theorem mono (h : A.Run C s₀ es s) (hCD : ∀ es s e, C es s e → D es s e) : A.Run D s₀ es s := by
  induction h with
  | nil => exact nil
  | snoc _ hc hst ih => exact ih.snoc (hCD _ _ _ hc) hst

theorem mono_of_run (h : A.Run C s₀ es s) (hCD : ∀ es s e, A.Run C s₀ es s → C es s e → D es s e) :
    A.Run D s₀ es s := by
  induction h with
  | nil => exact nil
  | snoc hrun hc hst ih => exact ih.snoc (hCD _ _ _ hrun hc) hst

/-- What holds before any event, and is kept by every event that meets the condition, holds
after every run.  The invariant may look at the events of the run so far. -/
theorem invariant {I : List E → S → Prop} (h : A.Run C s₀ es s) (h₀ : I [] s₀)
    (hstep : ∀ es s e s', I es s → C es s e → A.step s e s' → I (es ++ [e]) s') : I es s := by
  induction h with
  | nil => exact h₀
  | snoc _ hc hst ih => exact hstep _ _ _ _ ih hc hst

theorem keeps {I : S → Prop} (h : A.Run C s₀ es s) (h₀ : I s₀)
    (hstep : ∀ s e s', I s → A.step s e s' → I s') : I s :=
  h.invariant (I := fun _ s => I s) h₀ fun _ _ _ _ hi _ hst => hstep _ _ _ hi hst

end Run

/-! ### Systems given by a function -/

/-- The system whose event `e` takes `s` to `exec s e`, and cannot happen where that is
`none`. -/
def ofExec (exec : S → E → Option S) : System S E := ⟨fun s e s' => exec s e = some s'⟩

/-- Execute the events in order, as long as each meets the condition; `past` are the events
before. -/
def execAll (exec : S → E → Option S) (C : List E → S → E → Prop) [∀ es s e, Decidable (C es s e)] :
    List E → S → List E → Option S
  | _, s, [] => some s
  | past, s, e :: es =>
    if C past s e then (exec s e).bind fun s' => execAll exec C (past ++ [e]) s' es else none

instance (es : List E) (s : S) (e : E) : Decidable (Free es s e) := inferInstanceAs (Decidable True)

theorem Run.of_exec_append {exec : S → E → Option S} [∀ es s e, Decidable (C es s e)]
    {past : List E} {s' : S} (hpast : (ofExec exec).Run C s₀ past s)
    (h : execAll exec C past s es = some s') :
    (ofExec exec).Run C s₀ (past ++ es) s' := by
  induction es generalizing past s with
  | nil =>
    obtain rfl : s = s' := by simpa [execAll] using h
    rwa [List.append_nil]
  | cons e es ih =>
    rw [execAll] at h
    split_ifs at h with hc
    obtain ⟨t, ht, hrest⟩ := Option.bind_eq_some_iff.1 h
    have := ih (hpast.snoc hc ht) hrest
    rwa [List.append_assoc] at this

/-- Where an event keeps `I` exactly if it meets `C`, a run keeps `I` at every event exactly if
every event meets `C`. -/
theorem Run.keeps_iff {next : S → E → S} {I : S → Prop} (h₀ : I s₀)
    (h : ∀ es s e, I s → (I (next s e) ↔ C es s e)) :
    (ofExec fun s e => some (next s e)).Run (fun _ s e => I (next s e)) s₀ es s ↔
      (ofExec fun s e => some (next s e)).Run C s₀ es s := by
  constructor
  · intro hrun
    refine hrun.mono_of_run fun es s e hbefore hnext => (h es s e ?_).1 hnext
    refine hbefore.invariant (I := fun _ s => I s) h₀ fun _ s e s' _ hnext hst => ?_
    obtain rfl := Option.some.inj hst
    exact hnext
  · intro hrun
    refine hrun.mono_of_run fun es s e hbefore hc => (h es s e ?_).2 hc
    refine hbefore.invariant (I := fun _ s => I s) h₀ fun es s e s' hi hc hst => ?_
    obtain rfl := Option.some.inj hst
    exact (h es s e hi).2 hc

theorem Run.of_exec {exec : S → E → Option S} [∀ es s e, Decidable (C es s e)]
    (h : execAll exec C [] s₀ es = some s) : (ofExec exec).Run C s₀ es s :=
  Run.nil.of_exec_append h

end System

end OpenCloud
