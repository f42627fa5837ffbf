import OpenCloud.Lib.Runs
import Mathlib.Data.List.Basic
import Mathlib.Logic.Function.Basic

/-!
# Transactions under READ COMMITTED

A database table with unique constraints, written by transactions that run side by side.  `ρ` is the
type of rows; two rows `clash` when a constraint does not allow them together.  Each transaction is
a program over control states `σ`: in each state it executes one statement (`Instr`).

* A read sees the committed rows and the transaction's own.
* An insert that clashes with a row it sees fails and the program goes on (its savepoint is rolled
  back).  One that clashes with a row another transaction has not committed yet waits: it cannot
  step until that transaction has ended.
* A commit publishes the rows of the transaction, a rollback drops them.
* A transaction may fail between any two statements, which rolls it back.

## Main results

* `step_cases`, `step_of_cases` : what one step can do.
* `pairwise_step` : no step makes two rows clash, committed or not.
-/

namespace OpenCloud

/-- A statement of a transaction, with where the program goes on. -/
inductive Instr (ρ σ : Type*) where
  /-- Read the rows. -/
  | read (next : List ρ → σ)
  /-- Insert rows, in a savepoint. -/
  | insert (rows : List ρ) (ok dup : σ)
  | commit (next : σ)
  | rollback (next : σ)
  /-- The transaction has ended. -/
  | halt

/-- What can happen: a transaction executes a statement, or fails. -/
inductive TxEvent (ι : Type*) where
  | run (i : ι)
  | fail (i : ι)
  deriving DecidableEq

/-- The database with its transactions `ι`.  Rows carry the transaction that wrote them, none for
the rows there before. -/
structure Store (ι ρ σ : Type*) where
  committed : List (Option ι × ρ)
  pending : List (ι × ρ)
  ctl : ι → σ

namespace Store

variable {ι ρ σ : Type*} [DecidableEq ι]

/-- The committed rows. -/
def rows (s : Store ι ρ σ) : List ρ := s.committed.map Prod.snd

/-- The rows a transaction has written and not yet committed. -/
def own (s : Store ι ρ σ) (i : ι) : List ρ := (s.pending.filter fun e => e.1 = i).map Prod.snd

/-- The rows a transaction sees. -/
def visible (s : Store ι ρ σ) (i : ι) : List ρ := s.rows ++ s.own i

/-- A transaction goes on. -/
def goto (s : Store ι ρ σ) (i : ι) (k : σ) : Store ι ρ σ :=
  { s with ctl := Function.update s.ctl i k }

/-- A transaction adds rows. -/
def addRows (s : Store ι ρ σ) (i : ι) (rows : List ρ) : Store ι ρ σ :=
  { s with pending := s.pending ++ rows.map fun r => (i, r) }

/-- A transaction drops its rows. -/
def drop (s : Store ι ρ σ) (i : ι) : Store ι ρ σ :=
  { s with pending := s.pending.filter fun e => e.1 ≠ i }

/-- A transaction publishes its rows. -/
def publish (s : Store ι ρ σ) (i : ι) : Store ι ρ σ :=
  { s.drop i with committed := s.committed ++ (s.own i).map fun r => (some i, r) }

end Store

/-- Some row of the first list clashes with one of the second. -/
def Conflict {ρ : Type*} (clash : ρ → ρ → Prop) (new old : List ρ) : Prop :=
  ∃ r ∈ new, ∃ r' ∈ old, clash r r'

section

variable {ι ρ σ : Type*} [DecidableEq ι] (clash : ρ → ρ → Prop) [DecidableRel clash]
  (prog : ι → σ → Instr ρ σ) (failed : σ)

instance (new old : List ρ) : Decidable (Conflict clash new old) :=
  inferInstanceAs (Decidable (∃ r ∈ new, ∃ r' ∈ old, clash r r'))

/-- One step; none where the transaction cannot step, because it has ended or waits. -/
def txStep (s : Store ι ρ σ) : TxEvent ι → Option (Store ι ρ σ)
  | .run i =>
    match prog i (s.ctl i) with
    | .read next => some (s.goto i (next (s.visible i)))
    | .insert rows ok dup =>
      if Conflict clash rows (s.visible i) then some (s.goto i dup)
      else if Conflict clash rows (s.pending.map Prod.snd) then none
      else some ((s.addRows i rows).goto i ok)
    | .commit next => some ((s.publish i).goto i next)
    | .rollback next => some ((s.drop i).goto i next)
    | .halt => none
  | .fail i =>
    match prog i (s.ctl i) with
    | .halt => none
    | _ => some ((s.drop i).goto i failed)

/-- The transactions side by side. -/
def transactions : System (Store ι ρ σ) (TxEvent ι) := System.ofExec (txStep clash prog failed)

variable {clash prog failed} {s s' : Store ι ρ σ} {e : TxEvent ι}

/-- What one step can do. -/
inductive TxStep (clash : ρ → ρ → Prop) (prog : ι → σ → Instr ρ σ) (failed : σ)
    (s : Store ι ρ σ) : TxEvent ι → Store ι ρ σ → Prop
  | read {i next} : prog i (s.ctl i) = .read next →
      TxStep clash prog failed s (.run i) (s.goto i (next (s.visible i)))
  | dup {i rows ok dup} : prog i (s.ctl i) = .insert rows ok dup →
      Conflict clash rows (s.visible i) → TxStep clash prog failed s (.run i) (s.goto i dup)
  | insert {i rows ok dup} : prog i (s.ctl i) = .insert rows ok dup →
      ¬ Conflict clash rows s.rows → ¬ Conflict clash rows (s.pending.map Prod.snd) →
      TxStep clash prog failed s (.run i) ((s.addRows i rows).goto i ok)
  | commit {i next} : prog i (s.ctl i) = .commit next →
      TxStep clash prog failed s (.run i) ((s.publish i).goto i next)
  | rollback {i next} : prog i (s.ctl i) = .rollback next →
      TxStep clash prog failed s (.run i) ((s.drop i).goto i next)
  | fail {i} : prog i (s.ctl i) ≠ .halt →
      TxStep clash prog failed s (.fail i) ((s.drop i).goto i failed)

omit [DecidableRel clash] in
theorem conflict_append_right {new old old' : List ρ} :
    Conflict clash new (old ++ old') ↔ Conflict clash new old ∨ Conflict clash new old' := by
  constructor
  · rintro ⟨r, hr, r', hr', h⟩
    rcases List.mem_append.1 hr' with hr' | hr'
    · exact .inl ⟨r, hr, r', hr', h⟩
    · exact .inr ⟨r, hr, r', hr', h⟩
  · rintro (⟨r, hr, r', hr', h⟩ | ⟨r, hr, r', hr', h⟩)
    · exact ⟨r, hr, r', List.mem_append_left _ hr', h⟩
    · exact ⟨r, hr, r', List.mem_append_right _ hr', h⟩

theorem step_cases (h : (transactions clash prog failed).step s e s') :
    TxStep clash prog failed s e s' := by
  have hstep : txStep clash prog failed s e = some s' := h
  cases e with
  | run i =>
    simp only [txStep] at hstep
    split at hstep
    · rename_i next hprog
      obtain rfl := Option.some.inj hstep
      exact .read hprog
    · rename_i rows ok dup hprog
      split_ifs at hstep with hvisible hpending
      · obtain rfl := Option.some.inj hstep
        exact .dup hprog hvisible
      · obtain rfl := Option.some.inj hstep
        exact .insert hprog (fun hc => hvisible (conflict_append_right.2 (.inl hc))) hpending
    · rename_i next hprog
      obtain rfl := Option.some.inj hstep
      exact .commit hprog
    · rename_i next hprog
      obtain rfl := Option.some.inj hstep
      exact .rollback hprog
    · cases hstep
  | fail i =>
    simp only [txStep] at hstep
    split at hstep
    · cases hstep
    · rename_i hprog
      obtain rfl := Option.some.inj hstep
      exact .fail hprog

theorem step_of_cases (h : TxStep clash prog failed s e s') :
    (transactions clash prog failed).step s e s' := by
  change txStep clash prog failed s e = some s'
  cases h with
  | read hprog => simp only [txStep, hprog]
  | dup hprog hvisible => simp only [txStep, hprog, if_pos hvisible]
  | @insert i rows ok dup hprog hrows hpending =>
    have hvisible : ¬ Conflict clash rows (s.visible i) := fun hc => by
      rcases conflict_append_right.1 hc with hc | ⟨r, hr, r', hr', h⟩
      · exact hrows hc
      · exact hpending ⟨r, hr, r', (List.filter_sublist.map _).subset hr', h⟩
    simp only [txStep, hprog, if_neg hvisible, if_neg hpending]
  | commit hprog => simp only [txStep, hprog]
  | rollback hprog => simp only [txStep, hprog]
  | fail hprog =>
    simp only [txStep]

/-! ### The rows of a transaction -/

namespace Store

variable {i j : ι} {k : σ} {rows : List ρ}

@[simp] theorem rows_goto : (s.goto i k).rows = s.rows := rfl

@[simp] theorem own_goto : (s.goto i k).own j = s.own j := rfl

@[simp] theorem pending_goto : (s.goto i k).pending = s.pending := rfl

@[simp] theorem committed_goto : (s.goto i k).committed = s.committed := rfl

@[simp] theorem ctl_goto_self : (s.goto i k).ctl i = k := Function.update_self _ _ _

theorem ctl_goto_of_ne (h : j ≠ i) : (s.goto i k).ctl j = s.ctl j := Function.update_of_ne h _ _

@[simp] theorem ctl_drop : (s.drop i).ctl = s.ctl := rfl

@[simp] theorem committed_drop : (s.drop i).committed = s.committed := rfl

@[simp] theorem rows_drop : (s.drop i).rows = s.rows := rfl

@[simp] theorem ctl_publish : (s.publish i).ctl = s.ctl := rfl

@[simp] theorem pending_publish : (s.publish i).pending = (s.drop i).pending := rfl

@[simp] theorem rows_publish : (s.publish i).rows = s.rows ++ s.own i := by
  simp [publish, rows, Function.comp_def]

theorem own_addRows_self : (s.addRows i rows).own i = s.own i ++ rows := by
  have hall : (rows.map fun r => (i, r)).filter (fun e => e.1 = i) = rows.map fun r => (i, r) :=
    List.filter_eq_self.2 fun e he => by
      obtain ⟨r, -, rfl⟩ := List.mem_map.1 he
      simp
  rw [own, addRows, List.filter_append, hall, List.map_append, List.map_map]
  simp [own, Function.comp_def]

theorem own_addRows_of_ne (h : j ≠ i) : (s.addRows i rows).own j = s.own j := by
  have hnone : (rows.map fun r => (i, r)).filter (fun e => e.1 = j) = [] :=
    List.filter_eq_nil_iff.2 fun e he => by
      obtain ⟨r, -, rfl⟩ := List.mem_map.1 he
      simpa using Ne.symm h
  rw [own, addRows, List.filter_append, hnone, List.append_nil]
  rfl

@[simp] theorem own_drop_self : (s.drop i).own i = [] := by
  simp [drop, own, List.filter_filter]

theorem own_drop_of_ne (h : j ≠ i) : (s.drop i).own j = s.own j := by
  simp only [drop, own, List.filter_filter]
  congr 1
  refine List.filter_congr fun e _ => ?_
  by_cases he : e.1 = j <;> simp [he, h]

@[simp] theorem own_publish (j : ι) : (s.publish i).own j = (s.drop i).own j := rfl

theorem sublist_own (s : Store ι ρ σ) (i : ι) : (s.own i).Sublist (s.pending.map Prod.snd) :=
  List.filter_sublist.map _

section AddRows

omit [DecidableEq ι]

@[simp] theorem rows_addRows : (s.addRows i rows).rows = s.rows := rfl

@[simp] theorem committed_addRows : (s.addRows i rows).committed = s.committed := rfl

@[simp] theorem ctl_addRows : (s.addRows i rows).ctl = s.ctl := rfl

end AddRows

end Store

/-! ### The constraints -/

/-- All rows, committed or not. -/
def Store.all (s : Store ι ρ σ) : List ρ := s.rows ++ s.pending.map Prod.snd

/-- A step keeps the rows apart. -/
theorem pairwise_step (hsymm : ∀ a b, clash a b → clash b a)
    (hprog : ∀ i k rows ok dup, prog i k = .insert rows ok dup →
      rows.Pairwise fun a b => ¬ clash a b)
    (h : (transactions clash prog failed).step s e s')
    (hs : s.all.Pairwise fun a b => ¬ clash a b) : s'.all.Pairwise fun a b => ¬ clash a b := by
  have hdrop : ∀ i, (s.drop i).all.Pairwise fun a b => ¬ clash a b := fun i =>
    hs.sublist ((List.Sublist.refl _).append (List.filter_sublist.map _))
  cases step_cases h with
  | read _ => exact hs
  | dup _ _ => exact hs
  | @insert i rows ok dup hi hrows hpending =>
    have hall : ((s.addRows i rows).goto i ok).all = s.all ++ rows := by
      simp [Store.all, Store.addRows, Store.rows, Function.comp_def]
    rw [hall, List.pairwise_append]
    refine ⟨hs, hprog i _ rows ok dup hi, fun r hr r' hr' hclash => ?_⟩
    rcases List.mem_append.1 hr with hr | hr
    · exact hrows ⟨r', hr', r, hr, hsymm _ _ hclash⟩
    · exact hpending ⟨r', hr', r, hr, hsymm _ _ hclash⟩
  | @commit i next _ =>
    have hperm : (s.publish i).all.Perm s.all := by
      have hsplit := (List.filter_append_perm (fun e : ι × ρ => decide (e.1 = i)) s.pending).map
        Prod.snd
      rw [Store.all, Store.rows_publish, List.append_assoc]
      refine List.Perm.append_left _ ?_
      simpa [Store.own, Store.drop, List.map_append] using hsplit
    have hsymm' : ∀ {a b : ρ}, ¬ clash a b → ¬ clash b a := fun hab hba => hab (hsymm _ _ hba)
    exact (hperm.pairwise_iff hsymm').2 hs
  | @rollback i _ _ => exact hdrop i
  | @fail i _ => exact hdrop i

end

end OpenCloud
