import Mathlib.Algebra.BigOperators.Group.Finset.Basic
import Mathlib.Algebra.Order.BigOperators.Group.Finset
import Mathlib.Data.Fintype.Card
import Mathlib.Logic.Function.Basic

/-!
# Programs that gather

A program makes calls and goes on with their answers; it may also *gather*: run some programs, each
with a result of its own type, and go on with all of the results.  `Fetch.Yields` runs a program in
turn, one call after the other. `Task.Steps` runs it on pools of workers, a pool to each gather,
with the steps of all that has begun in any order.

Either keeps the calls made with the answers given, as a multiset.

## Main results

* `Fetch.yields_iff_steps` : a program returns on workers what it returns in turn, for the same
  calls with the same answers.
* `Fetch.Yields.eq_eval` : where an answer depends on the call alone, there is one result.
-/

namespace OpenCloud

/-- A program that makes calls in `ρ`, is answered in `α`, and returns a value of the last type. -/
inductive Fetch (ρ : Type) (α : ρ → Type) : Type → Type 1
  | done {υ : Type} (value : υ) : Fetch ρ α υ
  | call {υ : Type} (r : ρ) (next : α r → Fetch ρ α υ) : Fetch ρ α υ
  | gather {υ ι : Type} [Fintype ι] [DecidableEq ι] {τ : ι → Type}
      (sources : (i : ι) → Fetch ρ α (τ i)) (next : ((i : ι) → τ i) → Fetch ρ α υ) : Fetch ρ α υ

/-- A program that is carried out. -/
inductive Task (ρ : Type) (α : ρ → Type) : Type → Type 1
  /-- It waits for a worker. -/
  | queued {υ : Type} (f : Fetch ρ α υ) : Task ρ α υ
  | calling {υ : Type} (r : ρ) (next : α r → Fetch ρ α υ) : Task ρ α υ
  | gathering {υ ι : Type} [Fintype ι] [DecidableEq ι] {τ : ι → Type} (workers : ℕ)
      (tasks : (i : ι) → Task ρ α (τ i)) (next : ((i : ι) → τ i) → Fetch ρ α υ) : Task ρ α υ
  | returned {υ : Type} (value : υ) : Task ρ α υ

section

variable {ρ : Type} {α : ρ → Type} {υ : Type}

/-- The value of a program whose calls are answered by a function. -/
def Fetch.eval (answer : (r : ρ) → α r) : {υ : Type} → Fetch ρ α υ → υ
  | _, .done value => value
  | _, .call r next => (next (answer r)).eval answer
  | _, @Fetch.gather _ _ _ _ _ _ _ sources next =>
    (next fun i => (sources i).eval answer).eval answer

/-- A program, run in turn, returns the value after these calls with these answers. -/
inductive Fetch.Yields : {υ : Type} → Fetch ρ α υ → Multiset (Σ r, α r) → υ → Prop
  | done {υ : Type} (value : υ) : Fetch.Yields (.done value) 0 value
  | call {υ : Type} {r : ρ} {next : α r → Fetch ρ α υ} {a : α r} {calls : Multiset (Σ r, α r)}
      {value : υ} :
      Fetch.Yields (next a) calls value → Fetch.Yields (.call r next) ({⟨r, a⟩} + calls) value
  | gather {υ ι : Type} [Fintype ι] [DecidableEq ι] {τ : ι → Type}
      {sources : (i : ι) → Fetch ρ α (τ i)} {next : ((i : ι) → τ i) → Fetch ρ α υ}
      {each : ι → Multiset (Σ r, α r)} {values : (i : ι) → τ i} {calls : Multiset (Σ r, α r)}
      {value : υ} :
      (∀ i, Fetch.Yields (sources i) (each i) (values i)) → Fetch.Yields (next values) calls value →
      Fetch.Yields (.gather sources next) (∑ i, each i + calls) value

variable (pool : ℕ → ℕ)

/-- A program begins; `pool` is the number of workers for a number of sources. -/
def Fetch.begin : Fetch ρ α υ → Task ρ α υ
  | .done value => .returned value
  | .call r next => .calling r next
  | @Fetch.gather _ _ _ ι _ _ _ sources next =>
    .gathering (pool (Fintype.card ι)) (fun i => .queued (sources i)) next

/-- A worker is at the task. -/
def Task.busy : Task ρ α υ → Bool
  | queued _ | returned _ => false
  | calling _ _ | gathering _ _ _ => true

/-- A step of a task, with the call that it answers, if it does. -/
inductive Task.Step : {υ : Type} → Task ρ α υ → Option (Σ r, α r) → Task ρ α υ → Prop
  | answer {υ : Type} {r : ρ} {next : α r → Fetch ρ α υ} (a : α r) :
      Task.Step (.calling r next) (some ⟨r, a⟩) ((next a).begin pool)
  /-- A free worker takes one of the sources that wait. -/
  | dispatch {υ ι : Type} [Fintype ι] [DecidableEq ι] {τ : ι → Type} {workers : ℕ}
      {tasks : (i : ι) → Task ρ α (τ i)} {next : ((i : ι) → τ i) → Fetch ρ α υ} {i : ι}
        {f : Fetch ρ α (τ i)} :
      tasks i = .queued f → (Finset.univ.filter fun j => (tasks j).busy = true).card < workers →
      Task.Step (.gathering workers tasks next) none
        (.gathering workers (Function.update tasks i (f.begin pool)) next)
  | source {υ ι : Type} [Fintype ι] [DecidableEq ι] {τ : ι → Type} {workers : ℕ}
      {tasks : (i : ι) → Task ρ α (τ i)} {next : ((i : ι) → τ i) → Fetch ρ α υ} {i : ι}
      {call : Option (Σ r, α r)} {t : Task ρ α (τ i)} :
      Task.Step (tasks i) call t →
      Task.Step (.gathering workers tasks next) call
        (.gathering workers (Function.update tasks i t) next)
  | join {υ ι : Type} [Fintype ι] [DecidableEq ι] {τ : ι → Type} {workers : ℕ}
      {tasks : (i : ι) → Task ρ α (τ i)} {next : ((i : ι) → τ i) → Fetch ρ α υ} {values : (i : ι) →
        τ i} :
      (∀ i, tasks i = .returned (values i)) →
      Task.Step (.gathering workers tasks next) none ((next values).begin pool)

/-- Steps of a task, with the calls that they answer. -/
inductive Task.Steps : Task ρ α υ → Multiset (Σ r, α r) → Task ρ α υ → Prop
  | refl (t : Task ρ α υ) : Task.Steps t 0 t
  | head {t t' t'' : Task ρ α υ} {call : Option (Σ r, α r)} {calls : Multiset (Σ r, α r)} :
      Task.Step pool t call t' → Task.Steps t' calls t'' → Task.Steps t (↑call.toList + calls) t''

/-- What is left of a task, run in turn, returns the value. -/
inductive Task.Yields : {υ : Type} → Task ρ α υ → Multiset (Σ r, α r) → υ → Prop
  | queued {υ : Type} {f : Fetch ρ α υ} {calls : Multiset (Σ r, α r)} {value : υ} :
      f.Yields calls value → Task.Yields (.queued f) calls value
  | calling {υ : Type} {r : ρ} {next : α r → Fetch ρ α υ} {a : α r} {calls : Multiset (Σ r, α r)}
    {value : υ} :
      (next a).Yields calls value → Task.Yields (.calling r next) ({⟨r, a⟩} + calls) value
  | gathering {υ ι : Type} [Fintype ι] [DecidableEq ι] {τ : ι → Type} {workers : ℕ}
      {tasks : (i : ι) → Task ρ α (τ i)} {next : ((i : ι) → τ i) → Fetch ρ α υ} {each : ι →
        Multiset (Σ r, α r)}
      {values : (i : ι) → τ i}
      {calls : Multiset (Σ r, α r)} {value : υ} :
      (∀ i, Task.Yields (tasks i) (each i) (values i)) → (next values).Yields calls value →
      Task.Yields (.gathering workers tasks next) (∑ i, each i + calls) value
  | returned {υ : Type} (value : υ) : Task.Yields (.returned value) 0 value

end

section

variable {ρ : Type} {α : ρ → Type} {υ : Type} {pool : ℕ → ℕ} {f : Fetch ρ α υ} {t t' : Task ρ α υ}
  {call : Option (Σ r, α r)} {calls : Multiset (Σ r, α r)} {value : υ}

/-- What has begun and not gone on yields what the program does. -/
theorem Task.yields_begin : ((f.begin pool).Yields calls value) ↔ f.Yields calls value := by
  cases f with
  | done v =>
    constructor
    · rintro ⟨⟩
      exact .done _
    · rintro ⟨⟩
      exact .returned _
  | call r next =>
    constructor
    · rintro ⟨⟩
      rename_i hnext
      exact .call hnext
    · rintro ⟨⟩
      rename_i hnext
      exact .calling hnext
  | gather sources next =>
    constructor
    · rintro ⟨⟩
      rename_i hsources hnext
      refine .gather (fun i => ?_) hnext
      cases hsources i with
      | queued h => exact h
    · rintro ⟨⟩
      rename_i hsources hnext
      exact .gathering (fun i => .queued (hsources i)) hnext

theorem sum_update_add {ι M : Type*} [Fintype ι] [DecidableEq ι] [AddCommMonoid M] (each : ι → M)
    (i : ι) (x : M) :
    ∑ j, Function.update each i (x + each i) j = x + ∑ j, each j := by
  rw [← Finset.add_sum_erase _ _ (Finset.mem_univ i),
    ← Finset.add_sum_erase _ each (Finset.mem_univ i), Function.update_self, add_assoc]
  congr 2
  refine Finset.sum_congr rfl fun j hj => ?_
  rw [Function.update_of_ne (Finset.ne_of_mem_erase hj)]

/-- A step can be made up for in turn: what the successor yields, the task yields with the call of
the step. -/
theorem Task.Step.yields {υ : Type} {t t' : Task ρ α υ} {value : υ} (h : t.Step pool call t')
    (ht' : t'.Yields calls value) : t.Yields (↑call.toList + calls) value := by
  induction h generalizing calls with
  | answer a => exact .calling (yields_begin.1 ht')
  | @dispatch _ ι _ _ τ workers tasks next i f hi hfree =>
    cases ht' with
    | @gathering _ _ _ _ _ _ _ _ each values calls _ heach hnext =>
      rw [Option.toList_none, Multiset.coe_nil, zero_add]
      refine .gathering (fun j => ?_) hnext
      by_cases hj : j = i
      · subst hj
        have hself := heach j
        rw [Function.update_self] at hself
        rw [hi]
        exact .queued (yields_begin.1 hself)
      · have hother := heach j
        rwa [Function.update_of_ne hj] at hother
  | @source _ ι _ _ τ workers tasks next i call t hstep ih =>
    cases ht' with
    | @gathering _ _ _ _ _ _ _ _ each values calls _ heach hnext =>
      rw [← add_assoc, ← sum_update_add each i]
      refine .gathering (fun j => ?_) hnext
      by_cases hj : j = i
      · subst hj
        have hself := heach j
        rw [Function.update_self] at hself ⊢
        exact ih hself
      · have hother := heach j
        rw [Function.update_of_ne hj] at hother ⊢
        exact hother
  | @join _ ι _ _ τ workers tasks next values hreturned =>
    rw [Option.toList_none, Multiset.coe_nil]
    have hzero : (0 : Multiset (Σ r, α r)) + calls = ∑ _i :
      ι, (0 : Multiset (Σ r, α r)) + calls := by
      rw [Finset.sum_const_zero]
    rw [hzero]
    refine .gathering (fun i => ?_) (yields_begin.1 ht')
    rw [hreturned i]
    exact .returned _

theorem Task.Steps.yields (h : t.Steps pool calls t') (ht' : t' = .returned value) :
    t.Yields calls value := by
  induction h with
  | refl t =>
    subst ht'
    exact .returned value
  | head hstep _ ih => exact hstep.yields (ih ht')

theorem Fetch.yields_of_steps (h : (f.begin pool).Steps pool calls (.returned value)) :
    f.Yields calls value :=
  Task.yields_begin.1 (h.yields rfl)

/-! ### Running in turn is a schedule -/

namespace Task.Steps

variable {t'' : Task ρ α υ} {calls' : Multiset (Σ r, α r)}

theorem single (h : t.Step pool call t') : t.Steps pool ↑call.toList t' := by
  rw [← add_zero (↑call.toList : Multiset (Σ r, α r))]
  exact .head h (.refl t')

theorem trans (h : t.Steps pool calls t') (h' : t'.Steps pool calls' t'') :
    t.Steps pool (calls + calls') t'' := by
  induction h with
  | refl t => rwa [zero_add]
  | head hstep _ ih =>
    rw [add_assoc]
    exact .head hstep (ih h')

theorem source {ι : Type} [Fintype ι] [DecidableEq ι] {τ : ι → Type} {workers : ℕ}
    {tasks : (i : ι) → Task ρ α (τ i)} {next : ((i : ι) → τ i) → Fetch ρ α υ} {i : ι}
    {t : Task ρ α (τ i)} (h : (tasks i).Steps pool calls t) :
    (Task.gathering workers tasks next).Steps pool calls
      (.gathering workers (Function.update tasks i t) next) := by
  generalize hfirst : tasks i = first at h
  induction h generalizing tasks with
  | refl t =>
    rw [← hfirst, Function.update_eq_self]
    exact .refl _
  | @head t t' t'' call calls hstep _ ih =>
    refine .head (.source (hfirst.symm ▸ hstep)) ?_
    have hrest := @ih (Function.update tasks i t') (Function.update_self ..)
    rwa [Function.update_idem] at hrest

end Task.Steps

/-- The sources of a gather may be run in turn, by one worker. -/
theorem Task.steps_gathering {ι : Type} [Fintype ι] [DecidableEq ι] {τ : ι → Type} {workers : ℕ}
    (hworkers : Nonempty ι → 0 < workers) {sources : (i : ι) → Fetch ρ α (τ i)}
    (next : ((i : ι) → τ i) → Fetch ρ α υ) {each : ι → Multiset (Σ r, α r)} {values : (i : ι) → τ i}
    (h : ∀ i, ((sources i).begin pool).Steps pool (each i) (.returned (values i)))
    (ran : Finset ι) :
    (Task.gathering workers (fun i => .queued (sources i)) next).Steps pool (∑ i ∈ ran, each i)
      (.gathering workers
        (fun i => if i ∈ ran then .returned (values i) else .queued (sources i)) next) := by
  induction ran using Finset.induction_on with
  | empty =>
    simp only [Finset.notMem_empty, if_false, Finset.sum_empty]
    exact .refl _
  | insert i ran hi ih =>
    rw [Finset.sum_insert hi, add_comm]
    refine ih.trans ?_
    -- everything that has begun has returned, so the worker is free
    generalize htasks :
      (fun i => if i ∈ ran then Task.returned (values i) else .queued (sources i) :
      (i : ι) → Task ρ α (τ i)) = tasks
    have hqueued : tasks i = .queued (sources i) := by
      rw [← htasks]
      exact if_neg hi
    have hfree : (Finset.univ.filter fun j => (tasks j).busy = true).card = 0 := by
      rw [Finset.card_eq_zero, Finset.filter_eq_empty_iff]
      intro j _
      rw [← htasks]
      by_cases hj : j ∈ ran
      · simp [hj, Task.busy]
      · simp [hj, Task.busy]
    have hbegin : (Task.gathering workers tasks next).Steps pool 0
        (.gathering workers (Function.update tasks i ((sources i).begin pool)) next) :=
      .single (.dispatch hqueued (hfree ▸ hworkers ⟨i⟩))
    have hrun :
      (Task.gathering workers (Function.update tasks i ((sources i).begin pool)) next).Steps pool
        (each i)
        (.gathering workers (Function.update (Function.update tasks i ((sources i).begin pool)) i
          (.returned (values i))) next) := by
      refine Task.Steps.source ?_
      rw [Function.update_self]
      exact h i
    have hdone := hbegin.trans hrun
    rw [zero_add, Function.update_idem] at hdone
    have hall : Function.update tasks i (.returned (values i)) =
        fun j => if j ∈ insert i ran then .returned (values j) else .queued (sources j) := by
      funext j
      by_cases hj : j = i
      · subst hj
        rw [Function.update_self, if_pos (Finset.mem_insert_self j ran)]
      · rw [Function.update_of_ne hj, ← htasks]
        simp only [Finset.mem_insert, hj, false_or]
    rwa [hall] at hdone

theorem Fetch.Yields.steps (hpool : ∀ n, 0 < n → 0 < pool n) {υ : Type} {f : Fetch ρ α υ}
    {value : υ} (h : f.Yields calls value) : (f.begin pool).Steps pool calls (.returned value) := by
  induction h with
  | done value => exact .refl _
  | call _ ih => exact .head (.answer _) ih
  | @gather _ ι _ _ τ sources next each values calls value _ _ iheach ih =>
    have hworkers : Nonempty ι → 0 < pool (Fintype.card ι) := fun _ => hpool _ Fintype.card_pos
    have hsources := Task.steps_gathering hworkers next iheach Finset.univ
    simp only [Finset.mem_univ, if_true] at hsources
    have hjoin :
      (Task.gathering (pool (Fintype.card ι)) (fun i => .returned (values i)) next).Steps pool 0
        ((next values).begin pool) := .single (.join fun i => rfl)
    have hrest := hjoin.trans ih
    rw [zero_add] at hrest
    exact hsources.trans hrest

/-- **Gathering changes the order of the calls, and nothing else.** -/
theorem Fetch.yields_iff_steps (hpool : ∀ n, 0 < n → 0 < pool n) :
    f.Yields calls value ↔ (f.begin pool).Steps pool calls (.returned value) :=
  ⟨fun h => h.steps hpool, Fetch.yields_of_steps⟩

/-- Where an answer depends on the call alone, a program returns its value under these answers. -/
theorem Fetch.Yields.eq_eval {answer : (r : ρ) → α r} (h : f.Yields calls value)
    (hanswer : ∀ c ∈ calls, c.2 = answer c.1) : value = f.eval answer := by
  induction h with
  | done value => rfl
  | @call _ r next a calls value _ ih =>
    have hfirst : a = answer r :=
      hanswer ⟨r, a⟩ (Multiset.mem_add.2 (.inl (Multiset.mem_singleton_self _)))
    rw [Fetch.eval, ← hfirst]
    exact ih fun c hc => hanswer c (Multiset.mem_add.2 (.inr hc))
  | @gather _ ι _ _ τ sources next each values calls value _ _ iheach ih =>
    have hvalues : values = fun i => (sources i).eval answer := by
      funext i
      refine iheach i fun c hc => hanswer c (Multiset.mem_add.2 (.inl ?_))
      exact Multiset.mem_sum.2 ⟨i, Finset.mem_univ i, hc⟩
    rw [Fetch.eval, ← hvalues]
    exact ih fun c hc => hanswer c (Multiset.mem_add.2 (.inr hc))

end

end OpenCloud
