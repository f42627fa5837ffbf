import OpenCloud.Lib.Runs

/-!
# Nested fork and join under one gate

A process works on *jobs*.  A job makes a call, does two things in turn, or *gathers*: it hands its
sources to a pool of workers, first come first served, and waits for all of them; a source may
itself gather, with a pool of its own.  All calls of the process share one gate that lets a bounded
number of them through at a time.

How a call goes on is a parameter (`Leaf`): the calls are machines that hold the gate between an
`acquire` and a `release`, and never ask for anything else meanwhile.

## Main results

* `Process.run_good` : in every run, the gate counts the calls in flight and lets no more through
  than it has room for.
* `Process.progress` : as long as some job has not returned, some job can take a step.
-/

namespace OpenCloud

/-- What a step of a job does to the gate. -/
inductive GateUse where
  | acquire
  | release
  /-- Nothing. -/
  | pass
  deriving DecidableEq

namespace GateUse

/-- The gate, after this use, if `held` calls held it. -/
def after (held : ℕ) : GateUse → ℕ
  | acquire => held + 1
  | release => held - 1
  | pass => held

/-- A gate with this capacity allows the use, while `held` calls hold it. -/
def Permitted (capacity held : ℕ) : GateUse → Prop
  | acquire => held < capacity
  | release | pass => True

/-- The use takes a number of calls in flight to another. -/
def Counts (n n' : ℕ) : GateUse → Prop
  | acquire => n' = n + 1
  | release => n = n' + 1
  | pass => n' = n

variable {g : GateUse} {n n' : ℕ}

theorem Counts.add_left (h : g.Counts n n') (a : ℕ) : g.Counts (a + n) (a + n') := by
  cases g <;> simp only [Counts] at h ⊢ <;> omega

theorem Counts.add_right (h : g.Counts n n') (a : ℕ) : g.Counts (n + a) (n' + a) := by
  cases g <;> simp only [Counts] at h ⊢ <;> omega

theorem Counts.after_eq (h : g.Counts n n') : g.after n = n' := by
  cases g <;> simp only [Counts, after] at h ⊢ <;> omega

theorem Permitted.after_le {capacity : ℕ} (h : g.Permitted capacity n) (hn : n ≤ capacity) :
    g.after n ≤ capacity := by
  cases g with
  | acquire => exact h
  | release => exact Nat.le_trans (Nat.sub_le n 1) hn
  | pass => exact hn

end GateUse

/-- A call: a machine with states `σ`, started for a request in `ρ`. -/
structure Leaf (ρ σ : Type*) where
  start : ρ → σ
  step : σ → GateUse → σ → Prop
  /-- The call is in flight. -/
  holds : σ → Bool
  ended : σ → Prop
  start_holds : ∀ r, holds (start r) = false
  acquire_holds : ∀ {s s'}, step s .acquire s' → holds s = false ∧ holds s' = true
  release_holds : ∀ {s s'}, step s .release s' → holds s = true ∧ holds s' = false
  pass_holds : ∀ {s s'}, step s .pass s' → holds s = false ∧ holds s' = false
  ended_holds : ∀ {s}, ended s → holds s = false
  /-- A call in flight can finish. -/
  finishes : ∀ {s}, holds s = true → ∃ s', step s .release s'
  /-- A call that is not in flight has ended, or only ever waits for the gate. -/
  moves : ∀ {s}, holds s = false → ¬ ended s → ∃ g s', g ≠ .release ∧ step s g s'

/-- A tree of gathers whose leaves are calls. -/
inductive Plan (ρ : Type*) where
  | call (r : ρ)
  /-- The rest is left out where the first part fails. -/
  | inTurn (first rest : Plan ρ)
  | gather (sources : List (Plan ρ))

/-- A plan that is carried out. -/
inductive Job (ρ σ : Type*) where
  | call (s : σ)
  | inTurn (job : Job ρ σ) (rest : Plan ρ)
  /-- The sources that wait for a worker, and those that a worker has begun. -/
  | gather (workers : ℕ) (queued : List (Plan ρ)) (begun : List (Job ρ σ))
  | returned

/-- The jobs of a process, and how many calls hold its gate. -/
structure Process (ρ σ : Type*) where
  held : ℕ
  jobs : List (Job ρ σ)

/-- A process without jobs. -/
def Process.empty {ρ σ : Type*} : Process ρ σ := ⟨0, []⟩

section

variable {ρ σ : Type*} (L : Leaf ρ σ) (pool : ℕ → ℕ)

/-- The job has not returned. -/
def Job.running : Job ρ σ → Bool
  | returned => false
  | call _ | inTurn .. | gather .. => true

/-- The job that begins a plan; `pool` is the number of workers for a number of sources. -/
def Plan.begin : Plan ρ → Job ρ σ
  | call r => .call (L.start r)
  | inTurn first rest => .inTurn first.begin rest
  | gather sources => .gather (pool sources.length) sources []

/-- A step of a job. -/
inductive Job.Step : Job ρ σ → GateUse → Job ρ σ → Prop
  | call {s s' : σ} {g : GateUse} : L.step s g s' → Job.Step (.call s) g (.call s')
  | answer {s : σ} : L.ended s → Job.Step (.call s) .pass .returned
  | first {job job' : Job ρ σ} {rest : Plan ρ} {g : GateUse} :
      Job.Step job g job' → Job.Step (.inTurn job rest) g (.inTurn job' rest)
  | rest {rest : Plan ρ} : Job.Step (.inTurn .returned rest) .pass (rest.begin L pool)
  | fail {rest : Plan ρ} : Job.Step (.inTurn .returned rest) .pass .returned
  /-- A free worker takes the source that has waited longest. -/
  | dispatch {workers : ℕ} {plan : Plan ρ} {queued : List (Plan ρ)} {begun : List (Job ρ σ)} :
      begun.countP Job.running < workers →
      Job.Step (.gather workers (plan :: queued) begun) .pass
        (.gather workers queued (begun ++ [plan.begin L pool]))
  | source {workers : ℕ} {queued : List (Plan ρ)} {before after : List (Job ρ σ)}
    {job job' : Job ρ σ}
      {g : GateUse} :
      Job.Step job g job' →
      Job.Step (.gather workers queued (before ++ job :: after)) g
        (.gather workers queued (before ++ job' :: after))
  | join {workers : ℕ} {begun : List (Job ρ σ)} :
      begun.countP Job.running = 0 → Job.Step (.gather workers [] begun) .pass .returned

/-- A step of a process: a request arrives with its plan, or one of the jobs takes a step that the
gate permits. -/
inductive Process.Step (capacity : ℕ) : Process ρ σ → Option (Plan ρ) → Process ρ σ → Prop
  | arrive (p : Process ρ σ) (plan : Plan ρ) :
      Process.Step capacity p (some plan) ⟨p.held, p.jobs ++ [plan.begin L pool]⟩
  | move {held : ℕ} {before after : List (Job ρ σ)} {job job' : Job ρ σ} {g : GateUse} :
      job.Step L pool g job' → g.Permitted capacity held →
      Process.Step capacity ⟨held, before ++ job :: after⟩ none
        ⟨g.after held, before ++ job' :: after⟩

/-- The process as a system. -/
def Process.system (capacity : ℕ) : System (Process ρ σ) (Option (Plan ρ)) :=
  ⟨Process.Step L pool capacity⟩

mutual

/-- The calls of a job that are in flight. -/
def Job.inFlight : Job ρ σ → ℕ
  | .call s => if L.holds s then 1 else 0
  | .inTurn job _ => job.inFlight
  | .gather _ _ begun => Job.allInFlight begun
  | .returned => 0

/-- The calls of some jobs that are in flight. -/
def Job.allInFlight : List (Job ρ σ) → ℕ
  | [] => 0
  | job :: jobs => job.inFlight + Job.allInFlight jobs

end

/-- Wherever sources wait, the pool has a worker. -/
inductive Job.Staffed : Job ρ σ → Prop
  | call (s : σ) : Job.Staffed (.call s)
  | inTurn {job : Job ρ σ} {rest : Plan ρ} : Job.Staffed job → Job.Staffed (.inTurn job rest)
  | gather {workers : ℕ} {queued : List (Plan ρ)} {begun : List (Job ρ σ)} :
      (queued ≠ [] → 0 < workers) → (∀ job ∈ begun, Job.Staffed job) →
        Job.Staffed (.gather workers queued begun)
  | returned : Job.Staffed .returned

/-- What holds in every run. -/
structure Process.Good (capacity : ℕ) (p : Process ρ σ) : Prop where
  counted : p.held = Job.allInFlight L p.jobs
  bounded : p.held ≤ capacity
  staffed : ∀ job ∈ p.jobs, job.Staffed

end

section

variable {ρ σ : Type*} {L : Leaf ρ σ} {pool : ℕ → ℕ} {job job' : Job ρ σ} {g : GateUse}

/-! ### Counting the calls in flight -/

theorem Job.allInFlight_append (jobs jobs' : List (Job ρ σ)) :
    Job.allInFlight L (jobs ++ jobs') = Job.allInFlight L jobs + Job.allInFlight L jobs' := by
  induction jobs with
  | nil => rw [List.nil_append, Job.allInFlight, Nat.zero_add]
  | cons job jobs ih => rw [List.cons_append, Job.allInFlight, Job.allInFlight, ih, Nat.add_assoc]

theorem Plan.inFlight_begin : (plan : Plan ρ) → (plan.begin L pool).inFlight L = 0
  | .call r => by rw [Plan.begin, Job.inFlight, L.start_holds, if_neg Bool.false_ne_true]
  | .inTurn first rest => by rw [Plan.begin, Job.inFlight, first.inFlight_begin]
  | .gather sources => by rw [Plan.begin, Job.inFlight, Job.allInFlight]

theorem Job.allInFlight_begin (jobs : List (Job ρ σ)) (plan : Plan ρ) :
    Job.allInFlight L (jobs ++ [plan.begin L pool]) = Job.allInFlight L jobs := by
  rw [Job.allInFlight_append, Job.allInFlight, Job.allInFlight, plan.inFlight_begin, Nat.add_zero]

theorem Job.counts_append (before after : List (Job ρ σ))
    (h : g.Counts (job.inFlight L) (job'.inFlight L)) :
    g.Counts (Job.allInFlight L (before ++ job :: after))
      (Job.allInFlight L (before ++ job' :: after)) := by
  rw [Job.allInFlight_append, Job.allInFlight_append, Job.allInFlight, Job.allInFlight]
  exact (h.add_right _).add_left _

theorem Job.allInFlight_of_returned {jobs : List (Job ρ σ)} (h : jobs.countP Job.running = 0) :
    Job.allInFlight L jobs = 0 := by
  induction jobs with
  | nil => rw [Job.allInFlight]
  | cons job jobs ih =>
    cases job with
    | returned => rw [Job.allInFlight, Job.inFlight, ih h]
    | call s => simp [Job.running] at h
    | inTurn job rest => simp [Job.running] at h
    | gather workers queued begun => simp [Job.running] at h

/-- Every step counts at the gate what it does to the calls in flight. -/
theorem Job.Step.counts (h : job.Step L pool g job') :
    g.Counts (job.inFlight L) (job'.inFlight L) := by
  induction h with
  | @call s s' g hstep =>
    rw [Job.inFlight, Job.inFlight]
    cases g with
    | acquire =>
      obtain ⟨hs, hs'⟩ := L.acquire_holds hstep
      rw [hs, hs']
      rfl
    | release =>
      obtain ⟨hs, hs'⟩ := L.release_holds hstep
      rw [hs, hs']
      rfl
    | pass =>
      obtain ⟨hs, hs'⟩ := L.pass_holds hstep
      rw [hs, hs']
      rfl
  | answer hended =>
    rw [Job.inFlight, Job.inFlight, L.ended_holds hended]
    rfl
  | first _ ih =>
    rw [Job.inFlight, Job.inFlight]
    exact ih
  | @rest plan =>
    rw [Job.inFlight, Job.inFlight, plan.inFlight_begin]
    rfl
  | fail =>
    rw [Job.inFlight, Job.inFlight]
    rfl
  | dispatch hfree =>
    rw [Job.inFlight, Job.inFlight, Job.allInFlight_begin]
    rfl
  | source _ ih =>
    rw [Job.inFlight, Job.inFlight]
    exact Job.counts_append _ _ ih
  | join hdone =>
    rw [Job.inFlight, Job.inFlight, Job.allInFlight_of_returned hdone]
    rfl

/-! ### The invariant -/

theorem Plan.staffed_begin (hpool : ∀ n, 0 < n → 0 < pool n) :
    (plan : Plan ρ) → (plan.begin L pool).Staffed
  | .call _ => .call _
  | .inTurn first _ => .inTurn (first.staffed_begin hpool)
  | .gather _ => .gather (fun hne => hpool _ (List.length_pos_iff.2 hne)) fun _ hjob =>
    absurd hjob List.not_mem_nil

theorem forall_mem_replace {P : Job ρ σ → Prop} {before after : List (Job ρ σ)}
    (h : ∀ j ∈ before ++ job :: after, P j) (h' : P job') : ∀ j ∈ before ++ job' :: after, P j := by
  intro j hj
  rw [List.mem_append, List.mem_cons] at hj
  rcases hj with hj | rfl | hj
  · exact h j (List.mem_append_left _ hj)
  · exact h'
  · exact h j (List.mem_append_right _ (List.mem_cons_of_mem _ hj))

theorem Job.Step.staffed (hpool : ∀ n, 0 < n → 0 < pool n) (h : job.Step L pool g job')
    (hjob : job.Staffed) :
    job'.Staffed := by
  induction h with
  | call _ => exact .call _
  | answer _ => exact .returned
  | first _ ih =>
    cases hjob with
    | inTurn hfirst => exact .inTurn (ih hfirst)
  | @rest plan => exact plan.staffed_begin hpool
  | fail => exact .returned
  | @dispatch workers plan queued begun hfree =>
    cases hjob with
    | gather _ hbegun =>
      refine .gather (fun _ => Nat.zero_lt_of_lt hfree) fun j hj => ?_
      rcases List.mem_append.1 hj with hj | hj
      · exact hbegun j hj
      · rw [List.mem_singleton.1 hj]
        exact plan.staffed_begin hpool
  | source _ ih =>
    cases hjob with
    | gather hworkers hbegun =>
      have hjob := hbegun _ (List.mem_append_right _ (List.mem_cons_self ..))
      exact .gather hworkers (forall_mem_replace hbegun (ih hjob))
  | join _ => exact .returned

theorem Process.Step.good (hpool : ∀ n, 0 < n → 0 < pool n) {capacity : ℕ} {p p' : Process ρ σ}
    {event : Option (Plan ρ)} (h : p.Step L pool capacity event p') (hp : p.Good L capacity) :
    p'.Good L capacity := by
  cases h with
  | arrive _ plan =>
    constructor
    case counted => rw [hp.counted, Job.allInFlight_begin]
    case bounded => exact hp.bounded
    case staffed =>
      intro job hjob
      rcases List.mem_append.1 hjob with hjob | hjob
      · exact hp.staffed job hjob
      · rw [List.mem_singleton.1 hjob]
        exact plan.staffed_begin hpool
  | @move held before after job job' g hstep hpermitted =>
    constructor
    case counted =>
      have hcounted : held = _ := hp.counted
      have := Job.counts_append before after hstep.counts
      rw [← hcounted] at this
      exact this.after_eq
    case bounded => exact hpermitted.after_le hp.bounded
    case staffed =>
      have hjob := hp.staffed job (List.mem_append_right _ (List.mem_cons_self ..))
      exact forall_mem_replace hp.staffed (hstep.staffed hpool hjob)

/-- In every run of a process, the gate counts the calls in flight, and bounds them. -/
theorem Process.run_good (hpool : ∀ n, 0 < n → 0 < pool n) {capacity : ℕ}
    {arrivals : List (Option (Plan ρ))} {p : Process ρ σ}
    (h : (Process.system L pool capacity).Run System.Free .empty arrivals p) :
    p.Good L capacity := by
  refine h.keeps ?_ fun p event p' hp hstep => hstep.good hpool hp
  refine ⟨?_, Nat.zero_le _, fun job hjob => absurd hjob List.not_mem_nil⟩
  rw [Process.empty, Job.allInFlight]

/-! ### Progress -/

theorem Job.eq_returned (h : ¬ job.running = true) : job = .returned := by
  cases job with
  | returned => rfl
  | call s => exact absurd rfl h
  | inTurn job rest => exact absurd rfl h
  | gather workers queued begun => exact absurd rfl h

theorem Job.exists_of_allInFlight_pos {jobs : List (Job ρ σ)} (h : 0 < Job.allInFlight L jobs) :
    ∃ job ∈ jobs, 0 < job.inFlight L := by
  induction jobs with
  | nil =>
    rw [Job.allInFlight] at h
    cases h
  | cons job jobs ih =>
    rw [Job.allInFlight] at h
    by_cases hjob : 0 < job.inFlight L
    · exact ⟨job, List.mem_cons_self .., hjob⟩
    · obtain ⟨job', hmem, hjob'⟩ := ih (by omega)
      exact ⟨job', List.mem_cons_of_mem _ hmem, hjob'⟩

theorem Job.inFlight_eq_zero {jobs : List (Job ρ σ)} (h : Job.allInFlight L jobs = 0)
    (hjob : job ∈ jobs) :
    job.inFlight L = 0 := by
  obtain ⟨before, after, rfl⟩ := List.append_of_mem hjob
  rw [Job.allInFlight_append, Job.allInFlight] at h
  omega

/-- A job with a call in flight can release the gate: the call, wherever it is, can finish. -/
theorem Job.Staffed.exists_release (hjob : job.Staffed) (h : 0 < job.inFlight L) :
    ∃ job', job.Step L pool .release job' := by
  induction hjob with
  | call s =>
    rw [Job.inFlight] at h
    split_ifs at h with hholds
    · obtain ⟨s', hs'⟩ := L.finishes hholds
      exact ⟨.call s', .call hs'⟩
    · cases h
  | inTurn _ ih =>
    rw [Job.inFlight] at h
    obtain ⟨job', hstep⟩ := ih h
    exact ⟨_, .first hstep⟩
  | returned =>
    rw [Job.inFlight] at h
    cases h
  | @gather workers queued begun _ _ ih =>
    rw [Job.inFlight] at h
    obtain ⟨job, hmem, hpos⟩ := Job.exists_of_allInFlight_pos h
    obtain ⟨job', hstep⟩ := ih job hmem hpos
    obtain ⟨before, after, rfl⟩ := List.append_of_mem hmem
    exact ⟨_, .source hstep⟩

/-- A job without a call in flight that has not returned can go on, with the gate if it is free.
The induction is on the tree: a gather can go on if one of its sources can; if all that were begun
have returned, a worker is free. -/
theorem Job.Staffed.exists_step (hjob : job.Staffed) (hrunning : job.running = true)
    (h : job.inFlight L = 0) :
    ∃ g job', g ≠ .release ∧ job.Step L pool g job' := by
  induction hjob with
  | call s =>
    have hholds : L.holds s = false := by
      rw [Job.inFlight] at h
      exact Bool.eq_false_iff.2 fun hs => by simp [hs] at h
    by_cases hended : L.ended s
    · exact ⟨.pass, .returned, by decide, .answer hended⟩
    · obtain ⟨g, s', hg, hstep⟩ := L.moves hholds hended
      exact ⟨g, .call s', hg, .call hstep⟩
  | @inTurn job _ _ ih =>
    rw [Job.inFlight] at h
    by_cases hreturned : job.running = true
    · obtain ⟨g, job', hg, hstep⟩ := ih hreturned h
      exact ⟨g, _, hg, .first hstep⟩
    · obtain rfl := Job.eq_returned hreturned
      exact ⟨.pass, _, by decide, .rest⟩
  | returned => cases hrunning
  | @gather workers queued begun hworkers _ ih =>
    rw [Job.inFlight] at h
    rcases Nat.eq_zero_or_pos (begun.countP Job.running) with hdone | hbusy
    · cases queued with
      | nil => exact ⟨.pass, .returned, by decide, .join hdone⟩
      | cons plan queued =>
        have hfree : begun.countP Job.running < workers := by
          rw [hdone]
          exact hworkers (List.cons_ne_nil _ _)
        exact ⟨.pass, _, by decide, .dispatch hfree⟩
    · obtain ⟨job, hmem, hjob⟩ := List.countP_pos_iff.1 hbusy
      obtain ⟨g, job', hg, hstep⟩ := ih job hmem hjob (Job.inFlight_eq_zero h hmem)
      obtain ⟨before, after, rfl⟩ := List.append_of_mem hmem
      exact ⟨g, _, hg, .source hstep⟩

/-- As long as a job has not returned, some job can take a step.  Either a call is in flight, and
can finish, or the gate is free for whoever asks. -/
theorem Process.progress {capacity : ℕ} (hcapacity : 0 < capacity) {p : Process ρ σ}
    (hp : p.Good L capacity) (h : ∃ job ∈ p.jobs, job.running = true) :
    ∃ p', p.Step L pool capacity none p' := by
  obtain ⟨held, jobs⟩ := p
  have hcounted : held = Job.allInFlight L jobs := hp.counted
  rcases Nat.eq_zero_or_pos held with hzero | hpos
  · obtain ⟨job, hmem, hrunning⟩ := h
    have hinFlight := Job.inFlight_eq_zero (hcounted.symm.trans hzero) hmem
    obtain ⟨g, job', hg, hstep⟩ : ∃ g job', g ≠ .release ∧ job.Step L pool g job' :=
      (hp.staffed job hmem).exists_step hrunning hinFlight
    obtain ⟨before, after, rfl⟩ := List.append_of_mem hmem
    refine ⟨_, .move hstep ?_⟩
    cases g with
    | acquire => exact hzero.symm ▸ hcapacity
    | release => exact absurd rfl hg
    | pass => trivial
  · rw [hcounted] at hpos
    obtain ⟨job, hmem, hinFlight⟩ := Job.exists_of_allInFlight_pos hpos
    obtain ⟨job', hstep⟩ : ∃ job', job.Step L pool .release job' :=
      (hp.staffed job hmem).exists_release hinFlight
    obtain ⟨before, after, rfl⟩ := List.append_of_mem hmem
    exact ⟨_, .move hstep trivial⟩

end

end OpenCloud
