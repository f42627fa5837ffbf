import OpenCloud.Lib.ForkJoin
import OpenCloud.Lib.Tallies

/-!
# Forks and joins come to an end

`Process.progress` says that a process is never stuck while a job is running.  Here is the other
half: if every call ends within a number of its own steps (`Leaf.Ends`), then a job takes no more
steps than its plan weighs, whatever the order, and so does a process for all the plans that have
arrived.

## Main results

* `Process.moves_le` : in every run, the steps taken weigh no more than the plans that have arrived.
* `Process.exists_completion` : every run can be continued, without an arrival, to one after which
  all jobs have returned.
-/

namespace OpenCloud

/-- Every step of a call uses up some of what it has left, and a request starts with no more than
its bound. -/
structure Leaf.Ends {ρ σ : Type*} (L : Leaf ρ σ) where
  left : σ → ℕ
  bound : ρ → ℕ
  start_le : ∀ r, left (L.start r) ≤ bound r
  step_lt : ∀ {s g s'}, L.step s g s' → left s' < left s

section

variable {ρ σ : Type*} {L : Leaf ρ σ} (E : L.Ends)

mutual

/-- The most steps that a plan takes: those of its calls, an answer for each, and one to go on to
the rest, to hand a source to a worker, or to join. -/
def Plan.weight : Plan ρ → ℕ
  | .call r => E.bound r + 1
  | .inTurn first rest => first.weight + rest.weight + 1
  | .gather sources => Plan.weights sources + 1

/-- The most steps of some sources, and one each to hand it to a worker. -/
def Plan.weights : List (Plan ρ) → ℕ
  | [] => 0
  | plan :: plans => plan.weight + 1 + Plan.weights plans

end

mutual

/-- The most steps that a job still takes. -/
def Job.weight : Job ρ σ → ℕ
  | .call s => E.left s + 1
  | .inTurn job rest => job.weight + rest.weight E + 1
  | .gather _ queued begun => Plan.weights E queued + Job.weights begun + 1
  | .returned => 0

/-- The most steps that some jobs still take. -/
def Job.weights : List (Job ρ σ) → ℕ
  | [] => 0
  | job :: jobs => job.weight + Job.weights jobs

end

/-- The steps among these events that are not arrivals. -/
def Process.moves (events : List (Option (Plan ρ))) : ℕ := events.countP Option.isNone

/-- What the plans weigh that arrive among these events. -/
def Process.arrived (events : List (Option (Plan ρ))) : ℕ :=
  tally (fun e => (e.map (Plan.weight E)).getD 0) events

end

section

variable {ρ σ : Type*} {L : Leaf ρ σ} {E : L.Ends} {pool : ℕ → ℕ} {job job' : Job ρ σ} {g : GateUse}

theorem Job.weights_append (jobs jobs' : List (Job ρ σ)) :
    Job.weights E (jobs ++ jobs') = Job.weights E jobs + Job.weights E jobs' := by
  induction jobs with
  | nil => rw [List.nil_append, Job.weights, Nat.zero_add]
  | cons job jobs ih => rw [List.cons_append, Job.weights, Job.weights, ih, Nat.add_assoc]

theorem Plan.weight_begin : (plan : Plan ρ) → (plan.begin L pool).weight E ≤ plan.weight E
  | .call r => by
    rw [Plan.begin, Job.weight, Plan.weight]
    exact Nat.succ_le_succ (E.start_le r)
  | .inTurn first rest => by
    have hfirst := first.weight_begin
    rw [Plan.begin, Job.weight, Plan.weight]
    omega
  | .gather sources => by
    have hsame : ((Plan.gather sources).begin L pool).weight E =
      (Plan.gather sources).weight E := by
      rw [Plan.begin, Job.weight, Job.weights, Plan.weight, Nat.add_zero]
    exact Nat.le_of_eq hsame

theorem Job.weights_begin (jobs : List (Job ρ σ)) (plan : Plan ρ) :
    Job.weights E (jobs ++ [plan.begin L pool]) ≤ Job.weights E jobs + plan.weight E := by
  have hplan : (plan.begin L pool).weight E ≤ plan.weight E := plan.weight_begin
  rw [Job.weights_append, Job.weights, Job.weights]
  omega

theorem Job.weights_lt (before after : List (Job ρ σ)) (h : job'.weight E < job.weight E) :
    Job.weights E (before ++ job' :: after) < Job.weights E (before ++ job :: after) := by
  rw [Job.weights_append, Job.weights_append, Job.weights, Job.weights]
  omega

/-- Every step of a job is one that it had left. -/
theorem Job.Step.weight_lt (h : job.Step L pool g job') : job'.weight E < job.weight E := by
  induction h with
  | call hstep =>
    rw [Job.weight, Job.weight]
    exact Nat.succ_lt_succ (E.step_lt hstep)
  | answer _ =>
    rw [Job.weight, Job.weight]
    exact Nat.succ_pos _
  | first _ ih =>
    rw [Job.weight, Job.weight]
    omega
  | @rest plan =>
    have hplan : (plan.begin L pool).weight E ≤ plan.weight E := plan.weight_begin
    rw [Job.weight, Job.weight]
    omega
  | fail =>
    rw [Job.weight, Job.weight]
    exact Nat.succ_pos _
  | @dispatch workers plan queued begun _ =>
    have hbegun : Job.weights E (begun ++ [plan.begin L pool]) ≤
      Job.weights E begun + plan.weight E :=
      Job.weights_begin begun plan
    rw [Job.weight, Job.weight, Plan.weights]
    omega
  | @source _ _ before after job job' _ _ ih =>
    have hlt : Job.weights E (before ++ job' :: after) < Job.weights E (before ++ job :: after) :=
      Job.weights_lt before after ih
    rw [Job.weight, Job.weight]
    omega
  | join _ =>
    rw [Job.weight]
    exact Nat.lt_add_left _ Nat.one_pos

/-! ### Runs -/

theorem Process.moves_append (events events' : List (Option (Plan ρ))) :
    Process.moves (events ++ events') = Process.moves events + Process.moves events' :=
  List.countP_append

theorem Process.arrived_append (events events' : List (Option (Plan ρ))) :
    Process.arrived E (events ++ events') = Process.arrived E events + Process.arrived E events' :=
  tally_append

theorem Process.Step.weights_le {capacity : ℕ} {p p' : Process ρ σ} {event : Option (Plan ρ)}
    (h : p.Step L pool capacity event p') :
    Process.moves [event] + Job.weights E p'.jobs ≤ Process.arrived E [event] +
      Job.weights E p.jobs := by
  cases h with
  | arrive _ plan =>
    have hbegin : Job.weights E (p.jobs ++ [plan.begin L pool]) ≤
      Job.weights E p.jobs + plan.weight E :=
      Job.weights_begin p.jobs plan
    simp only [Process.moves, Process.arrived, List.countP_singleton, tally_cons, tally_nil,
      Option.isNone_some, Option.map_some, Option.getD_some, Bool.false_eq_true, if_false]
    omega
  | @move held before after job job' g hstep _ =>
    have hlt : Job.weights E (before ++ job' :: after) < Job.weights E (before ++ job :: after) :=
      Job.weights_lt before after hstep.weight_lt
    simp only [Process.moves, Process.arrived, List.countP_singleton, tally_cons, tally_nil,
      Option.isNone_none, Option.map_none, Option.getD_none, if_true]
    omega

/-- In every run, the moves taken and those left are no more than the arrived plans weigh. -/
theorem Process.moves_le {capacity : ℕ} {events : List (Option (Plan ρ))} {p : Process ρ σ}
    (h : (Process.system L pool capacity).Run System.Free .empty events p) :
    Process.moves events + Job.weights E p.jobs ≤ Process.arrived E events := by
  refine h.invariant (I := fun events p => Process.moves events + Job.weights E p.jobs ≤
    Process.arrived E events) ?_ ?_
  · rw [Process.empty, Job.weights]
    exact Nat.le_refl _
  · intro events p event p' hle _ hstep
    have hnext : Process.moves [event] + Job.weights E p'.jobs ≤ Process.arrived E [event] +
      Job.weights E p.jobs :=
      Process.Step.weights_le hstep
    rw [Process.moves_append, Process.arrived_append]
    omega

/-- Moves alone take a process of a run to one whose jobs have all returned.  The induction is on
the steps left. -/
theorem Process.exists_completion (E : L.Ends) (hpool : ∀ n, 0 < n → 0 < pool n) {capacity : ℕ}
    (hcapacity : 0 < capacity) {events : List (Option (Plan ρ))} {p : Process ρ σ}
    (h : (Process.system L pool capacity).Run System.Free .empty events p) :
    ∃ n p', (Process.system L pool capacity).Run System.Free .empty
      (events ++ List.replicate n none) p' ∧
      ∀ job ∈ p'.jobs, job = .returned := by
  induction hleft : Job.weights E p.jobs using Nat.strongRecOn generalizing events p with
  | _ left ih =>
    by_cases hrunning : ∃ job ∈ p.jobs, job.running = true
    · obtain ⟨p', hstep⟩ := Process.progress hcapacity (Process.run_good hpool h) hrunning
      have hlt : Job.weights E p'.jobs < left := by
        have hle : Process.moves [none] + Job.weights E p'.jobs ≤ Process.arrived E [none] +
          Job.weights E p.jobs :=
          Process.Step.weights_le hstep
        simpa [Process.moves, Process.arrived, hleft, Nat.one_add_le_iff] using hle
      obtain ⟨n, p'', hrun, hdone⟩ := ih _ hlt (h.snoc trivial hstep) rfl
      refine ⟨n + 1, p'', ?_, hdone⟩
      rwa [List.append_assoc, List.singleton_append, ← List.replicate_succ] at hrun
    · refine ⟨0, p, ?_, fun job hjob => Job.eq_returned fun hrun => hrunning ⟨job, hjob, hrun⟩⟩
      rwa [List.replicate_zero, List.append_nil]

end

end OpenCloud
