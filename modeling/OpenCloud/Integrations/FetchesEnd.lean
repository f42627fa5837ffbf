import OpenCloud.Integrations.Fetches
import OpenCloud.Lib.Completion

/-!
# Every fetch returns

That nested fetches never wait in a circle does not say that they come to an end.  They do: a call
is sent at most three times, and between two sends it sleeps once.  However the fetches of all
requests interleave, the process takes at most as many steps as the arrived plans weigh, and it
stops only when everything has returned.

## Main results

* `fetches_return` : a bound on the steps of every run, and how a run goes on until all fetches have
  returned.
-/

namespace OpenCloud

/-- The most steps that a call still takes in this phase. -/
def CallPhase.left : CallPhase → ℕ
  | ready attempt => 3 * (maxRetries - attempt) + 2
  | sending attempt => 3 * (maxRetries - attempt) + 1
  -- it woke from a sleep after the last retry never
  | sleeping attempt _ => 3 * (maxRetries - (attempt + 1)) + 3
  | finished _ => 0

/-- The most steps of a call: three sends with an answer each, and two sleeps. -/
def maxCallSteps : ℕ := 3 * maxRetries + 2

section

variable {env : PyEnv} {s : HttpSettings}

theorem OngoingCall.left_start (call : HttpCall) : (start s call).phase.left ≤ maxCallSteps := by
  unfold start
  cases messageOf s call with
  | error err => exact Nat.zero_le _
  | ok message => exact Nat.le_refl _

theorem OngoingCall.Step.left_lt {c c' : OngoingCall} {g : GateUse} (h : c.Step env g c') :
    c'.phase.left < c.phase.left := by
  cases h with
  | send call attempt => exact Nat.lt_succ_self _
  | answer call attempt now outcome =>
    cases hafter : afterSend env now call.method attempt outcome with
    | returned resp => exact Nat.succ_pos _
    | raised err => exact Nat.succ_pos _
    | again delay =>
      have hlt := (afterSend_again hafter).1
      simp only [AfterSend.phase, CallPhase.left]
      omega
  | wake call attempt delay => exact Nat.lt_succ_self _

end

/-- A call of `request` ends. -/
def requestEnds (env : PyEnv) (s : HttpSettings) : (requestLeaf env s).Ends where
  left c := c.phase.left
  bound _ := maxCallSteps
  start_le := OngoingCall.left_start
  step_lt := OngoingCall.Step.left_lt

/-- **Every fetch returns.**  Whatever requests arrive and however their fetches interleave, the
process has taken no more steps than the arrived plans weigh; it can stop only where all jobs have
returned, and it does so after at most the steps that are left. -/
theorem fetches_return (env : PyEnv) (s : HttpSettings) {maxWorkers capacity : ℕ}
    (hworkers : 0 < maxWorkers) (hcapacity : 0 < capacity) {events : List (Option (Plan HttpCall))}
    {p : Process HttpCall OngoingCall}
    (hrun : (fetches env s maxWorkers capacity).Run System.Free .empty events p) :
    Process.moves events ≤ Process.arrived (requestEnds env s) events ∧
      ((∀ p', ¬ (fetches env s maxWorkers capacity).step p none p') →
        ∀ job ∈ p.jobs, job = .returned) ∧
      ∃ n p', Process.moves events + n ≤ Process.arrived (requestEnds env s) events ∧
        (fetches env s maxWorkers capacity).Run System.Free .empty
          (events ++ List.replicate n none) p' ∧
        ∀ job ∈ p'.jobs, job = .returned := by
  have hpool : ∀ n, 0 < n → 0 < gatherWorkers maxWorkers n := fun _ => gatherWorkers_pos hworkers
  have hle : ∀ {events p}, (fetches env s maxWorkers capacity).Run System.Free .empty events p →
      Process.moves events ≤ Process.arrived (requestEnds env s) events := fun hrun =>
    (Nat.le_add_right _ _).trans (Process.moves_le hrun)
  refine ⟨hle hrun, fun hstops job hjob => Job.eq_returned fun hrunning => ?_, ?_⟩
  · obtain ⟨p', hstep⟩ := (fetches_progress env s hworkers hcapacity hrun).2 ⟨job, hjob, hrunning⟩
    exact hstops p' hstep
  · obtain ⟨n, p', hrun', hdone⟩ :=
      Process.exists_completion (requestEnds env s) hpool hcapacity hrun
    refine ⟨n, p', ?_, hrun', hdone⟩
    have hmoves := hle hrun'
    have hnone : Process.moves (List.replicate n (none : Option (Plan HttpCall))) = n := by
      simp [Process.moves, List.countP_replicate]
    have harrived : Process.arrived (requestEnds env s) (List.replicate n none) = 0 := by
      rw [Process.arrived, tally_eq_zero_iff]
      intro event hevent
      rw [List.eq_of_mem_replicate hevent]
      rfl
    rwa [Process.moves_append, Process.arrived_append, hnone, harrived] at hmoves

/-- A machine list is fetched in at most 21 steps: two calls of nine, each handed to a worker, and
the join. -/
theorem fetches_return_listVms :
    let s : HttpSettings := ⟨"https://cloud.test", 10⟩
    ∃ n p', n ≤ 21 ∧ (fetches sampleEnv s maxWorkers 1).Run System.Free .empty
      ([some (listVmsPlan "token" false)] ++ List.replicate n none) p' ∧
        ∀ job ∈ p'.jobs, job = .returned := by
  intro s
  have hempty : (fetches sampleEnv s maxWorkers 1).Run System.Free .empty [] .empty := .nil
  have hrun := hempty.snoc trivial (.arrive .empty (listVmsPlan "token" false))
  obtain ⟨-, -, n, p', hle, hrun', hdone⟩ := fetches_return sampleEnv s (by decide) (by decide) hrun
  have hweight : Process.arrived (requestEnds sampleEnv s) [some (listVmsPlan "token" false)] =
    21 := by decide
  refine ⟨n, p', ?_, hrun', hdone⟩
  exact (Nat.le_add_left _ _).trans (hle.trans hweight.le)

end OpenCloud
