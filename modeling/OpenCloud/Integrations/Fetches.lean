import OpenCloud.Integrations.Http
import OpenCloud.Lib.ForkJoin
import Mathlib.Logic.Relation

/-!
# Concurrent fetches

`gather` fetches its sources at the same time, each on a worker of a pool of its own, and gives back
what became of every one of them: a failure stays with its source.  Under all pools of the process
lies one gate, acquired around the sending of a message only: a call that sleeps before its next
attempt does not hold it, and neither does one that waits for others.

The process that serves the requests is an instance of `Process`, whose calls are those of
`request`.

## Main results

* `request_of_steps` : a call that is carried out step by step ends as `request` does.
* `fetches_progress` : the gate bounds the messages in flight, and no set of nested fetches waits in
  a circle.
-/

namespace OpenCloud

/-- `MAX_WORKERS`. -/
def maxWorkers : ℕ := 8

/-- The workers of `gather`.  A single source runs inline: the thread that waits for it is its
worker. -/
def gatherWorkers (maxWorkers sources : ℕ) : ℕ :=
  if sources ≤ 1 then sources else min sources maxWorkers

/-- Where a call of `request` is. -/
inductive CallPhase where
  /-- At `with _gate`. -/
  | ready (attempt : ℕ)
  | sending (attempt : ℕ)
  /-- In `time.sleep`, after this attempt. -/
  | sleeping (attempt : ℕ) (delay : PyFloat)
  | finished (result : Except RequestError HttpResponse)

/-- A call that is carried out. -/
structure OngoingCall where
  call : HttpCall
  phase : CallPhase

/-- A call that begins. -/
def OngoingCall.start (s : HttpSettings) (call : HttpCall) : OngoingCall :=
  match messageOf s call with
  | .error err => ⟨call, .finished (.error (.zadara err []))⟩
  | .ok _ => ⟨call, .ready 0⟩

/-- The phase after a send. -/
def AfterSend.phase (attempt : ℕ) : AfterSend → CallPhase
  | again delay => .sleeping attempt delay
  | returned resp => .finished (.ok resp)
  | raised err => .finished (.error err)

/-- A step of a call; what becomes of a send, and when, is up to the cloud. -/
inductive OngoingCall.Step (env : PyEnv) : OngoingCall → GateUse → OngoingCall → Prop
  | send (call : HttpCall) (attempt : ℕ) :
    Step env ⟨call, .ready attempt⟩ .acquire ⟨call, .sending attempt⟩
  | answer (call : HttpCall) (attempt : ℕ) (now : ℤ) (outcome : SendOutcome) :
      Step env ⟨call, .sending attempt⟩ .release
        ⟨call, (afterSend env now call.method attempt outcome).phase attempt⟩
  | wake (call : HttpCall) (attempt : ℕ) (delay : PyFloat) :
      Step env ⟨call, .sleeping attempt delay⟩ .pass ⟨call, .ready (attempt + 1)⟩

/-- The message of the call is in flight. -/
def CallPhase.holds : CallPhase → Bool
  | sending _ => true
  | ready _ | sleeping _ _ | finished _ => false

/-- The call has ended. -/
def CallPhase.Ended : CallPhase → Prop
  | finished _ => True
  | ready _ | sending _ | sleeping _ _ => False

theorem OngoingCall.start_holds (s : HttpSettings) (call : HttpCall) :
    (start s call).phase.holds = false := by
  unfold start
  cases messageOf s call <;> rfl

theorem AfterSend.phase_holds (attempt : ℕ) (after : AfterSend) :
    (after.phase attempt).holds = false := by
  cases after <;> rfl

/-- The calls of `request`, as the leaves of a process. -/
def requestLeaf (env : PyEnv) (s : HttpSettings) : Leaf HttpCall OngoingCall where
  start := OngoingCall.start s
  step := OngoingCall.Step env
  holds c := c.phase.holds
  ended c := c.phase.Ended
  start_holds := OngoingCall.start_holds s
  acquire_holds := by
    rintro _ _ ⟨⟩
    exact ⟨rfl, rfl⟩
  release_holds := by
    rintro _ _ ⟨⟩
    exact ⟨rfl, AfterSend.phase_holds _ _⟩
  pass_holds := by
    rintro _ _ ⟨⟩
    exact ⟨rfl, rfl⟩
  ended_holds := by
    rintro ⟨call, phase⟩ hended
    cases phase with
    | finished result => rfl
    | ready attempt => cases hended
    | sending attempt => cases hended
    | sleeping attempt delay => cases hended
  finishes := by
    rintro ⟨call, phase⟩ hholds
    cases phase with
    -- a send has a timeout
    | sending attempt => exact ⟨_, .answer call attempt 0 .timeout⟩
    | ready attempt => cases hholds
    | sleeping attempt delay => cases hholds
    | finished result => cases hholds
  moves := by
    rintro ⟨call, phase⟩ hholds hended
    cases phase with
    | ready attempt => exact ⟨.acquire, _, by decide, .send call attempt⟩
    | sleeping attempt delay => exact ⟨.pass, _, by decide, .wake call attempt delay⟩
    | sending attempt => cases hholds
    | finished result => exact absurd trivial hended

/-- The process that serves the requests: its jobs are requests, and threads of its pools. -/
def fetches (env : PyEnv) (s : HttpSettings) (maxWorkers capacity : ℕ) :
    System (Process HttpCall OngoingCall) (Option (Plan HttpCall)) :=
  Process.system (requestLeaf env s) (gatherWorkers maxWorkers) capacity

/-! ### The calls of a page -/

/-- `request('GET', path, token=token)`. -/
def getCall (token path : String) : HttpCall := ⟨"GET", path, some token, none, [], true⟩

/-- `list_volumes`: the volumes, and then their types. -/
def listVolumesPlan (token : String) : Plan HttpCall :=
  .inTurn (.call (getCall token "/api/v3/volumes"))
    (.call (getCall token "/api/v4/volumes/volume-types"))

/-- `list_vms`. -/
def listVmsPlan (token : String) (withDisks : Bool) : Plan HttpCall :=
  .gather
    ([.call (getCall token "/api/v2/vms"), .call (getCall token "/api/v2/vpcs/elastic-ips")] ++
    if withDisks then [listVolumesPlan token] else [])

/-! ### Calls, step by step -/

section Call

variable {env : PyEnv} {call : HttpCall} {attempt : ℕ} {result : Except RequestError HttpResponse}

/-- The loop of `request`, from this send on, can end with this result. -/
def LoopEnds (env : PyEnv) (method : String) (result : Except RequestError HttpResponse)
    (attempt : ℕ) : Prop :=
  ∃ now upstream ended, ended.result = result ∧
    ∀ fuel, 0 < fuel → maxRetries < fuel + attempt →
      requestLoop env now method upstream fuel attempt = some ended

/-- The loop of `request`, in this phase, can end with this result. -/
def CallPhase.EndsAs (env : PyEnv) (method : String) (result : Except RequestError HttpResponse) :
    CallPhase → Prop
  | ready attempt | sending attempt => LoopEnds env method result attempt
  | sleeping attempt _ => LoopEnds env method result (attempt + 1)
  | finished result' => result' = result

theorem requestLoop_congr {now now' : ℕ → ℤ} {method : String}
    {upstream upstream' : ℕ → SendOutcome} {fuel : ℕ} (hnow : ∀ n, attempt ≤ n → now n = now' n)
    (hupstream : ∀ n, attempt ≤ n → upstream n = upstream' n) :
    requestLoop env now method upstream fuel attempt =
      requestLoop env now' method upstream' fuel attempt := by
  induction fuel generalizing attempt with
  | zero => rfl
  | succ fuel ih =>
    rw [requestLoop, requestLoop, hnow attempt le_rfl, hupstream attempt le_rfl]
    rw [ih (fun n hn => hnow n (Nat.le_of_succ_le hn)) fun n hn =>
      hupstream n (Nat.le_of_succ_le hn)]

theorem loopEnds_of_last {method : String} {now : ℤ} {outcome : SendOutcome}
    (h : ∀ fuel, requestLoop env (fun _ => now) method (fun _ => outcome) (fuel + 1) attempt =
      some ⟨[outcome], [], result⟩) : LoopEnds env method result attempt := by
  refine ⟨fun _ => now, fun _ => outcome, ⟨[outcome], [], result⟩, rfl, fun fuel hfuel _ => ?_⟩
  obtain ⟨fuel, rfl⟩ := Nat.exists_eq_succ_of_ne_zero hfuel.ne'
  exact h fuel

/-- What comes after the answer to a send decides what comes after the send. -/
theorem CallPhase.EndsAs.answer {method : String} {now : ℤ} {outcome : SendOutcome}
    (h : ((afterSend env now method attempt outcome).phase attempt).EndsAs env method result) :
    LoopEnds env method result attempt := by
  cases hafter : afterSend env now method attempt outcome with
  | returned resp =>
    rw [hafter] at h
    obtain rfl : .ok resp = result := h
    exact loopEnds_of_last fun fuel => by rw [requestLoop, hafter]
  | raised err =>
    rw [hafter] at h
    obtain rfl : .error err = result := h
    exact loopEnds_of_last fun fuel => by rw [requestLoop, hafter]
  | again delay =>
    have hlt := (afterSend_again hafter).1
    rw [hafter] at h
    obtain ⟨nows, upstream, ended, hresult, hended⟩ := h
    refine ⟨Function.update nows attempt now, Function.update upstream attempt outcome,
      ⟨outcome :: ended.sends, delay :: ended.sleeps, ended.result⟩, hresult,
        fun fuel hfuel hmax => ?_⟩
    obtain ⟨fuel, rfl⟩ := Nat.exists_eq_succ_of_ne_zero hfuel.ne'
    have hrest : requestLoop env (Function.update nows attempt now) method
      (Function.update upstream attempt outcome)
        fuel (attempt + 1) = some ended := by
      rw [← hended fuel (by omega) (by omega)]
      refine requestLoop_congr (fun n hn => ?_) fun n hn => ?_
      · exact Function.update_of_ne (by omega) _ _
      · exact Function.update_of_ne (by omega) _ _
    rw [requestLoop, Function.update_self, Function.update_self, hafter]
    simp only [hrest, Option.map_some]

theorem OngoingCall.Step.endsAs {c c' : OngoingCall} {g : GateUse} (h : c.Step env g c')
    (hends : c'.phase.EndsAs env c'.call.method result) :
    c.phase.EndsAs env c.call.method result := by
  cases h with
  | send call attempt => exact hends
  | answer call attempt now outcome => exact hends.answer
  | wake call attempt delay => exact hends

/-- A call that is carried out step by step ends as `request` does, for some answers of the
cloud. -/
theorem request_of_steps {s : HttpSettings}
    (h : Relation.ReflTransGen (fun c c' => ∃ g, OngoingCall.Step env c g c') (.start s call)
      ⟨call, .finished result⟩) :
    ∃ now upstream ended, ended.result = result ∧ ∀ fuel, 3 ≤ fuel →
      request env s now call upstream fuel = some ended := by
  have hends :
    (OngoingCall.start s call).phase.EndsAs env (OngoingCall.start s call).call.method result := by
    generalize OngoingCall.start s call = c at h
    induction h using Relation.ReflTransGen.head_induction_on with
    | refl => rfl
    | head hstep _ ih =>
      obtain ⟨g, hstep⟩ := hstep
      exact hstep.endsAs ih
  unfold OngoingCall.start at hends
  unfold request
  cases hmessage : messageOf s call with
  | error err =>
    simp only [hmessage] at hends
    exact ⟨fun _ => 0, fun _ _ => .timeout, ⟨[], [], .error (.zadara err [])⟩, hends,
      fun _ _ => rfl⟩
  | ok message =>
    simp only [hmessage] at hends
    obtain ⟨now, upstream, ended, hresult, hended⟩ := hends
    exact ⟨now, fun _ => upstream, ended, hresult, fun fuel hfuel => hended fuel (by omega) hfuel⟩

end Call

/-! ### The process -/

theorem gatherWorkers_pos {maxWorkers n : ℕ} (h : 0 < maxWorkers) (hn : 0 < n) :
    0 < gatherWorkers maxWorkers n := by
  unfold gatherWorkers
  split_ifs
  · exact hn
  · exact lt_min hn h

/-- **Nested fetches do not deadlock**: whatever requests arrive and however they interleave, no
more messages are in flight than the gate allows, and as long as a request or a task of a pool has
not returned, some step is possible. -/
theorem fetches_progress (env : PyEnv) (s : HttpSettings) {maxWorkers capacity : ℕ}
    (hworkers : 0 < maxWorkers) (hcapacity : 0 < capacity) {events : List (Option (Plan HttpCall))}
    {p : Process HttpCall OngoingCall}
    (hrun : (fetches env s maxWorkers capacity).Run System.Free .empty events p) :
    Job.allInFlight (requestLeaf env s) p.jobs ≤ capacity ∧
      ((∃ job ∈ p.jobs, job.running = true) →
        ∃ p', (fetches env s maxWorkers capacity).step p none p') := by
  have hgood := Process.run_good (fun _ => gatherWorkers_pos hworkers) hrun
  refine ⟨?_, fun hrunning => Process.progress hcapacity hgood hrunning⟩
  rw [← hgood.counted]
  exact hgood.bounded

/-- Two machine lists are fetched under a gate for one message: one of the four calls is in flight,
and the rest wait. -/
theorem fetches_progress_listVms :
    let s : HttpSettings := ⟨"https://cloud.test", 10⟩
    ∃ events p, (fetches sampleEnv s maxWorkers 1).Run System.Free .empty events p ∧
      Job.allInFlight (requestLeaf sampleEnv s) p.jobs = 1 ∧
        Job.allInFlight (requestLeaf sampleEnv s) p.jobs ≤ 1 ∧
      ∃ p', (fetches sampleEnv s maxWorkers 1).step p none p' := by
  intro s
  let vms := getCall "token" "/api/v2/vms"
  let eips := getCall "token" "/api/v2/vpcs/elastic-ips"
  let waiting : Job HttpCall OngoingCall := .gather 2 [.call vms, .call eips] []
  let started : Job HttpCall OngoingCall := .gather 2 [.call eips] [.call ⟨vms, .ready 0⟩]
  let sending : Job HttpCall OngoingCall := .gather 2 [.call eips] [.call ⟨vms, .sending 0⟩]
  have harrive : ∀ p, (fetches sampleEnv s maxWorkers 1).step p (some (listVmsPlan "token" false))
      ⟨p.held, p.jobs ++ [waiting]⟩ := fun p => .arrive p _
  have hstart :
    (fetches sampleEnv s maxWorkers 1).step ⟨0, [waiting, waiting]⟩ none ⟨0, [waiting, started]⟩ :=
    @Process.Step.move _ _ _ _ _ 0 [waiting] [] waiting started .pass
      (.dispatch (by decide)) trivial
  have hsend :
    (fetches sampleEnv s maxWorkers 1).step ⟨0, [waiting, started]⟩ none ⟨1, [waiting, sending]⟩ :=
    @Process.Step.move _ _ _ _ _ 0 [waiting] [] started sending .acquire
      (@Job.Step.source _ _ _ _ _ _ [] [] _ _ _ (.call (.send vms 0))) Nat.one_pos
  have hempty : (fetches sampleEnv s maxWorkers 1).Run System.Free .empty [] .empty := .nil
  have hrun :=
    (((hempty.snoc trivial (harrive _)).snoc trivial (harrive _)).snoc trivial hstart).snoc trivial
      hsend
  obtain ⟨hle, hprogress⟩ := fetches_progress sampleEnv s (by decide) (by decide) hrun
  exact ⟨_, _, hrun, rfl, hle, hprogress ⟨waiting, List.mem_cons_self .., rfl⟩⟩

end OpenCloud
