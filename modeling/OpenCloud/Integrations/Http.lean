import OpenCloud.Common.Text
import OpenCloud.Integrations.Resources
import OpenCloud.Lib.Json

/-!
# The upstream client

`request` sends a message to the cloud and sends it again after a transient answer: an idempotent
one after 502, 503 and 504, any one after 429, for which the cloud may say how long to wait.  Both
rules share one counter.  The loop has no bound of its own, so the model runs it with fuel, and
three turns are enough for every upstream.

What text is a number or a date is the concern of `float` and `parsedate_to_datetime`, parameters of
the model.

## Main results

* `afterSend_again`, `afterSend_returned` : when the loop goes on, and what it returns.
* `request_orderly` : it ends after three sends of its message, and repeats no write blindly.
* `waits_iff` : a rate limit is waited for if and only if its date is not one that overflows.
-/

namespace OpenCloud

/-- A response of the cloud. -/
structure HttpResponse where
  status : ℕ
  /-- `resp.headers.get(name)`. -/
  headers : String → Option String
  /-- `resp.json()`, none for the `ValueError`. -/
  json : Option Json

/-- `resp.ok`. -/
def HttpResponse.Ok (resp : HttpResponse) : Prop := ¬ (400 ≤ resp.status ∧ resp.status < 600)

instance : DecidablePred HttpResponse.Ok := fun _ => inferInstanceAs (Decidable (¬ _))

/-- What becomes of a send. -/
inductive SendOutcome where
  | response (resp : HttpResponse)
  /-- `requests.Timeout`. -/
  | timeout
  /-- Any other `RequestException`. -/
  | broken (reason : String)

/-- What `request` raises. -/
inductive RequestError where
  | zadara (err : ZadaraError) (details : List (String × String))
  /-- The `OverflowError` of the date parser. -/
  | overflow
  deriving DecidableEq

/-- What `parsedate_to_datetime` raises. -/
inductive DateParseError where
  | typeError
  | valueError
  | overflowError
  deriving DecidableEq

/-- A date-time, in microseconds, and its distance from UTC if it has a zone. -/
structure MailDate where
  micros : ℤ
  offset : Option ℤ
  deriving DecidableEq

/-- The moment that is meant; one without a zone is in UTC. -/
def MailDate.utc (when' : MailDate) : ℤ := when'.micros - when'.offset.getD 0

/-- What the client takes from Python. -/
structure PyEnv where
  /-- `str.upper`. -/
  upper : String → String
  /-- `float`, none for the `ValueError`. -/
  float : String → Option PyFloat
  parseDate : String → Except DateParseError (Option MailDate)

/-- The settings of the client. -/
structure HttpSettings where
  zadaraApiUrl : String
  zadaraHttpTimeout : ℕ

/-- The arguments of `request`. -/
structure HttpCall where
  method : String
  path : String
  token : Option String
  json : Option Json
  headers : Dict String String
  allowRedirects : Bool

/-- What is sent. -/
structure HttpMessage where
  method : String
  url : String
  headers : Dict String String
  json : Option Json
  timeout : ℕ
  allowRedirects : Bool

/-- `_RETRYABLE_STATUS`. -/
def retryableStatus : List ℕ := [502, 503, 504]

/-- `_MAX_RETRIES`. -/
def maxRetries : ℕ := 2

/-- `_BACKOFF_BASE * (2**attempt)`. -/
def backoff (attempt : ℕ) : PyFloat := .ofRat (1 / 2 * 2 ^ attempt)

/-- `_base_url`. -/
def baseUrl (s : HttpSettings) : Except ZadaraError String :=
  if s.zadaraApiUrl = "" then .error ⟨"unexpected", "ZADARA_API_URL is not configured"⟩
  else .ok (String.ofList (s.zadaraApiUrl.toList.rdropWhile (· = '/')))

/-- The message of a call. -/
def messageOf (s : HttpSettings) (call : HttpCall) : Except ZadaraError HttpMessage := do
  let base ← baseUrl s
  let headers : Dict String String := [("Content-Type", "application/json")]
  let headers := match call.token with
    | some token => if token = "" then headers else headers.set "X-Auth-Token" token
    | none => headers
  return {
    method := call.method
    url := base ++ call.path
    headers := call.headers.foldl (fun headers e => headers.set e.1 e.2) headers
    json := call.json
    timeout := s.zadaraHttpTimeout
    allowRedirects := call.allowRedirects }

section

variable (env : PyEnv)

/-- `_retry_after`, at the moment `now`. -/
def retryAfter (now : ℤ) (resp : HttpResponse) (default : PyFloat) : Except RequestError PyFloat :=
  let raw := strip ((resp.headers "Retry-After").getD "")
  if raw = "" then .ok default
  else
    match env.float raw with
    | some x => .ok (PyFloat.max (.ofRat 0) x)
    | none =>
      match env.parseDate raw with
      | .error .typeError | .error .valueError => .ok default
      | .error .overflowError => .error .overflow
      | .ok none => .ok default
      | .ok (some when') => .ok (PyFloat.max (.ofRat 0) (.ofRat ((when'.utc - now) / 10 ^ 6)))

/-- How the loop goes on after a send. -/
inductive AfterSend where
  | again (delay : PyFloat)
  | returned (resp : HttpResponse)
  | raised (err : RequestError)

/-- The method is idempotent. -/
def IsGet (method : String) : Prop := env.upper method = "GET"

instance (method : String) : Decidable (IsGet env method) := inferInstanceAs (Decidable (_ = _))

/-- One turn of the loop: what comes after the send with the number `attempt`. -/
def afterSend (now : ℤ) (method : String) (attempt : ℕ) : SendOutcome → AfterSend
  | .timeout => .raised (.zadara ⟨"timeout", "Zadara did not respond in time"⟩ [])
  | .broken reason =>
    .raised (.zadara ⟨"network_error", "Failed to reach Zadara API"⟩ [("reason", reason)])
  | .response resp =>
    if IsGet env method ∧ resp.status ∈ retryableStatus ∧ attempt < maxRetries then
      .again (backoff attempt)
    else if resp.status = 429 ∧ attempt < maxRetries then
      match retryAfter env now resp (backoff attempt) with
      | .ok wait => .again (PyFloat.min wait (.ofRat 5))
      | .error err => .raised err
    else .returned resp

/-- A call that has ended: what became of its sends, how long it slept between them, and how it
ended. -/
structure EndedCall where
  sends : List SendOutcome
  sleeps : List PyFloat
  result : Except RequestError HttpResponse

/-- `while True`, from the send with the number `attempt` on. -/
def requestLoop (now : ℕ → ℤ) (method : String) (upstream : ℕ → SendOutcome) :
    ℕ → ℕ → Option EndedCall
  | 0, _ => none
  | fuel + 1, attempt =>
    match afterSend env (now attempt) method attempt (upstream attempt) with
    | .returned resp => some ⟨[upstream attempt], [], .ok resp⟩
    | .raised err => some ⟨[upstream attempt], [], .error err⟩
    | .again delay => (requestLoop now method upstream fuel (attempt + 1)).map fun ended =>
        ⟨upstream attempt :: ended.sends, delay :: ended.sleeps, ended.result⟩

/-- `request`; `upstream` says what becomes of each send of the message. -/
def request (s : HttpSettings) (now : ℕ → ℤ) (call : HttpCall)
    (upstream : HttpMessage → ℕ → SendOutcome) (fuel : ℕ) :
    Option EndedCall :=
  match messageOf s call with
  | .error err => some ⟨[], [], .error (.zadara err [])⟩
  | .ok message => requestLoop env now call.method (upstream message) fuel 0

/-- The header is a date that overflows. -/
def Overflows (resp : HttpResponse) : Prop :=
  let raw := strip ((resp.headers "Retry-After").getD "")
  raw ≠ "" ∧ env.float raw = none ∧ env.parseDate raw = .error .overflowError

/-- A response that the call may send its message again for. -/
def Transient (method : String) (resp : HttpResponse) : Prop :=
  resp.status = 429 ∨ (IsGet env method ∧ resp.status ∈ retryableStatus)

/-- A call that sends its message from the send `first` on, at most `sends` times, and repeats it
only for a reason; `upstream` says what becomes of each send. -/
structure Orderly (method : String) (upstream : ℕ → SendOutcome) (first sends : ℕ)
    (ended : EndedCall) : Prop where
  sent : ended.sends ≠ []
  few : ended.sends.length ≤ sends
  answered : ∀ k (hk : k < ended.sends.length), ended.sends[k] = upstream (first + k)
  /-- What is returned is the last response. -/
  last : ∀ resp, ended.result = .ok resp → ended.sends.getLast? = some (.response resp)
  /-- What is raised after a response comes from the header of a rate limit. -/
  raised : ∀ err, ended.result = .error err → ∀ resp,
    ended.sends.getLast? = some (.response resp) → resp.status = 429 ∧ Overflows env resp
  /-- Whatever is followed by another send is a response that allows it. -/
  resent : ∀ outcome ∈ ended.sends.dropLast,
    ∃ resp, outcome = .response resp ∧ Transient env method resp
  transient : ∀ resp, ended.result = .ok resp → Transient env method resp →
    ended.sends.length = sends

end

section Header

variable {env : PyEnv} {resp : HttpResponse}

theorem val_ofRat_zero : (Double.ofRat 0).val = 0 := rnd_zero

theorem val_ofRat_five : (Double.ofRat 5).val = 5 := by decide +kernel

theorem nonneg_backoff {attempt : ℕ} (h : attempt < maxRetries) : (backoff attempt).Nonneg := by
  obtain _ | _ | attempt := attempt
  · decide +kernel
  · decide +kernel
  · exact absurd h (Nat.not_lt.2 (Nat.le_add_left 2 attempt))

/-- What the header gives, unless its date overflows. -/
theorem retryAfter_ok (h : ¬ Overflows env resp) (now : ℤ) {default : PyFloat}
    (hdefault : default.Nonneg) :
    ∃ wait, retryAfter env now resp default = .ok wait ∧ wait.Nonneg := by
  unfold Overflows at h
  unfold retryAfter
  dsimp only at h ⊢
  by_cases hraw : strip ((resp.headers "Retry-After").getD "") = ""
  · exact ⟨default, if_pos hraw, hdefault⟩
  · rw [if_neg hraw]
    cases hfloat : env.float (strip ((resp.headers "Retry-After").getD "")) with
    | some x => exact ⟨_, rfl, PyFloat.nonneg_max val_ofRat_zero.ge x⟩
    | none =>
      cases hdate : env.parseDate (strip ((resp.headers "Retry-After").getD "")) with
      | error err =>
        cases err with
        | overflowError => exact absurd ⟨hraw, hfloat, hdate⟩ h
        | typeError => exact ⟨default, rfl, hdefault⟩
        | valueError => exact ⟨default, rfl, hdefault⟩
      | ok date =>
        cases date with
        | none => exact ⟨default, rfl, hdefault⟩
        | some when' => exact ⟨_, rfl, PyFloat.nonneg_max val_ofRat_zero.ge _⟩

theorem retryAfter_overflow (h : Overflows env resp) (now : ℤ) (default : PyFloat) :
    retryAfter env now resp default = .error .overflow := by
  obtain ⟨hraw, hfloat, hdate⟩ := h
  unfold retryAfter
  dsimp only at hraw hfloat hdate ⊢
  rw [if_neg hraw, hfloat, hdate]

end Header

section Loop

variable {env : PyEnv} {now : ℤ} {method : String} {attempt : ℕ} {outcome : SendOutcome}
  {resp : HttpResponse}

/-- The loop goes on after a transient response only, and no more than twice. -/
theorem afterSend_again {delay : PyFloat}
    (h : afterSend env now method attempt outcome = .again delay) :
    attempt < maxRetries ∧ ∃ resp, outcome = .response resp ∧ Transient env method resp := by
  cases outcome with
  | timeout => cases h
  | broken reason => cases h
  | response resp =>
    rw [afterSend] at h
    split_ifs at h with hget hlimit
    · exact ⟨hget.2.2, resp, rfl, .inr ⟨hget.1, hget.2.1⟩⟩
    · exact ⟨hlimit.2, resp, rfl, .inl hlimit.1⟩

/-- What is returned is the response, and a transient one after the last retry only. -/
theorem afterSend_returned (h : afterSend env now method attempt outcome = .returned resp) :
    outcome = .response resp ∧ (Transient env method resp → maxRetries ≤ attempt) := by
  cases outcome with
  | timeout => cases h
  | broken reason => cases h
  | response resp' =>
    rw [afterSend] at h
    split_ifs at h with hget hlimit
    · split at h <;> cases h
    · cases h
      refine ⟨rfl, fun htransient => Nat.not_lt.1 fun hlt => ?_⟩
      rcases htransient with hstatus | ⟨hisGet, hstatus⟩
      · exact hlimit ⟨hstatus, hlt⟩
      · exact hget ⟨hisGet, hstatus, hlt⟩

theorem afterSend_raised {err : RequestError}
    (h : afterSend env now method attempt (.response resp) = .raised err) :
    resp.status = 429 ∧ Overflows env resp := by
  rw [afterSend] at h
  split_ifs at h with hget hlimit
  refine ⟨hlimit.1, not_not.1 fun hno => ?_⟩
  obtain ⟨wait, hwait, -⟩ := retryAfter_ok hno now (nonneg_backoff hlimit.2)
  rw [hwait] at h
  cases h

/-- A call that ends with the send it is at. -/
theorem orderly_of_last {upstream : ℕ → SendOutcome} {n : ℕ}
    {result : Except RequestError HttpResponse}
    (hlast : ∀ resp, result = .ok resp → upstream attempt = .response resp ∧
      (Transient env method resp → n = 0))
    (hraised : ∀ err, result = .error err → ∀ resp, upstream attempt = .response resp →
      resp.status = 429 ∧ Overflows env resp) :
    Orderly env method upstream attempt (n + 1) ⟨[upstream attempt], [], result⟩ := by
  constructor
  case sent => exact List.cons_ne_nil _ _
  case few => exact Nat.succ_le_succ (Nat.zero_le n)
  case answered =>
    intro k hk
    obtain rfl : k = 0 := Nat.lt_one_iff.1 hk
    rfl
  case last =>
    intro resp hresult
    rw [(hlast resp hresult).1]
    rfl
  case raised =>
    exact fun err hresult resp hresp => hraised err hresult resp (Option.some.inj hresp)
  case resent => exact fun outcome houtcome => absurd houtcome List.not_mem_nil
  case transient =>
    intro resp hresult hresp
    rw [(hlast resp hresult).2 hresp]
    rfl

/-- A call that goes on after a transient response. -/
theorem Orderly.cons {upstream : ℕ → SendOutcome} {n : ℕ} {ended : EndedCall} {delay : PyFloat}
    (h : Orderly env method upstream (attempt + 1) (n + 1) ended)
    (houtcome : upstream attempt = .response resp) (hresp : Transient env method resp) :
    Orderly env method upstream attempt (n + 2)
      ⟨upstream attempt :: ended.sends, delay :: ended.sleeps, ended.result⟩ := by
  constructor
  case sent => exact List.cons_ne_nil _ _
  case few => exact Nat.succ_le_succ h.few
  case answered =>
    intro k hk
    cases k with
    | zero => rfl
    | succ k =>
      rw [List.getElem_cons_succ, h.answered k (Nat.lt_of_succ_lt_succ hk)]
      congr 1
      omega
  case last =>
    intro resp' hresult
    rw [List.getLast?_cons_of_ne_nil h.sent]
    exact h.last resp' hresult
  case raised =>
    intro err hresult resp' hlast
    rw [List.getLast?_cons_of_ne_nil h.sent] at hlast
    exact h.raised err hresult resp' hlast
  case resent =>
    intro outcome hmem
    rw [List.dropLast_cons_of_ne_nil h.sent] at hmem
    rcases List.mem_cons.1 hmem with rfl | hmem
    · exact ⟨resp, houtcome, hresp⟩
    · exact h.resent outcome hmem
  case transient =>
    intro resp' hresult hresp'
    exact congrArg Nat.succ (h.transient resp' hresult hresp')

/-- From any send on, the loop ends with the last retry at the latest; the induction is on the
retries left. -/
theorem requestLoop_orderly (now : ℕ → ℤ) (upstream : ℕ → SendOutcome) {n : ℕ}
    (hn : attempt + n = maxRetries) :
    ∃ ended, (∀ fuel, n + 1 ≤ fuel → requestLoop env now method upstream fuel attempt =
      some ended) ∧
      Orderly env method upstream attempt (n + 1) ended := by
  induction n using Nat.strong_induction_on generalizing attempt with
  | _ n ih =>
  cases hafter : afterSend env (now attempt) method attempt (upstream attempt) with
  | returned resp =>
    obtain ⟨houtcome, htransient⟩ := afterSend_returned hafter
    refine ⟨⟨[upstream attempt], [], .ok resp⟩, fun fuel hfuel => ?_, orderly_of_last ?_ ?_⟩
    · cases fuel with
      | zero => cases hfuel
      | succ fuel => rw [requestLoop, hafter]
    · rintro _ ⟨⟩
      refine ⟨houtcome, fun hresp => ?_⟩
      have := htransient hresp
      omega
    · rintro _ ⟨⟩
  | raised err =>
    refine ⟨⟨[upstream attempt], [], .error err⟩, fun fuel hfuel => ?_, orderly_of_last ?_ ?_⟩
    · cases fuel with
      | zero => cases hfuel
      | succ fuel => rw [requestLoop, hafter]
    · rintro _ ⟨⟩
    · intro err' _ resp houtcome
      rw [houtcome] at hafter
      exact afterSend_raised hafter
  | again delay =>
    obtain ⟨hlt, resp, houtcome, hresp⟩ := afterSend_again hafter
    obtain ⟨m, rfl⟩ := Nat.exists_eq_succ_of_ne_zero (show n ≠ 0 by omega)
    obtain ⟨ended, hended, horderly⟩ := @ih m (Nat.lt_succ_self m) (attempt + 1) (by omega)
    refine ⟨⟨upstream attempt :: ended.sends, delay :: ended.sleeps, ended.result⟩,
      fun fuel hfuel => ?_, horderly.cons houtcome hresp⟩
    cases fuel with
    | zero => cases hfuel
    | succ fuel =>
      rw [requestLoop, hafter]
      simp only [hended fuel (Nat.le_of_succ_le_succ hfuel), Option.map_some]

/-- **A call ends** after at most three sends of its message, and sends it again only after a
response that allows it; one that has no message sends nothing. -/
theorem request_orderly (env : PyEnv) (s : HttpSettings) (now : ℕ → ℤ) (call : HttpCall)
    (upstream : HttpMessage → ℕ → SendOutcome) :
    ∃ ended, (∀ fuel, 3 ≤ fuel → request env s now call upstream fuel = some ended) ∧
      (∀ message, messageOf s call = .ok message →
        Orderly env call.method (upstream message) 0 3 ended) ∧
      ∀ err, messageOf s call = .error err → ended = ⟨[], [], .error (.zadara err [])⟩ := by
  unfold request
  cases messageOf s call with
  | error err =>
    refine ⟨⟨[], [], .error (.zadara err [])⟩, fun _ _ => rfl, ?_, ?_⟩
    · rintro _ ⟨⟩
    · rintro _ ⟨⟩
      rfl
  | ok message =>
    obtain ⟨ended, hended, horderly⟩ := @requestLoop_orderly env call.method 0 now
      (upstream message) 2 rfl
    refine ⟨ended, hended, ?_, ?_⟩
    · rintro _ ⟨⟩
      exact horderly
    · rintro _ ⟨⟩

/-- A turn of the loop goes on with the next send, or its send is the last one. -/
theorem requestLoop_cases {now : ℕ → ℤ} {upstream : ℕ → SendOutcome} {fuel : ℕ} {ended : EndedCall}
    (h : requestLoop env now method upstream (fuel + 1) attempt = some ended) :
    (∃ delay rest, afterSend env (now attempt) method attempt (upstream attempt) = .again delay ∧
      requestLoop env now method upstream fuel (attempt + 1) = some rest ∧
      ended = ⟨upstream attempt :: rest.sends, delay :: rest.sleeps, rest.result⟩) ∨
    ((∀ delay, afterSend env (now attempt) method attempt (upstream attempt) ≠ .again delay) ∧
      ended.sends = [upstream attempt]) := by
  rw [requestLoop] at h
  cases hafter : afterSend env (now attempt) method attempt (upstream attempt) with
  | again delay =>
    rw [hafter] at h
    obtain ⟨rest, hrest, rfl⟩ := Option.map_eq_some_iff.1 h
    exact .inl ⟨delay, rest, rfl, hrest, rfl⟩
  | returned resp =>
    rw [hafter] at h
    obtain rfl := Option.some.inj h
    exact .inr ⟨fun _ => nofun, rfl⟩
  | raised err =>
    rw [hafter] at h
    obtain rfl := Option.some.inj h
    exact .inr ⟨fun _ => nofun, rfl⟩

theorem requestLoop_sends {now : ℕ → ℤ} {upstream : ℕ → SendOutcome} {fuel : ℕ} {ended : EndedCall}
    (h : requestLoop env now method upstream fuel attempt = some ended) :
    0 < ended.sends.length := by
  cases fuel with
  | zero => cases h
  | succ fuel =>
    obtain ⟨delay, rest, -, -, rfl⟩ | ⟨-, hsends⟩ := requestLoop_cases h
    · exact Nat.succ_pos _
    · rw [hsends]
      exact Nat.one_pos

/-- A send that is to be repeated after a delay is slept after, and another one follows. -/
theorem requestLoop_again {now : ℕ → ℤ} {upstream : ℕ → SendOutcome} {fuel : ℕ} {ended : EndedCall}
    (h : requestLoop env now method upstream fuel attempt = some ended) {k : ℕ} {delay : PyFloat}
    (houtcome : ended.sends[k]? = some outcome)
    (hafter : afterSend env (now (attempt + k)) method (attempt + k) outcome = .again delay) :
    ended.sleeps[k]? = some delay ∧ k + 1 < ended.sends.length := by
  induction fuel generalizing attempt ended k with
  | zero => cases h
  | succ fuel ih =>
    obtain ⟨delay', rest, hfirst, hrest, rfl⟩ | ⟨hfirst, hsends⟩ := requestLoop_cases h
    · cases k with
      | zero =>
        obtain rfl : upstream attempt = outcome := Option.some.inj houtcome
        obtain rfl : delay' = delay := AfterSend.again.inj (hfirst.symm.trans hafter)
        exact ⟨rfl, Nat.succ_lt_succ (requestLoop_sends hrest)⟩
      | succ k =>
        rw [show attempt + (k + 1) = attempt + 1 + k by omega] at hafter
        obtain ⟨hsleep, hlt⟩ := ih hrest houtcome hafter
        exact ⟨hsleep, Nat.succ_lt_succ hlt⟩
    · rw [hsends] at houtcome
      cases k with
      | zero =>
        obtain rfl : upstream attempt = outcome := Option.some.inj houtcome
        exact absurd hafter (hfirst delay)
      | succ k => cases houtcome

end Loop

/-! ### Waiting for the rate limit -/

/-- The header gives a number of seconds that is not negative, and an answer 429 with it is waited
for: every call sleeps after it and sends its message again. -/
structure Waits (env : PyEnv) (resp : HttpResponse) : Prop where
  answers : ∀ now (default : PyFloat), default.Nonneg →
    ∃ wait, retryAfter env now resp default = .ok wait ∧ wait.Nonneg
  sleeps : resp.status = 429 → ∀ now method attempt, attempt < maxRetries →
    ∃ delay, afterSend env now method attempt (.response resp) = .again delay ∧ delay.Within 0 5
  goesOn : resp.status = 429 → ∀ s now call upstream fuel ended,
    request env s now call upstream fuel = some ended →
      ∀ k < maxRetries, ended.sends[k]? = some (.response resp) →
        ∃ delay, ended.sleeps[k]? = some delay ∧ delay.Within 0 5 ∧ k + 1 < ended.sends.length

section Waits

variable {env : PyEnv} {resp : HttpResponse}

theorem afterSend_rate_limit (h : ¬ Overflows env resp) (hstatus : resp.status = 429) (now : ℤ)
    (method : String) {attempt : ℕ} (hattempt : attempt < maxRetries) :
    ∃ delay, afterSend env now method attempt (.response resp) = .again delay ∧
      delay.Within 0 5 := by
  obtain ⟨wait, hwait, hnonneg⟩ := retryAfter_ok h now (nonneg_backoff hattempt)
  have hget : ¬ (IsGet env method ∧ resp.status ∈ retryableStatus ∧ attempt < maxRetries) := by
    rintro ⟨-, hmem, -⟩
    rw [hstatus] at hmem
    exact absurd hmem (by decide)
  refine ⟨PyFloat.min wait (.ofRat 5), ?_, ?_⟩
  · rw [afterSend, if_neg hget, if_pos ⟨hstatus, hattempt⟩, hwait]
  · have hwithin := PyFloat.within_min (d := .ofRat 5) (by rw [val_ofRat_five]; decide) hnonneg
    rwa [val_ofRat_five] at hwithin

/-- **A rate limit is waited for**, up to five seconds, if and only if its header is not a date that
overflows. -/
theorem waits_iff : Waits env resp ↔ ¬ Overflows env resp := by
  constructor
  · intro h hoverflows
    obtain ⟨wait, hwait, -⟩ := h.answers 0 (.ofRat 0) val_ofRat_zero.ge
    rw [retryAfter_overflow hoverflows] at hwait
    cases hwait
  · intro h
    constructor
    case answers => exact fun now default hdefault => retryAfter_ok h now hdefault
    case sleeps =>
      exact fun hstatus now method attempt hattempt =>
        afterSend_rate_limit h hstatus now method hattempt
    case goesOn =>
      intro hstatus s now call upstream fuel ended hended k hk houtcome
      unfold request at hended
      cases hmessage : messageOf s call with
      | error err =>
        rw [hmessage] at hended
        obtain rfl := Option.some.inj hended
        cases houtcome
      | ok message =>
        rw [hmessage] at hended
        obtain ⟨delay, hafter, hwithin⟩ := afterSend_rate_limit h hstatus (now k) call.method hk
        have hdelay := requestLoop_again hended houtcome (by rwa [Nat.zero_add])
        exact ⟨delay, hdelay.1, hwithin, hdelay.2⟩

end Waits

/-- What Python makes of the texts that the tests and the failing date use. -/
def sampleEnv : PyEnv where
  upper s := String.ofList (s.toList.map Char.toUpper)
  float s := if s = "3" then some (.ofRat 3) else none
  parseDate s :=
    if s = "Mon, 01 Jan 99999999999999999999 00:00:00 GMT" then
      .error .overflowError else .error .valueError

/-- A year that is no C int. -/
theorem rate_limit_overflows :
    let resp : HttpResponse :=
  ⟨429, fun _ => some "Mon, 01 Jan 99999999999999999999 00:00:00 GMT", none⟩
    retryAfter sampleEnv 0 resp (.ofRat (1 / 2)) = .error .overflow ∧
      (request sampleEnv ⟨"https://cloud.test", 10⟩ (fun _ => 0)
        ⟨"GET", "/vms", none, none, [], true⟩
        (fun _ _ => .response resp) 3).map (fun ended =>
          (ended.sends.length, ended.result.toOption.isSome)) =
        some (1, false) := by
  intro resp
  have hoverflows : Overflows sampleEnv resp :=
    ⟨by decide +kernel, by decide +kernel, by decide +kernel⟩
  have hretry := retryAfter_overflow hoverflows 0 (.ofRat (1 / 2))
  refine ⟨hretry, ?_⟩
  decide +kernel

/-- A read that is put off by a 503 and then by a rate limit. -/
theorem request_orderly_putOff :
    let upstream : ℕ → SendOutcome := fun k =>
      .response ⟨[503, 429, 200].getD k 500, fun _ => some "3", none⟩
    ∃ ended, request sampleEnv ⟨"https://cloud.test/", 10⟩ (fun _ => 0)
        ⟨"GET", "/vms", none, none, [], true⟩ (fun _ => upstream) 3 = some ended ∧
      ended.sends = [upstream 0, upstream 1, upstream 2] ∧
      ended.sleeps = [.ofRat (1 / 2), .ofRat 3] ∧
      ended.result.toOption.map HttpResponse.status = some 200 ∧
      Orderly sampleEnv "GET" upstream 0 3 ended := by
  intro upstream
  obtain ⟨ended, hended, horderly, -⟩ := request_orderly sampleEnv ⟨"https://cloud.test/", 10⟩
    (fun _ => 0) ⟨"GET", "/vms", none, none, [], true⟩ (fun _ => upstream)
  have horderly := horderly _ rfl
  have hrun : (request sampleEnv ⟨"https://cloud.test/", 10⟩ (fun _ => 0)
      ⟨"GET", "/vms", none, none, [], true⟩ (fun _ => upstream) 3).map (fun ended =>
        (ended.sends.length, ended.sleeps, ended.result.toOption.map HttpResponse.status)) =
      some (3, [.ofRat (1 / 2), .ofRat 3], some 200) := by
    decide +kernel
  rw [hended 3 le_rfl] at hrun
  obtain ⟨hlength, hsleeps, hresult⟩ : _ ∧ _ ∧ _ := by
    simpa only [Option.map_some, Option.some.injEq, Prod.mk.injEq] using hrun
  refine ⟨ended, hended 3 le_rfl, List.ext_getElem hlength fun k hk hk' => ?_, hsleeps, hresult,
    horderly⟩
  rw [horderly.answered k hk, Nat.zero_add]
  obtain _ | _ | _ | k := k
  · rfl
  · rfl
  · rfl
  · exact absurd hk' (by simp)

end OpenCloud
