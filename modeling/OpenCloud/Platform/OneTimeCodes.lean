import OpenCloud.Lib.Runs
import OpenCloud.Platform.SignIn

/-!
# A code of an authenticator works once

`Totp.verify` asks pyotp about the code and then adds the code to the cache of used ones, for 90
seconds. A code is good for the 30-second step it belongs to and one on either side, so two
presentations of one code are less than 90 seconds apart and the second finds the first in the
cache.

pyotp compares codes after NFKC normalization, and the cache holds them as they were typed: six
fullwidth digits are another key for the same code.

## Main results

* `Presented.lt_of_shared` : two presentations of a step are less than `replayTtl` apart.
* `once_of_run` : no step's code is accepted twice while no used code comes back in another
  spelling.
-/

namespace OpenCloud

/-! ### pyotp -/

/-- What `pyotp.TOTP` computes with. -/
structure Pyotp where
  /-- `unicodedata.normalize("NFKC", s)`. -/
  nfkc : String → String
  /-- `TOTP(secret).generate_otp(counter)`. -/
  codeAt : String → ℤ → String

namespace Pyotp

variable (p : Pyotp)

/-- `timecode`, the number of the 30-second step. -/
def timecode (now : Instant) : ℤ := (now / seconds 30 : ℕ)

/-- `utils.strings_equal`. -/
def stringsEqual (a b : String) : Bool := p.nfkc a = p.nfkc b

/-- `TOTP(secret).verify(otp, valid_window=1)`. -/
def verify (secret otp : String) (now : Instant) : Bool :=
  [-1, 0, 1].any fun i => p.stringsEqual otp (p.codeAt secret (timecode now + i))

theorem verify_iff {secret otp : String} {now : Instant} : p.verify secret otp now = true ↔
    ∃ step, timecode now - 1 ≤ step ∧ step ≤ timecode now + 1 ∧
      p.stringsEqual otp (p.codeAt secret step) = true := by
  simp only [verify, List.any_eq_true, List.mem_cons, List.not_mem_nil, or_false]
  constructor
  · rintro ⟨i, rfl | rfl | rfl, h⟩
    · exact ⟨_, by omega, by omega, h⟩
    · exact ⟨_, by omega, by omega, h⟩
    · exact ⟨_, by omega, by omega, h⟩
  · rintro ⟨step, hlo, hhi, h⟩
    refine ⟨step - timecode now, by omega, ?_⟩
    rwa [show timecode now + (step - timecode now) = step by omega]

theorem lt_of_timecode {a b : ℕ} (h : timecode b ≤ timecode a + 2) :
    b < a + seconds Totp.replayTtl := by
  have hdiv : ((b / (30 * 10 ^ 6) : ℕ) : ℤ) ≤ (a / (30 * 10 ^ 6) : ℕ) + 2 := h
  show b < a + 90 * 10 ^ 6
  omega

end Pyotp

/-- The codes are pyotp's. -/
def Crypto.withPyotp (k : Crypto) (p : Pyotp) : Crypto := { k with accepts := p.verify }

/-! ### Calls over time -/

/-- A call of `totp.verify` that answered true. -/
structure Presented where
  adminId : ℕ
  secret : String
  code : String
  now : Instant
  deriving DecidableEq

/-- The call presented the code of this step: it is one of the three pyotp compares with. -/
def Presented.Step (p : Pyotp) (call : Presented) (step : ℤ) : Prop :=
  Pyotp.timecode call.now - 1 ≤ step ∧ step ≤ Pyotp.timecode call.now + 1 ∧
    p.stringsEqual (Totp.normalize call.code) (p.codeAt call.secret step) = true

/-- The used codes, the time, and the calls accepted so far. -/
structure CodeLog where
  used : UsedCodes
  now : Instant
  accepted : List Presented

inductive CodeEvent where
  /-- `totp.verify(secret, code, admin_id=adminId)`. -/
  | verify (secret code : String) (adminId : ℕ)
  /-- Time passes. -/
  | pass (duration : ℕ)

/-- The log after an event. -/
def CodeLog.serve (k : Crypto) (log : CodeLog) : CodeEvent → CodeLog
  | .verify secret code adminId =>
    let (accepted, used) := Totp.verify k log.used log.now secret code adminId
    { log with
      used := used
      accepted := if accepted then log.accepted ++
        [⟨adminId, secret, code, log.now⟩] else log.accepted }
  | .pass duration => { log with now := log.now + duration }

/-- The calls over time. -/
def codes (k : Crypto) : System CodeLog CodeEvent :=
  System.ofExec fun log event => some (log.serve k event)

/-- Where pyotp accepts the code, no used code of the operator is alive that is another spelling of
it. -/
def NotRespelled (p : Pyotp) (log : CodeLog) : CodeEvent → Prop
  | .verify secret code adminId => p.verify secret (Totp.normalize code) log.now = true →
    ∀ e ∈ log.used, log.now < e.expires → e.key.1 = adminId →
      p.stringsEqual e.key.2 (Totp.normalize code) = true → e.key.2 = Totp.normalize code
  | .pass _ => True

instance (p : Pyotp) (log : CodeLog) : ∀ event, Decidable (NotRespelled p log event)
  | .verify _ _ _ => inferInstanceAs (Decidable (_ → ∀ e ∈ log.used, _))
  | .pass _ => inferInstanceAs (Decidable True)

/-- Of the accepted calls of an operator with a secret, no two presented the code of one step. -/
def CodeLog.Once (p : Pyotp) (log : CodeLog) : Prop :=
  log.accepted.Pairwise fun a b => a.adminId = b.adminId → a.secret = b.secret →
    ∀ step, a.Step p step → ¬ b.Step p step

/-! ### Single use -/

section

variable {p : Pyotp} {k : Crypto} {log log' : CodeLog}

theorem Totp.verify_cases (k : Crypto) (used : UsedCodes) (now : Instant) (secret code : String)
    (adminId : ℕ) :
    Totp.verify k used now secret code adminId = (false, used) ∨
    (k.accepts secret (Totp.normalize code) now = true ∧
      (∀ e ∈ used, e.key = (adminId, Totp.normalize code) → e.expires ≤ now) ∧
      Totp.verify k used now secret code adminId =
        (true, used.set now (adminId, Totp.normalize code) () (seconds replayTtl))) := by
  unfold Totp.verify
  dsimp only
  split_ifs with hformat haccepts
  · exact .inl rfl
  · exact .inl rfl
  · rcases Cache.add_cases used now (adminId, normalize code) () (seconds replayTtl) with
      h | ⟨hfree, h⟩
    · exact .inl h
    · exact .inr ⟨by simpa using haccepts, hfree, h⟩

/-- Two presentations of a step are less than `replayTtl` apart. -/
theorem Presented.lt_of_shared {a b : Presented} {step : ℤ} (ha : a.Step p step)
    (hb : b.Step p step) :
    b.now < a.now + seconds Totp.replayTtl := by
  obtain ⟨hlo, -, -⟩ := hb
  obtain ⟨-, hhi, -⟩ := ha
  exact Pyotp.lt_of_timecode (by omega)

/-- Every accepted call presented the code of a step, and its code is in the cache for
`replayTtl`. -/
structure CodeLog.Kept (p : Pyotp) (log : CodeLog) : Prop where
  presented : ∀ call ∈ log.accepted, ∃ step, call.Step p step
  used : ∀ call ∈ log.accepted, ∃ e ∈ log.used,
    e.key = (call.adminId, Totp.normalize call.code) ∧ call.now + seconds Totp.replayTtl ≤ e.expires

theorem CodeLog.Kept.set (h : log.Kept p) {call : Presented} (hcall : call ∈ log.accepted)
    {now : Instant} {key : ℕ × String} (hfree : ∀ e ∈ log.used, e.key = key → e.expires ≤ now) :
    ∃ e ∈ log.used.set now key () (seconds Totp.replayTtl),
      e.key = (call.adminId, Totp.normalize call.code) ∧
        call.now + seconds Totp.replayTtl ≤ e.expires := by
  obtain ⟨e, he, hkey, hexpires⟩ := h.used call hcall
  by_cases hsame : e.key = key
  · -- the entry under the key had expired, so the new one lives longer
    refine ⟨⟨key, (), now + seconds Totp.replayTtl⟩, List.mem_cons_self, hsame ▸ hkey, ?_⟩
    have hexpired : e.expires ≤ now := hfree e he hsame
    exact hexpires.trans (hexpired.trans (Nat.le_add_right _ _))
  · exact ⟨e, Cache.mem_set_of_ne he hsame, hkey, hexpires⟩

/-- A call that meets the condition is accepted only for a step no earlier call presented. -/
theorem CodeLog.Kept.fresh (h : log.Kept p) {secret code : String} {adminId : ℕ}
    (hcond : NotRespelled p log (.verify secret code adminId))
    (haccepts : p.verify secret (Totp.normalize code) log.now = true)
    (hfree : ∀ e ∈ log.used, e.key = (adminId, Totp.normalize code) → e.expires ≤ log.now)
    {call : Presented} (hcall : call ∈ log.accepted) (hadmin : call.adminId = adminId)
    (hsecret : call.secret = secret) {step : ℤ} (hstep : call.Step p step) :
    ¬ Presented.Step p ⟨adminId, secret, code, log.now⟩ step := by
  intro hnew
  have hlt : log.now < call.now + seconds Totp.replayTtl := Presented.lt_of_shared hstep hnew
  obtain ⟨e, he, hkey, hexpires⟩ := h.used call hcall
  have halive : log.now < e.expires := hlt.trans_le hexpires
  -- both codes normalize to the code of the step
  have hequal : p.stringsEqual e.key.2 (Totp.normalize code) = true := by
    obtain ⟨-, -, hold⟩ := hstep
    obtain ⟨-, -, hnew⟩ := hnew
    rw [hsecret] at hold
    simp only [Pyotp.stringsEqual, decide_eq_true_eq, hkey] at hold hnew ⊢
    exact hold.trans hnew.symm
  have hsame : e.key.2 = Totp.normalize code :=
    hcond haccepts e he halive (by rw [hkey, hadmin]) hequal
  have hused : e.key = (adminId, Totp.normalize code) := by
    rw [← hsame, hkey, hadmin]
  exact absurd halive (not_lt.2 (hfree e he hused))

/-- One event keeps the accepted calls in the cache and apart from each other. -/
theorem once_step {event : CodeEvent} (hkept : log.Kept p) (honce : log.Once p)
    (hcond : NotRespelled p log event) :
    (log.serve (k.withPyotp p) event).Kept p ∧ (log.serve (k.withPyotp p) event).Once p := by
  cases event with
  | pass duration => exact ⟨⟨hkept.presented, hkept.used⟩, honce⟩
  | verify secret code adminId =>
    rcases Totp.verify_cases (k.withPyotp p) log.used log.now secret code adminId with
      h | ⟨haccepts, hfree, h⟩
    · rw [CodeLog.serve, h]
      exact ⟨hkept, honce⟩
    · rw [CodeLog.serve, h]
      refine ⟨⟨fun call hcall => ?_, fun call hcall => ?_⟩, ?_⟩
      · rcases List.mem_append.1 hcall with hcall | hcall
        · exact hkept.presented call hcall
        · obtain rfl := List.mem_singleton.1 hcall
          exact p.verify_iff.1 haccepts
      · rcases List.mem_append.1 hcall with hcall | hcall
        · exact hkept.set hcall hfree
        · obtain rfl := List.mem_singleton.1 hcall
          exact ⟨_, List.mem_cons_self, rfl, le_rfl⟩
      · refine List.pairwise_append.2 ⟨honce, List.pairwise_singleton _ _, fun a ha b hb => ?_⟩
        obtain rfl := List.mem_singleton.1 hb
        intro hadmin hsecret step hstep
        exact hkept.fresh hcond haccepts hfree ha hadmin hsecret hstep

end

/-! ### A sample -/

/-- Normalization of fullwidth digits, and the codes of the secret JBSWY3DPEHPK3PXP around one
moment. -/
def samplePyotp : Pyotp where
  nfkc s := String.ofList (s.toList.map fun ch =>
    if 0xff10 ≤ ch.toNat ∧ ch.toNat ≤ 0xff19 then
      Char.ofNat (ch.toNat - 0xff10 + '0'.toNat) else ch)
  codeAt secret step :=
    if secret = "JBSWY3DPEHPK3PXP" then
      if step = 59548019 then "510202" else if step = 59548020 then "672574"
      else if step = 59548021 then "020369" else if step = 59548022 then "456268" else ""
    else ""

/-- Fullwidth digits are digits, as in Python. -/
def digitCrypto : Crypto :=
  { sampleCrypto with isDigit := fun ch => ch.isDigit || (0xff10 ≤ ch.toNat && ch.toNat ≤ 0xff19) }

/-- The moment the step 59548020 begins. -/
def stepStart : Instant := seconds (30 * 59548020)

/-- **A code works once** while no call presents another spelling of a code used in the last 90
seconds. -/
theorem once_of_run {k : Crypto} {p : Pyotp} {now : Instant} {log : CodeLog}
    {events : List CodeEvent}
    (hrun : (codes (k.withPyotp p)).Run (fun _ log event => NotRespelled p log event) ⟨[], now, []⟩
      events log) : log.Once p := by
  have hkept : log.Kept p ∧ log.Once p := by
    refine hrun.invariant (I := fun _ log => log.Kept p ∧ log.Once p) ?_ ?_
    · exact ⟨⟨by simp, by simp⟩, List.Pairwise.nil⟩
    · rintro _ log event _ ⟨hkept, honce⟩ hcond hstep
      obtain rfl := Option.some.inj hstep
      exact once_step hkept honce hcond
  exact hkept.2

/-- A code and, after it was tried again, the next one. -/
def twoCodes : List CodeEvent :=
  [.verify "JBSWY3DPEHPK3PXP" "672574" 1, .verify "JBSWY3DPEHPK3PXP" "672 574" 1,
    .pass (seconds 30), .verify "JBSWY3DPEHPK3PXP" "020369" 1]

theorem once_of_run_twoCodes : ∃ log : CodeLog, log.accepted.length = 2 ∧ log.Once samplePyotp := by
  have hlength :
    (System.execAll (fun log event => some (CodeLog.serve (digitCrypto.withPyotp samplePyotp)
      log event)) (fun _ log event => NotRespelled samplePyotp log event) [] ⟨[], stepStart, []⟩
      twoCodes).map (fun log => log.accepted.length) = some 2 := by decide +kernel
  obtain ⟨log, hexec, htwo⟩ := Option.map_eq_some_iff.1 hlength
  exact ⟨log, htwo, once_of_run (System.Run.of_exec hexec)⟩

/-! ### Another spelling -/

/-- A code is presented, and a second later the same code in fullwidth digits. -/
def respelled : List CodeEvent :=
  [.verify "JBSWY3DPEHPK3PXP" "672574" 1, .pass (seconds 1), .verify "JBSWY3DPEHPK3PXP" "６７２５７４" 1]

/-- Both are accepted. -/
theorem accepted_twice :
    ∃ log, (codes (digitCrypto.withPyotp samplePyotp)).Run System.Free
      ⟨[], stepStart, []⟩ respelled log ∧
      log.accepted = [⟨1, "JBSWY3DPEHPK3PXP", "672574", stepStart⟩,
        ⟨1, "JBSWY3DPEHPK3PXP", "６７２５７４", stepStart + seconds 1⟩] ∧
      ¬ log.Once samplePyotp := by
  have hlog :
    (System.execAll (fun log event => some (CodeLog.serve (digitCrypto.withPyotp samplePyotp)
      log event)) System.Free [] ⟨[], stepStart, []⟩ respelled).map (fun log => log.accepted) =
      some [⟨1, "JBSWY3DPEHPK3PXP", "672574", stepStart⟩,
        ⟨1, "JBSWY3DPEHPK3PXP", "６７２５７４", stepStart + seconds 1⟩] := by decide +kernel
  obtain ⟨log, hexec, haccepted⟩ := Option.map_eq_some_iff.1 hlog
  refine ⟨log, System.Run.of_exec hexec, haccepted, fun honce => ?_⟩
  rw [CodeLog.Once, haccepted] at honce
  refine (List.pairwise_cons.1 honce).1 _ (List.mem_singleton_self _) rfl rfl 59548020 ?_ ?_
  · exact ⟨by decide +kernel, by decide +kernel, by decide +kernel⟩
  · exact ⟨by decide +kernel, by decide +kernel, by decide +kernel⟩

end OpenCloud
