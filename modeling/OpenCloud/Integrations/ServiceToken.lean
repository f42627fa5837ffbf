import Mathlib.Logic.Function.Basic
import OpenCloud.Common.Dates
import OpenCloud.Integrations.Auth
import OpenCloud.Lib.Histories

/-!
# The service token

Every thread of the process reads the cloud with one token of the service account.  It is kept in
two places, the token and the moment until which it is good, without a lock: a thread writes the one
and then the other, and reads them one after the other.  So a token may stand beside the expiry of
another one.

A thread is modelled between two of its reads and writes.

## Main results

* `held_of_run` : the token that a thread goes on with, the cloud has granted; if it was taken from
  the cache, less than three hours before but for two minutes and the delay of the thread that
  stored it.
-/

namespace OpenCloud

/-- What the token is wanted for. -/
inductive TokenUse where
  /-- `get_service_token()`, called by itself. -/
  | token
  /-- The request of `_svc_get`. -/
  | get (path : String)
  /-- The same request once more, after a 401. -/
  | retry (path : String)
  deriving DecidableEq

/-- The argument `force`. -/
def TokenUse.force : TokenUse → Bool
  | .retry _ => true
  | _ => false

/-- What a thread ends with that does not have its answer. -/
inductive ServiceFailure where
  | auth (err : AuthFailure)
  | request (err : RequestError)
  | zadara (err : ZadaraError) (status : Option ℕ)

/-- Where a thread is in `get_service_token` and `_svc_get`; `now` is what it read from the
clock. -/
inductive TokenPhase where
  | idle
  | called (use : TokenUse)
  | clocked (use : TokenUse) (now : Instant)
  /-- There is a token in the cache. -/
  | seen (use : TokenUse) (now : Instant)
  /-- And it has not expired. -/
  | fresh (use : TokenUse) (now : Instant)
  /-- It signs in. -/
  | asking (use : TokenUse) (now : Instant)
  | granted (use : TokenUse) (now : Instant) (token : String)
  /-- It has written the token, not yet the expiry. -/
  | stored (use : TokenUse) (now : Instant) (token : String)
  /-- `get_service_token` has returned; a request with the token is under way. -/
  | holding (use : TokenUse) (now : Instant) (token : Option String)
  | ended (answer : Except ServiceFailure (Option Json))

/-- What a thread read from the clock that is about to store a token. -/
def TokenPhase.storing : TokenPhase → Option Instant
  | .granted _ now _ => some now
  | _ => none

/-- The process: `_cache` and its threads. -/
structure TokenProcess (T : Type) where
  now : Instant
  /-- `_cache['token']`. -/
  token : Option String
  /-- `_cache['exp']`. -/
  exp : Instant
  threads : T → TokenPhase

/-- What happens in the process; the cloud's answers are part of the event. -/
inductive TokenEvent (T : Type) where
  | pass (duration : ℕ)
  /-- A thread calls. -/
  | call (i : T) (use : TokenUse)
  /-- A thread reads or writes, once. -/
  | move (i : T)
  /-- The cloud answers a sign-in of the service account. -/
  | authenticated (i : T) (answer : Except AuthFailure GrantedToken)
  /-- The cloud answers a request. -/
  | answered (i : T) (answer : Except RequestError HttpResponse)

/-- `_TTL_SECONDS`. -/
def serviceTtlSeconds : ℕ := 3 * 60 * 60

/-- The settings of the service account. -/
structure ServiceSettings where
  zadaraServiceUsername : String
  zadaraServicePassword : String

/-- What `_svc_get` makes of its last response; `f'Zadara returned {resp.status_code} for
{path}'`. -/
def readAnswer (path : String) (resp : HttpResponse) : Except ServiceFailure (Option Json) :=
  if resp.Ok then .ok resp.json
  else .error
    (.zadara ⟨"upstream_error", "Zadara returned " ++ toString resp.status ++ " for " ++ path⟩
    (some resp.status))

namespace TokenProcess

variable {T : Type} [DecidableEq T] (s : ServiceSettings) (p : TokenProcess T)

/-- A thread goes on to a phase. -/
def goTo (i : T) (phase : TokenPhase) : TokenProcess T :=
  { p with threads := Function.update p.threads i phase }

/-- The next read or write of `get_service_token`. -/
def move (i : T) : Option (TokenProcess T) :=
  match p.threads i with
  | .called use => some (p.goTo i (.clocked use p.now))
  | .clocked use now =>
    -- `force` goes past the cache
    if use.force = false ∧ (keep p.token).isSome = true then
      some (p.goTo i (.seen use now)) else some (signIn use now)
  | .seen use now =>
    if now + seconds 120 < p.exp then some (p.goTo i (.fresh use now)) else some (signIn use now)
  | .fresh use now => some (p.goTo i (.holding use now p.token))
  | .granted use now token => some { p.goTo i (.stored use now token) with token := some token }
  | .stored use now token =>
    some { p.goTo i (.holding use now (some token)) with exp := now + seconds serviceTtlSeconds }
  | _ => none
where
  /-- The cache does not do. -/
  signIn (use : TokenUse) (now : Instant) : TokenProcess T :=
    if s.zadaraServiceUsername ≠ "" ∧ s.zadaraServicePassword ≠ "" then p.goTo i (.asking use now)
    else p.goTo i
      (.ended (.error (.zadara ⟨"unexpected", "Service account is not configured"⟩ none)))

/-- What an event makes of the process. -/
def exec (p : TokenProcess T) : TokenEvent T → Option (TokenProcess T)
  | .pass duration => some { p with now := p.now + duration }
  | .call i use =>
    if use.force = true then none
    else match p.threads i with
      | .idle | .ended _ | .holding .token _ _ => some (p.goTo i (.called use))
      | _ => none
  | .move i => p.move s i
  | .authenticated i answer =>
    match p.threads i, answer with
    | .asking use now, .ok granted => some (p.goTo i (.granted use now granted.token))
    | .asking _ _, .error err => some (p.goTo i (.ended (.error (.auth err))))
    | _, _ => none
  | .answered i answer =>
    match p.threads i, answer with
    | .holding (.get path) _ _, .ok resp =>
      some (p.goTo i (if resp.status = 401 then
        .called (.retry path) else .ended (readAnswer path resp)))
    | .holding (.retry path) _ _, .ok resp => some (p.goTo i (.ended (readAnswer path resp)))
    | .holding (.get _) _ _, .error err => some (p.goTo i (.ended (.error (.request err))))
    | .holding (.retry _) _ _, .error err => some (p.goTo i (.ended (.error (.request err))))
    | _, _ => none

/-- The process before any call. -/
def start (now : Instant) : TokenProcess T := ⟨now, none, 0, fun _ => .idle⟩

end TokenProcess

section

variable {T : Type} [DecidableEq T] (s : ServiceSettings)

/-- The process over time. -/
def serviceTokens : System (TokenProcess T) (TokenEvent T) := System.ofExec (TokenProcess.exec s)

/-- The cloud granted this token at this moment. -/
def GrantsToken (token : String) (granted : Instant) (_before : List (TokenEvent T))
    (p : TokenProcess T) :
    TokenEvent T → Prop
  | .authenticated _ (.ok answer) => answer.token = token ∧ p.now = granted
  | _ => False

/-- The cloud refused the token of a thread at this moment. -/
def RefusesToken (i : T) (refused : Instant) (_before : List (TokenEvent T)) (p : TokenProcess T) :
    TokenEvent T → Prop
  | .answered j (.ok resp) => j = i ∧ resp.status = 401 ∧ p.now = refused
  | _ => False

/-- A thread that stores a token read the clock at most so long before. -/
def StoresWithin (delay : ℕ) (_before : List (TokenEvent T)) (p : TokenProcess T) :
    TokenEvent T → Prop
  | .move i => ∀ now ∈ (p.threads i).storing, p.now ≤ now + delay
  | _ => True

instance (delay : ℕ) (before : List (TokenEvent T)) (p : TokenProcess T) :
    (e : TokenEvent T) → Decidable (StoresWithin delay before p e)
  | .move i => inferInstanceAs (Decidable (∀ now ∈ (p.threads i).storing, p.now ≤ now + delay))
  | .pass _ | .call _ _ | .authenticated _ _ | .answered _ _ => inferInstanceAs (Decidable True)

end

namespace TokenProcess

variable {T : Type} [DecidableEq T] {s : ServiceSettings} {delay : ℕ} {p₀ p p' : TokenProcess T}
  {es : List (TokenEvent T)} {e : TokenEvent T} {i : T} {w w' now : Instant} {use : TokenUse}
    {phase : TokenPhase}

/-! ### The invariant -/

/-- What is wanted again was refused before. -/
def Asked (s : ServiceSettings) (p₀ : TokenProcess T) (es : List (TokenEvent T)) (i : T)
    (use : TokenUse) (now : Instant) : Prop :=
  use.force = true → ∃ refused, refused ≤ now ∧
    (serviceTokens s).Happened p₀ (RefusesToken i refused) es

/-- The cloud has granted the token, since a moment. -/
def GrantedSince (s : ServiceSettings) (p₀ : TokenProcess T) (es : List (TokenEvent T))
    (now : Instant) (token : String) : Prop :=
  ∃ granted, now ≤ granted ∧ (serviceTokens s).Happened p₀ (GrantsToken token granted) es

/-- What is known of the token that a thread goes on with. -/
def Held (s : ServiceSettings) (delay : ℕ) (p₀ : TokenProcess T) (es : List (TokenEvent T)) (i : T)
    (use : TokenUse) (now : Instant) (held : Option String) : Prop :=
  ∃ token granted, held = some token ∧
    (serviceTokens s).Happened p₀ (GrantsToken token granted) es ∧
    now + seconds 120 < granted + seconds serviceTtlSeconds + delay ∧
    (use.force = true → ∃ refused, refused ≤ granted ∧
      (serviceTokens s).Happened p₀ (RefusesToken i refused) es)

/-- What is known of a thread, a token having been stored last at `w`; `clock` is the clock, and
`cached` the cache. -/
def PhaseSound (s : ServiceSettings) (delay : ℕ) (p₀ : TokenProcess T) (es : List (TokenEvent T))
    (w clock : Instant) (cached : Option String) (i : T) : TokenPhase → Prop
  | .idle => True
  | .called use => Asked s p₀ es i use clock
  | .clocked use now => now ≤ clock ∧ Asked s p₀ es i use now
  | .seen use now => now ≤ clock ∧ use.force = false ∧ cached ≠ none
  | .fresh use now => use.force = false ∧ cached ≠ none ∧
    now + seconds 120 < w + seconds serviceTtlSeconds
  | .asking use now => now ≤ clock ∧ Asked s p₀ es i use now
  | .granted use now token => now ≤ clock ∧ Asked s p₀ es i use now ∧ GrantedSince s p₀ es now token
  | .stored use now token => now ≤ w ∧ Asked s p₀ es i use now ∧ GrantedSince s p₀ es now token
  | .holding use now held => Held s delay p₀ es i use now held
  | .ended _ => True

/-- Whatever token stands beside it, the expiry is that of a thread that had stored its own by
then. -/
structure Sound (s : ServiceSettings) (delay : ℕ) (p₀ : TokenProcess T) (es : List (TokenEvent T))
    (w : Instant) (p : TokenProcess T) : Prop where
  past : w ≤ p.now
  cached : ∀ token, p.token = some token → ∃ granted, w ≤ granted + delay ∧
    (serviceTokens s).Happened p₀ (GrantsToken token granted) es
  expires : p.exp ≤ w + seconds serviceTtlSeconds
  threads : ∀ i, PhaseSound s delay p₀ es w p.now p.token i (p.threads i)

theorem Asked.snoc (h : Asked s p₀ es i use now) : Asked s p₀ (es ++ [e]) i use now := by
  intro hforce
  obtain ⟨refused, hle, hrefused⟩ := h hforce
  exact ⟨refused, hle, hrefused.snoc⟩

theorem Asked.later {later : Instant} (h : Asked s p₀ es i use now) (hle : now ≤ later) :
    Asked s p₀ es i use later := fun hforce => by
  obtain ⟨refused, hrefused, hhappened⟩ := h hforce
  exact ⟨refused, hrefused.trans hle, hhappened⟩

theorem Asked.of_not_force (h : use.force = false) : Asked s p₀ es i use now := fun hforce => by
  rw [h] at hforce
  cases hforce

theorem GrantedSince.snoc {token : String} (h : GrantedSince s p₀ es now token) :
    GrantedSince s p₀ (es ++ [e]) now token := by
  obtain ⟨granted, hle, hgranted⟩ := h
  exact ⟨granted, hle, hgranted.snoc⟩

theorem Held.snoc {held : Option String} (h : Held s delay p₀ es i use now held) :
    Held s delay p₀ (es ++ [e]) i use now held := by
  obtain ⟨token, granted, hheld, hgranted, hlt, hrefused⟩ := h
  refine ⟨token, granted, hheld, hgranted.snoc, hlt, fun hforce => ?_⟩
  obtain ⟨refused, hle, hhappened⟩ := hrefused hforce
  exact ⟨refused, hle, hhappened.snoc⟩

theorem GrantedSince.held {token : String} (h : GrantedSince s p₀ es now token)
    (hasked : Asked s p₀ es i use now) :
    Held s delay p₀ es i use now (some token) := by
  obtain ⟨granted, hle, hgranted⟩ := h
  refine ⟨token, granted, rfl, hgranted, ?_, hasked.later hle⟩
  have httl : seconds 120 < seconds serviceTtlSeconds := by decide
  exact (Nat.add_lt_add_of_le_of_lt hle httl).trans_le (Nat.le_add_right _ _)

theorem PhaseSound.mono {clock clock' : Instant} {cached cached' : Option String}
    (h : PhaseSound s delay p₀ es w clock cached i phase) (hw : w ≤ w') (hclock : clock ≤ clock')
    (hcached : cached ≠ none → cached' ≠ none) :
    PhaseSound s delay p₀ (es ++ [e]) w' clock' cached' i phase := by
  cases phase with
  | idle => trivial
  | called use => exact (Asked.snoc h).later hclock
  | clocked use now => exact ⟨h.1.trans hclock, h.2.snoc⟩
  | seen use now => exact ⟨h.1.trans hclock, h.2.1, hcached h.2.2⟩
  | fresh use now => exact ⟨h.1, hcached h.2.1, h.2.2.trans_le (Nat.add_le_add_right hw _)⟩
  | asking use now => exact ⟨h.1.trans hclock, h.2.snoc⟩
  | granted use now token => exact ⟨h.1.trans hclock, h.2.1.snoc, h.2.2.snoc⟩
  | stored use now token => exact ⟨h.1.trans hw, h.2.1.snoc, h.2.2.snoc⟩
  | holding use now held => exact Held.snoc h
  | ended answer => trivial

theorem threads_goTo_self (p : TokenProcess T) (i : T) (phase : TokenPhase) :
    (p.goTo i phase).threads i = phase :=
  Function.update_self ..

theorem threads_goTo_of_ne {j : T} (h : j ≠ i) : (p.goTo i phase).threads j = p.threads j :=
  Function.update_of_ne h ..

theorem Sound.goTo (h : Sound s delay p₀ es w p)
    (hphase : PhaseSound s delay p₀ (es ++ [e]) w p.now p.token i phase) :
    Sound s delay p₀ (es ++ [e]) w (p.goTo i phase) where
  past := h.past
  cached token htoken := by
    obtain ⟨granted, hle, hgranted⟩ := h.cached token htoken
    exact ⟨granted, hle, hgranted.snoc⟩
  expires := h.expires
  threads j := by
    by_cases hj : j = i
    · subst hj
      rw [threads_goTo_self]
      exact hphase
    · rw [threads_goTo_of_ne hj]
      exact (h.threads j).mono (Nat.le_refl _) (Nat.le_refl _) id

/-- It stores a token. -/
theorem Sound.storeToken (h : Sound s delay p₀ es w p) {token : String}
    (hasked : Asked s p₀ es i use now) (hgranted : GrantedSince s p₀ es now token)
    (hnow : now ≤ p.now) (hdelay : p.now ≤ now + delay) :
    Sound s delay p₀ (es ++ [e]) p.now
      { p.goTo i (.stored use now token) with token := some token } where
  past := Nat.le_refl _
  cached token' htoken := by
    obtain rfl := Option.some.inj htoken
    obtain ⟨granted, hle, hhappened⟩ := hgranted
    exact ⟨granted, hdelay.trans (Nat.add_le_add_right hle _), hhappened.snoc⟩
  expires := h.expires.trans (Nat.add_le_add_right h.past _)
  threads j := by
    by_cases hj : j = i
    · subst hj
      show PhaseSound s delay p₀ (es ++ [e]) p.now p.now (some token) j
        ((p.goTo j (.stored use now token)).threads j)
      rw [threads_goTo_self]
      exact ⟨hnow, hasked.snoc, hgranted.snoc⟩
    · show PhaseSound s delay p₀ (es ++ [e]) p.now p.now (some token) j
        ((p.goTo i (.stored use now token)).threads j)
      rw [threads_goTo_of_ne hj]
      exact (h.threads j).mono h.past (Nat.le_refl _) fun _ => Option.some_ne_none _

theorem Sound.storeExpiry (h : Sound s delay p₀ es w p) {token : String}
    (hphase : PhaseSound s delay p₀ es w p.now p.token i (.stored use now token)) :
    Sound s delay p₀ (es ++ [e]) w
      { p.goTo i (.holding use now (some token)) with exp := now + seconds serviceTtlSeconds } := by
  have hheld : Held s delay p₀ es i use now (some token) := hphase.2.2.held hphase.2.1
  have hgone : Sound s delay p₀ (es ++ [e]) w (p.goTo i (.holding use now (some token))) := by
    refine h.goTo ?_
    exact hheld.snoc
  exact ⟨hgone.past, hgone.cached, Nat.add_le_add_right hphase.1 _, hgone.threads⟩

theorem Sound.pass (h : Sound s delay p₀ es w p) (duration : ℕ) :
    Sound s delay p₀ (es ++ [e]) w { p with now := p.now + duration } where
  past := h.past.trans (Nat.le_add_right _ _)
  cached token htoken := by
    obtain ⟨granted, hle, hgranted⟩ := h.cached token htoken
    exact ⟨granted, hle, hgranted.snoc⟩
  expires := h.expires
  threads i := (h.threads i).mono (Nat.le_refl _) (Nat.le_add_right _ _) id

/-! ### One event -/

/-- What an event can do: most take one thread from a phase to the next. -/
inductive TokenStep (s : ServiceSettings) (p : TokenProcess T) :
    TokenEvent T → TokenProcess T → Prop
  | pass (duration : ℕ) : TokenStep s p (.pass duration) { p with now := p.now + duration }
  | call {i : T} {use : TokenUse} (hforce : use.force = false) :
      TokenStep s p (.call i use) (p.goTo i (.called use))
  | clock {i : T} {use : TokenUse} (hphase : p.threads i = .called use) :
      TokenStep s p (.move i) (p.goTo i (.clocked use p.now))
  | look {i : T} {use : TokenUse} {now : Instant} (hphase : p.threads i = .clocked use now)
      (hforce : use.force = false) (hcached : p.token ≠ none) :
      TokenStep s p (.move i) (p.goTo i (.seen use now))
  | compare {i : T} {use : TokenUse} {now : Instant} (hphase : p.threads i = .seen use now)
      (hexp : now + seconds 120 < p.exp) : TokenStep s p (.move i) (p.goTo i (.fresh use now))
  | signIn {i : T} {use : TokenUse} {now : Instant}
      (hphase : p.threads i = .clocked use now ∨ p.threads i = .seen use now) :
      TokenStep s p (.move i) (p.goTo i (.asking use now))
  | take {i : T} {use : TokenUse} {now : Instant} (hphase : p.threads i = .fresh use now) :
      TokenStep s p (.move i) (p.goTo i (.holding use now p.token))
  | storeToken {i : T} {use : TokenUse} {now : Instant} {token : String}
      (hphase : p.threads i = .granted use now token) :
      TokenStep s p (.move i) { p.goTo i (.stored use now token) with token := some token }
  | storeExpiry {i : T} {use : TokenUse} {now : Instant} {token : String}
      (hphase : p.threads i = .stored use now token) :
      TokenStep s p (.move i)
        { p.goTo i (.holding use now (some token)) with exp := now + seconds serviceTtlSeconds }
  | grant {i : T} {use : TokenUse} {now : Instant} {granted : GrantedToken}
      (hphase : p.threads i = .asking use now) :
      TokenStep s p (.authenticated i (.ok granted)) (p.goTo i (.granted use now granted.token))
  | refuse {i : T} {path : String} {resp : HttpResponse} (hrefused : resp.status = 401) :
      TokenStep s p (.answered i (.ok resp)) (p.goTo i (.called (.retry path)))
  | finish {i : T} {e : TokenEvent T} (answer : Except ServiceFailure (Option Json))
      (hothers : ∀ j, j ≠ i → ∀ answer, e ≠ .answered j answer) :
      TokenStep s p e (p.goTo i (.ended answer))

theorem signIn_cases
    (hphase : p.threads i = .clocked use now ∨ p.threads i = .seen use now) :
    TokenStep s p (.move i) (TokenProcess.move.signIn s p i use now) := by
  unfold TokenProcess.move.signIn
  split_ifs
  · exact .signIn hphase
  · exact .finish _ fun _ _ => nofun

theorem move_cases (hmove : p.move s i = some p') : TokenStep s p (.move i) p' := by
  unfold TokenProcess.move at hmove
  cases hphase : p.threads i <;> rw [hphase] at hmove
  case called use =>
    cases hmove
    exact .clock hphase
  case clocked use now =>
    dsimp only at hmove
    split_ifs at hmove with hcached <;> cases hmove
    · refine .look hphase hcached.1 fun hnone => ?_
      rw [hnone] at hcached
      cases hcached.2
    · exact signIn_cases (.inl hphase)
  case seen use now =>
    dsimp only at hmove
    split_ifs at hmove with hexp <;> cases hmove
    · exact .compare hphase hexp
    · exact signIn_cases (.inr hphase)
  case fresh use now =>
    cases hmove
    exact .take hphase
  case granted use now token =>
    cases hmove
    exact .storeToken hphase
  case stored use now token =>
    cases hmove
    exact .storeExpiry hphase
  all_goals cases hmove

theorem exec_cases (hexec : TokenProcess.exec s p e = some p') : TokenStep s p e p' := by
  cases e with
  | pass duration =>
    cases hexec
    exact .pass duration
  | call i use =>
    unfold TokenProcess.exec at hexec
    dsimp only at hexec
    split_ifs at hexec with hforce
    split at hexec <;> cases hexec <;> exact .call (Bool.eq_false_of_not_eq_true hforce)
  | move i => exact move_cases hexec
  | authenticated i answer =>
    unfold TokenProcess.exec at hexec
    dsimp only at hexec
    split at hexec <;> cases hexec
    · exact .grant (by assumption)
    · exact .finish _ fun _ _ => nofun
  | answered i answer =>
    have hothers : ∀ j, j ≠ i → ∀ answer', TokenEvent.answered i answer ≠ .answered j answer' := by
      rintro j hj answer' heq
      injection heq with hi
      exact hj hi.symm
    unfold TokenProcess.exec at hexec
    dsimp only at hexec
    split at hexec
    · cases hexec
      split_ifs with hrefused
      · exact .refuse hrefused
      · exact .finish _ hothers
    all_goals cases hexec <;> exact .finish _ hothers

/-- Every event keeps the invariant. -/
theorem Sound.exec (h : Sound s delay p₀ es w p) (hrun : (serviceTokens s).Run System.Free p₀ es p)
    (hdelay : StoresWithin delay es p e) (hexec : TokenProcess.exec s p e = some p') :
    ∃ w', Sound s delay p₀ (es ++ [e]) w' p' := by
  have hthread : ∀ {i : T} {phase : TokenPhase}, p.threads i = phase →
      PhaseSound s delay p₀ es w p.now p.token i phase := fun {i _} hphase => hphase ▸ h.threads i
  -- `w` is the moment of the last write of the token
  cases exec_cases hexec with
  | pass duration => exact ⟨w, h.pass duration⟩
  | call hforce => exact ⟨w, h.goTo (.of_not_force hforce)⟩
  | clock hphase => exact ⟨w, h.goTo ⟨Nat.le_refl _, Asked.snoc (hthread hphase)⟩⟩
  | look hphase hforce hcached => exact ⟨w, h.goTo ⟨(hthread hphase).1, hforce, hcached⟩⟩
  | compare hphase hexp =>
    obtain ⟨-, hforce, hcached⟩ := hthread hphase
    exact ⟨w, h.goTo ⟨hforce, hcached, hexp.trans_le h.expires⟩⟩
  | signIn hphase =>
    rcases hphase with hphase | hphase
    · exact ⟨w, h.goTo ⟨(hthread hphase).1, (hthread hphase).2.snoc⟩⟩
    · exact ⟨w, h.goTo ⟨(hthread hphase).1, .of_not_force (hthread hphase).2.1⟩⟩
  | take hphase =>
    obtain ⟨hforce, hcached, hlt⟩ := hthread hphase
    obtain ⟨token, htoken⟩ := Option.ne_none_iff_exists'.1 hcached
    obtain ⟨granted, hle, hgranted⟩ := h.cached token htoken
    refine ⟨w, h.goTo ⟨token, granted, htoken, hgranted.snoc, ?_, fun hforced => ?_⟩⟩
    · -- the token in the cache may be another one than the expiry was read for, but no older one
      refine hlt.trans_le ?_
      rw [Nat.add_right_comm]
      exact Nat.add_le_add_right hle _
    · rw [hforce] at hforced
      cases hforced
  | storeToken hphase =>
    obtain ⟨hnow, hasked, hgranted⟩ := hthread hphase
    refine ⟨p.now, h.storeToken hasked hgranted hnow (hdelay _ ?_)⟩
    rw [hphase]
    rfl
  | storeExpiry hphase => exact ⟨w, h.storeExpiry (hthread hphase)⟩
  | grant hphase =>
    obtain ⟨hnow, hasked⟩ := hthread hphase
    exact ⟨w, h.goTo ⟨hnow, hasked.snoc, p.now, hnow, .last hrun ⟨rfl, rfl⟩⟩⟩
  | refuse hrefused =>
    exact ⟨w, h.goTo fun _ => ⟨p.now, Nat.le_refl _, .last hrun ⟨rfl, hrefused, rfl⟩⟩⟩
  | finish answer _ => exact ⟨w, h.goTo trivial⟩

theorem Sound.of_run {start : Instant}
    (hrun : (serviceTokens s).Run (StoresWithin delay) (TokenProcess.start start) es p) :
    ∃ w, Sound s delay (TokenProcess.start start) es w p := by
  induction hrun with
  | nil => exact ⟨0, Nat.zero_le _, nofun, Nat.zero_le _, fun _ => trivial⟩
  | snoc hrun hdelay hstep ih =>
    obtain ⟨w, hsound⟩ := ih
    exact hsound.exec (hrun.mono fun _ _ _ _ => trivial) hdelay hstep

/-! ### The refusal behind a second request -/

/-- The last answer of a thread was a refusal, and these events came after it. -/
def RefusedBefore (i : T) (es after : List (TokenEvent T)) : Prop :=
  ∃ before resp, es = before ++ .answered i (.ok resp) :: after ∧ resp.status = 401 ∧
    ∀ answer, .answered i answer ∉ after

/-- And since then the cloud granted it the token. -/
def RenewedBy (i : T) (es : List (TokenEvent T)) (token : String) : Prop :=
  ∃ after, RefusedBefore i es after ∧
    ∃ answer, .authenticated i (.ok answer) ∈ after ∧ answer.token = token

/-- What a thread has that asks again. -/
def Renewing (es : List (TokenEvent T)) (i : T) : TokenPhase → Prop
  | .called use | .clocked use _ | .asking use _ =>
    use.force = true → ∃ after, RefusedBefore i es after
  | .seen use _ | .fresh use _ => use.force = false
  | .granted use _ token | .stored use _ token => use.force = true → RenewedBy i es token
  | .holding use _ held => use.force = true → ∃ token, held = some token ∧ RenewedBy i es token
  | .idle | .ended _ => True

omit [DecidableEq T] in
theorem RefusedBefore.snoc {after : List (TokenEvent T)} (h : RefusedBefore i es after)
    (he : ∀ answer, e ≠ .answered i answer) : RefusedBefore i (es ++ [e]) (after ++ [e]) := by
  obtain ⟨before, resp, rfl, hstatus, hafter⟩ := h
  refine ⟨before, resp, by rw [List.append_assoc, List.cons_append], hstatus, fun answer hmem => ?_⟩
  rcases List.mem_append.1 hmem with hmem | hmem
  · exact hafter answer hmem
  · exact he answer (List.mem_singleton.1 hmem).symm

omit [DecidableEq T] in
theorem Renewing.snoc (h : Renewing es i phase) (he : ∀ answer, e ≠ .answered i answer) :
    Renewing (es ++ [e]) i phase := by
  have hrefused : (∃ after, RefusedBefore i es after) →
    ∃ after, RefusedBefore i (es ++ [e]) after := by
    rintro ⟨after, hrefused⟩
    exact ⟨_, hrefused.snoc he⟩
  have hrenewed : ∀ token, RenewedBy i es token → RenewedBy i (es ++ [e]) token := by
    rintro token ⟨after, hrefused, answer, hmem, htoken⟩
    exact ⟨after ++ [e], hrefused.snoc he, answer, List.mem_append_left _ hmem, htoken⟩
  cases phase with
  | idle | ended => trivial
  | seen | fresh => exact h
  | called | clocked | asking => exact fun hforce => hrefused (h hforce)
  | granted | stored => exact fun hforce => hrenewed _ (h hforce)
  | holding =>
    intro hforce
    obtain ⟨token, htoken, hheld⟩ := h hforce
    exact ⟨token, htoken, hrenewed token hheld⟩

theorem Renewing.update {threads : T → TokenPhase} (h : ∀ j, Renewing es j (threads j))
    (he : ∀ j, j ≠ i → ∀ answer, e ≠ .answered j answer) (hphase : Renewing (es ++ [e]) i phase)
    (j : T) : Renewing (es ++ [e]) j (Function.update threads i phase j) := by
  by_cases hj : j = i
  · subst hj
    rw [Function.update_self]
    exact hphase
  · rw [Function.update_of_ne hj]
    exact (h j).snoc (he j hj)

theorem Renewing.exec (h : ∀ j, Renewing es j (p.threads j))
    (hexec : TokenProcess.exec s p e = some p') (j : T) :
    Renewing (es ++ [e]) j (p'.threads j) := by
  have hmoved : ∀ i j : T, j ≠ i → ∀ answer, TokenEvent.move i ≠ .answered j answer :=
    fun _ _ _ _ => nofun
  have hthread : ∀ {i : T} {phase : TokenPhase}, p.threads i = phase →
      Renewing (es ++ [.move i]) i phase := fun {i _} hphase => hphase ▸ (h i).snoc fun _ => nofun
  cases exec_cases hexec with
  | pass duration => exact (h j).snoc fun _ => nofun
  | @call i use hforce =>
    have hothers : ∀ j, j ≠ i → ∀ answer, TokenEvent.call i use ≠ .answered j answer :=
      fun _ _ _ => nofun
    refine Renewing.update h hothers ?_ j
    exact fun hforced => absurd (hforce.symm.trans hforced) Bool.false_ne_true
  | clock hphase =>
    have hcalled := hthread hphase
    refine Renewing.update h (hmoved _) ?_ j
    exact hcalled
  | look hphase hforce _ =>
    refine Renewing.update h (hmoved _) ?_ j
    exact hforce
  | compare hphase _ =>
    have hforce := hthread hphase
    refine Renewing.update h (hmoved _) ?_ j
    exact hforce
  | signIn hphase =>
    refine Renewing.update h (hmoved _) ?_ j
    rcases hphase with hphase | hphase
    · have hclocked := hthread hphase
      exact hclocked
    · -- one that looked into the cache was not asked again
      have hforce := hthread hphase
      exact fun hforced => absurd (hforce.symm.trans hforced) Bool.false_ne_true
  | take hphase =>
    refine Renewing.update h (hmoved _) ?_ j
    have hforce := hthread hphase
    exact fun hforced => absurd (hforce.symm.trans hforced) Bool.false_ne_true
  | storeToken hphase =>
    have hgranted := hthread hphase
    refine Renewing.update h (hmoved _) ?_ j
    exact hgranted
  | storeExpiry hphase =>
    refine Renewing.update h (hmoved _) ?_ j
    exact fun hforce => ⟨_, rfl, hthread hphase hforce⟩
  | @grant i use now granted hphase =>
    have hothers : ∀ j, j ≠ i → ∀ answer, TokenEvent.authenticated i (.ok granted) ≠
        .answered j answer := fun _ _ _ => nofun
    refine Renewing.update h hothers ?_ j
    intro hforce
    have hasking := h i
    rw [hphase] at hasking
    -- the grant comes after the refusal the thread is signing in for
    obtain ⟨after, hrefused⟩ := hasking hforce
    exact ⟨_, hrefused.snoc fun _ => nofun, granted, List.mem_append_right _ List.mem_cons_self,
      rfl⟩
  | @refuse i path resp hrefused =>
    refine Renewing.update h (fun j hj answer heq => ?_) ?_ j
    · injection heq with hi
      exact hj hi.symm
    · -- this refusal is the last answer of the thread, and nothing has come after it yet
      exact fun _ => ⟨[], es, resp, rfl, hrefused, fun _ => List.not_mem_nil⟩
  | finish answer hothers =>
    refine Renewing.update h hothers ?_ j
    trivial

theorem Renewing.of_run {start : Instant}
    {C : List (TokenEvent T) → TokenProcess T → TokenEvent T → Prop}
    (hrun : (serviceTokens s).Run C (TokenProcess.start start) es p) (i : T) :
    Renewing es i (p.threads i) := by
  induction hrun generalizing i with
  | nil => trivial
  | snoc _ _ hstep ih => exact Renewing.exec ih hstep i

end TokenProcess

/-- **No thread goes on with an expired service token.**  In a run in which every thread that signs
in stores its token within `delay` after it read the clock, the token that a thread goes on with was
granted by the cloud, less than three hours but for two minutes, and the delay, before the thread
read the clock.  One that it asked for again the cloud granted it after the very refusal, which was
the last answer the thread had. -/
theorem held_of_run {T : Type} [DecidableEq T] {s : ServiceSettings} {delay : ℕ} {start : Instant}
    {es : List (TokenEvent T)} {p : TokenProcess T}
    (hrun : (serviceTokens s).Run (StoresWithin delay) (.start start) es p) {i : T} {use : TokenUse}
    {now : Instant} {held : Option String} (hheld : p.threads i = .holding use now held) :
    ∃ token granted, held = some token ∧
      (serviceTokens s).Happened (.start start) (GrantsToken token granted) es ∧
      now + seconds 120 < granted + seconds (3 * 60 * 60) + delay ∧
      (use.force = true → ∃ refused, refused ≤ granted ∧
        (serviceTokens s).Happened (.start start) (RefusesToken i refused) es) ∧
      (use.force = true → ∃ before resp after, es = before ++ .answered i (.ok resp) :: after ∧
        resp.status = 401 ∧ (∀ answer, .answered i answer ∉ after) ∧
        ∃ answer, .authenticated i (.ok answer) ∈ after ∧ answer.token = token) := by
  obtain ⟨w, hsound⟩ := TokenProcess.Sound.of_run hrun
  have hthread := hsound.threads i
  have hrenewing := TokenProcess.Renewing.of_run hrun i
  rw [hheld] at hthread hrenewing
  obtain ⟨token, granted, hsome, hgranted, hlt, hrefused⟩ := hthread
  refine ⟨token, granted, hsome, hgranted, hlt, hrefused, fun hforce => ?_⟩
  obtain ⟨token', hsome', after, ⟨before, resp, hes, hstatus, hlast⟩, hrenewed⟩ := hrenewing hforce
  obtain rfl : token' = token := Option.some.inj (hsome'.symm.trans hsome)
  exact ⟨before, resp, after, hes, hstatus, hlast, hrenewed⟩

/-- A token of the service account. -/
def grantedToken (token : String) : GrantedToken where
  userId := "u1"
  userName := "svc"
  email := .null
  accountId := some "a1"
  accountName := "MSP"
  projectId := some "p1"
  projectName := some "ops"
  roles := []
  expiresAt := .null
  token := token
  scope := "project"

/-- Two threads sign in at once, and the token that stays is refused an hour later. -/
def tokenRace : List (TokenEvent Bool) :=
  [.call false .token, .call true .token, .move false, .move true, .move false, .move true,
    .authenticated true (.ok (grantedToken "b")), .authenticated false (.ok (grantedToken "a")),
    .move false, .move true, .move true, .move false, .pass (seconds 3600),
    .call false (.get "/api/v2/identity/domains"), .move false, .move false, .move false,
    .move false, .answered false (.ok ⟨401, fun _ => none, none⟩), .move false, .move false,
    .authenticated false (.ok (grantedToken "c")), .move false, .move false]

theorem held_of_run_race :
    ∃ p : TokenProcess Bool, (serviceTokens ⟨"svc", "pw"⟩).Run (StoresWithin (seconds 1))
      (.start 0) tokenRace p ∧
      p.threads false = .holding (.retry "/api/v2/identity/domains") (seconds 3600) (some "c") ∧
      ∃ token granted, some "c" = some token ∧
        (serviceTokens ⟨"svc", "pw"⟩).Happened (.start 0) (GrantsToken token granted) tokenRace ∧
        seconds 3600 + seconds 120 < granted + seconds (3 * 60 * 60) + seconds 1 ∧
        (TokenUse.force (.retry "/api/v2/identity/domains") = true → ∃ refused, refused ≤ granted ∧
          (serviceTokens ⟨"svc", "pw"⟩).Happened (.start 0)
            (RefusesToken false refused) tokenRace) ∧
        (TokenUse.force (.retry "/api/v2/identity/domains") = true → ∃ before resp after,
          tokenRace = before ++ .answered false (.ok resp) :: after ∧ resp.status = 401 ∧
          (∀ answer, .answered false answer ∉ after) ∧
          ∃ answer, .authenticated false (.ok answer) ∈ after ∧ answer.token = token) := by
  have hrace : ((System.execAll (TokenProcess.exec ⟨"svc", "pw"⟩) (StoresWithin (seconds 1)) []
      (.start 0) tokenRace).map fun p => match p.threads false with
        | .holding use now held => some (use, now, held)
        | _ => none) = some (some (.retry "/api/v2/identity/domains", seconds 3600, some "c")) := by
    decide +kernel
  obtain ⟨p, hexec, hphase⟩ := Option.map_eq_some_iff.1 hrace
  have hrun := System.Run.of_exec hexec
  split at hphase
  · rename_i use now held hheld
    cases hphase
    exact ⟨p, hrun, hheld, held_of_run hrun hheld⟩
  · cases hphase

end OpenCloud
