import OpenCloud.Lib.Runs
import OpenCloud.Platform.SignIn
import Mathlib.Data.Fintype.Basic
import Mathlib.Logic.Function.Basic

/-!
# The lockout under concurrent guesses

A request that guesses a password or a code loads the operator's row, tests the lock on this copy,
judges the guess, and, if it was wrong, counts the failure on the copy and saves the copy's counter
and lock. Between any two of these steps other requests run and time passes.

The copy may be stale.  Requests that loaded the row before any of them saved all pass the test and
all count from the same number, so six guesses are judged where five should be
(`six_guesses_judged`). Where every guess is judged on a copy that is up to date, and none while a
failure waits to be saved, the lockout holds (`lockout_holds`).

## Main results

* `guarded_step` : a step that judges on an up-to-date copy keeps the count of the guesses.
* `lockout_holds` : in a run of such steps at most five wrong guesses are judged in any span of
  fifteen minutes, and after five no guess is judged until fifteen minutes have passed.
-/

namespace OpenCloud

/-- What a request guesses: a password at step 1, or a code at step 2 with the ticket's payload. -/
inductive Guess where
  | password (raw : String)
  | code (payload : Ticket) (code : String) (ip : Option String) (iv : String)

/-- How a request ends. -/
inductive AttemptEnd where
  /-- There is no active operator. -/
  | unknown
  | locked
  | refused
  /-- The password was right, and step 2 follows. -/
  | ticket
  | signedIn
  deriving DecidableEq, Repr

/-- Where a request stands; `copy` is the row it loaded. -/
inductive AttemptState where
  | start
  | loaded (copy : PlatformAdmin)
  /-- The copy is not locked. -/
  | judging (copy : PlatformAdmin)
  /-- The guess was wrong, and the failure is not saved yet. -/
  | failing (copy : PlatformAdmin)
  /-- The code was right, and the sign-in is not saved yet. -/
  | passed (copy : PlatformAdmin)
  | ended (result : AttemptEnd)
  deriving DecidableEq

/-- The requests for one operator, its row, and the guesses judged so far: when, and whether
wrong. -/
structure Attempts (ι : Type*) where
  row : PlatformAdmin
  usedCodes : UsedCodes
  now : Instant
  ctl : ι → AttemptState
  judged : List (Instant × Bool)

/-- A request takes a step, or time passes. -/
inductive AttemptEvent (ι : Type*) where
  | run (i : ι)
  | pass (duration : ℕ)
  deriving DecidableEq

/-- Whether a guess is right. -/
def Guess.judge (k : Crypto) (copy : PlatformAdmin) (used : UsedCodes) (now : Instant) :
    Guess → Bool × UsedCodes
  | .password raw => (copy.checkPassword k raw, used)
  | .code payload typed _ _ => secondFactor k copy used now payload typed

/-- Where a right guess leads. -/
def Guess.accepted (copy : PlatformAdmin) : Guess → AttemptState
  | .password _ => .ended .ticket
  | .code _ _ _ _ => .passed copy

/-- The row after a sign-in is saved from the copy. -/
def Guess.signIn (k : Crypto) (copy row : PlatformAdmin) (now : Instant) : Guess → PlatformAdmin
  | .password _ => row
  | .code payload _ ip iv =>
    let row := match enrolledSecret k copy payload with
      | none => row
      | some secret => { copy with
          totpSecret := k.fernetEncrypt iv secret, totpConfirmedAt := some now }.saveTotp row
    (copy.noteSuccess now ip).saveLogin row

section

variable {ι : Type*} [DecidableEq ι]

/-- A request goes on. -/
def Attempts.goto (st : Attempts ι) (i : ι) (state : AttemptState) : Attempts ι :=
  { st with ctl := Function.update st.ctl i state }

/-- One step; none where the request has ended. -/
def attemptStep (k : Crypto) (guesses : ι → Guess) (st : Attempts ι) :
    AttemptEvent ι → Option (Attempts ι)
  | .run i =>
    match st.ctl i with
    | .start => some (st.goto i (if st.row.isActive then .loaded st.row else .ended .unknown))
    | .loaded copy =>
      some (st.goto i (if copy.isLocked st.now then .ended .locked else .judging copy))
    | .judging copy =>
      let judged := (guesses i).judge k copy st.usedCodes st.now
      some ({ st with usedCodes := judged.2, judged := st.judged ++ [(st.now, !judged.1)] }.goto i
        (if judged.1 then (guesses i).accepted copy else .failing copy))
    | .failing copy =>
      some ({ st with row := (copy.noteFailure st.now).saveLockout st.row }.goto i
        (.ended .refused))
    | .passed copy =>
      some ({ st with row := (guesses i).signIn k copy st.row st.now }.goto i (.ended .signedIn))
    | .ended _ => none
  | .pass duration => some { st with now := st.now + duration }

/-- The requests side by side. -/
def attempts (k : Crypto) (guesses : ι → Guess) : System (Attempts ι) (AttemptEvent ι) :=
  System.ofExec (attemptStep k guesses)

/-- Before the first request. -/
def Attempts.fresh (row : PlatformAdmin) (now : Instant) : Attempts ι :=
  ⟨row, [], now, fun _ => .start, []⟩

end

/-! ### What the lockout promises -/

/-- When the wrong guesses were judged. -/
def wrongs (judged : List (Instant × Bool)) : List Instant :=
  judged.filterMap fun guess => if guess.2 then some guess.1 else none

/-- At most five wrong guesses are judged in any half-open span, and once five have been judged
within one, no guess is until the span after each of them has passed. -/
structure LockoutHolds (judged : List (Instant × Bool)) : Prop where
  few : ∀ since, (wrongs judged).countP (fun t => since ≤ t ∧ t < since + lockout) ≤
    maxFailedAttempts
  closed : ∀ before guess after, judged = before ++ guess :: after → ∀ five,
    five.length = maxFailedAttempts → five <:+ wrongs before →
    (∀ x ∈ five, ∀ y ∈ five, y < x + lockout) → ∀ x ∈ five, x + lockout ≤ guess.1

section

variable {ι : Type*}

/-- A wrong guess of the request is not saved yet. -/
def AttemptState.Failing : AttemptState → Prop
  | .failing _ => True
  | _ => False

instance : DecidablePred AttemptState.Failing := fun state => by
  cases state <;> first | exact isTrue trivial | exact isFalse id

/-- The request is about to have a code judged that is right. -/
def rightCode (k : Crypto) (st : Attempts ι) : AttemptState → Guess → Bool
  | .judging copy, .code payload typed _ _ =>
    (secondFactor k copy st.usedCodes st.now payload typed).1
  | _, _ => false

/-- No sign-in succeeds. -/
def NoSignIn (k : Crypto) (guesses : ι → Guess) (st : Attempts ι) : AttemptEvent ι → Prop
  | .run i => rightCode k st (st.ctl i) (guesses i) = false
  | .pass _ => True

/-- A guess about to be judged is judged on a copy whose counter and lock are those of the row,
while no failure waits to be saved. -/
def Current (st : Attempts ι) : AttemptState → Prop
  | .judging copy => copy.failedAttempts = st.row.failedAttempts ∧
      copy.lockedUntil = st.row.lockedUntil ∧ ∀ j, ¬ (st.ctl j).Failing
  | _ => True

/-- No guess is judged on a stale copy. -/
def UpToDate (st : Attempts ι) : AttemptEvent ι → Prop
  | .run i => Current st (st.ctl i)
  | .pass _ => True

instance (k : Crypto) (guesses : ι → Guess) (st : Attempts ι) (e : AttemptEvent ι) :
    Decidable (NoSignIn k guesses st e) :=
  match e with
  | .run i => inferInstanceAs (Decidable (rightCode k st (st.ctl i) (guesses i) = false))
  | .pass _ => isTrue trivial

instance [Fintype ι] (st : Attempts ι) : DecidablePred (Current st)
  | .judging copy => inferInstanceAs (Decidable (copy.failedAttempts = st.row.failedAttempts ∧
      copy.lockedUntil = st.row.lockedUntil ∧ ∀ j, ¬ (st.ctl j).Failing))
  | .start | .loaded _ | .failing _ | .passed _ | .ended _ => isTrue trivial

instance [Fintype ι] (st : Attempts ι) (e : AttemptEvent ι) : Decidable (UpToDate st e) :=
  match e with
  | .run i => inferInstanceAs (Decidable (Current st (st.ctl i)))
  | .pass _ => isTrue trivial

end

/-! ### Judging one more guess -/

section Guess

variable {judged : List (Instant × Bool)} {old recent : List ℕ} {now : ℕ} {lockedUntil : Option ℕ}

theorem wrongs_append (judged judged' : List (Instant × Bool)) :
    wrongs (judged ++ judged') = wrongs judged ++ wrongs judged' := List.filterMap_append

/-- Five guesses close together were all judged before the lock, and it has passed. -/
theorem closed_now {five : List ℕ} (hlength : recent.length < five.length)
    (hold : ∀ t ∈ old, ∃ u, lockedUntil = some u ∧ t + lockout ≤ u)
    (hrecent : ∀ t ∈ recent, ∀ u, lockedUntil = some u → u ≤ t)
    (hnow : ∀ u, lockedUntil = some u → u ≤ now) (hsuffix : five <:+ old ++ recent)
    (hclose : ∀ x ∈ five, ∀ y ∈ five, y < x + lockout) : ∀ x ∈ five, x + lockout ≤ now := by
  obtain ⟨early, rfl⟩ :=
    List.suffix_of_suffix_length_le (List.suffix_append old recent) hsuffix hlength.le
  have hearly : ∀ x ∈ early, x ∈ old := by
    obtain ⟨rest, hrest⟩ := hsuffix
    rw [← List.append_assoc] at hrest
    have := List.append_cancel_right hrest
    intro x hx
    rw [← this]
    exact List.mem_append_right _ hx
  -- a guess after the lock would be too far from one before it
  have hnil : recent = [] := by
    by_contra hne
    obtain ⟨y, hy⟩ := List.exists_mem_of_ne_nil recent hne
    obtain ⟨x, hx⟩ := List.exists_mem_of_ne_nil early (by rintro rfl; simp at hlength)
    obtain ⟨u, hu, hle⟩ := hold x (hearly x hx)
    have := hrecent y hy u hu
    have := hclose x (List.mem_append_left _ hx) y (List.mem_append_right _ hy)
    omega
  rw [hnil, List.append_nil]
  intro x hx
  obtain ⟨u, hu, hle⟩ := hold x (hearly x hx)
  exact hle.trans (hnow u hu)

/-- One more guess, judged after the lock has passed and with fewer than five since it, keeps the
promise. -/
theorem LockoutHolds.judge (h : LockoutHolds judged) (wrong : Bool)
    (hwrongs : wrongs judged = old ++ recent) (hlength : recent.length < maxFailedAttempts)
    (hold : ∀ t ∈ old, ∃ u, lockedUntil = some u ∧ t + lockout ≤ u)
    (hrecent : ∀ t ∈ recent, ∀ u, lockedUntil = some u → u ≤ t)
    (hnow : ∀ u, lockedUntil = some u → u ≤ now) : LockoutHolds (judged ++ [(now, wrong)]) where
  few since := by
    have hbefore := h.few since
    rw [wrongs_append, List.countP_append]
    cases wrong with
    | false => simpa [wrongs] using hbefore
    | true =>
      by_cases hin : since ≤ now ∧ now < since + lockout
      · -- the guesses before the lock are out of the span
        have hnone : old.countP (fun t => since ≤ t ∧ t < since + lockout) = 0 := by
          rw [List.countP_eq_zero]
          intro t ht
          obtain ⟨u, hu, hle⟩ := hold t ht
          have := hnow u hu
          simp only [decide_eq_true_eq, not_and, not_lt]
          omega
        rw [hwrongs, List.countP_append, hnone]
        have := List.countP_le_length (p := fun t => decide (since ≤ t ∧ t < since + lockout))
          (l := recent)
        simp only [wrongs, List.filterMap_cons, List.filterMap_nil, ↓reduceIte,
          List.countP_singleton]
        split_ifs <;> omega
      · simpa [wrongs, hin] using hbefore
  closed before guess after hsplit five hfive hsuffix hclose := by
    rcases List.eq_nil_or_concat after with rfl | ⟨after, last, rfl⟩
    · obtain ⟨rfl, hguess⟩ := List.append_inj' hsplit rfl
      obtain rfl : (now, wrong) = guess := by simpa using hguess
      rw [hwrongs] at hsuffix
      exact closed_now (hfive ▸ hlength) hold hrecent hnow hsuffix hclose
    · rw [List.concat_eq_append, ← List.cons_append, ← List.append_assoc] at hsplit
      exact h.closed before guess after (List.append_inj' hsplit rfl).1 five hfive hsuffix hclose

end Guess

/-! ### Steps and runs -/

section

variable {ι : Type*} [DecidableEq ι] {k : Crypto} {guesses : ι → Guess} {st st' : Attempts ι}
  {e : AttemptEvent ι} {i : ι}

/-- The copy of an unsaved failure agrees with the row. -/
def Fresh (row : PlatformAdmin) : AttemptState → Prop
  | .failing copy => copy.failedAttempts = row.failedAttempts ∧ copy.lockedUntil = row.lockedUntil
  | _ => True

/-- A guess about to be judged passed the test of the lock, and would pass it now. -/
def Tested (now : Instant) : AttemptState → Prop
  | .judging copy => copy.isLocked now = false
  | _ => True

/-- No code was right. -/
def Unsigned : AttemptState → Prop
  | .passed _ => False
  | _ => True

/-- The invariant of the lockout.  The wrong guesses are those before the last lock and the recent
ones; the counter, with the failure that waits to be saved, counts the recent ones. -/
structure Guarded (st : Attempts ι) : Prop where
  holds : LockoutHolds st.judged
  below : st.row.failedAttempts < maxFailedAttempts
  past : ∀ t ∈ wrongs st.judged, t ≤ st.now
  counted : ∃ old recent, wrongs st.judged = old ++ recent ∧
    recent.length ≤ st.row.failedAttempts + 1 ∧
    ((∀ j, ¬ (st.ctl j).Failing) → recent.length ≤ st.row.failedAttempts) ∧
    (∀ t ∈ old, ∃ u, st.row.lockedUntil = some u ∧ t + lockout ≤ u) ∧
    ∀ t ∈ recent, ∀ u, st.row.lockedUntil = some u → u ≤ t
  sole : ∀ i j, (st.ctl i).Failing → (st.ctl j).Failing → i = j
  fresh : ∀ i, Fresh st.row (st.ctl i)
  tested : ∀ i, Tested st.now (st.ctl i)
  unsigned : ∀ i, Unsigned (st.ctl i)

theorem fresh_of_not_failing {row : PlatformAdmin} {state : AttemptState} (h : ¬ state.Failing) :
    Fresh row state := by
  cases state <;> first | trivial | exact absurd trivial h

theorem ctl_goto_self (st : Attempts ι) (i : ι) (state : AttemptState) :
    (st.goto i state).ctl i = state :=
  Function.update_self _ _ _

theorem ctl_goto_of_ne {state : AttemptState} {j : ι} (h : j ≠ i) :
    (st.goto i state).ctl j = st.ctl j := Function.update_of_ne h _ _

theorem forall_ctl_goto {P : AttemptState → Prop} {state : AttemptState} (hi : P state)
    (h : ∀ j, j ≠ i → P (st.ctl j)) (j : ι) : P ((st.goto i state).ctl j) := by
  by_cases hj : j = i
  · rw [hj, ctl_goto_self]
    exact hi
  · rw [ctl_goto_of_ne hj]
    exact h j hj

namespace Guarded

/-- A request without an unsaved failure goes on to a state that has none either. -/
theorem goto {state : AttemptState} (h : Guarded st) (hi : ¬ (st.ctl i).Failing)
    (hstate : ¬ state.Failing) (htested : Tested st.now state) (hunsigned : Unsigned state) :
    Guarded (st.goto i state) := by
  -- who has an unsaved failure does not change
  have hfailing : ∀ j, ((st.goto i state).ctl j).Failing ↔ (st.ctl j).Failing := by
    intro j
    by_cases hj : j = i
    · rw [hj, ctl_goto_self]
      exact iff_of_false hstate hi
    · rw [ctl_goto_of_ne hj]
  refine ⟨h.holds, h.below, h.past, ?_, ?_, ?_, ?_, ?_⟩
  · obtain ⟨old, recent, hwrongs, hle, hsaved, hold, hrecent⟩ := h.counted
    exact ⟨old, recent, hwrongs, hle, fun hnone => hsaved fun j hj => hnone j ((hfailing j).2 hj),
      hold, hrecent⟩
  · exact fun j j' hj hj' => h.sole j j' ((hfailing j).1 hj) ((hfailing j').1 hj')
  · exact forall_ctl_goto (fresh_of_not_failing hstate) fun j _ => h.fresh j
  · exact forall_ctl_goto htested fun j _ => h.tested j
  · exact forall_ctl_goto hunsigned fun j _ => h.unsigned j

omit [DecidableEq ι] in
/-- Time passes. -/
theorem pass (h : Guarded st) (duration : ℕ) : Guarded { st with now := st.now + duration } where
  holds := h.holds
  below := h.below
  past t ht := (h.past t ht).trans (Nat.le_add_right _ _)
  counted := h.counted
  sole := h.sole
  fresh := h.fresh
  tested i := by
    have htested := h.tested i
    cases hctl : st.ctl i with
    | judging copy =>
      rw [hctl, Tested, ← Bool.not_eq_true, PlatformAdmin.isLocked_iff] at htested
      change copy.isLocked (st.now + duration) = false
      rw [← Bool.not_eq_true, PlatformAdmin.isLocked_iff]
      rintro ⟨u, hu, hlt⟩
      exact htested ⟨u, hu, lt_of_le_of_lt (Nat.le_add_right _ _) hlt⟩
    | _ => trivial
  unsigned := h.unsigned

omit [DecidableEq ι] in
theorem judge_holds {copy : PlatformAdmin} (h : Guarded st) (hctl : st.ctl i = .judging copy)
    (hup : UpToDate st (.run i)) (wrong : Bool) :
    LockoutHolds (st.judged ++ [(st.now, wrong)]) := by
  obtain ⟨old, recent, hwrongs, -, hsaved, hold, hrecent⟩ := h.counted
  simp only [UpToDate, Current, hctl] at hup
  obtain ⟨-, hlock, hnone⟩ := hup
  refine h.holds.judge wrong hwrongs (lt_of_le_of_lt (hsaved hnone) h.below) hold hrecent
    fun u hu => ?_
  by_contra hlt
  have htested := h.tested i
  rw [hctl, Tested, ← Bool.not_eq_true, PlatformAdmin.isLocked_iff] at htested
  exact htested ⟨u, hlock.trans hu, not_le.1 hlt⟩

omit [DecidableEq ι] in
theorem judge_right {copy : PlatformAdmin} {used : UsedCodes} (h : Guarded st)
    (hctl : st.ctl i = .judging copy) (hup : UpToDate st (.run i)) :
    Guarded { st with usedCodes := used, judged := st.judged ++ [(st.now, false)] } where
  holds := h.judge_holds hctl hup false
  below := h.below
  past t ht := by
    rw [wrongs_append] at ht
    exact h.past t (by simpa [wrongs] using ht)
  counted := by
    rw [wrongs_append]
    simpa [wrongs] using h.counted
  sole := h.sole
  fresh := h.fresh
  tested := h.tested
  unsigned := h.unsigned

/-- A wrong guess: the failure waits to be saved. -/
theorem judge_wrong {copy : PlatformAdmin} {used : UsedCodes} (h : Guarded st)
    (hctl : st.ctl i = .judging copy) (hup : UpToDate st (.run i)) :
    Guarded ({ st with usedCodes := used, judged := st.judged ++ [(st.now, true)] }.goto i
      (.failing copy)) := by
  have hholds := h.judge_holds hctl hup true
  obtain ⟨old, recent, hwrongs, -, hsaved, hold, hrecent⟩ := h.counted
  have htested : copy.isLocked st.now = false := by
    have := h.tested i
    rwa [hctl] at this
  simp only [UpToDate, Current, hctl] at hup
  obtain ⟨hcount, hlock, hnone⟩ := hup
  -- the guess counts as recent: its copy was not locked
  have hwrongs' : wrongs (st.judged ++ [(st.now, true)]) = old ++ (recent ++ [st.now]) := by
    rw [wrongs_append, hwrongs]
    simp [wrongs]
  refine ⟨hholds, h.below, ?_, ⟨old, recent ++ [st.now], hwrongs', ?_, ?_, hold, ?_⟩, ?_, ?_, ?_,
    ?_⟩
  · intro t ht
    change t ∈ wrongs (st.judged ++ [(st.now, true)]) at ht
    rw [hwrongs', ← List.append_assoc, ← hwrongs] at ht
    rcases List.mem_append.1 ht with ht | ht
    · exact h.past t ht
    · exact (List.mem_singleton.1 ht).le
  · have := hsaved hnone
    simpa [Attempts.goto] using this
  · intro hfailing
    have := hfailing i
    rw [ctl_goto_self] at this
    exact absurd trivial this
  · intro t ht u hu
    rcases List.mem_append.1 ht with ht | ht
    · exact hrecent t ht u hu
    · rw [List.mem_singleton.1 ht]
      by_contra hlt
      rw [← Bool.not_eq_true, PlatformAdmin.isLocked_iff] at htested
      exact htested ⟨u, hlock.trans hu, not_le.1 hlt⟩
  · intro j j' hj hj'
    have honly : ∀ j, ((Attempts.goto { st with
        usedCodes := used, judged := st.judged ++ [(st.now, true)] } i (.failing copy)).ctl
          j).Failing →
          j = i := by
      intro j hj
      by_contra hji
      rw [ctl_goto_of_ne hji] at hj
      exact hnone j hj
    rw [honly j hj, honly j' hj']
  · exact forall_ctl_goto ⟨hcount, hlock⟩ fun j _ => h.fresh j
  · exact forall_ctl_goto trivial fun j _ => h.tested j
  · exact forall_ctl_goto trivial fun j _ => h.unsigned j

/-- A failure is saved: the counter goes up, or the operator is locked and the count starts
again. -/
theorem save {copy : PlatformAdmin} (h : Guarded st) (hctl : st.ctl i = .failing copy) :
    Guarded ({ st with row := (copy.noteFailure st.now).saveLockout st.row }.goto i
      (.ended .refused)) := by
  obtain ⟨old, recent, hwrongs, hle, -, hold, hrecent⟩ := h.counted
  obtain ⟨hcount, hlock⟩ : copy.failedAttempts = st.row.failedAttempts ∧
      copy.lockedUntil = st.row.lockedUntil := by
    have := h.fresh i
    rwa [hctl] at this
  have hbelow := h.below
  have hothers : ∀ j, j ≠ i → ¬ (st.ctl j).Failing := by
    intro j hj hfailing
    exact hj (h.sole j i hfailing (by rw [hctl]; trivial))
  have hnone : ∀ j, ¬ ((Attempts.goto { st with
      row := (copy.noteFailure st.now).saveLockout st.row } i (.ended .refused)).ctl j).Failing :=
    forall_ctl_goto (P := fun state => ¬ state.Failing) id hothers
  refine ⟨h.holds, ?_, h.past, ?_, fun j _ hj => absurd hj (hnone j), ?_, ?_, ?_⟩
  · change (copy.noteFailure st.now).failedAttempts < maxFailedAttempts
    unfold PlatformAdmin.noteFailure
    split_ifs with hlast
    · exact Nat.succ_pos 4
    · exact not_le.1 hlast
  · change ∃ old recent, _ ∧ _ ≤ (copy.noteFailure st.now).failedAttempts + 1 ∧ (_ → _) ∧
      (∀ t ∈ old, ∃ u, (copy.noteFailure st.now).lockedUntil = some u ∧ _) ∧
      ∀ t ∈ recent, ∀ u, (copy.noteFailure st.now).lockedUntil = some u → _
    -- the fifth failure locks and starts the count again, the others are counted
    unfold PlatformAdmin.noteFailure
    split_ifs with hlast
    · -- every guess so far is before the lock
      refine ⟨wrongs st.judged, [],
        (List.append_nil _).symm, by simp, by simp, fun t ht => ?_, by simp⟩
      exact ⟨st.now + lockout, rfl, Nat.add_le_add_right (h.past t ht) _⟩
    · refine ⟨old, recent, hwrongs, ?_, fun _ => ?_, ?_, ?_⟩
      · change recent.length ≤ copy.failedAttempts + 1 + 1
        rw [hcount]
        exact hle.trans (Nat.le_succ _)
      · change recent.length ≤ copy.failedAttempts + 1
        rw [hcount]
        exact hle
      · rw [hlock]
        exact hold
      · rw [hlock]
        exact hrecent
  · exact fun j => fresh_of_not_failing (hnone j)
  · exact forall_ctl_goto trivial fun j _ => h.tested j
  · exact forall_ctl_goto trivial fun j _ => h.unsigned j

end Guarded

/-- A step that judges on an up-to-date copy, without a sign-in, keeps the invariant. -/
theorem guarded_step (h : Guarded st) (hno : NoSignIn k guesses st e) (hup : UpToDate st e)
    (hstep : (attempts k guesses).step st e st') : Guarded st' := by
  have hstep : attemptStep k guesses st e = some st' := hstep
  cases e with
  | pass duration =>
    obtain rfl := Option.some.inj hstep
    exact h.pass duration
  | run i =>
    cases hctl : st.ctl i <;> simp only [attemptStep, hctl] at hstep
    case start =>
      obtain rfl := Option.some.inj hstep
      split_ifs
      · exact h.goto (by simp [hctl, AttemptState.Failing]) id trivial trivial
      · exact h.goto (by simp [hctl, AttemptState.Failing]) id trivial trivial
    case loaded copy =>
      obtain rfl := Option.some.inj hstep
      split_ifs with hlocked
      · exact h.goto (by simp [hctl, AttemptState.Failing]) id trivial trivial
      · exact h.goto (by simp [hctl, AttemptState.Failing]) id (Bool.eq_false_iff.2 hlocked) trivial
    case judging copy =>
      obtain rfl := Option.some.inj hstep
      cases hright : ((guesses i).judge k copy st.usedCodes st.now).1 with
      | false => exact h.judge_wrong hctl hup
      | true =>
        cases hguess : guesses i with
        | password raw =>
          exact (h.judge_right hctl hup).goto (by simp [hctl, AttemptState.Failing]) id trivial
            trivial
        | code payload typed ip iv =>
          simp only [NoSignIn, rightCode, hctl, hguess] at hno
          rw [hguess, Guess.judge, hno] at hright
          cases hright
    case failing copy =>
      obtain rfl := Option.some.inj hstep
      exact h.save hctl
    case passed copy =>
      -- nobody signs in during the run
      have := h.unsigned i
      rw [hctl] at this
      exact this.elim
    case ended => cases hstep

/-- In a run without a sign-in, in which every guess is judged on an up-to-date copy while no
failure waits to be saved, at most five wrong guesses are judged in any span of fifteen minutes, and
after five within one no guess is judged until it has passed. -/
theorem lockout_holds {row : PlatformAdmin} {now : Instant} {es : List (AttemptEvent ι)}
    (hrow : row.failedAttempts < maxFailedAttempts)
    (h : (attempts k guesses).Run (fun _ st e => NoSignIn k guesses st e ∧ UpToDate st e)
      (Attempts.fresh row now) es st) : LockoutHolds st.judged := by
  have hfresh : Guarded (Attempts.fresh row now : Attempts ι) :=
    { holds := ⟨by simp [Attempts.fresh, wrongs], by simp [Attempts.fresh]⟩
      below := hrow
      past := by simp [Attempts.fresh, wrongs]
      counted := ⟨[], [], by simp [Attempts.fresh, wrongs]⟩
      sole := fun _ _ hi => hi.elim
      fresh := fun _ => trivial
      tested := fun _ => trivial
      unsigned := fun _ => trivial }
  have hguarded := h.invariant (I := fun _ st => Guarded st) hfresh
    fun _ _ _ _ hi hc hstep => guarded_step hi hc.1 hc.2 hstep
  exact hguarded.holds

end

/-- Six requests guess the password of one operator: all load its row, all pass the test, and all
judge before any of them saves. -/
def sixAtOnce : List (AttemptEvent (Fin 6)) :=
  (List.finRange 6).map .run ++ (List.finRange 6).map .run ++ (List.finRange 6).map .run

theorem six_guesses_judged :
    ∃ st, (attempts sampleCrypto fun _ : Fin 6 => .password "guess").Run
        (fun _ st e => NoSignIn sampleCrypto (fun _ => .password "guess") st e)
        (Attempts.fresh freshOperator 0) sixAtOnce st ∧
      wrongs st.judged = List.replicate 6 0 ∧ ¬ LockoutHolds st.judged := by
  have hplay : (System.execAll (attemptStep sampleCrypto fun _ : Fin 6 => .password "guess")
      (fun _ st e => NoSignIn sampleCrypto (fun _ => .password "guess") st e) []
      (Attempts.fresh freshOperator 0) sixAtOnce).map (fun st => wrongs st.judged) =
        some (List.replicate 6 0) := by decide +kernel
  obtain ⟨st, hst, hwrongs⟩ := Option.map_eq_some_iff.1 hplay
  refine ⟨st, System.Run.of_exec hst, hwrongs, fun h => ?_⟩
  have := h.few 0
  rw [hwrongs] at this
  exact absurd this (by decide +kernel)

/-- The same six requests one after the other: the sixth finds the operator locked. -/
def sixInTurn : List (AttemptEvent (Fin 6)) :=
  (List.finRange 6).flatMap fun i => List.replicate (if i = 5 then 2 else 4) (.run i)

theorem lockout_holds_of_sixInTurn :
    ∃ st, (attempts sampleCrypto fun _ : Fin 6 => .password "guess").Run
        (fun _ st e => NoSignIn sampleCrypto (fun _ => .password "guess") st e ∧ UpToDate st e)
        (Attempts.fresh freshOperator 0) sixInTurn st ∧
      wrongs st.judged = List.replicate 5 0 ∧ st.ctl 5 = .ended .locked ∧
        LockoutHolds st.judged := by
  have hplay : (System.execAll (attemptStep sampleCrypto fun _ : Fin 6 => .password "guess")
      (fun _ st e => NoSignIn sampleCrypto (fun _ => .password "guess") st e ∧ UpToDate st e) []
      (Attempts.fresh freshOperator 0) sixInTurn).map (fun st => (wrongs st.judged, st.ctl 5)) =
        some (List.replicate 5 0, .ended .locked) := by decide +kernel
  obtain ⟨st, hst, heq⟩ := Option.map_eq_some_iff.1 hplay
  obtain ⟨hwrongs, hlocked⟩ := Prod.mk.inj heq
  have hrun := System.Run.of_exec hst
  exact ⟨st, hrun, hwrongs, hlocked, lockout_holds (by decide) hrun⟩

end OpenCloud
