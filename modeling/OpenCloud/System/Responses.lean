import OpenCloud.Integrations.ResponseCache
import Mathlib.Data.Fin.VecNotation
import Mathlib.Data.Fintype.Basic
import Mathlib.Tactic.FinCases

/-!
# What the response cache answers

Whatever the calls do side by side, and whatever entries are lost, a list is answered to the token
and path it was fetched with (`cache_never_mixes`).

After a write the writer's lists are dropped by counting the version of its scope up, in two steps.
Two invalidations that overlap a third may set the version back to one that has entries, and a list
from before the write is answered again (`stale_after_write`).  Where no invalidation sets the
version back, a call that starts after an invalidation returned never answers what was fetched
before it began (`never_stale`).

## Main results

* `kept_step` : a step keeps what every entry and every answer was fetched with.
* `ordered_step` : a step that does not set a version back keeps old answers under old versions.
-/

namespace OpenCloud

variable {ι δ : Type} {h : Digest} {calls : ι → CacheCall}

/-! ### The tokens and paths of what is answered -/

/-- No two tokens, and no two paths, of the calls have the same digest. -/
structure CollisionFree (h : Digest) (calls : ι → CacheCall) : Prop where
  tokens : ∀ i j, h.digest (calls i).token = h.digest (calls j).token →
    (calls i).token = (calls j).token
  paths : ∀ {i j path path' token token'}, calls i = .cachedGet path token →
    calls j = .cachedGet path' token' → h.digest path = h.digest path' → path = path'

/-- Every answer in the cache, or on its way, was given to a call for its path and token, and is
under a key of these. -/
structure Kept (h : Digest) (calls : ι → CacheCall) (st : Caching ι δ) : Prop where
  versions : ∀ key n, st.cache key = some (.version n) → ∃ scope, key = versionKey scope
  entries : ∀ key a, st.cache key = some (.answer a) → a ∈ st.asked ∧
    (∃ i, calls i = .cachedGet a.path a.token) ∧
      ∃ version, key = responseKey (h.digest a.token) version (h.digest a.path)
  fetched : ∀ i since version a, st.ctl i = .fetched since version a →
    a ∈ st.asked ∧ calls i = .cachedGet a.path a.token
  returned : ∀ i since value, st.ctl i = .returned since (some value) →
    ∃ a ∈ st.asked, value = .answer a ∧ calls i = .cachedGet a.path a.token

section Kept

variable {st : Caching ι δ} {i : ι}

namespace Kept

theorem put {key : String} {value : Option (Cached δ)} (hk : Kept h calls st)
    (hversion : ∀ n, value = some (.version n) → ∃ scope, key = versionKey scope)
    (hanswer : ∀ a, value = some (.answer a) → a ∈ st.asked ∧
      (∃ i, calls i = .cachedGet a.path a.token) ∧
        ∃ version, key = responseKey (h.digest a.token) version (h.digest a.path)) :
    Kept h calls (st.put key value) := by
  refine ⟨fun key' n hn => ?_, fun key' a ha => ?_, hk.fetched, hk.returned⟩
  · by_cases hkey : key' = key
    · subst hkey
      exact hversion n (Caching.cache_put_self.symm.trans hn)
    · exact hk.versions key' n ((Caching.cache_put_of_ne hkey).symm.trans hn)
  · by_cases hkey : key' = key
    · subst hkey
      exact hanswer a (Caching.cache_put_self.symm.trans ha)
    · exact hk.entries key' a ((Caching.cache_put_of_ne hkey).symm.trans ha)

theorem ask {a : CloudAnswer δ} (hk : Kept h calls st) : Kept h calls (st.ask a) := by
  have hmem : ∀ {b}, b ∈ st.asked → b ∈ (st.ask a).asked := fun hb => List.mem_append_left _ hb
  refine ⟨hk.versions, fun key b hb => ?_, fun j since version b hj => ?_,
    fun j since value hj => ?_⟩
  · obtain ⟨hb, hrest⟩ := hk.entries key b hb
    exact ⟨hmem hb, hrest⟩
  · obtain ⟨hb, hcall⟩ := hk.fetched j since version b hj
    exact ⟨hmem hb, hcall⟩
  · obtain ⟨b, hb, hrest⟩ := hk.returned j since value hj
    exact ⟨b, hmem hb, hrest⟩

/-- What is found under the key of a call was fetched for its path and token. -/
theorem hit (hk : Kept h calls st) (hfree : CollisionFree h calls) {path token : String}
    {version : ℕ} {value : Cached δ} (hcall : calls i = .cachedGet path token)
    (hhit : st.cache (responseKey (h.digest token) version (h.digest path)) = some value) :
    ∃ a ∈ st.asked, value = .answer a ∧ calls i = .cachedGet a.path a.token := by
  cases value with
  | version n =>
    obtain ⟨scope, hkey⟩ := hk.versions _ n hhit
    exact absurd hkey.symm versionKey_ne_responseKey
  | answer a =>
    obtain ⟨ha, ⟨j, hj⟩, version', hkey⟩ := hk.entries _ a hhit
    obtain ⟨htoken, -, hpath⟩ := responseKey_inj hkey
    have htokens := hfree.tokens i j
    rw [hcall, hj] at htokens
    have : token = a.token := htokens htoken
    have : path = a.path := hfree.paths hcall hj hpath
    subst token path
    exact ⟨a, ha, rfl, hcall⟩

variable [DecidableEq ι] {st' : Caching ι δ} {state : CallState δ} {e : CacheEvent ι δ}

theorem goto (hk : Kept h calls st)
    (hfetched : ∀ since version a, state = .fetched since version a →
      a ∈ st.asked ∧ calls i = .cachedGet a.path a.token)
    (hreturned : ∀ since value, state = .returned since (some value) →
      ∃ a ∈ st.asked, value = .answer a ∧ calls i = .cachedGet a.path a.token) :
    Kept h calls (st.goto i state) := by
  refine ⟨hk.versions, hk.entries, fun j since version a hj => ?_, fun j since value hj => ?_⟩
  · by_cases hji : j = i
    · subst hji
      exact hfetched since version a (Caching.ctl_goto_self.symm.trans hj)
    · exact hk.fetched j since version a ((Caching.ctl_goto_of_ne hji).symm.trans hj)
  · by_cases hji : j = i
    · subst hji
      exact hreturned since value (Caching.ctl_goto_self.symm.trans hj)
    · exact hk.returned j since value ((Caching.ctl_goto_of_ne hji).symm.trans hj)

end Kept

variable [DecidableEq ι] {st' : Caching ι δ} {e : CacheEvent ι δ}

/-- A step keeps what every entry and every answer was fetched with. -/
theorem kept_step (hk : Kept h calls st) (hfree : CollisionFree h calls)
    (hstep : (caching h calls).step st e st') : Kept h calls st' := by
  cases cacheStep_cases hstep with
  | drop key =>
    have hput : Kept h calls (st.put key none) := hk.put (by simp) (by simp)
    exact ⟨hput.versions, hput.entries, hput.fetched, hput.returned⟩
  | begin hctl => exact hk.goto (by simp) (by simp)
  | key hcall hctl => exact hk.goto (by simp) (by simp)
  | hit hcall hctl hhit =>
    refine hk.goto (by simp) fun since value hvalue => ?_
    obtain ⟨-, hvalue⟩ := CallState.returned.inj hvalue
    obtain rfl := Option.some.inj hvalue
    exact hk.hit hfree hcall hhit
  | miss hcall hctl => exact hk.goto (by simp) (by simp)
  | refuse hcall hctl => exact hk.goto (by simp) (by simp)
  | empty hcall hctl => exact hk.goto (by simp) (by simp)
  | fetch data hcall hctl =>
    refine hk.ask.goto (fun since version a ha => ?_) (by simp)
    obtain ⟨-, -, rfl⟩ := CallState.fetched.inj ha
    exact ⟨by simp, hcall⟩
  | @store i path token since version a reply hcall hctl =>
    obtain ⟨ha, hcall'⟩ := hk.fetched _ _ _ _ hctl
    obtain ⟨rfl, rfl⟩ := CacheCall.cachedGet.inj (hcall.symm.trans hcall')
    have hput : Kept h calls (st.put (responseKey (h.digest a.token) version (h.digest a.path))
        (some (.answer a))) := by
      refine hk.put (by simp) fun b hb => ?_
      obtain rfl := Cached.answer.inj (Option.some.inj hb)
      exact ⟨ha, ⟨i, hcall⟩, version, rfl⟩
    refine hput.goto (by simp) fun since value hvalue => ?_
    obtain ⟨-, hvalue⟩ := CallState.returned.inj hvalue
    obtain rfl := Option.some.inj hvalue
    exact ⟨a, ha, rfl, hcall⟩
  | count hcall hctl => exact hk.goto (by simp) (by simp)
  | bump hcall hctl =>
    exact Kept.goto (hk.put (fun n _ => ⟨_, rfl⟩) (by simp)) (by simp) (by simp)

end Kept

/-- SHA-256 on four texts, and sixteen zeros elsewhere. -/
def sampleDigest : Digest where
  digest text :=
    if text = "alice" then "2bd806c97f0e00af"
    else if text = "bob" then "81b637d8fcd2c6da"
    else if text = "/api/v2/vms" then "415f185e4e973822"
    else if text = "/api/v2/vpcs" then "61957499224987c3"
    else "0000000000000000"
  length_digest text := by
    split_ifs <;> decide +kernel

/-- In every run, what `_cached_get` returns for a path and token is an answer of the cloud to this
path and token. -/
theorem cache_never_mixes [DecidableEq ι] (h : Digest) (calls : ι → CacheCall)
    (hfree : CollisionFree h calls) {es : List (CacheEvent ι δ)} {st : Caching ι δ}
    (hrun : (caching h calls).Run System.Free .empty es st) :
    ∀ i path token since value, calls i = .cachedGet path token →
      st.ctl i = .returned since (some value) →
        ∃ a ∈ st.asked, value = .answer a ∧ a.path = path ∧ a.token = token := by
  have hkept : Kept h calls st := by
    refine hrun.keeps ?_ fun s e s' hs hstep => kept_step hs hfree hstep
    exact ⟨by simp [Caching.empty], by simp [Caching.empty], by simp [Caching.empty],
      by simp [Caching.empty]⟩
  intro i path token since value hcall hreturned
  obtain ⟨a, ha, hvalue, hcall'⟩ := hkept.returned i since value hreturned
  obtain ⟨rfl, rfl⟩ := CacheCall.cachedGet.inj (hcall.symm.trans hcall')
  exact ⟨a, ha, hvalue, rfl, rfl⟩

/-- Two tokens and two paths, and a write of one of them. -/
def fourCalls : Fin 4 → CacheCall :=
  ![.cachedGet "/api/v2/vms" "alice", .cachedGet "/api/v2/vpcs" "bob",
    .cachedGet "/api/v2/vms" "alice", .invalidate "alice"]

theorem collisionFree_fourCalls : CollisionFree sampleDigest fourCalls where
  tokens := by decide +kernel
  paths {i j path path' token token'} hi hj hpath := by
    have hmem : ∀ k path token, fourCalls k = .cachedGet path token →
        path ∈ ["/api/v2/vms", "/api/v2/vpcs"] := by
      intro k path token hk
      fin_cases k <;> cases hk <;> simp
    have hfree : ∀ p ∈ ["/api/v2/vms", "/api/v2/vpcs"], ∀ p' ∈ ["/api/v2/vms", "/api/v2/vpcs"],
        sampleDigest.digest p = sampleDigest.digest p' → p = p' := by decide +kernel
    exact hfree path (hmem i path token hi) path' (hmem j path' token' hj) hpath

/-- Alice's list is fetched and Bob's is, both under version 0; then Alice is answered from the
cache, and her scope's version goes up. -/
def sideBySide : List (CacheEvent (Fin 4) ℕ) :=
  [0, 0, 0, 1, 1, 1].map (fun i => .run i (.ok none)) ++
    [.run 0 (.ok (some 5)), .run 1 (.ok (some 6))] ++
    [0, 1, 2, 2, 2, 3, 3, 3].map fun i => .run i (.ok none)

theorem cache_never_mixes_side_by_side :
    ∃ st, (caching sampleDigest fourCalls).Run System.Free .empty sideBySide st ∧
      st.ctl 2 = .returned 10 (some (.answer ⟨"/api/v2/vms", "alice", 5, 6⟩)) ∧
      ∃ a ∈ st.asked, Cached.answer ⟨"/api/v2/vms", "alice", 5, 6⟩ = .answer a ∧
        a.path = "/api/v2/vms" ∧ a.token = "alice" := by
  have hplay :
    (System.execAll (cacheStep sampleDigest fourCalls) System.Free [] .empty sideBySide).map
      (fun st => st.ctl 2) =
        some (.returned 10 (some (.answer ⟨"/api/v2/vms", "alice", 5, 6⟩))) := by
    decide +kernel
  obtain ⟨st, hst, hctl⟩ := Option.map_eq_some_iff.1 hplay
  have hrun := System.Run.of_exec hst
  exact ⟨st, hrun, hctl,
    cache_never_mixes sampleDigest fourCalls collisionFree_fourCalls hrun 2 _ _ _ _ rfl hctl⟩

/-! ### Versions that are not set back -/

/-- A version key is never dropped, and no invalidation sets the version of its scope back. -/
def Forward (h : Digest) (calls : ι → CacheCall) (st : Caching ι δ) : CacheEvent ι δ → Prop
  | .drop key => ¬ versionPrefix <+: key.toList
  | .run i _ => match st.ctl i with
    | .counted _ version => scopeVersion st.cache (h.digest (calls i).token) ≤ version + 1
    | _ => True

instance (st : Caching ι δ) : DecidablePred (Forward h calls st) := fun e => by
  cases e with
  | drop key => exact inferInstanceAs (Decidable (¬ _))
  | run i reply =>
    unfold Forward
    dsimp only
    split <;> infer_instance

/-- No call that started after an invalidation of its token returned answers what was fetched before
that invalidation began. -/
def NeverStale (calls : ι → CacheCall) (st : Caching ι δ) : Prop :=
  ∀ i j path token since a began version returnedAt, calls i = .cachedGet path token →
    calls j = .invalidate token → st.ctl i = .returned since (some (.answer a)) →
      st.ctl j = .invalidated began version returnedAt → returnedAt < since → ¬ a.askedAt < began

/-- The version of a call's scope. -/
def Caching.versionOf (h : Digest) (calls : ι → CacheCall) (st : Caching ι δ) (i : ι) : ℕ :=
  scopeVersion st.cache (h.digest (calls i).token)

/-- Where a call stands, in time and against the version of its scope. -/
def InTime (version now : ℕ) : CallState δ → Prop
  | .waiting => True
  | .begun since => since < now
  | .keyed since v | .missed since v => since < now ∧ v ≤ version
  | .fetched since v a => since < a.askedAt ∧ a.askedAt < now ∧ v ≤ version
  | .returned since _ => since < now
  | .raised since => since < now
  | .counted since v => since < now ∧ v ≤ version
  | .invalidated since v returnedAt => since < returnedAt ∧ returnedAt < now ∧ v ≤ version

/-- What was asked before an invalidation began is under a version that it leaves behind. -/
def LeftBehind (askedAt v : ℕ) : CallState δ → Prop
  | .counted began version => askedAt < began → v ≤ version
  | .invalidated began version _ => askedAt < began → v < version
  | _ => True

/-- A call that starts after an invalidation returned looks under its version or a later one. -/
def After : CallState δ → CallState δ → Prop
  | .invalidated _ version returnedAt, .keyed since v
  | .invalidated _ version returnedAt, .missed since v => returnedAt < since → version ≤ v
  | .invalidated began _ returnedAt, .returned since (some (.answer a)) =>
    returnedAt < since → ¬ a.askedAt < began
  | _, _ => True

/-- Old answers are under old versions, and later calls look under later versions. -/
structure Ordered (h : Digest) (calls : ι → CacheCall) (st : Caching ι δ) : Prop where
  inTime : ∀ i, InTime (st.versionOf h calls i) st.now (st.ctl i)
  entries : ∀ token version path a,
    st.cache (responseKey (h.digest token) version (h.digest path)) = some (.answer a) →
      version ≤ scopeVersion st.cache (h.digest token) ∧ a.askedAt < st.now ∧
        ∀ j, h.digest (calls j).token = h.digest token → LeftBehind a.askedAt version (st.ctl j)
  fetched : ∀ i since version a, st.ctl i = .fetched since version a →
    ∀ j, h.digest (calls j).token = h.digest (calls i).token →
      LeftBehind a.askedAt version (st.ctl j)
  after : ∀ i j, h.digest (calls j).token = h.digest (calls i).token → After (st.ctl j) (st.ctl i)

section Ordered

variable {st : Caching ι δ} {i : ι} {state : CallState δ}

theorem InTime.mono {version version' now now' : ℕ} (hin : InTime version now state)
    (hversion : version ≤ version') (hnow : now ≤ now') : InTime version' now' state := by
  cases state <;> simp only [InTime] at hin ⊢ <;> omega

theorem After.self : After state state := by
  cases state <;> trivial

theorem Ordered.put {key : String} {value : Option (Cached δ)} (hf : Ordered h calls st)
    (hversion : ∀ scope, scopeVersion st.cache scope ≤ scopeVersion (st.put key value).cache scope)
    (hanswer : ∀ token version path a, key = responseKey (h.digest token) version (h.digest path) →
      value = some (.answer a) → version ≤ scopeVersion st.cache (h.digest token) ∧
        a.askedAt < st.now ∧
        ∀ j, h.digest (calls j).token = h.digest token → LeftBehind a.askedAt version (st.ctl j)) :
    Ordered h calls (st.put key value) := by
  refine ⟨fun i => (hf.inTime i).mono (hversion _) le_rfl, fun token version path a ha => ?_,
    hf.fetched, hf.after⟩
  have hold : version ≤ scopeVersion st.cache (h.digest token) ∧ a.askedAt < st.now ∧
      ∀ j, h.digest (calls j).token = h.digest token → LeftBehind a.askedAt version (st.ctl j) := by
    by_cases hkey : responseKey (h.digest token) version (h.digest path) = key
    · subst hkey
      exact hanswer token version path a rfl (Caching.cache_put_self.symm.trans ha)
    · exact hf.entries token version path a ((Caching.cache_put_of_ne hkey).symm.trans ha)
  exact ⟨hold.1.trans (hversion _), hold.2⟩

theorem scopeVersion_put_of_ne {key : String} {value : Option (Cached δ)} {scope : String}
    (hkey : versionKey scope ≠ key) :
    scopeVersion (st.put key value).cache scope = scopeVersion st.cache scope := by
  rw [scopeVersion, scopeVersion, Caching.cache_put_of_ne hkey]

theorem Ordered.tick (hf : Ordered h calls st) : Ordered h calls { st with now := st.now + 1 } := by
  refine ⟨fun i => (hf.inTime i).mono le_rfl (Nat.le_succ _), fun token version path a ha => ?_,
    hf.fetched, hf.after⟩
  obtain ⟨hversion, hasked, hleft⟩ := hf.entries token version path a ha
  exact ⟨hversion, hasked.trans (Nat.lt_succ_self _), hleft⟩

theorem Ordered.at (hf : Ordered h calls st) (hctl : st.ctl i = state) :
    InTime (st.versionOf h calls i) st.now state := hctl ▸ hf.inTime i

theorem versionOf_eq {call : CacheCall} (hcall : calls i = call) :
    st.versionOf h calls i = scopeVersion st.cache (h.digest call.token) := by
  rw [Caching.versionOf, hcall]

theorem versionOf_congr {j : ι} (hj : h.digest (calls j).token = h.digest (calls i).token) :
    st.versionOf h calls j = st.versionOf h calls i := by
  rw [Caching.versionOf, hj, Caching.versionOf]

theorem Ordered.invalidated {j : ι} {began version returnedAt : ℕ} (hf : Ordered h calls st)
    (hctl : st.ctl j = .invalidated began version returnedAt) :
    began < returnedAt ∧ returnedAt < st.now ∧ version ≤ st.versionOf h calls j := hf.at hctl

/-- A state that asks nothing of the other calls: no invalidation that counts, no answer on its
way. -/
def Unbinding : CallState δ → Prop
  | .fetched .. => False
  | .counted .. => False
  | .invalidated .. => False
  | _ => True

theorem Unbinding.leftBehind {askedAt v : ℕ} (hstate : Unbinding state) :
    LeftBehind askedAt v state := by
  cases state with
  | counted => exact hstate.elim
  | invalidated => exact hstate.elim
  | _ => trivial

theorem Unbinding.after {state' : CallState δ} (hstate : Unbinding state) : After state state' := by
  cases state with
  | invalidated => exact hstate.elim
  | _ => trivial

variable [DecidableEq ι]

/-- A call goes on to a state that stands rightly to the entries and to the other calls. -/
theorem Ordered.goto (hf : Ordered h calls st)
    (hin : InTime (st.versionOf h calls i) (st.now + 1) state) (hentries : ∀ token version path a,
      st.cache (responseKey (h.digest token) version (h.digest path)) = some (.answer a) →
        h.digest (calls i).token = h.digest token → LeftBehind a.askedAt version state)
    (hothers : ∀ j since version a, st.ctl j = .fetched since version a →
      h.digest (calls i).token = h.digest (calls j).token → LeftBehind a.askedAt version state)
    (hfetched : ∀ since version a, state = .fetched since version a →
      ∀ j, h.digest (calls j).token = h.digest (calls i).token →
        LeftBehind a.askedAt version (st.ctl j))
    (hafter : ∀ j, h.digest (calls j).token = h.digest (calls i).token → After (st.ctl j) state)
    (hbefore : ∀ j, h.digest (calls j).token = h.digest (calls i).token → After state (st.ctl j)) :
    Ordered h calls (st.goto i state) := by
  -- of two calls of one token, either both stay where they are or one of them is `i`
  refine ⟨fun j => ?_, fun token version path a ha => ?_, fun k since version a hk j hj => ?_,
    fun k j hj => ?_⟩
  · by_cases hji : j = i
    · subst hji
      rw [Caching.ctl_goto_self]
      exact hin
    · rw [Caching.ctl_goto_of_ne hji]
      exact (hf.inTime j).mono le_rfl (Nat.le_succ _)
  · obtain ⟨hversion, hasked, hleft⟩ := hf.entries token version path a ha
    refine ⟨hversion, hasked.trans (Nat.lt_succ_self _), fun j hj => ?_⟩
    by_cases hji : j = i
    · subst hji
      rw [Caching.ctl_goto_self]
      exact hentries token version path a ha hj
    · rw [Caching.ctl_goto_of_ne hji]
      exact hleft j hj
  · by_cases hki : k = i
    · subst hki
      rw [Caching.ctl_goto_self] at hk
      by_cases hjk : j = k
      · subst hjk
        rw [Caching.ctl_goto_self, hk]
        trivial
      · rw [Caching.ctl_goto_of_ne hjk]
        exact hfetched since version a hk j hj
    · rw [Caching.ctl_goto_of_ne hki] at hk
      by_cases hji : j = i
      · subst hji
        rw [Caching.ctl_goto_self]
        exact hothers k since version a hk hj
      · rw [Caching.ctl_goto_of_ne hji]
        exact hf.fetched k since version a hk j hj
  · by_cases hki : k = i
    · subst hki
      rw [Caching.ctl_goto_self]
      by_cases hjk : j = k
      · subst hjk
        rw [Caching.ctl_goto_self]
        exact .self
      · rw [Caching.ctl_goto_of_ne hjk]
        exact hafter j hj
    · rw [Caching.ctl_goto_of_ne hki]
      by_cases hji : j = i
      · subst hji
        rw [Caching.ctl_goto_self]
        exact hbefore k hj.symm
      · rw [Caching.ctl_goto_of_ne hji]
        exact hf.after k j hj

theorem Ordered.goto_unbinding (hf : Ordered h calls st) (hstate : Unbinding state)
    (hin : InTime (st.versionOf h calls i) (st.now + 1) state)
    (hafter : ∀ j, h.digest (calls j).token = h.digest (calls i).token → After (st.ctl j) state) :
    Ordered h calls (st.goto i state) := by
  refine hf.goto hin (fun _ _ _ _ _ _ => hstate.leftBehind)
    (fun _ _ _ _ _ _ => hstate.leftBehind) ?_
    hafter fun _ _ => hstate.after
  rintro since version a rfl
  exact hstate.elim

/-- The invalidations that have begun did so before an answer fetched now. -/
theorem Ordered.fetch {path token : String} {since version : ℕ} {data : δ} (hf : Ordered h calls st)
    (hctl : st.ctl i = .missed since version) :
    Ordered h calls ((st.ask ⟨path, token, data, st.now⟩).goto i
      (.fetched since version ⟨path, token, data, st.now⟩)) := by
  have hin : since < st.now ∧ version ≤ st.versionOf h calls i := hf.at hctl
  have hask : Ordered h calls (st.ask ⟨path, token, data, st.now⟩) :=
    ⟨hf.inTime, hf.entries, hf.fetched, hf.after⟩
  refine hask.goto ⟨hin.1, Nat.lt_succ_self _, hin.2⟩ (fun _ _ _ _ _ _ => trivial)
    (fun _ _ _ _ _ _ => trivial) (fun since' version' a ha j hj => ?_)
    (fun j _ => by cases (st.ask _).ctl j <;> exact trivial)
      (fun j _ => by cases (st.ask _).ctl j <;> exact trivial)
  obtain ⟨-, -, rfl⟩ := CallState.fetched.inj ha
  have hinj := hf.inTime j
  show LeftBehind st.now version' (st.ctl j)
  cases hctlj : st.ctl j with
  | counted began version =>
    rw [hctlj] at hinj
    exact fun hlt => absurd (hlt.trans hinj.1) (lt_irrefl _)
  | invalidated began version returnedAt =>
    rw [hctlj] at hinj
    exact fun hlt => absurd (hlt.trans (hinj.1.trans hinj.2.1)) (lt_irrefl _)
  | _ => trivial

/-- An answer is kept under the version it was fetched for. -/
theorem Ordered.store {path token : String} {since version : ℕ} {a : CloudAnswer δ}
    (hf : Ordered h calls st) (hcall : calls i = .cachedGet path token)
    (hctl : st.ctl i = .fetched since version a) :
    Ordered h calls
      ((st.put (responseKey (h.digest token) version (h.digest path)) (some (.answer a))).goto i
      (.returned since (some (.answer a)))) := by
  obtain ⟨hsince, hasked, hversion⟩ : since < a.askedAt ∧ a.askedAt < st.now ∧
      version ≤ st.versionOf h calls i := hf.at hctl
  have hscope : st.versionOf h calls i = scopeVersion st.cache (h.digest token) :=
    versionOf_eq hcall
  have hput : Ordered h calls (st.put (responseKey (h.digest token) version (h.digest path))
      (some (.answer a))) := by
    refine hf.put (fun scope => (scopeVersion_put_of_ne versionKey_ne_responseKey).ge)
      fun token' version' path' b hkey hb => ?_
    obtain ⟨htoken, rfl, -⟩ := responseKey_inj hkey
    obtain rfl := Cached.answer.inj (Option.some.inj hb)
    rw [← htoken, ← hscope]
    refine ⟨hversion, hasked, fun j hj => hf.fetched i since version a hctl j ?_⟩
    rw [hj, hcall, CacheCall.token]
  refine hput.goto_unbinding trivial ((hsince.trans hasked).trans (Nat.lt_succ_self _)) fun j _ =>
    ?_
  rw [Caching.ctl_put]
  cases hctlj : st.ctl j with
  | invalidated began version returnedAt =>
    -- the call began before it asked
    have hbefore := (hf.invalidated hctlj).1
    intro hreturned
    omega
  | _ => trivial

theorem Ordered.count {token : String} {since : ℕ} (hf : Ordered h calls st)
    (hcall : calls i = .invalidate token) (hctl : st.ctl i = .begun since) :
    Ordered h calls (st.goto i (.counted since (scopeVersion st.cache (h.digest token)))) := by
  have hsince : since < st.now := hf.at hctl
  have hversion : st.versionOf h calls i = scopeVersion st.cache (h.digest token) :=
    versionOf_eq hcall
  refine hf.goto ⟨hsince.trans (Nat.lt_succ_self _), hversion.ge⟩
    (fun token' version path a ha hi _ => ?_)
    (fun j since' version a hj hi _ => ?_) (by simp)
      (fun j _ => by cases st.ctl j <;> exact trivial)
    (fun j _ => by cases st.ctl j <;> exact trivial)
  · rw [hcall, CacheCall.token] at hi
    rw [hi]
    exact (hf.entries token' version path a ha).1
  · have hinj := hf.inTime j
    rw [hj] at hinj
    exact (hinj.2.2.trans (versionOf_congr hi).ge).trans hversion.le

/-- An invalidation that does not set the version back leaves all older answers behind. -/
theorem Ordered.bump {token : String} {since version : ℕ} (hf : Ordered h calls st)
    (hcall : calls i = .invalidate token) (hctl : st.ctl i = .counted since version)
    (hstored : scopeVersion st.cache (h.digest token) ≤ version + 1) :
    Ordered h calls ((st.put (versionKey (h.digest token)) (some (.version (version + 1)))).goto i
      (.invalidated since (version + 1) st.now)) := by
  -- first the version is put, then the call goes on
  have hsince : since < st.now := (hf.at hctl).1
  have hnew :
    scopeVersion (st.put (versionKey (h.digest token)) (some (.version (version + 1)))).cache
      (h.digest token) = version + 1 := by
    rw [scopeVersion, Caching.cache_put_self]
  have hput :
    Ordered h calls (st.put (versionKey (h.digest token)) (some (.version (version + 1)))) := by
    refine hf.put (fun scope => ?_) (by simp)
    by_cases hscope : scope = h.digest token
    · subst hscope
      rw [hnew]
      exact hstored
    · exact (scopeVersion_put_of_ne fun heq => hscope (versionKey_inj heq)).ge
  refine hput.goto ⟨hsince, Nat.lt_succ_self _, ?_⟩ (fun token' version' path a ha hi => ?_)
    (fun j since' version' a hj hi => ?_) (by simp) (fun j _ => by
      rw [Caching.ctl_put]
      cases st.ctl j <;> exact trivial) (fun j _ => ?_)
  · rw [versionOf_eq hcall, CacheCall.token, hnew]
  · have hleft := (hput.entries token' version' path a ha).2.2 i hi
    rw [Caching.ctl_put, hctl] at hleft
    exact fun hasked => Nat.lt_succ_of_le (hleft hasked)
  · have hleft := hput.fetched j since' version' a hj i hi
    rw [Caching.ctl_put, hctl] at hleft
    exact fun hasked => Nat.lt_succ_of_le (hleft hasked)
  · -- every call has started before this invalidation returns
    have hinj := hf.inTime j
    rw [Caching.ctl_put]
    cases hctlj : st.ctl j with
    | keyed since' v =>
      rw [hctlj] at hinj
      exact fun hlt => absurd (hlt.trans hinj.1) (lt_irrefl _)
    | missed since' v =>
      rw [hctlj] at hinj
      exact fun hlt => absurd (hlt.trans hinj.1) (lt_irrefl _)
    | returned since' value =>
      rw [hctlj] at hinj
      cases value with
      | none => trivial
      | some value =>
        cases value with
        | version n => trivial
        | answer a => exact fun hlt => absurd (hlt.trans hinj) (lt_irrefl _)
    | _ => trivial

variable {st' : Caching ι δ} {e : CacheEvent ι δ}

/-- A step that does not set a version back keeps old answers under old versions. -/
theorem ordered_step (hf : Ordered h calls st) (hforward : Forward h calls st e)
    (hstep : (caching h calls).step st e st') : Ordered h calls st' := by
  cases cacheStep_cases hstep with
  | drop key =>
    have hkey : ∀ scope, versionKey scope ≠ key := by
      rintro scope rfl
      exact hforward prefix_versionKey
    exact (hf.put (fun scope => (scopeVersion_put_of_ne (hkey scope)).ge) (by simp)).tick
  | @begin i reply hctl =>
    exact hf.goto_unbinding trivial (Nat.lt_succ_self _) fun j _ => by
      cases st.ctl j <;> exact trivial
  | @key i path token since reply hcall hctl =>
    have hsince : since < st.now := hf.at hctl
    have hversion : st.versionOf h calls i = scopeVersion st.cache (h.digest token) :=
      versionOf_eq hcall
    refine hf.goto_unbinding trivial ⟨hsince.trans (Nat.lt_succ_self _), hversion.ge⟩ fun j hj => ?_
    cases hctlj : st.ctl j with
    | invalidated began v returnedAt =>
      intro _
      exact ((hf.invalidated hctlj).2.2.trans (versionOf_congr hj).le).trans hversion.le
    | _ => trivial
  | @hit i path token since version value reply hcall hctl hhit =>
    have hsince : since < st.now := (hf.at hctl).1
    refine hf.goto_unbinding trivial (hsince.trans (Nat.lt_succ_self _)) fun j hj => ?_
    cases value with
    | version n => cases st.ctl j <;> exact trivial
    | answer a =>
      -- what was asked before the invalidation is under a version before its own
      have hleft :=
        (hf.entries token version path a hhit).2.2 j (by rw [hj, hcall, CacheCall.token])
      have hafter := hf.after i j hj
      rw [hctl] at hafter
      cases hctlj : st.ctl j with
      | invalidated began v returnedAt =>
        rw [hctlj] at hleft hafter
        intro hreturned hasked
        have := hafter hreturned
        have := hleft hasked
        omega
      | _ => trivial
  | @miss i path token since version reply hcall hctl =>
    have hin : since < st.now ∧ version ≤ st.versionOf h calls i := hf.at hctl
    refine hf.goto_unbinding trivial ⟨hin.1.trans (Nat.lt_succ_self _), hin.2⟩ fun j hj => ?_
    have hafter := hf.after i j hj
    rw [hctl] at hafter
    cases hctlj : st.ctl j with
    | invalidated began v returnedAt =>
      rw [hctlj] at hafter
      exact hafter
    | _ => trivial
  | @refuse i path token since version reply hcall hctl =>
    have hsince : since < st.now := (hf.at hctl).1
    exact hf.goto_unbinding trivial (hsince.trans (Nat.lt_succ_self _)) fun j _ => by
      cases st.ctl j <;> exact trivial
  | @empty i path token since version reply hcall hctl =>
    have hsince : since < st.now := (hf.at hctl).1
    exact hf.goto_unbinding trivial (hsince.trans (Nat.lt_succ_self _)) fun j _ => by
      cases st.ctl j <;> exact trivial
  | @fetch i path token since version reply data hcall hctl => exact hf.fetch hctl
  | @store i path token since version a reply hcall hctl => exact hf.store hcall hctl
  | @count i token since reply hcall hctl => exact hf.count hcall hctl
  | @bump i token since version reply hcall hctl =>
    exact hf.bump hcall hctl (by simpa [Forward, hctl, hcall, CacheCall.token] using hforward)

/-- In a run in which no invalidation sets a version back, no call that started after an
invalidation of its token returned answers what was fetched before that invalidation began. -/
theorem never_stale {es : List (CacheEvent ι δ)} {st : Caching ι δ}
    (hrun : (caching h calls).Run (fun _ st e => Forward h calls st e) .empty es st) :
    NeverStale calls st := by
  have hempty : Ordered h calls (.empty : Caching ι δ) :=
    { inTime := fun _ => trivial
      entries := by simp [Caching.empty]
      fetched := by simp [Caching.empty]
      after := fun _ _ _ => trivial }
  have hordered := hrun.invariant (I := fun _ st => Ordered h calls st) hempty
    fun _ _ _ _ hi hc hstep => ordered_step hi hc hstep
  intro i j path token since a began version returnedAt hi hj hreturned hinvalidated
  have hafter := hordered.after i j (by rw [hi, hj, CacheCall.token, CacheCall.token])
  rw [hreturned, hinvalidated] at hafter
  exact hafter

end Ordered

/-- Three writes and two readings of Alice's. -/
def fiveCalls : Fin 5 → CacheCall :=
  ![.invalidate "alice", .invalidate "alice", .cachedGet "/api/v2/vms" "alice", .invalidate "alice",
    .cachedGet "/api/v2/vms" "alice"]

/-- The first two invalidations count the version 0 and the second sets it to 1; a reading fetches
the list and keeps it under this version; the third invalidation sets it to 2 and returns; then the
first sets it back to 1, where the last reading looks. -/
def setBack : List (CacheEvent (Fin 5) ℕ) :=
  [0, 0, 1, 1, 1, 2, 2, 2].map (fun i => .run i (.ok none)) ++ [.run 2 (.ok (some 5))] ++
    [2, 3, 3, 3, 0, 4, 4, 4].map fun i => .run i (.ok none)

theorem stale_after_write :
    ∃ st, (caching sampleDigest fiveCalls).Run System.Free .empty setBack st ∧
      (∀ i, (fiveCalls i).token = "alice") ∧
      (∀ key, CacheEvent.drop key ∉ setBack) ∧ ¬ NeverStale fiveCalls st := by
  have hplay : (System.execAll (cacheStep sampleDigest fiveCalls) System.Free [] .empty setBack).map
      (fun st => (st.ctl 3, st.ctl 4)) = some (.invalidated 10 2 12,
        .returned 14 (some (.answer ⟨"/api/v2/vms", "alice", 5, 8⟩))) := by decide +kernel
  obtain ⟨st, hst, hctl⟩ := Option.map_eq_some_iff.1 hplay
  obtain ⟨hinvalidated, hreturned⟩ := Prod.mk.inj hctl
  refine ⟨st, System.Run.of_exec hst, by decide, by simp [setBack], fun hnever => ?_⟩
  exact hnever 4 3 _ _ _ _ _ _ _ rfl rfl hreturned hinvalidated (by decide) (by decide)

/-- The same calls with the first invalidation ended before the second begins. -/
def inTurn : List (CacheEvent (Fin 5) ℕ) :=
  [0, 0, 0, 1, 1, 1, 2, 2, 2].map (fun i => .run i (.ok none)) ++ [.run 2 (.ok (some 5))] ++
    [2, 3, 3, 3, 4, 4, 4].map (fun i => .run i (.ok none)) ++
    [.run 4 (.ok (some 6)), .run 4 (.ok none)]

theorem never_stale_in_turn :
    ∃ st, (caching sampleDigest fiveCalls).Run
      (fun _ st e => Forward sampleDigest fiveCalls st e) .empty
        inTurn st ∧
      st.ctl 4 = .returned 14 (some (.answer ⟨"/api/v2/vms", "alice", 6, 17⟩)) ∧
      NeverStale fiveCalls st := by
  have hplay : (System.execAll (cacheStep sampleDigest fiveCalls)
      (fun _ st e => Forward sampleDigest fiveCalls st e) [] .empty inTurn).map
        (fun st => st.ctl 4) =
        some (.returned 14 (some (.answer ⟨"/api/v2/vms", "alice", 6, 17⟩))) := by decide +kernel
  obtain ⟨st, hst, hctl⟩ := Option.map_eq_some_iff.1 hplay
  have hrun := System.Run.of_exec hst
  exact ⟨st, hrun, hctl, never_stale hrun⟩

end OpenCloud
