import OpenCloud.Lib.Numerals
import OpenCloud.Lib.Runs
import OpenCloud.Integrations.Resources
import Mathlib.Data.List.Infix
import Mathlib.Logic.Function.Basic

/-!
# The read-through cache of the lists

A list of the cloud is kept under a key made of the token, the version of the token's scope, and the
path. `invalidate` drops a scope by counting its version up: it reads the version and then sets it.
Calls of `_cached_get` and `invalidate` run side by side, and each is a few steps on the shared
cache; an entry may expire, or be dropped, between any two of them.

Tokens and paths enter a key by sixteen digits of their SHA-256, which the model takes as a
parameter.  An answer of the cloud carries what it was asked with and when, which no step looks at.

## Main results

* `responseKey_inj` : a key determines the digests and the version it was made of.
* `cacheStep_cases` : what one step does.
-/

namespace OpenCloud

/-- `hashlib.sha256(text.encode()).hexdigest()[:16]`. -/
structure Digest where
  digest : String → String
  length_digest : ∀ text, (digest text).length = 16

/-- What the key of a list begins with. -/
def responsePrefix : List Char := "zadara:resp:".toList

/-- The key of a list, of the ids of its token and its path. -/
def responseKey (scope : String) (version : ℕ) (pathId : String) : String :=
  String.ofList (responsePrefix ++
    (scope.toList ++ ':' :: (numeral version ++ ':' :: pathId.toList)))

/-- What the key of a version begins with. -/
def versionPrefix : List Char := "zadara:ver:".toList

/-- The key of a scope's version. -/
def versionKey (scope : String) : String := String.ofList (versionPrefix ++ scope.toList)

/-- An answer of the cloud: the body, what it was asked with, and when. -/
structure CloudAnswer (δ : Type) where
  path : String
  token : String
  data : δ
  askedAt : ℕ
  deriving DecidableEq

/-- A value of the cache. -/
inductive Cached (δ : Type) where
  | version (n : ℕ)
  | answer (a : CloudAnswer δ)
  deriving DecidableEq

/-- `_scope_version`: the version of a scope, zero where there is none. -/
def scopeVersion {δ : Type} (cache : String → Option (Cached δ)) (scope : String) : ℕ :=
  match cache (versionKey scope) with
  | some (.version n) => n
  | _ => 0

/-- A call. -/
inductive CacheCall where
  | cachedGet (path token : String)
  | invalidate (token : String)
  deriving DecidableEq

/-- The token of a call. -/
def CacheCall.token : CacheCall → String
  | cachedGet _ token => token
  | invalidate token => token

/-- Where a call stands; `since` is the moment it began. -/
inductive CallState (δ : Type) where
  | waiting
  | begun (since : ℕ)
  /-- `_cached_get` knows its key. -/
  | keyed (since version : ℕ)
  /-- Nothing is under the key. -/
  | missed (since version : ℕ)
  /-- The cloud has answered, and the answer is not stored yet. -/
  | fetched (since version : ℕ) (a : CloudAnswer δ)
  | returned (since : ℕ) (value : Option (Cached δ))
  /-- The cloud has refused. -/
  | raised (since : ℕ)
  /-- `invalidate` has read the version. -/
  | counted (since version : ℕ)
  /-- `invalidate` has set the version, and returned. -/
  | invalidated (since version returnedAt : ℕ)
  deriving DecidableEq

/-- The cache, where each call stands, and what the cloud has answered so far. -/
structure Caching (ι δ : Type) where
  cache : String → Option (Cached δ)
  ctl : ι → CallState δ
  now : ℕ
  asked : List (CloudAnswer δ)

/-- A call takes a step, the cloud answering if it asks; or an entry is gone. -/
inductive CacheEvent (ι δ : Type) where
  | run (i : ι) (reply : Except ZadaraError (Option δ))
  | drop (key : String)

section

variable {ι δ : Type}

namespace Caching

/-- Write an entry. -/
def put (st : Caching ι δ) (key : String) (value : Option (Cached δ)) : Caching ι δ :=
  { st with cache := Function.update st.cache key value }

/-- Note an answer of the cloud. -/
def ask (st : Caching ι δ) (a : CloudAnswer δ) : Caching ι δ := { st with asked := st.asked ++ [a] }

section

variable {st : Caching ι δ} {key key' : String} {value : Option (Cached δ)} {a : CloudAnswer δ}

@[simp] theorem ctl_put : (st.put key value).ctl = st.ctl := rfl

@[simp] theorem now_put : (st.put key value).now = st.now := rfl

@[simp] theorem asked_put : (st.put key value).asked = st.asked := rfl

@[simp] theorem cache_put_self : (st.put key value).cache key = value := Function.update_self ..

theorem cache_put_of_ne (hne : key' ≠ key) : (st.put key value).cache key' = st.cache key' :=
  Function.update_of_ne hne ..

@[simp] theorem ctl_ask : (st.ask a).ctl = st.ctl := rfl

@[simp] theorem now_ask : (st.ask a).now = st.now := rfl

@[simp] theorem cache_ask : (st.ask a).cache = st.cache := rfl

@[simp] theorem asked_ask : (st.ask a).asked = st.asked ++ [a] := rfl

end

variable [DecidableEq ι] {st : Caching ι δ} {i j : ι} {state : CallState δ}

/-- The call goes on, and time passes. -/
def goto (st : Caching ι δ) (i : ι) (state : CallState δ) : Caching ι δ :=
  { st with ctl := Function.update st.ctl i state, now := st.now + 1 }

@[simp] theorem ctl_goto_self : (st.goto i state).ctl i = state := Function.update_self ..

theorem ctl_goto_of_ne (hne : j ≠ i) : (st.goto i state).ctl j = st.ctl j :=
  Function.update_of_ne hne ..

@[simp] theorem cache_goto : (st.goto i state).cache = st.cache := rfl

@[simp] theorem now_goto : (st.goto i state).now = st.now + 1 := rfl

@[simp] theorem asked_goto : (st.goto i state).asked = st.asked := rfl

end Caching

variable [DecidableEq ι]

/-- One step; none where the call has ended. -/
def cacheStep (h : Digest) (calls : ι → CacheCall) (st : Caching ι δ) :
    CacheEvent ι δ → Option (Caching ι δ)
  | .drop key => some { st.put key none with now := st.now + 1 }
  | .run i reply =>
    match calls i, st.ctl i with
    | _, .waiting => some (st.goto i (.begun st.now))
    | .cachedGet _ token, .begun since =>
      some (st.goto i (.keyed since (scopeVersion st.cache (h.digest token))))
    | .cachedGet path token, .keyed since version =>
      match st.cache (responseKey (h.digest token) version (h.digest path)) with
      | some hit => some (st.goto i (.returned since (some hit)))
      | none => some (st.goto i (.missed since version))
    | .cachedGet path token, .missed since version =>
      match reply with
      | .error _ => some (st.goto i (.raised since))
      | .ok none => some (st.goto i (.returned since none))
      | .ok (some data) =>
        let a := ⟨path, token, data, st.now⟩
        some ((st.ask a).goto i (.fetched since version a))
    | .cachedGet path token, .fetched since version a =>
      some ((st.put (responseKey (h.digest token) version (h.digest path)) (some (.answer a))).goto
        i
        (.returned since (some (.answer a))))
    | .invalidate token, .begun since =>
      some (st.goto i (.counted since (scopeVersion st.cache (h.digest token))))
    | .invalidate token, .counted since version =>
      some ((st.put (versionKey (h.digest token)) (some (.version (version + 1)))).goto i
        (.invalidated since (version + 1) st.now))
    | _, _ => none

/-- The calls side by side. -/
def caching (h : Digest) (calls : ι → CacheCall) : System (Caching ι δ) (CacheEvent ι δ) :=
  System.ofExec (cacheStep h calls)

/-- Before the first call, with nothing in the cache. -/
def Caching.empty : Caching ι δ := ⟨fun _ => none, fun _ => .waiting, 0, []⟩

/-! ### Keys -/

variable {h : Digest} {t t' p p' : String} {v v' : ℕ}

/-- A key determines the digests and the version it was made of. -/
theorem responseKey_inj
    (hkey : responseKey (h.digest t) v (h.digest p) = responseKey (h.digest t') v' (h.digest p')) :
    h.digest t = h.digest t' ∧ v = v' ∧ h.digest p = h.digest p' := by
  have hlist : (h.digest t).toList ++ ':' :: (numeral v ++ ':' :: (h.digest p).toList) =
      (h.digest t').toList ++ ':' :: (numeral v' ++ ':' :: (h.digest p').toList) :=
    List.append_cancel_left (String.ofList_inj.1 hkey)
  have hlength : (h.digest t).toList.length = (h.digest t').toList.length := by
    rw [String.length_toList, String.length_toList, h.length_digest, h.length_digest]
  obtain ⟨hscope, hrest⟩ := List.append_inj hlist hlength
  obtain ⟨hversion, hpath⟩ := split_at_separator (by decide) (fun _ => isDigit_of_mem_numeral)
    (fun _ => isDigit_of_mem_numeral) (List.cons.inj hrest).2
  exact ⟨String.toList_inj.1 hscope, numeral_inj hversion, String.toList_inj.1 hpath⟩

theorem not_prefix_responseKey {scope pathId : String} :
    ¬ versionPrefix <+: (responseKey scope v pathId).toList := by
  rintro ⟨rest, hrest⟩
  rw [responseKey, String.toList_ofList] at hrest
  have hlong : 8 ≤ versionPrefix.length := by decide +kernel
  have hlong' : 8 ≤ responsePrefix.length := by decide +kernel
  have htake := congrArg (List.take 8) hrest
  rw [List.take_append_of_le_length hlong, List.take_append_of_le_length hlong'] at htake
  exact absurd htake (by decide +kernel)

theorem prefix_versionKey {scope : String} : versionPrefix <+: (versionKey scope).toList := by
  rw [versionKey, String.toList_ofList]
  exact List.prefix_append _ _

theorem versionKey_ne_responseKey {scope scope' pathId : String} :
    versionKey scope ≠ responseKey scope' v pathId := by
  intro heq
  exact not_prefix_responseKey (heq ▸ prefix_versionKey)

theorem versionKey_inj {scope scope' : String} (heq : versionKey scope = versionKey scope') :
    scope = scope' :=
  String.toList_inj.1 (List.append_cancel_left (String.ofList_inj.1 heq))

-- keys are compared by the lemmas above, never by spelling them out
attribute [irreducible] versionKey responseKey

/-! ### What one step does -/

/-- The steps, one constructor for each. -/
inductive CacheStep (h : Digest) (calls : ι → CacheCall) (st : Caching ι δ) :
    CacheEvent ι δ → Caching ι δ → Prop
  | drop (key : String) :
    CacheStep h calls st (.drop key) { st.put key none with now := st.now + 1 }
  | begin {i : ι} {reply} : st.ctl i = .waiting →
    CacheStep h calls st (.run i reply) (st.goto i (.begun st.now))
  | key {i : ι} {path token since reply} : calls i = .cachedGet path token →
    st.ctl i = .begun since →
      CacheStep h calls st (.run i reply)
        (st.goto i (.keyed since (scopeVersion st.cache (h.digest token))))
  | hit {i : ι} {path token since version value reply} : calls i = .cachedGet path token →
      st.ctl i = .keyed since version →
      st.cache (responseKey (h.digest token) version (h.digest path)) = some value →
      CacheStep h calls st (.run i reply) (st.goto i (.returned since (some value)))
  | miss {i : ι} {path token since version reply} : calls i = .cachedGet path token →
      st.ctl i = .keyed since version →
        CacheStep h calls st (.run i reply) (st.goto i (.missed since version))
  | refuse {i : ι} {path token since version reply} : calls i = .cachedGet path token →
      st.ctl i = .missed since version →
        CacheStep h calls st (.run i reply) (st.goto i (.raised since))
  | empty {i : ι} {path token since version reply} : calls i = .cachedGet path token →
      st.ctl i = .missed since version →
        CacheStep h calls st (.run i reply) (st.goto i (.returned since none))
  | fetch {i : ι} {path token since version reply} (data : δ) : calls i = .cachedGet path token →
      st.ctl i = .missed since version →
      CacheStep h calls st (.run i reply)
        ((st.ask ⟨path, token, data, st.now⟩).goto i
          (.fetched since version ⟨path, token, data, st.now⟩))
  | store {i : ι} {path token since version a reply} : calls i = .cachedGet path token →
      st.ctl i = .fetched since version a →
      CacheStep h calls st (.run i reply)
        ((st.put (responseKey (h.digest token) version (h.digest path)) (some (.answer a))).goto i
          (.returned since (some (.answer a))))
  | count {i : ι} {token since reply} : calls i = .invalidate token → st.ctl i = .begun since →
      CacheStep h calls st (.run i reply)
        (st.goto i (.counted since (scopeVersion st.cache (h.digest token))))
  | bump {i : ι} {token since version reply} : calls i = .invalidate token →
      st.ctl i = .counted since version →
      CacheStep h calls st (.run i reply)
        ((st.put (versionKey (h.digest token)) (some (.version (version + 1)))).goto i
          (.invalidated since (version + 1) st.now))

/-- A step is one of these. -/
theorem cacheStep_cases {calls : ι → CacheCall} {st st' : Caching ι δ} {e : CacheEvent ι δ}
    (hstep : (caching h calls).step st e st') : CacheStep h calls st e st' := by
  replace hstep : cacheStep h calls st e = some st' := hstep
  cases e with
  | drop key =>
    obtain rfl := Option.some.inj hstep
    exact .drop key
  | run i reply =>
    cases hctl : st.ctl i <;> cases hcall : calls i <;> simp only [cacheStep, hctl, hcall] at hstep
    case waiting.cachedGet | waiting.invalidate =>
      obtain rfl := Option.some.inj hstep
      exact .begin hctl
    case begun.cachedGet =>
      obtain rfl := Option.some.inj hstep
      exact .key hcall hctl
    case begun.invalidate =>
      obtain rfl := Option.some.inj hstep
      exact .count hcall hctl
    case keyed.cachedGet =>
      split at hstep <;> obtain rfl := Option.some.inj hstep
      · rename_i hit hhit
        exact .hit hcall hctl hhit
      · exact .miss hcall hctl
    case missed.cachedGet =>
      split at hstep <;> obtain rfl := Option.some.inj hstep
      · exact .refuse hcall hctl
      · exact .empty hcall hctl
      · exact .fetch _ hcall hctl
    case fetched.cachedGet =>
      obtain rfl := Option.some.inj hstep
      exact .store hcall hctl
    case counted.invalidate =>
      obtain rfl := Option.some.inj hstep
      exact .bump hcall hctl
    all_goals cases hstep

end

end OpenCloud
