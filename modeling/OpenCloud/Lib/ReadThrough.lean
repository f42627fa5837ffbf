import Mathlib.Data.Set.Function
import Mathlib.Logic.Function.Basic
import OpenCloud.Lib.Caches
import OpenCloud.Lib.Histories

/-!
# Reading through a cache

Readers look a request up under its key; one that finds nothing reads the source, and stores what it
has read for a time.  The source changes as it likes, and between the two a reader may be overtaken
by others.  An entry may be dropped at any time; to *forget* a request is to drop its entry on
purpose.

An answer carries the request and the moment it was read for, which no step looks at.

## Main results

* `ReadThrough.answer_of_run` : what is answered to a request, the source held for it at some
  moment, not longer ago than entries live and readers take to store them.
* `ReadThrough.forget_iff` : after a request was forgotten nothing from before a moment is answered
  to it any more, exactly if no reader holds such an answer that it has not stored.
-/

namespace OpenCloud

/-- What was read from the source: for which request, and when. -/
structure SourceAnswer (ρ ν : Type*) where
  request : ρ
  value : ν
  readAt : ℕ
  deriving DecidableEq

/-- Where a reader is; `since` is when it looked into the cache. -/
inductive Reader (ρ ν : Type*) where
  | idle
  | missed (since : ℕ) (request : ρ)
  /-- It has read the source, and not stored the answer yet. -/
  | fetched (since : ℕ) (answer : SourceAnswer ρ ν)
  | returned (since : ℕ) (request : ρ) (answer : Option (SourceAnswer ρ ν))
  /-- The source has refused. -/
  | raised

/-- A reader that may begin. -/
def Reader.free {ρ ν : Type*} : Reader ρ ν → Bool
  | idle | returned _ _ _ | raised => true
  | missed _ _ | fetched _ _ => false

/-- What a reader has returned: since when, for which request, and the answer. -/
def Reader.shown {ρ ν : Type*} : Reader ρ ν → Option (ℕ × ρ × SourceAnswer ρ ν)
  | returned since request answer => answer.map fun a => (since, request, a)
  | _ => none

theorem Reader.shown_eq_some {ρ ν : Type*} {reader : Reader ρ ν} {since : ℕ} {request : ρ}
    {answer : SourceAnswer ρ ν} :
    reader.shown = some (since, request, answer) ↔
      reader = .returned since request (some answer) := by
  cases reader with
  | idle | missed | fetched | raised => simp [Reader.shown]
  | returned since' request' answer' => cases answer' <;> simp [Reader.shown]

/-- What a reader holds that it has not stored. -/
def Reader.held {ρ ν : Type*} : Reader ρ ν → Option (SourceAnswer ρ ν)
  | fetched _ answer => some answer
  | _ => none

theorem Reader.mem_held {ρ ν : Type*} {reader : Reader ρ ν} {answer : SourceAnswer ρ ν} :
    answer ∈ reader.held ↔ ∃ since, reader = .fetched since answer := by
  cases reader <;> simp [Reader.held, eq_comm]

/-- The source, the cache and the readers. -/
structure ReadThrough (T ρ κ ν : Type*) where
  now : ℕ
  /-- What the source holds for each request. -/
  source : ρ → Option ν
  cache : Cache κ (SourceAnswer ρ ν)
  readers : T → Reader ρ ν

/-- What happens. -/
inductive ReadEvent (T ρ κ ν : Type*) where
  | pass (duration : ℕ)
  /-- The source changes. -/
  | change (request : ρ) (value : Option ν)
  /-- A reader begins, with a look into the cache. -/
  | look (i : T) (request : ρ)
  /-- It reads the source. -/
  | fetch (i : T)
  /-- The source refuses it. -/
  | refuse (i : T)
  | store (i : T)
  | forget (request : ρ)
  /-- The cache drops an entry. -/
  | evict (key : κ)

namespace ReadThrough

section

variable {T ρ κ ν : Type*} [DecidableEq T] [DecidableEq ρ] [DecidableEq κ] (keyOf : ρ → κ) (ttl : ℕ)
  (st : ReadThrough T ρ κ ν)

/-- A reader goes on. -/
def goTo (i : T) (reader : Reader ρ ν) : ReadThrough T ρ κ ν :=
  { st with readers := Function.update st.readers i reader }

/-- What an event makes of the state, if it can happen. -/
def exec (st : ReadThrough T ρ κ ν) : ReadEvent T ρ κ ν → Option (ReadThrough T ρ κ ν)
  | .pass duration => some { st with now := st.now + duration }
  | .change request value => some { st with source := Function.update st.source request value }
  | .look i request =>
    if (st.readers i).free then
      match Cache.get st.cache st.now (keyOf request) with
      | some answer => some (st.goTo i (.returned st.now request (some answer)))
      | none => some (st.goTo i (.missed st.now request))
    else none
  | .fetch i =>
    match st.readers i with
    | .missed since request =>
      match st.source request with
      | some value => some (st.goTo i (.fetched since ⟨request, value, st.now⟩))
      -- nothing is not stored
      | none => some (st.goTo i (.returned since request none))
    | _ => none
  | .refuse i =>
    match st.readers i with
    | .missed _ _ => some (st.goTo i .raised)
    | _ => none
  | .store i =>
    match st.readers i with
    | .fetched since answer => some { st.goTo i (.returned since answer.request (some answer)) with
        cache := Cache.set st.cache st.now (keyOf answer.request) answer ttl }
    | _ => none
  | .forget request => some { st with cache := Cache.delete st.cache (keyOf request) }
  | .evict key => some { st with cache := Cache.delete st.cache key }

/-- The readers over time. -/
def system : System (ReadThrough T ρ κ ν) (ReadEvent T ρ κ ν) := System.ofExec (exec keyOf ttl)

/-- Nothing was looked up yet. -/
def start (now : ℕ) (source : ρ → Option ν) : ReadThrough T ρ κ ν :=
  ⟨now, source, [], fun _ => .idle⟩

/-- The source was read, and held this answer. -/
def Reads (answer : SourceAnswer ρ ν) (_before : List (ReadEvent T ρ κ ν))
    (st : ReadThrough T ρ κ ν) :
    ReadEvent T ρ κ ν → Prop
  | .fetch _ => st.source answer.request = some answer.value ∧ st.now = answer.readAt
  | _ => False

/-- Only these requests are looked up. -/
def LooksIn (requests : Set ρ) (_before : List (ReadEvent T ρ κ ν)) (_st : ReadThrough T ρ κ ν) :
    ReadEvent T ρ κ ν → Prop
  | .look _ request => request ∈ requests
  | _ => True

/-- A reader stores an answer at most so long after it was read. -/
def Delays (delay : ℕ) (_before : List (ReadEvent T ρ κ ν)) (st : ReadThrough T ρ κ ν) :
    ReadEvent T ρ κ ν → Prop
  | .store i => ∀ answer ∈ (st.readers i).held, st.now ≤ answer.readAt + delay
  | _ => True

instance (requests : Set ρ) [DecidablePred (· ∈ requests)] (before : List (ReadEvent T ρ κ ν))
    (st : ReadThrough T ρ κ ν) : (e : ReadEvent T ρ κ ν) → Decidable (LooksIn requests before st e)
  | .look _ request => inferInstanceAs (Decidable (request ∈ requests))
  | .pass _ | .change _ _ | .fetch _ | .refuse _ | .store _ | .forget _ | .evict _ =>
    inferInstanceAs (Decidable True)

instance (delay : ℕ) (before : List (ReadEvent T ρ κ ν)) (st : ReadThrough T ρ κ ν) :
    (e : ReadEvent T ρ κ ν) → Decidable (Delays delay before st e)
  | .store i =>
    inferInstanceAs (Decidable (∀ answer ∈ (st.readers i).held, st.now ≤ answer.readAt + delay))
  | .pass _ | .change _ _ | .look _ _ | .fetch _ | .refuse _ | .forget _ | .evict _ =>
    inferInstanceAs (Decidable True)

end

/-! ### Entry by entry, reader by reader -/

section

variable {T ρ κ ν : Type*} {E : CacheEntry κ (SourceAnswer ρ ν) → Prop} {R : Reader ρ ν → Prop}
  {st : ReadThrough T ρ κ ν}

/-- `E` of every entry, and `R` of every reader. -/
structure Holds (E : CacheEntry κ (SourceAnswer ρ ν) → Prop) (R : Reader ρ ν → Prop)
    (st : ReadThrough T ρ κ ν) : Prop where
  entries : ∀ entry ∈ st.cache, E entry
  readers : ∀ i, R (st.readers i)

theorem holds_start {now : ℕ} {source : ρ → Option ν} (hidle : R .idle) :
    Holds E R (start now source : ReadThrough T ρ κ ν) :=
  ⟨fun _ he => absurd he List.not_mem_nil, fun _ => hidle⟩

theorem Holds.goTo [DecidableEq T] {i : T} {reader : Reader ρ ν} (h : Holds E R st)
    (hreader : R reader) :
    Holds E R (st.goTo i reader) where
  entries := h.entries
  readers j := by
    by_cases hj : j = i
    · subst hj
      show R (Function.update st.readers j reader j)
      rw [Function.update_self]
      exact hreader
    · show R (Function.update st.readers i reader j)
      rw [Function.update_of_ne hj]
      exact h.readers j

theorem Holds.delete [DecidableEq κ] (h : Holds E R st) (key : κ) :
    Holds E R { st with cache := Cache.delete st.cache key } where
  entries entry he := h.entries entry (Cache.mem_delete.1 he).1
  readers := h.readers

end

section

variable {T ρ κ ν : Type*} [DecidableEq T] [DecidableEq ρ] [DecidableEq κ] {keyOf : ρ → κ}
  {ttl delay : ℕ} {requests : Set ρ} {st₀ st st' : ReadThrough T ρ κ ν}
  {es : List (ReadEvent T ρ κ ν)} {e : ReadEvent T ρ κ ν} {i : T} {now since cut : ℕ} {request : ρ}
  {answer : SourceAnswer ρ ν} {reader : Reader ρ ν} {source : ρ → Option ν}
  {E E' : CacheEntry κ (SourceAnswer ρ ν) → Prop} {R R' : Reader ρ ν → Prop}

/-- What an event has to do for `E'` and `R'` to hold after it, where `E` and `R` held. -/
structure Keeps (keyOf : ρ → κ) (ttl : ℕ) (st : ReadThrough T ρ κ ν) (e : ReadEvent T ρ κ ν)
    (E : CacheEntry κ (SourceAnswer ρ ν) → Prop) (R : Reader ρ ν → Prop)
    (E' : CacheEntry κ (SourceAnswer ρ ν) → Prop) (R' : Reader ρ ν → Prop) : Prop where
  entry : ∀ entry, E entry → E' entry
  reader : ∀ reader, R reader → R' reader
  hit : ∀ i request entry, e = .look i request → E entry → entry.key = keyOf request →
    st.now < entry.expires →
    R' (.returned st.now request (some entry.value))
  miss : ∀ i request, e = .look i request → R' (.missed st.now request)
  fetch : ∀ i since request value, e = .fetch i → R (.missed since request) →
    st.source request = some value →
    R' (.fetched since ⟨request, value, st.now⟩)
  nothing : ∀ since request, R (.missed since request) → R' (.returned since request none)
  raised : R' .raised
  store : ∀ i since answer, e = .store i → st.readers i = .fetched since answer →
    R (.fetched since answer) →
    R' (.returned since answer.request (some answer)) ∧
      E' ⟨keyOf answer.request, answer, st.now + ttl⟩

/-- An event goes by. -/
theorem Holds.step (h : Holds E R st) (hkeeps : Keeps keyOf ttl st e E R E' R')
    (hstep : exec keyOf ttl st e = some st') :
    Holds E' R' st' := by
  -- what the event does not touch passes from `E` and `R` to `E'` and `R'`
  have hafter : Holds E' R' st :=
    ⟨fun entry he => hkeeps.entry entry (h.entries entry he),
      fun i => hkeeps.reader _ (h.readers i)⟩
  cases e with
  | pass duration =>
    cases hstep
    exact ⟨hafter.entries, hafter.readers⟩
  | change request value =>
    cases hstep
    exact ⟨hafter.entries, hafter.readers⟩
  | look i request =>
    unfold exec at hstep
    dsimp only at hstep
    split_ifs at hstep
    split at hstep
    · rename_i answer hget
      cases hstep
      obtain ⟨entry, he, hkey, rfl, halive⟩ := Cache.exists_of_get hget
      exact hafter.goTo (hkeeps.hit i request entry rfl (h.entries entry he) hkey halive)
    · cases hstep
      exact hafter.goTo (hkeeps.miss i request rfl)
  | fetch i =>
    have hreader := h.readers i
    unfold exec at hstep
    dsimp only at hstep
    split at hstep
    · rename_i since request hmissed
      rw [hmissed] at hreader
      split at hstep
      · rename_i value hvalue
        cases hstep
        exact hafter.goTo (hkeeps.fetch i since request value rfl hreader hvalue)
      · cases hstep
        exact hafter.goTo (hkeeps.nothing since request hreader)
    · cases hstep
  | refuse i =>
    unfold exec at hstep
    dsimp only at hstep
    split at hstep
    · cases hstep
      exact hafter.goTo hkeeps.raised
    · cases hstep
  | store i =>
    have hreader := h.readers i
    unfold exec at hstep
    dsimp only at hstep
    split at hstep
    · rename_i since answer hfetched
      rw [hfetched] at hreader
      obtain ⟨hreturned, hentry⟩ := hkeeps.store i since answer rfl hfetched hreader
      cases hstep
      refine ⟨fun entry he => ?_, (hafter.goTo hreturned : Holds E' R' (st.goTo i _)).readers⟩
      rcases Cache.mem_set he with rfl | ⟨hold, -⟩
      · exact hentry
      · exact hafter.entries entry hold
    · cases hstep
  | forget request =>
    cases hstep
    exact hafter.delete (keyOf request)
  | evict key =>
    cases hstep
    exact hafter.delete key

theorem now_le_of_step (hstep : exec keyOf ttl st e = some st') : st.now ≤ st'.now := by
  unfold exec at hstep
  cases e with
  | pass duration =>
    cases hstep
    exact Nat.le_add_right _ _
  | change | forget | evict =>
    cases hstep
    exact Nat.le_refl _
  | look | fetch | refuse | store =>
    dsimp only at hstep
    split at hstep <;> try split at hstep
    all_goals cases hstep <;> exact Nat.le_refl _

/-! ### Where answers come from -/

/-- An entry is under the key of the request that it was read for. -/
def EntryKeyed (keyOf : ρ → κ) (ttl : ℕ) (requests : Set ρ) (st₀ : ReadThrough T ρ κ ν)
    (es : List (ReadEvent T ρ κ ν)) (entry : CacheEntry κ (SourceAnswer ρ ν)) : Prop :=
  entry.key = keyOf entry.value.request ∧ entry.value.request ∈ requests ∧
    (system keyOf ttl).Happened st₀ (Reads entry.value) es

/-- A reader has what was read for its request. -/
def ReaderKeyed (keyOf : ρ → κ) (ttl : ℕ) (requests : Set ρ) (st₀ : ReadThrough T ρ κ ν)
    (es : List (ReadEvent T ρ κ ν)) (now : ℕ) : Reader ρ ν → Prop
  | .idle | .raised => True
  | .missed since request => since ≤ now ∧ request ∈ requests
  | .fetched since answer => since ≤ answer.readAt ∧ answer.readAt ≤ now ∧
    answer.request ∈ requests ∧
      (system keyOf ttl).Happened st₀ (Reads answer) es
  | .returned since request answer => since ≤ now ∧ ∀ a ∈ answer, a.request = request ∧
      (system keyOf ttl).Happened st₀ (Reads a) es

theorem ReaderKeyed.mono {later : ℕ} (h : ReaderKeyed keyOf ttl requests st₀ es now reader)
    (hnow : now ≤ later) :
    ReaderKeyed keyOf ttl requests st₀ (es ++ [e]) later reader := by
  cases reader with
  | idle | raised => trivial
  | missed since request => exact ⟨h.1.trans hnow, h.2⟩
  | fetched since answer => exact ⟨h.1, h.2.1.trans hnow, h.2.2.1, h.2.2.2.snoc⟩
  | returned since request answer =>
    exact ⟨h.1.trans hnow, fun a ha => ⟨(h.2 a ha).1, (h.2 a ha).2.snoc⟩⟩

theorem keyed_of_run (hinj : Set.InjOn keyOf requests)
    (hrun : (system keyOf ttl).Run (LooksIn requests) (start now source) es st) :
    Holds (EntryKeyed keyOf ttl requests (start now source) es)
      (ReaderKeyed keyOf ttl requests (start now source) es st.now) st := by
  induction hrun with
  | nil => exact holds_start trivial
  | @snoc es st st' e hrun hlook hstep ih =>
    have hfree := hrun.mono (D := System.Free) fun _ _ _ _ => trivial
    have hnow : st.now ≤ st'.now := now_le_of_step hstep
    refine ih.step ?_ hstep
    constructor
    case entry => exact fun entry he => ⟨he.1, he.2.1, he.2.2.snoc⟩
    case reader => exact fun reader hreader => hreader.mono hnow
    case hit =>
      rintro i request entry rfl ⟨hkeyed, hin, hread⟩ hkey -
      refine ⟨hnow, fun a ha => ?_⟩
      obtain rfl := Option.mem_some.1 ha
      exact ⟨hinj hin hlook (hkeyed.symm.trans hkey), hread.snoc⟩
    case miss =>
      rintro i request rfl
      exact ⟨hnow, hlook⟩
    case fetch =>
      rintro i since request value rfl ⟨hsince, hin⟩ hvalue
      exact ⟨hsince, hnow, hin, .last hfree ⟨hvalue, rfl⟩⟩
    case nothing => exact fun since request hmissed => ⟨hmissed.1.trans hnow, nofun⟩
    case raised => trivial
    case store =>
      rintro i since answer rfl - ⟨hsince, hread, hin, hhappened⟩
      refine ⟨⟨(hsince.trans hread).trans hnow, fun a ha => ?_⟩, rfl, hin, hhappened.snoc⟩
      obtain rfl := Option.mem_some.1 ha
      exact ⟨rfl, hhappened.snoc⟩

/-! ### How old answers get -/

/-- A reader has nothing that is too old. -/
def ReaderTimely (ttl delay : ℕ) : Reader ρ ν → Prop
  | .returned since _ answer => ∀ a ∈ answer, since < a.readAt + ttl + delay
  | _ => True

theorem timely_of_run (httl : 0 < ttl) (hinj : Set.InjOn keyOf requests)
    (hrun : (system keyOf ttl).Run (fun es st e => LooksIn requests es st e ∧ Delays delay es st e)
      (start now source) es st) :
    Holds (fun entry => entry.expires ≤ entry.value.readAt + ttl + delay)
      (ReaderTimely ttl delay) st := by
  induction hrun with
  | nil => exact holds_start trivial
  | @snoc es st st' e hrun hcond hstep ih =>
    have hkeyed := keyed_of_run hinj (hrun.mono fun _ _ _ h => h.1)
    refine ih.step ?_ hstep
    constructor
    case entry => exact fun _ he => he
    case reader => exact fun _ hreader => hreader
    case hit =>
      rintro i request entry rfl hexpires - halive a ha
      obtain rfl := Option.mem_some.1 ha
      exact halive.trans_le hexpires
    case miss => exact fun _ _ _ => trivial
    case fetch => exact fun _ _ _ _ _ _ _ => trivial
    case nothing => exact fun _ _ _ => nofun
    case raised => trivial
    case store =>
      rintro i since answer rfl hfetched -
      have hreader := hkeyed.readers i
      rw [hfetched] at hreader
      have hdelay := hcond.2 answer (by rw [hfetched]; rfl)
      refine ⟨fun a ha => ?_, ?_⟩
      · obtain rfl := Option.mem_some.1 ha
        have hsince := hreader.1
        omega
      · dsimp only
        omega

/-- What is answered to a request, the source held for it at some moment, not longer ago than
entries live and readers take to store them. -/
theorem answer_of_run (httl : 0 < ttl) (hinj : Set.InjOn keyOf requests)
    (hrun : (system keyOf ttl).Run (fun es st e => LooksIn requests es st e ∧ Delays delay es st e)
      (start now source) es st) (h : st.readers i = .returned since request (some answer)) :
    answer.request = request ∧ since < answer.readAt + ttl + delay ∧
      (system keyOf ttl).Happened (start now source) (Reads answer) es := by
  have hkeyed := (keyed_of_run hinj (hrun.mono fun _ _ _ h => h.1)).readers i
  have htimely := (timely_of_run httl hinj hrun).readers i
  rw [h] at hkeyed htimely
  obtain ⟨hrequest, hread⟩ := hkeyed.2 answer rfl
  exact ⟨hrequest, htimely answer rfl, hread⟩

/-! ### Forgetting -/

/-- A reader has nothing from before `cut` that it looked up after `after`, or that it will
store. -/
def ReaderCut (request : ρ) (cut after : ℕ) : Reader ρ ν → Prop
  | .fetched _ answer => answer.request = request → cut ≤ answer.readAt
  | .returned since _ answer => after < since → ∀ a ∈ answer, a.request = request → cut ≤ a.readAt
  | _ => True

/-- What the cache and the readers have is no older than `cut`, and stays so. -/
theorem cut_of_run {after : ℕ} (hcut : cut ≤ st.now)
    (h : Holds (fun entry => entry.value.request = request → cut ≤ entry.value.readAt)
      (ReaderCut request cut after) st)
    (hrun : (system keyOf ttl).Run System.Free st es st') :
    Holds (fun entry => entry.value.request = request → cut ≤ entry.value.readAt)
      (ReaderCut request cut after) st' ∧
      cut ≤ st'.now := by
  induction hrun with
  | nil => exact ⟨h, hcut⟩
  | @snoc es st' st'' e hrun _ hstep ih =>
    refine ⟨ih.1.step ?_ hstep, ih.2.trans (now_le_of_step hstep)⟩
    constructor
    case entry => exact fun _ he => he
    case reader => exact fun _ hreader => hreader
    case hit =>
      rintro i request entry - he - - - a ha
      obtain rfl := Option.mem_some.1 ha
      exact he
    case miss => exact fun _ _ _ => trivial
    case fetch => exact fun _ _ _ _ _ _ _ _ => ih.2
    case nothing => exact fun _ _ _ _ => nofun
    case raised => trivial
    case store =>
      rintro i since answer - - hread
      refine ⟨fun _ a ha => ?_, hread⟩
      obtain rfl := Option.mem_some.1 ha
      exact hread

/-- The request is forgotten. -/
def forgotten (keyOf : ρ → κ) (request : ρ) (st : ReadThrough T ρ κ ν) : ReadThrough T ρ κ ν :=
  { st with cache := Cache.delete st.cache (keyOf request) }

theorem step_forgotten (keyOf : ρ → κ) (ttl : ℕ) (request : ρ) (st : ReadThrough T ρ κ ν) :
    (system keyOf ttl).step st (.forget request) (forgotten keyOf request st) := rfl

/-- A reader stores what it holds, and looks it up a moment later. -/
theorem run_store_look (httl : 1 < ttl) (hrequest : answer.request ∈ requests)
    (hfetched : st.readers i = .fetched since answer) :
    ∃ st', (system keyOf ttl).Run (LooksIn requests) st
      [.store i, .pass 1, .look i answer.request] st' ∧
      st'.readers i = .returned (st.now + 1) answer.request (some answer) := by
  let stored : ReadThrough T ρ κ ν :=
    { st.goTo i (.returned since answer.request (some answer)) with
    cache := Cache.set st.cache st.now (keyOf answer.request) answer ttl }
  let passed : ReadThrough T ρ κ ν := { stored with now := st.now + 1 }
  have hreader : passed.readers i = .returned since answer.request (some answer) :=
    Function.update_self ..
  have hstore : (system keyOf ttl).step st (.store i) stored := by
    show exec keyOf ttl st (.store i) = some stored
    simp only [exec, hfetched, stored]
  have hpass : (system keyOf ttl).step stored (.pass 1) passed := rfl
  have hget : Cache.get passed.cache passed.now (keyOf answer.request) = some answer := by
    show Cache.get (Cache.set st.cache st.now (keyOf answer.request) answer ttl) (st.now + 1) _ = _
    rw [Cache.get, Cache.set, List.find?_cons_of_pos (by simpa using httl)]
    rfl
  have hlook : (system keyOf ttl).step passed (.look i answer.request)
      (passed.goTo i (.returned (st.now + 1) answer.request (some answer))) := by
    show exec keyOf ttl passed (.look i answer.request) = _
    simp only [exec, hreader, Reader.free, hget, if_true]
    rfl
  exact ⟨_, ((System.Run.nil.snoc trivial hstore).snoc trivial hpass).snoc hrequest hlook,
    Function.update_self ..⟩

/-- After a request was forgotten, nothing that was read for it before `cut` is answered to a reader
that looks later, exactly if no reader holds such an answer that it has not stored. -/
theorem forget_iff (httl : 1 < ttl) (hinj : Set.InjOn keyOf requests)
    (hrequest : request ∈ requests)
    (hrun : (system keyOf ttl).Run (LooksIn requests) (start now source) es st)
    (hcut : cut ≤ st.now) :
    (∀ es' st' i since answer, (system keyOf ttl).Run (LooksIn requests)
      (forgotten keyOf request st) es' st' →
      st'.readers i = .returned since request (some answer) → st.now < since →
        cut ≤ answer.readAt) ↔
    ∀ i, ∀ answer ∈ (st.readers i).held, answer.request = request → cut ≤ answer.readAt := by
  constructor
  · rintro h i answer hheld rfl
    obtain ⟨since, hfetched⟩ := Reader.mem_held.1 hheld
    have hheld : (forgotten keyOf answer.request st).readers i = .fetched since answer := hfetched
    obtain ⟨st', hrun', hreturned⟩ := run_store_look httl hrequest hheld
    exact h _ st' i _ answer hrun' hreturned (Nat.lt_succ_self _)
  · intro hheld es' st' i since answer hrun' hreturned hlater
    have hkeyed := keyed_of_run hinj hrun
    have hforgotten :
      (system keyOf ttl).Run (LooksIn requests) (start now source) (es ++ [.forget request])
        (forgotten keyOf request st) := hrun.snoc trivial (step_forgotten keyOf ttl request st)
    have hkeyed' := (keyed_of_run hinj (hforgotten.append hrun' fun _ _ _ h => h)).readers i
    rw [hreturned] at hkeyed'
    obtain ⟨hsame, -⟩ := hkeyed'.2 answer rfl
    have hbefore : Holds (fun entry => entry.value.request = request → cut ≤ entry.value.readAt)
        (ReaderCut request cut st.now) (forgotten keyOf request st) := by
      refine ⟨fun entry he hof => ?_, fun j => ?_⟩
      · -- what was read for the request was under its key
        obtain ⟨hin, hne⟩ := Cache.mem_delete.1 he
        exact absurd ((hkeyed.entries entry hin).1.trans (congrArg keyOf hof)) hne
      · have hreader := hkeyed.readers j
        show ReaderCut request cut st.now (st.readers j)
        cases hj : st.readers j with
        | idle | missed | raised => trivial
        | fetched since answer => exact hheld j answer (Reader.mem_held.2 ⟨since, hj⟩)
        | returned since request answer =>
          rw [hj] at hreader
          exact fun hafter => absurd hafter (Nat.not_lt.2 hreader.1)
    have hcut' : cut ≤ (forgotten keyOf request st).now := hcut
    have hafter := (cut_of_run hcut' hbefore (hrun'.mono fun _ _ _ _ => trivial)).1.readers i
    rw [hreturned] at hafter
    exact hafter hlater answer rfl hsame

end

end ReadThrough

end OpenCloud
