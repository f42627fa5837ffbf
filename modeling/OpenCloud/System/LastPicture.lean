import OpenCloud.Lib.Caches
import OpenCloud.Lib.Runs
import OpenCloud.System.Conservation

/-!
# The last good picture

The picture of the cluster is kept for two minutes under one key and for a day under another.  A
call that finds no fresh one, or asks for a new one, builds it; where the cloud fails, the one of
the day is served with a mark.

A build fails at the first of the token, the directory and the machines that is refused.  `get`
serves the last picture on a `ZadaraError` only, and what `gather` hands back, which `_fetch` raises
again, is of any class.

## Main results

* `build_eq_error` : a build raises what `failure` says.
* `snapshotGet_cases` : what a call answers.
* `neverBlank_iff` : the panel is never blank if and only if no failure of another class meets a
  build.
-/

namespace OpenCloud

/-- The answers upstream while a picture is built. -/
structure PanelAnswers where
  serviceToken : Except Raised String
  /-- The entries of `/identity/domains`. -/
  directory : Except Raised (List DirectoryEntry)
  projectDetails : String → Except Raised (List ProjectDetails)
  list : (s : Source) → Except Raised (List s.Row)

/-- What was raised. -/
def raised {α : Type} : Except Raised α → Option Raised
  | .ok _ => none
  | .error r => some r

namespace PanelAnswers

/-- The answers as the picture is made of them: it tells an answer from a failure only. -/
def cloud (a : PanelAnswers) : PanelCloud where
  serviceToken := a.serviceToken.mapError Raised.logged
  directory := a.directory.mapError Raised.logged
  projects := fun id => ((a.projectDetails id).mapError Raised.logged).map fun listed =>
    listed.map fun p => (p.id, p.name)
  projectDetails := fun id => (a.projectDetails id).mapError Raised.logged
  vms := (a.list .vms).mapError Raised.logged
  volumes := (a.list .volumes).mapError Raised.logged
  volumeSnapshots := (a.list .volumeSnapshots).mapError Raised.logged
  vmSnapshots := (a.list .vmSnapshots).mapError Raised.logged
  elasticIps := (a.list .publicIps).mapError Raised.logged
  vpcs := (a.list .vpcs).mapError Raised.logged
  subnets := (a.list .subnets).mapError Raised.logged
  securityGroups := (a.list .securityGroups).mapError Raised.logged

/-- The accounts whose projects are asked for. -/
def domains (a : PanelAnswers) : List Domain :=
  match a.directory with
  | .ok entries => entries.filterMap DirectoryEntry.domain
  | .error _ => []

/-- What the loop over the domains does not catch: the first exception of another class. -/
def uncaught (a : PanelAnswers) : Option Raised :=
  a.domains.findSome? fun d =>
    match a.projectDetails d.id with
    | .error (.other name) => some (.other name)
    | _ => none

/-- `_build`, without the time it is built at. -/
def build (c : Casing) (a : PanelAnswers) : Except Raised Picture := do
  let _token ← a.serviceToken
  let _domains ← a.directory
  let _vms ← a.list .vms
  match a.uncaught with
  | some r => throw r
  | none => (buildPicture c a.cloud).mapError .zadara

/-- The first failure that a build does not go without. -/
def failure (a : PanelAnswers) : Option Raised :=
  (raised a.serviceToken).or ((raised a.directory).or ((raised (a.list .vms)).or a.uncaught))

end PanelAnswers

/-! ### The two entries -/

/-- `TTL_SECONDS`. -/
def snapshotTtl : ℕ := 120

/-- `FALLBACK_TTL_SECONDS`. -/
def fallbackTtl : ℕ := 24 * 60 * 60

/-- `_KEY`. -/
def snapshotKey : String := "platform_snapshot:v3"

/-- `_FALLBACK_KEY`. -/
def fallbackKey : String := "platform_snapshot_fallback:v3"

/-- A picture as the panel gets it. -/
structure PanelSnapshot where
  picture : Picture
  builtAt : ℕ
  buildSeconds : ℕ
  stale : Bool

/-- A call of `get`; what it builds is built at its end. -/
structure PanelCall where
  refresh : Bool
  start : ℕ
  finish : ℕ
  start_le_finish : start ≤ finish
  answers : PanelAnswers

/-- What the call makes of a picture that it builds. -/
def PanelCall.built (call : PanelCall) (picture : Picture) : PanelSnapshot :=
  ⟨picture, call.finish, call.finish - call.start, false⟩

/-- `get`. -/
def snapshotGet (c : Casing) (call : PanelCall) (cache : Cache String PanelSnapshot) :
    Except Raised PanelSnapshot × Cache String PanelSnapshot :=
  match if call.refresh then none else cache.get call.start snapshotKey with
  | some cached => (.ok cached, cache)
  | none =>
    match call.answers.build c with
    | .ok picture =>
      (.ok (call.built picture),
        (cache.set call.finish snapshotKey (call.built picture) snapshotTtl).set call.finish
        fallbackKey (call.built picture) fallbackTtl)
    | .error (.zadara err) =>
      match cache.get call.finish fallbackKey with
      | some fallback => (.ok { fallback with stale := true }, cache)
      | none => (.error (.zadara err), cache)
    | .error (.other name) => (.error (.other name), cache)

/-- The cache and the clock, and the latest picture that was built, which no call reads. -/
structure Panel where
  cache : Cache String PanelSnapshot
  clock : ℕ
  latest : Option PanelSnapshot

namespace Panel

/-- The call does not find a fresh picture, or does not want it. -/
def Builds (st : Panel) (call : PanelCall) : Prop :=
  call.refresh = true ∨ st.cache.get call.start snapshotKey = none

/-- The latest picture, after a call. -/
def latestAfter (c : Casing) (st : Panel) (call : PanelCall) : Option PanelSnapshot :=
  match if call.refresh then none else st.cache.get call.start snapshotKey,
    call.answers.build c with
  | none, .ok picture => some (call.built picture)
  | _, _ => st.latest

/-- A call, after those before it. -/
def after (c : Casing) (st : Panel) (call : PanelCall) : Option Panel :=
  if st.clock ≤ call.start then
    some ⟨(snapshotGet c call st.cache).2, call.finish, st.latestAfter c call⟩
  else none

/-- Nothing was built yet. -/
def empty : Panel := ⟨[], 0, none⟩

/-- The sequences of calls. -/
def system (c : Casing) : System Panel PanelCall := System.ofExec (after c)

/-- A picture was built, and no day has passed since. -/
def HasRecent (st : Panel) (call : PanelCall) : Prop :=
  ∃ latest, st.latest = some latest ∧ call.start < latest.builtAt + fallbackTtl

/-- The panel is not blank, and what it shows is fresh, or is marked and is the latest picture. -/
structure NeverBlank (st : Panel) (call : PanelCall) (answer : Except Raised PanelSnapshot) :
    Prop where
  answers : st.HasRecent call → ∃ shown, answer = .ok shown
  fresh : ∀ shown, answer = .ok shown → shown.stale = false →
    call.start ≤ shown.builtAt + snapshotTtl
  stale : ∀ shown, answer = .ok shown → shown.stale = true →
    ∃ latest, st.latest = some latest ∧ shown = { latest with stale := true }

/-- A build that would leave the panel blank: it fails with an exception of another class, or when
the day is over. -/
def Blanks (st : Panel) (call : PanelCall) : Prop :=
  st.HasRecent call ∧ st.Builds call ∧
    ((∃ name, call.answers.failure = some (.other name)) ∨
      (call.answers.failure.isSome ∧ ∀ latest, st.latest = some latest →
        latest.builtAt + fallbackTtl ≤ call.finish))

end Panel

/-! ### What a build raises -/

section Build

variable {c : Casing} {a : PanelAnswers} {r : Raised} {picture : Picture}

theorem exists_buildPicture {token : String} {entries : List DirectoryEntry} {vms : List Vm}
    (htoken : a.serviceToken = .ok token) (hdirectory : a.directory = .ok entries)
    (hvms : a.list .vms = .ok vms) : ∃ picture, buildPicture c a.cloud = .ok picture := by
  have hcloudToken : a.cloud.serviceToken = .ok token := by
    simp only [PanelAnswers.cloud, htoken, Except.mapError]
  have hcloudDomains : a.cloud.listDomains = .ok a.domains := by
    simp only [PanelAnswers.cloud, Cloud.listDomains, PanelAnswers.domains, hdirectory,
      Except.mapError, Except.map]
  have hcloudVms : a.cloud.vms = .ok vms := by
    simp only [PanelAnswers.cloud, hvms, Except.mapError]
  exact buildPicture_eq_ok hcloudToken hcloudDomains hcloudVms

/-- A build raises the first failure it does not go without, and nothing else. -/
theorem build_eq_error : a.build c = .error r ↔ a.failure = some r := by
  unfold PanelAnswers.build PanelAnswers.failure
  cases htoken : a.serviceToken with
  | error r' => simp [raised, bind, Except.bind]
  | ok token =>
  cases hdirectory : a.directory with
  | error r' => simp [raised, bind, Except.bind]
  | ok entries =>
  cases hvms : a.list .vms with
  | error r' => simp [raised, bind, Except.bind]
  | ok vms =>
  obtain ⟨picture, hpicture⟩ := exists_buildPicture (c := c) htoken hdirectory hvms
  cases huncaught : a.uncaught with
  | some r' => simp [raised, bind, Except.bind, throw, throwThe, MonadExceptOf.throw]
  | none => simp [raised, bind, Except.bind, hpicture, Except.mapError]

theorem failure_eq_none (h : a.build c = .ok picture) : a.failure = none := by
  rw [Option.eq_none_iff_forall_ne_some]
  intro r hr
  rw [build_eq_error.2 hr] at h
  cases h

end Build

/-! ### What a call answers -/

namespace Panel

/-- The ways a call can go: what it answers, the cache after it, and the latest picture. -/
inductive Goes (c : Casing) (st : Panel) (call : PanelCall) :
    Except Raised PanelSnapshot → Cache String PanelSnapshot → Option PanelSnapshot → Prop
  | cached {shown : PanelSnapshot} (builds : ¬ st.Builds call)
      (live : st.cache.get call.start snapshotKey = some shown) :
        Goes c st call (.ok shown) st.cache st.latest
  | built {picture : Picture} (builds : st.Builds call) (succeeds : call.answers.failure = none) :
      Goes c st call (.ok (call.built picture))
        ((st.cache.set call.finish snapshotKey (call.built picture) snapshotTtl).set call.finish
          fallbackKey (call.built picture) fallbackTtl) (some (call.built picture))
  | served {err : ZadaraError} {fallback : PanelSnapshot} (builds : st.Builds call)
      (fails : call.answers.failure = some (.zadara err))
        (live : st.cache.get call.finish fallbackKey = some fallback) :
      Goes c st call (.ok { fallback with stale := true }) st.cache st.latest
  | expired {err : ZadaraError} (builds : st.Builds call)
    (fails : call.answers.failure = some (.zadara err))
      (gone : st.cache.get call.finish fallbackKey = none) :
        Goes c st call (.error (.zadara err)) st.cache st.latest
  | uncaught {name : String} (builds : st.Builds call)
    (fails : call.answers.failure = some (.other name)) :
      Goes c st call (.error (.other name)) st.cache st.latest

section

variable {c : Casing} {st st' : Panel} {call : PanelCall} {answer : Except Raised PanelSnapshot}
  {cache : Cache String PanelSnapshot} {latest : Option PanelSnapshot}

theorem snapshotGet_cases (c : Casing) (st : Panel) (call : PanelCall) :
    st.Goes c call (snapshotGet c call st.cache).1 (snapshotGet c call st.cache).2
      (st.latestAfter c call) := by
  cases hfound : (if call.refresh then none else st.cache.get call.start snapshotKey) with
  | some shown =>
    have hlive : call.refresh = false ∧ st.cache.get call.start snapshotKey = some shown := by
      cases hrefresh : call.refresh <;> simp_all
    simp only [snapshotGet, latestAfter, hfound]
    exact .cached (by simp [Builds, hlive.1, hlive.2]) hlive.2
  | none =>
    have hbuilds : st.Builds call := by
      cases hrefresh : call.refresh
      · rw [hrefresh] at hfound
        exact .inr hfound
      · exact .inl hrefresh
    cases hbuild : call.answers.build c with
    | ok picture =>
      simp only [snapshotGet, latestAfter, hfound, hbuild]
      exact .built hbuilds (failure_eq_none hbuild)
    | error r =>
      have hfails := build_eq_error.1 hbuild
      cases r with
      | other name =>
        simp only [snapshotGet, latestAfter, hfound, hbuild]
        exact .uncaught hbuilds hfails
      | zadara err =>
        cases hfallback : st.cache.get call.finish fallbackKey with
        | some fallback =>
          simp only [snapshotGet, latestAfter, hfound, hbuild, hfallback]
          exact .served hbuilds hfails hfallback
        | none =>
          simp only [snapshotGet, latestAfter, hfound, hbuild, hfallback]
          exact .expired hbuilds hfails hfallback

/-- The entries say when they were built, the one of the day is the latest picture, and it is
there. -/
structure Kept (st : Panel) : Prop where
  fresh : ∀ e ∈ st.cache, e.key = snapshotKey → e.expires = e.value.builtAt + snapshotTtl ∧
    e.value.stale = false
  fallback : ∀ e ∈ st.cache, e.key = fallbackKey →
    st.latest = some e.value ∧ e.expires = e.value.builtAt + fallbackTtl
  lasting : ∀ latest, st.latest = some latest →
    ⟨fallbackKey, latest, latest.builtAt + fallbackTtl⟩ ∈ st.cache

theorem kept_empty : empty.Kept :=
  ⟨fun _ h => absurd h List.not_mem_nil, fun _ h => absurd h List.not_mem_nil, fun _ h => nomatch h⟩

theorem fallbackKey_ne : fallbackKey ≠ snapshotKey := by decide

/-- A call keeps the entries as they are, or makes both of the picture it built. -/
theorem Goes.kept (hgoes : st.Goes c call answer cache latest) (h : st.Kept) {clock : ℕ} :
    Kept ⟨cache, clock, latest⟩ := by
  cases hgoes with
  | @built picture _ _ =>
    constructor
    · intro e he hkey
      rcases Cache.mem_set he with rfl | ⟨he, -⟩
      · exact absurd hkey fallbackKey_ne
      rcases Cache.mem_set he with rfl | ⟨-, hne⟩
      · exact ⟨rfl, rfl⟩
      · exact absurd hkey hne
    · intro e he hkey
      rcases Cache.mem_set he with rfl | ⟨-, hne⟩
      · exact ⟨rfl, rfl⟩
      · exact absurd hkey hne
    · rintro _ ⟨⟩
      exact List.mem_cons_self
  | _ => exact ⟨h.fresh, h.fallback, h.lasting⟩

theorem Kept.get_fallback (h : st.Kept) {now : ℕ} {latest : PanelSnapshot}
    (hlatest : st.latest = some latest) (hnow : now < latest.builtAt + fallbackTtl) :
    st.cache.get now fallbackKey = some latest := by
  cases hget : st.cache.get now fallbackKey with
  | none =>
    exact absurd (Cache.get_eq_none.1 hget _ (h.lasting latest hlatest) rfl) (Nat.not_le.2 hnow)
  | some fallback =>
    obtain ⟨e, he, hkey, rfl, -⟩ := Cache.exists_of_get hget
    rw [← (h.fallback e he hkey).1, hlatest]

theorem neverBlank_error {r : Raised} : st.NeverBlank call (.error r) ↔ ¬ st.HasRecent call := by
  constructor
  · intro h hrecent
    obtain ⟨shown, hshown⟩ := h.answers hrecent
    cases hshown
  · intro h
    refine ⟨fun hrecent => absurd hrecent h, ?_, ?_⟩
    · rintro _ ⟨⟩
    · rintro _ ⟨⟩

/-- The panel is blank at a call exactly if its build fails in a way that nothing is served for. -/
theorem Goes.neverBlank_step_iff (hgoes : st.Goes c call answer cache latest) (h : st.Kept) :
    st.NeverBlank call answer ↔ ¬ st.Blanks call := by
  cases hgoes with
  | cached hbuilds hlive =>
    obtain ⟨e, he, hkey, rfl, halive⟩ := Cache.exists_of_get hlive
    obtain ⟨hexpires, hstale⟩ := h.fresh e he hkey
    refine iff_of_true ⟨fun _ => ⟨_, rfl⟩, ?_, ?_⟩ fun hblanks => hbuilds hblanks.2.1
    · rintro _ ⟨⟩ -
      exact hexpires ▸ halive.le
    · rintro _ ⟨⟩ hmarked
      exact absurd (hstale.symm.trans hmarked) Bool.false_ne_true
  | built hbuilds hsucceeds =>
    refine iff_of_true ⟨fun _ => ⟨_, rfl⟩, ?_, ?_⟩ ?_
    · rintro _ ⟨⟩ -
      exact call.start_le_finish.trans (Nat.le_add_right _ _)
    · rintro _ ⟨⟩ hmarked
      exact absurd hmarked Bool.false_ne_true
    · rintro ⟨-, -, ⟨name, hname⟩ | ⟨hfails, -⟩⟩
      · rw [hsucceeds] at hname
        cases hname
      · rw [hsucceeds] at hfails
        cases hfails
  | @served err fallback hbuilds hfails hlive =>
    obtain ⟨e, he, hkey, rfl, halive⟩ := Cache.exists_of_get hlive
    obtain ⟨hlatest, hexpires⟩ := h.fallback e he hkey
    refine iff_of_true ⟨fun _ => ⟨_, rfl⟩, ?_, ?_⟩ ?_
    · rintro _ ⟨⟩ hmarked
      exact absurd hmarked.symm Bool.false_ne_true
    · rintro _ ⟨⟩ -
      exact ⟨e.value, hlatest, rfl⟩
    · rintro ⟨-, -, ⟨name, hname⟩ | ⟨-, hover⟩⟩
      · rw [hfails] at hname
        cases hname
      · exact absurd (hover e.value hlatest) (Nat.not_le.2 (hexpires ▸ halive))
  | expired hbuilds hfails hgone =>
    rw [neverBlank_error, not_iff_not]
    refine ⟨fun hrecent => ⟨hrecent, hbuilds, .inr ⟨by rw [hfails]; rfl, fun latest hlatest => ?_⟩⟩,
      And.left⟩
    by_contra hnow
    rw [h.get_fallback hlatest (Nat.not_le.1 hnow)] at hgone
    cases hgone
  | uncaught hbuilds hfails =>
    rw [neverBlank_error, not_iff_not]
    exact ⟨fun hrecent => ⟨hrecent, hbuilds, .inl ⟨_, hfails⟩⟩, And.left⟩

end

/-! ### The runs -/

section Runs

variable {c : Casing} {st : Panel} {calls : List PanelCall}

theorem kept_of_run {C : List PanelCall → Panel → PanelCall → Prop}
    (h : (system c).Run C empty calls st) :
    st.Kept := by
  refine h.keeps kept_empty fun st call st' hkept hstep => ?_
  have hafter : st.after c call = some st' := hstep
  unfold after at hafter
  split_ifs at hafter
  obtain rfl := Option.some.inj hafter
  exact (snapshotGet_cases c st call).kept hkept

/-- **The panel is never blank** in a run if and only if no build of it fails with an exception that
is not caught, or after the day is over. -/
theorem neverBlank_iff :
    (system c).Run (fun _ st call => st.NeverBlank call (snapshotGet c call st.cache).1) empty calls
      st ↔
      (system c).Run (fun _ st call => ¬ st.Blanks call) empty calls st := by
  constructor
  · intro h
    exact h.mono_of_run fun _ st call hbefore hnever =>
      ((snapshotGet_cases c st call).neverBlank_step_iff (kept_of_run hbefore)).1 hnever
  · intro h
    exact h.mono_of_run fun _ st call hbefore hnever =>
      ((snapshotGet_cases c st call).neverBlank_step_iff (kept_of_run hbefore)).2 hnever

end Runs

/-- Every list is there, and empty. -/
def allEmpty : PanelAnswers := ⟨.ok "token", .ok [], fun _ => .ok [], fun _ => .ok []⟩

/-- The machines are refused with a row that has no number of processors. -/
def brokenMachines : PanelAnswers :=
  { allEmpty with list := fun s => if s = .vms then .error (.other "ValueError") else .ok [] }

/-- A picture is built; a minute later an operator asks for a new one, and gets an error page. -/
theorem blank_after_valueError :
    let first : PanelCall := ⟨false, 0, 1, by decide, allEmpty⟩
    let second : PanelCall := ⟨true, 60, 61, by decide, brokenMachines⟩
    ∃ st, (system .ascii).Run System.Free empty [first] st ∧ st.HasRecent second ∧
      st.clock ≤ second.start ∧
      (snapshotGet .ascii second st.cache).1 = .error (.other "ValueError") ∧
      ¬ st.NeverBlank second (snapshotGet .ascii second st.cache).1 := by
  intro first second
  have hbuilds : ∃ picture, allEmpty.build .ascii = .ok picture := by
    cases hbuild : allEmpty.build .ascii with
    | ok picture => exact ⟨picture, rfl⟩
    | error r =>
      have hfails : none = some r := build_eq_error.1 hbuild
      cases hfails
  obtain ⟨picture, hpicture⟩ := hbuilds
  have hlatest : empty.latestAfter .ascii first = some (first.built picture) := by
    simp only [latestAfter, first, hpicture]
    rfl
  have hraises : ∀ cache, (snapshotGet .ascii second cache).1 = .error (.other "ValueError") :=
    fun cache => by
    have hbuild : second.answers.build .ascii = .error (.other "ValueError") :=
      build_eq_error.2 (by decide)
    simp [snapshotGet, hbuild, second]
  have hrecent :
    HasRecent ⟨(snapshotGet .ascii first []).2, 1, empty.latestAfter .ascii first⟩ second :=
    ⟨first.built picture, hlatest, (by decide : 60 < 1 + fallbackTtl)⟩
  refine ⟨⟨(snapshotGet .ascii first []).2, 1, empty.latestAfter .ascii first⟩, ?_,
    hrecent, by decide, hraises _, ?_⟩
  · exact @System.Run.snoc _ _ _ _ _ [] _ _ _ .nil trivial (if_pos (Nat.zero_le _))
  · rw [hraises, neverBlank_error]
    exact not_not_intro hrecent

end Panel

end OpenCloud
