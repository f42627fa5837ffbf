import OpenCloud.Common.Dates
import OpenCloud.Integrations.ResponseCache
import OpenCloud.Lib.Json
import OpenCloud.Lib.ReadThrough

/-!
# The directory of the cluster

The accounts and the projects of an account change rarely, so they are read through a cache of their
own, for five minutes.  Nothing drops its entries; what was read, is answered until it expires.

## Main results

* `directory_of_run` : what is answered for a part of the directory, the cloud had there at some
  moment of the last five minutes, and of the delay of the thread that stored it.
-/

namespace OpenCloud

/-- A part of the directory. -/
inductive DirectoryPart where
  /-- `list_domains`, `resolve_domain_id`. -/
  | domains
  /-- `list_domain_projects`, `list_domain_project_details`. -/
  | projects (domainId : String)
  deriving DecidableEq

/-- What is asked of the cloud. -/
def DirectoryPart.path : DirectoryPart → String
  | domains => "/api/v2/identity/domains"
  | projects domainId => "/api/v2/identity/projects?domain_id=" ++ domainId

/-- `DIRECTORY_CACHE_TTL`. -/
def directoryCacheTtl : ℕ := 300

/-- `f'{_DIRECTORY_PREFIX}:{hashlib.sha256(path.encode()).hexdigest()[:16]}'`. -/
def directoryKey (h : Digest) (part : DirectoryPart) : String := "zadara:svc:" ++ h.digest part.path

section

variable {T : Type} [DecidableEq T]

/-- `_svc_get_cached`, in any number of threads; a body that is null is not stored. -/
def svcGetCached (h : Digest) :
    System (ReadThrough T DirectoryPart String Json) (ReadEvent T DirectoryPart String Json) :=
  ReadThrough.system (directoryKey h) (seconds directoryCacheTtl)

/-- The paths of these parts have digests of their own. -/
def OwnDigests (h : Digest) (parts : Set DirectoryPart) : Prop :=
  Set.InjOn (fun part => h.digest part.path) parts

theorem directoryKey_injOn {h : Digest} {parts : Set DirectoryPart} (hown : OwnDigests h parts) :
    Set.InjOn (directoryKey h) parts := by
  intro part hpart part' hpart' hkey
  exact hown hpart hpart' ((String.append_right_inj _).1 hkey)

/-- What is answered for a part of the directory was there, and for this part, at some moment of the
last 300 seconds, and of the time that a thread takes to store what it has read.  No other part is
answered, as long as no two paths that are asked have the same sixteen digits. -/
theorem directory_of_run {h : Digest} {parts : Set DirectoryPart} (hown : OwnDigests h parts)
    {start delay : ℕ} {directory : DirectoryPart → Option Json}
    {es : List (ReadEvent T DirectoryPart String Json)}
    {st : ReadThrough T DirectoryPart String Json} (hrun : (svcGetCached h).Run
      (fun es st e => ReadThrough.LooksIn parts es st e ∧ ReadThrough.Delays delay es st e)
      (.start start directory) es st)
    {i : T} {since : ℕ} {part : DirectoryPart} {answer : SourceAnswer DirectoryPart Json}
    (hanswer : st.readers i = .returned since part (some answer)) :
    answer.request = part ∧ since < answer.readAt + seconds 300 + delay ∧
      (svcGetCached h).Happened (.start start directory) (ReadThrough.Reads answer) es :=
  ReadThrough.answer_of_run (by decide) (directoryKey_injOn hown) hrun hanswer

end

/-- SHA-256 on two paths, and something else elsewhere. -/
def directoryDigest : Digest where
  digest text :=
    if text = "/api/v2/identity/domains" then "72ce59ab7bed4d2f"
    else if text = "/api/v2/identity/projects?domain_id=d1" then "ac79f8f9d0a78ebb"
    else "ffffffffffffffff"
  length_digest text := by
    split_ifs <;> decide +kernel

/-- The accounts, and the projects of one of them. -/
def twoParts : Set DirectoryPart := {part | part = .domains ∨ part = .projects "d1"}

instance : DecidablePred (· ∈ twoParts) :=
  fun part => inferInstanceAs (Decidable (part = .domains ∨ _))

theorem ownDigests_twoParts : OwnDigests directoryDigest twoParts := by
  rintro _ (rfl | rfl) _ (rfl | rfl) hsame
  · rfl
  · exact absurd hsame (by decide +kernel)
  · exact absurd hsame (by decide +kernel)
  · rfl

/-- One account, with one project. -/
def smallDirectory : DirectoryPart → Option Json
  | .domains => some (.string "Acme")
  | .projects _ => some (.string "Prod")

/-- An account is added between the reads of two threads, and the one that has read it stores
first. -/
def addedAccount : List (ReadEvent Bool DirectoryPart String Json) :=
  [.look false .domains, .look true .domains, .fetch false,
    .change .domains (some (.string "Acme, Beta")), .fetch true, .store true, .pass (seconds 1),
    .store false, .look true (.projects "d1"), .fetch true, .store true, .pass (seconds 299),
    .look true .domains]

theorem directory_of_run_addedAccount :
    ∃ (st : ReadThrough Bool DirectoryPart String Json) (answer : SourceAnswer DirectoryPart Json),
      (svcGetCached directoryDigest).Run
        (fun es st e => ReadThrough.LooksIn twoParts es st e ∧
          ReadThrough.Delays (seconds 1) es st e)
        (.start 0 smallDirectory) addedAccount st ∧
      st.readers true = .returned (seconds 300) .domains (some answer) ∧ answer.readAt = 0 ∧
      answer.request = .domains ∧ seconds 300 < answer.readAt + seconds 300 + seconds 1 ∧
      (svcGetCached directoryDigest).Happened (.start 0 smallDirectory)
        (ReadThrough.Reads answer) addedAccount := by
  have hexec :
      ((System.execAll (ReadThrough.exec (directoryKey directoryDigest) (seconds directoryCacheTtl))
        (fun es st e => ReadThrough.LooksIn twoParts es st e ∧
          ReadThrough.Delays (seconds 1) es st e)
        [] (.start 0 smallDirectory) addedAccount).bind fun st =>
        (st.readers true).shown.map fun shown =>
          (shown.1, shown.2.1, shown.2.2.readAt)) = some (seconds 300, .domains, 0) := by
    decide +kernel
  obtain ⟨st, hst, hreader⟩ := Option.bind_eq_some_iff.1 hexec
  obtain ⟨⟨since, part, answer⟩, hshown, hparts⟩ := Option.map_eq_some_iff.1 hreader
  have hrun := System.Run.of_exec hst
  have hanswer := Reader.shown_eq_some.1 hshown
  have hread : answer.readAt = 0 := congrArg (fun x => x.2.2) hparts
  obtain rfl : since = seconds 300 := congrArg Prod.fst hparts
  obtain rfl : part = .domains := congrArg (fun x => x.2.1) hparts
  exact ⟨st, answer, hrun, hanswer, hread, directory_of_run ownDigests_twoParts hrun hanswer⟩

end OpenCloud
