import OpenCloud.Lib.ReadThrough
import OpenCloud.Platform.UserSwitches

/-!
# The lists of users

The panel reads the users of every account through a cache, for a minute, and a switch that was
flipped drops the list of its account.  A thread that had read the list before the switch, and
stores it after it was dropped, brings the old list back.

## Main results

* `forgetAccountUsers_iff` : after a list was dropped, no older one is shown, exactly if no thread
  holds one.
-/

namespace OpenCloud

/-- A row of a list of users. -/
structure DomainUser where
  id : String
  name : String
  email : Option String
  enabled : Bool
  mfaEnabled : Bool
  isLocal : Bool
  systemUser : Bool
  createdAt : Option String
  passwordExpiresAt : Option String
  defaultProjectId : Option String
  deriving DecidableEq

/-- `_USERS_CACHE_TTL`. -/
def usersCacheTtl : ℕ := 60

section

variable {T : Type} [DecidableEq T]

/-- `_account_users` and `_forget_account_users`, in any number of threads; the lists in the cloud
change as they like. -/
def accountUsers : System (ReadThrough T String String (List DomainUser))
    (ReadEvent T String String (List DomainUser)) :=
  ReadThrough.system accountUsersKey (seconds usersCacheTtl)

/-- `_forget_account_users`. -/
def forgetAccountUsers (accountId : String) (st : ReadThrough T String String (List DomainUser)) :
    ReadThrough T String String (List DomainUser) :=
  st.forgotten accountUsersKey accountId

/-- **A dropped list stays dropped, but for threads that hold it.**  After an account's list was
dropped at the moment `st.now`, a thread that looks later shows nothing that was read before `cut`,
say the moment of the switch, exactly if no thread holds a list of the account from before `cut`
that it has not stored. -/
theorem forgetAccountUsers_iff {start cut : ℕ} {lists : String → Option (List DomainUser)}
    {es : List (ReadEvent T String String (List DomainUser))}
    {st : ReadThrough T String String (List DomainUser)}
    (hrun : accountUsers.Run System.Free (.start start lists) es st) (hcut : cut ≤ st.now)
    (accountId : String) :
    (∀ es' st' i since answer, accountUsers.Run System.Free
      (forgetAccountUsers accountId st) es' st' →
      st'.readers i = .returned since accountId (some answer) → st.now < since →
        cut ≤ answer.readAt) ↔
    ∀ i, ∀ answer ∈ (st.readers i).held, answer.request = accountId → cut ≤ answer.readAt := by
  have hlooks : ∀ (es : List (ReadEvent T String String (List DomainUser)))
      (st : ReadThrough T String String (List DomainUser)) e,
      System.Free es st e → ReadThrough.LooksIn Set.univ es st e := fun _ _ e _ => by
        cases e <;> trivial
  have hinj : Set.InjOn accountUsersKey Set.univ :=
    fun _ _ _ _ hkey => (String.append_right_inj _).1 hkey
  have hiff :=
    ReadThrough.forget_iff (show 1 < seconds usersCacheTtl by decide) hinj (Set.mem_univ accountId)
    (hrun.mono hlooks) hcut
  refine ⟨fun h => hiff.1 fun es' st' i since answer hrun' => ?_,
    fun h es' st' i since answer hrun' => ?_⟩
  · exact h es' st' i since answer (hrun'.mono fun _ _ _ _ => trivial)
  · exact hiff.2 h es' st' i since answer (hrun'.mono hlooks)

end

/-- A user who is turned off. -/
def annListed (enabled : Bool) : DomainUser :=
  ⟨"u1", "ann", none, enabled, false, true, false, none, none, none⟩

/-- A thread reads the list, and the user is turned off before it has stored it. -/
def readBeforeSwitch : List (ReadEvent Bool String String (List DomainUser)) :=
  [.look false "d1", .fetch false, .pass 1, .change "d1" (some [annListed false])]

/-- The old list comes back. -/
theorem forgetAccountUsers_iff_ann :
    ∃ st : ReadThrough Bool String String (List DomainUser),
      accountUsers.Run System.Free (.start 0 fun _ => some [annListed true]) readBeforeSwitch st ∧
      ¬ ∀ es' st' i since answer, accountUsers.Run System.Free
        (forgetAccountUsers "d1" st) es' st' →
        st'.readers i = .returned since "d1" (some answer) → st.now < since →
          1 ≤ answer.readAt := by
  have hexec :
    ((System.execAll (ReadThrough.exec accountUsersKey (seconds usersCacheTtl)) System.Free []
      (.start 0 fun _ => some [annListed true]) readBeforeSwitch).map fun st =>
        (st.now, (st.readers false).held)) =
      some (1, some ⟨"d1", [annListed true], 0⟩) := by decide +kernel
  obtain ⟨st, hst, hheld⟩ := Option.map_eq_some_iff.1 hexec
  have hrun := System.Run.of_exec hst
  have hnow : st.now = 1 := congrArg Prod.fst hheld
  refine ⟨st, hrun, fun h => ?_⟩
  have hnone := (forgetAccountUsers_iff hrun hnow.ge "d1").1 h
  exact absurd (hnone false _ (congrArg Prod.snd hheld) rfl) (by decide)

end OpenCloud
