import Mathlib.Data.List.Basic

/-!
# Caches whose entries expire

A cache is the list of its entries, each with the moment it expires.  `get` answers an entry that
has not expired; `set` replaces the entry of a key, `delete` removes it, and `add` sets it only
where there is none, saying whether it did.

An entry that has expired is never answered again, so keeping it in the list changes nothing.
-/

namespace OpenCloud

/-- An entry of a cache. -/
structure CacheEntry (κ ν : Type*) where
  key : κ
  value : ν
  expires : ℕ

/-- A cache. -/
abbrev Cache (κ ν : Type*) := List (CacheEntry κ ν)

namespace Cache

variable {κ ν : Type*} [DecidableEq κ] (cache : Cache κ ν) (now : ℕ) (key : κ)

/-- `cache.get(key)`. -/
def get : Option ν :=
  (List.find? (fun e => e.key = key ∧ now < e.expires) cache).map CacheEntry.value

/-- `cache.delete(key)`. -/
def delete : Cache κ ν := List.filter (fun e => e.key ≠ key) cache

/-- `cache.set(key, value, timeout)`. -/
def set (value : ν) (timeout : ℕ) : Cache κ ν := ⟨key, value, now + timeout⟩ :: delete cache key

/-- `cache.add(key, value, timeout)`. -/
def add (value : ν) (timeout : ℕ) : Bool × Cache κ ν :=
  match get cache now key with
  | some _ => (false, cache)
  | none => (true, set cache now key value timeout)

variable {cache now key} {e : CacheEntry κ ν} {value : ν} {timeout : ℕ}

theorem exists_of_get (h : get cache now key = some value) :
    ∃ e ∈ cache, e.key = key ∧ e.value = value ∧ now < e.expires := by
  obtain ⟨e, hfind, hvalue⟩ := Option.map_eq_some_iff.1 h
  obtain ⟨hkey, halive⟩ : e.key = key ∧ now < e.expires := by simpa using List.find?_some hfind
  exact ⟨e, List.mem_of_find?_eq_some hfind, hkey, hvalue, halive⟩

theorem mem_delete : e ∈ delete cache key ↔ e ∈ cache ∧ e.key ≠ key := by
  simp [delete]

theorem mem_set (h : e ∈ set cache now key value timeout) :
    e = ⟨key, value, now + timeout⟩ ∨ (e ∈ cache ∧ e.key ≠ key) := by
  rcases List.mem_cons.1 h with h | h
  · exact .inl h
  · exact .inr (mem_delete.1 h)

theorem get_eq_none : get cache now key = none ↔ ∀ e ∈ cache, e.key = key → e.expires ≤ now := by
  simp [get, List.find?_eq_none]

theorem get_delete_eq_none {key' : κ} :
    get (delete cache key') now key = none ↔ key' = key ∨ get cache now key = none := by
  simp only [get_eq_none, mem_delete, and_imp]
  constructor
  · intro h
    by_cases hkey : key' = key
    · exact .inl hkey
    · exact .inr fun e he hek => h e he (fun hek' => hkey (hek'.symm.trans hek)) hek
  · rintro (rfl | h) e he hne hek
    · exact absurd hek hne
    · exact h e he hek

theorem mem_set_of_ne (he : e ∈ cache) (h : e.key ≠ key) : e ∈ set cache now key value timeout :=
  List.mem_cons_of_mem _ (mem_delete.2 ⟨he, h⟩)

theorem add_cases (cache : Cache κ ν) (now : ℕ) (key : κ) (value : ν) (timeout : ℕ) :
    add cache now key value timeout = (false, cache) ∨
    ((∀ e ∈ cache, e.key = key → e.expires ≤ now) ∧
      add cache now key value timeout = (true, set cache now key value timeout)) := by
  unfold add
  cases hget : get cache now key with
  | some _ => exact .inl rfl
  | none => exact .inr ⟨get_eq_none.1 hget, rfl⟩

end Cache

end OpenCloud
