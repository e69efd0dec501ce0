import Mathlib

/-!
A store whose values have hashes: a writer gives the hash of what it has read, and writes only if
that is still the hash of the store.

* `HashedStore.swap`: a write that is based on a value.
* `current_of_base`: a write that is applied finds what it was based on.
-/

namespace Opzava.Library

/-- The values that a store has had, and the one that it has; the hash of a value is its number. -/
structure HashedStore (α : Type*) where
  versions : List α
  live : ℕ
  live_lt : live < versions.length

namespace HashedStore

variable {α : Type*} {store : HashedStore α} {base : ℕ} {x y : α}

def start (x : α) : HashedStore α := ⟨[x], 0, Nat.zero_lt_one⟩

def current (store : HashedStore α) : α := store.versions.get ⟨store.live, store.live_lt⟩

/-- A value with another hash. -/
def write (store : HashedStore α) (x : α) : HashedStore α where
  versions := store.versions ++ [x]
  live := store.versions.length
  live_lt := by rw [List.length_append]; exact Nat.lt_succ_self _

/-- A value that the store has had before. -/
def restore (store : HashedStore α) (version : ℕ) : HashedStore α :=
  if h : version < store.versions.length then ⟨store.versions, version, h⟩ else store

/-- A change of the value, if the base is its hash. -/
def swap (store : HashedStore α) (base : ℕ) (f : α → α) : Option (HashedStore α) :=
  if base = store.live then some (store.write (f store.current)) else none

/-- The value that has this hash. -/
def valueOf (store : HashedStore α) (base : ℕ) : Option α := store.versions[base]?

lemma valueOf_live : store.valueOf store.live = some store.current :=
  List.getElem?_eq_getElem store.live_lt

/-- **A hash stands for one value.** -/
lemma current_of_base (h : store.valueOf base = some x) (hlive : base = store.live) :
    store.current = x := by
  rw [hlive, valueOf_live] at h
  exact Option.some.inj h

@[simp] lemma current_start : (start x).current = x := rfl

@[simp] lemma current_write : (store.write x).current = x := by
  simp [current, write]

lemma valueOf_write_of_some (h : store.valueOf base = some y) :
    (store.write x).valueOf base = some y := by
  rw [valueOf] at h
  rw [valueOf, write, List.getElem?_append_left (List.getElem?_eq_some_iff.mp h).1, h]

lemma valueOf_restore (version : ℕ) :
    (store.restore version).valueOf base = store.valueOf base := by
  unfold restore
  split <;> rfl

lemma mem_versions_restore {version : ℕ} :
    x ∈ (store.restore version).versions ↔ x ∈ store.versions := by
  unfold restore
  split <;> rfl

lemma mem_versions_write : y ∈ (store.write x).versions ↔ y ∈ store.versions ∨ y = x := by
  simp [write]

lemma current_mem : store.current ∈ store.versions := List.get_mem _ _

/-- A change that is applied. -/
lemma swap_eq_some {f : α → α} {store' : HashedStore α} (h : store.swap base f = some store') :
    base = store.live ∧ store' = store.write (f store.current) := by
  unfold swap at h
  split at h
  · next hlive => exact ⟨hlive, (Option.some.inj h).symm⟩
  · cases h

end HashedStore

end Opzava.Library
