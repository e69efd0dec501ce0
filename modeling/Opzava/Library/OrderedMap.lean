import Mathlib

/-!
Insertion-ordered finite maps, the semantics of a `Map` object: a key holds at
most one value, overwriting a key keeps its place, a new key goes to the end,
and iteration follows the order of first insertion.

* `OrderedMap`: the entries in order, with the proof that no key repeats.
* `get_set`, `get_delete`: the two reading laws, from which every later fact
  about a table is derived.
* `mem_entries_iff`, `mem_values_iff`: scanning the entries and looking a key
  up see the same rows.
-/

namespace Opzava.Library

/-- A finite map that remembers the order in which its keys were inserted. -/
structure OrderedMap (κ ν : Type*) where
  entries : List (κ × ν)
  nodupKeys : (entries.map Prod.fst).Nodup

namespace OrderedMap

variable {κ ν : Type*}

/-- The map without entries. -/
def empty : OrderedMap κ ν := ⟨[], List.nodup_nil⟩

/-- The values in insertion order. -/
def values (m : OrderedMap κ ν) : List ν := m.entries.map Prod.snd

variable [DecidableEq κ]

/-- The value a key holds, if any. -/
def get (m : OrderedMap κ ν) (k : κ) : Option ν :=
  (m.entries.find? fun entry => entry.1 = k).map Prod.snd

/-- Whether a key holds a value. -/
def has (m : OrderedMap κ ν) (k : κ) : Bool := (m.get k).isSome

/-- Overwrite one entry list at a key, or append the key at the end. -/
def setEntries (k : κ) (v : ν) : List (κ × ν) → List (κ × ν)
  | [] => [(k, v)]
  | entry :: rest => if entry.1 = k then (k, v) :: rest else entry :: setEntries k v rest

lemma mem_keys_setEntries {k k' : κ} {v : ν} : ∀ {l : List (κ × ν)},
    k' ∈ (setEntries k v l).map Prod.fst → k' = k ∨ k' ∈ l.map Prod.fst
  | [], h => by simpa [setEntries] using h
  | entry :: rest, h => by
      rw [setEntries] at h
      split_ifs at h with hk
      · simp only [List.map_cons, List.mem_cons] at h ⊢
        tauto
      · simp only [List.map_cons, List.mem_cons] at h ⊢
        rcases h with h | h
        · exact .inr (.inl h)
        · exact (mem_keys_setEntries h).imp_right .inr

lemma nodup_setEntries (k : κ) (v : ν) : ∀ {l : List (κ × ν)},
    (l.map Prod.fst).Nodup → ((setEntries k v l).map Prod.fst).Nodup
  | [], _ => by simp [setEntries]
  | entry :: rest, h => by
      rw [List.map_cons, List.nodup_cons] at h
      rw [setEntries]
      split_ifs with hk
      · subst hk
        exact List.nodup_cons.mpr h
      · rw [List.map_cons, List.nodup_cons]
        refine ⟨fun hmem => ?_, nodup_setEntries k v h.2⟩
        exact (mem_keys_setEntries hmem).elim hk h.1

/-- Write a key: an existing key keeps its place, a new key goes to the end. -/
def set (m : OrderedMap κ ν) (k : κ) (v : ν) : OrderedMap κ ν :=
  ⟨setEntries k v m.entries, nodup_setEntries k v m.nodupKeys⟩

/-- Remove a key. -/
def delete (m : OrderedMap κ ν) (k : κ) : OrderedMap κ ν :=
  ⟨m.entries.filter fun entry => entry.1 ≠ k,
    m.nodupKeys.sublist (List.filter_sublist.map Prod.fst)⟩

/-! ### Reading laws -/

@[simp] lemma get_empty (k : κ) : (empty : OrderedMap κ ν).get k = none := rfl

@[simp] lemma has_eq_true {m : OrderedMap κ ν} {k : κ} :
    m.has k = true ↔ ∃ v, m.get k = some v := Option.isSome_iff_exists

@[simp] lemma has_eq_false {m : OrderedMap κ ν} {k : κ} :
    m.has k = false ↔ m.get k = none := by
  rw [has, Option.isSome_eq_false_iff, Option.isNone_iff_eq_none]

lemma find_setEntries (k k' : κ) (v : ν) : ∀ l : List (κ × ν),
    ((setEntries k v l).find? fun entry => entry.1 = k').map Prod.snd =
      if k' = k then some v else (l.find? fun entry => entry.1 = k').map Prod.snd
  | [] => by
      by_cases h : k = k'
      · simp [setEntries, h]
      · simp [setEntries, h, Ne.symm h]
  | entry :: rest => by
      have ih := find_setEntries k k' v rest
      rw [setEntries]
      split_ifs with hk hkk hkk
      · simp [hkk]
      · simp [hk, Ne.symm hkk]
      · subst hkk
        rw [List.find?_cons_of_neg (by simpa using hk)]
        simpa using ih
      · by_cases he : entry.1 = k'
        · simp [he]
        · rw [List.find?_cons_of_neg (by simpa using he),
            List.find?_cons_of_neg (by simpa using he)]
          simpa [hkk] using ih

/-- Reading after a write. -/
lemma get_set (m : OrderedMap κ ν) (k k' : κ) (v : ν) :
    (m.set k v).get k' = if k' = k then some v else m.get k' :=
  find_setEntries k k' v m.entries

@[simp] lemma get_set_self (m : OrderedMap κ ν) (k : κ) (v : ν) :
    (m.set k v).get k = some v := by rw [get_set, if_pos rfl]

lemma get_set_of_ne (m : OrderedMap κ ν) {k k' : κ} (v : ν) (h : k' ≠ k) :
    (m.set k v).get k' = m.get k' := by rw [get_set, if_neg h]

/-- A value read after a write is the one written, or was there before under
another key. -/
lemma get_set_eq_some {m : OrderedMap κ ν} {k k' : κ} {v w : ν}
    (h : (m.set k v).get k' = some w) : (k' = k ∧ w = v) ∨ (k' ≠ k ∧ m.get k' = some w) := by
  rw [get_set] at h
  split_ifs at h with hk
  · exact .inl ⟨hk, (Option.some.inj h).symm⟩
  · exact .inr ⟨hk, h⟩

/-- Reading after a removal. -/
lemma get_delete (m : OrderedMap κ ν) (k k' : κ) :
    (m.delete k).get k' = if k' = k then none else m.get k' := by
  have key : ∀ l : List (κ × ν),
      ((l.filter fun entry => entry.1 ≠ k).find? fun entry => entry.1 = k').map Prod.snd =
        if k' = k then none else (l.find? fun entry => entry.1 = k').map Prod.snd := by
    intro l
    induction l with
    | nil => simp
    | cons entry rest ih =>
        by_cases he : entry.1 = k
        · rw [List.filter_cons_of_neg (by simpa using he), ih]
          split_ifs with hk
          · rfl
          · rw [List.find?_cons_of_neg (by simpa [he] using Ne.symm hk)]
        · rw [List.filter_cons_of_pos (by simpa using he)]
          by_cases hk : entry.1 = k'
          · simp [hk, show k' ≠ k from hk ▸ he]
          · rw [List.find?_cons_of_neg (by simpa using hk),
              List.find?_cons_of_neg (by simpa using hk)]
            exact ih
  exact key m.entries

@[simp] lemma get_delete_self (m : OrderedMap κ ν) (k : κ) : (m.delete k).get k = none := by
  rw [get_delete, if_pos rfl]

lemma get_delete_of_ne (m : OrderedMap κ ν) {k k' : κ} (h : k' ≠ k) :
    (m.delete k).get k' = m.get k' := by rw [get_delete, if_neg h]

/-- Looking a key up finds exactly the entry stored under it. -/
lemma mem_entries_iff {m : OrderedMap κ ν} {k : κ} {v : ν} :
    (k, v) ∈ m.entries ↔ m.get k = some v := by
  have key : ∀ l : List (κ × ν), (l.map Prod.fst).Nodup →
      ((k, v) ∈ l ↔ (l.find? fun entry => entry.1 = k).map Prod.snd = some v) := by
    intro l
    induction l with
    | nil => simp
    | cons entry rest ih =>
        intro hnd
        rw [List.map_cons, List.nodup_cons] at hnd
        by_cases he : entry.1 = k
        · rw [List.find?_cons_of_pos (by simpa using he)]
          constructor
          · intro hmem
            rcases List.mem_cons.mp hmem with rfl | hmem
            · rfl
            · exact absurd (List.mem_map_of_mem (f := Prod.fst) hmem) (he ▸ hnd.1)
          · intro hv
            rw [Option.map_some, Option.some.injEq] at hv
            exact List.mem_cons.mpr (.inl (Prod.ext he.symm hv.symm))
        · rw [List.find?_cons_of_neg (by simpa using he), ← ih hnd.2]
          refine ⟨fun hmem => (List.mem_cons.mp hmem).resolve_left ?_, List.mem_cons_of_mem _⟩
          rintro rfl
          exact he rfl
  exact key m.entries m.nodupKeys

/-- The scanned values are the values some key holds. -/
lemma mem_values_iff {m : OrderedMap κ ν} {v : ν} :
    v ∈ m.values ↔ ∃ k, m.get k = some v := by
  simp only [values, List.mem_map, Prod.exists, exists_eq_right, mem_entries_iff]

/-- Values that determine their keys are scanned once each. -/
lemma nodup_values {m : OrderedMap κ ν} (keyOf : ν → κ)
    (h : ∀ k v, m.get k = some v → k = keyOf v) : m.values.Nodup := by
  have hkeys : m.values.map keyOf = m.entries.map Prod.fst := by
    rw [values, List.map_map]
    refine List.map_congr_left fun entry hentry => ?_
    exact (h entry.1 entry.2 (mem_entries_iff.mp hentry)).symm
  exact (hkeys ▸ m.nodupKeys).of_map

/-- A scan that one value alone passes finds that value. -/
lemma filter_values_eq_singleton {m : OrderedMap κ ν} (keyOf : ν → κ)
    (h : ∀ k v, m.get k = some v → k = keyOf v) {p : ν → Bool} {k : κ} {v : ν}
    (hget : m.get k = some v) (hp : p v = true)
    (honly : ∀ k' v', m.get k' = some v' → p v' = true → v' = v) :
    m.values.filter p = [v] := by
  refine List.perm_singleton.mp ((List.perm_ext_iff_of_nodup ((nodup_values keyOf h).filter _)
    (List.nodup_singleton v)).mpr fun v' => ?_)
  rw [List.mem_filter, mem_values_iff, List.mem_singleton]
  constructor
  · rintro ⟨⟨k', hget'⟩, hp'⟩
    exact honly k' v' hget' hp'
  · rintro rfl
    exact ⟨⟨k, hget⟩, hp⟩

end OrderedMap

end Opzava.Library
