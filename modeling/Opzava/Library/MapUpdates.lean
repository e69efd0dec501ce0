import Opzava.Library.OrderedMap

/-!
A `Map` that is rewritten entry by entry while it is iterated, and its size.

* `size_set`, `size_delete`: the size after a write and after a removal.
* `updateAll`: every entry is kept, changed or removed.
* `get_updateAll`, `size_updateAll_le`: what is read then, and that nothing is added.
-/

namespace Opzava.Library.OrderedMap

variable {κ ν : Type*}

def size (m : OrderedMap κ ν) : ℕ := m.entries.length

variable [DecidableEq κ] {m : OrderedMap κ ν} {k k' : κ} {v : ν} {f : κ → ν → Option ν}

lemma length_setEntries (k : κ) (v : ν) : ∀ l : List (κ × ν), (setEntries k v l).length =
    if k ∈ l.map Prod.fst then l.length else l.length + 1
  | [] => rfl
  | entry :: rest => by
      have ih := length_setEntries k v rest
      rw [setEntries, List.map_cons]
      by_cases hk : entry.1 = k
      · rw [if_pos hk, if_pos (hk ▸ List.mem_cons_self), List.length_cons, List.length_cons]
      · rw [if_neg hk, List.length_cons, ih, List.length_cons]
        by_cases hmem : k ∈ rest.map Prod.fst
        · rw [if_pos hmem, if_pos (List.mem_cons_of_mem _ hmem)]
        · rw [if_neg hmem, if_neg fun h => (List.mem_cons.mp h).elim (fun h => hk h.symm) hmem]

lemma mem_keys_iff_has : k ∈ m.entries.map Prod.fst ↔ m.has k = true := by
  rw [has_eq_true]
  constructor
  · intro hmem
    obtain ⟨⟨key, value⟩, hentry, rfl⟩ := List.mem_map.mp hmem
    exact ⟨value, mem_entries_iff.mp hentry⟩
  · rintro ⟨value, hget⟩
    exact List.mem_map.mpr ⟨(k, value), mem_entries_iff.mpr hget, rfl⟩

/-- A new key makes a map larger by one. -/
lemma size_set : (m.set k v).size = if m.has k then m.size else m.size + 1 :=
  (length_setEntries k v m.entries).trans (if_congr mem_keys_iff_has rfl rfl)

lemma size_delete_le : (m.delete k).size ≤ m.size := List.length_filter_le _ _

/-- Removing a key makes a map smaller. -/
lemma size_delete_lt (h : m.has k = true) : (m.delete k).size < m.size := by
  obtain ⟨value, hget⟩ := has_eq_true.mp h
  refine List.length_filter_lt_length_iff_exists.mpr ⟨(k, value), mem_entries_iff.mpr hget, ?_⟩
  rw [decide_eq_true_eq]
  exact fun hne => hne rfl

/-- One entry is changed or removed. -/
def update (m : OrderedMap κ ν) (k : κ) (value : Option ν) : OrderedMap κ ν :=
  match value with
  | some value => m.set k value
  | none => m.delete k

lemma get_update {value : Option ν} :
    (m.update k value).get k' = if k' = k then value else m.get k' := by
  cases value with
  | some value => exact get_set m k k' value
  | none => exact get_delete m k k'

lemma size_update_le {value : Option ν} (h : m.has k = true) :
    (m.update k value).size ≤ m.size := by
  cases value with
  | some value => exact (size_set.trans (if_pos h)).le
  | none => exact size_delete_le

/-- `for (const [key, value] of map)` with a write or a removal of the key. -/
def updateAll (f : κ → ν → Option ν) (m : OrderedMap κ ν) : OrderedMap κ ν :=
  m.entries.foldl (fun m entry => m.update entry.1 (f entry.1 entry.2)) m

lemma get_foldl_update {entries : List (κ × ν)} (h : (entries.map Prod.fst).Nodup) :
    (entries.foldl (fun m entry => m.update entry.1 (f entry.1 entry.2)) m).get k =
      match entries.find? fun entry => entry.1 = k with
      | some entry => f entry.1 entry.2
      | none => m.get k := by
  induction entries generalizing m with
  | nil => rfl
  | cons entry entries ih =>
      rw [List.map_cons, List.nodup_cons] at h
      rw [List.foldl_cons, ih h.2]
      by_cases hk : entry.1 = k
      · have hnone : (entries.find? fun entry => entry.1 = k) = none := by
          refine List.find?_eq_none.mpr fun other hother hsame => h.1 ?_
          rw [hk, ← of_decide_eq_true hsame]
          exact List.mem_map_of_mem hother
        rw [List.find?_cons_of_pos (by simpa using hk), hnone]
        dsimp only
        rw [get_update, if_pos hk.symm]
      · rw [List.find?_cons_of_neg (by simpa using hk)]
        cases entries.find? fun entry => entry.1 = k with
        | some other => rfl
        | none => exact get_update.trans (if_neg fun heq => hk heq.symm)

/-- What is read after every entry was updated. -/
lemma get_updateAll : (m.updateAll f).get k = (m.get k).bind (f k) := by
  rw [updateAll, get_foldl_update m.nodupKeys, get]
  cases hfind : m.entries.find? fun entry => entry.1 = k with
  | some entry =>
      have hfound := List.find?_some hfind
      have hkey : entry.1 = k := of_decide_eq_true hfound
      dsimp only
      rw [hkey]
      rfl
  | none => rfl

lemma size_foldl_update_le {entries : List (κ × ν)} (hnodup : (entries.map Prod.fst).Nodup)
    (h : ∀ entry ∈ entries, m.has entry.1 = true) :
    (entries.foldl (fun m entry => m.update entry.1 (f entry.1 entry.2)) m).size ≤ m.size := by
  induction entries generalizing m with
  | nil => exact le_rfl
  | cons entry entries ih =>
      rw [List.map_cons, List.nodup_cons] at hnodup
      rw [List.foldl_cons]
      refine (ih hnodup.2 fun other hother => ?_).trans (size_update_le (h _ List.mem_cons_self))
      have hne : other.1 ≠ entry.1 := fun heq =>
        hnodup.1 (heq ▸ List.mem_map_of_mem hother)
      rw [has, get_update, if_neg hne]
      exact h other (List.mem_cons_of_mem _ hother)

lemma size_updateAll_le : (m.updateAll f).size ≤ m.size :=
  size_foldl_update_le m.nodupKeys fun entry hentry =>
    has_eq_true.mpr ⟨entry.2, mem_entries_iff.mp hentry⟩

end Opzava.Library.OrderedMap
