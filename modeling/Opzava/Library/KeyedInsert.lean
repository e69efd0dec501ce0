import Mathlib

/-!
Inserts under a key that may be absent.

`INSERT … ON CONFLICT (key) DO UPDATE SET key = EXCLUDED.key RETURNING *` returns the row that has
the key already, unchanged, or inserts a new one. A row without a key conflicts with none.

* `upsert`: the statement, which fails when the new row clashes with another constraint.
* `UniqueKeys.upsert`: the keys stay unique.
* `upsert_same_iff`: the row that is returned has a property of the new row if and only if all rows
  with its key have it.
-/

namespace Opzava.Library

variable {ρ κ : Type} {key : ρ → Option κ} {row : ρ} {rows : List ρ}

/-- No two rows have the same key. -/
def UniqueKeys (key : ρ → Option κ) (rows : List ρ) : Prop :=
  ∀ row ∈ rows, ∀ row' ∈ rows, ∀ k, key row = some k → key row' = some k → row = row'

lemma uniqueKeys_nil : UniqueKeys key ([] : List ρ) := fun _ h => absurd h List.not_mem_nil

/-- A change of the rows that keeps their keys keeps them unique. -/
lemma UniqueKeys.map {set : ρ → ρ} (hunique : UniqueKeys key rows)
    (hset : ∀ row, key (set row) = key row) : UniqueKeys key (rows.map set) := by
  intro r hr r' hr' k hk hk'
  obtain ⟨old, hold, rfl⟩ := List.mem_map.mp hr
  obtain ⟨old', hold', rfl⟩ := List.mem_map.mp hr'
  rw [hset] at hk hk'
  rw [hunique old hold old' hold' k hk hk']

variable [DecidableEq κ]

/-- The row with a key, if a key is given. -/
def findKey (key : ρ → Option κ) (k : Option κ) (rows : List ρ) : Option ρ :=
  rows.find? fun row => k ≠ none ∧ key row = k

/-- The insert of a row: what is returned, with the table, or nothing when it fails. -/
def upsert (key : ρ → Option κ) (clashes : ρ → Bool) (row : ρ) (rows : List ρ) :
    Option (ρ × List ρ) :=
  match findKey key (key row) rows with
  | some existing => some (existing, rows)
  | none => if rows.any clashes then none else some (row, rows ++ [row])

lemma mem_of_findKey {k : Option κ} (h : findKey key k rows = some row) :
    row ∈ rows ∧ k ≠ none ∧ key row = k := by
  have hfound := List.find?_some h
  rw [decide_eq_true_iff] at hfound
  exact ⟨List.mem_of_find?_eq_some h, hfound⟩

lemma ne_of_findKey_none {k : κ} (h : findKey key (some k) rows = none) :
    ∀ row ∈ rows, key row ≠ some k := by
  intro row hrow heq
  have hnot := List.find?_eq_none.mp h row hrow
  exact hnot (decide_eq_true ⟨Option.some_ne_none k, heq⟩)

/-- What an insert does: it returns a row with the key, or adds the new one, whose key is unused,
and which clashes with none. -/
lemma upsert_cases {clashes : ρ → Bool} {result : ρ × List ρ}
    (h : upsert key clashes row rows = some result) :
    (result.1 ∈ rows ∧ key row ≠ none ∧ key result.1 = key row ∧ result.2 = rows) ∨
    (result = (row, rows ++ [row]) ∧ (∀ k, key row = some k → ∀ row' ∈ rows, key row' ≠ some k) ∧
      ∀ row' ∈ rows, clashes row' = false) := by
  unfold upsert at h
  split at h
  · next existing hfind =>
      obtain rfl := Option.some.inj h
      obtain ⟨hmem, hsome, hkey⟩ := mem_of_findKey hfind
      exact .inl ⟨hmem, hsome, hkey, rfl⟩
  · next hfind =>
      split_ifs at h with hclash
      obtain rfl := Option.some.inj h
      refine .inr ⟨rfl, fun k hk => ne_of_findKey_none (hk ▸ hfind), fun row' hrow' => ?_⟩
      exact Bool.not_eq_true _ ▸ fun heq => hclash (List.any_eq_true.mpr ⟨row', hrow', heq⟩)

lemma UniqueKeys.upsert {clashes : ρ → Bool} {result : ρ × List ρ} (hunique : UniqueKeys key rows)
    (h : upsert key clashes row rows = some result) : UniqueKeys key result.2 := by
  rcases upsert_cases h with ⟨-, -, -, heq⟩ | ⟨rfl, hnew, -⟩
  · rw [heq]
    exact hunique
  · intro r hr r' hr' k hk hk'
    rcases List.mem_append.mp hr with hold | hlast
    · rcases List.mem_append.mp hr' with hold' | hlast'
      · exact hunique r hold r' hold' k hk hk'
      · obtain rfl := List.mem_singleton.mp hlast'
        exact absurd hk (hnew k hk' r hold)
    · obtain rfl := List.mem_singleton.mp hlast
      rcases List.mem_append.mp hr' with hold' | hlast'
      · exact absurd hk' (hnew k hk r' hold')
      · exact (List.mem_singleton.mp hlast').symm

/-- **The row that is returned** is like the new one if and only if all rows with its key are. -/
lemma upsert_same_iff {clashes : ρ → Bool} {result : ρ × List ρ} (P : ρ → Prop)
    (hunique : UniqueKeys key rows) (h : upsert key clashes row rows = some result) (hrow : P row) :
    P result.1 ↔ ∀ row' ∈ rows, ∀ k, key row = some k → key row' = some k → P row' := by
  rcases upsert_cases h with ⟨hmem, hsome, hkey, -⟩ | ⟨rfl, hnew, -⟩
  · obtain ⟨k, hk⟩ := Option.ne_none_iff_exists'.mp hsome
    rw [hk] at hkey
    constructor
    · intro hP row' hrow' k' hk' hkey'
      obtain rfl := Option.some.inj (hk.symm.trans hk')
      rw [hunique row' hrow' result.1 hmem k hkey' hkey]
      exact hP
    · exact fun hall => hall result.1 hmem k hk hkey
  · exact ⟨fun _ row' hrow' k hk hkey => absurd hkey (hnew k hk row' hrow'), fun _ => hrow⟩

/-- **A row that is found** in an earlier table is like the new one if and only if all rows with its
key are, when rows stay with their keys. -/
lemma findKey_same_iff {before : List ρ} (P : ρ → Prop) {k : Option κ} {found : ρ}
    (hunique : UniqueKeys key rows) (hkept : ∀ row ∈ before, ∃ row' ∈ rows, key row' = key row ∧
      (P row' ↔ P row)) (h : findKey key k before = some found) :
    P found ↔ ∀ row ∈ rows, ∀ k', k = some k' → key row = some k' → P row := by
  obtain ⟨hmem, hsome, hkey⟩ := mem_of_findKey h
  obtain ⟨k', rfl⟩ := Option.ne_none_iff_exists'.mp hsome
  obtain ⟨found', hfound', hkey', hP⟩ := hkept found hmem
  constructor
  · intro hfound row hrow k'' hk'' hrowKey
    obtain rfl := Option.some.inj hk''
    rw [hunique row hrow found' hfound' k' hrowKey (hkey'.trans hkey)]
    exact hP.mpr hfound
  · exact fun hall => hP.mp (hall found' hfound' k' rfl (hkey'.trans hkey))

end Opzava.Library
