import Mathlib

/-!
Tables as lists of rows, and the statements that write them.

* `updateWhere`: `UPDATE … SET … WHERE …`; `returning` gives the rows of its
  `RETURNING` clause.
* `map_updateWhere`: an update that leaves a column alone leaves the list of its values
  alone, so a column that is unique stays unique.
* `mem_updateWhere`: where a row of the updated table comes from.
* `putRow`: a row in the place of the one with its key, or as a new one.
-/

namespace Opzava.Library

variable {ρ κ : Type}

/-- `UPDATE … SET … WHERE …`. -/
def updateWhere (cond : ρ → Bool) (set : ρ → ρ) (rows : List ρ) : List ρ :=
  rows.map fun row => if cond row = true then set row else row

/-- The rows `UPDATE … SET … WHERE … RETURNING` returns. -/
def returning (cond : ρ → Bool) (set : ρ → ρ) (rows : List ρ) : List ρ :=
  (rows.filter cond).map set

variable {cond : ρ → Bool} {set : ρ → ρ} {rows : List ρ} {row : ρ}

lemma mem_returning : row ∈ returning cond set rows ↔
    ∃ old ∈ rows, cond old = true ∧ row = set old := by
  rw [returning, List.mem_map]
  constructor
  · rintro ⟨old, hold, rfl⟩
    obtain ⟨hmem, hcond⟩ := List.mem_filter.mp hold
    exact ⟨old, hmem, hcond, rfl⟩
  · rintro ⟨old, hmem, hcond, rfl⟩
    exact ⟨old, List.mem_filter.mpr ⟨hmem, hcond⟩, rfl⟩

/-- A row of the updated table is an old row left alone, or an old row updated. -/
lemma mem_updateWhere : row ∈ updateWhere cond set rows ↔
    (row ∈ rows ∧ cond row = false) ∨ ∃ old ∈ rows, cond old = true ∧ row = set old := by
  rw [updateWhere, List.mem_map]
  constructor
  · rintro ⟨old, hold, rfl⟩
    by_cases hcond : cond old = true
    · rw [if_pos hcond]
      exact .inr ⟨old, hold, hcond, rfl⟩
    · rw [if_neg hcond]
      exact .inl ⟨hold, Bool.not_eq_true _ ▸ hcond⟩
  · rintro (⟨hmem, hcond⟩ | ⟨old, hmem, hcond, rfl⟩)
    · exact ⟨row, hmem, by rw [hcond, if_neg Bool.false_ne_true]⟩
    · exact ⟨old, hmem, if_pos hcond⟩

/-- A column the update leaves alone. -/
lemma map_updateWhere (column : ρ → κ) (h : ∀ row, column (set row) = column row) :
    (updateWhere cond set rows).map column = rows.map column := by
  rw [updateWhere, List.map_map]
  refine List.map_congr_left fun row _ => ?_
  rw [Function.comp_apply]
  split_ifs
  · exact h row
  · rfl

/-- An update whose condition no row meets. -/
lemma updateWhere_of_forall (h : ∀ row ∈ rows, cond row = false) :
    updateWhere cond set rows = rows := by
  rw [updateWhere]
  refine (List.map_congr_left fun row hrow => ?_).trans (List.map_id rows)
  rw [h row hrow, if_neg Bool.false_ne_true]
  rfl

/-- A selection that no updated row is in, before or after. -/
lemma filter_updateWhere {p : ρ → Bool}
    (h : ∀ row ∈ rows, cond row = true → p row = false ∧ p (set row) = false) :
    (updateWhere cond set rows).filter p = rows.filter p := by
  rw [updateWhere]
  induction rows with
  | nil => rfl
  | cons row rest ih =>
      have hrest := ih fun other hother => h other (List.mem_cons_of_mem _ hother)
      rw [List.map_cons, List.filter_cons, List.filter_cons, hrest]
      by_cases hcond : cond row = true
      · obtain ⟨hbefore, hafter⟩ := h row List.mem_cons_self hcond
        rw [if_pos hcond, hbefore, hafter, if_neg Bool.false_ne_true, if_neg Bool.false_ne_true]
      · rw [if_neg hcond]

/-- A unique column stays unique, if a new value is appended. -/
lemma nodup_map_append {column : ρ → κ} (h : (rows.map column).Nodup)
    (hnew : ∀ old ∈ rows, column old ≠ column row) : ((rows ++ [row]).map column).Nodup := by
  rw [List.map_append]
  refine h.append (List.nodup_singleton _) fun key hold hsingle => ?_
  obtain ⟨old, hmem, rfl⟩ := List.mem_map.mp hold
  exact hnew old hmem (List.mem_singleton.mp hsingle)

/-- Rows with the same value in a unique column are the same row. -/
lemma eq_of_unique {column : ρ → κ} (h : (rows.map column).Nodup) {a b : ρ} (ha : a ∈ rows)
    (hb : b ∈ rows) (heq : column a = column b) : a = b :=
  List.inj_on_of_nodup_map h ha hb heq

/-- Elements with the same image under a partial function without repeated images are
the same. -/
lemma eq_of_nodup_filterMap {α β : Type} {f : α → Option β} {l : List α} {a b : α} {c : β}
    (h : (l.filterMap f).Nodup) (ha : a ∈ l) (hb : b ∈ l) (hfa : f a = some c)
    (hfb : f b = some c) : a = b := by
  induction l with
  | nil => cases ha
  | cons x rest ih =>
      rw [List.filterMap_cons] at h
      have hmem : ∀ {y : α}, y ∈ rest → f y = some c → c ∈ rest.filterMap f :=
        fun hy hfy => List.mem_filterMap.mpr ⟨_, hy, hfy⟩
      rcases List.mem_cons.mp ha with rfl | harest
      · rcases List.mem_cons.mp hb with rfl | hbrest
        · rfl
        · rw [hfa] at h
          exact absurd (hmem hbrest hfb) (List.nodup_cons.mp h).1
      · rcases List.mem_cons.mp hb with rfl | hbrest
        · rw [hfb] at h
          exact absurd (hmem harest hfa) (List.nodup_cons.mp h).1
        · refine ih ?_ harest hbrest
          cases hx : f x with
          | none => rwa [hx] at h
          | some y =>
              rw [hx] at h
              exact (List.nodup_cons.mp h).2

/-- As many images as elements, where the partial function is defined. -/
lemma length_filterMap_filter {α β : Type} {f : α → Option β} {p : α → Bool}
    (h : ∀ a, p a = true → (f a).isSome = true) (l : List α) :
    ((l.filter p).filterMap f).length = l.countP p := by
  have hall : (l.filter p).countP (fun a => (f a).isSome) = (l.filter p).length :=
    List.countP_eq_length.mpr fun a ha => h a (List.mem_filter.mp ha).2
  rw [List.length_filterMap_eq_countP, hall, ← List.countP_eq_length_filter]

/-- One more element under a partial function, if its image is new. -/
lemma nodup_filterMap_append {α β : Type} {f : α → Option β} {l : List α} {a : α}
    (h : (l.filterMap f).Nodup) (hnew : ∀ b, f a = some b → ∀ x ∈ l, f x ≠ some b) :
    ((l ++ [a]).filterMap f).Nodup := by
  rw [List.filterMap_append]
  refine h.append ?_ ?_
  · rw [List.filterMap_cons, List.filterMap_nil]
    cases f a with
    | none => exact List.nodup_nil
    | some b => exact List.nodup_singleton b
  · intro b hold hsingle
    obtain ⟨x, hx, hfx⟩ := List.mem_filterMap.mp hold
    obtain ⟨y, hy, hfy⟩ := List.mem_filterMap.mp hsingle
    rw [List.mem_singleton.mp hy] at hfy
    exact hnew b hfy x hx hfx

/-- At most one element has a given image under a partial function without repeated
images. -/
lemma length_filter_le_one {α β : Type} {f : α → Option β} {l : List α} {c : β} {q : α → Bool}
    (h : (l.filterMap f).Nodup) (hq : ∀ a, q a = true → f a = some c) :
    (l.filter q).length ≤ 1 := by
  have hsub : ((l.filter q).filterMap f).Nodup := h.sublist (List.filter_sublist.filterMap f)
  cases hfilter : l.filter q with
  | nil => exact Nat.zero_le 1
  | cons a rest =>
      cases rest with
      | nil => exact le_rfl
      | cons b rest =>
          have ha : q a = true := (List.mem_filter.mp (hfilter ▸ List.mem_cons_self)).2
          have hb : q b = true :=
            (List.mem_filter.mp (hfilter ▸ List.mem_cons_of_mem _ List.mem_cons_self)).2
          rw [hfilter, List.filterMap_cons, hq a ha, List.filterMap_cons, hq b hb] at hsub
          exact absurd List.mem_cons_self (List.nodup_cons.mp hsub).1

/-! ### Rows by their keys -/

variable [DecidableEq κ]

/-- The row in the place of the one with its key, or as a new one. -/
def putRow (key : ρ → κ) (row : ρ) (rows : List ρ) : List ρ :=
  if rows.any fun old => key old = key row then
    rows.map fun old => if key old = key row then row else old
  else rows ++ [row]

lemma mem_putRow {key : ρ → κ} {other : ρ} :
    other ∈ putRow key row rows ↔ other = row ∨ (other ∈ rows ∧ key other ≠ key row) := by
  rw [putRow]
  split_ifs with hany
  · rw [List.mem_map]
    constructor
    · rintro ⟨old, hold, heq⟩
      split_ifs at heq with hkey
      · exact .inl heq.symm
      · exact .inr (heq ▸ ⟨hold, hkey⟩)
    · rintro (rfl | ⟨hmem, hkey⟩)
      · obtain ⟨old, hold, hkey⟩ := List.any_eq_true.mp hany
        exact ⟨old, hold, if_pos (of_decide_eq_true hkey)⟩
      · exact ⟨other, hmem, if_neg hkey⟩
  · have hnew : ∀ old ∈ rows, key old ≠ key row := fun old hold hkey =>
      hany (List.any_eq_true.mpr ⟨old, hold, decide_eq_true hkey⟩)
    rw [List.mem_append, List.mem_singleton]
    constructor
    · rintro (hmem | rfl)
      · exact .inr ⟨hmem, hnew other hmem⟩
      · exact .inl rfl
    · rintro (rfl | ⟨hmem, -⟩)
      · exact .inr rfl
      · exact .inl hmem

/-- Keys stay unique. -/
lemma nodup_map_putRow {key : ρ → κ} (h : (rows.map key).Nodup) :
    ((putRow key row rows).map key).Nodup := by
  rw [putRow]
  split_ifs with hany
  · have hkeys : (rows.map fun old => if key old = key row then row else old).map key =
        rows.map key := by
      rw [List.map_map]
      refine List.map_congr_left fun old _ => ?_
      rw [Function.comp_apply]
      split_ifs with hkey
      · exact hkey.symm
      · rfl
    rw [hkeys]
    exact h
  · refine nodup_map_append h fun old hold hkey => hany ?_
    exact List.any_eq_true.mpr ⟨old, hold, decide_eq_true hkey⟩

/-- Another unique column stays unique, if only the row with the same key has its value. -/
lemma nodup_column_putRow {γ : Type} {key : ρ → κ} {column : ρ → γ} (hkey : (rows.map key).Nodup)
    (h : (rows.map column).Nodup) (hrow : ∀ old ∈ rows, column old = column row → key old = key row) :
    ((putRow key row rows).map column).Nodup := by
  rw [putRow]
  split_ifs with hany
  · rw [List.map_map]
    refine List.Nodup.map_on ?_ hkey.of_map
    intro a ha b hb heq
    simp only [Function.comp_apply] at heq
    split_ifs at heq with hkeyA hkeyB hkeyB
    · exact eq_of_unique hkey ha hb (hkeyA.trans hkeyB.symm)
    · exact absurd (hrow b hb heq.symm) hkeyB
    · exact absurd (hrow a ha heq) hkeyA
    · exact eq_of_unique h ha hb heq
  · refine nodup_map_append h fun old hold hcolumn => hany ?_
    exact List.any_eq_true.mpr ⟨old, hold, decide_eq_true (hrow old hold hcolumn)⟩

end Opzava.Library
