import Opzava.Library.OrderedMap

/-!
Rows with a version number, and logs of aggregate versions.

* `VersionStep`: from one map of rows to the next, every row is kept, created at
  version `1`, or replaced by a row one version on.
* `Logged`: every logged version is at most the current version of its aggregate, and
  no version of an aggregate is logged twice. `Logged.append` is the rule for a step
  that moves the aggregates it logs on to the versions it logs.
-/

namespace Opzava.Library

variable {κ ρ : Type} [DecidableEq κ]

/-! ### Rows -/

/-- What may happen to a row in one step. -/
inductive RowStep (version : ρ → ℕ) : Option ρ → Option ρ → Prop
  | kept (row : Option ρ) : RowStep version row row
  | created {row : ρ} (h : version row = 1) : RowStep version none (some row)
  | bumped {old new : ρ} (h : version new = version old + 1) :
      RowStep version (some old) (some new)

namespace RowStep

variable {version : ρ → ℕ} {old new : ρ} {before after : Option ρ}

/-- A row is never deleted, its version never decreases, and it moves on by one if the
row changes at all. -/
lemma forward (h : RowStep version (some old) after) :
    ∃ new, after = some new ∧ (new = old ∨ version new = version old + 1) := by
  cases h with
  | kept => exact ⟨old, rfl, .inl rfl⟩
  | bumped h => exact ⟨_, rfl, .inr h⟩

lemma ne_none (h : RowStep version before after) (hbefore : before ≠ none) : after ≠ none := by
  obtain ⟨row, hrow⟩ := Option.ne_none_iff_exists'.mp hbefore
  rw [hrow] at h
  obtain ⟨new, hnew, -⟩ := h.forward
  rw [hnew]
  exact Option.some_ne_none _

end RowStep

/-- One step on all rows of a map. -/
def VersionStep (version : ρ → ℕ) (m m' : OrderedMap κ ρ) : Prop :=
  ∀ k, RowStep version (m.get k) (m'.get k)

namespace VersionStep

variable {version : ρ → ℕ} {m : OrderedMap κ ρ} {k : κ} {old row : ρ}

lemma refl (m : OrderedMap κ ρ) : VersionStep version m m := fun k => .kept (m.get k)

lemma set_new (hget : m.get k = none) (h : version row = 1) :
    VersionStep version m (m.set k row) := by
  intro k'
  rw [OrderedMap.get_set]
  split_ifs with hk
  · rw [hk, hget]
    exact .created h
  · exact .kept _

lemma set_bumped (hget : m.get k = some old) (h : version row = version old + 1) :
    VersionStep version m (m.set k row) := by
  intro k'
  rw [OrderedMap.get_set]
  split_ifs with hk
  · rw [hk, hget]
    exact .bumped h
  · exact .kept _

end VersionStep

/-! ### Logs -/

section Logs

variable {α : Type}

/-- The log names versions the aggregates have reached, each at most once. -/
structure Logged (current : α → ℕ → Prop) (log : List (α × ℕ)) : Prop where
  reached : ∀ entry ∈ log, ∃ n, current entry.1 n ∧ entry.2 ≤ n
  nodup : log.Nodup

lemma Logged.nil (current : α → ℕ → Prop) : Logged current [] :=
  ⟨by simp, List.nodup_nil⟩

/-- **The rule for logs**: if no aggregate falls back, the new entries name the versions
their aggregates have after the step, and those are beyond the versions before it, the
longer log names no version twice either. -/
theorem Logged.append {current current' : α → ℕ → Prop} {log new : List (α × ℕ)}
    (h : Logged current log) (hmono : ∀ a n, current a n → ∃ n', current' a n' ∧ n ≤ n')
    (hnew : ∀ entry ∈ new, current' entry.1 entry.2 ∧ ∀ n, current entry.1 n → n < entry.2)
    (hnodup : new.Nodup) : Logged current' (log ++ new) where
  reached := by
    intro entry hentry
    rcases List.mem_append.mp hentry with hentry | hentry
    · obtain ⟨n, hn, hle⟩ := h.reached entry hentry
      obtain ⟨n', hn', hle'⟩ := hmono _ _ hn
      exact ⟨n', hn', hle.trans hle'⟩
    · exact ⟨entry.2, (hnew entry hentry).1, le_rfl⟩
  nodup := by
    refine h.nodup.append hnodup fun entry hold hentry => ?_
    obtain ⟨n, hn, hle⟩ := h.reached entry hold
    have hlt := (hnew entry hentry).2 n hn
    omega

end Logs

end Opzava.Library
