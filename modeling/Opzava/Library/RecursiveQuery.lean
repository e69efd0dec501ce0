import Mathlib

/-!
The evaluation of a recursive query `WITH RECURSIVE ... UNION` over one column.

The rows of the first term are the result and the working table. Each round evaluates the
recursive term on the working table; the rows that are not in the result yet are added to it and
are the next working table. The evaluation ends when the working table is empty.

* `RecursiveQuery`: the rows of the first term and the recursive term, as a function of the
  working table; `rounds` is its evaluation.
* `Step`: the recursive term relates each row it gives to one row of the working table.
* `leastFixpoint`, `mem_leastFixpoint`: the least set that holds the first rows and is closed
  under the recursive term, as reachability.
* `rounds_ends`: the evaluation ends, and its result is the least fixpoint.
-/

namespace Opzava.Library

variable {α : Type*}

/-- The two terms of a recursive query. -/
structure RecursiveQuery (α : Type*) where
  base : List α
  recursive : List α → List α

namespace RecursiveQuery

variable [DecidableEq α] (q : RecursiveQuery α)

/-- The tables of the evaluation. -/
structure Tables (α : Type*) where
  result : List α
  working : List α

/-- The tables before the first round. -/
def start : Tables α := ⟨q.base.dedup, q.base.dedup⟩

/-- The rows of a round that are not in the result yet. -/
def fresh (s : Tables α) : List α :=
  (q.recursive s.working).dedup.filter fun x => decide (x ∉ s.result)

/-- One round. -/
def round (s : Tables α) : Tables α := ⟨s.result ++ q.fresh s, q.fresh s⟩

/-- The result after at most so many rounds, nothing when the working table is not empty then. -/
def rounds : ℕ → Tables α → Option (List α)
  | 0, s => if s.working = [] then some s.result else none
  | n + 1, s => if s.working = [] then some s.result else rounds n (q.round s)

/-! ### The least fixpoint -/

/-- The recursive term joins each of its rows with one row of the working table. -/
def Step (r : α → α → Prop) : Prop := ∀ rows y, y ∈ q.recursive rows ↔ ∃ x ∈ rows, r x y

omit [DecidableEq α] in
/-- The first rows and what one application of the recursive term adds, as an operator on sets. -/
def operator (r : α → α → Prop) : Set α →o Set α where
  toFun rows := {y | y ∈ q.base ∨ ∃ x ∈ rows, r x y}
  monotone' _ _ hsub _ hy := hy.imp id fun ⟨x, hx, hr⟩ => ⟨x, hsub hx, hr⟩

/-- The least set of rows closed under both terms. -/
def leastFixpoint (r : α → α → Prop) : Set α := (q.operator r).lfp

omit [DecidableEq α] in
lemma mem_leastFixpoint {r : α → α → Prop} {y : α} :
    y ∈ q.leastFixpoint r ↔ ∃ x ∈ q.base, Relation.ReflTransGen r x y := by
  constructor
  · have hclosed : (q.operator r).lfp ≤ {y | ∃ x ∈ q.base, Relation.ReflTransGen r x y} := by
      refine (q.operator r).lfp_le ?_
      rintro y (hy | ⟨x, ⟨first, hfirst, hpath⟩, hr⟩)
      · exact ⟨y, hy, .refl⟩
      · exact ⟨first, hfirst, hpath.tail hr⟩
    exact fun hy => hclosed hy
  · rintro ⟨x, hx, hpath⟩
    have hfix : (q.operator r) (q.leastFixpoint r) = q.leastFixpoint r := (q.operator r).map_lfp
    induction hpath with
    | refl => exact hfix.subset (.inl hx)
    | tail _ hr ih => exact hfix.subset (.inr ⟨_, ih, hr⟩)

/-! ### The evaluation -/

/-- What holds of the tables in every round: the rows of the result are reached, those that are
not in the working table have been joined, and no row is there twice. -/
structure Traversed (r : α → α → Prop) (s : Tables α) : Prop where
  base : q.base ⊆ s.result
  reached : ∀ y ∈ s.result, y ∈ q.leastFixpoint r
  working : s.working ⊆ s.result
  joined : ∀ x ∈ s.result, x ∉ s.working → ∀ y, r x y → y ∈ s.result
  nodup : s.result.Nodup

variable {q} {r : α → α → Prop}

lemma mem_fresh (hstep : q.Step r) {s : Tables α} {y : α} :
    y ∈ q.fresh s ↔ (∃ x ∈ s.working, r x y) ∧ y ∉ s.result := by
  rw [fresh, List.mem_filter, List.mem_dedup, hstep, decide_eq_true_eq]

lemma traversed_start : q.Traversed r q.start where
  base := fun _ hx => List.mem_dedup.mpr hx
  reached y hy := q.mem_leastFixpoint.mpr ⟨y, List.mem_dedup.mp hy, .refl⟩
  working := List.Subset.refl _
  joined _ hx hnot := absurd hx hnot
  nodup := List.nodup_dedup _

/-- One round keeps what holds of the tables. -/
lemma Traversed.round (h : q.Traversed r s) (hstep : q.Step r) : q.Traversed r (q.round s) where
  base := List.Subset.trans h.base (List.subset_append_left _ _)
  reached y hy := by
    rcases List.mem_append.mp hy with hold | hnew
    · exact h.reached y hold
    · obtain ⟨⟨x, hx, hr⟩, -⟩ := (mem_fresh hstep).mp hnew
      obtain ⟨first, hfirst, hpath⟩ := q.mem_leastFixpoint.mp (h.reached x (h.working hx))
      exact q.mem_leastFixpoint.mpr ⟨first, hfirst, hpath.tail hr⟩
  working := List.subset_append_right _ _
  joined x hx hnot y hr := by
    have hold : x ∈ s.result := (List.mem_append.mp hx).resolve_right hnot
    by_cases hy : y ∈ s.result
    · exact List.mem_append_left _ hy
    by_cases hworking : x ∈ s.working
    · exact List.mem_append_right _ ((mem_fresh hstep).mpr ⟨⟨x, hworking, hr⟩, hy⟩)
    · exact absurd (h.joined x hold hworking y hr) hy
  nodup := by
    refine h.nodup.append ((List.nodup_dedup _).filter _) fun x hold hnew => ?_
    exact ((mem_fresh hstep).mp hnew).2 hold

omit [DecidableEq α] in
/-- With nothing left to join, the result is the least fixpoint. -/
lemma Traversed.complete (h : q.Traversed r s) (hempty : s.working = []) (y : α) :
    y ∈ s.result ↔ y ∈ q.leastFixpoint r := by
  refine ⟨h.reached y, fun hy => ?_⟩
  obtain ⟨x, hx, hpath⟩ := q.mem_leastFixpoint.mp hy
  induction hpath with
  | refl => exact h.base hx
  | tail hbefore hr ih =>
      refine h.joined _ (ih (q.mem_leastFixpoint.mpr ⟨x, hx, hbefore⟩)) ?_ _ hr
      rw [hempty]
      exact List.not_mem_nil

/-- A round with a row in the working table leaves it empty or adds a row. -/
lemma rounds_of_traversed (hstep : q.Step r) {nodes : List α}
    (hnodes : ∀ y ∈ q.leastFixpoint r, y ∈ nodes) : ∀ (n : ℕ) (s : Tables α),
    q.Traversed r s → nodes.length + 1 ≤ n + s.result.length →
      ∃ result, q.rounds n s = some result ∧ ∀ y, y ∈ result ↔ y ∈ q.leastFixpoint r := by
  intro n
  induction n with
  | zero =>
      intro s h hn
      have hlength := (h.nodup.subperm fun y hy => hnodes y (h.reached y hy)).length_le
      omega
  | succ n ih =>
      intro s h hn
      by_cases hempty : s.working = []
      · exact ⟨s.result, by rw [rounds, if_pos hempty], h.complete hempty⟩
      rw [rounds, if_neg hempty]
      by_cases hfresh : q.fresh s = []
      · refine ⟨s.result, ?_, fun y => ?_⟩
        · have hworking : (q.round s).working = [] := hfresh
          have hresult : (q.round s).result = s.result := by
            rw [RecursiveQuery.round, hfresh, List.append_nil]
          cases n <;> rw [rounds, if_pos hworking, hresult]
        · have hresult : (q.round s).result = s.result := by
            rw [RecursiveQuery.round, hfresh, List.append_nil]
          rw [← hresult]
          exact (h.round hstep).complete hfresh y
      · refine ih _ (h.round hstep) ?_
        have hpos := List.length_pos_iff.mpr hfresh
        rw [RecursiveQuery.round, List.length_append]
        omega

/-- More rounds do not change the result. -/
lemma rounds_mono {result : List α} : ∀ {n m : ℕ} {s : Tables α}, q.rounds n s = some result →
    n ≤ m → q.rounds m s = some result
  | 0, m, s, h, _ => by
      rw [rounds] at h
      split_ifs at h with hempty
      cases m <;> rw [rounds, if_pos hempty, h]
  | n + 1, 0, s, h, hle => by omega
  | n + 1, m + 1, s, h, hle => by
      rw [rounds] at h ⊢
      split_ifs at h with hempty
      · rw [if_pos hempty, h]
      · rw [if_neg hempty]
        exact rounds_mono h (Nat.succ_le_succ_iff.mp hle)

/-- **The evaluation ends**, for a recursive term with finitely many rows, and its result is the
least fixpoint. -/
theorem rounds_ends (hstep : q.Step r) {nodes : List α} (hnodes : ∀ x y, r x y → y ∈ nodes) :
    ∃ n result, (∀ m, n ≤ m → q.rounds m q.start = some result) ∧
      ∀ y, y ∈ result ↔ y ∈ q.leastFixpoint r := by
  have hall : ∀ y ∈ q.leastFixpoint r, y ∈ q.base ++ nodes := by
    intro y hy
    obtain ⟨x, hx, hpath⟩ := q.mem_leastFixpoint.mp hy
    cases hpath with
    | refl => exact List.mem_append_left _ hx
    | tail _ hr => exact List.mem_append_right _ (hnodes _ _ hr)
  obtain ⟨result, hrounds, hresult⟩ := rounds_of_traversed hstep hall
    ((q.base ++ nodes).length + 1) q.start traversed_start (by omega)
  exact ⟨_, result, fun m hm => rounds_mono hrounds hm, hresult⟩

end RecursiveQuery

end Opzava.Library
