import Opzava.Library.DepthFirst

/-!
The recursive search of `DepthFirst` as it stands in a program: without a fuel, over the rows of a
table some of which stand for an arc.

* `Explores`: what a call of the search, or the rest of its loop over the rows, ends with; one
  rule for each way through the program.
* `Explores.deterministic`, `exists_explores`: the search ends, in one way.
* `explores_iff`: it answers whether the target can be reached along the arcs.
-/

namespace Opzava.Library

variable {α ρ : Type*}

/-- What is still to do: a call at a node, or the rest of the rows for a node. -/
inductive Task (α ρ : Type*) where
  | node (a : α)
  | rows (a : α) (rest : List ρ)

/-- A task ends with an answer, and the seen nodes grow from `seen` to `seen'`. -/
inductive Explores (edge : ρ → Option (α × α)) (rows : List ρ) (target : α) :
    Task α ρ → List α → Bool → List α → Prop
  | found {seen : List α} : Explores edge rows target (.node target) seen true seen
  | known {a : α} {seen : List α} (other : a ≠ target) (before : a ∈ seen) :
      Explores edge rows target (.node a) seen false seen
  | enter {a : α} {seen seen' : List α} {b : Bool} (other : a ≠ target) (new : a ∉ seen)
      (loop : Explores edge rows target (.rows a rows) (a :: seen) b seen') :
      Explores edge rows target (.node a) seen b seen'
  | done {a : α} {seen : List α} : Explores edge rows target (.rows a []) seen false seen
  | skip {a : α} {row : ρ} {rest : List ρ} {seen seen' : List α} {b : Bool}
      (elsewhere : ∀ y, edge row ≠ some (a, y))
      (loop : Explores edge rows target (.rows a rest) seen b seen') :
      Explores edge rows target (.rows a (row :: rest)) seen b seen'
  | stop {a y : α} {row : ρ} {rest : List ρ} {seen seen' : List α}
      (leaves : edge row = some (a, y))
      (call : Explores edge rows target (.node y) seen true seen') :
      Explores edge rows target (.rows a (row :: rest)) seen true seen'
  | next {a y : α} {row : ρ} {rest : List ρ} {seen seen₁ seen' : List α} {b : Bool}
      (leaves : edge row = some (a, y))
      (call : Explores edge rows target (.node y) seen false seen₁)
      (loop : Explores edge rows target (.rows a rest) seen₁ b seen') :
      Explores edge rows target (.rows a (row :: rest)) seen b seen'

variable {edge : ρ → Option (α × α)} {rows : List ρ} {target : α}

/-- The arcs the rows stand for. -/
def arcsOf (edge : ρ → Option (α × α)) (rows : List ρ) : List (α × α) := rows.filterMap edge

lemma arc_arcsOf {x y : α} :
    Arc (arcsOf edge rows) x y ↔ ∃ row ∈ rows, edge row = some (x, y) :=
  List.mem_filterMap

namespace Explores

variable {task : Task α ρ} {seen seen' seen'' : List α} {b b' : Bool}

/-- A task ends in one way. -/
lemma deterministic (h : Explores edge rows target task seen b seen')
    (h' : Explores edge rows target task seen b' seen'') : b = b' ∧ seen' = seen'' := by
  induction h generalizing b' seen'' with
  | found =>
      cases h' with
      | found => exact ⟨rfl, rfl⟩
      | known other => exact absurd rfl other
      | enter other => exact absurd rfl other
  | known other before =>
      cases h' with
      | found => exact absurd rfl other
      | known => exact ⟨rfl, rfl⟩
      | enter _ new => exact absurd before new
  | enter other new _ ih =>
      cases h' with
      | found => exact absurd rfl other
      | known _ before => exact absurd before new
      | enter _ _ loop => exact ih loop
  | done =>
      cases h'
      exact ⟨rfl, rfl⟩
  | skip elsewhere _ ih =>
      cases h' with
      | skip _ loop => exact ih loop
      | stop leaves => exact absurd leaves (elsewhere _)
      | next leaves => exact absurd leaves (elsewhere _)
  | stop leaves _ ih =>
      cases h' with
      | skip elsewhere => exact absurd leaves (elsewhere _)
      | stop leaves' call =>
          cases leaves.symm.trans leaves'
          exact ih call
      | next leaves' call =>
          cases leaves.symm.trans leaves'
          cases (ih call).1
  | next leaves _ _ ihCall ihLoop =>
      cases h' with
      | skip elsewhere => exact absurd leaves (elsewhere _)
      | stop leaves' call =>
          cases leaves.symm.trans leaves'
          cases (ihCall call).1
      | next leaves' call loop =>
          cases leaves.symm.trans leaves'
          obtain ⟨-, rfl⟩ := ihCall call
          exact ihLoop loop

/-- What a task that succeeds has found. -/
def Finds (edge : ρ → Option (α × α)) (rows : List ρ) (target : α) : Task α ρ → Prop
  | .node a => Relation.ReflTransGen (Arc (arcsOf edge rows)) a target
  | .rows a rest => ∃ row ∈ rest, ∃ y, edge row = some (a, y) ∧
      Relation.ReflTransGen (Arc (arcsOf edge rows)) y target

/-- A search that succeeds has found a path. -/
lemma finds (h : Explores edge rows target task seen b seen') (hb : b = true) :
    Finds edge rows target task := by
  induction h with
  | found => exact .refl
  | known => cases hb
  | enter other new loop ih =>
      obtain ⟨row, hrow, y, hedge, hpath⟩ := ih hb
      exact .head (arc_arcsOf.mpr ⟨row, hrow, hedge⟩) hpath
  | done => cases hb
  | skip elsewhere loop ih =>
      obtain ⟨row, hrow, y, hedge, hpath⟩ := ih hb
      exact ⟨row, List.mem_cons_of_mem _ hrow, y, hedge, hpath⟩
  | @stop a y row rest seen seen' leaves call ih =>
      exact ⟨row, List.mem_cons_self, y, leaves, ih hb⟩
  | next leaves call loop ihCall ihLoop =>
      obtain ⟨row, hrow, y, hedge, hpath⟩ := ihLoop hb
      exact ⟨row, List.mem_cons_of_mem _ hrow, y, hedge, hpath⟩

/-- What a task that fails leaves behind: it is closed, but for the arcs of a loop's own node,
which end in seen nodes as far as the loop has followed them. -/
def Exhausts (edge : ρ → Option (α × α)) (rows : List ρ) (target : α) (seen seen' : List α) :
    Task α ρ → Prop
  | .node a => a ∈ seen' ∧ ClosedSince (arcsOf edge rows) target seen seen'
  | .rows a rest => ClosedSince (arcsOf edge rows) target seen seen' ∧
      ∀ row ∈ rest, ∀ y, edge row = some (a, y) → y ∈ seen'

lemma exhausts (h : Explores edge rows target task seen b seen') (hb : b = false) :
    Exhausts edge rows target seen seen' task := by
  induction h with
  | found => cases hb
  | known other before => exact ⟨before, .refl _ _ _⟩
  | @enter a seen seen' b other new loop ih =>
      obtain ⟨hclosed, harcs⟩ := ih hb
      refine ⟨hclosed.1 List.mem_cons_self,
        List.Subset.trans (List.subset_cons_self _ _) hclosed.1, fun x hx hxseen => ?_⟩
      by_cases hxa : x = a
      · subst hxa
        refine ⟨other, fun y hy => ?_⟩
        obtain ⟨row, hrow, hedge⟩ := arc_arcsOf.mp hy
        exact harcs row hrow y hedge
      · exact hclosed.2 x hx (by simp [hxa, hxseen])
  | done => exact ⟨.refl _ _ _, nofun⟩
  | skip elsewhere loop ih =>
      obtain ⟨hclosed, harcs⟩ := ih hb
      refine ⟨hclosed, fun row hrow y hedge => ?_⟩
      rcases List.mem_cons.mp hrow with rfl | hrow
      · exact absurd hedge (elsewhere y)
      · exact harcs row hrow y hedge
  | stop => cases hb
  | next leaves call loop ihCall ihLoop =>
      obtain ⟨hmarked, hclosed₁⟩ := ihCall rfl
      obtain ⟨hclosed, harcs⟩ := ihLoop hb
      refine ⟨hclosed₁.trans hclosed, fun row hrow y hedge => ?_⟩
      rcases List.mem_cons.mp hrow with rfl | hrow
      · cases leaves.symm.trans hedge
        exact hclosed.1 hmarked
      · exact harcs row hrow y hedge

lemma seen_subset (h : Explores edge rows target task seen b seen') : seen ⊆ seen' := by
  induction h with
  | found => exact List.Subset.refl _
  | known => exact List.Subset.refl _
  | enter other new loop ih => exact List.Subset.trans (List.subset_cons_self _ _) ih
  | done => exact List.Subset.refl _
  | skip elsewhere loop ih => exact ih
  | stop leaves call ih => exact ih
  | next leaves call loop ihCall ihLoop => exact List.Subset.trans ihCall ihLoop

end Explores

/-! ### Termination -/

section Termination

variable [DecidableEq α]

/-- With every call at a node of `nodes` ended, the loop over some rows ends. -/
lemma exists_explores_rows {nodes : Finset α} {fuel : ℕ}
    (hnodes : ∀ x y, Arc (arcsOf edge rows) x y → y ∈ nodes)
    (hcalls : ∀ seen y, y ∈ nodes → (nodes \ seen.toFinset).card ≤ fuel →
      ∃ b seen', Explores edge rows target (.node y) seen b seen') (a : α) :
    ∀ (rest : List ρ) (seen : List α), rest ⊆ rows → (nodes \ seen.toFinset).card ≤ fuel →
      ∃ b seen', Explores edge rows target (.rows a rest) seen b seen'
  | [], seen, _, _ => ⟨false, seen, .done⟩
  | row :: rest, seen, hsub, hcard => by
      have hrest : rest ⊆ rows := List.Subset.trans (List.subset_cons_self _ _) hsub
      by_cases hleaves : ∃ y, edge row = some (a, y)
      · obtain ⟨y, hedge⟩ := hleaves
        have hy := hnodes a y (arc_arcsOf.mpr ⟨row, hsub List.mem_cons_self, hedge⟩)
        obtain ⟨b, seen₁, hcall⟩ := hcalls seen y hy hcard
        cases b with
        | true => exact ⟨true, seen₁, .stop hedge hcall⟩
        | false =>
            have hmore : seen.toFinset ⊆ seen₁.toFinset := fun x hx =>
              List.mem_toFinset.mpr (hcall.seen_subset (List.mem_toFinset.mp hx))
            have hcard₁ : (nodes \ seen₁.toFinset).card ≤ fuel :=
              (Finset.card_le_card (Finset.sdiff_subset_sdiff subset_rfl hmore)).trans hcard
            obtain ⟨b, seen', hloop⟩ :=
              exists_explores_rows hnodes hcalls a rest seen₁ hrest hcard₁
            exact ⟨b, seen', .next hedge hcall hloop⟩
      · obtain ⟨b, seen', hloop⟩ := exists_explores_rows hnodes hcalls a rest seen hrest hcard
        exact ⟨b, seen', .skip (fun y hy => hleaves ⟨y, hy⟩) hloop⟩

/-- **The search ends**: every call that enters a node marks one more of finitely many. -/
lemma exists_explores_of_card {nodes : Finset α}
    (hnodes : ∀ x y, Arc (arcsOf edge rows) x y → y ∈ nodes) : ∀ (fuel : ℕ) (seen : List α) (a : α),
    a ∈ nodes → (nodes \ seen.toFinset).card ≤ fuel →
      ∃ b seen', Explores edge rows target (.node a) seen b seen' := by
  intro fuel
  induction fuel with
  | zero =>
      intro seen a ha hcard
      have hempty := Finset.sdiff_eq_empty_iff_subset.mp
        (Finset.card_eq_zero.mp (Nat.le_zero.mp hcard))
      by_cases htarget : a = target
      · exact ⟨true, seen, htarget ▸ .found⟩
      · exact ⟨false, seen, .known htarget (List.mem_toFinset.mp (hempty ha))⟩
  | succ fuel ih =>
      intro seen a ha hcard
      by_cases htarget : a = target
      · exact ⟨true, seen, htarget ▸ .found⟩
      by_cases hseen : a ∈ seen
      · exact ⟨false, seen, .known htarget hseen⟩
      have hless : (nodes \ (a :: seen).toFinset).card < (nodes \ seen.toFinset).card := by
        refine Finset.card_lt_card ⟨fun x hx => ?_, fun hsub => ?_⟩
        · simp only [Finset.mem_sdiff, List.mem_toFinset, List.mem_cons, not_or] at hx ⊢
          exact ⟨hx.1, hx.2.2⟩
        · have hback := hsub (Finset.mem_sdiff.mpr ⟨ha, by simpa using hseen⟩)
          simp at hback
      obtain ⟨b, seen', hloop⟩ := exists_explores_rows hnodes ih a rows (a :: seen)
        (List.Subset.refl _) (by omega)
      exact ⟨b, seen', .enter htarget hseen hloop⟩

lemma exists_explores (edge : ρ → Option (α × α)) (rows : List ρ) (start target : α) :
    ∃ b seen, Explores edge rows target (.node start) [] b seen := by
  have hnodes : ∀ x y, Arc (arcsOf edge rows) x y →
      y ∈ insert start ((arcsOf edge rows).map Prod.snd).toFinset := fun _ _ harc =>
    Finset.mem_insert_of_mem (List.mem_toFinset.mpr (List.mem_map_of_mem (f := Prod.snd) harc))
  exact exists_explores_of_card hnodes _ [] start (Finset.mem_insert_self _ _) le_rfl

end Termination

/-- **The search decides reachability** along the arcs of the rows. -/
theorem explores_iff {start : α} {b : Bool} {seen : List α}
    (h : Explores edge rows target (.node start) [] b seen) :
    b = true ↔ Relation.ReflTransGen (Arc (arcsOf edge rows)) start target := by
  refine ⟨h.finds, fun hpath => ?_⟩
  by_contra hne
  obtain ⟨hstart, hclosed⟩ := h.exhausts (Bool.eq_false_iff.mpr hne)
  have hmarked : ∀ x, Relation.ReflTransGen (Arc (arcsOf edge rows)) start x → x ∈ seen := by
    intro x hx
    induction hx with
    | refl => exact hstart
    | tail _ harc ih => exact (hclosed.2 _ ih (by simp)).2 _ harc
  exact (hclosed.2 target (hmarked target hpath) (by simp)).1 rfl

end Opzava.Library
