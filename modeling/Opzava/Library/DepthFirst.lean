import Mathlib

/-!
Depth-first search for a target along a list of arcs.

`visit` is the recursive search with one set of seen nodes shared by all its
branches: it stops at the target, turns back at a node seen before, and
otherwise marks the node and follows its arcs until one of them finds the
target. The recursion is bounded by a fuel; `searchFuel` is enough, because
every nested call marks a new node.

* `visit_true`: a search that succeeds has found a path.
* `visit_false`: a search that fails, with enough fuel, leaves the nodes it has
  marked closed under the arcs and free of the target.
* `search_iff`: the search decides reachability.
* `Acyclic.add_arc`: a relation without cycles stays so when an arc is added whose
  target does not reach its source.
-/

namespace Opzava.Library

variable {α : Type*} [DecidableEq α]

/-- The relation of a list of arcs. -/
def Arc (arcs : List (α × α)) (a b : α) : Prop := (a, b) ∈ arcs

/-- The search for `target` from a node: whether it was found, and the nodes
seen by then. -/
def visit (arcs : List (α × α)) (target : α) : ℕ → List α → α → Bool × List α
  | 0, seen, _ => (false, seen)
  | fuel + 1, seen, node =>
      if node = target then (true, seen)
      else if node ∈ seen then (false, seen)
      else
        arcs.foldl
          (fun acc arc =>
            if acc.1 = false ∧ arc.1 = node then visit arcs target fuel acc.2 arc.2 else acc)
          (false, node :: seen)

/-- Enough fuel for a search with nothing seen. -/
def searchFuel (arcs : List (α × α)) : ℕ := arcs.length + 2

/-- Whether `target` is found from `start`. -/
def search (arcs : List (α × α)) (start target : α) : Bool :=
  (visit arcs target (searchFuel arcs) [] start).1

/-! ### A search that succeeds -/

lemma visit_true {arcs : List (α × α)} {target : α} : ∀ {fuel : ℕ} {seen : List α} {node : α},
    (visit arcs target fuel seen node).1 = true → Relation.ReflTransGen (Arc arcs) node target := by
  intro fuel
  induction fuel with
  | zero => intro seen node h; simp [visit] at h
  | succ fuel ih =>
      intro seen node h
      rw [visit] at h
      split_ifs at h with hnode hseen
      · exact hnode ▸ .refl
      · -- the fold can only turn true through one of the arcs leaving the node
        have key : ∀ (l : List (α × α)) (acc : Bool × List α), l ⊆ arcs →
            (acc.1 = true → Relation.ReflTransGen (Arc arcs) node target) →
            (l.foldl (fun acc arc => if acc.1 = false ∧ arc.1 = node then
              visit arcs target fuel acc.2 arc.2 else acc) acc).1 = true →
            Relation.ReflTransGen (Arc arcs) node target := by
          intro l
          induction l with
          | nil => intro acc _ hacc hl; exact hacc hl
          | cons arc rest ihl =>
              intro acc hsub hacc hl
              rw [List.foldl_cons] at hl
              refine ihl _ (fun x hx => hsub (List.mem_cons_of_mem _ hx)) ?_ hl
              split_ifs with hc
              · intro hv
                have harc : Arc arcs node arc.2 := by
                  rw [← hc.2]
                  exact hsub List.mem_cons_self
                exact .head harc (ih hv)
              · exact hacc
        exact key arcs _ (List.Subset.refl _) (by simp) h

/-! ### A search that fails -/

/-- The nodes a search may still mark: the targets of arcs that were not seen. -/
def unseen (arcs : List (α × α)) (seen : List α) : Finset α :=
  (arcs.map Prod.snd).toFinset \ seen.toFinset

/-- The nodes added between `seen` and `seen'` are not the target, and all their
successors are in `seen'`. -/
def ClosedSince (arcs : List (α × α)) (target : α) (seen seen' : List α) : Prop :=
  seen ⊆ seen' ∧ ∀ x ∈ seen', x ∉ seen → x ≠ target ∧ ∀ y, Arc arcs x y → y ∈ seen'

omit [DecidableEq α] in
lemma ClosedSince.refl (arcs : List (α × α)) (target : α) (seen : List α) :
    ClosedSince arcs target seen seen :=
  ⟨List.Subset.refl _, fun _ h h' => absurd h h'⟩

omit [DecidableEq α] in
lemma ClosedSince.trans {arcs : List (α × α)} {target : α} {s₁ s₂ s₃ : List α}
    (h₁ : ClosedSince arcs target s₁ s₂) (h₂ : ClosedSince arcs target s₂ s₃) :
    ClosedSince arcs target s₁ s₃ := by
  refine ⟨List.Subset.trans h₁.1 h₂.1, fun x hx hx₁ => ?_⟩
  by_cases hx₂ : x ∈ s₂
  · exact ⟨(h₁.2 x hx₂ hx₁).1, fun y hy => h₂.1 ((h₁.2 x hx₂ hx₁).2 y hy)⟩
  · exact h₂.2 x hx hx₂

lemma card_unseen_mono (arcs : List (α × α)) {seen seen' : List α} (h : seen ⊆ seen') :
    (unseen arcs seen').card ≤ (unseen arcs seen).card :=
  Finset.card_le_card (Finset.sdiff_subset_sdiff (Finset.Subset.refl _)
    (fun _ hx => List.mem_toFinset.mpr (h (List.mem_toFinset.mp hx))))

lemma card_unseen_cons {arcs : List (α × α)} {seen : List α} {node : α}
    (hmem : node ∈ arcs.map Prod.snd) (hnode : node ∉ seen) :
    (unseen arcs (node :: seen)).card < (unseen arcs seen).card := by
  refine Finset.card_lt_card ⟨?_, fun hsub => ?_⟩
  · exact Finset.sdiff_subset_sdiff (Finset.Subset.refl _) (fun x hx => by
      simp only [List.toFinset_cons, Finset.mem_insert]
      exact .inr hx)
  · have hin : node ∈ unseen arcs seen := by
      simp only [unseen, Finset.mem_sdiff, List.mem_toFinset]
      exact ⟨hmem, hnode⟩
    have hout := hsub hin
    simp [unseen] at hout

/-- A failed search marks its node and closes what it has marked. The fuel
covers the nodes still to mark once the node itself is marked; a node seen
before needs only the one step that turns back. -/
lemma visit_false {arcs : List (α × α)} {target : α} : ∀ {fuel : ℕ} {seen : List α} {node : α},
    1 ≤ fuel → (node ∉ seen → (unseen arcs (node :: seen)).card + 2 ≤ fuel) →
    (visit arcs target fuel seen node).1 = false →
    node ∈ (visit arcs target fuel seen node).2 ∧
      ClosedSince arcs target seen (visit arcs target fuel seen node).2 := by
  intro fuel
  induction fuel with
  | zero => intro seen node hpos; omega
  | succ fuel ih =>
      intro seen node _ hfuel
      rw [visit]
      split_ifs with hnode hseen
      · intro h; cases h
      · exact fun _ => ⟨hseen, .refl _ _ _⟩
      · -- along the fold, what was marked since `node :: seen` stays closed and
        -- the arcs already followed end in seen nodes
        have key : ∀ (l done : List (α × α)) (acc : Bool × List α), done ++ l = arcs →
            (acc.1 = false → ClosedSince arcs target (node :: seen) acc.2 ∧
              ∀ arc ∈ done, arc.1 = node → arc.2 ∈ acc.2) →
            (l.foldl (fun acc arc => if acc.1 = false ∧ arc.1 = node then
              visit arcs target fuel acc.2 arc.2 else acc) acc).1 = false →
            let final := (l.foldl (fun acc arc => if acc.1 = false ∧ arc.1 = node then
              visit arcs target fuel acc.2 arc.2 else acc) acc).2
            ClosedSince arcs target (node :: seen) final ∧
              ∀ arc ∈ arcs, arc.1 = node → arc.2 ∈ final := by
          intro l
          induction l with
          | nil =>
              intro done acc hsplit hacc hfalse
              rw [List.append_nil] at hsplit
              exact hsplit ▸ hacc hfalse
          | cons arc rest ihl =>
              intro done acc hsplit hacc hfalse
              refine ihl (done ++ [arc]) _ (by simpa using hsplit) ?_ hfalse
              beta_reduce
              split_ifs with hc
              · intro hv
                obtain ⟨hclosed, hdone⟩ := hacc hc.1
                have hmem : arc.2 ∈ arcs.map Prod.snd :=
                  List.mem_map_of_mem (hsplit ▸ List.mem_append_right _ List.mem_cons_self)
                have hle := card_unseen_mono arcs hclosed.1
                have hmark := hfuel hseen
                obtain ⟨harc, hnext⟩ := ih (by omega) (fun hnew => by
                  have := card_unseen_cons hmem hnew
                  omega) hv
                refine ⟨hclosed.trans hnext, fun a ha hanode => ?_⟩
                rcases List.mem_append.mp ha with ha | ha
                · exact hnext.1 (hdone a ha hanode)
                · rw [List.mem_singleton.mp ha]
                  exact harc
              · intro hv
                obtain ⟨hclosed, hdone⟩ := hacc hv
                refine ⟨hclosed, fun a ha hanode => ?_⟩
                rcases List.mem_append.mp ha with ha | ha
                · exact hdone a ha hanode
                · rw [List.mem_singleton.mp ha] at hanode
                  exact absurd ⟨hv, hanode⟩ hc
        intro hfalse
        obtain ⟨hclosed, harcs⟩ := key arcs [] _ rfl
          (fun _ => ⟨.refl _ _ _, by simp⟩) hfalse
        refine ⟨hclosed.1 List.mem_cons_self,
          List.Subset.trans (List.subset_cons_self _ _) hclosed.1, fun x hx hxseen => ?_⟩
        by_cases hxn : x = node
        · subst hxn
          exact ⟨hnode, fun y hy => harcs _ hy rfl⟩
        · exact hclosed.2 x hx (by simp [hxn, hxseen])

/-- **The search decides reachability** along the arcs. -/
theorem search_iff {arcs : List (α × α)} {start target : α} :
    search arcs start target = true ↔ Relation.ReflTransGen (Arc arcs) start target := by
  refine ⟨visit_true, fun hpath => ?_⟩
  by_contra hne
  have hfalse : (visit arcs target (searchFuel arcs) [] start).1 = false := by
    simpa [search] using hne
  have hcard : (unseen arcs [start]).card ≤ arcs.length :=
    calc (unseen arcs [start]).card
        ≤ (arcs.map Prod.snd).toFinset.card := Finset.card_le_card Finset.sdiff_subset
      _ ≤ (arcs.map Prod.snd).length := List.toFinset_card_le _
      _ = arcs.length := List.length_map _
  obtain ⟨hstart, hclosed⟩ := visit_false (by simp [searchFuel])
    (fun _ => by simpa [searchFuel] using hcard) hfalse
  -- every node on the path is marked, the target would be too
  have hmem : ∀ x, Relation.ReflTransGen (Arc arcs) start x →
      x ∈ (visit arcs target (searchFuel arcs) [] start).2 := by
    intro x hx
    induction hx with
    | refl => exact hstart
    | tail _ harc ih => exact (hclosed.2 _ ih (by simp)).2 _ harc
  exact (hclosed.2 target (hmem target hpath) (by simp)).1 rfl

/-! ### Acyclic relations -/

/-- No element reaches itself in one step or more. -/
def Acyclic {β : Type*} (r : β → β → Prop) : Prop := ∀ x, ¬Relation.TransGen r x x

namespace Acyclic

variable {β : Type*} {r r' : β → β → Prop}

lemma mono (h : Acyclic r) (hsub : ∀ x y, r' x y → r x y) : Acyclic r' :=
  fun x hcycle => h x (hcycle.lift id hsub)

lemma irrefl (h : Acyclic r) (x : β) : ¬r x x := fun hx => h x (.single hx)

/-- A path of the larger relation is a path of the smaller one, or runs through
the new arc. -/
lemma path_of_add_arc {a b : β} (hback : ¬Relation.ReflTransGen r b a)
    (hr : ∀ x y, r' x y → r x y ∨ (x = a ∧ y = b)) {x y : β} (h : Relation.TransGen r' x y) :
    Relation.TransGen r x y ∨
      (Relation.ReflTransGen r x a ∧ Relation.ReflTransGen r b y) := by
  induction h with
  | single hxy =>
      rcases hr _ _ hxy with hxy | ⟨rfl, rfl⟩
      · exact .inl (.single hxy)
      · exact .inr ⟨.refl, .refl⟩
  | tail _ hyz ih =>
      rcases hr _ _ hyz with hyz | ⟨rfl, rfl⟩
      · exact ih.imp (·.tail hyz) fun hpath => ⟨hpath.1, hpath.2.tail hyz⟩
      · rcases ih with hpath | hpath
        · exact .inr ⟨hpath.to_reflTransGen, .refl⟩
        · exact absurd hpath.2 hback

/-- **Adding an arc** whose target does not reach its source closes no cycle. -/
theorem add_arc {a b : β} (h : Acyclic r) (hback : ¬Relation.ReflTransGen r b a)
    (hr : ∀ x y, r' x y → r x y ∨ (x = a ∧ y = b)) : Acyclic r' := by
  intro x hcycle
  rcases path_of_add_arc hback hr hcycle with hpath | ⟨hxa, hbx⟩
  · exact h x hpath
  · exact hback (hbx.trans hxa)

end Acyclic

end Opzava.Library
