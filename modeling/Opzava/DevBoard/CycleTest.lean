import Opzava.DevBoard.DependencyGraph
import Opzava.Library.RecursiveSearch
import Opzava.Library.RecursiveQuery

/-!
The cycle test of `addDependency` in its two stores.

* `VisitEnds`: the recursive `visit` of the in-memory store over all edge rows, with the set of
  seen tickets that its branches share.
* `traversalQuery`: the recursive query of the Postgres store.
* `cycle_test_is_reachability`: both end, for all rows, and answer whether the dependent can be
  reached from the blocker along active edges of the workspace.
-/

namespace Opzava.DevBoard

open Opzava.Library

variable (o w : ScopeId)

/-- The arc of a row that passes the filter of both stores, from the dependent to the blocker. -/
def activeArc (edge : DependencyEdgeRow) : Option (String × String) :=
  if Tables.isActiveIn o w edge = true then
    some (edge.dependentDevTicketId, edge.blockerDevTicketId)
  else none

lemma activeArc_eq_some {o w : ScopeId} {edge : DependencyEdgeRow} {x y : String} :
    activeArc o w edge = some (x, y) ↔
      Tables.isActiveIn o w edge = true ∧ edge.dependentDevTicketId = x ∧
        edge.blockerDevTicketId = y := by
  rw [activeArc]
  split_ifs with hactive
  · simp [hactive]
  · simp [hactive]

/-- The two tickets are joined by an active edge of the workspace. -/
def DependsOn (edges : List DependencyEdgeRow) (x y : String) : Prop :=
  ∃ edge ∈ edges, Tables.isActiveIn o w edge = true ∧ edge.dependentDevTicketId = x ∧
    edge.blockerDevTicketId = y

/-- `visit(ticketId)` of the in-memory store, called with the tickets in `seen`, returns `b` and
leaves the tickets in `seen'`. -/
def VisitEnds (edges : List DependencyEdgeRow) (dependentId ticketId : String)
    (seen : List String) (b : Bool) (seen' : List String) : Prop :=
  Explores (activeArc o w) edges dependentId (.node ticketId) seen b seen'

/-- `traversal` of the Postgres store: the blocker, then the blockers of the active edges whose
dependent is in the working table. -/
def traversalQuery (edges : List DependencyEdgeRow) (blockerId : String) :
    RecursiveQuery String where
  base := [blockerId]
  recursive working := edges.flatMap fun edge =>
    if Tables.isActiveIn o w edge = true then
      (working.filter fun id => decide (edge.dependentDevTicketId = id)).map fun _ =>
        edge.blockerDevTicketId
    else []

variable {o w} {edges : List DependencyEdgeRow}

lemma traversalQuery_step (blockerId : String) :
    (traversalQuery o w edges blockerId).Step (DependsOn o w edges) := by
  intro rows y
  simp only [traversalQuery, List.mem_flatMap]
  constructor
  · rintro ⟨edge, hedge, hy⟩
    split_ifs at hy with hactive
    · obtain ⟨x, hx, rfl⟩ := List.mem_map.mp hy
      obtain ⟨hrows, hdependent⟩ := List.mem_filter.mp hx
      exact ⟨x, hrows, edge, hedge, hactive, of_decide_eq_true hdependent, rfl⟩
    · cases hy
  · rintro ⟨x, hx, edge, hedge, hactive, rfl, rfl⟩
    refine ⟨edge, hedge, ?_⟩
    rw [if_pos hactive]
    exact List.mem_map.mpr ⟨_, List.mem_filter.mpr ⟨hx, decide_eq_true rfl⟩, rfl⟩

/-- The arcs of the rows are the active edges of the workspace. -/
lemma arc_activeArc_iff {x y : String} :
    Arc (arcsOf (activeArc o w) edges) x y ↔ DependsOn o w edges x y := by
  rw [arc_arcsOf, DependsOn]
  exact exists_congr fun edge => and_congr_right fun _ => activeArc_eq_some

lemma arc_dependencyArcs_iff {t : Tables} {x y : String} :
    Arc (t.dependencyArcs o w) x y ↔ DependsOn o w t.dependencyEdges.values x y := by
  rw [arc_iff, DependsOn]
  constructor
  · rintro ⟨k, edge, hget, hedge⟩
    exact ⟨edge, OrderedMap.mem_values_iff.mpr ⟨k, hget⟩, hedge⟩
  · rintro ⟨edge, hmem, hedge⟩
    obtain ⟨k, hget⟩ := OrderedMap.mem_values_iff.mp hmem
    exact ⟨k, edge, hget, hedge⟩

/-- **The cycle test is reachability, in both stores.** For all edge rows, of any state,
organization and workspace, with cycles or without, and for all ids: `visit` called at the blocker
with nothing seen ends in exactly one way, and with `true` iff the dependent is reached from the
blocker by zero or more active edges of the workspace; that is the answer of
`dependencyCreatesCycle`. The rounds of the recursive query end, its rows are the least fixpoint,
and the dependent is one of them iff the in-memory store answers `true`. -/
theorem cycle_test_is_reachability (t : Tables) (o w : ScopeId) (dependentId blockerId : String) :
    (∃ seen, VisitEnds o w t.dependencyEdges.values dependentId blockerId []
        (t.dependencyCreatesCycle o w dependentId blockerId) seen ∧
        ∀ b seen', VisitEnds o w t.dependencyEdges.values dependentId blockerId [] b seen' →
          b = t.dependencyCreatesCycle o w dependentId blockerId ∧ seen' = seen) ∧
      (t.dependencyCreatesCycle o w dependentId blockerId = true ↔
        Relation.ReflTransGen (DependsOn o w t.dependencyEdges.values) blockerId dependentId) ∧
      ∃ n rows, (∀ m, n ≤ m → (traversalQuery o w t.dependencyEdges.values blockerId).rounds m
            (traversalQuery o w t.dependencyEdges.values blockerId).start = some rows) ∧
        (∀ id, id ∈ rows ↔ id ∈ (traversalQuery o w t.dependencyEdges.values
          blockerId).leastFixpoint (DependsOn o w t.dependencyEdges.values)) ∧
        (dependentId ∈ rows ↔ t.dependencyCreatesCycle o w dependentId blockerId = true) := by
  have hreach : t.dependencyCreatesCycle o w dependentId blockerId = true ↔
      Relation.ReflTransGen (DependsOn o w t.dependencyEdges.values) blockerId dependentId := by
    have harcs : Arc (t.dependencyArcs o w) = DependsOn o w t.dependencyEdges.values := by
      funext x y
      exact propext arc_dependencyArcs_iff
    rw [Tables.dependencyCreatesCycle, search_iff, harcs]
  refine ⟨?_, hreach, ?_⟩
  · obtain ⟨b, seen, hvisit⟩ :=
      exists_explores (activeArc o w) t.dependencyEdges.values blockerId dependentId
    have hanswer : b = t.dependencyCreatesCycle o w dependentId blockerId := by
      have harcs : Arc (arcsOf (activeArc o w) t.dependencyEdges.values) =
          DependsOn o w t.dependencyEdges.values := by
        funext x y
        exact propext arc_activeArc_iff
      rw [Bool.eq_iff_iff, explores_iff hvisit, harcs, hreach]
    rw [← hanswer]
    exact ⟨seen, hvisit, fun b' seen' hvisit' => Explores.deterministic hvisit' hvisit⟩
  · have hstep : (traversalQuery o w t.dependencyEdges.values blockerId).Step
        (DependsOn o w t.dependencyEdges.values) := traversalQuery_step blockerId
    have hblockers : ∀ x y, DependsOn o w t.dependencyEdges.values x y →
        y ∈ t.dependencyEdges.values.map (·.blockerDevTicketId) := by
      rintro x y ⟨edge, hedge, -, -, hy⟩
      exact List.mem_map.mpr ⟨edge, hedge, hy⟩
    obtain ⟨n, rows, hrounds, hrows⟩ := RecursiveQuery.rounds_ends hstep hblockers
    refine ⟨n, rows, hrounds, hrows, ?_⟩
    rw [hrows, RecursiveQuery.mem_leastFixpoint, hreach]
    constructor
    · rintro ⟨x, hx, hpath⟩
      rwa [List.mem_singleton.mp hx] at hpath
    · exact fun hpath => ⟨blockerId, List.mem_singleton_self _, hpath⟩

end Opzava.DevBoard
