import Opzava.DevBoard.Changes
import Opzava.DevBoard.Coherence

/-!
The dependency graph of a workspace, whose arcs lead from the dependent to the
blocker of every active edge.

* `GraphOk`: the graph is acyclic, no pair of tickets has two active edges and
  every edge lies between two tickets of its workspace. It is kept by every effect
  (`applied_graphOk`): the search of `addDependency` is the guard `Acyclic.add_arc`
  asks for.
* `dependency_graph_is_dag`: the graph in every reachable world, and the history of
  the retired edges.
* `active_edge_endpoints`: no active edge has an archived blocker, and an active
  edge can be removed exactly while its dependent is not archived.
-/

namespace Opzava.DevBoard

open Opzava.Library

section Arcs

variable {t : Tables} {o w : ScopeId}

lemma isActiveIn_iff {edge : DependencyEdgeRow} :
    Tables.isActiveIn o w edge = true ↔
      edge.organizationId = o ∧ edge.workspaceId = w ∧ edge.lifecycleState = .active := by
  simp only [Tables.isActiveIn, Bool.and_eq_true, decide_eq_true_eq, and_assoc]

/-- The arcs of the graph are the active edges of the workspace. -/
lemma arc_iff {x y : String} :
    Arc (t.dependencyArcs o w) x y ↔ ∃ k edge, t.dependencyEdges.get k = some edge ∧
      Tables.isActiveIn o w edge = true ∧ edge.dependentDevTicketId = x ∧
        edge.blockerDevTicketId = y := by
  simp only [Arc, Tables.dependencyArcs, List.mem_map, List.mem_filter, OrderedMap.mem_values_iff,
    Prod.mk.injEq]
  constructor
  · rintro ⟨edge, ⟨⟨k, hget⟩, hactive⟩, hx, hy⟩
    exact ⟨k, edge, hget, hactive, hx, hy⟩
  · rintro ⟨k, edge, hget, hactive, hx, hy⟩
    exact ⟨edge, ⟨⟨k, hget⟩, hactive⟩, hx, hy⟩

/-- No active edge of a pair is found iff there is none. -/
lemma selectActiveDependencyEdge_eq_none {x y : String}
    (h : t.selectActiveDependencyEdge o w x y = none) {k : String} {edge : DependencyEdgeRow}
    (hget : t.dependencyEdges.get k = some edge) (hactive : Tables.isActiveIn o w edge = true)
    (hx : edge.dependentDevTicketId = x) : edge.blockerDevTicketId ≠ y := by
  intro hy
  have hnone := List.find?_eq_none.mp h edge (OrderedMap.mem_values_iff.mpr ⟨k, hget⟩)
  simp [hactive, hx, hy] at hnone

/-- A ticket without active dependents is the blocker of no active edge. -/
lemma selectActiveBlockerEdges_eq_nil {y : String} (h : t.selectActiveBlockerEdges o w y = [])
    {k : String} {edge : DependencyEdgeRow} (hget : t.dependencyEdges.get k = some edge)
    (hactive : Tables.isActiveIn o w edge = true) : edge.blockerDevTicketId ≠ y := by
  intro hy
  have hnone := List.filter_eq_nil_iff.mp h edge (OrderedMap.mem_values_iff.mpr ⟨k, hget⟩)
  simp [hactive, hy] at hnone

end Arcs

/-! ### The invariant -/

/-- The dependency graphs of all workspaces are in order. -/
structure GraphOk (t : Tables) : Prop where
  acyclic : ∀ o w, Acyclic (Arc (t.dependencyArcs o w))
  unique : ∀ {k k' edge edge'}, t.dependencyEdges.get k = some edge →
    t.dependencyEdges.get k' = some edge' → edge.organizationId = edge'.organizationId →
    edge.workspaceId = edge'.workspaceId → edge.lifecycleState = .active →
    edge'.lifecycleState = .active → edge.dependentDevTicketId = edge'.dependentDevTicketId →
    edge.blockerDevTicketId = edge'.blockerDevTicketId → k = k'
  dependent : ∀ {k edge}, t.dependencyEdges.get k = some edge →
    t.devTickets.get (key edge.organizationId edge.workspaceId edge.dependentDevTicketId) ≠ none
  blocker : ∀ {k edge}, t.dependencyEdges.get k = some edge →
    t.devTickets.get (key edge.organizationId edge.workspaceId edge.blockerDevTicketId) ≠ none

variable {c : Context} {t t' : Tables}

namespace GraphOk

/-- The edges are as before, and no ticket has gone. -/
lemma congr (h : GraphOk t) (hedges : t'.dependencyEdges = t.dependencyEdges)
    (htickets : ∀ k, t.devTickets.get k ≠ none → t'.devTickets.get k ≠ none) : GraphOk t' where
  acyclic o w := by
    rw [Tables.dependencyArcs, hedges]
    exact h.acyclic o w
  unique hget hget' := h.unique (hedges ▸ hget) (hedges ▸ hget')
  dependent hget := htickets _ (h.dependent (hedges ▸ hget))
  blocker hget := htickets _ (h.blocker (hedges ▸ hget))

/-- A new edge between two tickets, whose blocker does not reach its dependent. -/
lemma add (h : GraphOk t) {input : AddDependencyInput} {k : String}
    (hedges : t'.dependencyEdges = t.dependencyEdges.set k (newEdge c input))
    (htickets : ∀ k, t.devTickets.get k ≠ none → t'.devTickets.get k ≠ none)
    (hdependent : t.devTickets.get (c.key input.dependentDevTicketId) ≠ none)
    (hblocker : t.devTickets.get (c.key input.blockerDevTicketId) ≠ none)
    (hnew : t.selectActiveDependencyEdge c.envelope.organizationId c.envelope.workspaceId
      input.dependentDevTicketId input.blockerDevTicketId = none)
    (hcycle : t.dependencyCreatesCycle c.envelope.organizationId c.envelope.workspaceId
      input.dependentDevTicketId input.blockerDevTicketId = false) : GraphOk t' where
  acyclic o w := by
    by_cases hscope : c.envelope.organizationId = o ∧ c.envelope.workspaceId = w
    · obtain ⟨rfl, rfl⟩ := hscope
      have hback : ¬Relation.ReflTransGen (Arc (t.dependencyArcs c.envelope.organizationId
          c.envelope.workspaceId)) input.blockerDevTicketId input.dependentDevTicketId := by
        rw [← search_iff]
        exact Bool.eq_false_iff.mp hcycle
      refine (h.acyclic _ _).add_arc hback fun x y harc => ?_
      obtain ⟨k', edge, hget, hactive, hx, hy⟩ := arc_iff.mp harc
      rw [hedges] at hget
      rcases OrderedMap.get_set_eq_some hget with ⟨-, rfl⟩ | ⟨-, hold⟩
      · exact .inr ⟨hx.symm, hy.symm⟩
      · exact .inl (arc_iff.mpr ⟨k', edge, hold, hactive, hx, hy⟩)
    · refine (h.acyclic o w).mono fun x y harc => ?_
      obtain ⟨k', edge, hget, hactive, hx, hy⟩ := arc_iff.mp harc
      rw [hedges] at hget
      rcases OrderedMap.get_set_eq_some hget with ⟨-, rfl⟩ | ⟨-, hold⟩
      · exact absurd ⟨(isActiveIn_iff.mp hactive).1, (isActiveIn_iff.mp hactive).2.1⟩ hscope
      · exact arc_iff.mpr ⟨k', edge, hold, hactive, hx, hy⟩
  unique := by
    intro k₁ k₂ edge edge' hget hget' ho hw hactive hactive' hdep hblk
    rw [hedges] at hget hget'
    -- a new edge has no active twin among the old ones
    rcases OrderedMap.get_set_eq_some hget with ⟨rfl, rfl⟩ | ⟨-, hold⟩ <;>
      rcases OrderedMap.get_set_eq_some hget' with ⟨rfl, rfl⟩ | ⟨-, hold'⟩
    · rfl
    · exact absurd hblk.symm (selectActiveDependencyEdge_eq_none hnew hold'
        (isActiveIn_iff.mpr ⟨ho.symm, hw.symm, hactive'⟩) hdep.symm)
    · exact absurd hblk (selectActiveDependencyEdge_eq_none hnew hold
        (isActiveIn_iff.mpr ⟨ho, hw, hactive⟩) hdep)
    · exact h.unique hold hold' ho hw hactive hactive' hdep hblk
  dependent hget := by
    rw [hedges] at hget
    rcases OrderedMap.get_set_eq_some hget with ⟨-, rfl⟩ | ⟨-, hold⟩
    · exact htickets _ hdependent
    · exact htickets _ (h.dependent hold)
  blocker hget := by
    rw [hedges] at hget
    rcases OrderedMap.get_set_eq_some hget with ⟨-, rfl⟩ | ⟨-, hold⟩
    · exact htickets _ hblocker
    · exact htickets _ (h.blocker hold)

/-- An edge is retired. -/
lemma retire (h : GraphOk t) {edge : DependencyEdgeRow} {k commandId : String}
    (hget : t.dependencyEdges.get k = some edge)
    (hedges : t'.dependencyEdges = t.dependencyEdges.set k (edge.retiredBy commandId))
    (htickets : ∀ k, t.devTickets.get k ≠ none → t'.devTickets.get k ≠ none) : GraphOk t' where
  acyclic o w := by
    refine (h.acyclic o w).mono fun x y harc => ?_
    obtain ⟨k', edge', hget', hactive, hx, hy⟩ := arc_iff.mp harc
    rw [hedges] at hget'
    rcases OrderedMap.get_set_eq_some hget' with ⟨-, rfl⟩ | ⟨-, hold⟩
    · cases (isActiveIn_iff.mp hactive).2.2
    · exact arc_iff.mpr ⟨k', edge', hold, hactive, hx, hy⟩
  unique := by
    intro k₁ k₂ edge₁ edge₂ hget₁ hget₂ ho hw hactive₁ hactive₂ hdep hblk
    rw [hedges] at hget₁ hget₂
    rcases OrderedMap.get_set_eq_some hget₁ with ⟨-, rfl⟩ | ⟨-, hold₁⟩
    · cases hactive₁
    rcases OrderedMap.get_set_eq_some hget₂ with ⟨-, rfl⟩ | ⟨-, hold₂⟩
    · cases hactive₂
    exact h.unique hold₁ hold₂ ho hw hactive₁ hactive₂ hdep hblk
  dependent hget' := by
    rw [hedges] at hget'
    rcases OrderedMap.get_set_eq_some hget' with ⟨-, rfl⟩ | ⟨-, hold⟩
    · have hold := h.dependent hget
      exact htickets _ hold
    · exact htickets _ (h.dependent hold)
  blocker hget' := by
    rw [hedges] at hget'
    rcases OrderedMap.get_set_eq_some hget' with ⟨-, rfl⟩ | ⟨-, hold⟩
    · have hold := h.blocker hget
      exact htickets _ hold
    · exact htickets _ (h.blocker hold)

end GraphOk

/-! ### The graph as the store shows it -/

/-- The id names a ticket of the workspace. -/
def IsTicketOf (t : Tables) (o w : ScopeId) (id : String) : Prop :=
  ∃ row, t.selectDevTicket o w id = some row ∧ row.id = id ∧ row.organizationId = o ∧
    row.workspaceId = w

lemma isTicketOf (hk : Keyed t) {o w : ScopeId} {id : String}
    (h : t.devTickets.get (key o w id) ≠ none) : IsTicketOf t o w id := by
  obtain ⟨row, hrow⟩ := Option.ne_none_iff_exists'.mp h
  obtain ⟨ho, hw, hid⟩ := key_injective (hk.devTickets hrow)
  exact ⟨row, hrow, hid.symm, ho.symm, hw.symm⟩

/-- The active edges of a workspace form an acyclic graph without loops or double
arcs, and every edge lies between tickets of the workspace. -/
structure DependencyDag (t : Tables) (o w : ScopeId) : Prop where
  acyclic : Acyclic (Arc (t.dependencyArcs o w))
  noLoop : ∀ id, ¬Arc (t.dependencyArcs o w) id id
  unique : ∀ k k' edge edge', t.dependencyEdges.get k = some edge →
    t.dependencyEdges.get k' = some edge' → Tables.isActiveIn o w edge = true →
    Tables.isActiveIn o w edge' = true →
    edge.dependentDevTicketId = edge'.dependentDevTicketId →
    edge.blockerDevTicketId = edge'.blockerDevTicketId → k = k'
  endpoints : ∀ k edge, t.dependencyEdges.get k = some edge → edge.organizationId = o →
    edge.workspaceId = w →
    IsTicketOf t o w edge.dependentDevTicketId ∧ IsTicketOf t o w edge.blockerDevTicketId

lemma GraphOk.dag (h : GraphOk t) (hk : Keyed t) (o w : ScopeId) : DependencyDag t o w where
  acyclic := h.acyclic o w
  noLoop id := (h.acyclic o w).irrefl id
  unique k k' edge edge' hget hget' hactive hactive' := by
    obtain ⟨ho, hw, ha⟩ := isActiveIn_iff.mp hactive
    obtain ⟨ho', hw', ha'⟩ := isActiveIn_iff.mp hactive'
    exact h.unique hget hget' (ho.trans ho'.symm) (hw.trans hw'.symm) ha ha'
  endpoints k edge hget ho hw := by
    subst ho hw
    exact ⟨isTicketOf hk (h.dependent hget), isTicketOf hk (h.blocker hget)⟩

/-! ### Removing an edge -/

/-- The envelope expects the version of the Todo queue if the ticket is in it. -/
def ExpectsQueue (e : CommandEnvelope) (t : Tables) (lane : DevTicketLane) : Prop :=
  lane = .todo → expected e "lane_queue" "todo" =
    some (t.getOrLockTodoQueueHeader e.organizationId e.workspaceId).1.version

/-- The eviction of a member from a queue locked at its version succeeds. -/
lemma evictFromTodo_of_member (drift : String) {id : String} {membership : TodoQueueMembershipRow}
    {header : LaneQueueHeaderRow} (hmember : t.todoQueueMemberships.get (c.key id) = some membership)
    (hheader : t.todoQueueHeaders.get (c.key "todo") = some header) :
    evictFromTodo c.envelope id drift header.version t =
      .ok { header with version := header.version + 1 }
        ((t.dropMembership (c.key id)).putHeader (c.key "todo")
          { header with version := header.version + 1 }) := by
  have hdelete : Tables.deleteTodoQueueMembership c.envelope.organizationId
      c.envelope.workspaceId id t = (true, t.dropMembership (c.key id)) := by
    rw [Tables.deleteTodoQueueMembership, OrderedMap.has_eq_true.mpr ⟨membership, hmember⟩]
    rfl
  refine bind_eq_ok.mpr ⟨true, t.dropMembership (c.key id), by rw [hdelete], ?_⟩
  refine bind_eq_ok.mpr ⟨_, _, orNull_eq_some.mpr (casBumpTodoQueueVersion_of_locked ?_), rfl⟩
  exact hheader

/-- A dependent at its stored version, evicted if it is in Todo, is changed. -/
lemma dependentMutation_succeeds {dependent : DevTicketRow}
    (hget : t.devTickets.get (c.key dependent.id) = some dependent)
    (hqueue : ExpectsQueue c.envelope t dependent.lane)
    (hmember : dependent.lane = .todo → t.todoQueueMemberships.get (c.key dependent.id) ≠ none) :
    ∃ queueVersion t₁, lockTodoQueue c.envelope dependent.lane t = (.ok queueVersion, t₁) ∧
      HeaderStep c t t₁ ∧ ∀ edges, ∃ result t₂,
        dependentMutation c dependent queueVersion { t₁ with dependencyEdges := edges } =
          .ok result t₂ ∧ t₂.dependencyEdges = edges := by
  have hcas : ∀ s : Tables, s.devTickets = t.devTickets →
      Tables.applyDependencyChangeToDependent c.envelope.organizationId c.envelope.workspaceId
        dependent.id dependent.version s = some (dependent.dependencyChanged,
          s.putDevTicket (c.key dependent.id) dependent.dependencyChanged) := by
    intro s hs
    refine Tables.casDevTicket_eq_some.mpr ⟨dependent, ?_, rfl, rfl, rfl, rfl⟩
    rw [hs, hget]
  by_cases hlane : dependent.lane = .todo
  · obtain ⟨header, t₁, hlock, hstep, hheader⟩ := getOrLock_spec c t
    have hexpected := hqueue hlane
    rw [hlock] at hexpected
    obtain ⟨membership, hmembership⟩ := Option.ne_none_iff_exists'.mp (hmember hlane)
    rw [← hstep.todoQueueMemberships] at hmembership
    refine ⟨some header.version, t₁, by simp [lockTodoQueue, hlane, hlock, hexpected], hstep,
      fun edges => ?_⟩
    have hevict := evictFromTodo_of_member (c := c) (t := { t₁ with dependencyEdges := edges })
      dependentVersionDrift hmembership hheader
    refine ⟨_, _, bind_eq_ok.mpr ⟨_, _, bind_eq_ok.mpr ⟨_, _, hevict, rfl⟩,
      bind_eq_ok.mpr ⟨_, _, orNull_eq_some.mpr (hcas _ hstep.devTickets), rfl⟩⟩, rfl⟩
  · refine ⟨none, t, by simp [lockTodoQueue, hlane], .refl, fun edges => ?_⟩
    exact ⟨_, _, bind_eq_ok.mpr ⟨_, _, rfl,
      bind_eq_ok.mpr ⟨_, _, orNull_eq_some.mpr (hcas _ rfl), rfl⟩⟩, rfl⟩

section Graph

variable [Platform] {command : Command} {r : Recorded} {admissible : World → Call → Prop}
  {w w' : World}

/-! ### Effects -/

/-- Every effect keeps the graphs in order. -/
lemma applied_graphOk (h : GraphOk t) (happlied : Applied c t command t' r) : GraphOk t' := by
  have htickets : ∀ k, t.devTickets.get k ≠ none → t'.devTickets.get k ≠ none :=
    fun k hne => (applied_tickets happlied).get_ne_none hne
  have hchange := applied_edges happlied
  generalize hedges : t'.dependencyEdges = edges at hchange
  cases hchange with
  | kept => exact h.congr hedges htickets
  | added command_eq foundDependent foundBlocker distinct new activeBlocker noCycle =>
      exact h.add hedges htickets (by simp [foundDependent]) (by simp [foundBlocker]) new noCycle
  | retired command_eq foundEdge activeEdge => exact h.retire foundEdge hedges htickets

lemma reachable_graphOk (h : Reachable admissible w) : GraphOk w.tables := by
  refine reachable_invariant ?_ (fun t sources ht => ht.congr rfl fun _ hne => hne)
    (fun c t t₁ ht hstep => ht.congr hstep.dependencyEdges fun k hne => by
      rwa [hstep.devTickets])
    (fun w call t t' r _ _ _ ht happlied => applied_graphOk ht happlied) h
  exact
    { acyclic := fun o w x hcycle => by
        obtain ⟨y, harc, -⟩ := Relation.TransGen.head'_iff.mp hcycle
        exact (List.not_mem_nil harc).elim
      unique := fun hget => by cases hget
      dependent := fun hget => by cases hget
      blocker := fun hget => by cases hget }

/-! ### Retired edges -/

/-- An edge is retired iff it names the command that retired it. -/
def RetiredNamed (t : Tables) : Prop :=
  ∀ k edge, t.dependencyEdges.get k = some edge →
    (edge.lifecycleState = .retired ↔ edge.retiredCommandId ≠ none)

lemma applied_retiredNamed (h : RetiredNamed t) (happlied : Applied c t command t' r) :
    RetiredNamed t' := by
  have hchange := applied_edges happlied
  rw [RetiredNamed]
  generalize t'.dependencyEdges = edges at hchange
  intro k edge hget
  cases hchange with
  | kept => exact h k edge hget
  | added =>
      rcases OrderedMap.get_set_eq_some hget with ⟨-, rfl⟩ | ⟨-, hold⟩
      · simp [newEdge, Tables.InsertDependencyEdgeInput.row]
      · exact h k edge hold
  | retired =>
      rcases OrderedMap.get_set_eq_some hget with ⟨-, rfl⟩ | ⟨-, hold⟩
      · simp [DependencyEdgeRow.retiredBy]
      · exact h k edge hold

lemma reachable_retiredNamed (h : Reachable admissible w) : RetiredNamed w.tables := by
  refine reachable_invariant ?_ (fun t sources ht => ht) (fun c t t₁ ht hstep => ?_)
    (fun w call t t' r _ _ _ ht happlied => applied_retiredNamed ht happlied) h
  · intro k edge hget
    cases hget
  · rw [RetiredNamed, hstep.dependencyEdges]
    exact ht

/-- What one call does to an edge: it leaves it, retires it if it is active, or
writes a new edge over it. -/
lemma execute_edge (hk : Keyed w.tables) (call : Call) {k : String} {edge : DependencyEdgeRow}
    (hget : w.tables.dependencyEdges.get k = some edge) :
    (execute call w).2.tables.dependencyEdges.get k = some edge ∨
      (edge.lifecycleState = .active ∧ (execute call w).2.tables.dependencyEdges.get k =
        some (edge.retiredBy call.envelope.commandId)) ∨
      (k = (call.context w).key call.randomUuid ∧ ∃ input,
        (execute call w).2.tables.dependencyEdges.get k =
          some (newEdge (call.context w) input)) := by
  obtain ⟨t₁, hlock, heq | ⟨r, happlied⟩⟩ := execute_tables hk call
  · rw [heq, hlock.dependencyEdges]
    exact .inl hget
  · have hchange := applied_edges happlied
    rw [← hlock.dependencyEdges] at hget
    generalize (execute call w).2.tables.dependencyEdges = edges at hchange ⊢
    cases hchange with
    | kept => exact .inl hget
    | @added input =>
        by_cases hkey : k = (call.context w).key call.randomUuid
        · subst hkey
          exact .inr (.inr ⟨rfl, input, OrderedMap.get_set_self _ _ _⟩)
        · exact .inl ((OrderedMap.get_set_of_ne _ _ hkey).trans hget)
    | @retired input edge' command_eq foundEdge activeEdge =>
        by_cases hkey : k = (call.context w).key input.edgeId
        · subst hkey
          rw [foundEdge] at hget
          cases hget
          exact .inr (.inl ⟨activeEdge, OrderedMap.get_set_self _ _ _⟩)
        · exact .inl ((OrderedMap.get_set_of_ne _ _ hkey).trans hget)

/-- A step whose random ids are fresh leaves a retired edge alone. -/
lemma step_retired (hk : Keyed w.tables) (h : Step freshEdgeId w w') {k : String}
    {edge : DependencyEdgeRow} (hget : w.tables.dependencyEdges.get k = some edge)
    (hretired : edge.lifecycleState = .retired) :
    w'.tables.dependencyEdges.get k = some edge := by
  cases h with
  | directory => exact hget
  | legacySources => exact hget
  | call call hfresh =>
      rcases execute_edge hk call hget with hkept | ⟨hactive, -⟩ | ⟨hkey, -⟩
      · exact hkept
      · rw [hretired] at hactive
        cases hactive
      · have hnone : w.tables.dependencyEdges.get ((call.context w).key call.randomUuid) = none :=
          hfresh
        rw [hkey, hnone] at hget
        cases hget

/-- A run whose random ids are fresh leaves a retired edge alone. -/
lemma run_retired (hk : Keyed w.tables) (hrun : Relation.ReflTransGen (Step freshEdgeId) w w')
    {k : String} {edge : DependencyEdgeRow} (hget : w.tables.dependencyEdges.get k = some edge)
    (hretired : edge.lifecycleState = .retired) :
    Keyed w'.tables ∧ w'.tables.dependencyEdges.get k = some edge := by
  induction hrun with
  | refl => exact ⟨hk, hget⟩
  | tail _ hstep ih => exact ⟨step_keyed ih.1 hstep, step_retired ih.1 hstep ih.2 hretired⟩

/-! ### The graph in every reachable world -/

/-- **The dependency graph is a DAG** in every reachable world. An edge that a call
retires names the command of the call, and through every later run with fresh
random ids a retired edge keeps its row. -/
theorem dependency_graph_is_dag (h : Reachable anyCall w)
    (hrun : Relation.ReflTransGen (Step freshEdgeId) w w') :
    (∀ o ws, DependencyDag w.tables o ws) ∧
      (∀ call k edge edge', w.tables.dependencyEdges.get k = some edge →
        edge.lifecycleState = .active →
        (execute call w).2.tables.dependencyEdges.get k = some edge' →
        edge'.lifecycleState = .retired →
        edge'.retiredCommandId = some call.envelope.commandId) ∧
      ∀ k edge, w.tables.dependencyEdges.get k = some edge → edge.lifecycleState = .retired →
        edge.retiredCommandId ≠ none ∧ w'.tables.dependencyEdges.get k = some edge := by
  have hk := reachable_keyed h
  refine ⟨fun o ws => (reachable_graphOk h).dag hk o ws, ?_, ?_⟩
  · intro call k edge edge' hget hactive hget' hretired
    rcases execute_edge hk call hget with hkept | ⟨-, hnow⟩ | ⟨-, input, hnow⟩
    · rw [hkept] at hget'
      cases hget'
      rw [hactive] at hretired
      cases hretired
    · rw [hnow] at hget'
      cases hget'
      rfl
    · rw [hnow] at hget'
      cases hget'
      cases hretired
  · intro k edge hget hretired
    exact ⟨(reachable_retiredNamed h k edge hget).mp hretired, (run_retired hk hrun hget hretired).2⟩

end Graph

section GraphSample

open Sample

/-- The sample edge is removed and added again: the retired row stays. -/
theorem dependency_graph_is_dag_readded :
    ∃ (w w' : World) (edge : DependencyEdgeRow), DependencyDag w.tables organization workspace ∧
      w.tables.dependencyEdges.get (key organization workspace "e1") = some edge ∧
      edge.lifecycleState = .retired ∧
      w'.tables.dependencyEdges.get (key organization workspace "e1") = some edge ∧
      w'.tables.hasActiveDependencies organization workspace "t1" = true := by
  let w := runEvents World.empty (dependencyEvents ++ [.call (removeDependencyCall "e1")])
  let events : List Event := [.call (addDependencyCall "add-e2" "e2" "t1" "t2" 3 1)]
  have hretired : (w.tables.dependencyEdges.get (key organization workspace "e1")).map
      (·.lifecycleState) = some .retired := by decide +kernel
  have hactive : (runEvents w events).tables.hasActiveDependencies organization workspace "t1" =
      true := by decide +kernel
  have hfresh : Admitted freshEdgeId w events := by decide +kernel
  obtain ⟨edge, hget, hstate⟩ := Option.map_eq_some_iff.mp hretired
  have hreach : Reachable anyCall w := reachable_runEvents _
  have hrun : Relation.ReflTransGen (Step freshEdgeId) w (runEvents w events) :=
    run_of_events hfresh
  obtain ⟨hdag, -, hkept⟩ := dependency_graph_is_dag hreach hrun
  exact ⟨w, runEvents w events, edge, hdag _ _, hget, hstate, (hkept _ _ hget hstate).2, hactive⟩

end GraphSample

/-! ### Archived endpoints -/

section Endpoints

variable [Platform] {command : Command} {r : Recorded} {admissible : World → Call → Prop}
  {w : World}

/-- The blocker of every active edge is a ticket that is not archived. -/
def BlockersActive (t : Tables) : Prop :=
  ∀ k edge, t.dependencyEdges.get k = some edge → edge.lifecycleState = .active →
    ∃ row, t.devTickets.get (key edge.organizationId edge.workspaceId edge.blockerDevTicketId) =
      some row ∧ row.archivedAt = none

/-- Only an archive command without active dependents archives a ticket. -/
lemma TicketUpdate.stays_active {id : String} {ticket row : DevTicketRow}
    (h : TicketUpdate c t command id ticket row) (hactive : ticket.archivedAt = none) :
    row.archivedAt = none ∨ ((∃ input, command = .archiveDevTicket input) ∧
      t.selectActiveBlockerEdges c.envelope.organizationId c.envelope.workspaceId id = []) := by
  cases h with
  | archived reason active noDependents => exact .inr ⟨⟨_, rfl⟩, noDependents⟩
  | restored => exact .inl rfl
  | dependencyChanged => exact .inl ((dependencyChanged_archivedAt _).trans hactive)
  | classified => exact .inl hactive
  | reordered => exact .inl hactive
  | approved => exact .inl hactive

lemma applied_blockersActive (h : BlockersActive t) (happlied : Applied c t command t' r) :
    BlockersActive t' := by
  have htickets := applied_tickets happlied
  -- an active edge of the old tables keeps its blocker
  have hold : ∀ k edge, t.dependencyEdges.get k = some edge → edge.lifecycleState = .active →
      ∃ row, t'.devTickets.get (key edge.organizationId edge.workspaceId
        edge.blockerDevTicketId) = some row ∧ row.archivedAt = none := by
    intro k edge hget hactive
    obtain ⟨row, hrow, harchived⟩ := h k edge hget hactive
    rcases htickets.forward hrow with hkept | ⟨id, row', hkey, hrow', hupdate⟩
    · exact ⟨row, hkept, harchived⟩
    · rcases hupdate.stays_active harchived with hstays | ⟨-, hnone⟩
      · exact ⟨row', hrow', hstays⟩
      · obtain ⟨ho, hw, hid⟩ := key_injective hkey
        exact absurd hid (selectActiveBlockerEdges_eq_nil hnone hget
          (isActiveIn_iff.mpr ⟨ho, hw, hactive⟩))
  have hchange := applied_edges happlied
  rw [BlockersActive]
  generalize t'.dependencyEdges = edges at hchange
  intro k edge hget hactive
  cases hchange with
  | kept => exact hold k edge hget hactive
  | @added input dependent blocker command_eq foundDependent foundBlocker distinct new
      activeBlocker =>
      rcases OrderedMap.get_set_eq_some hget with ⟨-, rfl⟩ | ⟨-, hget⟩
      · rcases htickets.forward foundBlocker with hkept | ⟨id, row', hkey, hrow', hupdate⟩
        · exact ⟨blocker, hkept, activeBlocker⟩
        · rcases hupdate.stays_active activeBlocker with hstays | ⟨⟨input', hcommand⟩, -⟩
          · exact ⟨row', hrow', hstays⟩
          · rw [command_eq] at hcommand
            cases hcommand
      · exact hold k edge hget hactive
  | retired =>
      rcases OrderedMap.get_set_eq_some hget with ⟨-, rfl⟩ | ⟨-, hget⟩
      · cases hactive
      · exact hold k edge hget hactive

lemma reachable_blockersActive (h : Reachable admissible w) : BlockersActive w.tables := by
  refine reachable_invariant ?_ (fun t sources ht => ht) (fun c t t₁ ht hstep => ?_)
    (fun w call t t' r _ _ _ ht happlied => applied_blockersActive ht happlied) h
  · intro k edge hget
    cases hget
  · rw [BlockersActive, hstep.dependencyEdges, hstep.devTickets]
    exact ht

/-! ### Removing an active edge -/

/-- `removeDependency` retires an active edge at the expected version whose
endpoints pass the guard. -/
lemma removeDependency_retires (hk : Keyed t) {input : RemoveDependencyInput} {reason : String}
    {edge : DependencyEdgeRow} {dependent blocker : DevTicketRow} (l : Ledger)
    (hreason : decisionReason input.reason = .ok reason)
    (hedge : t.dependencyEdges.get (c.key input.edgeId) = some edge)
    (hactive : edge.lifecycleState = .active) (hversion : edge.version = input.expectedEdgeVersion)
    (hdependent : t.devTickets.get (c.key edge.dependentDevTicketId) = some dependent)
    (hblocker : t.devTickets.get (c.key edge.blockerDevTicketId) = some blocker)
    (hguard : dependencyEndpointsFailure dependent blocker = none)
    (hqueue : ExpectsQueue c.envelope t dependent.lane)
    (hmember : dependent.lane = .todo →
      t.todoQueueMemberships.get (c.key edge.dependentDevTicketId) ≠ none) :
    (removeDependency c input t l).tables.dependencyEdges.get (c.key input.edgeId) =
      some (edge.retiredBy c.envelope.commandId) := by
  have hid := hk.devTicket_id hdependent
  have hedgeId := hk.edge_id hedge
  rw [← hid] at hmember
  obtain ⟨queueVersion, t₁, hlock, hstep, hmutation⟩ :=
    dependentMutation_succeeds (hid ▸ hdependent) hqueue hmember
  obtain ⟨result, t₂, hresult, hedges⟩ := hmutation
    (t₁.dependencyEdges.set (c.key input.edgeId) (edge.retiredBy c.envelope.commandId))
  have hretire : Tables.retireDependencyEdge c.envelope.organizationId c.envelope.workspaceId
      edge.id input.expectedEdgeVersion c.envelope.commandId t₁ =
        some (edge.retiredBy c.envelope.commandId, { t₁ with
          dependencyEdges := t₁.dependencyEdges.set (c.key input.edgeId)
            (edge.retiredBy c.envelope.commandId) }) := by
    simp [Tables.retireDependencyEdge, hedgeId, hstep.dependencyEdges, hedge, hactive, hversion]
  have hremove : removeMutation c edge input.expectedEdgeVersion dependent queueVersion t₁ =
      .ok (some (edge.retiredBy c.envelope.commandId, result)) t₂ :=
    bind_eq_ok.mpr ⟨_, _, orNull_eq_some.mpr hretire, bind_eq_ok.mpr ⟨_, _, hresult, rfl⟩⟩
  have hrisky := executeRiskyMutation_of_ok hremove
  have htables : (removeDependency c input t l).tables = t₂ := by
    simp only [removeDependency, hreason, Tables.selectDependencyEdge, hedge, hactive, hversion,
      Tables.selectDevTicketForUpdate, hdependent, hblocker, hguard, hasLiveSprintMembership,
      hlock, riskyOrDrift, hrisky, reduceCtorEq, if_false, ne_eq, not_true_eq_false,
      Bool.false_eq_true, or_self]
    exact planned_tables fun _ => rfl
  rw [htables, hedges, OrderedMap.get_set_self]

/-- `removeDependency` refuses an edge whose endpoints do not pass the guard. -/
lemma removeDependency_refuses {input : RemoveDependencyInput} {edge : DependencyEdgeRow}
    {dependent blocker : DevTicketRow} {error : DomainError} (l : Ledger)
    (hedge : t.dependencyEdges.get (c.key input.edgeId) = some edge)
    (hdependent : t.devTickets.get (c.key edge.dependentDevTicketId) = some dependent)
    (hblocker : t.devTickets.get (c.key edge.blockerDevTicketId) = some blocker)
    (hguard : dependencyEndpointsFailure dependent blocker = some error) :
    (removeDependency c input t l).tables = t := by
  rw [removeDependency]
  cases decisionReason input.reason with
  | error error => rfl
  | ok reason =>
      simp only [Tables.selectDependencyEdge, hedge, Tables.selectDevTicketForUpdate, hdependent,
        hblocker, hguard]
      split_ifs <;> rfl

/-- A call that removes the edge as it is stored: its receipt is open and its actor
valid, it names the edge at its version and gives a reason, and it expects the
version of the Todo queue if the dependent is in Todo. -/
structure RemovesEdge (w : World) (edge : DependencyEdgeRow) (dependent : DevTicketRow)
    (call : Call) : Prop where
  opened : Opened call.envelope w.receipts
  actor : ∀ error, parseCommandActorRef call.envelope.actorRef ≠ .error error
  organizationId : call.envelope.organizationId = edge.organizationId
  workspaceId : call.envelope.workspaceId = edge.workspaceId
  command : ∃ input reason, call.command = .removeDependency input ∧ input.edgeId = edge.id ∧
    input.expectedEdgeVersion = edge.version ∧ decisionReason input.reason = .ok reason
  queue : ExpectsQueue call.envelope w.tables dependent.lane

/-- **Endpoints of the active edges** in every reachable world: the blocker is not
archived, and the edge can be removed exactly while the dependent is not. -/
theorem active_edge_endpoints (h : Reachable anyCall w) {k : String} {edge : DependencyEdgeRow}
    (hget : w.tables.dependencyEdges.get k = some edge) (hactive : edge.lifecycleState = .active) :
    ∃ dependent blocker,
      w.tables.selectDevTicket edge.organizationId edge.workspaceId edge.dependentDevTicketId =
          some dependent ∧
        w.tables.selectDevTicket edge.organizationId edge.workspaceId edge.blockerDevTicketId =
          some blocker ∧
        blocker.archivedAt = none ∧
        ∀ call, RemovesEdge w edge dependent call →
          (execute call w).2.tables.dependencyEdges.get k =
            some (if dependent.archivedAt = none then edge.retiredBy call.envelope.commandId
              else edge) := by
  have hk := reachable_keyed h
  have hcoherent := reachable_todoCoherent h
  obtain ⟨blocker, hblocker, hblockerActive⟩ := reachable_blockersActive h k edge hget hactive
  obtain ⟨dependent, hdependent⟩ :=
    Option.ne_none_iff_exists'.mp ((reachable_graphOk h).dependent hget)
  refine ⟨dependent, blocker, hdependent, hblocker, hblockerActive, fun call hcall => ?_⟩
  obtain ⟨input, reason, hcommand, hedgeId, hversion, hreason⟩ := hcall.command
  obtain rfl : k = (call.context w).key input.edgeId := by
    rw [hk.dependencyEdges hget, ← hcall.organizationId, ← hcall.workspaceId, ← hedgeId]
    rfl
  rw [← hcall.organizationId, ← hcall.workspaceId] at hdependent hblocker
  rw [execute_opened (by rw [hcommand]; rfl) hcall.opened hcall.actor, ranWorld]
  dsimp only
  rw [hcommand]
  simp only [Command.body]
  split_ifs with harchived
  · have hguard : dependencyEndpointsFailure dependent blocker = none := by
      have hlane := (hcoherent.rows hdependent).lane
      have hlane' := (hcoherent.rows hblocker).lane
      rcases hlane with hlane | hlane <;> rcases hlane' with hlane' | hlane' <;>
        simp [dependencyEndpointsFailure, dependencyEndpointFailure, harchived, hblockerActive,
          hlane, hlane']
    have hmember : dependent.lane = .todo → w.tables.todoQueueMemberships.get
        ((call.context w).key edge.dependentDevTicketId) ≠ none :=
      fun htodo => (hcoherent.members _).mpr ⟨dependent, hdependent, htodo⟩
    exact removeDependency_retires (c := call.context w) hk w.ledger hreason hget hactive
      hversion.symm hdependent hblocker hguard hcall.queue hmember
  · have hguard : ∃ error, dependencyEndpointsFailure dependent blocker = some error := by
      simp [dependencyEndpointsFailure, dependencyEndpointFailure,
        Option.isSome_iff_ne_none.mpr harchived]
    obtain ⟨error, hguard⟩ := hguard
    have htables := removeDependency_refuses (c := call.context w) w.ledger hget hdependent
      hblocker hguard
    rw [htables, hget]

end Endpoints

open Sample

/-- The blocker of the sample edge is not archived. -/
theorem active_edge_endpoints_dependencyEvents :
    ∃ edge blocker, (runEvents World.empty dependencyEvents).tables.dependencyEdges.get
        (key organization workspace "e1") = some edge ∧ edge.lifecycleState = .active ∧
      (runEvents World.empty dependencyEvents).tables.selectDevTicket edge.organizationId
        edge.workspaceId edge.blockerDevTicketId = some blocker ∧ blocker.archivedAt = none := by
  have hactive : ((runEvents World.empty dependencyEvents).tables.dependencyEdges.get
      (key organization workspace "e1")).map (·.lifecycleState) = some .active := by
    decide +kernel
  obtain ⟨edge, hget, hstate⟩ := Option.map_eq_some_iff.mp hactive
  obtain ⟨dependent, blocker, -, hblocker, harchived, -⟩ :=
    active_edge_endpoints (reachable_runEvents _) hget hstate
  exact ⟨edge, blocker, hget, hstate, hblocker, harchived⟩

/-- Archiving the sample dependent leaves its edge active. -/
theorem active_edge_of_archived_dependent :
    ¬∀ w, Reachable anyCall w → ∀ k edge dependent,
      w.tables.dependencyEdges.get k = some edge → edge.lifecycleState = .active →
      w.tables.selectDevTicket edge.organizationId edge.workspaceId edge.dependentDevTicketId =
        some dependent → dependent.archivedAt = none := by
  intro h
  let w := runEvents World.empty (dependencyEvents ++ [.call (archiveCall "t1" 2)])
  have hactive : (w.tables.dependencyEdges.get (key organization workspace "e1")).map
      (fun edge => (edge.lifecycleState, edge.organizationId, edge.workspaceId,
        edge.dependentDevTicketId)) = some (.active, organization, workspace, "t1") := by
    decide +kernel
  have harchived : (w.tables.devTickets.get (key organization workspace "t1")).map
      (·.archivedAt.isSome) = some true := by decide +kernel
  obtain ⟨edge, hget, hedge⟩ := Option.map_eq_some_iff.mp hactive
  obtain ⟨dependent, hdependent, hsome⟩ := Option.map_eq_some_iff.mp harchived
  simp only [Prod.mk.injEq] at hedge
  obtain ⟨hstate, ho, hw, hid⟩ := hedge
  have hnone := h w (reachable_runEvents _) _ edge dependent hget hstate
    (by rw [ho, hw, hid]; exact hdependent)
  rw [hnone] at hsome
  cases hsome

end Opzava.DevBoard
