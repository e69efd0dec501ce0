import Opzava.DevBoard.DependencyGraph

/-!
A Ready approval does not go stale: a ticket in Todo keeps the Change Risk
evaluation it was approved under.

The evaluation reads whether the ticket has active dependencies, which other rows
decide. A command that adds or retires an edge of a ticket takes the ticket out of
Todo in the same step, and an edge written under a new id is the edge of no other
ticket.

* `RiskApproved`: the classification, the policy stamps and the contract of one row
  agree with an evaluation.
* `RiskCurrent`: every row in Todo is approved under the evaluation of its own
  tables; kept by every effect whose random id is fresh (`applied_riskCurrent`).
* `risk_approval_current`: the invariant in every reachable world.
-/

namespace Opzava.DevBoard

open Opzava.Library

/-! ### Active dependencies -/

section Dependencies

variable {t t' : Tables} {o w : ScopeId} {id : String}

lemma hasActiveDependencies_iff :
    t.hasActiveDependencies o w id = true ↔ ∃ k edge, t.dependencyEdges.get k = some edge ∧
      Tables.isActiveIn o w edge = true ∧ edge.dependentDevTicketId = id := by
  simp only [Tables.hasActiveDependencies, List.any_eq_true, OrderedMap.mem_values_iff,
    Bool.and_eq_true, decide_eq_true_eq]
  constructor
  · rintro ⟨edge, ⟨k, hget⟩, hactive, hid⟩
    exact ⟨k, edge, hget, hactive, hid⟩
  · rintro ⟨k, edge, hget, hactive, hid⟩
    exact ⟨edge, ⟨k, hget⟩, hactive, hid⟩

/-- The edge leads out of the ticket. -/
def LeavesFrom (o w : ScopeId) (id : String) (edge : DependencyEdgeRow) : Prop :=
  edge.organizationId = o ∧ edge.workspaceId = w ∧ edge.dependentDevTicketId = id

/-- Writing an edge of another ticket, over nothing or over an edge of another
ticket, leaves the active dependencies of a ticket as they are. -/
lemma hasActiveDependencies_set {k : String} {edge : DependencyEdgeRow}
    (hedges : t'.dependencyEdges = t.dependencyEdges.set k edge)
    (hnew : ¬LeavesFrom o w id edge)
    (hold : ∀ old, t.dependencyEdges.get k = some old → ¬LeavesFrom o w id old) :
    t'.hasActiveDependencies o w id = t.hasActiveDependencies o w id := by
  rw [Bool.eq_iff_iff, hasActiveDependencies_iff, hasActiveDependencies_iff, hedges]
  constructor
  · rintro ⟨k', edge', hget, hactive, hid⟩
    rcases OrderedMap.get_set_eq_some hget with ⟨-, rfl⟩ | ⟨-, hget⟩
    · obtain ⟨ho, hw, -⟩ := isActiveIn_iff.mp hactive
      exact absurd ⟨ho, hw, hid⟩ hnew
    · exact ⟨k', edge', hget, hactive, hid⟩
  · rintro ⟨k', edge', hget, hactive, hid⟩
    have hne : k' ≠ k := by
      rintro rfl
      obtain ⟨ho, hw, -⟩ := isActiveIn_iff.mp hactive
      exact hold edge' hget ⟨ho, hw, hid⟩
    exact ⟨k', edge', (OrderedMap.get_set_of_ne _ _ hne).trans hget, hactive, hid⟩

lemma hasActiveDependencies_congr (hedges : t'.dependencyEdges = t.dependencyEdges) :
    t'.hasActiveDependencies o w id = t.hasActiveDependencies o w id := by
  rw [Tables.hasActiveDependencies, hedges, Tables.hasActiveDependencies]

end Dependencies

lemma isText_eq_true {value : JsValue} {text : String} (h : isText value text = true) :
    value = .string text := by
  cases value <;> simp_all [isText]

/-- A new ticket starts in Backlog. -/
lemma NewTicket.lane {c : Context} {command : Command} {id : String} {row : DevTicketRow}
    (h : NewTicket c command id row) : row.lane = .backlog := by
  cases h with
  | proposal => rfl
  | legacy => rfl

section Risk

variable [Platform] {c : Context} {t t' : Tables} {command : Command} {r : Recorded}

/-! ### Rows -/

/-- The classification of the row is complete, its stamps are those of the
evaluation, and its contract binds both and the Human Owner. -/
structure RiskApproved (row : DevTicketRow) (hasActiveDependencies : Bool) (type : DevTicketType)
    (priority : Priority) (declared minimum : ChangeRisk) : Prop where
  type_eq : row.devTicketType = some type
  workAreas : row.workAreas ≠ []
  priority_eq : row.priority = some priority
  declared_eq : row.declaredChangeRisk = some declared
  minimum_eq : row.minimumChangeRisk = some minimum
  minimum_current : minimum =
    (evaluateChangeRisk type row.workAreas hasActiveDependencies).minimumChangeRisk
  version_eq : row.changeRiskPolicyVersion =
    some (evaluateChangeRisk type row.workAreas hasActiveDependencies).policyVersion
  hash_eq : row.changeRiskPolicyHash =
    some (evaluateChangeRisk type row.workAreas hasActiveDependencies).policyHash
  floor : 0 ≤ compareChangeRisk declared minimum
  classification : sameCanonicalJson (row.readyContractContent.read "classification")
    (expectedClassification row type priority) = .ok true
  owner : row.readyContractContent.read "humanOwnerUserId" = .string row.humanOwnerUserId
  policy : sameCanonicalJson (row.readyContractContent.read "changeRiskPolicy")
    (evaluateChangeRisk type row.workAreas hasActiveDependencies).toValue = .ok true

/-- The guards of `approveReadyToTodo` are what the approved row carries. -/
lemma ReadyChecks.riskApproved {ticket : DevTicketRow} {contract : JsRecord} {hash : String}
    {hasActiveDependencies : Bool} {type : DevTicketType} {priority : Priority}
    {declared : ChangeRisk}
    (h : ReadyChecks ticket contract hasActiveDependencies type priority declared) :
    RiskApproved (approvedTicket c ticket contract hash) hasActiveDependencies type priority
      declared
      (evaluateChangeRisk type ticket.workAreas hasActiveDependencies).minimumChangeRisk where
  type_eq := h.type_eq
  workAreas := h.workAreas
  priority_eq := h.priority_eq
  declared_eq := h.declared_eq
  minimum_eq := h.minimum_eq
  minimum_current := rfl
  version_eq := h.version_eq
  hash_eq := h.hash_eq
  floor := h.floor
  classification := h.classification
  owner := isText_eq_true h.owner
  policy := h.policy

/-! ### The invariant -/

/-- Every row in Todo is approved under the evaluation of these tables. -/
def RiskCurrent (t : Tables) : Prop :=
  ∀ k row, t.devTickets.get k = some row → row.lane = .todo →
    ∃ type priority declared minimum,
      RiskApproved row (t.hasActiveDependencies row.organizationId row.workspaceId row.id) type
        priority declared minimum

/-- A ticket that an update leaves in Todo was there before, or was approved. -/
lemma TicketUpdate.todo {id : String} {ticket row : DevTicketRow}
    (h : TicketUpdate c t command id ticket row)
    (hlane : ticket.lane = .backlog ∨ ticket.lane = .todo) (htodo : row.lane = .todo) :
    (ticket.lane = .todo ∧ row = ticket.bumped) ∨
      ∃ contract hash type priority declared, row = approvedTicket c ticket contract hash ∧
        ReadyChecks ticket contract (t.hasActiveDependencies c.envelope.organizationId
          c.envelope.workspaceId id) type priority declared := by
  cases h with
  | archived => cases htodo
  | restored => cases htodo
  | classified checks =>
      have hbacklog : ticket.lane = .todo := htodo
      rw [checks.backlog] at hbacklog
      cases hbacklog
  | dependencyChanged =>
      rw [dependencyChanged_lane _ hlane] at htodo
      cases htodo
  | reordered todo => exact .inl ⟨todo, rfl⟩
  | approved checks => exact .inr ⟨_, _, _, _, _, rfl, checks⟩

/-- An effect that leaves the edges alone keeps the approvals current. -/
lemma riskCurrent_of_edges_kept (h : RiskCurrent t) (hcoherent : TodoCoherent t) (hk : Keyed t)
    (htickets : TicketChange c t command t'.devTickets)
    (hedges : t'.dependencyEdges = t.dependencyEdges) : RiskCurrent t' := by
  intro k row hget htodo
  rw [hasActiveDependencies_congr hedges]
  rcases htickets.backward hget with hold | ⟨id, -, -, hnew⟩ | ⟨id, ticket, rfl, hold, hupdate⟩
  · exact h k row hold htodo
  · rw [hnew.lane] at htodo
    cases htodo
  · rcases hupdate.todo (hcoherent.rows hold).lane htodo with ⟨hlane, rfl⟩ |
      ⟨contract, hash, type, priority, declared, rfl, hchecks⟩
    · obtain ⟨type, priority, declared, minimum, happroved⟩ := h _ ticket hold hlane
      exact ⟨type, priority, declared, minimum, { happroved with }⟩
    · obtain ⟨ho, hw, hid⟩ := key_injective (hk.devTickets hold)
      rw [ho, hw, hid] at hchecks
      exact ⟨type, priority, declared, _, hchecks.riskApproved⟩

/-- A write of an edge of the dependent that takes the dependent out of Todo keeps
the approvals of the other tickets current. -/
lemma riskCurrent_of_dependent_changed (h : RiskCurrent t) (hcoherent : TodoCoherent t)
    (hk : Keyed t) {dependent : DevTicketRow} (k : String) (edge : DependencyEdgeRow)
    (hdependent : t.devTickets.get (c.key edge.dependentDevTicketId) = some dependent)
    (ho : edge.organizationId = c.envelope.organizationId)
    (hw : edge.workspaceId = c.envelope.workspaceId)
    (htickets : t'.devTickets =
      t.devTickets.set (c.key edge.dependentDevTicketId) dependent.dependencyChanged)
    (hedges : t'.dependencyEdges = t.dependencyEdges.set k edge)
    (hold : ∀ old, t.dependencyEdges.get k = some old →
      LeavesFrom edge.organizationId edge.workspaceId edge.dependentDevTicketId old) :
    RiskCurrent t' := by
  intro k' row hget htodo
  rw [htickets] at hget
  rcases OrderedMap.get_set_eq_some hget with ⟨-, rfl⟩ | ⟨hne, hget⟩
  · rw [dependencyChanged_lane _ (hcoherent.rows hdependent).lane] at htodo
    cases htodo
  · have hother : ¬LeavesFrom row.organizationId row.workspaceId row.id edge := by
      rintro ⟨ho', hw', hid'⟩
      apply hne
      rw [hk.devTickets hget, ← ho', ← hw', ← hid', ho, hw]
    rw [hasActiveDependencies_set hedges hother]
    · exact h k' row hget htodo
    · intro old hget' hleaves
      obtain ⟨ho', hw', hid'⟩ := hold old hget'
      exact hother ⟨ho' ▸ hleaves.1, hw' ▸ hleaves.2.1, hid' ▸ hleaves.2.2⟩

/-- Every effect whose random id is no edge id yet keeps the approvals current. -/
lemma applied_riskCurrent (h : RiskCurrent t) (hcoherent : TodoCoherent t) (hk : Keyed t)
    (hfresh : t.dependencyEdges.get (c.key c.randomUuid) = none)
    (happlied : Applied c t command t' r) : RiskCurrent t' := by
  have hchange := applied_edges happlied
  generalize hedges : t'.dependencyEdges = edges at hchange
  cases hchange with
  | kept => exact riskCurrent_of_edges_kept h hcoherent hk (applied_tickets happlied) hedges
  | added command_eq =>
      subst command_eq
      cases happlied with
      | proposalMoved found move => cases move
      | duplicate => exact h
      | dependencyAdded foundDependent foundBlocker distinct new activeDependent activeBlocker
          noCycle dequeued =>
          refine riskCurrent_of_dependent_changed h hcoherent hk (c.key c.randomUuid)
            (newEdge c _) foundDependent rfl rfl ?_ ?_ fun old hold => ?_
          · rw [dequeued.frame]
            rfl
          · rw [dequeued.frame]
            rfl
          · rw [hfresh] at hold
            cases hold
  | @retired input edge command_eq =>
      subst command_eq
      cases happlied with
      | proposalMoved found move => cases move
      | dependencyRemoved foundEdge activeEdge foundDependent foundBlocker activeDependent
          activeBlocker dequeued =>
          obtain ⟨ho, hw, -⟩ := key_injective (hk.dependencyEdges foundEdge)
          refine riskCurrent_of_dependent_changed h hcoherent hk (c.key input.edgeId)
            (DependencyEdgeRow.retiredBy _ c.envelope.commandId) foundDependent ho.symm hw.symm ?_ ?_ fun old hold => ?_
          · rw [dequeued.frame]
            rfl
          · rw [dequeued.frame]
            rfl
          · rw [foundEdge] at hold
            cases hold
            exact ⟨rfl, rfl, rfl⟩

lemma reachable_riskCurrent {w : World} (h : Reachable freshEdgeId w) : RiskCurrent w.tables := by
  have hboth : TodoCoherent w.tables ∧ RiskCurrent w.tables := by
    refine reachable_invariant (P := fun t => TodoCoherent t ∧ RiskCurrent t) ?_ ?_ ?_ ?_ h
    · exact ⟨todoCoherent_empty,
        fun k row hget => by cases hget⟩
    · exact fun t sources ht => ⟨ht.1.congr rfl rfl, ht.2⟩
    · rintro c t t₁ ht (_ | _)
      · exact ht
      · exact ⟨ht.1.congr rfl rfl, ht.2⟩
    · intro w call t t' r hfresh hk hlock ht happlied
      have hnone : t.dependencyEdges.get ((call.context w).key call.randomUuid) = none := by
        rw [hlock.dependencyEdges]
        exact hfresh
      exact ⟨applied_todoCoherent ht.1 happlied,
        applied_riskCurrent ht.2 ht.1 hk hnone happlied⟩
  exact hboth.2

/-- **A Change Risk approval never goes stale**: in every reachable world, every
ticket in Todo carries the current evaluation of its Change Risk. -/
theorem risk_approval_current {w : World} (h : Reachable freshEdgeId w) {k : String}
    {row : DevTicketRow} (hget : w.tables.devTickets.get k = some row) (htodo : row.lane = .todo) :
    ∃ type priority declared minimum,
      RiskApproved row
        (w.tables.hasActiveDependencies row.organizationId row.workspaceId row.id) type priority
        declared minimum :=
  reachable_riskCurrent h k row hget htodo

end Risk

open Sample

/-- The sample ticket in Todo carries the current evaluation. -/
theorem risk_approval_current_todoEvents :
    ∃ row, (runEvents World.empty todoEvents).tables.devTickets.get
        (key organization workspace "t1") = some row ∧
      ∃ type priority declared minimum,
        RiskApproved row ((runEvents World.empty todoEvents).tables.hasActiveDependencies
          row.organizationId row.workspaceId row.id) type priority declared minimum := by
  obtain ⟨row, hget, hlane⟩ := Option.map_eq_some_iff.mp lane_todoEvents
  have hfresh : Admitted freshEdgeId World.empty todoEvents := by decide
  exact ⟨row, hget, risk_approval_current (run_of_events hfresh) hget hlane⟩

end Opzava.DevBoard
