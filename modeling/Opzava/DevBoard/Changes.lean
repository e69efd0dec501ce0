import Opzava.DevBoard.Runs

/-!
What an effect does to one table at a time.

`Applied` lists the effects of the commands on all the tables together. An
invariant is mostly about one or two of them, and most effects leave those alone:

* `TicketChange` (`applied_tickets`): a ticket is inserted under a new key, or one
  row is replaced by one of six updates.
* `EdgeChange` (`applied_edges`): an edge is added, or retired.
* `ProposalChange` (`applied_proposals`): a proposal is drafted, moved or accepted.
-/

namespace Opzava.DevBoard

open Opzava.Library

/-! ### Frames -/

section Frames

variable {c : Context} {t t' : Tables}

lemma HeaderStep.proposals (h : HeaderStep c t t') : t'.proposals = t.proposals := by
  cases h with
  | refl => rfl
  | created => rfl

lemma HeaderStep.todoQueueMemberships (h : HeaderStep c t t') :
    t'.todoQueueMemberships = t.todoQueueMemberships := by
  cases h with
  | refl => rfl
  | created => rfl

lemma HeaderStep.historicalRecords (h : HeaderStep c t t') :
    t'.historicalRecords = t.historicalRecords := by
  cases h with
  | refl => rfl
  | created => rfl

lemma HeaderStep.legacyTaskAliases (h : HeaderStep c t t') :
    t'.legacyTaskAliases = t.legacyTaskAliases := by
  cases h with
  | refl => rfl
  | created => rfl

/-- A ticket that leaves the queue touches the queue only. -/
lemma Dequeued.frame {id : String} {lane : DevTicketLane} (h : Dequeued c t id lane t') :
    t' = { t with
      todoQueueMemberships := t'.todoQueueMemberships
      todoQueueHeaders := t'.todoQueueHeaders } := by
  cases h with
  | outside => rfl
  | evicted => rfl

lemma dependencyChanged_archivedAt (row : DevTicketRow) :
    row.dependencyChanged.archivedAt = row.archivedAt := by
  rw [DevTicketRow.dependencyChanged]
  split_ifs <;> rfl

lemma dependencyChanged_sourceProposalId (row : DevTicketRow) :
    row.dependencyChanged.sourceProposalId = row.sourceProposalId := by
  rw [DevTicketRow.dependencyChanged]
  split_ifs <;> rfl

end Frames

variable [Platform] {c : Context} {t t' : Tables} {command : Command} {r : Recorded}

/-! ### Tickets -/

/-- The updates of one ticket row. -/
inductive TicketUpdate (c : Context) (t : Tables) :
    Command → String → DevTicketRow → DevTicketRow → Prop
  | archived {input : ArchiveDevTicketInput} {ticket : DevTicketRow} (reason : String)
      (active : ticket.archivedAt = none)
      (noDependents : t.selectActiveBlockerEdges c.envelope.organizationId
        c.envelope.workspaceId input.devTicketId = []) :
      TicketUpdate c t (.archiveDevTicket input) input.devTicketId ticket
        (ticket.archived (c.now 0) c.envelope.actorRef.stableId reason)
  | restored {id : String} {ticket : DevTicketRow} (archived : ticket.archivedAt.isSome = true) :
      TicketUpdate c t (.restoreDevTicket id) id ticket ticket.restored
  | classified {input : SetDevTicketClassificationInput} {ticket : DevTicketRow}
      {p : ParsedClassification} {owner hash : String}
      (checks : ClassificationChecks c t input ticket p owner) :
      TicketUpdate c t (.setDevTicketClassification input) input.devTicketId ticket
        (ticket.classified (p.toUpdate owner (classificationEvaluation c t input.devTicketId p)
          (classifiedContent ticket owner p
            (classificationEvaluation c t input.devTicketId p)) hash))
  | dependencyChanged {command : Command} {id : String} {ticket : DevTicketRow}
      (active : ticket.archivedAt = none) :
      TicketUpdate c t command id ticket ticket.dependencyChanged
  | reordered {input : ReorderTodoInput} {ticket : DevTicketRow} (todo : ticket.lane = .todo) :
      TicketUpdate c t (.reorderTodo input) input.devTicketId ticket ticket.bumped
  | approved {input : ApproveReadyToTodoInput} {ticket : DevTicketRow} {contract : JsRecord}
      {hash : String} {type : DevTicketType} {priority : Priority} {declared : ChangeRisk}
      (checks : ReadyChecks ticket contract
        (t.hasActiveDependencies c.envelope.organizationId c.envelope.workspaceId
          input.devTicketId) type priority declared) :
      TicketUpdate c t (.approveReadyToTodo input) input.devTicketId ticket
        (approvedTicket c ticket contract hash)

/-- A ticket created from a proposal or from a legacy task. -/
inductive NewTicket (c : Context) : Command → String → DevTicketRow → Prop
  | proposal {input : AcceptProposalInput} {contract : JsRecord} {hash : String} :
      NewTicket c (.acceptProposal input) c.randomUuid (proposalTicket c input contract hash)
  | legacy {input : ImportLegacyDevTicketInput} {legacyTaskId hash : String} :
      NewTicket c (.importLegacyDevTicket input) legacyTaskId
        (legacyTicket c input legacyTaskId hash)

/-- What an effect does to the tickets. -/
inductive TicketChange (c : Context) (t : Tables) (command : Command) :
    OrderedMap String DevTicketRow → Prop
  | kept : TicketChange c t command t.devTickets
  | inserted {id : String} {row : DevTicketRow} (fresh : t.devTickets.get (c.key id) = none)
      (new : NewTicket c command id row) :
      TicketChange c t command (t.devTickets.set (c.key id) row)
  | updated {id : String} {ticket row : DevTicketRow}
      (found : t.devTickets.get (c.key id) = some ticket)
      (update : TicketUpdate c t command id ticket row) :
      TicketChange c t command (t.devTickets.set (c.key id) row)

lemma applied_tickets (h : Applied c t command t' r) : TicketChange c t command t'.devTickets := by
  cases h with
  | drafted => exact .kept
  | proposalMoved => exact .kept
  | accepted found awaiting active fresh => exact .inserted fresh .proposal
  | archived reason found active noDependents dequeued =>
      rw [dequeued.frame]
      exact .updated found (.archived reason active noDependents)
  | restored found archived => exact .updated found (.restored archived)
  | classified found checks => exact .updated found (.classified checks)
  | duplicate => exact .kept
  | dependencyAdded found foundBlocker distinct new activeDependent activeBlocker noCycle
      dequeued =>
      rw [dequeued.frame]
      exact .updated found (.dependencyChanged activeDependent)
  | dependencyRemoved foundEdge activeEdge found foundBlocker activeDependent activeBlocker
      dequeued =>
      rw [dequeued.frame]
      exact .updated found (.dependencyChanged activeDependent)
  | reordered found todo =>
      rw [writeRanks_frame]
      exact .updated found (.reordered todo)
  | @approved input ticket contract hash type priority declared header rank rebalance found
      checks =>
      show TicketChange c t _ ((enqueue c t input.devTicketId rank rebalance).devTickets.set _ _)
      rw [enqueue_frame]
      exact .updated found (.approved checks)
  | reimported => exact .kept
  | promoted importable before unpromoted allowed fresh =>
      rw [setAliasDevTicketId_frame]
      exact .inserted fresh .legacy
  | resolved =>
      rw [setAliasDevTicketId_frame]
      exact .kept
  | imported => exact .kept
  | importedPromoted importable absent freshRecord fresh => exact .inserted fresh .legacy
  | reconciled => exact .kept

namespace TicketChange

variable {m : OrderedMap String DevTicketRow} {k : String}

/-- A stored ticket stays stored: as it is, or updated. -/
lemma forward (h : TicketChange c t command m) {ticket : DevTicketRow}
    (hget : t.devTickets.get k = some ticket) :
    m.get k = some ticket ∨
      ∃ id row, k = c.key id ∧ m.get k = some row ∧ TicketUpdate c t command id ticket row := by
  cases h with
  | kept => exact .inl hget
  | @inserted id row fresh new =>
      have hne : k ≠ c.key id := by
        rintro rfl
        rw [fresh] at hget
        cases hget
      exact .inl ((OrderedMap.get_set_of_ne _ _ hne).trans hget)
  | @updated id ticket' row found update =>
      by_cases hk : k = c.key id
      · subst hk
        rw [found] at hget
        cases hget
        exact .inr ⟨id, row, rfl, OrderedMap.get_set_self _ _ _, update⟩
      · exact .inl ((OrderedMap.get_set_of_ne _ _ hk).trans hget)

/-- Where a stored ticket comes from: it was there, is new, or is an update. -/
lemma backward (h : TicketChange c t command m) {row : DevTicketRow} (hget : m.get k = some row) :
    t.devTickets.get k = some row ∨
      (∃ id, k = c.key id ∧ t.devTickets.get k = none ∧ NewTicket c command id row) ∨
      ∃ id ticket, k = c.key id ∧ t.devTickets.get k = some ticket ∧
        TicketUpdate c t command id ticket row := by
  cases h with
  | kept => exact .inl hget
  | inserted fresh new =>
      rcases OrderedMap.get_set_eq_some hget with ⟨rfl, rfl⟩ | ⟨-, hold⟩
      · exact .inr (.inl ⟨_, rfl, fresh, new⟩)
      · exact .inl hold
  | updated found update =>
      rcases OrderedMap.get_set_eq_some hget with ⟨rfl, rfl⟩ | ⟨-, hold⟩
      · exact .inr (.inr ⟨_, _, rfl, found, update⟩)
      · exact .inl hold

lemma get_ne_none (h : TicketChange c t command m) (hget : t.devTickets.get k ≠ none) :
    m.get k ≠ none := by
  obtain ⟨ticket, hticket⟩ := Option.ne_none_iff_exists'.mp hget
  rcases h.forward hticket with hkept | ⟨id, row, -, hrow, -⟩
  · rw [hkept]
    exact Option.some_ne_none _
  · rw [hrow]
    exact Option.some_ne_none _

end TicketChange

/-- No update changes where a ticket comes from. -/
lemma TicketUpdate.sourceProposalId {id : String} {ticket row : DevTicketRow}
    (h : TicketUpdate c t command id ticket row) :
    row.sourceProposalId = ticket.sourceProposalId := by
  cases h with
  | dependencyChanged => exact dependencyChanged_sourceProposalId _
  | _ => rfl

/-! ### Dependency edges -/

/-- What an effect does to the dependency edges. -/
inductive EdgeChange (c : Context) (t : Tables) (command : Command) :
    OrderedMap String DependencyEdgeRow → Prop
  | kept : EdgeChange c t command t.dependencyEdges
  | added {input : AddDependencyInput} {dependent blocker : DevTicketRow}
      (command_eq : command = .addDependency input)
      (foundDependent : t.devTickets.get (c.key input.dependentDevTicketId) = some dependent)
      (foundBlocker : t.devTickets.get (c.key input.blockerDevTicketId) = some blocker)
      (distinct : input.dependentDevTicketId ≠ input.blockerDevTicketId)
      (new : t.selectActiveDependencyEdge c.envelope.organizationId c.envelope.workspaceId
        input.dependentDevTicketId input.blockerDevTicketId = none)
      (activeBlocker : blocker.archivedAt = none)
      (noCycle : t.dependencyCreatesCycle c.envelope.organizationId c.envelope.workspaceId
        input.dependentDevTicketId input.blockerDevTicketId = false) :
      EdgeChange c t command (t.dependencyEdges.set (c.key c.randomUuid) (newEdge c input))
  | retired {input : RemoveDependencyInput} {edge : DependencyEdgeRow}
      (command_eq : command = .removeDependency input)
      (foundEdge : t.dependencyEdges.get (c.key input.edgeId) = some edge)
      (activeEdge : edge.lifecycleState = .active) :
      EdgeChange c t command
        (t.dependencyEdges.set (c.key input.edgeId) (edge.retiredBy c.envelope.commandId))

lemma applied_edges (h : Applied c t command t' r) :
    EdgeChange c t command t'.dependencyEdges := by
  cases h with
  | drafted => exact .kept
  | proposalMoved => exact .kept
  | accepted => exact .kept
  | archived reason found active noDependents dequeued =>
      rw [dequeued.frame]
      exact .kept
  | restored => exact .kept
  | classified => exact .kept
  | duplicate => exact .kept
  | dependencyAdded found foundBlocker distinct new activeDependent activeBlocker noCycle
      dequeued =>
      rw [dequeued.frame]
      exact .added rfl found foundBlocker distinct new activeBlocker noCycle
  | dependencyRemoved foundEdge activeEdge found foundBlocker activeDependent activeBlocker
      dequeued =>
      rw [dequeued.frame]
      exact .retired rfl foundEdge activeEdge
  | reordered =>
      rw [writeRanks_frame]
      exact .kept
  | @approved input ticket contract hash type priority declared header rank rebalance =>
      show EdgeChange c t _ (enqueue c t input.devTicketId rank rebalance).dependencyEdges
      rw [enqueue_frame]
      exact .kept
  | reimported => exact .kept
  | promoted =>
      rw [setAliasDevTicketId_frame]
      exact .kept
  | resolved =>
      rw [setAliasDevTicketId_frame]
      exact .kept
  | imported => exact .kept
  | importedPromoted => exact .kept
  | reconciled => exact .kept

/-! ### Proposals -/

/-- What an effect does to the proposals. -/
inductive ProposalChange (c : Context) (t : Tables) (command : Command) :
    OrderedMap String ProposalRow → Prop
  | kept : ProposalChange c t command t.proposals
  | drafted (summary : String) (assessment : BlockingAssessment) (contract : JsRecord)
      (fresh : t.proposals.get (c.key c.envelope.targetAggregateId) = none) :
      ProposalChange c t command
        (t.proposals.set (c.key c.envelope.targetAggregateId)
          (draftedProposal c summary assessment contract))
  | moved {id : String} {proposal : ProposalRow} {update : ProposalUpdate} {decisions : ℕ}
      (found : t.proposals.get (c.key id) = some proposal)
      (move : ProposalMove c proposal command id update decisions) :
      ProposalChange c t command (t.proposals.set (c.key id) (proposal.updated update))
  | accepted {input : AcceptProposalInput} {proposal : ProposalRow}
      (command_eq : command = .acceptProposal input)
      (found : t.proposals.get (c.key input.proposalId) = some proposal)
      (awaiting : proposal.lifecycleState = .awaitingDecision)
      (active : proposal.archivedAt = none) :
      ProposalChange c t command
        (t.proposals.set (c.key input.proposalId)
          (proposal.updated (.decision .accepted (some c.envelope.commandId)
            (some c.randomUuid))))

lemma applied_proposals (h : Applied c t command t' r) :
    ProposalChange c t command t'.proposals := by
  cases h with
  | drafted summary assessment contract fresh => exact .drafted summary assessment contract fresh
  | proposalMoved found move => exact .moved found move
  | accepted found awaiting active => exact .accepted rfl found awaiting active
  | archived reason found active noDependents dequeued =>
      rw [dequeued.frame]
      exact .kept
  | restored => exact .kept
  | classified => exact .kept
  | duplicate => exact .kept
  | dependencyAdded found foundBlocker distinct new activeDependent activeBlocker noCycle
      dequeued =>
      rw [dequeued.frame]
      exact .kept
  | dependencyRemoved foundEdge activeEdge found foundBlocker activeDependent activeBlocker
      dequeued =>
      rw [dequeued.frame]
      exact .kept
  | reordered =>
      rw [writeRanks_frame]
      exact .kept
  | @approved input ticket contract hash type priority declared header rank rebalance =>
      show ProposalChange c t _ (enqueue c t input.devTicketId rank rebalance).proposals
      rw [enqueue_frame]
      exact .kept
  | reimported => exact .kept
  | promoted =>
      rw [setAliasDevTicketId_frame]
      exact .kept
  | resolved =>
      rw [setAliasDevTicketId_frame]
      exact .kept
  | imported => exact .kept
  | importedPromoted => exact .kept
  | reconciled => exact .kept

end Opzava.DevBoard
