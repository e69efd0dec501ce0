import Opzava.DevBoard.Commands.Run

/-!
What a command can do to the tables and the ledgers.

* `HeaderStep`: the one write a rejected command may leave, a missing header of
  the Todo queue created at version 1.
* `Applied`: every effect of an accepted command, one constructor an effect, with
  the guards that let it through and the tables it leaves written out.
* `Ends`: how a body can end. `Bodies.lean` proves that every body ends so; every
  invariant of the board is derived from it.
* `Keyed`: every row sits under its own key, so that the row a command has read
  under an id is the row it then writes.
-/

namespace Opzava.DevBoard

open Opzava.Library

/-! ### Keys -/

/-- Every row sits under its own key. -/
structure Keyed (t : Tables) : Prop where
  proposals : ∀ {k row}, t.proposals.get k = some row →
    k = key row.organizationId row.workspaceId row.id
  devTickets : ∀ {k row}, t.devTickets.get k = some row →
    k = key row.organizationId row.workspaceId row.id
  dependencyEdges : ∀ {k row}, t.dependencyEdges.get k = some row →
    k = key row.organizationId row.workspaceId row.id
  memberships : ∀ {k row}, t.todoQueueMemberships.get k = some row →
    ∃ o w, k = key o w row.devTicketId
  historicalRecords : ∀ {k row}, t.historicalRecords.get k = some row →
    k = row.historicalRecordId
  legacyTaskAliases : ∀ {k row}, t.legacyTaskAliases.get k = some row →
    k = aliasKey row.organizationId row.legacyTaskId

/-- The map key of a record of the workspace of the command. -/
abbrev Context.key (c : Context) (id : String) : String :=
  DevBoard.key c.envelope.organizationId c.envelope.workspaceId id

/-! ### Writes of one row -/

namespace Tables

/-- Write a proposal. -/
def putProposal (t : Tables) (k : String) (row : ProposalRow) : Tables :=
  { t with proposals := t.proposals.set k row }

/-- Write a DevTicket. -/
def putDevTicket (t : Tables) (k : String) (row : DevTicketRow) : Tables :=
  { t with devTickets := t.devTickets.set k row }

/-- Write a dependency edge. -/
def putEdge (t : Tables) (k : String) (row : DependencyEdgeRow) : Tables :=
  { t with dependencyEdges := t.dependencyEdges.set k row }

/-- Write the header of a Todo queue. -/
def putHeader (t : Tables) (k : String) (row : LaneQueueHeaderRow) : Tables :=
  { t with todoQueueHeaders := t.todoQueueHeaders.set k row }

/-- Write a historical record. -/
def putHistorical (t : Tables) (k : String) (row : HistoricalRecordRow) : Tables :=
  { t with historicalRecords := t.historicalRecords.set k row }

/-- Write an alias. -/
def putAlias (t : Tables) (k : String) (row : LegacyTaskAliasRow) : Tables :=
  { t with legacyTaskAliases := t.legacyTaskAliases.set k row }

/-- Write a membership. -/
def putMembership (t : Tables) (k : String) (row : TodoQueueMembershipRow) : Tables :=
  { t with todoQueueMemberships := t.todoQueueMemberships.set k row }

/-- Delete a membership. -/
def dropMembership (t : Tables) (k : String) : Tables :=
  { t with todoQueueMemberships := t.todoQueueMemberships.delete k }

end Tables

/-! ### Ledgers -/

/-- What an accepted command appends to the ledgers: how many planning decisions,
and the aggregate and the version of each activity event. -/
structure Recorded where
  decisions : ℕ
  events : List (String × ℕ)

/-- The longer ledger holds what the command records, under its own scope. -/
def Appended (e : CommandEnvelope) (r : Recorded) (l l' : Ledger) : Prop :=
  ∃ decisions events,
    l' = ⟨l.planningDecisionEntries ++ decisions, l.activityEvents ++ events⟩ ∧
      decisions.length = r.decisions ∧
      events.map (fun event => (event.aggregateId, event.aggregateVersion)) = r.events ∧
      (∀ entry ∈ decisions, entry.organizationId = e.organizationId ∧
        entry.workspaceId = e.workspaceId) ∧
      ∀ event ∈ events, event.organizationId = e.organizationId ∧
        event.workspaceId = e.workspaceId

lemma Appended.refl (e : CommandEnvelope) (l : Ledger) : Appended e ⟨0, []⟩ l l :=
  ⟨[], [], by simp, rfl, rfl, by simp, by simp⟩

lemma Appended.of_planning [Platform] {e : CommandEnvelope}
    {aggregateId entryKind subject : String} {content : JsRecord} {l l' : Ledger}
    (h : planning e aggregateId entryKind subject content l = .ok l') :
    Appended e ⟨1, []⟩ l l' := by
  rw [planning] at h
  cases hhash : computeReadyContractContentHash content with
  | error error => rw [hhash] at h; cases h
  | ok hash =>
      rw [hhash] at h
      cases h
      refine ⟨[_], [], congrArg (Ledger.mk _) (List.append_nil _).symm, rfl, rfl, ?_, by simp⟩
      intro entry hentry
      rw [List.mem_singleton.mp hentry]
      exact ⟨rfl, rfl⟩

lemma Appended.activity {e : CommandEnvelope} {decisions : ℕ} {recorded : List (String × ℕ)}
    {l l' : Ledger} (h : Appended e ⟨decisions, recorded⟩ l l') (aggregateId : String)
    (version : ℕ) (eventName : String) (payload : JsRecord) (occurredAt : Date) :
    Appended e ⟨decisions, recorded ++ [(aggregateId, version)]⟩ l
      (DevBoard.activity e aggregateId version eventName payload occurredAt l') := by
  obtain ⟨ds, events, rfl, hds, hevents, hscopeD, hscope⟩ := h
  refine ⟨ds, events ++ [_], congrArg (Ledger.mk _) (List.append_assoc _ _ _), hds, ?_,
    hscopeD, ?_⟩
  · rw [List.map_append, hevents]
    rfl
  · intro event hevent
    rcases List.mem_append.mp hevent with hevent | hevent
    · exact hscope event hevent
    · rw [List.mem_singleton.mp hevent]
      exact ⟨rfl, rfl⟩

/-- A command that records nothing leaves the ledgers as they are. -/
lemma Appended.eq_of_nothing {e : CommandEnvelope} {l l' : Ledger}
    (h : Appended e ⟨0, []⟩ l l') : l' = l := by
  obtain ⟨ds, events, rfl, hds, hevents, -, -⟩ := h
  rw [List.length_eq_zero_iff.mp hds, List.map_eq_nil_iff.mp hevents, List.append_nil,
    List.append_nil]

/-! ### Effects -/

/-- The tables as they were, or with the missing header of the command's queue
created at version 1. -/
inductive HeaderStep (c : Context) (t : Tables) : Tables → Prop
  | refl : HeaderStep c t t
  | created (missing : t.todoQueueHeaders.get (c.key "todo") = none) :
      HeaderStep c t (t.putHeader (c.key "todo")
        ⟨c.envelope.organizationId, c.envelope.workspaceId, 1⟩)

/-- The updates of one proposal and nothing else, with the number of planning
decisions that go with them. -/
inductive ProposalMove (c : Context) (proposal : ProposalRow) :
    Command → String → ProposalUpdate → ℕ → Prop
  | submit {id : String} (draft : proposal.lifecycleState = .draft)
      (active : proposal.archivedAt = none) :
      ProposalMove c proposal (.submitProposal id) id (.decision .awaitingDecision none none) 0
  | merge {input : MergeProposalInput} (awaiting : proposal.lifecycleState = .awaitingDecision)
      (active : proposal.archivedAt = none) :
      ProposalMove c proposal (.mergeProposal input) input.proposalId
        (.decision .merged none none) 1
  | reject {input : ProposalReasonInput}
      (awaiting : proposal.lifecycleState = .awaitingDecision)
      (active : proposal.archivedAt = none) :
      ProposalMove c proposal (.rejectProposal input) input.proposalId
        (.decision .rejected none none) 1
  | archive {input : ProposalReasonInput} (reason : String)
      (active : proposal.archivedAt = none) :
      ProposalMove c proposal (.archiveProposal input) input.proposalId
        ⟨proposal.lifecycleState, proposal.acceptedCommandId, proposal.acceptedDevTicketId,
          some (some (c.now 0)), some (some c.envelope.actorRef.stableId), some (some reason)⟩ 1
  | restore {id : String} (archived : proposal.archivedAt.isSome = true) :
      ProposalMove c proposal (.restoreProposal id) id
        ⟨proposal.lifecycleState, proposal.acceptedCommandId, proposal.acceptedDevTicketId,
          some none, some none, some none⟩ 1

/-- A ticket leaves the Todo queue if it is in it: its membership goes and the
queue moves on to its next version. -/
inductive Dequeued (c : Context) (t : Tables) (id : String) (lane : DevTicketLane) :
    Tables → Prop
  | outside (h : lane ≠ .todo) : Dequeued c t id lane t
  | evicted {membership : TodoQueueMembershipRow} {header : LaneQueueHeaderRow}
      (h : lane = .todo)
      (member : t.todoQueueMemberships.get (c.key id) = some membership)
      (locked : t.todoQueueHeaders.get (c.key "todo") = some header) :
      Dequeued c t id lane ((t.dropMembership (c.key id)).putHeader (c.key "todo")
        { header with version := header.version + 1 })

/-- The row of a new proposal. -/
def draftedProposal (c : Context) (summary : String) (assessment : BlockingAssessment)
    (contract : JsRecord) : ProposalRow :=
  Tables.InsertProposalInput.row
    { id := c.envelope.targetAggregateId
      organizationId := c.envelope.organizationId
      workspaceId := c.envelope.workspaceId
      discoverySummary := summary
      blockingAssessment := assessment
      suggestedContract := contract
      createdCommandId := c.envelope.commandId }

/-- The row of a ticket created from a proposal. -/
def proposalTicket (c : Context) (input : AcceptProposalInput) (contract : JsRecord)
    (hash : String) : DevTicketRow :=
  Tables.InsertDevTicketInput.row
    { id := c.randomUuid
      organizationId := c.envelope.organizationId
      workspaceId := c.envelope.workspaceId
      originKind := .proposal
      sourceProposalId := some input.proposalId
      humanOwnerUserId := input.humanOwnerUserId
      readyContractContent := contract
      readyContractContentHash := hash
      createdCommandId := c.envelope.commandId }

/-- The row of a ticket promoted from a legacy task. -/
def legacyTicket (c : Context) (input : ImportLegacyDevTicketInput) (legacyTaskId hash : String) :
    DevTicketRow :=
  Tables.InsertDevTicketInput.row
    { id := legacyTaskId
      organizationId := c.envelope.organizationId
      workspaceId := c.envelope.workspaceId
      originKind := .legacy
      sourceProposalId := none
      humanOwnerUserId := input.humanOwnerUserId.getD ""
      readyContractContent := []
      readyContractContentHash := hash
      createdCommandId := c.envelope.commandId }

/-- The row of a new active edge. -/
def newEdge (c : Context) (input : AddDependencyInput) : DependencyEdgeRow :=
  Tables.InsertDependencyEdgeInput.row
    { id := c.randomUuid
      organizationId := c.envelope.organizationId
      workspaceId := c.envelope.workspaceId
      dependentDevTicketId := input.dependentDevTicketId
      blockerDevTicketId := input.blockerDevTicketId
      createdCommandId := c.envelope.commandId }

section Checks

variable [Platform]

/-- The evaluation of the Change Risk policy `setDevTicketClassification` makes. -/
def classificationEvaluation (c : Context) (t : Tables) (id : String)
    (p : ParsedClassification) : ChangeRiskEvaluation :=
  evaluateChangeRisk p.type p.workAreas
    (t.hasActiveDependencies c.envelope.organizationId c.envelope.workspaceId id)

/-- The guards of `setDevTicketClassification` on a ticket at the expected
version. -/
structure ClassificationChecks (c : Context) (t : Tables)
    (input : SetDevTicketClassificationInput) (ticket : DevTicketRow) (p : ParsedClassification)
    (owner : String) : Prop where
  backlog : ticket.lane = .backlog
  parsed : parseClassification input = .ok p
  owner_eq : owner = input.humanOwnerUserId.getD ticket.humanOwnerUserId
  severity : ¬(p.severity.isSome = true ∧ p.type ≠ .bug)
  member : ¬(owner ≠ ticket.humanOwnerUserId ∧
    c.directory.isActiveMember c.envelope.organizationId owner = false)
  floor : 0 ≤ compareChangeRisk p.declaredChangeRisk
    (classificationEvaluation c t input.devTicketId p).minimumChangeRisk
  changed : classificationUnchanged ticket owner p
    (classificationEvaluation c t input.devTicketId p) = false

/-- The guards of `approveReadyToTodo` on a ticket at the expected version, given
whether the ticket has active dependencies. -/
structure ReadyChecks (ticket : DevTicketRow) (contract : JsRecord)
    (hasActiveDependencies : Bool) (type : DevTicketType) (priority : Priority)
    (declared : ChangeRisk) : Prop where
  backlog : ticket.lane = .backlog
  draft : ticket.readyState = .draft
  active : ticket.archivedAt = none
  type_eq : ticket.devTicketType = some type
  workAreas : ticket.workAreas ≠ []
  priority_eq : ticket.priority = some priority
  declared_eq : ticket.declaredChangeRisk = some declared
  classification : sameCanonicalJson (contract.read "classification")
    (expectedClassification ticket type priority) = .ok true
  owner : isText (contract.read "humanOwnerUserId") ticket.humanOwnerUserId = true
  floor : 0 ≤ compareChangeRisk declared
    (evaluateChangeRisk type ticket.workAreas hasActiveDependencies).minimumChangeRisk
  minimum_eq : ticket.minimumChangeRisk =
    some (evaluateChangeRisk type ticket.workAreas hasActiveDependencies).minimumChangeRisk
  version_eq : ticket.changeRiskPolicyVersion =
    some (evaluateChangeRisk type ticket.workAreas hasActiveDependencies).policyVersion
  hash_eq : ticket.changeRiskPolicyHash =
    some (evaluateChangeRisk type ticket.workAreas hasActiveDependencies).policyHash
  policy : sameCanonicalJson (contract.read "changeRiskPolicy")
    (evaluateChangeRisk type ticket.workAreas hasActiveDependencies).toValue = .ok true

/-- A legacy source that can be imported, its disposition and its digest. -/
structure ImportSource (c : Context) (t : Tables) (input : ImportLegacyDevTicketInput)
    (source : LegacyTaskSource) (disposition : SourceDisposition) (digest : String) : Prop where
  found : t.legacyTaskSources.get input.legacyTaskId = some source
  organizationId : source.organizationId = c.envelope.organizationId
  workspaceId : source.workspaceId = c.envelope.workspaceId
  status : source.status ∈ importableStatuses
  disposition_eq : disposition = legacyDisposition source.status (ownerConfirmed c input)
  digest_eq : legacyDigest source.row = .ok digest

/-- The alias and the record of an imported source, whose digest still matches. -/
structure ImportedBefore (c : Context) (t : Tables) (source : LegacyTaskSource)
    (digest : String) (existingAlias : LegacyTaskAliasRow) (historical : HistoricalRecordRow) :
    Prop where
  existing : t.legacyTaskAliases.get (aliasKey c.envelope.organizationId source.id) =
    some existingAlias
  record : t.historicalRecords.get existingAlias.historicalRecordId = some historical
  organizationId : historical.organizationId = c.envelope.organizationId
  workspaceId : historical.workspaceId = c.envelope.workspaceId
  unchanged : historical.preservedPayloadDigest = digest

end Checks

/-- The record after a re-import has moved its disposition. -/
def HistoricalRecordRow.resolved (row : HistoricalRecordRow) (disposition : SourceDisposition)
    (promotionCommandId : Option String) : HistoricalRecordRow :=
  { row with
    sourceDisposition := disposition
    promotionCommandId := promotionCommandId
    version := row.version + 1 }

/-- The record after its reconciliation. -/
def HistoricalRecordRow.reconciled (row : HistoricalRecordRow) : HistoricalRecordRow :=
  { row with
    completionGate := some .reconciledHistorical
    version := row.version + 1 }

/-- The record of a first import. -/
def importedRecord (c : Context) (source : LegacyTaskSource) (disposition : SourceDisposition)
    (digest : String) : HistoricalRecordRow :=
  Tables.InsertHistoricalRecordInput.row
    { id := c.randomUuid
      organizationId := c.envelope.organizationId
      workspaceId := c.envelope.workspaceId
      sourceTableRowIdentity := source.id
      completionGate := legacyCompletionGate source.status disposition
      sourceDisposition := disposition
      sourceEpoch := some (toISOString source.updatedAt)
      sourceRecordedAt := source.createdAt
      sourceUpdatedAt := source.updatedAt
      preservedPayloadDigest := digest
      evidenceRefs := source.evidenceRefs
      promotionCommandId :=
        if disposition = .promotedBacklog then some c.envelope.commandId else none } (c.now 0)

/-- The alias of a first import. -/
def importedAlias (c : Context) (source : LegacyTaskSource) (disposition : SourceDisposition) :
    LegacyTaskAliasRow :=
  { organizationId := c.envelope.organizationId
    workspaceId := c.envelope.workspaceId
    legacyTaskId := source.id
    legacyCardNumber := source.cardNumber
    devTicketId := if disposition = .promotedBacklog then some source.id else none
    historicalRecordId := c.randomUuid
    createdCommandId := c.envelope.commandId }

variable [Platform]

/-- The other members of the queue a reorder sees. -/
def otherMembers (c : Context) (t : Tables) (id : String) : List TodoQueueMembershipRow :=
  (t.listTodoQueueRanks c.envelope.organizationId c.envelope.workspaceId).filter
    fun member => decide (member.devTicketId ≠ id)

/-- The ticket row after a Ready approval. -/
def approvedTicket (c : Context) (ticket : DevTicketRow) (contract : JsRecord) (hash : String) :
    DevTicketRow :=
  ticket.approved
    { readyContractVersion := ticket.readyContractVersion + 1
      readyContractContent := contract
      readyContractContentHash := hash
      readyApprovedByUserId := c.envelope.actorRef.stableId
      readyApprovalCommandId := c.envelope.commandId }

/-- The queue part of a Ready approval: the band rebalanced if asked for, the
ticket appended at its rank. -/
def enqueue (c : Context) (t : Tables) (id : String) (rank : ℤ) (rebalance : Bool) : Tables :=
  (if rebalance = true then
      t.rebalanceTodoBand c.envelope.organizationId c.envelope.workspaceId
        ((t.listTodoQueueRanks c.envelope.organizationId c.envelope.workspaceId).map
          (·.devTicketId))
    else t).putMembership (c.key id) ⟨id, rank⟩

/-- The effects of an accepted command on the tables, and what it records. -/
inductive Applied (c : Context) (t : Tables) : Command → Tables → Recorded → Prop
  | drafted {input : DraftProposalInput} (summary : String) (assessment : BlockingAssessment)
      (contract : JsRecord)
      (fresh : t.proposals.get (c.key c.envelope.targetAggregateId) = none) :
      Applied c t (.draftProposal input)
        (t.putProposal (c.key c.envelope.targetAggregateId)
          (draftedProposal c summary assessment contract)) ⟨1, []⟩
  | proposalMoved {command : Command} {id : String} {proposal : ProposalRow}
      {update : ProposalUpdate} {decisions : ℕ}
      (found : t.proposals.get (c.key id) = some proposal)
      (move : ProposalMove c proposal command id update decisions) :
      Applied c t command (t.putProposal (c.key id) (proposal.updated update))
        ⟨decisions, [(id, proposal.version + 1)]⟩
  | accepted {input : AcceptProposalInput} {proposal : ProposalRow} {contract : JsRecord}
      {hash : String}
      (found : t.proposals.get (c.key input.proposalId) = some proposal)
      (awaiting : proposal.lifecycleState = .awaitingDecision)
      (active : proposal.archivedAt = none)
      (fresh : t.devTickets.get (c.key c.randomUuid) = none)
      (unclaimed : ∀ k row, t.devTickets.get k = some row →
        row.organizationId = c.envelope.organizationId →
        row.sourceProposalId ≠ some input.proposalId)
      (hashed : computeReadyContractContentHash contract = .ok hash) :
      Applied c t (.acceptProposal input)
        ((t.putDevTicket (c.key c.randomUuid) (proposalTicket c input contract hash)).putProposal
          (c.key input.proposalId)
          (proposal.updated (.decision .accepted (some c.envelope.commandId)
            (some c.randomUuid))))
        ⟨1, [(input.proposalId, proposal.version + 1), (c.randomUuid, 1)]⟩
  | archived {input : ArchiveDevTicketInput} {ticket : DevTicketRow} {t₁ : Tables}
      (reason : String)
      (found : t.devTickets.get (c.key input.devTicketId) = some ticket)
      (active : ticket.archivedAt = none)
      (noDependents : t.selectActiveBlockerEdges c.envelope.organizationId
        c.envelope.workspaceId input.devTicketId = [])
      (dequeued : Dequeued c t input.devTicketId ticket.lane t₁) :
      Applied c t (.archiveDevTicket input)
        (t₁.putDevTicket (c.key input.devTicketId)
          (ticket.archived (c.now 0) c.envelope.actorRef.stableId reason))
        ⟨1, [(input.devTicketId, ticket.version + 1)]⟩
  | restored {id : String} {ticket : DevTicketRow}
      (found : t.devTickets.get (c.key id) = some ticket)
      (archived : ticket.archivedAt.isSome = true) :
      Applied c t (.restoreDevTicket id) (t.putDevTicket (c.key id) ticket.restored)
        ⟨1, [(id, ticket.version + 1)]⟩
  | classified {input : SetDevTicketClassificationInput} {ticket : DevTicketRow}
      {p : ParsedClassification} {owner hash : String}
      (found : t.devTickets.get (c.key input.devTicketId) = some ticket)
      (checks : ClassificationChecks c t input ticket p owner)
      (hashed : computeReadyContractContentHash (classifiedContent ticket owner p
        (classificationEvaluation c t input.devTicketId p)) = .ok hash) :
      Applied c t (.setDevTicketClassification input)
        (t.putDevTicket (c.key input.devTicketId)
          (ticket.classified (p.toUpdate owner (classificationEvaluation c t input.devTicketId p)
            (classifiedContent ticket owner p
              (classificationEvaluation c t input.devTicketId p)) hash)))
        ⟨1, [(input.devTicketId, ticket.version + 1)]⟩
  | duplicate {input : AddDependencyInput} {edge : DependencyEdgeRow}
      (found : t.selectActiveDependencyEdge c.envelope.organizationId c.envelope.workspaceId
        input.dependentDevTicketId input.blockerDevTicketId = some edge) :
      Applied c t (.addDependency input) t ⟨0, []⟩
  | dependencyAdded {input : AddDependencyInput} {dependent blocker : DevTicketRow}
      {t₁ : Tables}
      (foundDependent : t.devTickets.get (c.key input.dependentDevTicketId) = some dependent)
      (foundBlocker : t.devTickets.get (c.key input.blockerDevTicketId) = some blocker)
      (distinct : input.dependentDevTicketId ≠ input.blockerDevTicketId)
      (new : t.selectActiveDependencyEdge c.envelope.organizationId c.envelope.workspaceId
        input.dependentDevTicketId input.blockerDevTicketId = none)
      (activeDependent : dependent.archivedAt = none)
      (activeBlocker : blocker.archivedAt = none)
      (noCycle : t.dependencyCreatesCycle c.envelope.organizationId c.envelope.workspaceId
        input.dependentDevTicketId input.blockerDevTicketId = false)
      (dequeued : Dequeued c t input.dependentDevTicketId dependent.lane t₁) :
      Applied c t (.addDependency input)
        ((t₁.putEdge (c.key c.randomUuid) (newEdge c input)).putDevTicket
          (c.key input.dependentDevTicketId) dependent.dependencyChanged)
        ⟨1, [(input.dependentDevTicketId, dependent.version + 1)]⟩
  | dependencyRemoved {input : RemoveDependencyInput} {edge : DependencyEdgeRow}
      {dependent blocker : DevTicketRow} {t₁ : Tables}
      (foundEdge : t.dependencyEdges.get (c.key input.edgeId) = some edge)
      (activeEdge : edge.lifecycleState = .active)
      (foundDependent : t.devTickets.get (c.key edge.dependentDevTicketId) = some dependent)
      (foundBlocker : t.devTickets.get (c.key edge.blockerDevTicketId) = some blocker)
      (activeDependent : dependent.archivedAt = none)
      (activeBlocker : blocker.archivedAt = none)
      (dequeued : Dequeued c t edge.dependentDevTicketId dependent.lane t₁) :
      Applied c t (.removeDependency input)
        ((t₁.putEdge (c.key input.edgeId) (edge.retiredBy c.envelope.commandId)).putDevTicket
          (c.key edge.dependentDevTicketId) dependent.dependencyChanged)
        ⟨1, [(edge.dependentDevTicketId, dependent.version + 1)]⟩
  | reordered {input : ReorderTodoInput} {moved : DevTicketRow} {header : LaneQueueHeaderRow}
      {membership : TodoQueueMembershipRow} {index : ℕ}
      (found : t.devTickets.get (c.key input.devTicketId) = some moved)
      (todo : moved.lane = .todo)
      (valid : validTodoAnchor input.anchor = true)
      (locked : t.todoQueueHeaders.get (c.key "todo") = some header)
      (member : t.todoQueueMemberships.get (c.key input.devTicketId) = some membership)
      (anchored : insertionIndex c input.anchor (otherMembers c t input.devTicketId) t =
        .ok index)
      (capacity : rankOutOfRange (rankAt (otherMembers c t input.devTicketId) index) = true →
        (((splicedIds (otherMembers c t input.devTicketId) index input.devTicketId).length : ℤ) +
          1) * rankStride ≤ postgresBigintMax) :
      Applied c t (.reorderTodo input)
        ((writeRanks c.envelope input.devTicketId
            (rankAt (otherMembers c t input.devTicketId) index)
            (splicedIds (otherMembers c t input.devTicketId) index input.devTicketId)
            (t.putHeader (c.key "todo") { header with version := header.version + 1 })).2.putDevTicket
          (c.key input.devTicketId) moved.bumped)
        ⟨0, [(input.devTicketId, moved.version + 1)]⟩
  | approved {input : ApproveReadyToTodoInput} {ticket : DevTicketRow} {contract : JsRecord}
      {hash : String} {type : DevTicketType} {priority : Priority} {declared : ChangeRisk}
      {header : LaneQueueHeaderRow} {rank : ℤ} {rebalance : Bool}
      (found : t.devTickets.get (c.key input.devTicketId) = some ticket)
      (checks : ReadyChecks ticket contract
        (t.hasActiveDependencies c.envelope.organizationId c.envelope.workspaceId
          input.devTicketId) type priority declared)
      (hashed : computeReadyContractContentHash contract = .ok hash)
      (locked : t.todoQueueHeaders.get (c.key "todo") = some header)
      (ranked : appendRank (t.listTodoQueueRanks c.envelope.organizationId
        c.envelope.workspaceId) = some (rank, rebalance))
      (absent : t.todoQueueMemberships.get (c.key input.devTicketId) = none) :
      Applied c t (.approveReadyToTodo input)
        (((enqueue c t input.devTicketId rank rebalance).putDevTicket (c.key input.devTicketId)
            (approvedTicket c ticket contract hash)).putHeader (c.key "todo")
          { header with version := header.version + 1 })
        ⟨1, [(input.devTicketId, ticket.version + 1)]⟩
  | reimported {input : ImportLegacyDevTicketInput} {source : LegacyTaskSource}
      {disposition : SourceDisposition} {digest : String} {existingAlias : LegacyTaskAliasRow}
      {historical : HistoricalRecordRow}
      (importable : ImportSource c t input source disposition digest)
      (before : ImportedBefore c t source digest existingAlias historical)
      (same : historical.sourceDisposition = .quarantinedNoOwner →
        disposition = .quarantinedNoOwner) :
      Applied c t (.importLegacyDevTicket input) t ⟨0, []⟩
  | promoted {input : ImportLegacyDevTicketInput} {source : LegacyTaskSource}
      {digest hash : String} {existingAlias : LegacyTaskAliasRow}
      {historical : HistoricalRecordRow}
      (importable : ImportSource c t input source .promotedBacklog digest)
      (before : ImportedBefore c t source digest existingAlias historical)
      (unpromoted : existingAlias.devTicketId = none)
      (allowed : historical.sourceDisposition = .quarantinedNoOwner ∨
        historical.sourceDisposition = .promotedBacklog)
      (fresh : t.devTickets.get (c.key source.id) = none)
      (hashed : computeReadyContractContentHash [] = .ok hash) :
      Applied c t (.importLegacyDevTicket input)
        (Tables.setAliasDevTicketId c.envelope.organizationId historical.sourceTableRowIdentity
          (some source.id)
          ((t.putDevTicket (c.key source.id) (legacyTicket c input source.id hash)).putHistorical
            existingAlias.historicalRecordId
            (historical.resolved .promotedBacklog (some c.envelope.commandId))))
        ⟨1, []⟩
  | resolved {input : ImportLegacyDevTicketInput} {source : LegacyTaskSource}
      {disposition : SourceDisposition} {digest : String} {existingAlias : LegacyTaskAliasRow}
      {historical : HistoricalRecordRow}
      (importable : ImportSource c t input source disposition digest)
      (before : ImportedBefore c t source digest existingAlias historical)
      (quarantined : historical.sourceDisposition = .quarantinedNoOwner)
      (leaves : disposition ≠ .quarantinedNoOwner)
      (unpromoted : ¬(disposition = .promotedBacklog ∧ existingAlias.devTicketId = none))
      (promotionCommandId : Option String) :
      Applied c t (.importLegacyDevTicket input)
        (Tables.setAliasDevTicketId c.envelope.organizationId historical.sourceTableRowIdentity
          existingAlias.devTicketId
          (t.putHistorical existingAlias.historicalRecordId
            (historical.resolved disposition promotionCommandId)))
        ⟨1, []⟩
  | imported {input : ImportLegacyDevTicketInput} {source : LegacyTaskSource}
      {disposition : SourceDisposition} {digest : String}
      (importable : ImportSource c t input source disposition digest)
      (absent : t.legacyTaskAliases.get (aliasKey c.envelope.organizationId source.id) = none)
      (freshRecord : t.historicalRecords.get c.randomUuid = none)
      (notPromoted : disposition ≠ .promotedBacklog) :
      Applied c t (.importLegacyDevTicket input)
        ((t.putHistorical c.randomUuid (importedRecord c source disposition digest)).putAlias
          (aliasKey c.envelope.organizationId source.id) (importedAlias c source disposition))
        ⟨1, [(c.randomUuid, 1)]⟩
  | importedPromoted {input : ImportLegacyDevTicketInput} {source : LegacyTaskSource}
      {digest hash : String}
      (importable : ImportSource c t input source .promotedBacklog digest)
      (absent : t.legacyTaskAliases.get (aliasKey c.envelope.organizationId source.id) = none)
      (freshRecord : t.historicalRecords.get c.randomUuid = none)
      (fresh : t.devTickets.get (c.key source.id) = none)
      (hashed : computeReadyContractContentHash [] = .ok hash) :
      Applied c t (.importLegacyDevTicket input)
        (((t.putDevTicket (c.key source.id) (legacyTicket c input source.id hash)).putHistorical
            c.randomUuid (importedRecord c source .promotedBacklog digest)).putAlias
          (aliasKey c.envelope.organizationId source.id)
          (importedAlias c source .promotedBacklog))
        ⟨1, [(source.id, 1)]⟩
  | reconciled {input : ReconcileHistoricalCompletionInput} {historical : HistoricalRecordRow}
      (found : t.historicalRecords.get input.historicalRecordId = some historical)
      (organizationId : historical.organizationId = c.envelope.organizationId)
      (workspaceId : historical.workspaceId = c.envelope.workspaceId)
      (notPromoted : historical.sourceDisposition ≠ .promotedBacklog)
      (unverified : historical.completionGate = some .legacyUnverified) :
      Applied c t (.reconcileHistoricalCompletion input)
        (t.putHistorical input.historicalRecordId historical.reconciled)
        ⟨1, [(input.historicalRecordId, historical.version + 1)]⟩

/-! ### Ends of a body -/

/-- How the body of a command can end: a rejection without a write, an effect with
its records, or an exception before or after the effect. -/
inductive Ends (c : Context) (command : Command) (t : Tables) (l : Ledger) : Exit → Prop
  | rejected {t₁ : Tables} {code message : String} {extra : JsRecord}
      {resultRef : Option String} (locked : HeaderStep c t t₁)
      (extra_ok : "message" ∉ extra.map Prod.fst) :
      Ends c command t l ⟨.reject code message extra resultRef, t₁, l⟩
  | accepted {t₁ t' : Tables} {l' : Ledger} {r : Recorded} {outcomeCode resultRef : String}
      {resultingVersions : List CommandExpectedVersion} {ids : List (String × String)}
      (locked : HeaderStep c t t₁) (applied : Applied c t₁ command t' r)
      (appended : Appended c.envelope r l l') :
      Ends c command t l ⟨.accept outcomeCode resultRef resultingVersions ids, t', l'⟩
  | threw {t₁ : Tables} {error : Thrown} (locked : HeaderStep c t t₁) :
      Ends c command t l ⟨.throws error, t₁, l⟩
  | threwAfter {t₁ t' : Tables} {r : Recorded} {error : Thrown} (locked : HeaderStep c t t₁)
      (applied : Applied c t₁ command t' r) :
      Ends c command t l ⟨.throws error, t', l⟩

end Opzava.DevBoard
