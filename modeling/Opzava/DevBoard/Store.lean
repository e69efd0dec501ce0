import Opzava.DevBoard.Rows
import Opzava.Library.OrderedMap
import Opzava.Library.Savepoint
import Opzava.Library.DepthFirst

/-!
The operations of `InMemoryDevBoardPlanningStore`
(`adapters/in-memory-dev-board-planning-store.ts`).

An operation that answers `null` is a function into `Option`, one that throws a
function into `Except`; neither writes before it decides.
`executeRiskyMutation` is the savepoint around a sequence of them.

* `casDevTicket`: the compare-and-set all DevTicket updates share;
  `casDevTicket_eq_some` is the one lemma about it.
* `listTodoQueueRanks`, `rebalanceTodoBand`: the ranked Todo queue.
* `dependencyCreatesCycle`: the depth-first search over the active edges.
-/

namespace Opzava.DevBoard

open Opzava.Library

/-- The eight maps that `executeRiskyMutation` snapshots. -/
structure Tables where
  proposals : OrderedMap String ProposalRow
  devTickets : OrderedMap String DevTicketRow
  dependencyEdges : OrderedMap String DependencyEdgeRow
  todoQueueHeaders : OrderedMap String LaneQueueHeaderRow
  todoQueueMemberships : OrderedMap String TodoQueueMembershipRow
  legacyTaskSources : OrderedMap String LegacyTaskSource
  legacyTaskAliases : OrderedMap String LegacyTaskAliasRow
  historicalRecords : OrderedMap String HistoricalRecordRow

/-- The tables of a new store. -/
def Tables.empty : Tables :=
  ⟨.empty, .empty, .empty, .empty, .empty, .empty, .empty, .empty⟩

/-- The authorization data, which no planning command writes. -/
structure Directory where
  activeMembers : List String
  organizationRoles : List String

/-- `isActiveMember`. -/
def Directory.isActiveMember (d : Directory) (organizationId : ScopeId) (userId : String) : Bool :=
  d.activeMembers.contains (organizationId.text ++ ":" ++ userId)

/-- `hasOrganizationRole`. -/
def Directory.hasOrganizationRole (d : Directory) (organizationId : ScopeId) (userId : String)
    (roleKey : String) : Bool :=
  d.organizationRoles.contains (organizationId.text ++ ":" ++ userId ++ ":" ++ roleKey)

namespace Tables

/-! ### Proposals -/

/-- `selectProposalForUpdate`. -/
def selectProposalForUpdate (t : Tables) (organizationId workspaceId : ScopeId)
    (proposalId : String) : Option ProposalRow :=
  t.proposals.get (key organizationId workspaceId proposalId)

/-- `InsertProposalInput`. -/
structure InsertProposalInput where
  id : String
  organizationId : ScopeId
  workspaceId : ScopeId
  discoverySummary : String
  blockingAssessment : BlockingAssessment
  suggestedContract : JsRecord
  createdCommandId : String

/-- The row of a new proposal. -/
def InsertProposalInput.row (input : InsertProposalInput) : ProposalRow :=
  { id := input.id
    organizationId := input.organizationId
    workspaceId := input.workspaceId
    version := 1
    lifecycleState := .draft
    archivedAt := none
    archivedByUserId := none
    archivedReason := none
    discoverySummary := input.discoverySummary
    blockingAssessment := input.blockingAssessment
    suggestedContract := input.suggestedContract
    createdCommandId := input.createdCommandId
    acceptedCommandId := none
    acceptedDevTicketId := none }

/-- `insertProposal`. -/
def insertProposal (input : InsertProposalInput) (t : Tables) :
    Except Thrown (ProposalRow × Tables) :=
  let mapKey := key input.organizationId input.workspaceId input.id
  if t.proposals.has mapKey then .error (.constraint "23505")
  else .ok (input.row, { t with proposals := t.proposals.set mapKey input.row })

/-- `updateProposal`. -/
def updateProposal (organizationId workspaceId : ScopeId) (proposalId : String)
    (expectedVersion : ℕ) (input : ProposalUpdate) (t : Tables) : Option (ProposalRow × Tables) :=
  let mapKey := key organizationId workspaceId proposalId
  match t.proposals.get mapKey with
  | none => none
  | some current =>
      if current.version ≠ expectedVersion then none
      else
        some (current.updated input,
          { t with proposals := t.proposals.set mapKey (current.updated input) })

/-! ### DevTickets -/

/-- `selectDevTicketForUpdate`. -/
def selectDevTicketForUpdate (t : Tables) (organizationId workspaceId : ScopeId)
    (ticketId : String) : Option DevTicketRow :=
  t.devTickets.get (key organizationId workspaceId ticketId)

/-- `selectDevTicket`. -/
def selectDevTicket (t : Tables) (organizationId workspaceId : ScopeId) (ticketId : String) :
    Option DevTicketRow :=
  t.devTickets.get (key organizationId workspaceId ticketId)

/-- `InsertDevTicketInput`. -/
structure InsertDevTicketInput where
  id : String
  organizationId : ScopeId
  workspaceId : ScopeId
  originKind : OriginKind
  sourceProposalId : Option String
  humanOwnerUserId : String
  readyContractContent : JsRecord
  readyContractContentHash : String
  createdCommandId : String

/-- The row of a new DevTicket. -/
def InsertDevTicketInput.row (input : InsertDevTicketInput) : DevTicketRow :=
  { id := input.id
    organizationId := input.organizationId
    workspaceId := input.workspaceId
    version := 1
    originKind := input.originKind
    sourceProposalId := input.sourceProposalId
    lane := .backlog
    archivedAt := none
    archivedByUserId := none
    archivedReason := none
    lastActiveLane := none
    humanOwnerUserId := input.humanOwnerUserId
    devTicketType := none
    workAreas := []
    priority := none
    severity := none
    declaredChangeRisk := none
    minimumChangeRisk := none
    changeRiskPolicyVersion := none
    changeRiskPolicyHash := none
    readyContractVersion := 1
    readyContractContent := input.readyContractContent
    readyContractContentHash := input.readyContractContentHash
    readyState := .draft
    readyApprovalContractVersion := none
    readyApprovalContentHash := none
    readyApprovedByUserId := none
    readyApprovalCommandId := none
    createdCommandId := input.createdCommandId }

/-- `insertDevTicket`: the id must be new, and a source proposal must not have a
ticket in the organization yet. -/
def insertDevTicket (input : InsertDevTicketInput) (t : Tables) :
    Except Thrown (DevTicketRow × Tables) :=
  let mapKey := key input.organizationId input.workspaceId input.id
  if t.devTickets.has mapKey = true ∨
      (input.sourceProposalId.isSome = true ∧
        (t.devTickets.values.any fun row =>
          decide (row.organizationId = input.organizationId) &&
            decide (row.sourceProposalId = input.sourceProposalId)) = true) then
    .error (.constraint "23505")
  else .ok (input.row, { t with devTickets := t.devTickets.set mapKey input.row })

/-- The compare-and-set shared by the updates of a DevTicket: the row must exist
at the expected version and be admissible for the change. -/
def casDevTicket (organizationId workspaceId : ScopeId) (devTicketId : String)
    (expectedVersion : ℕ) (admissible : DevTicketRow → Bool)
    (change : DevTicketRow → DevTicketRow) (t : Tables) : Option (DevTicketRow × Tables) :=
  let mapKey := key organizationId workspaceId devTicketId
  match t.devTickets.get mapKey with
  | none => none
  | some current =>
      if current.version ≠ expectedVersion ∨ admissible current = false then none
      else
        some (change current, { t with devTickets := t.devTickets.set mapKey (change current) })

lemma casDevTicket_eq_some {o w : ScopeId} {id : String} {version : ℕ}
    {admissible : DevTicketRow → Bool} {change : DevTicketRow → DevTicketRow} {t t' : Tables}
    {row : DevTicketRow} :
    casDevTicket o w id version admissible change t = some (row, t') ↔
      ∃ current, t.devTickets.get (key o w id) = some current ∧ current.version = version ∧
        admissible current = true ∧ row = change current ∧
        t' = { t with devTickets := t.devTickets.set (key o w id) (change current) } := by
  rw [casDevTicket]
  cases t.devTickets.get (key o w id) with
  | none => simp
  | some current =>
      by_cases hv : current.version = version
      · by_cases ha : admissible current = true
        · simp only [hv, ha, ne_eq, not_true_eq_false, Bool.true_eq_false, or_self, if_false,
            Option.some.injEq, Prod.mk.injEq, exists_eq_left', true_and]
          exact and_congr eq_comm eq_comm
        · simp [hv, ha]
      · simp [hv]

/-- `updateDevTicketForReadyApproval`. -/
def updateDevTicketForReadyApproval (organizationId workspaceId : ScopeId) (devTicketId : String)
    (expectedVersion : ℕ) (input : ReadyApproval) : Tables → Option (DevTicketRow × Tables) :=
  casDevTicket organizationId workspaceId devTicketId expectedVersion (fun _ => true)
    (·.approved input)

/-- `updateDevTicketClassification`. -/
def updateDevTicketClassification (organizationId workspaceId : ScopeId) (devTicketId : String)
    (expectedVersion : ℕ) (input : Classification) : Tables → Option (DevTicketRow × Tables) :=
  casDevTicket organizationId workspaceId devTicketId expectedVersion (fun _ => true)
    (·.classified input)

/-- `archiveDevTicket` of the store; `now` is its reading of the clock. -/
def archiveDevTicket (organizationId workspaceId : ScopeId) (devTicketId : String)
    (expectedVersion : ℕ) (archivedByUserId archivedReason : String) (now : Date) :
    Tables → Option (DevTicketRow × Tables) :=
  casDevTicket organizationId workspaceId devTicketId expectedVersion (·.archivedAt.isNone)
    (·.archived now archivedByUserId archivedReason)

/-- `restoreDevTicket` of the store. -/
def restoreDevTicket (organizationId workspaceId : ScopeId) (devTicketId : String)
    (expectedVersion : ℕ) : Tables → Option (DevTicketRow × Tables) :=
  casDevTicket organizationId workspaceId devTicketId expectedVersion (·.archivedAt.isSome)
    (·.restored)

/-- `bumpDevTicketVersion`. -/
def bumpDevTicketVersion (organizationId workspaceId : ScopeId) (devTicketId : String)
    (expectedVersion : ℕ) : Tables → Option (DevTicketRow × Tables) :=
  casDevTicket organizationId workspaceId devTicketId expectedVersion (fun _ => true) (·.bumped)

/-- `applyDependencyChangeToDependent`. -/
def applyDependencyChangeToDependent (organizationId workspaceId : ScopeId) (devTicketId : String)
    (expectedVersion : ℕ) : Tables → Option (DevTicketRow × Tables) :=
  casDevTicket organizationId workspaceId devTicketId expectedVersion (fun _ => true)
    (·.dependencyChanged)

/-! ### The Todo queue -/

/-- `getOrLockTodoQueueHeader`: a missing header is created at version 1. -/
def getOrLockTodoQueueHeader (t : Tables) (organizationId workspaceId : ScopeId) :
    LaneQueueHeaderRow × Tables :=
  let mapKey := key organizationId workspaceId "todo"
  match t.todoQueueHeaders.get mapKey with
  | some current => (current, t)
  | none =>
      let header : LaneQueueHeaderRow := ⟨organizationId, workspaceId, 1⟩
      (header, { t with todoQueueHeaders := t.todoQueueHeaders.set mapKey header })

/-- `casBumpTodoQueueVersion`. -/
def casBumpTodoQueueVersion (organizationId workspaceId : ScopeId) (expectedVersion : ℕ)
    (t : Tables) : Option (LaneQueueHeaderRow × Tables) :=
  let mapKey := key organizationId workspaceId "todo"
  match t.todoQueueHeaders.get mapKey with
  | none => none
  | some current =>
      if current.version ≠ expectedVersion then none
      else
        let header := { current with version := current.version + 1 }
        some (header, { t with todoQueueHeaders := t.todoQueueHeaders.set mapKey header })

/-- `todoQueueMembership`. -/
def todoQueueMembership (t : Tables) (organizationId workspaceId : ScopeId)
    (devTicketId : String) : Option TodoQueueMembershipRow :=
  t.todoQueueMemberships.get (key organizationId workspaceId devTicketId)

/-- `insertTodoQueueMembership`. -/
def insertTodoQueueMembership (organizationId workspaceId : ScopeId) (devTicketId : String)
    (rank : ℤ) (t : Tables) : Except Thrown (Unit × Tables) :=
  let mapKey := key organizationId workspaceId devTicketId
  if t.todoQueueMemberships.has mapKey then .error (.constraint "23505")
  else
    .ok ((), { t with
      todoQueueMemberships := t.todoQueueMemberships.set mapKey ⟨devTicketId, rank⟩ })

/-- `updateTodoQueueMembershipRank`: whether there was a membership to update. -/
def updateTodoQueueMembershipRank (organizationId workspaceId : ScopeId) (devTicketId : String)
    (rank : ℤ) (t : Tables) : Bool × Tables :=
  let mapKey := key organizationId workspaceId devTicketId
  if t.todoQueueMemberships.has mapKey then
    (true, { t with
      todoQueueMemberships := t.todoQueueMemberships.set mapKey ⟨devTicketId, rank⟩ })
  else (false, t)

/-- `deleteTodoQueueMembership`: whether there was a membership to delete. -/
def deleteTodoQueueMembership (organizationId workspaceId : ScopeId) (devTicketId : String)
    (t : Tables) : Bool × Tables :=
  let mapKey := key organizationId workspaceId devTicketId
  (t.todoQueueMemberships.has mapKey,
    { t with todoQueueMemberships := t.todoQueueMemberships.delete mapKey })

/-- The comparator of `listTodoQueueRanks`: by rank, ties by collation of the id. -/
def rankLe [Platform] (left right : TodoQueueMembershipRow) : Bool :=
  if left.rank = right.rank then
    Platform.localeCompare left.devTicketId right.devTicketId != .gt
  else left.rank < right.rank

/-- The memberships whose key starts with the text of a workspace, unsorted. -/
def todoQueueRows (t : Tables) (organizationId workspaceId : ScopeId) :
    List TodoQueueMembershipRow :=
  (t.todoQueueMemberships.entries.filter fun entry =>
    jsStartsWith entry.1 (organizationId.text ++ ":" ++ workspaceId.text ++ ":")).map Prod.snd

/-- `listTodoQueueRanks`. -/
def listTodoQueueRanks [Platform] (t : Tables) (organizationId workspaceId : ScopeId) :
    List TodoQueueMembershipRow :=
  (t.todoQueueRows organizationId workspaceId).insertionSort fun a b => rankLe a b

/-- The loop of `rebalanceTodoBand` from a given index on. -/
def rebalanceFrom (organizationId workspaceId : ScopeId) : ℕ → List String → Tables → Tables
  | _, [], t => t
  | index, devTicketId :: rest, t =>
      rebalanceFrom organizationId workspaceId (index + 1) rest
        (updateTodoQueueMembershipRank organizationId workspaceId devTicketId
          ((index + 2) * 1000000) t).2

/-- `rebalanceTodoBand`. -/
def rebalanceTodoBand (organizationId workspaceId : ScopeId) (orderedDevTicketIds : List String)
    (t : Tables) : Tables :=
  rebalanceFrom organizationId workspaceId 0 orderedDevTicketIds t

/-! ### Dependency edges -/

/-- The edge belongs to the workspace and is active. -/
def isActiveIn (organizationId workspaceId : ScopeId) (edge : DependencyEdgeRow) : Bool :=
  decide (edge.organizationId = organizationId) && decide (edge.workspaceId = workspaceId) &&
    decide (edge.lifecycleState = .active)

/-- `hasActiveDependencies`. -/
def hasActiveDependencies (t : Tables) (organizationId workspaceId : ScopeId)
    (devTicketId : String) : Bool :=
  t.dependencyEdges.values.any fun edge =>
    isActiveIn organizationId workspaceId edge && decide (edge.dependentDevTicketId = devTicketId)

/-- `selectDependencyEdge`. -/
def selectDependencyEdge (t : Tables) (organizationId workspaceId : ScopeId) (edgeId : String) :
    Option DependencyEdgeRow :=
  t.dependencyEdges.get (key organizationId workspaceId edgeId)

/-- `selectActiveDependencyEdge`. -/
def selectActiveDependencyEdge (t : Tables) (organizationId workspaceId : ScopeId)
    (dependentDevTicketId blockerDevTicketId : String) : Option DependencyEdgeRow :=
  t.dependencyEdges.values.find? fun edge =>
    isActiveIn organizationId workspaceId edge &&
      decide (edge.dependentDevTicketId = dependentDevTicketId) &&
      decide (edge.blockerDevTicketId = blockerDevTicketId)

/-- `selectActiveBlockerEdges`. -/
def selectActiveBlockerEdges (t : Tables) (organizationId workspaceId : ScopeId)
    (blockerDevTicketId : String) : List DependencyEdgeRow :=
  t.dependencyEdges.values.filter fun edge =>
    isActiveIn organizationId workspaceId edge &&
      decide (edge.blockerDevTicketId = blockerDevTicketId)

/-- The arcs of the dependency graph, from dependent to blocker. -/
def dependencyArcs (t : Tables) (organizationId workspaceId : ScopeId) : List (String × String) :=
  (t.dependencyEdges.values.filter (isActiveIn organizationId workspaceId)).map fun edge =>
    (edge.dependentDevTicketId, edge.blockerDevTicketId)

/-- `dependencyCreatesCycle`: `visit(blocker)` looking for the dependent, over
the edges of the workspace in their stored order. -/
def dependencyCreatesCycle (t : Tables) (organizationId workspaceId : ScopeId)
    (dependentDevTicketId blockerDevTicketId : String) : Bool :=
  search (t.dependencyArcs organizationId workspaceId) blockerDevTicketId dependentDevTicketId

/-- `InsertDependencyEdgeInput`. -/
structure InsertDependencyEdgeInput where
  id : String
  organizationId : ScopeId
  workspaceId : ScopeId
  dependentDevTicketId : String
  blockerDevTicketId : String
  createdCommandId : String

/-- The row of a new dependency edge. -/
def InsertDependencyEdgeInput.row (input : InsertDependencyEdgeInput) : DependencyEdgeRow :=
  { id := input.id
    organizationId := input.organizationId
    workspaceId := input.workspaceId
    version := 1
    dependentDevTicketId := input.dependentDevTicketId
    blockerDevTicketId := input.blockerDevTicketId
    lifecycleState := .active
    createdCommandId := input.createdCommandId
    retiredCommandId := none }

/-- `insertDependencyEdge`; the id itself is not checked for being new. -/
def insertDependencyEdge (input : InsertDependencyEdgeInput) (t : Tables) :
    Except Thrown (DependencyEdgeRow × Tables) :=
  if input.dependentDevTicketId = input.blockerDevTicketId ∨
      (t.selectActiveDependencyEdge input.organizationId input.workspaceId
        input.dependentDevTicketId input.blockerDevTicketId).isSome = true then
    .error (.constraint "23505")
  else if (t.selectDevTicket input.organizationId input.workspaceId
        input.dependentDevTicketId).isNone = true ∨
      (t.selectDevTicket input.organizationId input.workspaceId
        input.blockerDevTicketId).isNone = true then
    .error (.constraint "23503")
  else
    .ok (input.row, { t with
      dependencyEdges :=
        t.dependencyEdges.set (key input.organizationId input.workspaceId input.id) input.row })

/-- `retireDependencyEdge`. -/
def retireDependencyEdge (organizationId workspaceId : ScopeId) (edgeId : String)
    (expectedVersion : ℕ) (retiredCommandId : String) (t : Tables) :
    Option (DependencyEdgeRow × Tables) :=
  let mapKey := key organizationId workspaceId edgeId
  match t.dependencyEdges.get mapKey with
  | none => none
  | some current =>
      if current.lifecycleState ≠ .active ∨ current.version ≠ expectedVersion then none
      else
        let row := current.retiredBy retiredCommandId
        some (row, { t with dependencyEdges := t.dependencyEdges.set mapKey row })

/-- `DependencyLockStatus["blockers"]`: each active blocker and whether it is
done. -/
def dependencyBlockers (t : Tables) (organizationId workspaceId : ScopeId)
    (devTicketId : String) : List (String × Bool) :=
  (t.dependencyEdges.values.filter fun edge =>
    isActiveIn organizationId workspaceId edge &&
      decide (edge.dependentDevTicketId = devTicketId)).map fun edge =>
    (edge.blockerDevTicketId,
      match t.devTickets.get (key organizationId workspaceId edge.blockerDevTicketId) with
      | some blocker => decide (blocker.lane = .done)
      | none => false)

/-- `dependencyLockStatus`, its `locked` flag. -/
def dependencyLocked (t : Tables) (organizationId workspaceId : ScopeId) (devTicketId : String) :
    Bool :=
  (t.dependencyBlockers organizationId workspaceId devTicketId).any fun blocker => !blocker.2

/-! ### Legacy sources, aliases and historical records -/

/-- `selectLegacyTaskSource`. -/
def selectLegacyTaskSource (t : Tables) (legacyTaskId : String) : Option LegacyTaskSource :=
  t.legacyTaskSources.get legacyTaskId

/-- `selectLegacyTaskAliasForUpdate`. -/
def selectLegacyTaskAliasForUpdate (t : Tables) (organizationId : ScopeId)
    (legacyTaskId : String) : Option LegacyTaskAliasRow :=
  t.legacyTaskAliases.get (aliasKey organizationId legacyTaskId)

/-- `selectHistoricalRecordForUpdate`: records are stored under their own id and
read only from their own workspace. -/
def selectHistoricalRecordForUpdate (t : Tables) (organizationId workspaceId : ScopeId)
    (historicalRecordId : String) : Option HistoricalRecordRow :=
  match t.historicalRecords.get historicalRecordId with
  | some row =>
      if row.organizationId = organizationId ∧ row.workspaceId = workspaceId then some row
      else none
  | none => none

/-- `InsertHistoricalRecordInput`. -/
structure InsertHistoricalRecordInput where
  id : String
  organizationId : ScopeId
  workspaceId : ScopeId
  sourceTableRowIdentity : String
  completionGate : Option CompletionGate
  sourceDisposition : SourceDisposition
  sourceEpoch : Option String
  sourceRecordedAt : Date
  sourceUpdatedAt : Date
  preservedPayloadDigest : String
  evidenceRefs : List JsRecord
  promotionCommandId : Option String

/-- The row of a new historical record; `now` is its reading of the clock. -/
def InsertHistoricalRecordInput.row (input : InsertHistoricalRecordInput) (now : Date) :
    HistoricalRecordRow :=
  { historicalRecordId := input.id
    organizationId := input.organizationId
    workspaceId := input.workspaceId
    sourceKind := .legacyTask
    sourceTableRowIdentity := input.sourceTableRowIdentity
    completionGate := input.completionGate
    sourceDisposition := input.sourceDisposition
    sourceEpoch := input.sourceEpoch
    sourceRecordedAt := input.sourceRecordedAt
    sourceUpdatedAt := input.sourceUpdatedAt
    importedAt := now
    preservedPayloadDigest := input.preservedPayloadDigest
    evidenceRefs := input.evidenceRefs
    promotionCommandId := input.promotionCommandId
    version := 1 }

/-- `insertHistoricalRecord`. -/
def insertHistoricalRecord (input : InsertHistoricalRecordInput) (now : Date) (t : Tables) :
    Except Thrown (HistoricalRecordRow × Tables) :=
  if t.historicalRecords.has input.id then .error (.constraint "23505")
  else
    .ok (input.row now,
      { t with historicalRecords := t.historicalRecords.set input.id (input.row now) })

/-- `insertLegacyTaskAlias`. -/
def insertLegacyTaskAlias (input : LegacyTaskAliasRow) (t : Tables) :
    Except Thrown (Unit × Tables) :=
  let mapKey := aliasKey input.organizationId input.legacyTaskId
  if t.legacyTaskAliases.has mapKey then .error (.constraint "23505")
  else .ok ((), { t with legacyTaskAliases := t.legacyTaskAliases.set mapKey input })

/-- The transitions `resolveImportedHistoricalRecord` allows: out of quarantine
to any disposition, otherwise none, and never a change of the gate. -/
def resolutionAllowed (current : HistoricalRecordRow) (sourceDisposition : SourceDisposition)
    (completionGate : Option CompletionGate) : Bool :=
  (if current.sourceDisposition = .quarantinedNoOwner then true
    else decide (sourceDisposition = current.sourceDisposition)) &&
    decide (completionGate = current.completionGate)

/-- The `DomainError` of a transition that is not allowed. -/
def historicalTransitionInvalid : Thrown :=
  .domain ⟨"dev_board.historical_transition_invalid",
    "Imported historical records may only advance from quarantine without regressing their " ++
      "completion gate."⟩

/-- Write the ticket id of the alias of a legacy task, if there is one. -/
def setAliasDevTicketId (organizationId : ScopeId) (legacyTaskId : String)
    (devTicketId : Option String) (t : Tables) : Tables :=
  let mapKey := aliasKey organizationId legacyTaskId
  match t.legacyTaskAliases.get mapKey with
  | none => t
  | some row =>
      { t with legacyTaskAliases := t.legacyTaskAliases.set mapKey { row with devTicketId } }

/-- `resolveImportedHistoricalRecord`. -/
def resolveImportedHistoricalRecord (organizationId workspaceId : ScopeId)
    (historicalRecordId : String) (expectedVersion : ℕ) (sourceDisposition : SourceDisposition)
    (completionGate : Option CompletionGate) (promotionCommandId devTicketId : Option String)
    (t : Tables) : Except Thrown (Option HistoricalRecordRow × Tables) :=
  match t.selectHistoricalRecordForUpdate organizationId workspaceId historicalRecordId with
  | none => .ok (none, t)
  | some current =>
      if current.version ≠ expectedVersion then .ok (none, t)
      else if resolutionAllowed current sourceDisposition completionGate = false then
        .error historicalTransitionInvalid
      else
        let row : HistoricalRecordRow :=
          { current with
            sourceDisposition := sourceDisposition
            completionGate := completionGate
            promotionCommandId := promotionCommandId
            version := current.version + 1 }
        .ok (some row,
          setAliasDevTicketId organizationId current.sourceTableRowIdentity devTicketId
            { t with historicalRecords := t.historicalRecords.set row.historicalRecordId row })

/-- `reconcileHistoricalCompletion` of the store. -/
def reconcileHistoricalCompletion (organizationId workspaceId : ScopeId)
    (historicalRecordId : String) (expectedVersion : ℕ) (t : Tables) :
    Option (HistoricalRecordRow × Tables) :=
  match t.selectHistoricalRecordForUpdate organizationId workspaceId historicalRecordId with
  | none => none
  | some current =>
      if current.version ≠ expectedVersion then none
      else
        let row : HistoricalRecordRow :=
          { current with
            completionGate := some .reconciledHistorical
            version := current.version + 1 }
        some (row,
          { t with historicalRecords := t.historicalRecords.set row.historicalRecordId row })

end Tables

/-! ### Risky mutations -/

/-- A sequence of store operations inside `executeRiskyMutation`. -/
abbrev Mutation := EStateM Thrown Tables

/-- The result of `executeRiskyMutation`: the value, the domain error a
constraint is turned into, or the exception it lets through. -/
inductive Risky (α : Type) where
  | value (a : α)
  | failed (error : DomainError)
  | thrown (error : Thrown)

/-- `executeRiskyMutation`: every map is restored when the mutation throws. -/
def executeRiskyMutation {α : Type} (mutation : Mutation α) (t : Tables) : Risky α × Tables :=
  match savepoint mutation t with
  | (.ok a, t) => (.value a, t)
  | (.error error, t) =>
      if error.code = some "23503" then
        (.failed ⟨"dev_board.constraint_reference_invalid",
          "A referenced Dev Board record is not valid."⟩, t)
      else if error.code = some "23505" then
        (.failed ⟨"dev_board.constraint_conflict",
          "A Dev Board record with this identity already exists."⟩, t)
      else (.thrown error, t)

lemma executeRiskyMutation_of_ok {α : Type} {mutation : Mutation α} {t t' : Tables} {a : α}
    (h : mutation t = .ok a t') : executeRiskyMutation mutation t = (.value a, t') := by
  rw [executeRiskyMutation, savepoint_eq_ok.mpr h]

/-- A risky mutation either succeeds, or leaves the tables as they were. -/
lemma executeRiskyMutation_cases {α : Type} (mutation : Mutation α) (t : Tables) :
    (∃ a t', mutation t = .ok a t' ∧ executeRiskyMutation mutation t = (.value a, t')) ∨
      (∃ error, executeRiskyMutation mutation t = (.failed error, t)) ∨
      (∃ error, executeRiskyMutation mutation t = (.thrown error, t)) := by
  rw [executeRiskyMutation]
  rcases h : savepoint mutation t with ⟨result, t'⟩
  cases result with
  | ok a => exact .inl ⟨a, t', savepoint_eq_ok.mp h, rfl⟩
  | error error =>
      have ht := savepoint_eq_error h
      subst ht
      by_cases hfk : error.code = some "23503"
      · exact .inr (.inl ⟨_, if_pos hfk⟩)
      · by_cases hunique : error.code = some "23505"
        · exact .inr (.inl ⟨_, (if_neg hfk).trans (if_pos hunique)⟩)
        · exact .inr (.inr ⟨error, (if_neg hfk).trans (if_neg hunique)⟩)

end Opzava.DevBoard
