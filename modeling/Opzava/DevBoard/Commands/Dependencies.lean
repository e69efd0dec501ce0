import Opzava.DevBoard.Commands.Basic

/-!
The dependency commands, `addDependency` and `removeDependency`. Both touch the
dependent as well: its version is bumped, and a dependent in Todo loses its
approval and its place in the queue.
-/

namespace Opzava.DevBoard

open Opzava.Library

variable [Platform]

/-- `hasLiveSprintMembership`: there is no Sprint storage yet. -/
def hasLiveSprintMembership (_ticketId : String) : Bool := false

/-- `dependencyEndpointFailure` of a ticket that exists. -/
def dependencyEndpointFailure (endpoint : DevTicketRow) : Option DomainError :=
  if endpoint.archivedAt.isSome = true then
    some ⟨"dev_board.dev_ticket_not_active", "Archived DevTickets cannot be dependency endpoints."⟩
  else if endpoint.lane = .done then
    some ⟨"dev_board.dev_ticket_done_immutable", "Done DevTickets cannot be changed in place."⟩
  else none

/-- `dependencyEndpointFailure(dependent) ?? dependencyEndpointFailure(blocker)`. -/
def dependencyEndpointsFailure (dependent blocker : DevTicketRow) : Option DomainError :=
  (dependencyEndpointFailure dependent).or (dependencyEndpointFailure blocker)

/-- The rejection of an endpoint that does not exist. -/
def rejectMissingEndpoint (t : Tables) (l : Ledger) : Exit :=
  reject "dev_board.constraint_reference_invalid" "A dependency endpoint does not exist." t l

/-- The rejection for members of a live Sprint. -/
def rejectSprintCoordination (t : Tables) (l : Ledger) : Exit :=
  reject "dev_board.sprint_coordination_required"
    "Dependency changes for Sprint members require Sprint coordination." t l

/-- The planning decision of `appendDependencyEffects`. -/
def dependencyDecision (e : CommandEnvelope) (edge : DependencyEdgeRow)
    (reason subject : String) (l : Ledger) : Except Thrown Ledger :=
  planning e edge.dependentDevTicketId "DependencyDecisionRationaleRecorded" subject
    [("reason", .string reason), ("dependentId", .string edge.dependentDevTicketId),
      ("blockerId", .string edge.blockerDevTicketId), ("edgeId", .string edge.id)] l

/-- The activity event of `appendDependencyEffects`. -/
def dependencyActivity (c : Context) (edge : DependencyEdgeRow) (eventName : String)
    (previousDependentLane : DevTicketLane) (dependent : DevTicketRow) (l : Ledger) : Ledger :=
  activity c.envelope dependent.id dependent.version eventName
    ([("edgeId", .string edge.id), ("dependentId", .string edge.dependentDevTicketId),
      ("blockerId", .string edge.blockerDevTicketId)] ++
      (if previousDependentLane = .todo ∧ dependent.lane = .backlog then
        [("readyInvalidated", .boolean true),
          ("laneChanged", .object [("from", .string "todo"), ("to", .string "backlog")])]
      else [])) (c.now 0) l

/-- `dependentVersionDrift`. -/
def dependentVersionDrift : String := "Dependent DevTicket version has changed."

/-- The part of both mutations that touches the dependent: out of the queue when
it is in Todo, then its row. -/
def dependentMutation (c : Context) (dependent : DevTicketRow) (todoQueueVersion : Option ℕ) :
    Mutation (DevTicketRow × Option LaneQueueHeaderRow) := do
  let bumped ← evictIfTodo c.envelope dependent.id dependentVersionDrift todoQueueVersion
  match ← orNull (Tables.applyDependencyChangeToDependent c.envelope.organizationId
      c.envelope.workspaceId dependent.id dependent.version) with
  | none => throw (.error dependentVersionDrift)
  | some updated => return (updated, bumped)

/-! ### `addDependency` -/

/-- `AddDependencyInput`. -/
structure AddDependencyInput where
  dependentDevTicketId : String
  blockerDevTicketId : String
  reason : String

/-- The mutation of `addDependency`: the edge, then the dependent. -/
def addMutation (c : Context) (dependent blocker : DevTicketRow) (todoQueueVersion : Option ℕ) :
    Mutation (DependencyEdgeRow × DevTicketRow × Option LaneQueueHeaderRow) := do
  let edge ← orThrow (Tables.insertDependencyEdge
    { id := c.randomUuid
      organizationId := c.envelope.organizationId
      workspaceId := c.envelope.workspaceId
      dependentDevTicketId := dependent.id
      blockerDevTicketId := blocker.id
      createdCommandId := c.envelope.commandId })
  let updated ← dependentMutation c dependent todoQueueVersion
  return (edge, updated)

/-- `addDependency`. A pair that is already active is accepted without a change,
before the versions and the endpoints are looked at. -/
def addDependency (c : Context) (input : AddDependencyInput) (t : Tables) (l : Ledger) : Exit :=
  match decisionReason input.reason with
  | .error error => rejectError error t l
  | .ok reason =>
  if input.dependentDevTicketId = input.blockerDevTicketId then
    reject "dev_board.dependency_cycle_rejected" "A DevTicket cannot depend on itself." t l
  else
  match
    t.selectDevTicketForUpdate c.envelope.organizationId c.envelope.workspaceId
      input.dependentDevTicketId,
    t.selectDevTicketForUpdate c.envelope.organizationId c.envelope.workspaceId
      input.blockerDevTicketId with
  | some dependent, some blocker =>
    match t.selectActiveDependencyEdge c.envelope.organizationId c.envelope.workspaceId
        input.dependentDevTicketId input.blockerDevTicketId with
    | some duplicate =>
      accept "dev_board.dependency_already_active" duplicate.id [duplicate.resulting]
        [("dependencyEdgeId", duplicate.id), ("devTicketId", duplicate.dependentDevTicketId)] t l
    | none =>
    if some dependent.version ≠ expected c.envelope "dev_ticket" input.dependentDevTicketId ∨
        some blocker.version ≠ expected c.envelope "dev_ticket" input.blockerDevTicketId then
      reject "dev_board.expected_version_drift" "Dependency endpoint version has changed." t l
    else
    match dependencyEndpointsFailure dependent blocker with
    | some error => rejectError error t l
    | none =>
    if hasLiveSprintMembership dependent.id = true ∨
        hasLiveSprintMembership blocker.id = true then
      rejectSprintCoordination t l
    else if t.dependencyCreatesCycle c.envelope.organizationId c.envelope.workspaceId
        input.dependentDevTicketId input.blockerDevTicketId = true then
      reject "dev_board.dependency_cycle_rejected" "The dependency would create a cycle." t l
    else
    match lockTodoQueue c.envelope dependent.lane t with
    | (.error _, t) => rejectLaneQueueDrift t l
    | (.ok todoQueueVersion, t) =>
    riskyOrDrift dependentVersionDrift (addMutation c dependent blocker todoQueueVersion) t l
      fun mutation t =>
    planned (dependencyDecision c.envelope mutation.1 reason "Dependency added" l) t l fun l =>
    accept "dev_board.dependency_added" mutation.1.id
      ([mutation.1.resulting, mutation.2.1.resulting, blocker.resulting] ++
        mutation.2.2.toList.map (·.resulting))
      [("dependencyEdgeId", mutation.1.id), ("devTicketId", mutation.2.1.id)] t
      (dependencyActivity c mutation.1 "DependencyAdded" dependent.lane mutation.2.1 l)
  | _, _ => rejectMissingEndpoint t l

/-! ### `removeDependency` -/

/-- `RemoveDependencyInput`. -/
structure RemoveDependencyInput where
  edgeId : String
  expectedEdgeVersion : ℕ
  reason : String

/-- The mutation of `removeDependency`: the edge, then the dependent. -/
def removeMutation (c : Context) (edge : DependencyEdgeRow) (expectedEdgeVersion : ℕ)
    (dependent : DevTicketRow) (todoQueueVersion : Option ℕ) :
    Mutation (Option (DependencyEdgeRow × DevTicketRow × Option LaneQueueHeaderRow)) := do
  match ← orNull (Tables.retireDependencyEdge c.envelope.organizationId c.envelope.workspaceId
      edge.id expectedEdgeVersion c.envelope.commandId) with
  | none => return none
  | some retired =>
      let updated ← dependentMutation c dependent todoQueueVersion
      return some (retired, updated)

/-- The rejection of an edge that is not the one expected. -/
def rejectEdgeIdentity (t : Tables) (l : Ledger) : Exit :=
  reject "dev_board.dependency_identity_conflict"
    "The dependency edge identity or version has changed." t l

/-- `removeDependency`. -/
def removeDependency (c : Context) (input : RemoveDependencyInput) (t : Tables) (l : Ledger) :
    Exit :=
  match decisionReason input.reason with
  | .error error => rejectError error t l
  | .ok reason =>
  match t.selectDependencyEdge c.envelope.organizationId c.envelope.workspaceId input.edgeId with
  | none =>
    reject "dev_board.dependency_not_active" "The dependency edge is not active." t l
  | some edge =>
  if edge.lifecycleState = .retired then
    rejectWith "dev_board.already_removed" "The dependency edge was already removed."
      [("dependencyEdgeId", .string edge.id),
        ("originalRemovalCommandId", .nullable edge.retiredCommandId)]
      (some (edge.retiredCommandId.getD edge.id)) t l
  else if edge.version ≠ input.expectedEdgeVersion then rejectEdgeIdentity t l
  else
  match
    t.selectDevTicketForUpdate c.envelope.organizationId c.envelope.workspaceId
      edge.dependentDevTicketId,
    t.selectDevTicketForUpdate c.envelope.organizationId c.envelope.workspaceId
      edge.blockerDevTicketId with
  | some dependent, some blocker =>
    match dependencyEndpointsFailure dependent blocker with
    | some error => rejectError error t l
    | none =>
    if hasLiveSprintMembership dependent.id = true ∨
        hasLiveSprintMembership blocker.id = true then
      rejectSprintCoordination t l
    else
    match lockTodoQueue c.envelope dependent.lane t with
    | (.error _, t) => rejectLaneQueueDrift t l
    | (.ok todoQueueVersion, t) =>
    riskyOrDrift dependentVersionDrift
      (removeMutation c edge input.expectedEdgeVersion dependent todoQueueVersion) t l
      fun mutation t =>
    match mutation with
    | none => rejectEdgeIdentity t l
    | some mutation =>
    planned (dependencyDecision c.envelope mutation.1 reason "Dependency removed" l) t l fun l =>
    accept "dev_board.dependency_removed" mutation.1.id
      ([mutation.1.resulting, mutation.2.1.resulting] ++ mutation.2.2.toList.map (·.resulting))
      [("dependencyEdgeId", mutation.1.id), ("devTicketId", mutation.2.1.id)] t
      (dependencyActivity c mutation.1 "DependencyRemoved" dependent.lane mutation.2.1 l)
  | _, _ => rejectMissingEndpoint t l

end Opzava.DevBoard
