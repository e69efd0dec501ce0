import Opzava.DevBoard.Store
import Opzava.DevBoard.Receipts

/-!
The vocabulary of the planning commands
(`application/dev-board-planning-commands.ts`): reading expected versions,
appending to the ledgers, and the ways a command body ends.

Every exit of a body is a tail call of `reject` or `accept`, or an exception. A
body therefore ends in an `Exit`, its verdict together with the tables and the
ledger at that point; finalizing the receipt with the verdict is left to the
caller (`Commands/Run.lean`). So a body cannot touch a receipt, by its type.

* `Context`: the envelope, the authorization data, and what the call reads from
  the runtime, `randomUUID()` and the readings of the clock in order.
* `risky`, `riskyOrDrift`: `executeRiskyMutation` and the exits that follow it.
* `planned`: appending a planning decision, which throws when its content cannot
  be hashed.
-/

namespace Opzava.DevBoard

open Opzava.Library

/-- What a command body is given besides its input. -/
structure Context where
  envelope : CommandEnvelope
  directory : Directory
  randomUuid : String
  now : ℕ → Date

/-- How a command body ends: the arguments of `reject` or `accept`, or an
exception. -/
inductive Verdict where
  | reject (code message : String) (extra : JsRecord) (resultRef : Option String)
  | accept (outcomeCode resultRef : String) (resultingVersions : List CommandExpectedVersion)
      (ids : List (String × String))
  | throws (error : Thrown)

/-- The verdict of a body and the state it leaves. -/
structure Exit where
  verdict : Verdict
  tables : Tables
  ledger : Ledger

/-- `return reject(tx, repository, envelope, code, message)`. -/
def reject (code message : String) (t : Tables) (l : Ledger) : Exit :=
  ⟨.reject code message [] none, t, l⟩

/-- `reject` with further fields of the summary and a result reference. -/
def rejectWith (code message : String) (extra : JsRecord) (resultRef : Option String) (t : Tables)
    (l : Ledger) : Exit :=
  ⟨.reject code message extra resultRef, t, l⟩

/-- `reject` with the code and message of a domain error. -/
def rejectError (error : DomainError) (t : Tables) (l : Ledger) : Exit :=
  reject error.code error.message t l

/-- `return accept(tx, repository, envelope, ...)`. -/
def accept (outcomeCode resultRef : String) (resultingVersions : List CommandExpectedVersion)
    (ids : List (String × String)) (t : Tables) (l : Ledger) : Exit :=
  ⟨.accept outcomeCode resultRef resultingVersions ids, t, l⟩

/-- An exception that leaves the body. -/
def throws (error : Thrown) (t : Tables) (l : Ledger) : Exit := ⟨.throws error, t, l⟩

/-- `expected`: the version the envelope expects of a record, if it names the
record exactly once. -/
def expected (e : CommandEnvelope) (kind id : String) : Option ℕ :=
  match e.expectedVersions.filter fun value =>
      decide (value.recordKind = kind) && decide (value.recordId = id) with
  | [value] => some value.version
  | _ => none

/-- `decisionReason`. -/
def decisionReason (value : String) : Except DomainError String :=
  let normalized := normalizeSpaces value
  if jsLength normalized = 0 then
    .error ⟨"dev_board.decision_reason_required", "A decision reason is required."⟩
  else if jsLength normalized > 4000 then
    .error ⟨"dev_board.decision_reason_too_long",
      "Decision reason must be 4000 characters or fewer."⟩
  else .ok normalized

/-- The proposal of the envelope's workspace, if it is there at the version the
envelope expects. -/
def proposalAtExpectedVersion (t : Tables) (e : CommandEnvelope) (proposalId : String) :
    Option ProposalRow :=
  match expected e "proposal" proposalId,
      t.selectProposalForUpdate e.organizationId e.workspaceId proposalId with
  | some version, some proposal => if proposal.version ≠ version then none else some proposal
  | _, _ => none

/-- The DevTicket of the envelope's workspace, if it is there at the version the
envelope expects. -/
def devTicketAtExpectedVersion (t : Tables) (e : CommandEnvelope) (devTicketId : String) :
    Option DevTicketRow :=
  match expected e "dev_ticket" devTicketId,
      t.selectDevTicketForUpdate e.organizationId e.workspaceId devTicketId with
  | some version, some ticket => if ticket.version ≠ version then none else some ticket
  | _, _ => none

/-! ### Authorization -/

/-- The actor is a user with the owner or admin role, the body shared by
`authorizedProposalArchiveActor` and `authorizedLegacyImportActor`. -/
def hasOwnerOrAdminRole (c : Context) : Bool :=
  c.directory.hasOrganizationRole c.envelope.organizationId c.envelope.actorRef.stableId "owner" ||
    c.directory.hasOrganizationRole c.envelope.organizationId c.envelope.actorRef.stableId "admin"

/-- `authorizedDevTicketArchiveActor`. -/
def authorizedDevTicketArchiveActor (c : Context) (ticket : DevTicketRow) : Bool :=
  decide (c.envelope.actorRef.kind = "user") &&
    (decide (c.envelope.actorRef.stableId = ticket.humanOwnerUserId) || hasOwnerOrAdminRole c)

/-- `authorizedProposalArchiveActor`. -/
def authorizedProposalArchiveActor (c : Context) : Bool :=
  decide (c.envelope.actorRef.kind = "user") && hasOwnerOrAdminRole c

/-- `authorizedLegacyImportActor`. -/
def authorizedLegacyImportActor (c : Context) : Bool :=
  decide (c.envelope.actorRef.kind = "user") && hasOwnerOrAdminRole c

/-! ### Ledgers -/

/-- `planning`: append a planning decision; hashing its content may throw. -/
def planning [Platform] (e : CommandEnvelope) (aggregateId entryKind subject : String)
    (content : JsRecord) (l : Ledger) : Except Thrown Ledger := do
  let contentHash ← computeReadyContractContentHash content
  let used := l.planningDecisionEntries.filter fun entry => decide (entry.workspaceId = e.workspaceId)
  let entry : PlanningDecisionEntry :=
    { organizationId := e.organizationId
      workspaceId := e.workspaceId
      commandId := e.commandId
      aggregateId := aggregateId
      entryKind := entryKind
      subject := subject
      contentHash := contentHash
      content := content
      entrySequence := nextSequence (used.map (·.entrySequence)) }
  return { l with planningDecisionEntries := l.planningDecisionEntries ++ [entry] }

/-- `activity`: append an activity event. -/
def activity (e : CommandEnvelope) (aggregateId : String) (aggregateVersion : ℕ)
    (eventName : String) (payload : JsRecord) (occurredAt : Date) (l : Ledger) : Ledger :=
  let used := l.activityEvents.filter fun event => decide (event.workspaceId = e.workspaceId)
  let event : ActivityEvent :=
    { organizationId := e.organizationId
      workspaceId := e.workspaceId
      aggregateId := aggregateId
      aggregateVersion := aggregateVersion
      eventName := eventName
      commandId := e.commandId
      idempotencyKey := e.idempotencyKey
      actor := e.actorRef
      source := e.sourceRef
      authorizationVersion := e.authorizationVersion
      correlationId := e.correlationId
      causationId := e.causationId
      occurredAt := occurredAt
      payload := payload
      eventSequence := nextSequence (used.map (·.eventSequence)) }
  { l with activityEvents := l.activityEvents ++ [event] }

/-- `await planning(...)`: go on with the longer ledger, or leave by its
exception. -/
def planned (appended : Except Thrown Ledger) (t : Tables) (l : Ledger) (next : Ledger → Exit) :
    Exit :=
  match appended with
  | .error error => throws error t l
  | .ok l => next l

/-! ### Risky mutations -/

/-- `const changed = await executeRiskyMutation(...)` and
`if (!changed.ok) return reject(...)`. -/
def risky {α : Type} (mutation : Mutation α) (t : Tables) (l : Ledger)
    (next : α → Tables → Exit) : Exit :=
  match executeRiskyMutation mutation t with
  | (.failed error, t) => rejectError error t l
  | (.thrown error, t) => throws error t l
  | (.value a, t) => next a t

/-- `risky` inside a `try` that turns the mutation's own drift error into a
rejection. -/
def riskyOrDrift {α : Type} (drift : String) (mutation : Mutation α) (t : Tables) (l : Ledger)
    (next : α → Tables → Exit) : Exit :=
  match executeRiskyMutation mutation t with
  | (.failed error, t) => rejectError error t l
  | (.thrown error, t) =>
      if error = .error drift then reject "dev_board.expected_version_drift" drift t l
      else throws error t l
  | (.value a, t) => next a t

/-- `computeReadyContractContentHash` inside a mutation. -/
def hashed [Platform] (content : JsRecord) : Mutation String := fun t =>
  match computeReadyContractContentHash content with
  | .ok hash => .ok hash t
  | .error error => .error error t

lemma hashed_eq_ok [Platform] {content : JsRecord} {t t' : Tables} {hash : String} :
    hashed content t = .ok hash t' ↔
      computeReadyContractContentHash content = .ok hash ∧ t = t' := by
  rw [hashed]
  cases computeReadyContractContentHash content with
  | ok hash' => simp
  | error error => simp

/-- The three steps that take a ticket out of the Todo queue inside a mutation:
delete its membership, bump the queue, throw the drift error otherwise. -/
def evictFromTodo (e : CommandEnvelope) (devTicketId drift : String) (expectedVersion : ℕ) :
    Mutation LaneQueueHeaderRow := do
  let deleted ← fun t =>
    let (deleted, t) := Tables.deleteTodoQueueMembership e.organizationId e.workspaceId devTicketId t
    .ok deleted t
  if deleted = false then throw (.error drift)
  match ← orNull (Tables.casBumpTodoQueueVersion e.organizationId e.workspaceId expectedVersion) with
  | none => throw (.error drift)
  | some bumped => return bumped

/-- `evictFromTodo` for a ticket in Todo, whose queue has been locked at a
version; nothing for another ticket. -/
def evictIfTodo (e : CommandEnvelope) (devTicketId drift : String) :
    Option ℕ → Mutation (Option LaneQueueHeaderRow)
  | none => pure none
  | some version => do return some (← evictFromTodo e devTicketId drift version)

/-- The queue guard of the commands that take a ticket out of Todo: when the
ticket is in Todo, the locked header must be at the version the envelope
expects. Answers that version, or nothing for a ticket outside Todo. -/
def lockTodoQueue (e : CommandEnvelope) (lane : DevTicketLane) (t : Tables) :
    Except Unit (Option ℕ) × Tables :=
  if lane = .todo then
    let (header, t) := t.getOrLockTodoQueueHeader e.organizationId e.workspaceId
    match expected e "lane_queue" "todo" with
    | none => (.error (), t)
    | some version => if header.version ≠ version then (.error (), t) else (.ok (some version), t)
  else (.ok none, t)

/-- The rejection of a queue that has moved on. -/
def rejectLaneQueueDrift (t : Tables) (l : Ledger) : Exit :=
  reject "dev_board.lane_queue_version_drift"
    "Todo queue changed; reload and submit a new command/key." t l

/-! ### Resulting versions -/

/-- The resulting version of a proposal. -/
def ProposalRow.resulting (row : ProposalRow) : CommandExpectedVersion :=
  ⟨"proposal", row.id, row.version⟩

/-- The resulting version of a DevTicket. -/
def DevTicketRow.resulting (row : DevTicketRow) : CommandExpectedVersion :=
  ⟨"dev_ticket", row.id, row.version⟩

/-- The resulting version of a dependency edge. -/
def DependencyEdgeRow.resulting (row : DependencyEdgeRow) : CommandExpectedVersion :=
  ⟨"dependency_edge", row.id, row.version⟩

/-- The resulting version of a historical record. -/
def HistoricalRecordRow.resulting (row : HistoricalRecordRow) : CommandExpectedVersion :=
  ⟨"historical_record", row.historicalRecordId, row.version⟩

/-- The resulting version of the Todo queue. -/
def LaneQueueHeaderRow.resulting (row : LaneQueueHeaderRow) : CommandExpectedVersion :=
  ⟨"lane_queue", "todo", row.version⟩

end Opzava.DevBoard
