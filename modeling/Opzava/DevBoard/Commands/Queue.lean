import Opzava.DevBoard.Commands.Tickets

/-!
The two commands that write ranks of the Todo queue: `reorderTodo` moves a member
next to a neighbour, `approveReadyToTodo` appends a ticket.

`reorderTodo` writes outside `executeRiskyMutation`, so an exception leaves what
was written before it.
-/

namespace Opzava.DevBoard

open Opzava.Library

variable [Platform]

/-! ### Rank allocation -/

/-- `RANK_STRIDE`. -/
def rankStride : ℤ := 1000000

/-- `FIRST_TODO_RANK`. -/
def firstTodoRank : ℤ := 2 * rankStride

/-- `POSTGRES_BIGINT_MAX`. -/
def postgresBigintMax : ℤ := 9223372036854775807

/-- The rank between two neighbours, either of which may be missing; `0` when
there is no room between them. -/
def rankBetween : Option ℤ → Option ℤ → ℤ
  | none, none => firstTodoRank
  | none, some upper => upper - rankStride
  | some lower, none => lower + rankStride
  | some lower, some upper => if upper - lower ≥ 2 then lower + (upper - lower) / 2 else 0

/-! ### `reorderTodo` -/

/-- `TodoReorderAnchor` as it arrives: `keyCount` is `Object.keys(anchor).length`,
and a field that is not a string, or not a non-negative integer, is absent. -/
structure TodoReorderAnchor where
  kind : String
  keyCount : ℕ
  neighborDevTicketId : Option String
  neighborVersion : Option ℕ

/-- The queue a reorder names. -/
structure QueueRef where
  lane : String
  version : ℕ

/-- `ReorderTodoInput`; `fields` are the names the input object has. -/
structure ReorderTodoInput where
  fields : List String
  devTicketId : String
  sourceQueue : QueueRef
  targetQueue : QueueRef
  anchor : TodoReorderAnchor

/-- `validTodoAnchor`. -/
def validTodoAnchor (anchor : TodoReorderAnchor) : Bool :=
  if anchor.kind = "empty_band" then decide (anchor.keyCount = 1)
  else
    (decide (anchor.kind = "before") || decide (anchor.kind = "after")) &&
      (match anchor.neighborDevTicketId with
        | some id => decide (0 < jsLength id)
        | none => false) &&
      (match anchor.neighborVersion with
        | some version => decide (version ≤ 9007199254740991) && decide (0 < version)
        | none => false)

/-- `forbiddenTodoOrderingField`, as the rejection it leads to. -/
def forbiddenTodoOrderingField (input : ReorderTodoInput) : Option DomainError :=
  if ["reviewReworkPlacement", "orderingTier", "tier"].any (· ∈ input.fields) then
    some ⟨"dev_board.todo_ordering_tier_server_derived", "Todo ordering tier is server-derived."⟩
  else if ["rank", "position", "priority", "placement"].any (· ∈ input.fields) then
    some ⟨"dev_board.todo_numeric_position_forbidden",
      "Todo rank and numeric position are server-derived."⟩
  else none

/-- Where the moved ticket goes among the other members. -/
def insertionIndex (c : Context) (anchor : TodoReorderAnchor)
    (others : List TodoQueueMembershipRow) (t : Tables) : Except DomainError ℕ :=
  if anchor.kind = "empty_band" then
    if others.length ≠ 0 then
      .error ⟨"dev_board.todo_anchor_invalid", "The Todo ordering band is not empty."⟩
    else .ok 0
  else
    let neighborId := anchor.neighborDevTicketId.getD ""
    match t.selectDevTicket c.envelope.organizationId c.envelope.workspaceId neighborId,
        others.findIdx? fun member => decide (member.devTicketId = neighborId) with
    | some neighbor, some neighborIndex =>
        if neighbor.lane ≠ .todo then
          .error ⟨"dev_board.todo_anchor_invalid", "Todo anchor is no longer available."⟩
        else if some neighbor.version ≠ anchor.neighborVersion then
          .error ⟨"dev_board.expected_version_drift", "Todo anchor version has changed."⟩
        else .ok (if anchor.kind = "before" then neighborIndex else neighborIndex + 1)
    | _, _ => .error ⟨"dev_board.todo_anchor_invalid", "Todo anchor is no longer available."⟩

/-- `rankPolicy` of the activity event. -/
def rankPolicyValue (anchor : TodoReorderAnchor) : JsValue :=
  if anchor.kind = "empty_band" then .object [("anchorKind", .string anchor.kind)]
  else .object [("anchorKind", .string anchor.kind),
    ("neighborDevTicketId", .string (anchor.neighborDevTicketId.getD ""))]

/-- The payload of "TodoReordered". -/
def reorderedPayload (anchor : TodoReorderAnchor) (queueVersion : ℕ)
    (rebalancedDevTicketIds : List String) : JsRecord :=
  [("rankPolicy", rankPolicyValue anchor), ("queueVersion", .nat queueVersion)] ++
    (if rebalancedDevTicketIds.length = 0 then []
      else [("rebalancedDevTicketIds", .array (rebalancedDevTicketIds.map .string))])

/-- The ids in their new order: the moved one spliced in. -/
def splicedIds (others : List TodoQueueMembershipRow) (index : ℕ) (movedId : String) :
    List String :=
  let ids := others.map (·.devTicketId)
  ids.take index ++ movedId :: ids.drop index

/-- The rank computed for an insertion index. -/
def rankAt (others : List TodoQueueMembershipRow) (index : ℕ) : ℤ :=
  rankBetween (if index = 0 then none else (others[index - 1]?).map (·.rank))
    ((others[index]?).map (·.rank))

/-- A rank outside the range of the column asks for a rebalance of the band. -/
def rankOutOfRange (rank : ℤ) : Bool := decide (rank ≤ 0) || decide (rank > postgresBigintMax)

/-- The rank writes of `reorderTodo`: the whole band, or the moved member alone,
which must still be there. -/
def writeRanks (e : CommandEnvelope) (movedId : String) (rank : ℤ) (orderedIds : List String)
    (t : Tables) : Bool × Tables :=
  if rankOutOfRange rank = true then
    (true, t.rebalanceTodoBand e.organizationId e.workspaceId orderedIds)
  else Tables.updateTodoQueueMembershipRank e.organizationId e.workspaceId movedId rank t

/-- The end of `reorderTodo`, from the bump of the queue on. -/
def commitReorder (c : Context) (input : ReorderTodoInput) (moved : DevTicketRow) (rank : ℤ)
    (orderedIds : List String) (t : Tables) (l : Ledger) : Exit :=
  match t.casBumpTodoQueueVersion c.envelope.organizationId c.envelope.workspaceId
      input.sourceQueue.version with
  | none => rejectLaneQueueDrift t l
  | some (bumpedQueue, t) =>
  match writeRanks c.envelope moved.id rank orderedIds t with
  | (false, t) => throws (.error "Todo membership disappeared after being locked.") t l
  | (true, t) =>
  match t.bumpDevTicketVersion c.envelope.organizationId c.envelope.workspaceId moved.id
      moved.version with
  | none => throws (.error "Todo DevTicket disappeared after being locked.") t l
  | some (updated, t) =>
  accept "dev_board.todo_reordered" updated.id [updated.resulting, bumpedQueue.resulting]
    [("devTicketId", updated.id)] t
    (activity c.envelope updated.id updated.version "TodoReordered"
      (reorderedPayload input.anchor bumpedQueue.version
        (if rankOutOfRange rank = true then orderedIds else [])) (c.now 0) l)

/-- `reorderTodo`. There is one ordering band, so the band of the neighbour is
always the band of the moved ticket. -/
def reorderTodo (c : Context) (input : ReorderTodoInput) (t : Tables) (l : Ledger) : Exit :=
  match forbiddenTodoOrderingField input with
  | some error => rejectError error t l
  | none =>
  if input.sourceQueue.lane ≠ "todo" ∨ input.targetQueue.lane ≠ "todo" ∨
      input.sourceQueue.version ≠ input.targetQueue.version ∨
      validTodoAnchor input.anchor = false then
    reject "dev_board.todo_anchor_invalid"
      "Todo reorder requires one valid Todo anchor and matching queue versions." t l
  else
  match devTicketAtExpectedVersion t c.envelope input.devTicketId with
  | none => rejectDevTicketDrift t l
  | some moved =>
  if moved.lane ≠ .todo then
    reject "dev_board.dev_ticket_not_in_todo" "DevTicket is not in Todo." t l
  else
  let (header, t) := t.getOrLockTodoQueueHeader c.envelope.organizationId c.envelope.workspaceId
  if header.version ≠ input.sourceQueue.version then rejectLaneQueueDrift t l
  else if (t.todoQueueMembership c.envelope.organizationId c.envelope.workspaceId
      moved.id).isNone = true then
    reject "dev_board.dev_ticket_not_in_todo" "DevTicket has no Todo queue membership." t l
  else
  let others := (t.listTodoQueueRanks c.envelope.organizationId c.envelope.workspaceId).filter
    fun member => decide (member.devTicketId ≠ moved.id)
  match insertionIndex c input.anchor others t with
  | .error error => rejectError error t l
  | .ok index =>
  let orderedIds := splicedIds others index moved.id
  let rank := rankAt others index
  if rankOutOfRange rank = true ∧
      ((orderedIds.length : ℤ) + 1) * rankStride > postgresBigintMax then
    reject "dev_board.todo_rank_capacity_exhausted" "Todo rank capacity is exhausted." t l
  else commitReorder c input moved rank orderedIds t l

/-! ### `approveReadyToTodo` -/

/-- `ApproveReadyToTodoInput`. -/
structure ApproveReadyToTodoInput where
  devTicketId : String
  readyContractContent : JsValue
  expectedContractVersion : ℕ
  expectedContractContentHash : String
  expectedTodoQueueVersion : ℕ

/-- `value === undefined`. -/
def isUndefined : JsValue → Bool
  | .undefined => true
  | _ => false

/-- `value === text`. -/
def isText : JsValue → String → Bool
  | .string s, text => decide (s = text)
  | _, _ => false

/-- `canonicalJson(left) === canonicalJson(right)`. -/
def sameCanonicalJson (left right : JsValue) : Except Thrown Bool := do
  return decide ((← canonicalJson left) = (← canonicalJson right))

/-- `expectedClassification`, given the type and the priority of the ticket. -/
def expectedClassification (ticket : DevTicketRow) (type : DevTicketType) (priority : Priority) :
    JsValue :=
  .object (classificationValue type ticket.workAreas priority ticket.severity
    (.nullable (ticket.declaredChangeRisk.map (·.text))))

/-- The rejection of a contract that binds something else. -/
def rejectMissingClassification (message : String) (t : Tables) (l : Ledger) : Exit :=
  reject "dev_board.ready_contract_missing_classification" message t l

/-- The rank an approved ticket is appended at; the flag asks for a rebalance
first. Nothing when the band is full. -/
def appendRank (members : List TodoQueueMembershipRow) : Option (ℤ × Bool) :=
  let rank := match members.getLast? with
    | none => firstTodoRank
    | some last => last.rank + rankStride
  if rank > postgresBigintMax then
    if ((members.length : ℤ) + 2) * rankStride > postgresBigintMax then none
    else some (((members.length : ℤ) + 2) * rankStride, true)
  else some (rank, false)

/-- The mutation of `approveReadyToTodo`: the ticket, the band, the membership. -/
def approveMutation (c : Context) (ticket : DevTicketRow) (approval : ReadyApproval)
    (members : List TodoQueueMembershipRow) (rank : ℤ) (rebalanceBeforeAppend : Bool) :
    Mutation (Option DevTicketRow) := do
  match ← orNull (Tables.updateDevTicketForReadyApproval c.envelope.organizationId
      c.envelope.workspaceId ticket.id ticket.version approval) with
  | none => return none
  | some updated =>
      if rebalanceBeforeAppend then
        modify (Tables.rebalanceTodoBand c.envelope.organizationId c.envelope.workspaceId
          (members.map (·.devTicketId)))
      orThrow (Tables.insertTodoQueueMembership c.envelope.organizationId c.envelope.workspaceId
        updated.id rank)
      return some updated

/-- The end of `approveReadyToTodo`, once the contract has been accepted. -/
def commitApproval (c : Context) (input : ApproveReadyToTodoInput) (ticket : DevTicketRow)
    (contract : JsRecord) (hash : String) (t : Tables) (l : Ledger) : Exit :=
  let (header, t) := t.getOrLockTodoQueueHeader c.envelope.organizationId c.envelope.workspaceId
  if header.version ≠ input.expectedTodoQueueVersion then rejectLaneQueueDrift t l
  else
  let members := t.listTodoQueueRanks c.envelope.organizationId c.envelope.workspaceId
  match appendRank members with
  | none =>
    reject "dev_board.todo_rank_capacity_exhausted" "Todo rank capacity is exhausted." t l
  | some (rank, rebalanceBeforeAppend) =>
  let approval : ReadyApproval :=
    { readyContractVersion := ticket.readyContractVersion + 1
      readyContractContent := contract
      readyContractContentHash := hash
      readyApprovedByUserId := c.envelope.actorRef.stableId
      readyApprovalCommandId := c.envelope.commandId }
  risky (approveMutation c ticket approval members rank rebalanceBeforeAppend) t l
    fun changed t =>
  match changed with
  | none => rejectDevTicketDrift t l
  | some updated =>
  match t.casBumpTodoQueueVersion c.envelope.organizationId c.envelope.workspaceId
      input.expectedTodoQueueVersion with
  | none => throws (.error "Todo queue header drifted while locked.") t l
  | some (bumpedQueue, t) =>
  planned
    (planning c.envelope updated.id "ContractVersionCreated" "Ready contract approved"
      [("version", .nat updated.readyContractVersion),
        ("content", .object updated.readyContractContent),
        ("contentHash", .string updated.readyContractContentHash)] l) t l fun l =>
  accept "dev_board.ready_approved_to_todo" updated.id
    [updated.resulting, bumpedQueue.resulting] [("devTicketId", updated.id)] t
    (activity c.envelope updated.id updated.version "ReadyApproved"
      [("lane", .string updated.lane.text),
        ("readyApprovalContractVersion",
          match updated.readyApprovalContractVersion with
          | none => .null
          | some version => .nat version),
        ("readyApprovalContentHash", .nullable updated.readyApprovalContentHash)] (c.now 0) l)

/-- The policy checks of `approveReadyToTodo`: the stored floor and stamps and the
submitted evaluation against the evaluation of this very state. -/
def approveUnderPolicy (c : Context) (input : ApproveReadyToTodoInput) (ticket : DevTicketRow)
    (type : DevTicketType) (contract : JsRecord) (t : Tables) (l : Ledger) : Exit :=
  match ticket.declaredChangeRisk, ticket.minimumChangeRisk, ticket.changeRiskPolicyVersion,
      ticket.changeRiskPolicyHash with
  | some declared, some minimum, some policyVersion, some policyHash =>
    let currentPolicy := evaluateChangeRisk type ticket.workAreas
      (t.hasActiveDependencies c.envelope.organizationId c.envelope.workspaceId ticket.id)
    if compareChangeRisk declared currentPolicy.minimumChangeRisk < 0 then
      reject "dev_board.change_risk_below_policy_minimum"
        "Declared Change Risk is below the policy minimum." t l
    else if minimum ≠ currentPolicy.minimumChangeRisk ∨
        policyVersion ≠ currentPolicy.policyVersion ∨ policyHash ≠ currentPolicy.policyHash then
      reject "dev_board.change_risk_policy_drift" "Change Risk policy evaluation has drifted." t l
    else
    match sameCanonicalJson (contract.read "changeRiskPolicy") currentPolicy.toValue with
    | .error error => throws error t l
    | .ok false =>
      reject "dev_board.change_risk_policy_drift" "Change Risk policy evaluation has drifted." t l
    | .ok true =>
    match computeReadyContractContentHash contract with
    | .error error => throws error t l
    | .ok hash => commitApproval c input ticket contract hash t l
  | _, _, _, _ =>
    rejectMissingClassification "Ready contract must bind the current Change Risk policy." t l

/-- The contract checks of `approveReadyToTodo`. -/
def approveContract (c : Context) (input : ApproveReadyToTodoInput) (ticket : DevTicketRow)
    (type : DevTicketType) (priority : Priority) (t : Tables) (l : Ledger) : Exit :=
  if ticket.readyContractVersion ≠ input.expectedContractVersion ∨
      ticket.readyContractContentHash ≠ input.expectedContractContentHash then
    reject "dev_board.stale_ready_contract" "Ready contract head has changed." t l
  else
  match parseReadyContractContent input.readyContractContent with
  | .error error => rejectError error t l
  | .ok contract =>
  let message := "Ready contract must bind the current classification and Human Owner."
  if isUndefined (contract.read "classification") = true ∨
      isUndefined (contract.read "changeRiskPolicy") = true then
    rejectMissingClassification message t l
  else
  match sameCanonicalJson (contract.read "classification")
      (expectedClassification ticket type priority) with
  | .error error => throws error t l
  | .ok false => rejectMissingClassification message t l
  | .ok true =>
  if isText (contract.read "humanOwnerUserId") ticket.humanOwnerUserId = false then
    rejectMissingClassification message t l
  else approveUnderPolicy c input ticket type contract t l

/-- `approveReadyToTodo`. -/
def approveReadyToTodo (c : Context) (input : ApproveReadyToTodoInput) (t : Tables)
    (l : Ledger) : Exit :=
  match devTicketAtExpectedVersion t c.envelope input.devTicketId with
  | none => rejectDevTicketDrift t l
  | some ticket =>
  if ticket.lane ≠ .backlog ∨ ticket.readyState ≠ .draft ∨ ticket.archivedAt.isSome = true then
    reject "dev_board.dev_ticket_not_ready_for_approval"
      "DevTicket is not an active Backlog draft." t l
  else if authorizedDevTicketArchiveActor c ticket = false then
    reject "dev_board.ready_approval_human_authorization_required"
      "Ready approval requires the Human Owner or an authorized admin." t l
  else
  match ticket.devTicketType with
  | none =>
    reject "dev_board.classification_type_required"
      "DevTicket type is required before Ready approval." t l
  | some type =>
  if ticket.workAreas.length = 0 then
    reject "dev_board.classification_work_areas_required"
      "At least one work area is required before Ready approval." t l
  else
  match ticket.priority with
  | none =>
    reject "dev_board.classification_priority_required"
      "Priority is required before Ready approval." t l
  | some priority => approveContract c input ticket type priority t l

end Opzava.DevBoard
