import Opzava.DevBoard.Commands.Basic

/-!
The commands on one DevTicket: `archiveDevTicket`, `restoreDevTicket`,
`setDevTicketClassification`.
-/

namespace Opzava.DevBoard

open Opzava.Library

variable [Platform]

/-- The rejection of a DevTicket that is not at the expected version. -/
def rejectDevTicketDrift (t : Tables) (l : Ledger) : Exit :=
  reject "dev_board.expected_version_drift" "DevTicket version has changed." t l

/-! ### Archive and restore -/

/-- `ArchiveDevTicketInput`. -/
structure ArchiveDevTicketInput where
  devTicketId : String
  reason : String

/-- `archiveMutationDrift`. -/
def archiveMutationDrift : String := "DevTicket version or Todo membership has changed."

/-- The mutation of `archiveDevTicket`: out of the queue, then the archive
overlay. -/
def archiveMutation (c : Context) (ticket : DevTicketRow) (reason : String)
    (todoQueueVersion : Option ℕ) : Mutation (DevTicketRow × Option LaneQueueHeaderRow) := do
  let bumped ← evictIfTodo c.envelope ticket.id archiveMutationDrift todoQueueVersion
  match ← orNull (Tables.archiveDevTicket c.envelope.organizationId c.envelope.workspaceId
      ticket.id ticket.version c.envelope.actorRef.stableId reason (c.now 0)) with
  | none => throw (.error archiveMutationDrift)
  | some updated => return (updated, bumped)

/-- The text of a lane or `null`. -/
def laneValue (lane : Option DevTicketLane) : JsValue := .nullable (lane.map (·.text))

/-- `archiveDevTicket`. -/
def archiveDevTicket (c : Context) (input : ArchiveDevTicketInput) (t : Tables) (l : Ledger) :
    Exit :=
  match decisionReason input.reason with
  | .error error => rejectError error t l
  | .ok reason =>
  match devTicketAtExpectedVersion t c.envelope input.devTicketId with
  | none => rejectDevTicketDrift t l
  | some ticket =>
  if ticket.archivedAt.isSome = true then
    reject "dev_board.dev_ticket_already_archived" "DevTicket is already archived." t l
  else if authorizedDevTicketArchiveActor c ticket = false then
    reject "dev_board.archive_authorization_required"
      "Archive requires the Human Owner or an authorized organization owner or admin." t l
  else if t.selectActiveBlockerEdges c.envelope.organizationId c.envelope.workspaceId
      ticket.id ≠ [] then
    reject "dev_board.archive_active_dependents"
      "DevTicket has active dependents and cannot be archived." t l
  else
  match lockTodoQueue c.envelope ticket.lane t with
  | (.error _, t) => rejectLaneQueueDrift t l
  | (.ok todoQueueVersion, t) =>
  riskyOrDrift archiveMutationDrift (archiveMutation c ticket reason todoQueueVersion) t l
    fun mutation t =>
  planned
    (planning c.envelope mutation.1.id "ArchiveRationaleRecorded" "DevTicket archived"
      [("reason", .string reason),
        ("archivedByUserId", .string c.envelope.actorRef.stableId),
        ("lastActiveLane", laneValue mutation.1.lastActiveLane)] l) t l fun l =>
  accept "dev_board.dev_ticket_archived" mutation.1.id
    (mutation.1.resulting :: mutation.2.toList.map (·.resulting))
    [("devTicketId", mutation.1.id)] t
    (activity c.envelope mutation.1.id mutation.1.version "DevTicketArchived"
      [("readyDeactivated", .boolean true),
        ("queueRemoved", .boolean (decide (ticket.lane = .todo))),
        ("lastActiveLane", laneValue mutation.1.lastActiveLane)] (c.now 1) l)

/-- `restoreDevTicket`. -/
def restoreDevTicket (c : Context) (devTicketId : String) (t : Tables) (l : Ledger) : Exit :=
  match devTicketAtExpectedVersion t c.envelope devTicketId with
  | none => rejectDevTicketDrift t l
  | some ticket =>
  if ticket.archivedAt.isNone = true then
    reject "dev_board.dev_ticket_not_archived" "DevTicket is not archived." t l
  else if ticket.lastActiveLane = some .done ∨ ticket.lane = .done then
    reject "dev_board.done_restore_history_only"
      "Done DevTicket history cannot be restored to executable work." t l
  else if authorizedDevTicketArchiveActor c ticket = false then
    reject "dev_board.restore_authorization_required"
      "Restore requires the Human Owner or an authorized organization owner or admin." t l
  else
  risky
    (orNull (Tables.restoreDevTicket c.envelope.organizationId c.envelope.workspaceId ticket.id
      ticket.version)) t l fun changed t =>
  match changed with
  | none => rejectDevTicketDrift t l
  | some updated =>
  planned
    (planning c.envelope updated.id "ArchiveRestored" "DevTicket restored"
      [("restoredByUserId", .string c.envelope.actorRef.stableId),
        ("lastActiveLane", laneValue updated.lastActiveLane)] l) t l fun l =>
  accept "dev_board.dev_ticket_restored" updated.id [updated.resulting]
    [("devTicketId", updated.id)] t
    (activity c.envelope updated.id updated.version "DevTicketRestored"
      [("lastActiveLane", laneValue updated.lastActiveLane), ("readyState", .string "draft")]
      (c.now 0) l)

/-! ### Classification -/

/-- `SetDevTicketClassificationInput`. -/
structure SetDevTicketClassificationInput where
  devTicketId : String
  type : JsValue
  workAreas : JsValue
  priority : JsValue
  severity : JsValue
  declaredChangeRisk : JsValue
  humanOwnerUserId : Option String

/-- `input.severity === undefined ? null : parseSeverity(input.severity)`. -/
def parseOptionalSeverity : JsValue → Except DomainError (Option Severity)
  | .undefined => .ok none
  | value => (parseSeverity value).map some

/-- The classification of an input once its four parsers have accepted it. -/
structure ParsedClassification where
  type : DevTicketType
  workAreas : List WorkArea
  priority : Priority
  declaredChangeRisk : ChangeRisk
  severity : Option Severity

/-- The five parsers of `setDevTicketClassification`, in order. -/
def parseClassification (input : SetDevTicketClassificationInput) :
    Except DomainError ParsedClassification := do
  let type ← parseDevTicketType input.type
  let workAreas ← normalizeWorkAreas input.workAreas
  let priority ← parsePriority input.priority
  let declaredChangeRisk ← parseChangeRisk input.declaredChangeRisk
  let severity ← parseOptionalSeverity input.severity
  return { type, workAreas, priority, declaredChangeRisk, severity }

/-- The `severity` field of a classification, absent for `null`. -/
def severityField : Option Severity → JsRecord
  | none => []
  | some severity => [("severity", .string severity.text)]

/-- The object bound as `classification` in a Ready contract. -/
def classificationValue (type : DevTicketType) (areas : List WorkArea) (priority : Priority)
    (severity : Option Severity) (declaredChangeRisk : JsValue) : JsRecord :=
  [("type", .string type.text), ("workAreas", workAreasValue areas),
    ("priority", .string priority.text)] ++ severityField severity ++
    [("declaredChangeRisk", declaredChangeRisk)]

/-- The `classification` object of a parsed input. -/
def ParsedClassification.toValue (p : ParsedClassification) : JsRecord :=
  classificationValue p.type p.workAreas p.priority p.severity (.string p.declaredChangeRisk.text)

/-- The condition of the "unchanged" exit. -/
def classificationUnchanged (ticket : DevTicketRow) (owner : String) (p : ParsedClassification)
    (evaluation : ChangeRiskEvaluation) : Bool :=
  decide (ticket.humanOwnerUserId = owner) && decide (ticket.devTicketType = some p.type) &&
    decide (ticket.workAreas = p.workAreas) && decide (ticket.priority = some p.priority) &&
    decide (ticket.severity = p.severity) &&
    decide (ticket.declaredChangeRisk = some p.declaredChangeRisk) &&
    decide (ticket.minimumChangeRisk = some evaluation.minimumChangeRisk) &&
    decide (ticket.changeRiskPolicyVersion = some evaluation.policyVersion) &&
    decide (ticket.changeRiskPolicyHash = some evaluation.policyHash)

/-- The Ready contract after a classification: `{ ...content, humanOwnerUserId,
classification, changeRiskPolicy }`. -/
def classifiedContent (ticket : DevTicketRow) (owner : String) (p : ParsedClassification)
    (evaluation : ChangeRiskEvaluation) : JsRecord :=
  ticket.readyContractContent.spread
    [("humanOwnerUserId", .string owner), ("classification", .object p.toValue),
      ("changeRiskPolicy", evaluation.toValue)]

/-- `reasonCodes`. -/
def classificationReasonCodes (ticket : DevTicketRow) (owner : String)
    (p : ParsedClassification) : List String :=
  (if ticket.humanOwnerUserId ≠ owner then ["human_owner_changed"] else []) ++
    (if ticket.priority ≠ some p.priority then ["priority_changed"] else []) ++
    (if ticket.declaredChangeRisk ≠ some p.declaredChangeRisk then ["change_risk_changed"]
      else []) ++
    (if ticket.devTicketType ≠ some p.type then ["type_changed"] else []) ++
    (if ticket.workAreas ≠ p.workAreas then ["work_areas_changed"] else [])

/-- The content of the "ClassificationMaterialityAssessed" entry. -/
def materialityContent (ticket updated : DevTicketRow) (owner : String) (p : ParsedClassification)
    (evaluation : ChangeRiskEvaluation) : JsRecord :=
  [("base", .object [("contractVersion", .nat ticket.readyContractVersion),
      ("contentHash", .string ticket.readyContractContentHash)]),
    ("result", .object [("contractVersion", .nat updated.readyContractVersion),
      ("contentHash", .string updated.readyContractContentHash)]),
    ("old", .object [("humanOwnerUserId", .string ticket.humanOwnerUserId),
      ("type", .nullable (ticket.devTicketType.map (·.text))),
      ("workAreas", workAreasValue ticket.workAreas),
      ("priority", .nullable (ticket.priority.map (·.text))),
      ("severity", .nullable (ticket.severity.map (·.text))),
      ("declaredChangeRisk", .nullable (ticket.declaredChangeRisk.map (·.text)))]),
    ("next", .object (("humanOwnerUserId", .string owner) :: p.toValue)),
    ("policyEvaluation", evaluation.toValue),
    ("material", .boolean true),
    ("reasonCodes", .array ((classificationReasonCodes ticket owner p).map .string))]

/-- The fields `updateDevTicketClassification` is given. -/
def ParsedClassification.toUpdate (p : ParsedClassification) (owner : String)
    (evaluation : ChangeRiskEvaluation) (content : JsRecord) (hash : String) : Classification :=
  { humanOwnerUserId := owner
    devTicketType := p.type
    workAreas := p.workAreas
    priority := p.priority
    severity := p.severity
    declaredChangeRisk := p.declaredChangeRisk
    minimumChangeRisk := evaluation.minimumChangeRisk
    changeRiskPolicyVersion := evaluation.policyVersion
    changeRiskPolicyHash := evaluation.policyHash
    readyContractContent := content
    readyContractContentHash := hash }

/-- `setDevTicketClassification`; the archive overlay is not read. -/
def setDevTicketClassification (c : Context) (input : SetDevTicketClassificationInput)
    (t : Tables) (l : Ledger) : Exit :=
  match devTicketAtExpectedVersion t c.envelope input.devTicketId with
  | none => rejectDevTicketDrift t l
  | some ticket =>
  if ticket.lane ≠ .backlog then
    reject "dev_board.classification_revision_required"
      "Classification changes require a governed revision outside Backlog." t l
  else
  match parseClassification input with
  | .error error => rejectError error t l
  | .ok p =>
  let owner := input.humanOwnerUserId.getD ticket.humanOwnerUserId
  let evaluation := evaluateChangeRisk p.type p.workAreas
    (t.hasActiveDependencies c.envelope.organizationId c.envelope.workspaceId ticket.id)
  let content := classifiedContent ticket owner p evaluation
  if p.severity.isSome = true ∧ p.type ≠ .bug then
    reject "dev_board.classification_invalid" "Severity is permitted only for Bug DevTickets." t l
  else if owner ≠ ticket.humanOwnerUserId ∧
      c.directory.isActiveMember c.envelope.organizationId owner = false then
    reject "dev_board.human_owner_not_active_member"
      "Human Owner must be an active organization member." t l
  else if compareChangeRisk p.declaredChangeRisk evaluation.minimumChangeRisk < 0 then
    reject "dev_board.change_risk_below_policy_minimum"
      "Declared Change Risk is below the policy minimum." t l
  else if classificationUnchanged ticket owner p evaluation = true then
    reject "dev_board.classification_unchanged" "Classification is unchanged." t l
  else
  match computeReadyContractContentHash content with
  | .error error => throws error t l
  | .ok hash =>
  risky
    (orNull (Tables.updateDevTicketClassification c.envelope.organizationId
      c.envelope.workspaceId ticket.id ticket.version
      (p.toUpdate owner evaluation content hash))) t l fun changed t =>
  match changed with
  | none => rejectDevTicketDrift t l
  | some updated =>
  planned
    (planning c.envelope updated.id "ClassificationMaterialityAssessed"
      "Classification materiality assessed"
      (materialityContent ticket updated owner p evaluation) l) t l fun l =>
  accept "dev_board.classification_set" updated.id [updated.resulting]
    [("devTicketId", updated.id)] t
    (activity c.envelope updated.id updated.version "DevTicketClassificationChanged"
      [("classification", .object p.toValue), ("humanOwnerUserId", .string owner),
        ("policyEvaluation", evaluation.toValue),
        ("consequences", .object [("readyContractVersion", .nat updated.readyContractVersion)])]
      (c.now 0) l)

end Opzava.DevBoard
