import Opzava.Library.JavaScript

/-!
The domain layer of the Dev Board (`packages/dev-board/src/domain`): identifiers,
command envelopes, proposals, DevTickets with their Ready contracts, the
classification vocabulary and the Change Risk policy.

* `ScopeId`: organization and workspace identifiers. The store joins them and a
  record id with `:` into one map key, so a scope identifier carries the proof
  that it holds no `:`; record ids are arbitrary texts.
* `Platform`: the two services of the runtime the code calls and does not
  define, SHA-256 and the collation of `localeCompare`.
* `canonicalJson`, `computeReadyContractContentHash`, `parseReadyContractContent`
  (`dev-ticket.ts`).
* `evaluateChangeRisk` (`change-risk-policy.ts`) with the parsers of
  `classification.ts`.
-/

namespace Opzava.DevBoard

open Opzava.Library

/-- The services of the runtime outside the repository: the hexadecimal SHA-256
digest of a text, and the collation order of the host locale. -/
class Platform where
  sha256 : String → String
  localeCompare : String → String → Ordering

/-- An organization or workspace identifier; both are UUIDs in the database. -/
structure ScopeId where
  text : String
  noColon : ':' ∉ text.toList
  deriving DecidableEq

@[ext] lemma ScopeId.ext {a b : ScopeId} (h : a.text = b.text) : a = b := by
  cases a; cases b; cases h; rfl

/-- `DomainError`, by the two fields callers see. -/
structure DomainError where
  code : String
  message : String
  deriving DecidableEq

/-- What a command may throw instead of returning a `Result`: a database
constraint by its SQLSTATE, a domain error, a plain `Error` or a `TypeError`. -/
inductive Thrown where
  | constraint (code : String)
  | domain (failure : DomainError)
  | error (message : String)
  | typeError (message : String)
  deriving DecidableEq

/-- The `code` property of a thrown value, if it has one. -/
def Thrown.code : Thrown → Option String
  | .constraint code => some code
  | .domain failure => some failure.code
  | .error _ => none
  | .typeError _ => none

/-! ### Command envelopes (`command-envelope.ts`) -/

/-- `CommandExpectedVersion`. -/
structure CommandExpectedVersion where
  recordKind : String
  recordId : String
  version : ℕ
  deriving DecidableEq

/-- The actor reference as it arrives, before `parseCommandActorRef`. -/
structure CommandActorRef where
  kind : String
  stableId : String
  role : String
  deriving DecidableEq

/-- `commandActorKinds`. -/
def commandActorKinds : List String := ["user", "agent", "system"]

/-- `commandActorRoles`. -/
def commandActorRoles : List String :=
  ["admin", "human_owner", "lead_orchestrator", "agent", "system_worker"]

/-- `CommandSourceRef`. -/
structure CommandSourceRef where
  kind : String
  ref : String
  deriving DecidableEq

/-- `CommandEnvelope`. -/
structure CommandEnvelope where
  commandId : String
  idempotencyKey : String
  requestHash : String
  organizationId : ScopeId
  workspaceId : ScopeId
  commandName : String
  targetAggregateId : String
  actorRef : CommandActorRef
  sourceRef : CommandSourceRef
  authorizationVersion : ℕ
  correlationId : String
  causationId : Option String
  expectedVersions : List CommandExpectedVersion

/-- `parseCommandActorRef`. -/
def parseCommandActorRef (actor : CommandActorRef) : Except DomainError CommandActorRef :=
  if actor.stableId = "" ∨ actor.kind ∉ commandActorKinds ∨ actor.role ∉ commandActorRoles then
    .error ⟨"dev_board.invalid_actor_ref", "Command actor reference is invalid."⟩
  else .ok actor

/-! ### Proposals (`proposal.ts`) -/

/-- `proposalLifecycleStates`. -/
inductive ProposalLifecycleState where
  | draft | awaitingDecision | accepted | merged | rejected
  deriving DecidableEq

/-- The stored text of a lifecycle state. -/
def ProposalLifecycleState.text : ProposalLifecycleState → String
  | .draft => "draft"
  | .awaitingDecision => "awaiting_decision"
  | .accepted => "accepted"
  | .merged => "merged"
  | .rejected => "rejected"

/-- `blockingAssessments`. -/
inductive BlockingAssessment where
  | blocking | nonBlocking
  deriving DecidableEq

/-- The stored text of a blocking assessment. -/
def BlockingAssessment.text : BlockingAssessment → String
  | .blocking => "blocking"
  | .nonBlocking => "non_blocking"

/-- `normalizeDiscoverySummary`. -/
def normalizeDiscoverySummary (value : String) : Except DomainError String :=
  let summary := normalizeSpaces value
  if jsLength summary = 0 then
    .error ⟨"dev_board.discovery_summary_required", "Discovery summary is required."⟩
  else if jsLength summary > 4000 then
    .error ⟨"dev_board.discovery_summary_too_long",
      "Discovery summary must be 4000 characters or fewer."⟩
  else .ok summary

/-- `parseBlockingAssessment`. -/
def parseBlockingAssessment : JsValue → Except DomainError BlockingAssessment
  | .string "blocking" => .ok .blocking
  | .string "non_blocking" => .ok .nonBlocking
  | _ => .error ⟨"dev_board.invalid_blocking_assessment",
      "Blocking assessment must be blocking or non_blocking."⟩

/-! ### DevTickets and Ready contracts (`dev-ticket.ts`) -/

/-- `devTicketLanes`. -/
inductive DevTicketLane where
  | backlog | todo | blocked | inProgress | review | done
  deriving DecidableEq

/-- The stored text of a lane. -/
def DevTicketLane.text : DevTicketLane → String
  | .backlog => "backlog"
  | .todo => "todo"
  | .blocked => "blocked"
  | .inProgress => "in_progress"
  | .review => "review"
  | .done => "done"

/-- `readyStates`. -/
inductive ReadyState where
  | draft | approved
  deriving DecidableEq

/-- `originKinds`. -/
inductive OriginKind where
  | proposal | direct | legacy
  deriving DecidableEq

/-- The `TypeError` of `canonicalJson`. -/
def notSerializable : Thrown := .typeError "Ready contract content must be JSON serializable."

mutual

/-- `canonicalJson`: JSON text with the keys of every object sorted. -/
def canonicalJson : JsValue → Except Thrown String
  | .null => .ok "null"
  | .boolean b => .ok (if b then "true" else "false")
  | .string s => .ok (jsonString s)
  | .number text => .ok text
  | .nonFinite => .error notSerializable
  | .array items => do
      let texts ← canonicalItems items
      return "[" ++ ",".intercalate texts ++ "]"
  | .object fields => do
      let texts ← canonicalFields fields
      let sorted := texts.insertionSort fun a b => jsStringLe a.1 b.1
      return "\x7b" ++ ",".intercalate (sorted.map fun t => jsonString t.1 ++ ":" ++ t.2) ++ "\x7d"
  | .undefined | .other => .error notSerializable

/-- The canonical texts of the items of an array. -/
def canonicalItems : List JsValue → Except Thrown (List String)
  | [] => .ok []
  | value :: rest => do return (← canonicalJson value) :: (← canonicalItems rest)

/-- The canonical texts of the fields of an object, with their names. -/
def canonicalFields : List (String × JsValue) → Except Thrown (List (String × String))
  | [] => .ok []
  | field :: rest => do return (← canonicalField field) :: (← canonicalFields rest)

/-- The canonical text of one field. -/
def canonicalField : String × JsValue → Except Thrown (String × String)
  | (name, value) => do return (name, ← canonicalJson value)

end

section Hashing

variable [Platform]

/-- `computeReadyContractContentHash`. -/
def computeReadyContractContentHash (content : JsRecord) : Except Thrown String := do
  return Platform.sha256 (← canonicalJson (.object content))

/-- `parseReadyContractContent`: an object all of whose content can be hashed. -/
def parseReadyContractContent : JsValue → Except DomainError JsRecord
  | .object content =>
      match computeReadyContractContentHash content with
      | .ok _ => .ok content
      | .error _ => .error ⟨"dev_board.invalid_ready_contract_content",
          "Ready contract content must be JSON serializable."⟩
  | _ => .error ⟨"dev_board.invalid_ready_contract_content",
      "Ready contract content must be an object."⟩

lemma parseReadyContractContent_eq_ok {value : JsValue} {content : JsRecord}
    (h : parseReadyContractContent value = .ok content) :
    value = .object content ∧ ∃ hash, computeReadyContractContentHash content = .ok hash := by
  cases value with
  | object fields =>
      rw [parseReadyContractContent] at h
      split at h
      · rename_i hash hhash
        cases h
        exact ⟨rfl, hash, hhash⟩
      · cases h
  | _ => simp [parseReadyContractContent] at h

end Hashing

/-! ### Classification (`classification.ts`) -/

/-- `devTicketTypes`. -/
inductive DevTicketType where
  | feature | bug | improvement | technicalTask | researchSpike | maintenance
  deriving DecidableEq

/-- The stored text of a ticket type. -/
def DevTicketType.text : DevTicketType → String
  | .feature => "feature"
  | .bug => "bug"
  | .improvement => "improvement"
  | .technicalTask => "technical_task"
  | .researchSpike => "research_spike"
  | .maintenance => "maintenance"

/-- `workAreas`. -/
inductive WorkArea where
  | uiUx | frontend | backendApi | dataDatabase | infrastructure | githubIntegration
  | agentRuntime | security | documentation
  deriving DecidableEq

/-- The stored text of a work area. -/
def WorkArea.text : WorkArea → String
  | .uiUx => "ui_ux"
  | .frontend => "frontend"
  | .backendApi => "backend_api"
  | .dataDatabase => "data_database"
  | .infrastructure => "infrastructure"
  | .githubIntegration => "github_integration"
  | .agentRuntime => "agent_runtime"
  | .security => "security"
  | .documentation => "documentation"

/-- `priorities`. -/
inductive Priority where
  | p0 | p1 | p2 | p3
  deriving DecidableEq

/-- The stored text of a priority. -/
def Priority.text : Priority → String
  | .p0 => "p0"
  | .p1 => "p1"
  | .p2 => "p2"
  | .p3 => "p3"

/-- `severities`. -/
inductive Severity where
  | s0 | s1 | s2 | s3
  deriving DecidableEq

/-- The stored text of a severity. -/
def Severity.text : Severity → String
  | .s0 => "s0"
  | .s1 => "s1"
  | .s2 => "s2"
  | .s3 => "s3"

/-- `changeRisks`, in ascending order. -/
inductive ChangeRisk where
  | low | medium | high | critical
  deriving DecidableEq

/-- The stored text of a change risk. -/
def ChangeRisk.text : ChangeRisk → String
  | .low => "low"
  | .medium => "medium"
  | .high => "high"
  | .critical => "critical"

/-- `changeRisks.indexOf`. -/
def ChangeRisk.index : ChangeRisk → ℕ
  | .low => 0
  | .medium => 1
  | .high => 2
  | .critical => 3

/-- `changeRisks[index]` for an index in range. -/
def ChangeRisk.ofIndex : ℕ → ChangeRisk
  | 0 => .low
  | 1 => .medium
  | 2 => .high
  | _ => .critical

/-- `parse`: the member of an enumeration with the given text. -/
def parseEnum {α : Type} (text : α → String) (values : List α) (label : String) :
    JsValue → Except DomainError α
  | .string s =>
      match values.find? fun value => text value = s with
      | some value => .ok value
      | none => .error ⟨"dev_board.classification_invalid", label ++ " is invalid."⟩
  | _ => .error ⟨"dev_board.classification_invalid", label ++ " is invalid."⟩

/-- `parseDevTicketType`. -/
def parseDevTicketType : JsValue → Except DomainError DevTicketType :=
  parseEnum DevTicketType.text
    [.feature, .bug, .improvement, .technicalTask, .researchSpike, .maintenance] "DevTicket type"

/-- `parseWorkArea`. -/
def parseWorkArea : JsValue → Except DomainError WorkArea :=
  parseEnum WorkArea.text
    [.uiUx, .frontend, .backendApi, .dataDatabase, .infrastructure, .githubIntegration,
      .agentRuntime, .security, .documentation] "Work area"

/-- `parsePriority`. -/
def parsePriority : JsValue → Except DomainError Priority :=
  parseEnum Priority.text [.p0, .p1, .p2, .p3] "Priority"

/-- `parseSeverity`. -/
def parseSeverity : JsValue → Except DomainError Severity :=
  parseEnum Severity.text [.s0, .s1, .s2, .s3] "Severity"

/-- `parseChangeRisk`. -/
def parseChangeRisk : JsValue → Except DomainError ChangeRisk :=
  parseEnum ChangeRisk.text [.low, .medium, .high, .critical] "Change risk"

/-- `compareChangeRisk`. -/
def compareChangeRisk (left right : ChangeRisk) : ℤ := left.index - right.index

/-- `[...new Set(areas)].sort()`. -/
def sortedWorkAreas (areas : List WorkArea) : List WorkArea :=
  areas.eraseDups.insertionSort fun a b => jsStringLe a.text b.text

/-- `normalizeWorkAreas`. -/
def normalizeWorkAreas : JsValue → Except DomainError (List WorkArea)
  | .array (item :: items) => do
      let parsed ← (item :: items).mapM parseWorkArea
      let normalized := sortedWorkAreas parsed
      if normalized.length ≠ parsed.length then
        .error ⟨"dev_board.classification_invalid", "Work areas must not contain duplicates."⟩
      else .ok normalized
  | _ => .error ⟨"dev_board.classification_work_areas_required",
      "At least one work area is required."⟩

/-! ### The Change Risk policy (`change-risk-policy.ts`) -/

/-- `changeRiskPolicyVersion`. -/
def changeRiskPolicyVersion : String := "1"

/-- `rules`, as the value whose canonical JSON is hashed. -/
def changeRiskRules : JsValue :=
  .array
    [.object [("id", .string "base_low"), ("kind", .string "floor"), ("risk", .string "low")],
      .object [("id", .string "bug_medium"), ("kind", .string "type"), ("type", .string "bug"),
        ("risk", .string "medium")],
      .object [("id", .string "security_medium"), ("kind", .string "work_area"),
        ("workArea", .string "security"), ("risk", .string "medium")],
      .object [("id", .string "security_sensitive_high"), ("kind", .string "work_area_pair"),
        ("workAreas", .array [.string "security", .string "data_database|infrastructure"]),
        ("risk", .string "high")],
      .object [("id", .string "bug_security_high"), ("kind", .string "type_work_area"),
        ("type", .string "bug"), ("workArea", .string "security"), ("risk", .string "high")],
      .object [("id", .string "active_dependencies_raise"), ("kind", .string "raise"),
        ("steps", .nat 1)]]

/-- `changeRiskPolicyHash`; the rules are plain JSON, so the digest exists. -/
def changeRiskPolicyHash [Platform] : String :=
  Platform.sha256 ((canonicalJson changeRiskRules).toOption.getD "")

/-- `ChangeRiskEvaluation`, with the normalized inputs it was computed from. -/
structure ChangeRiskEvaluation where
  policyVersion : String
  policyHash : String
  type : DevTicketType
  workAreas : List WorkArea
  hasActiveDependencies : Bool
  matchedRuleIds : List String
  minimumChangeRisk : ChangeRisk
  deriving DecidableEq

/-- The list of texts of work areas as a value. -/
def workAreasValue (areas : List WorkArea) : JsValue := .array (areas.map fun a => .string a.text)

/-- The evaluation as the object that is hashed and compared. -/
def ChangeRiskEvaluation.toValue (evaluation : ChangeRiskEvaluation) : JsValue :=
  .object
    [("policyVersion", .string evaluation.policyVersion),
      ("policyHash", .string evaluation.policyHash),
      ("normalizedInputs", .object
        [("type", .string evaluation.type.text),
          ("workAreas", workAreasValue evaluation.workAreas),
          ("hasActiveDependencies", .boolean evaluation.hasActiveDependencies)]),
      ("matchedRuleIds", .array (evaluation.matchedRuleIds.map .string)),
      ("minimumChangeRisk", .string evaluation.minimumChangeRisk.text)]

/-- `raiseTo`: the running floor and the matched rules after one rule. -/
def raiseTo (risk : ChangeRisk) (id : String) (acc : ℕ × List String) : ℕ × List String :=
  (max acc.1 risk.index, acc.2 ++ [id])

/-- `evaluateChangeRisk`. -/
def evaluateChangeRisk [Platform] (type : DevTicketType) (areas : List WorkArea)
    (hasActiveDependencies : Bool) : ChangeRiskEvaluation :=
  let workAreas := sortedWorkAreas areas
  let hasSecurity := workAreas.contains .security
  let isBug := type = .bug
  let start : ℕ × List String := (0, ["base_low"])
  let afterBug := if isBug then raiseTo .medium "bug_medium" start else start
  let afterSecurity := if hasSecurity then raiseTo .medium "security_medium" afterBug else afterBug
  let afterPair :=
    if hasSecurity && (workAreas.contains .dataDatabase || workAreas.contains .infrastructure) then
      raiseTo .high "security_sensitive_high" afterSecurity
    else afterSecurity
  let afterBugSecurity :=
    if isBug && hasSecurity then raiseTo .high "bug_security_high" afterPair else afterPair
  let final :=
    if hasActiveDependencies then
      (min 3 (afterBugSecurity.1 + 1), afterBugSecurity.2 ++ ["active_dependencies_raise"])
    else afterBugSecurity
  { policyVersion := changeRiskPolicyVersion
    policyHash := changeRiskPolicyHash
    type := type
    workAreas := workAreas
    hasActiveDependencies := hasActiveDependencies
    matchedRuleIds := final.2
    minimumChangeRisk := .ofIndex final.1 }

end Opzava.DevBoard
