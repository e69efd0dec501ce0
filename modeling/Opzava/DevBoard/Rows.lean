import Opzava.DevBoard.Domain

/-!
The rows of the planning store (`application/dev-board-planning-store.ts`), the
text keys they are stored under, and the rows each update writes.

`key` joins organization, workspace and record id with `:` as the in-memory
adapter does. `key_injective` is why two records never share a key by accident:
the two scope identifiers hold no `:`, so the key can be read back.
-/

namespace Opzava.DevBoard

open Opzava.Library

/-! ### Rows -/

/-- `ProposalRow`. -/
structure ProposalRow where
  id : String
  organizationId : ScopeId
  workspaceId : ScopeId
  version : ℕ
  lifecycleState : ProposalLifecycleState
  archivedAt : Option Date
  archivedByUserId : Option String
  archivedReason : Option String
  discoverySummary : String
  blockingAssessment : BlockingAssessment
  suggestedContract : JsRecord
  createdCommandId : String
  acceptedCommandId : Option String
  acceptedDevTicketId : Option String

/-- `DevTicketRow`. -/
structure DevTicketRow where
  id : String
  organizationId : ScopeId
  workspaceId : ScopeId
  version : ℕ
  originKind : OriginKind
  sourceProposalId : Option String
  lane : DevTicketLane
  archivedAt : Option Date
  archivedByUserId : Option String
  archivedReason : Option String
  lastActiveLane : Option DevTicketLane
  humanOwnerUserId : String
  devTicketType : Option DevTicketType
  workAreas : List WorkArea
  priority : Option Priority
  severity : Option Severity
  declaredChangeRisk : Option ChangeRisk
  minimumChangeRisk : Option ChangeRisk
  changeRiskPolicyVersion : Option String
  changeRiskPolicyHash : Option String
  readyContractVersion : ℕ
  readyContractContent : JsRecord
  readyContractContentHash : String
  readyState : ReadyState
  readyApprovalContractVersion : Option ℕ
  readyApprovalContentHash : Option String
  readyApprovedByUserId : Option String
  readyApprovalCommandId : Option String
  createdCommandId : String

/-- `DependencyEdgeRow["lifecycleState"]`. -/
inductive EdgeLifecycle where
  | active | retired
  deriving DecidableEq

/-- `DependencyEdgeRow`. -/
structure DependencyEdgeRow where
  id : String
  organizationId : ScopeId
  workspaceId : ScopeId
  version : ℕ
  dependentDevTicketId : String
  blockerDevTicketId : String
  lifecycleState : EdgeLifecycle
  createdCommandId : String
  retiredCommandId : Option String
  deriving DecidableEq

/-- `LaneQueueHeaderRow`; its lane is always `todo`. -/
structure LaneQueueHeaderRow where
  organizationId : ScopeId
  workspaceId : ScopeId
  version : ℕ
  deriving DecidableEq

/-- `TodoQueueMembershipRow`. -/
structure TodoQueueMembershipRow where
  devTicketId : String
  rank : ℤ
  deriving DecidableEq

/-- `HistoricalRecordRow["completionGate"]` when it is not `null`. -/
inductive CompletionGate where
  | legacyUnverified | reconciledHistorical
  deriving DecidableEq

/-- `HistoricalRecordRow["sourceDisposition"]`. -/
inductive SourceDisposition where
  | promotedBacklog | quarantinedNoOwner | historicalCandidate
  deriving DecidableEq

/-- `HistoricalRecordRow["sourceKind"]`. -/
inductive HistoricalSourceKind where
  | legacyTask
  deriving DecidableEq

/-- `HistoricalRecordRow`. -/
structure HistoricalRecordRow where
  historicalRecordId : String
  organizationId : ScopeId
  workspaceId : ScopeId
  sourceKind : HistoricalSourceKind
  sourceTableRowIdentity : String
  completionGate : Option CompletionGate
  sourceDisposition : SourceDisposition
  sourceEpoch : Option String
  sourceRecordedAt : Date
  sourceUpdatedAt : Date
  importedAt : Date
  preservedPayloadDigest : String
  evidenceRefs : List JsRecord
  promotionCommandId : Option String
  version : ℕ

/-- `LegacyTaskAliasRow`. -/
structure LegacyTaskAliasRow where
  organizationId : ScopeId
  workspaceId : ScopeId
  legacyTaskId : String
  legacyCardNumber : ℤ
  devTicketId : Option String
  historicalRecordId : String
  createdCommandId : String

/-- `LegacyTaskSource`. -/
structure LegacyTaskSource where
  id : String
  organizationId : ScopeId
  workspaceId : ScopeId
  status : String
  assigneeUserId : Option String
  cardNumber : ℤ
  createdAt : Date
  updatedAt : Date
  row : JsRecord
  evidenceRefs : List JsRecord

/-! ### Keys and tables -/

/-- `key`: the map key of a record. -/
def key (organizationId workspaceId : ScopeId) (id : String) : String :=
  organizationId.text ++ ":" ++ workspaceId.text ++ ":" ++ id

/-- The key of an alias, joined from the organization and the legacy task id. -/
def aliasKey (organizationId : ScopeId) (legacyTaskId : String) : String :=
  organizationId.text ++ ":" ++ legacyTaskId

/-- A text without `:` is determined, with what follows, by joining at a `:`. -/
lemma append_colon_inj : ∀ {a b c d : List Char}, ':' ∉ a → ':' ∉ c →
    a ++ ':' :: b = c ++ ':' :: d → a = c ∧ b = d
  | [], _, [], _, _, _, h => by simpa using h
  | [], _, x :: _, _, _, hc, h => by
      simp only [List.nil_append, List.cons_append, List.cons.injEq] at h
      exact absurd (h.1 ▸ List.mem_cons_self) hc
  | x :: _, _, [], _, ha, _, h => by
      simp only [List.nil_append, List.cons_append, List.cons.injEq] at h
      exact absurd (h.1.symm ▸ List.mem_cons_self) ha
  | x :: a, b, y :: c, d, ha, hc, h => by
      simp only [List.cons_append, List.cons.injEq] at h
      have hrest := append_colon_inj (fun hm => ha (List.mem_cons_of_mem _ hm))
        (fun hm => hc (List.mem_cons_of_mem _ hm)) h.2
      exact ⟨by rw [h.1, hrest.1], hrest.2⟩

lemma aliasKey_injective {o o' : ScopeId} {id id' : String}
    (h : aliasKey o id = aliasKey o' id') : o = o' ∧ id = id' := by
  have hl := congrArg String.toList h
  simp only [aliasKey, String.toList_append, List.append_assoc] at hl
  obtain ⟨h1, h2⟩ := append_colon_inj o.noColon o'.noColon hl
  exact ⟨ScopeId.ext (String.toList_inj.mp h1), String.toList_inj.mp h2⟩

lemma key_eq_aliasKey (o w : ScopeId) (id : String) :
    key o w id = aliasKey o (w.text ++ ":" ++ id) := by
  simp only [key, aliasKey, String.append_assoc]

/-- Organization, workspace and record id can be read back from a key. -/
lemma key_injective {o o' w w' : ScopeId} {id id' : String}
    (h : key o w id = key o' w' id') : o = o' ∧ w = w' ∧ id = id' := by
  rw [key_eq_aliasKey, key_eq_aliasKey] at h
  obtain ⟨ho, hrest⟩ := aliasKey_injective h
  exact ⟨ho, aliasKey_injective hrest⟩

@[simp] lemma key_inj {o o' w w' : ScopeId} {id id' : String} :
    key o w id = key o' w' id' ↔ o = o' ∧ w = w' ∧ id = id' :=
  ⟨key_injective, fun ⟨ho, hw, hid⟩ => by rw [ho, hw, hid]⟩

@[simp] lemma aliasKey_inj {o o' : ScopeId} {id id' : String} :
    aliasKey o id = aliasKey o' id' ↔ o = o' ∧ id = id' :=
  ⟨aliasKey_injective, fun ⟨ho, hid⟩ => by rw [ho, hid]⟩

/-! ### Row updates

Each update of a DevTicket is the row the store writes, `version` included. -/

/-- The Ready approval and the lane as the store resets them. -/
def DevTicketRow.readyCleared (row : DevTicketRow) : DevTicketRow :=
  { row with
    lane := .backlog
    readyState := .draft
    readyApprovalContractVersion := none
    readyApprovalContentHash := none
    readyApprovedByUserId := none
    readyApprovalCommandId := none }

/-- The row written by `bumpDevTicketVersion`. -/
def DevTicketRow.bumped (row : DevTicketRow) : DevTicketRow :=
  { row with version := row.version + 1 }

/-- `UpdateDevTicketForReadyApprovalInput`, the fields to write. -/
structure ReadyApproval where
  readyContractVersion : ℕ
  readyContractContent : JsRecord
  readyContractContentHash : String
  readyApprovedByUserId : String
  readyApprovalCommandId : String

/-- The row written by `updateDevTicketForReadyApproval`. -/
def DevTicketRow.approved (row : DevTicketRow) (input : ReadyApproval) : DevTicketRow :=
  { row with
    version := row.version + 1
    lane := .todo
    readyContractVersion := input.readyContractVersion
    readyContractContent := input.readyContractContent
    readyContractContentHash := input.readyContractContentHash
    readyState := .approved
    readyApprovalContractVersion := some input.readyContractVersion
    readyApprovalContentHash := some input.readyContractContentHash
    readyApprovedByUserId := some input.readyApprovedByUserId
    readyApprovalCommandId := some input.readyApprovalCommandId }

/-- `UpdateDevTicketClassificationInput`, the fields to write. -/
structure Classification where
  humanOwnerUserId : String
  devTicketType : DevTicketType
  workAreas : List WorkArea
  priority : Priority
  severity : Option Severity
  declaredChangeRisk : ChangeRisk
  minimumChangeRisk : ChangeRisk
  changeRiskPolicyVersion : String
  changeRiskPolicyHash : String
  readyContractContent : JsRecord
  readyContractContentHash : String

/-- The row written by `updateDevTicketClassification`. -/
def DevTicketRow.classified (row : DevTicketRow) (input : Classification) : DevTicketRow :=
  { row with
    version := row.version + 1
    humanOwnerUserId := input.humanOwnerUserId
    devTicketType := some input.devTicketType
    workAreas := input.workAreas
    priority := some input.priority
    severity := input.severity
    declaredChangeRisk := some input.declaredChangeRisk
    minimumChangeRisk := some input.minimumChangeRisk
    changeRiskPolicyVersion := some input.changeRiskPolicyVersion
    changeRiskPolicyHash := some input.changeRiskPolicyHash
    readyContractVersion := row.readyContractVersion + 1
    readyContractContent := input.readyContractContent
    readyContractContentHash := input.readyContractContentHash }

/-- The row written by `archiveDevTicket`. -/
def DevTicketRow.archived (row : DevTicketRow) (now : Date) (byUserId reason : String) :
    DevTicketRow :=
  { row.readyCleared with
    version := row.version + 1
    archivedAt := some now
    archivedByUserId := some byUserId
    archivedReason := some reason
    lastActiveLane := some row.lane }

/-- The row written by `restoreDevTicket`. -/
def DevTicketRow.restored (row : DevTicketRow) : DevTicketRow :=
  { row.readyCleared with
    version := row.version + 1
    archivedAt := none
    archivedByUserId := none
    archivedReason := none }

/-- The row written by `applyDependencyChangeToDependent`: a Todo ticket also
loses its approval and goes back to Backlog. -/
def DevTicketRow.dependencyChanged (row : DevTicketRow) : DevTicketRow :=
  if row.lane = .todo then { row.readyCleared with version := row.version + 1 } else row.bumped

/-- The row written by `retireDependencyEdge`. -/
def DependencyEdgeRow.retiredBy (row : DependencyEdgeRow) (commandId : String) :
    DependencyEdgeRow :=
  { row with
    lifecycleState := .retired
    version := row.version + 1
    retiredCommandId := some commandId }

/-- `UpdateProposalInput`, the fields to write; an absent archive field keeps
the one stored. -/
structure ProposalUpdate where
  lifecycleState : ProposalLifecycleState
  acceptedCommandId : Option String
  acceptedDevTicketId : Option String
  archivedAt : Option (Option Date)
  archivedByUserId : Option (Option String)
  archivedReason : Option (Option String)

/-- An update that leaves the archive overlay alone. -/
def ProposalUpdate.decision (lifecycleState : ProposalLifecycleState)
    (acceptedCommandId acceptedDevTicketId : Option String) : ProposalUpdate :=
  ⟨lifecycleState, acceptedCommandId, acceptedDevTicketId, none, none, none⟩

/-- The row written by `updateProposal`. -/
def ProposalRow.updated (row : ProposalRow) (input : ProposalUpdate) : ProposalRow :=
  { row with
    lifecycleState := input.lifecycleState
    acceptedCommandId := input.acceptedCommandId
    acceptedDevTicketId := input.acceptedDevTicketId
    archivedAt := input.archivedAt.getD row.archivedAt
    archivedByUserId := input.archivedByUserId.getD row.archivedByUserId
    archivedReason := input.archivedReason.getD row.archivedReason
    version := row.version + 1 }

end Opzava.DevBoard
