import Opzava.DevBoard.Commands.Basic

/-!
The migration commands, `importLegacyDevTicket` and
`reconcileHistoricalCompletion`, from the point where the receipt is reserved.
Both check the actor and its role before that; see `Commands/Run.lean`.
-/

namespace Opzava.DevBoard

open Opzava.Library

variable [Platform]

/-- `ImportLegacyDevTicketInput`. -/
structure ImportLegacyDevTicketInput where
  legacyTaskId : String
  humanOwnerUserId : Option String

/-- `legacyDigest`. -/
def legacyDigest (row : JsRecord) : Except Thrown String := do
  return Platform.sha256 (← canonicalJson (.object row))

/-- `legacyOutcome`. -/
def legacyOutcome : SourceDisposition → String
  | .promotedBacklog => "dev_board.legacy_import_promoted"
  | .historicalCandidate => "dev_board.legacy_import_historical"
  | .quarantinedNoOwner => "dev_board.legacy_import_quarantined"

/-- `legacyCompletionGate`. -/
def legacyCompletionGate (status : String) (disposition : SourceDisposition) :
    Option CompletionGate :=
  if status = "done" ∧ disposition ≠ .promotedBacklog then some .legacyUnverified else none

/-- `ownerConfirmed`. -/
def ownerConfirmed (c : Context) (input : ImportLegacyDevTicketInput) : Bool :=
  match input.humanOwnerUserId with
  | some owner => c.directory.isActiveMember c.envelope.organizationId owner
  | none => false

/-- `disposition`. -/
def legacyDisposition (status : String) (ownerConfirmed : Bool) : SourceDisposition :=
  if status = "done" then
    if ownerConfirmed then .historicalCandidate else .quarantinedNoOwner
  else if ownerConfirmed then .promotedBacklog else .quarantinedNoOwner

/-- The content of the "LegacyDevTicketImported" entry. -/
def legacyImportContent (source : LegacyTaskSource) : JsRecord :=
  [("status", .string source.status), ("cardNumber", .string (toString source.cardNumber)),
    ("sourceRecordedAt", .string (toISOString source.createdAt)),
    ("sourceUpdatedAt", .string (toISOString source.updatedAt)),
    ("assigneeUserId", .nullable source.assigneeUserId)]

/-- The planning decision of an import. -/
def legacyImportDecision (e : CommandEnvelope) (aggregateId : String) (source : LegacyTaskSource)
    (l : Ledger) : Except Thrown Ledger :=
  planning e aggregateId "LegacyDevTicketImported" "Legacy DevTicket imported"
    (legacyImportContent source) l

/-- The ticket a promotion inserts, under the id of the legacy task. -/
def insertPromotedTicket (c : Context) (input : ImportLegacyDevTicketInput)
    (source : LegacyTaskSource) : Mutation DevTicketRow := do
  let hash ← hashed []
  orThrow (Tables.insertDevTicket
    { id := source.id
      organizationId := c.envelope.organizationId
      workspaceId := c.envelope.workspaceId
      originKind := .legacy
      sourceProposalId := none
      humanOwnerUserId := input.humanOwnerUserId.getD ""
      readyContractContent := []
      readyContractContentHash := hash
      createdCommandId := c.envelope.commandId })

/-- The store call that rewrites the record and the ticket id of its alias. -/
def resolveRecord (c : Context) (historical : HistoricalRecordRow)
    (disposition : SourceDisposition) (promotionCommandId devTicketId : Option String) :
    Mutation (Option HistoricalRecordRow) :=
  orThrow (Tables.resolveImportedHistoricalRecord c.envelope.organizationId
    c.envelope.workspaceId historical.historicalRecordId historical.version disposition
    historical.completionGate promotionCommandId devTicketId)

/-- The mutation of a re-import that promotes: the ticket, then the record. -/
def promoteMutation (c : Context) (input : ImportLegacyDevTicketInput)
    (source : LegacyTaskSource) (historical : HistoricalRecordRow) :
    Mutation (DevTicketRow × HistoricalRecordRow) := do
  let ticket ← insertPromotedTicket c input source
  match ← resolveRecord c historical .promotedBacklog (some c.envelope.commandId)
      (some ticket.id) with
  | none => throw (.error "Historical record version has changed.")
  | some resolved => return (ticket, resolved)

/-- The rejection of a legacy id that is already a DevTicket. -/
def rejectLegacyCollision (t : Tables) (l : Ledger) : Exit :=
  reject "dev_board.legacy_ticket_id_collision" "Legacy Task UUID already belongs to a DevTicket."
    t l

/-- The rejection of a historical record that is not at the expected version. -/
def rejectHistoricalDrift (t : Tables) (l : Ledger) : Exit :=
  reject "dev_board.expected_version_drift" "Historical record version has changed." t l

/-- A re-import that promotes a record without a ticket. -/
def promoteExisting (c : Context) (input : ImportLegacyDevTicketInput)
    (source : LegacyTaskSource) (historical : HistoricalRecordRow) (t : Tables) (l : Ledger) :
    Exit :=
  if (t.selectDevTicketForUpdate c.envelope.organizationId c.envelope.workspaceId
      source.id).isSome = true then
    rejectLegacyCollision t l
  else
  risky (promoteMutation c input source historical) t l fun mutation t =>
  planned (legacyImportDecision c.envelope mutation.1.id source l) t l fun l =>
  accept (legacyOutcome .promotedBacklog) historical.historicalRecordId
    [⟨"historical_record", historical.historicalRecordId, mutation.2.version⟩,
      mutation.1.resulting] [("devTicketId", mutation.1.id)] t l

/-- The summary ids of an import. -/
def devTicketIds (devTicketId : Option String) : List (String × String) :=
  devTicketId.toList.map fun id => ("devTicketId", id)

/-- A re-import that promotes nothing: the record leaves quarantine, or nothing
is written. -/
def resolveExisting (c : Context) (source : LegacyTaskSource) (disposition : SourceDisposition)
    (existingAlias : LegacyTaskAliasRow) (historical : HistoricalRecordRow) (t : Tables)
    (l : Ledger) : Exit :=
  let resolvedDisposition :=
    if historical.sourceDisposition = .quarantinedNoOwner then disposition
    else historical.sourceDisposition
  -- The completion gate is passed on as it is, so only the disposition can differ.
  if resolvedDisposition = historical.sourceDisposition then
    let ticket := existingAlias.devTicketId.bind fun id =>
      t.selectDevTicketForUpdate c.envelope.organizationId c.envelope.workspaceId id
    accept (legacyOutcome historical.sourceDisposition) historical.historicalRecordId
      (historical.resulting :: ticket.toList.map (·.resulting))
      (devTicketIds existingAlias.devTicketId) t l
  else
  risky
    (resolveRecord c historical resolvedDisposition
      (if resolvedDisposition = .promotedBacklog then historical.promotionCommandId else none)
      existingAlias.devTicketId) t l fun resolved t =>
  match resolved with
  | none => rejectHistoricalDrift t l
  | some resolved =>
  planned (legacyImportDecision c.envelope
    (existingAlias.devTicketId.getD resolved.historicalRecordId) source l) t l fun l =>
  accept (legacyOutcome disposition) resolved.historicalRecordId [resolved.resulting]
    (devTicketIds existingAlias.devTicketId) t l

/-- `resolveExistingAlias`: the re-import of a task that already has an alias. -/
def resolveExistingAlias (c : Context) (input : ImportLegacyDevTicketInput)
    (source : LegacyTaskSource) (disposition : SourceDisposition) (digest : String)
    (existingAlias : LegacyTaskAliasRow) (t : Tables) (l : Ledger) : Exit :=
  match t.selectHistoricalRecordForUpdate c.envelope.organizationId c.envelope.workspaceId
      existingAlias.historicalRecordId with
  | none =>
    reject "dev_board.legacy_task_not_found" "Legacy import alias has no historical record." t l
  | some historical =>
  if historical.preservedPayloadDigest ≠ digest then
    reject "dev_board.idempotency_conflict" "source changed since the original import" t l
  else
  let requestedVersion := expected c.envelope "historical_record" historical.historicalRecordId
  if requestedVersion.isSome = true ∧ requestedVersion ≠ some historical.version then
    rejectHistoricalDrift t l
  else if disposition = .promotedBacklog ∧ existingAlias.devTicketId = none then
    promoteExisting c input source historical t l
  else resolveExisting c source disposition existingAlias historical t l

/-- The ticket of a first import, for a promotion only. -/
def insertImportedTicket (c : Context) (input : ImportLegacyDevTicketInput)
    (source : LegacyTaskSource) (disposition : SourceDisposition) :
    Mutation (Option DevTicketRow) :=
  if disposition = .promotedBacklog then do return some (← insertPromotedTicket c input source)
  else pure none

/-- The mutation of a first import: the ticket of a promotion, the record, the
alias. -/
def importMutation (c : Context) (input : ImportLegacyDevTicketInput)
    (source : LegacyTaskSource) (disposition : SourceDisposition) (digest : String) :
    Mutation (Option DevTicketRow × HistoricalRecordRow) := do
  let ticket ← insertImportedTicket c input source disposition
  let historical ← orThrow (Tables.insertHistoricalRecord
    { id := c.randomUuid
      organizationId := c.envelope.organizationId
      workspaceId := c.envelope.workspaceId
      sourceTableRowIdentity := source.id
      completionGate := legacyCompletionGate source.status disposition
      sourceDisposition := disposition
      sourceEpoch := some (toISOString source.updatedAt)
      sourceRecordedAt := source.createdAt
      sourceUpdatedAt := source.updatedAt
      preservedPayloadDigest := digest
      evidenceRefs := source.evidenceRefs
      promotionCommandId := ticket.map fun _ => c.envelope.commandId } (c.now 0))
  orThrow (Tables.insertLegacyTaskAlias
    { organizationId := c.envelope.organizationId
      workspaceId := c.envelope.workspaceId
      legacyTaskId := source.id
      legacyCardNumber := source.cardNumber
      devTicketId := ticket.map (·.id)
      historicalRecordId := historical.historicalRecordId
      createdCommandId := c.envelope.commandId })
  return (ticket, historical)

/-- The first import of a task; a constraint conflict looks for the alias of the
winner of a race. -/
def importFirst (c : Context) (input : ImportLegacyDevTicketInput) (source : LegacyTaskSource)
    (disposition : SourceDisposition) (digest : String) (t : Tables) (l : Ledger) : Exit :=
  match executeRiskyMutation (importMutation c input source disposition digest) t with
  | (.failed error, t) =>
    if error.code = "dev_board.constraint_conflict" then
      match t.selectLegacyTaskAliasForUpdate c.envelope.organizationId source.id with
      | some winnerAlias => resolveExistingAlias c input source disposition digest winnerAlias t l
      | none => rejectError error t l
    else rejectError error t l
  | (.thrown error, t) => throws error t l
  | (.value mutation, t) =>
  let aggregateId := (mutation.1.map (·.id)).getD mutation.2.historicalRecordId
  let aggregateVersion := (mutation.1.map (·.version)).getD mutation.2.version
  planned (legacyImportDecision c.envelope aggregateId source l) t l fun l =>
  accept (legacyOutcome disposition) mutation.2.historicalRecordId
    (mutation.2.resulting :: mutation.1.toList.map (·.resulting))
    (devTicketIds (mutation.1.map (·.id))) t
    (activity c.envelope aggregateId aggregateVersion "LegacyDevTicketImported"
      [("historicalRecordId", .string mutation.2.historicalRecordId),
        ("status", .string source.status)] (c.now 1) l)

/-- The statuses of a legacy task that can be imported. -/
def importableStatuses : List String := ["todo", "in_progress", "blocked", "done"]

/-- `importLegacyDevTicket`. -/
def importLegacyDevTicket (c : Context) (input : ImportLegacyDevTicketInput) (t : Tables)
    (l : Ledger) : Exit :=
  match t.selectLegacyTaskSource input.legacyTaskId with
  | none =>
    reject "dev_board.legacy_task_not_found" "Legacy Task was not found in this organization." t l
  | some source =>
  if source.organizationId ≠ c.envelope.organizationId then
    reject "dev_board.legacy_task_not_found" "Legacy Task was not found in this organization." t l
  else if source.workspaceId ≠ c.envelope.workspaceId then
    reject "dev_board.legacy_workspace_mismatch" "Legacy Task belongs to another workspace." t l
  else if source.status ∉ importableStatuses then
    reject "dev_board.legacy_task_not_found" "Legacy Task is not importable." t l
  else
  let disposition := legacyDisposition source.status (ownerConfirmed c input)
  match legacyDigest source.row with
  | .error error => throws error t l
  | .ok digest =>
  match t.selectLegacyTaskAliasForUpdate c.envelope.organizationId source.id with
  | some existingAlias =>
    resolveExistingAlias c input source disposition digest existingAlias t l
  | none =>
  if disposition = .promotedBacklog ∧
      (t.selectDevTicketForUpdate c.envelope.organizationId c.envelope.workspaceId
        source.id).isSome = true then
    rejectLegacyCollision t l
  else importFirst c input source disposition digest t l

/-! ### Reconciliation -/

/-- `ReconcileHistoricalCompletionInput`. -/
structure ReconcileHistoricalCompletionInput where
  historicalRecordId : String
  reconciliationEpoch : String

/-- `value !== null && value !== undefined`. -/
def isPresent : JsValue → Bool
  | .null => false
  | .undefined => false
  | _ => true

/-- `typeof value === "string"`. -/
def isStringValue : JsValue → Bool
  | .string _ => true
  | _ => false

/-- `frozenEvidenceHasReference`. -/
def frozenEvidenceHasReference (refs : List JsRecord) : Bool :=
  refs.any fun ref =>
    isStringValue (ref.read "evidenceId") &&
      [ref.read "objectRef", ref.read "url", ref.read "filename"].any isPresent

/-- Whether some reference carries an approved quality review. -/
def hasApprovedReview (refs : List JsRecord) : Bool :=
  refs.any fun ref =>
    match ref.read "taskQualityReview" with
    | .object review =>
        match JsRecord.read review "status" with
        | .string status => decide (status = "approved")
        | _ => false
    | _ => false

/-- `evidenceRefs` as a value. -/
def evidenceRefsValue (refs : List JsRecord) : JsValue := .array (refs.map .object)

/-- The rejection of a record that cannot be reconciled. -/
def rejectReconcileTarget (t : Tables) (l : Ledger) : Exit :=
  reject "dev_board.reconcile_target_invalid"
    "Historical record is not eligible for reconciliation." t l

/-- `reconcileHistoricalCompletion`. -/
def reconcileHistoricalCompletion (c : Context) (input : ReconcileHistoricalCompletionInput)
    (t : Tables) (l : Ledger) : Exit :=
  match t.selectHistoricalRecordForUpdate c.envelope.organizationId c.envelope.workspaceId
      input.historicalRecordId with
  | none => rejectReconcileTarget t l
  | some historical =>
  if historical.sourceKind ≠ .legacyTask ∨ historical.sourceDisposition = .promotedBacklog then
    rejectReconcileTarget t l
  else if historical.completionGate = some .reconciledHistorical then
    reject "dev_board.already_reconciled" "Historical record is already reconciled." t l
  else if historical.completionGate ≠ some .legacyUnverified then rejectReconcileTarget t l
  else
  let approved := match t.selectLegacyTaskSource historical.sourceTableRowIdentity with
    | some source => hasApprovedReview source.evidenceRefs
    | none => false
  if approved = false ∨ frozenEvidenceHasReference historical.evidenceRefs = false then
    reject "dev_board.reconcile_evidence_insufficient"
      "Approved legacy review and frozen evidence are required." t l
  else
  risky
    (orNull (Tables.reconcileHistoricalCompletion c.envelope.organizationId
      c.envelope.workspaceId historical.historicalRecordId historical.version)) t l
    fun changed t =>
  match changed with
  | none => rejectHistoricalDrift t l
  | some updated =>
  planned
    (planning c.envelope updated.historicalRecordId "HistoricalCompletionReconciled"
      "Historical completion reconciled"
      [("reconciliationEpoch", .string input.reconciliationEpoch),
        ("evidenceRefs", evidenceRefsValue updated.evidenceRefs)] l) t l fun l =>
  accept "dev_board.historical_completion_reconciled" updated.historicalRecordId
    [updated.resulting] [] t
    (activity c.envelope updated.historicalRecordId updated.version
      "HistoricalCompletionReconciled"
      [("reconciliationEpoch", .string input.reconciliationEpoch),
        ("evidenceRefs", evidenceRefsValue updated.evidenceRefs)] (c.now 0) l)

end Opzava.DevBoard
