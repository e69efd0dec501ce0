import Opzava.DevBoard.Rows
import Opzava.Library.OrderedMap

/-!
Command receipts and the two ledgers
(`adapters/in-memory-command-receipt-repository.ts`,
`adapters/in-memory-dev-board-ledger-append-store.ts`).

A receipt is stored under the JSON text of its organization, workspace, command
name and idempotency key; `JSON.stringify` of four strings is injective, and the
key is kept here as the four of them. Finalizing looks the receipt up by
organization and command id instead, and takes the first match in insertion
order.
-/

namespace Opzava.DevBoard

open Opzava.Library

/-! ### Receipts -/

/-- `CommandReceiptLookup`, the argument of `receiptKey`. -/
structure CommandReceiptLookup where
  organizationId : ScopeId
  workspaceId : ScopeId
  commandName : String
  idempotencyKey : String
  deriving DecidableEq

/-- `CommandReceiptResult["state"]`. -/
inductive ReceiptState where
  | reserved | accepted | rejected
  deriving DecidableEq

/-- `CommandReceiptRecord`. -/
structure CommandReceiptRecord where
  organizationId : ScopeId
  workspaceId : ScopeId
  commandName : String
  idempotencyKey : String
  requestHash : String
  commandId : String
  state : ReceiptState
  outcomeCode : Option String
  resultRef : Option String
  resultSummary : Option JsRecord
  resultingVersions : Option (List CommandExpectedVersion)

/-- The receipts by their key. -/
abbrev Receipts := OrderedMap CommandReceiptLookup CommandReceiptRecord

/-- `receiptKey` of an envelope. -/
def receiptKey (e : CommandEnvelope) : CommandReceiptLookup :=
  ⟨e.organizationId, e.workspaceId, e.commandName, e.idempotencyKey⟩

/-- `idempotencyConflict`. -/
def idempotencyConflict : DomainError :=
  ⟨"dev_board.idempotency_conflict",
    "The idempotency key was already used for a different request."⟩

/-- `invalidReceipt`. -/
def invalidReceipt : DomainError :=
  ⟨"dev_board.invalid_command_receipt", "The command receipt record is invalid."⟩

/-- The receipt `reserve` writes for a new key. -/
def newReceipt (e : CommandEnvelope) : CommandReceiptRecord :=
  { organizationId := e.organizationId
    workspaceId := e.workspaceId
    commandName := e.commandName
    idempotencyKey := e.idempotencyKey
    requestHash := e.requestHash
    commandId := e.commandId
    state := .reserved
    outcomeCode := none
    resultRef := none
    resultSummary := none
    resultingVersions := none }

/-- `reserveOrReplayTransaction`: the stored receipt, or a new reserved one. -/
def reserveOrReplay (e : CommandEnvelope) (receipts : Receipts) :
    Except DomainError CommandReceiptRecord × Receipts :=
  match receipts.get (receiptKey e) with
  | some existing =>
      if existing.requestHash = e.requestHash then (.ok existing, receipts)
      else (.error idempotencyConflict, receipts)
  | none => (.ok (newReceipt e), receipts.set (receiptKey e) (newReceipt e))

/-- `FinalizeCommandReceiptInput`. -/
structure FinalizeCommandReceiptInput where
  organizationId : ScopeId
  commandId : String
  outcome : ReceiptState
  outcomeCode : String
  resultRef : Option String
  resultSummary : JsRecord
  resultingVersions : List CommandExpectedVersion

/-- The receipt `finalizeTransaction` writes. -/
def CommandReceiptRecord.finalized (receipt : CommandReceiptRecord)
    (input : FinalizeCommandReceiptInput) : CommandReceiptRecord :=
  { receipt with
    state := input.outcome
    outcomeCode := some input.outcomeCode
    resultRef := input.resultRef.or receipt.resultRef
    resultSummary := some input.resultSummary
    resultingVersions := some input.resultingVersions }

/-- `finalizeTransaction`: the first receipt of the organization with the command
id, which must still be reserved. -/
def finalizeTransaction (input : FinalizeCommandReceiptInput) (receipts : Receipts) :
    Except DomainError Unit × Receipts :=
  match receipts.entries.find? fun entry =>
      decide (entry.2.organizationId = input.organizationId) &&
        decide (entry.2.commandId = input.commandId) with
  | none => (.error invalidReceipt, receipts)
  | some (mapKey, receipt) =>
      if receipt.state ≠ .reserved then (.error invalidReceipt, receipts)
      else (.ok (), receipts.set mapKey (receipt.finalized input))

/-! ### Ledgers -/

/-- `InMemoryPlanningDecisionEntry`. -/
structure PlanningDecisionEntry where
  organizationId : ScopeId
  workspaceId : ScopeId
  commandId : String
  aggregateId : String
  entryKind : String
  subject : String
  contentHash : String
  content : JsRecord
  entrySequence : ℕ

/-- `InMemoryActivityEvent`. -/
structure ActivityEvent where
  organizationId : ScopeId
  workspaceId : ScopeId
  aggregateId : String
  aggregateVersion : ℕ
  eventName : String
  commandId : String
  idempotencyKey : String
  actor : CommandActorRef
  source : CommandSourceRef
  authorizationVersion : ℕ
  correlationId : String
  causationId : Option String
  occurredAt : Date
  payload : JsRecord
  eventSequence : ℕ

/-- `InMemoryDevBoardLedgerAppendStore`. -/
structure Ledger where
  planningDecisionEntries : List PlanningDecisionEntry
  activityEvents : List ActivityEvent

/-- The ledgers of a new store. -/
def Ledger.empty : Ledger := ⟨[], []⟩

/-- One more than the greatest sequence number in use, `1` for none. -/
def nextSequence (used : List ℕ) : ℕ := used.foldl max 0 + 1

end Opzava.DevBoard
