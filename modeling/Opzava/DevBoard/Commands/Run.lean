import Mathlib
import Opzava.DevBoard.Commands.Proposals
import Opzava.DevBoard.Commands.Queue
import Opzava.DevBoard.Commands.Dependencies
import Opzava.DevBoard.Commands.Legacy

/-!
The command functions as a whole: reservation and replay of the receipt, the body
of the command, and the finalization of the receipt with its verdict.

* `Command`: the twenty command functions with their inputs.
* `execute`: one call, from admission to the returned or thrown outcome.
* `Step`, `Reachable`: runs. Between calls the environment may change
  memberships, roles and the legacy source rows. The calls of a run may be
  required to satisfy a condition on the state they are made in.
-/

namespace Opzava.DevBoard

open Opzava.Library

/-! ### Commands -/

/-- The command functions with the inputs they take besides the envelope. -/
inductive Command where
  | draftProposal (input : DraftProposalInput)
  | submitProposal (proposalId : String)
  | acceptProposal (input : AcceptProposalInput)
  | mergeProposal (input : MergeProposalInput)
  | rejectProposal (input : ProposalReasonInput)
  | archiveProposal (input : ProposalReasonInput)
  | restoreProposal (proposalId : String)
  | archiveDevTicket (input : ArchiveDevTicketInput)
  | restoreDevTicket (devTicketId : String)
  | addDependency (input : AddDependencyInput)
  | removeDependency (input : RemoveDependencyInput)
  | reorderTodo (input : ReorderTodoInput)
  | setDevTicketClassification (input : SetDevTicketClassificationInput)
  | approveReadyToTodo (input : ApproveReadyToTodoInput)
  | importLegacyDevTicket (input : ImportLegacyDevTicketInput)
  | reconcileHistoricalCompletion (input : ReconcileHistoricalCompletionInput)
  | claim
  | start
  | submitForReview
  | admitDone

/-- `rejectUntilGate`. -/
def rejectUntilGate (c : Context) (code message : String) (checkDependencyLock : Bool)
    (t : Tables) (l : Ledger) : Exit :=
  if checkDependencyLock = true ∧ t.dependencyLocked c.envelope.organizationId
      c.envelope.workspaceId c.envelope.targetAggregateId = true then
    let blockerIds := ((t.dependencyBlockers c.envelope.organizationId c.envelope.workspaceId
      c.envelope.targetAggregateId).filter fun blocker => !blocker.2).map Prod.fst
    rejectWith "dev_board.dependency_locked"
      ("DevTicket is locked by unfinished dependencies: " ++ ", ".intercalate blockerIds ++ ".")
      [("blockerDevTicketIds", .array (blockerIds.map .string))] none t l
  else reject code message t l

/-- The body of a command, after its receipt has been reserved. -/
def Command.body [Platform] (c : Context) : Command → Tables → Ledger → Exit
  | .draftProposal input => DevBoard.draftProposal c input
  | .submitProposal proposalId => DevBoard.submitProposal c proposalId
  | .acceptProposal input => DevBoard.acceptProposal c input
  | .mergeProposal input => DevBoard.mergeProposal c input
  | .rejectProposal input => DevBoard.rejectProposal c input
  | .archiveProposal input => DevBoard.archiveProposal c input
  | .restoreProposal proposalId => DevBoard.restoreProposal c proposalId
  | .archiveDevTicket input => DevBoard.archiveDevTicket c input
  | .restoreDevTicket devTicketId => DevBoard.restoreDevTicket c devTicketId
  | .addDependency input => DevBoard.addDependency c input
  | .removeDependency input => DevBoard.removeDependency c input
  | .reorderTodo input => DevBoard.reorderTodo c input
  | .setDevTicketClassification input => DevBoard.setDevTicketClassification c input
  | .approveReadyToTodo input => DevBoard.approveReadyToTodo c input
  | .importLegacyDevTicket input => DevBoard.importLegacyDevTicket c input
  | .reconcileHistoricalCompletion input => DevBoard.reconcileHistoricalCompletion c input
  | .claim =>
      rejectUntilGate c "dev_board.gate.claim_disabled_until_tb02"
        "Claim is disabled until TB-02 ships." true
  | .start =>
      rejectUntilGate c "dev_board.gate.start_disabled_until_tb02"
        "Start is disabled until TB-02 ships." true
  | .submitForReview =>
      rejectUntilGate c "dev_board.gate.submit_for_review_disabled_until_tb-rv1"
        "Submit for Review is disabled until TB-RV1 ships." false
  | .admitDone =>
      rejectUntilGate c "dev_board.gate.admit_done_disabled_until_tb-rv1"
        "Done admission is disabled until TB-RV1 ships." false

/-- The actor and role check of the migration commands; `unauthorized` is the
message of a missing role. -/
def migrationAdmission (c : Context) (unauthorized : String) : Option DomainError :=
  match parseCommandActorRef c.envelope.actorRef with
  | .error error => some error
  | .ok _ =>
      if authorizedLegacyImportActor c = false then
        some ⟨"dev_board.import_authorization_required", unauthorized⟩
      else none

/-- What a command refuses before it looks at its receipt. -/
def Command.admission (c : Context) : Command → Option DomainError
  | .importLegacyDevTicket _ =>
      migrationAdmission c
        "Legacy import requires an authorized organization owner or admin."
  | .reconcileHistoricalCompletion _ =>
      migrationAdmission c
        "Historical reconciliation requires an authorized organization owner or admin."
  | _ => none

/-! ### Receipts around a body -/

/-- `CommandResult`. -/
structure CommandResult where
  commandId : String
  resultingVersions : List CommandExpectedVersion
  proposalId : Option String
  devTicketId : Option String
  dependencyEdgeId : Option String
  deriving DecidableEq

/-- What a call gives its caller: a `Result`, or an exception. -/
inductive Outcome where
  | returned (result : Except DomainError CommandResult)
  | thrown (error : Thrown)
  deriving DecidableEq

/-- `summary[name]` when it is a string. -/
def summaryText (summary : JsRecord) (name : String) : Option String :=
  match summary.read name with
  | .string s => some s
  | _ => none

/-- `replay`. -/
def replay (receipt : CommandReceiptRecord) : Except DomainError CommandResult :=
  match receipt.state with
  | .accepted =>
      let summary := receipt.resultSummary.getD []
      .ok
        { commandId := receipt.commandId
          resultingVersions := receipt.resultingVersions.getD []
          proposalId := summaryText summary "proposalId"
          devTicketId := summaryText summary "devTicketId"
          dependencyEdgeId := summaryText summary "dependencyEdgeId" }
  | .reserved =>
      .error ⟨receipt.outcomeCode.getD "dev_board.command_rejected",
        "The command is already in progress."⟩
  | .rejected =>
      .error ⟨receipt.outcomeCode.getD "dev_board.command_rejected",
        ((receipt.resultSummary.bind fun summary => summaryText summary "message")).getD
          "The command was rejected."⟩

/-- `finalizeTransaction` and `if (!result.ok) throw result.error`. -/
def finalizeOrThrow (input : FinalizeCommandReceiptInput)
    (result : Except DomainError CommandResult) (receipts : Receipts) : Outcome × Receipts :=
  match finalizeTransaction input receipts with
  | (.error error, receipts) => (.thrown (.domain error), receipts)
  | (.ok _, receipts) => (.returned result, receipts)

/-- The receipt data of a rejection: `{ message, ...extra }`. -/
def rejectInput (e : CommandEnvelope) (code message : String) (extra : JsRecord)
    (resultRef : Option String) : FinalizeCommandReceiptInput :=
  { organizationId := e.organizationId
    commandId := e.commandId
    outcome := .rejected
    outcomeCode := code
    resultRef := resultRef
    resultSummary := JsRecord.spread [("message", .string message)] extra
    resultingVersions := [] }

/-- The receipt data of an acceptance. -/
def acceptInput (e : CommandEnvelope) (outcomeCode resultRef : String)
    (resultingVersions : List CommandExpectedVersion) (ids : List (String × String)) :
    FinalizeCommandReceiptInput :=
  { organizationId := e.organizationId
    commandId := e.commandId
    outcome := .accepted
    outcomeCode := outcomeCode
    resultRef := some resultRef
    resultSummary := ids.map fun id => (id.1, .string id.2)
    resultingVersions := resultingVersions }

/-- `ids[name]`. -/
def idNamed (ids : List (String × String)) (name : String) : Option String :=
  (ids.find? fun id => id.1 = name).map Prod.snd

/-- The `Result` of an acceptance. -/
def acceptedResult (e : CommandEnvelope) (resultingVersions : List CommandExpectedVersion)
    (ids : List (String × String)) : CommandResult :=
  { commandId := e.commandId
    resultingVersions := resultingVersions
    proposalId := idNamed ids "proposalId"
    devTicketId := idNamed ids "devTicketId"
    dependencyEdgeId := idNamed ids "dependencyEdgeId" }

/-- `reject` and `accept`: finalize the receipt with the verdict of the body. -/
def settle (e : CommandEnvelope) (receipts : Receipts) : Verdict → Outcome × Receipts
  | .reject code message extra resultRef =>
      finalizeOrThrow (rejectInput e code message extra resultRef) (.error ⟨code, message⟩)
        receipts
  | .accept outcomeCode resultRef resultingVersions ids =>
      finalizeOrThrow (acceptInput e outcomeCode resultRef resultingVersions ids)
        (.ok (acceptedResult e resultingVersions ids)) receipts
  | .throws error => (.thrown error, receipts)

/-- `reserve`: an outcome when the call ends here, nothing when the body is to
run. -/
def reserve (e : CommandEnvelope) (receipts : Receipts) : Option Outcome × Receipts :=
  match reserveOrReplay e receipts with
  | (.error error, receipts) => (some (.returned (.error error)), receipts)
  | (.ok receipt, receipts) =>
      if receipt.state ≠ .reserved then (some (.returned (replay receipt)), receipts)
      else
        match parseCommandActorRef e.actorRef with
        | .error error =>
            let (outcome, receipts) := finalizeOrThrow
              (rejectInput e error.code error.message [] none) (.error error) receipts
            (some outcome, receipts)
        | .ok _ => (none, receipts)

/-! ### Calls and runs -/

/-- Everything a call can read or write. -/
structure World where
  tables : Tables
  directory : Directory
  receipts : Receipts
  ledger : Ledger

/-- The world before the first call. -/
def World.empty : World := ⟨.empty, ⟨[], []⟩, .empty, .empty⟩

/-- One call of a command function, with the random id and the clock it sees. -/
structure Call where
  envelope : CommandEnvelope
  command : Command
  randomUuid : String
  now : ℕ → Date

/-- What the body of a call is given. -/
def Call.context (call : Call) (w : World) : Context :=
  ⟨call.envelope, w.directory, call.randomUuid, call.now⟩

variable [Platform]

/-- One call of a command function. -/
def execute (call : Call) (w : World) : Outcome × World :=
  match call.command.admission (call.context w) with
  | some error => (.returned (.error error), w)
  | none =>
  match reserve call.envelope w.receipts with
  | (some outcome, receipts) => (outcome, { w with receipts := receipts })
  | (none, receipts) =>
    let exit := call.command.body (call.context w) w.tables w.ledger
    let (outcome, receipts) := settle call.envelope receipts exit.verdict
    (outcome, { w with tables := exit.tables, ledger := exit.ledger, receipts := receipts })

/-- One step of a run: a call that satisfies the condition, or a change of the
data the planning commands only read. -/
inductive Step (admissible : World → Call → Prop) : World → World → Prop
  | call {w : World} (call : Call) (h : admissible w call) : Step admissible w (execute call w).2
  | directory (w : World) (directory : Directory) :
      Step admissible w { w with directory := directory }
  | legacySources (w : World) (sources : OrderedMap String LegacyTaskSource) :
      Step admissible w { w with tables := { w.tables with legacyTaskSources := sources } }

/-- The worlds of the runs whose calls satisfy the condition. -/
def Reachable (admissible : World → Call → Prop) (w : World) : Prop :=
  Relation.ReflTransGen (Step admissible) World.empty w

/-- Every call is allowed. -/
def anyCall (_ : World) (_ : Call) : Prop := True

/-- The random id of the call is not the id of a dependency edge of its
workspace yet. -/
def freshEdgeId (w : World) (call : Call) : Prop :=
  w.tables.dependencyEdges.get
    (key call.envelope.organizationId call.envelope.workspaceId call.randomUuid) = none

/-- The command id of the call is not the command id of a receipt of the
organization under another key. -/
def ownCommandId (w : World) (call : Call) : Prop :=
  ∀ lookup receipt, w.receipts.get lookup = some receipt →
    receipt.organizationId = call.envelope.organizationId →
    receipt.commandId = call.envelope.commandId → lookup = receiptKey call.envelope

end Opzava.DevBoard
