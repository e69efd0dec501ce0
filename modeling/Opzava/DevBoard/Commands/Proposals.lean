import Opzava.DevBoard.Commands.Basic

/-!
The proposal commands: `draftProposal`, `submitProposal`, `acceptProposal`,
`mergeProposal`, `rejectProposal`, `archiveProposal`, `restoreProposal`.
-/

namespace Opzava.DevBoard

open Opzava.Library

variable [Platform]

/-- `value ?? {}`. -/
def orEmptyObject : JsValue → JsValue
  | .undefined => .object []
  | .null => .object []
  | value => value

/-- `DraftProposalInput`. -/
structure DraftProposalInput where
  discoverySummary : String
  blockingAssessment : JsValue
  suggestedContract : JsValue

/-- `draftProposal`. -/
def draftProposal (c : Context) (input : DraftProposalInput) (t : Tables) (l : Ledger) : Exit :=
  match normalizeDiscoverySummary input.discoverySummary with
  | .error error => rejectError error t l
  | .ok summary =>
  match parseBlockingAssessment input.blockingAssessment with
  | .error error => rejectError error t l
  | .ok assessment =>
  match parseReadyContractContent (orEmptyObject input.suggestedContract) with
  | .error error => rejectError error t l
  | .ok contract =>
  risky
    (orThrow (Tables.insertProposal
      { id := c.envelope.targetAggregateId
        organizationId := c.envelope.organizationId
        workspaceId := c.envelope.workspaceId
        discoverySummary := summary
        blockingAssessment := assessment
        suggestedContract := contract
        createdCommandId := c.envelope.commandId })) t l fun proposal t =>
  planned
    (planning c.envelope proposal.id "ProposalDrafted" "Proposal drafted"
      [("discoverySummary", .string proposal.discoverySummary),
        ("blockingAssessment", .string proposal.blockingAssessment.text),
        ("suggestedContract", .object proposal.suggestedContract)] l) t l fun l =>
  accept "dev_board.proposal_drafted" proposal.id [proposal.resulting]
    [("proposalId", proposal.id)] t l

/-- The rejection of a proposal that is not at the expected version. -/
def rejectProposalDrift (t : Tables) (l : Ledger) : Exit :=
  reject "dev_board.expected_version_drift" "Proposal version has changed." t l

/-- `submitProposal`. -/
def submitProposal (c : Context) (proposalId : String) (t : Tables) (l : Ledger) : Exit :=
  match proposalAtExpectedVersion t c.envelope proposalId with
  | none => rejectProposalDrift t l
  | some proposal =>
  if proposal.lifecycleState ≠ .draft ∨ proposal.archivedAt.isSome = true then
    reject "dev_board.proposal_not_draft" "Proposal is not a decision draft." t l
  else
  risky
    (orNull (Tables.updateProposal c.envelope.organizationId c.envelope.workspaceId proposal.id
      proposal.version (.decision .awaitingDecision none none))) t l fun changed t =>
  match changed with
  | none => rejectProposalDrift t l
  | some updated =>
  accept "dev_board.proposal_submitted" updated.id [updated.resulting]
    [("proposalId", updated.id)] t
    (activity c.envelope updated.id updated.version "ProposalSubmitted"
      [("lifecycleState", .string updated.lifecycleState.text)] (c.now 0) l)

/-- `AcceptProposalInput`. -/
structure AcceptProposalInput where
  proposalId : String
  humanOwnerUserId : String
  initialContractContent : JsValue

/-- The mutation of `acceptProposal`: the new ticket, then the proposal. -/
def acceptMutation (c : Context) (proposal : ProposalRow) (humanOwnerUserId : String)
    (contract : JsRecord) : Mutation (DevTicketRow × Option ProposalRow) := do
  let hash ← hashed contract
  let devTicket ← orThrow (Tables.insertDevTicket
    { id := c.randomUuid
      organizationId := c.envelope.organizationId
      workspaceId := c.envelope.workspaceId
      originKind := .proposal
      sourceProposalId := some proposal.id
      humanOwnerUserId := humanOwnerUserId
      readyContractContent := contract
      readyContractContentHash := hash
      createdCommandId := c.envelope.commandId })
  let updated ← orNull (Tables.updateProposal c.envelope.organizationId c.envelope.workspaceId
    proposal.id proposal.version
    (.decision .accepted (some c.envelope.commandId) (some devTicket.id)))
  return (devTicket, updated)

/-- The rejection of a proposal that is not awaiting a decision. -/
def rejectNotAwaitingDecision (t : Tables) (l : Ledger) : Exit :=
  reject "dev_board.proposal_not_awaiting_decision" "Proposal is not awaiting a decision." t l

/-- `acceptProposal`. -/
def acceptProposal (c : Context) (input : AcceptProposalInput) (t : Tables) (l : Ledger) : Exit :=
  match proposalAtExpectedVersion t c.envelope input.proposalId with
  | none => rejectProposalDrift t l
  | some proposal =>
  if proposal.lifecycleState ≠ .awaitingDecision ∨ proposal.archivedAt.isSome = true then
    rejectNotAwaitingDecision t l
  else if c.directory.isActiveMember c.envelope.organizationId input.humanOwnerUserId = false then
    reject "dev_board.human_owner_not_active_member"
      "Human Owner must be an active organization member." t l
  else
  match parseReadyContractContent (orEmptyObject input.initialContractContent) with
  | .error error => rejectError error t l
  | .ok contract =>
  risky (acceptMutation c proposal input.humanOwnerUserId contract) t l fun mutation t =>
  match mutation.2 with
  | none => rejectProposalDrift t l
  | some updated =>
  planned
    (planning c.envelope mutation.1.id "ContractVersionCreated" "Initial ready contract"
      [("version", .nat mutation.1.readyContractVersion),
        ("content", .object mutation.1.readyContractContent),
        ("contentHash", .string mutation.1.readyContractContentHash)] l) t l fun l =>
  accept "dev_board.proposal_accepted" mutation.1.id [updated.resulting, mutation.1.resulting]
    [("proposalId", updated.id), ("devTicketId", mutation.1.id)] t
    (activity c.envelope mutation.1.id mutation.1.version "DevTicketCreated"
      [("lane", .string mutation.1.lane.text),
        ("humanOwnerUserId", .string mutation.1.humanOwnerUserId)] (c.now 1)
      (activity c.envelope updated.id updated.version "ProposalAccepted"
        [("devTicketId", .string mutation.1.id)] (c.now 0) l))

/-- `MergeProposalInput`. -/
structure MergeProposalInput where
  proposalId : String
  existingDevTicketId : String
  reason : String

/-- `mergeProposal`. -/
def mergeProposal (c : Context) (input : MergeProposalInput) (t : Tables) (l : Ledger) : Exit :=
  match decisionReason input.reason with
  | .error error => rejectError error t l
  | .ok reason =>
  match proposalAtExpectedVersion t c.envelope input.proposalId,
      devTicketAtExpectedVersion t c.envelope input.existingDevTicketId with
  | some proposal, some ticket =>
    if proposal.lifecycleState ≠ .awaitingDecision ∨ proposal.archivedAt.isSome = true then
      rejectNotAwaitingDecision t l
    else if ticket.archivedAt.isSome = true then
      reject "dev_board.dev_ticket_not_active"
        "DevTicket is archived and cannot receive a Proposal merge." t l
    else
    risky
      (orNull (Tables.updateProposal c.envelope.organizationId c.envelope.workspaceId proposal.id
        proposal.version (.decision .merged none none))) t l fun changed t =>
    match changed with
    | none => rejectProposalDrift t l
    | some updated =>
    planned
      (planning c.envelope ticket.id "ProposalDecisionRationaleRecorded"
        "Proposal merged into DevTicket"
        [("proposalId", .string proposal.id),
          ("discoverySummary", .string proposal.discoverySummary),
          ("blockingAssessment", .string proposal.blockingAssessment.text),
          ("reason", .string reason)] l) t l fun l =>
    accept "dev_board.proposal_merged" updated.id [updated.resulting, ticket.resulting]
      [("proposalId", updated.id), ("devTicketId", ticket.id)] t
      (activity c.envelope updated.id updated.version "ProposalMerged"
        [("devTicketId", .string ticket.id)] (c.now 0) l)
  | _, _ =>
    reject "dev_board.expected_version_drift" "Proposal or DevTicket version has changed." t l

/-- `RejectProposalInput` and `ArchiveProposalInput`. -/
structure ProposalReasonInput where
  proposalId : String
  reason : String

/-- `decideProposal`; `rejectProposal` is its only caller. -/
def decideProposal (c : Context) (input : ProposalReasonInput)
    (lifecycleState : ProposalLifecycleState) (eventName outcomeCode subject : String)
    (t : Tables) (l : Ledger) : Exit :=
  match decisionReason input.reason with
  | .error error => rejectError error t l
  | .ok reason =>
  match proposalAtExpectedVersion t c.envelope input.proposalId with
  | none => rejectProposalDrift t l
  | some proposal =>
  if proposal.lifecycleState ≠ .awaitingDecision ∨ proposal.archivedAt.isSome = true then
    rejectNotAwaitingDecision t l
  else
  risky
    (orNull (Tables.updateProposal c.envelope.organizationId c.envelope.workspaceId proposal.id
      proposal.version (.decision lifecycleState none none))) t l fun changed t =>
  match changed with
  | none => rejectProposalDrift t l
  | some updated =>
  planned
    (planning c.envelope updated.id "ProposalDecisionRationaleRecorded" subject
      [("reason", .string reason)] l) t l fun l =>
  accept outcomeCode updated.id [updated.resulting] [("proposalId", updated.id)] t
    (activity c.envelope updated.id updated.version eventName
      [("lifecycleState", .string updated.lifecycleState.text)] (c.now 0) l)

/-- `rejectProposal`. -/
def rejectProposal (c : Context) (input : ProposalReasonInput) (t : Tables) (l : Ledger) : Exit :=
  decideProposal c input .rejected "ProposalRejected" "dev_board.proposal_rejected"
    "Proposal rejected" t l

/-- `archiveProposal`. -/
def archiveProposal (c : Context) (input : ProposalReasonInput) (t : Tables) (l : Ledger) : Exit :=
  match decisionReason input.reason with
  | .error error => rejectError error t l
  | .ok reason =>
  match proposalAtExpectedVersion t c.envelope input.proposalId with
  | none => rejectProposalDrift t l
  | some proposal =>
  if proposal.archivedAt.isSome = true then
    reject "dev_board.proposal_already_archived" "Proposal is already archived." t l
  else if authorizedProposalArchiveActor c = false then
    reject "dev_board.archive_authorization_required"
      "Archive requires an authorized organization owner or admin." t l
  else
  risky
    (orNull (Tables.updateProposal c.envelope.organizationId c.envelope.workspaceId proposal.id
      proposal.version
      { lifecycleState := proposal.lifecycleState
        acceptedCommandId := proposal.acceptedCommandId
        acceptedDevTicketId := proposal.acceptedDevTicketId
        archivedAt := some (some (c.now 0))
        archivedByUserId := some (some c.envelope.actorRef.stableId)
        archivedReason := some (some reason) })) t l fun changed t =>
  match changed with
  | none => rejectProposalDrift t l
  | some updated =>
  planned
    (planning c.envelope updated.id "ProposalDecisionRationaleRecorded" "Proposal archived"
      [("reason", .string reason)] l) t l fun l =>
  accept "dev_board.proposal_archived" updated.id [updated.resulting]
    [("proposalId", updated.id)] t
    (activity c.envelope updated.id updated.version "ProposalArchived"
      [("lifecycleState", .string updated.lifecycleState.text)] (c.now 1) l)

/-- `restoreProposal`. -/
def restoreProposal (c : Context) (proposalId : String) (t : Tables) (l : Ledger) : Exit :=
  match proposalAtExpectedVersion t c.envelope proposalId with
  | none => rejectProposalDrift t l
  | some proposal =>
  if proposal.archivedAt.isNone = true then
    reject "dev_board.proposal_not_archived" "Proposal is not archived." t l
  else if authorizedProposalArchiveActor c = false then
    reject "dev_board.restore_authorization_required"
      "Restore requires an authorized organization owner or admin." t l
  else
  risky
    (orNull (Tables.updateProposal c.envelope.organizationId c.envelope.workspaceId proposal.id
      proposal.version
      { lifecycleState := proposal.lifecycleState
        acceptedCommandId := proposal.acceptedCommandId
        acceptedDevTicketId := proposal.acceptedDevTicketId
        archivedAt := some none
        archivedByUserId := some none
        archivedReason := some none })) t l fun changed t =>
  match changed with
  | none => rejectProposalDrift t l
  | some updated =>
  planned
    (planning c.envelope updated.id "ArchiveRestored" "Proposal restored"
      [("restoredByUserId", .string c.envelope.actorRef.stableId)] l) t l fun l =>
  accept "dev_board.proposal_restored" updated.id [updated.resulting]
    [("proposalId", updated.id)] t
    (activity c.envelope updated.id updated.version "ProposalRestored"
      [("lifecycleState", .string updated.lifecycleState.text)] (c.now 0) l)

end Opzava.DevBoard
