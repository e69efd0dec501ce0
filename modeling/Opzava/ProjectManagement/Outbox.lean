import Opzava.DevBoard.Domain
import Opzava.Library.Table

/-!
The outbox of issue closes (`issue_close_outbox`, `issues.ts`).

The statements of `processIssueCloseOutbox` and `enqueueIssueCloseForTaskTx` on the
table, and the system they make up: any number of workers that claim rows, call
`closeIssue`, finalize and crash, next to transactions that enqueue.

* `claimTransaction`, `finalizeTransaction`, `insertOutbox`: the three transactions.
* `OutboxStep`: one step of the system, with a log of claims, calls and finalizations.
-/

namespace Opzava.ProjectManagement

open Opzava.Library
open DevBoard (DomainError)

/-! ### Rows -/

/-- A `timestamptz`, in microseconds since the epoch. -/
abbrev Timestamp := ℤ

/-- The states of an outbox row. -/
inductive OutboxState where
  | pending | processing | closed | failed | dead
  deriving DecidableEq

/-- The states `closeIssue` may still be called from. -/
def OutboxState.live (state : OutboxState) : Bool :=
  state ∈ [OutboxState.pending, .failed, .processing]

/-- `closeReason`. -/
inductive CloseReason where
  | completed | notPlanned
  deriving DecidableEq

/-- A row of `issue_close_outbox`. -/
structure OutboxRow where
  id : String
  organizationId : String
  workspaceId : String
  taskId : String
  repository : String
  issueNumber : ℕ
  issueUrl : String
  dedupeKey : String
  state : OutboxState
  closeReason : CloseReason
  attempts : ℕ
  nextAttemptAt : Timestamp
  lastError : Option String
  claimedAt : Option Timestamp
  claimToken : Option String
  createdAt : Timestamp
  updatedAt : Timestamp
  closedAt : Option Timestamp
  deriving DecidableEq

/-! ### Inputs -/

/-- `ProcessIssueCloseOutboxInput`, with the repository in its normal form. -/
structure ProcessIssueCloseOutboxInput where
  orgId : String
  workspaceId : String
  repository : String
  limit : Option ℤ
  processingTimeoutMs : Option ℤ
  maxAttempts : Option ℤ
  deriving DecidableEq

/-- The limits of one call, once checked. -/
structure OutboxBounds where
  limit : ℕ
  processingTimeoutMs : ℕ
  maxAttempts : ℕ
  deriving DecidableEq

/-- The defaults and checks of the limits. -/
def outboxBounds (input : ProcessIssueCloseOutboxInput) : Except DomainError OutboxBounds :=
  let limit := input.limit.getD 10
  let processingTimeoutMs := input.processingTimeoutMs.getD (15 * 60 * 1000)
  let maxAttempts := input.maxAttempts.getD 8
  if limit < 1 ∨ 50 < limit then
    .error ⟨"projectManagement.invalidOutboxLimit", "Outbox limit must be 1-50."⟩
  else if processingTimeoutMs < 1 ∨ 24 * 60 * 60 * 1000 < processingTimeoutMs then
    .error ⟨"projectManagement.invalidOutboxProcessingTimeout",
      "Outbox processing timeout must be 1 millisecond to 24 hours."⟩
  else if maxAttempts < 1 ∨ 100 < maxAttempts then
    .error ⟨"projectManagement.invalidOutboxMaxAttempts", "Outbox max attempts must be 1-100."⟩
  else .ok ⟨limit.toNat, processingTimeoutMs.toNat, maxAttempts.toNat⟩

/-! ### The claim -/

/-- What one run of the claim transaction takes from the database: the clock, a random
token for each row, the order of rows the `order by` leaves open, and the rows another
transaction has locked. -/
structure ClaimEnv where
  now : Timestamp
  token : String → String
  tie : OutboxRow → ℕ
  locked : String → Bool

variable (input : ProcessIssueCloseOutboxInput) (bounds : OutboxBounds) (env : ClaimEnv)

/-- The rows of the workspace and the repository the transaction of the organization
sees. -/
def inScope (row : OutboxRow) : Bool :=
  row.organizationId = input.orgId ∧ row.workspaceId = input.workspaceId ∧
    row.repository = input.repository

/-- The rows the first statement buries. -/
def exhausted (row : OutboxRow) : Bool :=
  inScope input row ∧ row.state.live ∧ bounds.maxAttempts ≤ row.attempts

/-- A row that has run out of attempts. -/
def OutboxRow.buried (now : Timestamp) (row : OutboxRow) : OutboxRow :=
  { row with
    state := .dead
    claimedAt := none
    claimToken := none
    lastError := some (row.lastError.getD "Issue close retry limit exceeded.")
    updatedAt := now }

/-- The rows the second statement may claim: due ones, and ones whose worker has held
them for too long. -/
def claimable (row : OutboxRow) : Bool :=
  inScope input row ∧ row.attempts < bounds.maxAttempts ∧
    ((row.state ∈ [OutboxState.pending, .failed] ∧ row.nextAttemptAt ≤ env.now) ∨
      (row.state = .processing ∧
        ∃ claimedAt ∈ row.claimedAt, claimedAt ≤ env.now - bounds.processingTimeoutMs * 1000))

/-- `order by next_attempt_at asc, created_at asc`. -/
def claimOrder (a b : OutboxRow) : Bool :=
  a.nextAttemptAt < b.nextAttemptAt ∨ (a.nextAttemptAt = b.nextAttemptAt ∧
    (a.createdAt < b.createdAt ∨ (a.createdAt = b.createdAt ∧ env.tie a ≤ env.tie b)))

/-- The ids of the rows claimed: in order, without the locked ones, up to the limit. -/
def candidates (rows : List OutboxRow) : List String :=
  ((((rows.filter (claimable input bounds env)).insertionSort (claimOrder env · ·)).filter
    fun row => !env.locked row.id).take bounds.limit).map (·.id)

/-- A claimed row. -/
def OutboxRow.claimed (row : OutboxRow) : OutboxRow :=
  { row with
    state := .processing
    claimedAt := some env.now
    claimToken := some (env.token row.id)
    updatedAt := env.now }

/-- The table once the exhausted rows are buried. -/
def sweep (rows : List OutboxRow) : List OutboxRow :=
  updateWhere (exhausted input bounds) (OutboxRow.buried env.now) rows

/-- Whether the claim takes the row. -/
def claims (rows : List OutboxRow) (row : OutboxRow) : Bool :=
  row.id ∈ candidates input bounds env rows

/-- The claim transaction: the rows it returns, and the table after it. -/
def claimTransaction (rows : List OutboxRow) : List OutboxRow × List OutboxRow :=
  (returning (claims input bounds env (sweep input bounds env rows)) (OutboxRow.claimed env)
      (sweep input bounds env rows),
    updateWhere (claims input bounds env (sweep input bounds env rows)) (OutboxRow.claimed env)
      (sweep input bounds env rows))

/-! ### The finalization -/

/-- The answer of `closeIssue`. -/
abbrev CloseResult := Except String Unit

/-- `savedState`. -/
def savedState (entry : OutboxRow) (result : CloseResult) : OutboxState :=
  match result with
  | .ok () => .closed
  | .error _ => if bounds.maxAttempts ≤ entry.attempts + 1 then .dead else .failed

/-- The row after its finalization. -/
def OutboxRow.finalized (entry : OutboxRow) (result : CloseResult) (now : Timestamp)
    (row : OutboxRow) : OutboxRow :=
  { row with
    state := savedState bounds entry result
    attempts := row.attempts + 1
    nextAttemptAt :=
      match result with
      | .ok () => now
      | .error _ => now + 5 * 60 * 1000000 * (max (row.attempts + 1) 1 : ℕ)
    lastError :=
      match result with
      | .ok () => none
      | .error message => some message
    claimedAt := none
    claimToken := none
    updatedAt := now
    closedAt :=
      match result with
      | .ok () => some now
      | .error _ => row.closedAt }

/-- The condition of the finalization: the row of the entry, still under the token of
the claim. -/
def holds (entry row : OutboxRow) : Bool :=
  row.organizationId = input.orgId ∧ row.id = entry.id ∧ row.workspaceId = input.workspaceId ∧
    row.claimToken.isSome ∧ row.claimToken = entry.claimToken

/-- The finalize transaction: the row it returns, and the table after it. -/
def finalizeTransaction (entry : OutboxRow) (result : CloseResult) (now : Timestamp)
    (rows : List OutboxRow) : Option OutboxRow × List OutboxRow :=
  ((returning (holds input entry) (OutboxRow.finalized bounds entry result now) rows).head?,
    updateWhere (holds input entry) (OutboxRow.finalized bounds entry result now) rows)

/-! ### The enqueue -/

/-- The values of the insert of `enqueueIssueCloseForTaskTx`. -/
structure EnqueueValues where
  organizationId : String
  workspaceId : String
  taskId : String
  repository : String
  issueNumber : ℕ
  issueUrl : String
  dedupeKey : String

/-- The inserted row, with the defaults of the table. -/
def EnqueueValues.row (values : EnqueueValues) (id : String) (now : Timestamp) : OutboxRow where
  id := id
  organizationId := values.organizationId
  workspaceId := values.workspaceId
  taskId := values.taskId
  repository := values.repository
  issueNumber := values.issueNumber
  issueUrl := values.issueUrl
  dedupeKey := values.dedupeKey
  state := .pending
  closeReason := .completed
  attempts := 0
  nextAttemptAt := now
  lastError := none
  claimedAt := none
  claimToken := none
  createdAt := now
  updatedAt := now
  closedAt := none

/-- A row the insert has run into. -/
def OutboxRow.touched (now : Timestamp) (row : OutboxRow) : OutboxRow :=
  { row with updatedAt := now }

/-- `insert … on conflict (dedupe_key) do update set updated_at = now()`. The statement
fails on a row the policy of the table hides, on an id in use, and on an issue number
that is no positive `integer`. -/
def insertOutbox (values : EnqueueValues) (id : String) (now : Timestamp)
    (rows : List OutboxRow) : Option (OutboxRow × List OutboxRow) :=
  if values.issueNumber = 0 ∨ 2147483647 < values.issueNumber then none
  else
    match rows.find? fun row => row.dedupeKey = values.dedupeKey with
    | some existing =>
        if existing.organizationId = values.organizationId then
          some (existing.touched now,
            updateWhere (fun row => row.dedupeKey = values.dedupeKey)
              (OutboxRow.touched now) rows)
        else none
    | none =>
        if id ∈ rows.map (·.id) then none
        else some (values.row id now, rows ++ [values.row id now])

/-! ### The system -/

/-- The arguments of a `closeIssue` call. -/
structure IssueRef where
  repository : String
  number : ℕ
  url : String
  deriving DecidableEq

/-- The issue of a row. -/
def OutboxRow.ref (row : OutboxRow) : IssueRef := ⟨row.repository, row.issueNumber, row.issueUrl⟩

/-- What happens to the row `id` under the claim with the token: the claim, which may
take the row from another worker, the call of `closeIssue`, and the finalization. -/
inductive OutboxEvent where
  | claimed (worker : ℕ) (id : String) (token : Option String) (again : Bool)
  | called (worker : ℕ) (id : String) (token : Option String) (ref : IssueRef) (ok : Bool)
  | finalized (worker : ℕ) (id : String) (token : Option String) (state : OutboxState)
  deriving DecidableEq

/-- A running call of `processIssueCloseOutbox`: the claimed entries still to be called,
and the entry whose call has returned. -/
structure Worker where
  input : ProcessIssueCloseOutboxInput
  bounds : OutboxBounds
  entries : List OutboxRow
  answered : Option (OutboxRow × CloseResult)
  deriving DecidableEq

/-- The table, the workers, and the log of what they did. -/
structure Outbox where
  rows : List OutboxRow
  workers : ℕ → Option Worker
  log : List OutboxEvent

/-- The outbox before any enqueue. -/
def Outbox.empty : Outbox := ⟨[], fun _ => none, []⟩

/-- The event of a claimed entry: whether the row was taken from another worker is read
off the table before the claim. -/
def claimEvent (rows : List OutboxRow) (worker : ℕ) (entry : OutboxRow) : OutboxEvent :=
  .claimed worker entry.id entry.claimToken
    (rows.any fun row => row.id = entry.id ∧ row.state = .processing)

/-- The tokens handed out so far. -/
def claimTokens (log : List OutboxEvent) : List (Option String) :=
  log.filterMap fun
    | .claimed _ _ token _ => some token
    | _ => none

/-- `gen_random_uuid()` hands out no token twice. -/
structure FreshTokens (log : List OutboxEvent) (entries : List OutboxRow) : Prop where
  nodup : (entries.map (·.claimToken)).Nodup
  unused : ∀ entry ∈ entries, entry.claimToken ∉ claimTokens log

/-- The event of a finalization that found its row. -/
def finalizeEvents (worker : ℕ) (entry : OutboxRow) : Option OutboxRow → List OutboxEvent
  | none => []
  | some saved => [.finalized worker entry.id entry.claimToken saved.state]

/-- One step of the system, with a common cap on the attempts. A worker whose call
returns, fails or crashes is gone; its claims stay in the table. -/
inductive OutboxStep (maxAttempts : ℕ) : Outbox → Outbox → Prop
  | enqueue (s : Outbox) (values : EnqueueValues) (id : String) (now : Timestamp)
      {row : OutboxRow} {rows : List OutboxRow}
      (inserted : insertOutbox values id now s.rows = some (row, rows)) :
      OutboxStep maxAttempts s { s with rows := rows }
  | claim (s : Outbox) (worker : ℕ) (input : ProcessIssueCloseOutboxInput)
      (bounds : OutboxBounds) (env : ClaimEnv) (entries : List OutboxRow)
      (idle : s.workers worker = none)
      (valid : outboxBounds input = .ok bounds) (cap : bounds.maxAttempts = maxAttempts)
      (returned : entries.Perm (claimTransaction input bounds env s.rows).1)
      (fresh : FreshTokens s.log entries) :
      OutboxStep maxAttempts s
        ⟨(claimTransaction input bounds env s.rows).2,
          Function.update s.workers worker (some ⟨input, bounds, entries, none⟩),
          s.log ++ entries.map (claimEvent s.rows worker)⟩
  | close (s : Outbox) (worker : ℕ) (input : ProcessIssueCloseOutboxInput)
      (bounds : OutboxBounds) (entry : OutboxRow) (rest : List OutboxRow) (result : CloseResult)
      (running : s.workers worker = some ⟨input, bounds, entry :: rest, none⟩) :
      OutboxStep maxAttempts s
        { s with
          workers := Function.update s.workers worker
            (some ⟨input, bounds, rest, some (entry, result)⟩)
          log := s.log ++ [.called worker entry.id entry.claimToken entry.ref result.isOk] }
  | finalize (s : Outbox) (worker : ℕ) (input : ProcessIssueCloseOutboxInput)
      (bounds : OutboxBounds) (entry : OutboxRow) (rest : List OutboxRow) (result : CloseResult)
      (now : Timestamp)
      (running : s.workers worker = some ⟨input, bounds, rest, some (entry, result)⟩) :
      OutboxStep maxAttempts s
        ⟨(finalizeTransaction input bounds entry result now s.rows).2,
          Function.update s.workers worker (some ⟨input, bounds, rest, none⟩),
          s.log ++ finalizeEvents worker entry
            (finalizeTransaction input bounds entry result now s.rows).1⟩
  | gone (s : Outbox) (worker : ℕ) :
      OutboxStep maxAttempts s { s with workers := Function.update s.workers worker none }

/-- The outboxes a run can reach. -/
def OutboxReachable (maxAttempts : ℕ) : Outbox → Prop :=
  Relation.ReflTransGen (OutboxStep maxAttempts) Outbox.empty

end Opzava.ProjectManagement
