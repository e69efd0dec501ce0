import Opzava.ProjectManagement.Issues
import Opzava.ProjectManagement.Tasks

/-!
Done with the close of the linked issue (`task-done-close.ts`), and the system of the
task commands.

* `issueRefFromTask`, `enqueueIssueCloseForTaskTx`, `markTaskDoneAndEnqueueIssueClose`:
  the composed command, one transaction on the task tables and the outbox.
* `TaskCommand`, `TaskStep`: the commands on the task tables next to the workers of the
  outbox. A command whose database fails leaves everything alone, and is no step.
-/

namespace Opzava.ProjectManagement

open Opzava.Library
open DevBoard (DomainError)

/-! ### The linked issue -/

/-- The rest of a text after a start given in lower case, in either case of letters. -/
def dropStart (start cs : List Char) : Option (List Char) :=
  if (cs.take start.length).map Char.toLower = start then some (cs.drop start.length) else none

/-- The text matches `[1-9]\d*`. -/
def isIssueNumber : List Char → Bool
  | [] => false
  | first :: rest => '1' ≤ first ∧ first ≤ '9' ∧ rest.all fun c => '0' ≤ c ∧ c ≤ '9'

/-- `Number(text)` of decimal digits. -/
def digitsValue (cs : List Char) : ℕ := cs.foldl (fun n c => 10 * n + (c.toNat - 48)) 0

/-- `/^github:([A-Za-z0-9_.-]+\/[A-Za-z0-9_.-]+)#([1-9]\d*)$/i`. -/
def shortRef (cs : List Char) : Option IssueRef :=
  match dropStart "github:".toList cs with
  | none => none
  | some rest =>
      match rest.splitOn '#' with
      | [repository, number] =>
          if isRepository repository ∧ isIssueNumber number then
            some ⟨String.ofList repository, digitsValue number,
              "https://github.com/" ++ String.ofList repository ++ "/issues/" ++
                String.ofList number⟩
          else none
      | _ => none

/-- `/^https:\/\/github\.com\/([A-Za-z0-9_.-]+\/[A-Za-z0-9_.-]+)\/issues\/([1-9]\d*)$/i`. -/
def urlRef (cs : List Char) : Option IssueRef :=
  match dropStart "https://github.com/".toList cs with
  | none => none
  | some rest =>
      match rest.splitOn '/' with
      | [owner, name, issues, number] =>
          if isRepository (owner ++ '/' :: name) ∧ issues.map Char.toLower = "issues".toList ∧
              isIssueNumber number then
            some ⟨String.ofList (owner ++ '/' :: name), digitsValue number, String.ofList cs⟩
          else none
      | _ => none

/-- `issueRefFromTask`. -/
def issueRefFromTask (task : TaskRow) : Option IssueRef :=
  match task.provenanceExternalRef with
  | none => none
  | some value => (shortRef (jsTrim value.toList)).or (urlRef (jsTrim value.toList))

/-! ### The composed command -/

/-- `authorizeIssue`. -/
def authorizeIssue (decision : Except DomainError Bool) : Except DomainError Unit :=
  match decision with
  | .error error => .error error
  | .ok true => .ok ()
  | .ok false => .error ⟨"projectManagement.forbidden", "You are not allowed to manage issues."⟩

/-- What the enqueue reads from outside: its time, the id the database generates, the
decision of the authorization port, and whether the test seam fails. -/
structure CloseEnv where
  now : Timestamp
  outboxId : String
  decision : Except DomainError Bool
  failIssueCloseEnqueue : Bool

/-- The dedupe key of the close of an issue for a task. -/
def dedupeKey (context : TaskContext) (taskId repository : String) (number : ℕ) : String :=
  context.orgId ++ ":" ++ context.workspaceId ++ ":" ++ taskId ++ ":" ++ repository ++ "#" ++
    toString number ++ ":close"

/-- The row to insert. -/
def closeValues (context : TaskContext) (taskId repository : String) (ref : IssueRef) :
    EnqueueValues :=
  ⟨context.orgId, context.workspaceId, taskId, repository, ref.number, ref.url,
    dedupeKey context taskId repository ref.number⟩

/-- `projectManagement.issueCloseIntentFailed`. -/
def issueCloseIntentFailed : DomainError :=
  ⟨"projectManagement.issueCloseIntentFailed",
    "Issue close outbox intent could not be recorded."⟩

/-- `enqueueIssueCloseForTaskTx`; every failure throws. -/
def enqueueIssueCloseForTaskTx (context : TaskContext) (task : TaskRow) (env : CloseEnv)
    (rows : List OutboxRow) : Except DomainError (Option OutboxRow × List OutboxRow) :=
  match issueRefFromTask task with
  | none => .ok (none, rows)
  | some ref =>
      match normalizeRepository ref.repository, authorizeIssue env.decision with
      | .ok repository, .ok _ =>
          if env.failIssueCloseEnqueue then .error issueCloseIntentFailed
          else
            match insertOutbox (closeValues context task.id repository ref) env.outboxId env.now
                rows with
            | none => .error issueCloseIntentFailed
            | some (row, rows') => .ok (some row, rows')
      | _, _ => .error issueCloseIntentFailed

/-- `LinkedIssueCloseIntent`. -/
inductive LinkedIssueCloseIntent where
  | noLinkedIssue (taskId : String) (cardNumber : ℕ)
  | deferred (taskId : String) (cardNumber : ℕ) (targetRef : String) (outbox : OutboxRow)

/-- The intent reported for a task. -/
def linkedIssueCloseIntent (task : TaskRow) (outbox : Option OutboxRow) : LinkedIssueCloseIntent :=
  match outbox, issueRefFromTask task with
  | some row, some ref =>
      .deferred task.id task.cardNumber (task.provenanceExternalRef.getD ref.url) row
  | _, _ => .noLinkedIssue task.id task.cardNumber

/-- The task tables and the rows of the outbox. -/
structure DoneTables where
  db : TaskDb
  outbox : List OutboxRow

/-- The transaction of the composed command. -/
def markTaskDoneAndEnqueueIssueCloseTx (input : MarkTaskDoneInput) (env : TaskEnv)
    (close : CloseEnv) (tables : DoneTables) :
    Except DomainError (Except DomainError (TaskRow × LinkedIssueCloseIntent) × DoneTables) :=
  match markTaskDoneInTransaction input env tables.db with
  | .error thrown => .error thrown
  | .ok (.error error, db) => .ok (.error error, ⟨db, tables.outbox⟩)
  | .ok (.ok task, db) =>
      match enqueueIssueCloseForTaskTx input.toTaskContext task close tables.outbox with
      | .error thrown => .error thrown
      | .ok (outbox, rows) => .ok (.ok (task, linkedIssueCloseIntent task outbox), ⟨db, rows⟩)

/-- `markTaskDoneAndEnqueueIssueClose`. -/
def markTaskDoneAndEnqueueIssueClose (input : MarkTaskDoneInput) (env : TaskEnv)
    (close : CloseEnv) (tables : DoneTables) :
    Except DomainError (TaskRow × LinkedIssueCloseIntent) × DoneTables :=
  afterChecks (prepareMarkTaskDone input env) (fun _ =>
    withTenant (markTaskDoneAndEnqueueIssueCloseTx input env close)) tables

/-! ### The system -/

/-- A command with its input and what it reads from outside. -/
inductive TaskCommand where
  | createTask (input : CreateTaskInput) (env : TaskEnv)
  | updateTask (input : UpdateTaskInput) (env : TaskEnv)
  | moveTask (input : MoveTaskInput) (env : TaskEnv)
  | addQualityCheck (input : AddQualityCheckInput) (env : TaskEnv)
  | toggleQualityCheck (input : ToggleQualityCheckInput) (env : TaskEnv)
  | approveQualityReview (input : ApproveQualityReviewInput) (env : TaskEnv)
  | issueDoneConfirmation (input : IssueDoneConfirmationInput) (env : TaskEnv)
  | cleanupDoneConfirmations (orgId : String) (env : TaskEnv)
  | markTaskDone (input : MarkTaskDoneInput) (env : TaskEnv)
  | markTaskDoneAndEnqueueIssueClose (input : MarkTaskDoneInput) (env : TaskEnv)
      (close : CloseEnv)

/-- The tables after a command. -/
def TaskCommand.run (tables : DoneTables) : TaskCommand → DoneTables
  | .createTask input env => { tables with db := (ProjectManagement.createTask input env tables.db).2 }
  | .updateTask input env => { tables with db := (ProjectManagement.updateTask input env tables.db).2 }
  | .moveTask input env => { tables with db := (ProjectManagement.moveTask input env tables.db).2 }
  | .addQualityCheck input env =>
      { tables with db := (ProjectManagement.addQualityCheck input env tables.db).2 }
  | .toggleQualityCheck input env =>
      { tables with db := (ProjectManagement.toggleQualityCheck input env tables.db).2 }
  | .approveQualityReview input env =>
      { tables with db := (ProjectManagement.approveQualityReview input env tables.db).2 }
  | .issueDoneConfirmation input env =>
      { tables with db := (ProjectManagement.issueDoneConfirmation input env tables.db).2 }
  | .cleanupDoneConfirmations orgId env =>
      { tables with db := (ProjectManagement.cleanupDoneConfirmations orgId env tables.db).2 }
  | .markTaskDone input env =>
      { tables with db := (ProjectManagement.markTaskDone input env tables.db).2 }
  | .markTaskDoneAndEnqueueIssueClose input env close =>
      (ProjectManagement.markTaskDoneAndEnqueueIssueClose input env close tables).2

/-- The two commands that admit Done. -/
def TaskCommand.doneCommand : TaskCommand → Option (MarkTaskDoneInput × TaskEnv)
  | .markTaskDone input env => some (input, env)
  | .markTaskDoneAndEnqueueIssueClose input env _ => some (input, env)
  | _ => none

/-- The task tables, and the outbox with its workers. -/
structure TaskSystem where
  db : TaskDb
  outbox : Outbox

/-- No tasks, and nothing in the outbox. -/
def TaskSystem.empty : TaskSystem := ⟨.empty, .empty⟩

/-- The tables of a system. -/
def TaskSystem.tables (s : TaskSystem) : DoneTables := ⟨s.db, s.outbox.rows⟩

/-- The system with its tables written. -/
def TaskSystem.write (s : TaskSystem) (tables : DoneTables) : TaskSystem :=
  ⟨tables.db, { s.outbox with rows := tables.outbox }⟩

/-- One step: a command, or a step of the workers of the outbox, which insert no row. -/
inductive TaskStep (maxAttempts : ℕ) : TaskSystem → Option TaskCommand → TaskSystem → Prop
  | command (s : TaskSystem) (c : TaskCommand) :
      TaskStep maxAttempts s (some c) (s.write (c.run s.tables))
  | outbox (s : TaskSystem) (outbox : Outbox) (step : OutboxStep maxAttempts s.outbox outbox)
      (worker : outbox.rows.length = s.outbox.rows.length) :
      TaskStep maxAttempts s none { s with outbox := outbox }

/-- The systems a run can reach. -/
def TaskReachable (maxAttempts : ℕ) : TaskSystem → Prop :=
  Relation.ReflTransGen (fun s s' => ∃ action, TaskStep maxAttempts s action s') TaskSystem.empty

end Opzava.ProjectManagement
