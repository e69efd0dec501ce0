import Mathlib
import Opzava.Library.JavaScript
import Opzava.ProjectManagement.Outbox

/-!
Task cards and their quality reviews (`tasks.ts`).

Every command checks its input, asks the authorization port, and runs one `withTenant`
body. The body is one transaction: what it returns is committed, an `err` as well, and
what it throws rolls the tables back. A statement sees and writes only the rows of the
organization of the transaction.

* `createTask`, `updateTask`, `moveTask`: the commands on the card.
* `addQualityCheck`, `toggleQualityCheck`, `approveQualityReview`: the quality review.
* `issueDoneConfirmation`, `cleanupDoneConfirmations`, `markTaskDone`: the admission of
  Done.
-/

namespace Opzava.ProjectManagement

open Opzava.Library
open DevBoard (DomainError)

/-! ### Rows -/

/-- `TaskStatus`. -/
inductive TaskStatus where
  | todo | inProgress | blocked | done
  deriving DecidableEq

/-- `TaskPriority`. -/
inductive TaskPriority where
  | low | normal | high | urgent
  deriving DecidableEq

/-- A row of `tasks`. -/
structure TaskRow where
  id : String
  organizationId : String
  workspaceId : String
  cardNumber : ℕ
  title : String
  description : String
  status : TaskStatus
  priority : TaskPriority
  assigneeUserId : Option String
  labels : List String
  position : ℕ
  dueAt : Option Timestamp
  provenanceSource : String
  provenanceExternalRef : Option String
  idempotencyKey : Option String
  createdAt : Timestamp
  updatedAt : Timestamp
  deriving DecidableEq

/-- `TaskQualityReviewStatus`. -/
inductive ReviewStatus where
  | open_ | changesRequested | approved
  deriving DecidableEq

/-- A row of `task_quality_review`. -/
structure ReviewRow where
  id : String
  organizationId : String
  workspaceId : String
  taskId : String
  status : ReviewStatus
  approvedByUserId : Option String
  approvedAt : Option Timestamp
  createdAt : Timestamp
  updatedAt : Timestamp
  deriving DecidableEq

/-- `TaskQualityCheckKind`. -/
inductive CheckKind where
  | human | aiPrecheck
  deriving DecidableEq

/-- `TaskQualityCheckState`. -/
inductive CheckState where
  | pass | fail | pending
  deriving DecidableEq

/-- A row of `task_quality_check`. -/
structure CheckRow where
  id : String
  reviewId : String
  organizationId : String
  workspaceId : String
  taskId : String
  label : String
  kind : CheckKind
  state : CheckState
  actor : String
  idempotencyKey : Option String
  createdAt : Timestamp
  updatedAt : Timestamp
  deriving DecidableEq

/-- A row of `task_quality_reviewer`; every reviewer written here has approved. -/
structure ReviewerRow where
  id : String
  reviewId : String
  organizationId : String
  workspaceId : String
  taskId : String
  reviewerUserId : String
  updatedAt : Timestamp
  deriving DecidableEq

/-- A row of `task_done_confirmation`. -/
structure ConfirmationRow where
  id : String
  taskId : String
  organizationId : String
  workspaceId : String
  issuedForUserId : String
  issuedAt : Timestamp
  expiresAt : Timestamp
  consumedAt : Option Timestamp
  consumedByUserId : Option String
  qualityReviewId : Option String
  deriving DecidableEq

/-- The tables. -/
structure TaskDb where
  tasks : List TaskRow
  reviews : List ReviewRow
  checks : List CheckRow
  reviewers : List ReviewerRow
  confirmations : List ConfirmationRow
  deriving DecidableEq

/-- The tables before any task. -/
def TaskDb.empty : TaskDb := ⟨[], [], [], [], []⟩

/-! ### Inputs -/

/-- `TaskApplicationContext`, the actor by its id. -/
structure TaskContext where
  orgId : String
  workspaceId : String
  userId : String

/-- What a command reads from outside: the time of its transaction, the ids the database
generates, the decision of the authorization port, and `String.prototype.toLowerCase`. -/
structure TaskEnv where
  now : Timestamp
  newId : String
  newReviewId : String
  newReviewerId : String
  decision : Except DomainError Bool
  toLowerCase : String → String

/-- The characters of `[a-zA-Z0-9]`. -/
def isAlphanumeric (c : Char) : Bool :=
  ('a' ≤ c ∧ c ≤ 'z') ∨ ('A' ≤ c ∧ c ≤ 'Z') ∨ ('0' ≤ c ∧ c ≤ '9')

/-- The text matches `^[a-zA-Z0-9][a-zA-Z0-9_-]{1,127}$`. -/
def isOpaqueId (text : String) : Bool :=
  match text.toList with
  | [] => false
  | first :: rest => isAlphanumeric first ∧ 1 ≤ rest.length ∧ rest.length ≤ 127 ∧
      rest.all fun c => isAlphanumeric c ∨ c = '_' ∨ c = '-'

/-- A hexadecimal digit, in either case. -/
def isHexDigit (c : Char) : Bool :=
  ('0' ≤ c ∧ c ≤ '9') ∨ ('a' ≤ c ∧ c ≤ 'f') ∨ ('A' ≤ c ∧ c ≤ 'F')

/-- The text matches
`/^[0-9a-f]{8}-[0-9a-f]{4}-[1-5][0-9a-f]{3}-[89ab][0-9a-f]{3}-[0-9a-f]{12}$/i`. -/
def isUuid (text : String) : Bool :=
  match text.toList.splitOn '-' with
  | [a, b, c, d, e] => [a, b, c, d, e].map List.length = [8, 4, 4, 4, 12] ∧
      ([a, b, c, d, e].all fun part => part.all isHexDigit) ∧
      (c.head?.any fun digit => '1' ≤ digit ∧ digit ≤ '5') ∧
      (d.head?.any fun digit => digit ∈ ['8', '9', 'a', 'b', 'A', 'B'])
  | _ => false

/-- `assertKnownIds`. -/
def assertKnownIds (context : TaskContext) : Except DomainError Unit :=
  if isOpaqueId context.orgId ∧ isOpaqueId context.workspaceId ∧ isOpaqueId context.userId then
    .ok ()
  else
    .error ⟨"projectManagement.invalidTaskContext",
      "Task context contains an invalid organization, workspace, or actor id."⟩

/-- `assertKnownTaskId`. -/
def assertKnownTaskId (taskId : String) : Except DomainError Unit :=
  if isOpaqueId taskId then .ok ()
  else .error ⟨"projectManagement.invalidTaskId", "Task id is invalid."⟩

/-- `authorizeTask`. -/
def authorizeTask (decision : Except DomainError Bool) : Except DomainError Unit :=
  match decision with
  | .error error => .error error
  | .ok true => .ok ()
  | .ok false => .error ⟨"projectManagement.forbidden", "You are not allowed to manage tasks."⟩

/-- `taskDoneRequiresHumanAttestation`. -/
def taskDoneRequiresHumanAttestation : DomainError :=
  ⟨"projectManagement.taskDoneRequiresHumanAttestation",
    "Marking a task Done requires the confirmed human Done action."⟩

/-- `parseTaskStatus`. -/
def parseTaskStatus (value : String) : Except DomainError TaskStatus :=
  if value = "todo" then .ok .todo
  else if value = "in_progress" then .ok .inProgress
  else if value = "blocked" then .ok .blocked
  else if value = "done" then .ok .done
  else
    .error ⟨"projectManagement.invalidTaskStatus",
      "Task status must be todo, in_progress, blocked, or done."⟩

/-- `isTerminalTaskStatus`. -/
def isTerminalTaskStatus (status : TaskStatus) : Bool := status = .done

/-- `parseTaskPriority`. -/
def parseTaskPriority (value : String) : Except DomainError TaskPriority :=
  if value = "low" then .ok .low
  else if value = "normal" then .ok .normal
  else if value = "high" then .ok .high
  else if value = "urgent" then .ok .urgent
  else
    .error ⟨"projectManagement.invalidTaskPriority",
      "Task priority must be low, normal, high, or urgent."⟩

/-- `normalizeTaskTitle`. -/
def normalizeTaskTitle (value : String) : Except DomainError String :=
  let title := normalizeSpaces value
  if jsLength title = 0 then
    .error ⟨"projectManagement.taskTitleRequired", "Task title is required."⟩
  else if 180 < jsLength title then
    .error ⟨"projectManagement.taskTitleTooLong", "Task title must be 180 characters or fewer."⟩
  else .ok title

/-- `normalizeTaskDescription`. -/
def normalizeTaskDescription (value : String) : Except DomainError String :=
  let description := String.ofList (jsTrim value.toList)
  if 4000 < jsLength description then
    .error ⟨"projectManagement.taskDescriptionTooLong",
      "Task description must be 4000 characters or fewer."⟩
  else .ok description

/-- `normalizeTaskLabels`. -/
def normalizeTaskLabels (toLowerCase : String → String) (values : List String) :
    Except DomainError (List String) :=
  let labels := (values.map fun value => toLowerCase (String.ofList (jsTrim value.toList))).filter
    fun label => jsLength label ≠ 0
  let uniqueLabels := labels.reverse.dedup.reverse
  if 8 < uniqueLabels.length then
    .error ⟨"projectManagement.tooManyTaskLabels", "A task can have at most 8 labels."⟩
  else if uniqueLabels.any fun label => 32 < jsLength label then
    .error ⟨"projectManagement.taskLabelTooLong", "Task labels must be 32 characters or fewer."⟩
  else .ok uniqueLabels

/-- A text that is trimmed, and `null` when nothing is left of it. -/
def trimmedOrNull (value : Option String) : Option String :=
  match value with
  | none => none
  | some text =>
      let trimmed := jsTrim text.toList
      if trimmed = [] then none else some (String.ofList trimmed)

/-- `normalizeAssignee`. -/
def normalizeAssignee (assigneeUserId : Option String) (actorUserId : String) :
    Except DomainError (Option String) :=
  match trimmedOrNull assigneeUserId with
  | none => .ok none
  | some assignee =>
      if assignee = actorUserId then .ok (some assignee)
      else
        .error ⟨"projectManagement.unsupportedTaskAssignee",
          "This slice can assign tasks only to the current user or leave them unassigned."⟩

/-- `normalizeDueAt`, of a date by its time value; an invalid date has none. -/
def normalizeDueAt (value : Option (Option Timestamp)) : Except DomainError (Option Timestamp) :=
  match value with
  | none => .ok none
  | some none =>
      .error ⟨"projectManagement.invalidDueAt", "Task due date must be a valid date."⟩
  | some (some date) => .ok (some date)

/-- `normalizeProvenanceSource`. -/
def normalizeProvenanceSource (value : Option String) : Except DomainError String :=
  let source := normalizeSpaces (value.getD "manual")
  if jsLength source = 0 ∨ 240 < jsLength source then
    .error ⟨"projectManagement.invalidTaskProvenance",
      "Task provenance source must be 1-240 characters."⟩
  else .ok source

/-- `normalizeExternalRef`. -/
def normalizeExternalRef (value : Option String) : Except DomainError (Option String) :=
  match trimmedOrNull value with
  | none => .ok none
  | some ref =>
      if 500 < jsLength ref then
        .error ⟨"projectManagement.invalidTaskProvenance",
          "Task provenance external ref must be 500 characters or fewer."⟩
      else .ok (some ref)

/-- `normalizeIdempotencyKey` of `tasks.ts`. -/
def normalizeTaskIdempotencyKey (value : Option String) : Except DomainError (Option String) :=
  match trimmedOrNull value with
  | none => .ok none
  | some key =>
      if 160 < jsLength key then
        .error ⟨"projectManagement.invalidIdempotencyKey",
          "Idempotency key must be 160 characters or fewer."⟩
      else .ok (some key)

/-- The arguments of `prepareTaskFields`. -/
structure RawTaskFields where
  title : String
  description : Option String
  priority : String
  assigneeUserId : Option String
  labels : Option (List String)
  dueAt : Option (Option Timestamp)
  provenanceSource : Option String
  provenanceExternalRef : Option String

/-- `PreparedTaskFields`. -/
structure PreparedTaskFields where
  title : String
  description : String
  priority : TaskPriority
  assigneeUserId : Option String
  labels : List String
  dueAt : Option Timestamp
  provenanceSource : String
  provenanceExternalRef : Option String

/-- `prepareTaskFields`. -/
def prepareTaskFields (toLowerCase : String → String) (actorUserId : String)
    (input : RawTaskFields) : Except DomainError PreparedTaskFields := do
  let title ← normalizeTaskTitle input.title
  let description ← normalizeTaskDescription (input.description.getD "")
  let priority ← parseTaskPriority input.priority
  let assigneeUserId ← normalizeAssignee input.assigneeUserId actorUserId
  let labels ← normalizeTaskLabels toLowerCase (input.labels.getD [])
  let dueAt ← normalizeDueAt input.dueAt
  let provenanceSource ← normalizeProvenanceSource input.provenanceSource
  let provenanceExternalRef ← normalizeExternalRef input.provenanceExternalRef
  return ⟨title, description, priority, assigneeUserId, labels, dueAt, provenanceSource,
    provenanceExternalRef⟩

/-! ### Transactions -/

/-- `withTenant`: what the body returns is committed, an `err` as well; what it throws
rolls the tables back. -/
def withTenant {σ α : Type} (body : σ → Except DomainError (Except DomainError α × σ)) (tables : σ) :
    Except DomainError α × σ :=
  match body tables with
  | .ok outcome => outcome
  | .error thrown => (.error thrown, tables)

/-- Checks that pass have passed one after the other. -/
lemma bind_eq_ok {ε α β : Type} {x : Except ε α} {f : α → Except ε β} {b : β}
    (h : (x >>= f) = .ok b) :
    ∃ a, x = .ok a ∧ f a = .ok b := by
  cases x with
  | error error => cases h
  | ok a => exact ⟨a, rfl, h⟩

/-- A command: its checks, and then its transaction. -/
def afterChecks {σ α β : Type} (checks : Except DomainError β)
    (run : β → σ → Except DomainError α × σ) (tables : σ) : Except DomainError α × σ :=
  match checks with
  | .error error => (.error error, tables)
  | .ok checked => run checked tables

/-- `databaseError`. -/
def databaseError : DomainError :=
  ⟨"projectManagement.databaseError", "Database operation failed."⟩

/-- `projectManagement.taskNotFound`. -/
def taskNotFound : DomainError := ⟨"projectManagement.taskNotFound", "Task was not found."⟩

/-- The card with the id, in the workspace and the organization. -/
def isTask (context : TaskContext) (taskId : String) (row : TaskRow) : Bool :=
  row.id = taskId ∧ row.workspaceId = context.workspaceId ∧ row.organizationId = context.orgId

/-- The largest value of a column, or zero. -/
def maxOrZero (values : List ℕ) : ℕ := values.foldl max 0

/-! ### Cards -/

/-- `CreateTaskInput`. -/
structure CreateTaskInput extends TaskContext where
  status : Option String
  title : String
  description : Option String
  priority : Option String
  assigneeUserId : Option String
  labels : Option (List String)
  dueAt : Option (Option Timestamp)
  provenanceSource : Option String
  provenanceExternalRef : Option String
  idempotencyKey : Option String

/-- The checks of `createTask`. -/
def checkCreateTask (input : CreateTaskInput) (env : TaskEnv) :
    Except DomainError (TaskStatus × PreparedTaskFields × Option String) := do
  assertKnownIds input.toTaskContext
  let status ← parseTaskStatus (input.status.getD "todo")
  if isTerminalTaskStatus status then
    throw taskDoneRequiresHumanAttestation
  let fields ← prepareTaskFields env.toLowerCase input.userId
    ⟨input.title, input.description, input.priority.getD "normal", input.assigneeUserId,
      input.labels, input.dueAt, input.provenanceSource, input.provenanceExternalRef⟩
  let idempotencyKey ← normalizeTaskIdempotencyKey input.idempotencyKey
  authorizeTask env.decision
  return (status, fields, idempotencyKey)

/-- The new card. -/
def newTask (context : TaskContext) (env : TaskEnv) (status : TaskStatus)
    (fields : PreparedTaskFields) (idempotencyKey : Option String) (tasks : List TaskRow) :
    TaskRow where
  id := env.newId
  organizationId := context.orgId
  workspaceId := context.workspaceId
  cardNumber := maxOrZero ((tasks.filter fun row => row.organizationId = context.orgId ∧
    row.workspaceId = context.workspaceId).map (·.cardNumber)) + 1
  title := fields.title
  description := fields.description
  status := status
  priority := fields.priority
  assigneeUserId := fields.assigneeUserId
  labels := fields.labels
  position := maxOrZero ((tasks.filter fun row => row.organizationId = context.orgId ∧
    row.workspaceId = context.workspaceId ∧ row.status = status).map (·.position)) + 1
  dueAt := fields.dueAt
  provenanceSource := fields.provenanceSource
  provenanceExternalRef := fields.provenanceExternalRef
  idempotencyKey := idempotencyKey
  createdAt := env.now
  updatedAt := env.now

/-- `createTaskOnce`: return the card with the key, or insert one. The insert fails on an
id in use, and on a card number taken in the workspace. -/
def createTaskOnce (context : TaskContext) (env : TaskEnv) (status : TaskStatus)
    (fields : PreparedTaskFields) (idempotencyKey : Option String) (db : TaskDb) :
    Except DomainError (Except DomainError TaskRow × TaskDb) :=
  match db.tasks.find? fun row => idempotencyKey ≠ none ∧ row.organizationId = context.orgId ∧
      row.idempotencyKey = idempotencyKey with
  | some replay => .ok (.ok replay, db)
  | none =>
      let task := newTask context env status fields idempotencyKey db.tasks
      if db.tasks.any fun row => row.id = task.id ∨
          (row.workspaceId = task.workspaceId ∧ row.cardNumber = task.cardNumber) then
        .error databaseError
      else .ok (.ok task, { db with tasks := db.tasks ++ [task] })

/-- `createTask`. An attempt that runs into a card number taken by another transaction is
made once more; each attempt is a transaction of its own. -/
def createTask (input : CreateTaskInput) (env : TaskEnv) (db : TaskDb) :
    Except DomainError TaskRow × TaskDb :=
  afterChecks (checkCreateTask input env) (fun (status, fields, idempotencyKey) =>
    withTenant (createTaskOnce input.toTaskContext env status fields idempotencyKey)) db

/-- `getTask`. -/
def getTask (context : TaskContext) (taskId : String) (env : TaskEnv) (db : TaskDb) :
    Except DomainError TaskRow := do
  assertKnownIds context
  assertKnownTaskId taskId
  authorizeTask env.decision
  match db.tasks.find? (isTask context taskId) with
  | none => throw taskNotFound
  | some row => return row

/-- `UpdateTaskInput`. -/
structure UpdateTaskInput extends TaskContext where
  taskId : String
  title : String
  description : Option String
  priority : String
  assigneeUserId : Option String
  labels : Option (List String)

/-- The checks of `updateTask`. -/
def checkUpdateTask (input : UpdateTaskInput) (env : TaskEnv) :
    Except DomainError PreparedTaskFields := do
  assertKnownIds input.toTaskContext
  assertKnownTaskId input.taskId
  let fields ← prepareTaskFields env.toLowerCase input.userId
    ⟨input.title, input.description, input.priority, input.assigneeUserId, input.labels, none,
      none, none⟩
  authorizeTask env.decision
  return fields

/-- A card with its text changed. -/
def TaskRow.updated (fields : PreparedTaskFields) (now : Timestamp) (row : TaskRow) : TaskRow :=
  { row with
    title := fields.title
    description := fields.description
    priority := fields.priority
    assigneeUserId := fields.assigneeUserId
    labels := fields.labels
    updatedAt := now }

/-- `update tasks set … where id = … and workspace_id = … returning …`. -/
def updateTaskRow (context : TaskContext) (taskId : String) (set : TaskRow → TaskRow)
    (db : TaskDb) : Option (TaskRow × TaskDb) :=
  match returning (isTask context taskId) set db.tasks with
  | [] => none
  | row :: _ => some (row, { db with tasks := updateWhere (isTask context taskId) set db.tasks })

/-- The transaction of `updateTask` and of `moveTask`. -/
def changeTask (context : TaskContext) (taskId : String) (set : TaskRow → TaskRow) (db : TaskDb) :
    Except DomainError (Except DomainError TaskRow × TaskDb) :=
  match updateTaskRow context taskId set db with
  | none => .ok (.error taskNotFound, db)
  | some (row, db') => .ok (.ok row, db')

/-- `updateTask`. -/
def updateTask (input : UpdateTaskInput) (env : TaskEnv) (db : TaskDb) :
    Except DomainError TaskRow × TaskDb :=
  afterChecks (checkUpdateTask input env) (fun fields =>
    withTenant (changeTask input.toTaskContext input.taskId (TaskRow.updated fields env.now))) db

/-- `MoveTaskInput`. -/
structure MoveTaskInput extends TaskContext where
  taskId : String
  status : String
  position : ℤ

/-- `projectManagement.invalidTaskPosition`. -/
def invalidTaskPosition : DomainError :=
  ⟨"projectManagement.invalidTaskPosition", "Task position must be a non-negative integer."⟩

/-- The checks of `moveTask`. -/
def checkMoveTask (input : MoveTaskInput) (env : TaskEnv) :
    Except DomainError (TaskStatus × ℕ) := do
  assertKnownIds input.toTaskContext
  assertKnownTaskId input.taskId
  let status ← parseTaskStatus input.status
  if isTerminalTaskStatus status then
    throw taskDoneRequiresHumanAttestation
  if input.position < 0 then throw invalidTaskPosition
  authorizeTask env.decision
  return (status, input.position.toNat)

/-- A card at a new place. -/
def TaskRow.moved (status : TaskStatus) (position : ℕ) (now : Timestamp) (row : TaskRow) :
    TaskRow :=
  { row with status := status, position := position, updatedAt := now }

/-- `moveTask`. -/
def moveTask (input : MoveTaskInput) (env : TaskEnv) (db : TaskDb) :
    Except DomainError TaskRow × TaskDb :=
  afterChecks (checkMoveTask input env) (fun (status, position) =>
    withTenant (changeTask input.toTaskContext input.taskId
      (TaskRow.moved status position env.now))) db

/-! ### Quality reviews -/

/-- `TaskQualityReviewDto`. -/
structure QualityReview where
  review : ReviewRow
  checks : List CheckRow
  reviewers : List ReviewerRow

/-- `projectManagement.qualityReviewLoadFailed`. -/
def qualityReviewLoadFailed : DomainError :=
  ⟨"projectManagement.qualityReviewLoadFailed", "Quality review could not be loaded."⟩

/-- `projectManagement.qualityReviewConflict`, on a review that is approved. -/
def approvedReviewConflict : DomainError :=
  ⟨"projectManagement.qualityReviewConflict", "Approved quality reviews cannot be changed."⟩

/-- `order by created_at asc, id asc`. -/
def checkLe (a b : CheckRow) : Bool :=
  a.createdAt < b.createdAt ∨ (a.createdAt = b.createdAt ∧ a.id ≤ b.id)

/-- `order by updated_at asc, reviewer_user_id asc`. -/
def reviewerLe (a b : ReviewerRow) : Bool :=
  a.updatedAt < b.updatedAt ∨ (a.updatedAt = b.updatedAt ∧ a.reviewerUserId ≤ b.reviewerUserId)

/-- The review of the task, as the organization sees it. -/
def findReview (orgId taskId : String) (reviews : List ReviewRow) : Option ReviewRow :=
  reviews.find? fun row => row.taskId = taskId ∧ row.organizationId = orgId

/-- `selectQualityReview`. -/
def selectQualityReview (orgId taskId : String) (db : TaskDb) : Option QualityReview :=
  match findReview orgId taskId db.reviews with
  | none => none
  | some review => some ⟨review,
      (db.checks.filter fun row => row.reviewId = review.id ∧
        row.organizationId = orgId).insertionSort fun a b => checkLe a b = true,
      (db.reviewers.filter fun row => row.reviewId = review.id ∧
        row.organizationId = orgId).insertionSort fun a b => reviewerLe a b = true⟩

/-- The review, loaded again at the end of a transaction. -/
def loadQualityReview (orgId taskId : String) (db : TaskDb) :
    Except DomainError (Except DomainError QualityReview × TaskDb) :=
  match selectQualityReview orgId taskId db with
  | none => .ok (.error qualityReviewLoadFailed, db)
  | some loaded => .ok (.ok loaded, db)

/-- The new review. -/
def newReview (context : TaskContext) (taskId : String) (env : TaskEnv) : ReviewRow :=
  ⟨env.newReviewId, context.orgId, context.workspaceId, taskId, .open_, none, none, env.now,
    env.now⟩

/-- `ensureQualityReview`: the review of the task in the workspace, or the one the insert
runs into, or a new one. The insert fails on a review of another organization, and on an
id in use. -/
def ensureQualityReview (context : TaskContext) (taskId : String) (env : TaskEnv) (db : TaskDb) :
    Except DomainError (ReviewRow × TaskDb) :=
  match db.reviews.find? fun row => row.taskId = taskId ∧
      row.workspaceId = context.workspaceId ∧ row.organizationId = context.orgId with
  | some existing => .ok (existing, db)
  | none =>
      match db.reviews.find? fun row => row.taskId = taskId with
      | some other =>
          if other.organizationId = context.orgId then .ok (other, db) else .error databaseError
      | none =>
          if env.newReviewId ∈ db.reviews.map (·.id) then .error databaseError
          else .ok (newReview context taskId env,
            { db with reviews := db.reviews ++ [newReview context taskId env] })

/-- `AddQualityCheckInput`. -/
structure AddQualityCheckInput extends TaskContext where
  taskId : String
  label : String
  kind : Option CheckKind
  state : Option CheckState
  actorLabel : Option String
  idempotencyKey : Option String

/-- `normalizeQualityLabel`. -/
def normalizeQualityLabel (value : String) : Except DomainError String :=
  let label := normalizeSpaces value
  if jsLength label = 0 ∨ 240 < jsLength label then
    .error ⟨"projectManagement.invalidQualityCheck",
      "Quality check label must be 1-240 characters."⟩
  else .ok label

/-- `actorLabel`. -/
def actorLabel (context : TaskContext) (explicit : Option String) : Except DomainError String :=
  let label := normalizeSpaces (explicit.getD context.userId)
  if jsLength label = 0 ∨ 240 < jsLength label then
    .error ⟨"projectManagement.invalidQualityCheck", "Quality check actor is invalid."⟩
  else .ok label

/-- A checked `AddQualityCheckInput`. -/
structure PreparedCheck where
  label : String
  kind : CheckKind
  state : CheckState
  actor : String
  idempotencyKey : Option String

/-- The checks of `addQualityCheck`. -/
def checkAddQualityCheck (input : AddQualityCheckInput) (env : TaskEnv) :
    Except DomainError PreparedCheck := do
  assertKnownIds input.toTaskContext
  assertKnownTaskId input.taskId
  let label ← normalizeQualityLabel input.label
  let actor ← actorLabel input.toTaskContext input.actorLabel
  let idempotencyKey ← normalizeTaskIdempotencyKey input.idempotencyKey
  authorizeTask env.decision
  return ⟨label, input.kind.getD .human, input.state.getD .pending, actor, idempotencyKey⟩

/-- The new check. -/
def newCheck (context : TaskContext) (taskId : String) (env : TaskEnv) (check : PreparedCheck)
    (review : ReviewRow) : CheckRow :=
  ⟨env.newId, review.id, context.orgId, context.workspaceId, taskId, check.label, check.kind,
    check.state, check.actor, check.idempotencyKey, env.now, env.now⟩

/-- The transaction of `addQualityCheck`. A key that has recorded a check is replayed
before the gate that keeps approved reviews as they are. -/
def addQualityCheckTx (context : TaskContext) (taskId : String) (env : TaskEnv)
    (check : PreparedCheck) (db : TaskDb) :
    Except DomainError (Except DomainError QualityReview × TaskDb) :=
  if db.tasks.any (isTask context taskId) then
    match ensureQualityReview context taskId env db with
    | .error thrown => .error thrown
    | .ok (review, db) =>
        if db.checks.any fun row => check.idempotencyKey ≠ none ∧
            row.organizationId = context.orgId ∧ row.idempotencyKey = check.idempotencyKey then
          loadQualityReview context.orgId taskId db
        else if review.status = .approved then .ok (.error approvedReviewConflict, db)
        else if env.newId ∈ db.checks.map (·.id) then .error databaseError
        else
          loadQualityReview context.orgId taskId
            { db with checks := db.checks ++ [newCheck context taskId env check review] }
  else .ok (.error taskNotFound, db)

/-- `addQualityCheck`. -/
def addQualityCheck (input : AddQualityCheckInput) (env : TaskEnv) (db : TaskDb) :
    Except DomainError QualityReview × TaskDb :=
  afterChecks (checkAddQualityCheck input env) (fun check =>
    withTenant (addQualityCheckTx input.toTaskContext input.taskId env check)) db

/-- `ToggleQualityCheckInput`. -/
structure ToggleQualityCheckInput extends TaskContext where
  taskId : String
  checkId : String
  state : CheckState

/-- The check with the id, on the task, in the workspace and the organization. -/
def isCheck (context : TaskContext) (taskId checkId : String) (row : CheckRow) : Bool :=
  row.id = checkId ∧ row.taskId = taskId ∧ row.workspaceId = context.workspaceId ∧
    row.organizationId = context.orgId

/-- A check in a new state. -/
def CheckRow.toggled (state : CheckState) (now : Timestamp) (row : CheckRow) : CheckRow :=
  { row with state := state, updatedAt := now }

/-- A review that is open again, or asks for changes. -/
def ReviewRow.reopened (failing : Bool) (now : Timestamp) (row : ReviewRow) : ReviewRow :=
  { row with
    status := if failing then .changesRequested else .open_
    approvedByUserId := none
    approvedAt := none
    updatedAt := now }

/-- The check joined with its review. -/
def findCheck (context : TaskContext) (taskId checkId : String) (db : TaskDb) :
    Option (CheckRow × ReviewRow) :=
  (db.checks.filter (isCheck context taskId checkId)).findSome? fun check =>
    (db.reviews.find? fun review => review.id = check.reviewId ∧
      review.organizationId = check.organizationId).map fun review => (check, review)

/-- The transaction of `toggleQualityCheck`. -/
def toggleQualityCheckTx (context : TaskContext) (taskId checkId : String) (state : CheckState)
    (env : TaskEnv) (db : TaskDb) :
    Except DomainError (Except DomainError QualityReview × TaskDb) :=
  match findCheck context taskId checkId db with
  | none =>
      .ok (.error ⟨"projectManagement.qualityCheckNotFound", "Quality check was not found."⟩, db)
  | some (_, review) =>
      if review.status = .approved then .ok (.error approvedReviewConflict, db)
      else
        let checks := updateWhere (isCheck context taskId checkId)
          (CheckRow.toggled state env.now) db.checks
        let failing := checks.any fun row => row.taskId = taskId ∧ row.state = .fail ∧
          row.organizationId = context.orgId
        loadQualityReview context.orgId taskId
          { db with
            checks := checks
            reviews := updateWhere (fun row => row.taskId = taskId ∧ row.status ≠ .approved ∧
              row.organizationId = context.orgId) (ReviewRow.reopened failing env.now) db.reviews }

/-- The checks of `toggleQualityCheck`. -/
def checkToggleQualityCheck (input : ToggleQualityCheckInput) (env : TaskEnv) :
    Except DomainError Unit := do
  assertKnownIds input.toTaskContext
  assertKnownTaskId input.taskId
  if !isUuid input.checkId then
    throw ⟨"projectManagement.invalidTaskCardId", "Quality check id must be a valid id."⟩
  authorizeTask env.decision

/-- `toggleQualityCheck`. -/
def toggleQualityCheck (input : ToggleQualityCheckInput) (env : TaskEnv) (db : TaskDb) :
    Except DomainError QualityReview × TaskDb :=
  afterChecks (checkToggleQualityCheck input env) (fun _ =>
    withTenant (toggleQualityCheckTx input.toTaskContext input.taskId input.checkId input.state
      env)) db

/-- `ApproveQualityReviewInput`. -/
structure ApproveQualityReviewInput extends TaskContext where
  taskId : String
  expectedReviewId : Option String

/-- The checks of `approveQualityReview`, and of `issueDoneConfirmation`. -/
def checkTaskCommand (context : TaskContext) (taskId : String) (env : TaskEnv) :
    Except DomainError Unit := do
  assertKnownIds context
  assertKnownTaskId taskId
  authorizeTask env.decision

/-- An approved review. -/
def ReviewRow.approve (userId : String) (now : Timestamp) (row : ReviewRow) : ReviewRow :=
  { row with
    status := .approved
    approvedByUserId := some userId
    approvedAt := some now
    updatedAt := now }

/-- The row the approval updates. -/
def approvable (context : TaskContext) (taskId reviewId : String) (row : ReviewRow) : Bool :=
  row.id = reviewId ∧ row.taskId = taskId ∧ row.workspaceId = context.workspaceId ∧
    row.status ≠ .approved ∧ row.organizationId = context.orgId

/-- The reviewer of the review, as the upsert leaves it. -/
def upsertReviewer (context : TaskContext) (taskId : String) (env : TaskEnv) (review : ReviewRow)
    (reviewers : List ReviewerRow) : List ReviewerRow :=
  if reviewers.any fun row => row.reviewId = review.id ∧ row.reviewerUserId = context.userId then
    updateWhere (fun row => row.reviewId = review.id ∧ row.reviewerUserId = context.userId)
      (fun row => { row with updatedAt := env.now }) reviewers
  else
    reviewers ++ [⟨env.newReviewerId, review.id, context.orgId, context.workspaceId, taskId,
      context.userId, env.now⟩]

/-- The transaction of `approveQualityReview`. -/
def approveQualityReviewTx (context : TaskContext) (taskId : String)
    (expectedReviewId : Option String) (env : TaskEnv) (db : TaskDb) :
    Except DomainError (Except DomainError QualityReview × TaskDb) :=
  if db.tasks.any (isTask context taskId) then
    match ensureQualityReview context taskId env db with
    | .error thrown => .error thrown
    | .ok (review, db) =>
        if expectedReviewId ≠ none ∧ expectedReviewId ≠ some review.id then
          .ok (.error ⟨"projectManagement.qualityReviewConflict",
            "Quality review changed before approval."⟩, db)
        else
          match selectQualityReview context.orgId taskId db with
          | none => .ok (.error qualityReviewLoadFailed, db)
          | some loadedBefore =>
              if loadedBefore.checks.any fun check => check.state ≠ .pass then
                .ok (.error ⟨"projectManagement.qualityReviewIncomplete",
                  "All quality checks must pass before approval."⟩, db)
              else if loadedBefore.review.status ≠ .approved then
                if db.reviews.any (approvable context taskId review.id) then
                  loadQualityReview context.orgId taskId
                    { db with
                      reviews := updateWhere (approvable context taskId review.id)
                        (ReviewRow.approve context.userId env.now) db.reviews
                      reviewers := upsertReviewer context taskId env review db.reviewers }
                else loadQualityReview context.orgId taskId db
              else
                loadQualityReview context.orgId taskId
                  { db with reviewers := upsertReviewer context taskId env review db.reviewers }
  else .ok (.error taskNotFound, db)

/-- `approveQualityReview`. -/
def approveQualityReview (input : ApproveQualityReviewInput) (env : TaskEnv) (db : TaskDb) :
    Except DomainError QualityReview × TaskDb :=
  afterChecks (checkTaskCommand input.toTaskContext input.taskId env) (fun _ =>
    withTenant (approveQualityReviewTx input.toTaskContext input.taskId input.expectedReviewId
      env)) db

/-! ### Done -/

/-- `IssueDoneConfirmationInput`. -/
structure IssueDoneConfirmationInput extends TaskContext where
  taskId : String

/-- Five minutes. -/
def confirmationLifetime : Timestamp := 300000000

/-- The new confirmation. -/
def newConfirmation (context : TaskContext) (taskId : String) (env : TaskEnv) : ConfirmationRow :=
  ⟨env.newId, taskId, context.orgId, context.workspaceId, context.userId, env.now,
    env.now + confirmationLifetime, none, none, none⟩

/-- The transaction of `issueDoneConfirmation`. -/
def issueDoneConfirmationTx (context : TaskContext) (taskId : String) (env : TaskEnv)
    (db : TaskDb) : Except DomainError (Except DomainError String × TaskDb) :=
  if db.tasks.any (isTask context taskId) then
    if env.newId ∈ db.confirmations.map (·.id) then .error databaseError
    else .ok (.ok env.newId,
      { db with confirmations := db.confirmations ++ [newConfirmation context taskId env] })
  else .ok (.error taskNotFound, db)

/-- `issueDoneConfirmation`. -/
def issueDoneConfirmation (input : IssueDoneConfirmationInput) (env : TaskEnv) (db : TaskDb) :
    Except DomainError String × TaskDb :=
  afterChecks (checkTaskCommand input.toTaskContext input.taskId env) (fun _ =>
    withTenant (issueDoneConfirmationTx input.toTaskContext input.taskId env)) db

/-- A confirmation that is used up or out of date. -/
def isSpent (orgId : String) (now : Timestamp) (row : ConfirmationRow) : Bool :=
  (row.consumedAt ≠ none ∨ row.expiresAt < now) ∧ row.organizationId = orgId

/-- `cleanupDoneConfirmations`. -/
def cleanupDoneConfirmations (orgId : String) (env : TaskEnv) (db : TaskDb) :
    Except DomainError ℕ × TaskDb :=
  if isUuid orgId then
    (.ok (db.confirmations.countP (isSpent orgId env.now)),
      { db with confirmations := db.confirmations.filter fun row => !isSpent orgId env.now row })
  else
    (.error ⟨"projectManagement.invalidTaskCardId", "Organization ID must be a valid id."⟩, db)

/-- `HumanCommandAttestation`. -/
structure HumanCommandAttestation where
  confirmedByUserId : String
  confirmSource : String
  confirmNonce : String

/-- `MarkTaskDoneInput`. -/
structure MarkTaskDoneInput extends TaskContext where
  taskId : String
  position : ℤ
  humanCommand : HumanCommandAttestation

/-- `taskDoneRequiresApprovedReview`. -/
def taskDoneRequiresApprovedReview : DomainError :=
  ⟨"projectManagement.taskDoneRequiresApprovedReview",
    "A task can only be marked Done after its quality review is approved."⟩

/-- `hasValidHumanCommandAttestation`. -/
def hasValidHumanCommandAttestation (input : MarkTaskDoneInput) : Bool :=
  input.humanCommand.confirmedByUserId = input.userId ∧
    input.humanCommand.confirmSource = "admin-web" ∧ isUuid input.humanCommand.confirmNonce

/-- `prepareMarkTaskDone`. -/
def prepareMarkTaskDone (input : MarkTaskDoneInput) (env : TaskEnv) : Except DomainError Unit := do
  assertKnownIds input.toTaskContext
  assertKnownTaskId input.taskId
  if input.position < 0 then throw invalidTaskPosition
  authorizeTask env.decision
  if !hasValidHumanCommandAttestation input then throw taskDoneRequiresHumanAttestation

/-- The confirmation the command may use. -/
def usable (input : MarkTaskDoneInput) (now : Timestamp) (row : ConfirmationRow) : Bool :=
  row.id = input.humanCommand.confirmNonce ∧ row.taskId = input.taskId ∧
    row.organizationId = input.orgId ∧ row.workspaceId = input.workspaceId ∧
    row.issuedForUserId = input.userId ∧ row.consumedAt = none ∧ now < row.expiresAt

/-- A confirmation that has been used. -/
def ConfirmationRow.consumed (userId reviewId : String) (now : Timestamp) (row : ConfirmationRow) :
    ConfirmationRow :=
  { row with
    consumedAt := some now
    consumedByUserId := some userId
    qualityReviewId := some reviewId }

/-- `markTaskDoneInTransaction`: the gates return before anything is written; a card that
is gone throws. -/
def markTaskDoneInTransaction (input : MarkTaskDoneInput) (env : TaskEnv) (db : TaskDb) :
    Except DomainError (Except DomainError TaskRow × TaskDb) :=
  match selectQualityReview input.orgId input.taskId db with
  | none => .ok (.error taskDoneRequiresApprovedReview, db)
  | some loaded =>
      if loaded.review.workspaceId ≠ input.workspaceId then
        .ok (.error taskDoneRequiresApprovedReview, db)
      else if loaded.review.status ≠ .approved then
        .ok (.error taskDoneRequiresApprovedReview, db)
      else if db.confirmations.any (usable input env.now) then
        match updateTaskRow input.toTaskContext input.taskId
            (TaskRow.moved .done input.position.toNat env.now)
            { db with
              confirmations := updateWhere (usable input env.now)
                (ConfirmationRow.consumed input.userId loaded.review.id env.now)
                db.confirmations } with
        | none => .error taskNotFound
        | some (row, db') => .ok (.ok row, db')
      else .ok (.error taskDoneRequiresHumanAttestation, db)

/-- `markTaskDone`. -/
def markTaskDone (input : MarkTaskDoneInput) (env : TaskEnv) (db : TaskDb) :
    Except DomainError TaskRow × TaskDb :=
  afterChecks (prepareMarkTaskDone input env) (fun _ =>
    withTenant (markTaskDoneInTransaction input env)) db

end Opzava.ProjectManagement
