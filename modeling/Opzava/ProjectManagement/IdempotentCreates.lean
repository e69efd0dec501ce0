import Opzava.Library.KeyedInsert
import Opzava.Library.Patterns
import Opzava.ProjectManagement.DoneAdmission

/-!
The creates of task cards with their idempotency keys (`tasks.ts`).

A key is unique in its organization. A create that uses a key again returns the record that has it:
a card and a quality check are looked up before the insert, and every insert returns the row it
runs into. Other transactions may commit between the two statements, so that the lookup is made in
a snapshot of its own.

* `CardCreate.run`: `createTask`, `createStep`, `addComment` and `addQualityCheck`.
* `createTask_run`, `addQualityCheck_run`: the calls that no other transaction comes between.
* `create_in_scope_iff`: the record that is returned is in the scope of the call if and only if no
  record outside of it has the key.
-/

namespace Opzava.ProjectManagement

open Opzava.Library
open DevBoard (DomainError)

/-! ### Rows -/

/-- A row of `task_steps`. -/
structure StepRow where
  id : String
  taskId : String
  organizationId : String
  workspaceId : String
  text : String
  assigneeUserId : Option String
  done : Bool
  position : ℕ
  idempotencyKey : Option String
  createdAt : Timestamp
  updatedAt : Timestamp

/-- `TaskCommentAuthorKind`. -/
inductive CommentAuthorKind where
  | human | assistant
  deriving DecidableEq

/-- A row of `task_comments`. -/
structure CommentRow where
  id : String
  taskId : String
  organizationId : String
  workspaceId : String
  authorKind : CommentAuthorKind
  authorUserId : Option String
  assistantKey : Option String
  body : String
  idempotencyKey : Option String
  createdAt : Timestamp

/-- The tables of the cards. -/
structure CardTables where
  db : TaskDb
  steps : List StepRow
  comments : List CommentRow

def CardTables.empty : CardTables := ⟨.empty, [], []⟩

/-- What a record belongs to. -/
structure RecordScope where
  organizationId : String
  workspaceId : String
  taskId : Option String
deriving DecidableEq

/-- A key of an organization. -/
abbrev RecordKey := String × String

def TaskRow.scope (row : TaskRow) : RecordScope := ⟨row.organizationId, row.workspaceId, none⟩

def StepRow.scope (row : StepRow) : RecordScope :=
  ⟨row.organizationId, row.workspaceId, some row.taskId⟩

def CommentRow.scope (row : CommentRow) : RecordScope :=
  ⟨row.organizationId, row.workspaceId, some row.taskId⟩

def CheckRow.scope (row : CheckRow) : RecordScope :=
  ⟨row.organizationId, row.workspaceId, some row.taskId⟩

def ReviewRow.scope (row : ReviewRow) : RecordScope :=
  ⟨row.organizationId, row.workspaceId, some row.taskId⟩

/-- The columns of the unique index on the idempotency keys. -/
def recordKey (organizationId : String) (idempotencyKey : Option String) : Option RecordKey :=
  idempotencyKey.map fun key => (organizationId, key)

def TaskRow.key (row : TaskRow) : Option RecordKey :=
  recordKey row.organizationId row.idempotencyKey

def StepRow.key (row : StepRow) : Option RecordKey :=
  recordKey row.organizationId row.idempotencyKey

def CommentRow.key (row : CommentRow) : Option RecordKey :=
  recordKey row.organizationId row.idempotencyKey

def CheckRow.key (row : CheckRow) : Option RecordKey :=
  recordKey row.organizationId row.idempotencyKey

/-! ### Inputs -/

/-- `CreateStepInput`. -/
structure CreateStepInput extends TaskContext where
  taskId : String
  text : String
  assigneeUserId : Option String
  idempotencyKey : Option String

/-- `AddCommentInput`. -/
structure AddCommentInput extends TaskContext where
  taskId : String
  authorKind : Option CommentAuthorKind
  assistantKey : Option String
  body : String
  idempotencyKey : Option String

/-- `normalizeStepText`. -/
def normalizeStepText (value : String) : Except DomainError String :=
  let text := normalizeSpaces value
  if jsLength text = 0 ∨ 500 < jsLength text then
    .error ⟨"projectManagement.invalidTaskStep", "Task step text must be 1-500 characters."⟩
  else .ok text

/-- `normalizeOptionalUserId`. -/
def normalizeOptionalUserId (value : Option String) (field : String) :
    Except DomainError (Option String) :=
  match trimmedOrNull value with
  | none => .ok none
  | some userId =>
      if isOpaqueId userId then .ok (some userId)
      else .error ⟨"projectManagement.invalidUserId", field ++ " must be a valid user id."⟩

/-- `normalizeCommentBody`. -/
def normalizeCommentBody (value : String) : Except DomainError String :=
  let body := String.ofList (jsTrim value.toList)
  if jsLength body = 0 ∨ 4000 < jsLength body then
    .error ⟨"projectManagement.invalidTaskComment",
      "Task comment body must be 1-4000 characters."⟩
  else .ok body

/-- `^[a-z0-9][a-z0-9._-]{1,178}[a-z0-9]$` without regard to the case. -/
def assistantKeyPattern : Pattern :=
  [.start, .chars isAlphanumeric 1 (some 1),
    .chars (fun c => isAlphanumeric c || c = '.' || c = '_' || c = '-') 1 (some 178),
    .chars isAlphanumeric 1 (some 1), .stop]

/-- `normalizeAssistantKey`. -/
def normalizeAssistantKey (value : Option String) : Except DomainError (Option String) :=
  match trimmedOrNull value with
  | none => .ok none
  | some key =>
      if Regex.test [assistantKeyPattern] key.toList then .ok (some key)
      else
        .error ⟨"projectManagement.invalidAssistantKey",
          "Assistant key must be 3-180 safe characters."⟩

/-- A checked `CreateStepInput`. -/
structure PreparedStep where
  text : String
  assigneeUserId : Option String
  idempotencyKey : Option String

/-- The checks of `createStep`. -/
def checkCreateStep (input : CreateStepInput) (env : TaskEnv) :
    Except DomainError PreparedStep := do
  assertKnownIds input.toTaskContext
  assertKnownTaskId input.taskId
  let text ← normalizeStepText input.text
  let assigneeUserId ← normalizeOptionalUserId input.assigneeUserId "Step assignee"
  let idempotencyKey ← normalizeTaskIdempotencyKey input.idempotencyKey
  authorizeTask env.decision
  return ⟨text, assigneeUserId, idempotencyKey⟩

/-- A checked `AddCommentInput`. -/
structure PreparedComment where
  authorKind : CommentAuthorKind
  assistantKey : Option String
  body : String
  idempotencyKey : Option String

/-- The checks of `addComment`. -/
def checkAddComment (input : AddCommentInput) (env : TaskEnv) :
    Except DomainError PreparedComment := do
  assertKnownIds input.toTaskContext
  assertKnownTaskId input.taskId
  let body ← normalizeCommentBody input.body
  let authorKind := input.authorKind.getD .human
  let assistantKey ← normalizeAssistantKey input.assistantKey
  if authorKind = .assistant ∧ assistantKey = none then
    throw ⟨"projectManagement.invalidCommentAuthor",
      "Assistant comments require an assistant key."⟩
  let idempotencyKey ← normalizeTaskIdempotencyKey input.idempotencyKey
  authorizeTask env.decision
  return ⟨authorKind, assistantKey, body, idempotencyKey⟩

/-! ### Transactions -/

/-- What a create returns; of a quality check also the check it reports on. -/
inductive Created
  | task (row : TaskRow)
  | step (row : StepRow)
  | comment (row : CommentRow)
  | review (loaded : QualityReview) (check : CheckRow)

/-- The transaction of `createTask`: the attempt that decides, with the lookup in the snapshot. The
insert fails on an id in use, and on a card number taken in the workspace. -/
def createTaskAt (snapshot : CardTables) (context : TaskContext) (env : TaskEnv)
    (checked : TaskStatus × PreparedTaskFields × Option String) (tables : CardTables) :
    Except DomainError (Except DomainError Created × CardTables) :=
  let (status, fields, idempotencyKey) := checked
  match findKey TaskRow.key (recordKey context.orgId idempotencyKey) snapshot.db.tasks with
  | some replay => .ok (.ok (.task replay), tables)
  | none =>
      let task := newTask context env status fields idempotencyKey tables.db.tasks
      let clashes (row : TaskRow) : Bool :=
        row.id = task.id ∨ (row.workspaceId = task.workspaceId ∧ row.cardNumber = task.cardNumber)
      match upsert TaskRow.key clashes task tables.db.tasks with
      | none => .error databaseError
      | some (row, tasks) =>
          .ok (.ok (.task row), { tables with db := { tables.db with tasks := tasks } })

/-- The new step. -/
def newStep (context : TaskContext) (taskId : String) (env : TaskEnv) (step : PreparedStep)
    (steps : List StepRow) : StepRow where
  id := env.newId
  taskId := taskId
  organizationId := context.orgId
  workspaceId := context.workspaceId
  text := step.text
  assigneeUserId := step.assigneeUserId
  done := false
  position := maxOrZero ((steps.filter fun row => row.taskId = taskId ∧
    row.organizationId = context.orgId).map (·.position)) + 1
  idempotencyKey := step.idempotencyKey
  createdAt := env.now
  updatedAt := env.now

def stepCreateFailed : DomainError :=
  ⟨"projectManagement.stepCreateFailed", "Task step could not be created."⟩

/-- The transaction of `createStep`. -/
def createStepTx (context : TaskContext) (taskId : String) (env : TaskEnv) (step : PreparedStep)
    (tables : CardTables) : Except DomainError (Except DomainError Created × CardTables) :=
  if tables.db.tasks.any (isTask context taskId) then
    match upsert StepRow.key (fun row => row.id = env.newId)
        (newStep context taskId env step tables.steps) tables.steps with
    | none => .error stepCreateFailed
    | some (row, steps) => .ok (.ok (.step row), { tables with steps := steps })
  else .ok (.error taskNotFound, tables)

/-- The new comment. -/
def newComment (context : TaskContext) (taskId : String) (env : TaskEnv)
    (comment : PreparedComment) : CommentRow where
  id := env.newId
  taskId := taskId
  organizationId := context.orgId
  workspaceId := context.workspaceId
  authorKind := comment.authorKind
  authorUserId := if comment.authorKind = .human then some context.userId else none
  assistantKey := if comment.authorKind = .assistant then comment.assistantKey else none
  body := comment.body
  idempotencyKey := comment.idempotencyKey
  createdAt := env.now

def commentCreateFailed : DomainError :=
  ⟨"projectManagement.commentCreateFailed", "Task comment could not be added."⟩

/-- The transaction of `addComment`. -/
def addCommentTx (context : TaskContext) (taskId : String) (env : TaskEnv)
    (comment : PreparedComment) (tables : CardTables) :
    Except DomainError (Except DomainError Created × CardTables) :=
  if tables.db.tasks.any (isTask context taskId) then
    match upsert CommentRow.key (fun row => row.id = env.newId)
        (newComment context taskId env comment) tables.comments with
    | none => .error commentCreateFailed
    | some (row, comments) => .ok (.ok (.comment row), { tables with comments := comments })
  else .ok (.error taskNotFound, tables)

/-- The review of a task, loaded for a check. -/
def loadReported (orgId taskId : String) (check : CheckRow) (tables : CardTables) :
    Except DomainError (Except DomainError Created × CardTables) :=
  match selectQualityReview orgId taskId tables.db with
  | none => .ok (.error qualityReviewLoadFailed, tables)
  | some loaded => .ok (.ok (.review loaded check), tables)

/-- The transaction of `addQualityCheck`, with the lookup in the snapshot. The review that is loaded
is the one of the task of the row the insert returns. -/
def addQualityCheckAt (snapshot : CardTables) (context : TaskContext) (taskId : String)
    (env : TaskEnv) (check : PreparedCheck) (tables : CardTables) :
    Except DomainError (Except DomainError Created × CardTables) :=
  if tables.db.tasks.any (isTask context taskId) then
    match ensureQualityReview context taskId env tables.db with
    | .error thrown => .error thrown
    | .ok (review, db) =>
        match findKey CheckRow.key (recordKey context.orgId check.idempotencyKey)
            snapshot.db.checks with
        | some replay => loadReported context.orgId taskId replay { tables with db := db }
        | none =>
            if review.status = .approved then
              .ok (.error approvedReviewConflict, { tables with db := db })
            else
              match upsert CheckRow.key (fun row => row.id = env.newId)
                  (newCheck context taskId env check review) db.checks with
              | none => .error databaseError
              | some (row, checks) =>
                  loadReported context.orgId row.taskId row
                    { tables with db := { db with checks := checks } }
  else .ok (.error taskNotFound, tables)

/-! ### Calls -/

inductive CardCreate
  | createTask (input : CreateTaskInput) (env : TaskEnv)
  | createStep (input : CreateStepInput) (env : TaskEnv)
  | addComment (input : AddCommentInput) (env : TaskEnv)
  | addQualityCheck (input : AddQualityCheckInput) (env : TaskEnv)

namespace CardCreate

/-- The result of a call and the tables after it. -/
def run (snapshot tables : CardTables) : CardCreate → Except DomainError Created × CardTables
  | .createTask input env =>
      afterChecks (checkCreateTask input env)
        (fun checked => withTenant (createTaskAt snapshot input.toTaskContext env checked)) tables
  | .createStep input env =>
      afterChecks (checkCreateStep input env)
        (fun step => withTenant (createStepTx input.toTaskContext input.taskId env step)) tables
  | .addComment input env =>
      afterChecks (checkAddComment input env)
        (fun comment => withTenant (addCommentTx input.toTaskContext input.taskId env comment))
        tables
  | .addQualityCheck input env =>
      afterChecks (checkAddQualityCheck input env)
        (fun check => withTenant
          (addQualityCheckAt snapshot input.toTaskContext input.taskId env check)) tables

/-- The scope of the input. -/
def scope : CardCreate → RecordScope
  | .createTask input _ => ⟨input.orgId, input.workspaceId, none⟩
  | .createStep input _ => ⟨input.orgId, input.workspaceId, some input.taskId⟩
  | .addComment input _ => ⟨input.orgId, input.workspaceId, some input.taskId⟩
  | .addQualityCheck input _ => ⟨input.orgId, input.workspaceId, some input.taskId⟩

/-- The key of the input. -/
def inputKey : CardCreate → Option String
  | .createTask input _ => input.idempotencyKey
  | .createStep input _ => input.idempotencyKey
  | .addComment input _ => input.idempotencyKey
  | .addQualityCheck input _ => input.idempotencyKey

/-- The key of the record, when the input has one. -/
def key (call : CardCreate) : Option RecordKey :=
  match normalizeTaskIdempotencyKey call.inputKey with
  | .ok key => recordKey call.scope.organizationId key
  | .error _ => none

/-- The records of the table of the call, by their keys and scopes. -/
def records (tables : CardTables) : CardCreate → List (Option RecordKey × RecordScope)
  | .createTask _ _ => tables.db.tasks.map fun row => (row.key, row.scope)
  | .createStep _ _ => tables.steps.map fun row => (row.key, row.scope)
  | .addComment _ _ => tables.comments.map fun row => (row.key, row.scope)
  | .addQualityCheck _ _ => tables.db.checks.map fun row => (row.key, row.scope)

/-- A record outside of the scope of the call has its key. -/
def KeyIsForeign (call : CardCreate) (tables : CardTables) : Prop :=
  ∃ k, call.key = some k ∧ ∃ record ∈ call.records tables, record.1 = some k ∧
    record.2 ≠ call.scope

end CardCreate

/-- What a create returns is in a scope; of a quality check the review, and the check. -/
def Created.InScope (created : Created) (scope : RecordScope) : Prop :=
  match created with
  | .task row => row.scope = scope
  | .step row => row.scope = scope
  | .comment row => row.scope = scope
  | .review loaded check => loaded.review.scope = scope ∧ check.scope = scope

/-! ### Calls that nothing comes between -/

section Undivided

variable {context : TaskContext} {env : TaskEnv} {taskId : String} {tables : CardTables}

/-- A key of the organization is the key of a row if the columns are the same. -/
lemma recordKey_eq_iff {orgId orgId' : String} {key key' : Option String} :
    (recordKey orgId key ≠ none ∧ recordKey orgId' key' = recordKey orgId key) ↔
      (key ≠ none ∧ orgId' = orgId ∧ key' = key) := by
  cases key with
  | none => simp [recordKey]
  | some k =>
      cases key' with
      | none => simp [recordKey]
      | some k' => simp [recordKey]

lemma findKey_tasks (orgId : String) (key : Option String) (tasks : List TaskRow) :
    findKey TaskRow.key (recordKey orgId key) tasks = tasks.find? fun row =>
      key ≠ none ∧ row.organizationId = orgId ∧ row.idempotencyKey = key := by
  refine congrArg (List.find? · tasks) (funext fun row => ?_)
  exact decide_eq_decide.mpr recordKey_eq_iff

lemma findKey_checks (orgId : String) (key : Option String) (checks : List CheckRow) :
    findKey CheckRow.key (recordKey orgId key) checks = checks.find? fun row =>
      key ≠ none ∧ row.organizationId = orgId ∧ row.idempotencyKey = key := by
  refine congrArg (List.find? · checks) (funext fun row => ?_)
  exact decide_eq_decide.mpr recordKey_eq_iff

/-- An insert that runs into no row. -/
lemma upsert_of_none {ρ : Type} {key : ρ → Option RecordKey} {clashes : ρ → Bool} {row : ρ}
    {rows : List ρ} (h : findKey key (key row) rows = none) : upsert key clashes row rows =
      if rows.any clashes then none else some (row, rows ++ [row]) := by
  rw [upsert, h]

lemma createTaskAt_self (context : TaskContext) (env : TaskEnv)
    (checked : TaskStatus × PreparedTaskFields × Option String) (tables : CardTables) :
    createTaskAt tables context env checked tables =
      (createTaskOnce context env checked.1 checked.2.1 checked.2.2 tables.db).map fun outcome =>
        (outcome.1.map Created.task, { tables with db := outcome.2 }) := by
  obtain ⟨status, fields, idempotencyKey⟩ := checked
  unfold createTaskAt createTaskOnce
  dsimp only
  rw [← findKey_tasks]
  cases h : findKey TaskRow.key (recordKey context.orgId idempotencyKey) tables.db.tasks with
  | some replay => rfl
  | none =>
      have hnew : findKey TaskRow.key
          (newTask context env status fields idempotencyKey tables.db.tasks).key tables.db.tasks =
          none := h
      rw [upsert_of_none hnew]
      dsimp only
      split_ifs
      · rfl
      · rfl

/-- Two commands with the same checks whose transactions show the same have results that do. -/
lemma afterChecks_map {σ τ α β γ δ : Type} (checks : Except DomainError γ)
    {body : γ → σ → Except DomainError (Except DomainError α × σ)}
    {body' : γ → τ → Except DomainError (Except DomainError β × τ)} (f : α → δ) (f' : β → δ)
    (g : σ → τ) {s : σ}
    (h : ∀ checked, (body' checked (g s)).map (fun outcome => (outcome.1.map f', outcome.2)) =
      (body checked s).map fun outcome => (outcome.1.map f, g outcome.2)) :
    ((afterChecks checks (fun checked => withTenant (body' checked)) (g s)).1.map f',
        (afterChecks checks (fun checked => withTenant (body' checked)) (g s)).2) =
      ((afterChecks checks (fun checked => withTenant (body checked)) s).1.map f,
        g (afterChecks checks (fun checked => withTenant (body checked)) s).2) := by
  cases checks with
  | error error => rfl
  | ok checked =>
      have hchecked := h checked
      simp only [afterChecks, withTenant]
      cases hbody : body checked s with
      | error thrown =>
          cases hbody' : body' checked (g s) with
          | error thrown' =>
              rw [hbody, hbody'] at hchecked
              obtain rfl := Except.error.inj hchecked
              rfl
          | ok outcome' =>
              rw [hbody, hbody'] at hchecked
              cases hchecked
      | ok outcome =>
          cases hbody' : body' checked (g s) with
          | error thrown' =>
              rw [hbody, hbody'] at hchecked
              cases hchecked
          | ok outcome' =>
              rw [hbody, hbody'] at hchecked
              exact Except.ok.inj hchecked

/-- The card that a create returns. -/
def Created.card : Created → Option TaskRow
  | .task row => some row
  | _ => none

/-- **The call of `createTask`** is the one of the cards alone. -/
lemma createTask_run (input : CreateTaskInput) (env : TaskEnv) (tables : CardTables) :
    (((CardCreate.createTask input env).run tables tables).1.map Created.card,
        ((CardCreate.createTask input env).run tables tables).2) =
      ((createTask input env tables.db).1.map some,
        { tables with db := (createTask input env tables.db).2 }) := by
  refine afterChecks_map (checkCreateTask input env) some Created.card
    (fun db => ({ tables with db := db } : CardTables)) fun checked => ?_
  rw [createTaskAt_self]
  cases createTaskOnce input.toTaskContext env checked.1 checked.2.1 checked.2.2 tables.db with
  | error thrown => rfl
  | ok outcome =>
      obtain ⟨result, db⟩ := outcome
      cases result with
      | error error => rfl
      | ok row => rfl

/-- The review that a create returns. -/
def Created.loaded : Created → Option QualityReview
  | .review loaded _ => some loaded
  | _ => none

lemma ensureQualityReview_checks {review : ReviewRow} {db db' : TaskDb}
    (h : ensureQualityReview context taskId env db = .ok (review, db')) :
    db'.checks = db.checks ∧ db'.tasks = db.tasks := by
  unfold ensureQualityReview at h
  split at h
  · cases h
    exact ⟨rfl, rfl⟩
  · split at h
    · split_ifs at h
      cases h
      exact ⟨rfl, rfl⟩
    · split_ifs at h
      cases h
      exact ⟨rfl, rfl⟩

lemma loadReported_loaded (orgId taskId : String) (check : CheckRow) (tables : CardTables) :
    (loadReported orgId taskId check tables).map (fun outcome =>
        (outcome.1.map Created.loaded, outcome.2)) =
      (loadQualityReview orgId taskId tables.db).map fun outcome =>
        (outcome.1.map some, { tables with db := outcome.2 }) := by
  unfold loadReported loadQualityReview
  cases selectQualityReview orgId taskId tables.db with
  | none => rfl
  | some loaded => rfl

lemma addQualityCheckAt_self (context : TaskContext) (taskId : String) (env : TaskEnv)
    (check : PreparedCheck) (tables : CardTables) :
    (addQualityCheckAt tables context taskId env check tables).map (fun outcome =>
        (outcome.1.map Created.loaded, outcome.2)) =
      (addQualityCheckTx context taskId env check tables.db).map fun outcome =>
        (outcome.1.map some, { tables with db := outcome.2 }) := by
  unfold addQualityCheckAt addQualityCheckTx
  by_cases htask : tables.db.tasks.any (isTask context taskId) = true
  · rw [if_pos htask, if_pos htask]
    cases hensure : ensureQualityReview context taskId env tables.db with
    | error thrown => rfl
    | ok ensured =>
        obtain ⟨review, db⟩ := ensured
        have hchecks := (ensureQualityReview_checks hensure).1
        have hany : (db.checks.any fun row => decide (check.idempotencyKey ≠ none ∧
              row.organizationId = context.orgId ∧ row.idempotencyKey = check.idempotencyKey)) =
            (findKey CheckRow.key (recordKey context.orgId check.idempotencyKey)
              tables.db.checks).isSome := by
          rw [findKey_checks, hchecks]
          exact Bool.eq_iff_iff.mpr (by rw [List.any_eq_true, List.find?_isSome])
        dsimp only
        rw [hany]
        cases hfind : findKey CheckRow.key (recordKey context.orgId check.idempotencyKey)
            tables.db.checks with
        | some replay => exact loadReported_loaded context.orgId taskId replay _
        | none =>
            have hnew : findKey CheckRow.key (newCheck context taskId env check review).key
                db.checks = none := by
              rw [hchecks]
              exact hfind
            have hunused : ¬ (none : Option CheckRow).isSome = true := Bool.false_ne_true
            dsimp only
            rw [upsert_of_none hnew, if_neg hunused]
            by_cases happroved : review.status = .approved
            · rw [if_pos happroved, if_pos happroved]
              rfl
            · rw [if_neg happroved, if_neg happroved]
              by_cases hclash : env.newId ∈ db.checks.map (·.id)
              · have hany' : (db.checks.any fun row => decide (row.id = env.newId)) = true := by
                  obtain ⟨row, hrow, hid⟩ := List.mem_map.mp hclash
                  exact List.any_eq_true.mpr ⟨row, hrow, decide_eq_true hid⟩
                rw [if_pos hclash, if_pos hany']
                rfl
              · have hany' : ¬ (db.checks.any fun row => decide (row.id = env.newId)) = true := by
                  rw [List.any_eq_true]
                  rintro ⟨row, hrow, hid⟩
                  exact hclash (List.mem_map.mpr ⟨row, hrow, of_decide_eq_true hid⟩)
                rw [if_neg hclash, if_neg hany']
                exact loadReported_loaded context.orgId taskId _ _
  · rw [if_neg htask, if_neg htask]
    rfl

/-- **The call of `addQualityCheck`** is the one of the reviews alone. -/
lemma addQualityCheck_run (input : AddQualityCheckInput) (env : TaskEnv) (tables : CardTables) :
    (((CardCreate.addQualityCheck input env).run tables tables).1.map Created.loaded,
        ((CardCreate.addQualityCheck input env).run tables tables).2) =
      ((addQualityCheck input env tables.db).1.map some,
        { tables with db := (addQualityCheck input env tables.db).2 }) :=
  afterChecks_map (checkAddQualityCheck input env) some Created.loaded
    (fun db => ({ tables with db := db } : CardTables))
    fun check => addQualityCheckAt_self input.toTaskContext input.taskId env check tables

end Undivided

/-! ### Reachable tables -/

/-- The statements of the other commands, of the tables that creates read: updates that leave the
ids, the scopes and the keys alone, and the insert of a review for a card. -/
inductive CardWrite (tables : CardTables) : CardTables → Prop
  | updateTasks (set : TaskRow → TaskRow) (same : ∀ row, (set row).id = row.id ∧
      (set row).scope = row.scope ∧ (set row).key = row.key) :
      CardWrite tables { tables with db := { tables.db with tasks := tables.db.tasks.map set } }
  | updateSteps (set : StepRow → StepRow)
      (same : ∀ row, (set row).scope = row.scope ∧ (set row).key = row.key) :
      CardWrite tables { tables with steps := tables.steps.map set }
  | updateReviews (set : ReviewRow → ReviewRow) (same : ∀ row, (set row).scope = row.scope) :
      CardWrite tables { tables with db := { tables.db with reviews := tables.db.reviews.map set } }
  | updateChecks (set : CheckRow → CheckRow)
      (same : ∀ row, (set row).scope = row.scope ∧ (set row).key = row.key) :
      CardWrite tables { tables with db := { tables.db with checks := tables.db.checks.map set } }
  | ensureReview (context : TaskContext) (taskId : String) (env : TaskEnv) (review : ReviewRow)
      (db : TaskDb) (task : tables.db.tasks.any (isTask context taskId) = true)
      (ensured : ensureQualityReview context taskId env tables.db = .ok (review, db)) :
      CardWrite tables { tables with db := db }
  | others (reviewers : List ReviewerRow) (confirmations : List ConfirmationRow) :
      CardWrite tables { tables with
        db := { tables.db with
          reviewers := reviewers
          confirmations := confirmations } }

/-- A create, with its lookup in any snapshot, or another write. -/
inductive CardStep (tables : CardTables) : CardTables → Prop
  | create (call : CardCreate) (snapshot : CardTables) :
      CardStep tables (call.run snapshot tables).2
  | write (tables' : CardTables) (h : CardWrite tables tables') : CardStep tables tables'

/-- The tables a run comes to from others. -/
abbrev CardSteps : CardTables → CardTables → Prop := Relation.ReflTransGen CardStep

/-- The tables a run can reach. -/
def CardReachable (tables : CardTables) : Prop := CardSteps .empty tables

/-- What holds of the tables: keys and the ids of cards are unique, and a review is one of a card in
its workspace. -/
structure CardOk (tables : CardTables) : Prop where
  taskKeys : UniqueKeys TaskRow.key tables.db.tasks
  stepKeys : UniqueKeys StepRow.key tables.steps
  commentKeys : UniqueKeys CommentRow.key tables.comments
  checkKeys : UniqueKeys CheckRow.key tables.db.checks
  taskIds : (tables.db.tasks.map (·.id)).Nodup
  reviews : ∀ review ∈ tables.db.reviews, ∃ task ∈ tables.db.tasks, task.id = review.taskId ∧
    task.scope = ⟨review.organizationId, review.workspaceId, none⟩

/-- The cards and the checks stay, with their scopes and keys. -/
structure CardKept (tables tables' : CardTables) : Prop where
  tasks : ∀ row ∈ tables.db.tasks, ∃ row' ∈ tables'.db.tasks, row'.id = row.id ∧
    row'.scope = row.scope ∧ row'.key = row.key
  checks : ∀ row ∈ tables.db.checks, ∃ row' ∈ tables'.db.checks, row'.scope = row.scope ∧
    row'.key = row.key

/-- What a step does: the tables stay in order, and the cards and the checks stay. -/
structure CardEffect (tables tables' : CardTables) : Prop where
  ok : CardOk tables → CardOk tables'
  kept : CardKept tables tables'

section Reachable

variable {tables tables' tables'' : CardTables} {context : TaskContext} {taskId : String}
  {env : TaskEnv} {snapshot : CardTables}

lemma CardKept.refl (tables : CardTables) : CardKept tables tables :=
  ⟨fun row hrow => ⟨row, hrow, rfl, rfl, rfl⟩, fun row hrow => ⟨row, hrow, rfl, rfl⟩⟩

lemma CardKept.trans (h : CardKept tables tables') (h' : CardKept tables' tables'') :
    CardKept tables tables'' := by
  refine ⟨fun row hrow => ?_, fun row hrow => ?_⟩
  · obtain ⟨row', hrow', hid, hscope, hkey⟩ := h.tasks row hrow
    obtain ⟨row'', hrow'', hid', hscope', hkey'⟩ := h'.tasks row' hrow'
    exact ⟨row'', hrow'', hid'.trans hid, hscope'.trans hscope, hkey'.trans hkey⟩
  · obtain ⟨row', hrow', hscope, hkey⟩ := h.checks row hrow
    obtain ⟨row'', hrow'', hscope', hkey'⟩ := h'.checks row' hrow'
    exact ⟨row'', hrow'', hscope'.trans hscope, hkey'.trans hkey⟩

lemma CardEffect.refl (tables : CardTables) : CardEffect tables tables := ⟨id, .refl tables⟩

lemma CardEffect.trans (h : CardEffect tables tables') (h' : CardEffect tables' tables'') :
    CardEffect tables tables'' :=
  ⟨fun hok => h'.ok (h.ok hok), h.kept.trans h'.kept⟩

/-- The card that is there for a task. -/
lemma exists_isTask (h : tables.db.tasks.any (isTask context taskId) = true) :
    ∃ task ∈ tables.db.tasks, task.id = taskId ∧
      task.scope = ⟨context.orgId, context.workspaceId, none⟩ := by
  obtain ⟨task, htask, his⟩ := List.any_eq_true.mp h
  obtain ⟨hid, hworkspace, horganization⟩ := of_decide_eq_true his
  exact ⟨task, htask, hid, by rw [TaskRow.scope, hworkspace, horganization]⟩

/-- The review of a card is ensured. -/
lemma ensureReview_effect {review : ReviewRow} {db : TaskDb}
    (htask : tables.db.tasks.any (isTask context taskId) = true)
    (h : ensureQualityReview context taskId env tables.db = .ok (review, db)) :
    CardEffect tables { tables with db := db } := by
  unfold ensureQualityReview at h
  split at h
  · cases h
    exact .refl tables
  · split at h
    · split_ifs at h
      cases h
      exact .refl tables
    · split_ifs at h
      cases h
      refine ⟨fun hok => { hok with reviews := fun review hreview => ?_ }, ⟨?_, ?_⟩⟩
      · rcases List.mem_append.mp hreview with hold | hlast
        · exact hok.reviews review hold
        · obtain rfl := List.mem_singleton.mp hlast
          exact exists_isTask htask
      · exact (CardKept.refl tables).tasks
      · exact (CardKept.refl tables).checks

/-- A step is inserted. -/
lemma insertStep_effect {clashes : StepRow → Bool} {step row : StepRow} {steps : List StepRow}
    (h : upsert StepRow.key clashes step tables.steps = some (row, steps)) :
    CardEffect tables { tables with steps := steps } :=
  ⟨fun hok => { hok with stepKeys := hok.stepKeys.upsert h },
    ⟨(CardKept.refl tables).tasks, (CardKept.refl tables).checks⟩⟩

/-- A comment is inserted. -/
lemma insertComment_effect {clashes : CommentRow → Bool} {comment row : CommentRow}
    {comments : List CommentRow}
    (h : upsert CommentRow.key clashes comment tables.comments = some (row, comments)) :
    CardEffect tables { tables with comments := comments } :=
  ⟨fun hok => { hok with commentKeys := hok.commentKeys.upsert h },
    ⟨(CardKept.refl tables).tasks, (CardKept.refl tables).checks⟩⟩

/-- The rows from before an insert are there after it. -/
lemma mem_of_upsert {ρ : Type} {key : ρ → Option RecordKey} {clashes : ρ → Bool} {row row' : ρ}
    {rows rows' : List ρ} (h : upsert key clashes row rows = some (row', rows')) {r : ρ}
    (hr : r ∈ rows) : r ∈ rows' := by
  rcases upsert_cases h with ⟨-, -, -, heq⟩ | ⟨heq, -, -⟩
  · rw [show rows' = rows from heq]
    exact hr
  · obtain ⟨-, rfl⟩ := Prod.mk.inj heq
    exact List.mem_append_left _ hr

/-- A check is inserted. -/
lemma insertCheck_effect {clashes : CheckRow → Bool} {check row : CheckRow}
    {checks : List CheckRow}
    (h : upsert CheckRow.key clashes check tables.db.checks = some (row, checks)) :
    CardEffect tables { tables with db := { tables.db with checks := checks } } :=
  ⟨fun hok => { hok with checkKeys := hok.checkKeys.upsert h },
    ⟨(CardKept.refl tables).tasks, fun row hrow => ⟨row, mem_of_upsert h hrow, rfl, rfl⟩⟩⟩

/-- A card is inserted, under an id of its own. -/
lemma insertTask_effect {clashes : TaskRow → Bool} {task row : TaskRow} {tasks : List TaskRow}
    (hclashes : ∀ old, clashes old = false → old.id ≠ task.id)
    (h : upsert TaskRow.key clashes task tables.db.tasks = some (row, tasks)) :
    CardEffect tables { tables with db := { tables.db with tasks := tasks } } := by
  have hmem : ∀ old ∈ tables.db.tasks, old ∈ tasks := fun old hold => mem_of_upsert h hold
  refine ⟨fun hok => { hok with
      taskKeys := hok.taskKeys.upsert h
      taskIds := ?_
      reviews := fun review hreview => ?_ },
    ⟨fun old hold => ⟨old, hmem old hold, rfl, rfl, rfl⟩, (CardKept.refl tables).checks⟩⟩
  · rcases upsert_cases h with ⟨-, -, -, heq⟩ | ⟨heq, -, hfree⟩
    · rw [show tasks = tables.db.tasks from heq]
      exact hok.taskIds
    · obtain ⟨-, rfl⟩ := Prod.mk.inj heq
      exact nodup_map_append hok.taskIds fun old hold => hclashes old (hfree old hold)
  · obtain ⟨old, hold, hid, hscope⟩ := hok.reviews review hreview
    exact ⟨old, hmem old hold, hid, hscope⟩

/-! ### Effects -/

lemma createTaskAt_effect {checked : TaskStatus × PreparedTaskFields × Option String}
    {outcome : Except DomainError Created × CardTables}
    (h : createTaskAt snapshot context env checked tables = .ok outcome) :
    CardEffect tables outcome.2 := by
  obtain ⟨status, fields, idempotencyKey⟩ := checked
  unfold createTaskAt at h
  dsimp only at h
  split at h
  · cases h
    exact .refl tables
  · split at h
    · cases h
    · next hupsert =>
        cases h
        refine insertTask_effect (fun old hold hid => ?_) hupsert
        exact absurd (decide_eq_true (.inl hid)) (Bool.eq_false_iff.mp hold)

lemma createStepTx_effect {step : PreparedStep} {outcome : Except DomainError Created × CardTables}
    (h : createStepTx context taskId env step tables = .ok outcome) :
    CardEffect tables outcome.2 := by
  unfold createStepTx at h
  split_ifs at h
  · split at h
    · cases h
    · next hupsert =>
        cases h
        exact insertStep_effect hupsert
  · cases h
    exact .refl tables

lemma addCommentTx_effect {comment : PreparedComment}
    {outcome : Except DomainError Created × CardTables}
    (h : addCommentTx context taskId env comment tables = .ok outcome) :
    CardEffect tables outcome.2 := by
  unfold addCommentTx at h
  split_ifs at h
  · split at h
    · cases h
    · next hupsert =>
        cases h
        exact insertComment_effect hupsert
  · cases h
    exact .refl tables

lemma loadReported_tables {orgId : String} {check : CheckRow}
    {outcome : Except DomainError Created × CardTables}
    (h : loadReported orgId taskId check tables = .ok outcome) : outcome.2 = tables := by
  unfold loadReported at h
  split at h
  · cases h
    rfl
  · cases h
    rfl

lemma addQualityCheckAt_effect {check : PreparedCheck}
    {outcome : Except DomainError Created × CardTables}
    (h : addQualityCheckAt snapshot context taskId env check tables = .ok outcome) :
    CardEffect tables outcome.2 := by
  unfold addQualityCheckAt at h
  split_ifs at h with htask
  · split at h
    · cases h
    · next review db hensure =>
        have hensured := ensureReview_effect htask hensure
        split at h
        · rw [loadReported_tables h]
          exact hensured
        · split_ifs at h
          · cases h
            exact hensured
          · split at h
            · cases h
            · next hupsert =>
                rw [loadReported_tables h]
                have hinserted : CardEffect { tables with db := db } _ := insertCheck_effect hupsert
                exact hensured.trans hinserted
  · cases h
    exact .refl tables

/-- A command has the effect of its transaction. -/
lemma command_effect {γ : Type} (checks : Except DomainError γ)
    {body : γ → CardTables → Except DomainError (Except DomainError Created × CardTables)}
    (h : ∀ checked outcome, body checked tables = .ok outcome → CardEffect tables outcome.2) :
    CardEffect tables (afterChecks checks (fun checked => withTenant (body checked)) tables).2 := by
  rcases command_cases checks body tables with ⟨error, heq⟩ | ⟨checked, outcome, -, hbody, heq⟩
  · rw [heq]
    exact .refl tables
  · rw [heq]
    exact h checked outcome hbody

/-- **A create** leaves the tables in order. -/
lemma cardCreate_effect (call : CardCreate) (snapshot tables : CardTables) :
    CardEffect tables (call.run snapshot tables).2 := by
  cases call with
  | createTask input env => exact command_effect _ fun _ _ => createTaskAt_effect
  | createStep input env => exact command_effect _ fun _ _ => createStepTx_effect
  | addComment input env => exact command_effect _ fun _ _ => addCommentTx_effect
  | addQualityCheck input env => exact command_effect _ fun _ _ => addQualityCheckAt_effect

/-- **Another write** leaves the tables in order. -/
lemma CardWrite.effect (h : CardWrite tables tables') : CardEffect tables tables' := by
  cases h with
  | updateTasks set same =>
      refine ⟨fun hok => { hok with
          taskKeys := hok.taskKeys.map fun row => (same row).2.2
          taskIds := ?_
          reviews := fun review hreview => ?_ },
        ⟨fun row hrow => ⟨set row, List.mem_map_of_mem hrow, same row⟩,
          (CardKept.refl tables).checks⟩⟩
      · have hids : tables.db.tasks.map ((·.id) ∘ set) = tables.db.tasks.map (·.id) :=
          List.map_congr_left fun row _ => (same row).1
        rw [List.map_map, hids]
        exact hok.taskIds
      · obtain ⟨task, htask, hid, hscope⟩ := hok.reviews review hreview
        exact ⟨set task, List.mem_map_of_mem htask, (same task).1.trans hid,
          (same task).2.1.trans hscope⟩
  | updateSteps set same =>
      exact ⟨fun hok => { hok with stepKeys := hok.stepKeys.map fun row => (same row).2 },
        ⟨(CardKept.refl tables).tasks, (CardKept.refl tables).checks⟩⟩
  | updateReviews set same =>
      refine ⟨fun hok => { hok with reviews := fun review hreview => ?_ },
        ⟨(CardKept.refl tables).tasks, (CardKept.refl tables).checks⟩⟩
      obtain ⟨old, hold, rfl⟩ := List.mem_map.mp hreview
      obtain ⟨task, htask, hid, hscope⟩ := hok.reviews old hold
      obtain ⟨horganization, hworkspace, htaskId⟩ := RecordScope.mk.inj (same old)
      exact ⟨task, htask, hid.trans (Option.some.inj htaskId).symm,
        by rw [hscope, horganization, hworkspace]⟩
  | updateChecks set same =>
      exact ⟨fun hok => { hok with checkKeys := hok.checkKeys.map fun row => (same row).2 },
        ⟨(CardKept.refl tables).tasks, fun row hrow =>
          ⟨set row, List.mem_map_of_mem hrow, same row⟩⟩⟩
  | ensureReview context taskId env review db task ensured => exact ensureReview_effect task ensured
  | others reviewers confirmations =>
      exact ⟨fun hok => { hok with }, ⟨(CardKept.refl tables).tasks, (CardKept.refl tables).checks⟩⟩

lemma CardSteps.effect (h : CardSteps tables tables') : CardEffect tables tables' := by
  induction h with
  | refl => exact .refl tables
  | tail _ hstep ih =>
      cases hstep with
      | create call snapshot => exact ih.trans (cardCreate_effect call snapshot _)
      | write tables'' hwrite => exact ih.trans hwrite.effect

lemma cardOk_empty : CardOk .empty :=
  ⟨uniqueKeys_nil, uniqueKeys_nil, uniqueKeys_nil, uniqueKeys_nil, List.nodup_nil,
    fun _ h => absurd h List.not_mem_nil⟩

end Reachable

/-! ### The scope of what is returned -/

section Scope

variable {snapshot tables tables' : CardTables} {context : TaskContext} {taskId : String}
  {env : TaskEnv} {created : Created}

/-- The scope of a card, or of a record on one. -/
def TaskContext.scopeOf (context : TaskContext) (taskId : Option String) : RecordScope :=
  ⟨context.orgId, context.workspaceId, taskId⟩

lemma createTaskAt_inScope {checked : TaskStatus × PreparedTaskFields × Option String}
    (hok : CardOk tables) (hkept : CardKept snapshot tables)
    (h : createTaskAt snapshot context env checked tables = .ok (.ok created, tables')) :
    created.InScope (context.scopeOf none) ↔ ∀ row ∈ tables.db.tasks, ∀ k,
      recordKey context.orgId checked.2.2 = some k → row.key = some k →
        row.scope = context.scopeOf none := by
  obtain ⟨status, fields, idempotencyKey⟩ := checked
  unfold createTaskAt at h
  dsimp only at h
  split at h
  · next replay hfind =>
      cases h
      refine findKey_same_iff (·.scope = context.scopeOf none) hok.taskKeys (fun row hrow => ?_)
        hfind
      obtain ⟨row', hrow', -, hscope, hkey⟩ := hkept.tasks row hrow
      exact ⟨row', hrow', hkey, by rw [hscope]⟩
  · split at h
    · cases h
    · next hupsert =>
        cases h
        exact upsert_same_iff (·.scope = context.scopeOf none) hok.taskKeys hupsert rfl

lemma createStepTx_inScope {step : PreparedStep} (hok : CardOk tables)
    (h : createStepTx context taskId env step tables = .ok (.ok created, tables')) :
    created.InScope (context.scopeOf taskId) ↔ ∀ row ∈ tables.steps, ∀ k,
      recordKey context.orgId step.idempotencyKey = some k → row.key = some k →
        row.scope = context.scopeOf taskId := by
  unfold createStepTx at h
  split_ifs at h
  · split at h
    · cases h
    · next hupsert =>
        cases h
        exact upsert_same_iff (·.scope = context.scopeOf taskId) hok.stepKeys hupsert rfl
  · cases h

lemma addCommentTx_inScope {comment : PreparedComment} (hok : CardOk tables)
    (h : addCommentTx context taskId env comment tables = .ok (.ok created, tables')) :
    created.InScope (context.scopeOf taskId) ↔ ∀ row ∈ tables.comments, ∀ k,
      recordKey context.orgId comment.idempotencyKey = some k → row.key = some k →
        row.scope = context.scopeOf taskId := by
  unfold addCommentTx at h
  split_ifs at h
  · split at h
    · cases h
    · next hupsert =>
        cases h
        exact upsert_same_iff (·.scope = context.scopeOf taskId) hok.commentKeys hupsert rfl
  · cases h

/-- The review of a card is one in its workspace. -/
lemma loaded_scope {loaded : QualityReview} (hok : CardOk tables)
    (htask : tables.db.tasks.any (isTask context taskId) = true)
    (h : selectQualityReview context.orgId taskId tables.db = some loaded) :
    loaded.review.scope = context.scopeOf taskId := by
  obtain ⟨hreview, hreviewTask, horganization, -⟩ := selectQualityReview_spec h
  obtain ⟨task, htaskMem, hid, hscope⟩ := exists_isTask htask
  obtain ⟨task', htaskMem', hid', hscope'⟩ := hok.reviews loaded.review hreview
  have hids : task'.id = task.id := hid'.trans (hreviewTask.trans hid.symm)
  have hsame : task' = task := List.inj_on_of_nodup_map hok.taskIds htaskMem' htaskMem hids
  rw [hsame, hscope] at hscope'
  obtain ⟨-, hworkspace, -⟩ := RecordScope.mk.inj hscope'
  rw [ReviewRow.scope, horganization, hreviewTask, ← hworkspace]
  rfl

/-- What is reported of a check is in scope if the check is. -/
lemma loadReported_inScope {reported : String} {check : CheckRow} (hok : CardOk tables)
    (htask : tables.db.tasks.any (isTask context taskId) = true)
    (hreported : check.scope = context.scopeOf taskId → reported = taskId)
    (h : loadReported context.orgId reported check tables = .ok (.ok created, tables')) :
    created.InScope (context.scopeOf taskId) ↔ check.scope = context.scopeOf taskId := by
  unfold loadReported at h
  split at h
  · cases h
  · next loaded hload =>
      cases h
      refine ⟨fun hscope => hscope.2, fun hscope => ⟨?_, hscope⟩⟩
      rw [hreported hscope] at hload
      exact loaded_scope hok htask hload

lemma addQualityCheckAt_inScope {check : PreparedCheck} (hok : CardOk tables)
    (hkept : CardKept snapshot tables)
    (h : addQualityCheckAt snapshot context taskId env check tables =
      .ok (.ok created, tables')) :
    created.InScope (context.scopeOf taskId) ↔ ∀ row ∈ tables.db.checks, ∀ k,
      recordKey context.orgId check.idempotencyKey = some k → row.key = some k →
        row.scope = context.scopeOf taskId := by
  unfold addQualityCheckAt at h
  split_ifs at h with htask
  · split at h
    · cases h
    · next review db hensure =>
        obtain ⟨hchecks, htasks⟩ := ensureQualityReview_checks hensure
        have hensured := (ensureReview_effect htask hensure).ok hok
        have htask' : db.tasks.any (isTask context taskId) = true := by
          rw [htasks]
          exact htask
        split at h
        · next replay hfind =>
            rw [loadReported_inScope hensured htask' (fun _ => rfl) h]
            refine findKey_same_iff (·.scope = context.scopeOf taskId) hok.checkKeys
              (fun row hrow => ?_) hfind
            obtain ⟨row', hrow', hscope, hkey⟩ := hkept.checks row hrow
            exact ⟨row', hrow', hkey, by rw [hscope]⟩
        · split_ifs at h
          · cases h
          · split at h
            · cases h
            · next row checks hupsert =>
                have hinserted : CardEffect { tables with db := db } _ := insertCheck_effect hupsert
                rw [loadReported_inScope (hinserted.ok hensured) htask'
                  (fun hscope => Option.some.inj (congrArg (·.taskId) hscope)) h, ← hchecks]
                exact upsert_same_iff (·.scope = context.scopeOf taskId) hensured.checkKeys hupsert
                  rfl
  · cases h

/-- No record with the key is foreign if all records with it are in the scope. -/
lemma not_keyIsForeign_iff (call : CardCreate) (tables : CardTables) :
    ¬ call.KeyIsForeign tables ↔ ∀ record ∈ call.records tables, ∀ k, call.key = some k →
      record.1 = some k → record.2 = call.scope := by
  constructor
  · intro hnot record hrecord k hkey hk
    by_contra hscope
    exact hnot ⟨k, hkey, record, hrecord, hk, hscope⟩
  · rintro hall ⟨k, hkey, record, hrecord, hk, hscope⟩
    exact hscope (hall record hrecord k hkey hk)

lemma CardCreate.key_eq (call : CardCreate) {key : Option String}
    (h : normalizeTaskIdempotencyKey call.inputKey = .ok key) :
    call.key = recordKey call.scope.organizationId key := by
  rw [CardCreate.key, h]

lemma checkCreateTask_key {input : CreateTaskInput}
    {checked : TaskStatus × PreparedTaskFields × Option String}
    (h : checkCreateTask input env = .ok checked) :
    normalizeTaskIdempotencyKey input.idempotencyKey = .ok checked.2.2 := by
  obtain ⟨-, -, h⟩ := bind_eq_ok h
  obtain ⟨status, -, h⟩ := bind_eq_ok h
  dsimp only at h
  split_ifs at h
  · cases h
  · obtain ⟨fields, -, h⟩ := bind_eq_ok h
    obtain ⟨key, hkey, h⟩ := bind_eq_ok h
    obtain ⟨-, -, h⟩ := bind_eq_ok h
    cases h
    exact hkey

lemma checkCreateStep_key {input : CreateStepInput} {step : PreparedStep}
    (h : checkCreateStep input env = .ok step) :
    normalizeTaskIdempotencyKey input.idempotencyKey = .ok step.idempotencyKey := by
  obtain ⟨-, -, h⟩ := bind_eq_ok h
  obtain ⟨-, -, h⟩ := bind_eq_ok h
  obtain ⟨text, -, h⟩ := bind_eq_ok h
  obtain ⟨assignee, -, h⟩ := bind_eq_ok h
  obtain ⟨key, hkey, h⟩ := bind_eq_ok h
  obtain ⟨-, -, h⟩ := bind_eq_ok h
  cases h
  exact hkey

lemma checkAddComment_key {input : AddCommentInput} {comment : PreparedComment}
    (h : checkAddComment input env = .ok comment) :
    normalizeTaskIdempotencyKey input.idempotencyKey = .ok comment.idempotencyKey := by
  obtain ⟨-, -, h⟩ := bind_eq_ok h
  obtain ⟨-, -, h⟩ := bind_eq_ok h
  obtain ⟨body, -, h⟩ := bind_eq_ok h
  obtain ⟨assistantKey, -, h⟩ := bind_eq_ok h
  dsimp only at h
  split_ifs at h
  · cases h
  · obtain ⟨key, hkey, h⟩ := bind_eq_ok h
    obtain ⟨-, -, h⟩ := bind_eq_ok h
    cases h
    exact hkey

lemma checkAddQualityCheck_key {input : AddQualityCheckInput} {check : PreparedCheck}
    (h : checkAddQualityCheck input env = .ok check) :
    normalizeTaskIdempotencyKey input.idempotencyKey = .ok check.idempotencyKey := by
  obtain ⟨-, -, h⟩ := bind_eq_ok h
  obtain ⟨-, -, h⟩ := bind_eq_ok h
  obtain ⟨label, -, h⟩ := bind_eq_ok h
  obtain ⟨actor, -, h⟩ := bind_eq_ok h
  obtain ⟨key, hkey, h⟩ := bind_eq_ok h
  obtain ⟨-, -, h⟩ := bind_eq_ok h
  cases h
  exact hkey

/-- A command that returns a record: its checks passed, and its transaction returned it. -/
lemma command_ok {γ : Type} {checks : Except DomainError γ}
    {body : γ → CardTables → Except DomainError (Except DomainError Created × CardTables)}
    (h : (afterChecks checks (fun checked => withTenant (body checked)) tables).1 = .ok created) :
    ∃ checked tables', checks = .ok checked ∧ body checked tables = .ok (.ok created, tables') := by
  rcases command_cases checks body tables with
    ⟨error, heq⟩ | ⟨checked, ⟨result, tables'⟩, hchecks, hbody, heq⟩
  · rw [heq] at h
    cases h
  · rw [heq] at h
    obtain rfl : result = .ok created := h
    exact ⟨checked, tables', hchecks, hbody⟩

/-- **The record a create returns** is in the scope of its input if and only if no record outside of
it has the key: the state of the call is any that a run reaches, and the lookup is made in any state
the run has come from. -/
theorem create_in_scope_iff (snapshot tables : CardTables) (hsnapshot : CardReachable snapshot)
    (hlater : CardSteps snapshot tables) (call : CardCreate) (created : Created)
    (hcreated : (call.run snapshot tables).1 = .ok created) :
    created.InScope call.scope ↔ ¬ call.KeyIsForeign tables := by
  have hok : CardOk tables := (CardSteps.effect (hsnapshot.trans hlater)).ok cardOk_empty
  have hkept : CardKept snapshot tables := (CardSteps.effect hlater).kept
  rw [not_keyIsForeign_iff]
  cases call with
  | createTask input env =>
      obtain ⟨checked, tables', hchecks, hbody⟩ := command_ok hcreated
      rw [CardCreate.key_eq (.createTask input env) (checkCreateTask_key hchecks),
        CardCreate.records, List.forall_mem_map]
      exact createTaskAt_inScope hok hkept hbody
  | createStep input env =>
      obtain ⟨step, tables', hchecks, hbody⟩ := command_ok hcreated
      rw [CardCreate.key_eq (.createStep input env) (checkCreateStep_key hchecks),
        CardCreate.records, List.forall_mem_map]
      exact createStepTx_inScope hok hbody
  | addComment input env =>
      obtain ⟨comment, tables', hchecks, hbody⟩ := command_ok hcreated
      rw [CardCreate.key_eq (.addComment input env) (checkAddComment_key hchecks),
        CardCreate.records, List.forall_mem_map]
      exact addCommentTx_inScope hok hbody
  | addQualityCheck input env =>
      obtain ⟨check, tables', hchecks, hbody⟩ := command_ok hcreated
      rw [CardCreate.key_eq (.addQualityCheck input env) (checkAddQualityCheck_key hchecks),
        CardCreate.records, List.forall_mem_map]
      exact addQualityCheckAt_inScope hok hkept hbody

end Scope

/-! ### A key in two workspaces -/

namespace CreateSample

/-- What a transaction reads from outside. -/
def env (newId : String) : TaskEnv := ⟨1, newId, "review", "reviewer", .ok true, id⟩

/-- A card is created in a workspace, with the key `key-1`. -/
def createIn (workspaceId newId : String) : CardCreate :=
  .createTask ⟨⟨"organization", workspaceId, "user"⟩, none, "Title", none, none, none, none, none,
    none, none, some "key-1"⟩ (env newId)

/-- The tables after the first create. -/
def first : CardTables := ((createIn "workspace-a" "task-a").run .empty .empty).2

lemma first_reachable : CardReachable first := .single (.create _ .empty)

/-- The scopes of the cards that a create returns. -/
def cardScope (result : Except DomainError Created) : Option RecordScope :=
  (result.toOption.bind Created.card).map TaskRow.scope

lemma exists_card {result : Except DomainError Created} {scope : RecordScope}
    (h : cardScope result = some scope) : ∃ row : TaskRow, result = .ok (.task row) ∧
      row.scope = scope := by
  obtain ⟨row, hrow, hscope⟩ := Option.map_eq_some_iff.mp h
  obtain ⟨created, hcreated, hcard⟩ := Option.bind_eq_some_iff.mp hrow
  cases result with
  | error error => cases hcreated
  | ok created' =>
      cases hcreated
      cases created with
      | task row' =>
          cases hcard
          exact ⟨row, rfl, hscope⟩
      | step row' => cases hcard
      | comment row' => cases hcard
      | review loaded check => cases hcard

end CreateSample

open CreateSample

/-- A create with a key that is not in use returns a card of its workspace. -/
theorem create_in_scope_first :
    ∃ row : TaskRow, ((createIn "workspace-a" "task-a").run .empty .empty).1 = .ok (.task row) ∧
      (row.scope = (createIn "workspace-a" "task-a").scope ↔
        ¬ (createIn "workspace-a" "task-a").KeyIsForeign .empty) := by
  obtain ⟨row, hrow, -⟩ := exists_card (show cardScope
    ((createIn "workspace-a" "task-a").run .empty .empty).1 =
      some ⟨"organization", "workspace-a", none⟩ by decide)
  exact ⟨row, hrow, create_in_scope_iff .empty .empty .refl .refl _ _ hrow⟩

/-- The key of a card of another workspace: the create returns that card. -/
theorem create_returns_foreign :
    ¬ ∀ snapshot tables, CardReachable snapshot → CardSteps snapshot tables → ∀ call created,
      (CardCreate.run snapshot tables call).1 = .ok created → created.InScope call.scope := by
  intro hclaim
  obtain ⟨row, hrow, hscope⟩ := exists_card (show cardScope
    ((createIn "workspace-b" "task-b").run first first).1 =
      some ⟨"organization", "workspace-a", none⟩ by decide)
  have hinScope : row.scope = (createIn "workspace-b" "task-b").scope :=
    hclaim first first first_reachable .refl _ _ hrow
  rw [hscope] at hinScope
  exact absurd hinScope (by decide)

end Opzava.ProjectManagement
