import Opzava.RuntimeControl.AssistantTurns

/-!
The task tools of the assistant (`task-tools.ts`, `tool-execution-harness.ts`).

A tool call carries a tool name, a tool call id and arguments of any shape. The arguments
are parsed; what the call has asked for and what it has led to are written down as JSON
objects.

* `parseArgs`: the arguments of the three tools.
* `requestSummary`, `malformedRequestSummary`: what the call has asked for.
* `resultSummary`, `failureSummary`: what it has led to, and `outputFromOutcome`,
  `failureFromOutcome` read it back.
-/

namespace Opzava.RuntimeControl

open Opzava.Library
open DevBoard (DomainError)
open ProjectManagement (TaskStatus TaskPriority isHexDigit)

/-! ### Arguments -/

/-- `RuntimeControlTaskToolName`. -/
inductive TaskToolName where
  | list | create | update
  deriving DecidableEq

/-- The name of the tool. -/
def TaskToolName.text : TaskToolName → String
  | .list => "opzava_tasks_list"
  | .create => "opzava_tasks_create"
  | .update => "opzava_tasks_update"

/-- The arguments of `opzava_tasks_create`. -/
structure CreateArgs where
  title : String
  description : Option String
  status : Option TaskStatus
  priority : Option TaskPriority
  labels : Option (List String)

/-- The arguments of `opzava_tasks_update`. -/
structure UpdateArgs where
  taskId : String
  title : Option String
  description : Option String
  status : Option TaskStatus
  priority : Option TaskPriority
  labels : Option (List String)

/-- `ParsedToolArgs`. -/
inductive ParsedToolArgs where
  | list (status : Option TaskStatus) (limit : ℕ)
  | create (args : CreateArgs)
  | update (args : UpdateArgs)

/-- `runtimeControl.toolMalformedArgs`. -/
def toolMalformedArgs (message : String) : DomainError :=
  ⟨"runtimeControl.toolMalformedArgs", message⟩

/-- `rejectUnknownKeys`. -/
def rejectUnknownKeys (value : JsRecord) (allowedKeys : List String) : Except DomainError Unit :=
  match (value.map Prod.fst).find? fun key => key ∉ allowedKeys with
  | none => .ok ()
  | some key => .error (toolMalformedArgs ("Tool argument \"" ++ key ++ "\" is not allowed."))

/-- `requiredString`. -/
def requiredString (value : JsValue) (field : String) (maxLength : ℕ) :
    Except DomainError String :=
  match value with
  | .string text =>
      let normalized := normalizeSpaces text
      if jsLength normalized = 0 ∨ maxLength < jsLength normalized then
        .error (toolMalformedArgs ("Tool argument \"" ++ field ++ "\" must be 1-" ++
          toString maxLength ++ " characters."))
      else .ok normalized
  | _ => .error (toolMalformedArgs ("Tool argument \"" ++ field ++ "\" must be a string."))

/-- `optionalString`. -/
def optionalString (value : JsValue) (field : String) (maxLength : ℕ) :
    Except DomainError (Option String) :=
  match value with
  | .undefined => .ok none
  | .string text =>
      let normalized := String.ofList (jsTrim text.toList)
      if maxLength < jsLength normalized then
        .error (toolMalformedArgs ("Tool argument \"" ++ field ++ "\" must be " ++
          toString maxLength ++ " characters or fewer."))
      else .ok (some normalized)
  | _ => .error (toolMalformedArgs ("Tool argument \"" ++ field ++ "\" must be a string."))

/-- The text matches `uuidPattern`. -/
def matchesUuidPattern (text : String) : Bool :=
  let parts := text.toList.splitOn '-'
  parts.map List.length = [8, 4, 4, 4, 12] ∧ parts.all fun part => part.all isHexDigit

/-- `requiredTaskId`. -/
def requiredTaskId (value : JsValue) : Except DomainError String := do
  let parsed ← requiredString value "taskId" 180
  if matchesUuidPattern parsed then return parsed
  else throw (toolMalformedArgs "Tool argument \"taskId\" must be a task id.")

/-- `optionalTitle`. -/
def optionalTitle (value : JsValue) : Except DomainError (Option String) :=
  match value with
  | .undefined => .ok none
  | _ => return some (← requiredString value "title" 180)

/-- The text of a status. -/
def taskStatusText : TaskStatus → String
  | .todo => "todo"
  | .inProgress => "in_progress"
  | .blocked => "blocked"
  | .done => "done"

/-- The text of a priority. -/
def taskPriorityText : TaskPriority → String
  | .low => "low"
  | .normal => "normal"
  | .high => "high"
  | .urgent => "urgent"

/-- The member of an enumeration a value names. -/
def parseMember {α : Type} (members : List α) (text : α → String) (value : JsValue) : Option α :=
  match value with
  | .string name => members.find? fun member => text member = name
  | _ => none

/-- `optionalStatus`. -/
def optionalStatus (value : JsValue) : Except DomainError (Option TaskStatus) :=
  match value with
  | .undefined => .ok none
  | _ =>
      match parseMember [.todo, .inProgress, .blocked, .done] taskStatusText value with
      | some status => .ok (some status)
      | none =>
          .error (toolMalformedArgs
            "Tool argument \"status\" must be todo, in_progress, blocked, or done.")

/-- `optionalWritableStatus`. -/
def optionalWritableStatus (value : JsValue) : Except DomainError (Option TaskStatus) :=
  match value with
  | .undefined => .ok none
  | .string "done" => .error ProjectManagement.taskDoneRequiresHumanAttestation
  | _ =>
      match parseMember [.todo, .inProgress, .blocked] taskStatusText value with
      | some status => .ok (some status)
      | none =>
          .error (toolMalformedArgs
            "Tool argument \"status\" must be todo, in_progress, or blocked.")

/-- `optionalPriority`. -/
def optionalPriority (value : JsValue) : Except DomainError (Option TaskPriority) :=
  match value with
  | .undefined => .ok none
  | _ =>
      match parseMember [.low, .normal, .high, .urgent] taskPriorityText value with
      | some priority => .ok (some priority)
      | none =>
          .error (toolMalformedArgs
            "Tool argument \"priority\" must be low, normal, high, or urgent.")

/-- The texts of an array of strings. -/
def stringItems : List JsValue → Option (List String)
  | [] => some []
  | .string text :: rest => (stringItems rest).map fun texts => text :: texts
  | _ :: _ => none

/-- `optionalLabels`. -/
def optionalLabels (value : JsValue) : Except DomainError (Option (List String)) :=
  let malformed := toolMalformedArgs "Tool argument \"labels\" must be an array of strings."
  match value with
  | .undefined => .ok none
  | .array items =>
      match stringItems items with
      | some labels => .ok (some labels)
      | none => .error malformed
  | _ => .error malformed

/-- `optionalLimit`. A number is known by its decimal text. -/
def optionalLimit (value : JsValue) : Except DomainError ℕ :=
  let malformed := toolMalformedArgs "Tool argument \"limit\" must be an integer from 1 to 50."
  match value with
  | .undefined => .ok 20
  | .number text =>
      match (List.range' 1 50).find? fun n => toString n = text with
      | some limit => .ok limit
      | none => .error malformed
  | _ => .error malformed

/-- `parseToolName`. -/
def parseToolName (value : String) : Except DomainError TaskToolName :=
  match [TaskToolName.list, .create, .update].find? fun name => name.text = value with
  | some name => .ok name
  | none => .error ⟨"runtimeControl.unknownTool", "Requested task tool is not registered."⟩

/-- `parseListArgs`. -/
def parseListArgs (value : JsValue) : Except DomainError ParsedToolArgs :=
  match value with
  | .object fields => do
      rejectUnknownKeys fields ["status", "limit"]
      let status ← optionalStatus (JsRecord.read fields "status")
      let limit ← optionalLimit (JsRecord.read fields "limit")
      return .list status limit
  | _ => .error (toolMalformedArgs "Task list tool arguments must be an object.")

/-- `parseCreateArgs`. -/
def parseCreateArgs (value : JsValue) : Except DomainError ParsedToolArgs :=
  match value with
  | .object fields => do
      rejectUnknownKeys fields ["title", "description", "status", "priority", "labels"]
      let title ← requiredString (JsRecord.read fields "title") "title" 180
      let description ← optionalString (JsRecord.read fields "description") "description" 4000
      let status ← optionalWritableStatus (JsRecord.read fields "status")
      let priority ← optionalPriority (JsRecord.read fields "priority")
      let labels ← optionalLabels (JsRecord.read fields "labels")
      return .create ⟨title, description, status, priority, labels⟩
  | _ => .error (toolMalformedArgs "Task create tool arguments must be an object.")

/-- `parseUpdateArgs`. -/
def parseUpdateArgs (value : JsValue) : Except DomainError ParsedToolArgs :=
  match value with
  | .object fields => do
      rejectUnknownKeys fields ["taskId", "title", "description", "status", "priority", "labels"]
      let taskId ← requiredTaskId (JsRecord.read fields "taskId")
      let title ← optionalTitle (JsRecord.read fields "title")
      let description ← optionalString (JsRecord.read fields "description") "description" 4000
      let status ← optionalWritableStatus (JsRecord.read fields "status")
      let priority ← optionalPriority (JsRecord.read fields "priority")
      let labels ← optionalLabels (JsRecord.read fields "labels")
      if title.isNone ∧ description.isNone ∧ status.isNone ∧ priority.isNone ∧ labels.isNone then
        throw (toolMalformedArgs "Task update tool requires at least one field to change.")
      return .update ⟨taskId, title, description, status, priority, labels⟩
  | _ => .error (toolMalformedArgs "Task update tool arguments must be an object.")

/-- `parseArgs`. -/
def parseArgs (toolName : TaskToolName) (value : JsValue) : Except DomainError ParsedToolArgs :=
  match toolName with
  | .list => parseListArgs value
  | .create => parseCreateArgs value
  | .update => parseUpdateArgs value

/-! ### What a call has asked for -/

/-- A field that is left out when it is absent. -/
def optionalField (name : String) (value : Option JsValue) : JsRecord :=
  match value with
  | none => []
  | some present => [(name, present)]

/-- The fields a task may be given. -/
def taskFields (description : Option String) (status : Option TaskStatus)
    (priority : Option TaskPriority) (labels : Option (List String)) : JsRecord :=
  optionalField "description" (description.map .string) ++
    optionalField "status" (status.map fun status => .string (taskStatusText status)) ++
    optionalField "priority" (priority.map fun priority => .string (taskPriorityText priority)) ++
    optionalField "labels" (labels.map fun labels => .array (labels.map .string))

/-- The parsed arguments, as an object. -/
def ParsedToolArgs.args : ParsedToolArgs → JsRecord
  | .list status limit =>
      optionalField "status" (status.map fun status => .string (taskStatusText status)) ++
        [("limit", .nat limit)]
  | .create args =>
      ("title", .string args.title) ::
        taskFields args.description args.status args.priority args.labels
  | .update args =>
      ("taskId", .string args.taskId) :: (optionalField "title" (args.title.map .string) ++
        taskFields args.description args.status args.priority args.labels)

/-- The `requestSummary` of parsed arguments. -/
def requestSummary (toolName : TaskToolName) (parsed : ParsedToolArgs) : JsRecord :=
  [("toolName", .string toolName.text), ("args", .object parsed.args)]

mutual

/-- `sanitizeValue`. The text of a function, a symbol or a big integer is not kept. -/
def sanitizeValue (depth : ℕ) (value : JsValue) : JsValue :=
  if 3 < depth then .string "[truncated]"
  else
    match value with
    | .null => .null
    | .string text => .string text
    | .number text => .number text
    | .nonFinite => .nonFinite
    | .boolean b => .boolean b
    | .array items => .array ((sanitizeItems depth items).take 20)
    | .undefined => .string "undefined"
    | .other => .string (jsToString .other)
    | .object fields =>
        .object (((sanitizeFields depth fields).insertionSort
          fun a b => jsStringLe a.1 b.1 = true).take 20)

/-- The items of an array. -/
def sanitizeItems (depth : ℕ) : List JsValue → List JsValue
  | [] => []
  | item :: rest => sanitizeValue (depth + 1) item :: sanitizeItems depth rest

/-- The fields of an object. -/
def sanitizeFields (depth : ℕ) : List (String × JsValue) → List (String × JsValue)
  | [] => []
  | field :: rest => sanitizeField depth field :: sanitizeFields depth rest

/-- One field of an object. -/
def sanitizeField (depth : ℕ) : String × JsValue → String × JsValue
  | (name, value) => (name, sanitizeValue (depth + 1) value)

end

/-- `malformedRequestSummary`. -/
def malformedRequestSummary (toolName : TaskToolName) (args : JsValue) (error : DomainError) :
    JsRecord :=
  [("toolName", .string toolName.text), ("malformedArgs", sanitizeValue 0 args),
    ("errorCode", .string error.code)]

/-! ### What it has led to -/

/-- `ToolFailure`. -/
structure ToolFailure where
  code : String
  message : String

/-- An error of a task command, and the status `errorStatus` finds in it. -/
structure ToolError where
  error : DomainError
  status : Option ℕ

/-- `failureFromError`. -/
def failureFromError (failed : ToolError) : ToolFailure :=
  let code := failed.error.code
  if code = "projectManagement.taskNotFound" then ⟨"not_found", "Task was not found."⟩
  else if code = "projectManagement.forbidden" ∨
      code = "projectManagement.taskDoneRequiresHumanAttestation" ∨
      code = "projectManagement.taskDoneRequiresApprovedReview" ∨ failed.status = some 403 then
    ⟨"forbidden", "Task tool execution is not allowed."⟩
  else if jsStartsWith code "projectManagement.invalid" then
    ⟨"malformed_args", failed.error.message⟩
  else ⟨"failed", failed.error.message⟩

/-- `failureFromTaskMalformedArgs`. -/
def failureFromTaskMalformedArgs (error : DomainError) : ToolFailure :=
  if error.code = "projectManagement.taskDoneRequiresHumanAttestation" then
    ⟨"forbidden", error.message⟩
  else ⟨"malformed_args", error.message⟩

/-- `RuntimeControlTaskToolOutput`, the tasks as objects. -/
inductive ToolOutput where
  | list (tasks : List JsValue)
  | create (task : JsRecord)
  | update (task : JsRecord)

/-- The fields of an output. -/
def ToolOutput.fields : ToolOutput → JsRecord
  | .list tasks => [("kind", .string "tasks.list"), ("tasks", .array tasks)]
  | .create task => [("kind", .string "tasks.create"), ("task", .object task)]
  | .update task => [("kind", .string "tasks.update"), ("task", .object task)]

/-- `resultSummary`. -/
def resultSummary (output : ToolOutput) : JsRecord := ("ok", .boolean true) :: output.fields

/-- `targetRef`. -/
def targetRef : ToolOutput → Option String
  | .list _ => none
  | .create task | .update task =>
      match task.read "id" with
      | .string id => some id
      | _ => none

/-- `failureSummary`. -/
def failureSummary (failure : ToolFailure) : JsRecord :=
  [("ok", .boolean false), ("code", .string failure.code), ("message", .string failure.message)]

/-- `outputFromOutcome`. -/
def outputFromOutcome (summary : JsRecord) : Option ToolOutput :=
  match summary.read "kind" with
  | .string "tasks.list" =>
      match summary.read "tasks" with
      | .array tasks => some (.list tasks)
      | _ => none
  | .string "tasks.create" =>
      match summary.read "task" with
      | .object task => some (.create task)
      | _ => none
  | .string "tasks.update" =>
      match summary.read "task" with
      | .object task => some (.update task)
      | _ => none
  | _ => none

/-- The text of a field, or a default. -/
def textOr (value : JsValue) (default : String) : String :=
  match value with
  | .string text => text
  | _ => default

/-- `failureFromOutcome`. -/
def failureFromOutcome (summary : JsRecord) : ToolFailure :=
  ⟨textOr (summary.read "code") "failed",
    textOr (summary.read "message") "Task tool execution failed."⟩

end Opzava.RuntimeControl
