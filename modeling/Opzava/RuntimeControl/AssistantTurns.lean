import Opzava.Library.ReadCommitted
import Opzava.ProjectManagement.Tasks

/-!
The turns of an assistant conversation (`assistant-conversation-lifecycle.ts`).

A call checks its input, asks the authorization port, and runs one `withTenant` body. The
bodies are run statement by statement. Every call that commits is written down, in the
order of the commits, with what it returned and what it wrote.

* `appendUserTurn`, `startAssistantTurn`: a new turn, or the one with the same key.
* `appendAssistantDelta`: a read that locks the turn, and an update with the content it has
  computed from what was read.
* `finalizeAssistantTurn`: an update that claims the turn, and one that finalizes it.
* `failAssistantTurn`: one update.
* `turnProgram`: the transactions of the five calls.
-/

namespace Opzava.RuntimeControl

open Opzava.Library
open Opzava.Library.ReadCommitted
open DevBoard (DomainError)
open ProjectManagement (Timestamp isOpaqueId)

/-! ### Rows -/

/-- `AssistantTurnRole`. -/
inductive TurnRole where
  | user | assistant | tool | system
  deriving DecidableEq

/-- `AssistantTurnStatus`. -/
inductive TurnStatus where
  | queued | streaming | finalizing | final | failed
  deriving DecidableEq

/-- `isTerminalAssistantTurnStatus`. -/
def isTerminalAssistantTurnStatus (status : TurnStatus) : Bool :=
  status = .final ∨ status = .failed

/-- `canAppendAssistantDelta`. -/
def canAppendAssistantDelta (status : TurnStatus) : Bool :=
  status = .queued ∨ status = .streaming

/-- A row of `assistant_conversations`, as far as the turns look at it. -/
structure ConversationRow where
  id : String
  organizationId : String
  workspaceId : String

/-- A row of `assistant_turns`. -/
structure TurnRow where
  id : String
  conversationId : String
  organizationId : String
  workspaceId : String
  role : TurnRole
  status : TurnStatus
  actorUserId : Option String
  assistantKey : Option String
  content : JsRecord
  idempotencyKey : String
  openclawSessionRef : Option String
  openclawRunRef : Option String
  createdAt : Timestamp
  updatedAt : Timestamp
  finalizedAt : Option Timestamp

/-- `stringOrNull`. -/
def stringOrNull (value : Option String) : Option String :=
  value.filter fun text => jsTrim text.toList ≠ []

/-- `rowToTurn`: the `AssistantTurn` of a row. -/
def rowToTurn (row : TurnRow) : TurnRow :=
  { row with
    assistantKey := stringOrNull row.assistantKey
    openclawSessionRef := stringOrNull row.openclawSessionRef
    openclawRunRef := stringOrNull row.openclawRunRef }

/-! ### Content -/

mutual

/-- A value after `JSON.stringify` and the cast to `jsonb`; `none` if it is left out. -/
def toJsonb : JsValue → Option JsValue
  | .undefined | .other => none
  | .nonFinite => some .null
  | .array items => some (.array (itemsToJsonb items))
  | .object fields => some (.object (fieldsToJsonb fields))
  | .null => some .null
  | .boolean b => some (.boolean b)
  | .number text => some (.number text)
  | .string s => some (.string s)

/-- The items of an array. -/
def itemsToJsonb : List JsValue → List JsValue
  | [] => []
  | item :: rest => (toJsonb item).getD .null :: itemsToJsonb rest

/-- The fields of an object. -/
def fieldsToJsonb : List (String × JsValue) → List (String × JsValue)
  | [] => []
  | field :: rest => fieldToJsonb field ++ fieldsToJsonb rest

/-- One field of an object, if it is kept. -/
def fieldToJsonb : String × JsValue → List (String × JsValue)
  | (name, value) =>
      match toJsonb value with
      | none => []
      | some stored => [(name, stored)]

end

mutual

/-- `String(value)` of a value that was read from a `jsonb` column. -/
def jsToString : JsValue → String
  | .undefined => "undefined"
  | .null => "null"
  | .boolean b => if b then "true" else "false"
  | .number text => text
  | .nonFinite => "NaN"
  | .string s => s
  | .array items => ",".intercalate (itemsToStrings items)
  | .object _ | .other => "[object Object]"

/-- The texts `Array.prototype.join` joins. -/
def itemsToStrings : List JsValue → List String
  | [] => []
  | .null :: rest => "" :: itemsToStrings rest
  | .undefined :: rest => "" :: itemsToStrings rest
  | item :: rest => jsToString item :: itemsToStrings rest

end

mutual

/-- `stableJson`: JSON text with the keys of every object sorted. -/
def stableJson : JsValue → String
  | .null | .undefined | .nonFinite | .other => "null"
  | .boolean b => if b then "true" else "false"
  | .number text => text
  | .string s => jsonString s
  | .array items => "[" ++ ",".intercalate (stableItems items) ++ "]"
  | .object fields =>
      let sorted := (stableFields fields).insertionSort fun a b => jsStringLe a.1 b.1
      "\x7b" ++ ",".intercalate (sorted.map fun field => jsonString field.1 ++ ":" ++ field.2) ++
        "\x7d"

/-- The texts of the items of an array. -/
def stableItems : List JsValue → List String
  | [] => []
  | item :: rest => stableJson item :: stableItems rest

/-- The texts of the fields of an object, with their names. -/
def stableFields : List (String × JsValue) → List (String × String)
  | [] => []
  | field :: rest => stableField field :: stableFields rest

/-- The text of one field. -/
def stableField : String × JsValue → String × String
  | (name, value) => (name, stableJson value)

end

/-- `sameJson`. -/
def sameJson (left right : JsRecord) : Bool :=
  stableJson (.object left) = stableJson (.object right)

/-- The text of a content, or the empty one. -/
def contentText (content : JsRecord) : String :=
  match content.read "text" with
  | .string text => text
  | _ => ""

/-- The deltas of a content, as texts. -/
def contentDeltas (content : JsRecord) : List String :=
  match content.read "deltas" with
  | .array deltas => deltas.map jsToString
  | _ => []

/-- `contentWithDelta`. -/
def contentWithDelta (content : JsRecord) (deltaText : String) : JsRecord :=
  content.spread [("text", .string (contentText content ++ deltaText)),
    ("deltas", .array ((contentDeltas content ++ [deltaText]).map .string))]

/-! ### Calls -/

/-- `RuntimeControlApplicationContext`, the actor by its id. -/
structure TurnContext where
  orgId : String
  workspaceId : String
  userId : String

/-- What a transaction reads from outside: its time, and the id the database generates. -/
structure TurnEnv where
  now : Timestamp
  newId : String

/-- The five calls. The content of `startAssistantTurn` is empty when it is absent. -/
inductive TurnCall where
  | appendUserTurn (conversationId idempotencyKey : String) (content : JsRecord)
  | startAssistantTurn (conversationId idempotencyKey assistantKey : String) (content : JsRecord)
      (openclawSessionRef openclawRunRef : Option String)
  | appendAssistantDelta (turnId deltaText : String)
  | finalizeAssistantTurn (turnId : String) (content : JsRecord)
      (openclawSessionRef openclawRunRef : Option String)
  | failAssistantTurn (turnId errorCode errorMessage : String)

/-- `normalizeRuntimeKey`. -/
def normalizeRuntimeKey (value field : String) : Except DomainError String :=
  let normalized := String.ofList (jsTrim value.toList)
  if jsLength normalized = 0 then
    .error ⟨"runtimeControl.emptyRuntimeKey", field ++ " must be a non-empty string."⟩
  else if 180 < jsLength normalized then
    .error ⟨"runtimeControl.runtimeKeyTooLong", field ++ " must be 180 characters or fewer."⟩
  else .ok normalized

/-- `assertKnownContext`. -/
def assertKnownContext (context : TurnContext) : Except DomainError Unit :=
  if isOpaqueId context.orgId ∧ isOpaqueId context.workspaceId ∧ isOpaqueId context.userId then
    .ok ()
  else
    .error ⟨"runtimeControl.invalidContext",
      "Runtime-Control context contains an invalid organization, workspace, or actor id."⟩

/-- `authorizeRuntimeControl`. -/
def authorizeRuntimeControl (decision : Except DomainError Bool) : Except DomainError Unit :=
  match decision with
  | .error error => .error error
  | .ok true => .ok ()
  | .ok false =>
      .error ⟨"runtimeControl.forbidden", "You are not allowed to use Runtime-Control."⟩

/-- The checks of a call, and the call with its keys normalized. -/
def checkCall (context : TurnContext) (decision : Except DomainError Bool) (call : TurnCall) :
    Except DomainError TurnCall := do
  assertKnownContext context
  authorizeRuntimeControl decision
  match call with
  | .appendUserTurn conversationId idempotencyKey content =>
      let key ← normalizeRuntimeKey idempotencyKey "idempotencyKey"
      return .appendUserTurn conversationId key content
  | .startAssistantTurn conversationId idempotencyKey assistantKey content sessionRef runRef =>
      let key ← normalizeRuntimeKey idempotencyKey "idempotencyKey"
      let assistant ← normalizeRuntimeKey assistantKey "assistantKey"
      return .startAssistantTurn conversationId key assistant content sessionRef runRef
  | _ => return call

/-- `runtimeControl.conversationNotFound`. -/
def conversationNotFound : DomainError :=
  ⟨"runtimeControl.conversationNotFound", "Assistant conversation was not found."⟩

/-- `runtimeControl.turnNotFound`. -/
def turnNotFound : DomainError := ⟨"runtimeControl.turnNotFound", "Assistant turn was not found."⟩

/-- `runtimeControl.invalidTurnTransition`. -/
def invalidTurnTransition (message : String) : DomainError :=
  ⟨"runtimeControl.invalidTurnTransition", message⟩

/-- `runtimeControl.idempotencyConflict`. -/
def idempotencyConflict : DomainError :=
  ⟨"runtimeControl.idempotencyConflict",
    "Idempotency key was reused with a different assistant turn payload."⟩

/-- What a replayed turn is compared with; an absent field is not compared. -/
structure ExpectedTurn where
  role : TurnRole
  actorUserId : Option (Option String)
  assistantKey : Option (Option String)
  content : JsRecord

/-- `validateIdempotentTurnReplay`. -/
def validateIdempotentTurnReplay (existing : TurnRow) (expected : ExpectedTurn) :
    Except DomainError TurnRow :=
  let actorMatches := expected.actorUserId.all fun actor => existing.actorUserId = actor
  let assistantMatches := expected.assistantKey.all fun key => existing.assistantKey = key
  if existing.role ≠ expected.role ∨ !actorMatches ∨ !assistantMatches ∨
      !sameJson existing.content expected.content then
    .error idempotencyConflict
  else .ok existing

/-! ### Transactions -/

/-- A call that has committed: what it returned, what it wrote, and whether the turn it is
about was stored when it began. -/
structure TurnCommit where
  call : TurnCall
  known : Bool
  result : Except DomainError TurnRow
  written : Option TurnRow

/-- The committed rows, and the calls that have committed, in order. -/
structure TurnTables where
  conversations : List ConversationRow
  turns : List TurnRow
  log : List TurnCommit

/-- What is locked: the row of a turn, or the entry of a key in the index on
`(organization_id, conversation_id, idempotency_key)`. -/
inductive TurnLock where
  | turn (id : String)
  | key (orgId conversationId idempotencyKey : String)
  deriving DecidableEq

/-- The next statement of a transaction. -/
inductive TurnPoint where
  | loadConversation
  | insertTurn
  | selectExisting
  | selectForUpdate
  | updateDelta (content : JsRecord)
  | claim
  | finalize
  | selectFinalized
  | fail
  | selectFailed
  | finish (result : Except DomainError TurnRow)
  | thrown

/-- A running transaction: where it is, and the row it has written. -/
structure TurnTx where
  context : TurnContext
  env : TurnEnv
  call : TurnCall
  known : Bool
  point : TurnPoint
  own : Option TurnRow
  locks : List TurnLock

/-- The turns the transaction sees: the committed ones, under its own. -/
def TurnTx.view (tx : TurnTx) (tables : TurnTables) : List TurnRow :=
  match tx.own with
  | none => tables.turns
  | some own => putRow TurnRow.id own tables.turns

/-- The transaction at another statement. -/
def TurnTx.goto (tx : TurnTx) (point : TurnPoint) : TurnTx := { tx with point := point }

/-- The transaction after it has written a turn. -/
def TurnTx.write (tx : TurnTx) (turn : TurnRow) (locks : List TurnLock) : TurnTx :=
  { tx with own := some turn, locks := .turn turn.id :: (locks ++ tx.locks) }

/-- The turn with the id, in the workspace and the organization. -/
def inScope (context : TurnContext) (turnId : String) (row : TurnRow) : Bool :=
  row.id = turnId ∧ row.organizationId = context.orgId ∧ row.workspaceId = context.workspaceId

/-- The assistant turn with the id, in one of the statuses. -/
def isUpdatable (context : TurnContext) (turnId : String) (statuses : List TurnStatus)
    (row : TurnRow) : Bool :=
  inScope context turnId row ∧ row.role = .assistant ∧ row.status ∈ statuses

/-- The values of an insert into `assistant_turns`, and what an existing turn with the same
key is compared with. -/
structure NewTurn where
  conversationId : String
  idempotencyKey : String
  role : TurnRole
  status : TurnStatus
  actorUserId : Option String
  assistantKey : Option String
  content : JsRecord
  openclawSessionRef : Option String
  openclawRunRef : Option String
  finalizedAt : Option Timestamp
  expected : ExpectedTurn

/-- The row that is inserted. -/
def NewTurn.row (turn : NewTurn) (context : TurnContext) (env : TurnEnv) : TurnRow where
  id := env.newId
  conversationId := turn.conversationId
  organizationId := context.orgId
  workspaceId := context.workspaceId
  role := turn.role
  status := turn.status
  actorUserId := turn.actorUserId
  assistantKey := turn.assistantKey
  content := fieldsToJsonb turn.content
  idempotencyKey := turn.idempotencyKey
  openclawSessionRef := turn.openclawSessionRef
  openclawRunRef := turn.openclawRunRef
  createdAt := env.now
  updatedAt := env.now
  finalizedAt := turn.finalizedAt

/-- The turn of `appendUserTurn`. -/
def userTurn (context : TurnContext) (env : TurnEnv) (conversationId idempotencyKey : String)
    (content : JsRecord) : NewTurn :=
  ⟨conversationId, idempotencyKey, .user, .final, some context.userId, none, content, none, none,
    some env.now, ⟨.user, some (some context.userId), none, content⟩⟩

/-- The turn of `startAssistantTurn`. -/
def assistantTurn (conversationId idempotencyKey assistantKey : String) (content : JsRecord)
    (openclawSessionRef openclawRunRef : Option String) : NewTurn :=
  ⟨conversationId, idempotencyKey, .assistant, .queued, none, some assistantKey, content,
    openclawSessionRef, openclawRunRef, none,
    ⟨.assistant, none, some (some assistantKey), content⟩⟩

/-- The turn with the key, in the conversation and the organization. -/
def hasKey (context : TurnContext) (turn : NewTurn) (row : TurnRow) : Bool :=
  row.organizationId = context.orgId ∧ row.conversationId = turn.conversationId ∧
    row.idempotencyKey = turn.idempotencyKey

/-- `appendUserTurn` and `startAssistantTurn`. The insert fails on an id in use. -/
def insertStatement (turn : NewTurn) (tables : TurnTables) (tx : TurnTx) : TurnTx :=
  match tx.point with
  | .loadConversation =>
      if tables.conversations.any fun row => row.id = turn.conversationId ∧
          row.organizationId = tx.context.orgId ∧ row.workspaceId = tx.context.workspaceId then
        tx.goto .insertTurn
      else tx.goto (.finish (.error conversationNotFound))
  | .insertTurn =>
      if (tx.view tables).any (hasKey tx.context turn) then tx.goto .selectExisting
      else if tx.env.newId ∈ (tx.view tables).map (·.id) then tx.goto .thrown
      else
        (tx.write (turn.row tx.context tx.env)
          [.key tx.context.orgId turn.conversationId turn.idempotencyKey]).goto
          (.finish (.ok (rowToTurn (turn.row tx.context tx.env))))
  | .selectExisting =>
      match (tx.view tables).find? (hasKey tx.context turn) with
      | none => tx.goto (.finish (.error turnNotFound))
      | some existing =>
          tx.goto (.finish (validateIdempotentTurnReplay (rowToTurn existing) turn.expected))
  | _ => tx

/-- A turn that is streamed. -/
def TurnRow.streamed (content : JsRecord) (now : Timestamp) (row : TurnRow) : TurnRow :=
  { row with status := .streaming, content := fieldsToJsonb content, updatedAt := now }

/-- `appendAssistantDelta`. -/
def appendAssistantDeltaStatement (turnId deltaText : String) (tables : TurnTables) (tx : TurnTx) :
    TurnTx :=
  match tx.point with
  | .selectForUpdate =>
      match (tx.view tables).find? (inScope tx.context turnId) with
      | none => tx.goto (.finish (.error turnNotFound))
      | some current =>
          let locked := { tx with locks := .turn current.id :: tx.locks }
          if current.role ≠ .assistant ∨ !canAppendAssistantDelta current.status then
            locked.goto (.finish (.error (invalidTurnTransition
              "Assistant delta cannot be appended in the current turn state.")))
          else locked.goto (.updateDelta (contentWithDelta current.content deltaText))
  | .updateDelta content =>
      match (tx.view tables).find? (isUpdatable tx.context turnId [.queued, .streaming]) with
      | none =>
          tx.goto (.finish (.error (invalidTurnTransition
            "Assistant delta could not be appended in the current turn state.")))
      | some row =>
          (tx.write (row.streamed content tx.env.now) []).goto
            (.finish (.ok (rowToTurn (row.streamed content tx.env.now))))
  | _ => tx

/-- A turn that is claimed. -/
def TurnRow.claimed (now : Timestamp) (row : TurnRow) : TurnRow :=
  { row with status := .finalizing, updatedAt := now }

/-- A turn that is finalized. -/
def TurnRow.finalized (content : JsRecord) (openclawSessionRef openclawRunRef : Option String)
    (now : Timestamp) (row : TurnRow) : TurnRow :=
  { row with
    status := .final
    content := fieldsToJsonb content
    openclawSessionRef := openclawSessionRef
    openclawRunRef := openclawRunRef
    finalizedAt := some now
    updatedAt := now }

/-- `finalizeAssistantTurn`. -/
def finalizeAssistantTurnStatement (turnId : String) (content : JsRecord)
    (openclawSessionRef openclawRunRef : Option String) (tables : TurnTables) (tx : TurnTx) :
    TurnTx :=
  match tx.point with
  | .claim =>
      match (tx.view tables).find? (isUpdatable tx.context turnId [.queued, .streaming]) with
      | none => tx.goto .selectFinalized
      | some row => (tx.write (row.claimed tx.env.now) []).goto .finalize
  | .finalize =>
      match (tx.view tables).find? (isUpdatable tx.context turnId [.finalizing]) with
      | none =>
          tx.goto (.finish (.error (invalidTurnTransition
            "Assistant turn finalization lost its single-writer claim.")))
      | some row =>
          let finalized := row.finalized content openclawSessionRef openclawRunRef tx.env.now
          (tx.write finalized []).goto (.finish (.ok (rowToTurn finalized)))
  | .selectFinalized =>
      match (tx.view tables).find? (inScope tx.context turnId) with
      | none => tx.goto (.finish (.error turnNotFound))
      | some existing =>
          if existing.role = .assistant ∧ existing.status = .final then
            tx.goto (.finish (.ok (rowToTurn existing)))
          else
            tx.goto (.finish (.error (invalidTurnTransition
              "Assistant turn cannot be finalized in the current state.")))
  | _ => tx

/-- The content of a turn that has failed. -/
def failedContent (errorCode errorMessage : String) : JsRecord :=
  [("error", .object [("code", .string errorCode), ("message", .string errorMessage)])]

/-- A turn that has failed. -/
def TurnRow.markedFailed (content : JsRecord) (now : Timestamp) (row : TurnRow) : TurnRow :=
  { row with
    status := .failed
    content := fieldsToJsonb content
    finalizedAt := some now
    updatedAt := now }

/-- `failAssistantTurn`. -/
def failAssistantTurnStatement (turnId errorCode errorMessage : String) (tables : TurnTables)
    (tx : TurnTx) : TurnTx :=
  match tx.point with
  | .fail =>
      match (tx.view tables).find? (isUpdatable tx.context turnId
          [.queued, .streaming, .finalizing]) with
      | none => tx.goto .selectFailed
      | some row =>
          let failed := row.markedFailed (failedContent errorCode errorMessage) tx.env.now
          (tx.write failed []).goto (.finish (.ok (rowToTurn failed)))
  | .selectFailed =>
      match (tx.view tables).find? (inScope tx.context turnId) with
      | none => tx.goto (.finish (.error turnNotFound))
      | some existing =>
          if existing.role = .assistant ∧ existing.status = .failed then
            tx.goto (.finish (.ok (rowToTurn existing)))
          else
            tx.goto (.finish (.error (invalidTurnTransition
              "Assistant turn cannot be failed in the current state.")))
  | _ => tx

/-- The turn a call is about, if it names one. -/
def TurnCall.turnId (call : TurnCall) : Option String :=
  match call with
  | .appendUserTurn _ _ _ | .startAssistantTurn _ _ _ _ _ _ => none
  | .appendAssistantDelta turnId _ | .finalizeAssistantTurn turnId _ _ _
  | .failAssistantTurn turnId _ _ => some turnId

/-- The first statement of a call. -/
def TurnCall.first (call : TurnCall) : TurnPoint :=
  match call with
  | .appendUserTurn _ _ _ | .startAssistantTurn _ _ _ _ _ _ => .loadConversation
  | .appendAssistantDelta _ _ => .selectForUpdate
  | .finalizeAssistantTurn _ _ _ _ => .claim
  | .failAssistantTurn _ _ _ => .fail

/-- The turn the call names is stored, in its scope. -/
def isKnown (context : TurnContext) (call : TurnCall) (tables : TurnTables) : Bool :=
  call.turnId.any fun turnId => tables.turns.any (inScope context turnId)

/-- A transaction before its first statement. -/
def TurnTx.start (context : TurnContext) (env : TurnEnv) (call : TurnCall) (known : Bool) :
    TurnTx :=
  ⟨context, env, call, known, call.first, none, []⟩

/-- A transaction of a checked call begins. -/
def TurnTx.initial (tables : TurnTables) (tx : TurnTx) : Bool :=
  tx.known = isKnown tx.context tx.call tables && tx.own.isNone &&
    (match tx.call, tx.point with
    | .appendUserTurn _ _ _, .loadConversation => true
    | .startAssistantTurn _ _ _ _ _ _, .loadConversation => true
    | .appendAssistantDelta _ _, .selectForUpdate => true
    | .finalizeAssistantTurn _ _ _ _, .claim => true
    | .failAssistantTurn _ _ _, .fail => true
    | _, _ => false)

/-- The transaction of a call that passes its checks. -/
def beginCall (context : TurnContext) (env : TurnEnv) (decision : Except DomainError Bool)
    (call : TurnCall) (tables : TurnTables) : Except DomainError TurnTx := do
  let checked ← checkCall context decision call
  return .start context env checked (isKnown context checked tables)

/-- One statement of a transaction. -/
def TurnTx.statement (tables : TurnTables) (tx : TurnTx) : TurnTx :=
  match tx.call with
  | .appendUserTurn conversationId idempotencyKey content =>
      insertStatement (userTurn tx.context tx.env conversationId idempotencyKey content) tables tx
  | .startAssistantTurn conversationId idempotencyKey assistantKey content sessionRef runRef =>
      insertStatement (assistantTurn conversationId idempotencyKey assistantKey content sessionRef
        runRef) tables tx
  | .appendAssistantDelta turnId deltaText =>
      appendAssistantDeltaStatement turnId deltaText tables tx
  | .finalizeAssistantTurn turnId content sessionRef runRef =>
      finalizeAssistantTurnStatement turnId content sessionRef runRef tables tx
  | .failAssistantTurn turnId errorCode errorMessage =>
      failAssistantTurnStatement turnId errorCode errorMessage tables tx

/-- The body has returned. -/
def TurnTx.finished (tx : TurnTx) : Bool :=
  match tx.point with
  | .finish _ => true
  | _ => false

/-- What the transaction has written is committed, also when it returns an `err`. -/
def TurnTx.commit (tx : TurnTx) (tables : TurnTables) : TurnTables :=
  match tx.point with
  | .finish result =>
      { tables with
        turns := tx.view tables
        log := tables.log ++ [⟨tx.call, tx.known, result, tx.own⟩] }
  | _ => tables

/-- The transactions of the five calls. -/
def turnProgram : Program TurnTables TurnTx TurnLock where
  initial := TurnTx.initial
  statement := TurnTx.statement
  locks := TurnTx.locks
  finished := TurnTx.finished
  commit := TurnTx.commit

end Opzava.RuntimeControl
