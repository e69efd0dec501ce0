import Opzava.Library.JavaScript
import Opzava.ProjectManagement.Outbox

/-!
Tracked issues (`issues.ts`): creation behind an idempotency intent, and the projection
of the issues of the tracker.

* `claimIssueCreateIntent`, `upsertIssueProjection`, `projectTransaction`,
  `markIssueCreateIntentFailed`, `syncTransaction`: the transactions on the tables.
* `IssueStep`: one step of any number of running `createTrackedIssue` and
  `syncIssueProjection` calls next to the tracker. A call that crashes, or waits for the
  tracker forever, takes no further step; a transaction may always fail, and then leaves
  the tables alone.
-/

namespace Opzava.ProjectManagement

open Opzava.Library
open DevBoard (DomainError)

/-! ### Inputs -/

/-- The characters of `[A-Za-z0-9_.-]`. -/
def isNameChar (c : Char) : Bool :=
  ('A' ≤ c ∧ c ≤ 'Z') ∨ ('a' ≤ c ∧ c ≤ 'z') ∨ ('0' ≤ c ∧ c ≤ '9') ∨ c ∈ ['_', '.', '-']

/-- The text matches `^[A-Za-z0-9_.-]+\/[A-Za-z0-9_.-]+$`. -/
def isRepository (cs : List Char) : Bool :=
  match cs.splitOn '/' with
  | [owner, name] => owner ≠ [] ∧ name ≠ [] ∧ owner.all isNameChar ∧ name.all isNameChar
  | _ => false

/-- `normalizeRepository`. -/
def normalizeRepository (repository : String) : Except DomainError String :=
  let normalized := jsTrim repository.toList
  if isRepository normalized then .ok (String.ofList normalized)
  else
    .error ⟨"projectManagement.invalidIssueRepository",
      "Issue repository must be in owner/name form."⟩

/-- `normalizeTitle`. -/
def normalizeTitle (title : String) : Except DomainError String :=
  let normalized := normalizeSpaces title
  if jsLength normalized = 0 ∨ 256 < jsLength normalized then
    .error ⟨"projectManagement.invalidIssueTitle", "Issue title must be 1-256 characters."⟩
  else .ok normalized

/-- `normalizeIdempotencyKey`. -/
def normalizeIdempotencyKey (key : Option String) : Except DomainError (Option String) :=
  match key with
  | none => .ok none
  | some text =>
      let normalized := jsTrim text.toList
      if normalized = [] then .ok none
      else if 160 < jsLength (String.ofList normalized) ∨
          ¬normalized.all fun c => isNameChar c ∨ c = ':' ∨ c = '/' then
        .error ⟨"projectManagement.invalidIssueCreateIdempotencyKey",
          "Issue create idempotency key must be 1-160 safe characters."⟩
      else .ok (some (String.ofList normalized))

/-- `CreateTrackedIssueInput`, without the body and the labels, which go to the tracker
as they are. -/
structure CreateTrackedIssueInput where
  orgId : String
  workspaceId : String
  actorUserId : String
  repository : String
  title : String
  idempotencyKey : Option String

/-- A checked input. -/
structure PreparedCreate where
  orgId : String
  workspaceId : String
  actorUserId : String
  repository : String
  title : String
  key : Option String
  deriving DecidableEq

/-- The checks of `createTrackedIssue` on its input. -/
def prepareCreate (input : CreateTrackedIssueInput) : Except DomainError PreparedCreate := do
  let repository ← normalizeRepository input.repository
  let title ← normalizeTitle input.title
  let key ← normalizeIdempotencyKey input.idempotencyKey
  return ⟨input.orgId, input.workspaceId, input.actorUserId, repository, title, key⟩

/-! ### Rows -/

/-- `IssueProjectionState`. -/
inductive IssueState where
  | open_ | closed
  deriving DecidableEq

/-- `IssueTrackerIssue`. -/
structure TrackerIssue where
  ref : IssueRef
  title : String
  state : IssueState
  labels : List String
  assignee : Option String
  updatedAt : Timestamp
  deriving DecidableEq

/-- A row of `issue_projection`. -/
structure IssueProjectionRow where
  id : String
  organizationId : String
  workspaceId : String
  repository : String
  number : ℕ
  title : String
  state : IssueState
  labels : List String
  assignee : Option String
  updatedAt : Timestamp
  syncedAt : Timestamp
  url : String
  deriving DecidableEq

/-- The unique key of a projection. -/
abbrev ProjectionKey := String × String × ℕ

/-- `(workspace_id, repository, number)`. -/
def IssueProjectionRow.key (row : IssueProjectionRow) : ProjectionKey :=
  (row.workspaceId, row.repository, row.number)

/-- The states of an intent. -/
inductive IntentState where
  | processing | succeeded | failed
  deriving DecidableEq

/-- A row of `issue_create_intent`. -/
structure IntentRow where
  id : String
  organizationId : String
  workspaceId : String
  actorUserId : String
  repository : String
  idempotencyKey : String
  state : IntentState
  issueProjectionId : Option String
  issueNumber : Option ℕ
  lastError : Option String
  updatedAt : Timestamp
  deriving DecidableEq

/-- The two tables. -/
structure IssueDb where
  intents : List IntentRow
  projections : List IssueProjectionRow
  deriving DecidableEq

/-! ### Transactions -/

/-- `IssueCreateIntentClaim`. -/
inductive IntentClaim where
  | none
  | claimed (id : String)
  | succeeded (projection : IssueProjectionRow)
  | conflict (message : String)
  deriving DecidableEq

/-- The new intent. -/
def PreparedCreate.intent (call : PreparedCreate) (key id : String) (now : Timestamp) :
    IntentRow :=
  ⟨id, call.orgId, call.workspaceId, call.actorUserId, call.repository, key, .processing, none,
    none, none, now⟩

/-- What a call reads off the intent that is already there. -/
def existingClaim (projections : List IssueProjectionRow) (row : IntentRow) : IntentClaim :=
  match row.state, projections.find? fun projection =>
      row.issueProjectionId = some projection.id ∧
        projection.organizationId = row.organizationId with
  | .succeeded, some projection => .succeeded projection
  | .failed, _ => .conflict "Issue create idempotency key is bound to a failed attempt."
  | _, _ => .conflict "Issue create is already in progress for this idempotency key."

/-- `claimIssueCreateIntent`: insert the intent, or read the one that is there. The
insert fails on an id in use. -/
def claimIssueCreateIntent (call : PreparedCreate) (id : String) (now : Timestamp)
    (db : IssueDb) : Option (IntentClaim × IssueDb) :=
  match call.key with
  | none => some (.none, db)
  | some key =>
      if db.intents.any fun row => row.workspaceId = call.workspaceId ∧ row.idempotencyKey = key
      then
        match db.intents.find? fun row => row.organizationId = call.orgId ∧
            row.workspaceId = call.workspaceId ∧ row.idempotencyKey = key with
        | none => some (.conflict "Issue create idempotency key is already in use.", db)
        | some row => some (existingClaim db.projections row, db)
      else if id ∈ db.intents.map (·.id) then none
      else some (.claimed id, { db with intents := db.intents ++ [call.intent key id now] })

/-- A text the check constraints of the table take. -/
def nonblank (text : String) : Bool := text.toList.any fun c => c ≠ ' '

/-- The projection of an issue, as a new row. -/
def TrackerIssue.row (issue : TrackerIssue) (orgId workspaceId id : String)
    (syncedAt : Timestamp) : IssueProjectionRow :=
  ⟨id, orgId, workspaceId, issue.ref.repository, issue.ref.number, issue.title, issue.state,
    issue.labels, issue.assignee, issue.updatedAt, syncedAt, issue.ref.url⟩

/-- The projection of an issue over the row that is already there. -/
def TrackerIssue.over (issue : TrackerIssue) (syncedAt : Timestamp) (row : IssueProjectionRow) :
    IssueProjectionRow :=
  { row with
    title := issue.title
    state := issue.state
    labels := issue.labels
    assignee := issue.assignee
    updatedAt := issue.updatedAt
    syncedAt := syncedAt
    url := issue.ref.url }

/-- `upsertIssueProjection`. The statement fails on a value the constraints refuse, on a
row of another organization, and on an id in use. -/
def upsertIssueProjection (orgId workspaceId : String) (issue : TrackerIssue)
    (syncedAt : Timestamp) (id : String) (projections : List IssueProjectionRow) :
    Option (IssueProjectionRow × List IssueProjectionRow) :=
  if issue.ref.number = 0 ∨ ¬nonblank issue.ref.repository ∨ ¬nonblank issue.title ∨
      ¬nonblank issue.ref.url then none
  else
    match projections.find? fun row =>
        row.key = (workspaceId, issue.ref.repository, issue.ref.number) with
    | some existing =>
        if existing.organizationId = orgId then
          some (issue.over syncedAt existing, updateWhere
            (fun row => row.key = (workspaceId, issue.ref.repository, issue.ref.number))
            (issue.over syncedAt) projections)
        else none
    | none =>
        if id ∈ projections.map (·.id) then none
        else some (issue.row orgId workspaceId id syncedAt,
          projections ++ [issue.row orgId workspaceId id syncedAt])

/-- An intent whose issue is projected. -/
def IntentRow.succeeded (projection : IssueProjectionRow) (now : Timestamp) (row : IntentRow) :
    IntentRow :=
  { row with
    state := .succeeded
    issueProjectionId := some projection.id
    issueNumber := some projection.number
    lastError := none
    updatedAt := now }

/-- An intent whose attempt has failed. -/
def IntentRow.failed (message : String) (now : Timestamp) (row : IntentRow) : IntentRow :=
  { row with state := .failed, lastError := some message, updatedAt := now }

/-- The intent of the call, if it has claimed one. -/
def ownsIntent (call : PreparedCreate) (claim : IntentClaim) (row : IntentRow) : Bool :=
  row.organizationId = call.orgId ∧ claim = .claimed row.id ∧
    row.workspaceId = call.workspaceId

/-- The projection transaction of `createTrackedIssue`. -/
def projectTransaction (call : PreparedCreate) (claim : IntentClaim) (issue : TrackerIssue)
    (syncedAt now : Timestamp) (id : String) (db : IssueDb) :
    Option (IssueProjectionRow × IssueDb) :=
  match upsertIssueProjection call.orgId call.workspaceId issue syncedAt id db.projections with
  | none => none
  | some (projection, projections) =>
      some (projection, ⟨updateWhere (ownsIntent call claim)
        (IntentRow.succeeded projection now) db.intents, projections⟩)

/-- `markIssueCreateIntentFailed`. -/
def markIssueCreateIntentFailed (call : PreparedCreate) (claim : IntentClaim) (message : String)
    (now : Timestamp) (db : IssueDb) : IssueDb :=
  { db with
    intents := updateWhere (ownsIntent call claim) (IntentRow.failed message now) db.intents }

/-- The transaction of `syncIssueProjection`: one upsert an issue, in the order listed. -/
def syncTransaction (orgId workspaceId : String) (syncedAt : Timestamp) :
    List (TrackerIssue × String) → List IssueProjectionRow → Option (List IssueProjectionRow)
  | [], projections => some projections
  | (issue, id) :: rest, projections =>
      match upsertIssueProjection orgId workspaceId issue syncedAt id projections with
      | none => none
      | some (_, projections') => syncTransaction orgId workspaceId syncedAt rest projections'

/-! ### The system -/

/-- Where a `createTrackedIssue` call stands. -/
inductive CreatePhase where
  | claiming
  | calling (claim : IntentClaim)
  | waiting (claim : IntentClaim)
  | projecting (claim : IntentClaim) (answeredAt : ℕ) (issue : TrackerIssue)
  | marking (claim : IntentClaim) (message : String) (failure : DomainError)
  | returned (result : Except DomainError IssueProjectionRow)

/-- A `createTrackedIssue` call. -/
structure CreateCall where
  input : PreparedCreate
  phase : CreatePhase

/-- Where a `syncIssueProjection` call stands. -/
inductive SyncPhase where
  | listing
  | saving (answeredAt : ℕ) (issues : List TrackerIssue)
  | returned

/-- A `syncIssueProjection` call. -/
structure SyncCall where
  orgId : String
  workspaceId : String
  phase : SyncPhase

/-- A call of `createIssue`, by the workspace and the key of the caller. -/
structure Invocation where
  call : ℕ
  workspaceId : String
  key : Option String
  deriving DecidableEq

/-- The tables and the calls; the calls of `createIssue` and its answers so far; every
answer of the tracker with its place in the order of answers, and for every projection
the place of the answer that was stored last. -/
structure IssueSystem where
  db : IssueDb
  creates : ℕ → Option CreateCall
  syncs : ℕ → Option SyncCall
  invocations : List Invocation
  created : List (Invocation × TrackerIssue)
  answers : List (ℕ × TrackerIssue)
  clock : ℕ
  stored : ProjectionKey → ℕ

/-- The system before any call. -/
def IssueSystem.empty : IssueSystem :=
  ⟨⟨[], []⟩, fun _ => none, fun _ => none, [], [], [], 0, fun _ => 0⟩

namespace IssueSystem

/-- The call moves on to a phase. -/
def setCreate (s : IssueSystem) (p : ℕ) (input : PreparedCreate) (phase : CreatePhase) :
    IssueSystem :=
  { s with creates := Function.update s.creates p (some ⟨input, phase⟩) }

/-- The sync moves on to a phase. -/
def setSync (s : IssueSystem) (p : ℕ) (orgId workspaceId : String) (phase : SyncPhase) :
    IssueSystem :=
  { s with syncs := Function.update s.syncs p (some ⟨orgId, workspaceId, phase⟩) }

end IssueSystem

/-- The invocation of `createIssue` by a call. -/
def PreparedCreate.invocation (input : PreparedCreate) (p : ℕ) : Invocation :=
  ⟨p, input.workspaceId, input.key⟩

/-- Where a claim leads: to the tracker, or straight back to the caller. -/
def afterClaim : IntentClaim → CreatePhase
  | .succeeded projection => .returned (.ok projection)
  | .conflict message =>
      .returned (.error ⟨"projectManagement.issueCreateIdempotencyConflict", message⟩)
  | claim => .calling claim

/-- The places of the projections an answer has been stored in. -/
def storeAnswer (workspaceId : String) (answeredAt : ℕ) (issues : List TrackerIssue)
    (stored : ProjectionKey → ℕ) : ProjectionKey → ℕ := fun key =>
  if ∃ issue ∈ issues, key = (workspaceId, issue.ref.repository, issue.ref.number) then answeredAt
  else stored key

/-- One step of the system. -/
inductive IssueStep : IssueSystem → IssueSystem → Prop
  | startCreate (s : IssueSystem) (p : ℕ) (raw : CreateTrackedIssueInput) (input : PreparedCreate)
      (prepared : prepareCreate raw = .ok input) (new : s.creates p = none) :
      IssueStep s (s.setCreate p input .claiming)
  | claim (s : IssueSystem) (p : ℕ) (input : PreparedCreate) (id : String) (now : Timestamp)
      {claim : IntentClaim} {db : IssueDb} (running : s.creates p = some ⟨input, .claiming⟩)
      (committed : claimIssueCreateIntent input id now s.db = some (claim, db)) :
      IssueStep s { s.setCreate p input (afterClaim claim) with db := db }
  | claimFailed (s : IssueSystem) (p : ℕ) (input : PreparedCreate)
      (running : s.creates p = some ⟨input, .claiming⟩) :
      IssueStep s (s.setCreate p input
        (.returned (.error ⟨"projectManagement.issueCreateIntentFailed",
          "Issue create idempotency guard could not be recorded."⟩)))
  | invoke (s : IssueSystem) (p : ℕ) (input : PreparedCreate) (claim : IntentClaim)
      (running : s.creates p = some ⟨input, .calling claim⟩) :
      IssueStep s { s.setCreate p input (.waiting claim) with
        invocations := s.invocations ++ [input.invocation p] }
  | answer (s : IssueSystem) (p : ℕ) (input : PreparedCreate) (claim : IntentClaim)
      (issue : TrackerIssue) (running : s.creates p = some ⟨input, .waiting claim⟩) :
      IssueStep s { s.setCreate p input (.projecting claim s.clock issue) with
        created := s.created ++ [(input.invocation p, issue)]
        answers := s.answers ++ [(s.clock, issue)]
        clock := s.clock + 1 }
  | refuse (s : IssueSystem) (p : ℕ) (input : PreparedCreate) (claim : IntentClaim)
      (failure : DomainError) (running : s.creates p = some ⟨input, .waiting claim⟩) :
      IssueStep s (s.setCreate p input (.marking claim failure.message failure))
  | project (s : IssueSystem) (p : ℕ) (input : PreparedCreate) (claim : IntentClaim)
      (answeredAt : ℕ) (issue : TrackerIssue) (syncedAt now : Timestamp) (id : String)
      {projection : IssueProjectionRow} {db : IssueDb}
      (running : s.creates p = some ⟨input, .projecting claim answeredAt issue⟩)
      (committed : projectTransaction input claim issue syncedAt now id s.db =
        some (projection, db)) :
      IssueStep s { s.setCreate p input (.returned (.ok projection)) with
        db := db
        stored := storeAnswer input.workspaceId answeredAt [issue] s.stored }
  | projectFailed (s : IssueSystem) (p : ℕ) (input : PreparedCreate) (claim : IntentClaim)
      (answeredAt : ℕ) (issue : TrackerIssue) (message : String)
      (running : s.creates p = some ⟨input, .projecting claim answeredAt issue⟩) :
      IssueStep s (s.setCreate p input (.marking claim message
        ⟨"projectManagement.issueCreateProjectionFailed",
          "Created issue could not be projected."⟩))
  | mark (s : IssueSystem) (p : ℕ) (input : PreparedCreate) (claim : IntentClaim)
      (message : String) (failure : DomainError) (now : Timestamp)
      (running : s.creates p = some ⟨input, .marking claim message failure⟩) :
      IssueStep s { s.setCreate p input (.returned (.error failure)) with
        db := markIssueCreateIntentFailed input claim message now s.db }
  | markFailed (s : IssueSystem) (p : ℕ) (input : PreparedCreate) (claim : IntentClaim)
      (message : String) (failure : DomainError)
      (running : s.creates p = some ⟨input, .marking claim message failure⟩) :
      IssueStep s (s.setCreate p input (.returned (.error failure)))
  | startSync (s : IssueSystem) (p : ℕ) (orgId workspaceId : String) (new : s.syncs p = none) :
      IssueStep s (s.setSync p orgId workspaceId .listing)
  | list (s : IssueSystem) (p : ℕ) (orgId workspaceId : String) (issues : List TrackerIssue)
      (running : s.syncs p = some ⟨orgId, workspaceId, .listing⟩) :
      IssueStep s { s.setSync p orgId workspaceId (.saving s.clock issues) with
        answers := s.answers ++ issues.map fun issue => (s.clock, issue)
        clock := s.clock + 1 }
  | save (s : IssueSystem) (p : ℕ) (orgId workspaceId : String) (answeredAt : ℕ)
      (issues : List TrackerIssue) (syncedAt : Timestamp) (ids : List String)
      {projections : List IssueProjectionRow} (enough : issues.length = ids.length)
      (running : s.syncs p = some ⟨orgId, workspaceId, .saving answeredAt issues⟩)
      (committed : syncTransaction orgId workspaceId syncedAt (issues.zip ids) s.db.projections =
        some projections) :
      IssueStep s { s.setSync p orgId workspaceId .returned with
        db := { s.db with projections := projections }
        stored := storeAnswer workspaceId answeredAt issues s.stored }
  | syncFailed (s : IssueSystem) (p : ℕ) (orgId workspaceId : String) (phase : SyncPhase)
      (running : s.syncs p = some ⟨orgId, workspaceId, phase⟩) :
      IssueStep s (s.setSync p orgId workspaceId .returned)

/-- The systems a run can reach. -/
def IssueReachable : IssueSystem → Prop := Relation.ReflTransGen IssueStep IssueSystem.empty

end Opzava.ProjectManagement
