import Opzava.RuntimeControl.AssistantTurns

/-!
The state machine of the turns, under every interleaving of the calls
(`assistant-conversation-lifecycle.ts`).

The three writers of a turn lock its row with their first statement that finds it, and
hold the lock until they commit. What a transaction writes is therefore computed from the
row that is committed when it commits.

* `TurnStatus.Step`: how a committed status may move.
* `Written`: the row a transaction commits, from the committed row it replaces.
* `turn_invariant`: the invariant of the tables, the log and every running transaction.
* `assistant_turn_machine`: what holds of every state of every run.
-/

namespace Opzava.RuntimeControl

open Opzava.Library
open Opzava.Library.ReadCommitted
open DevBoard (DomainError)
open ProjectManagement (Timestamp)

/-! ### The machine -/

/-- The moves of a committed status: from queued to streaming, and from one of these to
final or failed. -/
inductive TurnStatus.Step : TurnStatus → TurnStatus → Prop
  | stream : Step .queued .streaming
  | stop {status status' : TurnStatus} (running : canAppendAssistantDelta status = true)
      (terminal : isTerminalAssistantTurnStatus status' = true) : Step status status'

/-- A call that ends a turn: the turn, and the status it is given. -/
def TurnCall.stop (call : TurnCall) : Option (String × TurnStatus) :=
  match call with
  | .finalizeAssistantTurn turnId _ _ _ => some (turnId, .final)
  | .failAssistantTurn turnId _ _ => some (turnId, .failed)
  | _ => none

/-- The call inserts a turn. -/
def TurnCall.inserts (call : TurnCall) : Bool :=
  match call with
  | .appendUserTurn _ _ _ | .startAssistantTurn _ _ _ _ _ _ => true
  | _ => false

/-- The row of the turn, if the call has written it. -/
def TurnCommit.wrote (id : String) (entry : TurnCommit) : Option TurnRow :=
  entry.written.filter fun row => row.id = id

/-- The text a turn is inserted with. -/
def TurnCommit.insertedText (id : String) (entry : TurnCommit) : Option String :=
  if entry.call.inserts then (entry.wrote id).map fun row => contentText row.content else none

/-- The text a call has appended to the turn: the call has returned `ok`. -/
def TurnCommit.deltaText (id : String) (entry : TurnCommit) : Option String :=
  match entry.call, entry.result with
  | .appendAssistantDelta turnId deltaText, .ok _ => if turnId = id then some deltaText else none
  | _, _ => none

/-- The call ends the turn, and takes effect. -/
def TurnCommit.stops (id : String) (entry : TurnCommit) : Bool :=
  entry.call.stop.isSome && (entry.wrote id).isSome

/-- The text the turn began with. -/
def initialText (log : List TurnCommit) (id : String) : String :=
  (log.findSome? (TurnCommit.insertedText id)).getD ""

/-- The texts that have been appended to the turn, in the order of the commits. -/
def deltaTexts (log : List TurnCommit) (id : String) : List String :=
  log.filterMap (TurnCommit.deltaText id)

/-- What a call that ends the turn returns: the turn as it is stored, with the status of
the call, whether this call has written it or an earlier one; or that the transition is
invalid; or, if the turn was not stored when the call began, that there is none. -/
def StopOutcome (turns : List TurnRow) (known : Bool) (turnId : String) (status : TurnStatus)
    (result : Except DomainError TurnRow) (written : Option TurnRow) : Prop :=
  (∃ turn ∈ turns, (turn.id = turnId ∧ turn.role = .assistant ∧ turn.status = status) ∧
    result = .ok (rowToTurn turn) ∧ (written = some turn ∨ written = none)) ∨
  (written = none ∧ ∃ message, result = .error (invalidTurnTransition message)) ∨
  (written = none ∧ known = false ∧ result = .error turnNotFound)

/-- Every turn is still there, has moved as a status may, and has not changed if it was
final or failed. -/
def Evolves (turns turns' : List TurnRow) : Prop :=
  ∀ turn ∈ turns, ∃ turn' ∈ turns', (turn'.id = turn.id ∧
    turn'.organizationId = turn.organizationId ∧ turn'.workspaceId = turn.workspaceId) ∧
    Relation.ReflTransGen TurnStatus.Step turn.status turn'.status ∧
    (isTerminalAssistantTurnStatus turn.status = true → turn' = turn)

/-! ### Contents -/

lemma read_fieldsToJsonb {record : JsRecord} {name text : String}
    (h : JsRecord.read record name = .string text) :
    JsRecord.read (fieldsToJsonb record) name = .string text := by
  induction record with
  | nil => cases h
  | cons field rest ih =>
      obtain ⟨fieldName, value⟩ := field
      by_cases hname : fieldName = name
      · have hvalue : value = .string text := by simpa [JsRecord.read, hname] using h
        simp [hvalue, fieldsToJsonb, fieldToJsonb, toJsonb, JsRecord.read, hname]
      · have hrest : JsRecord.read rest name = .string text := by
          simpa [JsRecord.read, hname] using h
        have hread := ih hrest
        rw [fieldsToJsonb, fieldToJsonb]
        cases toJsonb value with
        | none => exact hread
        | some stored => simpa [JsRecord.read, hname] using hread

/-- A delta is appended to the text. -/
lemma contentText_withDelta (content : JsRecord) (deltaText : String) :
    contentText (fieldsToJsonb (contentWithDelta content deltaText)) =
      contentText content ++ deltaText := by
  have hread : JsRecord.read (contentWithDelta content deltaText) "text" =
      .string (contentText content ++ deltaText) := by
    rw [contentWithDelta, JsRecord.spread, List.foldl_cons, List.foldl_cons, List.foldl_nil,
      JsRecord.read_write, if_neg (show "text" ≠ "deltas" by decide), JsRecord.read_write, if_pos rfl]
  rw [contentText, read_fieldsToJsonb hread]

/-! ### The log -/

section Log

variable {log : List TurnCommit} {entry : TurnCommit} {id : String}

lemma initialText_append (h : (log.findSome? (TurnCommit.insertedText id)).isSome = true ∨
    entry.insertedText id = none) : initialText (log ++ [entry]) id = initialText log id := by
  rw [initialText, initialText, List.findSome?_append]
  rcases h with hsome | hnone
  · obtain ⟨text, htext⟩ := Option.isSome_iff_exists.mp hsome
    rw [htext]
    rfl
  · rw [List.findSome?_singleton, hnone, Option.or_none]

lemma deltaTexts_append : deltaTexts (log ++ [entry]) id =
    deltaTexts log id ++ (entry.deltaText id).toList := by
  rw [deltaTexts, List.filterMap_append]
  rfl

lemma length_stops_append : ((log ++ [entry]).filter (TurnCommit.stops id)).length =
    (log.filter (TurnCommit.stops id)).length + if entry.stops id = true then 1 else 0 := by
  rw [List.filter_append, List.length_append, List.filter_singleton]
  cases entry.stops id <;> rfl

/-- The call has nothing to do with the turn. -/
structure TurnCommit.Silent (id : String) (entry : TurnCommit) : Prop where
  inserted : entry.insertedText id = none
  delta : entry.deltaText id = none
  stops : entry.stops id = false

lemma initialText_of_silent (h : entry.Silent id) :
    initialText (log ++ [entry]) id = initialText log id :=
  initialText_append (.inr h.inserted)

lemma deltaTexts_of_silent (h : entry.Silent id) :
    deltaTexts (log ++ [entry]) id = deltaTexts log id := by
  rw [deltaTexts_append, h.delta]
  exact List.append_nil _

lemma stops_of_silent (h : entry.Silent id) :
    (log ++ [entry]).filter (TurnCommit.stops id) = log.filter (TurnCommit.stops id) := by
  rw [List.filter_append, List.filter_singleton, h.stops]
  exact List.append_nil _

/-- A turn no call has to do with is neither streamed nor ended. -/
lemma log_of_silent (h : ∀ entry ∈ log, entry.Silent id) :
    deltaTexts log id = [] ∧ log.filter (TurnCommit.stops id) = [] := by
  refine ⟨List.filterMap_eq_nil_iff.mpr fun entry hentry => (h entry hentry).delta, ?_⟩
  refine List.filter_eq_nil_iff.mpr fun entry hentry hstops => ?_
  cases (h entry hentry).stops.symm.trans hstops

/-- The first call that has to do with a turn inserts it. -/
lemma initialText_of_inserted (h : ∀ entry ∈ log, entry.Silent id) {text : String}
    (hinserted : entry.insertedText id = some text) : initialText (log ++ [entry]) id = text := by
  have hnone : log.findSome? (TurnCommit.insertedText id) = none :=
    List.findSome?_eq_none_iff.mpr fun entry hentry => (h entry hentry).inserted
  rw [initialText, List.findSome?_append, hnone, List.findSome?_singleton, hinserted]
  rfl

end Log

/-! ### The invariant -/

/-- What a call in the log has to do with the turns. -/
structure EntryOk (turns : List TurnRow) (entry : TurnCommit) : Prop where
  written : ∀ row, entry.written = some row → ∃ turn ∈ turns, turn.id = row.id
  delta : ∀ turnId deltaText, entry.call = .appendAssistantDelta turnId deltaText →
    ∀ turn, entry.result = .ok turn → ∃ row, entry.written = some row ∧ row.id = turnId
  stop : ∀ turnId status, entry.call.stop = some (turnId, status) →
    StopOutcome turns entry.known turnId status entry.result entry.written

/-- What holds of a committed turn, by the calls that have committed. -/
structure TurnOk (log : List TurnCommit) (turn : TurnRow) : Prop where
  settled : turn.status ≠ .finalizing
  finalizedAt : turn.finalizedAt ≠ none ↔ isTerminalAssistantTurnStatus turn.status = true
  user : turn.role ≠ .assistant → turn.status = .final
  text : canAppendAssistantDelta turn.status = true →
    contentText turn.content = initialText log turn.id ++ String.join (deltaTexts log turn.id)
  stops : (log.filter (TurnCommit.stops turn.id)).length =
    if turn.role = .assistant ∧ isTerminalAssistantTurnStatus turn.status = true then 1 else 0

/-- The invariant of the tables. -/
structure TablesOk (tables : TurnTables) : Prop where
  nodup : (tables.turns.map (·.id)).Nodup
  turns : ∀ turn ∈ tables.turns, TurnOk tables.log turn
  log : ∀ entry ∈ tables.log, EntryOk tables.turns entry

/-- An assistant turn that is queued or streaming, in the scope of a call. -/
structure RunningTurn (turns : List TurnRow) (context : TurnContext) (turnId : String)
    (turn : TurnRow) : Prop where
  mem : turn ∈ turns
  scope : inScope context turnId turn = true
  role : turn.role = .assistant
  status : canAppendAssistantDelta turn.status = true

/-- The turn a call inserts. -/
def TurnCall.newTurn (context : TurnContext) (env : TurnEnv) (call : TurnCall) : Option NewTurn :=
  match call with
  | .appendUserTurn conversationId idempotencyKey content =>
      some (userTurn context env conversationId idempotencyKey content)
  | .startAssistantTurn conversationId idempotencyKey assistantKey content sessionRef runRef =>
      some (assistantTurn conversationId idempotencyKey assistantKey content sessionRef runRef)
  | _ => none

/-- The row a call commits, from the committed turns. -/
inductive Written (turns : List TurnRow) (context : TurnContext) (env : TurnEnv) (call : TurnCall) :
    TurnRow → Prop
  | insert {turn : NewTurn} (hcall : call.newTurn context env = some turn)
      (fresh : ∀ old ∈ turns, old.id ≠ env.newId) :
      Written turns context env call (turn.row context env)
  | delta {turnId deltaText : String} {old : TurnRow}
      (hcall : call = .appendAssistantDelta turnId deltaText)
      (running : RunningTurn turns context turnId old) :
      Written turns context env call (old.streamed (contentWithDelta old.content deltaText) env.now)
  | finalize {turnId : String} {content : JsRecord} {sessionRef runRef : Option String}
      {old : TurnRow} (hcall : call = .finalizeAssistantTurn turnId content sessionRef runRef)
      (running : RunningTurn turns context turnId old) :
      Written turns context env call (old.finalized content sessionRef runRef env.now)
  | fail {turnId errorCode errorMessage : String} {old : TurnRow}
      (hcall : call = .failAssistantTurn turnId errorCode errorMessage)
      (running : RunningTurn turns context turnId old) :
      Written turns context env call
        (old.markedFailed (failedContent errorCode errorMessage) env.now)

/-- What a call returns that has written nothing. -/
structure Returned (turns : List TurnRow) (known : Bool) (call : TurnCall)
    (result : Except DomainError TurnRow) : Prop where
  delta : ∀ turnId deltaText, call = .appendAssistantDelta turnId deltaText →
    ∀ turn, result ≠ .ok turn
  stop : ∀ turnId status, call.stop = some (turnId, status) →
    StopOutcome turns known turnId status result none

/-- What a transaction has done, by the statement it is at. -/
def Stage (turns : List TurnRow) (tx : TurnTx) : Prop :=
  match tx.point with
  | .updateDelta content => tx.own = none ∧ ∃ turnId deltaText old,
      tx.call = .appendAssistantDelta turnId deltaText ∧
      RunningTurn turns tx.context turnId old ∧ TurnLock.turn old.id ∈ tx.locks ∧
      content = contentWithDelta old.content deltaText
  | .finalize => ∃ turnId content sessionRef runRef old,
      tx.call = .finalizeAssistantTurn turnId content sessionRef runRef ∧
      RunningTurn turns tx.context turnId old ∧ tx.own = some (old.claimed tx.env.now)
  | .finish result => (∃ row, tx.own = some row ∧ Written turns tx.context tx.env tx.call row ∧
      result = .ok (rowToTurn row)) ∨ (tx.own = none ∧ Returned turns tx.known tx.call result)
  | _ => tx.own = none

/-- The invariant of a running transaction. -/
structure TxOk (tables : TurnTables) (tx : TurnTx) : Prop where
  known : tx.known = true → ∃ turnId, tx.call.turnId = some turnId ∧
    ∃ turn ∈ tables.turns, inScope tx.context turnId turn = true
  locked : ∀ row, tx.own = some row → TurnLock.turn row.id ∈ tx.locks
  stage : Stage tables.turns tx

variable {tables : TurnTables} {tx tx' : TurnTx}

/-! ### Statements -/

/-- The body returns, and has written nothing. -/
lemma TxOk.returns (h : TxOk tables tx) (hown : tx.own = none) {result : Except DomainError TurnRow}
    (hreturned : Returned tables.turns tx.known tx.call result) :
    TxOk tables (tx.goto (.finish result)) :=
  ⟨h.known, h.locked, .inr ⟨hown, hreturned⟩⟩

/-- The body returns the row it has written. -/
lemma TxOk.writes (h : TxOk tables tx) {row : TurnRow} {locks : List TurnLock}
    (hwritten : Written tables.turns tx.context tx.env tx.call row) :
    TxOk tables ((tx.write row locks).goto (.finish (.ok (rowToTurn row)))) := by
  refine ⟨h.known, ?_, .inl ⟨row, rfl, hwritten, rfl⟩⟩
  intro own hown
  obtain rfl : row = own := Option.some.inj hown
  exact List.mem_cons_self

lemma view_of_none (h : tx.own = none) : tx.view tables = tables.turns := by
  rw [TurnTx.view, h]

lemma inScope_id {context : TurnContext} {turnId : String} {row : TurnRow}
    (h : inScope context turnId row = true) : row.id = turnId :=
  (of_decide_eq_true h).1

lemma insert_returned {turns : List TurnRow} {known : Bool} {call : TurnCall}
    (h : call.inserts = true) (result : Except DomainError TurnRow) :
    Returned turns known call result := by
  constructor
  · rintro turnId deltaText rfl
    cases h
  · intro turnId status hstop
    cases call with
    | appendUserTurn _ _ _ => cases hstop
    | startAssistantTurn _ _ _ _ _ _ => cases hstop
    | _ => cases h

/-- The statements of `appendUserTurn` and `startAssistantTurn`. -/
lemma TxOk.insertStatement (h : TxOk tables tx) {turn : NewTurn}
    (hturn : tx.call.newTurn tx.context tx.env = some turn) :
    TxOk tables (insertStatement turn tables tx) := by
  have hinserts : tx.call.inserts = true := by
    cases hcall : tx.call <;> rw [hcall] at hturn <;> first | rfl | cases hturn
  rw [RuntimeControl.insertStatement]
  have hstage := h.stage
  rw [Stage] at hstage
  split
  · rename_i hpoint
    rw [hpoint] at hstage
    split_ifs
    · exact ⟨h.known, h.locked, hstage⟩
    · exact h.returns hstage (insert_returned hinserts _)
  · rename_i hpoint
    rw [hpoint] at hstage
    split_ifs with hkey hid
    · exact ⟨h.known, h.locked, hstage⟩
    · exact ⟨h.known, h.locked, hstage⟩
    · refine h.writes (.insert hturn fun old hold heq => hid ?_)
      rw [view_of_none hstage]
      exact heq ▸ List.mem_map_of_mem hold
  · rename_i hpoint
    rw [hpoint] at hstage
    split
    · exact h.returns hstage (insert_returned hinserts _)
    · exact h.returns hstage (insert_returned hinserts _)
  · exact h

lemma isUpdatable_running {turns : List TurnRow} {context : TurnContext} {turnId : String}
    {row : TurnRow} (hmem : row ∈ turns)
    (h : isUpdatable context turnId [.queued, .streaming] row = true) :
    RunningTurn turns context turnId row := by
  obtain ⟨hscope, hrole, hstatus⟩ := of_decide_eq_true h
  refine ⟨hmem, hscope, hrole, ?_⟩
  rw [canAppendAssistantDelta]
  simpa using hstatus

lemma delta_returned {turns : List TurnRow} {known : Bool} {turnId deltaText : String}
    (error : DomainError) :
    Returned turns known (.appendAssistantDelta turnId deltaText) (.error error) := by
  constructor
  · intro turnId' deltaText' hcall turn hok
    cases hok
  · intro turnId' status hstop
    cases hstop

/-- The statements of `appendAssistantDelta`: the content that is written has been computed
from the turn as it is committed, because its row is locked. -/
lemma TxOk.appendAssistantDelta (hok : TablesOk tables) (h : TxOk tables tx)
    {turnId deltaText : String} (hcall : tx.call = .appendAssistantDelta turnId deltaText) :
    TxOk tables (appendAssistantDeltaStatement turnId deltaText tables tx) := by
  have hreturned : ∀ error, Returned tables.turns tx.known tx.call (.error error) := by
    intro error
    rw [hcall]
    exact delta_returned error
  rw [appendAssistantDeltaStatement]
  have hstage := h.stage
  rw [Stage] at hstage
  split
  · rename_i hpoint
    rw [hpoint] at hstage
    rw [view_of_none hstage]
    cases hfind : tables.turns.find? (inScope tx.context turnId) with
    | none => exact h.returns hstage (hreturned _)
    | some current =>
        have hmem := List.mem_of_find?_eq_some hfind
        have hscope := List.find?_some hfind
        have hlocked : ∀ row, tx.own = some row →
            TurnLock.turn row.id ∈ TurnLock.turn current.id :: tx.locks :=
          fun row hown => List.mem_cons_of_mem _ (h.locked row hown)
        dsimp only
        split_ifs with hstate
        · exact ⟨h.known, hlocked, .inr ⟨hstage, hreturned _⟩⟩
        · rw [not_or, not_not, Bool.not_eq_true', Bool.not_eq_false] at hstate
          exact ⟨h.known, hlocked, hstage, turnId, deltaText, current, hcall,
            ⟨hmem, hscope, hstate.1, hstate.2⟩, List.mem_cons_self, rfl⟩
  · rename_i content hpoint
    rw [hpoint] at hstage
    obtain ⟨hown, turnId', deltaText', old, hcall', hold, hlock, rfl⟩ := hstage
    obtain ⟨rfl, rfl⟩ : turnId' = turnId ∧ deltaText' = deltaText := by
      rw [hcall] at hcall'
      cases hcall'
      exact ⟨rfl, rfl⟩
    rw [view_of_none hown]
    cases hfind : tables.turns.find? (isUpdatable tx.context turnId' [.queued, .streaming]) with
    | none => exact h.returns hown (hreturned _)
    | some row =>
        have hrow := isUpdatable_running (List.mem_of_find?_eq_some hfind) (List.find?_some hfind)
        have hid : row.id = old.id := (inScope_id hrow.scope).trans (inScope_id hold.scope).symm
        obtain rfl : row = old := eq_of_unique hok.nodup hrow.mem hold.mem hid
        exact h.writes (.delta hcall hrow)
  · exact h

lemma stop_returned {turns : List TurnRow} {known : Bool} {call : TurnCall} {turnId : String}
    {status : TurnStatus} {result : Except DomainError TurnRow}
    (hstop : call.stop = some (turnId, status))
    (h : StopOutcome turns known turnId status result none) : Returned turns known call result := by
  constructor
  · rintro turnId' deltaText rfl
    cases hstop
  · intro turnId' status' hstop'
    obtain ⟨rfl, rfl⟩ := Prod.mk.inj (Option.some.inj (hstop.symm.trans hstop'))
    exact h

/-- The read after an update that has found nothing: the turn as it is stored, if it has
the status of the call. -/
lemma TxOk.selectStopped (h : TxOk tables tx) (hown : tx.own = none) {turnId message : String}
    {status : TurnStatus} (hstop : tx.call.stop = some (turnId, status))
    (hturnId : tx.call.turnId = some turnId) :
    TxOk tables (match (tx.view tables).find? (inScope tx.context turnId) with
      | none => tx.goto (.finish (.error turnNotFound))
      | some existing =>
          if existing.role = .assistant ∧ existing.status = status then
            tx.goto (.finish (.ok (rowToTurn existing)))
          else tx.goto (.finish (.error (invalidTurnTransition message)))) := by
  rw [view_of_none hown]
  cases hfind : tables.turns.find? (inScope tx.context turnId) with
  | none =>
      refine h.returns hown (stop_returned hstop (.inr (.inr ⟨rfl, ?_, rfl⟩)))
      rw [Bool.eq_false_iff]
      intro hknown
      obtain ⟨turnId', hturnId', turn, hmem, hscope⟩ := h.known hknown
      obtain rfl : turnId = turnId' := Option.some.inj (hturnId.symm.trans hturnId')
      exact List.find?_eq_none.mp hfind turn hmem hscope
  | some existing =>
      have hmem := List.mem_of_find?_eq_some hfind
      have hid := inScope_id (List.find?_some hfind)
      dsimp only
      split_ifs with hstate
      · exact h.returns hown (stop_returned hstop
          (.inl ⟨existing, hmem, ⟨hid, hstate⟩, rfl, .inr rfl⟩))
      · exact h.returns hown (stop_returned hstop (.inr (.inl ⟨rfl, message, rfl⟩)))

/-- The claim is the only turn a transaction finds that is being finalized. -/
lemma find_claimed {turnId : String} {old : TurnRow}
    (hold : RunningTurn tables.turns tx.context turnId old)
    (hown : tx.own = some (old.claimed tx.env.now)) :
    (tx.view tables).find? (isUpdatable tx.context turnId [.finalizing]) =
      some (old.claimed tx.env.now) := by
  have hview : tx.view tables = putRow TurnRow.id (old.claimed tx.env.now) tables.turns := by
    rw [TurnTx.view, hown]
  have hmem : old.claimed tx.env.now ∈ tx.view tables := hview ▸ mem_putRow.mpr (.inl rfl)
  have hclaimed : isUpdatable tx.context turnId [.finalizing] (old.claimed tx.env.now) = true :=
    decide_eq_true ⟨hold.scope, hold.role, List.mem_singleton.mpr rfl⟩
  cases hfind : (tx.view tables).find? (isUpdatable tx.context turnId [.finalizing]) with
  | none => exact absurd hclaimed (List.find?_eq_none.mp hfind _ hmem)
  | some row =>
      have hrow := List.find?_some hfind
      obtain ⟨hscope, -, -⟩ := of_decide_eq_true hrow
      rcases mem_putRow.mp (hview ▸ List.mem_of_find?_eq_some hfind) with rfl | ⟨-, hne⟩
      · rfl
      · exact absurd ((inScope_id hscope).trans (inScope_id hold.scope).symm) hne

/-- The statements of `finalizeAssistantTurn`: the claim is not lost. -/
lemma TxOk.finalizeAssistantTurn (h : TxOk tables tx) {turnId : String}
    {content : JsRecord} {sessionRef runRef : Option String}
    (hcall : tx.call = .finalizeAssistantTurn turnId content sessionRef runRef) :
    TxOk tables (finalizeAssistantTurnStatement turnId content sessionRef runRef tables tx) := by
  rw [finalizeAssistantTurnStatement]
  have hstage := h.stage
  rw [Stage] at hstage
  split
  · rename_i hpoint
    rw [hpoint] at hstage
    rw [view_of_none hstage]
    cases hfind : tables.turns.find? (isUpdatable tx.context turnId [.queued, .streaming]) with
    | none => exact ⟨h.known, h.locked, hstage⟩
    | some row =>
        have hrow := isUpdatable_running (List.mem_of_find?_eq_some hfind) (List.find?_some hfind)
        refine ⟨h.known, ?_, turnId, content, sessionRef, runRef, row, hcall, hrow, rfl⟩
        intro own hown
        obtain rfl : row.claimed tx.env.now = own := Option.some.inj hown
        exact List.mem_cons_self
  · rename_i hpoint
    rw [hpoint] at hstage
    obtain ⟨turnId', content', sessionRef', runRef', old, hcall', hold, hown⟩ := hstage
    obtain rfl : turnId = turnId' := by
      rw [hcall] at hcall'
      cases hcall'
      rfl
    rw [find_claimed hold hown]
    have hwritten : Written tables.turns tx.context tx.env tx.call
        (old.finalized content sessionRef runRef tx.env.now) := .finalize hcall hold
    exact h.writes hwritten
  · rename_i hpoint
    rw [hpoint] at hstage
    exact h.selectStopped hstage (by rw [hcall]; rfl) (by rw [hcall]; rfl)
  · exact h

/-- The statements of `failAssistantTurn`. -/
lemma TxOk.failAssistantTurn (hok : TablesOk tables) (h : TxOk tables tx)
    {turnId errorCode errorMessage : String}
    (hcall : tx.call = .failAssistantTurn turnId errorCode errorMessage) :
    TxOk tables (failAssistantTurnStatement turnId errorCode errorMessage tables tx) := by
  rw [failAssistantTurnStatement]
  have hstage := h.stage
  rw [Stage] at hstage
  split
  · rename_i hpoint
    rw [hpoint] at hstage
    rw [view_of_none hstage]
    cases hfind : tables.turns.find? (isUpdatable tx.context turnId
        [.queued, .streaming, .finalizing]) with
    | none => exact ⟨h.known, h.locked, hstage⟩
    | some row =>
        have hmem := List.mem_of_find?_eq_some hfind
        have hrow := List.find?_some hfind
        obtain ⟨hscope, hrole, hstatus⟩ := of_decide_eq_true hrow
        have hrunning : canAppendAssistantDelta row.status = true := by
          have hsettled := (hok.turns row hmem).settled
          simp only [List.mem_cons, List.not_mem_nil, or_false] at hstatus
          exact decide_eq_true (by tauto)
        exact h.writes (.fail hcall ⟨hmem, hscope, hrole, hrunning⟩)
  · rename_i hpoint
    rw [hpoint] at hstage
    exact h.selectStopped hstage (by rw [hcall]; rfl) (by rw [hcall]; rfl)
  · exact h

/-- Every statement keeps the invariant of its transaction. -/
lemma TxOk.statement (hok : TablesOk tables) (h : TxOk tables tx) :
    TxOk tables (tx.statement tables) := by
  rw [TurnTx.statement]
  split
  · rename_i hcall
    exact h.insertStatement (by rw [hcall]; rfl)
  · rename_i hcall
    exact h.insertStatement (by rw [hcall]; rfl)
  · rename_i hcall
    exact h.appendAssistantDelta hok hcall
  · rename_i hcall
    exact h.finalizeAssistantTurn hcall
  · rename_i hcall
    exact h.failAssistantTurn hok hcall

/-! ### Commits -/

lemma not_terminal_of_running {status : TurnStatus} (h : canAppendAssistantDelta status = true) :
    isTerminalAssistantTurnStatus status = false := by
  cases status <;> first | rfl | cases h

lemma stop_terminal {call : TurnCall} {turnId : String} {status : TurnStatus}
    (h : call.stop = some (turnId, status)) : isTerminalAssistantTurnStatus status = true := by
  cases call <;> cases h <;> rfl

lemma streaming_of_running {status : TurnStatus} (h : canAppendAssistantDelta status = true) :
    Relation.ReflTransGen TurnStatus.Step status .streaming := by
  rcases of_decide_eq_true h with rfl | rfl
  · exact .single .stream
  · exact .refl

/-- A row that is written is new, or moves the committed one of a running turn on. -/
lemma Written.cases {turns : List TurnRow} {context : TurnContext} {env : TurnEnv} {call : TurnCall}
    {row : TurnRow} (h : Written turns context env call row) :
    (∀ old ∈ turns, old.id ≠ row.id) ∨ ∃ turnId old, RunningTurn turns context turnId old ∧
      (row.id = old.id ∧ row.organizationId = old.organizationId ∧
        row.workspaceId = old.workspaceId) ∧
      Relation.ReflTransGen TurnStatus.Step old.status row.status := by
  cases h with
  | insert _ fresh => exact .inl fresh
  | delta _ running =>
      exact .inr ⟨_, _, running, ⟨rfl, rfl, rfl⟩, streaming_of_running running.status⟩
  | finalize _ running =>
      exact .inr ⟨_, _, running, ⟨rfl, rfl, rfl⟩, .single (.stop running.status rfl)⟩
  | fail _ running =>
      exact .inr ⟨_, _, running, ⟨rfl, rfl, rfl⟩, .single (.stop running.status rfl)⟩

lemma Evolves.refl (turns : List TurnRow) : Evolves turns turns :=
  fun turn hturn => ⟨turn, hturn, ⟨rfl, rfl, rfl⟩, .refl, fun _ => rfl⟩

lemma Evolves.trans {turns turns' turns'' : List TurnRow} (h : Evolves turns turns')
    (h' : Evolves turns' turns'') : Evolves turns turns'' := by
  intro turn hturn
  obtain ⟨turn', hturn', hsame, hmoves, hterminal⟩ := h turn hturn
  obtain ⟨turn'', hturn'', hsame', hmoves', hterminal'⟩ := h' turn' hturn'
  refine ⟨turn'', hturn'', ⟨hsame'.1.trans hsame.1, hsame'.2.1.trans hsame.2.1,
    hsame'.2.2.trans hsame.2.2⟩, hmoves.trans hmoves', fun hstatus => ?_⟩
  obtain rfl := hterminal hstatus
  exact hterminal' hstatus

/-- A write moves one turn on, or adds one. -/
lemma Written.evolves {turns : List TurnRow} {context : TurnContext} {env : TurnEnv}
    {call : TurnCall} {row : TurnRow} (hnodup : (turns.map (·.id)).Nodup)
    (h : Written turns context env call row) : Evolves turns (putRow TurnRow.id row turns) := by
  intro turn hturn
  by_cases hid : turn.id = row.id
  · rcases h.cases with hfresh | ⟨turnId, old, hold, hsame, hmoves⟩
    · exact absurd hid (hfresh turn hturn)
    · obtain rfl : turn = old := eq_of_unique hnodup hturn hold.mem (hid.trans hsame.1)
      refine ⟨row, mem_putRow.mpr (.inl rfl), hsame, hmoves, fun hterminal => ?_⟩
      cases (not_terminal_of_running hold.status).symm.trans hterminal
  · exact ⟨turn, mem_putRow.mpr (.inr ⟨hturn, hid⟩), ⟨rfl, rfl, rfl⟩, .refl, fun _ => rfl⟩

/-- What a transaction that has returned commits. -/
lemma TxOk.commit_cases (h : TxOk tables tx) (hfinished : tx.finished = true) :
    (∃ row, tx.own = some row ∧ Written tables.turns tx.context tx.env tx.call row ∧
      tx.commit tables = ⟨tables.conversations, putRow TurnRow.id row tables.turns,
        tables.log ++ [⟨tx.call, tx.known, .ok (rowToTurn row), some row⟩]⟩) ∨
    ∃ result, tx.own = none ∧ Returned tables.turns tx.known tx.call result ∧
      tx.commit tables = ⟨tables.conversations, tables.turns,
        tables.log ++ [⟨tx.call, tx.known, result, none⟩]⟩ := by
  cases hpoint : tx.point with
  | finish result =>
      have hstage := h.stage
      rw [Stage, hpoint] at hstage
      rcases hstage with ⟨row, hown, hwritten, rfl⟩ | ⟨hown, hreturned⟩
      · refine .inl ⟨row, hown, hwritten, ?_⟩
        rw [TurnTx.commit, hpoint, TurnTx.view, hown]
      · refine .inr ⟨result, hown, hreturned, ?_⟩
        rw [TurnTx.commit, hpoint, TurnTx.view, hown]
  | _ =>
      rw [TurnTx.finished, hpoint] at hfinished
      cases hfinished

lemma TxOk.commit_evolves (hok : TablesOk tables) (h : TxOk tables tx)
    (hfinished : tx.finished = true) : Evolves tables.turns (tx.commit tables).turns := by
  rcases h.commit_cases hfinished with ⟨row, -, hwritten, hcommit⟩ | ⟨result, -, -, hcommit⟩
  · rw [hcommit]
    exact hwritten.evolves hok.nodup
  · rw [hcommit]
    exact .refl _

lemma StopOutcome.mono {turns turns' : List TurnRow} {known : Bool} {turnId : String}
    {status : TurnStatus} {result : Except DomainError TurnRow} {written : Option TurnRow}
    (hterminal : isTerminalAssistantTurnStatus status = true) (hevolves : Evolves turns turns')
    (h : StopOutcome turns known turnId status result written) :
    StopOutcome turns' known turnId status result written := by
  rcases h with ⟨turn, hturn, hstate, hrest⟩ | hrest
  · obtain ⟨turn', hturn', -, -, hsame⟩ := hevolves turn hturn
    obtain rfl := hsame (by rw [hstate.2.2]; exact hterminal)
    exact .inl ⟨turn', hturn', hstate, hrest⟩
  · exact .inr hrest

lemma EntryOk.mono {turns turns' : List TurnRow} {entry : TurnCommit} (h : EntryOk turns entry)
    (hevolves : Evolves turns turns') : EntryOk turns' entry := by
  refine ⟨?_, h.delta, ?_⟩
  · intro row hrow
    obtain ⟨turn, hturn, hid⟩ := h.written row hrow
    obtain ⟨turn', hturn', hsame, -⟩ := hevolves turn hturn
    exact ⟨turn', hturn', hsame.1.trans hid⟩
  · intro turnId status hstop
    exact (h.stop turnId status hstop).mono (stop_terminal hstop) hevolves

/-- A call that has not written the turn has nothing to do with it. -/
lemma EntryOk.silent {turns : List TurnRow} {entry : TurnCommit} {id : String}
    (h : EntryOk turns entry) (hid : ∀ row, entry.written = some row → row.id ≠ id) :
    entry.Silent id := by
  have hwrote : entry.wrote id = none := by
    rw [TurnCommit.wrote, Option.filter_eq_none_iff]
    intro row hrow hcond
    exact hid row hrow (of_decide_eq_true hcond)
  refine ⟨?_, ?_, ?_⟩
  · rw [TurnCommit.insertedText, hwrote]
    split_ifs <;> rfl
  · rw [TurnCommit.deltaText]
    split
    · rename_i turnId deltaText turn hcall hresult
      obtain ⟨row, hrow, hrowId⟩ := h.delta turnId deltaText hcall turn hresult
      rw [if_neg (hrowId ▸ hid row hrow)]
    · rfl
  · rw [TurnCommit.stops, hwrote]
    exact Bool.and_false _

lemma TurnOk.append {log : List TurnCommit} {entry : TurnCommit} {turn : TurnRow}
    (h : TurnOk log turn) (hsilent : entry.Silent turn.id) : TurnOk (log ++ [entry]) turn := by
  refine ⟨h.settled, h.finalizedAt, h.user, ?_, ?_⟩
  · rw [initialText_of_silent hsilent, deltaTexts_of_silent hsilent]
    exact h.text
  · rw [stops_of_silent hsilent]
    exact h.stops

section Written

variable {context : TurnContext} {env : TurnEnv} {call : TurnCall} {row : TurnRow} {known : Bool}

/-- The call that commits a row, as it is logged. -/
def writtenEntry (call : TurnCall) (known : Bool) (row : TurnRow) : TurnCommit :=
  ⟨call, known, .ok (rowToTurn row), some row⟩

lemma Written.entryOk {turns : List TurnRow} (h : Written turns context env call row) :
    EntryOk (putRow TurnRow.id row turns) (writtenEntry call known row) := by
  have hmem : row ∈ putRow TurnRow.id row turns := mem_putRow.mpr (.inl rfl)
  refine ⟨?_, ?_, ?_⟩
  · intro own hown
    obtain rfl : row = own := Option.some.inj hown
    exact ⟨row, hmem, rfl⟩
  · intro turnId deltaText hcall _ _
    obtain rfl : call = .appendAssistantDelta turnId deltaText := hcall
    cases h with
    | insert hcall' _ => cases hcall'
    | delta hcall' running =>
        cases hcall'
        exact ⟨_, rfl, inScope_id running.scope⟩
    | finalize hcall' _ => cases hcall'
    | fail hcall' _ => cases hcall'
  · intro turnId status hstop
    replace hstop : call.stop = some (turnId, status) := hstop
    cases h with
    | insert hcall _ =>
        cases call with
        | finalizeAssistantTurn _ _ _ _ => cases hcall
        | failAssistantTurn _ _ _ => cases hcall
        | _ => cases hstop
    | delta hcall _ =>
        subst hcall
        cases hstop
    | finalize hcall running =>
        subst hcall
        cases hstop
        exact .inl ⟨_, hmem, ⟨inScope_id running.scope, running.role, rfl⟩, rfl, .inl rfl⟩
    | fail hcall running =>
        subst hcall
        cases hstop
        exact .inl ⟨_, hmem, ⟨inScope_id running.scope, running.role, rfl⟩, rfl, .inl rfl⟩

lemma wrote_self : (writtenEntry call known row).wrote row.id = some row := by
  rw [TurnCommit.wrote, writtenEntry, Option.filter_some, if_pos (decide_eq_true rfl)]

lemma stops_self : (writtenEntry call known row).stops row.id = call.stop.isSome := by
  rw [TurnCommit.stops, wrote_self]
  exact Bool.and_true _

lemma insertedText_self (h : call.inserts = true) :
    (writtenEntry call known row).insertedText row.id = some (contentText row.content) := by
  rw [TurnCommit.insertedText, wrote_self]
  exact if_pos h

/-- No call has to do with a turn that is not stored. -/
lemma TablesOk.silent (hok : TablesOk tables) {id : String}
    (hfresh : ∀ old ∈ tables.turns, old.id ≠ id) : ∀ entry ∈ tables.log, entry.Silent id := by
  intro entry hentry
  refine (hok.log entry hentry).silent fun row hrow heq => ?_
  obtain ⟨turn, hturn, hid⟩ := (hok.log entry hentry).written row hrow
  exact hfresh turn hturn (hid.trans heq)

/-- A new turn. -/
lemma TurnOk.inserted (hok : TablesOk tables) {turn : NewTurn}
    (hcall : call.newTurn context env = some turn)
    (hfresh : ∀ old ∈ tables.turns, old.id ≠ (turn.row context env).id) :
    TurnOk (tables.log ++ [writtenEntry call known (turn.row context env)])
      (turn.row context env) := by
  have hsilent := hok.silent hfresh
  obtain ⟨hdeltas, hstops⟩ := log_of_silent hsilent
  have hkind : call.inserts = true ∧ call.stop = none ∧
      (writtenEntry call known (turn.row context env)).deltaText (turn.row context env).id =
        none := by
    cases call <;> first | exact ⟨rfl, rfl, rfl⟩ | cases hcall
  obtain ⟨hinserts, hstop, hdelta⟩ := hkind
  have hshape : (turn.role = .user ∧ turn.status = .final ∧ turn.finalizedAt ≠ none) ∨
      (turn.role = .assistant ∧ turn.status = .queued ∧ turn.finalizedAt = none) := by
    cases call with
    | appendUserTurn _ _ _ =>
        cases hcall
        exact .inl ⟨rfl, rfl, Option.some_ne_none _⟩
    | startAssistantTurn _ _ _ _ _ _ =>
        cases hcall
        exact .inr ⟨rfl, rfl, rfl⟩
    | _ => cases hcall
  have htext : contentText (turn.row context env).content =
      initialText (tables.log ++ [writtenEntry call known (turn.row context env)])
        (turn.row context env).id ++
      String.join (deltaTexts (tables.log ++ [writtenEntry call known (turn.row context env)])
        (turn.row context env).id) := by
    rw [initialText_of_inserted hsilent (insertedText_self hinserts), deltaTexts_append, hdeltas,
      hdelta]
    simp
  have hcount : ((tables.log ++ [writtenEntry call known (turn.row context env)]).filter
      (TurnCommit.stops (turn.row context env).id)).length = 0 := by
    rw [length_stops_append, stops_self, hstop, hstops]
    rfl
  rcases hshape with ⟨hrole, hstatus, hfinalizedAt⟩ | ⟨hrole, hstatus, hfinalizedAt⟩
  · have hrow : (turn.row context env).role = .user ∧ (turn.row context env).status = .final ∧
        (turn.row context env).finalizedAt ≠ none := ⟨hrole, hstatus, hfinalizedAt⟩
    refine ⟨?_, ?_, fun _ => hrow.2.1, fun _ => htext, ?_⟩
    · rw [hrow.2.1]
      exact TurnStatus.noConfusion
    · rw [hrow.2.1]
      exact ⟨fun _ => rfl, fun _ => hrow.2.2⟩
    · rw [hcount, hrow.1, if_neg]
      exact fun h => TurnRole.noConfusion h.1
  · have hrow : (turn.row context env).role = .assistant ∧
        (turn.row context env).status = .queued ∧ (turn.row context env).finalizedAt = none :=
      ⟨hrole, hstatus, hfinalizedAt⟩
    refine ⟨?_, ?_, fun hne => absurd hrow.1 hne, fun _ => htext, ?_⟩
    · rw [hrow.2.1]
      exact TurnStatus.noConfusion
    · rw [hrow.2.1, hrow.2.2]
      exact ⟨fun h => absurd rfl h, fun h => nomatch h⟩
    · rw [hcount, hrow.2.1, if_neg]
      exact fun h => nomatch h.2

/-- Facts of a turn that is queued or streaming. -/
lemma TurnOk.of_running {log : List TurnCommit} {turn : TurnRow} (h : TurnOk log turn)
    (hstatus : canAppendAssistantDelta turn.status = true) :
    turn.finalizedAt = none ∧ (log.filter (TurnCommit.stops turn.id)).length = 0 := by
  have hterminal := not_terminal_of_running hstatus
  constructor
  · by_contra hsome
    cases hterminal.symm.trans (h.finalizedAt.mp hsome)
  · rw [h.stops, if_neg]
    exact fun hboth => nomatch hterminal.symm.trans hboth.2

/-- A turn with one more delta. -/
lemma TurnOk.streamed {log : List TurnCommit} {old : TurnRow} {turnId deltaText : String}
    (h : TurnOk log old) (hid : old.id = turnId) (hrole : old.role = .assistant)
    (hstatus : canAppendAssistantDelta old.status = true) :
    TurnOk (log ++ [writtenEntry (.appendAssistantDelta turnId deltaText) known
        (old.streamed (contentWithDelta old.content deltaText) env.now)])
      (old.streamed (contentWithDelta old.content deltaText) env.now) := by
  obtain ⟨hfinalizedAt, hcount⟩ := h.of_running hstatus
  refine ⟨TurnStatus.noConfusion, ⟨fun hsome => absurd hfinalizedAt hsome, fun hterminal =>
    nomatch hterminal⟩, fun hne => absurd hrole hne, fun _ => ?_, ?_⟩
  · have hdelta : (writtenEntry (.appendAssistantDelta turnId deltaText) known
        (old.streamed (contentWithDelta old.content deltaText) env.now)).deltaText old.id =
        some deltaText := if_pos hid.symm
    change contentText (fieldsToJsonb (contentWithDelta old.content deltaText)) =
      initialText _ old.id ++ String.join (deltaTexts _ old.id)
    rw [contentText_withDelta, initialText_append (.inr rfl), deltaTexts_append, hdelta,
      String.join_append, ← String.append_assoc, ← h.text hstatus]
    simp
  · change (List.filter (TurnCommit.stops old.id) _).length = _
    rw [length_stops_append, hcount, if_neg, if_neg]
    · exact fun hboth => nomatch hboth.2
    · exact Bool.false_ne_true

/-- A turn that is ended. -/
lemma TurnOk.stopped {log : List TurnCommit} {old : TurnRow} {status : TurnStatus}
    {turnId : String} (h : TurnOk log old) (hstop : call.stop = some (turnId, status))
    (hid : row.id = old.id) (hrole : row.role = .assistant)
    (hstatus : canAppendAssistantDelta old.status = true) (hrow : row.status = status)
    (hfinalizedAt : row.finalizedAt ≠ none) :
    TurnOk (log ++ [writtenEntry call known row]) row := by
  have hterminal : isTerminalAssistantTurnStatus row.status = true := by
    rw [hrow]
    exact stop_terminal hstop
  refine ⟨?_, ⟨fun _ => hterminal, fun _ => hfinalizedAt⟩, fun hne => absurd hrole hne, ?_, ?_⟩
  · intro hfinalizing
    rw [hfinalizing] at hterminal
    cases hterminal
  · intro hrunning
    cases (not_terminal_of_running hrunning).symm.trans hterminal
  · obtain ⟨-, hcount⟩ := h.of_running hstatus
    have hboth : row.role = .assistant ∧ isTerminalAssistantTurnStatus row.status = true :=
      ⟨hrole, hterminal⟩
    rw [length_stops_append, stops_self, hstop, hid, hcount, if_pos hboth]
    rfl

/-- The row a call commits. -/
lemma Written.turnOk (hok : TablesOk tables) (h : Written tables.turns context env call row) :
    TurnOk (tables.log ++ [writtenEntry call known row]) row := by
  cases h with
  | insert hcall fresh => exact .inserted hok hcall fresh
  | delta hcall running =>
      subst hcall
      exact (hok.turns _ running.mem).streamed (inScope_id running.scope) running.role running.status
  | finalize hcall running =>
      subst hcall
      exact (hok.turns _ running.mem).stopped rfl rfl running.role running.status rfl
        (Option.some_ne_none _)
  | fail hcall running =>
      subst hcall
      exact (hok.turns _ running.mem).stopped rfl rfl running.role running.status rfl
        (Option.some_ne_none _)

end Written

lemma TablesOk.commit (hok : TablesOk tables) (h : TxOk tables tx) (hfinished : tx.finished = true) :
    TablesOk (tx.commit tables) := by
  rcases h.commit_cases hfinished with ⟨row, -, hwritten, hcommit⟩ |
    ⟨result, -, hreturned, hcommit⟩
  · have hentry : EntryOk _ (writtenEntry tx.call tx.known row) := hwritten.entryOk
    rw [hcommit]
    refine ⟨nodup_map_putRow hok.nodup, ?_, ?_⟩
    · intro turn hturn
      rcases mem_putRow.mp hturn with rfl | ⟨hold, hid⟩
      · exact hwritten.turnOk hok
      · refine (hok.turns turn hold).append (hentry.silent ?_)
        intro own hown heq
        obtain rfl : row = own := Option.some.inj hown
        exact hid heq.symm
    · intro entry hmem
      rcases List.mem_append.mp hmem with hold | hnew
      · exact (hok.log entry hold).mono (hwritten.evolves hok.nodup)
      · obtain rfl := List.mem_singleton.mp hnew
        exact hentry
  · have hentry : EntryOk tables.turns ⟨tx.call, tx.known, result, none⟩ := by
      refine ⟨?_, ?_, hreturned.stop⟩
      · intro row hrow
        cases hrow
      · intro turnId deltaText hcall turn hturn
        exact absurd hturn (hreturned.delta turnId deltaText hcall turn)
    rw [hcommit]
    refine ⟨hok.nodup, ?_, ?_⟩
    · intro turn hturn
      refine (hok.turns turn hturn).append (hentry.silent ?_)
      intro row hrow
      cases hrow
    · intro entry hmem
      rcases List.mem_append.mp hmem with hold | hnew
      · exact hok.log entry hold
      · obtain rfl := List.mem_singleton.mp hnew
        exact hentry

/-- A running turn another transaction has not locked is still there after its commit. -/
lemma RunningTurn.commit {context : TurnContext} {turnId : String} {old : TurnRow}
    (h : TxOk tables tx) (hfinished : tx.finished = true)
    (hrunning : RunningTurn tables.turns context turnId old)
    (hunlocked : TurnLock.turn old.id ∉ tx.locks) :
    RunningTurn (tx.commit tables).turns context turnId old := by
  refine ⟨?_, hrunning.scope, hrunning.role, hrunning.status⟩
  rcases h.commit_cases hfinished with ⟨row, hown, -, hcommit⟩ | ⟨result, -, -, hcommit⟩
  · rw [hcommit]
    refine mem_putRow.mpr (.inr ⟨hrunning.mem, fun heq => hunlocked ?_⟩)
    rw [heq]
    exact h.locked row hown
  · rw [hcommit]
    exact hrunning.mem

/-- What a transaction is to commit stays so while another one commits, because its row is
locked. -/
lemma Written.commit {context : TurnContext} {env : TurnEnv} {call : TurnCall} {row : TurnRow}
    (h : TxOk tables tx) (hfinished : tx.finished = true)
    (hwritten : Written tables.turns context env call row)
    (hunlocked : TurnLock.turn row.id ∉ tx.locks) :
    Written (tx.commit tables).turns context env call row := by
  cases hwritten with
  | insert hcall fresh =>
      refine .insert hcall fun old hold => ?_
      rcases h.commit_cases hfinished with ⟨own, hown, -, hcommit⟩ | ⟨result, -, -, hcommit⟩
      · rw [hcommit] at hold
        rcases mem_putRow.mp hold with rfl | ⟨hmem, -⟩
        · intro heq
          have hlocked := h.locked old hown
          rw [heq] at hlocked
          exact hunlocked hlocked
        · exact fresh old hmem
      · rw [hcommit] at hold
        exact fresh old hold
  | delta hcall running => exact .delta hcall (running.commit h hfinished hunlocked)
  | finalize hcall running => exact .finalize hcall (running.commit h hfinished hunlocked)
  | fail hcall running => exact .fail hcall (running.commit h hfinished hunlocked)

lemma Returned.mono {turns turns' : List TurnRow} {known : Bool} {call : TurnCall}
    {result : Except DomainError TurnRow} (h : Returned turns known call result)
    (hevolves : Evolves turns turns') : Returned turns' known call result :=
  ⟨h.delta, fun turnId status hstop =>
    (h.stop turnId status hstop).mono (stop_terminal hstop) hevolves⟩

lemma Stage.commit (hok : TablesOk tables) (h : TxOk tables tx) (hfinished : tx.finished = true)
    (h' : TxOk tables tx') (hlocks : ∀ lock ∈ tx.locks, lock ∉ tx'.locks) :
    Stage (tx.commit tables).turns tx' := by
  have hstage := h'.stage
  rw [Stage] at hstage ⊢
  split at hstage
  · obtain ⟨hown, turnId, deltaText, old, hcall, hrunning, hlock, hcontent⟩ := hstage
    refine ⟨hown, turnId, deltaText, old, hcall, hrunning.commit h hfinished ?_, hlock, hcontent⟩
    exact fun hlocked => hlocks _ hlocked hlock
  · obtain ⟨turnId, content, sessionRef, runRef, old, hcall, hrunning, hown⟩ := hstage
    refine ⟨turnId, content, sessionRef, runRef, old, hcall, hrunning.commit h hfinished ?_, hown⟩
    exact fun hlocked => hlocks _ hlocked (h'.locked (old.claimed tx'.env.now) hown)
  · rcases hstage with ⟨row, hown, hwritten, hresult⟩ | ⟨hown, hreturned⟩
    · refine .inl ⟨row, hown, hwritten.commit h hfinished ?_, hresult⟩
      exact fun hlocked => hlocks _ hlocked (h'.locked row hown)
    · exact .inr ⟨hown, hreturned.mono (h.commit_evolves hok hfinished)⟩
  · exact hstage

lemma TxOk.others (hok : TablesOk tables) (h : TxOk tables tx) (hfinished : tx.finished = true)
    (h' : TxOk tables tx') (hlocks : ∀ lock ∈ tx.locks, lock ∉ tx'.locks) :
    TxOk (tx.commit tables) tx' := by
  refine ⟨?_, h'.locked, .commit hok h hfinished h' hlocks⟩
  intro hknown
  obtain ⟨turnId, hturnId, turn, hturn, hscope⟩ := h'.known hknown
  obtain ⟨turn', hturn', hsame, -⟩ := h.commit_evolves hok hfinished turn hturn
  refine ⟨turnId, hturnId, turn', hturn', ?_⟩
  rw [inScope, hsame.1, hsame.2.1, hsame.2.2]
  exact hscope

lemma TxOk.start (h : tx.initial tables = true) : TxOk tables tx := by
  rw [TurnTx.initial, Bool.and_eq_true, Bool.and_eq_true] at h
  obtain ⟨⟨hknown, hown⟩, hpoint⟩ := h
  rw [Option.isNone_iff_eq_none] at hown
  refine ⟨?_, ?_, ?_⟩
  · intro htrue
    rw [of_decide_eq_true hknown, isKnown, Option.any_eq_true] at htrue
    obtain ⟨turnId, hturnId, hany⟩ := htrue
    exact ⟨turnId, hturnId, List.any_eq_true.mp hany⟩
  · intro row hrow
    cases hown.symm.trans hrow
  · rw [Stage]
    split at hpoint <;> first | (rename_i heq; rw [heq]; exact hown) | cases hpoint

/-- The invariant of the five calls. -/
lemma turn_invariant : Invariant turnProgram noConflict TablesOk TxOk where
  start _ hinitial := TxOk.start hinitial
  statement hok htx _ := htx.statement hok
  commit hok htx hfinished := hok.commit htx hfinished
  others hok htx hfinished htx' _ hlocks := htx.others hok hfinished htx' hlocks

/-! ### Runs -/

/-- The tables before any turn. -/
def TurnTables.empty (conversations : List ConversationRow) : TurnTables :=
  ⟨conversations, [], []⟩

/-- What holds of the committed tables, and of those of a later state. -/
structure TurnMachine (tables tables' : TurnTables) : Prop where
  /-- A turn is known by its id. -/
  ids : (tables.turns.map (·.id)).Nodup
  /-- Statuses move as they may, and a turn that is final or failed does not change. -/
  evolves : Evolves tables.turns tables'.turns
  settled : ∀ turn ∈ tables.turns, turn.status ≠ .finalizing
  finalizedAt : ∀ turn ∈ tables.turns,
    turn.finalizedAt ≠ none ↔ turn.status = .final ∨ turn.status = .failed
  user : ∀ turn ∈ tables.turns, turn.role = .user → turn ∈ tables'.turns
  /-- One call that ends the turn has taken effect if it is final or failed, and none if it
  is not. -/
  once : ∀ turn ∈ tables.turns, turn.role = .assistant →
    (tables.log.filter (TurnCommit.stops turn.id)).length =
      if turn.status = .final ∨ turn.status = .failed then 1 else 0
  /-- Every call that ends a turn returns the turn as it is stored, or that the transition is
  invalid. -/
  outcomes : ∀ entry ∈ tables.log, ∀ turnId status, entry.call.stop = some (turnId, status) →
    StopOutcome tables.turns entry.known turnId status entry.result entry.written
  /-- No delta is lost, and none is written twice. -/
  text : ∀ turn ∈ tables.turns, turn.status = .streaming →
    contentText turn.content =
      initialText tables.log turn.id ++ String.join (deltaTexts tables.log turn.id)

lemma TablesOk.empty (conversations : List ConversationRow) :
    TablesOk (.empty conversations) := by
  refine ⟨List.nodup_nil, ?_, ?_⟩
  · intro turn hturn
    cases hturn
  · intro entry hentry
    cases hentry

/-- **The state machine of the turns**: it holds of every state of every interleaving of the
five calls, and of every later one. -/
theorem assistant_turn_machine (conversations : List ConversationRow)
    {s s' : Running TurnTables TurnTx}
    (h : Run turnProgram noConflict (.idle (.empty conversations)) s)
    (h' : Run turnProgram noConflict s s') : TurnMachine s.tables s'.tables := by
  have hs := turn_invariant.run (.idle (TablesOk.empty conversations)) h
  have hok := hs.tables
  have hevolves : Evolves s.tables.turns s'.tables.turns :=
    turn_invariant.run_tables (R := fun tables tables' => Evolves tables.turns tables'.turns)
      (fun tables => .refl tables.turns) (fun hab hbc => hab.trans hbc)
      (fun hok htx hfinished => htx.commit_evolves hok hfinished) hs h'
  have hterminal : ∀ {status : TurnStatus}, isTerminalAssistantTurnStatus status = true ↔
      status = .final ∨ status = .failed := decide_eq_true_iff
  refine ⟨hok.nodup, hevolves, fun turn hturn => (hok.turns turn hturn).settled, ?_, ?_, ?_, ?_, ?_⟩
  · intro turn hturn
    rw [(hok.turns turn hturn).finalizedAt, hterminal]
  · intro turn hturn hrole
    have hstatus : turn.status = .final := (hok.turns turn hturn).user (by rw [hrole]; nofun)
    obtain ⟨turn', hturn', -, -, hsame⟩ := hevolves turn hturn
    rwa [hsame (hterminal.mpr (.inl hstatus))] at hturn'
  · intro turn hturn hrole
    rw [(hok.turns turn hturn).stops]
    exact if_congr (by rw [hterminal]; exact and_iff_right hrole) rfl rfl
  · exact fun entry hentry => (hok.log entry hentry).stop
  · intro turn hturn hstatus
    exact (hok.turns turn hturn).text (by rw [hstatus]; rfl)

/-! ### A run -/

/-- The caller. -/
def sampleContext : TurnContext := ⟨"org", "ws", "user"⟩

/-- The conversation. -/
def sampleConversations : List ConversationRow := [⟨"conversation", "org", "ws"⟩]

/-- A turn is started. -/
def startSample : TurnTx :=
  .start sampleContext ⟨1, "turn"⟩
    (.startAssistantTurn "conversation" "key" "assistant" [("text", .string "a")] none none) false

/-- A delta is appended. -/
def deltaSample (now : Timestamp) (text : String) : TurnTx :=
  .start sampleContext ⟨now, "unused"⟩ (.appendAssistantDelta "turn" text) true

/-- The turn is finalized. -/
def finalizeSample : TurnTx :=
  .start sampleContext ⟨4, "unused"⟩
    (.finalizeAssistantTurn "turn" [("text", .string "final")] none none) true

/-- The turn is failed. -/
def failSample : TurnTx :=
  .start sampleContext ⟨5, "unused"⟩ (.failAssistantTurn "turn" "code" "message") true

/-- The turn is started, and two deltas are appended; the second waits for the first. -/
def streamingEvents : List (Event TurnTx) :=
  [.start 0 startSample, .statement 0, .statement 0, .commit 0, .start 0 (deltaSample 2 "b"),
    .start 1 (deltaSample 3 "c"), .statement 0, .statement 0, .commit 0, .statement 1,
    .statement 1, .commit 1]

/-- The turn is finalized while a call begins that is to fail it. -/
def stoppingEvents : List (Event TurnTx) :=
  [.start 0 finalizeSample, .start 1 failSample, .statement 0, .statement 0, .commit 0,
    .statement 1, .statement 1, .commit 1]

/-- The state in which the turn is streaming. -/
def streamingState : Running TurnTables TurnTx :=
  outcome turnProgram noConflict 2 (.idle (.empty sampleConversations)) streamingEvents

/-- The state in which the turn is final. -/
def stoppedState : Running TurnTables TurnTx :=
  outcome turnProgram noConflict 2 streamingState stoppingEvents

/-- A turn that is streaming, and then final. -/
theorem assistant_turn_machine_stopped :
    (streamingState.tables.turns.map fun turn => (turn.status, contentText turn.content)) =
      [(.streaming, "abc")] ∧
    (stoppedState.tables.turns.map fun turn => (turn.status, contentText turn.content)) =
      [(.final, "final")] ∧
    stoppedState.tables.log.length = 5 ∧
    TurnMachine streamingState.tables stoppedState.tables := by
  obtain ⟨hbounded, hrun⟩ := run_outcome turnProgram noConflict streamingEvents
    (.idle 2 (.empty sampleConversations)) (by decide)
  obtain ⟨-, hrun'⟩ := run_outcome turnProgram noConflict stoppingEvents hbounded
    (by decide)
  exact ⟨by decide, by decide, by decide,
    assistant_turn_machine sampleConversations hrun hrun'⟩

end Opzava.RuntimeControl
