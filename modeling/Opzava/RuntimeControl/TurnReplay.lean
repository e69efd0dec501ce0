import Opzava.RuntimeControl.TurnMachine

/-!
Repeated calls that create a turn (`assistant-conversation-lifecycle.ts`).

The index on the organization, the conversation and the idempotency key makes one turn of
all the calls with the same key. A call that finds the turn compares its own payload with
the turn as it is stored, and the content that is stored is the one the last delta, or the
end of the turn, has left.

* `key_invariant`: keys are unique, and a call that has returned a turn has found it by its
  key.
* `KeepsKeys`: what no command changes of a turn.
* `turn_replay_iff`: when a repeated call returns the turn, and one with another payload is
  refused.
-/

namespace Opzava.RuntimeControl

open Opzava.Library
open Opzava.Library.ReadCommitted
open DevBoard (DomainError)
open ProjectManagement (Timestamp bind_eq_ok)

/-! ### Payloads -/

/-- The columns of the unique index. -/
def TurnRow.key (row : TurnRow) : String × String × String :=
  (row.organizationId, row.conversationId, row.idempotencyKey)

/-- The key of a new turn. -/
def NewTurn.key (turn : NewTurn) (context : TurnContext) : String × String × String :=
  (context.orgId, turn.conversationId, turn.idempotencyKey)

/-- The turn has the role, the actor and the assistant a replay expects. -/
def ExpectedTurn.agrees (expected : ExpectedTurn) (turn : TurnRow) : Bool :=
  turn.role = expected.role ∧ expected.actorUserId.all (fun actor => turn.actorUserId = actor) ∧
    expected.assistantKey.all (fun key => turn.assistantKey = key)

/-- Two turns of one payload: the role, the actor of a user turn, the assistant of an
assistant turn, and the content as JSON. -/
def NewTurn.samePayload (turn turn' : NewTurn) : Bool :=
  turn.role = turn'.role ∧ turn.actorUserId = turn'.actorUserId ∧
    turn.assistantKey = turn'.assistantKey ∧ sameJson turn.content turn'.content

lemma validateIdempotentTurnReplay_eq (existing : TurnRow) (expected : ExpectedTurn) :
    validateIdempotentTurnReplay existing expected =
      if expected.agrees existing ∧ sameJson existing.content expected.content then .ok existing
      else .error idempotencyConflict := by
  rw [validateIdempotentTurnReplay, ExpectedTurn.agrees]
  by_cases hrole : existing.role = expected.role <;>
    cases expected.actorUserId.all fun actor => decide (existing.actorUserId = actor) <;>
    cases expected.assistantKey.all fun key => decide (existing.assistantKey = key) <;>
    cases sameJson existing.content expected.content <;> simp [hrole]

lemma hasKey_iff {context : TurnContext} {turn : NewTurn} {row : TurnRow} :
    hasKey context turn row = true ↔ row.key = turn.key context := by
  rw [hasKey, decide_eq_true_iff, TurnRow.key, NewTurn.key, Prod.mk.injEq, Prod.mk.injEq]

/-! ### Calls -/

/-- What the call returns when its body throws. -/
def TurnCall.failed (call : TurnCall) : DomainError :=
  match call with
  | .appendUserTurn _ _ _ =>
      ⟨"runtimeControl.userTurnAppendFailed", "User turn could not be appended."⟩
  | .startAssistantTurn _ _ _ _ _ _ =>
      ⟨"runtimeControl.assistantTurnStartFailed", "Assistant turn could not be started."⟩
  | .appendAssistantDelta _ _ =>
      ⟨"runtimeControl.assistantDeltaAppendFailed", "Assistant delta could not be appended."⟩
  | .finalizeAssistantTurn _ _ _ _ =>
      ⟨"runtimeControl.assistantTurnFinalizeFailed", "Assistant turn could not be finalized."⟩
  | .failAssistantTurn _ _ _ =>
      ⟨"runtimeControl.assistantTurnFailFailed", "Assistant turn could not be marked failed."⟩

/-- The body of a transaction, with no commit between its statements: no call has more than
three. -/
def TurnTx.body (tables : TurnTables) (tx : TurnTx) : TurnTx := (TurnTx.statement tables)^[3] tx

/-- A call that is made in a state: what it returns, and what it writes. -/
def respond (tables : TurnTables) (context : TurnContext) (env : TurnEnv)
    (decision : Except DomainError Bool) (call : TurnCall) :
    Except DomainError TurnRow × Option TurnRow :=
  match beginCall context env decision call tables with
  | .error error => (.error error, none)
  | .ok tx =>
      match (tx.body tables).point with
      | .finish result => (result, (tx.body tables).own)
      | _ => (.error call.failed, none)

/-- What is promised of the key of a call that has returned a turn: the call returns the turn
again and writes nothing, and a call with the same key and another payload is refused and
writes nothing. -/
structure Replays (tables : TurnTables) (context : TurnContext) (decision : Except DomainError Bool)
    (call : TurnCall) (turn : NewTurn) (turnId : String) : Prop where
  same : ∀ env, ∃ returned, respond tables context env decision call = (.ok returned, none) ∧
    returned.id = turnId
  different : ∀ context' env' decision' call' checked turn',
    checkCall context' decision' call' = .ok checked →
    checked.newTurn context' env' = some turn' →
    context'.orgId = context.orgId → context'.workspaceId = context.workspaceId →
    turn'.conversationId = turn.conversationId → turn'.idempotencyKey = turn.idempotencyKey →
    turn.samePayload turn' = false →
    respond tables context' env' decision' call' = (.error idempotencyConflict, none)

/-! ### The invariant -/

/-- The conversation of the turn is in the scope of the call. -/
def inConversation (tables : TurnTables) (context : TurnContext) (turn : NewTurn) : Bool :=
  tables.conversations.any fun row => row.id = turn.conversationId ∧
    row.organizationId = context.orgId ∧ row.workspaceId = context.workspaceId

/-- A committed turn that a call has returned. -/
structure Found (turns : List TurnRow) (context : TurnContext) (turn : NewTurn) (id : String)
    (row : TurnRow) : Prop where
  mem : row ∈ turns
  id_eq : row.id = id
  key : row.key = turn.key context
  agrees : turn.expected.agrees (rowToTurn row) = true

/-- What a call that creates a turn has done, by the statement it is at. -/
structure Creates (tables : TurnTables) (context : TurnContext) (env : TurnEnv) (turn : NewTurn)
    (point : TurnPoint) (own : Option TurnRow) (locks : List TurnLock) : Prop where
  conversation : (point = .insertTurn ∨ point = .selectExisting ∨ ∃ t, point = .finish (.ok t)) →
    inConversation tables context turn = true
  inserted : ∀ row, own = some row → row = turn.row context env ∧
    TurnLock.key context.orgId turn.conversationId turn.idempotencyKey ∈ locks ∧
    ∀ old ∈ tables.turns, old.key ≠ turn.key context
  replayed : ∀ t, point = .finish (.ok t) → own = none →
    ∃ row, Found tables.turns context turn t.id row

/-- The invariant of a running transaction. -/
def KeyTx (tables : TurnTables) (tx : TurnTx) : Prop :=
  ∀ turn, tx.call.newTurn tx.context tx.env = some turn →
    Creates tables tx.context tx.env turn tx.point tx.own tx.locks

variable {tables : TurnTables} {tx tx' : TurnTx}

lemma statement_call (tables : TurnTables) (tx : TurnTx) :
    (tx.statement tables).call = tx.call ∧ (tx.statement tables).context = tx.context ∧
      (tx.statement tables).env = tx.env := by
  rw [TurnTx.statement]
  split
  · rw [insertStatement]
    repeat' split
    all_goals exact ⟨rfl, rfl, rfl⟩
  · rw [insertStatement]
    repeat' split
    all_goals exact ⟨rfl, rfl, rfl⟩
  · rw [appendAssistantDeltaStatement]
    repeat' split
    all_goals exact ⟨rfl, rfl, rfl⟩
  · rw [finalizeAssistantTurnStatement]
    repeat' split
    all_goals exact ⟨rfl, rfl, rfl⟩
  · rw [failAssistantTurnStatement]
    repeat' split
    all_goals exact ⟨rfl, rfl, rfl⟩

lemma statement_of_newTurn {turn : NewTurn} (h : tx.call.newTurn tx.context tx.env = some turn) :
    tx.statement tables = insertStatement turn tables tx := by
  rw [TurnTx.statement]
  cases hcall : tx.call with
  | appendUserTurn _ _ _ =>
      rw [hcall] at h
      cases h
      rfl
  | startAssistantTurn _ _ _ _ _ _ =>
      rw [hcall] at h
      cases h
      rfl
  | _ =>
      rw [hcall] at h
      cases h

/-- A call that creates a turn has written nothing before it returns. -/
lemma own_of_unfinished (h : TxOk tables tx) {turn : NewTurn}
    (hturn : tx.call.newTurn tx.context tx.env = some turn) (hunfinished : tx.finished = false) :
    tx.own = none := by
  have hstage := h.stage
  rw [Stage] at hstage
  split at hstage
  · exact hstage.1
  · obtain ⟨turnId, content, sessionRef, runRef, old, hcall, -⟩ := hstage
    rw [hcall] at hturn
    cases hturn
  · rename_i result hpoint
    rw [TurnTx.finished, hpoint] at hunfinished
    cases hunfinished
  · exact hstage

lemma Creates.statement {turn : NewTurn}
    (h : Creates tables tx.context tx.env turn tx.point tx.own tx.locks) (hown : tx.own = none) :
    Creates tables tx.context tx.env turn (insertStatement turn tables tx).point
      (insertStatement turn tables tx).own (insertStatement turn tables tx).locks := by
  have hnone : ∀ row, tx.own ≠ some row := fun row hrow => nomatch hown.symm.trans hrow
  rw [insertStatement]
  split
  · split_ifs with hconversation
    · refine ⟨fun _ => hconversation, fun row hrow => absurd hrow (hnone row), ?_⟩
      rintro t ⟨⟩
    · refine ⟨?_, fun row hrow => absurd hrow (hnone row), ?_⟩
      · rintro (⟨⟨⟩⟩ | ⟨⟨⟩⟩ | ⟨t, ⟨⟩⟩)
      · rintro t ⟨⟩
  · rename_i hpoint
    have hconversation := h.conversation (.inl hpoint)
    split_ifs with hkey hid
    · refine ⟨fun _ => hconversation, fun row hrow => absurd hrow (hnone row), ?_⟩
      rintro t ⟨⟩
    · refine ⟨fun _ => hconversation, fun row hrow => absurd hrow (hnone row), ?_⟩
      rintro t ⟨⟩
    · refine ⟨fun _ => hconversation, ?_, ?_⟩
      · intro row hrow
        obtain rfl : turn.row tx.context tx.env = row := Option.some.inj hrow
        refine ⟨rfl, List.mem_cons_of_mem _ List.mem_cons_self, fun old hold heq => hkey ?_⟩
        rw [view_of_none hown]
        exact List.any_eq_true.mpr ⟨old, hold, hasKey_iff.mpr heq⟩
      · rintro t - ⟨⟩
  · rename_i hpoint
    have hconversation := h.conversation (.inr (.inl hpoint))
    rw [view_of_none hown]
    split
    · refine ⟨fun _ => hconversation, fun row hrow => absurd hrow (hnone row), ?_⟩
      rintro t ⟨⟩
    · rename_i existing hfind
      refine ⟨fun _ => hconversation, fun row hrow => absurd hrow (hnone row), ?_⟩
      rintro t ht -
      have hvalidated : validateIdempotentTurnReplay (rowToTurn existing) turn.expected = .ok t :=
        TurnPoint.finish.inj ht
      rw [validateIdempotentTurnReplay_eq] at hvalidated
      split_ifs at hvalidated with hagrees
      obtain rfl := Except.ok.inj hvalidated
      exact ⟨existing, List.mem_of_find?_eq_some hfind, rfl,
        hasKey_iff.mp (List.find?_some hfind), hagrees.1⟩
  · exact h

lemma KeyTx.statement (hok : TxOk tables tx) (h : KeyTx tables tx)
    (hunfinished : tx.finished = false) : KeyTx tables (tx.statement tables) := by
  intro turn hturn
  obtain ⟨hcall, hcontext, henv⟩ := statement_call tables tx
  rw [hcall, hcontext, henv] at hturn
  rw [hcontext, henv, statement_of_newTurn hturn]
  exact (h turn hturn).statement (own_of_unfinished hok hturn hunfinished)

lemma KeyTx.start (h : tx.initial tables = true) : KeyTx tables tx := by
  intro turn hturn
  rw [TurnTx.initial, Bool.and_eq_true, Bool.and_eq_true] at h
  obtain ⟨⟨-, hown⟩, hpoint⟩ := h
  rw [Option.isNone_iff_eq_none] at hown
  have hload : tx.point = .loadConversation := by
    split at hpoint
    case h_1 => assumption
    case h_2 => assumption
    case h_6 => cases hpoint
    all_goals
      rename_i hcall _
      rw [hcall] at hturn
      cases hturn
  rw [hload, hown]
  refine ⟨?_, ?_, ?_⟩
  · rintro (⟨⟨⟩⟩ | ⟨⟨⟩⟩ | ⟨t, ⟨⟩⟩)
  · rintro row ⟨⟩
  · rintro t ⟨⟩

/-! ### Commits -/

/-- What no command changes of a turn. -/
def TurnRow.identity (row : TurnRow) :
    String × (String × String × String) × TurnRole × Option String × Option String :=
  (row.id, row.key, row.role, row.actorUserId, row.assistantKey)

/-- Every turn is still there, with its key, role, actor and assistant. -/
def KeepsKeys (turns turns' : List TurnRow) : Prop :=
  ∀ row ∈ turns, ∃ row' ∈ turns', row'.identity = row.identity

lemma KeepsKeys.trans {turns turns' turns'' : List TurnRow} (h : KeepsKeys turns turns')
    (h' : KeepsKeys turns' turns'') : KeepsKeys turns turns'' := by
  intro row hrow
  obtain ⟨row', hrow', hsame⟩ := h row hrow
  obtain ⟨row'', hrow'', hsame'⟩ := h' row' hrow'
  exact ⟨row'', hrow'', hsame'.trans hsame⟩

/-- A row that is written is the new turn of its call, or keeps what a committed one is. -/
lemma Written.identity {turns : List TurnRow} {context : TurnContext} {env : TurnEnv}
    {call : TurnCall} {row : TurnRow} (h : Written turns context env call row) :
    ((∃ turn, call.newTurn context env = some turn ∧ row = turn.row context env) ∧
      ∀ old ∈ turns, old.id ≠ row.id) ∨
    ∃ old ∈ turns, row.identity = old.identity := by
  cases h with
  | insert hcall fresh => exact .inl ⟨⟨_, hcall, rfl⟩, fresh⟩
  | delta _ running => exact .inr ⟨_, running.mem, rfl⟩
  | finalize _ running => exact .inr ⟨_, running.mem, rfl⟩
  | fail _ running => exact .inr ⟨_, running.mem, rfl⟩

lemma identity_id {row row' : TurnRow} (h : row.identity = row'.identity) : row.id = row'.id :=
  congrArg Prod.fst h

lemma identity_key {row row' : TurnRow} (h : row.identity = row'.identity) : row.key = row'.key :=
  congrArg (fun columns => columns.2.1) h

lemma TxOk.commit_keepsKeys (hok : TablesOk tables) (h : TxOk tables tx)
    (hfinished : tx.finished = true) : KeepsKeys tables.turns (tx.commit tables).turns := by
  intro row hrow
  rcases h.commit_cases hfinished with ⟨own, -, hwritten, hcommit⟩ | ⟨result, -, -, hcommit⟩
  · rw [hcommit]
    by_cases hid : row.id = own.id
    · rcases hwritten.identity with ⟨-, hfresh⟩ | ⟨old, hold, hsame⟩
      · exact absurd hid (hfresh row hrow)
      · obtain rfl : row = old := eq_of_unique hok.nodup hrow hold (hid.trans (identity_id hsame))
        exact ⟨own, mem_putRow.mpr (.inl rfl), hsame⟩
    · exact ⟨row, mem_putRow.mpr (.inr ⟨hrow, hid⟩), rfl⟩
  · rw [hcommit]
    exact ⟨row, hrow, rfl⟩

lemma commit_conversations (tables : TurnTables) (tx : TurnTx) :
    (tx.commit tables).conversations = tables.conversations := by
  rw [TurnTx.commit]
  split <;> rfl

/-- A key no transaction but the committing one can have written stays free. -/
lemma KeyTx.commit_free (h : TxOk tables tx) (hkey : KeyTx tables tx)
    (hfinished : tx.finished = true) {context : TurnContext} {turn : NewTurn}
    (hfree : ∀ old ∈ tables.turns, old.key ≠ turn.key context)
    (hunlocked : TurnLock.key context.orgId turn.conversationId turn.idempotencyKey ∉ tx.locks) :
    ∀ old ∈ (tx.commit tables).turns, old.key ≠ turn.key context := by
  intro old hold heq
  rcases h.commit_cases hfinished with ⟨row, hown, hwritten, hcommit⟩ | ⟨result, -, -, hcommit⟩
  · rw [hcommit] at hold
    rcases mem_putRow.mp hold with rfl | ⟨hmem, -⟩
    · rcases hwritten.identity with ⟨⟨own, hcall, -⟩, -⟩ | ⟨before, hbefore, hsame⟩
      · obtain ⟨rfl, hlocked, -⟩ := (hkey own hcall).inserted old hown
        rw [TurnRow.key, NewTurn.key, Prod.mk.injEq, Prod.mk.injEq] at heq
        obtain ⟨horg, hconversation, hidempotency⟩ := heq
        refine hunlocked ?_
        rw [← horg, ← hconversation, ← hidempotency]
        exact hlocked
      · exact hfree before hbefore ((identity_key hsame).symm.trans heq)
    · exact hfree old hmem heq
  · rw [hcommit] at hold
    exact hfree old hold heq

/-- A turn that has been found is found again. -/
lemma Found.mono {turns turns' : List TurnRow} {context : TurnContext} {turn : NewTurn}
    {id : String} {row : TurnRow} (h : Found turns context turn id row)
    (hkeeps : KeepsKeys turns turns') : ∃ row', Found turns' context turn id row' := by
  obtain ⟨row', hrow', hsame⟩ := hkeeps row h.mem
  refine ⟨row', hrow', (identity_id hsame).trans h.id_eq, (identity_key hsame).trans h.key, ?_⟩
  have hagrees := h.agrees
  simp only [TurnRow.identity, Prod.mk.injEq] at hsame
  obtain ⟨-, -, hrole, hactor, hassistant⟩ := hsame
  simp only [ExpectedTurn.agrees, rowToTurn, hrole, hactor, hassistant] at hagrees ⊢
  exact hagrees

lemma KeyTx.others (hok : TablesOk tables) (h : TxOk tables tx) (hkey : KeyTx tables tx)
    (hfinished : tx.finished = true) (hkey' : KeyTx tables tx')
    (hlocks : ∀ lock ∈ tx.locks, lock ∉ tx'.locks) : KeyTx (tx.commit tables) tx' := by
  intro turn hturn
  have hcreates := hkey' turn hturn
  refine ⟨?_, ?_, ?_⟩
  · intro hpoint
    rw [inConversation, commit_conversations]
    exact hcreates.conversation hpoint
  · intro row hrow
    obtain ⟨heq, hlocked, hfree⟩ := hcreates.inserted row hrow
    exact ⟨heq, hlocked, hkey.commit_free h hfinished hfree fun hlock => hlocks _ hlock hlocked⟩
  · intro t ht hown
    obtain ⟨row, hrow⟩ := hcreates.replayed t ht hown
    exact hrow.mono (h.commit_keepsKeys hok hfinished)

/-- The keys stay unique. -/
lemma commit_keys (hok : TablesOk tables) (hkeys : (tables.turns.map TurnRow.key).Nodup)
    (h : TxOk tables tx) (hkey : KeyTx tables tx) (hfinished : tx.finished = true) :
    ((tx.commit tables).turns.map TurnRow.key).Nodup := by
  rcases h.commit_cases hfinished with ⟨row, hown, hwritten, hcommit⟩ | ⟨result, -, -, hcommit⟩
  · rw [hcommit]
    refine nodup_column_putRow hok.nodup hkeys fun old hold heq => ?_
    rcases hwritten.identity with ⟨⟨turn, hcall, rfl⟩, -⟩ | ⟨before, hbefore, hsame⟩
    · exact absurd heq (((hkey turn hcall).inserted _ hown).2.2 old hold)
    · obtain rfl : old = before :=
        eq_of_unique hkeys hold hbefore (heq.trans (identity_key hsame))
      exact (identity_id hsame).symm
  · rw [hcommit]
    exact hkeys

/-- The invariant of the keys. -/
lemma key_invariant : Invariant turnProgram noConflict
    (fun tables => TablesOk tables ∧ (tables.turns.map TurnRow.key).Nodup)
    (fun tables tx => TxOk tables tx ∧ KeyTx tables tx) where
  start _ hinitial := ⟨.start hinitial, .start hinitial⟩
  statement hok htx hunfinished := ⟨htx.1.statement hok.1, htx.2.statement htx.1 hunfinished⟩
  commit hok htx hfinished :=
    ⟨hok.1.commit htx.1 hfinished, commit_keys hok.1 hok.2 htx.1 htx.2 hfinished⟩
  others hok htx hfinished htx' _ hlocks :=
    ⟨htx.1.others hok.1 hfinished htx'.1 hlocks,
      htx.2.others hok.1 htx.1 hfinished htx'.2 hlocks⟩

/-! ### Repeated calls -/

/-- A call that creates a turn with a key that is in use compares the turn of the key. -/
lemma body_of_found {context : TurnContext} {env : TurnEnv} {call : TurnCall} (known : Bool)
    {turn : NewTurn} {row : TurnRow} (hkeys : (tables.turns.map TurnRow.key).Nodup)
    (hturn : call.newTurn context env = some turn)
    (hconversation : inConversation tables context turn = true) (hrow : row ∈ tables.turns)
    (hkey : row.key = turn.key context) :
    ((TurnTx.start context env call known).body tables).point =
      .finish (validateIdempotentTurnReplay (rowToTurn row) turn.expected) ∧
    ((TurnTx.start context env call known).body tables).own = none := by
  have hfirst : call.first = .loadConversation := by
    cases call <;> first | rfl | cases hturn
  have hstatement : ∀ point, (TurnTx.statement tables
      ⟨context, env, call, known, point, none, []⟩) =
      insertStatement turn tables ⟨context, env, call, known, point, none, []⟩ :=
    fun point => statement_of_newTurn hturn
  have hany : tables.turns.any (hasKey context turn) = true :=
    List.any_eq_true.mpr ⟨row, hrow, hasKey_iff.mpr hkey⟩
  have hfind : tables.turns.find? (hasKey context turn) = some row := by
    obtain ⟨found, hfound⟩ := List.find?_isSome.mpr
      (⟨row, hrow, hasKey_iff.mpr hkey⟩ : ∃ row ∈ tables.turns, hasKey context turn row = true)
      |> Option.isSome_iff_exists.mp
    rw [hfound, eq_of_unique hkeys (List.mem_of_find?_eq_some hfound) hrow
      ((hasKey_iff.mp (List.find?_some hfound)).trans hkey.symm)]
  have hload : TurnTx.statement tables (TurnTx.start context env call known) =
      ⟨context, env, call, known, .insertTurn, none, []⟩ := by
    rw [TurnTx.start, hfirst, hstatement]
    exact if_pos hconversation
  have hinsert : TurnTx.statement tables ⟨context, env, call, known, .insertTurn, none, []⟩ =
      ⟨context, env, call, known, .selectExisting, none, []⟩ := by
    rw [hstatement]
    exact if_pos hany
  have hselect : TurnTx.statement tables ⟨context, env, call, known, .selectExisting, none, []⟩ =
      ⟨context, env, call, known,
        .finish (validateIdempotentTurnReplay (rowToTurn row) turn.expected), none, []⟩ := by
    rw [hstatement]
    simp only [insertStatement]
    split
    · next hnone => cases hnone.symm.trans hfind
    · next existing hexisting =>
        obtain rfl : row = existing := Option.some.inj (hfind.symm.trans hexisting)
        rfl
  have hbody : (TurnTx.start context env call known).body tables =
      ⟨context, env, call, known,
        .finish (validateIdempotentTurnReplay (rowToTurn row) turn.expected), none, []⟩ := by
    rw [TurnTx.body, Function.iterate_succ_apply, hload, Function.iterate_succ_apply, hinsert,
      Function.iterate_succ_apply, hselect]
    rfl
  rw [hbody]
  exact ⟨rfl, rfl⟩

/-- What such a call returns. -/
lemma respond_of_found {context : TurnContext} {env : TurnEnv} {decision : Except DomainError Bool}
    {call checked : TurnCall} {turn : NewTurn} {row : TurnRow}
    (hchecked : checkCall context decision call = .ok checked)
    (hkeys : (tables.turns.map TurnRow.key).Nodup)
    (hturn : checked.newTurn context env = some turn)
    (hconversation : inConversation tables context turn = true) (hrow : row ∈ tables.turns)
    (hkey : row.key = turn.key context) :
    respond tables context env decision call =
      (if turn.expected.agrees (rowToTurn row) ∧ sameJson row.content turn.expected.content then
        .ok (rowToTurn row) else .error idempotencyConflict, none) := by
  have hbegin : beginCall context env decision call tables =
      .ok (.start context env checked (isKnown context checked tables)) := by
    rw [beginCall, hchecked]
    rfl
  obtain ⟨hpoint, hown⟩ := body_of_found (isKnown context checked tables) hkeys hturn
    hconversation hrow hkey
  rw [respond, hbegin]
  simp only [hpoint, hown]
  rw [validateIdempotentTurnReplay_eq]
  rfl

/-- A key that has been normalized is not blank. -/
lemma stringOrNull_of_normalized {value field key : String}
    (h : normalizeRuntimeKey value field = .ok key) : stringOrNull (some key) = some key := by
  rw [normalizeRuntimeKey] at h
  split_ifs at h with hempty
  obtain rfl := Except.ok.inj h
  rw [stringOrNull, Option.filter_some, if_pos]
  rw [String.toList_ofList, jsTrim_jsTrim]
  refine decide_eq_true fun hnil => hempty ?_
  rw [hnil]
  rfl

/-- The turn a checked call inserts agrees with what its replay expects. -/
lemma agrees_of_inserted {context : TurnContext} {env : TurnEnv} {decision : Except DomainError Bool}
    {call checked : TurnCall} {turn : NewTurn}
    (hchecked : checkCall context decision call = .ok checked)
    (hturn : checked.newTurn context env = some turn) :
    turn.expected.agrees (rowToTurn (turn.row context env)) = true := by
  cases checked with
  | appendUserTurn conversationId idempotencyKey content =>
      obtain rfl := Option.some.inj hturn
      simp [ExpectedTurn.agrees, userTurn, rowToTurn, NewTurn.row]
  | startAssistantTurn conversationId idempotencyKey assistantKey content sessionRef runRef =>
      obtain rfl := Option.some.inj hturn
      have hkey : stringOrNull (some assistantKey) = some assistantKey := by
        unfold checkCall at hchecked
        obtain ⟨-, -, hchecked⟩ := bind_eq_ok hchecked
        obtain ⟨-, -, hchecked⟩ := bind_eq_ok hchecked
        cases call with
        | appendUserTurn _ key _ =>
            obtain ⟨_, -, hreturn⟩ := bind_eq_ok hchecked
            cases hreturn
        | startAssistantTurn _ key assistant _ _ _ =>
            obtain ⟨_, -, hchecked⟩ := bind_eq_ok hchecked
            obtain ⟨normalized, hnormalized, hreturn⟩ := bind_eq_ok hchecked
            cases hreturn
            exact stringOrNull_of_normalized hnormalized
        | _ => cases hchecked
      simp [ExpectedTurn.agrees, assistantTurn, rowToTurn, NewTurn.row, hkey]
  | _ => cases hturn

/-- A turn of a call, with what a replay of the call compares. -/
lemma newTurn_expected {context : TurnContext} {env : TurnEnv} {call : TurnCall} {turn : NewTurn}
    (h : call.newTurn context env = some turn) :
    turn.expected.role = turn.role ∧ turn.expected.content = turn.content ∧
    ((turn.role = .user ∧ turn.expected.actorUserId = some turn.actorUserId ∧
        turn.assistantKey = none) ∨
      (turn.role = .assistant ∧ turn.actorUserId = none ∧
        turn.expected.assistantKey = some turn.assistantKey)) := by
  cases call with
  | appendUserTurn _ _ _ =>
      obtain rfl := Option.some.inj h
      exact ⟨rfl, rfl, .inl ⟨rfl, rfl, rfl⟩⟩
  | startAssistantTurn _ _ _ _ _ _ =>
      obtain rfl := Option.some.inj h
      exact ⟨rfl, rfl, .inr ⟨rfl, rfl, rfl⟩⟩
  | _ => cases h

/-- The turn of a call at another time. -/
lemma newTurn_env {context : TurnContext} {env : TurnEnv} {call : TurnCall} {turn : NewTurn}
    (h : call.newTurn context env = some turn) (env' : TurnEnv) :
    ∃ turn', call.newTurn context env' = some turn' ∧ turn'.expected = turn.expected ∧
      turn'.key context = turn.key context ∧ turn'.conversationId = turn.conversationId := by
  cases call with
  | appendUserTurn _ _ _ =>
      obtain rfl := Option.some.inj h
      exact ⟨_, rfl, rfl, rfl, rfl⟩
  | startAssistantTurn _ _ _ _ _ _ =>
      obtain rfl := Option.some.inj h
      exact ⟨_, rfl, rfl, rfl, rfl⟩
  | _ => cases h

lemma sameJson_iff {left right : JsRecord} :
    sameJson left right = true ↔ stableJson (.object left) = stableJson (.object right) :=
  decide_eq_true_iff

/-- A turn that agrees with two calls makes one payload of them. -/
lemma samePayload_of_agrees {context context' : TurnContext} {env env' : TurnEnv}
    {call call' : TurnCall} {turn turn' : NewTurn} {row : TurnRow}
    (hturn : call.newTurn context env = some turn)
    (hturn' : call'.newTurn context' env' = some turn')
    (hagrees : turn.expected.agrees row = true) (hagrees' : turn'.expected.agrees row = true)
    (hcontent : sameJson row.content turn.content = true)
    (hcontent' : sameJson row.content turn'.content = true) : turn.samePayload turn' = true := by
  obtain ⟨hrole, -, hkind⟩ := newTurn_expected hturn
  obtain ⟨hrole', -, hkind'⟩ := newTurn_expected hturn'
  rw [ExpectedTurn.agrees, decide_eq_true_iff] at hagrees hagrees'
  have hroles : turn.role = turn'.role :=
    (hagrees.1.trans hrole).symm.trans (hagrees'.1.trans hrole')
  have hcontents : sameJson turn.content turn'.content = true :=
    sameJson_iff.mpr ((sameJson_iff.mp hcontent).symm.trans (sameJson_iff.mp hcontent'))
  rw [NewTurn.samePayload, decide_eq_true_iff]
  refine ⟨hroles, ?_, ?_, hcontents⟩
  · rcases hkind with ⟨huser, hactor, -⟩ | ⟨hassistant, hactor, -⟩
    · have huser' := hroles.symm.trans huser
      rcases hkind' with ⟨-, hactor', -⟩ | ⟨hassistant', -⟩
      · rw [hactor] at hagrees
        rw [hactor'] at hagrees'
        exact (of_decide_eq_true hagrees.2.1).symm.trans (of_decide_eq_true hagrees'.2.1)
      · cases huser'.symm.trans hassistant'
    · have hassistant' := hroles.symm.trans hassistant
      rcases hkind' with ⟨huser', -⟩ | ⟨-, hactor', -⟩
      · cases hassistant'.symm.trans huser'
      · rw [hactor, hactor']
  · rcases hkind with ⟨huser, -, hkey⟩ | ⟨hassistant, -, hkey⟩
    · have huser' := hroles.symm.trans huser
      rcases hkind' with ⟨-, -, hkey'⟩ | ⟨hassistant', -⟩
      · rw [hkey, hkey']
      · cases huser'.symm.trans hassistant'
    · have hassistant' := hroles.symm.trans hassistant
      rcases hkind' with ⟨huser', -⟩ | ⟨-, -, hkey'⟩
      · cases hassistant'.symm.trans huser'
      · rw [hkey] at hagrees
        rw [hkey'] at hagrees'
        exact (of_decide_eq_true hagrees.2.2).symm.trans (of_decide_eq_true hagrees'.2.2)

/-! ### Runs -/

/-- A call that has returned a turn leaves it behind. -/
lemma found_of_commit (h : TxOk tables tx) (hkey : KeyTx tables tx) {turn : NewTurn} {t : TurnRow}
    (hturn : tx.call.newTurn tx.context tx.env = some turn)
    (hagrees : turn.expected.agrees (rowToTurn (turn.row tx.context tx.env)) = true)
    (hresult : tx.point = .finish (.ok t)) :
    ∃ row, Found (tx.commit tables).turns tx.context turn t.id row := by
  have hcreates := hkey turn hturn
  rw [TurnTx.commit, hresult, TurnTx.view]
  cases hown : tx.own with
  | none => exact hcreates.replayed t hresult hown
  | some row =>
      obtain ⟨rfl, -, -⟩ := hcreates.inserted row hown
      have hstage := h.stage
      rw [Stage, hresult] at hstage
      rcases hstage with ⟨row, hrow, -, ht⟩ | ⟨hnone, -⟩
      · obtain rfl := Option.some.inj (hown.symm.trans hrow)
        obtain rfl := Except.ok.inj ht
        exact ⟨_, mem_putRow.mpr (.inl rfl), rfl, rfl, hagrees⟩
      · cases hown.symm.trans hnone

/-- **When a repeated call returns its turn**: after a call that creates a turn has returned
`t`, and after any further run, the turn is still there, and its key does what is promised
of it if and only if the content that is stored by then is, as JSON, the content of the call. -/
theorem turn_replay_iff (conversations : List ConversationRow)
    {s s' s'' : Running TurnTables TurnTx} {p : ℕ} {tx : TurnTx} {turn : NewTurn} {t : TurnRow}
    {decision : Except DomainError Bool} {call : TurnCall}
    (h : Run turnProgram noConflict (.idle (.empty conversations)) s) (htx : s.txs p = some tx)
    (hchecked : checkCall tx.context decision call = .ok tx.call)
    (hturn : tx.call.newTurn tx.context tx.env = some turn)
    (hresult : tx.point = .finish (.ok t)) (hcommit : Step turnProgram s (.commit p) s')
    (h' : Run turnProgram noConflict s' s'') :
    ∃ row ∈ s''.tables.turns, row.id = t.id ∧
      (Replays s''.tables tx.context decision call turn t.id ↔
        sameJson row.content turn.content = true) := by
  have hs := key_invariant.run (.idle ⟨TablesOk.empty conversations, List.nodup_nil⟩) h
  obtain ⟨hok, hkey⟩ := hs.txs p tx htx
  have hs' : Run turnProgram noConflict s s' := .single ⟨.commit p, fun _ _ _ _ _ _ _ _ => rfl, hcommit⟩
  have hs'' := (key_invariant.run (key_invariant.run hs hs') h')
  have htables : s'.tables = tx.commit s.tables := by
    cases hcommit with
    | commit _ tx' running _ =>
        obtain rfl := Option.some.inj (htx.symm.trans running)
        rfl
  -- The turn is there after the commit, and no later command changes what it is found by.
  obtain ⟨found, hfound⟩ := found_of_commit hok hkey hturn (agrees_of_inserted hchecked hturn) hresult
  rw [← htables] at hfound
  have hkeeps : KeepsKeys s'.tables.turns s''.tables.turns :=
    key_invariant.run_tables (R := fun tables tables' => KeepsKeys tables.turns tables'.turns)
      (fun tables row hrow => ⟨row, hrow, rfl⟩) (fun hab hbc => hab.trans hbc)
      (fun hok htx hfinished => htx.1.commit_keepsKeys hok.1 hfinished) (key_invariant.run hs hs') h'
  have hconversations : s''.tables.conversations = s.tables.conversations :=
    key_invariant.run_tables (R := fun tables tables' => tables'.conversations = tables.conversations)
      (fun tables => rfl) (fun hab hbc => hbc.trans hab)
      (fun _ _ _ => commit_conversations _ _) hs (hs'.trans h')
  obtain ⟨row, hrow⟩ := hfound.mono hkeeps
  have hconversation : inConversation s''.tables tx.context turn = true := by
    rw [inConversation, hconversations]
    exact (hkey turn hturn).conversation (.inr (.inr ⟨t, hresult⟩))
  have hcontent := (newTurn_expected hturn).2.1
  -- What the repeated call returns, at any time.
  have hrespond : ∀ env, respond s''.tables tx.context env decision call =
      (if turn.expected.agrees (rowToTurn row) ∧ sameJson row.content turn.content then
        .ok (rowToTurn row) else .error idempotencyConflict, none) := by
    intro env
    obtain ⟨turn', hturn', hexpected, hkey', hconversation'⟩ := newTurn_env hturn env
    have hresponse := respond_of_found hchecked hs''.tables.2 hturn'
      (by rw [inConversation, hconversation']; exact hconversation) hrow.mem
      (hrow.key.trans hkey'.symm)
    rw [hexpected, hcontent] at hresponse
    exact hresponse
  refine ⟨row, hrow.mem, hrow.id_eq, ?_, ?_⟩
  · intro hreplays
    obtain ⟨returned, hreturned, -⟩ := hreplays.same tx.env
    rw [hrespond, Prod.mk.injEq] at hreturned
    by_contra hdifferent
    rw [if_neg fun hboth => hdifferent hboth.2] at hreturned
    cases hreturned.1
  · intro hsame
    refine ⟨fun env => ⟨rowToTurn row, ?_, hrow.id_eq⟩, ?_⟩
    · rw [hrespond, if_pos ⟨hrow.agrees, hsame⟩]
    · intro context' env' decision' call' checked' turn' hchecked' hturn' horg hworkspace
        hconversation' hidempotency hpayload
      have hscope : inConversation s''.tables context' turn' = true := by
        rw [inConversation, hconversation', horg, hworkspace]
        exact hconversation
      have hkey' : turn'.key context' = turn.key tx.context := by
        rw [NewTurn.key, horg, hconversation', hidempotency]
        rfl
      rw [respond_of_found hchecked' hs''.tables.2 hturn' hscope hrow.mem
        (hrow.key.trans hkey'.symm), if_neg]
      rintro ⟨hagrees', hsame'⟩
      rw [(newTurn_expected hturn').2.1] at hsame'
      have hsamePayload := samePayload_of_agrees hturn hturn' hrow.agrees hagrees' hsame hsame'
      cases hpayload.symm.trans hsamePayload

/-! ### A run -/

/-- The call that starts the turn, as it is made. -/
def startCall : TurnCall :=
  .startAssistantTurn "conversation" "key" "assistant" [("text", .string "a")] none none

/-- The turn it starts. -/
def startedTurn : NewTurn :=
  assistantTurn "conversation" "key" "assistant" [("text", .string "a")] none none

/-- The call has returned, and is to commit. -/
def startingState : Running TurnTables TurnTx :=
  outcome turnProgram noConflict 1 (.idle (.empty sampleConversations))
    [.start 0 startSample, .statement 0, .statement 0]

/-- The transaction that is to commit. -/
def startedTx : TurnTx :=
  ((startingState.txs 0).getD startSample)

/-- The turn is committed. -/
def startedState : Running TurnTables TurnTx :=
  outcome turnProgram noConflict 1 startingState [.commit 0]

/-- A delta is appended to the turn. -/
def appendedState : Running TurnTables TurnTx :=
  outcome turnProgram noConflict 1 startedState
    [.start 0 (deltaSample 2 "b"), .statement 0, .statement 0, .commit 0]

lemma startCall_checked : checkCall sampleContext (.ok true) startCall = .ok startCall := rfl

lemma startedTx_returned : startedTx.point =
    .finish (.ok (rowToTurn (startedTurn.row sampleContext ⟨1, "turn"⟩))) := rfl

lemma run_startingState : Bounded 1 startingState ∧
    Run turnProgram noConflict (.idle (.empty sampleConversations)) startingState :=
  run_outcome turnProgram noConflict _ (.idle 1 _) (by decide)

lemma step_startedState : Step turnProgram startingState (.commit 0) startedState :=
  .commit startingState 0 startedTx rfl rfl

lemma run_appendedState : Run turnProgram noConflict startedState appendedState :=
  (run_outcome turnProgram noConflict _
    (run_outcome turnProgram noConflict [.commit 0] run_startingState.1 (by decide)).1
    (by decide)).2

/-- The call that is repeated right after it has returned. -/
theorem turn_replay_iff_started :
    ∃ row ∈ startedState.tables.turns, row.id = "turn" ∧
      (Replays startedState.tables sampleContext (.ok true) startCall startedTurn "turn" ↔
        sameJson row.content startedTurn.content = true) := by
  have htx : startingState.txs 0 = some startedTx := rfl
  exact turn_replay_iff sampleConversations run_startingState.2 htx startCall_checked rfl
    startedTx_returned step_startedState .refl

/-- The call is repeated after a delta has been appended: it is refused, as if its payload
were another one. -/
theorem replay_refused_after_delta :
    respond appendedState.tables sampleContext ⟨3, "unused"⟩ (.ok true) startCall =
      (.error idempotencyConflict, none) ∧
    ¬ ∀ (conversations : List ConversationRow) (s s' s'' : Running TurnTables TurnTx) (p : ℕ)
      (tx : TurnTx) (turn : NewTurn) (t : TurnRow) (decision : Except DomainError Bool)
      (call : TurnCall),
      Run turnProgram noConflict (.idle (.empty conversations)) s → s.txs p = some tx →
      checkCall tx.context decision call = .ok tx.call →
      tx.call.newTurn tx.context tx.env = some turn → tx.point = .finish (.ok t) →
      Step turnProgram s (.commit p) s' → Run turnProgram noConflict s' s'' →
      Replays s''.tables tx.context decision call turn t.id := by
  have hrefused : respond appendedState.tables sampleContext ⟨3, "unused"⟩ (.ok true) startCall =
      (.error idempotencyConflict, none) := rfl
  have htx : startingState.txs 0 = some startedTx := rfl
  refine ⟨hrefused, fun hclaim => ?_⟩
  have hreplays := hclaim sampleConversations _ _ _ _ _ _ _ _ _ run_startingState.2 htx
    startCall_checked rfl startedTx_returned step_startedState run_appendedState
  obtain ⟨returned, hreturned, -⟩ := hreplays.same ⟨3, "unused"⟩
  cases hrefused.symm.trans hreturned

end Opzava.RuntimeControl
