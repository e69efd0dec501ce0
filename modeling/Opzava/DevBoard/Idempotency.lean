import Opzava.DevBoard.Runs

/-!
Idempotent replay and rejection without a write.

A receipt is finalized at most once (`finalizeTransaction_cases`), so a finalized
receipt outlives every run (`run_finalized`), and what a call has written into it is
what `replay` reads out of it (`execute_finalizes`): the code of `reject` and
`accept` on one side and of `replay` on the other agree on every result.

* `idempotent_replay`: a later call under the same key returns the first result, or
  the conflict, and changes nothing.
* `rejection_writes_nothing`: a call that returns an error leaves the tables but for
  a missing Todo header, the ledgers, and the receipts under other keys.
-/

namespace Opzava.DevBoard

open Opzava.Library

section Receipts

variable {e : CommandEnvelope} {receipts : Receipts} {lookup : CommandReceiptLookup}
  {receipt : CommandReceiptRecord}

/-! ### One receipt is finalized once -/

/-- Finalizing fails without a write, or finalizes a reserved receipt of the command
id. -/
lemma finalizeTransaction_cases (input : FinalizeCommandReceiptInput) (receipts : Receipts) :
    finalizeTransaction input receipts = (.error invalidReceipt, receipts) ∨
      ∃ lookup receipt, receipts.get lookup = some receipt ∧
        receipt.organizationId = input.organizationId ∧ receipt.commandId = input.commandId ∧
        receipt.state = .reserved ∧
        finalizeTransaction input receipts =
          (.ok (), receipts.set lookup (receipt.finalized input)) := by
  rw [finalizeTransaction]
  split
  · exact .inl rfl
  · rename_i lookup receipt hfind
    split_ifs with hstate
    · exact .inl rfl
    · have hmem := OrderedMap.mem_entries_iff.mp (List.mem_of_find?_eq_some hfind)
      have hmatch := List.find?_some hfind
      simp only [Bool.and_eq_true, decide_eq_true_eq] at hmatch
      exact .inr ⟨lookup, receipt, hmem, hmatch.1, hmatch.2, not_not.mp hstate, rfl⟩

/-- Receipts that differ from the old ones in no finalized receipt. -/
def KeepsFinalized (receipts receipts' : Receipts) : Prop :=
  ∀ lookup receipt, receipts.get lookup = some receipt → receipt.state ≠ .reserved →
    receipts'.get lookup = some receipt

lemma KeepsFinalized.trans {r₁ r₂ r₃ : Receipts} (h₁ : KeepsFinalized r₁ r₂)
    (h₂ : KeepsFinalized r₂ r₃) : KeepsFinalized r₁ r₃ :=
  fun lookup receipt hget hstate => h₂ lookup receipt (h₁ lookup receipt hget hstate) hstate

lemma keepsFinalized_openReceipts (e : CommandEnvelope) (receipts : Receipts) :
    KeepsFinalized receipts (openReceipts e receipts) := by
  intro lookup receipt hget _
  rw [openReceipts]
  split_ifs with hsome
  · exact hget
  · have hne : lookup ≠ receiptKey e := by
      rintro rfl
      rw [hget] at hsome
      exact hsome rfl
    rw [OrderedMap.get_set_of_ne _ _ hne, hget]

lemma keepsFinalized_finalizeOrThrow (input : FinalizeCommandReceiptInput)
    (result : Except DomainError CommandResult) (receipts : Receipts) :
    KeepsFinalized receipts (finalizeOrThrow input result receipts).2 := by
  intro lookup receipt hget hstate
  rw [finalizeOrThrow]
  rcases finalizeTransaction_cases input receipts with
    heq | ⟨lookup', receipt', hget', -, -, hreserved, heq⟩
  · rw [heq]
    exact hget
  · rw [heq]
    have hne : lookup ≠ lookup' := by
      rintro rfl
      rw [hget] at hget'
      cases hget'
      exact hstate hreserved
    exact (OrderedMap.get_set_of_ne _ _ hne).trans hget

lemma keepsFinalized_settle (e : CommandEnvelope) (receipts : Receipts) (verdict : Verdict) :
    KeepsFinalized receipts (settle e receipts verdict).2 := by
  cases verdict with
  | reject => exact keepsFinalized_finalizeOrThrow _ _ _
  | accept => exact keepsFinalized_finalizeOrThrow _ _ _
  | throws => exact fun _ _ hget _ => hget

/-! ### What is written is what is replayed -/

/-- The text of an id in the summary of an acceptance. -/
lemma summaryText_ids (ids : List (String × String)) (name : String) :
    summaryText (ids.map fun id => (id.1, .string id.2)) name = idNamed ids name := by
  rw [summaryText, idNamed, JsRecord.read, List.find?_map]
  cases h : ids.find? ((fun field : String × JsValue => decide (field.1 = name)) ∘
      fun id => (id.1, JsValue.string id.2)) with
  | none =>
      have h' : ids.find? (fun id => decide (id.1 = name)) = none := h
      rw [h']
      rfl
  | some id =>
      have h' : ids.find? (fun id => decide (id.1 = name)) = some id := h
      rw [h']
      rfl

/-- A rejection is replayed with its code and its message. -/
lemma replay_rejected (receipt : CommandReceiptRecord) (e : CommandEnvelope)
    (code message : String) {extra : JsRecord} (resultRef : Option String)
    (hextra : "message" ∉ extra.map Prod.fst) :
    replay (receipt.finalized (rejectInput e code message extra resultRef)) =
      .error ⟨code, message⟩ := by
  have hread := JsRecord.read_spread_of_notMem [("message", .string message)] "message" extra hextra
  simp only [replay, CommandReceiptRecord.finalized, rejectInput, Option.getD_some,
    Option.bind_some, summaryText, hread]
  rfl

/-- An acceptance is replayed with its versions and its ids. -/
lemma replay_accepted (hcommand : receipt.commandId = e.commandId)
    (outcomeCode resultRef : String) (resultingVersions : List CommandExpectedVersion)
    (ids : List (String × String)) :
    replay (receipt.finalized (acceptInput e outcomeCode resultRef resultingVersions ids)) =
      .ok (acceptedResult e resultingVersions ids) := by
  simp only [replay, CommandReceiptRecord.finalized, acceptInput, Option.getD_some, summaryText_ids,
    acceptedResult, hcommand]

/-! ### A call settles its own receipt -/

/-- No other receipt of the organization has the command id of the envelope. -/
def OwnReceipt (e : CommandEnvelope) (receipts : Receipts) : Prop :=
  ∀ lookup receipt, receipts.get lookup = some receipt →
    receipt.organizationId = e.organizationId → receipt.commandId = e.commandId →
    lookup = receiptKey e

lemma OwnReceipt.openReceipts (h : OwnReceipt e receipts) :
    OwnReceipt e (openReceipts e receipts) := by
  intro lookup receipt hget ho hid
  rw [DevBoard.openReceipts] at hget
  split_ifs at hget
  · exact h lookup receipt hget ho hid
  · rcases OrderedMap.get_set_eq_some hget with ⟨rfl, -⟩ | ⟨-, hget⟩
    · rfl
    · exact h lookup receipt hget ho hid

/-- How a call ends on its receipts: an exception that leaves them, or a result with
the receipt of the call finalized so that it replays as that result. -/
inductive Settled (e : CommandEnvelope) (receipts : Receipts) : Outcome × Receipts → Prop
  | thrown (error : Thrown) : Settled e receipts (.thrown error, receipts)
  | finalized {receipt receipt' : CommandReceiptRecord}
      {result : Except DomainError CommandResult}
      (found : receipts.get (receiptKey e) = some receipt)
      (hash : receipt'.requestHash = receipt.requestHash) (state : receipt'.state ≠ .reserved)
      (replayed : replay receipt' = result) :
      Settled e receipts (.returned result, receipts.set (receiptKey e) receipt')

lemma finalizeOrThrow_settled (hown : OwnReceipt e receipts) {input : FinalizeCommandReceiptInput}
    {result : Except DomainError CommandResult} (ho : input.organizationId = e.organizationId)
    (hid : input.commandId = e.commandId) (houtcome : input.outcome ≠ .reserved)
    (hreplay : ∀ receipt : CommandReceiptRecord, receipt.commandId = e.commandId →
      replay (receipt.finalized input) = result) :
    Settled e receipts (finalizeOrThrow input result receipts) := by
  rw [finalizeOrThrow]
  rcases finalizeTransaction_cases input receipts with
    heq | ⟨lookup, receipt, hget, hro, hrid, hreserved, heq⟩
  · rw [heq]
    exact .thrown _
  · rw [heq]
    obtain rfl := hown lookup receipt hget (hro.trans ho) (hrid.trans hid)
    exact .finalized hget rfl houtcome (hreplay receipt (hrid.trans hid))

/-- The receipt a call has just reserved can be finalized. -/
lemma finalizeOrThrow_new (hown : OwnReceipt e receipts)
    (hnew : receipts.get (receiptKey e) = none) {input : FinalizeCommandReceiptInput}
    (ho : input.organizationId = e.organizationId) (hid : input.commandId = e.commandId)
    (result : Except DomainError CommandResult) :
    (finalizeOrThrow input result (openReceipts e receipts)).1 = .returned result := by
  have hopen : openReceipts e receipts = receipts.set (receiptKey e) (newReceipt e) := by
    rw [openReceipts, if_neg (by rw [hnew]; decide)]
  have hstored : (openReceipts e receipts).get (receiptKey e) = some (newReceipt e) := by
    rw [hopen, OrderedMap.get_set_self]
  rw [finalizeOrThrow, finalizeTransaction]
  cases hfind : (openReceipts e receipts).entries.find? _ with
  | none =>
      have hnone := List.find?_eq_none.mp hfind _ (OrderedMap.mem_entries_iff.mpr hstored)
      simp [newReceipt, ho, hid] at hnone
  | some entry =>
      obtain ⟨lookup, receipt⟩ := entry
      have hmem := OrderedMap.mem_entries_iff.mp (List.mem_of_find?_eq_some hfind)
      have hmatch := List.find?_some hfind
      simp only [Bool.and_eq_true, decide_eq_true_eq, ho, hid] at hmatch
      obtain rfl := hown.openReceipts lookup receipt hmem hmatch.1 hmatch.2
      obtain rfl : newReceipt e = receipt := Option.some.inj (hstored.symm.trans hmem)
      simp [newReceipt]

lemma refuse_settled (hown : OwnReceipt e receipts) (error : DomainError) :
    Settled e receipts
      (finalizeOrThrow (rejectInput e error.code error.message [] none) (.error error)
        receipts) :=
  finalizeOrThrow_settled hown rfl rfl (by simp [rejectInput])
    fun receipt _ => replay_rejected receipt e error.code error.message none (by simp)

/-- The verdict carries no second message. -/
def Verdict.messageFree : Verdict → Prop
  | .reject _ _ extra _ => "message" ∉ extra.map Prod.fst
  | _ => True

lemma settle_settled (hown : OwnReceipt e receipts) {verdict : Verdict}
    (hfree : verdict.messageFree) : Settled e receipts (settle e receipts verdict) := by
  cases verdict with
  | reject code message extra resultRef =>
      exact finalizeOrThrow_settled hown rfl rfl (by simp [rejectInput])
        fun receipt _ => replay_rejected receipt e code message resultRef hfree
  | accept outcomeCode resultRef resultingVersions ids =>
      exact finalizeOrThrow_settled hown rfl rfl (by simp [acceptInput])
        fun receipt hcommand => replay_accepted hcommand outcomeCode resultRef resultingVersions ids
  | throws error => exact .thrown error

/-- What a settled receipt says about the result. -/
lemma Settled.of_returned {answer : Outcome × Receipts}
    {result : Except DomainError CommandResult} (h : Settled e receipts answer)
    (hout : answer.1 = .returned result) :
    ∃ receipt receipt', receipts.get (receiptKey e) = some receipt ∧
      receipt'.requestHash = receipt.requestHash ∧ receipt'.state ≠ .reserved ∧
      replay receipt' = result ∧ answer.2.get (receiptKey e) = some receipt' := by
  cases h with
  | thrown => cases hout
  | @finalized receipt receipt' result' found hash state replayed =>
      obtain rfl : result' = result := Outcome.returned.inj hout
      exact ⟨receipt, receipt', found, hash, state, replayed, OrderedMap.get_set_self _ _ _⟩

/-- A reserved receipt is the receipt of the request. -/
lemma openReceipts_hash (hopened : Opened e receipts)
    (hget : (openReceipts e receipts).get (receiptKey e) = some receipt) :
    receipt.requestHash = e.requestHash := by
  rw [openReceipts] at hget
  split_ifs at hget
  · exact (hopened receipt hget).1
  · rw [OrderedMap.get_set_self] at hget
    cases hget
    rfl

/-- Off its own key a settled call leaves the receipts. -/
lemma Settled.get_of_ne {answer : Outcome × Receipts} (h : Settled e receipts answer)
    (hne : lookup ≠ receiptKey e) :
    answer.2.get lookup = receipts.get lookup := by
  cases h with
  | thrown => rfl
  | finalized => exact OrderedMap.get_set_of_ne _ _ hne

lemma openReceipts_get_of_ne (hne : lookup ≠ receiptKey e) :
    (openReceipts e receipts).get lookup = receipts.get lookup := by
  rw [openReceipts]
  split_ifs
  · rfl
  · exact OrderedMap.get_set_of_ne _ _ hne

end Receipts

section Calls

variable [Platform]

lemma Ends.messageFree {c : Context} {command : Command} {t : Tables} {l : Ledger} {exit : Exit}
    (h : Ends c command t l exit) : exit.verdict.messageFree := by
  cases h with
  | rejected locked extra_ok => exact extra_ok
  | accepted => trivial
  | threw => trivial
  | threwAfter => trivial

/-! ### Calls and runs -/

variable {w w' : World} {call call' : Call}

/-- No call changes a finalized receipt. -/
lemma execute_finalized (call : Call) (w : World) :
    KeepsFinalized w.receipts (execute call w).2.receipts := by
  have hcase := execute_spec call w
  generalize execute call w = result at hcase
  cases hcase with
  | unauthorized => exact fun _ _ hget _ => hget
  | answered admission reserved =>
      cases reserved with
      | conflict => exact fun _ _ hget _ => hget
      | replayed => exact fun _ _ hget _ => hget
      | refused =>
          exact (keepsFinalized_openReceipts _ _).trans (keepsFinalized_finalizeOrThrow _ _ _)
  | ran => exact (keepsFinalized_openReceipts _ _).trans (keepsFinalized_settle _ _ _)

/-- No run changes a finalized receipt. -/
lemma run_finalized {admissible : World → Call → Prop}
    (hrun : Relation.ReflTransGen (Step admissible) w w') :
    KeepsFinalized w.receipts w'.receipts := by
  induction hrun with
  | refl => exact fun _ _ hget _ => hget
  | tail _ hstep ih =>
      cases hstep with
      | call call => exact ih.trans (execute_finalized call _)
      | directory => exact ih
      | legacySources => exact ih

/-- A call whose command id is its own settles its own receipt, or leaves the
receipts. -/
lemma execute_settled (hk : Keyed w.tables) (hown : ownCommandId w call) :
    (execute call w).2.receipts = w.receipts ∨
      Opened call.envelope w.receipts ∧
        Settled call.envelope (openReceipts call.envelope w.receipts)
          ((execute call w).1, (execute call w).2.receipts) := by
  have hopen : OwnReceipt call.envelope (openReceipts call.envelope w.receipts) :=
    OwnReceipt.openReceipts hown
  have hcase := execute_spec call w
  generalize execute call w = result at hcase
  cases hcase with
  | unauthorized => exact .inl rfl
  | answered admission reserved =>
      cases reserved with
      | conflict => exact .inl rfl
      | replayed => exact .inl rfl
      | refused opened actor => exact .inr ⟨opened, refuse_settled hopen _⟩
  | ran admission opened =>
      have hends := body_ends hk (call.context w) call.command w.ledger
      exact .inr ⟨opened, settle_settled hopen hends.messageFree⟩

/-- A call that finalizes its receipt writes into it what it returns. -/
lemma execute_finalizes (hk : Keyed w.tables) (hown : ownCommandId w call)
    {result : Except DomainError CommandResult} (hout : (execute call w).1 = .returned result)
    (hnew : ¬Replayed call w) (hfinal : Replayed call (execute call w).2) :
    ∃ receipt, (execute call w).2.receipts.get (receiptKey call.envelope) = some receipt ∧
      receipt.state ≠ .reserved ∧ receipt.requestHash = call.envelope.requestHash ∧
      replay receipt = result := by
  rcases execute_settled hk hown with hsame | ⟨hopened, hsettled⟩
  · rw [Replayed, hsame] at hfinal
    exact absurd hfinal hnew
  · obtain ⟨receipt, receipt', hget, hhash, hstate, hreplay, hget'⟩ := hsettled.of_returned hout
    exact ⟨receipt', hget', hstate, hhash.trans (openReceipts_hash hopened hget), hreplay⟩

/-- A call that finds a finalized receipt answers from it. -/
lemma execute_of_finalized {receipt : CommandReceiptRecord}
    (hadmission : call.command.admission (call.context w) = none)
    (hget : w.receipts.get (receiptKey call.envelope) = some receipt)
    (hstate : receipt.state ≠ .reserved) :
    execute call w =
      (.returned (if receipt.requestHash = call.envelope.requestHash then replay receipt
        else .error idempotencyConflict), w) := by
  have hcase := execute_spec call w
  generalize execute call w = answer at hcase
  cases hcase with
  | unauthorized admission =>
      rw [hadmission] at admission
      cases admission
  | answered admission reserved =>
      cases reserved with
      | conflict found other =>
          rw [hget] at found
          cases found
          rw [if_neg other]
      | replayed found same =>
          rw [hget] at found
          cases found
          rw [if_pos same]
      | refused opened => exact absurd (opened receipt hget).2 hstate
  | ran admission opened => exact absurd (opened receipt hget).2 hstate

/-- The receipt of the call is finalized for its request. -/
def Finalized (call : Call) (w : World) : Prop :=
  ∃ receipt, w.receipts.get (receiptKey call.envelope) = some receipt ∧
    receipt.state ≠ .reserved ∧ receipt.requestHash = call.envelope.requestHash

/-- The finalized receipt of an admitted call replays what the call has returned. -/
lemma execute_replays (hk : Keyed w.tables) (hown : ownCommandId w call)
    (hadmission : call.command.admission (call.context w) = none)
    {result : Except DomainError CommandResult} (hout : (execute call w).1 = .returned result)
    (hfinal : Finalized call (execute call w).2) :
    ∃ receipt, (execute call w).2.receipts.get (receiptKey call.envelope) = some receipt ∧
      receipt.state ≠ .reserved ∧ receipt.requestHash = call.envelope.requestHash ∧
      replay receipt = result := by
  obtain ⟨receipt, hget, hstate, hhash⟩ := hfinal
  by_cases hnew : Replayed call w
  · -- the call was itself answered from the receipt
    obtain ⟨receipt', hget', hstate'⟩ := hnew
    obtain rfl : receipt = receipt' :=
      Option.some.inj (hget.symm.trans (execute_finalized call w _ _ hget' hstate'))
    rw [execute_of_finalized hadmission hget' hstate', if_pos hhash] at hout
    exact ⟨receipt, hget, hstate, hhash, Outcome.returned.inj hout⟩
  · exact execute_finalizes hk hown hout hnew ⟨receipt, hget, hstate⟩

/-- **Idempotent replay**: once an admitted call has returned a result and its receipt
is finalized, after any further run every admitted call under the same key returns that
result for the same request hash, the conflict for another one, and changes nothing. -/
theorem idempotent_replay (h : Reachable anyCall w) (hown : ownCommandId w call)
    (hadmitted : call.command.admission (call.context w) = none)
    {result : Except DomainError CommandResult} (hout : (execute call w).1 = .returned result)
    (hfinal : Finalized call (execute call w).2)
    (hrun : Relation.ReflTransGen (Step anyCall) (execute call w).2 w')
    (hkey : receiptKey call'.envelope = receiptKey call.envelope)
    (hadmission : call'.command.admission (call'.context w') = none) :
    execute call' w' =
      (.returned (if call'.envelope.requestHash = call.envelope.requestHash then result
        else .error idempotencyConflict), w') := by
  obtain ⟨receipt, hget, hstate, hhash, hreplay⟩ :=
    execute_replays (reachable_keyed h) hown hadmitted hout hfinal
  have hlater := run_finalized hrun _ receipt hget hstate
  rw [execute_of_finalized hadmission (hkey ▸ hlater) hstate, hhash, hreplay]
  simp only [eq_comm]

end Calls

section ReplaySample

open Sample

/-- The sample draft, sent again under another command id after the submission, is
answered with the result of the first call. -/
theorem idempotent_replay_draft :
    ∃ w' call', call'.envelope.commandId = "second" ∧
      execute call' w' = (.returned (.ok ⟨"draft-p1", [⟨"proposal", "p1", 1⟩], some "p1", none,
        none⟩), w') := by
  let again : Call :=
    { draftCall "p1" with
      envelope := { (draftCall "p1").envelope with commandId := "second" } }
  have hout : (execute (draftCall "p1") World.empty).1 = .returned (.ok ⟨"draft-p1",
      [⟨"proposal", "p1", 1⟩], some "p1", none, none⟩) := by decide
  have hfinal : ((execute (draftCall "p1") World.empty).2.receipts.get
      (receiptKey (draftCall "p1").envelope)).map (fun receipt => (receipt.state,
        receipt.requestHash)) = some (.accepted, "draft-p1") := by decide
  obtain ⟨receipt, hget, hreceipt⟩ := Option.map_eq_some_iff.mp hfinal
  simp only [Prod.mk.injEq] at hreceipt
  have hown : ownCommandId World.empty (draftCall "p1") := fun _ _ hnone => nomatch hnone
  have hkey : receiptKey again.envelope = receiptKey (draftCall "p1").envelope := rfl
  have hreplay := idempotent_replay .refl hown rfl hout
    ⟨receipt, hget, by rw [hreceipt.1]; decide, hreceipt.2⟩
    (run_of_events (admitted_anyCall _ [.call (submitCall "p1")])) hkey rfl
  exact ⟨_, again, rfl, hreplay⟩

end ReplaySample

/-! ### Rejections -/

section Rejections

variable [Platform] {w : World} {call : Call}

/-- The only header a rejection may leave behind. -/
def HeaderKeptOrCreated (e : CommandEnvelope) (t t' : Tables) : Prop :=
  t'.todoQueueHeaders = t.todoQueueHeaders ∨
    t.todoQueueHeaders.get (key e.organizationId e.workspaceId "todo") = none ∧
      t'.todoQueueHeaders = t.todoQueueHeaders.set (key e.organizationId e.workspaceId "todo")
        ⟨e.organizationId, e.workspaceId, 1⟩

/-- **A rejection writes nothing**: a call that returns an error leaves every table,
but for a missing header of its Todo queue created at version 1, and both ledgers;
if no other receipt of the organization has its command id, it leaves every receipt
but its own. -/
theorem rejection_writes_nothing (h : Reachable anyCall w) {error : DomainError}
    (hout : (execute call w).1 = .returned (.error error)) :
    (execute call w).2.tables =
        { w.tables with todoQueueHeaders := (execute call w).2.tables.todoQueueHeaders } ∧
      HeaderKeptOrCreated call.envelope w.tables (execute call w).2.tables ∧
      (execute call w).2.ledger = w.ledger ∧
      (ownCommandId w call → ∀ lookup, lookup ≠ receiptKey call.envelope →
        (execute call w).2.receipts.get lookup = w.receipts.get lookup) := by
  have hk := reachable_keyed h
  obtain ⟨hlock, hledger⟩ := execute_rejected hk hout
  refine ⟨hlock.frame, ?_, hledger, fun hown lookup hne => ?_⟩
  · generalize (execute call w).2.tables = t at hlock
    cases hlock with
    | refl => exact .inl rfl
    | created missing => exact .inr ⟨missing, rfl⟩
  · rcases execute_settled hk hown with hsame | ⟨-, hsettled⟩
    · rw [hsame]
    · exact (hsettled.get_of_ne hne).trans (openReceipts_get_of_ne hne)

end Rejections

open Sample

/-- The sample submission of a proposal that does not exist leaves the tables. -/
theorem rejection_writes_nothing_submit :
    (execute (submitCall "p1") World.empty).1 = .returned (.error
        ⟨"dev_board.expected_version_drift", "Proposal version has changed."⟩) ∧
      (execute (submitCall "p1") World.empty).2.ledger = World.empty.ledger := by
  have hout : (execute (submitCall "p1") World.empty).1 = .returned (.error
      ⟨"dev_board.expected_version_drift", "Proposal version has changed."⟩) := by decide
  exact ⟨hout, (rejection_writes_nothing .refl hout).2.2.1⟩

/-- An import whose legacy row has no canonical text. -/
def throwingImport : Call :=
  call "shared" "importLegacyDevTicket" "task" "unused" [] (.importLegacyDevTicket ⟨"task", none⟩)

/-- The legacy row of the import. -/
def throwingSource : LegacyTaskSource :=
  { id := "task"
    organizationId := organization
    workspaceId := workspace
    status := "todo"
    assigneeUserId := none
    cardNumber := 1
    createdAt := 0
    updatedAt := 0
    row := [("title", .undefined)]
    evidenceRefs := [] }

/-- The import throws and leaves its receipt reserved; a rejected submission with the
same command id finalizes that receipt instead of its own. -/
theorem rejection_finalizes_other_receipt :
    ¬∀ w call error, Reachable anyCall w → (execute call w).1 = .returned (.error error) →
      ∀ lookup, lookup ≠ receiptKey call.envelope →
        (execute call w).2.receipts.get lookup = w.receipts.get lookup := by
  intro h
  let w := runEvents World.empty [.directory directory,
    .legacySources (OrderedMap.empty.set "task" throwingSource), .call throwingImport]
  let submit := call "shared" "submitProposal" "p1" "unused" [] (.submitProposal "p1")
  have hout : (execute submit w).1 = .returned (.error
      ⟨"dev_board.expected_version_drift", "Proposal version has changed."⟩) := by decide
  have hbefore : (w.receipts.get (receiptKey throwingImport.envelope)).map (·.state) =
      some .reserved := by decide
  have hafter : ((execute submit w).2.receipts.get (receiptKey throwingImport.envelope)).map
      (·.state) = some .rejected := by decide
  rw [h w submit _ (reachable_runEvents _) hout _ (by decide), hbefore] at hafter
  cases hafter

end Opzava.DevBoard
