import Opzava.DevBoard.Versions

/-!
The planning commands and the workspaces they are not called for.

Two tables are not keyed by workspace: historical records are stored under their own
id, and the alias of a legacy task under its organization. That no command reaches a
row of another workspace there rests on `ImportTies`, the agreement of an alias and its
record.

* `SameScope`: two states of the tables hold the same rows of a workspace.
* `applied_sameScope`: an effect of a command leaves the rows of every other workspace.
* `execute_otherReceipts`: a call touches its own receipt, and else at most one reserved
  receipt of the organization that has its command id.
* `run_of_others`: a run in which a workspace makes no call leaves its rows, the order of
  its Todo queue and its part of the ledgers; if no workspace of the organization makes a
  call, its receipts too.
-/

namespace Opzava.DevBoard

open Opzava.Library

/-! ### Rows of a workspace -/

/-- The tables hold the same rows of the workspace. -/
structure SameScope (o w : ScopeId) (t t' : Tables) : Prop where
  proposals : ∀ id, t'.proposals.get (key o w id) = t.proposals.get (key o w id)
  devTickets : ∀ id, t'.devTickets.get (key o w id) = t.devTickets.get (key o w id)
  dependencyEdges : ∀ id,
    t'.dependencyEdges.get (key o w id) = t.dependencyEdges.get (key o w id)
  todoQueueHeaders : ∀ id,
    t'.todoQueueHeaders.get (key o w id) = t.todoQueueHeaders.get (key o w id)
  todoQueueMemberships : SameMembers t t' o w
  historicalRecords : ∀ id row, row.organizationId = o ∧ row.workspaceId = w →
    (t'.historicalRecords.get id = some row ↔ t.historicalRecords.get id = some row)
  legacyTaskAliases : ∀ k row, row.organizationId = o ∧ row.workspaceId = w →
    (t'.legacyTaskAliases.get k = some row ↔ t.legacyTaskAliases.get k = some row)

variable {o w : ScopeId} {c : Context} {t t₁ t' : Tables}

lemma SameScope.refl (o w : ScopeId) (t : Tables) : SameScope o w t t :=
  ⟨fun _ => rfl, fun _ => rfl, fun _ => rfl, fun _ => rfl, fun _ => rfl, fun _ _ _ => Iff.rfl,
    fun _ _ _ => Iff.rfl⟩

lemma SameScope.trans (h : SameScope o w t t₁) (h' : SameScope o w t₁ t') :
    SameScope o w t t' where
  proposals id := (h'.proposals id).trans (h.proposals id)
  devTickets id := (h'.devTickets id).trans (h.devTickets id)
  dependencyEdges id := (h'.dependencyEdges id).trans (h.dependencyEdges id)
  todoQueueHeaders id := (h'.todoQueueHeaders id).trans (h.todoQueueHeaders id)
  todoQueueMemberships id := (h'.todoQueueMemberships id).trans (h.todoQueueMemberships id)
  historicalRecords id row hrow :=
    (h'.historicalRecords id row hrow).trans (h.historicalRecords id row hrow)
  legacyTaskAliases k row hrow :=
    (h'.legacyTaskAliases k row hrow).trans (h.legacyTaskAliases k row hrow)

/-- Where the members of a queue are the same, so is its order. -/
lemma SameScope.todoOrder [Platform] (h : SameScope o w t t') (hk : Keyed t) (hk' : Keyed t')
    {l : List TodoQueueMembershipRow} (hl : Listed t o w l) :
    todoOrder t' o w = todoOrder t o w := by
  have hl' : Listed t' o w l := listed_congr hl h.todoQueueMemberships
  rw [DevBoard.todoOrder, DevBoard.todoOrder, listTodoQueueRanks_eq hk hl,
    listTodoQueueRanks_eq hk' hl']

/-- A write that replaces no row of a kind and writes none is not seen among the rows of
the kind. -/
lemma get_set_foreign {ρ : Type} {m : OrderedMap String ρ} {k : String} {new : ρ} {P : ρ → Prop}
    (hold : ∀ old, m.get k = some old → ¬P old) (hnew : ¬P new) (k' : String) {row : ρ}
    (hrow : P row) : (m.set k new).get k' = some row ↔ m.get k' = some row := by
  rw [OrderedMap.get_set]
  split_ifs with hk
  · subst hk
    constructor
    · intro heq
      exact absurd (Option.some.inj heq ▸ hrow) hnew
    · intro hget
      exact absurd hrow (hold row hget)
  · exact Iff.rfl

lemma HeaderStep.sameScope (h : HeaderStep c t t')
    (hscope : ¬(o = c.envelope.organizationId ∧ w = c.envelope.workspaceId)) :
    SameScope o w t t' := by
  cases h with
  | refl => exact .refl o w t
  | created =>
      exact { SameScope.refl o w t with
        todoQueueHeaders := fun id =>
          OrderedMap.get_set_of_ne _ _ (key_ne_of_scope_ne hscope id _) }

section Effects

variable {command : Command}

lemma ProposalChange.get_other {m : OrderedMap String ProposalRow} {k : String}
    (h : ProposalChange c t command m) (hne : ∀ id, k ≠ c.key id) :
    m.get k = t.proposals.get k := by
  cases h with
  | kept => rfl
  | _ => exact OrderedMap.get_set_of_ne _ _ (hne _)

lemma EdgeChange.get_other {m : OrderedMap String DependencyEdgeRow} {k : String}
    (h : EdgeChange c t command m) (hne : ∀ id, k ≠ c.key id) :
    m.get k = t.dependencyEdges.get k := by
  cases h with
  | kept => rfl
  | _ => exact OrderedMap.get_set_of_ne _ _ (hne _)

lemma Dequeued.get_other {id k : String} {lane : DevTicketLane} (h : Dequeued c t id lane t')
    (hne : ∀ id, k ≠ c.key id) :
    t'.todoQueueHeaders.get k = t.todoQueueHeaders.get k ∧
      t'.todoQueueMemberships.get k = t.todoQueueMemberships.get k := by
  cases h with
  | outside => exact ⟨rfl, rfl⟩
  | evicted =>
      exact ⟨OrderedMap.get_set_of_ne _ _ (hne _), OrderedMap.get_delete_of_ne _ (hne _)⟩

/-- The records and the aliases of another workspace over a re-import, which finds the
alias under the organization and the record under its id alone. -/
lemma rewritten_other (hties : ImportTies t) (hk : Keyed t) {source : LegacyTaskSource}
    {digest : String} {a : LegacyTaskAliasRow} {historical : HistoricalRecordRow}
    (record : HistoricalRecordRow) (devTicketId : Option String)
    (before : ImportedBefore c t source digest a historical)
    (ho : record.organizationId = historical.organizationId)
    (hw : record.workspaceId = historical.workspaceId)
    (hscope : ¬(o = c.envelope.organizationId ∧ w = c.envelope.workspaceId)) :
    (∀ id row, row.organizationId = o ∧ row.workspaceId = w →
      ((t.historicalRecords.set a.historicalRecordId record).get id = some row ↔
        t.historicalRecords.get id = some row)) ∧
      ∀ k row, row.organizationId = o ∧ row.workspaceId = w →
        ((Tables.setAliasDevTicketId c.envelope.organizationId historical.sourceTableRowIdentity
            devTicketId t).legacyTaskAliases.get k = some row ↔
          t.legacyTaskAliases.get k = some row) := by
  obtain ⟨-, hsource, -, hao, haw⟩ := hties.of_before hk before
  constructor
  · intro id row hrow
    refine get_set_foreign (P := fun row : HistoricalRecordRow =>
      row.organizationId = o ∧ row.workspaceId = w) ?_ ?_ id hrow
    · intro old hold
      rw [before.record] at hold
      cases hold
      rintro ⟨rfl, rfl⟩
      exact hscope ⟨before.organizationId, before.workspaceId⟩
    · rintro ⟨rfl, rfl⟩
      exact hscope ⟨ho.trans before.organizationId, hw.trans before.workspaceId⟩
  · intro k row hrow
    rw [hsource, setAliasDevTicketId_of_get before.existing]
    refine get_set_foreign (P := fun row : LegacyTaskAliasRow =>
      row.organizationId = o ∧ row.workspaceId = w) ?_ ?_ k hrow
    · intro old hold
      rw [before.existing] at hold
      cases hold
      rintro ⟨rfl, rfl⟩
      exact hscope ⟨hao, haw⟩
    · rintro ⟨rfl, rfl⟩
      exact hscope ⟨hao, haw⟩

/-- A first import writes a new record and a new alias of its own workspace. -/
lemma imported_other {source : LegacyTaskSource} {disposition : SourceDisposition}
    {digest : String}
    (absent : t.legacyTaskAliases.get (aliasKey c.envelope.organizationId source.id) = none)
    (freshRecord : t.historicalRecords.get c.randomUuid = none)
    (hscope : ¬(o = c.envelope.organizationId ∧ w = c.envelope.workspaceId)) :
    (∀ id row, row.organizationId = o ∧ row.workspaceId = w →
      ((t.historicalRecords.set c.randomUuid
          (importedRecord c source disposition digest)).get id = some row ↔
        t.historicalRecords.get id = some row)) ∧
      ∀ k row, row.organizationId = o ∧ row.workspaceId = w →
        ((t.legacyTaskAliases.set (aliasKey c.envelope.organizationId source.id)
            (importedAlias c source disposition)).get k = some row ↔
          t.legacyTaskAliases.get k = some row) := by
  constructor
  · intro id row hrow
    refine get_set_foreign (P := fun row : HistoricalRecordRow =>
      row.organizationId = o ∧ row.workspaceId = w) ?_ ?_ id hrow
    · intro old hold
      rw [freshRecord] at hold
      cases hold
    · rintro ⟨rfl, rfl⟩
      exact hscope ⟨rfl, rfl⟩
  · intro k row hrow
    refine get_set_foreign (P := fun row : LegacyTaskAliasRow =>
      row.organizationId = o ∧ row.workspaceId = w) ?_ ?_ k hrow
    · intro old hold
      rw [absent] at hold
      cases hold
    · rintro ⟨rfl, rfl⟩
      exact hscope ⟨rfl, rfl⟩

variable [Platform] {r : Recorded}

lemma TicketChange.get_other {m : OrderedMap String DevTicketRow} {k : String}
    (h : TicketChange c t command m) (hne : ∀ id, k ≠ c.key id) :
    m.get k = t.devTickets.get k := by
  cases h with
  | kept => rfl
  | _ => exact OrderedMap.get_set_of_ne _ _ (hne _)

/-- No effect touches the queue of another workspace. -/
lemma applied_queue_other (h : Applied c t command t' r) {k : String} (hne : ∀ id, k ≠ c.key id) :
    t'.todoQueueHeaders.get k = t.todoQueueHeaders.get k ∧
      t'.todoQueueMemberships.get k = t.todoQueueMemberships.get k := by
  cases h with
  | archived reason found active noDependents dequeued => exact dequeued.get_other hne
  | dependencyAdded found foundBlocker distinct new activeDependent activeBlocker noCycle
      dequeued => exact dequeued.get_other hne
  | dependencyRemoved foundEdge activeEdge found foundBlocker activeDependent activeBlocker
      dequeued => exact dequeued.get_other hne
  | @reordered input moved header membership index =>
      constructor
      · rw [writeRanks_frame]
        exact OrderedMap.get_set_of_ne _ _ (hne _)
      · exact writeRanks_get_other hne _ _ _ _
  | @approved input ticket contract hash type priority declared header rank rebalance =>
      constructor
      · show ((enqueue c t input.devTicketId rank rebalance).todoQueueHeaders.set _ _).get k = _
        rw [(enqueue_frame c t input.devTicketId rank rebalance).todoQueueHeaders,
          OrderedMap.get_set_of_ne _ _ (hne _)]
      · show (enqueue c t input.devTicketId rank rebalance).todoQueueMemberships.get k = _
        rw [enqueue, Tables.putMembership, OrderedMap.get_set_of_ne _ _ (hne _)]
        split_ifs
        · exact rebalanceFrom_get_other hne 0 _ t
        · rfl
  | promoted =>
      rw [setAliasDevTicketId_frame]
      exact ⟨rfl, rfl⟩
  | resolved =>
      rw [setAliasDevTicketId_frame]
      exact ⟨rfl, rfl⟩
  | _ => exact ⟨rfl, rfl⟩

/-- No effect touches a record or an alias of another workspace. -/
lemma applied_imports_other (hties : ImportTies t) (hk : Keyed t)
    (h : Applied c t command t' r)
    (hscope : ¬(o = c.envelope.organizationId ∧ w = c.envelope.workspaceId)) :
    (∀ id row, row.organizationId = o ∧ row.workspaceId = w →
      (t'.historicalRecords.get id = some row ↔ t.historicalRecords.get id = some row)) ∧
      ∀ k row, row.organizationId = o ∧ row.workspaceId = w →
        (t'.legacyTaskAliases.get k = some row ↔ t.legacyTaskAliases.get k = some row) := by
  cases h with
  | archived reason found active noDependents dequeued =>
      rw [dequeued.frame]
      exact ⟨fun _ _ _ => Iff.rfl, fun _ _ _ => Iff.rfl⟩
  | dependencyAdded found foundBlocker distinct new activeDependent activeBlocker noCycle
      dequeued =>
      rw [dequeued.frame]
      exact ⟨fun _ _ _ => Iff.rfl, fun _ _ _ => Iff.rfl⟩
  | dependencyRemoved foundEdge activeEdge found foundBlocker activeDependent activeBlocker
      dequeued =>
      rw [dequeued.frame]
      exact ⟨fun _ _ _ => Iff.rfl, fun _ _ _ => Iff.rfl⟩
  | reordered =>
      rw [writeRanks_frame]
      exact ⟨fun _ _ _ => Iff.rfl, fun _ _ _ => Iff.rfl⟩
  | approved =>
      rw [enqueue_frame]
      exact ⟨fun _ _ _ => Iff.rfl, fun _ _ _ => Iff.rfl⟩
  | @promoted input source digest hash existingAlias historical importable before =>
      obtain ⟨hrecords, haliases⟩ := rewritten_other hties hk
        (historical.resolved .promotedBacklog (some c.envelope.commandId)) (some source.id) before
        rfl rfl hscope
      refine ⟨fun id row hrow => ?_, fun k row hrow => ?_⟩
      · rw [setAliasDevTicketId_frame]
        exact hrecords id row hrow
      · rw [← haliases k row hrow]
        exact iff_of_eq (congrArg (fun m => OrderedMap.get m k = some row)
          (setAliasDevTicketId_aliases _ _ _ rfl))
  | @resolved input source disposition digest existingAlias historical importable before
      quarantined leaves unpromoted promotionCommandId =>
      obtain ⟨hrecords, haliases⟩ := rewritten_other hties hk
        (historical.resolved disposition promotionCommandId) existingAlias.devTicketId before
        rfl rfl hscope
      refine ⟨fun id row hrow => ?_, fun k row hrow => ?_⟩
      · rw [setAliasDevTicketId_frame]
        exact hrecords id row hrow
      · rw [← haliases k row hrow]
        exact iff_of_eq (congrArg (fun m => OrderedMap.get m k = some row)
          (setAliasDevTicketId_aliases _ _ _ rfl))
  | imported importable absent freshRecord => exact imported_other absent freshRecord hscope
  | importedPromoted importable absent freshRecord =>
      exact imported_other absent freshRecord hscope
  | @reconciled input historical found organizationId workspaceId =>
      refine ⟨fun id row hrow => ?_, fun _ _ _ => Iff.rfl⟩
      refine get_set_foreign (P := fun row : HistoricalRecordRow =>
        row.organizationId = o ∧ row.workspaceId = w) ?_ ?_ id hrow
      · intro old hold
        rw [found] at hold
        cases hold
        rintro ⟨rfl, rfl⟩
        exact hscope ⟨organizationId, workspaceId⟩
      · rintro ⟨rfl, rfl⟩
        exact hscope ⟨organizationId, workspaceId⟩
  | _ => exact ⟨fun _ _ _ => Iff.rfl, fun _ _ _ => Iff.rfl⟩

/-- **The frame of an effect**: the rows of every other workspace. -/
theorem applied_sameScope (hties : ImportTies t) (hk : Keyed t) (h : Applied c t command t' r)
    (hscope : ¬(o = c.envelope.organizationId ∧ w = c.envelope.workspaceId)) :
    SameScope o w t t' := by
  have hne : ∀ id id', key o w id ≠ c.key id' := key_ne_of_scope_ne hscope
  obtain ⟨hrecords, haliases⟩ := applied_imports_other hties hk h hscope
  exact
    { proposals := fun id => (applied_proposals h).get_other (hne id)
      devTickets := fun id => (applied_tickets h).get_other (hne id)
      dependencyEdges := fun id => (applied_edges h).get_other (hne id)
      todoQueueHeaders := fun id => (applied_queue_other h (hne id)).1
      todoQueueMemberships := fun id => (applied_queue_other h (hne id)).2
      historicalRecords := hrecords
      legacyTaskAliases := haliases }

end Effects

/-! ### Receipts -/

section Receipts

variable {e : CommandEnvelope} {receipts : Receipts} {lookup : CommandReceiptLookup}

/-- A receipt is stored under a key of its own organization. -/
def OwnOrganization (receipts : Receipts) : Prop :=
  ∀ lookup receipt, receipts.get lookup = some receipt →
    receipt.organizationId = lookup.organizationId

/-- What a call may do to a receipt under another key: nothing, unless the receipt is a
reserved one of the organization with the command id of the call. -/
def OthersKept (e : CommandEnvelope) (receipts receipts' : Receipts) : Prop :=
  ∀ lookup, lookup ≠ receiptKey e → receipts'.get lookup = receipts.get lookup ∨
    ∃ receipt, receipts.get lookup = some receipt ∧ receipt.state = .reserved ∧
      receipt.organizationId = e.organizationId ∧ receipt.commandId = e.commandId

lemma OthersKept.refl (e : CommandEnvelope) (receipts : Receipts) :
    OthersKept e receipts receipts := fun _ _ => .inl rfl

/-- A receipt that finalizing writes has the organization it had. -/
lemma ownOrganization_finalizeOrThrow (h : OwnOrganization receipts)
    (input : FinalizeCommandReceiptInput) (result : Except DomainError CommandResult) :
    OwnOrganization (finalizeOrThrow input result receipts).2 := by
  intro lookup receipt hget
  rw [finalizeOrThrow] at hget
  rcases finalizeTransaction_cases input receipts with
    heq | ⟨lookup', receipt', hget', -, -, -, heq⟩
  · rw [heq] at hget
    exact h lookup receipt hget
  · rw [heq] at hget
    rcases OrderedMap.get_set_eq_some hget with ⟨rfl, rfl⟩ | ⟨-, hold⟩
    · exact (h _ receipt' hget' :)
    · exact h lookup receipt hold

lemma ownOrganization_openReceipts (h : OwnOrganization receipts) (e : CommandEnvelope) :
    OwnOrganization (openReceipts e receipts) := by
  intro lookup receipt hget
  rw [openReceipts] at hget
  split_ifs at hget
  · exact h lookup receipt hget
  · rcases OrderedMap.get_set_eq_some hget with ⟨rfl, rfl⟩ | ⟨-, hold⟩
    · rfl
    · exact h lookup receipt hold

lemma othersKept_finalizeOrThrow {input : FinalizeCommandReceiptInput}
    (ho : input.organizationId = e.organizationId) (hid : input.commandId = e.commandId)
    (result : Except DomainError CommandResult) (receipts : Receipts) :
    OthersKept e receipts (finalizeOrThrow input result (openReceipts e receipts)).2 := by
  intro lookup hne
  rw [finalizeOrThrow]
  rcases finalizeTransaction_cases input (openReceipts e receipts) with
    heq | ⟨lookup', receipt, hget, hro, hrid, hreserved, heq⟩
  · rw [heq]
    exact .inl (openReceipts_get_of_ne hne)
  · rw [heq]
    by_cases hl : lookup = lookup'
    · subst hl
      rw [openReceipts_get_of_ne hne] at hget
      exact .inr ⟨receipt, hget, hreserved, hro.trans ho, hrid.trans hid⟩
    · exact .inl ((OrderedMap.get_set_of_ne _ _ hl).trans (openReceipts_get_of_ne hne))

/-- The receipts of another organization stay. -/
lemma OthersKept.organization {receipts' : Receipts} (h : OthersKept e receipts receipts')
    (hown : OwnOrganization receipts) (hne : lookup.organizationId ≠ e.organizationId) :
    receipts'.get lookup = receipts.get lookup := by
  have hkey : lookup ≠ receiptKey e := by
    rintro rfl
    exact hne rfl
  rcases h lookup hkey with hsame | ⟨receipt, hget, -, ho, -⟩
  · exact hsame
  · exact absurd ((hown lookup receipt hget).symm.trans ho) hne

variable [Platform]

lemma execute_ownOrganization {world : World} (h : OwnOrganization world.receipts) (call : Call) :
    OwnOrganization (execute call world).2.receipts := by
  have hopen := ownOrganization_openReceipts h call.envelope
  have hcase := execute_spec call world
  generalize execute call world = result at hcase
  cases hcase with
  | unauthorized => exact h
  | answered admission reserved =>
      cases reserved with
      | conflict => exact h
      | replayed => exact h
      | refused => exact ownOrganization_finalizeOrThrow hopen _ _
  | ran =>
      rw [ranWorld]
      cases (call.command.body (call.context world) world.tables world.ledger).verdict with
      | reject => exact ownOrganization_finalizeOrThrow hopen _ _
      | accept => exact ownOrganization_finalizeOrThrow hopen _ _
      | throws => exact hopen

/-- **The receipts of a call**: its own, and else at most a reserved receipt of the
organization with its command id. -/
theorem execute_otherReceipts (world : World) (call : Call) :
    OthersKept call.envelope world.receipts (execute call world).2.receipts := by
  have hcase := execute_spec call world
  generalize execute call world = result at hcase
  cases hcase with
  | unauthorized => exact .refl _ _
  | answered admission reserved =>
      cases reserved with
      | conflict => exact .refl _ _
      | replayed => exact .refl _ _
      | refused => exact othersKept_finalizeOrThrow rfl rfl _ _
  | ran =>
      rw [ranWorld]
      cases (call.command.body (call.context world) world.tables world.ledger).verdict with
      | reject => exact othersKept_finalizeOrThrow rfl rfl _ _
      | accept => exact othersKept_finalizeOrThrow rfl rfl _ _
      | throws => exact fun lookup hne => .inl (openReceipts_get_of_ne hne)

end Receipts

/-! ### Ledgers -/

/-- The entries and the events of a workspace, in the order of the ledgers. -/
def scopedLedger (o w : ScopeId) (l : Ledger) : Ledger where
  planningDecisionEntries := l.planningDecisionEntries.filter fun entry =>
    decide (entry.organizationId = o ∧ entry.workspaceId = w)
  activityEvents := l.activityEvents.filter fun event =>
    decide (event.organizationId = o ∧ event.workspaceId = w)

lemma Appended.scopedLedger {e : CommandEnvelope} {r : Recorded} {l l' : Ledger}
    (h : Appended e r l l') (hscope : ¬(o = e.organizationId ∧ w = e.workspaceId)) :
    scopedLedger o w l' = scopedLedger o w l := by
  obtain ⟨decisions, events, rfl, -, -, hdecisions, hevents⟩ := h
  have hd : (decisions.filter fun entry =>
      decide (entry.organizationId = o ∧ entry.workspaceId = w)) = [] := by
    refine List.filter_eq_nil_iff.mpr fun entry hentry => ?_
    obtain ⟨ho, hw⟩ := hdecisions entry hentry
    rw [decide_eq_true_eq, ho, hw]
    rintro ⟨rfl, rfl⟩
    exact hscope ⟨rfl, rfl⟩
  have he : (events.filter fun event =>
      decide (event.organizationId = o ∧ event.workspaceId = w)) = [] := by
    refine List.filter_eq_nil_iff.mpr fun event hevent => ?_
    obtain ⟨ho, hw⟩ := hevents event hevent
    rw [decide_eq_true_eq, ho, hw]
    rintro ⟨rfl, rfl⟩
    exact hscope ⟨rfl, rfl⟩
  rw [DevBoard.scopedLedger, DevBoard.scopedLedger, List.filter_append, List.filter_append, hd,
    he, List.append_nil, List.append_nil]

/-! ### Calls and runs -/

section Runs

variable [Platform] {admissible : World → Call → Prop} {world : World}

lemma reachable_ownOrganization (h : Reachable admissible world) :
    OwnOrganization world.receipts := by
  induction h with
  | refl =>
      intro lookup receipt hget
      cases hget
  | tail _ hstep ih =>
      cases hstep with
      | directory => exact ih
      | legacySources => exact ih
      | call call => exact execute_ownOrganization ih call

/-- A call for another workspace, on the tables and the ledgers. -/
lemma execute_sameScope (h : Reachable admissible world) (call : Call)
    (hscope : ¬(o = call.envelope.organizationId ∧ w = call.envelope.workspaceId)) :
    SameScope o w world.tables (execute call world).2.tables ∧
      scopedLedger o w (execute call world).2.ledger = scopedLedger o w world.ledger := by
  have hk := reachable_keyed h
  obtain ⟨t, hlock, ⟨htables, hledger⟩ | ⟨r, happlied, hledger⟩⟩ := execute_effect hk call
  · rw [htables, hledger]
    exact ⟨hlock.sameScope hscope, rfl⟩
  · have hties : ImportTies t := (reachable_importTies h).of_eq hlock.historicalRecords
      hlock.legacyTaskAliases fun k hget => by rwa [hlock.devTickets]
    refine ⟨(hlock.sameScope hscope).trans
      (applied_sameScope hties (hk.headerStep hlock) happlied hscope), ?_⟩
    rcases hledger with hsame | happended
    · rw [hsame]
    · exact happended.scopedLedger hscope

/-- What a workspace sees is the same in two worlds. -/
structure SameView (o w : ScopeId) (world world' : World) : Prop where
  tables : SameScope o w world.tables world'.tables
  ledger : scopedLedger o w world'.ledger = scopedLedger o w world.ledger
  todoOrder : todoOrder world'.tables o w = todoOrder world.tables o w

lemma Event.reachable (h : Reachable anyCall world) (event : Event) :
    Reachable anyCall (event.apply world) := by
  refine .tail h ?_
  cases event with
  | call request => exact .call request trivial
  | directory d => exact .directory world d
  | legacySources sources => exact .legacySources world sources

/-- The calls among the events are for other workspaces. -/
def ForOthers (o w : ScopeId) (events : List Event) : Prop :=
  ∀ request, Event.call request ∈ events →
    ¬(o = request.envelope.organizationId ∧ w = request.envelope.workspaceId)

/-- One event that is no call of the workspace. -/
lemma Event.sameScope (h : Reachable anyCall world) {event : Event}
    (hothers : ForOthers o w [event]) :
    SameScope o w world.tables (event.apply world).tables ∧
      scopedLedger o w (event.apply world).ledger = scopedLedger o w world.ledger := by
  cases event with
  | call request => exact execute_sameScope h request (hothers request (by simp))
  | directory d => exact ⟨.refl o w _, rfl⟩
  | legacySources sources => exact ⟨{ SameScope.refl o w world.tables with }, rfl⟩

/-- One event of other organizations, on the receipts. -/
lemma Event.receipts (h : Reachable anyCall world) {event : Event}
    (hothers : ∀ request, event = .call request → o ≠ request.envelope.organizationId)
    {lookup : CommandReceiptLookup} (ho : lookup.organizationId = o) :
    (event.apply world).receipts.get lookup = world.receipts.get lookup := by
  cases event with
  | call request =>
      exact (execute_otherReceipts world request).organization (reachable_ownOrganization h)
        (ho ▸ hothers request rfl)
  | directory d => rfl
  | legacySources sources => rfl

/-- **A workspace over the calls of others**: whatever the other workspaces call and
whatever becomes of the directory and the legacy sources, its proposals, tickets,
dependencies, queue, historical records, aliases, ledger entries and the order of its Todo
queue are the same. If its organization makes no call at all, so are its receipts. -/
theorem run_of_others (h : Reachable anyCall world) (o w : ScopeId) (events : List Event)
    (hothers : ForOthers o w events) :
    SameView o w world (runEvents world events) ∧
      ((∀ request, Event.call request ∈ events → o ≠ request.envelope.organizationId) →
        ∀ lookup : CommandReceiptLookup, lookup.organizationId = o →
          (runEvents world events).receipts.get lookup = world.receipts.get lookup) := by
  induction events generalizing world with
  | nil => exact ⟨⟨.refl o w _, rfl, rfl⟩, fun _ _ _ => rfl⟩
  | cons event rest ih =>
      have hhead : ForOthers o w [event] := by
        intro request hmem
        rw [List.mem_singleton] at hmem
        exact hothers request (hmem ▸ List.mem_cons_self)
      obtain ⟨htables, hledger⟩ := Event.sameScope h hhead
      have hnext := Event.reachable h event
      obtain ⟨l, hl⟩ := reachable_listed h o w
      obtain ⟨hview, hreceipts⟩ := ih hnext
        (fun request hmem => hothers request (List.mem_cons_of_mem _ hmem))
      refine ⟨⟨htables.trans hview.tables, hview.ledger.trans hledger, hview.todoOrder.trans
        (htables.todoOrder (reachable_keyed h) (reachable_keyed hnext) hl)⟩, ?_⟩
      intro horganization lookup ho
      exact (hreceipts (fun request hmem => horganization request (List.mem_cons_of_mem _ hmem))
          lookup ho).trans
        (Event.receipts h
          (fun request heq => horganization request (heq ▸ List.mem_cons_self)) ho)

end Runs

open Sample

/-- A draft in another workspace of the organization. -/
def neighbourCall : Call :=
  { draftCall "p9" with
    envelope := { (draftCall "p9").envelope with
      workspaceId := ⟨"33333333-3333-4333-8333-333333333333", by decide⟩ } }

/-- The board with `t1` in Todo does not see the draft of its neighbour. -/
theorem run_of_others_neighbour :
    SameView organization workspace (runEvents World.empty todoEvents)
      (runEvents (runEvents World.empty todoEvents) [.call neighbourCall]) := by
  refine (run_of_others (reachable_runEvents todoEvents) organization workspace
    [.call neighbourCall] ?_).1
  intro request hmem
  rw [List.mem_singleton] at hmem
  cases hmem
  decide

end Opzava.DevBoard
