import Opzava.DevBoard.Effects

/-!
What the store operations and the mutations of the commands did when they
succeeded: one inversion lemma an operation, in the terms of `Effects.lean`.
-/

namespace Opzava.DevBoard

open Opzava.Library

variable {c : Context} {t₀ t t' : Tables}

/-! ### Reading and writing one row -/

lemma proposalAtExpectedVersion_eq_some {e : CommandEnvelope} {id : String} {row : ProposalRow}
    (h : proposalAtExpectedVersion t e id = some row) :
    t.proposals.get (key e.organizationId e.workspaceId id) = some row := by
  rw [proposalAtExpectedVersion] at h
  split at h
  · split_ifs at h
    cases h
    assumption
  · cases h

lemma devTicketAtExpectedVersion_eq_some {e : CommandEnvelope} {id : String} {row : DevTicketRow}
    (h : devTicketAtExpectedVersion t e id = some row) :
    t.devTickets.get (key e.organizationId e.workspaceId id) = some row := by
  rw [devTicketAtExpectedVersion] at h
  split at h
  · split_ifs at h
    cases h
    assumption
  · cases h

lemma Keyed.proposal_id (hk : Keyed t) {o w : ScopeId} {id : String} {row : ProposalRow}
    (h : t.proposals.get (key o w id) = some row) : row.id = id :=
  (key_injective (hk.proposals h)).2.2.symm

lemma Keyed.devTicket_id (hk : Keyed t) {o w : ScopeId} {id : String} {row : DevTicketRow}
    (h : t.devTickets.get (key o w id) = some row) : row.id = id :=
  (key_injective (hk.devTickets h)).2.2.symm

lemma Keyed.edge_id (hk : Keyed t) {o w : ScopeId} {id : String} {row : DependencyEdgeRow}
    (h : t.dependencyEdges.get (key o w id) = some row) : row.id = id :=
  (key_injective (hk.dependencyEdges h)).2.2.symm

lemma updateProposal_eq_some {o w : ScopeId} {id : String} {version : ℕ}
    {update : ProposalUpdate} {row current : ProposalRow}
    (h : t.updateProposal o w id version update = some (row, t'))
    (hget : t.proposals.get (key o w id) = some current) :
    row = current.updated update ∧
      t' = t.putProposal (key o w id) (current.updated update) := by
  simp only [Tables.updateProposal, hget] at h
  split_ifs at h
  cases h
  exact ⟨rfl, rfl⟩

/-- Appending to the ledger does not touch the tables. -/
lemma planned_tables {appended : Except Thrown Ledger} {l : Ledger} {next : Ledger → Exit}
    (h : ∀ l', (next l').tables = t) : (planned appended t l next).tables = t := by
  cases appended with
  | error error => rfl
  | ok l' => exact h l'

lemma isNone_of_not_isSome {α : Type} {x : Option α} (h : ¬x.isSome = true) : x = none := by
  simpa using h

lemma dependencyChanged_id (row : DevTicketRow) : row.dependencyChanged.id = row.id := by
  rw [DevTicketRow.dependencyChanged]
  split_ifs <;> rfl

lemma dependencyChanged_version (row : DevTicketRow) :
    row.dependencyChanged.version = row.version + 1 := by
  rw [DevTicketRow.dependencyChanged]
  split_ifs <;> rfl

lemma active_of_not_retired {edge : DependencyEdgeRow} (h : ¬edge.lifecycleState = .retired) :
    edge.lifecycleState = .active := by
  cases hstate : edge.lifecycleState with
  | active => rfl
  | retired => exact absurd hstate h

lemma dependencyEndpointFailure_eq_none {row : DevTicketRow}
    (h : dependencyEndpointFailure row = none) : row.archivedAt = none := by
  rw [dependencyEndpointFailure] at h
  split_ifs at h with harchived
  exact isNone_of_not_isSome harchived

lemma dependencyEndpointsFailure_eq_none {dependent blocker : DevTicketRow}
    (h : dependencyEndpointsFailure dependent blocker = none) :
    dependent.archivedAt = none ∧ blocker.archivedAt = none := by
  rw [dependencyEndpointsFailure, Option.or_eq_none_iff] at h
  exact ⟨dependencyEndpointFailure_eq_none h.1, dependencyEndpointFailure_eq_none h.2⟩

/-- A ticket is inserted under a new key, and a source proposal has no other ticket
in the organization. -/
lemma insertDevTicket_eq_ok {input : Tables.InsertDevTicketInput} {row : DevTicketRow}
    (h : t.insertDevTicket input = .ok (row, t')) :
    t.devTickets.get (key input.organizationId input.workspaceId input.id) = none ∧
      (∀ proposalId, input.sourceProposalId = some proposalId → ∀ k row,
        t.devTickets.get k = some row → row.organizationId = input.organizationId →
        row.sourceProposalId ≠ some proposalId) ∧
      row = input.row ∧
      t' = t.putDevTicket (key input.organizationId input.workspaceId input.id) input.row := by
  rw [Tables.insertDevTicket] at h
  split_ifs at h with hconflict
  cases h
  rw [not_or] at hconflict
  refine ⟨OrderedMap.has_eq_false.mp (Bool.eq_false_iff.mpr hconflict.1), ?_, rfl, rfl⟩
  intro proposalId hid k row hrow horg hsource
  refine hconflict.2 ⟨by rw [hid]; rfl, List.any_eq_true.mpr
    ⟨row, OrderedMap.mem_values_iff.mpr ⟨k, hrow⟩, ?_⟩⟩
  simp [horg, hsource, hid]

/-- A historical record is read under its id and only from its own workspace. -/
lemma selectHistoricalRecordForUpdate_eq_some {o w : ScopeId} {id : String}
    {row : HistoricalRecordRow} :
    t.selectHistoricalRecordForUpdate o w id = some row ↔
      t.historicalRecords.get id = some row ∧ row.organizationId = o ∧ row.workspaceId = w := by
  rw [Tables.selectHistoricalRecordForUpdate]
  cases t.historicalRecords.get id with
  | none => simp
  | some current =>
      simp only [Option.some.injEq]
      constructor
      · intro h
        split_ifs at h with hscope
        cases h
        exact ⟨rfl, hscope⟩
      · rintro ⟨rfl, hscope⟩
        rw [if_pos hscope]

/-- Writing the ticket id of an alias touches the aliases only. -/
lemma setAliasDevTicketId_frame (o : ScopeId) (id : String) (devTicketId : Option String)
    (t : Tables) :
    Tables.setAliasDevTicketId o id devTicketId t =
      { t with
        legacyTaskAliases := (Tables.setAliasDevTicketId o id devTicketId t).legacyTaskAliases } := by
  rw [Tables.setAliasDevTicketId]
  cases t.legacyTaskAliases.get (aliasKey o id) with
  | none => rfl
  | some row => rfl

/-- The rewrite of a record that is still at the version it was read at: an allowed
disposition, the same gate, and the ticket id of the alias. -/
lemma resolveRecord_eq_ok {historical : HistoricalRecordRow} {disposition : SourceDisposition}
    {promotionCommandId devTicketId : Option String} {resolved : Option HistoricalRecordRow}
    (h : resolveRecord c historical disposition promotionCommandId devTicketId t =
      .ok resolved t')
    (hget : t.historicalRecords.get historical.historicalRecordId = some historical)
    (horg : historical.organizationId = c.envelope.organizationId)
    (hworkspace : historical.workspaceId = c.envelope.workspaceId) :
    (historical.sourceDisposition = .quarantinedNoOwner ∨
        disposition = historical.sourceDisposition) ∧
      resolved = some (historical.resolved disposition promotionCommandId) ∧
      t' = Tables.setAliasDevTicketId c.envelope.organizationId
        historical.sourceTableRowIdentity devTicketId
        (t.putHistorical historical.historicalRecordId
          (historical.resolved disposition promotionCommandId)) := by
  have hselect : t.selectHistoricalRecordForUpdate c.envelope.organizationId
      c.envelope.workspaceId historical.historicalRecordId = some historical :=
    selectHistoricalRecordForUpdate_eq_some.mpr ⟨hget, horg, hworkspace⟩
  have h := orThrow_eq_ok.mp h
  rw [Tables.resolveImportedHistoricalRecord, hselect] at h
  simp only [ne_eq, not_true_eq_false, if_false] at h
  split_ifs at h with hallowed
  cases h
  refine ⟨?_, rfl, rfl⟩
  simp only [Tables.resolutionAllowed, Bool.not_eq_false, Bool.and_eq_true] at hallowed
  by_cases hquarantined : historical.sourceDisposition = .quarantinedNoOwner
  · exact .inl hquarantined
  · rw [if_neg hquarantined, decide_eq_true_eq] at hallowed
    exact .inr hallowed.1

/-! ### The Todo queue -/

/-- The creation of a header touches the headers only. -/
lemma HeaderStep.frame (h : HeaderStep c t₀ t) :
    t = { t₀ with todoQueueHeaders := t.todoQueueHeaders } := by
  cases h with
  | refl => rfl
  | created => rfl

lemma HeaderStep.devTickets (h : HeaderStep c t₀ t) : t.devTickets = t₀.devTickets := by
  cases h with
  | refl => rfl
  | created => rfl

lemma HeaderStep.dependencyEdges (h : HeaderStep c t₀ t) :
    t.dependencyEdges = t₀.dependencyEdges := by
  cases h with
  | refl => rfl
  | created => rfl

lemma HeaderStep.hasActiveDependencies (h : HeaderStep c t₀ t) (o w : ScopeId) (id : String) :
    t.hasActiveDependencies o w id = t₀.hasActiveDependencies o w id := by
  rw [Tables.hasActiveDependencies, h.dependencyEdges, Tables.hasActiveDependencies]

lemma getOrLock_spec (c : Context) (t : Tables) :
    ∃ header t₁, t.getOrLockTodoQueueHeader c.envelope.organizationId c.envelope.workspaceId =
        (header, t₁) ∧ HeaderStep c t t₁ ∧
      t₁.todoQueueHeaders.get (c.key "todo") = some header := by
  rw [Tables.getOrLockTodoQueueHeader]
  cases h : t.todoQueueHeaders.get (c.key "todo") with
  | some current => exact ⟨current, t, rfl, .refl, h⟩
  | none => exact ⟨_, _, rfl, .created h, OrderedMap.get_set_self _ _ _⟩

/-- The queue guard rejects, or lets a ticket outside Todo through as it is, or
has locked the header at the version it answers. -/
lemma lockTodoQueue_cases (c : Context) (lane : DevTicketLane) (t : Tables) :
    (∃ t₁, lockTodoQueue c.envelope lane t = (.error (), t₁) ∧ HeaderStep c t t₁) ∨
      (lane ≠ .todo ∧ lockTodoQueue c.envelope lane t = (.ok none, t)) ∨
      ∃ header t₁, lane = .todo ∧
        lockTodoQueue c.envelope lane t = (.ok (some header.version), t₁) ∧ HeaderStep c t t₁ ∧
        t₁.todoQueueHeaders.get (c.key "todo") = some header := by
  rw [lockTodoQueue]
  split_ifs with hlane
  · obtain ⟨header, t₁, hlock, hstep, hheader⟩ := getOrLock_spec c t
    rw [hlock]
    dsimp only
    cases expected c.envelope "lane_queue" "todo" with
    | none => exact .inl ⟨t₁, rfl, hstep⟩
    | some version =>
        dsimp only
        split_ifs with hversion
        · exact .inl ⟨t₁, rfl, hstep⟩
        · rw [not_not] at hversion
          exact .inr (.inr ⟨header, t₁, hlane, by rw [hversion], hstep, hheader⟩)
  · exact .inr (.inl ⟨hlane, rfl⟩)

lemma casBumpTodoQueueVersion_eq_some {o w : ScopeId} {version : ℕ} {row : LaneQueueHeaderRow}
    (h : t.casBumpTodoQueueVersion o w version = some (row, t')) :
    ∃ header, t.todoQueueHeaders.get (key o w "todo") = some header ∧
      row = { header with version := header.version + 1 } ∧
      t' = t.putHeader (key o w "todo") row := by
  rw [Tables.casBumpTodoQueueVersion] at h
  cases hheader : t.todoQueueHeaders.get (key o w "todo") with
  | none => simp [hheader] at h
  | some header =>
      simp only [hheader] at h
      split_ifs at h
      cases h
      exact ⟨header, rfl, rfl, rfl⟩

/-- The bump of a header that is locked at the expected version succeeds. -/
lemma casBumpTodoQueueVersion_of_locked {o w : ScopeId} {header : LaneQueueHeaderRow}
    (h : t.todoQueueHeaders.get (key o w "todo") = some header) :
    t.casBumpTodoQueueVersion o w header.version =
      some ({ header with version := header.version + 1 },
        t.putHeader (key o w "todo") { header with version := header.version + 1 }) := by
  simp [Tables.casBumpTodoQueueVersion, h, Tables.putHeader]

/-- Two tables that differ in memberships at most. -/
def SameButMemberships (t t' : Tables) : Prop :=
  t' = { t with todoQueueMemberships := t'.todoQueueMemberships }

lemma SameButMemberships.devTickets (h : SameButMemberships t t') :
    t'.devTickets = t.devTickets := by
  rw [h]

lemma SameButMemberships.todoQueueHeaders (h : SameButMemberships t t') :
    t'.todoQueueHeaders = t.todoQueueHeaders := by
  rw [h]

lemma updateTodoQueueMembershipRank_frame (o w : ScopeId) (id : String) (rank : ℤ) (t : Tables) :
    SameButMemberships t (t.updateTodoQueueMembershipRank o w id rank).2 := by
  rw [Tables.updateTodoQueueMembershipRank]
  split_ifs <;> rfl

lemma rebalanceFrom_frame (o w : ScopeId) : ∀ (index : ℕ) (ids : List String) (t : Tables),
    SameButMemberships t (Tables.rebalanceFrom o w index ids t)
  | _, [], _ => rfl
  | index, id :: rest, t => by
      have hhead := updateTodoQueueMembershipRank_frame o w id ((index + 2) * 1000000) t
      have hrest := rebalanceFrom_frame o w (index + 1) rest
        (t.updateTodoQueueMembershipRank o w id ((index + 2) * 1000000)).2
      rw [SameButMemberships] at *
      rw [Tables.rebalanceFrom, hrest, hhead]

/-- The band does not depend on the tickets, and a write of a ticket commutes with
it. -/
lemma rebalanceFrom_putDevTicket (o w : ScopeId) (k : String) (row : DevTicketRow) :
    ∀ (index : ℕ) (ids : List String) (t : Tables),
      Tables.rebalanceFrom o w index ids (t.putDevTicket k row) =
        (Tables.rebalanceFrom o w index ids t).putDevTicket k row
  | _, [], _ => rfl
  | index, id :: rest, t => by
      have hhead : ((t.putDevTicket k row).updateTodoQueueMembershipRank o w id
          ((index + 2) * 1000000)).2 =
            (t.updateTodoQueueMembershipRank o w id ((index + 2) * 1000000)).2.putDevTicket k
              row := by
        cases hhas : t.todoQueueMemberships.has (key o w id) <;>
          simp only [Tables.updateTodoQueueMembershipRank, Tables.putDevTicket, hhas] <;> rfl
      rw [Tables.rebalanceFrom, hhead, rebalanceFrom_putDevTicket, Tables.rebalanceFrom]

lemma updateTodoQueueMembershipRank_get_eq_none (o w : ScopeId) (id k : String) (rank : ℤ)
    (t : Tables) :
    (t.updateTodoQueueMembershipRank o w id rank).2.todoQueueMemberships.get k = none ↔
      t.todoQueueMemberships.get k = none := by
  rw [Tables.updateTodoQueueMembershipRank]
  split_ifs with hhas
  · obtain ⟨membership, hmember⟩ := OrderedMap.has_eq_true.mp hhas
    by_cases hk : k = key o w id
    · subst hk
      simp [hmember]
    · rw [OrderedMap.get_set_of_ne _ _ hk]
  · rfl

/-- A rebalance neither adds nor removes a member. -/
lemma rebalanceFrom_get_eq_none (o w : ScopeId) (k : String) :
    ∀ (index : ℕ) (ids : List String) (t : Tables),
      (Tables.rebalanceFrom o w index ids t).todoQueueMemberships.get k = none ↔
        t.todoQueueMemberships.get k = none
  | _, [], _ => Iff.rfl
  | index, id :: rest, t => by
      rw [Tables.rebalanceFrom, rebalanceFrom_get_eq_none,
        updateTodoQueueMembershipRank_get_eq_none]

lemma rebalanceTodoBand_frame (o w : ScopeId) (ids : List String) (t : Tables) :
    SameButMemberships t (t.rebalanceTodoBand o w ids) :=
  rebalanceFrom_frame o w 0 ids t

lemma writeRanks_frame (e : CommandEnvelope) (id : String) (rank : ℤ) (ids : List String)
    (t : Tables) : SameButMemberships t (writeRanks e id rank ids t).2 := by
  rw [writeRanks]
  split_ifs
  · exact rebalanceTodoBand_frame _ _ ids t
  · exact updateTodoQueueMembershipRank_frame _ _ id rank t

/-- The rank of a member that is there can be written. -/
lemma writeRanks_of_member {e : CommandEnvelope} {id : String} (rank : ℤ) (ids : List String)
    {membership : TodoQueueMembershipRow}
    (h : t.todoQueueMemberships.get (key e.organizationId e.workspaceId id) = some membership) :
    writeRanks e id rank ids t = (true, (writeRanks e id rank ids t).2) := by
  rw [writeRanks]
  split_ifs
  · rfl
  · rw [Tables.updateTodoQueueMembershipRank, if_pos (OrderedMap.has_eq_true.mpr ⟨_, h⟩)]

/-- Eviction deletes a membership that is there and bumps the locked header. -/
lemma evictFromTodo_eq_ok {id drift : String} {version : ℕ} {bumped : LaneQueueHeaderRow}
    (h : evictFromTodo c.envelope id drift version t = .ok bumped t') :
    ∃ membership header, t.todoQueueMemberships.get (c.key id) = some membership ∧
      t.todoQueueHeaders.get (c.key "todo") = some header ∧
      t' = (t.dropMembership (c.key id)).putHeader (c.key "todo")
        { header with version := header.version + 1 } := by
  rw [evictFromTodo] at h
  obtain ⟨deleted, t₁, hdelete, h⟩ := bind_eq_ok.mp h
  cases hdelete
  split_ifs at h with hhas
  · obtain ⟨_, _, hthrow, _⟩ := bind_eq_ok.mp h
    exact (throw_eq_ok.mp hthrow).elim
  · obtain ⟨membership, hmember⟩ := OrderedMap.has_eq_true.mp (Bool.eq_true_of_not_eq_false hhas)
    obtain ⟨result, t₃, hbump, h⟩ := bind_eq_ok.mp h
    cases result with
    | none => exact (throw_eq_ok.mp h).elim
    | some row =>
        obtain ⟨rfl, rfl⟩ := pure_eq_ok.mp h
        obtain ⟨header, hheader, rfl, rfl⟩ :=
          casBumpTodoQueueVersion_eq_some (orNull_eq_some.mp hbump)
        exact ⟨membership, header, hmember, hheader, rfl⟩

lemma evictIfTodo_eq_ok {id drift : String} {queueVersion : Option ℕ} {lane : DevTicketLane}
    {bumped : Option LaneQueueHeaderRow}
    (h : evictIfTodo c.envelope id drift queueVersion t = .ok bumped t')
    (hlane : queueVersion.isSome = true ↔ lane = .todo) : Dequeued c t id lane t' := by
  cases queueVersion with
  | none =>
      obtain ⟨-, rfl⟩ := pure_eq_ok.mp h
      exact .outside fun htodo => by simpa using hlane.mpr htodo
  | some version =>
      obtain ⟨row, t₁, hevict, h⟩ := bind_eq_ok.mp h
      obtain ⟨-, rfl⟩ := pure_eq_ok.mp h
      obtain ⟨membership, header, hmember, hheader, rfl⟩ := evictFromTodo_eq_ok hevict
      exact .evicted (hlane.mp rfl) hmember hheader

/-! ### Mutations -/

lemma Dequeued.devTickets {id : String} {lane : DevTicketLane}
    (h : Dequeued c t id lane t') : t'.devTickets = t.devTickets := by
  cases h with
  | outside => rfl
  | evicted => rfl

/-- The archive mutation takes the ticket out of the queue and writes the archive
overlay. -/
lemma archiveMutation_eq_ok {ticket updated : DevTicketRow} {reason : String}
    {queueVersion : Option ℕ} {bumped : Option LaneQueueHeaderRow}
    (hget : t.devTickets.get (c.key ticket.id) = some ticket)
    (hlane : queueVersion.isSome = true ↔ ticket.lane = .todo)
    (h : archiveMutation c ticket reason queueVersion t = .ok (updated, bumped) t') :
    ∃ t₁, Dequeued c t ticket.id ticket.lane t₁ ∧
      updated = ticket.archived (c.now 0) c.envelope.actorRef.stableId reason ∧
      t' = t₁.putDevTicket (c.key ticket.id) updated := by
  rw [archiveMutation] at h
  obtain ⟨bumped', t₁, hevict, h⟩ := bind_eq_ok.mp h
  obtain ⟨result, t₂, hcas, h⟩ := bind_eq_ok.mp h
  have hdequeued := evictIfTodo_eq_ok hevict hlane
  cases result with
  | none => exact (throw_eq_ok.mp h).elim
  | some row =>
      obtain ⟨heq, rfl⟩ := pure_eq_ok.mp h
      cases heq
      obtain ⟨current, hcurrent, -, -, rfl, rfl⟩ :=
        Tables.casDevTicket_eq_some.mp (orNull_eq_some.mp hcas)
      rw [hdequeued.devTickets, hget] at hcurrent
      cases hcurrent
      exact ⟨t₁, hdequeued, rfl, rfl⟩

/-- The dependency mutations take the dependent out of the queue and write its
row. -/
lemma dependentMutation_eq_ok {dependent updated : DevTicketRow} {queueVersion : Option ℕ}
    {bumped : Option LaneQueueHeaderRow}
    (h : dependentMutation c dependent queueVersion t = .ok (updated, bumped) t')
    (hget : t.devTickets.get (c.key dependent.id) = some dependent)
    (hlane : queueVersion.isSome = true ↔ dependent.lane = .todo) :
    ∃ t₁, Dequeued c t dependent.id dependent.lane t₁ ∧ updated = dependent.dependencyChanged ∧
      t' = t₁.putDevTicket (c.key dependent.id) updated := by
  rw [dependentMutation] at h
  obtain ⟨bumped', t₁, hevict, h⟩ := bind_eq_ok.mp h
  obtain ⟨result, t₂, hcas, h⟩ := bind_eq_ok.mp h
  have hdequeued := evictIfTodo_eq_ok hevict hlane
  cases result with
  | none => exact (throw_eq_ok.mp h).elim
  | some row =>
      obtain ⟨heq, rfl⟩ := pure_eq_ok.mp h
      cases heq
      obtain ⟨current, hcurrent, -, -, rfl, rfl⟩ :=
        Tables.casDevTicket_eq_some.mp (orNull_eq_some.mp hcas)
      rw [hdequeued.devTickets, hget] at hcurrent
      cases hcurrent
      exact ⟨t₁, hdequeued, rfl, rfl⟩

/-- The mutation of `addDependency` inserts an edge between two tickets that exist and
have no active edge yet, then changes the dependent. -/
lemma addMutation_eq_ok {dependent blocker updated : DevTicketRow} {queueVersion : Option ℕ}
    {bumped : Option LaneQueueHeaderRow} {edge : DependencyEdgeRow} (reason : String)
    (hget : t.devTickets.get (c.key dependent.id) = some dependent)
    (hlane : queueVersion.isSome = true ↔ dependent.lane = .todo)
    (h : addMutation c dependent blocker queueVersion t = .ok (edge, updated, bumped) t') :
    ∃ t₁, Dequeued c t dependent.id dependent.lane t₁ ∧
      edge = newEdge c ⟨dependent.id, blocker.id, reason⟩ ∧
      updated = dependent.dependencyChanged ∧
      t' = (t₁.putEdge (c.key c.randomUuid) edge).putDevTicket (c.key dependent.id) updated := by
  rw [addMutation] at h
  obtain ⟨inserted, t₁, hinsert, h⟩ := bind_eq_ok.mp h
  obtain ⟨⟨row, bumped'⟩, t₂, hdependent, h⟩ := bind_eq_ok.mp h
  obtain ⟨heq, rfl⟩ := pure_eq_ok.mp h
  cases heq
  have hinsert := orThrow_eq_ok.mp hinsert
  rw [Tables.insertDependencyEdge] at hinsert
  split_ifs at hinsert
  cases hinsert
  obtain ⟨t₃, hdequeued, rfl, rfl⟩ := dependentMutation_eq_ok hdependent hget hlane
  cases hdequeued with
  | outside hout => exact ⟨t, .outside hout, rfl, rfl, rfl⟩
  | evicted htodo hmember hheader => exact ⟨_, .evicted htodo hmember hheader, rfl, rfl, rfl⟩

/-- The mutation of `removeDependency` retires an active edge, then changes the
dependent. -/
lemma removeMutation_eq_ok {edge retired : DependencyEdgeRow} {dependent updated : DevTicketRow}
    {expectedEdgeVersion : ℕ} {queueVersion : Option ℕ} {bumped : Option LaneQueueHeaderRow}
    (hedge : t.dependencyEdges.get (c.key edge.id) = some edge)
    (hget : t.devTickets.get (c.key dependent.id) = some dependent)
    (hlane : queueVersion.isSome = true ↔ dependent.lane = .todo)
    (h : removeMutation c edge expectedEdgeVersion dependent queueVersion t =
      .ok (some (retired, updated, bumped)) t') :
    ∃ t₁, Dequeued c t dependent.id dependent.lane t₁ ∧
      retired = edge.retiredBy c.envelope.commandId ∧
      updated = dependent.dependencyChanged ∧
      t' = (t₁.putEdge (c.key edge.id) retired).putDevTicket (c.key dependent.id) updated := by
  rw [removeMutation] at h
  obtain ⟨result, t₁, hretire, h⟩ := bind_eq_ok.mp h
  cases result with
  | none =>
      obtain ⟨heq, -⟩ := pure_eq_ok.mp h
      cases heq
  | some row =>
      obtain ⟨⟨changed, bumped'⟩, t₂, hdependent, h⟩ := bind_eq_ok.mp h
      obtain ⟨heq, rfl⟩ := pure_eq_ok.mp h
      cases heq
      have hretire := orNull_eq_some.mp hretire
      simp only [Tables.retireDependencyEdge, hedge] at hretire
      split_ifs at hretire
      cases hretire
      obtain ⟨t₃, hdequeued, rfl, rfl⟩ := dependentMutation_eq_ok hdependent hget hlane
      cases hdequeued with
      | outside hout => exact ⟨t, .outside hout, rfl, rfl, rfl⟩
      | evicted htodo hmember hheader => exact ⟨_, .evicted htodo hmember hheader, rfl, rfl, rfl⟩

/-- A mutation of `removeDependency` that answers nothing has written nothing. -/
lemma removeMutation_eq_none {edge : DependencyEdgeRow} {dependent : DevTicketRow}
    {expectedEdgeVersion : ℕ} {queueVersion : Option ℕ}
    (h : removeMutation c edge expectedEdgeVersion dependent queueVersion t = .ok none t') :
    t' = t := by
  rw [removeMutation] at h
  obtain ⟨result, t₁, hretire, h⟩ := bind_eq_ok.mp h
  cases result with
  | none =>
      obtain ⟨-, rfl⟩ := pure_eq_ok.mp h
      exact (orNull_eq_none.mp hretire).2.symm
  | some row =>
      obtain ⟨changed, t₂, hdependent, h⟩ := bind_eq_ok.mp h
      obtain ⟨heq, -⟩ := pure_eq_ok.mp h
      cases heq

/-- The mutation of `approveReadyToTodo` writes the ticket, then the queue. -/
lemma approveMutation_eq_ok [Platform] {ticket updated : DevTicketRow} {approval : ReadyApproval}
    {rank : ℤ} {rebalance : Bool} (hget : t.devTickets.get (c.key ticket.id) = some ticket)
    (h : approveMutation c ticket approval
      (t.listTodoQueueRanks c.envelope.organizationId c.envelope.workspaceId) rank rebalance t =
        .ok (some updated) t') :
    updated = ticket.approved approval ∧
      t.todoQueueMemberships.get (c.key ticket.id) = none ∧
      t' = (enqueue c t ticket.id rank rebalance).putDevTicket (c.key ticket.id)
        (ticket.approved approval) := by
  rw [approveMutation] at h
  obtain ⟨result, t₁, hcas, h⟩ := bind_eq_ok.mp h
  cases result with
  | none =>
      obtain ⟨heq, -⟩ := pure_eq_ok.mp h
      cases heq
  | some row =>
      obtain ⟨current, hcurrent, -, -, rfl, rfl⟩ :=
        Tables.casDevTicket_eq_some.mp (orNull_eq_some.mp hcas)
      rw [hget] at hcurrent
      cases hcurrent
      cases rebalance with
      | false =>
          obtain ⟨⟨⟩, t₂, hinsert, h⟩ := bind_eq_ok.mp h
          obtain ⟨heq, rfl⟩ := pure_eq_ok.mp h
          cases heq
          have hinsert := orThrow_eq_ok.mp hinsert
          rw [Tables.insertTodoQueueMembership] at hinsert
          split_ifs at hinsert with hhas
          cases hinsert
          exact ⟨rfl, OrderedMap.has_eq_false.mp (Bool.eq_false_iff.mpr hhas), rfl⟩
      | true =>
          obtain ⟨⟨⟩, t₂, hmodify, h⟩ := bind_eq_ok.mp h
          cases hmodify
          obtain ⟨⟨⟩, t₂, hinsert, h⟩ := bind_eq_ok.mp h
          obtain ⟨heq, rfl⟩ := pure_eq_ok.mp h
          cases heq
          have hinsert := orThrow_eq_ok.mp hinsert
          have hband := rebalanceFrom_putDevTicket c.envelope.organizationId
            c.envelope.workspaceId (c.key ticket.id) (ticket.approved approval) 0
            ((t.listTodoQueueRanks c.envelope.organizationId c.envelope.workspaceId).map
              (·.devTicketId)) t
          rw [Tables.insertTodoQueueMembership] at hinsert
          split_ifs at hinsert with hhas
          cases hinsert
          have habsent := (rebalanceFrom_get_eq_none _ _ _ _ _ _).mp
            (OrderedMap.has_eq_false.mp (Bool.eq_false_iff.mpr hhas))
          refine ⟨rfl, habsent, ?_⟩
          change (Tables.rebalanceFrom _ _ 0 _ (t.putDevTicket _ _)).putMembership _ _ = _
          rw [hband]
          rfl

/-- A mutation of `approveReadyToTodo` that answers nothing has written nothing. -/
lemma approveMutation_eq_none [Platform] {ticket : DevTicketRow} {approval : ReadyApproval}
    {members : List TodoQueueMembershipRow} {rank : ℤ} {rebalance : Bool}
    (h : approveMutation c ticket approval members rank rebalance t = .ok none t') : t' = t := by
  rw [approveMutation] at h
  obtain ⟨result, t₁, hcas, h⟩ := bind_eq_ok.mp h
  cases result with
  | none =>
      obtain ⟨-, rfl⟩ := pure_eq_ok.mp h
      exact (orNull_eq_none.mp hcas).2.symm
  | some row =>
      cases rebalance with
      | false =>
          obtain ⟨_, t₂, _, h⟩ := bind_eq_ok.mp h
          cases (pure_eq_ok.mp h).1
      | true =>
          obtain ⟨_, t₂, _, h⟩ := bind_eq_ok.mp h
          obtain ⟨_, t₃, _, h⟩ := bind_eq_ok.mp h
          cases (pure_eq_ok.mp h).1

variable [Platform]

/-- The ticket of a promotion is new, under the id of the legacy task. -/
lemma insertPromotedTicket_eq_ok {input : ImportLegacyDevTicketInput} {source : LegacyTaskSource}
    {ticket : DevTicketRow} (h : insertPromotedTicket c input source t = .ok ticket t') :
    ∃ hash, computeReadyContractContentHash [] = .ok hash ∧
      t.devTickets.get (c.key source.id) = none ∧
      ticket = legacyTicket c input source.id hash ∧
      t' = t.putDevTicket (c.key source.id) ticket := by
  rw [insertPromotedTicket] at h
  obtain ⟨hash, t₁, hhashed, h⟩ := bind_eq_ok.mp h
  obtain ⟨hhash, rfl⟩ := hashed_eq_ok.mp hhashed
  obtain ⟨hfresh, -, rfl, rfl⟩ := insertDevTicket_eq_ok (orThrow_eq_ok.mp h)
  exact ⟨hash, hhash, hfresh, rfl, rfl⟩

/-- The mutation of a promoting re-import: the ticket, then record and alias. -/
lemma promoteMutation_eq_ok {input : ImportLegacyDevTicketInput} {source : LegacyTaskSource}
    {historical resolved : HistoricalRecordRow} {ticket : DevTicketRow}
    (h : promoteMutation c input source historical t = .ok (ticket, resolved) t')
    (hget : t.historicalRecords.get historical.historicalRecordId = some historical)
    (horg : historical.organizationId = c.envelope.organizationId)
    (hworkspace : historical.workspaceId = c.envelope.workspaceId) :
    ∃ hash, computeReadyContractContentHash [] = .ok hash ∧
      t.devTickets.get (c.key source.id) = none ∧
      (historical.sourceDisposition = .quarantinedNoOwner ∨
        historical.sourceDisposition = .promotedBacklog) ∧
      t' = Tables.setAliasDevTicketId c.envelope.organizationId
        historical.sourceTableRowIdentity (some source.id)
        ((t.putDevTicket (c.key source.id) (legacyTicket c input source.id hash)).putHistorical
          historical.historicalRecordId
          (historical.resolved .promotedBacklog (some c.envelope.commandId))) := by
  rw [promoteMutation] at h
  obtain ⟨inserted, t₁, hinsert, h⟩ := bind_eq_ok.mp h
  obtain ⟨hash, hhash, hfresh, rfl, rfl⟩ := insertPromotedTicket_eq_ok hinsert
  obtain ⟨result, t₂, hresolve, h⟩ := bind_eq_ok.mp h
  obtain ⟨hallowed, rfl, rfl⟩ := resolveRecord_eq_ok hresolve hget horg hworkspace
  obtain ⟨-, rfl⟩ := pure_eq_ok.mp h
  exact ⟨hash, hhash, hfresh, hallowed.imp_right Eq.symm, rfl⟩

/-- A first import inserts a ticket iff it promotes. -/
lemma insertImportedTicket_eq_ok {input : ImportLegacyDevTicketInput} {source : LegacyTaskSource}
    {disposition : SourceDisposition} {ticket : Option DevTicketRow}
    (h : insertImportedTicket c input source disposition t = .ok ticket t') :
    (disposition ≠ .promotedBacklog ∧ ticket = none ∧ t' = t) ∨
      ∃ hash, disposition = .promotedBacklog ∧ computeReadyContractContentHash [] = .ok hash ∧
        t.devTickets.get (c.key source.id) = none ∧
        ticket = some (legacyTicket c input source.id hash) ∧
        t' = t.putDevTicket (c.key source.id) (legacyTicket c input source.id hash) := by
  rw [insertImportedTicket] at h
  split_ifs at h with hpromoted
  · obtain ⟨row, t₁, hinsert, h⟩ := bind_eq_ok.mp h
    obtain ⟨rfl, rfl⟩ := pure_eq_ok.mp h
    obtain ⟨hash, hhash, hfresh, rfl, rfl⟩ := insertPromotedTicket_eq_ok hinsert
    exact .inr ⟨hash, hpromoted, hhash, hfresh, rfl, rfl⟩
  · obtain ⟨rfl, rfl⟩ := pure_eq_ok.mp h
    exact .inl ⟨hpromoted, rfl, rfl⟩

/-- The mutation of a first import: after the ticket, a new record and a new
alias. -/
lemma importMutation_eq_ok {input : ImportLegacyDevTicketInput} {source : LegacyTaskSource}
    {disposition : SourceDisposition} {digest : String} {ticket : Option DevTicketRow}
    {historical : HistoricalRecordRow}
    (h : importMutation c input source disposition digest t = .ok (ticket, historical) t') :
    ∃ t₁, insertImportedTicket c input source disposition t = .ok ticket t₁ ∧
      t.historicalRecords.get c.randomUuid = none ∧
      t.legacyTaskAliases.get (aliasKey c.envelope.organizationId source.id) = none ∧
      historical = importedRecord c source disposition digest ∧
      t' = (t₁.putHistorical c.randomUuid historical).putAlias
        (aliasKey c.envelope.organizationId source.id) (importedAlias c source disposition) := by
  rw [importMutation] at h
  obtain ⟨inserted, t₁, hticket, h⟩ := bind_eq_ok.mp h
  obtain ⟨record, t₂, hrecord, h⟩ := bind_eq_ok.mp h
  obtain ⟨⟨⟩, t₃, halias, h⟩ := bind_eq_ok.mp h
  obtain ⟨heq, rfl⟩ := pure_eq_ok.mp h
  cases heq
  have hrecord := orThrow_eq_ok.mp hrecord
  rw [Tables.insertHistoricalRecord] at hrecord
  split_ifs at hrecord with hhasRecord
  cases hrecord
  have halias := orThrow_eq_ok.mp halias
  rw [Tables.insertLegacyTaskAlias] at halias
  split_ifs at halias with hhasAlias
  cases halias
  have hfreshRecord := OrderedMap.has_eq_false.mp (Bool.eq_false_iff.mpr hhasRecord)
  have hfreshAlias := OrderedMap.has_eq_false.mp (Bool.eq_false_iff.mpr hhasAlias)
  rcases insertImportedTicket_eq_ok hticket with ⟨hnot, rfl, rfl⟩ |
    ⟨hash, rfl, -, -, rfl, rfl⟩
  · refine ⟨_, hticket, hfreshRecord, hfreshAlias, ?_, ?_⟩ <;>
      simp [importedRecord, importedAlias, hnot, Tables.putHistorical, Tables.putAlias,
        Tables.InsertHistoricalRecordInput.row]
  · exact ⟨_, hticket, hfreshRecord, hfreshAlias, rfl, rfl⟩

/-- What the mutation of `acceptProposal` does: the new ticket, then the proposal,
which is still at the version it was read at. -/
lemma acceptMutation_eq_ok {proposal : ProposalRow} {owner : String} {contract : JsRecord}
    {ticket : DevTicketRow} {updated : Option ProposalRow}
    (hget : t.proposals.get (c.key proposal.id) = some proposal)
    (h : acceptMutation c proposal owner contract t = .ok (ticket, updated) t') :
    ∃ hash, computeReadyContractContentHash contract = .ok hash ∧
      t.devTickets.get (c.key c.randomUuid) = none ∧
      (∀ k row, t.devTickets.get k = some row →
        row.organizationId = c.envelope.organizationId →
        row.sourceProposalId ≠ some proposal.id) ∧
      ticket = proposalTicket c ⟨proposal.id, owner, .undefined⟩ contract hash ∧
      updated = some (proposal.updated
        (.decision .accepted (some c.envelope.commandId) (some c.randomUuid))) ∧
      t' = (t.putDevTicket (c.key c.randomUuid) ticket).putProposal (c.key proposal.id)
        (proposal.updated (.decision .accepted (some c.envelope.commandId)
          (some c.randomUuid))) := by
  rw [acceptMutation] at h
  obtain ⟨hash, t₁, hhashed, h⟩ := bind_eq_ok.mp h
  obtain ⟨hhash, rfl⟩ := hashed_eq_ok.mp hhashed
  obtain ⟨inserted, t₁, hinsert, h⟩ := bind_eq_ok.mp h
  obtain ⟨changed, t₂, hupdate, h⟩ := bind_eq_ok.mp h
  obtain ⟨heq, rfl⟩ := pure_eq_ok.mp h
  cases heq
  obtain ⟨hfresh, hunclaimed, rfl, rfl⟩ := insertDevTicket_eq_ok (orThrow_eq_ok.mp hinsert)
  cases updated with
  | none =>
      have hnone := (orNull_eq_none.mp hupdate).1
      simp [Tables.updateProposal, Tables.putDevTicket, hget] at hnone
  | some row =>
      obtain ⟨rfl, rfl⟩ := updateProposal_eq_some (orNull_eq_some.mp hupdate) hget
      exact ⟨hash, hhash, hfresh, hunclaimed _ rfl, rfl, rfl, rfl⟩

end Opzava.DevBoard
