import Opzava.DevBoard.TodoQueue

/-!
Todo and Ready coherence: a ticket is in Todo iff it is approved iff it has its
one place in the queue, and an approval is always of the current Ready contract.

* `RowCoherent`: the part of it that a ticket row carries alone; every row update
  of the store keeps it.
* `TodoCoherent`: the rows together with the memberships, an invariant of every
  run (`reachable_todoCoherent`).
* `todo_ready_coherence`: the invariant as a reader of the store sees it.
-/

namespace Opzava.DevBoard

open Opzava.Library

/-! ### Lanes and memberships -/

lemma dependencyChanged_lane (row : DevTicketRow) (h : row.lane = .backlog ∨ row.lane = .todo) :
    row.dependencyChanged.lane = .backlog := by
  rw [DevTicketRow.dependencyChanged]
  rcases h with h | h
  · rw [if_neg (by rw [h]; decide)]
    exact h
  · rw [if_pos h]
    rfl

/-- A rank write keeps the memberships that are there. -/
lemma writeRanks_get_eq_none (e : CommandEnvelope) (id : String) (rank : ℤ) (ids : List String)
    (t : Tables) (k : String) :
    (writeRanks e id rank ids t).2.todoQueueMemberships.get k = none ↔
      t.todoQueueMemberships.get k = none := by
  rw [writeRanks]
  split_ifs
  · exact rebalanceFrom_get_eq_none _ _ _ 0 ids t
  · exact updateTodoQueueMembershipRank_get_eq_none _ _ id k rank t

section Coherence

variable [Platform] {c : Context} {t t' : Tables} {row : DevTicketRow}

/-! ### Rows -/

/-- Lane, Ready state, approval fields and contract of one row agree. -/
structure RowCoherent (row : DevTicketRow) : Prop where
  lane : row.lane = .backlog ∨ row.lane = .todo
  ready : row.lane = .todo ↔ row.readyState = .approved
  approved : row.readyState = .approved →
    row.readyApprovalContractVersion = some row.readyContractVersion ∧
      row.readyApprovalContentHash = some row.readyContractContentHash ∧
      row.readyApprovedByUserId.isSome = true ∧ row.readyApprovalCommandId.isSome = true
  draft : row.readyState = .draft → row.readyApprovalContractVersion = none
  hashed : computeReadyContractContentHash row.readyContractContent =
    .ok row.readyContractContentHash
  archived : row.archivedAt.isSome = true → row.lane = .backlog

namespace RowCoherent

/-- A row outside Todo without approval fields, whose contract hash is right. -/
lemma of_cleared (hlane : row.lane = .backlog) (hready : row.readyState = .draft)
    (happroval : row.readyApprovalContractVersion = none)
    (hhash : computeReadyContractContentHash row.readyContractContent =
      .ok row.readyContractContentHash) : RowCoherent row where
  lane := .inl hlane
  ready := by rw [hlane, hready]; simp
  approved h := by rw [hready] at h; cases h
  draft _ := happroval
  hashed := hhash
  archived _ := hlane

lemma insert (input : Tables.InsertDevTicketInput)
    (hhash : computeReadyContractContentHash input.readyContractContent =
      .ok input.readyContractContentHash) : RowCoherent input.row :=
  .of_cleared rfl rfl rfl hhash

lemma archive (h : RowCoherent row) (now : Date) (byUserId reason : String) :
    RowCoherent (row.archived now byUserId reason) :=
  .of_cleared rfl rfl rfl h.hashed

lemma restore (h : RowCoherent row) : RowCoherent row.restored := .of_cleared rfl rfl rfl h.hashed

lemma bump (h : RowCoherent row) : RowCoherent row.bumped := { h with }

lemma dependencyChange (h : RowCoherent row) : RowCoherent row.dependencyChanged := by
  rw [DevTicketRow.dependencyChanged]
  split_ifs
  · exact .of_cleared rfl rfl rfl h.hashed
  · exact h.bump

/-- A Backlog row that is coherent has no approval. -/
lemma draft_of_backlog (h : RowCoherent row) (hlane : row.lane = .backlog) :
    row.readyState = .draft := by
  cases hready : row.readyState with
  | draft => rfl
  | approved =>
      rw [h.ready.mpr hready] at hlane
      cases hlane

lemma classify (h : RowCoherent row) {input : Classification} (hlane : row.lane = .backlog)
    (hhash : computeReadyContractContentHash input.readyContractContent =
      .ok input.readyContractContentHash) : RowCoherent (row.classified input) :=
  .of_cleared hlane (h.draft_of_backlog hlane) (h.draft (h.draft_of_backlog hlane)) hhash

lemma approve (hactive : row.archivedAt = none) {input : ReadyApproval}
    (hhash : computeReadyContractContentHash input.readyContractContent =
      .ok input.readyContractContentHash) : RowCoherent (row.approved input) where
  lane := .inr rfl
  ready := by simp [DevTicketRow.approved]
  approved _ := ⟨rfl, rfl, rfl, rfl⟩
  draft h := by cases h
  hashed := hhash
  archived h := by
    have hsome : row.archivedAt.isSome = true := h
    simp [hactive] at hsome

end RowCoherent

/-! ### Rows and memberships -/

/-- Every row is coherent, and exactly the rows in Todo have a membership. -/
structure TodoCoherent (t : Tables) : Prop where
  rows : ∀ {k row}, t.devTickets.get k = some row → RowCoherent row
  members : ∀ k, t.todoQueueMemberships.get k ≠ none ↔
    ∃ row, t.devTickets.get k = some row ∧ row.lane = .todo

namespace TodoCoherent

lemma congr (h : TodoCoherent t) (hrows : t'.devTickets = t.devTickets)
    (hmembers : t'.todoQueueMemberships = t.todoQueueMemberships) : TodoCoherent t' :=
  ⟨fun hget => h.rows (hrows ▸ hget), fun k => by rw [hmembers, hrows, h.members]⟩

/-- One row written, and its membership with it. -/
lemma write (h : TodoCoherent t) {k : String} (hrow : RowCoherent row)
    (hrows : t'.devTickets = t.devTickets.set k row)
    (hmembers : ∀ k', t'.todoQueueMemberships.get k' ≠ none ↔
      (k' = k ∧ row.lane = .todo) ∨ (k' ≠ k ∧ t.todoQueueMemberships.get k' ≠ none)) :
    TodoCoherent t' := by
  refine ⟨fun hget => ?_, fun k' => ?_⟩
  · rw [hrows] at hget
    rcases OrderedMap.get_set_eq_some hget with ⟨-, rfl⟩ | ⟨-, hold⟩
    · exact hrow
    · exact h.rows hold
  · rw [hmembers, hrows, OrderedMap.get_set, h.members]
    by_cases hk : k' = k
    · simp [hk]
    · simp [hk]

/-- One row written outside Todo under a key that has no membership. -/
lemma writeOutside (h : TodoCoherent t) {k : String} (hrow : RowCoherent row)
    (hlane : row.lane = .backlog) (habsent : t.todoQueueMemberships.get k = none)
    (hrows : t'.devTickets = t.devTickets.set k row)
    (hmembers : t'.todoQueueMemberships = t.todoQueueMemberships) : TodoCoherent t' := by
  refine h.write hrow hrows fun k' => ?_
  rw [hmembers]
  by_cases hk : k' = k
  · simp [hk, habsent, hlane]
  · simp [hk]

/-- A ticket outside Todo has no membership. -/
lemma absent_of_backlog (h : TodoCoherent t) {k : String} (hget : t.devTickets.get k = some row)
    (hlane : row.lane = .backlog) : t.todoQueueMemberships.get k = none := by
  by_contra hne
  obtain ⟨row', hget', htodo⟩ := (h.members k).mp hne
  rw [hget] at hget'
  cases hget'
  rw [hlane] at htodo
  cases htodo

/-- A key without a ticket has no membership. -/
lemma absent_of_fresh (h : TodoCoherent t) {k : String} (hget : t.devTickets.get k = none) :
    t.todoQueueMemberships.get k = none := by
  by_contra hne
  obtain ⟨row', hget', -⟩ := (h.members k).mp hne
  rw [hget] at hget'
  cases hget'

/-- Taking a ticket out of the queue leaves it without a membership. -/
lemma dequeued_members (h : TodoCoherent t) {id : String}
    (hget : t.devTickets.get (c.key id) = some row) (hq : Dequeued c t id row.lane t') (k : String) :
    t'.todoQueueMemberships.get k ≠ none ↔
      k ≠ c.key id ∧ t.todoQueueMemberships.get k ≠ none := by
  cases hq with
  | outside hlane =>
      have habsent := h.absent_of_backlog hget ((h.rows hget).lane.resolve_right hlane)
      constructor
      · intro hne
        exact ⟨fun hk => hne (hk ▸ habsent), hne⟩
      · exact And.right
  | evicted hlane =>
      show (t.todoQueueMemberships.delete (c.key id)).get k ≠ none ↔ _
      rw [OrderedMap.get_delete]
      by_cases hk : k = c.key id <;> simp [hk]

end TodoCoherent

/-- After an approval the ticket has a membership, and the others keep theirs. -/
lemma enqueue_get_ne_none (c : Context) (t : Tables) (id : String) (rank : ℤ)
    (rebalance : Bool) (k : String) :
    (enqueue c t id rank rebalance).todoQueueMemberships.get k ≠ none ↔
      k = c.key id ∨ (k ≠ c.key id ∧ t.todoQueueMemberships.get k ≠ none) := by
  rw [enqueue, Tables.putMembership, OrderedMap.get_set]
  by_cases hk : k = c.key id
  · simp [hk]
  · rw [if_neg hk]
    split_ifs
    · have hband := rebalanceFrom_get_eq_none c.envelope.organizationId c.envelope.workspaceId k 0
        ((t.listTodoQueueRanks c.envelope.organizationId c.envelope.workspaceId).map
          (·.devTicketId)) t
      simp [hk, Tables.rebalanceTodoBand, hband]
    · simp [hk]

variable {command : Command} {r : Recorded}

/-- Every effect keeps the coherence. -/
lemma applied_todoCoherent (h : TodoCoherent t) (happlied : Applied c t command t' r) :
    TodoCoherent t' := by
  cases happlied with
  | drafted => exact h.congr rfl rfl
  | proposalMoved => exact h.congr rfl rfl
  | accepted found awaiting active fresh unclaimed hashed =>
      exact h.writeOutside (.insert _ hashed) rfl (h.absent_of_fresh fresh) rfl rfl
  | archived reason found active noDependents dequeued =>
      refine h.write ((h.rows found).archive _ _ _) (by rw [Tables.putDevTicket,
        dequeued.devTickets]) fun k => ?_
      rw [Tables.putDevTicket, h.dequeued_members found dequeued]
      simp [DevTicketRow.archived, DevTicketRow.readyCleared]
  | restored found archived =>
      have hlane := (h.rows found).archived archived
      exact h.writeOutside (h.rows found).restore rfl (h.absent_of_backlog found hlane) rfl rfl
  | classified found checks hashed =>
      exact h.writeOutside ((h.rows found).classify checks.backlog hashed) checks.backlog
        (h.absent_of_backlog found checks.backlog) rfl rfl
  | duplicate => exact h
  | dependencyAdded found foundBlocker distinct new activeDependent activeBlocker noCycle
      dequeued =>
      refine h.write (h.rows found).dependencyChange (by rw [Tables.putDevTicket, Tables.putEdge,
        dequeued.devTickets]) fun k => ?_
      rw [Tables.putDevTicket, Tables.putEdge, h.dequeued_members found dequeued,
        dependencyChanged_lane _ (h.rows found).lane]
      simp
  | dependencyRemoved foundEdge activeEdge found foundBlocker activeDependent activeBlocker
      dequeued =>
      refine h.write (h.rows found).dependencyChange (by rw [Tables.putDevTicket, Tables.putEdge,
        dequeued.devTickets]) fun k => ?_
      rw [Tables.putDevTicket, Tables.putEdge, h.dequeued_members found dequeued,
        dependencyChanged_lane _ (h.rows found).lane]
      simp
  | @reordered input moved header membership index found todo valid locked member anchored =>
      have hrows : (writeRanks c.envelope input.devTicketId
          (rankAt (otherMembers c t input.devTicketId) index)
          (splicedIds (otherMembers c t input.devTicketId) index input.devTicketId)
          (t.putHeader (c.key "todo") { header with version := header.version + 1 })).2.devTickets =
            t.devTickets := (writeRanks_frame _ _ _ _ _).devTickets
      refine h.write (h.rows found).bump (by rw [Tables.putDevTicket, hrows]) fun k => ?_
      rw [Tables.putDevTicket, ne_eq, writeRanks_get_eq_none, Tables.putHeader]
      by_cases hk : k = c.key input.devTicketId
      · simp [hk, member, DevTicketRow.bumped, todo]
      · simp [hk]
  | @approved input ticket contract hash type priority declared header rank rebalance found checks
      hashed =>
      have hrows := (enqueue_frame c t input.devTicketId rank rebalance).devTickets
      have hcoherent : RowCoherent (approvedTicket c ticket contract hash) :=
        .approve checks.active hashed
      refine h.write (k := c.key input.devTicketId) hcoherent ?_ fun k => ?_
      · show (enqueue c t input.devTicketId rank rebalance).devTickets.set _ _ = _
        rw [hrows]
      · show (enqueue c t input.devTicketId rank rebalance).todoQueueMemberships.get k ≠ none ↔ _
        rw [enqueue_get_ne_none]
        simp [approvedTicket, DevTicketRow.approved]
  | reimported => exact h
  | promoted importable before unpromoted allowed fresh hashed =>
      rw [setAliasDevTicketId_frame]
      exact h.writeOutside (.insert _ hashed) rfl (h.absent_of_fresh fresh) rfl rfl
  | resolved =>
      rw [setAliasDevTicketId_frame]
      exact h.congr rfl rfl
  | imported => exact h.congr rfl rfl
  | importedPromoted importable absent freshRecord fresh hashed =>
      exact h.writeOutside (.insert _ hashed) rfl (h.absent_of_fresh fresh) rfl rfl
  | reconciled => exact h.congr rfl rfl

lemma todoCoherent_empty : TodoCoherent Tables.empty :=
  ⟨fun hget => (by cases hget), fun k => by simp [Tables.empty]⟩

lemma reachable_todoCoherent {admissible : World → Call → Prop} {w : World}
    (h : Reachable admissible w) : TodoCoherent w.tables := by
  refine reachable_invariant todoCoherent_empty (fun t sources ht => ht.congr rfl rfl)
    (fun c t t₁ ht hstep => ?_)
    (fun w call t t' r _ _ _ ht happlied => applied_todoCoherent ht happlied) h
  cases hstep with
  | refl => exact ht
  | created => exact ht.congr rfl rfl

/-! ### The invariant as the store shows it -/

/-- How many memberships a ticket has in the queue of its workspace. -/
def membershipCount (t : Tables) (row : DevTicketRow) : ℕ :=
  (t.listTodoQueueRanks row.organizationId row.workspaceId).countP
    fun member => decide (member.devTicketId = row.id)

lemma membershipCount_eq (hk : Keyed t) {k : String} (hget : t.devTickets.get k = some row) :
    membershipCount t row = if t.todoQueueMemberships.get k = none then 0 else 1 := by
  obtain rfl := hk.devTickets hget
  have hperm := List.perm_insertionSort (fun a b => Tables.rankLe a b = true)
    (t.todoQueueRows row.organizationId row.workspaceId)
  rw [membershipCount, Tables.listTodoQueueRanks, hperm.countP_eq]
  have hcount : (t.todoQueueRows row.organizationId row.workspaceId).countP
      (fun member => decide (member.devTicketId = row.id)) =
        ((t.todoQueueRows row.organizationId row.workspaceId).map (·.devTicketId)).count row.id := by
    rw [List.count, List.countP_map]
    exact List.countP_congr fun member _ => by simp
  rw [hcount, (nodup_todoQueueRows_ids hk).count]
  simp only [mem_todoQueueRows_ids hk, ite_not]

/-- Todo, Ready state, membership and approval of a ticket agree. -/
structure TicketCoherent (t : Tables) (row : DevTicketRow) : Prop where
  lane : row.lane = .backlog ∨ row.lane = .todo
  ready : row.lane = .todo ↔ row.readyState = .approved
  member : row.readyState = .approved ↔ membershipCount t row = 1
  approval : row.readyState = .approved ↔
    row.readyApprovalContractVersion ≠ none ∧ row.readyApprovalContentHash ≠ none ∧
      row.readyApprovedByUserId ≠ none ∧ row.readyApprovalCommandId ≠ none
  contractVersion : row.readyState = .approved →
    row.readyApprovalContractVersion = some row.readyContractVersion
  contentHash : row.readyState = .approved →
    row.readyApprovalContentHash = some row.readyContractContentHash
  hashed : computeReadyContractContentHash row.readyContractContent =
    .ok row.readyContractContentHash
  archived : row.archivedAt ≠ none →
    row.lane = .backlog ∧ row.readyState = .draft ∧ membershipCount t row = 0

/-- **Todo and Ready coherence**: in every reachable world, every ticket. -/
theorem todo_ready_coherence {w : World} (h : Reachable anyCall w) {k : String}
    {row : DevTicketRow} (hget : w.tables.devTickets.get k = some row) :
    TicketCoherent w.tables row := by
  have hcoherent := reachable_todoCoherent h
  have hrow := hcoherent.rows hget
  have hcount := membershipCount_eq (reachable_keyed h) hget
  have hmember : row.lane = .todo ↔ membershipCount w.tables row = 1 := by
    have hiff : w.tables.todoQueueMemberships.get k ≠ none ↔ row.lane = .todo := by
      rw [hcoherent.members, hget]
      simp
    rw [← hiff, hcount]
    split_ifs with hnone <;> simp [hnone]
  exact
    { lane := hrow.lane
      ready := hrow.ready
      member := hrow.ready.symm.trans hmember
      approval := by
        constructor
        · intro happroved
          obtain ⟨hversion, hhash, hby, hcommand⟩ := hrow.approved happroved
          exact ⟨by simp [hversion], by simp [hhash], Option.isSome_iff_ne_none.mp hby,
            Option.isSome_iff_ne_none.mp hcommand⟩
        · rintro ⟨hversion, -⟩
          cases hready : row.readyState with
          | approved => rfl
          | draft => exact absurd (hrow.draft hready) hversion
      contractVersion := fun happroved => (hrow.approved happroved).1
      contentHash := fun happroved => (hrow.approved happroved).2.1
      hashed := hrow.hashed
      archived := by
        intro harchived
        have hlane := hrow.archived (Option.isSome_iff_ne_none.mpr harchived)
        refine ⟨hlane, hrow.draft_of_backlog hlane, ?_⟩
        rw [hcount, if_pos (hcoherent.absent_of_backlog hget hlane)] }

end Coherence

open Sample

/-- The sample ticket in Todo is coherent. -/
theorem todo_ready_coherence_todoEvents :
    ∃ row, (runEvents World.empty todoEvents).tables.devTickets.get
        (key organization workspace "t1") = some row ∧ row.lane = .todo ∧
      TicketCoherent (runEvents World.empty todoEvents).tables row := by
  obtain ⟨row, hget, hlane⟩ := Option.map_eq_some_iff.mp lane_todoEvents
  exact ⟨row, hget, hlane, todo_ready_coherence (reachable_runEvents _) hget⟩

end Opzava.DevBoard
