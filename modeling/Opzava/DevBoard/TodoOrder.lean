import Opzava.DevBoard.Changes
import Opzava.DevBoard.Coherence

/-!
The ranked Todo queue refines a list of ticket ids.

The store keeps the order of a queue in the ranks of its memberships. `nextOrder`
says what a command means for the order alone: an approval appends, a ticket that
leaves Todo is erased, a reorder moves the ticket next to its neighbour.
`applied_listed` is the simulation: whichever way the ranks are assigned (stride,
midpoint, rebalance of the band, rebalance before an append), the listed queue after
an effect is the abstract one.

* `reachable_listed`: in every reachable world every queue is listed by strictly
  ascending ranks.
* `todo_queue_refines_order`: one call, accepted, rejected or replayed, on the order
  of every workspace.
-/

namespace Opzava.DevBoard

open Opzava.Library

/-! ### The abstract queue -/

/-- The order after a ticket has been moved to an anchor. -/
def movedOrder (anchor : TodoReorderAnchor) (id : String) (order : List String) : List String :=
  if anchor.kind = "empty_band" then [id]
  else if anchor.kind = "before" then
    insertBefore (anchor.neighborDevTicketId.getD "") id (order.erase id)
  else insertAfter (anchor.neighborDevTicketId.getD "") id (order.erase id)

/-- What an accepted command does to the order of the queue of its workspace. A
dependency that is already active is accepted without a change. -/
def nextOrder (t : Tables) (e : CommandEnvelope) (order : List String) : Command → List String
  | .approveReadyToTodo input => order ++ [input.devTicketId]
  | .archiveDevTicket input => order.erase input.devTicketId
  | .addDependency input =>
      match t.selectActiveDependencyEdge e.organizationId e.workspaceId input.dependentDevTicketId
          input.blockerDevTicketId with
      | some _ => order
      | none => order.erase input.dependentDevTicketId
  | .removeDependency input =>
      match t.selectDependencyEdge e.organizationId e.workspaceId input.edgeId with
      | some edge => order.erase edge.dependentDevTicketId
      | none => order
  | .reorderTodo input => movedOrder input.anchor input.devTicketId order
  | _ => order

lemma nextOrder_congr {t t' : Tables} (hedges : t'.dependencyEdges = t.dependencyEdges)
    (e : CommandEnvelope) (order : List String) (command : Command) :
    nextOrder t' e order command = nextOrder t e order command := by
  cases command <;> simp only [nextOrder, Tables.selectActiveDependencyEdge,
    Tables.selectDependencyEdge, hedges]

/-- The order of a workspace after an accepted command of some workspace. -/
def orderAfter (t : Tables) (e : CommandEnvelope) (command : Command) (o w : ScopeId)
    (order : List String) : List String :=
  if o = e.organizationId ∧ w = e.workspaceId then nextOrder t e order command else order

/-! ### Ranks -/

/-- A rank in the range of the column lies between its neighbours. -/
lemma rankAt_between {others : List TodoQueueMembershipRow} {index : ℕ}
    (h : rankOutOfRange (rankAt others index) = false) :
    (∀ row, 0 < index → others[index - 1]? = some row → row.rank < rankAt others index) ∧
      ∀ row, others[index]? = some row → rankAt others index < row.rank := by
  simp only [rankOutOfRange, Bool.or_eq_false_iff, decide_eq_false_iff_not, not_le] at h
  have hpos := h.1
  unfold rankAt at hpos ⊢
  cases hlow : (if index = 0 then none else others[index - 1]?.map (·.rank)) with
  | none =>
      rw [hlow] at hpos
      refine ⟨fun row hindex hrow => ?_, fun row hrow => ?_⟩
      · rw [if_neg hindex.ne', hrow] at hlow
        cases hlow
      · simp only [hrow, Option.map_some, rankBetween, rankStride]
        omega
  | some lower =>
      rw [hlow] at hpos
      have hlower : ∀ row, 0 < index → others[index - 1]? = some row → row.rank = lower := by
        intro row hindex hrow
        rw [if_neg hindex.ne', hrow] at hlow
        exact Option.some.inj hlow
      cases hup : others[index]? with
      | none =>
          refine ⟨fun row hindex hrow => ?_, fun row hrow => by cases hrow⟩
          rw [hlower row hindex hrow]
          simp only [Option.map_none, rankBetween, rankStride]
          omega
      | some upper =>
          simp only [hup, Option.map_some, rankBetween] at hpos ⊢
          -- no room between the neighbours would have given the rank 0
          split_ifs at hpos ⊢ with hroom
          · refine ⟨fun row hindex hrow => ?_, fun row hrow => ?_⟩
            · rw [hlower row hindex hrow]
              omega
            · cases hrow
              omega
          · exact absurd hpos (lt_irrefl 0)

/-- The spliced order is the order the anchor asks for. -/
lemma splicedIds_eq_movedOrder {c : Context} {t : Tables} {anchor : TodoReorderAnchor}
    {others : List TodoQueueMembershipRow} {order : List String} {index : ℕ} {id : String}
    (hindex : insertionIndex c anchor others t = .ok index)
    (hothers : others.map (·.devTicketId) = order.erase id) :
    splicedIds others index id = movedOrder anchor id order ∧ index ≤ others.length := by
  have hlength : (others.map (·.devTicketId)).length = others.length := List.length_map _
  rw [insertionIndex] at hindex
  rw [splicedIds, movedOrder, ← hothers]
  by_cases hkind : anchor.kind = "empty_band"
  · rw [if_pos hkind] at hindex
    split_ifs at hindex with hempty
    cases hindex
    have hnil : others = [] := List.length_eq_zero_iff.mp (not_not.mp hempty)
    simp [hkind, hnil]
  · rw [if_neg hkind] at hindex
    rw [if_neg hkind]
    dsimp only at hindex
    split at hindex
    · rename_i neighbor neighborIndex _ hfind
      have hfind' : (others.map (·.devTicketId)).findIdx?
          (fun id' => decide (id' = anchor.neighborDevTicketId.getD "")) = some neighborIndex := by
        rw [List.findIdx?_map]
        exact hfind
      obtain ⟨hbefore, hafter, hlt⟩ := splice_at_neighbor _ id _ _ hfind'
      by_cases hbeforeKind : anchor.kind = "before"
      · rw [if_pos hbeforeKind] at hindex ⊢
        split_ifs at hindex
        cases hindex
        exact ⟨hbefore, by omega⟩
      · rw [if_neg hbeforeKind] at hindex ⊢
        split_ifs at hindex
        cases hindex
        exact ⟨hafter, by omega⟩
    · cases hindex

/-! ### The writes of the queue -/

variable {c : Context} {t t' : Tables} {o w : ScopeId} {l : List TodoQueueMembershipRow}

/-- A queue of another workspace does not see a write under a key of this one. -/
lemma key_ne_of_scope_ne (h : ¬(o = c.envelope.organizationId ∧ w = c.envelope.workspaceId))
    (id id' : String) : key o w id ≠ c.key id' := by
  intro heq
  obtain ⟨ho, hw, -⟩ := key_injective heq
  exact h ⟨ho, hw⟩

lemma updateTodoQueueMembershipRank_get_other {k : String} (h : ∀ id, k ≠ key o w id)
    (id : String) (rank : ℤ) (t : Tables) :
    (t.updateTodoQueueMembershipRank o w id rank).2.todoQueueMemberships.get k =
      t.todoQueueMemberships.get k := by
  rw [Tables.updateTodoQueueMembershipRank]
  split_ifs
  · exact OrderedMap.get_set_of_ne _ _ (h id)
  · rfl

lemma rebalanceFrom_get_other {k : String} (h : ∀ id, k ≠ key o w id) :
    ∀ (index : ℕ) (ids : List String) (t : Tables),
      (Tables.rebalanceFrom o w index ids t).todoQueueMemberships.get k =
        t.todoQueueMemberships.get k
  | _, [], _ => rfl
  | index, id :: rest, t => by
      rw [Tables.rebalanceFrom, rebalanceFrom_get_other h (index + 1) rest]
      exact updateTodoQueueMembershipRank_get_other h id _ t

lemma writeRanks_get_other {e : CommandEnvelope} {k : String}
    (h : ∀ id, k ≠ key e.organizationId e.workspaceId id) (id : String) (rank : ℤ)
    (ids : List String) (t : Tables) :
    (writeRanks e id rank ids t).2.todoQueueMemberships.get k =
      t.todoQueueMemberships.get k := by
  rw [writeRanks]
  split_ifs
  · exact rebalanceFrom_get_other h 0 ids t
  · exact updateTodoQueueMembershipRank_get_other h id rank t

/-- The queue after a ticket that is not in it has been written behind all its
members. -/
lemma listed_append (hl : Listed t o w l) {id : String} {rank : ℤ}
    (habsent : t.todoQueueMemberships.get (key o w id) = none)
    (hrank : ∀ row ∈ l, row.rank < rank)
    (hget : ∀ id', t'.todoQueueMemberships.get (key o w id') =
      if id' = id then some ⟨id, rank⟩ else t.todoQueueMemberships.get (key o w id')) :
    Listed t' o w (l ++ [⟨id, rank⟩]) := by
  have hwithout : without id l = l := by
    refine List.filter_eq_self.mpr fun row hrow => ?_
    rw [decide_eq_true_eq]
    rintro rfl
    rw [(hl.mem row).mp hrow] at habsent
    cases habsent
  have hlisted := listed_putMembership hl id rank l.length (by rw [hwithout])
    (fun row _ hrow => hrank row (List.mem_of_getElem? (hwithout ▸ hrow)))
    (fun row hrow => by simp [hwithout] at hrow) hget
  simpa [hwithout] using hlisted

/-- The queue after a member has been written at the rank of an index among the
others, or the whole band has been rebalanced with it there. -/
lemma listed_writeRanks (hk : Keyed t) {id : String} {index : ℕ}
    {membership : TodoQueueMembershipRow}
    (hl : Listed t c.envelope.organizationId c.envelope.workspaceId l)
    (hmember : t.todoQueueMemberships.get (c.key id) = some membership)
    (hindex : index ≤ (without id l).length) :
    ∃ l', Listed (writeRanks c.envelope id (rankAt (without id l) index)
        (splicedIds (without id l) index id) t).2 c.envelope.organizationId
        c.envelope.workspaceId l' ∧
      l'.map (·.devTicketId) = splicedIds (without id l) index id := by
  have hids := map_without id hl.nodup_ids
  rw [writeRanks]
  split_ifs with hrange
  · have hperm : (splicedIds (without id l) index id).Perm
        (id :: (l.map (·.devTicketId)).erase id) := by
      rw [splicedIds, ← hids]
      refine List.perm_middle.trans (List.Perm.cons id ?_)
      rw [List.take_append_drop]
    have hid : id ∈ l.map (·.devTicketId) := (hl.mem_ids hk).mpr (by rw [hmember]; simp)
    have hperm' := hperm.trans (List.perm_cons_erase hid).symm
    exact ⟨_, listed_rebalanceTodoBand (hperm'.nodup_iff.mpr hl.nodup_ids) fun id' => by
      rw [hperm'.mem_iff, hl.mem_ids hk], map_renumberFrom 0 _⟩
  · obtain ⟨hlower, hupper⟩ := rankAt_between (Bool.eq_false_iff.mpr hrange)
    refine ⟨_, listed_putMembership hl id (rankAt (without id l) index) index hindex hlower hupper
      fun id' => ?_, ?_⟩
    · rw [Tables.updateTodoQueueMembershipRank, if_pos (OrderedMap.has_eq_true.mpr ⟨_, hmember⟩)]
      show (t.todoQueueMemberships.set _ _).get _ = _
      rw [OrderedMap.get_set]
      simp
    · simp [splicedIds, List.map_take, List.map_drop]

section Order

variable [Platform]

/-- The queues after a ticket has left Todo, if it was there. -/
lemma listed_dequeued (h : TodoCoherent t) (hk : Keyed t) {id : String} {ticket : DevTicketRow}
    {t₁ : Tables} (hget : t.devTickets.get (c.key id) = some ticket)
    (hq : Dequeued c t id ticket.lane t₁)
    (hmembers : t'.todoQueueMemberships = t₁.todoQueueMemberships) (hl : Listed t o w l) :
    ∃ l', Listed t' o w l' ∧ l'.map (·.devTicketId) =
      if o = c.envelope.organizationId ∧ w = c.envelope.workspaceId then
        (l.map (·.devTicketId)).erase id else l.map (·.devTicketId) := by
  by_cases hscope : o = c.envelope.organizationId ∧ w = c.envelope.workspaceId
  · obtain ⟨rfl, rfl⟩ := hscope
    rw [if_pos ⟨rfl, rfl⟩]
    cases hq with
    | outside hlane =>
        have habsent := h.absent_of_backlog hget ((h.rows hget).lane.resolve_right hlane)
        have hnotin : id ∉ l.map (·.devTicketId) := fun hmem =>
          (hl.mem_ids hk).mp hmem habsent
        exact ⟨l, listed_congr hl fun id' => by rw [hmembers],
          (List.erase_of_not_mem hnotin).symm⟩
    | evicted =>
        refine ⟨without id l, listed_dropMembership hl id fun id' => ?_,
          map_without id hl.nodup_ids⟩
        rw [hmembers]
        show (t.todoQueueMemberships.delete (c.key id)).get _ = _
        rw [OrderedMap.get_delete]
        simp
  · rw [if_neg hscope]
    refine ⟨l, listed_congr hl fun id' => ?_, rfl⟩
    rw [hmembers]
    cases hq with
    | outside => rfl
    | evicted =>
        exact OrderedMap.get_delete_of_ne _ (key_ne_of_scope_ne hscope id' id)

/-- The queue after an append at the rank `appendRank` gives, rebalanced before or
not. -/
lemma listed_enqueue (t' : Tables) (hk : Keyed t) {id : String} {rank : ℤ} {rebalance : Bool}
    (hl : Listed t c.envelope.organizationId c.envelope.workspaceId l)
    (hrank : appendRank l = some (rank, rebalance))
    (habsent : t.todoQueueMemberships.get (c.key id) = none)
    (hmembers : t'.todoQueueMemberships =
      (enqueue c t id rank rebalance).todoQueueMemberships) :
    ∃ l', Listed t' c.envelope.organizationId c.envelope.workspaceId l' ∧
      l'.map (·.devTicketId) = l.map (·.devTicketId) ++ [id] := by
  -- the band the ticket is appended to: the listed one, or the renumbered one
  have hband : ∃ t₀ l₀, Listed t₀ c.envelope.organizationId c.envelope.workspaceId l₀ ∧
      l₀.map (·.devTicketId) = l.map (·.devTicketId) ∧
      t₀.todoQueueMemberships.get (c.key id) = none ∧ (∀ row ∈ l₀, row.rank < rank) ∧
      (enqueue c t id rank rebalance).todoQueueMemberships =
        t₀.todoQueueMemberships.set (c.key id) ⟨id, rank⟩ := by
    rw [appendRank] at hrank
    split_ifs at hrank with hfull hcapacity
    · cases hrank
      have hlist := listTodoQueueRanks_eq hk hl
      refine ⟨t.rebalanceTodoBand c.envelope.organizationId c.envelope.workspaceId
          (l.map (·.devTicketId)), renumberFrom 0 (l.map (·.devTicketId)),
        listed_rebalanceTodoBand hl.nodup_ids fun id' => hl.mem_ids hk,
        map_renumberFrom 0 _, ?_, fun row hrow => ?_, ?_⟩
      · exact (rebalanceFrom_get_eq_none _ _ _ 0 _ t).mpr habsent
      · have hbound := (rank_mem_renumberFrom hrow).2
        rw [List.length_map] at hbound
        simpa [rankStride] using hbound
      · rw [enqueue, if_pos rfl, hlist]
        rfl
    · cases hrank
      refine ⟨t, l, hl, rfl, habsent, fun row hrow => ?_, rfl⟩
      cases hlast : l.getLast? with
      | none =>
          rw [List.getLast?_eq_none_iff.mp hlast] at hrow
          cases hrow
      | some last =>
          have hle := hl.ranked.le_getLast hlast hrow
          simp only [rankStride]
          omega
  obtain ⟨t₀, l₀, hl₀, hids, hnone, hranks, hset⟩ := hband
  refine ⟨l₀ ++ [⟨id, rank⟩], listed_append hl₀ hnone hranks fun id' => ?_, ?_⟩
  · rw [hmembers, hset, OrderedMap.get_set]
    simp
  · rw [List.map_append, hids]
    rfl

/-! ### Effects -/

variable {command : Command} {r : Recorded}

/-- **The simulation**: every effect takes the listed queues to the abstract ones. -/
theorem applied_listed (h : TodoCoherent t) (hk : Keyed t) (hl : Listed t o w l)
    (happlied : Applied c t command t' r) :
    ∃ l', Listed t' o w l' ∧ l'.map (·.devTicketId) =
      orderAfter t c.envelope command o w (l.map (·.devTicketId)) := by
  have hkept : t'.todoQueueMemberships = t.todoQueueMemberships →
      (∀ order, nextOrder t c.envelope order command = order) →
      ∃ l', Listed t' o w l' ∧ l'.map (·.devTicketId) =
        orderAfter t c.envelope command o w (l.map (·.devTicketId)) := by
    intro hmembers hnext
    refine ⟨l, listed_congr hl fun id => by rw [hmembers], ?_⟩
    rw [orderAfter, hnext, ite_self]
  cases happlied with
  | drafted => exact hkept rfl fun _ => rfl
  | proposalMoved found move => exact hkept rfl fun _ => by cases move <;> rfl
  | accepted => exact hkept rfl fun _ => rfl
  | archived reason found active noDependents dequeued =>
      exact listed_dequeued h hk found dequeued rfl hl
  | restored => exact hkept rfl fun _ => rfl
  | classified => exact hkept rfl fun _ => rfl
  | duplicate found => exact hkept rfl fun order => by simp [nextOrder, found]
  | dependencyAdded found foundBlocker distinct new activeDependent activeBlocker noCycle
      dequeued =>
      obtain ⟨l', hl', hids⟩ := listed_dequeued h hk found dequeued rfl hl
      refine ⟨l', listed_congr hl' fun _ => rfl, hids.trans ?_⟩
      simp [orderAfter, nextOrder, new]
  | dependencyRemoved foundEdge activeEdge found foundBlocker activeDependent activeBlocker
      dequeued =>
      obtain ⟨l', hl', hids⟩ := listed_dequeued h hk found dequeued rfl hl
      refine ⟨l', listed_congr hl' fun _ => rfl, hids.trans ?_⟩
      simp [orderAfter, nextOrder, Tables.selectDependencyEdge, foundEdge]
  | @reordered input moved header membership index found todo valid locked member anchored =>
      by_cases hscope : o = c.envelope.organizationId ∧ w = c.envelope.workspaceId
      · obtain ⟨rfl, rfl⟩ := hscope
        have hothers : otherMembers c t input.devTicketId = without input.devTicketId l := by
          rw [otherMembers, listTodoQueueRanks_eq hk hl]
          rfl
        rw [hothers] at anchored ⊢
        obtain ⟨hspliced, hindex⟩ := splicedIds_eq_movedOrder anchored
          (map_without input.devTicketId hl.nodup_ids)
        obtain ⟨l', hl', hids⟩ := listed_writeRanks (t := t.putHeader _ _) (hk.putHeader _ _)
          (listed_congr hl fun _ => rfl) member hindex
        refine ⟨l', listed_congr hl' fun _ => rfl, ?_⟩
        rw [hids, hspliced, orderAfter, if_pos ⟨rfl, rfl⟩, nextOrder]
      · refine ⟨l, listed_congr hl fun id => ?_, by rw [orderAfter, if_neg hscope]⟩
        exact writeRanks_get_other (fun id' => key_ne_of_scope_ne hscope id id') _ _ _ _
  | @approved input ticket contract hash type priority declared header rank rebalance found checks
      hashed locked ranked absent =>
      by_cases hscope : o = c.envelope.organizationId ∧ w = c.envelope.workspaceId
      · obtain ⟨rfl, rfl⟩ := hscope
        rw [listTodoQueueRanks_eq hk hl] at ranked
        obtain ⟨l', hl', hids⟩ := listed_enqueue (((enqueue c t input.devTicketId rank
          rebalance).putDevTicket (c.key input.devTicketId)
            (approvedTicket c ticket contract hash)).putHeader (c.key "todo")
              { header with version := header.version + 1 }) hk hl ranked absent rfl
        refine ⟨l', hl', ?_⟩
        rw [hids, orderAfter, if_pos ⟨rfl, rfl⟩, nextOrder]
      · refine ⟨l, listed_congr hl fun id => ?_, by rw [orderAfter, if_neg hscope]⟩
        show (enqueue c t input.devTicketId rank rebalance).todoQueueMemberships.get _ = _
        rw [enqueue, Tables.putMembership,
          OrderedMap.get_set_of_ne _ _ (key_ne_of_scope_ne hscope id _)]
        split_ifs
        · exact rebalanceFrom_get_other (fun id' => key_ne_of_scope_ne hscope id id') 0 _ t
        · rfl
  | reimported => exact hkept rfl fun _ => rfl
  | promoted => exact hkept (by rw [setAliasDevTicketId_frame]; rfl) fun _ => rfl
  | resolved => exact hkept (by rw [setAliasDevTicketId_frame]; rfl) fun _ => rfl
  | imported => exact hkept rfl fun _ => rfl
  | importedPromoted => exact hkept rfl fun _ => rfl
  | reconciled => exact hkept rfl fun _ => rfl

/-! ### Runs -/

/-- In every reachable world every queue is listed by ascending ranks. -/
lemma reachable_listed {admissible : World → Call → Prop} {world : World}
    (h : Reachable admissible world) (o w : ScopeId) : ∃ l, Listed world.tables o w l := by
  have hboth : TodoCoherent world.tables ∧ ∀ o w, ∃ l, Listed world.tables o w l := by
    refine reachable_invariant (P := fun t => TodoCoherent t ∧ ∀ o w, ∃ l, Listed t o w l)
      ?_ ?_ ?_ ?_ h
    · exact ⟨todoCoherent_empty,
        fun o w => ⟨[], listed_empty o w⟩⟩
    · intro t sources ht
      refine ⟨ht.1.congr rfl rfl, fun o w => ?_⟩
      obtain ⟨l, hl⟩ := ht.2 o w
      exact ⟨l, listed_congr hl fun _ => rfl⟩
    · intro c t t₁ ht hstep
      refine ⟨ht.1.congr hstep.devTickets hstep.todoQueueMemberships, fun o w => ?_⟩
      obtain ⟨l, hl⟩ := ht.2 o w
      exact ⟨l, listed_congr hl fun id => by rw [hstep.todoQueueMemberships]⟩
    · intro world call t t' r _ hk _ ht happlied
      refine ⟨applied_todoCoherent ht.1 happlied, fun o w => ?_⟩
      obtain ⟨l, hl⟩ := ht.2 o w
      obtain ⟨l', hl', -⟩ := applied_listed ht.1 hk hl happlied
      exact ⟨l', hl'⟩
  exact hboth.2 o w

/-- The creation of a header changes no order. -/
lemma HeaderStep.todoOrder (h : HeaderStep c t t') (o w : ScopeId) :
    DevBoard.todoOrder t' o w = DevBoard.todoOrder t o w := by
  rw [DevBoard.todoOrder, DevBoard.todoOrder, Tables.listTodoQueueRanks, Tables.listTodoQueueRanks,
    Tables.todoQueueRows, Tables.todoQueueRows, h.todoQueueMemberships]

/-- **The Todo queue refines a list.** In every reachable world and for every
workspace: a call that returns a result for the first time takes the order to the
abstract next order, a call that returns an error or finds its receipt finalized
leaves it. -/
theorem todo_queue_refines_order {world : World} (h : Reachable anyCall world) (call : Call)
    (o w : ScopeId) :
    (∀ result, (execute call world).1 = .returned (.ok result) → ¬Replayed call world →
        todoOrder (execute call world).2.tables o w =
          orderAfter world.tables call.envelope call.command o w (todoOrder world.tables o w)) ∧
      (∀ error, (execute call world).1 = .returned (.error error) →
        todoOrder (execute call world).2.tables o w = todoOrder world.tables o w) ∧
      (Replayed call world →
        todoOrder (execute call world).2.tables o w = todoOrder world.tables o w) := by
  have hk := reachable_keyed h
  refine ⟨fun result hout hnew => ?_, fun error hout => ?_, fun hreplayed => ?_⟩
  · obtain ⟨t₁, r, hlock, happlied, -⟩ := execute_accepted hk hout hnew
    obtain ⟨l, hl⟩ := reachable_listed h o w
    have hk₁ := hk.headerStep hlock
    have hl₁ : Listed t₁ o w l :=
      listed_congr hl fun id => by rw [hlock.todoQueueMemberships]
    have hcoherent := (reachable_todoCoherent h).congr hlock.devTickets hlock.todoQueueMemberships
    obtain ⟨l', hl', hids⟩ := applied_listed hcoherent hk₁ hl₁ happlied
    rw [todoOrder, listTodoQueueRanks_eq (applied_keyed hk₁ happlied) hl', hids, todoOrder,
      listTodoQueueRanks_eq hk hl, orderAfter, orderAfter,
      nextOrder_congr hlock.dependencyEdges]
    rfl
  · exact (execute_rejected hk hout).1.todoOrder o w
  · rw [execute_replayed hreplayed]

end Order

open Sample

/-- The sample board with `t1` in Todo and an active dependency on `t2`. -/
def dependentTodo : World :=
  runEvents World.empty
    (dependencyEvents ++ [.call (classifyCall "t1" 2), .call (approveCall "t1" 3 1 true)])

/-- The call that adds the active dependency once more. -/
def addAgain : Call := addDependencyCall "add-e2" "e2" "t1" "t2" 4 1

lemma reachable_dependentTodo : Reachable anyCall dependentTodo := reachable_runEvents _

/-- The second addition is accepted and leaves `t1` in the queue. -/
lemma addAgain_facts :
    (execute addAgain dependentTodo).1 = .returned (.ok ⟨"add-e2",
        [⟨"dependency_edge", "e1", 1⟩], none, some "t1", some "e1"⟩) ∧
      dependentTodo.receipts.get (receiptKey addAgain.envelope) = none ∧
      (dependentTodo.tables.devTickets.get (key organization workspace "t1")).map (·.lane) =
        some .todo ∧
      todoOrder dependentTodo.tables organization workspace = ["t1"] ∧
      todoOrder (execute addAgain dependentTodo).2.tables organization workspace = ["t1"] := by
  decide +kernel

/-- The second addition takes the order of the sample board to the abstract next one. -/
theorem todo_queue_refines_order_addAgain :
    todoOrder (execute addAgain dependentTodo).2.tables organization workspace =
      orderAfter dependentTodo.tables addAgain.envelope addAgain.command organization workspace
        (todoOrder dependentTodo.tables organization workspace) := by
  obtain ⟨hout, hnone, -⟩ := addAgain_facts
  refine (todo_queue_refines_order reachable_dependentTodo addAgain organization workspace).1 _
    hout ?_
  rintro ⟨receipt, hreceipt, -⟩
  rw [hnone] at hreceipt
  cases hreceipt

/-- Adding an active dependency once more is accepted and leaves the dependent in the
queue. -/
theorem todo_order_of_active_pair :
    ¬∀ w call input ticket result, Reachable anyCall w → call.command = .addDependency input →
      (execute call w).1 = .returned (.ok result) → ¬Replayed call w →
      w.tables.devTickets.get (key call.envelope.organizationId call.envelope.workspaceId
        input.dependentDevTicketId) = some ticket → ticket.lane = .todo →
      todoOrder (execute call w).2.tables call.envelope.organizationId
          call.envelope.workspaceId =
        (todoOrder w.tables call.envelope.organizationId call.envelope.workspaceId).erase
          input.dependentDevTicketId := by
  intro h
  obtain ⟨hout, hnone, hlane, hbefore, hafter⟩ := addAgain_facts
  obtain ⟨ticket, hget, htodo⟩ := Option.map_eq_some_iff.mp hlane
  have herased : todoOrder (execute addAgain dependentTodo).2.tables organization workspace =
      (todoOrder dependentTodo.tables organization workspace).erase "t1" := by
    refine h dependentTodo addAgain ⟨"t1", "t2", "needed first"⟩ ticket _
      reachable_dependentTodo rfl hout ?_ hget htodo
    rintro ⟨receipt, hreceipt, -⟩
    rw [hnone] at hreceipt
    cases hreceipt
  rw [hbefore, hafter] at herased
  revert herased
  decide

end Opzava.DevBoard
