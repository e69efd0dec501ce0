import Opzava.DevBoard.TodoOrder

/-!
The ranks of the Todo queue stay inside the range of their column.

* `RanksInRange`: every rank is positive and at most `postgresBigintMax`; every effect keeps it
  (`applied_ranksInRange`), since a rebalance is only made when the whole band fits.
* `reachable_ranksInRange`: so it is in every reachable world.
-/

namespace Opzava.DevBoard

open Opzava.Library

variable {c : Context} {t t' : Tables} {o w : ScopeId}

/-! ### The range -/

/-- Every rank is inside the range. -/
def RanksInRange (t : Tables) : Prop :=
  ∀ k row, t.todoQueueMemberships.get k = some row → 0 < row.rank ∧ row.rank ≤ postgresBigintMax

lemma inRange_of_not_outOfRange {rank : ℤ} (h : rankOutOfRange rank = false) :
    0 < rank ∧ rank ≤ postgresBigintMax := by
  simp only [rankOutOfRange, Bool.or_eq_false_iff, decide_eq_false_iff_not] at h
  exact ⟨by omega, by omega⟩

/-- Two members of a queue have different ranks. -/
lemma Listed.rank_ne {o w : ScopeId} {members : List TodoQueueMembershipRow}
    (hl : Listed t o w members) (hk : Keyed t) {id id' : String}
    {row row' : TodoQueueMembershipRow}
    (hget : t.todoQueueMemberships.get (key o w id) = some row)
    (hget' : t.todoQueueMemberships.get (key o w id') = some row') (hne : id ≠ id') :
    row.rank ≠ row'.rank := by
  obtain rfl := hk.membership_id hget
  obtain rfl := hk.membership_id hget'
  intro hrank
  have hrow := hl.ranked.eq_of_rank_eq ((hl.mem row).mpr hget) ((hl.mem row').mpr hget') hrank
  exact hne (congrArg (·.devTicketId) hrow)

namespace RanksInRange

lemma congr (h : RanksInRange t) (hmembers : t'.todoQueueMemberships = t.todoQueueMemberships) :
    RanksInRange t' := by
  intro k row hget
  exact h k row (hmembers ▸ hget)

/-- A rank inside the range is written. -/
lemma set (h : RanksInRange t) {k : String} {id : String} {rank : ℤ} (hpos : 0 < rank)
    (hmax : rank ≤ postgresBigintMax)
    (hmembers : t'.todoQueueMemberships = t.todoQueueMemberships.set k ⟨id, rank⟩) :
    RanksInRange t' := by
  intro k' row hget
  rw [hmembers] at hget
  rcases OrderedMap.get_set_eq_some hget with ⟨-, rfl⟩ | ⟨-, hold⟩
  · exact ⟨hpos, hmax⟩
  · exact h k' row hold

lemma dequeued (h : RanksInRange t) {id : String} {lane : DevTicketLane}
    (hdequeued : Dequeued c t id lane t') : RanksInRange t' := by
  cases hdequeued with
  | outside => exact h
  | evicted =>
      intro k row hget
      rw [Tables.putHeader, Tables.dropMembership, OrderedMap.get_delete] at hget
      split_ifs at hget
      exact h k row hget

/-- The rank of one member is written. -/
lemma updateRank (h : RanksInRange t) {id : String} {rank : ℤ} (hpos : 0 < rank)
    (hmax : rank ≤ postgresBigintMax) :
    RanksInRange (t.updateTodoQueueMembershipRank o w id rank).2 := by
  rw [Tables.updateTodoQueueMembershipRank]
  split
  · exact h.set hpos hmax rfl
  · exact h

/-- A band that fits into the range is rebalanced. -/
lemma rebalanceFrom (ids : List String) : ∀ {index : ℕ} {t : Tables}, RanksInRange t →
    ((index + ids.length : ℤ) + 1) * rankStride ≤ postgresBigintMax →
    RanksInRange (Tables.rebalanceFrom o w index ids t) := by
  induction ids with
  | nil => exact fun h _ => h
  | cons id rest ih =>
      intro index t h hfits
      rw [List.length_cons, Nat.cast_succ, rankStride] at hfits
      have hrank : ((index : ℤ) + 2) * 1000000 ≤ postgresBigintMax := by omega
      rw [Tables.rebalanceFrom]
      refine ih (h.updateRank (by omega) hrank) ?_
      rw [Nat.cast_succ, rankStride]
      omega

end RanksInRange

/-! ### The writes -/

/-- A member is written, or the band is rebalanced because it has the capacity. -/
lemma writeRanks_ranksInRange (h : RanksInRange t) {e : CommandEnvelope} {id : String} {rank : ℤ}
    {ids : List String}
    (hcapacity : rankOutOfRange rank = true →
      ((ids.length : ℤ) + 1) * rankStride ≤ postgresBigintMax) :
    RanksInRange (writeRanks e id rank ids t).2 := by
  rw [writeRanks]
  split
  · next hrange =>
      refine h.rebalanceFrom ids ?_
      rw [Nat.cast_zero, zero_add]
      exact hcapacity hrange
  · next hrange =>
      obtain ⟨hpos, hmax⟩ := inRange_of_not_outOfRange (Bool.eq_false_iff.mpr hrange)
      exact h.updateRank hpos hmax

/-- The rank behind the last member is inside the range, and so is the band that is rebalanced
before. -/
lemma appendRank_inRange {members : List TodoQueueMembershipRow} {rank : ℤ} {rebalance : Bool}
    (hmembers : ∀ row ∈ members, 0 < row.rank)
    (hrank : appendRank members = some (rank, rebalance)) :
    0 < rank ∧ rank ≤ postgresBigintMax ∧ (rebalance = true →
      ((members.length : ℤ) + 1) * rankStride ≤ postgresBigintMax) := by
  rw [appendRank] at hrank
  split_ifs at hrank with hfull hcapacity
  · cases hrank
    rw [rankStride] at hcapacity ⊢
    exact ⟨by omega, by omega, fun _ => by omega⟩
  · cases hrank
    refine ⟨?_, not_lt.mp hfull, fun hfalse => absurd hfalse Bool.false_ne_true⟩
    cases hlast : members.getLast? with
    | none => norm_num [firstTodoRank, rankStride]
    | some last =>
        have hpos := hmembers last (List.mem_of_getLast? hlast)
        show 0 < last.rank + rankStride
        rw [rankStride]
        omega

variable [Platform]

lemma enqueue_ranksInRange (h : RanksInRange t) (hk : Keyed t) {id : String} {rank : ℤ}
    {rebalance : Bool}
    (hrank : appendRank (t.listTodoQueueRanks c.envelope.organizationId c.envelope.workspaceId) =
      some (rank, rebalance)) : RanksInRange (enqueue c t id rank rebalance) := by
  have hmembers : ∀ row ∈ t.listTodoQueueRanks c.envelope.organizationId c.envelope.workspaceId,
      0 < row.rank := by
    intro row hrow
    have hstored := (mem_todoQueueRows hk).mp ((List.mem_insertionSort _).mp hrow)
    exact (h _ row hstored).1
  obtain ⟨hpos, hmax, hcapacity⟩ := appendRank_inRange hmembers hrank
  rw [enqueue]
  split
  · next hrebalance =>
      have hfits := hcapacity hrebalance
      refine RanksInRange.set (h.rebalanceFrom (o := c.envelope.organizationId)
        (w := c.envelope.workspaceId) _ ?_) hpos hmax rfl
      rw [List.length_map, Nat.cast_zero, zero_add]
      exact hfits
  · exact h.set hpos hmax rfl

/-! ### Effects -/

variable {command : Command} {r : Recorded}

/-- Every effect keeps the ranks inside the range. -/
lemma applied_ranksInRange (h : RanksInRange t) (hk : Keyed t)
    (happlied : Applied c t command t' r) : RanksInRange t' := by
  cases happlied with
  | drafted => exact h.congr rfl
  | proposalMoved => exact h.congr rfl
  | accepted => exact h.congr rfl
  | archived reason found active noDependents dequeued => exact (h.dequeued dequeued).congr rfl
  | restored => exact h.congr rfl
  | classified => exact h.congr rfl
  | duplicate => exact h
  | dependencyAdded found foundBlocker distinct new activeDependent activeBlocker noCycle
      dequeued => exact (h.dequeued dequeued).congr rfl
  | dependencyRemoved foundEdge activeEdge found foundBlocker activeDependent activeBlocker
      dequeued => exact (h.dequeued dequeued).congr rfl
  | @reordered input moved header membership index found todo valid locked member anchored
      capacity =>
      have hbumped : RanksInRange (t.putHeader (c.key "todo")
          { header with version := header.version + 1 }) := h.congr rfl
      exact (writeRanks_ranksInRange hbumped capacity).congr rfl
  | approved found checks hashed locked ranked =>
      exact (enqueue_ranksInRange h hk ranked).congr rfl
  | reimported => exact h
  | promoted => exact h.congr (by rw [setAliasDevTicketId_frame]; rfl)
  | resolved => exact h.congr (by rw [setAliasDevTicketId_frame]; rfl)
  | imported => exact h.congr rfl
  | importedPromoted => exact h.congr rfl
  | reconciled => exact h.congr rfl

/-- In every reachable world the ranks are inside the range. -/
lemma reachable_ranksInRange {admissible : World → Call → Prop} {world : World}
    (h : Reachable admissible world) : RanksInRange world.tables :=
  reachable_invariant (fun _ _ hget => by cases hget) (fun _ _ ht => ht.congr rfl)
    (fun _ _ _ ht hstep => ht.congr hstep.todoQueueMemberships)
    (fun _ _ _ _ _ _ hk _ ht happlied => applied_ranksInRange ht hk happlied) h

end Opzava.DevBoard
