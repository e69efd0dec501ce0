import Opzava.DevBoard.LegacyImport
import Opzava.DevBoard.TodoOrder
import Opzava.Library.Versioned

/-!
Version numbers of the rows and of the activity events.

* `TicketChange.versions` and its siblings: every effect keeps a row, creates it at
  version `1`, or replaces it by a row one version on; `applied_queue` says the same of
  a Todo queue with its header.
* `applied_events`: the events of an effect carry the versions their aggregates have
  right after it, beyond the versions they had before.
* `version_discipline`: versions in every reachable world and, where the ids of
  proposals, tickets and historical records are distinct, the uniqueness of the events.
-/

namespace Opzava.DevBoard

open Opzava.Library

/-! ### Rows -/

section Rows

variable {c : Context} {t t' : Tables} {command : Command}

lemma ProposalChange.versions {m : OrderedMap String ProposalRow}
    (h : ProposalChange c t command m) : VersionStep ProposalRow.version t.proposals m := by
  cases h with
  | kept => exact .refl _
  | drafted summary assessment contract fresh => exact .set_new fresh rfl
  | moved found move => exact .set_bumped found rfl
  | accepted command_eq found => exact .set_bumped found rfl

lemma NewTicket.version {id : String} {row : DevTicketRow} (h : NewTicket c command id row) :
    row.version = 1 := by
  cases h with
  | proposal => rfl
  | legacy => rfl

/-- The edges move on, provided the random id of the command is new among them. -/
lemma EdgeChange.versions {m : OrderedMap String DependencyEdgeRow}
    (h : EdgeChange c t command m) (hfresh : t.dependencyEdges.get (c.key c.randomUuid) = none) :
    VersionStep DependencyEdgeRow.version t.dependencyEdges m := by
  cases h with
  | kept => exact .refl _
  | added => exact .set_new hfresh rfl
  | retired command_eq foundEdge => exact .set_bumped foundEdge rfl

lemma ImportChange.versions (h : ImportChange c t t') :
    VersionStep HistoricalRecordRow.version t.historicalRecords t'.historicalRecords := by
  cases h with
  | kept records =>
      rw [records]
      exact .refl _
  | imported absent freshRecord ticket records =>
      rw [records]
      exact .set_new freshRecord rfl
  | promoted before unpromoted allowed ticket records =>
      rw [records]
      exact .set_bumped before.record rfl
  | resolved before quarantined unpromoted promotionCommandId records =>
      rw [records]
      exact .set_bumped before.record rfl
  | reconciled found unverified records =>
      rw [records]
      exact .set_bumped found rfl

/-- A record keeps its organization and its workspace. -/
lemma ImportChange.scope (h : ImportChange c t t') {k : String} {row row' : HistoricalRecordRow}
    (hget : t.historicalRecords.get k = some row) (hget' : t'.historicalRecords.get k = some row') :
    row'.organizationId = row.organizationId ∧ row'.workspaceId = row.workspaceId := by
  have hset : ∀ {id : String} {old new : HistoricalRecordRow},
      t'.historicalRecords = t.historicalRecords.set id new →
      t.historicalRecords.get id = some old → new.organizationId = old.organizationId →
      new.workspaceId = old.workspaceId →
      row'.organizationId = row.organizationId ∧ row'.workspaceId = row.workspaceId := by
    intro id old new hrecords hold ho hw
    rw [hrecords] at hget'
    rcases OrderedMap.get_set_eq_some hget' with ⟨rfl, rfl⟩ | ⟨-, hkept⟩
    · rw [hget] at hold
      cases hold
      exact ⟨ho, hw⟩
    · rw [hget] at hkept
      cases hkept
      exact ⟨rfl, rfl⟩
  cases h with
  | kept records =>
      rw [records, hget] at hget'
      cases hget'
      exact ⟨rfl, rfl⟩
  | imported absent freshRecord ticket records =>
      rw [records] at hget'
      rcases OrderedMap.get_set_eq_some hget' with ⟨rfl, -⟩ | ⟨-, hkept⟩
      · rw [freshRecord] at hget
        cases hget
      · rw [hget] at hkept
        cases hkept
        exact ⟨rfl, rfl⟩
  | promoted before unpromoted allowed ticket records => exact hset records before.record rfl rfl
  | resolved before quarantined unpromoted promotionCommandId records =>
      exact hset records before.record rfl rfl
  | reconciled found unverified records => exact hset records found rfl rfl

/-! ### Todo queues -/

/-- The header of a Todo queue; a missing header is created at version `1`. -/
def queueHeader (t : Tables) (o w : ScopeId) : LaneQueueHeaderRow :=
  (t.todoQueueHeaders.get (key o w "todo")).getD ⟨o, w, 1⟩

/-- The memberships of a queue are the same. -/
def SameMembers (t t' : Tables) (o w : ScopeId) : Prop :=
  ∀ id, t'.todoQueueMemberships.get (key o w id) = t.todoQueueMemberships.get (key o w id)

/-- A queue is as before, or one version on. -/
def QueueStep (t t' : Tables) (o w : ScopeId) : Prop :=
  (SameMembers t t' o w ∧ queueHeader t' o w = queueHeader t o w) ∨
    (queueHeader t' o w).version = (queueHeader t o w).version + 1

lemma QueueStep.of_eq {o w : ScopeId} (hmembers : t'.todoQueueMemberships = t.todoQueueMemberships)
    (hheaders : t'.todoQueueHeaders = t.todoQueueHeaders) : QueueStep t t' o w := by
  refine .inl ⟨fun id => by rw [hmembers], ?_⟩
  rw [queueHeader, queueHeader, hheaders]

lemma HeaderStep.queue (h : HeaderStep c t t') (o w : ScopeId) :
    SameMembers t t' o w ∧ queueHeader t' o w = queueHeader t o w := by
  refine ⟨fun id => by rw [h.todoQueueMemberships], ?_⟩
  cases h with
  | refl => rfl
  | created missing =>
      rw [queueHeader, queueHeader, Tables.putHeader]
      by_cases hscope : o = c.envelope.organizationId ∧ w = c.envelope.workspaceId
      · obtain ⟨rfl, rfl⟩ := hscope
        rw [OrderedMap.get_set_self, missing]
        rfl
      · rw [OrderedMap.get_set_of_ne _ _ (key_ne_of_scope_ne hscope _ _)]

/-- A header created first does not count as a step of the queue. -/
lemma QueueStep.of_header {t₁ : Tables} {o w : ScopeId} (h : QueueStep t₁ t' o w)
    (hfirst : SameMembers t t₁ o w ∧ queueHeader t₁ o w = queueHeader t o w) :
    QueueStep t t' o w := by
  obtain ⟨hmembers, hheader⟩ := hfirst
  rcases h with ⟨hmembers', hheader'⟩ | hbumped
  · exact .inl ⟨fun id => (hmembers' id).trans (hmembers id), hheader'.trans hheader⟩
  · exact .inr (hheader ▸ hbumped)

/-- A queue whose header moves on by one, and no other queue. -/
lemma queueStep_of_header {header : LaneQueueHeaderRow}
    (hlocked : t.todoQueueHeaders.get (c.key "todo") = some header)
    (hheaders : t'.todoQueueHeaders = t.todoQueueHeaders.set (c.key "todo")
      { header with version := header.version + 1 })
    (hmembers : ∀ o w, ¬(o = c.envelope.organizationId ∧ w = c.envelope.workspaceId) →
      SameMembers t t' o w) (o w : ScopeId) : QueueStep t t' o w := by
  by_cases hscope : o = c.envelope.organizationId ∧ w = c.envelope.workspaceId
  · obtain ⟨rfl, rfl⟩ := hscope
    right
    rw [queueHeader, queueHeader, hheaders, OrderedMap.get_set_self, hlocked]
    rfl
  · left
    refine ⟨hmembers o w hscope, ?_⟩
    rw [queueHeader, queueHeader, hheaders,
      OrderedMap.get_set_of_ne _ _ (key_ne_of_scope_ne hscope _ _)]

lemma Dequeued.queue {id : String} {lane : DevTicketLane} (h : Dequeued c t id lane t')
    (o w : ScopeId) : QueueStep t t' o w := by
  cases h with
  | outside => exact .of_eq rfl rfl
  | evicted hlane member locked =>
      refine queueStep_of_header locked rfl (fun o w hscope id' => ?_) o w
      exact OrderedMap.get_delete_of_ne _ (key_ne_of_scope_ne hscope _ _)

/-! ### Aggregates -/

/-- The version of an aggregate: a proposal, a ticket or a historical record. -/
inductive AggregateAt (t : Tables) (o w : ScopeId) (id : String) : ℕ → Prop
  | proposal {row : ProposalRow} (found : t.proposals.get (key o w id) = some row) :
      AggregateAt t o w id row.version
  | ticket {row : DevTicketRow} (found : t.devTickets.get (key o w id) = some row) :
      AggregateAt t o w id row.version
  | record {row : HistoricalRecordRow} (found : t.historicalRecords.get id = some row)
      (organizationId : row.organizationId = o) (workspaceId : row.workspaceId = w) :
      AggregateAt t o w id row.version

/-- Proposals, tickets and historical records of a workspace have distinct ids. -/
structure DistinctIds (t : Tables) : Prop where
  proposal_ticket : ∀ o w id, t.proposals.get (key o w id) ≠ none →
    t.devTickets.get (key o w id) = none
  proposal_record : ∀ id row, t.historicalRecords.get id = some row →
    t.proposals.get (key row.organizationId row.workspaceId id) = none
  ticket_record : ∀ id row, t.historicalRecords.get id = some row →
    t.devTickets.get (key row.organizationId row.workspaceId id) = none

namespace DistinctIds

variable {o w : ScopeId} {id : String} {n : ℕ}

/-- Distinct ids, by the rows the tables hold. -/
lemma of_entries (hproposals : ∀ entry ∈ t.proposals.entries, t.devTickets.get entry.1 = none)
    (hrecords : ∀ entry ∈ t.historicalRecords.entries,
      t.proposals.get (key entry.2.organizationId entry.2.workspaceId entry.1) = none ∧
        t.devTickets.get (key entry.2.organizationId entry.2.workspaceId entry.1) = none) :
    DistinctIds t where
  proposal_ticket o w id hproposal := by
    obtain ⟨row, hget⟩ := Option.ne_none_iff_exists'.mp hproposal
    exact hproposals _ (OrderedMap.mem_entries_iff.mpr hget)
  proposal_record _ _ hget := (hrecords _ (OrderedMap.mem_entries_iff.mpr hget)).1
  ticket_record _ _ hget := (hrecords _ (OrderedMap.mem_entries_iff.mpr hget)).2

lemma aggregate_proposal (h : DistinctIds t) {row : ProposalRow}
    (hget : t.proposals.get (key o w id) = some row) (ha : AggregateAt t o w id n) :
    n = row.version := by
  cases ha with
  | proposal found =>
      rw [hget] at found
      cases found
      rfl
  | ticket found =>
      rw [h.proposal_ticket o w id (by rw [hget]; exact Option.some_ne_none _)] at found
      cases found
  | record found ho hw =>
      have hnone := h.proposal_record id _ found
      rw [ho, hw, hget] at hnone
      cases hnone

lemma aggregate_ticket (h : DistinctIds t) {row : DevTicketRow}
    (hget : t.devTickets.get (key o w id) = some row) (ha : AggregateAt t o w id n) :
    n = row.version := by
  cases ha with
  | proposal found =>
      have hnone := h.proposal_ticket o w id (by rw [found]; exact Option.some_ne_none _)
      rw [hget] at hnone
      cases hnone
  | ticket found =>
      rw [hget] at found
      cases found
      rfl
  | record found ho hw =>
      have hnone := h.ticket_record id _ found
      rw [ho, hw, hget] at hnone
      cases hnone

lemma aggregate_record (h : DistinctIds t) {row : HistoricalRecordRow}
    (hget : t.historicalRecords.get id = some row)
    (ha : AggregateAt t row.organizationId row.workspaceId id n) : n = row.version := by
  cases ha with
  | proposal found =>
      rw [h.proposal_record id row hget] at found
      cases found
  | ticket found =>
      rw [h.ticket_record id row hget] at found
      cases found
  | record found =>
      rw [hget] at found
      cases found
      rfl

end DistinctIds

/-- No aggregate goes away. -/
structure Persists (t t' : Tables) : Prop where
  proposals : ∀ k, t.proposals.get k ≠ none → t'.proposals.get k ≠ none
  tickets : ∀ k, t.devTickets.get k ≠ none → t'.devTickets.get k ≠ none
  records : ∀ id row, t.historicalRecords.get id = some row →
    ∃ row', t'.historicalRecords.get id = some row' ∧
      row'.organizationId = row.organizationId ∧ row'.workspaceId = row.workspaceId

namespace Persists

variable {o w : ScopeId} {id : String} {n : ℕ}

/-- Ids that are distinct later are distinct before. -/
lemma distinctIds (h : Persists t t') (hd : DistinctIds t') : DistinctIds t where
  proposal_ticket := by
    intro o w id hproposal
    by_contra hticket
    exact h.tickets _ hticket (hd.proposal_ticket o w id (h.proposals _ hproposal))
  proposal_record := by
    intro id row hrecord
    by_contra hproposal
    obtain ⟨row', hrecord', ho, hw⟩ := h.records id row hrecord
    have hnone := hd.proposal_record id row' hrecord'
    rw [ho, hw] at hnone
    exact h.proposals _ hproposal hnone
  ticket_record := by
    intro id row hrecord
    by_contra hticket
    obtain ⟨row', hrecord', ho, hw⟩ := h.records id row hrecord
    have hnone := hd.ticket_record id row' hrecord'
    rw [ho, hw] at hnone
    exact h.tickets _ hticket hnone

/-- The id of a new ticket belongs to no aggregate before. -/
lemma not_aggregate_of_new_ticket (h : Persists t t') (hd : DistinctIds t')
    (hfresh : t.devTickets.get (key o w id) = none)
    (hnew : t'.devTickets.get (key o w id) ≠ none) : ¬AggregateAt t o w id n := by
  intro ha
  cases ha with
  | proposal found =>
      have hproposal := h.proposals (key o w id) (by rw [found]; exact Option.some_ne_none _)
      exact hnew (hd.proposal_ticket o w id hproposal)
  | ticket found =>
      rw [hfresh] at found
      cases found
  | record found ho hw =>
      obtain ⟨row', hrecord', ho', hw'⟩ := h.records id _ found
      have hnone := hd.ticket_record id row' hrecord'
      rw [ho', hw', ho, hw] at hnone
      exact hnew hnone

/-- The id of a new record belongs to no aggregate before. -/
lemma not_aggregate_of_new_record (h : Persists t t') (hd : DistinctIds t')
    {row : HistoricalRecordRow} (hfresh : t.historicalRecords.get id = none)
    (hnew : t'.historicalRecords.get id = some row) :
    ¬AggregateAt t row.organizationId row.workspaceId id n := by
  intro ha
  cases ha with
  | proposal found =>
      have hproposal := h.proposals (key row.organizationId row.workspaceId id)
        (by rw [found]; exact Option.some_ne_none _)
      exact hproposal (hd.proposal_record id row hnew)
  | ticket found =>
      have hticket := h.tickets (key row.organizationId row.workspaceId id)
        (by rw [found]; exact Option.some_ne_none _)
      exact hticket (hd.ticket_record id row hnew)
  | record found =>
      rw [hfresh] at found
      cases found

end Persists

/-! ### Logged versions -/

/-- The aggregate has the version after the step and had none as high before it. -/
structure Advanced (t t' : Tables) (o w : ScopeId) (entry : String × ℕ) : Prop where
  after : AggregateAt t' o w entry.1 entry.2
  beyond : ∀ n, AggregateAt t o w entry.1 n → n < entry.2

namespace Advanced

variable {o w : ScopeId} {id : String}

lemma proposal (hd : DistinctIds t) {old new : ProposalRow}
    (hold : t.proposals.get (key o w id) = some old)
    (hnew : t'.proposals.get (key o w id) = some new) (hversion : new.version = old.version + 1) :
    Advanced t t' o w (id, old.version + 1) where
  after := hversion ▸ .proposal hnew
  beyond n ha := by
    have hn := hd.aggregate_proposal hold ha
    omega

lemma ticket (hd : DistinctIds t) {old new : DevTicketRow}
    (hold : t.devTickets.get (key o w id) = some old)
    (hnew : t'.devTickets.get (key o w id) = some new) (hversion : new.version = old.version + 1) :
    Advanced t t' o w (id, old.version + 1) where
  after := hversion ▸ .ticket hnew
  beyond n ha := by
    have hn := hd.aggregate_ticket hold ha
    omega

lemma newTicket (hp : Persists t t') (hd : DistinctIds t') {row : DevTicketRow}
    (hfresh : t.devTickets.get (key o w id) = none)
    (hnew : t'.devTickets.get (key o w id) = some row) (hversion : row.version = 1) :
    Advanced t t' o w (id, 1) where
  after := hversion ▸ .ticket hnew
  beyond n ha := by
    have hsome : t'.devTickets.get (key o w id) ≠ none := by
      rw [hnew]
      exact Option.some_ne_none _
    exact absurd ha (hp.not_aggregate_of_new_ticket hd hfresh hsome)

lemma record (hd : DistinctIds t) {old new : HistoricalRecordRow}
    (hold : t.historicalRecords.get id = some old) (ho : old.organizationId = o)
    (hw : old.workspaceId = w) (hnew : t'.historicalRecords.get id = some new)
    (ho' : new.organizationId = o) (hw' : new.workspaceId = w)
    (hversion : new.version = old.version + 1) :
    Advanced t t' o w (id, old.version + 1) where
  after := hversion ▸ .record hnew ho' hw'
  beyond n ha := by
    subst ho hw
    have hn := hd.aggregate_record hold ha
    omega

lemma newRecord (hp : Persists t t') (hd : DistinctIds t') {row : HistoricalRecordRow}
    (hfresh : t.historicalRecords.get id = none)
    (hnew : t'.historicalRecords.get id = some row) (hversion : row.version = 1) :
    Advanced t t' row.organizationId row.workspaceId (id, 1) where
  after := hversion ▸ .record hnew rfl rfl
  beyond _ ha := absurd ha (hp.not_aggregate_of_new_record hd hfresh hnew)

end Advanced

/-- The aggregates and versions of the events of a ledger, in the order they were
appended. -/
def aggregateVersions (l : Ledger) : List ((ScopeId × ScopeId × String) × ℕ) :=
  l.activityEvents.map fun event =>
    ((event.organizationId, event.workspaceId, event.aggregateId), event.aggregateVersion)

/-- The version of an aggregate of a workspace. -/
def CurrentVersion (t : Tables) (a : ScopeId × ScopeId × String) (n : ℕ) : Prop :=
  AggregateAt t a.1 a.2.1 a.2.2 n

lemma Appended.aggregateVersions {e : CommandEnvelope} {r : Recorded} {l l' : Ledger}
    (h : Appended e r l l') : DevBoard.aggregateVersions l' = DevBoard.aggregateVersions l ++
      r.events.map fun entry => ((e.organizationId, e.workspaceId, entry.1), entry.2) := by
  obtain ⟨decisions, events, rfl, -, hevents, -, hscope⟩ := h
  rw [DevBoard.aggregateVersions, List.map_append, ← hevents, List.map_map]
  refine congrArg _ (List.map_congr_left fun event hevent => ?_)
  obtain ⟨ho, hw⟩ := hscope event hevent
  rw [ho, hw]
  rfl

lemma HeaderStep.aggregate (h : HeaderStep c t t') {o w : ScopeId} {id : String} {n : ℕ}
    (ha : AggregateAt t o w id n) : AggregateAt t' o w id n := by
  cases ha with
  | proposal found => exact .proposal (h.proposals ▸ found)
  | ticket found => exact .ticket (h.devTickets ▸ found)
  | record found ho hw => exact .record (h.historicalRecords ▸ found) ho hw

lemma Persists.trans {t₁ t₂ t₃ : Tables} (h : Persists t₁ t₂) (h' : Persists t₂ t₃) :
    Persists t₁ t₃ where
  proposals k hget := h'.proposals k (h.proposals k hget)
  tickets k hget := h'.tickets k (h.tickets k hget)
  records id row hget := by
    obtain ⟨row', hget', ho, hw⟩ := h.records id row hget
    obtain ⟨row'', hget'', ho', hw'⟩ := h'.records id row' hget'
    exact ⟨row'', hget'', ho'.trans ho, hw'.trans hw⟩

lemma Persists.of_eq (hproposals : t'.proposals = t.proposals)
    (htickets : t'.devTickets = t.devTickets)
    (hrecords : t'.historicalRecords = t.historicalRecords) : Persists t t' where
  proposals _ hget := hproposals ▸ hget
  tickets _ hget := htickets ▸ hget
  records _ row hget := ⟨row, hrecords ▸ hget, rfl, rfl⟩

lemma HeaderStep.persists (h : HeaderStep c t t') : Persists t t' :=
  .of_eq h.proposals h.devTickets h.historicalRecords

end Rows

section Versions

variable [Platform] {c : Context} {t t' : Tables} {command : Command} {r : Recorded}
  {admissible : World → Call → Prop} {w w' : World}

lemma TicketUpdate.version {id : String} {ticket row : DevTicketRow}
    (h : TicketUpdate c t command id ticket row) : row.version = ticket.version + 1 := by
  cases h with
  | dependencyChanged => exact dependencyChanged_version _
  | _ => rfl

lemma TicketChange.versions {m : OrderedMap String DevTicketRow} (h : TicketChange c t command m) :
    VersionStep DevTicketRow.version t.devTickets m := by
  cases h with
  | kept => exact .refl _
  | inserted fresh new => exact .set_new fresh new.version
  | updated found update => exact .set_bumped found update.version

lemma applied_persists (h : Applied c t command t' r) : Persists t t' where
  proposals k := ((applied_proposals h).versions k).ne_none
  tickets k := ((applied_tickets h).versions k).ne_none
  records id row hget := by
    have hchange := applied_imports h
    have hsome := (hchange.versions id).ne_none (by rw [hget]; exact Option.some_ne_none _)
    obtain ⟨row', hget'⟩ := Option.ne_none_iff_exists'.mp hsome
    exact ⟨row', hget', hchange.scope hget hget'⟩

/-- No aggregate falls back. -/
lemma applied_aggregate (h : Applied c t command t' r) {o w : ScopeId} {id : String} {n : ℕ}
    (ha : AggregateAt t o w id n) : ∃ n', AggregateAt t' o w id n' ∧ n ≤ n' := by
  cases ha with
  | @proposal row found =>
      have hstep := (applied_proposals h).versions (key o w id)
      rw [found] at hstep
      obtain ⟨new, hnew, hversion⟩ := hstep.forward
      refine ⟨new.version, .proposal hnew, ?_⟩
      rcases hversion with rfl | hversion <;> omega
  | @ticket row found =>
      have hstep := (applied_tickets h).versions (key o w id)
      rw [found] at hstep
      obtain ⟨new, hnew, hversion⟩ := hstep.forward
      refine ⟨new.version, .ticket hnew, ?_⟩
      rcases hversion with rfl | hversion <;> omega
  | @record row found ho hw =>
      have hchange := applied_imports h
      have hstep := hchange.versions id
      rw [found] at hstep
      obtain ⟨new, hnew, hversion⟩ := hstep.forward
      obtain ⟨ho', hw'⟩ := hchange.scope found hnew
      refine ⟨new.version, .record hnew (ho'.trans ho) (hw'.trans hw), ?_⟩
      rcases hversion with rfl | hversion <;> omega

/-- Every effect keeps a queue or moves it on by one. -/
lemma applied_queue (h : Applied c t command t' r) (o w : ScopeId) : QueueStep t t' o w := by
  cases h with
  | archived reason found active noDependents dequeued => exact dequeued.queue o w
  | dependencyAdded found foundBlocker distinct new activeDependent activeBlocker noCycle
      dequeued => exact dequeued.queue o w
  | dependencyRemoved foundEdge activeEdge found foundBlocker activeDependent activeBlocker
      dequeued => exact dequeued.queue o w
  | reordered found todo valid locked =>
      refine queueStep_of_header locked ?_ (fun o w hscope id => ?_) o w
      · rw [writeRanks_frame]
        rfl
      · exact writeRanks_get_other (fun id' => key_ne_of_scope_ne hscope id id') _ _ _ _
  | @approved input ticket contract hash type priority declared header rank rebalance found checks
      hashed locked =>
      refine queueStep_of_header locked ?_ (fun o w hscope id => ?_) o w
      · show (enqueue c t input.devTicketId rank rebalance).todoQueueHeaders.set _ _ = _
        rw [(enqueue_frame c t input.devTicketId rank rebalance).todoQueueHeaders]
      · show (enqueue c t input.devTicketId rank rebalance).todoQueueMemberships.get _ = _
        rw [enqueue, Tables.putMembership,
          OrderedMap.get_set_of_ne _ _ (key_ne_of_scope_ne hscope id _)]
        split_ifs
        · exact rebalanceFrom_get_other (fun id' => key_ne_of_scope_ne hscope id id') 0 _ t
        · rfl
  | promoted =>
      rw [setAliasDevTicketId_frame]
      exact .of_eq rfl rfl
  | resolved =>
      rw [setAliasDevTicketId_frame]
      exact .of_eq rfl rfl
  | _ => exact .of_eq rfl rfl

/-! ### Events -/

/-- **The events of an effect** carry the versions their aggregates have right after it,
beyond the versions before it, and no two events of it are alike. -/
theorem applied_events (hd : DistinctIds t') (h : Applied c t command t' r) :
    (∀ entry ∈ r.events,
      Advanced t t' c.envelope.organizationId c.envelope.workspaceId entry) ∧ r.events.Nodup := by
  have hp := applied_persists h
  have hd₀ := hp.distinctIds hd
  cases h with
  | proposalMoved found =>
      refine ⟨List.forall_mem_singleton.mpr ?_, List.nodup_singleton _⟩
      exact .proposal hd₀ found (OrderedMap.get_set_self _ _ _) rfl
  | @accepted input proposal contract hash found awaiting active fresh =>
      have hne : input.proposalId ≠ c.randomUuid := by
        intro heq
        -- the new ticket would have the id of its proposal
        have hnone := hd.proposal_ticket c.envelope.organizationId c.envelope.workspaceId
          input.proposalId (by
            rw [Tables.putProposal, OrderedMap.get_set_self]
            exact Option.some_ne_none _)
        rw [heq] at hnone
        change (t.devTickets.set (c.key c.randomUuid) _).get _ = none at hnone
        rw [OrderedMap.get_set_self] at hnone
        cases hnone
      refine ⟨?_, ?_⟩
      · intro entry hentry
        rcases List.mem_cons.mp hentry with rfl | hentry
        · exact .proposal hd₀ found (OrderedMap.get_set_self _ _ _) rfl
        · rw [List.mem_singleton.mp hentry]
          exact .newTicket hp hd fresh (OrderedMap.get_set_self _ _ _) rfl
      · refine List.nodup_cons.mpr ⟨?_, List.nodup_singleton _⟩
        rw [List.mem_singleton, Prod.mk.injEq]
        exact fun heq => hne heq.1
  | archived reason found active noDependents dequeued =>
      refine ⟨List.forall_mem_singleton.mpr ?_, List.nodup_singleton _⟩
      exact .ticket hd₀ found (OrderedMap.get_set_self _ _ _) rfl
  | restored found =>
      refine ⟨List.forall_mem_singleton.mpr ?_, List.nodup_singleton _⟩
      exact .ticket hd₀ found (OrderedMap.get_set_self _ _ _) rfl
  | classified found =>
      refine ⟨List.forall_mem_singleton.mpr ?_, List.nodup_singleton _⟩
      exact .ticket hd₀ found (OrderedMap.get_set_self _ _ _) rfl
  | dependencyAdded found =>
      refine ⟨List.forall_mem_singleton.mpr ?_, List.nodup_singleton _⟩
      exact .ticket hd₀ found (OrderedMap.get_set_self _ _ _) (dependencyChanged_version _)
  | dependencyRemoved foundEdge activeEdge found =>
      refine ⟨List.forall_mem_singleton.mpr ?_, List.nodup_singleton _⟩
      exact .ticket hd₀ found (OrderedMap.get_set_self _ _ _) (dependencyChanged_version _)
  | reordered found =>
      refine ⟨List.forall_mem_singleton.mpr ?_, List.nodup_singleton _⟩
      exact .ticket hd₀ found (OrderedMap.get_set_self _ _ _) rfl
  | approved found =>
      refine ⟨List.forall_mem_singleton.mpr ?_, List.nodup_singleton _⟩
      exact .ticket hd₀ found (OrderedMap.get_set_self _ _ _) rfl
  | @imported input source disposition digest importable absent freshRecord =>
      refine ⟨List.forall_mem_singleton.mpr ?_, List.nodup_singleton _⟩
      exact .newRecord hp hd freshRecord (OrderedMap.get_set_self _ _ _) rfl
  | importedPromoted importable absent freshRecord fresh =>
      refine ⟨List.forall_mem_singleton.mpr ?_, List.nodup_singleton _⟩
      exact .newTicket hp hd fresh (OrderedMap.get_set_self _ _ _) rfl
  | @reconciled input historical found organizationId workspaceId =>
      refine ⟨List.forall_mem_singleton.mpr ?_, List.nodup_singleton _⟩
      exact .record hd₀ found organizationId workspaceId (OrderedMap.get_set_self _ _ _)
        organizationId workspaceId rfl
  | _ => exact ⟨by simp, List.nodup_nil⟩

/-! ### Calls and runs -/

lemma tableStep_persists (h : TableStep c command t t') : Persists t t' := by
  obtain ⟨t₁, hlock, rfl | ⟨r, happlied⟩⟩ := h
  · exact hlock.persists
  · exact hlock.persists.trans (applied_persists happlied)

lemma step_persists (hk : Keyed w.tables) (h : Step admissible w w') :
    Persists w.tables w'.tables := by
  cases h with
  | call call => exact tableStep_persists (execute_tables hk call)
  | directory => exact .of_eq rfl rfl rfl
  | legacySources => exact .of_eq rfl rfl rfl

/-- One call on the log of versions. -/
lemma execute_versions (hk : Keyed w.tables) (call : Call)
    (hd : DistinctIds (execute call w).2.tables) :
    ∃ new, aggregateVersions (execute call w).2.ledger = aggregateVersions w.ledger ++ new ∧
      new.Nodup ∧ ∀ entry ∈ new, CurrentVersion (execute call w).2.tables entry.1 entry.2 ∧
        ∀ n, CurrentVersion w.tables entry.1 n → n < entry.2 := by
  obtain ⟨t₁, hlock, ⟨-, hledger⟩ | ⟨r, happlied, hledger | happended⟩⟩ := execute_effect hk call
  · exact ⟨[], by rw [hledger, List.append_nil], List.nodup_nil, by simp⟩
  · exact ⟨[], by rw [hledger, List.append_nil], List.nodup_nil, by simp⟩
  · obtain ⟨hadvanced, hnodup⟩ := applied_events hd happlied
    refine ⟨_, happended.aggregateVersions, ?_, ?_⟩
    · refine hnodup.map fun entry entry' heq => ?_
      simp only [Prod.mk.injEq, true_and] at heq
      exact Prod.ext heq.1 heq.2
    · intro entry hentry
      obtain ⟨recorded, hrecorded, rfl⟩ := List.mem_map.mp hentry
      obtain ⟨hafter, hbeyond⟩ := hadvanced recorded hrecorded
      exact ⟨hafter, fun n hn => hbeyond n (hlock.aggregate hn)⟩

/-- No aggregate falls back in a step of a run. -/
lemma step_aggregate (hk : Keyed w.tables) (h : Step admissible w w')
    (a : ScopeId × ScopeId × String) (n : ℕ) (ha : CurrentVersion w.tables a n) :
    ∃ n', CurrentVersion w'.tables a n' ∧ n ≤ n' := by
  cases h with
  | call call =>
      obtain ⟨t₁, hlock, heq | ⟨r, happlied⟩⟩ := execute_tables hk call
      · rw [heq]
        exact ⟨n, hlock.aggregate ha, le_rfl⟩
      · exact applied_aggregate happlied (hlock.aggregate ha)
  | directory => exact ⟨n, ha, le_rfl⟩
  | legacySources =>
      refine ⟨n, ?_, le_rfl⟩
      cases ha with
      | proposal found => exact .proposal found
      | ticket found => exact .ticket found
      | record found ho hw => exact .record found ho hw

/-- Over a run with distinct ids the log names no version twice. -/
theorem reachable_logged (h : Reachable anyCall w) (hd : DistinctIds w.tables) :
    Logged (CurrentVersion w.tables) (aggregateVersions w.ledger) := by
  induction h with
  | refl => exact .nil _
  | @tail w₁ w₂ hrun hstep ih =>
      have hk := reachable_keyed hrun
      have hlogged := ih ((step_persists hk hstep).distinctIds hd)
      have hmono := step_aggregate hk hstep
      cases hstep with
      | call call =>
          obtain ⟨new, hversions, hnodup, hnew⟩ := execute_versions hk call hd
          rw [hversions]
          exact hlogged.append hmono hnew hnodup
      | directory => exact hlogged
      | legacySources =>
          rw [← List.append_nil (aggregateVersions _)]
          exact hlogged.append hmono (by simp) List.nodup_nil

/-- **Version discipline**: in every reachable world every call keeps a row, creates it
at version `1` or moves it on by one version, and a Todo queue with its header likewise;
where the ids of proposals, tickets and historical records are distinct, the events of
the ledger have distinct aggregates and versions, and the events of a call carry the
versions right after it. -/
theorem version_discipline (h : Reachable anyCall w) :
    (∀ call : Call,
      VersionStep ProposalRow.version w.tables.proposals (execute call w).2.tables.proposals ∧
      VersionStep DevTicketRow.version w.tables.devTickets (execute call w).2.tables.devTickets ∧
      VersionStep HistoricalRecordRow.version w.tables.historicalRecords
        (execute call w).2.tables.historicalRecords ∧
      (freshEdgeId w call → VersionStep DependencyEdgeRow.version w.tables.dependencyEdges
        (execute call w).2.tables.dependencyEdges) ∧
      ∀ o ws, QueueStep w.tables (execute call w).2.tables o ws) ∧
    (DistinctIds w.tables → (aggregateVersions w.ledger).Nodup) ∧
    (∀ call : Call, DistinctIds (execute call w).2.tables →
      ∃ new, aggregateVersions (execute call w).2.ledger = aggregateVersions w.ledger ++ new ∧
        ∀ entry ∈ new, CurrentVersion (execute call w).2.tables entry.1 entry.2) := by
  have hk := reachable_keyed h
  refine ⟨fun call => ?_, fun hd => (reachable_logged h hd).nodup, fun call hd => ?_⟩
  · obtain ⟨t₁, hlock, heq | ⟨r, happlied⟩⟩ := execute_tables hk call
    · rw [heq]
      refine ⟨?_, ?_, ?_, fun _ => ?_, fun o ws => .inl (hlock.queue o ws)⟩
      · exact hlock.proposals ▸ .refl _
      · exact hlock.devTickets ▸ .refl _
      · exact hlock.historicalRecords ▸ .refl _
      · exact hlock.dependencyEdges ▸ .refl _
    · refine ⟨?_, ?_, ?_, fun hfresh => ?_, fun o ws => ?_⟩
      · exact hlock.proposals ▸ (applied_proposals happlied).versions
      · exact hlock.devTickets ▸ (applied_tickets happlied).versions
      · exact hlock.historicalRecords ▸ (applied_imports happlied).versions
      · have hfresh' : t₁.dependencyEdges.get ((call.context w).key call.randomUuid) = none := by
          rw [hlock.dependencyEdges]
          exact hfresh
        exact hlock.dependencyEdges ▸ (applied_edges happlied).versions hfresh'
      · exact (applied_queue happlied o ws).of_header (hlock.queue o ws)
  · obtain ⟨new, hversions, -, hnew⟩ := execute_versions hk call hd
    exact ⟨new, hversions, fun entry hentry => (hnew entry hentry).1⟩

end Versions

open Sample

/-- The events of the sample board with a dependency are distinct. -/
theorem version_discipline_dependencyEvents :
    (aggregateVersions (runEvents World.empty dependencyEvents).ledger).length = 7 ∧
      (aggregateVersions (runEvents World.empty dependencyEvents).ledger).Nodup := by
  have hfacts : (∀ entry ∈ (runEvents World.empty dependencyEvents).tables.proposals.entries,
        (runEvents World.empty dependencyEvents).tables.devTickets.get entry.1 = none) ∧
      (runEvents World.empty dependencyEvents).tables.historicalRecords.entries.length = 0 ∧
      (aggregateVersions (runEvents World.empty dependencyEvents).ledger).length = 7 := by
    decide +kernel
  obtain ⟨hproposals, hrecords, hlength⟩ := hfacts
  refine ⟨hlength, (version_discipline (reachable_runEvents _)).2.1 (.of_entries hproposals ?_)⟩
  rw [List.length_eq_zero_iff.mp hrecords]
  simp

end Opzava.DevBoard
