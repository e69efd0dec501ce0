import Opzava.DevBoard.Changes
import Opzava.DevBoard.Idempotency

/-!
The legacy import as a state machine.

A first import, the loser of an import race, a re-import with or without an owner and
a reconciliation all rewrite the same pair of a historical record and the alias of its
legacy task. `ImportChange` says what these effects amount to for the two tables.

* `ImportTies`: alias and record name each other, and a promoted record has its
  ticket, an invariant over three tables (`applied_importTies`).
* `run_record`: over a run a record keeps what it preserves, leaves quarantine at most
  and moves its completion gate forward at most.
* `import_of_changed_source`, `reimport_of_unchanged_record`: an import of a source row
  that has changed is rejected, and one that moves nothing writes nothing.
* `legacy_import_state_machine`: all of it in every reachable world.
-/

namespace Opzava.DevBoard

open Opzava.Library

/-! ### Records and aliases -/

/-- The alias of a legacy task and the record it points at agree. -/
structure Describes (record : HistoricalRecordRow) (a : LegacyTaskAliasRow) : Prop where
  organizationId : record.organizationId = a.organizationId
  workspaceId : record.workspaceId = a.workspaceId
  source : record.sourceTableRowIdentity = a.legacyTaskId
  promoted : a.devTicketId ≠ none ↔ record.sourceDisposition = .promotedBacklog

/-- The ticket an alias names is the legacy task, and is stored. -/
def NamesTicket (t : Tables) (a : LegacyTaskAliasRow) : Prop :=
  ∀ id, a.devTicketId = some id →
    id = a.legacyTaskId ∧ t.devTickets.get (key a.organizationId a.workspaceId id) ≠ none

/-- Every alias points at its record, every record has its alias, and promoted tasks
have their tickets. -/
structure ImportTies (t : Tables) : Prop where
  record : ∀ {k a}, t.legacyTaskAliases.get k = some a →
    ∃ record, t.historicalRecords.get a.historicalRecordId = some record ∧ Describes record a
  ticket : ∀ {k a}, t.legacyTaskAliases.get k = some a → NamesTicket t a
  linked : ∀ {k record}, t.historicalRecords.get k = some record →
    ∃ a, t.legacyTaskAliases.get
        (aliasKey record.organizationId record.sourceTableRowIdentity) = some a ∧
      a.historicalRecordId = k

/-- What a record keeps over every step: its digest and its evidence; its disposition
unless it was quarantined; its completion gate but for the reconciliation. -/
structure RecordMoves (record record' : HistoricalRecordRow) : Prop where
  digest : record'.preservedPayloadDigest = record.preservedPayloadDigest
  evidence : record'.evidenceRefs = record.evidenceRefs
  disposition : record'.sourceDisposition = record.sourceDisposition ∨
    record.sourceDisposition = .quarantinedNoOwner
  gate : record'.completionGate = record.completionGate ∨
    record.completionGate = some .legacyUnverified ∧
      record'.completionGate = some .reconciledHistorical

lemma RecordMoves.refl (record : HistoricalRecordRow) : RecordMoves record record :=
  ⟨rfl, rfl, .inl rfl, .inl rfl⟩

lemma RecordMoves.trans {r₁ r₂ r₃ : HistoricalRecordRow} (h₁ : RecordMoves r₁ r₂)
    (h₂ : RecordMoves r₂ r₃) : RecordMoves r₁ r₃ where
  digest := h₂.digest.trans h₁.digest
  evidence := h₂.evidence.trans h₁.evidence
  disposition := by
    rcases h₁.disposition with hsame | hquarantined
    · rw [← hsame]
      exact h₂.disposition
    · exact .inr hquarantined
  gate := by
    rcases h₁.gate with hsame | ⟨hbefore, hafter⟩
    · rw [← hsame]
      exact h₂.gate
    · rcases h₂.gate with hsame | ⟨hbefore', -⟩
      · exact .inr ⟨hbefore, hsame.trans hafter⟩
      · rw [hafter] at hbefore'
        cases hbefore'

variable {c : Context} {t t' : Tables} {command : Command}

/-! ### Effects on the two tables -/

/-- The aliases after a rewrite of one of them depend on the aliases only. -/
lemma setAliasDevTicketId_aliases (o : ScopeId) (id : String) (devTicketId : Option String)
    {t t' : Tables} (h : t'.legacyTaskAliases = t.legacyTaskAliases) :
    (Tables.setAliasDevTicketId o id devTicketId t').legacyTaskAliases =
      (Tables.setAliasDevTicketId o id devTicketId t).legacyTaskAliases := by
  rw [Tables.setAliasDevTicketId, Tables.setAliasDevTicketId, h]
  cases t.legacyTaskAliases.get (aliasKey o id) with
  | none => exact h
  | some row => rfl

/-- The alias of a rewrite gets the ticket id. -/
lemma setAliasDevTicketId_of_get {o : ScopeId} {id : String} {devTicketId : Option String}
    {a : LegacyTaskAliasRow} (h : t.legacyTaskAliases.get (aliasKey o id) = some a) :
    (Tables.setAliasDevTicketId o id devTicketId t).legacyTaskAliases =
      t.legacyTaskAliases.set (aliasKey o id) { a with devTicketId := devTicketId } := by
  rw [Tables.setAliasDevTicketId, h]

lemma get_putDevTicket_ne_none (t : Tables) (k : String) (row : DevTicketRow) :
    (t.putDevTicket k row).devTickets.get k ≠ none := by
  rw [Tables.putDevTicket, OrderedMap.get_set_self]
  exact Option.some_ne_none _

section Effects

variable [Platform] {r : Recorded}

/-- What an effect does to the records and the aliases. -/
inductive ImportChange (c : Context) (t t' : Tables) : Prop
  | kept (records : t'.historicalRecords = t.historicalRecords)
      (aliases : t'.legacyTaskAliases = t.legacyTaskAliases)
  | imported {source : LegacyTaskSource} {disposition : SourceDisposition} {digest : String}
      (absent : t.legacyTaskAliases.get (aliasKey c.envelope.organizationId source.id) = none)
      (freshRecord : t.historicalRecords.get c.randomUuid = none)
      (ticket : disposition = .promotedBacklog → t'.devTickets.get (c.key source.id) ≠ none)
      (records : t'.historicalRecords =
        t.historicalRecords.set c.randomUuid (importedRecord c source disposition digest))
      (aliases : t'.legacyTaskAliases = t.legacyTaskAliases.set
        (aliasKey c.envelope.organizationId source.id) (importedAlias c source disposition))
  | promoted {source : LegacyTaskSource} {digest : String} {a : LegacyTaskAliasRow}
      {historical : HistoricalRecordRow} (before : ImportedBefore c t source digest a historical)
      (unpromoted : a.devTicketId = none)
      (allowed : historical.sourceDisposition = .quarantinedNoOwner ∨
        historical.sourceDisposition = .promotedBacklog)
      (ticket : t'.devTickets.get (c.key source.id) ≠ none)
      (records : t'.historicalRecords = t.historicalRecords.set a.historicalRecordId
        (historical.resolved .promotedBacklog (some c.envelope.commandId)))
      (aliases : t'.legacyTaskAliases = (Tables.setAliasDevTicketId c.envelope.organizationId
        historical.sourceTableRowIdentity (some source.id) t).legacyTaskAliases)
  | resolved {source : LegacyTaskSource} {disposition : SourceDisposition} {digest : String}
      {a : LegacyTaskAliasRow} {historical : HistoricalRecordRow}
      (before : ImportedBefore c t source digest a historical)
      (quarantined : historical.sourceDisposition = .quarantinedNoOwner)
      (unpromoted : ¬(disposition = .promotedBacklog ∧ a.devTicketId = none))
      (promotionCommandId : Option String)
      (records : t'.historicalRecords = t.historicalRecords.set a.historicalRecordId
        (historical.resolved disposition promotionCommandId))
      (aliases : t'.legacyTaskAliases = (Tables.setAliasDevTicketId c.envelope.organizationId
        historical.sourceTableRowIdentity a.devTicketId t).legacyTaskAliases)
  | reconciled {id : String} {historical : HistoricalRecordRow}
      (found : t.historicalRecords.get id = some historical)
      (unverified : historical.completionGate = some .legacyUnverified)
      (records : t'.historicalRecords = t.historicalRecords.set id historical.reconciled)
      (aliases : t'.legacyTaskAliases = t.legacyTaskAliases)

lemma applied_imports (h : Applied c t command t' r) : ImportChange c t t' := by
  cases h with
  | drafted => exact .kept rfl rfl
  | proposalMoved => exact .kept rfl rfl
  | accepted => exact .kept rfl rfl
  | archived reason found active noDependents dequeued =>
      rw [dequeued.frame]
      exact .kept rfl rfl
  | restored => exact .kept rfl rfl
  | classified => exact .kept rfl rfl
  | duplicate => exact .kept rfl rfl
  | dependencyAdded found foundBlocker distinct new activeDependent activeBlocker noCycle
      dequeued =>
      rw [dequeued.frame]
      exact .kept rfl rfl
  | dependencyRemoved foundEdge activeEdge found foundBlocker activeDependent activeBlocker
      dequeued =>
      rw [dequeued.frame]
      exact .kept rfl rfl
  | reordered =>
      rw [writeRanks_frame]
      exact .kept rfl rfl
  | approved =>
      rw [enqueue_frame]
      exact .kept rfl rfl
  | reimported => exact .kept rfl rfl
  | promoted importable before unpromoted allowed fresh hashed =>
      refine .promoted before unpromoted allowed ?_ ?_ (setAliasDevTicketId_aliases _ _ _ rfl)
      · rw [setAliasDevTicketId_frame]
        exact get_putDevTicket_ne_none t _ _
      · rw [setAliasDevTicketId_frame]
        rfl
  | resolved importable before quarantined leaves unpromoted promotionCommandId =>
      refine .resolved before quarantined unpromoted promotionCommandId ?_
        (setAliasDevTicketId_aliases _ _ _ rfl)
      rw [setAliasDevTicketId_frame]
      rfl
  | imported importable absent freshRecord notPromoted =>
      exact .imported absent freshRecord (fun h => absurd h notPromoted) rfl rfl
  | importedPromoted importable absent freshRecord fresh hashed =>
      exact .imported absent freshRecord (fun _ => get_putDevTicket_ne_none t _ _) rfl rfl
  | reconciled found organizationId workspaceId notPromoted unverified =>
      exact .reconciled found unverified rfl rfl

end Effects

/-! ### The ties of an import -/

/-- The record of an alias has no other alias. -/
lemma ImportTies.alias_eq (h : ImportTies t) (hk : Keyed t) {k k' : String}
    {a b : LegacyTaskAliasRow} (ha : t.legacyTaskAliases.get k = some a)
    (hb : t.legacyTaskAliases.get k' = some b)
    (hid : b.historicalRecordId = a.historicalRecordId) : k' = k := by
  obtain ⟨record, hrecord, hdescribes⟩ := h.record ha
  obtain ⟨record', hrecord', hdescribes'⟩ := h.record hb
  rw [hid, hrecord] at hrecord'
  cases hrecord'
  rw [hk.legacyTaskAliases ha, hk.legacyTaskAliases hb, ← hdescribes.organizationId,
    ← hdescribes.source, ← hdescribes'.organizationId, ← hdescribes'.source]

lemma ImportTies.of_eq (h : ImportTies t)
    (hrecords : t'.historicalRecords = t.historicalRecords)
    (haliases : t'.legacyTaskAliases = t.legacyTaskAliases)
    (htickets : ∀ k, t.devTickets.get k ≠ none → t'.devTickets.get k ≠ none) : ImportTies t' where
  record hget := by
    rw [haliases] at hget
    rw [hrecords]
    exact h.record hget
  ticket hget id hid := by
    rw [haliases] at hget
    exact (h.ticket hget id hid).imp_right (htickets _)
  linked hget := by
    rw [hrecords] at hget
    rw [haliases]
    exact h.linked hget

/-- A rewrite of an alias and its record keeps the ties if the new pair agrees. -/
lemma ImportTies.rewrite (h : ImportTies t) (hk : Keyed t) {k : String}
    {a a' : LegacyTaskAliasRow} {record record' : HistoricalRecordRow}
    (halias : t.legacyTaskAliases.get k = some a)
    (hrecord : t.historicalRecords.get a.historicalRecordId = some record)
    (hrecords : t'.historicalRecords = t.historicalRecords.set a.historicalRecordId record')
    (haliases : ∀ k', t'.legacyTaskAliases.get k' =
      if k' = k then some a' else t.legacyTaskAliases.get k')
    (hid : a'.historicalRecordId = a.historicalRecordId)
    (hidentity : aliasKey record'.organizationId record'.sourceTableRowIdentity =
      aliasKey record.organizationId record.sourceTableRowIdentity)
    (hdescribes : Describes record' a') (hnames : NamesTicket t' a')
    (htickets : ∀ k, t.devTickets.get k ≠ none → t'.devTickets.get k ≠ none) :
    ImportTies t' := by
  refine ⟨fun {k' b} hget => ?_, fun {k' b} hget => ?_, fun {k' row} hget => ?_⟩
  · rw [haliases] at hget
    rw [hrecords]
    split_ifs at hget with hk'
    · cases hget
      exact ⟨record', hid ▸ OrderedMap.get_set_self _ _ _, hdescribes⟩
    · obtain ⟨row, hrow, hrest⟩ := h.record hget
      have hne : b.historicalRecordId ≠ a.historicalRecordId := fun heq =>
        hk' (h.alias_eq hk halias hget heq)
      exact ⟨row, (OrderedMap.get_set_of_ne _ _ hne).trans hrow, hrest⟩
  · rw [haliases] at hget
    split_ifs at hget
    · cases hget
      exact hnames
    · exact fun id hid => (h.ticket hget id hid).imp_right (htickets _)
  · rw [hrecords] at hget
    rcases OrderedMap.get_set_eq_some hget with ⟨rfl, rfl⟩ | ⟨hne, hold⟩
    · obtain ⟨b, hb, hbid⟩ := h.linked hrecord
      refine ⟨a', ?_, hid⟩
      rw [haliases, hidentity, if_pos (h.alias_eq hk halias hb hbid)]
    · obtain ⟨b, hb, hbid⟩ := h.linked hold
      refine ⟨b, ?_, hbid⟩
      rw [haliases, if_neg, hb]
      intro heq
      rw [heq, halias] at hb
      cases hb
      exact hne hbid.symm

/-- The alias a re-import finds is the alias of the record it rewrites. -/
lemma ImportTies.of_before (h : ImportTies t) (hk : Keyed t) {source : LegacyTaskSource}
    {digest : String} {a : LegacyTaskAliasRow} {historical : HistoricalRecordRow}
    (before : ImportedBefore c t source digest a historical) :
    Describes historical a ∧ historical.sourceTableRowIdentity = source.id ∧
      a.legacyTaskId = source.id ∧ a.organizationId = c.envelope.organizationId ∧
      a.workspaceId = c.envelope.workspaceId := by
  obtain ⟨record, hrecord, hdescribes⟩ := h.record before.existing
  rw [before.record] at hrecord
  cases hrecord
  obtain ⟨ho, hid⟩ := aliasKey_injective (hk.legacyTaskAliases before.existing)
  exact ⟨hdescribes, hdescribes.source.trans hid.symm, hid.symm, ho.symm,
    hdescribes.workspaceId.symm.trans before.workspaceId⟩

/-- A first import ties its record, its alias and the ticket of a promotion. -/
lemma importTies_imported (h : ImportTies t) {source : LegacyTaskSource}
    {disposition : SourceDisposition} {digest : String}
    (absent : t.legacyTaskAliases.get (aliasKey c.envelope.organizationId source.id) = none)
    (freshRecord : t.historicalRecords.get c.randomUuid = none)
    (ticket : disposition = .promotedBacklog → t'.devTickets.get (c.key source.id) ≠ none)
    (htickets : ∀ k, t.devTickets.get k ≠ none → t'.devTickets.get k ≠ none)
    (records : t'.historicalRecords =
      t.historicalRecords.set c.randomUuid (importedRecord c source disposition digest))
    (aliases : t'.legacyTaskAliases = t.legacyTaskAliases.set
      (aliasKey c.envelope.organizationId source.id) (importedAlias c source disposition)) :
    ImportTies t' := by
  refine ⟨fun {k a} hget => ?_, fun {k a} hget => ?_, fun {k record} hget => ?_⟩
  · rw [aliases] at hget
    rw [records]
    rcases OrderedMap.get_set_eq_some hget with ⟨-, rfl⟩ | ⟨-, hold⟩
    · refine ⟨_, OrderedMap.get_set_self _ _ _, rfl, rfl, rfl, ?_⟩
      by_cases hpromoted : disposition = .promotedBacklog
      · simp [importedAlias, importedRecord, hpromoted, Tables.InsertHistoricalRecordInput.row]
      · simp [importedAlias, importedRecord, hpromoted, Tables.InsertHistoricalRecordInput.row]
    · obtain ⟨record, hrecord, hdescribes⟩ := h.record hold
      have hne : a.historicalRecordId ≠ c.randomUuid := by
        intro heq
        rw [heq, freshRecord] at hrecord
        cases hrecord
      exact ⟨record, (OrderedMap.get_set_of_ne _ _ hne).trans hrecord, hdescribes⟩
  · rw [aliases] at hget
    intro id hid
    rcases OrderedMap.get_set_eq_some hget with ⟨-, rfl⟩ | ⟨-, hold⟩
    · by_cases hpromoted : disposition = .promotedBacklog
      · rw [importedAlias, if_pos hpromoted] at hid
        cases hid
        exact ⟨rfl, ticket hpromoted⟩
      · rw [importedAlias, if_neg hpromoted] at hid
        cases hid
    · exact (h.ticket hold id hid).imp_right (htickets _)
  · rw [records] at hget
    rw [aliases]
    rcases OrderedMap.get_set_eq_some hget with ⟨rfl, rfl⟩ | ⟨-, hold⟩
    · exact ⟨_, OrderedMap.get_set_self _ _ _, rfl⟩
    · obtain ⟨a, ha, hid⟩ := h.linked hold
      refine ⟨a, (OrderedMap.get_set_of_ne _ _ fun heq => ?_).trans ha, hid⟩
      rw [heq, absent] at ha
      cases ha

/-- Every effect keeps the ties of the imports. -/
lemma importTies_change (h : ImportTies t) (hk : Keyed t)
    (htickets : ∀ k, t.devTickets.get k ≠ none → t'.devTickets.get k ≠ none)
    (hchange : ImportChange c t t') : ImportTies t' := by
  cases hchange with
  | kept records aliases => exact h.of_eq records aliases htickets
  | imported absent freshRecord ticket records aliases =>
      exact importTies_imported h absent freshRecord ticket htickets records aliases
  | promoted before unpromoted allowed ticket records aliases =>
      obtain ⟨hdescribes, hsource, htask, ho, hw⟩ := h.of_before hk before
      rw [hsource, setAliasDevTicketId_of_get before.existing] at aliases
      refine h.rewrite hk before.existing before.record records
        (fun k' => (congrArg (OrderedMap.get · k') aliases).trans (OrderedMap.get_set _ _ _ _))
        rfl rfl
        ⟨hdescribes.organizationId, hdescribes.workspaceId, hdescribes.source, ?_⟩ ?_ htickets
      · exact iff_of_true (Option.some_ne_none _) rfl
      · rintro id hid
        cases hid
        refine ⟨htask.symm, ?_⟩
        rw [ho, hw]
        exact ticket
  | @resolved source disposition digest a historical before quarantined unpromoted
      promotionCommandId records aliases =>
      obtain ⟨hdescribes, hsource, -, -, -⟩ := h.of_before hk before
      -- a quarantined record has no ticket, so the new disposition is no promotion
      have hnone : a.devTicketId = none := by
        by_contra hsome
        have hpromoted := hdescribes.promoted.mp hsome
        rw [quarantined] at hpromoted
        cases hpromoted
      have hnot : disposition ≠ .promotedBacklog := fun heq => unpromoted ⟨heq, hnone⟩
      rw [hsource, setAliasDevTicketId_of_get before.existing] at aliases
      refine h.rewrite hk before.existing before.record records
        (fun k' => (congrArg (OrderedMap.get · k') aliases).trans (OrderedMap.get_set _ _ _ _))
        rfl rfl
        ⟨hdescribes.organizationId, hdescribes.workspaceId, hdescribes.source, ?_⟩ ?_ htickets
      · exact iff_of_false (fun hsome => hsome hnone) hnot
      · intro id hid
        exact absurd (hnone.symm.trans hid) nofun
  | reconciled found unverified records aliases =>
      obtain ⟨a, ha, rfl⟩ := h.linked found
      obtain ⟨record, hrecord, hdescribes⟩ := h.record ha
      rw [found] at hrecord
      cases hrecord
      refine h.rewrite hk ha found records (fun k' => ?_) rfl rfl
        ⟨hdescribes.organizationId, hdescribes.workspaceId, hdescribes.source,
          hdescribes.promoted⟩ (fun id hid => (h.ticket ha id hid).imp_right (htickets _)) htickets
      rw [aliases]
      split_ifs with hk'
      · rw [hk', ha]
      · rfl

/-! ### What the ties say about one task -/

/-- The aliases of a legacy task. -/
def taskAliases (t : Tables) (o : ScopeId) (legacyTaskId : String) : List LegacyTaskAliasRow :=
  t.legacyTaskAliases.values.filter fun a =>
    decide (a.organizationId = o) && decide (a.legacyTaskId = legacyTaskId)

/-- The historical records of a legacy task. -/
def taskRecords (t : Tables) (o : ScopeId) (legacyTaskId : String) : List HistoricalRecordRow :=
  t.historicalRecords.values.filter fun record =>
    decide (record.organizationId = o) && decide (record.sourceTableRowIdentity = legacyTaskId)

/-- The alias points at the one record of its legacy task, and names the ticket of the
task iff the record is promoted. -/
structure ImportTied (t : Tables) (a : LegacyTaskAliasRow) : Prop where
  unique : taskAliases t a.organizationId a.legacyTaskId = [a]
  record : ∃ record, taskRecords t a.organizationId a.legacyTaskId = [record] ∧
    record.historicalRecordId = a.historicalRecordId ∧
    (a.devTicketId ≠ none ↔ record.sourceDisposition = .promotedBacklog)
  ticket : ∀ id, a.devTicketId = some id → id = a.legacyTaskId ∧
    ∃ row, t.devTickets.get (key a.organizationId a.workspaceId id) = some row

lemma ImportTies.tied (h : ImportTies t) (hk : Keyed t) {k : String} {a : LegacyTaskAliasRow}
    (hget : t.legacyTaskAliases.get k = some a) : ImportTied t a where
  unique := by
    refine OrderedMap.filter_values_eq_singleton _ (fun _ _ h => hk.legacyTaskAliases h) hget
      (by simp) fun k' b hb hmatch => ?_
    simp only [Bool.and_eq_true, decide_eq_true_eq] at hmatch
    rw [hk.legacyTaskAliases hb, hmatch.1, hmatch.2, ← hk.legacyTaskAliases hget, hget] at hb
    exact (Option.some.inj hb).symm
  record := by
    obtain ⟨record, hrecord, hdescribes⟩ := h.record hget
    refine ⟨record, ?_, (hk.historicalRecords hrecord).symm, hdescribes.promoted⟩
    refine OrderedMap.filter_values_eq_singleton _ (fun _ _ h => hk.historicalRecords h) hrecord
      (by simp [hdescribes.organizationId, hdescribes.source]) fun k' row hrow hmatch => ?_
    -- the alias of another record of the task would be the same alias
    simp only [Bool.and_eq_true, decide_eq_true_eq] at hmatch
    obtain ⟨b, hb, hid⟩ := h.linked hrow
    rw [hmatch.1, hmatch.2, ← hk.legacyTaskAliases hget, hget] at hb
    obtain rfl := Option.some.inj hb
    rw [← hid, hrecord] at hrow
    exact (Option.some.inj hrow).symm
  ticket id hid := (h.ticket hget id hid).imp_right Option.ne_none_iff_exists'.mp

/-! ### Records over runs -/

/-- An effect keeps a record or moves it. -/
lemma ImportChange.record (h : ImportChange c t t') {k : String} {record : HistoricalRecordRow}
    (hget : t.historicalRecords.get k = some record) :
    ∃ record', t'.historicalRecords.get k = some record' ∧ RecordMoves record record' := by
  have hset : ∀ {id : String} {old new : HistoricalRecordRow},
      t.historicalRecords.get id = some old → RecordMoves old new →
      ∃ record', (t.historicalRecords.set id new).get k = some record' ∧
        RecordMoves record record' := by
    intro id old new hold hmoves
    by_cases hk : k = id
    · subst hk
      rw [hget] at hold
      cases hold
      exact ⟨new, OrderedMap.get_set_self _ _ _, hmoves⟩
    · exact ⟨record, (OrderedMap.get_set_of_ne _ _ hk).trans hget, .refl _⟩
  cases h with
  | kept records => exact ⟨record, records ▸ hget, .refl _⟩
  | imported absent freshRecord ticket records =>
      rw [records]
      have hne : k ≠ c.randomUuid := by
        rintro rfl
        rw [freshRecord] at hget
        cases hget
      exact ⟨record, (OrderedMap.get_set_of_ne _ _ hne).trans hget, .refl _⟩
  | promoted before unpromoted allowed ticket records =>
      rw [records]
      exact hset before.record ⟨rfl, rfl, allowed.symm.imp_left Eq.symm, .inl rfl⟩
  | resolved before quarantined unpromoted promotionCommandId records =>
      rw [records]
      exact hset before.record ⟨rfl, rfl, .inr quarantined, .inl rfl⟩
  | reconciled found unverified records =>
      rw [records]
      exact hset found ⟨rfl, rfl, .inl rfl, .inr ⟨unverified, rfl⟩⟩

section StateMachine

variable [Platform] {r : Recorded} {admissible : World → Call → Prop} {w w' : World} {call : Call}

lemma reachable_importTies (h : Reachable admissible w) : ImportTies w.tables := by
  refine reachable_invariant ?_ (fun t sources ht => ⟨ht.record, ht.ticket, ht.linked⟩)
    (fun c t t₁ ht hstep => ?_) (fun w call t t' r _ hk _ ht happlied => ?_) h
  · exact ⟨fun hget => (by cases hget), fun hget => (by cases hget), fun hget => (by cases hget)⟩
  · exact ht.of_eq hstep.historicalRecords hstep.legacyTaskAliases
      fun k hget => by rwa [hstep.devTickets]
  · exact importTies_change ht hk (fun k hget => (applied_tickets happlied).get_ne_none hget)
      (applied_imports happlied)

/-- One step of a run on a stored record. -/
lemma step_record (hk : Keyed w.tables) (h : Step admissible w w') {k : String}
    {record : HistoricalRecordRow} (hget : w.tables.historicalRecords.get k = some record) :
    ∃ record', w'.tables.historicalRecords.get k = some record' ∧ RecordMoves record record' := by
  cases h with
  | directory => exact ⟨record, hget, .refl _⟩
  | legacySources => exact ⟨record, hget, .refl _⟩
  | call call =>
      obtain ⟨t₁, hlock, heq | ⟨r, happlied⟩⟩ := execute_tables hk call
      · rw [heq, hlock.historicalRecords]
        exact ⟨record, hget, .refl _⟩
      · rw [← hlock.historicalRecords] at hget
        exact (applied_imports happlied).record hget

/-- **A record over a run** stays stored and moves as `RecordMoves` allows. -/
theorem run_record (hk : Keyed w.tables) (hrun : Relation.ReflTransGen (Step admissible) w w')
    {k : String} {record : HistoricalRecordRow}
    (hget : w.tables.historicalRecords.get k = some record) :
    ∃ record', w'.tables.historicalRecords.get k = some record' ∧ RecordMoves record record' := by
  have hboth : Keyed w'.tables ∧ ∃ record', w'.tables.historicalRecords.get k = some record' ∧
      RecordMoves record record' := by
    induction hrun with
    | refl => exact ⟨hk, record, hget, .refl _⟩
    | tail _ hnext ih =>
        obtain ⟨hk₁, record₁, hget₁, hmoves⟩ := ih
        obtain ⟨record₂, hget₂, hmoves'⟩ := step_record hk₁ hnext hget₁
        exact ⟨step_keyed hk₁ hnext, record₂, hget₂, hmoves.trans hmoves'⟩
  exact hboth.2

/-! ### Re-imports -/

/-- The call imports the source, whose legacy task has the record already. -/
def Reimports (w : World) (call : Call) (source : LegacyTaskSource)
    (record : HistoricalRecordRow) : Prop :=
  ∃ input a, call.command = .importLegacyDevTicket input ∧
    w.tables.legacyTaskSources.get input.legacyTaskId = some source ∧
    w.tables.legacyTaskAliases.get (aliasKey call.envelope.organizationId source.id) = some a ∧
    w.tables.historicalRecords.get a.historicalRecordId = some record

/-- `importLegacyDevTicket` of a source whose digest is not the preserved one. -/
lemma importLegacyDevTicket_changed {input : ImportLegacyDevTicketInput}
    {source : LegacyTaskSource} {a : LegacyTaskAliasRow} {record : HistoricalRecordRow}
    (l : Ledger) (hsource : t.legacyTaskSources.get input.legacyTaskId = some source)
    (halias : t.legacyTaskAliases.get (aliasKey c.envelope.organizationId source.id) = some a)
    (hrecord : t.historicalRecords.get a.historicalRecordId = some record)
    (hchanged : legacyDigest source.row ≠ .ok record.preservedPayloadDigest) :
    (∃ code message, importLegacyDevTicket c input t l = reject code message t l) ∨
      ∃ error, legacyDigest source.row = .error error ∧
        importLegacyDevTicket c input t l = throws error t l := by
  rw [importLegacyDevTicket, Tables.selectLegacyTaskSource, hsource]
  dsimp only
  by_cases horg : source.organizationId ≠ c.envelope.organizationId
  · rw [if_pos horg]
    exact .inl ⟨_, _, rfl⟩
  by_cases hworkspace : source.workspaceId ≠ c.envelope.workspaceId
  · rw [if_neg horg, if_pos hworkspace]
    exact .inl ⟨_, _, rfl⟩
  by_cases hstatus : source.status ∉ importableStatuses
  · rw [if_neg horg, if_neg hworkspace, if_pos hstatus]
    exact .inl ⟨_, _, rfl⟩
  rw [if_neg horg, if_neg hworkspace, if_neg hstatus]
  cases hdigest : legacyDigest source.row with
  | error error => exact .inr ⟨error, rfl, rfl⟩
  | ok digest =>
      left
      dsimp only
      rw [Tables.selectLegacyTaskAliasForUpdate, halias]
      dsimp only
      rw [resolveExistingAlias]
      cases hselect : t.selectHistoricalRecordForUpdate c.envelope.organizationId
          c.envelope.workspaceId a.historicalRecordId with
      | none => exact ⟨_, _, rfl⟩
      | some historical =>
          obtain ⟨hget, -, -⟩ := selectHistoricalRecordForUpdate_eq_some.mp hselect
          rw [hrecord] at hget
          cases hget
          dsimp only
          rw [if_pos fun heq => hchanged (hdigest.trans (congrArg _ heq.symm))]
          exact ⟨_, _, rfl⟩

/-- **An import of a changed source** that is not a replay returns no result and writes
nothing; under a new key with a command id of its own it returns an error if the row
has a digest. -/
theorem import_of_changed_source {source : LegacyTaskSource} {record : HistoricalRecordRow}
    (himport : Reimports w call source record)
    (hchanged : legacyDigest source.row ≠ .ok record.preservedPayloadDigest)
    (hnew : ¬Replayed call w) :
    (∀ result, (execute call w).1 ≠ .returned (.ok result)) ∧
      (execute call w).2.tables = w.tables ∧ (execute call w).2.ledger = w.ledger ∧
      (∀ digest, legacyDigest source.row = .ok digest →
        w.receipts.get (receiptKey call.envelope) = none → ownCommandId w call →
        ∃ error, (execute call w).1 = .returned (.error error)) := by
  obtain ⟨input, a, hcommand, hsource, halias, hrecord⟩ := himport
  have hcase := execute_spec call w
  generalize execute call w = answer at hcase
  cases hcase with
  | unauthorized => exact ⟨fun _ hout => (by cases hout), rfl, rfl, fun _ _ _ _ => ⟨_, rfl⟩⟩
  | answered admission reserved =>
      cases reserved with
      | conflict => exact ⟨fun _ hout => (by cases hout), rfl, rfl, fun _ _ _ _ => ⟨_, rfl⟩⟩
      | replayed found same finalized => exact absurd ⟨_, found, finalized⟩ hnew
      | refused opened actor =>
          refine ⟨fun result hout => ?_, rfl, rfl, fun _ _ hkey hown => ?_⟩
          · cases finalizeOrThrow_returned hout
          · exact ⟨_, finalizeOrThrow_new hown hkey rfl rfl _⟩
  | ran =>
      have hbody := importLegacyDevTicket_changed (c := call.context w) w.ledger hsource halias
        hrecord hchanged
      rw [ranWorld, hcommand]
      simp only [Command.body]
      rcases hbody with ⟨code, message, heq⟩ | ⟨error, hdigest, heq⟩
      · rw [heq]
        refine ⟨fun result hout => ?_, rfl, rfl, fun _ _ hkey hown => ?_⟩
        · cases finalizeOrThrow_returned hout
        · exact ⟨_, finalizeOrThrow_new hown hkey rfl rfl _⟩
      · rw [heq]
        refine ⟨fun _ hout => (by cases hout), rfl, rfl, fun digest hok => ?_⟩
        rw [hdigest] at hok
        cases hok

/-- What an accepted import does to a task imported before: nothing, or it moves the
disposition of the record. -/
lemma applied_reimport (hties : ImportTies t) {input : ImportLegacyDevTicketInput}
    {source : LegacyTaskSource} {a : LegacyTaskAliasRow} {record : HistoricalRecordRow}
    (hsource : t.legacyTaskSources.get input.legacyTaskId = some source)
    (halias : t.legacyTaskAliases.get (aliasKey c.envelope.organizationId source.id) = some a)
    (hrecord : t.historicalRecords.get a.historicalRecordId = some record)
    (h : Applied c t (.importLegacyDevTicket input) t' r) :
    (t' = t ∧ r = ⟨0, []⟩) ∨
      ∃ record', t'.historicalRecords.get a.historicalRecordId = some record' ∧
        record'.sourceDisposition ≠ record.sourceDisposition := by
  cases h with
  | proposalMoved found move => cases move
  | reimported => exact .inl ⟨rfl, rfl⟩
  | promoted importable before unpromoted =>
      obtain rfl := Option.some.inj (hsource.symm.trans importable.found)
      obtain rfl := Option.some.inj (halias.symm.trans before.existing)
      obtain rfl := Option.some.inj (hrecord.symm.trans before.record)
      obtain ⟨record', hrecord', hdescribes⟩ := hties.record halias
      obtain rfl := Option.some.inj (hrecord.symm.trans hrecord')
      refine .inr ⟨record.resolved .promotedBacklog (some c.envelope.commandId), ?_,
        fun heq => hdescribes.promoted.mpr heq.symm unpromoted⟩
      rw [setAliasDevTicketId_frame]
      exact OrderedMap.get_set_self _ _ _
  | @resolved _ _ disposition _ _ _ importable before quarantined leaves _ promotionCommandId =>
      obtain rfl := Option.some.inj (hsource.symm.trans importable.found)
      obtain rfl := Option.some.inj (halias.symm.trans before.existing)
      obtain rfl := Option.some.inj (hrecord.symm.trans before.record)
      refine .inr ⟨record.resolved disposition promotionCommandId, ?_,
        fun heq => leaves (heq.trans quarantined)⟩
      rw [setAliasDevTicketId_frame]
      exact OrderedMap.get_set_self _ _ _
  | imported importable absent =>
      obtain rfl := Option.some.inj (hsource.symm.trans importable.found)
      rw [halias] at absent
      cases absent
  | importedPromoted importable absent =>
      obtain rfl := Option.some.inj (hsource.symm.trans importable.found)
      rw [halias] at absent
      cases absent

/-- **A re-import that moves nothing** writes nothing: if the record keeps its
disposition, all the tables but the queue headers and both ledgers are as before. -/
theorem reimport_of_unchanged_record (h : Reachable admissible w) {source : LegacyTaskSource}
    {record record' : HistoricalRecordRow} (himport : Reimports w call source record)
    (hafter : (execute call w).2.tables.historicalRecords.get record.historicalRecordId =
      some record') (hdisposition : record'.sourceDisposition = record.sourceDisposition) :
    (execute call w).2.tables =
        { w.tables with todoQueueHeaders := (execute call w).2.tables.todoQueueHeaders } ∧
      (execute call w).2.ledger = w.ledger := by
  have hk := reachable_keyed h
  obtain ⟨input, a, hcommand, hsource, halias, hrecord⟩ := himport
  have hid : a.historicalRecordId = record.historicalRecordId := hk.historicalRecords hrecord
  obtain ⟨t₁, hlock, ⟨htables, hledger⟩ | ⟨r, happlied, hledger⟩⟩ := execute_effect hk call
  · exact ⟨htables ▸ hlock.frame, hledger⟩
  · have hties : ImportTies t₁ := (reachable_importTies h).of_eq hlock.historicalRecords
      hlock.legacyTaskAliases fun k hget => by rwa [hlock.devTickets]
    have hsources : t₁.legacyTaskSources = w.tables.legacyTaskSources := by rw [hlock.frame]
    rw [hcommand] at happlied
    rcases applied_reimport hties (hsources ▸ hsource) (hlock.legacyTaskAliases ▸ halias)
      (hlock.historicalRecords ▸ hrecord) happlied with ⟨htables, rfl⟩ | ⟨row, hrow, hmoved⟩
    · exact ⟨htables ▸ hlock.frame, hledger.elim id Appended.eq_of_nothing⟩
    · rw [hid, hafter] at hrow
      cases hrow
      exact absurd hdisposition hmoved

/-! ### The state machine in every reachable world -/

/-- **The legacy import state machine** in every reachable world. Every alias is the
only one of its legacy task and tied to its record and its ticket; over every further
run a record moves as `RecordMoves` allows; an import of a changed source is rejected;
and a re-import that keeps disposition and gate of the record writes nothing. -/
theorem legacy_import_state_machine (h : Reachable anyCall w) :
    (∀ k a, w.tables.legacyTaskAliases.get k = some a → ImportTied w.tables a) ∧
    (∀ w' k record, Relation.ReflTransGen (Step anyCall) w w' →
      w.tables.historicalRecords.get k = some record →
      ∃ record', w'.tables.historicalRecords.get k = some record' ∧
        RecordMoves record record') ∧
    ∀ call source record, Reimports w call source record →
      (legacyDigest source.row ≠ .ok record.preservedPayloadDigest → ¬Replayed call w →
        (∀ result, (execute call w).1 ≠ .returned (.ok result)) ∧
          (execute call w).2.tables = w.tables ∧ (execute call w).2.ledger = w.ledger ∧
          (∀ digest, legacyDigest source.row = .ok digest →
            w.receipts.get (receiptKey call.envelope) = none → ownCommandId w call →
            ∃ error, (execute call w).1 = .returned (.error error))) ∧
      ∀ record', (execute call w).2.tables.historicalRecords.get record.historicalRecordId =
          some record' →
        record'.sourceDisposition = record.sourceDisposition →
        record'.completionGate = record.completionGate →
        (execute call w).2.tables = { w.tables with
            todoQueueHeaders := (execute call w).2.tables.todoQueueHeaders } ∧
          (execute call w).2.ledger = w.ledger := by
  have hk := reachable_keyed h
  refine ⟨fun k a hget => (reachable_importTies h).tied hk hget,
    fun w' k record hrun hget => run_record hk hrun hget, fun call source record himport =>
    ⟨fun hchanged hnew => import_of_changed_source himport hchanged hnew,
      fun record' hafter hdisposition _ =>
        reimport_of_unchanged_record h himport hafter hdisposition⟩⟩

end StateMachine

open Sample

/-- A legacy task in progress. -/
def legacyTask : LegacyTaskSource :=
  { id := "task"
    organizationId := organization
    workspaceId := workspace
    status := "in_progress"
    assigneeUserId := none
    cardNumber := 7
    createdAt := 0
    updatedAt := 0
    row := [("id", .string "task"), ("status", .string "in_progress")]
    evidenceRefs := [] }

/-- The sample run that imports the task without an owner, then with one. -/
def importEvents : List Event :=
  [.directory directory, .legacySources (OrderedMap.empty.set "task" legacyTask),
    .call (call "import-1" "importLegacyDevTicket" "task" "r1" []
      (.importLegacyDevTicket ⟨"task", none⟩)),
    .call (call "import-2" "importLegacyDevTicket" "task" "unused" []
      (.importLegacyDevTicket ⟨"task", some "owner"⟩))]

/-- The alias of the imported task names its ticket, and its record is promoted. -/
theorem legacy_import_importEvents :
    ∃ a, (runEvents World.empty importEvents).tables.legacyTaskAliases.get
        (aliasKey organization "task") = some a ∧ a.devTicketId = some "task" ∧
      ImportTied (runEvents World.empty importEvents).tables a := by
  have hpromoted : ((runEvents World.empty importEvents).tables.legacyTaskAliases.get
      (aliasKey organization "task")).map (·.devTicketId) = some (some "task") := by
    decide +kernel
  obtain ⟨a, hget, hticket⟩ := Option.map_eq_some_iff.mp hpromoted
  exact ⟨a, hget, hticket, (legacy_import_state_machine (reachable_runEvents _)).1 _ a hget⟩

end Opzava.DevBoard
