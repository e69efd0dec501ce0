import Opzava.DevBoard.Changes
import Opzava.DevBoard.Coherence

/-!
When a command touches an archived ticket.

Every command that updates a ticket refuses an archived one, except
`restoreDevTicket`, whose business it is, and `setDevTicketClassification`, which
looks at the lane only: an archived ticket rests in Backlog and passes.

* `classifiedContent_hashes`: the contract of a classified ticket can be hashed, so
  a classification that passes its guards does write.
* `archived_frozen_iff`: a call other than `restoreDevTicket` leaves the archived
  tickets alone exactly when it does not classify one of them.
-/

namespace Opzava.DevBoard

open Opzava.Library

/-! ### Contracts that can be hashed -/

section Serializable

/-- The value has a canonical text. -/
def Serializable (value : JsValue) : Prop := ∃ text, canonicalJson value = .ok text

/-- All fields of the record have a canonical text. -/
def SerializableFields (record : JsRecord) : Prop := ∃ texts, canonicalFields record = .ok texts

lemma serializable_object {fields : JsRecord} :
    Serializable (.object fields) ↔ SerializableFields fields := by
  rw [Serializable, SerializableFields, canonicalJson]
  cases canonicalFields fields with
  | error error => simp [bind, Except.bind]
  | ok texts => simp [bind, Except.bind, pure, Except.pure]

lemma serializableFields_nil : SerializableFields [] := ⟨[], by rw [canonicalFields]⟩

lemma serializableFields_cons {name : String} {value : JsValue} {rest : JsRecord} :
    SerializableFields ((name, value) :: rest) ↔ Serializable value ∧ SerializableFields rest := by
  rw [SerializableFields, Serializable, SerializableFields, canonicalFields, canonicalField]
  cases canonicalJson value with
  | error error => simp [bind, Except.bind]
  | ok text =>
      cases canonicalFields rest with
      | error error => simp [bind, Except.bind, pure, Except.pure]
      | ok texts => simp [bind, Except.bind, pure, Except.pure]

lemma serializableFields_write {name : String} {value : JsValue} (hvalue : Serializable value) :
    ∀ {record : JsRecord}, SerializableFields record →
      SerializableFields (record.write name value)
  | [], _ => serializableFields_cons.mpr ⟨hvalue, serializableFields_nil⟩
  | (name', value') :: rest, h => by
      obtain ⟨hvalue', hrest⟩ := serializableFields_cons.mp h
      rw [JsRecord.write]
      split_ifs
      · exact serializableFields_cons.mpr ⟨hvalue, hrest⟩
      · exact serializableFields_cons.mpr ⟨hvalue', serializableFields_write hvalue hrest⟩

lemma serializable_string (s : String) : Serializable (.string s) := ⟨_, by rw [canonicalJson]⟩

lemma serializable_boolean (b : Bool) : Serializable (.boolean b) := ⟨_, by rw [canonicalJson]⟩

lemma serializable_strings (texts : List String) : Serializable (.array (texts.map .string)) := by
  have hitems : ∃ items, canonicalItems (texts.map .string) = .ok items := by
    induction texts with
    | nil => exact ⟨[], by rw [List.map_nil, canonicalItems]⟩
    | cons text rest ih =>
        obtain ⟨items, hitems⟩ := ih
        exact ⟨jsonString text :: items, by
          rw [List.map_cons, canonicalItems, canonicalJson, hitems]; rfl⟩
  obtain ⟨items, hitems⟩ := hitems
  exact ⟨_, by rw [canonicalJson, hitems]; rfl⟩

lemma serializable_workAreas (areas : List WorkArea) : Serializable (workAreasValue areas) := by
  have h := serializable_strings (areas.map (·.text))
  rwa [List.map_map] at h

lemma serializable_evaluation (evaluation : ChangeRiskEvaluation) :
    Serializable evaluation.toValue := by
  refine serializable_object.mpr ?_
  simp only [serializableFields_cons, serializable_object, serializable_string,
    serializable_workAreas, serializable_boolean, serializable_strings, serializableFields_nil,
    and_self]

lemma serializable_classification (p : ParsedClassification) :
    Serializable (.object p.toValue) := by
  rw [ParsedClassification.toValue, classificationValue]
  cases p.severity with
  | none =>
      simp only [severityField, List.append_nil, List.cons_append, List.nil_append,
        serializableFields_cons, serializable_object, serializable_string, serializable_workAreas,
        serializableFields_nil, and_self]
  | some severity =>
      simp only [severityField, List.cons_append, List.nil_append, serializableFields_cons,
        serializable_object, serializable_string, serializable_workAreas, serializableFields_nil,
        and_self]

variable [Platform]

lemma hash_eq_ok_iff {content : JsRecord} :
    (∃ hash, computeReadyContractContentHash content = .ok hash) ↔ SerializableFields content := by
  rw [← serializable_object, Serializable, computeReadyContractContentHash]
  cases canonicalJson (.object content) with
  | error error => simp [bind, Except.bind]
  | ok text => simp [bind, Except.bind, pure, Except.pure]

/-- The contract of a classified ticket can be hashed if the old one could. -/
lemma classifiedContent_hashes {ticket : DevTicketRow} {hash : String}
    (h : computeReadyContractContentHash ticket.readyContractContent = .ok hash) (owner : String)
    (p : ParsedClassification) (evaluation : ChangeRiskEvaluation) :
    ∃ hash', computeReadyContractContentHash (classifiedContent ticket owner p evaluation) =
      .ok hash' := by
  rw [hash_eq_ok_iff, classifiedContent]
  exact serializableFields_write (serializable_evaluation evaluation)
    (serializableFields_write (serializable_classification p)
      (serializableFields_write (serializable_string owner) (hash_eq_ok_iff.mp ⟨hash, h⟩)))

end Serializable

/-! ### Classification -/

variable {c : Context} {t : Tables}

/-- A risky compare-and-set on a ticket at its stored version writes the ticket. -/
lemma executeRiskyMutation_casDevTicket {o ws : ScopeId} {id : String} {ticket : DevTicketRow}
    (admissible : DevTicketRow → Bool) (change : DevTicketRow → DevTicketRow)
    (hget : t.devTickets.get (key o ws id) = some ticket) (hadmissible : admissible ticket = true) :
    executeRiskyMutation (orNull (Tables.casDevTicket o ws id ticket.version admissible change)) t =
      (.value (some (change ticket)), t.putDevTicket (key o ws id) (change ticket)) :=
  executeRiskyMutation_of_ok (orNull_eq_some.mpr (Tables.casDevTicket_eq_some.mpr
    ⟨ticket, hget, rfl, hadmissible, rfl, rfl⟩))

section Freeze

variable [Platform] {w : World} {call : Call}

/-- `setDevTicketClassification` without the expected ticket writes nothing. -/
lemma setDevTicketClassification_none {input : SetDevTicketClassificationInput} (l : Ledger)
    (h : devTicketAtExpectedVersion t c.envelope input.devTicketId = none) :
    (setDevTicketClassification c input t l).tables = t := by
  rw [setDevTicketClassification, h]
  rfl

/-- `setDevTicketClassification` that passes its guards writes the ticket, archived or
not. -/
lemma setDevTicketClassification_writes (hk : Keyed t) {input : SetDevTicketClassificationInput}
    {ticket : DevTicketRow} {p : ParsedClassification} {owner hash : String} (l : Ledger)
    (hticket : devTicketAtExpectedVersion t c.envelope input.devTicketId = some ticket)
    (checks : ClassificationChecks c t input ticket p owner)
    (hhash : computeReadyContractContentHash ticket.readyContractContent = .ok hash) :
    ∃ row, (setDevTicketClassification c input t l).tables.devTickets.get
        (c.key input.devTicketId) = some row ∧ row.version = ticket.version + 1 := by
  have hget := devTicketAtExpectedVersion_eq_some hticket
  have hid := hk.devTicket_id hget
  obtain ⟨hash', hhash'⟩ := classifiedContent_hashes hhash owner p
    (classificationEvaluation c t input.devTicketId p)
  refine ⟨ticket.classified (p.toUpdate owner (classificationEvaluation c t input.devTicketId p)
    (classifiedContent ticket owner p (classificationEvaluation c t input.devTicketId p)) hash'),
    ?_, rfl⟩
  have hrisky := executeRiskyMutation_casDevTicket (fun _ => true) (·.classified (p.toUpdate owner
    (classificationEvaluation c t input.devTicketId p) (classifiedContent ticket owner p
      (classificationEvaluation c t input.devTicketId p)) hash')) (hid ▸ hget) rfl
  have hfloor := checks.floor
  have hchanged := checks.changed
  rw [classificationEvaluation, ← hid] at *
  rw [setDevTicketClassification, hticket]
  dsimp only
  rw [if_neg (not_not.mpr checks.backlog), checks.parsed]
  dsimp only
  rw [← checks.owner_eq, if_neg checks.severity, if_neg checks.member,
    if_neg (not_lt.mpr hfloor), if_neg (by rw [hchanged]; exact Bool.false_ne_true), hhash']
  dsimp only
  rw [risky, Tables.updateDevTicketClassification, hrisky]
  dsimp only
  rw [planned_tables]
  · exact OrderedMap.get_set_self _ _ _
  · exact fun _ => rfl

/-! ### Archived tickets -/

/-- The call classifies an archived ticket: its receipt is open and its actor valid,
it names an archived ticket at its version, and the classification passes the guards
of the command. -/
def ClassifiesArchived (w : World) (call : Call) : Prop :=
  ∃ input ticket p, call.command = .setDevTicketClassification input ∧
    Opened call.envelope w.receipts ∧
    (∀ error, parseCommandActorRef call.envelope.actorRef ≠ .error error) ∧
    devTicketAtExpectedVersion w.tables call.envelope input.devTicketId = some ticket ∧
    ticket.archivedAt ≠ none ∧
    ClassificationChecks (call.context w) w.tables input ticket p
      (input.humanOwnerUserId.getD ticket.humanOwnerUserId)

/-- A call that classifies an archived ticket moves its version on. -/
lemma classifiesArchived_writes (hk : Keyed w.tables) (hcoherent : TodoCoherent w.tables)
    (h : ClassifiesArchived w call) :
    ∃ k ticket row, w.tables.devTickets.get k = some ticket ∧ ticket.archivedAt ≠ none ∧
      (execute call w).2.tables.devTickets.get k = some row ∧
      row.version = ticket.version + 1 := by
  obtain ⟨input, ticket, p, hcommand, hopened, hactor, hticket, harchived, checks⟩ := h
  have hget := devTicketAtExpectedVersion_eq_some hticket
  obtain ⟨row, hrow, hversion⟩ := setDevTicketClassification_writes (c := call.context w) hk
    w.ledger hticket checks (hcoherent.rows hget).hashed
  refine ⟨_, ticket, row, hget, harchived, ?_, hversion⟩
  rw [execute_opened (by rw [hcommand]; rfl) hopened hactor, ranWorld]
  dsimp only
  rw [hcommand]
  exact hrow

/-- The guards of a classification do not see the header of the queue. -/
lemma ClassificationChecks.of_headerStep {t' : Tables} (hlock : HeaderStep c t t')
    {input : SetDevTicketClassificationInput} {ticket : DevTicketRow} {p : ParsedClassification}
    {owner : String} (h : ClassificationChecks c t' input ticket p owner) :
    ClassificationChecks c t input ticket p owner := by
  have hevaluation : classificationEvaluation c t' input.devTicketId p =
      classificationEvaluation c t input.devTicketId p := by
    rw [classificationEvaluation, hlock.hasActiveDependencies, classificationEvaluation]
  exact { h with floor := hevaluation ▸ h.floor, changed := hevaluation ▸ h.changed }

/-- A call that runs `setDevTicketClassification` and changes a ticket names it at its
expected version. -/
lemma execute_classification_expected {input : SetDevTicketClassificationInput}
    (hcommand : call.command = .setDevTicketClassification input)
    (hchanged : (execute call w).2.tables ≠ w.tables) :
    Opened call.envelope w.receipts ∧
      (∀ error, parseCommandActorRef call.envelope.actorRef ≠ .error error) ∧
      ∃ ticket, devTicketAtExpectedVersion w.tables call.envelope input.devTicketId =
        some ticket := by
  have hcase := execute_spec call w
  generalize execute call w = answer at hcase hchanged
  cases hcase with
  | unauthorized => exact absurd rfl hchanged
  | answered => exact absurd rfl hchanged
  | ran admission opened actor =>
      refine ⟨opened, actor, Option.ne_none_iff_exists'.mp fun hnone => hchanged ?_⟩
      rw [ranWorld]
      dsimp only
      rw [hcommand]
      exact setDevTicketClassification_none w.ledger hnone

/-- **When archived tickets are frozen**: a call other than `restoreDevTicket` leaves
every archived ticket as it is exactly when it does not classify an archived ticket. -/
theorem archived_frozen_iff (h : Reachable anyCall w) (call : Call)
    (hrestore : ∀ id, call.command ≠ .restoreDevTicket id) :
    (∀ k ticket, w.tables.devTickets.get k = some ticket → ticket.archivedAt ≠ none →
        (execute call w).2.tables.devTickets.get k = some ticket) ↔
      ¬ClassifiesArchived w call := by
  have hk := reachable_keyed h
  constructor
  · intro hfrozen hclassifies
    obtain ⟨k, ticket, row, hget, harchived, hrow, hversion⟩ :=
      classifiesArchived_writes hk (reachable_todoCoherent h) hclassifies
    rw [hfrozen k ticket hget harchived] at hrow
    cases hrow
    omega
  · intro hnot k ticket hget harchived
    by_contra hmoved
    have hchanged : (execute call w).2.tables ≠ w.tables := fun heq => hmoved (heq ▸ hget)
    obtain ⟨t₁, hlock, heq | ⟨r, happlied⟩⟩ := execute_tables hk call
    · rw [heq, hlock.devTickets] at hmoved
      exact hmoved hget
    · have hget₁ := hget
      rw [← hlock.devTickets] at hget₁
      rcases (applied_tickets happlied).forward hget₁ with hkept | ⟨id, row, rfl, -, hupdate⟩
      · exact hmoved hkept
      · generalize hcommand : call.command = command at hupdate hrestore
        cases hupdate with
        | archived reason active => exact harchived active
        | restored => exact hrestore _ rfl
        | dependencyChanged active => exact harchived active
        | reordered todo =>
            have hlane := ((reachable_todoCoherent h).rows hget).archived
              (Option.isSome_iff_ne_none.mpr harchived)
            rw [todo] at hlane
            cases hlane
        | approved checks => exact harchived checks.active
        | @classified input ticket p owner hash checks =>
            obtain ⟨hopened, hactor, ticket', hticket⟩ :=
              execute_classification_expected hcommand hchanged
            obtain rfl : ticket' = ticket :=
              Option.some.inj ((devTicketAtExpectedVersion_eq_some hticket).symm.trans hget)
            have hchecks := checks.of_headerStep hlock
            rw [checks.owner_eq] at hchecks
            exact hnot ⟨input, ticket', p, hcommand, hopened, hactor, hticket, harchived, hchecks⟩

end Freeze

open Sample

/-- The sample run up to one archived ticket. -/
def archivedEvents : List Event :=
  .directory directory :: newTicket "p1" "t1" ++ [.call (archiveCall "t1" 1)]

/-- Archiving the sample ticket once more leaves it, since that call classifies nothing. -/
theorem archived_frozen_archivedEvents :
    ∃ ticket, (runEvents World.empty archivedEvents).tables.devTickets.get
        (key organization workspace "t1") = some ticket ∧ ticket.archivedAt ≠ none ∧
      (execute (archiveCall "t1" 2)
        (runEvents World.empty archivedEvents)).2.tables.devTickets.get
          (key organization workspace "t1") = some ticket := by
  have harchived : ((runEvents World.empty archivedEvents).tables.devTickets.get
      (key organization workspace "t1")).map (·.archivedAt) = some (some 0) := by decide
  obtain ⟨ticket, hget, hticket⟩ := Option.map_eq_some_iff.mp harchived
  have hsome : ticket.archivedAt ≠ none := by
    rw [hticket]
    exact Option.some_ne_none _
  have hfrozen := (archived_frozen_iff (reachable_runEvents archivedEvents) (archiveCall "t1" 2)
    nofun).mpr fun ⟨_, _, _, hcommand, _⟩ => nomatch hcommand
  exact ⟨ticket, hget, hsome, hfrozen _ ticket hget hsome⟩

/-- Classifying the sample ticket after it has been archived rewrites its row. -/
theorem archived_ticket_classified :
    ¬∀ w call, Reachable anyCall w → (∀ id, call.command ≠ .restoreDevTicket id) →
      ∀ k ticket, w.tables.devTickets.get k = some ticket → ticket.archivedAt ≠ none →
        (execute call w).2.tables.devTickets.get k = some ticket := by
  intro h
  let w := runEvents World.empty archivedEvents
  have hbefore : (w.tables.devTickets.get (key organization workspace "t1")).map
      (fun ticket => (ticket.version, ticket.archivedAt)) = some (2, some 0) := by decide
  have hafter : ((execute (classifyCall "t1" 2) w).2.tables.devTickets.get
      (key organization workspace "t1")).map (·.version) = some 3 := by decide
  obtain ⟨ticket, hget, hticket⟩ := Option.map_eq_some_iff.mp hbefore
  simp only [Prod.mk.injEq] at hticket
  rw [h w (classifyCall "t1" 2) (reachable_runEvents _) nofun _ ticket hget
    (by rw [hticket.2]; exact Option.some_ne_none _), Option.map_some, hticket.1] at hafter
  cases hafter

end Opzava.DevBoard
