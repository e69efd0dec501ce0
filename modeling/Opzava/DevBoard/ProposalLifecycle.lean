import Opzava.DevBoard.Changes

/-!
The lifecycle of a proposal and its tie to the ticket it becomes.

Seven commands write proposals through one update that overwrites the lifecycle and
the acceptance. `ProposalStep` says what they amount to for one proposal: it stays,
moves along the lifecycle while it is not archived, or changes its archive overlay
only.

* `run_proposal`: over a run the lifecycle moves forward only.
* `ProposalTies`: a proposal is accepted iff it has its ticket, an invariant over both
  tables (`applied_proposalTies`).
* `proposal_lifecycle`: all of it in every reachable world.
-/

namespace Opzava.DevBoard

open Opzava.Library

/-! ### One proposal -/

/-- The moves of the lifecycle. -/
inductive LifecycleMove : ProposalLifecycleState → ProposalLifecycleState → Prop
  | submitted : LifecycleMove .draft .awaitingDecision
  | accepted : LifecycleMove .awaitingDecision .accepted
  | merged : LifecycleMove .awaitingDecision .merged
  | rejected : LifecycleMove .awaitingDecision .rejected

/-- A decided proposal. -/
def ProposalLifecycleState.terminal (s : ProposalLifecycleState) : Prop :=
  s = .accepted ∨ s = .merged ∨ s = .rejected

/-- Lifecycle and acceptance are the same. -/
def SameDecision (p p' : ProposalRow) : Prop :=
  p'.lifecycleState = p.lifecycleState ∧ p'.acceptedCommandId = p.acceptedCommandId ∧
    p'.acceptedDevTicketId = p.acceptedDevTicketId

/-- The command is `archiveProposal` or `restoreProposal`. -/
def Command.isArchiveOverlay : Command → Prop
  | .archiveProposal _ => True
  | .restoreProposal _ => True
  | _ => False

/-- What a command can do to a stored proposal. -/
inductive ProposalStep (command : Command) (p : ProposalRow) : ProposalRow → Prop
  | kept : ProposalStep command p p
  | moved {p' : ProposalRow} (move : LifecycleMove p.lifecycleState p'.lifecycleState)
      (active : p.archivedAt = none) (active' : p'.archivedAt = none)
      (decision : ¬command.isArchiveOverlay) : ProposalStep command p p'
  | overlaid {p' : ProposalRow} (same : SameDecision p p') : ProposalStep command p p'

lemma ProposalMove.step {c : Context} {p : ProposalRow} {command : Command} {id : String}
    {update : ProposalUpdate} {decisions : ℕ}
    (h : ProposalMove c p command id update decisions) :
    ProposalStep command p (p.updated update) := by
  cases h with
  | submit draft active =>
      exact .moved (by rw [draft]; exact .submitted) active active fun h => h
  | merge awaiting active =>
      exact .moved (by rw [awaiting]; exact .merged) active active fun h => h
  | reject awaiting active =>
      exact .moved (by rw [awaiting]; exact .rejected) active active fun h => h
  | archive => exact .overlaid ⟨rfl, rfl, rfl⟩
  | restore => exact .overlaid ⟨rfl, rfl, rfl⟩

lemma LifecycleMove.not_terminal {s s' : ProposalLifecycleState} (h : LifecycleMove s s') :
    ¬s.terminal := by
  cases h <;> simp [ProposalLifecycleState.terminal]

/-- A decided proposal stays as decided. -/
lemma lifecycle_of_terminal {s s' : ProposalLifecycleState} (hs : s.terminal)
    (h : Relation.ReflTransGen LifecycleMove s s') : s' = s := by
  induction h with
  | refl => rfl
  | tail _ hmove ih =>
      rw [ih] at hmove
      exact absurd hs hmove.not_terminal

variable {c : Context} {t t' : Tables} {command : Command} {r : Recorded} {w w' : World}

/-- A stored proposal stays stored. -/
lemma ProposalChange.forward {m : OrderedMap String ProposalRow}
    (h : ProposalChange c t command m) {k : String} {p : ProposalRow}
    (hget : t.proposals.get k = some p) : ∃ p', m.get k = some p' ∧ ProposalStep command p p' := by
  cases h with
  | kept => exact ⟨p, hget, .kept⟩
  | drafted summary assessment contract fresh =>
      have hne : k ≠ c.key c.envelope.targetAggregateId := by
        rintro rfl
        rw [fresh] at hget
        cases hget
      exact ⟨p, (OrderedMap.get_set_of_ne _ _ hne).trans hget, .kept⟩
  | @moved id proposal update decisions found move =>
      by_cases hk : k = c.key id
      · subst hk
        rw [found] at hget
        cases hget
        exact ⟨_, OrderedMap.get_set_self _ _ _, move.step⟩
      · exact ⟨p, (OrderedMap.get_set_of_ne _ _ hk).trans hget, .kept⟩
  | @accepted input proposal command_eq found awaiting active =>
      by_cases hk : k = c.key input.proposalId
      · subst hk
        rw [found] at hget
        cases hget
        subst command_eq
        exact ⟨_, OrderedMap.get_set_self _ _ _,
          .moved (by rw [awaiting]; exact .accepted) active active fun h => h⟩
      · exact ⟨p, (OrderedMap.get_set_of_ne _ _ hk).trans hget, .kept⟩

/-- A proposal that was not stored before is a draft. -/
lemma ProposalChange.new_draft {m : OrderedMap String ProposalRow} (h : ProposalChange c t command m)
    {k : String} {p' : ProposalRow} (hnone : t.proposals.get k = none) (hget : m.get k = some p') :
    p'.lifecycleState = .draft := by
  have habsurd : ∀ {p}, t.proposals.get k = some p → p'.lifecycleState = .draft := by
    intro p hold
    rw [hnone] at hold
    cases hold
  cases h with
  | kept => exact habsurd hget
  | drafted =>
      rcases OrderedMap.get_set_eq_some hget with ⟨-, rfl⟩ | ⟨-, hold⟩
      · rfl
      · exact habsurd hold
  | moved found =>
      rcases OrderedMap.get_set_eq_some hget with ⟨rfl, -⟩ | ⟨-, hold⟩
      · exact habsurd found
      · exact habsurd hold
  | accepted command_eq found =>
      rcases OrderedMap.get_set_eq_some hget with ⟨rfl, -⟩ | ⟨-, hold⟩
      · exact habsurd found
      · exact habsurd hold

/-! ### Decisions -/

/-- The proposal is not accepted and names no ticket. -/
def Unaccepted (p : ProposalRow) : Prop :=
  p.lifecycleState ≠ .accepted ∧ p.acceptedDevTicketId = none ∧ p.acceptedCommandId = none

lemma ProposalMove.decided {p : ProposalRow} {id : String} {update : ProposalUpdate}
    {decisions : ℕ} (h : ProposalMove c p command id update decisions) :
    SameDecision p (p.updated update) ∨
      (p.lifecycleState ≠ .accepted ∧ Unaccepted (p.updated update)) := by
  cases h with
  | submit draft =>
      exact .inr ⟨by rw [draft]; decide, nofun, rfl, rfl⟩
  | merge awaiting =>
      exact .inr ⟨by rw [awaiting]; decide, nofun, rfl, rfl⟩
  | reject awaiting =>
      exact .inr ⟨by rw [awaiting]; decide, nofun, rfl, rfl⟩
  | archive => exact .inl ⟨rfl, rfl, rfl⟩
  | restore => exact .inl ⟨rfl, rfl, rfl⟩

/-- Off `acceptProposal`, a stored proposal has the decision it had, or none. -/
lemma ProposalChange.decided {m : OrderedMap String ProposalRow} (h : ProposalChange c t command m)
    (hcommand : ∀ input, command ≠ .acceptProposal input) {k : String} {p' : ProposalRow}
    (hget : m.get k = some p') :
    (∃ p, t.proposals.get k = some p ∧ SameDecision p p') ∨ Unaccepted p' := by
  cases h with
  | kept => exact .inl ⟨p', hget, rfl, rfl, rfl⟩
  | drafted =>
      rcases OrderedMap.get_set_eq_some hget with ⟨-, rfl⟩ | ⟨-, hold⟩
      · exact .inr ⟨nofun, rfl, rfl⟩
      · exact .inl ⟨p', hold, rfl, rfl, rfl⟩
  | moved found move =>
      rcases OrderedMap.get_set_eq_some hget with ⟨rfl, rfl⟩ | ⟨-, hold⟩
      · exact move.decided.imp (fun hsame => ⟨_, found, hsame⟩) And.right
      · exact .inl ⟨p', hold, rfl, rfl, rfl⟩
  | accepted command_eq => exact absurd command_eq (hcommand _)

/-- Off `acceptProposal`, an accepted proposal keeps its decision. -/
lemma ProposalChange.keeps_accepted {m : OrderedMap String ProposalRow}
    (h : ProposalChange c t command m) (hcommand : ∀ input, command ≠ .acceptProposal input)
    {k : String} {p : ProposalRow} (hget : t.proposals.get k = some p)
    (haccepted : p.lifecycleState = .accepted) : ∃ p', m.get k = some p' ∧ SameDecision p p' := by
  cases h with
  | kept => exact ⟨p, hget, rfl, rfl, rfl⟩
  | drafted summary assessment contract fresh =>
      have hne : k ≠ c.key c.envelope.targetAggregateId := by
        rintro rfl
        rw [fresh] at hget
        cases hget
      exact ⟨p, (OrderedMap.get_set_of_ne _ _ hne).trans hget, rfl, rfl, rfl⟩
  | @moved id proposal update decisions found move =>
      by_cases hk : k = c.key id
      · subst hk
        rw [found] at hget
        cases hget
        refine ⟨_, OrderedMap.get_set_self _ _ _, move.decided.resolve_right ?_⟩
        exact fun hnot => hnot.1 haccepted
      · exact ⟨p, (OrderedMap.get_set_of_ne _ _ hk).trans hget, rfl, rfl, rfl⟩
  | accepted command_eq => exact absurd command_eq (hcommand _)

/-! ### Proposals and their tickets -/

/-- Accepted proposals and the tickets created from them name each other. -/
structure ProposalTies (t : Tables) : Prop where
  accepted : ∀ {k p}, t.proposals.get k = some p → p.lifecycleState = .accepted →
    ∃ id row, p.acceptedDevTicketId = some id ∧ p.acceptedCommandId ≠ none ∧
      t.devTickets.get (key p.organizationId p.workspaceId id) = some row ∧
      row.sourceProposalId = some p.id
  undecided : ∀ {k p}, t.proposals.get k = some p → p.lifecycleState ≠ .accepted →
    p.acceptedDevTicketId = none ∧ p.acceptedCommandId = none
  source : ∀ {k row id}, t.devTickets.get k = some row → row.sourceProposalId = some id →
    ∃ p, t.proposals.get (key row.organizationId row.workspaceId id) = some p ∧
      p.lifecycleState = .accepted ∧ p.acceptedDevTicketId = some row.id

/-- An acceptance ties the proposal to the ticket it creates. -/
lemma proposalTies_accept (h : ProposalTies t) {input : AcceptProposalInput}
    {proposal : ProposalRow} {contract : JsRecord} {hash : String} (hk : Keyed t)
    (found : t.proposals.get (c.key input.proposalId) = some proposal)
    (awaiting : proposal.lifecycleState = .awaitingDecision)
    (fresh : t.devTickets.get (c.key c.randomUuid) = none) :
    ProposalTies ((t.putDevTicket (c.key c.randomUuid)
        (proposalTicket c input contract hash)).putProposal (c.key input.proposalId)
      (proposal.updated (.decision .accepted (some c.envelope.commandId)
        (some c.randomUuid)))) := by
  obtain ⟨ho, hw, hpid⟩ := key_injective (hk.proposals found)
  refine ⟨fun {k p} hget haccepted => ?_, fun {k p} hget hnot => ?_,
    fun {k row id} hget hsource => ?_⟩
  · rcases OrderedMap.get_set_eq_some hget with ⟨-, rfl⟩ | ⟨-, hold⟩
    · refine ⟨c.randomUuid, proposalTicket c input contract hash, rfl, by
        simp [ProposalRow.updated, ProposalUpdate.decision], ?_, ?_⟩
      · show (t.devTickets.set _ _).get (key proposal.organizationId proposal.workspaceId _) = _
        rw [← ho, ← hw]
        exact OrderedMap.get_set_self _ _ _
      · exact congrArg some hpid
    · obtain ⟨id, row, hid, hcommandId, hrow, hsource⟩ := h.accepted hold haccepted
      refine ⟨id, row, hid, hcommandId, ?_, hsource⟩
      refine (OrderedMap.get_set_of_ne _ _ fun heq => ?_).trans hrow
      rw [heq, fresh] at hrow
      cases hrow
  · rcases OrderedMap.get_set_eq_some hget with ⟨-, rfl⟩ | ⟨-, hold⟩
    · exact absurd rfl hnot
    · exact h.undecided hold hnot
  · rcases OrderedMap.get_set_eq_some hget with ⟨-, rfl⟩ | ⟨-, hold⟩
    · obtain rfl : input.proposalId = id := Option.some.inj hsource
      exact ⟨_, OrderedMap.get_set_self _ _ _, rfl, rfl⟩
    · obtain ⟨p, hp, haccepted, hid⟩ := h.source hold hsource
      refine ⟨p, (OrderedMap.get_set_of_ne _ _ fun heq => ?_).trans hp, haccepted, hid⟩
      rw [heq, found] at hp
      cases hp
      rw [awaiting] at haccepted
      cases haccepted

/-- The tickets created from a proposal. -/
def sourceTickets (t : Tables) (p : ProposalRow) : List DevTicketRow :=
  t.devTickets.values.filter fun row => decide (row.organizationId = p.organizationId) &&
    decide (row.workspaceId = p.workspaceId) && decide (row.sourceProposalId = some p.id)

lemma mem_sourceTickets {p : ProposalRow} {row : DevTicketRow} :
    row ∈ sourceTickets t p ↔ (∃ k, t.devTickets.get k = some row) ∧
      row.organizationId = p.organizationId ∧ row.workspaceId = p.workspaceId ∧
      row.sourceProposalId = some p.id := by
  simp only [sourceTickets, List.mem_filter, OrderedMap.mem_values_iff, Bool.and_eq_true,
    decide_eq_true_eq, and_assoc]

/-- The proposal is accepted iff it has exactly one ticket, which it then names;
otherwise it names none. -/
structure ProposalTied (t : Tables) (p : ProposalRow) : Prop where
  accepted_iff : p.lifecycleState = .accepted ↔ (sourceTickets t p).length = 1
  accepted : p.lifecycleState = .accepted → ∃ ticket, sourceTickets t p = [ticket] ∧
    p.acceptedDevTicketId = some ticket.id
  unaccepted : p.lifecycleState ≠ .accepted → sourceTickets t p = [] ∧
    p.acceptedDevTicketId = none ∧ p.acceptedCommandId = none

lemma ProposalTies.sourceTickets_accepted (h : ProposalTies t) (hk : Keyed t) {k : String}
    {p : ProposalRow} (hget : t.proposals.get k = some p)
    (haccepted : p.lifecycleState = .accepted) :
    ∃ ticket, sourceTickets t p = [ticket] ∧ p.acceptedDevTicketId = some ticket.id := by
  obtain ⟨id, row, hid, -, hrow, hsource⟩ := h.accepted hget haccepted
  obtain ⟨ho, hw, hrid⟩ := key_injective (hk.devTickets hrow)
  refine ⟨row, ?_, hid.trans (congrArg some hrid)⟩
  refine OrderedMap.filter_values_eq_singleton _ (fun _ _ hget => hk.devTickets hget) hrow ?_ ?_
  · simp only [← ho, ← hw, hsource, decide_true, Bool.and_self]
  · -- another ticket of the proposal would be named by it as well
    intro k' row' hget' hmatch
    simp only [Bool.and_eq_true, decide_eq_true_eq] at hmatch
    obtain ⟨⟨ho', hw'⟩, hsource'⟩ := hmatch
    obtain ⟨p', hp', -, hid'⟩ := h.source hget' hsource'
    rw [ho', hw', ← hk.proposals hget, hget] at hp'
    cases hp'
    obtain rfl : id = row'.id := Option.some.inj (hid.symm.trans hid')
    rw [hk.devTickets hget', ho', hw', hrow] at hget'
    exact (Option.some.inj hget').symm

lemma ProposalTies.sourceTickets_unaccepted (h : ProposalTies t) (hk : Keyed t) {k : String}
    {p : ProposalRow} (hget : t.proposals.get k = some p)
    (hnot : p.lifecycleState ≠ .accepted) : sourceTickets t p = [] := by
  refine List.eq_nil_iff_forall_not_mem.mpr fun row hrow => hnot ?_
  obtain ⟨⟨k', hget'⟩, ho, hw, hsource⟩ := mem_sourceTickets.mp hrow
  obtain ⟨p', hp', haccepted, -⟩ := h.source hget' hsource
  rw [ho, hw, ← hk.proposals hget, hget] at hp'
  cases hp'
  exact haccepted

lemma ProposalTies.tied (h : ProposalTies t) (hk : Keyed t) {k : String} {p : ProposalRow}
    (hget : t.proposals.get k = some p) : ProposalTied t p where
  accepted_iff := by
    constructor
    · intro haccepted
      obtain ⟨ticket, hlist, -⟩ := h.sourceTickets_accepted hk hget haccepted
      rw [hlist, List.length_singleton]
    · intro hlength
      by_contra hnot
      rw [h.sourceTickets_unaccepted hk hget hnot] at hlength
      cases hlength
  accepted := h.sourceTickets_accepted hk hget
  unaccepted hnot := ⟨h.sourceTickets_unaccepted hk hget hnot, h.undecided hget hnot⟩

section Lifecycle

variable [Platform] {admissible : World → Call → Prop}

/-- One call on a stored proposal. -/
lemma execute_proposal (hk : Keyed w.tables) (call : Call) {k : String} {p : ProposalRow}
    (hget : w.tables.proposals.get k = some p) :
    ∃ p', (execute call w).2.tables.proposals.get k = some p' ∧
      ProposalStep call.command p p' := by
  obtain ⟨t₁, hlock, heq | ⟨r, happlied⟩⟩ := execute_tables hk call
  · rw [heq, hlock.proposals]
    exact ⟨p, hget, .kept⟩
  · rw [← hlock.proposals] at hget
    exact (applied_proposals happlied).forward hget

/-- One step of a run on a stored proposal: it is kept, or a call moves it. -/
lemma step_proposal (hk : Keyed w.tables) (h : Step admissible w w') {k : String}
    {p : ProposalRow} (hget : w.tables.proposals.get k = some p) :
    ∃ p', w'.tables.proposals.get k = some p' ∧
      (p' = p ∨ ∃ call, admissible w call ∧ ProposalStep call.command p p') := by
  cases h with
  | directory => exact ⟨p, hget, .inl rfl⟩
  | legacySources => exact ⟨p, hget, .inl rfl⟩
  | call call hadmissible =>
      obtain ⟨p', hget', hstep⟩ := execute_proposal hk call hget
      exact ⟨p', hget', .inr ⟨call, hadmissible, hstep⟩⟩

/-- A proposal that a step brings is a draft. -/
lemma step_new_proposal (hk : Keyed w.tables) (h : Step admissible w w') {k : String}
    {p' : ProposalRow} (hnone : w.tables.proposals.get k = none)
    (hget : w'.tables.proposals.get k = some p') : p'.lifecycleState = .draft := by
  cases h with
  | directory => rw [hnone] at hget; cases hget
  | legacySources => rw [hnone] at hget; cases hget
  | call call =>
      obtain ⟨t₁, hlock, heq | ⟨r, happlied⟩⟩ := execute_tables hk call
      · rw [heq, hlock.proposals, hnone] at hget
        cases hget
      · rw [← hlock.proposals] at hnone
        exact (applied_proposals happlied).new_draft hnone hget

/-- A relation between rows that every step of a run respects holds over the run. -/
lemma run_proposal {R : ProposalRow → ProposalRow → Prop} (hrefl : ∀ p, R p p)
    (htrans : ∀ p₁ p₂ p₃, R p₁ p₂ → R p₂ p₃ → R p₁ p₃)
    (hstep : ∀ w call p p', admissible w call → ProposalStep call.command p p' → R p p')
    (hk : Keyed w.tables) (hrun : Relation.ReflTransGen (Step admissible) w w') {k : String}
    {p : ProposalRow} (hget : w.tables.proposals.get k = some p) :
    ∃ p', w'.tables.proposals.get k = some p' ∧ R p p' := by
  have hboth : Keyed w'.tables ∧ ∃ p', w'.tables.proposals.get k = some p' ∧ R p p' := by
    induction hrun with
    | refl => exact ⟨hk, p, hget, hrefl p⟩
    | tail _ hnext ih =>
        obtain ⟨hk₁, p₁, hget₁, hrel⟩ := ih
        refine ⟨step_keyed hk₁ hnext, ?_⟩
        obtain ⟨p₂, hget₂, rfl | ⟨call, hadmissible, hcall⟩⟩ := step_proposal hk₁ hnext hget₁
        · exact ⟨_, hget₂, hrel⟩
        · exact ⟨p₂, hget₂, htrans _ _ _ hrel (hstep _ call _ _ hadmissible hcall)⟩
  exact hboth.2

/-! ### Effects on the ties -/

/-- Off `acceptProposal`, tickets appear without a source and keep the one they
have. -/
lemma TicketChange.source {m : OrderedMap String DevTicketRow} (h : TicketChange c t command m)
    (hcommand : ∀ input, command ≠ .acceptProposal input) {k id : String} {row : DevTicketRow}
    (hget : m.get k = some row) (hsource : row.sourceProposalId = some id) :
    ∃ ticket, t.devTickets.get k = some ticket ∧ ticket.sourceProposalId = some id := by
  rcases h.backward hget with hold | ⟨_, -, -, hnew⟩ | ⟨_, ticket, -, hold, hupdate⟩
  · exact ⟨row, hold, hsource⟩
  · cases hnew with
    | proposal => exact absurd rfl (hcommand _)
    | legacy => cases hsource
  · exact ⟨ticket, hold, hupdate.sourceProposalId ▸ hsource⟩

/-- An effect other than an acceptance keeps the ties. -/
lemma proposalTies_of_not_accept (h : ProposalTies t) (hk : Keyed t) (hk' : Keyed t')
    (hcommand : ∀ input, command ≠ .acceptProposal input) (happlied : Applied c t command t' r) :
    ProposalTies t' := by
  have hproposals := applied_proposals happlied
  have htickets := applied_tickets happlied
  refine ⟨fun {k p'} hget haccepted => ?_, fun {k p'} hget hnot => ?_,
    fun {k row id} hget hsource => ?_⟩
  · rcases hproposals.decided hcommand hget with ⟨p, hold, hlife, hcmd, hticket⟩ | hunaccepted
    · obtain ⟨id, row, hid, hcommandId, hrow, hsource⟩ := h.accepted hold (hlife ▸ haccepted)
      obtain ⟨ho, hw, hpid⟩ := key_injective ((hk.proposals hold).symm.trans (hk'.proposals hget))
      rw [ho, hw] at hrow
      rw [hpid] at hsource
      rcases htickets.forward hrow with hkept | ⟨_, row', -, hrow', hupdate⟩
      · exact ⟨id, row, hticket.trans hid, hcmd ▸ hcommandId, hkept, hsource⟩
      · exact ⟨id, row', hticket.trans hid, hcmd ▸ hcommandId, hrow',
          hupdate.sourceProposalId.trans hsource⟩
    · exact absurd haccepted hunaccepted.1
  · rcases hproposals.decided hcommand hget with ⟨p, hold, hlife, hcmd, hticket⟩ | hunaccepted
    · obtain ⟨hid, hcommandId⟩ := h.undecided hold (hlife ▸ hnot)
      exact ⟨hticket.trans hid, hcmd.trans hcommandId⟩
    · exact hunaccepted.2
  · obtain ⟨ticket, hold, hsource'⟩ := htickets.source hcommand hget hsource
    obtain ⟨p, hp, haccepted, hid⟩ := h.source hold hsource'
    obtain ⟨p', hp', hlife, -, hticket⟩ := hproposals.keeps_accepted hcommand hp haccepted
    obtain ⟨ho, hw, hrid⟩ := key_injective ((hk.devTickets hold).symm.trans (hk'.devTickets hget))
    rw [ho, hw] at hp'
    exact ⟨p', hp', hlife.trans haccepted, by rw [hticket, hid, hrid]⟩

/-- Every effect keeps the ties. -/
lemma applied_proposalTies (h : ProposalTies t) (hk : Keyed t)
    (happlied : Applied c t command t' r) : ProposalTies t' := by
  by_cases hcommand : ∃ input, command = .acceptProposal input
  · obtain ⟨input, rfl⟩ := hcommand
    cases happlied with
    | proposalMoved found move => cases move
    | accepted found awaiting active fresh => exact proposalTies_accept h hk found awaiting fresh
  · exact proposalTies_of_not_accept h hk (applied_keyed hk happlied)
      (fun input heq => hcommand ⟨input, heq⟩) happlied

lemma reachable_proposalTies (h : Reachable admissible w) : ProposalTies w.tables := by
  refine reachable_invariant ?_ (fun t sources ht => ⟨ht.accepted, ht.undecided, ht.source⟩)
    (fun c t t₁ ht hstep => ?_)
    (fun w call t t' r _ hk _ ht happlied => applied_proposalTies ht hk happlied) h
  · exact ⟨fun hget => (by cases hget), fun hget => (by cases hget), fun hget => (by cases hget)⟩
  · cases hstep with
    | refl => exact ht
    | created => exact ⟨ht.accepted, ht.undecided, ht.source⟩

/-! ### The lifecycle in every reachable world -/

/-- The call is `archiveProposal` or `restoreProposal`. -/
def archiveOverlayCall (_ : World) (call : Call) : Prop := call.command.isArchiveOverlay

/-- **The lifecycle of proposals** in every reachable world. A step brings proposals as
drafts, and leaves the lifecycle of a stored proposal or moves it on while the
proposal is not archived; over a run it moves forward only and a decision stays;
archiving and restoring keep the decision; and the proposal is tied to its ticket. -/
theorem proposal_lifecycle (h : Reachable anyCall w) :
    (∀ w' k p', Step anyCall w w' → w.tables.proposals.get k = none →
      w'.tables.proposals.get k = some p' → p'.lifecycleState = .draft) ∧
    ∀ k p, w.tables.proposals.get k = some p →
      (∀ w', Step anyCall w w' → ∃ p', w'.tables.proposals.get k = some p' ∧
        (p'.lifecycleState = p.lifecycleState ∨
          LifecycleMove p.lifecycleState p'.lifecycleState ∧ p.archivedAt = none)) ∧
      (∀ w', Relation.ReflTransGen (Step anyCall) w w' →
        ∃ p', w'.tables.proposals.get k = some p' ∧
          Relation.ReflTransGen LifecycleMove p.lifecycleState p'.lifecycleState ∧
          (p.lifecycleState.terminal → p'.lifecycleState = p.lifecycleState)) ∧
      (∀ w', Relation.ReflTransGen (Step archiveOverlayCall) w w' →
        ∃ p', w'.tables.proposals.get k = some p' ∧ SameDecision p p') ∧
      ProposalTied w.tables p := by
  have hk := reachable_keyed h
  refine ⟨fun w' k p' hstep hnone hget => step_new_proposal hk hstep hnone hget, fun k p hget =>
    ⟨fun w' hstep => ?_, fun w' hrun => ?_, fun w' hrun => ?_,
      (reachable_proposalTies h).tied hk hget⟩⟩
  · obtain ⟨p', hget', rfl | ⟨call, -, hstep⟩⟩ := step_proposal hk hstep hget
    · exact ⟨_, hget', .inl rfl⟩
    · cases hstep with
      | kept => exact ⟨p, hget', .inl rfl⟩
      | moved move active => exact ⟨p', hget', .inr ⟨move, active⟩⟩
      | overlaid same => exact ⟨p', hget', .inl same.1⟩
  · obtain ⟨p', hget', hforward⟩ := run_proposal
      (R := fun p p' => Relation.ReflTransGen LifecycleMove p.lifecycleState p'.lifecycleState)
      (fun p => .refl) (fun _ _ _ h₁ h₂ => h₁.trans h₂)
      (fun _ call p p' _ hstep => by
        cases hstep with
        | kept => exact .refl
        | moved move => exact .single move
        | overlaid same =>
            rw [same.1]) hk hrun hget
    exact ⟨p', hget', hforward, fun hterminal => lifecycle_of_terminal hterminal hforward⟩
  · exact run_proposal (R := SameDecision) (fun p => ⟨rfl, rfl, rfl⟩)
      (fun _ _ _ h₁ h₂ => ⟨h₂.1.trans h₁.1, h₂.2.1.trans h₁.2.1, h₂.2.2.trans h₁.2.2⟩)
      (fun _ call p p' hoverlay hstep => by
        cases hstep with
        | kept => exact ⟨rfl, rfl, rfl⟩
        | moved _ _ _ decision => exact absurd hoverlay decision
        | overlaid same => exact same) hk hrun hget

end Lifecycle

open Sample

/-- The accepted sample proposal is tied to its ticket. -/
theorem proposal_lifecycle_newTicket :
    ∃ p, (runEvents World.empty (.directory directory :: newTicket "p1" "t1")).tables.proposals.get
        (key organization workspace "p1") = some p ∧ p.lifecycleState = .accepted ∧
      ProposalTied (runEvents World.empty (.directory directory :: newTicket "p1" "t1")).tables
        p := by
  have haccepted : ((runEvents World.empty
      (.directory directory :: newTicket "p1" "t1")).tables.proposals.get
        (key organization workspace "p1")).map (·.lifecycleState) = some .accepted := by
    decide
  obtain ⟨p, hget, hstate⟩ := Option.map_eq_some_iff.mp haccepted
  exact ⟨p, hget, hstate, ((proposal_lifecycle (reachable_runEvents _)).2 _ p hget).2.2.2⟩

end Opzava.DevBoard
