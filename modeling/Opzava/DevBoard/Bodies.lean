import Opzava.DevBoard.Specs

/-!
Every command body ends as `Ends` says: one lemma a command, and `body_ends` for
all of them.

The bodies are sequences of guards, each a `reject` when it fails, around at most
one mutation. `Ends.ite`, `Ends.risky`, `Ends.riskyOrDrift` and `Ends.planned`
walk through the sequence; what is left of each command is to read its mutation
back as one constructor of `Applied`. `Keyed` makes the row ids agree with the
ids of the input.
-/

namespace Opzava.DevBoard

open Opzava.Library

variable {c : Context} {t₀ t t' : Tables}

variable [Platform] {command : Command} {l₀ l : Ledger}

/-! ### Walking through a body -/

lemma Ends.reject {code message : String} (h : HeaderStep c t₀ t) :
    Ends c command t₀ l (DevBoard.reject code message t l) :=
  .rejected h (by simp)

lemma Ends.rejectError {error : DomainError} (h : HeaderStep c t₀ t) :
    Ends c command t₀ l (DevBoard.rejectError error t l) :=
  .reject h

lemma Ends.ite {p : Prop} [Decidable p] {a b : Exit} (ha : p → Ends c command t₀ l₀ a)
    (hb : ¬p → Ends c command t₀ l₀ b) : Ends c command t₀ l₀ (if p then a else b) := by
  split_ifs with h
  · exact ha h
  · exact hb h

/-- A risky mutation is rolled back or goes on from the tables it leaves. -/
lemma Ends.risky {α : Type} {mutation : Mutation α} {next : α → Tables → Exit}
    (h : HeaderStep c t₀ t)
    (hnext : ∀ a t', mutation t = .ok a t' → Ends c command t₀ l (next a t')) :
    Ends c command t₀ l (DevBoard.risky mutation t l next) := by
  rw [DevBoard.risky]
  rcases executeRiskyMutation_cases mutation t with ⟨a, t', hm, heq⟩ | ⟨error, heq⟩ | ⟨error, heq⟩
  · rw [heq]
    exact hnext a t' hm
  · rw [heq]
    exact .rejectError h
  · rw [heq]
    exact .threw h

/-- A risky compare-and-set answers nothing and writes nothing, or its row. -/
lemma Ends.riskyOrNull {α : Type} {f : Tables → Option (α × Tables)}
    {next : Option α → Tables → Exit} (h : HeaderStep c t₀ t)
    (hnone : Ends c command t₀ l (next none t))
    (hsome : ∀ a t', f t = some (a, t') → Ends c command t₀ l (next (some a) t')) :
    Ends c command t₀ l (DevBoard.risky (orNull f) t l next) := by
  refine .risky h fun result t' hm => ?_
  cases result with
  | none =>
      obtain ⟨-, rfl⟩ := orNull_eq_none.mp hm
      exact hnone
  | some a => exact hsome a t' (orNull_eq_some.mp hm)

lemma Ends.riskyOrDrift {α : Type} {drift : String} {mutation : Mutation α}
    {next : α → Tables → Exit} (h : HeaderStep c t₀ t)
    (hnext : ∀ a t', mutation t = .ok a t' → Ends c command t₀ l (next a t')) :
    Ends c command t₀ l (DevBoard.riskyOrDrift drift mutation t l next) := by
  rw [DevBoard.riskyOrDrift]
  rcases executeRiskyMutation_cases mutation t with ⟨a, t', hm, heq⟩ | ⟨error, heq⟩ | ⟨error, heq⟩
  · rw [heq]
    exact hnext a t' hm
  · rw [heq]
    exact .rejectError h
  · rw [heq]
    exact .ite (fun _ => .reject h) fun _ => .threw h

/-- After the effect, a planning decision either throws or is recorded. -/
lemma Ends.planned {appended : Except Thrown Ledger} {next : Ledger → Exit} {t₁ : Tables}
    {r : Recorded} (h : HeaderStep c t₀ t₁) (applied : Applied c t₁ command t r)
    (hnext : ∀ l', appended = .ok l' → Ends c command t₀ l (next l')) :
    Ends c command t₀ l (DevBoard.planned appended t l next) := by
  cases appended with
  | error error => exact .threwAfter h applied
  | ok l' => exact hnext l' rfl

/-! ### Proposals -/

lemma draftProposal_ends (input : DraftProposalInput) :
    Ends c (.draftProposal input) t l (draftProposal c input t l) := by
  rw [draftProposal]
  cases normalizeDiscoverySummary input.discoverySummary with
  | error error => exact .rejectError .refl
  | ok summary =>
  cases parseBlockingAssessment input.blockingAssessment with
  | error error => exact .rejectError .refl
  | ok assessment =>
  cases parseReadyContractContent (orEmptyObject input.suggestedContract) with
  | error error => exact .rejectError .refl
  | ok contract =>
  refine .risky .refl fun proposal t' hm => ?_
  have hinsert := orThrow_eq_ok.mp hm
  rw [Tables.insertProposal] at hinsert
  split_ifs at hinsert with hhas
  cases hinsert
  have happlied : Applied c t (.draftProposal input) _ _ :=
    .drafted summary assessment contract
      (OrderedMap.has_eq_false.mp (Bool.eq_false_iff.mpr hhas))
  refine .planned .refl happlied fun l' hl => ?_
  exact .accepted .refl happlied (.of_planning hl)

lemma submitProposal_ends (hk : Keyed t) (id : String) :
    Ends c (.submitProposal id) t l (submitProposal c id t l) := by
  rw [submitProposal]
  cases hp : proposalAtExpectedVersion t c.envelope id with
  | none => exact .reject .refl
  | some proposal =>
  have hget := proposalAtExpectedVersion_eq_some hp
  obtain rfl := hk.proposal_id hget
  refine .ite (fun _ => .reject .refl) fun hguard => ?_
  rw [not_or, not_not] at hguard
  refine .riskyOrNull .refl (.reject .refl) fun updated t' hu => ?_
  obtain ⟨rfl, rfl⟩ := updateProposal_eq_some hu hget
  exact .accepted .refl
    (.proposalMoved hget (.submit hguard.1 (isNone_of_not_isSome hguard.2)))
    ((Appended.refl _ _).activity _ _ _ _ _)

lemma decideProposal_ends (hk : Keyed t) (input : ProposalReasonInput)
    {state : ProposalLifecycleState} {eventName outcomeCode subject : String}
    (hmove : ∀ proposal : ProposalRow, proposal.lifecycleState = .awaitingDecision →
      proposal.archivedAt = none →
      ProposalMove c proposal command input.proposalId (.decision state none none) 1) :
    Ends c command t l (decideProposal c input state eventName outcomeCode subject t l) := by
  obtain ⟨id, text⟩ := input
  rw [decideProposal]
  cases decisionReason text with
  | error error => exact .rejectError .refl
  | ok reason =>
  cases hp : proposalAtExpectedVersion t c.envelope id with
  | none => exact .reject .refl
  | some proposal =>
  have hget := proposalAtExpectedVersion_eq_some hp
  obtain rfl := hk.proposal_id hget
  refine .ite (fun _ => .reject .refl) fun hguard => ?_
  rw [not_or, not_not] at hguard
  refine .riskyOrNull .refl (.reject .refl) fun updated t' hu => ?_
  obtain ⟨rfl, rfl⟩ := updateProposal_eq_some hu hget
  have happlied : Applied c t command _ _ :=
    .proposalMoved hget (hmove proposal hguard.1 (isNone_of_not_isSome hguard.2))
  refine .planned .refl happlied fun l' hl => ?_
  exact .accepted .refl happlied ((Appended.of_planning hl).activity _ _ _ _ _)

lemma rejectProposal_ends (hk : Keyed t) (input : ProposalReasonInput) :
    Ends c (.rejectProposal input) t l (rejectProposal c input t l) :=
  decideProposal_ends hk input fun _ => .reject

lemma archiveProposal_ends (hk : Keyed t) (input : ProposalReasonInput) :
    Ends c (.archiveProposal input) t l (archiveProposal c input t l) := by
  obtain ⟨id, text⟩ := input
  rw [archiveProposal]
  cases decisionReason text with
  | error error => exact .rejectError .refl
  | ok reason =>
  cases hp : proposalAtExpectedVersion t c.envelope id with
  | none => exact .reject .refl
  | some proposal =>
  have hget := proposalAtExpectedVersion_eq_some hp
  obtain rfl := hk.proposal_id hget
  refine .ite (fun _ => .reject .refl) fun hactive => .ite (fun _ => .reject .refl) fun _ => ?_
  refine .riskyOrNull .refl (.reject .refl) fun updated t' hu => ?_
  obtain ⟨rfl, rfl⟩ := updateProposal_eq_some hu hget
  have happlied : Applied c t (.archiveProposal ⟨proposal.id, text⟩) _ _ :=
    .proposalMoved hget (.archive reason (isNone_of_not_isSome hactive))
  refine .planned .refl happlied fun l' hl => ?_
  exact .accepted .refl happlied ((Appended.of_planning hl).activity _ _ _ _ _)

lemma restoreProposal_ends (hk : Keyed t) (id : String) :
    Ends c (.restoreProposal id) t l (restoreProposal c id t l) := by
  rw [restoreProposal]
  cases hp : proposalAtExpectedVersion t c.envelope id with
  | none => exact .reject .refl
  | some proposal =>
  have hget := proposalAtExpectedVersion_eq_some hp
  obtain rfl := hk.proposal_id hget
  refine .ite (fun _ => .reject .refl) fun harchived => .ite (fun _ => .reject .refl) fun _ => ?_
  refine .riskyOrNull .refl (.reject .refl) fun updated t' hu => ?_
  obtain ⟨rfl, rfl⟩ := updateProposal_eq_some hu hget
  have happlied : Applied c t (.restoreProposal proposal.id) _ _ :=
    .proposalMoved hget (.restore (by simpa [Option.isSome_iff_ne_none] using harchived))
  refine .planned .refl happlied fun l' hl => ?_
  exact .accepted .refl happlied ((Appended.of_planning hl).activity _ _ _ _ _)

lemma mergeProposal_ends (hk : Keyed t) (input : MergeProposalInput) :
    Ends c (.mergeProposal input) t l (mergeProposal c input t l) := by
  obtain ⟨id, ticketId, text⟩ := input
  rw [mergeProposal]
  cases decisionReason text with
  | error error => exact .rejectError .refl
  | ok reason =>
  cases hp : proposalAtExpectedVersion t c.envelope id with
  | none => exact .reject .refl
  | some proposal =>
  cases devTicketAtExpectedVersion t c.envelope ticketId with
  | none => exact .reject .refl
  | some ticket =>
  have hget := proposalAtExpectedVersion_eq_some hp
  obtain rfl := hk.proposal_id hget
  refine .ite (fun _ => .reject .refl) fun hguard => .ite (fun _ => .reject .refl) fun _ => ?_
  rw [not_or, not_not] at hguard
  refine .riskyOrNull .refl (.reject .refl) fun updated t' hu => ?_
  obtain ⟨rfl, rfl⟩ := updateProposal_eq_some hu hget
  have happlied : Applied c t (.mergeProposal ⟨proposal.id, ticketId, text⟩) _ _ :=
    .proposalMoved hget (.merge hguard.1 (isNone_of_not_isSome hguard.2))
  refine .planned .refl happlied fun l' hl => ?_
  exact .accepted .refl happlied ((Appended.of_planning hl).activity _ _ _ _ _)

lemma acceptProposal_ends (hk : Keyed t) (input : AcceptProposalInput) :
    Ends c (.acceptProposal input) t l (acceptProposal c input t l) := by
  obtain ⟨id, owner, content⟩ := input
  rw [acceptProposal]
  cases hp : proposalAtExpectedVersion t c.envelope id with
  | none => exact .reject .refl
  | some proposal =>
  have hget := proposalAtExpectedVersion_eq_some hp
  obtain rfl := hk.proposal_id hget
  refine .ite (fun _ => .reject .refl) fun hguard => .ite (fun _ => .reject .refl) fun _ => ?_
  rw [not_or, not_not] at hguard
  cases parseReadyContractContent (orEmptyObject content) with
  | error error => exact .rejectError .refl
  | ok contract =>
  refine .risky .refl fun mutation t' hm => ?_
  obtain ⟨hash, hhash, hfresh, hunclaimed, hticket, hupdated, rfl⟩ := acceptMutation_eq_ok hget hm
  obtain ⟨ticket, updated⟩ := mutation
  subst hticket hupdated
  have happlied : Applied c t (.acceptProposal ⟨proposal.id, owner, content⟩) _ _ :=
    .accepted hget hguard.1 (isNone_of_not_isSome hguard.2) hfresh hunclaimed hhash
  refine .planned .refl happlied fun l' hl => ?_
  exact .accepted .refl happlied
    (((Appended.of_planning hl).activity _ _ _ _ _).activity _ _ _ _ _)

/-! ### Archive, restore and classification of a ticket -/

/-- The queue guard of a ticket, followed by the rest of the body: at the locked
tables the version is there iff the ticket is in Todo. -/
lemma Ends.lockTodoQueue {lane : DevTicketLane} {next : Option ℕ → Tables → Exit}
    (hnext : ∀ queueVersion t₁, HeaderStep c t t₁ →
      (queueVersion.isSome = true ↔ lane = .todo) → Ends c command t l (next queueVersion t₁)) :
    Ends c command t l
      (match lockTodoQueue c.envelope lane t with
        | (.error _, t) => rejectLaneQueueDrift t l
        | (.ok queueVersion, t) => next queueVersion t) := by
  rcases lockTodoQueue_cases c lane t with ⟨t₁, hlock, hstep⟩ | ⟨hlane, hlock⟩ |
    ⟨header, t₁, hlane, hlock, hstep, -⟩
  · rw [hlock]
    exact .reject hstep
  · rw [hlock]
    exact hnext none t .refl (by simpa using hlane)
  · rw [hlock]
    exact hnext _ t₁ hstep (by simpa using hlane)

lemma archiveDevTicket_ends (hk : Keyed t) (input : ArchiveDevTicketInput) :
    Ends c (.archiveDevTicket input) t l (archiveDevTicket c input t l) := by
  obtain ⟨id, text⟩ := input
  rw [archiveDevTicket]
  cases decisionReason text with
  | error error => exact .rejectError .refl
  | ok reason =>
  cases hp : devTicketAtExpectedVersion t c.envelope id with
  | none => exact .reject .refl
  | some ticket =>
  have hget := devTicketAtExpectedVersion_eq_some hp
  obtain rfl := hk.devTicket_id hget
  refine .ite (fun _ => .reject .refl) fun hactive => .ite (fun _ => .reject .refl) fun _ =>
    .ite (fun _ => .reject .refl) fun hdependents => ?_
  rw [not_not] at hdependents
  refine .lockTodoQueue fun queueVersion t₁ hstep hlane => ?_
  rw [← hstep.devTickets] at hget
  refine .riskyOrDrift hstep fun mutation t' hm => ?_
  obtain ⟨updated, bumped⟩ := mutation
  obtain ⟨t₂, hdequeued, rfl, rfl⟩ := archiveMutation_eq_ok hget hlane hm
  have happlied : Applied c t₁ (.archiveDevTicket ⟨ticket.id, text⟩) _ _ :=
    .archived reason hget (isNone_of_not_isSome hactive)
      (by rw [Tables.selectActiveBlockerEdges, hstep.dependencyEdges]; exact hdependents) hdequeued
  refine .planned hstep happlied fun l' hl => ?_
  exact .accepted hstep happlied ((Appended.of_planning hl).activity _ _ _ _ _)

lemma restoreDevTicket_ends (hk : Keyed t) (id : String) :
    Ends c (.restoreDevTicket id) t l (restoreDevTicket c id t l) := by
  rw [restoreDevTicket]
  cases hp : devTicketAtExpectedVersion t c.envelope id with
  | none => exact .reject .refl
  | some ticket =>
  have hget := devTicketAtExpectedVersion_eq_some hp
  obtain rfl := hk.devTicket_id hget
  refine .ite (fun _ => .reject .refl) fun harchived => .ite (fun _ => .reject .refl) fun _ =>
    .ite (fun _ => .reject .refl) fun _ => ?_
  refine .riskyOrNull .refl (.reject .refl) fun updated t' hu => ?_
  obtain ⟨current, hcurrent, -, -, rfl, rfl⟩ := Tables.casDevTicket_eq_some.mp hu
  rw [hget] at hcurrent
  cases hcurrent
  have happlied : Applied c t (.restoreDevTicket ticket.id) _ _ :=
    .restored hget (by simpa [Option.isSome_iff_ne_none] using harchived)
  refine .planned .refl happlied fun l' hl => ?_
  exact .accepted .refl happlied ((Appended.of_planning hl).activity _ _ _ _ _)

lemma setDevTicketClassification_ends (hk : Keyed t) (input : SetDevTicketClassificationInput) :
    Ends c (.setDevTicketClassification input) t l (setDevTicketClassification c input t l) := by
  rw [setDevTicketClassification]
  cases hp : devTicketAtExpectedVersion t c.envelope input.devTicketId with
  | none => exact .reject .refl
  | some ticket =>
  have hget := devTicketAtExpectedVersion_eq_some hp
  have hid := hk.devTicket_id hget
  dsimp only
  rw [hid]
  refine .ite (fun _ => .reject .refl) fun hbacklog => ?_
  cases hparsed : parseClassification input with
  | error error => exact .rejectError .refl
  | ok p =>
  dsimp only
  refine .ite (fun _ => .reject .refl) fun hseverity => .ite (fun _ => .reject .refl) fun hmember =>
    .ite (fun _ => .reject .refl) fun hfloor => .ite (fun _ => .reject .refl) fun hchanged => ?_
  split
  · exact .threw .refl
  · rename_i hash hhash
    refine .riskyOrNull .refl (.reject .refl) fun updated t' hu => ?_
    obtain ⟨current, hcurrent, -, -, rfl, rfl⟩ := Tables.casDevTicket_eq_some.mp hu
    rw [hget] at hcurrent
    cases hcurrent
    have happlied : Applied c t (.setDevTicketClassification input) _ _ :=
      .classified hget ⟨not_not.mp hbacklog, hparsed, rfl, hseverity, hmember, not_lt.mp hfloor,
        Bool.eq_false_iff.mpr hchanged⟩ hhash
    refine .planned .refl happlied fun l' hl => ?_
    exact .accepted .refl happlied (hid ▸ (Appended.of_planning hl).activity _ _ _ _ _)

/-! ### Dependencies -/

lemma addDependency_ends (hk : Keyed t) (input : AddDependencyInput) :
    Ends c (.addDependency input) t l (addDependency c input t l) := by
  obtain ⟨dependentId, blockerId, text⟩ := input
  rw [addDependency]
  cases decisionReason text with
  | error error => exact .rejectError .refl
  | ok reason =>
  refine .ite (fun _ => .reject .refl) fun hdistinct => ?_
  cases hdependent : t.selectDevTicketForUpdate c.envelope.organizationId c.envelope.workspaceId
      dependentId with
  | none => exact .reject .refl
  | some dependent =>
  cases hblocker : t.selectDevTicketForUpdate c.envelope.organizationId c.envelope.workspaceId
      blockerId with
  | none => exact .reject .refl
  | some blocker =>
  cases hnew : t.selectActiveDependencyEdge c.envelope.organizationId c.envelope.workspaceId
      dependentId blockerId with
  | some duplicate => exact .accepted .refl (.duplicate hnew) (.refl _ _)
  | none =>
  refine .ite (fun _ => .reject .refl) fun _ => ?_
  cases hfailure : dependencyEndpointsFailure dependent blocker with
  | some error => exact .rejectError .refl
  | none =>
  refine .ite (fun _ => .reject .refl) fun _ => .ite (fun _ => .reject .refl) fun hcycle => ?_
  obtain ⟨hactiveDependent, hactiveBlocker⟩ := dependencyEndpointsFailure_eq_none hfailure
  rw [Tables.selectDevTicketForUpdate] at hdependent hblocker
  obtain rfl := hk.devTicket_id hdependent
  obtain rfl := hk.devTicket_id hblocker
  refine .lockTodoQueue fun queueVersion t₁ hstep hlane => ?_
  rw [← hstep.devTickets] at hdependent hblocker
  refine .riskyOrDrift hstep fun mutation t' hm => ?_
  obtain ⟨edge, updated, bumped⟩ := mutation
  obtain ⟨t₂, hdequeued, rfl, rfl, rfl⟩ :=
    addMutation_eq_ok text hdependent hlane hm
  have happlied : Applied c t₁ (.addDependency ⟨dependent.id, blocker.id, text⟩) _ _ :=
    .dependencyAdded hdependent hblocker hdistinct
      (by rw [Tables.selectActiveDependencyEdge, hstep.dependencyEdges]; exact hnew)
      hactiveDependent hactiveBlocker
      (by
        rw [Tables.dependencyCreatesCycle, Tables.dependencyArcs, hstep.dependencyEdges]
        exact Bool.eq_false_iff.mpr hcycle) hdequeued
  refine .planned hstep happlied fun l' hl => ?_
  refine .accepted hstep happlied ?_
  rw [dependencyActivity, dependencyChanged_id, dependencyChanged_version]
  exact (Appended.of_planning hl).activity _ _ _ _ _

lemma removeDependency_ends (hk : Keyed t) (input : RemoveDependencyInput) :
    Ends c (.removeDependency input) t l (removeDependency c input t l) := by
  obtain ⟨edgeId, edgeVersion, text⟩ := input
  rw [removeDependency]
  cases decisionReason text with
  | error error => exact .rejectError .refl
  | ok reason =>
  cases hedge : t.selectDependencyEdge c.envelope.organizationId c.envelope.workspaceId
      edgeId with
  | none => exact .reject .refl
  | some edge =>
  refine .ite (fun _ => .rejected .refl (by simp)) fun hretired => .ite (fun _ => .reject .refl)
    fun _ => ?_
  cases hdependent : t.selectDevTicketForUpdate c.envelope.organizationId c.envelope.workspaceId
      edge.dependentDevTicketId with
  | none => exact .reject .refl
  | some dependent =>
  cases hblocker : t.selectDevTicketForUpdate c.envelope.organizationId c.envelope.workspaceId
      edge.blockerDevTicketId with
  | none => exact .reject .refl
  | some blocker =>
  dsimp only
  cases hfailure : dependencyEndpointsFailure dependent blocker with
  | some error => exact .rejectError .refl
  | none =>
  refine .ite (fun _ => .reject .refl) fun _ => ?_
  obtain ⟨hactiveDependent, hactiveBlocker⟩ := dependencyEndpointsFailure_eq_none hfailure
  rw [Tables.selectDevTicketForUpdate] at hdependent hblocker
  rw [Tables.selectDependencyEdge] at hedge
  obtain rfl := hk.edge_id hedge
  have hid := hk.devTicket_id hdependent
  refine .lockTodoQueue fun queueVersion t₁ hstep hlane => ?_
  rw [← hstep.devTickets] at hdependent hblocker
  rw [← hstep.dependencyEdges] at hedge
  refine .riskyOrDrift hstep fun mutation t' hm => ?_
  cases mutation with
  | none =>
      obtain rfl := removeMutation_eq_none hm
      exact .reject hstep
  | some mutation =>
  obtain ⟨retired, updated, bumped⟩ := mutation
  obtain ⟨t₂, hdequeued, rfl, rfl, rfl⟩ :=
    removeMutation_eq_ok hedge (hid ▸ hdependent) hlane hm
  rw [hid] at hdequeued ⊢
  have happlied : Applied c t₁ (.removeDependency ⟨edge.id, edgeVersion, text⟩) _ _ :=
    .dependencyRemoved hedge (active_of_not_retired hretired) hdependent hblocker
      hactiveDependent hactiveBlocker hdequeued
  refine .planned hstep happlied fun l' hl => ?_
  refine .accepted hstep happlied ?_
  rw [dependencyActivity, dependencyChanged_id, dependencyChanged_version, hid]
  exact (Appended.of_planning hl).activity _ _ _ _ _

/-! ### The Todo queue -/

/-- From the locked queue on, nothing can fail any more. -/
lemma commitReorder_ends {input : ReorderTodoInput} {moved : DevTicketRow}
    {header : LaneQueueHeaderRow} {membership : TodoQueueMembershipRow} {index : ℕ}
    (hstep : HeaderStep c t₀ t) (hid : moved.id = input.devTicketId)
    (hget : t.devTickets.get (c.key input.devTicketId) = some moved)
    (hlane : moved.lane = .todo) (hvalid : validTodoAnchor input.anchor = true)
    (hheader : t.todoQueueHeaders.get (c.key "todo") = some header)
    (hversion : header.version = input.sourceQueue.version)
    (hmember : t.todoQueueMemberships.get (c.key input.devTicketId) = some membership)
    (hindex : insertionIndex c input.anchor (otherMembers c t input.devTicketId) t = .ok index)
    (hcapacity : rankOutOfRange (rankAt (otherMembers c t input.devTicketId) index) = true →
      (((splicedIds (otherMembers c t input.devTicketId) index input.devTicketId).length : ℤ) +
        1) * rankStride ≤ postgresBigintMax) :
    Ends c (.reorderTodo input) t₀ l
      (commitReorder c input moved (rankAt (otherMembers c t input.devTicketId) index)
        (splicedIds (otherMembers c t input.devTicketId) index input.devTicketId) t l) := by
  have happlied := Applied.reordered hget hlane hvalid hheader hmember hindex hcapacity
  rw [commitReorder, ← hversion, casBumpTodoQueueVersion_of_locked hheader]
  dsimp only
  rw [hid]
  have hranks := writeRanks_of_member
    (t := t.putHeader (c.key "todo") { header with version := header.version + 1 })
    (rankAt (otherMembers c t input.devTicketId) index)
    (splicedIds (otherMembers c t input.devTicketId) index input.devTicketId) hmember
  have hframe := writeRanks_frame c.envelope input.devTicketId
    (rankAt (otherMembers c t input.devTicketId) index)
    (splicedIds (otherMembers c t input.devTicketId) index input.devTicketId)
    (t.putHeader (c.key "todo") { header with version := header.version + 1 })
  rw [hranks]
  generalize writeRanks c.envelope input.devTicketId
    (rankAt (otherMembers c t input.devTicketId) index)
    (splicedIds (otherMembers c t input.devTicketId) index input.devTicketId)
    (t.putHeader (c.key "todo") { header with version := header.version + 1 }) = ranked
    at happlied hframe ⊢
  have hbump : Tables.bumpDevTicketVersion c.envelope.organizationId c.envelope.workspaceId
      input.devTicketId moved.version ranked.2 =
        some (moved.bumped, ranked.2.putDevTicket (c.key input.devTicketId) moved.bumped) :=
    Tables.casDevTicket_eq_some.mpr
      ⟨moved, by rw [hframe.devTickets]; exact hget, rfl, rfl, rfl, rfl⟩
  dsimp only
  rw [hbump]
  refine .accepted hstep happlied ?_
  rw [← hid]
  exact (Appended.refl _ _).activity _ _ _ _ _

lemma reorderTodo_ends (hk : Keyed t) (input : ReorderTodoInput) :
    Ends c (.reorderTodo input) t l (reorderTodo c input t l) := by
  rw [reorderTodo]
  cases forbiddenTodoOrderingField input with
  | some error => exact .rejectError .refl
  | none =>
  refine .ite (fun _ => .reject .refl) fun hinput => ?_
  simp only [not_or, not_not, Bool.not_eq_false] at hinput
  cases hp : devTicketAtExpectedVersion t c.envelope input.devTicketId with
  | none => exact .reject .refl
  | some moved =>
  have hget := devTicketAtExpectedVersion_eq_some hp
  have hid := hk.devTicket_id hget
  dsimp only
  refine .ite (fun _ => .reject .refl) fun hlane => ?_
  obtain ⟨header, t₁, hlock, hstep, hheader⟩ := getOrLock_spec c t
  rw [← hstep.devTickets] at hget
  rw [hlock, hid]
  refine .ite (fun _ => .reject hstep) fun hversion => .ite (fun _ => .reject hstep)
    fun hmember => ?_
  obtain ⟨membership, hmember⟩ :
      ∃ membership, t₁.todoQueueMemberships.get (c.key input.devTicketId) = some membership :=
    Option.ne_none_iff_exists'.mp (by simpa [Tables.todoQueueMembership] using hmember)
  split
  · exact .rejectError hstep
  · rename_i index hindex
    refine .ite (fun _ => .reject hstep) fun hcapacity => ?_
    exact commitReorder_ends hstep hid hget (not_not.mp hlane) hinput.2.2.2 hheader
      (not_not.mp hversion) hmember hindex fun hrange =>
        not_lt.mp fun hfull => hcapacity ⟨hrange, hfull⟩

lemma enqueue_frame (c : Context) (t : Tables) (id : String) (rank : ℤ) (rebalance : Bool) :
    SameButMemberships t (enqueue c t id rank rebalance) := by
  rw [enqueue]
  split_ifs
  · rw [SameButMemberships, rebalanceTodoBand_frame c.envelope.organizationId]
    rfl
  · rfl

/-- From the accepted contract on. -/
lemma commitApproval_ends {input : ApproveReadyToTodoInput} {ticket : DevTicketRow}
    {contract : JsRecord} {hash : String} {type : DevTicketType} {priority : Priority}
    {declared : ChangeRisk} (hid : ticket.id = input.devTicketId)
    (hget : t.devTickets.get (c.key input.devTicketId) = some ticket)
    (hchecks : ReadyChecks ticket contract (t.hasActiveDependencies c.envelope.organizationId
      c.envelope.workspaceId input.devTicketId) type priority declared)
    (hhash : computeReadyContractContentHash contract = .ok hash) :
    Ends c (.approveReadyToTodo input) t l (commitApproval c input ticket contract hash t l) := by
  rw [commitApproval]
  obtain ⟨header, t₁, hlock, hstep, hheader⟩ := getOrLock_spec c t
  rw [← hstep.devTickets] at hget
  rw [hlock]
  refine .ite (fun _ => .reject hstep) fun hversion => ?_
  dsimp only
  split
  · exact .reject hstep
  · rename_i rank rebalance hrank
    refine .risky hstep fun changed t' hm => ?_
    cases changed with
    | none =>
        obtain rfl := approveMutation_eq_none hm
        exact .reject hstep
    | some updated =>
    obtain ⟨rfl, habsent, rfl⟩ := approveMutation_eq_ok (hid ▸ hget) hm
    rw [hid] at habsent ⊢
    rw [← hstep.hasActiveDependencies] at hchecks
    have happlied : Applied c t₁ (.approveReadyToTodo input) _ _ :=
      .approved hget hchecks hhash hheader hrank habsent
    have hlocked : ((enqueue c t₁ input.devTicketId rank rebalance).putDevTicket
        (c.key input.devTicketId) (approvedTicket c ticket contract hash)).todoQueueHeaders.get
          (c.key "todo") = some header := by
      rw [Tables.putDevTicket, (enqueue_frame c t₁ _ rank rebalance).todoQueueHeaders]
      exact hheader
    have hbump := casBumpTodoQueueVersion_of_locked hlocked
    rw [not_not] at hversion
    rw [approvedTicket] at hbump happlied
    dsimp only
    rw [← hversion, hbump]
    refine .planned hstep happlied fun l' hl => ?_
    refine .accepted hstep happlied ?_
    rw [← hid]
    exact (Appended.of_planning hl).activity _ _ _ _ _

lemma approveReadyToTodo_ends (hk : Keyed t) (input : ApproveReadyToTodoInput) :
    Ends c (.approveReadyToTodo input) t l (approveReadyToTodo c input t l) := by
  rw [approveReadyToTodo]
  cases hp : devTicketAtExpectedVersion t c.envelope input.devTicketId with
  | none => exact .reject .refl
  | some ticket =>
  have hget := devTicketAtExpectedVersion_eq_some hp
  have hid := hk.devTicket_id hget
  dsimp only
  refine .ite (fun _ => .reject .refl) fun hready => .ite (fun _ => .reject .refl) fun _ => ?_
  simp only [not_or, not_not] at hready
  cases htype : ticket.devTicketType with
  | none => exact .reject .refl
  | some type =>
  refine .ite (fun _ => .reject .refl) fun hareas => ?_
  cases hpriority : ticket.priority with
  | none => exact .reject .refl
  | some priority =>
  dsimp only
  rw [approveContract]
  refine .ite (fun _ => .reject .refl) fun _ => ?_
  cases parseReadyContractContent input.readyContractContent with
  | error error => exact .rejectError .refl
  | ok contract =>
  refine .ite (fun _ => .reject .refl) fun _ => ?_
  cases hclass : sameCanonicalJson (contract.read "classification")
      (expectedClassification ticket type priority) with
  | error error => exact .threw .refl
  | ok same =>
  cases same with
  | false => exact .reject .refl
  | true =>
  refine .ite (fun _ => .reject .refl) fun howner => ?_
  rw [approveUnderPolicy]
  split
  · rename_i declared minimum policyVersion policyHash hdeclared hminimum hversion hhash
    refine .ite (fun _ => .reject .refl) fun hfloor => .ite (fun _ => .reject .refl)
      fun hstamps => ?_
    simp only [not_or, not_not] at hstamps
    rw [hid] at hfloor hstamps ⊢
    split
    · exact .threw .refl
    · exact .reject .refl
    · rename_i hpolicy
      split
      · exact .threw .refl
      · rename_i hash hcontent
        have hchecks : ReadyChecks ticket contract (t.hasActiveDependencies
            c.envelope.organizationId c.envelope.workspaceId input.devTicketId) type priority
            declared :=
          { backlog := hready.1
            draft := hready.2.1
            active := isNone_of_not_isSome hready.2.2
            type_eq := htype
            workAreas := fun hnil => hareas (by rw [hnil]; rfl)
            priority_eq := hpriority
            declared_eq := hdeclared
            classification := hclass
            owner := Bool.eq_true_of_not_eq_false howner
            floor := not_lt.mp hfloor
            minimum_eq := by rw [hminimum, hstamps.1]
            version_eq := by rw [hversion, hstamps.2.1]
            hash_eq := by rw [hhash, hstamps.2.2]
            policy := hpolicy }
        exact commitApproval_ends hid hget hchecks hcontent
  · exact .reject .refl

/-! ### Legacy import -/

section Import

variable {input : ImportLegacyDevTicketInput} {source : LegacyTaskSource}
  {disposition : SourceDisposition} {digest : String} {existingAlias : LegacyTaskAliasRow}
  {historical : HistoricalRecordRow}

lemma promoteExisting_ends (hsource : ImportSource c t input source .promotedBacklog digest)
    (hbefore : ImportedBefore c t source digest existingAlias historical)
    (hid : existingAlias.historicalRecordId = historical.historicalRecordId)
    (hunpromoted : existingAlias.devTicketId = none) :
    Ends c (.importLegacyDevTicket input) t l (promoteExisting c input source historical t l) := by
  rw [promoteExisting]
  refine .ite (fun _ => .reject .refl) fun _ => .risky .refl fun mutation t' hm => ?_
  obtain ⟨ticket, resolved⟩ := mutation
  obtain ⟨hash, hhash, hfresh, hallowed, rfl⟩ := promoteMutation_eq_ok hm (hid ▸ hbefore.record)
    hbefore.organizationId hbefore.workspaceId
  have happlied := Applied.promoted hsource hbefore hunpromoted hallowed hfresh hhash
  rw [hid] at happlied
  refine .planned .refl happlied fun l' hl => ?_
  exact .accepted .refl happlied (.of_planning hl)

lemma resolveExisting_ends (hsource : ImportSource c t input source disposition digest)
    (hbefore : ImportedBefore c t source digest existingAlias historical)
    (hid : existingAlias.historicalRecordId = historical.historicalRecordId)
    (hunpromoted : ¬(disposition = .promotedBacklog ∧ existingAlias.devTicketId = none)) :
    Ends c (.importLegacyDevTicket input) t l
      (resolveExisting c source disposition existingAlias historical t l) := by
  rw [resolveExisting]
  dsimp only
  by_cases hquarantined : historical.sourceDisposition = .quarantinedNoOwner
  · rw [if_pos hquarantined]
    refine .ite (fun hsame => ?_) fun hleaves => ?_
    · exact .accepted .refl (.reimported hsource hbefore fun _ => hsame.trans hquarantined)
        (.refl _ _)
    · refine .risky .refl fun resolved t' hm => ?_
      obtain ⟨-, rfl, rfl⟩ := resolveRecord_eq_ok hm (hid ▸ hbefore.record)
        hbefore.organizationId hbefore.workspaceId
      have happlied := Applied.resolved hsource hbefore hquarantined
        (fun hd => hleaves (hd.trans hquarantined.symm)) hunpromoted
        (if disposition = .promotedBacklog then historical.promotionCommandId else none)
      rw [hid] at happlied
      refine .planned .refl happlied fun l' hl => ?_
      exact .accepted .refl happlied (.of_planning hl)
  · rw [if_neg hquarantined, if_pos rfl]
    exact .accepted .refl
      (.reimported hsource hbefore fun hq => absurd hq hquarantined) (.refl _ _)

lemma resolveExistingAlias_ends (hk : Keyed t)
    (hsource : ImportSource c t input source disposition digest)
    (halias : t.legacyTaskAliases.get (aliasKey c.envelope.organizationId source.id) =
      some existingAlias) :
    Ends c (.importLegacyDevTicket input) t l
      (resolveExistingAlias c input source disposition digest existingAlias t l) := by
  rw [resolveExistingAlias]
  split
  · exact .reject .refl
  · rename_i historical hselect
    obtain ⟨hrecord, horg, hworkspace⟩ := selectHistoricalRecordForUpdate_eq_some.mp hselect
    have hid := hk.historicalRecords hrecord
    refine .ite (fun _ => .reject .refl) fun hdigest => .ite (fun _ => .reject .refl)
      fun _ => ?_
    have hbefore : ImportedBefore c t source digest existingAlias historical :=
      ⟨halias, hrecord, horg, hworkspace, not_not.mp hdigest⟩
    refine .ite (fun hpromote => ?_) fun hunpromoted => ?_
    · obtain ⟨rfl, hnone⟩ := hpromote
      exact promoteExisting_ends hsource hbefore hid hnone
    · exact resolveExisting_ends hsource hbefore hid hunpromoted

lemma importFirst_ends (hk : Keyed t)
    (hsource : ImportSource c t input source disposition digest) :
    Ends c (.importLegacyDevTicket input) t l
      (importFirst c input source disposition digest t l) := by
  rw [importFirst]
  rcases executeRiskyMutation_cases (importMutation c input source disposition digest) t with
    ⟨mutation, t', hm, heq⟩ | ⟨error, heq⟩ | ⟨error, heq⟩
  · rw [heq]
    obtain ⟨ticket, historical⟩ := mutation
    obtain ⟨t₁, hticket, hrecord, halias, rfl, rfl⟩ := importMutation_eq_ok hm
    rcases insertImportedTicket_eq_ok hticket with ⟨hnot, rfl, rfl⟩ |
      ⟨hash, rfl, hhash, hfresh, rfl, rfl⟩
    · have happlied := Applied.imported hsource halias hrecord hnot
      refine .planned .refl happlied fun l' hl => ?_
      exact .accepted .refl happlied ((Appended.of_planning hl).activity _ _ _ _ _)
    · have happlied := Applied.importedPromoted hsource halias hrecord hfresh hhash
      refine .planned .refl happlied fun l' hl => ?_
      exact .accepted .refl happlied ((Appended.of_planning hl).activity _ _ _ _ _)
  · rw [heq]
    refine .ite (fun _ => ?_) fun _ => .rejectError .refl
    split
    · rename_i winnerAlias hwinner
      exact resolveExistingAlias_ends hk hsource hwinner
    · exact .rejectError .refl
  · rw [heq]
    exact .threw .refl

end Import

lemma importLegacyDevTicket_ends (hk : Keyed t) (input : ImportLegacyDevTicketInput) :
    Ends c (.importLegacyDevTicket input) t l (importLegacyDevTicket c input t l) := by
  rw [importLegacyDevTicket]
  cases hfound : t.selectLegacyTaskSource input.legacyTaskId with
  | none => exact .reject .refl
  | some source =>
  refine .ite (fun _ => .reject .refl) fun horg => .ite (fun _ => .reject .refl)
    fun hworkspace => .ite (fun _ => .reject .refl) fun hstatus => ?_
  dsimp only
  cases hdigest : legacyDigest source.row with
  | error error => exact .threw .refl
  | ok digest =>
  have hsource : ImportSource c t input source
      (legacyDisposition source.status (ownerConfirmed c input)) digest :=
    ⟨hfound, not_not.mp horg, not_not.mp hworkspace, not_not.mp hstatus, rfl, hdigest⟩
  cases halias : t.selectLegacyTaskAliasForUpdate c.envelope.organizationId source.id with
  | some existingAlias => exact resolveExistingAlias_ends hk hsource halias
  | none => exact .ite (fun _ => .reject .refl) fun _ => importFirst_ends hk hsource

lemma reconcileHistoricalCompletion_ends (hk : Keyed t)
    (input : ReconcileHistoricalCompletionInput) :
    Ends c (.reconcileHistoricalCompletion input) t l
      (reconcileHistoricalCompletion c input t l) := by
  obtain ⟨id, epoch⟩ := input
  rw [reconcileHistoricalCompletion]
  cases hselect : t.selectHistoricalRecordForUpdate c.envelope.organizationId
      c.envelope.workspaceId id with
  | none => exact .reject .refl
  | some historical =>
  obtain ⟨hrecord, horg, hworkspace⟩ := selectHistoricalRecordForUpdate_eq_some.mp hselect
  obtain rfl := hk.historicalRecords hrecord
  refine .ite (fun _ => .reject .refl) fun htarget => .ite (fun _ => .reject .refl)
    fun _ => .ite (fun _ => .reject .refl) fun hgate => ?_
  dsimp only
  refine .ite (fun _ => .reject .refl) fun _ => ?_
  refine .riskyOrNull .refl (.reject .refl) fun updated t' hu => ?_
  simp only [Tables.reconcileHistoricalCompletion, hselect] at hu
  split_ifs at hu
  cases hu
  have happlied : Applied c t (.reconcileHistoricalCompletion
      ⟨historical.historicalRecordId, epoch⟩) _ _ :=
    .reconciled hrecord horg hworkspace (fun hp => htarget (.inr hp)) (not_not.mp hgate)
  refine .planned .refl happlied fun l' hl => ?_
  exact .accepted .refl happlied ((Appended.of_planning hl).activity _ _ _ _ _)

/-! ### All commands -/

lemma rejectUntilGate_ends {code message : String} {checkDependencyLock : Bool} :
    Ends c command t l (rejectUntilGate c code message checkDependencyLock t l) := by
  rw [rejectUntilGate]
  exact .ite (fun _ => .rejected .refl (by simp)) fun _ => .reject .refl

/-- **Ends of a body**: every command body rejects without a write, or applies one
effect. -/
theorem body_ends (hk : Keyed t) (c : Context) (command : Command) (l : Ledger) :
    Ends c command t l (command.body c t l) := by
  cases command with
  | draftProposal input => exact draftProposal_ends input
  | submitProposal id => exact submitProposal_ends hk id
  | acceptProposal input => exact acceptProposal_ends hk input
  | mergeProposal input => exact mergeProposal_ends hk input
  | rejectProposal input => exact rejectProposal_ends hk input
  | archiveProposal input => exact archiveProposal_ends hk input
  | restoreProposal id => exact restoreProposal_ends hk id
  | archiveDevTicket input => exact archiveDevTicket_ends hk input
  | restoreDevTicket id => exact restoreDevTicket_ends hk id
  | addDependency input => exact addDependency_ends hk input
  | removeDependency input => exact removeDependency_ends hk input
  | reorderTodo input => exact reorderTodo_ends hk input
  | setDevTicketClassification input => exact setDevTicketClassification_ends hk input
  | approveReadyToTodo input => exact approveReadyToTodo_ends hk input
  | importLegacyDevTicket input => exact importLegacyDevTicket_ends hk input
  | reconcileHistoricalCompletion input => exact reconcileHistoricalCompletion_ends hk input
  | claim => exact rejectUntilGate_ends
  | start => exact rejectUntilGate_ends
  | submitForReview => exact rejectUntilGate_ends
  | admitDone => exact rejectUntilGate_ends

end Opzava.DevBoard
