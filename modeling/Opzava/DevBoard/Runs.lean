import Opzava.DevBoard.Calls
import Opzava.Library.Sha256

/-!
From one command to whole runs.

* `applied_keyed`: every effect keeps `Keyed`.
* `execute_tables`: what one call does to the tables, whatever its outcome.
* `reachable_invariant`: a property of the tables that survives the environment,
  the creation of a header and every effect holds in every reachable world.
* `run_of_events`: a list of calls and changes of the environment is a run; `Sample`
  holds the calls of a small board.
-/

namespace Opzava.DevBoard

open Opzava.Library

variable {c : Context} {t t' : Tables}

/-! ### Rows stay under their keys -/

namespace Keyed

lemma empty : Keyed Tables.empty where
  proposals h := by cases h
  devTickets h := by cases h
  dependencyEdges h := by cases h
  memberships h := by cases h
  historicalRecords h := by cases h
  legacyTaskAliases h := by cases h

lemma putProposal (hk : Keyed t) {k : String} {row : ProposalRow}
    (h : k = key row.organizationId row.workspaceId row.id) : Keyed (t.putProposal k row) :=
  { hk with
    proposals := fun hget => by
      rcases OrderedMap.get_set_eq_some hget with ⟨rfl, rfl⟩ | ⟨-, hold⟩
      · exact h
      · exact hk.proposals hold }

lemma putDevTicket (hk : Keyed t) {k : String} {row : DevTicketRow}
    (h : k = key row.organizationId row.workspaceId row.id) : Keyed (t.putDevTicket k row) :=
  { hk with
    devTickets := fun hget => by
      rcases OrderedMap.get_set_eq_some hget with ⟨rfl, rfl⟩ | ⟨-, hold⟩
      · exact h
      · exact hk.devTickets hold }

lemma putEdge (hk : Keyed t) {k : String} {row : DependencyEdgeRow}
    (h : k = key row.organizationId row.workspaceId row.id) : Keyed (t.putEdge k row) :=
  { hk with
    dependencyEdges := fun hget => by
      rcases OrderedMap.get_set_eq_some hget with ⟨rfl, rfl⟩ | ⟨-, hold⟩
      · exact h
      · exact hk.dependencyEdges hold }

lemma putHistorical (hk : Keyed t) {k : String} {row : HistoricalRecordRow}
    (h : k = row.historicalRecordId) : Keyed (t.putHistorical k row) :=
  { hk with
    historicalRecords := fun hget => by
      rcases OrderedMap.get_set_eq_some hget with ⟨rfl, rfl⟩ | ⟨-, hold⟩
      · exact h
      · exact hk.historicalRecords hold }

lemma putAlias (hk : Keyed t) {k : String} {row : LegacyTaskAliasRow}
    (h : k = aliasKey row.organizationId row.legacyTaskId) : Keyed (t.putAlias k row) :=
  { hk with
    legacyTaskAliases := fun hget => by
      rcases OrderedMap.get_set_eq_some hget with ⟨rfl, rfl⟩ | ⟨-, hold⟩
      · exact h
      · exact hk.legacyTaskAliases hold }

lemma setAliasDevTicketId (hk : Keyed t) (o : ScopeId) (id : String)
    (devTicketId : Option String) : Keyed (t.setAliasDevTicketId o id devTicketId) := by
  rw [Tables.setAliasDevTicketId]
  cases hget : t.legacyTaskAliases.get (aliasKey o id) with
  | none => exact hk
  | some row =>
      have hkey := hk.legacyTaskAliases hget
      exact hk.putAlias hkey

lemma putMembership (hk : Keyed t) {o w : ScopeId} {id : String} {rank : ℤ} :
    Keyed (t.putMembership (key o w id) ⟨id, rank⟩) :=
  { hk with
    memberships := fun hget => by
      rcases OrderedMap.get_set_eq_some hget with ⟨rfl, rfl⟩ | ⟨-, hold⟩
      · exact ⟨o, w, rfl⟩
      · exact hk.memberships hold }

lemma dropMembership (hk : Keyed t) (k : String) : Keyed (t.dropMembership k) :=
  { hk with
    memberships := fun {k' row} hget => by
      change (t.todoQueueMemberships.delete k).get k' = some row at hget
      rw [OrderedMap.get_delete] at hget
      split_ifs at hget
      exact hk.memberships hget }

lemma putHeader (hk : Keyed t) (k : String) (row : LaneQueueHeaderRow) :
    Keyed (t.putHeader k row) := { hk with }

lemma legacySources (hk : Keyed t) (sources : OrderedMap String LegacyTaskSource) :
    Keyed { t with legacyTaskSources := sources } := { hk with }

lemma headerStep (hk : Keyed t) (h : HeaderStep c t t') : Keyed t' := by
  cases h with
  | refl => exact hk
  | created => exact hk.putHeader _ _

lemma dequeued (hk : Keyed t) {id : String} {lane : DevTicketLane}
    (h : Dequeued c t id lane t') : Keyed t' := by
  cases h with
  | outside => exact hk
  | evicted => exact (hk.dropMembership _).putHeader _ _

lemma updateTodoQueueMembershipRank (hk : Keyed t) (o w : ScopeId) (id : String) (rank : ℤ) :
    Keyed (t.updateTodoQueueMembershipRank o w id rank).2 := by
  rw [Tables.updateTodoQueueMembershipRank]
  split_ifs
  · exact hk.putMembership
  · exact hk

lemma rebalanceFrom (o w : ScopeId) : ∀ (index : ℕ) (ids : List String) {t : Tables}, Keyed t →
    Keyed (Tables.rebalanceFrom o w index ids t)
  | _, [], _, hk => hk
  | index, _ :: rest, _, hk =>
      rebalanceFrom o w (index + 1) rest (hk.updateTodoQueueMembershipRank o w _ _)

lemma writeRanks (hk : Keyed t) (e : CommandEnvelope) (id : String) (rank : ℤ)
    (ids : List String) : Keyed (writeRanks e id rank ids t).2 := by
  rw [DevBoard.writeRanks]
  split_ifs
  · exact rebalanceFrom _ _ 0 ids hk
  · exact hk.updateTodoQueueMembershipRank _ _ id rank

end Keyed

lemma dependencyChanged_key (row : DevTicketRow) :
    key row.dependencyChanged.organizationId row.dependencyChanged.workspaceId
        row.dependencyChanged.id = key row.organizationId row.workspaceId row.id := by
  rw [DevTicketRow.dependencyChanged]
  split_ifs <;> rfl

section Runs

variable [Platform] {command : Command} {r : Recorded}

/-- Every effect keeps the rows under their keys. -/
lemma applied_keyed (hk : Keyed t) (h : Applied c t command t' r) : Keyed t' := by
  cases h with
  | drafted => exact hk.putProposal rfl
  | proposalMoved found =>
      have hkey := hk.proposals found
      exact hk.putProposal hkey
  | accepted found =>
      have hkey := hk.proposals found
      refine Keyed.putProposal (Keyed.putDevTicket hk ?_) hkey
      rfl
  | archived reason found active noDependents dequeued =>
      have hkey := hk.devTickets found
      exact (hk.dequeued dequeued).putDevTicket hkey
  | restored found =>
      have hkey := hk.devTickets found
      exact hk.putDevTicket hkey
  | classified found =>
      have hkey := hk.devTickets found
      exact hk.putDevTicket hkey
  | duplicate => exact hk
  | dependencyAdded found foundBlocker distinct new activeDependent activeBlocker noCycle
      dequeued =>
      refine Keyed.putDevTicket (Keyed.putEdge (hk.dequeued dequeued) ?_) ?_
      · rfl
      · rw [dependencyChanged_key]
        exact hk.devTickets found
  | dependencyRemoved foundEdge activeEdge found foundBlocker activeDependent activeBlocker
      dequeued =>
      have hedge := hk.dependencyEdges foundEdge
      refine Keyed.putDevTicket (Keyed.putEdge (hk.dequeued dequeued) ?_) ?_
      · exact hedge
      · rw [dependencyChanged_key]
        exact hk.devTickets found
  | reordered found =>
      have hkey := hk.devTickets found
      exact ((hk.putHeader _ _).writeRanks _ _ _ _).putDevTicket hkey
  | approved found =>
      have hkey := hk.devTickets found
      refine Keyed.putHeader (Keyed.putDevTicket ?_ ?_) _ _
      · rw [enqueue]
        split_ifs
        · exact (Keyed.rebalanceFrom _ _ 0 _ hk).putMembership
        · exact hk.putMembership
      · exact hkey
  | reimported => exact hk
  | promoted importable before =>
      have hrecord := hk.historicalRecords before.record
      refine Keyed.setAliasDevTicketId (Keyed.putHistorical (Keyed.putDevTicket hk ?_) ?_) _ _ _
      · rfl
      · exact hrecord
  | resolved importable before =>
      have hrecord := hk.historicalRecords before.record
      refine Keyed.setAliasDevTicketId (Keyed.putHistorical hk ?_) _ _ _
      exact hrecord
  | imported =>
      refine Keyed.putAlias (Keyed.putHistorical hk ?_) ?_ <;> rfl
  | importedPromoted =>
      refine Keyed.putAlias (Keyed.putHistorical (Keyed.putDevTicket hk ?_) ?_) ?_ <;> rfl
  | reconciled found =>
      have hrecord := hk.historicalRecords found
      exact hk.putHistorical hrecord

/-! ### One call -/

/-- What a call may do to the tables: nothing but the header, or one effect. -/
def TableStep (c : Context) (command : Command) (t t' : Tables) : Prop :=
  ∃ t₁, HeaderStep c t t₁ ∧ (t' = t₁ ∨ ∃ r, Applied c t₁ command t' r)

/-- **One call on the tables**, whatever its outcome. -/
theorem execute_tables {w : World} (hk : Keyed w.tables) (call : Call) :
    TableStep (call.context w) call.command w.tables (execute call w).2.tables := by
  obtain ⟨t, hlock, ⟨heq, -⟩ | ⟨r, happlied, -⟩⟩ := execute_effect hk call
  · exact ⟨t, hlock, .inl heq⟩
  · exact ⟨t, hlock, .inr ⟨r, happlied⟩⟩

lemma tableStep_keyed (hk : Keyed t) (h : TableStep c command t t') : Keyed t' := by
  obtain ⟨t₁, hstep, rfl | ⟨r, happlied⟩⟩ := h
  · exact hk.headerStep hstep
  · exact applied_keyed (hk.headerStep hstep) happlied

/-! ### Runs -/

variable {admissible : World → Call → Prop} {w : World}

lemma step_keyed {w' : World} (hk : Keyed w.tables) (h : Step admissible w w') :
    Keyed w'.tables := by
  cases h with
  | call call hadmissible => exact tableStep_keyed hk (execute_tables hk call)
  | directory => exact hk
  | legacySources => exact hk.legacySources _

theorem reachable_keyed (h : Reachable admissible w) : Keyed w.tables := by
  induction h with
  | refl => exact .empty
  | tail _ hstep ih => exact step_keyed ih hstep

/-- **Invariants of the tables**: what survives the environment, the creation of a
header and every effect of an admissible call holds in every reachable world. -/
theorem reachable_invariant {P : Tables → Prop} (hempty : P Tables.empty)
    (hsources : ∀ t sources, P t → P { t with legacyTaskSources := sources })
    (hheader : ∀ c t t₁, P t → HeaderStep c t t₁ → P t₁)
    (happlied : ∀ (w : World) (call : Call) (t t' : Tables) (r : Recorded), admissible w call →
      Keyed t → HeaderStep (call.context w) w.tables t → P t →
      Applied (call.context w) t call.command t' r → P t')
    (h : Reachable admissible w) : P w.tables := by
  induction h with
  | refl => exact hempty
  | @tail w₁ w₂ hrun hstep ih =>
      cases hstep with
      | directory => exact ih
      | legacySources => exact hsources _ _ ih
      | call call hadmissible =>
          have hk := reachable_keyed hrun
          obtain ⟨t₁, hlock, heq | ⟨r, heffect⟩⟩ := execute_tables hk call
          · rw [heq]
            exact hheader _ _ _ ih hlock
          · exact happlied w₁ call t₁ _ r hadmissible (hk.headerStep hlock) hlock
              (hheader _ _ _ ih hlock) heffect

/-! ### Runs as lists of events -/

/-- One event of a run. -/
inductive Event where
  | call (call : Call)
  | directory (directory : Directory)
  | legacySources (sources : OrderedMap String LegacyTaskSource)

/-- The world after an event. -/
def Event.apply (w : World) : Event → World
  | .call request => (execute request w).2
  | .directory d => { w with directory := d }
  | .legacySources sources =>
      { w with tables := { w.tables with legacyTaskSources := sources } }

/-- The world after a list of events. -/
def runEvents (w : World) (events : List Event) : World := events.foldl Event.apply w

/-- The event is no call, or an admissible one. -/
def Event.admitted (admissible : World → Call → Prop) (w : World) : Event → Prop
  | .call request => admissible w request
  | _ => True

/-- Every call among the events is admissible where it is made. -/
def Admitted (admissible : World → Call → Prop) : World → List Event → Prop
  | _, [] => True
  | w, event :: rest => event.admitted admissible w ∧ Admitted admissible (event.apply w) rest

instance decidableEventAdmitted [∀ w request, Decidable (admissible w request)] (w : World)
    (event : Event) : Decidable (event.admitted admissible w) :=
  match event with
  | .call request => inferInstanceAs (Decidable (admissible w request))
  | .directory _ => isTrue trivial
  | .legacySources _ => isTrue trivial

instance decidableAdmitted [∀ w request, Decidable (admissible w request)] :
    (w : World) → (events : List Event) → Decidable (Admitted admissible w events)
  | _, [] => isTrue trivial
  | w, event :: rest =>
      have := decidableAdmitted (event.apply w) rest
      inferInstanceAs (Decidable (event.admitted admissible w ∧
        Admitted admissible (event.apply w) rest))

instance decidableFreshEdgeId (w : World) (request : Call) : Decidable (freshEdgeId w request) :=
  inferInstanceAs (Decidable (_ = none))

/-- A list of admitted events is a run. -/
theorem run_of_events {events : List Event} (h : Admitted admissible w events) :
    Relation.ReflTransGen (Step admissible) w (runEvents w events) := by
  induction events generalizing w with
  | nil => exact .refl
  | cons event rest ih =>
      refine .head ?_ (ih h.2)
      cases event with
      | call request => exact .call request h.1
      | directory d => exact .directory w d
      | legacySources sources => exact .legacySources w sources

lemma admitted_anyCall (w : World) (events : List Event) : Admitted anyCall w events := by
  induction events generalizing w with
  | nil => trivial
  | cons event rest ih =>
      refine ⟨?_, ih _⟩
      cases event <;> trivial

lemma reachable_runEvents (events : List Event) :
    Reachable anyCall (runEvents World.empty events) :=
  run_of_events (admitted_anyCall _ _)

end Runs

/-! ### A sample board -/

namespace Sample

/-- SHA-256, and the collation of texts that differ in digits only. -/
scoped instance platform : Platform := ⟨Sha256.hexDigest, fun a b => compare a.toList b.toList⟩

def organization : ScopeId := ⟨"11111111-1111-4111-8111-111111111111", by decide⟩

def workspace : ScopeId := ⟨"22222222-2222-4222-8222-222222222222", by decide⟩

/-- The user `owner` is an active member and has the organization role `owner`. -/
def directory : Directory :=
  ⟨[organization.text ++ ":owner"], [organization.text ++ ":owner:owner"]⟩

/-- A call of the user `owner`; the idempotency key is the command id. -/
def call (commandId commandName target randomUuid : String)
    (expectedVersions : List CommandExpectedVersion) (command : Command) : Call where
  envelope :=
    { commandId := commandId
      idempotencyKey := commandId
      requestHash := commandId
      organizationId := organization
      workspaceId := workspace
      commandName := commandName
      targetAggregateId := target
      actorRef := ⟨"user", "owner", "human_owner"⟩
      sourceRef := ⟨"api", "board"⟩
      authorizationVersion := 1
      correlationId := "correlation"
      causationId := none
      expectedVersions := expectedVersions }
  command := command
  randomUuid := randomUuid
  now := fun _ => 0

def draftCall (proposalId : String) : Call :=
  call ("draft-" ++ proposalId) "draftProposal" proposalId "unused" []
    (.draftProposal ⟨"Sample", .string "blocking", .undefined⟩)

def submitCall (proposalId : String) : Call :=
  call ("submit-" ++ proposalId) "submitProposal" proposalId "unused"
    [⟨"proposal", proposalId, 1⟩] (.submitProposal proposalId)

def acceptCall (proposalId ticketId : String) : Call :=
  call ("accept-" ++ proposalId) "acceptProposal" proposalId ticketId
    [⟨"proposal", proposalId, 2⟩] (.acceptProposal ⟨proposalId, "owner", .undefined⟩)

def classification : ParsedClassification := ⟨.feature, [.frontend], .p1, .medium, none⟩

def classifyCall (ticketId : String) (version : ℕ) : Call :=
  call ("classify-" ++ ticketId) "setDevTicketClassification" ticketId "unused"
    [⟨"dev_ticket", ticketId, version⟩]
    (.setDevTicketClassification ⟨ticketId, .string "feature", .array [.string "frontend"],
      .string "p1", .undefined, .string "medium", none⟩)

/-- The Ready contract of a classified ticket. -/
def contract (hasActiveDependencies : Bool) : JsRecord :=
  [("humanOwnerUserId", .string "owner"), ("classification", .object classification.toValue),
    ("changeRiskPolicy",
      (evaluateChangeRisk .feature [.frontend] hasActiveDependencies).toValue)]

/-- The approval of the ticket after its classification. -/
def approveCall (ticketId : String) (version queueVersion : ℕ)
    (hasActiveDependencies : Bool) : Call :=
  call ("approve-" ++ ticketId) "approveReadyToTodo" ticketId "unused"
    [⟨"dev_ticket", ticketId, version⟩]
    (.approveReadyToTodo
      { devTicketId := ticketId
        readyContractContent := .object (contract hasActiveDependencies)
        expectedContractVersion := 2
        expectedContractContentHash :=
          (computeReadyContractContentHash (contract hasActiveDependencies)).toOption.getD ""
        expectedTodoQueueVersion := queueVersion })

def addDependencyCall (commandId edgeId dependent blocker : String) (version version' : ℕ) : Call :=
  call commandId "addDependency" dependent edgeId
    [⟨"dev_ticket", dependent, version⟩, ⟨"dev_ticket", blocker, version'⟩]
    (.addDependency ⟨dependent, blocker, "needed first"⟩)

def removeDependencyCall (edgeId : String) : Call :=
  call ("remove-" ++ edgeId) "removeDependency" edgeId "unused" []
    (.removeDependency ⟨edgeId, 1, "no longer needed"⟩)

def archiveCall (ticketId : String) (version : ℕ) : Call :=
  call ("archive-" ++ ticketId) "archiveDevTicket" ticketId "unused"
    [⟨"dev_ticket", ticketId, version⟩] (.archiveDevTicket ⟨ticketId, "obsolete"⟩)

/-- The events that bring a ticket, from the draft of its proposal on. -/
def newTicket (proposalId ticketId : String) : List Event :=
  [.call (draftCall proposalId), .call (submitCall proposalId),
    .call (acceptCall proposalId ticketId)]

/-- The events up to two tickets, `t1` depending on `t2`. -/
def dependencyEvents : List Event :=
  .directory directory :: newTicket "p1" "t1" ++ newTicket "p2" "t2" ++
    [.call (addDependencyCall "add-e1" "e1" "t1" "t2" 1 1)]

/-- The events up to one ticket in Todo. -/
def todoEvents : List Event :=
  .directory directory :: newTicket "p1" "t1" ++
    [.call (classifyCall "t1" 1), .call (approveCall "t1" 2 1 false)]

lemma lane_todoEvents : ((runEvents World.empty todoEvents).tables.devTickets.get
    (key organization workspace "t1")).map (·.lane) = some .todo := by
  decide +kernel

end Sample

end Opzava.DevBoard
