import Opzava.DevBoard.TodoRanks

/-!
Which calls say that the rank capacity of the Todo queue is exhausted.

* `Unexhausted`: a body that does not say so; `body_unexhausted`: every body but those of
  `reorderTodo` and `approveReadyToTodo` (`reorderTodo_exhausted`, `approveReadyToTodo_exhausted`).
* `execute_exhausted`, `execute_ranked`: the same of a call, and where an accepted one leaves the
  ticket it moves.
* `todo_ranks_in_range`: the ranks in every reachable world, and when the capacity is exhausted.
-/

namespace Opzava.DevBoard

open Opzava.Library

/-- The code of the rejection for a band without ranks left. -/
def todoRankCapacityExhausted : String := "dev_board.todo_rank_capacity_exhausted"

/-- The verdict is a rejection with this code. -/
def Verdict.Rejects (code : String) : Verdict → Prop
  | .reject code' _ _ _ => code' = code
  | _ => False

/-- The body does not say that the capacity is exhausted. -/
def Unexhausted (exit : Exit) : Prop := ¬ exit.verdict.Rejects todoRankCapacityExhausted

variable {c : Context} {t : Tables} {l : Ledger}

/-! ### Walking through a body -/

namespace Unexhausted

lemma reject {code message : String} (h : code ≠ todoRankCapacityExhausted) :
    Unexhausted (DevBoard.reject code message t l) := h

lemma rejectError {error : DomainError} (h : error.code ≠ todoRankCapacityExhausted) :
    Unexhausted (DevBoard.rejectError error t l) := h

lemma rejectWith {code message : String} {extra : JsRecord} {resultRef : Option String}
    (h : code ≠ todoRankCapacityExhausted) :
    Unexhausted (DevBoard.rejectWith code message extra resultRef t l) := h

lemma accept {outcomeCode resultRef : String} {versions : List CommandExpectedVersion}
    {ids : List (String × String)} :
    Unexhausted (DevBoard.accept outcomeCode resultRef versions ids t l) := id

lemma throws {error : Thrown} : Unexhausted (DevBoard.throws error t l) := id

lemma ite {p : Prop} [Decidable p] {a b : Exit} (ha : Unexhausted a) (hb : Unexhausted b) :
    Unexhausted (if p then a else b) := by
  split
  · exact ha
  · exact hb

lemma planned {appended : Except Thrown Ledger} {next : Ledger → Exit}
    (hnext : ∀ l', Unexhausted (next l')) :
    Unexhausted (DevBoard.planned appended t l next) := by
  cases appended with
  | error error => exact throws
  | ok l' => exact hnext l'

/-- A risky mutation fails with the error of a constraint only. -/
lemma risky {α : Type} {mutation : Mutation α} {next : α → Tables → Exit}
    (hnext : ∀ a t', Unexhausted (next a t')) :
    Unexhausted (DevBoard.risky mutation t l next) := by
  rw [DevBoard.risky, executeRiskyMutation]
  split
  · next error t' heq =>
      split at heq
      · cases heq
      · split_ifs at heq <;> cases heq <;> exact rejectError (by decide)
  · exact throws
  · exact hnext _ _

lemma riskyOrDrift {α : Type} {drift : String} {mutation : Mutation α}
    {next : α → Tables → Exit} (hnext : ∀ a t', Unexhausted (next a t')) :
    Unexhausted (DevBoard.riskyOrDrift drift mutation t l next) := by
  rw [DevBoard.riskyOrDrift, executeRiskyMutation]
  split
  · next error t' heq =>
      split at heq
      · cases heq
      · split_ifs at heq <;> cases heq <;> exact rejectError (by decide)
  · exact ite (reject (by decide)) throws
  · exact hnext _ _

end Unexhausted

/-! ### The errors of the parsers -/

variable {error : DomainError}

lemma decisionReason_code {value : String} (h : decisionReason value = .error error) :
    error.code ≠ todoRankCapacityExhausted := by
  rw [decisionReason] at h
  split_ifs at h <;> cases h <;> decide

lemma normalizeDiscoverySummary_code {value : String}
    (h : normalizeDiscoverySummary value = .error error) :
    error.code ≠ todoRankCapacityExhausted := by
  rw [normalizeDiscoverySummary] at h
  split_ifs at h <;> cases h <;> decide

lemma parseBlockingAssessment_code {value : JsValue}
    (h : parseBlockingAssessment value = .error error) :
    error.code ≠ todoRankCapacityExhausted := by
  rw [parseBlockingAssessment.eq_def] at h
  split at h <;> cases h
  decide

lemma parseReadyContractContent_code [Platform] {value : JsValue}
    (h : parseReadyContractContent value = .error error) :
    error.code ≠ todoRankCapacityExhausted := by
  rw [parseReadyContractContent.eq_def] at h
  split at h
  · split at h <;> cases h
    decide
  · cases h
    decide

lemma parseEnum_code {α : Type} {text : α → String} {values : List α} {label : String}
    {value : JsValue} (h : parseEnum text values label value = .error error) :
    error.code ≠ todoRankCapacityExhausted := by
  have hcode : "dev_board.classification_invalid" ≠ todoRankCapacityExhausted := by decide
  rw [parseEnum.eq_def] at h
  split at h
  · split at h <;> cases h
    exact hcode
  · cases h
    exact hcode

lemma mapM_code {α : Type} {parse : JsValue → Except DomainError α}
    (hparse : ∀ value error, parse value = .error error → error.code ≠ todoRankCapacityExhausted) :
    ∀ {values : List JsValue}, values.mapM parse = .error error →
      error.code ≠ todoRankCapacityExhausted
  | [], h => by cases h
  | value :: rest, h => by
      rw [List.mapM_cons] at h
      cases hvalue : parse value with
      | error error' =>
          rw [hvalue] at h
          cases h
          exact hparse value _ hvalue
      | ok a =>
          cases hrest : rest.mapM parse with
          | error error' =>
              rw [hvalue, hrest] at h
              cases h
              exact mapM_code hparse hrest
          | ok as =>
              rw [hvalue, hrest] at h
              cases h

lemma normalizeWorkAreas_code {value : JsValue} (h : normalizeWorkAreas value = .error error) :
    error.code ≠ todoRankCapacityExhausted := by
  rw [normalizeWorkAreas.eq_def] at h
  split at h
  · next item items =>
      cases hparsed : (item :: items).mapM parseWorkArea with
      | error error' =>
          rw [hparsed] at h
          cases h
          exact mapM_code (fun _ _ => parseEnum_code) hparsed
      | ok parsed =>
          rw [hparsed] at h
          change (if _ then _ else _) = _ at h
          split_ifs at h
          cases h
          decide
  · cases h
    decide

lemma parseOptionalSeverity_code {value : JsValue}
    (h : parseOptionalSeverity value = .error error) :
    error.code ≠ todoRankCapacityExhausted := by
  rw [parseOptionalSeverity.eq_def] at h
  split at h
  · cases h
  · next present =>
      cases hparsed : parseSeverity value with
      | error error' =>
          rw [hparsed] at h
          cases h
          exact parseEnum_code hparsed
      | ok severity =>
          rw [hparsed] at h
          cases h

lemma parseClassification_code {input : SetDevTicketClassificationInput}
    (h : parseClassification input = .error error) : error.code ≠ todoRankCapacityExhausted := by
  rw [parseClassification] at h
  cases htype : parseDevTicketType input.type with
  | error error' =>
      rw [htype] at h
      cases h
      exact parseEnum_code htype
  | ok type =>
  cases hareas : normalizeWorkAreas input.workAreas with
  | error error' =>
      rw [htype, hareas] at h
      cases h
      exact normalizeWorkAreas_code hareas
  | ok areas =>
  cases hpriority : parsePriority input.priority with
  | error error' =>
      rw [htype, hareas, hpriority] at h
      cases h
      exact parseEnum_code hpriority
  | ok priority =>
  cases hrisk : parseChangeRisk input.declaredChangeRisk with
  | error error' =>
      rw [htype, hareas, hpriority, hrisk] at h
      cases h
      exact parseEnum_code hrisk
  | ok risk =>
  cases hseverity : parseOptionalSeverity input.severity with
  | error error' =>
      rw [htype, hareas, hpriority, hrisk, hseverity] at h
      cases h
      exact parseOptionalSeverity_code hseverity
  | ok severity =>
      rw [htype, hareas, hpriority, hrisk, hseverity] at h
      cases h

lemma dependencyEndpointFailure_code {endpoint : DevTicketRow}
    (h : dependencyEndpointFailure endpoint = some error) :
    error.code ≠ todoRankCapacityExhausted := by
  rw [dependencyEndpointFailure] at h
  split_ifs at h <;> cases h <;> decide

lemma dependencyEndpointsFailure_code {dependent blocker : DevTicketRow}
    (h : dependencyEndpointsFailure dependent blocker = some error) :
    error.code ≠ todoRankCapacityExhausted := by
  rw [dependencyEndpointsFailure, Option.or_eq_some_iff] at h
  rcases h with h | ⟨-, h⟩
  · exact dependencyEndpointFailure_code h
  · exact dependencyEndpointFailure_code h

lemma forbiddenTodoOrderingField_code {input : ReorderTodoInput}
    (h : forbiddenTodoOrderingField input = some error) :
    error.code ≠ todoRankCapacityExhausted := by
  rw [forbiddenTodoOrderingField] at h
  split_ifs at h <;> cases h <;> decide

lemma insertionIndex_code {anchor : TodoReorderAnchor} {others : List TodoQueueMembershipRow}
    (h : insertionIndex c anchor others t = .error error) :
    error.code ≠ todoRankCapacityExhausted := by
  rw [insertionIndex] at h
  by_cases hempty : anchor.kind = "empty_band"
  · rw [if_pos hempty] at h
    split at h
    · cases h
      decide
    · cases h
  · rw [if_neg hempty] at h
    dsimp only at h
    cases hneighbor : t.selectDevTicket c.envelope.organizationId c.envelope.workspaceId
        (anchor.neighborDevTicketId.getD "") with
    | none =>
        rw [hneighbor] at h
        cases h
        decide
    | some neighbor =>
    cases hindex : others.findIdx? fun member =>
        decide (member.devTicketId = anchor.neighborDevTicketId.getD "") with
    | none =>
        rw [hneighbor, hindex] at h
        cases h
        decide
    | some index =>
        rw [hneighbor, hindex] at h
        dsimp only at h
        split_ifs at h <;> cases h <;> decide

lemma parseCommandActorRef_code {actor : CommandActorRef}
    (h : parseCommandActorRef actor = .error error) : error.code ≠ todoRankCapacityExhausted := by
  rw [parseCommandActorRef] at h
  split at h
  · cases h
    decide
  · cases h

lemma admission_code {command : Command} (h : command.admission c = some error) :
    error.code ≠ todoRankCapacityExhausted := by
  have hmigration : ∀ {unauthorized : String}, migrationAdmission c unauthorized = some error →
      error.code ≠ todoRankCapacityExhausted := by
    intro unauthorized h
    have hcode : "dev_board.import_authorization_required" ≠ todoRankCapacityExhausted := by
      decide
    rw [migrationAdmission] at h
    split at h
    · next hactor =>
        cases h
        exact parseCommandActorRef_code hactor
    · split at h
      · cases h
        exact hcode
      · cases h
  cases command with
  | importLegacyDevTicket input => exact hmigration h
  | reconcileHistoricalCompletion input => exact hmigration h
  | _ => cases h

/-! ### The bodies that move no rank -/

/-- The queue guard rejects a queue that has moved on, or the body goes on. -/
lemma Unexhausted.lockTodoQueue {lane : DevTicketLane} {next : Option ℕ → Tables → Exit}
    (hnext : ∀ queueVersion t₁, Unexhausted (next queueVersion t₁)) :
    Unexhausted
      (match lockTodoQueue c.envelope lane t with
        | (.error _, t) => rejectLaneQueueDrift t l
        | (.ok queueVersion, t) => next queueVersion t) := by
  split
  · exact .reject (by decide)
  · exact hnext _ _

lemma rejectUntilGate_unexhausted {code message : String} {checkDependencyLock : Bool}
    (h : code ≠ todoRankCapacityExhausted) :
    Unexhausted (rejectUntilGate c code message checkDependencyLock t l) := by
  rw [rejectUntilGate]
  exact .ite (.rejectWith (by decide)) (.reject h)

lemma submitProposal_unexhausted (id : String) : Unexhausted (submitProposal c id t l) := by
  rw [submitProposal]
  cases proposalAtExpectedVersion t c.envelope id with
  | none => exact .reject (by decide)
  | some proposal =>
  refine .ite (.reject (by decide)) (.risky fun changed t' => ?_)
  cases changed with
  | none => exact .reject (by decide)
  | some updated => exact .accept

lemma commitReorder_unexhausted {input : ReorderTodoInput} {moved : DevTicketRow} {rank : ℤ}
    {orderedIds : List String} :
    Unexhausted (commitReorder c input moved rank orderedIds t l) := by
  rw [commitReorder]
  split
  · exact .reject (by decide)
  split
  · exact .throws
  split
  · exact .throws
  · exact .accept

section Calls

variable [Platform]

lemma draftProposal_unexhausted (input : DraftProposalInput) :
    Unexhausted (draftProposal c input t l) := by
  rw [draftProposal]
  cases hsummary : normalizeDiscoverySummary input.discoverySummary with
  | error error => exact .rejectError (normalizeDiscoverySummary_code hsummary)
  | ok summary =>
  cases hassessment : parseBlockingAssessment input.blockingAssessment with
  | error error => exact .rejectError (parseBlockingAssessment_code hassessment)
  | ok assessment =>
  cases hcontract : parseReadyContractContent (orEmptyObject input.suggestedContract) with
  | error error => exact .rejectError (parseReadyContractContent_code hcontract)
  | ok contract => exact .risky fun proposal t' => .planned fun l' => .accept

lemma acceptProposal_unexhausted (input : AcceptProposalInput) :
    Unexhausted (acceptProposal c input t l) := by
  rw [acceptProposal]
  cases proposalAtExpectedVersion t c.envelope input.proposalId with
  | none => exact .reject (by decide)
  | some proposal =>
  refine .ite (.reject (by decide)) (.ite (.reject (by decide)) ?_)
  cases hcontract : parseReadyContractContent (orEmptyObject input.initialContractContent) with
  | error error => exact .rejectError (parseReadyContractContent_code hcontract)
  | ok contract =>
  refine .risky fun mutation t' => ?_
  obtain ⟨ticket, updated⟩ := mutation
  cases updated with
  | none => exact .reject (by decide)
  | some updated => exact .planned fun l' => .accept

lemma mergeProposal_unexhausted (input : MergeProposalInput) :
    Unexhausted (mergeProposal c input t l) := by
  rw [mergeProposal]
  cases hreason : decisionReason input.reason with
  | error error => exact .rejectError (decisionReason_code hreason)
  | ok reason =>
  cases proposalAtExpectedVersion t c.envelope input.proposalId with
  | none => exact .reject (by decide)
  | some proposal =>
  cases devTicketAtExpectedVersion t c.envelope input.existingDevTicketId with
  | none => exact .reject (by decide)
  | some ticket =>
  refine .ite (.reject (by decide)) (.ite (.reject (by decide)) (.risky fun changed t' => ?_))
  cases changed with
  | none => exact .reject (by decide)
  | some updated => exact .planned fun l' => .accept

lemma rejectProposal_unexhausted (input : ProposalReasonInput) :
    Unexhausted (rejectProposal c input t l) := by
  rw [rejectProposal, decideProposal]
  cases hreason : decisionReason input.reason with
  | error error => exact .rejectError (decisionReason_code hreason)
  | ok reason =>
  cases proposalAtExpectedVersion t c.envelope input.proposalId with
  | none => exact .reject (by decide)
  | some proposal =>
  refine .ite (.reject (by decide)) (.risky fun changed t' => ?_)
  cases changed with
  | none => exact .reject (by decide)
  | some updated => exact .planned fun l' => .accept

lemma archiveProposal_unexhausted (input : ProposalReasonInput) :
    Unexhausted (archiveProposal c input t l) := by
  rw [archiveProposal]
  cases hreason : decisionReason input.reason with
  | error error => exact .rejectError (decisionReason_code hreason)
  | ok reason =>
  cases proposalAtExpectedVersion t c.envelope input.proposalId with
  | none => exact .reject (by decide)
  | some proposal =>
  refine .ite (.reject (by decide)) (.ite (.reject (by decide)) (.risky fun changed t' => ?_))
  cases changed with
  | none => exact .reject (by decide)
  | some updated => exact .planned fun l' => .accept

lemma restoreProposal_unexhausted (id : String) : Unexhausted (restoreProposal c id t l) := by
  rw [restoreProposal]
  cases proposalAtExpectedVersion t c.envelope id with
  | none => exact .reject (by decide)
  | some proposal =>
  refine .ite (.reject (by decide)) (.ite (.reject (by decide)) (.risky fun changed t' => ?_))
  cases changed with
  | none => exact .reject (by decide)
  | some updated => exact .planned fun l' => .accept

lemma archiveDevTicket_unexhausted (input : ArchiveDevTicketInput) :
    Unexhausted (archiveDevTicket c input t l) := by
  rw [archiveDevTicket]
  cases hreason : decisionReason input.reason with
  | error error => exact .rejectError (decisionReason_code hreason)
  | ok reason =>
  cases devTicketAtExpectedVersion t c.envelope input.devTicketId with
  | none => exact .reject (by decide)
  | some ticket =>
  refine .ite (.reject (by decide)) (.ite (.reject (by decide)) (.ite (.reject (by decide)) ?_))
  refine .lockTodoQueue fun queueVersion t₁ => ?_
  exact .riskyOrDrift fun mutation t' => .planned fun l' => .accept

lemma restoreDevTicket_unexhausted (id : String) : Unexhausted (restoreDevTicket c id t l) := by
  rw [restoreDevTicket]
  cases devTicketAtExpectedVersion t c.envelope id with
  | none => exact .reject (by decide)
  | some ticket =>
  refine .ite (.reject (by decide)) (.ite (.reject (by decide)) (.ite (.reject (by decide)) ?_))
  refine .risky fun changed t' => ?_
  cases changed with
  | none => exact .reject (by decide)
  | some updated => exact .planned fun l' => .accept

lemma setDevTicketClassification_unexhausted (input : SetDevTicketClassificationInput) :
    Unexhausted (setDevTicketClassification c input t l) := by
  rw [setDevTicketClassification]
  cases devTicketAtExpectedVersion t c.envelope input.devTicketId with
  | none => exact .reject (by decide)
  | some ticket =>
  refine .ite (.reject (by decide)) ?_
  cases hparsed : parseClassification input with
  | error error => exact .rejectError (parseClassification_code hparsed)
  | ok p =>
  dsimp only
  refine .ite (.reject (by decide)) (.ite (.reject (by decide)) (.ite (.reject (by decide))
    (.ite (.reject (by decide)) ?_)))
  split
  · exact .throws
  · refine .risky fun changed t' => ?_
    cases changed with
    | none => exact .reject (by decide)
    | some updated => exact .planned fun l' => .accept

lemma addDependency_unexhausted (input : AddDependencyInput) :
    Unexhausted (addDependency c input t l) := by
  rw [addDependency]
  cases hreason : decisionReason input.reason with
  | error error => exact .rejectError (decisionReason_code hreason)
  | ok reason =>
  refine .ite (.reject (by decide)) ?_
  cases t.selectDevTicketForUpdate c.envelope.organizationId c.envelope.workspaceId
      input.dependentDevTicketId with
  | none => exact .reject (by decide)
  | some dependent =>
  cases t.selectDevTicketForUpdate c.envelope.organizationId c.envelope.workspaceId
      input.blockerDevTicketId with
  | none => exact .reject (by decide)
  | some blocker =>
  cases t.selectActiveDependencyEdge c.envelope.organizationId c.envelope.workspaceId
      input.dependentDevTicketId input.blockerDevTicketId with
  | some duplicate => exact .accept
  | none =>
  refine .ite (.reject (by decide)) ?_
  cases hfailure : dependencyEndpointsFailure dependent blocker with
  | some error => exact .rejectError (dependencyEndpointsFailure_code hfailure)
  | none =>
  refine .ite (.reject (by decide)) (.ite (.reject (by decide)) ?_)
  refine .lockTodoQueue fun queueVersion t₁ => ?_
  exact .riskyOrDrift fun mutation t' => .planned fun l' => .accept

lemma removeDependency_unexhausted (input : RemoveDependencyInput) :
    Unexhausted (removeDependency c input t l) := by
  rw [removeDependency]
  cases hreason : decisionReason input.reason with
  | error error => exact .rejectError (decisionReason_code hreason)
  | ok reason =>
  cases t.selectDependencyEdge c.envelope.organizationId c.envelope.workspaceId
      input.edgeId with
  | none => exact .reject (by decide)
  | some edge =>
  refine .ite (.rejectWith (by decide)) (.ite (.reject (by decide)) ?_)
  cases t.selectDevTicketForUpdate c.envelope.organizationId c.envelope.workspaceId
      edge.dependentDevTicketId with
  | none => exact .reject (by decide)
  | some dependent =>
  cases t.selectDevTicketForUpdate c.envelope.organizationId c.envelope.workspaceId
      edge.blockerDevTicketId with
  | none => exact .reject (by decide)
  | some blocker =>
  dsimp only
  cases hfailure : dependencyEndpointsFailure dependent blocker with
  | some error => exact .rejectError (dependencyEndpointsFailure_code hfailure)
  | none =>
  refine .ite (.reject (by decide)) (.lockTodoQueue fun queueVersion t₁ => ?_)
  refine .riskyOrDrift fun mutation t' => ?_
  cases mutation with
  | none => exact .reject (by decide)
  | some mutation => exact .planned fun l' => .accept

lemma resolveExistingAlias_unexhausted (input : ImportLegacyDevTicketInput)
    (source : LegacyTaskSource) (disposition : SourceDisposition) (digest : String)
    (existingAlias : LegacyTaskAliasRow) :
    Unexhausted (resolveExistingAlias c input source disposition digest existingAlias t l) := by
  rw [resolveExistingAlias]
  split
  · exact .reject (by decide)
  · next historical hselect =>
      refine .ite (.reject (by decide)) (.ite (.reject (by decide)) (.ite ?_ ?_))
      · rw [promoteExisting]
        exact .ite (.reject (by decide)) (.risky fun mutation t' => .planned fun l' => .accept)
      · rw [resolveExisting]
        refine .ite .accept (.risky fun resolved t' => ?_)
        cases resolved with
        | none => exact .reject (by decide)
        | some resolved => exact .planned fun l' => .accept

lemma importFirst_unexhausted (input : ImportLegacyDevTicketInput)
    (source : LegacyTaskSource) (disposition : SourceDisposition) (digest : String) :
    Unexhausted (importFirst c input source disposition digest t l) := by
  rw [importFirst, executeRiskyMutation]
  split
  · next error t' heq =>
      have hcode : error.code ≠ todoRankCapacityExhausted := by
        split at heq
        · cases heq
        · split_ifs at heq <;> cases heq <;> decide
      refine .ite ?_ (.rejectError hcode)
      split
      · exact resolveExistingAlias_unexhausted input source disposition digest _
      · exact .rejectError hcode
  · exact .throws
  · exact .planned fun l' => .accept

lemma importLegacyDevTicket_unexhausted (input : ImportLegacyDevTicketInput) :
    Unexhausted (importLegacyDevTicket c input t l) := by
  rw [importLegacyDevTicket]
  cases t.selectLegacyTaskSource input.legacyTaskId with
  | none => exact .reject (by decide)
  | some source =>
  refine .ite (.reject (by decide)) (.ite (.reject (by decide)) (.ite (.reject (by decide)) ?_))
  dsimp only
  cases legacyDigest source.row with
  | error error => exact .throws
  | ok digest =>
  cases t.selectLegacyTaskAliasForUpdate c.envelope.organizationId source.id with
  | some existingAlias =>
      exact resolveExistingAlias_unexhausted input source _ digest existingAlias
  | none =>
      exact .ite (.reject (by decide)) (importFirst_unexhausted input source _ digest)

lemma reconcileHistoricalCompletion_unexhausted (input : ReconcileHistoricalCompletionInput) :
    Unexhausted (reconcileHistoricalCompletion c input t l) := by
  rw [reconcileHistoricalCompletion]
  cases t.selectHistoricalRecordForUpdate c.envelope.organizationId c.envelope.workspaceId
      input.historicalRecordId with
  | none => exact .reject (by decide)
  | some historical =>
  refine .ite (.reject (by decide)) (.ite (.reject (by decide)) (.ite (.reject (by decide)) ?_))
  refine .ite (.reject (by decide)) (.risky fun changed t' => ?_)
  cases changed with
  | none => exact .reject (by decide)
  | some updated => exact .planned fun l' => .accept

/-! ### The two bodies that move ranks -/

/-- From the locked queue on, with room for one more member. -/
lemma commitApproval_unexhausted (hk : Keyed t) {input : ApproveReadyToTodoInput}
    {ticket : DevTicketRow} {contract : JsRecord} {hash : String}
    {members : List TodoQueueMembershipRow}
    (hl : Listed t c.envelope.organizationId c.envelope.workspaceId members)
    (hfits : ¬postgresBigintMax < ((members.length : ℤ) + 2) * rankStride) :
    Unexhausted (commitApproval c input ticket contract hash t l) := by
  rw [commitApproval]
  obtain ⟨header, t₁, hlock, hstep, -⟩ := getOrLock_spec c t
  have hl₁ : Listed t₁ c.envelope.organizationId c.envelope.workspaceId members :=
    listed_congr hl fun id => by rw [hstep.todoQueueMemberships]
  rw [hlock]
  refine .ite (.reject (by decide)) ?_
  rw [listTodoQueueRanks_eq (hk.headerStep hstep) hl₁]
  dsimp only
  split
  · next hnone =>
      rw [appendRank] at hnone
      split_ifs at hnone
  · refine .risky fun changed t' => ?_
    cases changed with
    | none => exact .reject (by decide)
    | some updated =>
        dsimp only
        split
        · exact .throws
        · exact .planned fun l' => .accept

/-- A reorder is rejected for the capacity only when the members do not fit. -/
lemma reorderTodo_exhausted (hk : Keyed t) {input : ReorderTodoInput}
    {members : List TodoQueueMembershipRow}
    (hl : Listed t c.envelope.organizationId c.envelope.workspaceId members)
    (h : (reorderTodo c input t l).verdict.Rejects todoRankCapacityExhausted) :
    postgresBigintMax < ((members.length : ℤ) + 1) * rankStride := by
  by_contra hfits
  refine absurd h ?_
  show Unexhausted _
  rw [reorderTodo]
  cases hforbidden : forbiddenTodoOrderingField input with
  | some error => exact .rejectError (forbiddenTodoOrderingField_code hforbidden)
  | none =>
  refine .ite (.reject (by decide)) ?_
  cases hp : devTicketAtExpectedVersion t c.envelope input.devTicketId with
  | none => exact .reject (by decide)
  | some moved =>
  have hid := hk.devTicket_id (devTicketAtExpectedVersion_eq_some hp)
  dsimp only
  refine .ite (.reject (by decide)) ?_
  obtain ⟨header, t₁, hlock, hstep, -⟩ := getOrLock_spec c t
  have hl₁ : Listed t₁ c.envelope.organizationId c.envelope.workspaceId members :=
    listed_congr hl fun id => by rw [hstep.todoQueueMemberships]
  rw [hlock, hid, listTodoQueueRanks_eq (hk.headerStep hstep) hl₁]
  refine .ite (.reject (by decide)) ?_
  by_cases hmember : (t₁.todoQueueMembership c.envelope.organizationId c.envelope.workspaceId
      input.devTicketId).isNone = true
  · rw [if_pos hmember]
    exact .reject (by decide)
  rw [if_neg hmember]
  split
  · next error hindex => exact .rejectError (insertionIndex_code hindex)
  · next index hindex =>
      -- the moved ticket is one of the members, so the new order is as long as the old one
      have hin : input.devTicketId ∈ members.map (·.devTicketId) :=
        (hl₁.mem_ids (hk.headerStep hstep)).mpr fun hnone =>
          hmember (Option.isNone_iff_eq_none.mpr hnone)
      have hlength : (splicedIds (without input.devTicketId members) index
          input.devTicketId).length = members.length := by
        have hids := map_without input.devTicketId hl.nodup_ids
        have hpos := List.length_pos_of_mem hin
        rw [splicedIds, hids, List.length_append, List.length_cons, ← Nat.add_assoc,
          ← List.length_append, List.take_append_drop, List.length_erase_of_mem hin]
        rw [List.length_map] at hpos ⊢
        omega
      split
      · next hfull =>
          have hlonger := hfull.2
          rw [← hlength] at hfits
          exact absurd hlonger hfits
      · exact commitReorder_unexhausted

/-- An approval is rejected for the capacity only when one more member does not fit. -/
lemma approveReadyToTodo_exhausted (hk : Keyed t) {input : ApproveReadyToTodoInput}
    {members : List TodoQueueMembershipRow}
    (hl : Listed t c.envelope.organizationId c.envelope.workspaceId members)
    (h : (approveReadyToTodo c input t l).verdict.Rejects todoRankCapacityExhausted) :
    postgresBigintMax < ((members.length : ℤ) + 2) * rankStride := by
  by_contra hfits
  refine absurd h ?_
  show Unexhausted _
  rw [approveReadyToTodo]
  cases devTicketAtExpectedVersion t c.envelope input.devTicketId with
  | none => exact .reject (by decide)
  | some ticket =>
  dsimp only
  refine .ite (.reject (by decide)) (.ite (.reject (by decide)) ?_)
  cases ticket.devTicketType with
  | none => exact .reject (by decide)
  | some type =>
  refine .ite (.reject (by decide)) ?_
  cases ticket.priority with
  | none => exact .reject (by decide)
  | some priority =>
  dsimp only
  rw [approveContract]
  refine .ite (.reject (by decide)) ?_
  cases hparsed : parseReadyContractContent input.readyContractContent with
  | error error => exact .rejectError (parseReadyContractContent_code hparsed)
  | ok contract =>
  refine .ite (.reject (by decide)) ?_
  split
  · exact .throws
  · exact .reject (by decide)
  refine .ite (.reject (by decide)) ?_
  rw [approveUnderPolicy]
  split
  · refine .ite (.reject (by decide)) (.ite (.reject (by decide)) ?_)
    split
    · exact .throws
    · exact .reject (by decide)
    split
    · exact .throws
    · exact commitApproval_unexhausted hk hl hfits
  · exact .reject (by decide)

/-! ### Calls -/

/-- Any other body does not say that the capacity is exhausted. -/
lemma body_unexhausted {command : Command}
    (hreorder : ∀ input, command ≠ .reorderTodo input)
    (happrove : ∀ input, command ≠ .approveReadyToTodo input) :
    Unexhausted (command.body c t l) := by
  cases command <;> rw [Command.body]
  case draftProposal input => exact draftProposal_unexhausted input
  case submitProposal id => exact submitProposal_unexhausted id
  case acceptProposal input => exact acceptProposal_unexhausted input
  case mergeProposal input => exact mergeProposal_unexhausted input
  case rejectProposal input => exact rejectProposal_unexhausted input
  case archiveProposal input => exact archiveProposal_unexhausted input
  case restoreProposal id => exact restoreProposal_unexhausted id
  case archiveDevTicket input => exact archiveDevTicket_unexhausted input
  case restoreDevTicket id => exact restoreDevTicket_unexhausted id
  case addDependency input => exact addDependency_unexhausted input
  case removeDependency input => exact removeDependency_unexhausted input
  case reorderTodo input => exact absurd rfl (hreorder input)
  case setDevTicketClassification input => exact setDevTicketClassification_unexhausted input
  case approveReadyToTodo input => exact absurd rfl (happrove input)
  case importLegacyDevTicket input => exact importLegacyDevTicket_unexhausted input
  case reconcileHistoricalCompletion input => exact reconcileHistoricalCompletion_unexhausted input
  case claim => exact rejectUntilGate_unexhausted (by decide)
  case start => exact rejectUntilGate_unexhausted (by decide)
  case submitForReview => exact rejectUntilGate_unexhausted (by decide)
  case admitDone => exact rejectUntilGate_unexhausted (by decide)

/-- How many members the Todo queue has after a command that moves a rank. -/
def resultingMembers (members : List TodoQueueMembershipRow) : Command → Option ℕ
  | .reorderTodo _ => some members.length
  | .approveReadyToTodo _ => some (members.length + 1)
  | _ => none

/-- A call that returns the code for the first time has it from its body. -/
lemma execute_exhausted {call : Call} {w : World} {error : DomainError}
    (hout : (execute call w).1 = .returned (.error error))
    (hcode : error.code = todoRankCapacityExhausted) (hnew : ¬Replayed call w) :
    (call.command.body (call.context w) w.tables w.ledger).verdict.Rejects
      todoRankCapacityExhausted := by
  have hcase := execute_spec call w
  generalize execute call w = answer at hcase hout
  cases hcase with
  | unauthorized admission =>
      cases hout
      exact absurd hcode (admission_code admission)
  | answered admission reserved =>
      cases reserved with
      | conflict =>
          cases hout
          exact absurd hcode (by decide)
      | replayed found same finalized => exact absurd ⟨_, found, finalized⟩ hnew
      | refused opened actor =>
          cases finalizeOrThrow_returned hout
          exact absurd hcode (parseCommandActorRef_code actor)
  | ran =>
      rw [ranWorld] at hout
      cases hverdict : (call.command.body (call.context w) w.tables w.ledger).verdict with
      | accept outcomeCode resultRef versions ids =>
          rw [hverdict] at hout
          cases finalizeOrThrow_returned hout
      | reject code message extra resultRef =>
          rw [hverdict] at hout
          cases finalizeOrThrow_returned hout
          exact hcode
      | throws error =>
          rw [hverdict] at hout
          cases hout

/-- The ticket a command writes the rank of. -/
def rankedTicket : Command → Option String
  | .reorderTodo input => some input.devTicketId
  | .approveReadyToTodo input => some input.devTicketId
  | _ => none

/-- An accepted reorder or approval leaves its ticket in the queue. -/
lemma execute_ranked {call : Call} {w : World} (h : Reachable anyCall w) {result : CommandResult}
    (hout : (execute call w).1 = .returned (.ok result)) (hnew : ¬Replayed call w) {id : String}
    (hid : rankedTicket call.command = some id) :
    ∃ row, (execute call w).2.tables.todoQueueMemberships.get
      (key call.envelope.organizationId call.envelope.workspaceId id) = some row := by
  obtain ⟨t₁, r, -, happlied, -⟩ := execute_accepted (reachable_keyed h) hout hnew
  have hcoherent := reachable_todoCoherent (h.tail (.call call trivial))
  refine Option.ne_none_iff_exists'.mp ((hcoherent.members _).mpr ?_)
  generalize (execute call w).2.tables = t' at happlied
  obtain ⟨envelope, command, randomUuid, now⟩ := call
  cases happlied with
  | @reordered input moved header membership index found todo =>
      cases hid
      exact ⟨moved.bumped, OrderedMap.get_set_self _ _ _, todo⟩
  | approved =>
      cases hid
      exact ⟨_, OrderedMap.get_set_self _ _ _, rfl⟩
  | proposalMoved found move => cases move <;> cases hid
  | _ => cases hid

/-- **Ranks inside the range of the column.** In every reachable world and for every workspace:
the ranks of the Todo queue are positive and at most `2^63 - 1`, and two members have different
ranks. A call that is accepted for the first time and moves a rank leaves its ticket in the queue,
at a rank inside the range that no other member has. A call that says for the first time that the
capacity is exhausted moves a rank, and the evenly spaced layout of the members it would leave
does not fit into the range. -/
theorem todo_ranks_in_range {world : World} (h : Reachable anyCall world) :
    (∀ o w id row, world.tables.todoQueueMemberships.get (key o w id) = some row →
      (1 ≤ row.rank ∧ row.rank ≤ 2 ^ 63 - 1) ∧
        ∀ id' row', world.tables.todoQueueMemberships.get (key o w id') = some row' →
          id ≠ id' → row.rank ≠ row'.rank) ∧
      (∀ call result id, (execute call world).1 = .returned (.ok result) →
        ¬Replayed call world → rankedTicket call.command = some id →
        ∃ row, (execute call world).2.tables.todoQueueMemberships.get
            (key call.envelope.organizationId call.envelope.workspaceId id) = some row ∧
          (1 ≤ row.rank ∧ row.rank ≤ 2 ^ 63 - 1) ∧
          ∀ id' row', (execute call world).2.tables.todoQueueMemberships.get
              (key call.envelope.organizationId call.envelope.workspaceId id') = some row' →
            id ≠ id' → row.rank ≠ row'.rank) ∧
      ∀ call error, (execute call world).1 = .returned (.error error) →
        error.code = todoRankCapacityExhausted → ¬Replayed call world →
        ∃ n, resultingMembers (world.tables.listTodoQueueRanks call.envelope.organizationId
            call.envelope.workspaceId) call.command = some n ∧
          ((n : ℤ) + 1) * 1000000 > 2 ^ 63 - 1 := by
  have hranks : ∀ {world}, Reachable anyCall world → ∀ o w id row,
      world.tables.todoQueueMemberships.get (key o w id) = some row →
      (1 ≤ row.rank ∧ row.rank ≤ 2 ^ 63 - 1) ∧
        ∀ id' row', world.tables.todoQueueMemberships.get (key o w id') = some row' →
          id ≠ id' → row.rank ≠ row'.rank := by
    intro world h o w id row hget
    obtain ⟨members, hl⟩ := reachable_listed h o w
    exact ⟨reachable_ranksInRange h _ row hget,
      fun id' row' hget' => hl.rank_ne (reachable_keyed h) hget hget'⟩
  refine ⟨hranks h, fun call result id hout hnew hid => ?_, fun call error hout hcode hnew => ?_⟩
  · obtain ⟨row, hget⟩ := execute_ranked h hout hnew hid
    exact ⟨row, hget, hranks (h.tail (.call call trivial)) _ _ id row hget⟩
  · have hk := reachable_keyed h
    have hbody := execute_exhausted hout hcode hnew
    obtain ⟨members, hl⟩ :=
      reachable_listed h call.envelope.organizationId call.envelope.workspaceId
    rw [listTodoQueueRanks_eq hk hl]
    obtain ⟨envelope, command, randomUuid, now⟩ := call
    by_cases hreorder : ∃ input, command = .reorderTodo input
    · obtain ⟨input, rfl⟩ := hreorder
      exact ⟨members.length, rfl, reorderTodo_exhausted hk hl hbody⟩
    by_cases happrove : ∃ input, command = .approveReadyToTodo input
    · obtain ⟨input, rfl⟩ := happrove
      refine ⟨members.length + 1, rfl, ?_⟩
      have hfull := approveReadyToTodo_exhausted hk hl hbody
      rw [Nat.cast_succ, add_assoc]
      exact hfull
    exact absurd hbody (body_unexhausted (fun input heq => hreorder ⟨input, heq⟩)
      fun input heq => happrove ⟨input, heq⟩)

end Calls

open Sample

/-- The second addition of the sample board finds its ticket at a rank inside the range. -/
theorem todo_ranks_in_range_dependentTodo :
    ∃ row, dependentTodo.tables.todoQueueMemberships.get (key organization workspace "t1") =
      some row ∧ 1 ≤ row.rank ∧ row.rank ≤ 2 ^ 63 - 1 := by
  obtain ⟨row, hrow⟩ := Option.ne_none_iff_exists'.mp
    (show dependentTodo.tables.todoQueueMemberships.get (key organization workspace "t1") ≠ none
      by decide +kernel)
  exact ⟨row, hrow, ((todo_ranks_in_range reachable_dependentTodo).1 organization workspace "t1"
    row hrow).1⟩

end Opzava.DevBoard
