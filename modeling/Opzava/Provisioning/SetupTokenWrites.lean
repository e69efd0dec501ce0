import Opzava.Provisioning.SetupTokenRuns

/-!
The writes of a setup-token completion.

A completion checks that it still owns its flow before the first of its two writes, and goes on to
the second one without another check.

* `sparesCompletion`: no cleanup of a flow begins while its completion is between its writes.
* `WritesOk`: the invariant of such runs.
* `superseded_flow_writes_nothing`: then no write is started by a completion that has lost its flow.
-/

namespace Opzava.Provisioning

open Opzava.Library
open DevBoard (DomainError)

/-! ### The condition -/

/-- The first write was started, and the second one was not. -/
def CompletionPoint.betweenWrites : CompletionPoint → Bool
  | .onboarding | .rereadingConfig | .addingAgent => true
  | _ => false

namespace SetupTokenFlow

def betweenWrites (flow : SetupTokenFlow) : Bool :=
  (List.range flow.completions.next).any fun k =>
    (flow.completions.get k).any fun completion => completion.point.betweenWrites

def isPolling (flow : SetupTokenFlow) (p : ℕ) : Bool :=
  match flow.polls.get p with
  | some .polling => true
  | _ => false

end SetupTokenFlow

/-- No flow of the provider has a completion between its writes. -/
def SetupTokenService.sparesProvider (s : SetupTokenService) (providerId orgId : String) : Bool :=
  (List.range s.flows.next).all fun n =>
    (s.flows.get n).all fun flow =>
      !(SetupTokenService.isPendingOf providerId orgId flow && flow.betweenWrites)

/-- An event that begins the cleanup of a flow finds no completion of it between its writes: the
auth choices that a start of the same provider has waited for, a disconnect, and an error that a
poll gets from the login. -/
def sparesCompletion (s : SetupTokenService) : SetupTokenEvent → Bool
  | .choicesListed k (.ok true) =>
      match s.starts.get k with
      | some ⟨principal, providerId, .listing⟩ => s.sparesProvider providerId principal.orgId
      | _ => true
  | .disconnect orgId providerId => s.sparesProvider providerId orgId
  | .on n (.loginPolled p (.err _) _) =>
      (s.flows.get n).all fun flow => !(flow.isPolling p && flow.isCurrent && flow.betweenWrites)
  | _ => true

/-! ### The invariant -/

/-- The writes that were started found their flow current; the flow of a completion between its
writes is current. -/
structure WritesOk (flow : SetupTokenFlow) : Prop where
  single : flow.completions.next = if flow.completionInFlight then 1 else 0
  begun : flow.outcome ≠ none → flow.completionInFlight = true
  ended : flow.outcome ≠ none → ∀ k completion, flow.completions.get k = some completion →
    completion.point = .returned
  between : ∀ k completion, flow.completions.get k = some completion →
    completion.point.betweenWrites → flow.isCurrent
  submits : ∀ u submit, flow.submits.get u = some submit → submit.point = .submitting →
    submit.previousPhase ≠ .cancelling
  writes : ∀ call current, .writeStarted call current ∈ flow.facts → current = true

section Changes

variable {flow flow' : SetupTokenFlow}

lemma betweenWrites_eq_false :
    flow.betweenWrites = false ↔ ∀ k completion, flow.completions.get k = some completion →
      completion.point.betweenWrites = false := by
  simp only [SetupTokenFlow.betweenWrites, List.any_eq_false, List.mem_range, Option.any_eq_true,
    not_exists, not_and, Bool.not_eq_true]
  exact ⟨fun h k completion hk => h k (Objects.lt_next hk) completion hk,
    fun h k _ completion hk => h k completion hk⟩

lemma WritesOk.inFlight (h : WritesOk flow) {k : ℕ} {completion : SetupTokenCompletion}
    (hk : flow.completions.get k = some completion) : flow.completionInFlight = true := by
  by_contra hidle
  have hlt := Objects.lt_next hk
  rw [h.single, if_neg hidle] at hlt
  exact absurd hlt (Nat.not_lt_zero k)

lemma WritesOk.only_completion (h : WritesOk flow) {k k' : ℕ} (hk : k < flow.completions.next)
    (hk' : k' < flow.completions.next) : k = k' := by
  have hsingle := h.single
  split_ifs at hsingle <;> omega

/-- A flow that is not being completed. -/
lemma WritesOk.idle (h : WritesOk flow) (hidle : flow.completionInFlight = false) :
    flow.betweenWrites = false := by
  rw [betweenWrites_eq_false]
  intro k completion hk
  rw [h.inFlight hk] at hidle
  cases hidle

/-- A flow with an outcome. -/
lemma WritesOk.finished (h : WritesOk flow) (houtcome : flow.outcome ≠ none) :
    flow.betweenWrites = false := by
  rw [betweenWrites_eq_false]
  intro k completion hk
  rw [h.ended houtcome k completion hk]
  rfl

/-- A flow with a completion that is under way. -/
lemma WritesOk.outcome_none (h : WritesOk flow) {k : ℕ} {completion : SetupTokenCompletion}
    (hk : flow.completions.get k = some completion) (hpoint : completion.point ≠ .returned) :
    flow.outcome = none := by
  by_contra houtcome
  exact hpoint (h.ended houtcome k completion hk)

lemma WritesOk.not_current (h : WritesOk flow) (hcurrent : flow.isCurrent = false) :
    flow.betweenWrites = false := by
  rw [betweenWrites_eq_false]
  intro k completion hk
  by_contra hbetween
  rw [h.between k completion hk (by simpa using hbetween)] at hcurrent
  cases hcurrent

/-- A change that leaves the completions alone: the flow stays current, or none of them is between
its writes. -/
lemma WritesOk.keep (h : WritesOk flow)
    (hcompletions : (flow'.completions, flow'.completionInFlight, flow'.outcome) =
      (flow.completions, flow.completionInFlight, flow.outcome))
    (hcurrent : flow.isCurrent → flow'.isCurrent ∨ flow.betweenWrites = false)
    (hsubmits : ∀ u submit, flow'.submits.get u = some submit → submit.point = .submitting →
      submit.previousPhase ≠ .cancelling)
    (hfacts : ∀ call current, .writeStarted call current ∈ flow'.facts →
      .writeStarted call current ∈ flow.facts) : WritesOk flow' := by
  simp only [Prod.mk.injEq] at hcompletions
  obtain ⟨hcompletions, hflight, houtcome⟩ := hcompletions
  refine ⟨?_, ?_, ?_, ?_, hsubmits,
    fun call current hmem => h.writes call current (hfacts _ _ hmem)⟩
  · rw [hcompletions, hflight, h.single]
  · rw [hflight, houtcome]
    exact h.begun
  · rw [hcompletions, houtcome]
    exact h.ended
  · rw [hcompletions]
    intro k completion hk hbetween
    obtain hstays | hnone := hcurrent (h.between k completion hk hbetween)
    · exact hstays
    · rw [betweenWrites_eq_false.mp hnone k completion hk] at hbetween
      cases hbetween

lemma WritesOk.requestCleanup (h : WritesOk flow) (hidle : flow.betweenWrites = false) :
    WritesOk flow.requestCleanup.2 := by
  rw [SetupTokenFlow.requestCleanup]
  split
  · exact h
  · split_ifs
    · exact h.keep rfl (fun _ => .inr hidle) h.submits fun _ _ hmem => hmem
    · exact h

/-- A change of the polls, with what they have answered. -/
lemma WritesOk.setPolls (h : WritesOk flow) (polls : Objects SetupTokenPollPoint) :
    WritesOk { flow with polls := polls } :=
  h.keep rfl .inl h.submits fun _ _ hmem => hmem

lemma mem_record_writeStarted {fact : SetupTokenFact} {call : CredentialCall} {current : Bool}
    (hfact : ∀ call current, fact ≠ .writeStarted call current)
    (hmem : .writeStarted call current ∈ (flow.record fact).facts) :
    .writeStarted call current ∈ flow.facts := by
  rw [SetupTokenFlow.record, List.mem_append, List.mem_singleton] at hmem
  exact hmem.resolve_right fun heq => hfact call current heq.symm

lemma WritesOk.record (h : WritesOk flow) {fact : SetupTokenFact}
    (hfact : ∀ call current, fact ≠ .writeStarted call current) : WritesOk (flow.record fact) :=
  h.keep rfl .inl h.submits fun _ _ hmem => mem_record_writeStarted hfact hmem

lemma WritesOk.answerPoll (h : WritesOk flow) (p : ℕ) (state : SetupTokenPollState) :
    WritesOk (flow.answerPoll p state) :=
  (h.record fun _ _ heq => by cases heq).setPolls _

lemma WritesOk.cleanBeforeAnswer (h : WritesOk flow) (hidle : flow.betweenWrites = false) (p : ℕ)
    (result : Except DomainError SetupTokenPollState) :
    WritesOk (flow.cleanBeforeAnswer p result) :=
  (h.requestCleanup hidle).setPolls _

lemma WritesOk.poll (h : WritesOk flow) (now : Date) : WritesOk (flow.poll now) := by
  have hpolling : WritesOk (flow.addPoll .polling) := h.setPolls _
  unfold SetupTokenFlow.poll
  dsimp only
  split_ifs with hcancelling hexpired
  · exact h.setPolls _
  · exact hpolling.cleanBeforeAnswer (h.idle hexpired.2) _ _
  · split
    · next outcome houtcome =>
        have hidle : flow.betweenWrites = false :=
          h.finished (by rw [houtcome]; exact Option.some_ne_none _)
        exact hpolling.cleanBeforeAnswer hidle _ _
    · exact hpolling

/-! ### The completion -/

/-- The next point of a completion. -/
lemma WritesOk.setCompletion (h : WritesOk flow) {k : ℕ} {point : CompletionPoint}
    (hended : flow.outcome = none ∨ point = .returned)
    (hcurrent : point.betweenWrites → flow.isCurrent) : WritesOk (flow.setCompletion k point) := by
  refine ⟨h.single, h.begun, ?_, ?_, h.submits, h.writes⟩
  · intro houtcome k' completion hk'
    obtain ⟨old, hold, rfl⟩ := Objects.get_modify_eq_some hk'
    split_ifs
    · exact hended.resolve_left houtcome
    · exact h.ended houtcome k' old hold
  · intro k' completion hk' hbetween
    obtain ⟨old, hold, rfl⟩ := Objects.get_modify_eq_some hk'
    split_ifs at hbetween
    · exact hcurrent hbetween
    · exact h.between k' old hold hbetween

lemma WritesOk.failCompletion (h : WritesOk flow) (hnone : flow.outcome = none) (k : ℕ)
    (error : Option DomainError) : WritesOk (flow.failCompletion k error) := by
  cases error with
  | none => exact h.setCompletion (.inl hnone) nofun
  | some error => exact h.setCompletion (.inl hnone) nofun

/-- A write that finds its flow current. -/
lemma WritesOk.recordWrite (h : WritesOk flow) (hcurrent : flow.isCurrent) (call : CredentialCall) :
    WritesOk (flow.record (.writeStarted call flow.isCurrent)) := by
  refine ⟨h.single, h.begun, h.ended, h.between, h.submits, fun call' current hmem => ?_⟩
  rw [SetupTokenFlow.record, List.mem_append, List.mem_singleton] at hmem
  obtain hold | hnew := hmem
  · exact h.writes call' current hold
  · rw [(SetupTokenFact.writeStarted.inj hnew).2, hcurrent]

lemma WritesOk.beginOnboard (h : WritesOk flow) (hnone : flow.outcome = none) (k : ℕ) :
    WritesOk (flow.beginOnboard k) := by
  rw [SetupTokenFlow.beginOnboard]
  split_ifs with hcurrent
  · exact (h.recordWrite hcurrent _).setCompletion (.inl hnone) fun _ => hcurrent
  · exact h.setCompletion (.inl hnone) fun hbetween => by cases hbetween

lemma WritesOk.beginWrite (h : WritesOk flow) (hnone : flow.outcome = none)
    (hcurrent : flow.isCurrent) (k : ℕ) : WritesOk (flow.beginWrite k) :=
  (h.recordWrite hcurrent _).setCompletion (.inl hnone) nofun

lemma WritesOk.patchOr (h : WritesOk flow) (hnone : flow.outcome = none) {k : ℕ} {payload : Json}
    {patch : Option (JsonFields × List String)} {patching : CompletionPoint} {next : SetupTokenFlow}
    (hcurrent : patching.betweenWrites → flow.isCurrent) (hnext : WritesOk next) :
    WritesOk (flow.patchOr k payload patch patching next) := by
  unfold SetupTokenFlow.patchOr
  split
  · exact hnext
  · split
    · exact h.failCompletion hnone k _
    · exact h.setCompletion (.inl hnone) hcurrent

lemma WritesOk.takeConfig (h : WritesOk flow) (k : ℕ) (answer : Answer Json) :
    WritesOk (flow.takeConfig k answer) := by
  unfold SetupTokenFlow.takeConfig
  split
  · next hk =>
      have hnone := h.outcome_none hk nofun
      exact h.patchOr hnone nofun (h.beginOnboard hnone k)
  · next hk =>
      have hnone := h.outcome_none hk nofun
      have hcurrent := h.between k _ hk rfl
      exact h.patchOr hnone (fun _ => hcurrent) (h.beginWrite hnone hcurrent k)
  · next hk => exact h.failCompletion (h.outcome_none hk nofun) k _
  · next hk => exact h.failCompletion (h.outcome_none hk nofun) k _
  · next hk => exact h.failCompletion (h.outcome_none hk nofun) k _
  · next hk => exact h.failCompletion (h.outcome_none hk nofun) k _
  · exact h

lemma WritesOk.takePatched (h : WritesOk flow) (k : ℕ) (answer : Answer Unit) :
    WritesOk (flow.takePatched k answer) := by
  unfold SetupTokenFlow.takePatched
  split
  · next hk => exact h.beginOnboard (h.outcome_none hk nofun) k
  · next hk => exact h.beginWrite (h.outcome_none hk nofun) (h.between k _ hk rfl) k
  · next hk => exact h.failCompletion (h.outcome_none hk nofun) k _
  · next hk => exact h.failCompletion (h.outcome_none hk nofun) k _
  · next hk => exact h.failCompletion (h.outcome_none hk nofun) k _
  · next hk => exact h.failCompletion (h.outcome_none hk nofun) k _
  · exact h

lemma WritesOk.takeOnboarded (h : WritesOk flow) (k : ℕ)
    (answer : Answer (Except DomainError Unit)) :
    WritesOk (flow.takeOnboarded k answer) := by
  unfold SetupTokenFlow.takeOnboarded
  split
  · next hk =>
      have hnone := h.outcome_none hk nofun
      have hcurrent := h.between k _ hk rfl
      split
      · exact h.setCompletion (.inl hnone) fun _ => hcurrent
      · exact h.failCompletion hnone k _
      · exact h.failCompletion hnone k _
      · exact h.failCompletion hnone k _
  · exact h

lemma WritesOk.takeWritten (h : WritesOk flow) (k : ℕ) (answer : Answer (Except DomainError Unit)) :
    WritesOk (flow.takeWritten k answer) := by
  unfold SetupTokenFlow.takeWritten
  split
  · next hk =>
      have hnone := h.outcome_none hk nofun
      split
      · exact h.setCompletion (.inl hnone) nofun
      · exact h.failCompletion hnone k _
      · exact h.failCompletion hnone k _
      · exact h.failCompletion hnone k _
  · exact h

lemma WritesOk.takeProof (h : WritesOk flow) (k : ℕ) (answer : Answer Json) :
    WritesOk (flow.takeProof k answer) := by
  unfold SetupTokenFlow.takeProof
  split
  · next hk =>
      have hnone := h.outcome_none hk nofun
      split
      · exact h.setCompletion (.inl hnone) nofun
      · exact h.failCompletion hnone k _
      · exact h.failCompletion hnone k _
  · exact h

/-- There is one completion at most, and it has returned when its outcome is recorded. -/
lemma WritesOk.recordOutcome (h : WritesOk flow) (redact : String → String) (k : ℕ) :
    WritesOk (flow.recordOutcome redact k) := by
  unfold SetupTokenFlow.recordOutcome
  split
  · next token result hk =>
      split_ifs with hfirst
      · have hrecord : WritesOk (flow.record (.outcomeRecorded
            (SetupTokenFlow.outcomeOf redact result))) := h.record nofun
        have hreturned := hrecord.setCompletion (k := k) (.inr rfl) nofun
        refine ⟨hreturned.single, fun _ => h.inFlight hk, fun _ k' completion hk' => ?_,
          hreturned.between, hreturned.submits, hreturned.writes⟩
        obtain ⟨old, hold, rfl⟩ := Objects.get_modify_eq_some hk'
        rw [if_pos (h.only_completion (Objects.lt_next hold) (Objects.lt_next hk))]
      · exact h.setCompletion (.inr rfl) nofun
  · exact h

/-! ### The other calls -/

lemma WritesOk.startCompletion (h : WritesOk flow) (hidle : flow.completionInFlight = false)
    (mintedToken : String) (reserved : Bool) :
    WritesOk ({ flow with phase := .completing, completionInFlight := true }.startCompletion
      mintedToken reserved) := by
  have hzero : flow.completions.next = 0 := by
    rw [h.single, hidle]
    rfl
  have hrecord : WritesOk (flow.record .completionStarted) := h.record nofun
  refine ⟨congrArg (· + 1) hzero, fun _ => rfl, fun houtcome => ?_,
    fun k completion hk hbetween => ?_, h.submits, hrecord.writes⟩
  · rw [h.begun houtcome] at hidle
    cases hidle
  · obtain ⟨-, rfl⟩ | hold := Objects.get_add_eq_some hk
    · cases reserved <;> cases hbetween
    · rw [h.inFlight hold] at hidle
      cases hidle

lemma WritesOk.awaitExchange (h : WritesOk flow) (hidle : flow.betweenWrites = false) (p : ℕ)
    (now : Date) : WritesOk (flow.awaitExchange p now) := by
  rw [SetupTokenFlow.awaitExchange]
  split_ifs
  · exact h.answerPoll p _
  · exact h.cleanBeforeAnswer hidle p _

lemma WritesOk.readLoginState (h : WritesOk flow) (hidle : flow.completionInFlight = false)
    (p : ℕ) (state : SetupTokenLoginState) (now : Date) (reserved : Bool) :
    WritesOk (flow.readLoginState p state now reserved) := by
  have hfree : flow.betweenWrites = false := h.idle hidle
  cases state with
  | completed setupToken => exact (h.startCompletion hidle setupToken reserved).answerPoll p _
  | terminalFailure reason => exact h.cleanBeforeAnswer hfree p _
  | unavailable => exact h.cleanBeforeAnswer hfree p _
  | awaitingCode authorizeUrl =>
      rw [SetupTokenFlow.readLoginState]
      split_ifs
      · exact h.awaitExchange hfree p now
      · have hasked : WritesOk
            { flow with phase := .awaitingCode, authorizeUrl := some authorizeUrl } :=
          h.keep rfl (fun _ => .inr hfree) h.submits fun _ _ hmem => hmem
        exact hasked.answerPoll p _
  | pending =>
      rw [SetupTokenFlow.readLoginState]
      split_ifs
      · exact h.awaitExchange hfree p now
      · exact h.answerPoll p _

/-- An error of the login begins a cleanup; the condition is about it. -/
lemma WritesOk.takeLoginState (h : WritesOk flow) {p : ℕ} {answer : Answer SetupTokenLoginState}
    (hspared : ∀ error, answer = .err error → flow.isPolling p → flow.isCurrent →
      flow.betweenWrites = false) (now : Date) (reserved : Bool) :
    WritesOk (flow.takeLoginState p answer now reserved) := by
  unfold SetupTokenFlow.takeLoginState
  split
  · next hpoll =>
      have hpolling : flow.isPolling p = true := by rw [SetupTokenFlow.isPolling, hpoll]
      split
      · exact h.setPolls _
      · next error =>
          split_ifs with hcurrent
          · exact h.cleanBeforeAnswer (hspared error rfl hpolling hcurrent) p _
          · exact h.answerPoll p _
      · split_ifs with hcurrent
        · exact h.readLoginState hcurrent.2 p _ now reserved
        · exact h.answerPoll p _
  · exact h

lemma WritesOk.takeCleaned (h : WritesOk flow) (p : ℕ) : WritesOk (flow.takeCleaned p) := by
  unfold SetupTokenFlow.takeCleaned
  split
  · split
    · exact h.answerPoll p _
    · exact h.setPolls _
    · exact h.setPolls _
    · exact h
  · exact h

/-- A submission that is added finds a phase that is not cancelling, or is answered at once. -/
lemma WritesOk.addSubmit (h : WritesOk flow) {point : SubmitPoint}
    (hphase : point = .submitting → flow.phase ≠ .cancelling) :
    WritesOk (flow.addSubmit point) := by
  refine h.keep rfl .inl ?_ fun _ _ hmem => hmem
  intro u submit hsubmit hsubmitting
  obtain ⟨-, rfl⟩ | hold := Objects.get_add_eq_some hsubmit
  · exact hphase hsubmitting
  · exact h.submits u submit hold hsubmitting

lemma WritesOk.submit (h : WritesOk flow) (code : String) (now : Date) :
    WritesOk (flow.submit code now) := by
  unfold SetupTokenFlow.submit
  dsimp only
  split_ifs with hcancelling hlength htaken
  · exact h.addSubmit nofun
  · exact h.addSubmit nofun
  · exact h.addSubmit nofun
  · have hsubmitted : WritesOk (flow.addSubmit .submitting) := h.addSubmit fun _ => hcancelling
    rw [not_or, Bool.not_eq_true] at htaken
    exact hsubmitted.keep rfl (fun _ => .inr (h.idle htaken.2)) hsubmitted.submits
      fun _ _ hmem => hmem

lemma WritesOk.setSubmit (h : WritesOk flow) (u : ℕ) {point : SubmitPoint}
    (hpoint : point ≠ .submitting) : WritesOk (flow.setSubmit u point) := by
  refine h.keep rfl .inl ?_ fun _ _ hmem => hmem
  intro u' submit hsubmit hsubmitting
  obtain ⟨old, hold, rfl⟩ := Objects.get_modify_eq_some hsubmit
  split_ifs at hsubmitting ⊢
  · exact absurd hsubmitting hpoint
  · exact h.submits u' old hold hsubmitting

lemma WritesOk.takeSubmitAnswer (h : WritesOk flow) (u : ℕ) (answer : Answer Unit) :
    WritesOk (flow.takeSubmitAnswer u answer) := by
  unfold SetupTokenFlow.takeSubmitAnswer
  split
  · next previousPhase previousCodeSubmittedAt hsubmit =>
      have hprevious : previousPhase ≠ .cancelling := h.submits u _ hsubmit rfl
      split
      · have haccepted : WritesOk (flow.record .codeAccepted) :=
          h.record fun _ _ hsame => by cases hsame
        exact haccepted.setSubmit u fun hsame => by cases hsame
      · next error =>
          have hanswered : WritesOk (flow.setSubmit u (.answered (.error error))) :=
            h.setSubmit u fun hsame => by cases hsame
          split_ifs with hcurrent
          · refine hanswered.keep rfl (fun _ => .inl ?_) hanswered.submits fun _ _ hmem => hmem
            rw [SetupTokenFlow.isCurrent, Bool.and_eq_true] at hcurrent ⊢
            exact ⟨hcurrent.1, by simpa using hprevious⟩
          · exact h.setSubmit u fun hsame => by cases hsame
      · exact h.setSubmit u fun hsame => by cases hsame
  · exact h

/-- The end of a cancel. -/
lemma WritesOk.takeCancelAnswer (h : WritesOk flow) (c : ℕ) (answer : Answer Unit) :
    WritesOk (flow.takeCancelAnswer c answer) := by
  have hcancelling : flow.phase = .cancelling → flow.isCurrent = false := by
    intro hphase
    simp [SetupTokenFlow.isCurrent, hphase]
  have hrestore : ∀ previousPhase, WritesOk (flow.restorePhase previousPhase) := by
    intro previousPhase
    rw [SetupTokenFlow.restorePhase]
    split_ifs with hphase
    · have hfree : flow.betweenWrites = false := h.not_current (hcancelling hphase.2)
      exact h.keep rfl (fun _ => .inr hfree) h.submits fun _ _ hmem => hmem
    · exact h
  have hsettle : ∀ {flow : SetupTokenFlow}, WritesOk flow → ∀ result,
      WritesOk (flow.settleCleanup c result) :=
    fun h result => h.keep rfl .inl h.submits fun _ _ hmem => hmem
  unfold SetupTokenFlow.takeCancelAnswer
  split
  · split
    · have hstopped : WritesOk (flow.record .stopConfirmed) :=
        h.record fun _ _ hsame => by cases hsame
      have hconfirmed : WritesOk ((flow.record .stopConfirmed).settleCleanup c (.ok ())) :=
        hsettle hstopped _
      dsimp only
      split_ifs with hphase
      · have hfree : flow.betweenWrites = false := h.not_current (hcancelling hphase.2)
        exact hconfirmed.keep rfl (fun _ => .inr hfree) hconfirmed.submits fun _ _ hmem => hmem
      · exact hconfirmed
    · exact hsettle (hrestore _) _
    · exact hsettle (hrestore _) _
  · exact h

lemma WritesOk.retireCleanup (h : WritesOk flow) : WritesOk flow.retireCleanup := by
  unfold SetupTokenFlow.retireCleanup
  split
  · exact h.keep rfl .inl h.submits fun _ _ hmem => hmem
  · exact h

lemma WritesOk.expiryTimer (h : WritesOk flow) : WritesOk flow.expiryTimer := by
  have hfired : WritesOk { flow with timeout := false } :=
    h.keep rfl .inl h.submits fun _ _ hmem => hmem
  rw [SetupTokenFlow.expiryTimer]
  dsimp only
  split_ifs with htimeout hidle
  · exact hfired.requestCleanup (h.idle hidle.2)
  · exact hfired
  · exact h

lemma WritesOk.outcomeTimer (h : WritesOk flow) : WritesOk flow.outcomeTimer := by
  have hfired : WritesOk { flow with outcomeCleanupTimeout := none } :=
    h.keep rfl .inl h.submits fun _ _ hmem => hmem
  unfold SetupTokenFlow.outcomeTimer
  split
  · exact h
  · dsimp only
    split_ifs with hcurrent
    · have hcleaned := hfired.requestCleanup
        (h.finished (Option.ne_none_iff_isSome.mpr hcurrent.2))
      exact hcleaned.keep rfl .inl hcleaned.submits fun _ _ hmem => hmem
    · exact hfired

lemma WritesOk.takeOutcomeCleanup (h : WritesOk flow) (w : ℕ) :
    WritesOk (flow.takeOutcomeCleanup w) := by
  unfold SetupTokenFlow.takeOutcomeCleanup
  split
  · dsimp only
    split
    · split_ifs
      all_goals exact h.keep rfl .inl h.submits fun _ _ hmem => hmem
    · exact h.keep rfl .inl h.submits fun _ _ hmem => hmem
    · exact h
  · exact h

lemma writesOk_new (principal : ConnectionProvisioningPrincipal) (providerId : String)
    (now : Date) : WritesOk (.new principal providerId now) where
  single := rfl
  begun houtcome := absurd rfl houtcome
  ended houtcome := absurd rfl houtcome
  between k completion hk := by cases hk
  submits u submit hsubmit := by cases hsubmit
  writes call current hmem := absurd hmem List.not_mem_nil

end Changes

/-! ### Steps -/

/-- The invariant of the service. -/
def SetupTokenWritesOk (s : SetupTokenService) : Prop :=
  ∀ n flow, s.flows.get n = some flow → WritesOk flow

section Steps

variable {redact : String → String} {s : SetupTokenService} {flow : SetupTokenFlow}

lemma WritesOk.flowStep (h : WritesOk flow) {event : SetupTokenFlowEvent}
    (hspared : ∀ p error now, event = .loginPolled p (.err error) now → flow.isPolling p →
      flow.isCurrent → flow.betweenWrites = false) (reserved : Bool) :
    WritesOk (setupTokenFlowStep redact reserved flow event) := by
  cases event with
  | poll orgId now =>
      rw [setupTokenFlowStep]
      split_ifs
      · exact h.poll now
      · exact h
  | loginPolled p answer now =>
      refine h.takeLoginState (fun error heq => ?_) now reserved
      subst heq
      exact hspared p error now rfl
  | cleaned p => exact h.takeCleaned p
  | submit orgId code now =>
      rw [setupTokenFlowStep]
      split_ifs
      · exact h.submit code now
      · exact h
  | codeSubmitted u answer => exact h.takeSubmitAnswer u answer
  | configRead k answer => exact h.takeConfig k answer
  | configPatched k answer => exact h.takePatched k answer
  | onboarded k answer => exact h.takeOnboarded k answer
  | credentialWritten k answer => exact h.takeWritten k answer
  | proved k answer => exact h.takeProof k answer
  | completed k => exact h.recordOutcome redact k
  | cancelled c answer => exact h.takeCancelAnswer c answer
  | cleanupSettled => exact h.retireCleanup
  | expiryTimer => exact h.expiryTimer
  | outcomeTimer => exact h.outcomeTimer
  | outcomeCleaned w => exact h.takeOutcomeCleanup w

lemma SetupTokenWritesOk.cleanupFlows (h : SetupTokenWritesOk s) {providerId orgId : String}
    (hspared : s.sparesProvider providerId orgId) :
    SetupTokenWritesOk (s.cleanupFlowsForProvider providerId orgId) := by
  intro n flow' hflow'
  obtain ⟨flow, hflow, rfl⟩ := Objects.get_modifyAll_eq_some hflow'
  have hok := h n flow hflow
  split_ifs with hpending
  · refine hok.requestCleanup ?_
    rw [SetupTokenService.sparesProvider, List.all_eq_true] at hspared
    have hflowSpared := hspared n (List.mem_range.mpr (Objects.lt_next hflow))
    rw [hflow, Option.all_some, hpending, Bool.true_and, Bool.not_eq_true'] at hflowSpared
    exact hflowSpared
  · exact hok

lemma setupTokenWritesOk_step (s : SetupTokenService) (event : SetupTokenEvent)
    (h : SetupTokenWritesOk s) (hevent : sparesCompletion s event = true) :
    SetupTokenWritesOk ((setupTokenMachine redact).step s event) := by
  change SetupTokenWritesOk (setupTokenStep redact s event)
  cases event with
  | start principal providerId pending =>
      rw [setupTokenStep, SetupTokenService.start]
      split_ifs
      · exact h
      · exact h
  | choicesListed k answer =>
      rw [setupTokenStep, SetupTokenService.takeChoices]
      split
      · next principal providerId hstart =>
          split
          · rw [sparesCompletion, hstart] at hevent
            exact h.cleanupFlows hevent
          · exact h
      · exact h
  | replaced k =>
      rw [setupTokenStep, SetupTokenService.takeReplaced]
      split
      · dsimp only
        split_ifs
        all_goals exact h
      · exact h
  | loginBegun k answer now =>
      rw [setupTokenStep, SetupTokenService.takeLogin]
      split
      · split
        · intro n flow hflow
          obtain ⟨-, rfl⟩ | hold := Objects.get_add_eq_some hflow
          · exact writesOk_new _ _ now
          · exact h n flow hold
        · exact h
      · exact h
  | disconnect orgId providerId => exact h.cleanupFlows hevent
  | on n event =>
      rw [setupTokenStep, SetupTokenService.takeFlowEvent]
      split
      · exact h
      · next flow hflow =>
          have hstep : WritesOk (setupTokenFlowStep redact
              (s.providerWriteReserved (configWriteKey flow.principal.orgId)) flow event) := by
            refine (h n flow hflow).flowStep (fun p error now heq hpolling hcurrent => ?_) _
            subst heq
            simpa [sparesCompletion, hflow, hpolling, hcurrent] using hevent
          intro m flow' hflow'
          obtain ⟨old, hold, rfl⟩ := Objects.get_modify_eq_some hflow'
          split_ifs
          · exact hstep
          · exact h m old hold
  | acquire key => exact h
  | release key => exact h

lemma setupTokenWritesOk_initial : SetupTokenWritesOk .initial := by
  intro n flow hflow
  cases hflow

end Steps

/-! ### The writes -/

/-- Every call with a minted token was started while its flow was in the map and not being
cancelled. -/
def WritesCurrent (s : SetupTokenService) : Prop :=
  ∀ n flow, s.flows.get n = some flow →
    ∀ call current, .writeStarted call current ∈ flow.facts → current = true

/-- **A superseded flow writes no credential**: in every run in which no cleanup begins between
the two writes of a completion of its flow, each write is started while the flow is current. -/
theorem superseded_flow_writes_nothing (redact : String → String) (events : List SetupTokenEvent)
    (h : (setupTokenMachine redact).EachStep (fun s event => sparesCompletion s event = true)
      .initial events) :
    (setupTokenMachine redact).Always WritesCurrent .initial events :=
  (EventMachine.always_of_eachStep setupTokenWritesOk_step setupTokenWritesOk_initial h).mono
    fun _ hok n flow hflow => (hok n flow hflow).writes

/-! ### Runs -/

namespace SetupTokenRuns

def owner : ConnectionProvisioningPrincipal := ⟨"org", "workspace", "user", ["owner"]⟩

/-- An answer of `config.get` without plugins and agents. -/
def configuration : Json := .object [("hash", .string "h1")]

/-- A flow whose login ends while a second start of the provider waits for the auth choices; its
completion has started its first write. -/
def onboarding : List SetupTokenEvent :=
  [.start owner "anthropic" false, .choicesListed 0 (.ok true), .replaced 0,
    .loginBegun 0 (.ok ()) 0, .start owner "anthropic" false, .on 0 (.poll "org" 1000),
    .on 0 (.loginPolled 0 (.ok (.completed "token")) 1001),
    .on 0 (.configRead 0 (.ok configuration))]

/-- The completion goes on to its second write. -/
def writing : List SetupTokenEvent :=
  [.on 0 (.onboarded 0 (.ok (.ok ()))), .on 0 (.configRead 0 (.ok configuration)),
    .on 0 (.configPatched 0 (.ok ()))]

/-- The second start gets the auth choices and cleans the flow up; its login is stopped. -/
def replacing : List SetupTokenEvent := [.choicesListed 1 (.ok true), .on 0 (.cancelled 0 (.ok ()))]

end SetupTokenRuns

open SetupTokenRuns in
theorem superseded_flow_writes_nothing_replacing :
    (setupTokenMachine id).Always WritesCurrent .initial (onboarding ++ writing ++ replacing) :=
  superseded_flow_writes_nothing id _ (by decide)

open SetupTokenRuns in
/-- The second start replaces the flow between its two writes. -/
theorem replaced_flow_writes_credential :
    ¬ (setupTokenMachine id).Always WritesCurrent .initial
      (onboarding ++ replacing ++ writing) := by
  intro h
  have hcurrent := h.outcome 0 _ rfl .writeAgentCredential false
    (List.mem_of_getElem? (i := 4) rfl)
  cases hcurrent

end Opzava.Provisioning
