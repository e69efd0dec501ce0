import Opzava.Provisioning.SetupTokenRuns

/-!
The state machine of the setup-token flows.

* `FlowChange`: what an event does to the cleanups and to the outcome of a flow.
* `SetupTokenLawful`: what a flow shows at any time.
* `setup_token_state_machine`: what every run keeps.
-/

namespace Opzava.Provisioning

open Opzava.Library
open DevBoard (DomainError)

/-! ### What an event does to the cleanups and to the outcome -/

/-- An event keeps the cleanups of a flow, or it begins one, or it settles one. -/
inductive FlowChange (flow flow' : SetupTokenFlow) : Prop
  | kept (hcleanups : flow'.cleanups = flow.cleanups)
      (houtcome : flow'.outcome = flow.outcome ∨ flow.outcome = none)
  | requested (hcleanups : flow'.cleanups = flow.requestCleanup.2.cleanups)
      (houtcome : flow'.outcome = flow.outcome)
  | settled (c : ℕ) (result : Except DomainError Unit)
      (hcleanups : flow'.cleanups = (flow.settleCleanup c result).cleanups)
      (houtcome : flow'.outcome = flow.outcome)

section Changes

variable {flow flow' : SetupTokenFlow}

lemma FlowChange.outcome (h : FlowChange flow flow') {outcome : SetupTokenPollState}
    (houtcome : flow.outcome = some outcome) : flow'.outcome = some outcome := by
  cases h with
  | kept _ heq =>
      obtain heq | hnone := heq
      · rw [heq, houtcome]
      · rw [hnone] at houtcome
        cases houtcome
  | requested _ heq => rw [heq, houtcome]
  | settled _ _ _ heq => rw [heq, houtcome]

/-- A cleanup keeps the phase that it will put back. -/
lemma FlowChange.previousPhase (h : FlowChange flow flow') {c : ℕ} {cleanup : SetupTokenCleanup}
    (hcleanup : flow.cleanups.get c = some cleanup) :
    ∃ cleanup', flow'.cleanups.get c = some cleanup' ∧
      cleanup'.previousPhase = cleanup.previousPhase := by
  cases h with
  | kept heq _ => exact ⟨cleanup, by rw [heq, hcleanup], rfl⟩
  | requested heq _ =>
      refine ⟨cleanup, ?_, rfl⟩
      rw [heq, SetupTokenFlow.requestCleanup]
      split
      · exact hcleanup
      · split_ifs
        · exact Objects.get_add_of_some hcleanup
        · exact hcleanup
  | settled m result heq _ =>
      by_cases hc : c = m
      · subst hc
        refine ⟨{ cleanup with point := .settled result }, ?_, rfl⟩
        rw [heq]
        exact Objects.get_modify_of_some hcleanup
      · refine ⟨cleanup, ?_, rfl⟩
        rw [heq]
        exact (Objects.get_modify_of_ne hc).trans hcleanup

/-- A cleanup that begins will put back the phase that the flow has. -/
lemma FlowChange.begun (h : FlowChange flow flow') {c : ℕ} {cleanup : SetupTokenCleanup}
    (hnone : flow.cleanups.get c = none) (hcleanup : flow'.cleanups.get c = some cleanup) :
    cleanup.previousPhase = flow.phase := by
  have habsent : flow.cleanups.get c ≠ some cleanup := by simp [hnone]
  cases h with
  | kept heq _ => exact absurd (heq ▸ hcleanup) habsent
  | requested heq _ =>
      rw [heq, SetupTokenFlow.requestCleanup] at hcleanup
      split at hcleanup
      · exact absurd hcleanup habsent
      · split_ifs at hcleanup
        · obtain ⟨-, rfl⟩ | hold := Objects.get_add_eq_some hcleanup
          · rfl
          · exact absurd hold habsent
        · exact absurd hcleanup habsent
  | settled m result heq _ =>
      rw [heq] at hcleanup
      obtain ⟨old, hold, -⟩ := Objects.get_modify_eq_some hcleanup
      rw [hnone] at hold
      cases hold

lemma requestCleanup_outcome : flow.requestCleanup.2.outcome = flow.outcome := by
  rw [SetupTokenFlow.requestCleanup]
  split
  · rfl
  · split_ifs <;> rfl

/-- A cleanup that is asked for of the flow with other polls, timers or facts. -/
lemma FlowChange.of_base (base : SetupTokenFlow)
    (hbase : (base.cleanup, base.mapped, base.phase, base.cleanups, base.outcome) =
      (flow.cleanup, flow.mapped, flow.phase, flow.cleanups, flow.outcome))
    (hcleanups : flow'.cleanups = base.requestCleanup.2.cleanups)
    (houtcome : flow'.outcome = base.requestCleanup.2.outcome) : FlowChange flow flow' := by
  simp only [Prod.mk.injEq] at hbase
  obtain ⟨hcleanup, hmapped, hphase, hold, holdOutcome⟩ := hbase
  refine .requested (hcleanups.trans ?_)
    ((houtcome.trans requestCleanup_outcome).trans holdOutcome)
  simp only [SetupTokenFlow.requestCleanup, hcleanup, hmapped, hphase, hold]
  split
  · exact hold
  · split_ifs
    · rfl
    · exact hold

lemma FlowChange.poll (now : Date) : FlowChange flow (flow.poll now) := by
  unfold SetupTokenFlow.poll
  dsimp only
  split_ifs
  · exact .kept rfl (.inl rfl)
  · exact .of_base (flow.addPoll .polling) rfl rfl rfl
  · split
    · exact .of_base (flow.addPoll .polling) rfl rfl rfl
    · exact .kept rfl (.inl rfl)

lemma FlowChange.awaitExchange (p : ℕ) (now : Date) :
    FlowChange flow (flow.awaitExchange p now) := by
  rw [SetupTokenFlow.awaitExchange]
  split_ifs
  · exact .kept rfl (.inl rfl)
  · exact .requested rfl requestCleanup_outcome

lemma FlowChange.readLoginState (p : ℕ) (state : SetupTokenLoginState) (now : Date)
    (reserved : Bool) : FlowChange flow (flow.readLoginState p state now reserved) := by
  cases state with
  | completed setupToken => exact .kept rfl (.inl rfl)
  | terminalFailure reason => exact .requested rfl requestCleanup_outcome
  | unavailable => exact .requested rfl requestCleanup_outcome
  | awaitingCode authorizeUrl =>
      rw [SetupTokenFlow.readLoginState]
      split_ifs
      · exact .awaitExchange p now
      · exact .kept rfl (.inl rfl)
  | pending =>
      rw [SetupTokenFlow.readLoginState]
      split_ifs
      · exact .awaitExchange p now
      · exact .kept rfl (.inl rfl)

lemma FlowChange.takeLoginState (p : ℕ) (answer : Answer SetupTokenLoginState) (now : Date)
    (reserved : Bool) : FlowChange flow (flow.takeLoginState p answer now reserved) := by
  unfold SetupTokenFlow.takeLoginState
  split
  · split
    · exact .kept rfl (.inl rfl)
    · split_ifs
      · exact .requested rfl requestCleanup_outcome
      · exact .kept rfl (.inl rfl)
    · split_ifs
      · exact .readLoginState p _ now reserved
      · exact .kept rfl (.inl rfl)
  · exact .kept rfl (.inl rfl)

lemma FlowChange.takeCleaned (p : ℕ) : FlowChange flow (flow.takeCleaned p) := by
  unfold SetupTokenFlow.takeCleaned
  split
  · split <;> exact .kept rfl (.inl rfl)
  · exact .kept rfl (.inl rfl)

lemma FlowChange.submit (code : String) (now : Date) : FlowChange flow (flow.submit code now) := by
  unfold SetupTokenFlow.submit
  dsimp only
  split_ifs <;> exact .kept rfl (.inl rfl)

lemma FlowChange.takeSubmitAnswer (u : ℕ) (answer : Answer Unit) :
    FlowChange flow (flow.takeSubmitAnswer u answer) := by
  unfold SetupTokenFlow.takeSubmitAnswer
  split
  · split
    · exact .kept rfl (.inl rfl)
    · split_ifs <;> exact .kept rfl (.inl rfl)
    · exact .kept rfl (.inl rfl)
  · exact .kept rfl (.inl rfl)

lemma FlowChange.failCompletion (k : ℕ) (error : Option DomainError) :
    FlowChange flow (flow.failCompletion k error) := by
  cases error <;> exact .kept rfl (.inl rfl)

lemma FlowChange.beginOnboard (k : ℕ) : FlowChange flow (flow.beginOnboard k) := by
  rw [SetupTokenFlow.beginOnboard]
  split_ifs <;> exact .kept rfl (.inl rfl)

lemma FlowChange.patchOr {k : ℕ} {payload : Json} {patch : Option (JsonFields × List String)}
    {patching : CompletionPoint} (h : FlowChange flow flow') :
    FlowChange flow (flow.patchOr k payload patch patching flow') := by
  unfold SetupTokenFlow.patchOr
  split
  · exact h
  · split
    · exact .failCompletion k _
    · exact .kept rfl (.inl rfl)

lemma FlowChange.takeConfig (k : ℕ) (answer : Answer Json) :
    FlowChange flow (flow.takeConfig k answer) := by
  unfold SetupTokenFlow.takeConfig
  split
  · exact .patchOr (.beginOnboard k)
  · exact .patchOr (.kept rfl (.inl rfl))
  · exact .failCompletion k _
  · exact .failCompletion k _
  · exact .failCompletion k _
  · exact .failCompletion k _
  · exact .kept rfl (.inl rfl)

lemma FlowChange.takePatched (k : ℕ) (answer : Answer Unit) :
    FlowChange flow (flow.takePatched k answer) := by
  unfold SetupTokenFlow.takePatched
  split
  · exact .beginOnboard k
  · exact .kept rfl (.inl rfl)
  · exact .failCompletion k _
  · exact .failCompletion k _
  · exact .failCompletion k _
  · exact .failCompletion k _
  · exact .kept rfl (.inl rfl)

lemma FlowChange.takeOnboarded (k : ℕ) (answer : Answer (Except DomainError Unit)) :
    FlowChange flow (flow.takeOnboarded k answer) := by
  unfold SetupTokenFlow.takeOnboarded
  split
  · split
    · exact .kept rfl (.inl rfl)
    · exact .failCompletion k _
    · exact .failCompletion k _
    · exact .failCompletion k _
  · exact .kept rfl (.inl rfl)

lemma FlowChange.takeWritten (k : ℕ) (answer : Answer (Except DomainError Unit)) :
    FlowChange flow (flow.takeWritten k answer) := by
  unfold SetupTokenFlow.takeWritten
  split
  · split
    · exact .kept rfl (.inl rfl)
    · exact .failCompletion k _
    · exact .failCompletion k _
    · exact .failCompletion k _
  · exact .kept rfl (.inl rfl)

lemma FlowChange.takeProof (k : ℕ) (answer : Answer Json) :
    FlowChange flow (flow.takeProof k answer) := by
  unfold SetupTokenFlow.takeProof
  split
  · split
    · exact .kept rfl (.inl rfl)
    · exact .failCompletion k _
    · exact .failCompletion k _
  · exact .kept rfl (.inl rfl)

/-- The one change of an outcome. -/
lemma FlowChange.recordOutcome (redact : String → String) (k : ℕ) :
    FlowChange flow (flow.recordOutcome redact k) := by
  unfold SetupTokenFlow.recordOutcome
  split
  · split_ifs with hcurrent
    · exact .kept rfl (.inr (Option.isNone_iff_eq_none.mp hcurrent.2))
    · exact .kept rfl (.inl rfl)
  · exact .kept rfl (.inl rfl)

lemma FlowChange.takeCancelAnswer (c : ℕ) (answer : Answer Unit) :
    FlowChange flow (flow.takeCancelAnswer c answer) := by
  have hrestore : ∀ previousPhase, (flow.restorePhase previousPhase).cleanups = flow.cleanups ∧
      (flow.restorePhase previousPhase).outcome = flow.outcome := by
    intro previousPhase
    rw [SetupTokenFlow.restorePhase]
    split_ifs <;> exact ⟨rfl, rfl⟩
  unfold SetupTokenFlow.takeCancelAnswer
  split
  · next previousPhase _ =>
      obtain ⟨hcleanups, houtcome⟩ := hrestore previousPhase
      split
      · dsimp only
        split_ifs <;> exact .settled c (.ok ()) rfl rfl
      · next error =>
          refine .settled c (if flow.mapped then .error error else .ok ()) ?_ houtcome
          rw [SetupTokenFlow.settleCleanup, hcleanups]
          rfl
      · refine .settled c (.error ⟨"runtime_stop_failed", ""⟩) ?_ houtcome
        rw [SetupTokenFlow.settleCleanup, hcleanups]
        rfl
  · exact .kept rfl (.inl rfl)

lemma FlowChange.retireCleanup : FlowChange flow flow.retireCleanup := by
  unfold SetupTokenFlow.retireCleanup
  split <;> exact .kept rfl (.inl rfl)

lemma FlowChange.expiryTimer : FlowChange flow flow.expiryTimer := by
  rw [SetupTokenFlow.expiryTimer]
  dsimp only
  split_ifs
  · exact .of_base { flow with timeout := false } rfl rfl rfl
  · exact .kept rfl (.inl rfl)
  · exact .kept rfl (.inl rfl)

lemma FlowChange.outcomeTimer : FlowChange flow flow.outcomeTimer := by
  unfold SetupTokenFlow.outcomeTimer
  split
  · exact .kept rfl (.inl rfl)
  · dsimp only
    split_ifs
    · exact .of_base { flow with outcomeCleanupTimeout := none } rfl rfl rfl
    · exact .kept rfl (.inl rfl)

lemma FlowChange.takeOutcomeCleanup (w : ℕ) : FlowChange flow (flow.takeOutcomeCleanup w) := by
  unfold SetupTokenFlow.takeOutcomeCleanup
  split
  · dsimp only
    split
    · split_ifs <;> exact .kept rfl (.inl rfl)
    · exact .kept rfl (.inl rfl)
    · exact .kept rfl (.inl rfl)
  · exact .kept rfl (.inl rfl)

lemma FlowStep.change {redact : String → String} (h : FlowStep redact flow flow') :
    FlowChange flow flow' := by
  obtain rfl | rfl | ⟨reserved, event, rfl⟩ := h
  · exact .kept rfl (.inl rfl)
  · exact .requested rfl requestCleanup_outcome
  · cases event with
    | poll orgId now =>
        rw [setupTokenFlowStep]
        split_ifs
        · exact .poll now
        · exact .kept rfl (.inl rfl)
    | loginPolled p answer now => exact .takeLoginState p answer now reserved
    | cleaned p => exact .takeCleaned p
    | submit orgId code now =>
        rw [setupTokenFlowStep]
        split_ifs
        · exact .submit code now
        · exact .kept rfl (.inl rfl)
    | codeSubmitted u answer => exact .takeSubmitAnswer u answer
    | configRead k answer => exact .takeConfig k answer
    | configPatched k answer => exact .takePatched k answer
    | onboarded k answer => exact .takeOnboarded k answer
    | credentialWritten k answer => exact .takeWritten k answer
    | proved k answer => exact .takeProof k answer
    | completed k => exact .recordOutcome redact k
    | cancelled c answer => exact .takeCancelAnswer c answer
    | cleanupSettled => exact .retireCleanup
    | expiryTimer => exact .expiryTimer
    | outcomeTimer => exact .outcomeTimer
    | outcomeCleaned w => exact .takeOutcomeCleanup w

end Changes

/-! ### A flow over a run -/

section Runs

variable {redact : String → String} {s : SetupTokenService} {flow flow' : SetupTokenFlow} {n : ℕ}

/-- A flow object is never lost. -/
lemma exists_flow_step (event : SetupTokenEvent) (h : s.flows.get n = some flow) :
    ∃ flow', (setupTokenStep redact s event).flows.get n = some flow' := by
  have hcleanup : ∀ providerId orgId, ∃ flow',
      (s.cleanupFlowsForProvider providerId orgId).flows.get n = some flow' :=
    fun providerId orgId => ⟨_, by
      rw [SetupTokenService.cleanupFlowsForProvider, Objects.get_modifyAll, h, Option.map_some]⟩
  cases event with
  | start principal providerId pending =>
      rw [setupTokenStep, SetupTokenService.start]
      split_ifs <;> exact ⟨flow, h⟩
  | choicesListed k answer =>
      rw [setupTokenStep, SetupTokenService.takeChoices]
      split
      · split
        · exact hcleanup _ _
        · exact ⟨flow, h⟩
      · exact ⟨flow, h⟩
  | replaced k =>
      rw [setupTokenStep, SetupTokenService.takeReplaced]
      split
      · dsimp only
        split_ifs <;> exact ⟨flow, h⟩
      · exact ⟨flow, h⟩
  | loginBegun k answer now =>
      rw [setupTokenStep, SetupTokenService.takeLogin]
      split
      · split
        · exact ⟨flow, Objects.get_add_of_some h⟩
        · exact ⟨flow, h⟩
      · exact ⟨flow, h⟩
  | disconnect orgId providerId => exact hcleanup _ _
  | on m event =>
      rw [setupTokenStep, SetupTokenService.takeFlowEvent]
      split
      · exact ⟨flow, h⟩
      · by_cases hn : n = m
        · subst hn
          exact ⟨_, Objects.get_modify_of_some h⟩
        · exact ⟨flow, (Objects.get_modify_of_ne hn).trans h⟩
  | acquire key => exact ⟨flow, h⟩
  | release key => exact ⟨flow, h⟩

/-- What a flow keeps: its outcome, and the phases that its cleanups will put back. -/
structure FlowKept (flow flow' : SetupTokenFlow) : Prop where
  outcome : ∀ outcome, flow.outcome = some outcome → flow'.outcome = some outcome
  previousPhase : ∀ c cleanup, flow.cleanups.get c = some cleanup →
    ∃ cleanup', flow'.cleanups.get c = some cleanup' ∧
      cleanup'.previousPhase = cleanup.previousPhase

lemma FlowKept.refl (flow : SetupTokenFlow) : FlowKept flow flow :=
  ⟨fun _ houtcome => houtcome, fun _ cleanup hcleanup => ⟨cleanup, hcleanup, rfl⟩⟩

lemma FlowKept.trans {middle : SetupTokenFlow} (h : FlowKept flow middle)
    (h' : FlowKept middle flow') : FlowKept flow flow' := by
  refine ⟨fun outcome houtcome => h'.outcome outcome (h.outcome outcome houtcome), ?_⟩
  intro c cleanup hcleanup
  obtain ⟨between, hbetween, heq⟩ := h.previousPhase c cleanup hcleanup
  obtain ⟨cleanup', hcleanup', heq'⟩ := h'.previousPhase c between hbetween
  exact ⟨cleanup', hcleanup', heq'.trans heq⟩

lemma FlowChange.isKept (h : FlowChange flow flow') : FlowKept flow flow' :=
  ⟨fun _ houtcome => h.outcome houtcome, fun _ _ hcleanup => h.previousPhase hcleanup⟩

lemma flowKept_run (redact : String → String) (events : List SetupTokenEvent)
    (h : s.flows.get n = some flow) :
    ∃ flow', ((setupTokenMachine redact).outcome s events).flows.get n = some flow' ∧
      FlowKept flow flow' := by
  induction events generalizing s flow with
  | nil => exact ⟨flow, h, .refl flow⟩
  | cons event events ih =>
      obtain ⟨middle, hmiddle⟩ := exists_flow_step event h
      obtain ⟨flow', hflow', hkept⟩ := ih hmiddle
      obtain ⟨old, hold, hstep⟩ | ⟨hnone, -⟩ := flows_step hmiddle
      · rw [h, Option.some.injEq] at hold
        subst hold
        exact ⟨flow', hflow', hstep.change.isKept.trans hkept⟩
      · rw [h] at hnone
        cases hnone

end Runs

/-! ### The state machine -/

/-- What a flow shows at any time: one code was taken at most, and no poll has asked for one
after it; one completion was started at most; one outcome was recorded at most, and every verdict
of a poll is that outcome; one cancel is under way at most; a flow that has left the map was
stopped. -/
structure SetupTokenLawful (flow : SetupTokenFlow) : Prop where
  acceptedOnce : flow.facts.countP SetupTokenFact.isCodeAccepted ≤ 1
  asked : CodeAskedBefore flow.facts
  completedOnce : flow.facts.countP SetupTokenFact.isCompletionStarted ≤ 1
  recordedOnce : flow.facts.countP SetupTokenFact.isOutcomeRecorded ≤ 1
  recorded : ∀ state, .outcomeRecorded state ∈ flow.facts ↔ flow.outcome = some state
  verdicts : ∀ state, .polled state ∈ flow.facts → state.IsVerdict → flow.outcome = some state
  oneCancel : ∀ c c' previousPhase previousPhase',
    flow.cleanups.get c = some ⟨previousPhase, .cancelling⟩ →
      flow.cleanups.get c' = some ⟨previousPhase', .cancelling⟩ → c = c'
  stopped : flow.mapped = false → .stopConfirmed ∈ flow.facts

/-- The outcome of a flow never changes. -/
def OutcomesKept (redact : String → String) (events : List SetupTokenEvent) : Prop :=
  ∀ before after n flow outcome, events = before ++ after →
    ((setupTokenMachine redact).outcome .initial before).flows.get n = some flow →
      flow.outcome = some outcome →
        ∃ flow', ((setupTokenMachine redact).outcome .initial events).flows.get n = some flow' ∧
          flow'.outcome = some outcome

/-- A cancel that fails at the end of the run leaves the flow in the phase that it had just before
its cleanup began. -/
def PhasesRestored (redact : String → String) (events : List SetupTokenEvent) : Prop :=
  ∀ before event after n flow flow₁ flow' c first last answer, events = before ++ event :: after →
    ((setupTokenMachine redact).outcome .initial before).flows.get n = some flow →
      flow.cleanups.get c = none →
        ((setupTokenMachine redact).outcome .initial (before ++ [event])).flows.get n =
            some flow₁ →
          flow₁.cleanups.get c = some first →
            ((setupTokenMachine redact).outcome .initial events).flows.get n = some flow' →
              flow'.cleanups.get c = some ⟨last, .cancelling⟩ → answer ≠ .ok () →
                (flow'.takeCancelAnswer c answer).phase = flow.phase

lemma FlowOk.lawful {flow : SetupTokenFlow} (h : FlowOk flow) : SetupTokenLawful flow where
  acceptedOnce := h.facts.acceptedOnce
  asked := h.facts.asked
  completedOnce := by
    rw [h.facts.completionsOnce]
    split_ifs <;> omega
  recordedOnce := h.facts.recordedOnce
  recorded := h.facts.outcomes
  verdicts state hpolled hverdict :=
    (h.facts.outcomes state).mp (h.facts.verdicts state hpolled hverdict)
  oneCancel c c' previousPhase previousPhase' hc hc' := by
    have hactive := (h.cancelling c _ hc rfl).1
    have hactive' := (h.cancelling c' _ hc' rfl).1
    exact Option.some.inj (hactive.symm.trans hactive')
  stopped := h.stopped

/-- A cancel that has failed puts the phase back. -/
lemma FlowOk.phase_takeCancelAnswer {flow : SetupTokenFlow} (h : FlowOk flow) {c : ℕ}
    {previousPhase : SetupTokenPhase} {answer : Answer Unit}
    (hcleanup : flow.cleanups.get c = some ⟨previousPhase, .cancelling⟩)
    (hanswer : answer ≠ .ok ()) : (flow.takeCancelAnswer c answer).phase = previousPhase := by
  obtain ⟨-, hmapped, hphase⟩ := h.cancelling c _ hcleanup rfl
  have hrestored : (flow.restorePhase previousPhase).phase = previousPhase := by
    rw [SetupTokenFlow.restorePhase, if_pos ⟨hmapped, hphase⟩]
  rw [SetupTokenFlow.takeCancelAnswer, hcleanup]
  cases answer with
  | ok value => exact absurd rfl hanswer
  | err error => exact hrestored
  | threw => exact hrestored

lemma outcomesKept (redact : String → String) (events : List SetupTokenEvent) :
    OutcomesKept redact events := by
  rintro before after n flow outcome rfl hflow houtcome
  obtain ⟨flow', hflow', hkept⟩ := flowKept_run redact after hflow
  exact ⟨flow', by rw [EventMachine.outcome_append, hflow'], hkept.outcome outcome houtcome⟩

lemma phasesRestored (redact : String → String) (events : List SetupTokenEvent) :
    PhasesRestored redact events := by
  rintro before event after n flow flow₁ flow' c first last answer rfl hflow hnone hflow₁ hfirst
    hflow' hlast hanswer
  have hbegun : first.previousPhase = flow.phase := by
    rw [EventMachine.outcome_append] at hflow₁
    obtain ⟨old, hold, hstep⟩ | ⟨habsent, -⟩ := flows_step hflow₁
    · rw [hflow, Option.some.injEq] at hold
      subst hold
      exact hstep.change.begun hnone hfirst
    · rw [hflow] at habsent
      cases habsent
  have hsplit : before ++ event :: after = (before ++ [event]) ++ after := by simp
  obtain ⟨kept, hget, hkept⟩ := flowKept_run redact after hflow₁
  rw [← EventMachine.outcome_append, ← hsplit, hflow', Option.some.injEq] at hget
  subst hget
  obtain ⟨cleanup, hcleanup, hprevious⟩ := hkept.previousPhase c first hfirst
  rw [hlast, Option.some.injEq] at hcleanup
  subst hcleanup
  have hok : SetupTokenFlowsOk ((setupTokenMachine redact).outcome .initial
      (before ++ event :: after)) :=
    (EventMachine.always_of_invariant (setupTokenFlowsOk_step redact)
      setupTokenFlowsOk_initial).outcome
  calc (flow'.takeCancelAnswer c answer).phase
    _ = last := (hok n flow' hflow').phase_takeCancelAnswer hlast hanswer
    _ = first.previousPhase := hprevious
    _ = flow.phase := hbegun

/-- **The setup-token flows**: in every run every flow is lawful at any time, its outcome never
changes, and a cancel that fails puts back the phase that the flow had before it. -/
theorem setup_token_state_machine (redact : String → String) (events : List SetupTokenEvent) :
    (setupTokenMachine redact).Always
        (fun s => ∀ n flow, s.flows.get n = some flow → SetupTokenLawful flow) .initial events ∧
      OutcomesKept redact events ∧ PhasesRestored redact events := by
  refine ⟨?_, outcomesKept redact events, phasesRestored redact events⟩
  have halways : (setupTokenMachine redact).Always SetupTokenFlowsOk .initial events :=
    EventMachine.always_of_invariant (setupTokenFlowsOk_step redact) setupTokenFlowsOk_initial
  exact halways.mono fun s hok n flow hflow => (hok n flow hflow).lawful

end Opzava.Provisioning
