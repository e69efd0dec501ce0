import Opzava.Library.EventMachine
import Opzava.Provisioning.SetupTokenFlow

/-!
The setup-token flows of the worker, and what holds of them in every run.

* `SetupTokenService`, `setupTokenStep`: the flows under starts, browser calls, answers of the
  runtime and the gateway, timers and cleanups.
* `FlowOk`: the invariant of a flow, kept by each of its changes.
* `setupTokenFlowsOk_step`: the invariant of the service.
-/

namespace Opzava.Provisioning

open Opzava.Library
open DevBoard (DomainError)

/-! ### The service -/

/-- A start waits for the auth choices, for the cleanups of the flows that it replaces, or for its
login. -/
inductive SetupTokenStartPoint
  | listing
  | cleaning (awaited : List (ℕ × ℕ))
  | beginning
  | returned (flow : Option ℕ)

structure SetupTokenStart where
  principal : ConnectionProvisioningPrincipal
  providerId : String
  point : SetupTokenStartPoint

/-- The flows, by the numbers of their ids, with the starts and the reservations. -/
structure SetupTokenService where
  flows : Objects SetupTokenFlow
  starts : Objects SetupTokenStart
  providerCredentialWrites : String → ℕ

def SetupTokenService.initial : SetupTokenService := ⟨.empty, .empty, fun _ => 0⟩

/-- What happens to a flow: a call of the browser, an answer that something on it has waited for,
or a timer. -/
inductive SetupTokenFlowEvent
  | poll (orgId : String) (now : Date)
  | loginPolled (p : ℕ) (answer : Answer SetupTokenLoginState) (now : Date)
  | cleaned (p : ℕ)
  | submit (orgId code : String) (now : Date)
  | codeSubmitted (u : ℕ) (answer : Answer Unit)
  | configRead (k : ℕ) (answer : Answer Json)
  | configPatched (k : ℕ) (answer : Answer Unit)
  | onboarded (k : ℕ) (answer : Answer (Except DomainError Unit))
  | credentialWritten (k : ℕ) (answer : Answer (Except DomainError Unit))
  | proved (k : ℕ) (answer : Answer Json)
  | completed (k : ℕ)
  | cancelled (c : ℕ) (answer : Answer Unit)
  | cleanupSettled
  | expiryTimer
  | outcomeTimer
  | outcomeCleaned (w : ℕ)

/-- What happens: a flow is started, with whether another connect of the provider is pending; a
provider is disconnected; the reservation of an organization is taken or released by others. -/
inductive SetupTokenEvent
  | start (principal : ConnectionProvisioningPrincipal) (providerId : String) (pending : Bool)
  | choicesListed (k : ℕ) (answer : Answer Bool)
  | replaced (k : ℕ)
  | loginBegun (k : ℕ) (answer : Answer Unit) (now : Date)
  | disconnect (orgId providerId : String)
  | on (n : ℕ) (event : SetupTokenFlowEvent)
  | acquire (key : String)
  | release (key : String)

/-- A flow after an event; `reserved` is the reservation of its organization. -/
def setupTokenFlowStep (redact : String → String) (reserved : Bool) (flow : SetupTokenFlow) :
    SetupTokenFlowEvent → SetupTokenFlow
  | .poll orgId now =>
      if flow.mapped ∧ flow.principal.orgId = orgId then flow.poll now else flow
  | .loginPolled p answer now => flow.takeLoginState p answer now reserved
  | .cleaned p => flow.takeCleaned p
  | .submit orgId code now =>
      if flow.mapped ∧ flow.principal.orgId = orgId then flow.submit code now else flow
  | .codeSubmitted u answer => flow.takeSubmitAnswer u answer
  | .configRead k answer => flow.takeConfig k answer
  | .configPatched k answer => flow.takePatched k answer
  | .onboarded k answer => flow.takeOnboarded k answer
  | .credentialWritten k answer => flow.takeWritten k answer
  | .proved k answer => flow.takeProof k answer
  | .completed k => flow.recordOutcome redact k
  | .cancelled c answer => flow.takeCancelAnswer c answer
  | .cleanupSettled => flow.retireCleanup
  | .expiryTimer => flow.expiryTimer
  | .outcomeTimer => flow.outcomeTimer
  | .outcomeCleaned w => flow.takeOutcomeCleanup w

namespace SetupTokenService

def acquireProviderWrite (s : SetupTokenService) (key : String) : SetupTokenService :=
  { s with providerCredentialWrites :=
      Function.update s.providerCredentialWrites key (s.providerCredentialWrites key + 1) }

def releaseProviderWrite (s : SetupTokenService) (key : String) : SetupTokenService :=
  { s with providerCredentialWrites :=
      Function.update s.providerCredentialWrites key (s.providerCredentialWrites key - 1) }

def providerWriteReserved (s : SetupTokenService) (key : String) : Bool :=
  0 < s.providerCredentialWrites key

/-- How many completions of a flow hold the reservation. -/
def holding (flow : SetupTokenFlow) : ℕ := (List.range flow.completions.next).countP flow.holds

/-- The flows that a provider's new start or disconnect cleans up. -/
def isPendingOf (providerId orgId : String) (flow : SetupTokenFlow) : Bool :=
  flow.mapped ∧ flow.providerId = providerId ∧ flow.principal.orgId = orgId

/-- `cleanupSetupTokenFlowsForProvider`. -/
def cleanupFlowsForProvider (s : SetupTokenService) (providerId orgId : String) :
    SetupTokenService :=
  { s with flows := s.flows.modifyAll fun _ flow =>
      if isPendingOf providerId orgId flow then flow.requestCleanup.2 else flow }

/-- The cleanups that `cleanupSetupTokenFlowsForProvider` awaits. -/
def awaitedCleanups (s : SetupTokenService) (providerId orgId : String) : List (ℕ × ℕ) :=
  (List.range s.flows.next).filterMap fun n =>
    (s.flows.get n).bind fun flow =>
      if isPendingOf providerId orgId flow then flow.requestCleanup.1.map fun c => (n, c) else none

def gotoStart (s : SetupTokenService) (k : ℕ) (point : SetupTokenStartPoint) : SetupTokenService :=
  { s with starts := s.starts.modify k fun start => { start with point := point } }

/-- `startModelProviderSetupTokenFlow` up to its first await. -/
def start (s : SetupTokenService) (principal : ConnectionProvisioningPrincipal)
    (providerId : String) (pending : Bool) : SetupTokenService :=
  if pending ∨ s.providerWriteReserved (configWriteKey principal.orgId) then s
  else { s with starts := s.starts.add ⟨principal, providerId, .listing⟩ }

/-- After `listAuthChoices`: the answer says whether the provider has the setup token. -/
def takeChoices (s : SetupTokenService) (k : ℕ) (answer : Answer Bool) : SetupTokenService :=
  match s.starts.get k with
  | some ⟨principal, providerId, .listing⟩ =>
      match answer with
      | .ok true =>
          (s.cleanupFlowsForProvider providerId principal.orgId).gotoStart k
            (.cleaning (s.awaitedCleanups providerId principal.orgId))
      | _ => s.gotoStart k (.returned none)
  | _ => s

/-- After the cleanups: one that has failed is thrown. -/
def takeReplaced (s : SetupTokenService) (k : ℕ) : SetupTokenService :=
  match s.starts.get k with
  | some ⟨_, _, .cleaning awaited⟩ =>
      let results := awaited.map fun (n, c) =>
        (s.flows.get n).bind fun flow => flow.awaited (some c)
      if results.any fun result => result.any fun settled => !settled.isOk then
        s.gotoStart k (.returned none)
      else if results.all Option.isSome then s.gotoStart k .beginning
      else s
  | _ => s

/-- After `beginSetupTokenLogin`. -/
def takeLogin (s : SetupTokenService) (k : ℕ) (answer : Answer Unit) (now : Date) :
    SetupTokenService :=
  match s.starts.get k with
  | some ⟨principal, providerId, .beginning⟩ =>
      match answer with
      | .ok _ =>
          { s.gotoStart k (.returned (some s.flows.next)) with
            flows := s.flows.add (.new principal providerId now) }
      | _ => s.gotoStart k (.returned none)
  | _ => s

/-- The reservation that the completions of a flow have taken or released. -/
def followHolding (s : SetupTokenService) (flow flow' : SetupTokenFlow) : SetupTokenService :=
  if holding flow < holding flow' then
    s.acquireProviderWrite (configWriteKey flow.principal.orgId)
  else if holding flow' < holding flow then
    s.releaseProviderWrite (configWriteKey flow.principal.orgId)
  else s

/-- An event of a flow. -/
def takeFlowEvent (redact : String → String) (s : SetupTokenService) (n : ℕ)
    (event : SetupTokenFlowEvent) : SetupTokenService :=
  match s.flows.get n with
  | none => s
  | some flow =>
      let reserved := s.providerWriteReserved (configWriteKey flow.principal.orgId)
      let flow' := setupTokenFlowStep redact reserved flow event
      { s.followHolding flow flow' with flows := s.flows.modify n fun _ => flow' }

end SetupTokenService

def setupTokenStep (redact : String → String) (s : SetupTokenService) :
    SetupTokenEvent → SetupTokenService
  | .start principal providerId pending => s.start principal providerId pending
  | .choicesListed k answer => s.takeChoices k answer
  | .replaced k => s.takeReplaced k
  | .loginBegun k answer now => s.takeLogin k answer now
  | .disconnect orgId providerId => s.cleanupFlowsForProvider providerId orgId
  | .on n event => s.takeFlowEvent redact n event
  | .acquire key => s.acquireProviderWrite key
  | .release key => s.releaseProviderWrite key

def setupTokenMachine (redact : String → String) :
    EventMachine SetupTokenService SetupTokenEvent :=
  ⟨setupTokenStep redact⟩

/-! ### What the facts of a flow must be -/

def SetupTokenFact.isCodeAccepted : SetupTokenFact → Bool
  | .codeAccepted => true
  | _ => false

def SetupTokenFact.isCompletionStarted : SetupTokenFact → Bool
  | .completionStarted => true
  | _ => false

def SetupTokenFact.isOutcomeRecorded : SetupTokenFact → Bool
  | .outcomeRecorded _ => true
  | _ => false

/-- The verdict of a completion: connected, or a failure that is not one of the login. -/
def SetupTokenPollState.IsVerdict (state : SetupTokenPollState) : Prop :=
  match state with
  | .connected _ => True
  | .failed _ _ =>
      state ≠ SetupTokenFlow.deniedState ∧ state ≠ SetupTokenFlow.unavailableState ∧
        state ≠ SetupTokenFlow.notAcceptedState
  | _ => False

/-- No poll has asked for a code after one was accepted. -/
def CodeAskedBefore (facts : List SetupTokenFact) : Prop :=
  ∀ earlier later, facts = earlier ++ .codeAccepted :: later →
    ∀ authorizeUrl, .polled (.awaitingCode authorizeUrl) ∉ later

/-- What the facts of a flow must be, by its fields `completionInFlight` and `outcome`. -/
structure FactsOk (facts : List SetupTokenFact) (completionInFlight : Bool)
    (outcome : Option SetupTokenPollState) : Prop where
  acceptedOnce : facts.countP SetupTokenFact.isCodeAccepted ≤ 1
  asked : CodeAskedBefore facts
  completionsOnce : facts.countP SetupTokenFact.isCompletionStarted =
    if completionInFlight then 1 else 0
  recordedOnce : facts.countP SetupTokenFact.isOutcomeRecorded ≤ 1
  outcomes : ∀ state, .outcomeRecorded state ∈ facts ↔ outcome = some state
  verdicts : ∀ state, .polled state ∈ facts → state.IsVerdict → .outcomeRecorded state ∈ facts

/-- A code was handed over: the phase says so, or the one a cleanup puts back. -/
def CodeTaken (flow : SetupTokenFlow) : Prop :=
  flow.mapped = true → flow.phase = .completing ∨
    ∃ c cleanup, flow.cleanups.get c = some cleanup ∧ cleanup.point = .cancelling ∧
      cleanup.previousPhase = .completing

/-- What a poll may answer after a cleanup: it asks for no code, and a verdict of a completion was
recorded. -/
structure Answerable (facts : List SetupTokenFact) (state : SetupTokenPollState) : Prop where
  asks : ∀ authorizeUrl, state ≠ .awaitingCode authorizeUrl
  recorded : state.IsVerdict → .outcomeRecorded state ∈ facts

/-- The invariant of a flow. -/
structure FlowOk (flow : SetupTokenFlow) : Prop where
  facts : FactsOk flow.facts flow.completionInFlight flow.outcome
  cancelling : ∀ c cleanup, flow.cleanups.get c = some cleanup → cleanup.point = .cancelling →
    flow.cleanup = some c ∧ flow.mapped = true ∧ flow.phase = .cancelling
  stopped : flow.mapped = false → .stopConfirmed ∈ flow.facts
  submitting : ∀ u submit, flow.submits.get u = some submit → submit.point = .submitting →
    CodeTaken flow ∧ .codeAccepted ∉ flow.facts ∧ ∀ u' submit', flow.submits.get u' = some submit' →
      submit'.point = .submitting → u' = u
  accepted : .codeAccepted ∈ flow.facts → CodeTaken flow
  polls : ∀ p cleanup state, flow.polls.get p = some (.cleaning cleanup (.ok state)) →
    Answerable flow.facts state
  outcome : ∀ outcome, flow.outcome = some outcome →
    ∀ authorizeUrl, outcome ≠ .awaitingCode authorizeUrl

/-! ### Facts -/

/-- A fact that is added last. -/
lemma CodeAskedBefore.concat {facts : List SetupTokenFact} {fact : SetupTokenFact}
    (h : CodeAskedBefore facts)
    (hfact : .codeAccepted ∈ facts → ∀ authorizeUrl, fact ≠ .polled (.awaitingCode authorizeUrl)) :
    CodeAskedBefore (facts ++ [fact]) := by
  intro earlier later heq authorizeUrl hmem
  obtain rfl | ⟨later', last, rfl⟩ := later.eq_nil_or_concat
  · exact absurd hmem List.not_mem_nil
  · have hconcat : facts ++ [fact] = (earlier ++ .codeAccepted :: later') ++ [last] := by
      rw [heq]
      simp
    obtain ⟨hfacts, hlast⟩ := List.append_inj' hconcat rfl
    obtain rfl : fact = last := by simpa using hlast
    rw [List.concat_eq_append, List.mem_append, List.mem_singleton] at hmem
    rcases hmem with hmem | hmem
    · exact h earlier later' hfacts authorizeUrl hmem
    · exact hfact (by rw [hfacts]; simp) authorizeUrl hmem.symm

/-- A fact that none of the counts sees. -/
def SetupTokenFact.IsPlain (facts : List SetupTokenFact) : SetupTokenFact → Prop
  | .codeAccepted | .completionStarted | .outcomeRecorded _ => False
  | .polled state =>
      (∀ authorizeUrl, state = .awaitingCode authorizeUrl → .codeAccepted ∉ facts) ∧
        (state.IsVerdict → .outcomeRecorded state ∈ facts)
  | .stopConfirmed | .writeStarted _ _ => True

section Facts

variable {flow : SetupTokenFlow} {facts : List SetupTokenFact} {fact : SetupTokenFact}

lemma SetupTokenFact.IsPlain.ne_codeAccepted (h : fact.IsPlain facts) : fact ≠ .codeAccepted := by
  rintro rfl
  exact h

lemma FactsOk.concat {completionInFlight : Bool} {outcome : Option SetupTokenPollState}
    (h : FactsOk facts completionInFlight outcome) (hfact : fact.IsPlain facts) :
    FactsOk (facts ++ [fact]) completionInFlight outcome := by
  have hcount : ∀ p : SetupTokenFact → Bool, p fact = false →
      (facts ++ [fact]).countP p = facts.countP p := by
    intro p hp
    rw [List.countP_append, List.countP_singleton, hp]
    rfl
  refine ⟨?_, h.asked.concat ?_, ?_, ?_, ?_, ?_⟩
  · refine (hcount _ ?_).trans_le h.acceptedOnce
    cases fact <;> first | rfl | exact hfact.elim
  · rintro haccepted authorizeUrl rfl
    exact hfact.1 authorizeUrl rfl haccepted
  · refine (hcount _ ?_).trans h.completionsOnce
    cases fact <;> first | rfl | exact hfact.elim
  · refine (hcount _ ?_).trans_le h.recordedOnce
    cases fact <;> first | rfl | exact hfact.elim
  · intro state
    refine Iff.trans ?_ (h.outcomes state)
    have hne : SetupTokenFact.outcomeRecorded state ≠ fact := by
      rintro rfl
      exact hfact
    simp [hne]
  · intro state hmem hverdict
    rw [List.mem_append, List.mem_singleton] at hmem
    rw [List.mem_append]
    rcases hmem with hmem | rfl
    · exact .inl (h.verdicts state hmem hverdict)
    · exact .inl (hfact.2 hverdict)

lemma FlowOk.record (h : FlowOk flow) (hfact : fact.IsPlain flow.facts) :
    FlowOk (flow.record fact) where
  facts := h.facts.concat hfact
  cancelling := h.cancelling
  stopped hmapped := List.mem_append_left _ (h.stopped hmapped)
  submitting u submit hsubmit hpoint := by
    obtain ⟨htaken, hnot, honly⟩ := h.submitting u submit hsubmit hpoint
    refine ⟨htaken, fun hmem => ?_, honly⟩
    rw [SetupTokenFlow.record, List.mem_append, List.mem_singleton] at hmem
    exact hmem.elim hnot fun heq => hfact.ne_codeAccepted heq.symm
  accepted hmem := by
    rw [SetupTokenFlow.record, List.mem_append, List.mem_singleton] at hmem
    exact hmem.elim h.accepted fun heq => absurd heq.symm hfact.ne_codeAccepted
  polls p cleanup state hpoll :=
    have hstate := h.polls p cleanup state hpoll
    ⟨hstate.asks, fun hverdict => List.mem_append_left _ (hstate.recorded hverdict)⟩
  outcome := h.outcome

end Facts

/-! ### Cleanups -/

section Changes

variable {flow : SetupTokenFlow}

/-- A flow without a code in the hands of the runtime. -/
lemma FlowOk.not_taken (h : FlowOk flow) (hcurrent : flow.isCurrent)
    (hphase : flow.phase ≠ .completing) :
    .codeAccepted ∉ flow.facts ∧
      ∀ u submit, flow.submits.get u = some submit → submit.point ≠ .submitting := by
  have hflow : flow.mapped = true ∧ flow.phase ≠ .cancelling := by
    simpa [SetupTokenFlow.isCurrent] using hcurrent
  have hfree : ¬ CodeTaken flow := by
    intro htaken
    obtain hcompleting | ⟨c, cleanup, hcleanup, hpoint, -⟩ := htaken hflow.1
    · exact hphase hcompleting
    · exact hflow.2 (h.cancelling c cleanup hcleanup hpoint).2.2
  exact ⟨fun haccepted => hfree (h.accepted haccepted),
    fun u submit hsubmit hpoint => hfree (h.submitting u submit hsubmit hpoint).1⟩

lemma FlowOk.no_cancelling (h : FlowOk flow) (hcurrent : flow.isCurrent) {c : ℕ}
    {cleanup : SetupTokenCleanup} (hcleanup : flow.cleanups.get c = some cleanup) :
    cleanup.point ≠ .cancelling := by
  intro hpoint
  have hphase := (h.cancelling c cleanup hcleanup hpoint).2.2
  simp [SetupTokenFlow.isCurrent, hphase] at hcurrent

lemma CodeTaken.requestCleanup (h : FlowOk flow) (htaken : CodeTaken flow) :
    CodeTaken flow.requestCleanup.2 := by
  rw [SetupTokenFlow.requestCleanup]
  split
  · exact htaken
  · next hnone =>
      split_ifs with hmapped
      · intro _
        obtain hcompleting | ⟨c, cleanup, hcleanup, hpoint, -⟩ := htaken hmapped
        · exact .inr ⟨_, _, Objects.get_add_next, rfl, hcompleting⟩
        · have hactive := (h.cancelling c cleanup hcleanup hpoint).1
          rw [hnone] at hactive
          cases hactive
      · exact htaken

lemma FlowOk.requestCleanup (h : FlowOk flow) : FlowOk flow.requestCleanup.2 := by
  have htaken : CodeTaken flow → CodeTaken flow.requestCleanup.2 := .requestCleanup h
  revert htaken
  rw [SetupTokenFlow.requestCleanup]
  split
  · exact fun _ => h
  · next hnone =>
      split_ifs with hmapped
      · intro htaken
        refine ⟨h.facts, ?_, h.stopped, ?_, ?_, h.polls,
          h.outcome⟩
        · intro c cleanup hcleanup hpoint
          obtain ⟨rfl, -⟩ | hold := Objects.get_add_eq_some hcleanup
          · exact ⟨rfl, hmapped, rfl⟩
          · have hactive := (h.cancelling c cleanup hold hpoint).1
            rw [hnone] at hactive
            cases hactive
        · intro u submit hsubmit hpoint
          obtain ⟨hold, hnot, honly⟩ := h.submitting u submit hsubmit hpoint
          exact ⟨htaken hold, hnot, honly⟩
        · exact fun haccepted => htaken (h.accepted haccepted)
      · exact fun _ => h

lemma requestCleanup_facts : flow.requestCleanup.2.facts = flow.facts := by
  rw [SetupTokenFlow.requestCleanup]
  split
  · rfl
  · split_ifs <;> rfl

/-- A cancel that has failed. -/
lemma FlowOk.restore (h : FlowOk flow) {c : ℕ} {previousPhase : SetupTokenPhase}
    {result : Except DomainError Unit}
    (hcleanup : flow.cleanups.get c = some ⟨previousPhase, .cancelling⟩) :
    FlowOk ((flow.restorePhase previousPhase).settleCleanup c result) := by
  obtain ⟨hactive, hmapped, hphase⟩ := h.cancelling c _ hcleanup rfl
  have htaken : CodeTaken flow →
      CodeTaken ((flow.restorePhase previousPhase).settleCleanup c result) := by
    intro htaken _
    rw [SetupTokenFlow.restorePhase, if_pos ⟨hmapped, hphase⟩]
    obtain hcompleting | ⟨c', cleanup, hcleanup', hpoint, hprevious⟩ := htaken hmapped
    · rw [hphase] at hcompleting
      cases hcompleting
    · have hsame := (h.cancelling c' cleanup hcleanup' hpoint).1
      rw [hactive, Option.some.injEq] at hsame
      subst hsame
      rw [hcleanup, Option.some.injEq] at hcleanup'
      subst hcleanup'
      exact .inl hprevious
  revert htaken
  rw [SetupTokenFlow.restorePhase, if_pos ⟨hmapped, hphase⟩]
  intro htaken
  refine ⟨h.facts, ?_, h.stopped, ?_, ?_, h.polls, h.outcome⟩
  · intro c' cleanup hcleanup' hpoint
    obtain ⟨old, hold, rfl⟩ := Objects.get_modify_eq_some hcleanup'
    by_cases hc : c' = c
    · rw [if_pos hc] at hpoint
      cases hpoint
    · rw [if_neg hc] at hpoint
      have hother := (h.cancelling c' old hold hpoint).1
      rw [hactive, Option.some.injEq] at hother
      exact absurd hother.symm hc
  · intro u submit hsubmit hpoint
    obtain ⟨hold, hnot, honly⟩ := h.submitting u submit hsubmit hpoint
    exact ⟨htaken hold, hnot, honly⟩
  · exact fun haccepted => htaken (h.accepted haccepted)

/-- A cancel that was confirmed: the flow leaves the map. -/
lemma FlowOk.confirm (h : FlowOk flow) {c : ℕ} {previousPhase : SetupTokenPhase}
    (hcleanup : flow.cleanups.get c = some ⟨previousPhase, .cancelling⟩) :
    FlowOk (flow.takeCancelAnswer c (.ok ())) := by
  obtain ⟨hactive, hmapped, hphase⟩ := h.cancelling c _ hcleanup rfl
  have hrecord : FlowOk (flow.record .stopConfirmed) := h.record trivial
  simp only [SetupTokenFlow.takeCancelAnswer, hcleanup, hmapped, hphase, and_self, if_true]
  refine ⟨hrecord.facts, ?_, ?_, ?_, ?_,
    hrecord.polls, h.outcome⟩
  · intro c' cleanup hcleanup' hpoint
    obtain ⟨old, hold, rfl⟩ := Objects.get_modify_eq_some hcleanup'
    by_cases hc : c' = c
    · rw [if_pos hc] at hpoint
      cases hpoint
    · rw [if_neg hc] at hpoint
      have hother := (h.cancelling c' old hold hpoint).1
      rw [hactive, Option.some.injEq] at hother
      exact absurd hother.symm hc
  · exact fun _ => List.mem_append_right _ (List.mem_singleton_self _)
  · intro u submit hsubmit hpoint
    obtain ⟨-, hnot, honly⟩ := hrecord.submitting u submit hsubmit hpoint
    exact ⟨fun hunmapped => absurd hunmapped Bool.false_ne_true, hnot, honly⟩
  · exact fun _ hunmapped => absurd hunmapped Bool.false_ne_true

lemma FlowOk.takeCancelAnswer (h : FlowOk flow) (c : ℕ) (answer : Answer Unit) :
    FlowOk (flow.takeCancelAnswer c answer) := by
  by_cases hcleanup : ∃ previousPhase, flow.cleanups.get c = some ⟨previousPhase, .cancelling⟩
  · obtain ⟨previousPhase, hcleanup⟩ := hcleanup
    cases answer with
    | ok _ => exact h.confirm hcleanup
    | err error =>
        simp only [SetupTokenFlow.takeCancelAnswer, hcleanup]
        exact h.restore hcleanup
    | threw =>
        simp only [SetupTokenFlow.takeCancelAnswer, hcleanup]
        exact h.restore hcleanup
  · rw [SetupTokenFlow.takeCancelAnswer]
    split
    · next previousPhase hsome => exact absurd ⟨previousPhase, hsome⟩ hcleanup
    · exact h

lemma FlowOk.retireCleanup (h : FlowOk flow) : FlowOk flow.retireCleanup := by
  rw [SetupTokenFlow.retireCleanup]
  split
  · next hsettled =>
      refine ⟨h.facts, ?_, h.stopped, h.submitting, h.accepted,
    h.polls, h.outcome⟩
      intro c cleanup hcleanup hpoint
      have hactive := (h.cancelling c cleanup hcleanup hpoint).1
      rw [hactive, Option.bind_some, hcleanup, Option.some.injEq] at hsettled
      rw [hsettled] at hpoint
      cases hpoint
  · exact h

/-! ### Polls -/

lemma FlowOk.setPoll (h : FlowOk flow) {p : ℕ} {point : SetupTokenPollPoint}
    (hpoint : ∀ cleanup state, point = .cleaning cleanup (.ok state) →
      Answerable flow.facts state) :
    FlowOk (flow.setPoll p point) where
  facts := h.facts
  cancelling := h.cancelling
  stopped := h.stopped
  submitting := h.submitting
  accepted := h.accepted
  polls q cleanup state hpoll := by
    obtain ⟨old, hold, heq⟩ := Objects.get_modify_eq_some hpoll
    split_ifs at heq
    · exact hpoint cleanup state heq.symm
    · subst heq
      exact h.polls q cleanup state hold
  outcome := h.outcome

lemma FlowOk.addPoll (h : FlowOk flow) {point : SetupTokenPollPoint}
    (hpoint : ∀ cleanup state, point = .cleaning cleanup (.ok state) →
      Answerable flow.facts state) :
    FlowOk (flow.addPoll point) where
  facts := h.facts
  cancelling := h.cancelling
  stopped := h.stopped
  submitting := h.submitting
  accepted := h.accepted
  polls q cleanup state hpoll := by
    obtain ⟨-, heq⟩ | hold := Objects.get_add_eq_some hpoll
    · exact hpoint cleanup state heq.symm
    · exact h.polls q cleanup state hold
  outcome := h.outcome

lemma FlowOk.answerPoll (h : FlowOk flow) {p : ℕ} {state : SetupTokenPollState}
    (hstate : (SetupTokenFact.polled state).IsPlain flow.facts) :
    FlowOk (flow.answerPoll p state) :=
  (h.record hstate).setPoll fun _ _ heq => by cases heq

/-- A poll that answers nothing but that it waits. -/
lemma FlowOk.answerPending (h : FlowOk flow) {p : ℕ} : FlowOk (flow.answerPoll p .pending) :=
  h.answerPoll ⟨fun _ heq => (by cases heq), fun hverdict => hverdict.elim⟩

lemma FlowOk.cleanBeforeAnswer (h : FlowOk flow) {p : ℕ}
    {result : Except DomainError SetupTokenPollState}
    (hresult : ∀ state, result = .ok state → Answerable flow.facts state) :
    FlowOk (flow.cleanBeforeAnswer p result) := by
  refine h.requestCleanup.setPoll fun cleanup state heq => ?_
  have hstate := hresult state (SetupTokenPollPoint.cleaning.inj heq).2
  refine ⟨hstate.asks, fun hverdict => ?_⟩
  rw [requestCleanup_facts]
  exact hstate.recorded hverdict

lemma FlowOk.poll (h : FlowOk flow) (now : Date) : FlowOk (flow.poll now) := by
  have hpolling : FlowOk (flow.addPoll .polling) := h.addPoll fun _ _ heq => by cases heq
  rw [SetupTokenFlow.poll]
  split_ifs
  · exact h.addPoll fun _ _ heq => by cases heq
  · refine hpolling.cleanBeforeAnswer fun state heq => ?_
    cases heq
    exact ⟨fun _ heq => (by cases heq), fun hverdict => hverdict.elim⟩
  · split
    · next outcome houtcome =>
        refine hpolling.cleanBeforeAnswer fun state heq => ?_
        cases heq
        exact ⟨h.outcome outcome houtcome, fun _ => (h.facts.outcomes outcome).mpr houtcome⟩
    · exact hpolling

/-! ### The completion -/

lemma FlowOk.setCompletion (h : FlowOk flow) (k : ℕ) (point : CompletionPoint) :
    FlowOk (flow.setCompletion k point) :=
  ⟨h.facts, h.cancelling, h.stopped, h.submitting, h.accepted,
    h.polls, h.outcome⟩

lemma FlowOk.recordWrite (h : FlowOk flow) (call : CredentialCall) :
    FlowOk (flow.record (.writeStarted call flow.isCurrent)) :=
  h.record trivial

lemma FlowOk.failCompletion (h : FlowOk flow) (k : ℕ) (error : Option DomainError) :
    FlowOk (flow.failCompletion k error) := by
  cases error with
  | none => exact h.setCompletion k _
  | some error => exact h.setCompletion k _

lemma FlowOk.beginOnboard (h : FlowOk flow) (k : ℕ) : FlowOk (flow.beginOnboard k) := by
  rw [SetupTokenFlow.beginOnboard]
  split_ifs
  · exact (h.recordWrite _).setCompletion k _
  · exact h.setCompletion k _

lemma FlowOk.beginWrite (h : FlowOk flow) (k : ℕ) : FlowOk (flow.beginWrite k) :=
  (h.recordWrite _).setCompletion k _

lemma FlowOk.patchOr (h : FlowOk flow) {k : ℕ} {payload : Json}
    {patch : Option (JsonFields × List String)} {patching : CompletionPoint}
    {next : SetupTokenFlow} (hnext : FlowOk next) :
    FlowOk (flow.patchOr k payload patch patching next) := by
  unfold SetupTokenFlow.patchOr
  split
  · exact hnext
  · split
    · exact h.failCompletion k _
    · exact h.setCompletion k _

lemma FlowOk.takeConfig (h : FlowOk flow) (k : ℕ) (answer : Answer Json) :
    FlowOk (flow.takeConfig k answer) := by
  unfold SetupTokenFlow.takeConfig
  split
  · exact h.patchOr (h.beginOnboard k)
  · exact h.patchOr (h.beginWrite k)
  · exact h.failCompletion k _
  · exact h.failCompletion k _
  · exact h.failCompletion k _
  · exact h.failCompletion k _
  · exact h

lemma FlowOk.takePatched (h : FlowOk flow) (k : ℕ) (answer : Answer Unit) :
    FlowOk (flow.takePatched k answer) := by
  unfold SetupTokenFlow.takePatched
  split
  · exact h.beginOnboard k
  · exact h.beginWrite k
  · exact h.failCompletion k _
  · exact h.failCompletion k _
  · exact h.failCompletion k _
  · exact h.failCompletion k _
  · exact h

lemma FlowOk.takeOnboarded (h : FlowOk flow) (k : ℕ) (answer : Answer (Except DomainError Unit)) :
    FlowOk (flow.takeOnboarded k answer) := by
  unfold SetupTokenFlow.takeOnboarded
  split
  · split
    · exact h.setCompletion k _
    · exact h.failCompletion k _
    · exact h.failCompletion k _
    · exact h.failCompletion k _
  · exact h

lemma FlowOk.takeWritten (h : FlowOk flow) (k : ℕ) (answer : Answer (Except DomainError Unit)) :
    FlowOk (flow.takeWritten k answer) := by
  unfold SetupTokenFlow.takeWritten
  split
  · split
    · exact h.setCompletion k _
    · exact h.failCompletion k _
    · exact h.failCompletion k _
    · exact h.failCompletion k _
  · exact h

lemma FlowOk.takeProof (h : FlowOk flow) (k : ℕ) (answer : Answer Json) :
    FlowOk (flow.takeProof k answer) := by
  unfold SetupTokenFlow.takeProof
  split
  · split
    · exact h.setCompletion k _
    · exact h.failCompletion k _
    · exact h.failCompletion k _
  · exact h

/-- The first outcome of a flow. -/
lemma FlowOk.recordFirst (h : FlowOk flow) {outcome : SetupTokenPollState}
    {timer : Option OutcomeTimer} (hnone : flow.outcome = none)
    (hasks : ∀ authorizeUrl, outcome ≠ .awaitingCode authorizeUrl) :
    FlowOk { flow.record (.outcomeRecorded outcome) with
      outcome := some outcome
      outcomeCleanupTimeout := timer } := by
  have hunrecorded : ∀ outcome', .outcomeRecorded outcome' ∉ flow.facts := by
    intro outcome' hmem
    rw [h.facts.outcomes, hnone] at hmem
    cases hmem
  have hmem : ∀ fact ∈ flow.facts, fact ∈ flow.facts ++ [.outcomeRecorded outcome] :=
    fun _ => List.mem_append_left _
  refine ⟨⟨?_, h.facts.asked.concat fun _ _ heq => (by cases heq), ?_, ?_, ?_, ?_⟩, h.cancelling,
    fun hmapped => hmem _ (h.stopped hmapped), ?_, ?_, ?_, ?_⟩
  · simpa [SetupTokenFlow.record, SetupTokenFact.isCodeAccepted] using h.facts.acceptedOnce
  · refine Eq.trans ?_ h.facts.completionsOnce
    simp [SetupTokenFlow.record, SetupTokenFact.isCompletionStarted]
  · have hzero : flow.facts.countP SetupTokenFact.isOutcomeRecorded = 0 := by
      rw [List.countP_eq_zero]
      intro fact hfact hrecorded
      cases fact with
      | outcomeRecorded outcome' => exact hunrecorded outcome' hfact
      | _ => cases hrecorded
    simp [SetupTokenFlow.record, hzero, SetupTokenFact.isOutcomeRecorded]
  · intro outcome'
    simp [SetupTokenFlow.record, hunrecorded outcome', eq_comm]
  · intro state hstate hverdict
    have hold : .polled state ∈ flow.facts := by simpa [SetupTokenFlow.record] using hstate
    exact absurd (h.facts.verdicts state hold hverdict) (hunrecorded state)
  · intro u submit hsubmit hpoint
    obtain ⟨htaken, hnot, honly⟩ := h.submitting u submit hsubmit hpoint
    exact ⟨htaken, by simpa [SetupTokenFlow.record] using hnot, honly⟩
  · intro haccepted
    exact h.accepted (by simpa [SetupTokenFlow.record] using haccepted)
  · intro p cleanup state hpoll
    have hstate := h.polls p cleanup state hpoll
    exact ⟨hstate.asks, fun hverdict => hmem _ (hstate.recorded hverdict)⟩
  · intro outcome' heq
    obtain rfl : outcome = outcome' := Option.some.inj heq
    exact hasks

lemma outcomeOf_asks (redact : String → String) (result : Except DomainError Json)
    (authorizeUrl : String) :
    SetupTokenFlow.outcomeOf redact result ≠ .awaitingCode authorizeUrl := by
  cases result with
  | ok connection => intro heq; cases heq
  | error error => intro heq; cases heq

lemma FlowOk.recordOutcome (h : FlowOk flow) (redact : String → String) (k : ℕ) :
    FlowOk (flow.recordOutcome redact k) := by
  rw [SetupTokenFlow.recordOutcome]
  split
  · split_ifs with hfirst
    · have hnone : flow.outcome = none := Option.isNone_iff_eq_none.mp hfirst.2
      exact (h.recordFirst hnone (outcomeOf_asks redact _)).setCompletion k _
    · exact h.setCompletion k _
  · exact h

/-- The start of the completion of a current flow. -/
lemma FlowOk.startCompletion (h : FlowOk flow) (hcurrent : flow.isCurrent)
    (hidle : flow.completionInFlight = false) (mintedToken : String) (reserved : Bool) :
    FlowOk ({ flow with phase := .completing, completionInFlight := true }.startCompletion
      mintedToken reserved) := by
  have hmem : ∀ fact ∈ flow.facts, fact ∈ flow.facts ++ [.completionStarted] :=
    fun _ => List.mem_append_left _
  have htaken : CodeTaken ({ flow with phase := .completing, completionInFlight := true
    }.startCompletion mintedToken reserved) := fun _ => .inl rfl
  refine ⟨⟨?_, h.facts.asked.concat fun _ _ heq => (by cases heq), ?_, ?_, ?_, ?_⟩, ?_,
    fun hmapped => hmem _ (h.stopped hmapped), ?_, fun _ => htaken, ?_, h.outcome⟩
  · simpa [SetupTokenFlow.startCompletion, SetupTokenFlow.record, SetupTokenFact.isCodeAccepted]
      using h.facts.acceptedOnce
  · have hzero : flow.facts.countP SetupTokenFact.isCompletionStarted = 0 := by
      rw [h.facts.completionsOnce, hidle]
      rfl
    simp [SetupTokenFlow.startCompletion, SetupTokenFlow.record, hzero,
      SetupTokenFact.isCompletionStarted]
  · simpa [SetupTokenFlow.startCompletion, SetupTokenFlow.record, SetupTokenFact.isOutcomeRecorded]
      using h.facts.recordedOnce
  · intro outcome
    refine Iff.trans ?_ (h.facts.outcomes outcome)
    simp [SetupTokenFlow.startCompletion, SetupTokenFlow.record]
  · intro state hstate hverdict
    have hold : .polled state ∈ flow.facts := by
      simpa [SetupTokenFlow.startCompletion, SetupTokenFlow.record] using hstate
    exact hmem _ (h.facts.verdicts state hold hverdict)
  · intro c cleanup hcleanup hpoint
    exact absurd hpoint (h.no_cancelling hcurrent hcleanup)
  · intro u submit hsubmit hpoint
    obtain ⟨-, hnot, honly⟩ := h.submitting u submit hsubmit hpoint
    refine ⟨htaken, ?_, honly⟩
    simpa [SetupTokenFlow.startCompletion, SetupTokenFlow.record] using hnot
  · intro p cleanup state hpoll
    have hstate := h.polls p cleanup state hpoll
    exact ⟨hstate.asks, fun hverdict => hmem _ (hstate.recorded hverdict)⟩

/-- The login asks for a code. -/
lemma FlowOk.askCode (h : FlowOk flow) (hcurrent : flow.isCurrent)
    (hphase : flow.phase ≠ .completing) (p : ℕ) (authorizeUrl : String) :
    FlowOk ({ flow with phase := .awaitingCode, authorizeUrl := some authorizeUrl }.answerPoll p
      (.awaitingCode authorizeUrl)) := by
  obtain ⟨hnot, hidle⟩ := h.not_taken hcurrent hphase
  have hasked : FlowOk
      { flow with phase := .awaitingCode, authorizeUrl := some authorizeUrl } := by
    refine ⟨h.facts, ?_, h.stopped, ?_, fun haccepted => absurd haccepted hnot,
      h.polls, h.outcome⟩
    · exact fun c cleanup hcleanup hpoint => absurd hpoint (h.no_cancelling hcurrent hcleanup)
    · exact fun u submit hsubmit hpoint => absurd hpoint (hidle u submit hsubmit)
  exact hasked.answerPoll ⟨fun _ _ => hnot, fun hverdict => hverdict.elim⟩

/-! ### Answers to the polls -/

lemma not_isVerdict_denied : ¬ SetupTokenFlow.deniedState.IsVerdict := fun h => h.1 rfl

lemma not_isVerdict_unavailable : ¬ SetupTokenFlow.unavailableState.IsVerdict := fun h => h.2.1 rfl

lemma not_isVerdict_notAccepted : ¬ SetupTokenFlow.notAcceptedState.IsVerdict := fun h => h.2.2 rfl

/-- A cleanup before an answer that is no verdict of a completion. -/
lemma FlowOk.cleanBeforeFailure (h : FlowOk flow) {p : ℕ} {state : SetupTokenPollState}
    (hstate : ¬ state.IsVerdict) (hasks : ∀ authorizeUrl, state ≠ .awaitingCode authorizeUrl) :
    FlowOk (flow.cleanBeforeAnswer p (.ok state)) :=
  h.cleanBeforeAnswer fun state' heq => by
    cases heq
    exact ⟨hasks, fun hverdict => absurd hverdict hstate⟩

lemma FlowOk.awaitExchange (h : FlowOk flow) (p : ℕ) (now : Date) :
    FlowOk (flow.awaitExchange p now) := by
  rw [SetupTokenFlow.awaitExchange]
  split_ifs
  · exact h.answerPending
  · exact h.cleanBeforeFailure not_isVerdict_notAccepted fun _ heq => by cases heq

lemma FlowOk.readLoginState (h : FlowOk flow) (hcurrent : flow.isCurrent)
    (hidle : flow.completionInFlight = false) (p : ℕ) (state : SetupTokenLoginState) (now : Date)
    (reserved : Bool) : FlowOk (flow.readLoginState p state now reserved) := by
  cases state with
  | awaitingCode authorizeUrl =>
      rw [SetupTokenFlow.readLoginState]
      split_ifs with hphase
      · exact h.awaitExchange p now
      · exact h.askCode hcurrent hphase p authorizeUrl
  | pending =>
      rw [SetupTokenFlow.readLoginState]
      split_ifs
      · exact h.awaitExchange p now
      · exact h.answerPending
  | completed setupToken =>
      exact (h.startCompletion hcurrent hidle setupToken reserved).answerPending
  | unavailable => exact h.cleanBeforeFailure not_isVerdict_unavailable fun _ heq => by cases heq
  | terminalFailure reason =>
      exact h.cleanBeforeFailure not_isVerdict_denied fun _ heq => by cases heq

lemma FlowOk.takeLoginState (h : FlowOk flow) (p : ℕ) (answer : Answer SetupTokenLoginState)
    (now : Date) (reserved : Bool) : FlowOk (flow.takeLoginState p answer now reserved) := by
  unfold SetupTokenFlow.takeLoginState
  split
  · cases answer with
    | threw => exact h.setPoll fun _ _ heq => by cases heq
    | err error =>
        dsimp only
        split_ifs
        · exact h.cleanBeforeAnswer fun _ heq => by cases heq
        · exact h.answerPending
    | ok state =>
        dsimp only
        split_ifs with hcurrent
        · exact h.readLoginState hcurrent.1 hcurrent.2 p state now reserved
        · exact h.answerPending
  · exact h

lemma FlowOk.takeCleaned (h : FlowOk flow) (p : ℕ) : FlowOk (flow.takeCleaned p) := by
  rw [SetupTokenFlow.takeCleaned]
  split
  · next cleanup result hpoll =>
      split
      · next state _ =>
          have hstate : Answerable flow.facts state := h.polls p cleanup state hpoll
          exact h.answerPoll ⟨fun authorizeUrl heq => absurd heq (hstate.asks authorizeUrl),
            hstate.recorded⟩
      · exact h.setPoll fun _ _ heq => by cases heq
      · exact h.setPoll fun _ _ heq => by cases heq
      · exact h
  · exact h

/-! ### Codes -/

/-- A submission that is answered at once. -/
lemma FlowOk.addSubmit (h : FlowOk flow) {point : SubmitPoint} (hpoint : point ≠ .submitting) :
    FlowOk (flow.addSubmit point) := by
  refine ⟨h.facts, h.cancelling, h.stopped, fun u submit hsubmit hsubmitting => ?_, h.accepted,
    h.polls, h.outcome⟩
  have hold : ∀ u submit, (flow.addSubmit point).submits.get u = some submit →
      submit.point = .submitting → flow.submits.get u = some submit := by
    intro u submit hsubmit hsubmitting
    obtain ⟨-, rfl⟩ | hold := Objects.get_add_eq_some hsubmit
    · exact absurd hsubmitting hpoint
    · exact hold
  obtain ⟨htaken, hnot, honly⟩ := h.submitting u submit (hold u submit hsubmit hsubmitting)
    hsubmitting
  exact ⟨htaken, hnot, fun u' submit' hsubmit' hsubmitting' =>
    honly u' submit' (hold u' submit' hsubmit' hsubmitting') hsubmitting'⟩

/-- A code is handed to the runtime. -/
lemma FlowOk.submit (h : FlowOk flow) (hmapped : flow.mapped) (code : String) (now : Date) :
    FlowOk (flow.submit code now) := by
  rw [SetupTokenFlow.submit]
  split_ifs with hcancelling hlength htaken
  · exact h.addSubmit fun heq => by cases heq
  · exact h.addSubmit fun heq => by cases heq
  · exact h.addSubmit fun heq => by cases heq
  · rw [not_or] at htaken
    have hcurrent : flow.isCurrent := by simp [SetupTokenFlow.isCurrent, hmapped, hcancelling]
    obtain ⟨hnot, hidle⟩ := h.not_taken hcurrent htaken.1
    refine ⟨h.facts, fun c cleanup hcleanup hpoint =>
      absurd hpoint (h.no_cancelling hcurrent hcleanup), h.stopped, ?_,
      fun haccepted => absurd haccepted hnot, h.polls, h.outcome⟩
    intro u submit hsubmit hpoint
    have hself : ∀ u submit, (flow.addSubmit .submitting).submits.get u = some submit →
        submit.point = .submitting → u = flow.submits.next := by
      intro u submit hsubmit hpoint
      obtain ⟨hu, -⟩ | hold := Objects.get_add_eq_some hsubmit
      · exact hu
      · exact absurd hpoint (hidle u submit hold)
    exact ⟨fun _ => .inl rfl, hnot, fun u' submit' hsubmit' hpoint' =>
      (hself u' submit' hsubmit' hpoint').trans (hself u submit hsubmit hpoint).symm⟩

/-- After its answer no submission is under way. -/
lemma FlowOk.settleSubmit (h : FlowOk flow) {u : ℕ} {submit : SetupTokenSubmit}
    {point : SubmitPoint} (hsubmit : flow.submits.get u = some submit)
    (hsubmitting : submit.point = .submitting) (hpoint : point ≠ .submitting) :
    ∀ u' submit', (flow.setSubmit u point).submits.get u' = some submit' →
      submit'.point ≠ .submitting := by
  intro u' submit' hsubmit' hsubmitting'
  obtain ⟨old, hold, rfl⟩ := Objects.get_modify_eq_some hsubmit'
  by_cases hu : u' = u
  · rw [if_pos hu] at hsubmitting'
    exact hpoint hsubmitting'
  · rw [if_neg hu] at hsubmitting'
    exact hu ((h.submitting u submit hsubmit hsubmitting).2.2 u' old hold hsubmitting')

lemma FlowOk.setSubmit (h : FlowOk flow) {u : ℕ} {submit : SetupTokenSubmit} {point : SubmitPoint}
    (hsubmit : flow.submits.get u = some submit) (hsubmitting : submit.point = .submitting)
    (hpoint : point ≠ .submitting) : FlowOk (flow.setSubmit u point) :=
  ⟨h.facts, h.cancelling, h.stopped, fun u' submit' hsubmit' hpoint' =>
    absurd hpoint' (h.settleSubmit hsubmit hsubmitting hpoint u' submit' hsubmit'), h.accepted,
    h.polls, h.outcome⟩

/-- The runtime takes the code. -/
lemma FlowOk.accept (h : FlowOk flow) {u : ℕ} {submit : SetupTokenSubmit} {point : SubmitPoint}
    (hsubmit : flow.submits.get u = some submit) (hsubmitting : submit.point = .submitting)
    (hpoint : point ≠ .submitting) : FlowOk ((flow.record .codeAccepted).setSubmit u point) := by
  obtain ⟨htaken, hnot, -⟩ := h.submitting u submit hsubmit hsubmitting
  have hzero : flow.facts.countP SetupTokenFact.isCodeAccepted = 0 := by
    rw [List.countP_eq_zero]
    intro fact hfact haccepted
    cases fact with
    | codeAccepted => exact hnot hfact
    | _ => cases haccepted
  have hmem : ∀ fact ∈ flow.facts, fact ∈ flow.facts ++ [.codeAccepted] :=
    fun _ => List.mem_append_left _
  refine ⟨⟨?_, h.facts.asked.concat fun haccepted => absurd haccepted hnot, ?_, ?_, ?_, ?_⟩,
    h.cancelling, fun hmapped => hmem _ (h.stopped hmapped), fun u' submit' hsubmit' hpoint' =>
      absurd hpoint' (h.settleSubmit hsubmit hsubmitting hpoint u' submit' hsubmit'),
    fun _ => htaken, ?_, h.outcome⟩
  · simp [SetupTokenFlow.setSubmit, SetupTokenFlow.record, hzero, SetupTokenFact.isCodeAccepted]
  · refine Eq.trans ?_ h.facts.completionsOnce
    simp [SetupTokenFlow.setSubmit, SetupTokenFlow.record, SetupTokenFact.isCompletionStarted]
  · simpa [SetupTokenFlow.setSubmit, SetupTokenFlow.record, SetupTokenFact.isOutcomeRecorded]
      using h.facts.recordedOnce
  · intro state
    refine Iff.trans ?_ (h.facts.outcomes state)
    simp [SetupTokenFlow.setSubmit, SetupTokenFlow.record]
  · intro state hstate hverdict
    have hold : .polled state ∈ flow.facts := by
      simpa [SetupTokenFlow.setSubmit, SetupTokenFlow.record] using hstate
    exact hmem _ (h.facts.verdicts state hold hverdict)
  · intro p cleanup state hpoll
    have hstate := h.polls p cleanup state hpoll
    exact ⟨hstate.asks, fun hverdict => hmem _ (hstate.recorded hverdict)⟩

/-- A code that was refused puts back the phase it has found. -/
lemma FlowOk.rollBack (h : FlowOk flow) {u : ℕ} {submit : SetupTokenSubmit} {point : SubmitPoint}
    {phase : SetupTokenPhase} {codeSubmittedAt : Option Date} (hcurrent : flow.isCurrent)
    (hsubmit : flow.submits.get u = some submit) (hsubmitting : submit.point = .submitting)
    (hpoint : point ≠ .submitting) :
    FlowOk { flow.setSubmit u point with phase := phase, codeSubmittedAt := codeSubmittedAt } :=
  ⟨h.facts, fun _ _ hcleanup hcancelling =>
      absurd hcancelling (h.no_cancelling hcurrent hcleanup),
    h.stopped, fun u' submit' hsubmit' hpoint' =>
      absurd hpoint' (h.settleSubmit hsubmit hsubmitting hpoint u' submit' hsubmit'),
    fun haccepted => absurd haccepted (h.submitting u submit hsubmit hsubmitting).2.1, h.polls,
    h.outcome⟩

lemma FlowOk.takeSubmitAnswer (h : FlowOk flow) (u : ℕ) (answer : Answer Unit) :
    FlowOk (flow.takeSubmitAnswer u answer) := by
  unfold SetupTokenFlow.takeSubmitAnswer
  split
  · next hsubmit =>
      cases answer with
      | ok _ => exact h.accept hsubmit rfl fun heq => by cases heq
      | err error =>
          dsimp only
          split_ifs with hcurrent
          · exact h.rollBack hcurrent hsubmit rfl fun heq => by cases heq
          · exact h.setSubmit hsubmit rfl fun heq => by cases heq
      | threw => exact h.setSubmit hsubmit rfl fun heq => by cases heq
  · exact h

/-! ### Timers -/

/-- A change of the timers and of their handlers. -/
lemma FlowOk.setTimers (h : FlowOk flow) (timeout : Bool) (timer : Option OutcomeTimer)
    (outcomeCleanups : Objects OutcomeCleanup) :
    FlowOk { flow with
      timeout := timeout
      outcomeCleanupTimeout := timer
      outcomeCleanups := outcomeCleanups } :=
  ⟨h.facts, h.cancelling, h.stopped, h.submitting, h.accepted, h.polls, h.outcome⟩

lemma FlowOk.expiryTimer (h : FlowOk flow) : FlowOk flow.expiryTimer := by
  have hfired : FlowOk { flow with timeout := false } := h.setTimers false _ _
  rw [SetupTokenFlow.expiryTimer]
  split_ifs
  · exact hfired.requestCleanup
  · exact hfired
  · exact h

lemma FlowOk.outcomeTimer (h : FlowOk flow) : FlowOk flow.outcomeTimer := by
  unfold SetupTokenFlow.outcomeTimer
  split
  · exact h
  · have hfired : FlowOk { flow with outcomeCleanupTimeout := none } := h.setTimers _ none _
    dsimp only
    split_ifs
    · exact hfired.requestCleanup.setTimers _ _ _
    · exact hfired

lemma FlowOk.takeOutcomeCleanup (h : FlowOk flow) (w : ℕ) : FlowOk (flow.takeOutcomeCleanup w) := by
  unfold SetupTokenFlow.takeOutcomeCleanup
  split
  · dsimp only
    split
    · split_ifs
      all_goals exact h.setTimers _ _ _
    · exact h.setTimers _ _ _
    · exact h
  · exact h

lemma flowOk_new (principal : ConnectionProvisioningPrincipal) (providerId : String) (now : Date) :
    FlowOk (.new principal providerId now) where
  facts :=
    { acceptedOnce := Nat.zero_le _
      asked := fun earlier later heq => absurd heq (by simp [SetupTokenFlow.new])
      completionsOnce := rfl
      recordedOnce := Nat.zero_le _
      outcomes := fun state => ⟨fun hmem => absurd hmem List.not_mem_nil, fun heq => by cases heq⟩
      verdicts := fun state hmem => absurd hmem List.not_mem_nil }
  cancelling c cleanup hcleanup := by cases hcleanup
  stopped hmapped := by cases hmapped
  submitting u submit hsubmit := by cases hsubmit
  accepted haccepted := absurd haccepted List.not_mem_nil
  polls p cleanup state hpoll := by cases hpoll
  outcome state heq := by cases heq

end Changes

/-! ### Steps -/

/-- What an event does to a flow. -/
def FlowStep (redact : String → String) (flow flow' : SetupTokenFlow) : Prop :=
  flow' = flow ∨ flow' = flow.requestCleanup.2 ∨
    ∃ reserved event, flow' = setupTokenFlowStep redact reserved flow event

section Steps

variable {redact : String → String} {s : SetupTokenService} {flow flow' : SetupTokenFlow}

lemma flows_cleanupFlows {providerId orgId : String} {n : ℕ}
    (h : (s.cleanupFlowsForProvider providerId orgId).flows.get n = some flow') :
    ∃ flow, s.flows.get n = some flow ∧ FlowStep redact flow flow' := by
  obtain ⟨flow, hflow, rfl⟩ := Objects.get_modifyAll_eq_some h
  refine ⟨flow, hflow, ?_⟩
  split_ifs
  · exact .inr (.inl rfl)
  · exact .inl rfl

/-- The flows after an event: each has made a step, and the last one may be new. -/
lemma flows_step {event : SetupTokenEvent} {n : ℕ}
    (h : (setupTokenStep redact s event).flows.get n = some flow') :
    (∃ flow, s.flows.get n = some flow ∧ FlowStep redact flow flow') ∨
      s.flows.get n = none ∧ ∃ principal providerId now, flow' = .new principal providerId now := by
  have hsame : s.flows.get n = some flow' →
      ∃ flow, s.flows.get n = some flow ∧ FlowStep redact flow flow' :=
    fun hflow => ⟨flow', hflow, .inl rfl⟩
  cases event with
  | start principal providerId pending =>
      rw [setupTokenStep, SetupTokenService.start] at h
      split_ifs at h
      · exact .inl (hsame h)
      · exact .inl (hsame h)
  | choicesListed k answer =>
      rw [setupTokenStep, SetupTokenService.takeChoices] at h
      split at h
      · split at h
        · exact .inl (flows_cleanupFlows h)
        · exact .inl (hsame h)
      · exact .inl (hsame h)
  | replaced k =>
      rw [setupTokenStep, SetupTokenService.takeReplaced] at h
      split at h
      · dsimp only at h
        split_ifs at h
        all_goals exact .inl (hsame h)
      · exact .inl (hsame h)
  | loginBegun k answer now =>
      rw [setupTokenStep, SetupTokenService.takeLogin] at h
      split at h
      · split at h
        · obtain ⟨rfl, rfl⟩ | hold := Objects.get_add_eq_some h
          · exact .inr ⟨s.flows.fresh _ le_rfl, _, _, _, rfl⟩
          · exact .inl (hsame hold)
        · exact .inl (hsame h)
      · exact .inl (hsame h)
  | disconnect orgId providerId => exact .inl (flows_cleanupFlows h)
  | on m event =>
      rw [setupTokenStep, SetupTokenService.takeFlowEvent] at h
      split at h
      · exact .inl (hsame h)
      · next flow hflow =>
          obtain ⟨old, hold, heq⟩ := Objects.get_modify_eq_some h
          by_cases hn : n = m
          · subst hn
            rw [if_pos rfl] at heq
            subst heq
            exact .inl ⟨flow, hflow, .inr (.inr ⟨_, event, rfl⟩)⟩
          · rw [if_neg hn] at heq
            subst heq
            exact .inl (hsame hold)
  | acquire key => exact .inl (hsame h)
  | release key => exact .inl (hsame h)

lemma FlowOk.flowStep (h : FlowOk flow) (hstep : FlowStep redact flow flow') : FlowOk flow' := by
  obtain rfl | rfl | ⟨reserved, event, rfl⟩ := hstep
  · exact h
  · exact h.requestCleanup
  · cases event with
    | poll orgId now =>
        rw [setupTokenFlowStep]
        split_ifs
        · exact h.poll now
        · exact h
    | loginPolled p answer now => exact h.takeLoginState p answer now reserved
    | cleaned p => exact h.takeCleaned p
    | submit orgId code now =>
        rw [setupTokenFlowStep]
        split_ifs with hmapped
        · exact h.submit hmapped.1 code now
        · exact h
    | codeSubmitted u answer => exact h.takeSubmitAnswer u answer
    | configRead k answer => exact h.takeConfig k answer
    | configPatched k answer => exact h.takePatched k answer
    | onboarded k answer => exact h.takeOnboarded k answer
    | credentialWritten k answer => exact h.takeWritten k answer
    | proved k answer => exact h.takeProof k answer
    | completed k => exact h.recordOutcome redact k
    | cancelled c answer => exact h.takeCancelAnswer c answer
    | cleanupSettled => exact h.retireCleanup
    | expiryTimer => exact h.expiryTimer
    | outcomeTimer => exact h.outcomeTimer
    | outcomeCleaned w => exact h.takeOutcomeCleanup w

end Steps

/-- The invariant of the service. -/
def SetupTokenFlowsOk (s : SetupTokenService) : Prop :=
  ∀ n flow, s.flows.get n = some flow → FlowOk flow

lemma setupTokenFlowsOk_step (redact : String → String) (s : SetupTokenService)
    (event : SetupTokenEvent) (hok : SetupTokenFlowsOk s) :
    SetupTokenFlowsOk ((setupTokenMachine redact).step s event) := by
  intro n flow' hflow'
  obtain ⟨flow, hflow, hstep⟩ | ⟨-, principal, providerId, now, rfl⟩ := flows_step hflow'
  · exact (hok n flow hflow).flowStep hstep
  · exact flowOk_new principal providerId now

lemma setupTokenFlowsOk_initial : SetupTokenFlowsOk .initial := by
  intro n flow hflow
  cases hflow

end Opzava.Provisioning
