import Opzava.Provisioning.DeviceFlowRuns

/-!
The verdicts of a device-code sign-in.

A finalization answers connected after the rebuild of the orchestrator, whether or not the flow is
still its own; a cancel that comes meanwhile answers on its own.

* `sparesFinalization`: the owner cancels no flow that is being finalized or is connected.
* `VerdictOk`: the invariant of such runs.
* `device_flow_one_verdict`: then a flow is not cancelled and connected.
-/

namespace Opzava.Provisioning

open Opzava.Library
open DevBoard (DomainError)

/-! ### The condition -/

/-- The finalization will answer connected, unless something fails. -/
def FinalizationPoint.connects : FinalizationPoint → Bool
  | .reconciling => true
  | .cleaning _ connected => connected
  | .settled connected => connected

/-- A finalization is under way, or it has ended with the answer connected. -/
def DeviceFlow.connects (flow : DeviceFlow) : Bool :=
  (List.range flow.finalizations.next).any fun f =>
    (flow.finalizations.get f).any fun finalization => finalization.point.connects

/-- A cancel that the owner begins finds no finalization of the flow under way, nor one that has
ended with the answer connected. -/
def sparesFinalization (flow : DeviceFlow) : DeviceFlowEvent → Bool
  | .cancel principal =>
      !(flow.mapped.isSome && flow.isOwner principal && flow.cancellation.isNone && flow.connects)
  | _ => true

/-! ### The invariant -/

def DeviceFlowFact.isConnected : DeviceFlowFact → Bool
  | .polled (.ok (.connected _ _)) _ | .audited .completed => true
  | _ => false

def DeviceFlowFact.isCancelled : DeviceFlowFact → Bool
  | .cancelAnswered (.ok .cancelled) | .audited .cancelled => true
  | _ => false

/-- The cancellation has failed, or it waits for a stop that has failed. -/
def Doomed (flow : DeviceFlow) (cancellation : DeviceCancellation) : Prop :=
  (∃ error, cancellation.result = some (.error error)) ∨
    cancellation.result = none ∧ ∃ n error, cancellation.stop = some n ∧
      flow.awaited (some n) = some (.error error)

/-- A finalization has answered connected. -/
def DeviceFlow.HasConnected (flow : DeviceFlow) : Prop :=
  ∃ f finalization, flow.finalizations.get f = some finalization ∧
    finalization.point = .settled true

/-- A cancellation has succeeded. -/
def DeviceFlow.HasCancelled (flow : DeviceFlow) : Prop :=
  ∃ c cancellation, flow.cancellations.get c = some cancellation ∧
    cancellation.result = some (.ok .cancelled)

/-- A stop or a cancellation that has succeeded leaves no entry; while a finalization may answer
connected, all cancellations fail. -/
structure VerdictOk (flow : DeviceFlow) : Prop where
  stopped : ∀ n, flow.awaited (some n) = some (.ok ()) → flow.mapped = none
  cancels : ∀ c cancellation state, flow.cancellations.get c = some cancellation →
    cancellation.result = some (.ok state) → flow.mapped = none
  awaits : ∀ c cancellation, flow.cancellations.get c = some cancellation →
    cancellation.stop ≠ none
  doomed : flow.connects → ∀ c cancellation, flow.cancellations.get c = some cancellation →
    Doomed flow cancellation
  connected : ∀ fact ∈ flow.facts, fact.isConnected → flow.HasConnected
  cancelled : ∀ fact ∈ flow.facts, fact.isCancelled → flow.HasCancelled

section Changes

variable {flow flow' : DeviceFlow}

lemma connects_iff : flow.connects ↔ ∃ f finalization,
    flow.finalizations.get f = some finalization ∧ finalization.point.connects := by
  simp only [DeviceFlow.connects, List.any_eq_true, List.mem_range, Option.any_eq_true]
  exact ⟨fun ⟨f, _, finalization, hf, hconnects⟩ => ⟨f, finalization, hf, hconnects⟩,
    fun ⟨f, finalization, hf, hconnects⟩ =>
      ⟨f, Objects.lt_next hf, finalization, hf, hconnects⟩⟩

/-- A verdict that is recorded is that of a finalization or of a cancellation. -/
lemma VerdictOk.record (h : VerdictOk flow) {fact : DeviceFlowFact}
    (hconnected : fact.isConnected → flow.HasConnected)
    (hcancelled : fact.isCancelled → flow.HasCancelled) : VerdictOk (flow.record fact) :=
  { stopped := h.stopped
    cancels := h.cancels
    awaits := h.awaits
    doomed := h.doomed
    connected := fun fact' hmem hfact' => by
      rw [DeviceFlow.record, List.mem_append, List.mem_singleton] at hmem
      obtain hold | rfl := hmem
      · exact h.connected fact' hold hfact'
      · exact hconnected hfact'
    cancelled := fun fact' hmem hfact' => by
      rw [DeviceFlow.record, List.mem_append, List.mem_singleton] at hmem
      obtain hold | rfl := hmem
      · exact h.cancelled fact' hold hfact'
      · exact hcancelled hfact' }

/-- A change of what is under way, but for the stops and the finalizations. -/
lemma VerdictOk.setCalls (h : VerdictOk flow) (startPoint : DeviceStartPoint)
    (polls : Objects DevicePoll) (finalization cancellation : Option ℕ)
    (cancels : Objects DeviceCancelCall) :
    VerdictOk { flow with
      startPoint := startPoint
      polls := polls
      finalization := finalization
      cancellation := cancellation
      cancels := cancels } :=
  ⟨h.stopped, h.cancels, h.awaits, h.doomed, h.connected, h.cancelled⟩

/-- What succeeds leaves no entry: a flow with an entry has seen nothing succeed. -/
lemma VerdictOk.setMapped (h : VerdictOk flow) (hmapped : flow.mapped ≠ none)
    (mapped : Option PendingModelProviderDeviceFlow) (timers : Objects FlowTimer) (now : Date) :
    VerdictOk { flow with mapped := mapped, timers := timers, now := now } :=
  ⟨fun n hn => absurd (h.stopped n hn) hmapped,
    fun c cancellation state hc hresult =>
      absurd (h.cancels c cancellation state hc hresult) hmapped,
    h.awaits, h.doomed, h.connected, h.cancelled⟩

/-! ### Stops -/

lemma awaited_iff {n : ℕ} {result : Except DomainError Unit} :
    flow.awaited (some n) = some result ↔
      ∃ generation, flow.stops.get n = some ⟨generation, .settled result⟩ := by
  cases hstop : flow.stops.get n with
  | none => simp [DeviceFlow.awaited, hstop]
  | some stop =>
      obtain ⟨generation, point⟩ := stop
      cases point with
      | cancelling => simp [DeviceFlow.awaited, hstop]
      | settled result' => simp [DeviceFlow.awaited, hstop]

/-- A doomed cancellation stays doomed when the stops that have failed stay so. -/
lemma Doomed.mono {cancellation : DeviceCancellation} (h : Doomed flow cancellation)
    (hfailed : ∀ n error, flow.awaited (some n) = some (.error error) →
      flow'.awaited (some n) = some (.error error)) : Doomed flow' cancellation := by
  obtain hfailure | ⟨hnone, n, error, hn, herror⟩ := h
  · exact .inl hfailure
  · exact .inr ⟨hnone, n, error, hn, hfailed n error herror⟩

lemma VerdictOk.beginStop (h : VerdictOk flow) {current : PendingModelProviderDeviceFlow}
    (hmapped : flow.mapped = some current) : VerdictOk (flow.beginStop current) := by
  have hsome : flow.mapped ≠ none := by
    rw [hmapped]
    exact Option.some_ne_none _
  have hrecord : VerdictOk (flow.record (.acquired (.stop flow.stops.next))) := h.record nofun nofun
  refine ⟨fun n hn => ?_, fun c cancellation state hc hresult =>
    absurd (h.cancels c cancellation state hc hresult) hsome, h.awaits,
    fun hconnects c cancellation hc => (h.doomed hconnects c cancellation hc).mono
      fun n error herror => ?_, hrecord.connected, hrecord.cancelled⟩
  · obtain ⟨generation, hstop⟩ := awaited_iff.mp hn
    obtain ⟨-, heq⟩ | hold := Objects.get_add_eq_some hstop
    · cases heq
    · exact absurd (h.stopped n (awaited_iff.mpr ⟨generation, hold⟩)) hsome
  · obtain ⟨generation, hstop⟩ := awaited_iff.mp herror
    exact awaited_iff.mpr ⟨generation, Objects.get_add_of_some hstop⟩

lemma VerdictOk.cleanup (h : VerdictOk flow) (generation : ℕ) :
    VerdictOk (flow.cleanup generation).2 := by
  rw [DeviceFlow.cleanup]
  split
  · exact h
  · split
    · exact h
    · next current hmapped =>
        split_ifs
        · exact h.beginStop hmapped
        · exact h

/-- A stop that was under way has its result. -/
lemma VerdictOk.settleStop (h : VerdictOk flow) {n generation : ℕ}
    {result : Except DomainError Unit}
    (hstop : flow.stops.get n = some ⟨generation, .cancelling⟩)
    (hresult : result = .ok () → flow.mapped = none) : VerdictOk (flow.settleStop n result) := by
  have hrecord : VerdictOk (flow.record (.released (.stop n))) := h.record nofun nofun
  refine ⟨fun n' hn' => ?_, h.cancels, h.awaits, fun hconnects c cancellation hc =>
    (h.doomed hconnects c cancellation hc).mono fun n' error herror => ?_,
    hrecord.connected, hrecord.cancelled⟩
  · obtain ⟨generation', hstop'⟩ := awaited_iff.mp hn'
    obtain ⟨old, hold, heq⟩ := Objects.get_modify_eq_some hstop'
    split_ifs at heq
    · obtain ⟨-, heq⟩ := DeviceStop.mk.inj heq
      exact hresult (StopPoint.settled.inj heq).symm
    · subst heq
      exact h.stopped n' (awaited_iff.mpr ⟨generation', hold⟩)
  · obtain ⟨generation', hstop'⟩ := awaited_iff.mp herror
    have hne : n' ≠ n := by
      rintro rfl
      rw [hstop] at hstop'
      cases hstop'
    exact awaited_iff.mpr ⟨generation', (Objects.get_modify_of_ne hne).trans hstop'⟩

lemma confirmStop_mapped (h : DeviceFlowOk flow) {n generation : ℕ}
    (hstop : flow.stops.get n = some ⟨generation, .cancelling⟩) :
    (flow.confirmStop generation).mapped = none := by
  obtain ⟨current, hmapped, hcurrent⟩ := h.entry_of_cancelling hstop
  simp only [DeviceFlow.confirmStop, hmapped, if_pos hcurrent]

lemma VerdictOk.confirmStop (h : VerdictOk flow) (generation : ℕ) :
    VerdictOk (flow.confirmStop generation) := by
  unfold DeviceFlow.confirmStop
  split
  · next current hmapped =>
      split_ifs
      · exact h.setMapped (by rw [hmapped]; exact Option.some_ne_none _) _ _ flow.now
      · exact h
  · exact h

lemma VerdictOk.restoreFlow (h : VerdictOk flow) (generation : ℕ) :
    VerdictOk (flow.restoreFlow generation) := by
  unfold DeviceFlow.restoreFlow
  split
  · next current hmapped =>
      have hsome : flow.mapped ≠ none := by
        rw [hmapped]
        exact Option.some_ne_none _
      split_ifs
      · exact h.setMapped hsome _ _ flow.now
      · exact h.setMapped hsome _ flow.timers flow.now
      · exact h
  · exact h

lemma restoreFlow_stops {generation : ℕ} : (flow.restoreFlow generation).stops = flow.stops := by
  unfold DeviceFlow.restoreFlow
  split
  · split_ifs <;> rfl
  · rfl

lemma confirmStop_stops {generation : ℕ} : (flow.confirmStop generation).stops = flow.stops := by
  unfold DeviceFlow.confirmStop
  split
  · split_ifs <;> rfl
  · rfl

lemma VerdictOk.takeCancelAnswer (h : VerdictOk flow) (hok : DeviceFlowOk flow) (n : ℕ)
    (answer : Answer Unit) : VerdictOk (flow.takeCancelAnswer n answer) := by
  unfold DeviceFlow.takeCancelAnswer
  split
  · next generation hstop =>
      have hrestored : VerdictOk ((flow.restoreFlow generation).settleStop n
          (.error DeviceFlow.deviceFlowStopUnverified)) := by
        have hget : (flow.restoreFlow generation).stops.get n =
            some ⟨generation, .cancelling⟩ := by
          rw [restoreFlow_stops]
          exact hstop
        exact (h.restoreFlow generation).settleStop hget nofun
      split
      · have hrecord : VerdictOk (flow.record .stopConfirmed) := h.record nofun nofun
        have hokRecord : DeviceFlowOk (flow.record .stopConfirmed) := hok.record trivial
        have hget : ((flow.record .stopConfirmed).confirmStop generation).stops.get n =
            some ⟨generation, .cancelling⟩ := by
          rw [confirmStop_stops]
          exact hstop
        exact (hrecord.confirmStop generation).settleStop hget
          fun _ => confirmStop_mapped hokRecord hstop
      · exact hrestored
      · exact hrestored
  · exact h

lemma VerdictOk.setStop (h : VerdictOk flow) (stop : Option ℕ) (timers : Objects FlowTimer)
    (now : Date) : VerdictOk { flow with stop := stop, timers := timers, now := now } :=
  ⟨h.stopped, h.cancels, h.awaits, h.doomed, h.connected, h.cancelled⟩

lemma VerdictOk.retireStop (h : VerdictOk flow) : VerdictOk flow.retireStop := by
  rw [DeviceFlow.retireStop]
  split_ifs
  · exact h.setStop none flow.timers flow.now
  · exact h

lemma VerdictOk.fireTimer (h : VerdictOk flow) (t : ℕ) : VerdictOk (flow.fireTimer t) := by
  unfold DeviceFlow.fireTimer
  split
  · split_ifs
    · have hfired : VerdictOk { flow with
          timers := flow.timers.modify t fun timer => { timer with armed := false } } :=
        h.setStop flow.stop _ flow.now
      dsimp only
      split
      · exact hfired.cleanup _
      · exact hfired
    · exact h
  · exact h

/-! ### The start and the polls -/

/-- The holder of a current copy stores it again. -/
lemma VerdictOk.store (h : VerdictOk flow) {copy : PendingModelProviderDeviceFlow}
    (entry : PendingModelProviderDeviceFlow) (hcurrent : flow.isCurrentActive copy) :
    VerdictOk { flow with mapped := some entry } := by
  obtain ⟨current, hmapped, -⟩ := isCurrentActive_iff.mp hcurrent
  exact h.setMapped (by rw [hmapped]; exact Option.some_ne_none _) _ flow.timers flow.now

lemma VerdictOk.takeStartLogin (h : VerdictOk flow) (answer : Answer DeviceLoginState) :
    VerdictOk (flow.takeStartLogin answer) := by
  have hcleaned := h.cleanup flow.startBase.generation
  unfold DeviceFlow.takeStartLogin
  split
  · split
    · exact h.setCalls _ _ _ _ _
    · exact hcleaned.setCalls _ _ _ _ _
    · exact hcleaned.setCalls _ _ _ _ _
    · split_ifs with hcurrent
      · split
        · next deviceCode verificationUri _ =>
            exact (h.store
              { flow.startBase with
                verificationUri := some verificationUri
                userCode := some deviceCode } hcurrent).setCalls _ _ _ _ _
        · exact h.setCalls _ _ _ _ _
      · exact h.setCalls _ _ _ _ _
  · exact h

lemma VerdictOk.takeStartSlept (h : VerdictOk flow) : VerdictOk flow.takeStartSlept := by
  unfold DeviceFlow.takeStartSlept
  split
  · split_ifs
    all_goals exact h.setCalls _ _ _ _ _
  · exact h

lemma VerdictOk.takeStartCleaned (h : VerdictOk flow) : VerdictOk flow.takeStartCleaned := by
  unfold DeviceFlow.takeStartCleaned
  split
  · split
    · exact h.setCalls _ _ _ _ _
    · exact h.setCalls _ _ _ _ _
    · exact h
  · exact h

lemma VerdictOk.setPoll (h : VerdictOk flow) (p : ℕ) (point : DevicePollPoint) :
    VerdictOk (flow.setPoll p point) :=
  h.setCalls _ _ _ _ _

lemma VerdictOk.addPoll (h : VerdictOk flow) (entry : PendingModelProviderDeviceFlow)
    (point : DevicePollPoint) : VerdictOk (flow.addPoll entry point) :=
  h.setCalls _ _ _ _ _

/-- Only a finalization that has ended so lets a poll answer connected. -/
lemma VerdictOk.recordAnswer (h : VerdictOk flow)
    {result : Except DomainError DeviceFlowPollState}
    (hresult : ∀ message connection, result = .ok (.connected message connection) →
      flow.HasConnected) : VerdictOk (flow.recordAnswer result) := by
  have hanswered : VerdictOk (flow.record (.polled result flow.stopInFlight)) := by
    refine h.record (fun hconnected => ?_) nofun
    unfold DeviceFlowFact.isConnected at hconnected
    split at hconnected
    · next message connection stopping heq =>
        exact hresult message connection (DeviceFlowFact.polled.inj heq).1
    · next heq => cases heq
    · cases hconnected
  unfold DeviceFlow.recordAnswer
  dsimp only
  split
  · next transition htransition =>
      refine hanswered.record (fun hconnected => ?_) fun hcancelled => ?_
      · cases transition with
        | completed =>
            unfold DeviceFlow.terminalTransition at htransition
            split at htransition
            · cases htransition
            · next message connection => exact hresult message connection rfl
            · cases htransition
            · cases htransition
            · cases htransition
        | failed => cases hconnected
        | cancelled => cases hconnected
      · cases transition with
        | completed => cases hcancelled
        | failed => cases hcancelled
        | cancelled =>
            unfold DeviceFlow.terminalTransition at htransition
            split at htransition <;> cases htransition
  · exact hanswered

lemma VerdictOk.answerPoll (h : VerdictOk flow) {p : ℕ}
    {result : Except DomainError DeviceFlowPollState}
    (hresult : ∀ message connection, result = .ok (.connected message connection) →
      flow.HasConnected) : VerdictOk (flow.answerPoll p result) :=
  (h.recordAnswer hresult).setPoll p _

lemma VerdictOk.answerNotFound (h : VerdictOk flow) (p : ℕ) :
    VerdictOk (flow.answerPoll p (.ok DeviceFlow.notFoundState)) :=
  h.answerPoll fun _ _ heq => by cases heq

lemma VerdictOk.cleanBeforeAnswer (h : VerdictOk flow) (p generation : ℕ) (reason : StopReason) :
    VerdictOk (flow.cleanBeforeAnswer p generation reason) :=
  (h.cleanup generation).setPoll p _

lemma VerdictOk.poll (h : VerdictOk flow) (principal : ConnectionProvisioningPrincipal) :
    VerdictOk (flow.poll principal) := by
  have hanswered : VerdictOk (flow.recordAnswer (.ok DeviceFlow.notFoundState)) :=
    h.recordAnswer fun _ _ heq => by cases heq
  unfold DeviceFlow.poll
  split
  · exact h.record nofun nofun
  · split_ifs
    · exact hanswered.addPoll _ _
    · exact (h.cleanup _).addPoll _ _
    · exact h.addPoll _ _

/-! ### Finalizations -/

/-- While the entry is active, no cancellation can succeed any more. -/
lemma VerdictOk.doomed_of_active (h : VerdictOk flow) (hok : DeviceFlowOk flow)
    {entry : PendingModelProviderDeviceFlow} (hcurrent : flow.isCurrentActive entry) {c : ℕ}
    {cancellation : DeviceCancellation} (hc : flow.cancellations.get c = some cancellation) :
    Doomed flow cancellation := by
  obtain ⟨current, hmapped, -⟩ := isCurrentActive_iff.mp hcurrent
  have hsome : flow.mapped ≠ none := by
    rw [hmapped]
    exact Option.some_ne_none _
  cases hresult : cancellation.result with
  | some result =>
      cases result with
      | error error => exact .inl ⟨error, hresult⟩
      | ok state => exact absurd (h.cancels c cancellation state hc hresult) hsome
  | none =>
      obtain ⟨n, hn⟩ := Option.ne_none_iff_exists'.mp (h.awaits c cancellation hc)
      obtain ⟨⟨generation, point⟩, hstop⟩ := hok.cancellations c cancellation n hc hn
      cases point with
      | cancelling =>
          have hidle := hok.idle hcurrent
          have hstopping : flow.stopInFlight := stopInFlight_iff.mpr ⟨n, _, hstop, rfl⟩
          rw [hidle] at hstopping
          cases hstopping
      | settled settled =>
          have hawaited : flow.awaited (some n) = some settled :=
            awaited_iff.mpr ⟨generation, hstop⟩
          cases settled with
          | ok value => exact absurd (h.stopped n hawaited) hsome
          | error error => exact .inr ⟨hresult, n, error, hn, hawaited⟩

/-- Finalizations that answer connected have done so before, and what may answer connected finds
its cancellations doomed. -/
lemma VerdictOk.setFinalizations (h : VerdictOk flow) (finalizations : Objects DeviceFinalization)
    (finalization : Option ℕ)
    (hdoomed : { flow with finalizations := finalizations }.connects →
      ∀ c cancellation, flow.cancellations.get c = some cancellation → Doomed flow cancellation)
    (hkept : flow.HasConnected → { flow with finalizations := finalizations }.HasConnected) :
    VerdictOk { flow with finalizations := finalizations, finalization := finalization } :=
  ⟨h.stopped, h.cancels, h.awaits, hdoomed,
    fun fact hmem hfact => hkept (h.connected fact hmem hfact), h.cancelled⟩

lemma VerdictOk.startFinalization (h : VerdictOk flow) (hok : DeviceFlowOk flow)
    {entry : PendingModelProviderDeviceFlow} (hcurrent : flow.isCurrentActive entry)
    (connection : DeviceConnection) : VerdictOk (flow.startFinalization entry connection) := by
  have hstarted : VerdictOk (flow.record (.finalizationStarted flow.stopInFlight)) :=
    h.record nofun nofun
  have hheld : VerdictOk ((flow.record (.finalizationStarted flow.stopInFlight)).record
      (.acquired (.finalization flow.finalizations.next))) := hstarted.record nofun nofun
  refine hheld.setFinalizations _ _ (fun _ c cancellation hc => ?_) ?_
  · exact h.doomed_of_active hok hcurrent hc
  · rintro ⟨f, finalization, hf, hpoint⟩
    exact ⟨f, finalization, Objects.get_add_of_some hf, hpoint⟩

lemma VerdictOk.takeRefreshed (h : VerdictOk flow) (hok : DeviceFlowOk flow) (p : ℕ)
    (answer : Answer DeviceConnection) : VerdictOk (flow.takeRefreshed p answer) := by
  unfold DeviceFlow.takeRefreshed
  split
  · split
    · split_ifs with hcurrent hconnected
      · split
        · exact h.setPoll p _
        · exact (h.startFinalization hok hcurrent _).setPoll p _
      · exact h.setPoll p _
      · exact h.answerNotFound p
    · exact h.setPoll p _
    · exact h.setPoll p _
  · exact h

lemma pendingState_ne_connected (entry : PendingModelProviderDeviceFlow) (message : String)
    (connection : DeviceConnection) :
    (.ok (DeviceFlow.pendingState entry) : Except DomainError DeviceFlowPollState) ≠
      .ok (.connected message connection) := by
  intro heq
  rw [DeviceFlow.pendingState] at heq
  split at heq <;> cases heq

lemma VerdictOk.readLogin (h : VerdictOk flow) (p : ℕ) {entry : PendingModelProviderDeviceFlow}
    (hcurrent : flow.isCurrentActive entry) (state : DeviceLoginState) :
    VerdictOk (flow.readLogin p entry state) := by
  cases state with
  | unavailable => exact h.cleanBeforeAnswer p _ _
  | terminalFailure reason => exact h.cleanBeforeAnswer p _ _
  | awaitingCode deviceCode verificationUri =>
      rw [DeviceFlow.readLogin]
      split_ifs
      · have hstored := h.store
          { entry with verificationUri := some verificationUri, userCode := some deviceCode }
          hcurrent
        exact hstored.answerPoll fun _ _ heq => absurd heq (pendingState_ne_connected _ _ _)
      · exact h.answerPoll fun _ _ heq => absurd heq (pendingState_ne_connected _ _ _)
  | pending => exact h.answerPoll fun _ _ heq => absurd heq (pendingState_ne_connected _ _ _)
  | completed => exact h.answerPoll fun _ _ heq => absurd heq (pendingState_ne_connected _ _ _)

lemma VerdictOk.takeLogin (h : VerdictOk flow) (p : ℕ) (answer : Answer DeviceLoginState) :
    VerdictOk (flow.takeLogin p answer) := by
  unfold DeviceFlow.takeLogin
  split
  · split
    · exact h.setPoll p _
    · split_ifs
      · exact h.cleanBeforeAnswer p _ _
      · exact h.answerNotFound p
    · split_ifs with hcurrent
      · exact h.readLogin p hcurrent _
      · exact h.answerNotFound p
  · exact h

lemma VerdictOk.takeCleaned (h : VerdictOk flow) (p : ℕ) : VerdictOk (flow.takeCleaned p) := by
  unfold DeviceFlow.takeCleaned
  split
  · next entry stop reason hpoll =>
      split
      · refine h.answerPoll fun message connection heq => ?_
        cases reason <;> cases heq
      · exact h.setPoll p _
      · exact h
  · exact h

/-- A finalization goes on: it may answer connected only if it might before. -/
lemma VerdictOk.setFinalization (h : VerdictOk flow) {f : ℕ} {finalization : DeviceFinalization}
    {point : FinalizationPoint} (hf : flow.finalizations.get f = some finalization)
    (hpoint : point.connects → finalization.point.connects)
    (hunsettled : finalization.point ≠ .settled true) :
    VerdictOk (flow.setFinalization f point) := by
  refine h.setFinalizations _ _ (fun hconnects => h.doomed (connects_iff.mpr ?_)) ?_
  · obtain ⟨f', finalization', hf', hconnects'⟩ := connects_iff.mp hconnects
    obtain ⟨old, hold, rfl⟩ := Objects.get_modify_eq_some hf'
    split_ifs at hconnects'
    · exact ⟨f, finalization, hf, hpoint hconnects'⟩
    · exact ⟨f', old, hold, hconnects'⟩
  · rintro ⟨f', finalization', hf', hsettled⟩
    have hne : f' ≠ f := by
      rintro rfl
      rw [hf, Option.some.injEq] at hf'
      exact hunsettled (hf' ▸ hsettled)
    exact ⟨f', finalization', (Objects.get_modify_of_ne hne).trans hf', hsettled⟩

lemma cleanup_finalizations (flow : DeviceFlow) {generation : ℕ} :
    (flow.cleanup generation).2.finalizations = flow.finalizations := by
  rw [DeviceFlow.cleanup]
  split
  · rfl
  · split
    · rfl
    · split_ifs <;> rfl

lemma VerdictOk.takeReconciled (h : VerdictOk flow) (f : ℕ) (answer : Answer Unit) :
    VerdictOk (flow.takeReconciled f answer) := by
  unfold DeviceFlow.takeReconciled
  split
  · next entry connection hf =>
      have hget : (flow.cleanup entry.generation).2.finalizations.get f =
          some ⟨entry, connection, .reconciling⟩ := by
        rw [cleanup_finalizations]
        exact hf
      exact (h.cleanup entry.generation).setFinalization hget (fun _ => rfl) nofun
  · exact h

lemma VerdictOk.takeFinalizationCleaned (h : VerdictOk flow) (f : ℕ) :
    VerdictOk (flow.takeFinalizationCleaned f) := by
  have hreleased : VerdictOk (flow.record (.released (.finalization f))) := h.record nofun nofun
  unfold DeviceFlow.takeFinalizationCleaned
  split
  · next entry connection stop connected hf =>
      split
      · exact hreleased.setFinalization hf id nofun
      · exact hreleased.setFinalization hf nofun nofun
      · exact h
  · exact h

lemma VerdictOk.retireFinalization (h : VerdictOk flow) : VerdictOk flow.retireFinalization := by
  unfold DeviceFlow.retireFinalization
  split
  · exact h.setCalls _ flow.polls _ _ _
  · exact h

lemma VerdictOk.takeFinalized (h : VerdictOk flow) (p : ℕ) : VerdictOk (flow.takeFinalized p) := by
  unfold DeviceFlow.takeFinalized
  split
  · next entry f hpoll =>
      split
      · next hf => exact h.answerPoll fun _ _ _ => ⟨f, _, hf, rfl⟩
      · exact h.setPoll p _
      · exact h
  · exact h

/-! ### Cancels -/

lemma VerdictOk.answerCancel (h : VerdictOk flow)
    {result : Except DomainError DeviceFlowCancelState}
    (hresult : result = .ok .cancelled → flow.HasCancelled) :
    VerdictOk (flow.answerCancel result) := by
  unfold DeviceFlow.answerCancel
  split
  · have hanswered : VerdictOk (flow.record (.cancelAnswered (.ok .cancelled))) :=
      h.record nofun fun _ => hresult rfl
    exact hanswered.record nofun fun _ => hresult rfl
  · next hother =>
      refine h.record nofun fun hcancelled => ?_
      unfold DeviceFlowFact.isCancelled at hcancelled
      split at hcancelled
      · next heq => exact absurd (DeviceFlowFact.cancelAnswered.inj heq) hother
      · next heq => cases heq
      · cases hcancelled

/-- There is a stop to await when the flow has an entry. -/
lemma awaited_cleanup_ne_none {current : PendingModelProviderDeviceFlow}
    (hmapped : flow.mapped = some current) : (flow.cleanup current.generation).1 ≠ none := by
  rw [DeviceFlow.cleanup]
  split
  · exact Option.some_ne_none _
  · simp [hmapped]

lemma VerdictOk.cancel (h : VerdictOk flow) {principal : ConnectionProvisioningPrincipal}
    (hspared : sparesFinalization flow (.cancel principal)) :
    VerdictOk (flow.cancel principal) := by
  unfold DeviceFlow.cancel
  split
  · exact h.answerCancel nofun
  · next current hmapped =>
      split_ifs with howner
      · exact h.answerCancel nofun
      · split
        · exact h.setCalls _ flow.polls _ _ _
        · next hcancellation =>
            have hcleaned := h.cleanup current.generation
            have hspared' : flow.connects = false := by
              simpa [sparesFinalization, hmapped, howner, hcancellation] using hspared
            have hidle : (flow.cleanup current.generation).2.connects = false := by
              rw [DeviceFlow.connects, cleanup_finalizations]
              exact hspared'
            have hold : ∀ c cancellation, (flow.cancellations.add
                ⟨(flow.cleanup current.generation).1, none⟩).get c = some cancellation →
                (cancellation.result = none ∧ cancellation.stop ≠ none) ∨
                  (flow.cleanup current.generation).2.cancellations.get c = some cancellation := by
              intro c cancellation hc
              rw [cleanup_cancellations]
              obtain ⟨-, rfl⟩ | hold := Objects.get_add_eq_some hc
              · exact .inl ⟨rfl, awaited_cleanup_ne_none hmapped⟩
              · exact .inr hold
            refine ⟨hcleaned.stopped, fun c cancellation state hc hresult => ?_,
              fun c cancellation hc => ?_, fun hconnects => ?_, hcleaned.connected,
              fun fact hmem hfact => ?_⟩
            · obtain ⟨hnone, -⟩ | hget := hold c cancellation hc
              · rw [hnone] at hresult
                cases hresult
              · exact hcleaned.cancels c cancellation state hget hresult
            · exact (hold c cancellation hc).elim And.right (hcleaned.awaits c cancellation)
            · exact absurd hconnects (Bool.eq_false_iff.mp hidle)
            · obtain ⟨c, cancellation, hc, hresult⟩ := hcleaned.cancelled fact hmem hfact
              rw [cleanup_cancellations] at hc
              exact ⟨c, cancellation, Objects.get_add_of_some hc, hresult⟩

/-- A cancellation has the result of its stop. -/
lemma VerdictOk.takeCancellationCleaned (h : VerdictOk flow) (c : ℕ) :
    VerdictOk (flow.takeCancellationCleaned c) := by
  unfold DeviceFlow.takeCancellationCleaned
  split
  · next stop hc =>
      split
      · next settled hsettled =>
          obtain ⟨n, rfl⟩ := Option.ne_none_iff_exists'.mp (h.awaits c _ hc)
          refine ⟨h.stopped, fun c' cancellation state hc' hresult => ?_,
            fun c' cancellation hc' => ?_, fun hconnects c' cancellation hc' => ?_, h.connected,
            fun fact hmem hfact => ?_⟩
          · obtain ⟨old, hold, rfl⟩ := Objects.get_modify_eq_some hc'
            split_ifs at hresult
            · cases settled with
              | ok value => exact h.stopped n hsettled
              | error error => cases hresult
            · exact h.cancels c' old state hold hresult
          · obtain ⟨old, hold, rfl⟩ := Objects.get_modify_eq_some hc'
            split_ifs
            · exact h.awaits c' old hold
            · exact h.awaits c' old hold
          · obtain ⟨old, hold, rfl⟩ := Objects.get_modify_eq_some hc'
            have hdoomed := h.doomed hconnects c' old hold
            split_ifs with hcc
            · subst hcc
              rw [hc, Option.some.injEq] at hold
              subst hold
              obtain ⟨error, hfailed⟩ | ⟨-, n', error, hn', herror⟩ := hdoomed
              · cases hfailed
              · obtain rfl : n = n' := Option.some.inj hn'
                rw [hsettled, Option.some.injEq] at herror
                subst herror
                exact .inl ⟨_, rfl⟩
            · exact hdoomed
          · obtain ⟨c', cancellation, hc', hresult⟩ := h.cancelled fact hmem hfact
            have hne : c' ≠ c := by
              rintro rfl
              rw [hc, Option.some.injEq] at hc'
              rw [← hc'] at hresult
              cases hresult
            exact ⟨c', cancellation, (Objects.get_modify_of_ne hne).trans hc', hresult⟩
      · exact h
  · exact h

lemma VerdictOk.takeCancelled (h : VerdictOk flow) (x : ℕ) : VerdictOk (flow.takeCancelled x) := by
  unfold DeviceFlow.takeCancelled
  split
  · next c hx =>
      split
      · next stop result hc =>
          have hanswered := h.answerCancel fun hresult => ⟨c, _, hc, congrArg some hresult⟩
          exact hanswered.setCalls _ _ _ _ _
      · exact h
  · exact h

lemma VerdictOk.retireCancellation (h : VerdictOk flow) : VerdictOk flow.retireCancellation := by
  unfold DeviceFlow.retireCancellation
  split
  · exact h.setCalls _ flow.polls _ _ _
  · exact h

lemma verdictOk_new (principal : ConnectionProvisioningPrincipal)
    (providerId authChoiceId : String) (now : Date) :
    VerdictOk (.new principal providerId authChoiceId now) where
  stopped n hn := by cases hn
  cancels c cancellation state hc := by cases hc
  awaits c cancellation hc := by cases hc
  doomed hconnects := by cases hconnects
  connected fact hmem := absurd hmem List.not_mem_nil
  cancelled fact hmem := absurd hmem List.not_mem_nil

/-! ### Steps -/

lemma verdictOk_step (flow : DeviceFlow) (event : DeviceFlowEvent)
    (h : DeviceFlowOk flow ∧ VerdictOk flow) (hevent : sparesFinalization flow event = true) :
    DeviceFlowOk (deviceFlowMachine.step flow event) ∧
      VerdictOk (deviceFlowMachine.step flow event) := by
  refine ⟨deviceFlowOk_step flow event h.1, ?_⟩
  change VerdictOk (deviceFlowStep flow event)
  obtain ⟨hok, h⟩ := h
  cases event with
  | startPolled answer => exact h.takeStartLogin answer
  | startSlept => exact h.takeStartSlept
  | startCleaned => exact h.takeStartCleaned
  | poll principal => exact h.poll principal
  | refreshed p answer => exact h.takeRefreshed hok p answer
  | loginPolled p answer => exact h.takeLogin p answer
  | pollCleaned p => exact h.takeCleaned p
  | finalized p => exact h.takeFinalized p
  | reconciled f answer => exact h.takeReconciled f answer
  | finalizationCleaned f => exact h.takeFinalizationCleaned f
  | finalizationRetired => exact h.retireFinalization
  | cancel principal => exact h.cancel hevent
  | cancellationCleaned c => exact h.takeCancellationCleaned c
  | cancelAnswered x => exact h.takeCancelled x
  | cancellationRetired => exact h.retireCancellation
  | cleanup generation => exact h.cleanup generation
  | cancelled n answer => exact h.takeCancelAnswer hok n answer
  | stopRetired => exact h.retireStop
  | timer t => exact h.fireTimer t
  | elapse ms => exact h.setStop flow.stop flow.timers _

end Changes

/-! ### The verdict -/

/-- No call has answered cancelled and another one connected, and the audit trail has not both. -/
structure OneVerdict (flow : DeviceFlow) : Prop where
  answers : ∀ message connection stopping,
    .polled (.ok (.connected message connection)) stopping ∈ flow.facts →
      .cancelAnswered (.ok .cancelled) ∉ flow.facts
  audits : .audited .completed ∈ flow.facts → .audited .cancelled ∉ flow.facts

/-- A finalization that has answered connected dooms every cancellation. -/
lemma VerdictOk.not_both {flow : DeviceFlow} (h : VerdictOk flow) {fact fact' : DeviceFlowFact}
    (hmem : fact ∈ flow.facts) (hconnected : fact.isConnected) (hmem' : fact' ∈ flow.facts)
    (hcancelled : fact'.isCancelled) : False := by
  obtain ⟨f, finalization, hf, hsettled⟩ := h.connected fact hmem hconnected
  obtain ⟨c, cancellation, hc, hresult⟩ := h.cancelled fact' hmem' hcancelled
  have hconnects : flow.connects :=
    connects_iff.mpr ⟨f, finalization, hf, by rw [hsettled]; rfl⟩
  obtain ⟨error, hfailed⟩ | ⟨hnone, -⟩ := h.doomed hconnects c cancellation hc
  · rw [hresult] at hfailed
    cases hfailed
  · rw [hresult] at hnone
    cases hnone

lemma VerdictOk.oneVerdict {flow : DeviceFlow} (h : VerdictOk flow) : OneVerdict flow :=
  ⟨fun _ _ _ hmem hmem' => h.not_both hmem rfl hmem' rfl,
    fun hmem hmem' => h.not_both hmem rfl hmem' rfl⟩

/-- **One verdict**: in every run in which the owner cancels no flow that is being finalized or
was answered connected, no flow is both cancelled and connected. -/
theorem device_flow_one_verdict (principal : ConnectionProvisioningPrincipal)
    (providerId authChoiceId : String) (now : Date) (events : List DeviceFlowEvent)
    (h : deviceFlowMachine.EachStep (fun flow event => sparesFinalization flow event = true)
      (.new principal providerId authChoiceId now) events) :
    deviceFlowMachine.Always OneVerdict (.new principal providerId authChoiceId now) events :=
  (EventMachine.always_of_eachStep verdictOk_step
    ⟨deviceFlowOk_new principal providerId authChoiceId now,
      verdictOk_new principal providerId authChoiceId now⟩ h).mono fun _ hok => hok.2.oneVerdict

/-! ### Runs -/

namespace DeviceFlowRuns

def owner : ConnectionProvisioningPrincipal := ⟨"org", "workspace", "user", ["owner"]⟩

def connection : DeviceConnection := ⟨"connected", none, []⟩

/-- A poll finds the provider connected, and its finalization waits for the rebuild of the
orchestrator. -/
def finalizing : List DeviceFlowEvent :=
  [.startPolled (.ok (.awaitingCode "CODE" "https://provider.test/device")), .poll owner,
    .refreshed 0 (.ok connection)]

/-- The owner cancels the flow. -/
def cancelling : List DeviceFlowEvent :=
  [.cancel owner, .cancelled 0 (.ok ()), .cancellationCleaned 0, .cancelAnswered 0,
    .cancellationRetired, .stopRetired]

/-- The finalization ends. -/
def connecting : List DeviceFlowEvent :=
  [.reconciled 0 (.ok ()), .cancelled 0 (.ok ()), .finalizationCleaned 0, .finalized 0]

end DeviceFlowRuns

open DeviceFlowRuns in
theorem device_flow_one_verdict_connecting :
    deviceFlowMachine.Always OneVerdict (.new owner "openai" "device" 0)
      (finalizing ++ connecting ++ [.cancel owner]) :=
  device_flow_one_verdict owner "openai" "device" 0 _ (by decide)

open DeviceFlowRuns in
/-- The owner cancels while the finalization waits for the rebuild. -/
theorem finalizing_flow_cancelled_and_connected :
    ¬ deviceFlowMachine.Always OneVerdict (.new owner "openai" "device" 0)
      (finalizing ++ cancelling ++ connecting) := by
  intro h
  have hboth := h.outcome.audits (List.mem_of_getElem? (i := 9) rfl)
  exact hboth (List.mem_of_getElem? (i := 6) rfl)

end Opzava.Provisioning
