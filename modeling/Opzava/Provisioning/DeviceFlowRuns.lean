import Opzava.Provisioning.DeviceFlow

/-!
The stops of a device-code sign-in in every run.

* `DeviceFlowCore`, `DeviceFlowOk`: the invariant of a flow, kept by each of its changes.
* `DeviceFlowLawful`: what a flow shows at any time.
* `device_flow_stop_protocol`: what every run keeps.
-/

namespace Opzava.Provisioning

open Opzava.Library
open DevBoard (DomainError)

/-! ### The invariant -/

def DeviceFlow.isSettled (flow : DeviceFlow) (n : ℕ) : Bool :=
  match flow.stops.get n with
  | some ⟨_, .settled _⟩ => true
  | _ => false

def DeviceFlowFact.isAcquiredBy (n : ℕ) : DeviceFlowFact → Bool
  | .acquired holder => holder = .stop n
  | _ => false

def DeviceFlowFact.isReleasedBy (n : ℕ) : DeviceFlowFact → Bool
  | .released holder => holder = .stop n
  | _ => false

/-- A poll that was answered pending, and a finalization that was started, found no stop under
way. -/
structure AnsweredIdle (facts : List DeviceFlowFact) : Prop where
  pending : ∀ message intervalSeconds code stopping,
    .polled (.ok (.pending message intervalSeconds code)) stopping ∈ facts → stopping = false
  finalizations : ∀ stopping, .finalizationStarted stopping ∈ facts → stopping = false

/-- The invariant of a flow, but for its timers. -/
structure DeviceFlowCore (flow : DeviceFlow) : Prop where
  entry : ∀ n, flow.stop = some n → ∃ stop, flow.stops.get n = some stop
  stops : ∀ n stop, flow.stops.get n = some stop → stop.point = .cancelling →
    flow.stop = some n ∧ ∃ current, flow.mapped = some current ∧
      current.generation = stop.generation ∧ current.lifecycle = .cancelling
  cancelling : ∀ current, flow.mapped = some current → current.lifecycle = .cancelling →
    ∃ n stop, flow.stops.get n = some stop ∧ stop.point = .cancelling
  due : ∀ t timer, flow.timers.get t = some timer → flow.expiresAt ≤ timer.due
  stopped : flow.mapped = none → .stopConfirmed ∈ flow.facts
  polls : ∀ p poll, flow.polls.get p = some poll →
    poll.point = .refreshing ∨ poll.point = .polling → poll.snapshot.lifecycle = .active
  base : flow.startBase.lifecycle = .active
  cancellations : ∀ c cancellation n, flow.cancellations.get c = some cancellation →
    cancellation.stop = some n → ∃ stop, flow.stops.get n = some stop
  cancellation : ∀ c, flow.cancellation = some c →
    ∃ cancellation, flow.cancellations.get c = some cancellation
  answers : AnsweredIdle flow.facts
  acquired : ∀ n, flow.facts.countP (DeviceFlowFact.isAcquiredBy n) =
    if n < flow.stops.next then 1 else 0
  released : ∀ n, flow.facts.countP (DeviceFlowFact.isReleasedBy n) =
    if flow.isSettled n then 1 else 0

/-- A timer is armed, or a stop is under way past the deadline: it will arm one if it fails. -/
def Armed (flow : DeviceFlow) : Prop :=
  ∀ current, flow.mapped = some current →
    (∃ t timer, flow.timers.get t = some timer ∧ timer.armed = true) ∨
      current.lifecycle = .cancelling ∧ flow.expiresAt ≤ flow.now

structure DeviceFlowOk (flow : DeviceFlow) : Prop extends DeviceFlowCore flow where
  armed : Armed flow

section Changes

variable {flow : DeviceFlow}

/-! ### Reading the state -/

lemma isCancelling_iff {n : ℕ} :
    flow.isCancelling n ↔ ∃ stop, flow.stops.get n = some stop ∧ stop.point = .cancelling := by
  rw [DeviceFlow.isCancelling]
  split
  · next generation hstop => exact ⟨fun _ => ⟨_, hstop, rfl⟩, fun _ => rfl⟩
  · next hnone =>
      refine ⟨fun h => (by cases h), ?_⟩
      rintro ⟨⟨generation, point⟩, hstop, rfl⟩
      exact absurd hstop (hnone generation)

lemma stopInFlight_iff :
    flow.stopInFlight ↔ ∃ n stop, flow.stops.get n = some stop ∧ stop.point = .cancelling := by
  simp only [DeviceFlow.stopInFlight, List.any_eq_true, List.mem_range, isCancelling_iff]
  exact ⟨fun ⟨n, _, h⟩ => ⟨n, h⟩, fun ⟨n, stop, hstop, hpoint⟩ =>
    ⟨n, Objects.lt_next hstop, stop, hstop, hpoint⟩⟩

lemma isCurrentActive_iff {entry : PendingModelProviderDeviceFlow} :
    flow.isCurrentActive entry ↔ ∃ current, flow.mapped = some current ∧
      current.generation = entry.generation ∧ current.lifecycle = .active := by
  rw [DeviceFlow.isCurrentActive]
  split
  · next current hmapped => simp [hmapped]
  · next hmapped => simp [hmapped]

/-- While the entry is active no stop is under way. -/
lemma DeviceFlowCore.idle (h : DeviceFlowCore flow) {entry : PendingModelProviderDeviceFlow}
    (hactive : flow.isCurrentActive entry) : flow.stopInFlight = false := by
  obtain ⟨current, hmapped, -, hlifecycle⟩ := isCurrentActive_iff.mp hactive
  by_contra hstop
  rw [Bool.not_eq_false, stopInFlight_iff] at hstop
  obtain ⟨n, stop, hn, hpoint⟩ := hstop
  obtain ⟨-, current', hmapped', -, hcancelling⟩ := h.stops n stop hn hpoint
  rw [hmapped, Option.some.injEq] at hmapped'
  rw [← hmapped', hlifecycle] at hcancelling
  cases hcancelling

/-! ### Facts -/

/-- A fact that none of the counts sees. -/
def DeviceFlowFact.IsPlain : DeviceFlowFact → Prop
  | .acquired (.stop _) | .released (.stop _) => False
  | .polled (.ok (.pending _ _ _)) stopping | .finalizationStarted stopping => stopping = false
  | _ => True

lemma AnsweredIdle.concat {facts : List DeviceFlowFact} {fact : DeviceFlowFact}
    (h : AnsweredIdle facts) (hfact : fact.IsPlain ∨
      ∃ n, fact = .acquired (.stop n) ∨ fact = .released (.stop n)) :
    AnsweredIdle (facts ++ [fact]) := by
  constructor
  · intro message intervalSeconds code stopping hmem
    rw [List.mem_append, List.mem_singleton] at hmem
    obtain hold | rfl := hmem
    · exact h.pending message intervalSeconds code stopping hold
    · simpa [DeviceFlowFact.IsPlain] using hfact
  · intro stopping hmem
    rw [List.mem_append, List.mem_singleton] at hmem
    obtain hold | rfl := hmem
    · exact h.finalizations stopping hold
    · simpa [DeviceFlowFact.IsPlain] using hfact

lemma DeviceFlowFact.IsPlain.isAcquiredBy {fact : DeviceFlowFact} (h : fact.IsPlain) (n : ℕ) :
    fact.isAcquiredBy n = false := by
  unfold DeviceFlowFact.isAcquiredBy
  split
  · next holder =>
      cases holder with
      | stop m => exact h.elim
      | finalization f => rfl
  · rfl

lemma DeviceFlowFact.IsPlain.isReleasedBy {fact : DeviceFlowFact} (h : fact.IsPlain) (n : ℕ) :
    fact.isReleasedBy n = false := by
  unfold DeviceFlowFact.isReleasedBy
  split
  · next holder =>
      cases holder with
      | stop m => exact h.elim
      | finalization f => rfl
  · rfl

lemma countP_concat_of_not {α : Type*} {p : α → Bool} {xs : List α} {x : α} (h : p x = false) :
    (xs ++ [x]).countP p = xs.countP p := by
  rw [List.countP_append, List.countP_singleton, h]
  rfl

lemma DeviceFlowCore.record (h : DeviceFlowCore flow) {fact : DeviceFlowFact}
    (hfact : fact.IsPlain) : DeviceFlowCore (flow.record fact) :=
  { h with
    stopped := fun hmapped => List.mem_append_left _ (h.stopped hmapped)
    answers := h.answers.concat (.inl hfact)
    acquired := fun n => (countP_concat_of_not (hfact.isAcquiredBy n)).trans (h.acquired n)
    released := fun n => (countP_concat_of_not (hfact.isReleasedBy n)).trans (h.released n) }

lemma DeviceFlowOk.record (h : DeviceFlowOk flow) {fact : DeviceFlowFact}
    (hfact : fact.IsPlain) : DeviceFlowOk (flow.record fact) :=
  ⟨h.toDeviceFlowCore.record hfact, h.armed⟩

/-! ### Calls under way -/

/-- A change of what is under way, but for the stops. -/
lemma DeviceFlowOk.setCalls (h : DeviceFlowOk flow) (startPoint : DeviceStartPoint)
    (finalizations : Objects DeviceFinalization) (finalization : Option ℕ)
    (cancels : Objects DeviceCancelCall) :
    DeviceFlowOk { flow with
      startPoint := startPoint
      finalizations := finalizations
      finalization := finalization
      cancels := cancels } :=
  ⟨{ h with }, h.armed⟩

/-- The polls that may go on to store their copy of the entry. -/
lemma DeviceFlowOk.setPolls (h : DeviceFlowOk flow) {polls : Objects DevicePoll}
    (hpolls : ∀ p poll, polls.get p = some poll →
      poll.point = .refreshing ∨ poll.point = .polling → poll.snapshot.lifecycle = .active) :
    DeviceFlowOk { flow with polls := polls } :=
  ⟨{ h with polls := hpolls }, h.armed⟩

lemma DeviceFlowOk.setPoll (h : DeviceFlowOk flow) {p : ℕ} {point : DevicePollPoint}
    (hpoint : point = .refreshing ∨ point = .polling →
      ∀ poll, flow.polls.get p = some poll → poll.snapshot.lifecycle = .active) :
    DeviceFlowOk (flow.setPoll p point) := by
  refine h.setPolls fun q poll hpoll hwaiting => ?_
  obtain ⟨old, hold, rfl⟩ := Objects.get_modify_eq_some hpoll
  by_cases hq : q = p
  · subst hq
    rw [if_pos rfl] at hwaiting ⊢
    exact hpoint hwaiting old hold
  · rw [if_neg hq] at hwaiting ⊢
    exact h.polls q old hold hwaiting

lemma polled_isPlain {result : Except DomainError DeviceFlowPollState} {stopping : Bool}
    (h : ∀ message intervalSeconds code, result = .ok (.pending message intervalSeconds code) →
      stopping = false) : (DeviceFlowFact.polled result stopping).IsPlain := by
  unfold DeviceFlowFact.IsPlain
  split
  · next heq => cases heq
  · next heq => cases heq
  · next message intervalSeconds code stopping' heq =>
      obtain ⟨rfl, rfl⟩ := DeviceFlowFact.polled.inj heq
      exact h message intervalSeconds code rfl
  · next heq => cases heq
  · trivial

lemma DeviceFlowOk.addPoll (h : DeviceFlowOk flow) {entry : PendingModelProviderDeviceFlow}
    {point : DevicePollPoint}
    (hpoint : point = .refreshing ∨ point = .polling → entry.lifecycle = .active) :
    DeviceFlowOk (flow.addPoll entry point) := by
  refine h.setPolls fun q poll hpoll hwaiting => ?_
  obtain ⟨-, rfl⟩ | hold := Objects.get_add_eq_some hpoll
  · exact hpoint hwaiting
  · exact h.polls q poll hold hwaiting

lemma DeviceFlowOk.recordAnswer (h : DeviceFlowOk flow)
    {result : Except DomainError DeviceFlowPollState}
    (hresult : ∀ message intervalSeconds code,
      result = .ok (.pending message intervalSeconds code) → flow.stopInFlight = false) :
    DeviceFlowOk (flow.recordAnswer result) := by
  have hanswered : DeviceFlowOk (flow.record (.polled result flow.stopInFlight)) :=
    h.record (polled_isPlain hresult)
  rw [DeviceFlow.recordAnswer]
  split
  · exact hanswered.record trivial
  · exact hanswered

lemma DeviceFlowOk.answerPoll (h : DeviceFlowOk flow) {p : ℕ}
    {result : Except DomainError DeviceFlowPollState}
    (hresult : ∀ message intervalSeconds code,
      result = .ok (.pending message intervalSeconds code) → flow.stopInFlight = false) :
    DeviceFlowOk (flow.answerPoll p result) :=
  (h.recordAnswer hresult).setPoll nofun

/-! ### Stops -/

/-- Without an entry of a stop there is none under way. -/
lemma DeviceFlowCore.not_cancelling (h : DeviceFlowCore flow) (hfree : flow.stop = none) {n : ℕ}
    {stop : DeviceStop} (hstop : flow.stops.get n = some stop) : stop.point ≠ .cancelling := by
  intro hpoint
  have hentry := (h.stops n stop hstop hpoint).1
  rw [hfree] at hentry
  cases hentry

lemma isSettled_iff {n : ℕ} :
    flow.isSettled n ↔ ∃ stop, flow.stops.get n = some stop ∧ stop.point ≠ .cancelling := by
  rw [DeviceFlow.isSettled]
  split
  · next generation result hstop => exact ⟨fun _ => ⟨_, hstop, nofun⟩, fun _ => rfl⟩
  · next hnone =>
      refine ⟨fun h => (by cases h), ?_⟩
      rintro ⟨⟨generation, point⟩, hstop, hpoint⟩
      cases point with
      | cancelling => exact absurd rfl hpoint
      | settled result => exact absurd hstop (hnone generation result)

lemma DeviceFlowCore.beginStop (h : DeviceFlowCore flow) (hfree : flow.stop = none)
    {current : PendingModelProviderDeviceFlow} : DeviceFlowCore (flow.beginStop current) where
  entry n hn := by
    obtain rfl : flow.stops.next = n := Option.some.inj hn
    exact ⟨_, Objects.get_add_next⟩
  stops n stop hstop hpoint := by
    obtain ⟨rfl, rfl⟩ | hold := Objects.get_add_eq_some hstop
    · exact ⟨rfl, _, rfl, rfl, rfl⟩
    · exact absurd hpoint (h.not_cancelling hfree hold)
  cancelling _ _ _ := ⟨_, _, Objects.get_add_next, rfl⟩
  due := h.due
  stopped hnone := by cases hnone
  polls := h.polls
  base := h.base
  cancellations c cancellation n hc hn := by
    obtain ⟨stop, hstop⟩ := h.cancellations c cancellation n hc hn
    exact ⟨stop, Objects.get_add_of_some hstop⟩
  cancellation := h.cancellation
  answers := h.answers.concat (.inr ⟨_, .inl rfl⟩)
  acquired n := by
    have hnext : (flow.beginStop current).stops.next = flow.stops.next + 1 := rfl
    have hfacts : (flow.beginStop current).facts =
      flow.facts ++ [.acquired (.stop flow.stops.next)] := rfl
    rw [hnext, hfacts, List.countP_append, h.acquired, List.countP_singleton]
    simp only [DeviceFlowFact.isAcquiredBy, DeviceFlowSection.stop.injEq, decide_eq_true_eq]
    split_ifs <;> omega
  released n := by
    have hsettled : (flow.beginStop current).isSettled n = flow.isSettled n := by
      rw [Bool.eq_iff_iff, isSettled_iff, isSettled_iff]
      constructor
      · rintro ⟨stop, hstop, hpoint⟩
        obtain ⟨-, rfl⟩ | hold := Objects.get_add_eq_some hstop
        · exact absurd rfl hpoint
        · exact ⟨stop, hold, hpoint⟩
      · rintro ⟨stop, hstop, hpoint⟩
        exact ⟨stop, Objects.get_add_of_some hstop, hpoint⟩
    rw [hsettled]
    exact (countP_concat_of_not rfl).trans (h.released n)

lemma DeviceFlowCore.cleanup (h : DeviceFlowCore flow) (generation : ℕ) :
    DeviceFlowCore (flow.cleanup generation).2 := by
  rw [DeviceFlow.cleanup]
  split
  · exact h
  · next hfree =>
      split
      · exact h
      · split_ifs
        · exact h.beginStop hfree
        · exact h

/-- The entry keeps its timer under a stop that begins. -/
lemma DeviceFlowOk.cleanup (h : DeviceFlowOk flow) (generation : ℕ) :
    DeviceFlowOk (flow.cleanup generation).2 := by
  refine ⟨h.toDeviceFlowCore.cleanup generation, ?_⟩
  rw [DeviceFlow.cleanup]
  split
  · exact h.armed
  · next hfree =>
      split
      · exact h.armed
      · next current hmapped =>
          split_ifs
          · rintro _ -
            refine .inl ((h.armed current hmapped).resolve_right fun hcancelling => ?_)
            obtain ⟨n, stop, hstop, hpoint⟩ := h.cancelling current hmapped hcancelling.1
            exact h.not_cancelling hfree hstop hpoint
          · exact h.armed

lemma DeviceFlowOk.cleanBeforeAnswer (h : DeviceFlowOk flow) (p generation : ℕ)
    (reason : StopReason) : DeviceFlowOk (flow.cleanBeforeAnswer p generation reason) :=
  (h.cleanup generation).setPoll nofun

/-- A stop that was under way has its result; the flow has left the map, or its entry is active
with a timer. -/
lemma DeviceFlowOk.settleStop (h : DeviceFlowOk flow) {n : ℕ} {stop : DeviceStop}
    {result : Except DomainError Unit} {mapped : Option PendingModelProviderDeviceFlow}
    {timers : Objects FlowTimer}
    (hstop : flow.stops.get n = some stop) (hpoint : stop.point = .cancelling)
    (hactive : ∀ current, mapped = some current → current.lifecycle = .active ∧
      ∃ t timer, timers.get t = some timer ∧ timer.armed = true)
    (hdue : ∀ t timer, timers.get t = some timer → flow.expiresAt ≤ timer.due)
    (hstopped : mapped = none → .stopConfirmed ∈ flow.facts) :
    DeviceFlowOk ({ flow with mapped := mapped, timers := timers }.settleStop n result) := by
  have hother : ∀ n' stop', ({ flow with mapped := mapped, timers := timers }.settleStop n
      result).stops.get n' = some stop' → stop'.point ≠ .cancelling := by
    intro n' stop' hstop' hpoint'
    obtain ⟨old, hold, rfl⟩ := Objects.get_modify_eq_some hstop'
    by_cases hn : n' = n
    · rw [if_pos hn] at hpoint'
      cases hpoint'
    · rw [if_neg hn] at hpoint'
      have hentry := (h.stops n stop hstop hpoint).1
      rw [(h.stops n' old hold hpoint').1, Option.some.injEq] at hentry
      exact hn hentry
  have hkept : ∀ n', (∃ old, flow.stops.get n' = some old) → ∃ stop',
      ({ flow with mapped := mapped, timers := timers }.settleStop n result).stops.get n' =
        some stop' := by
    rintro n' ⟨old, hold⟩
    exact Objects.exists_get_modify hold
  refine ⟨⟨fun n' hn' => hkept n' (h.entry n' hn'),
    fun n' stop' hstop' hpoint' => absurd hpoint' (hother n' stop' hstop'), ?_, hdue,
    fun hnone => List.mem_append_left _ (hstopped hnone), h.polls, h.base,
    fun c cancellation n' hc hn' => hkept n' (h.cancellations c cancellation n' hc hn'),
    h.cancellation, h.answers.concat (.inr ⟨n, .inr rfl⟩), fun n' => ?_, fun n' => ?_⟩,
    fun current hmapped => .inl (hactive current hmapped).2⟩
  · intro current hmapped hcancelling
    rw [(hactive current hmapped).1] at hcancelling
    cases hcancelling
  · exact (countP_concat_of_not rfl).trans (h.acquired n')
  · have hfacts : ({ flow with mapped := mapped, timers := timers }.settleStop n result).facts =
      flow.facts ++ [.released (.stop n)] := rfl
    have hold : flow.isSettled n = false := by
      rw [Bool.eq_false_iff]
      intro hsettled
      obtain ⟨stop', hstop', hpoint'⟩ := isSettled_iff.mp hsettled
      rw [hstop, Option.some.injEq] at hstop'
      exact hpoint' (hstop' ▸ hpoint)
    rw [hfacts, List.countP_append, h.released, List.countP_singleton]
    by_cases hn : n' = n
    · subst hn
      have hnew : ({ flow with mapped := mapped, timers := timers }.settleStop n'
          result).isSettled n' = true :=
        isSettled_iff.mpr ⟨_, Objects.get_modify_of_some hstop, nofun⟩
      simp [hold, hnew, DeviceFlowFact.isReleasedBy]
    · have hsame : ({ flow with mapped := mapped, timers := timers }.settleStop n
          result).isSettled n' = flow.isSettled n' := by
        rw [DeviceFlow.isSettled, DeviceFlow.settleStop, Objects.get_modify_of_ne hn]
        rfl
      simp [hsame, DeviceFlowFact.isReleasedBy, Ne.symm hn]

/-- The stop that is under way is that of the entry. -/
lemma DeviceFlowCore.entry_of_cancelling (h : DeviceFlowCore flow) {n generation : ℕ}
    (hstop : flow.stops.get n = some ⟨generation, .cancelling⟩) :
    ∃ current, flow.mapped = some current ∧
      (current.generation = generation ∧ current.lifecycle = .cancelling) := by
  obtain ⟨-, current, hmapped, hgeneration, hlifecycle⟩ := h.stops n _ hstop rfl
  exact ⟨current, hmapped, hgeneration, hlifecycle⟩

lemma DeviceFlowOk.confirmed (h : DeviceFlowOk flow) {n generation : ℕ}
    (hstop : flow.stops.get n = some ⟨generation, .cancelling⟩) :
    DeviceFlowOk (((flow.record .stopConfirmed).confirmStop generation).settleStop n (.ok ())) := by
  obtain ⟨current, hmapped, hcurrent⟩ := h.entry_of_cancelling hstop
  have hrecord : DeviceFlowOk (flow.record .stopConfirmed) := h.record trivial
  have hconfirm : (flow.record .stopConfirmed).confirmStop generation =
      { flow.record .stopConfirmed with
        mapped := none
        timers := flow.timers.modify current.timeout
          fun timer => { timer with armed := false } } := by
    simp only [DeviceFlow.confirmStop, DeviceFlow.record, hmapped, if_pos hcurrent]
  rw [hconfirm]
  refine hrecord.settleStop hstop rfl nofun ?_
    fun _ => List.mem_append_right _ (List.mem_singleton_self _)
  intro t timer ht
  obtain ⟨old, hold, rfl⟩ := Objects.get_modify_eq_some ht
  split_ifs
  · exact h.due t old hold
  · exact h.due t old hold

lemma DeviceFlowOk.restored (h : DeviceFlowOk flow) {n generation : ℕ}
    (hstop : flow.stops.get n = some ⟨generation, .cancelling⟩)
    (result : Except DomainError Unit) :
    DeviceFlowOk ((flow.restoreFlow generation).settleStop n result) := by
  obtain ⟨current, hmapped, hcurrent⟩ := h.entry_of_cancelling hstop
  by_cases hexpired : flow.expiresAt ≤ flow.now
  · have hrestore : flow.restoreFlow generation =
        { flow with
          mapped := some { current with lifecycle := .active, timeout := flow.timers.next }
          timers := flow.timers.add ⟨flow.now + modelDeviceFlowCleanupRetryMs, true⟩ } := by
      simp only [DeviceFlow.restoreFlow, hmapped, if_pos hcurrent, if_pos hexpired]
    rw [hrestore]
    refine h.settleStop hstop rfl ?_ ?_ nofun
    · rintro _ ⟨⟩
      exact ⟨rfl, _, _, Objects.get_add_next, rfl⟩
    · intro t timer ht
      obtain ⟨-, rfl⟩ | hold := Objects.get_add_eq_some ht
      · exact hexpired.trans (Int.le_add_of_nonneg_right (by decide))
      · exact h.due t timer hold
  · have hrestore : flow.restoreFlow generation =
        { flow with mapped := some { current with lifecycle := .active } } := by
      simp only [DeviceFlow.restoreFlow, hmapped, if_pos hcurrent, if_neg hexpired]
    rw [hrestore]
    refine h.settleStop hstop rfl ?_ h.due nofun
    rintro _ ⟨⟩
    exact ⟨rfl, (h.armed current hmapped).resolve_right fun hlate => hexpired hlate.2⟩

lemma DeviceFlowOk.takeCancelAnswer (h : DeviceFlowOk flow) (n : ℕ) (answer : Answer Unit) :
    DeviceFlowOk (flow.takeCancelAnswer n answer) := by
  unfold DeviceFlow.takeCancelAnswer
  split
  · next generation hstop =>
      split
      · exact h.confirmed hstop
      · exact h.restored hstop _
      · exact h.restored hstop _
  · exact h

lemma DeviceFlowOk.retireStop (h : DeviceFlowOk flow) : DeviceFlowOk flow.retireStop := by
  rw [DeviceFlow.retireStop]
  split_ifs with hsettling
  · refine ⟨{ h with entry := nofun, stops := fun n stop hstop hpoint => ?_ }, h.armed⟩
    obtain ⟨hentry, -⟩ := h.stops n stop hstop hpoint
    rw [DeviceFlow.isSettling, hentry] at hsettling
    obtain ⟨generation, point⟩ := stop
    obtain rfl : point = .cancelling := hpoint
    have hget : flow.stops.get n = some ⟨generation, .cancelling⟩ := hstop
    simp [DeviceFlow.awaited, hget] at hsettling
  · exact h

/-! ### Timers -/

lemma DeviceFlowCore.disarm (h : DeviceFlowCore flow) (t : ℕ) :
    DeviceFlowCore { flow with
      timers := flow.timers.modify t fun timer => { timer with armed := false } } :=
  { h with
    due := fun t' timer ht => by
      obtain ⟨old, hold, rfl⟩ := Objects.get_modify_eq_some ht
      split_ifs
      · exact h.due t' old hold
      · exact h.due t' old hold }

/-- A stop whose continuation is not due is under way. -/
lemma DeviceFlowCore.cancelling_of_entry (h : DeviceFlowCore flow) {n : ℕ}
    (hentry : flow.stop = some n) (hsettling : flow.isSettling = false) :
    ∃ generation, flow.stops.get n = some ⟨generation, .cancelling⟩ := by
  obtain ⟨⟨generation, point⟩, hstop⟩ := h.entry n hentry
  cases point with
  | cancelling => exact ⟨generation, hstop⟩
  | settled result => simp [DeviceFlow.isSettling, hentry, DeviceFlow.awaited, hstop] at hsettling

/-- A timer that fires is past the deadline, and it leaves a stop under way. -/
lemma DeviceFlowOk.fireTimer (h : DeviceFlowOk flow) (t : ℕ) : DeviceFlowOk (flow.fireTimer t) := by
  unfold DeviceFlow.fireTimer
  split
  · next due htimer =>
      split_ifs with hdue
      · have hexpired : flow.expiresAt ≤ flow.now := (h.due t _ htimer).trans hdue.1
        have hfired := h.toDeviceFlowCore.disarm t
        dsimp only
        split
        · next current hmapped =>
            refine ⟨hfired.cleanup current.generation, ?_⟩
            rw [DeviceFlow.cleanup]
            split
            · next n hentry =>
                intro current' hmapped'
                obtain ⟨generation, hstop⟩ := h.cancelling_of_entry hentry hdue.2
                obtain ⟨current'', hmapped'', -, hlifecycle⟩ := h.entry_of_cancelling hstop
                rw [Option.some.inj (hmapped''.symm.trans hmapped')] at hlifecycle
                exact .inr ⟨hlifecycle, hexpired⟩
            · simp only [hmapped, if_true]
              rintro _ ⟨⟩
              exact .inr ⟨rfl, hexpired⟩
        · next hmapped =>
            refine ⟨hfired, fun current hcurrent => ?_⟩
            rw [hmapped] at hcurrent
            cases hcurrent
      · exact h
  · exact h

lemma DeviceFlowOk.elapse (h : DeviceFlowOk flow) (ms : ℕ) :
    DeviceFlowOk { flow with now := flow.now + ms } := by
  refine ⟨{ h.toDeviceFlowCore with }, fun current hmapped => ?_⟩
  refine (h.armed current hmapped).imp_right fun hcancelling => ⟨hcancelling.1, ?_⟩
  exact hcancelling.2.trans (Int.le_add_of_nonneg_right (Int.natCast_nonneg ms))

/-! ### The start -/

/-- The holder of a current copy stores it again. -/
lemma DeviceFlowOk.store (h : DeviceFlowOk flow) {copy : PendingModelProviderDeviceFlow}
    (entry : PendingModelProviderDeviceFlow) (hcurrent : flow.isCurrentActive copy)
    (hactive : entry.lifecycle = .active) : DeviceFlowOk { flow with mapped := some entry } := by
  obtain ⟨current, hmapped, -, hlifecycle⟩ := isCurrentActive_iff.mp hcurrent
  have hidle := h.idle hcurrent
  refine ⟨{ h with
    stops := fun n stop hstop hpoint => ?_
    cancelling := fun entry' hentry' hcancelling => ?_
    stopped := nofun }, fun _ _ => .inl ?_⟩
  · have hstopping : flow.stopInFlight := stopInFlight_iff.mpr ⟨n, stop, hstop, hpoint⟩
    rw [hidle] at hstopping
    cases hstopping
  · obtain rfl : entry = entry' := Option.some.inj hentry'
    rw [hactive] at hcancelling
    cases hcancelling
  · refine (h.armed current hmapped).resolve_right fun hcancelling => ?_
    rw [hlifecycle] at hcancelling
    cases hcancelling.1

lemma DeviceFlowOk.takeStartLogin (h : DeviceFlowOk flow) (answer : Answer DeviceLoginState) :
    DeviceFlowOk (flow.takeStartLogin answer) := by
  have hcleaned := h.cleanup flow.startBase.generation
  unfold DeviceFlow.takeStartLogin
  split
  · split
    · exact h.setCalls _ _ _ _
    · exact hcleaned.setCalls _ _ _ _
    · exact hcleaned.setCalls _ _ _ _
    · split_ifs with hcurrent
      · split
        · next deviceCode verificationUri _ =>
            exact (h.store
              { flow.startBase with
                verificationUri := some verificationUri
                userCode := some deviceCode } hcurrent h.base).setCalls _ _ _ _
        · exact h.setCalls _ _ _ _
      · exact h.setCalls _ _ _ _
  · exact h

lemma DeviceFlowOk.takeStartSlept (h : DeviceFlowOk flow) : DeviceFlowOk flow.takeStartSlept := by
  unfold DeviceFlow.takeStartSlept
  split
  · split_ifs
    all_goals exact h.setCalls _ _ _ _
  · exact h

lemma DeviceFlowOk.takeStartCleaned (h : DeviceFlowOk flow) :
    DeviceFlowOk flow.takeStartCleaned := by
  unfold DeviceFlow.takeStartCleaned
  split
  · split
    · exact h.setCalls _ _ _ _
    · exact h.setCalls _ _ _ _
    · exact h
  · exact h

/-! ### Polls -/

lemma DeviceFlowOk.poll (h : DeviceFlowOk flow) (principal : ConnectionProvisioningPrincipal) :
    DeviceFlowOk (flow.poll principal) := by
  unfold DeviceFlow.poll
  split
  · exact h.record trivial
  · next entry hmapped =>
      have hanswered : DeviceFlowOk (flow.recordAnswer (.ok DeviceFlow.notFoundState)) :=
        h.recordAnswer nofun
      split_ifs with hlost
      · exact hanswered.addPoll nofun
      · exact (h.cleanup entry.generation).addPoll nofun
      · rw [not_or, Bool.not_eq_false, Bool.not_eq_false] at hlost
        obtain ⟨current, hcurrent, -, hactive⟩ := isCurrentActive_iff.mp hlost.2
        rw [hmapped, Option.some.injEq] at hcurrent
        exact h.addPoll fun _ => hcurrent ▸ hactive

lemma DeviceFlowOk.takeRefreshed (h : DeviceFlowOk flow) (p : ℕ)
    (answer : Answer DeviceConnection) : DeviceFlowOk (flow.takeRefreshed p answer) := by
  unfold DeviceFlow.takeRefreshed
  split
  · next entry hpoll =>
      have hactive : entry.lifecycle = .active := h.polls p _ hpoll (.inl rfl)
      split
      · split_ifs with hcurrent hconnected
        · split
          · exact h.setPoll nofun
          · have hidle : DeviceFlowOk (flow.record (.finalizationStarted flow.stopInFlight)) :=
              h.record (h.idle hcurrent)
            have hheld : DeviceFlowOk ((flow.record (.finalizationStarted flow.stopInFlight)).record
                (.acquired (.finalization flow.finalizations.next))) := hidle.record trivial
            exact DeviceFlowOk.setPoll (hheld.setCalls _ _ _ _) nofun
        · refine h.setPoll fun _ poll hget => ?_
          rw [hpoll, Option.some.injEq] at hget
          exact hget ▸ hactive
        · exact h.answerPoll nofun
      · exact h.setPoll nofun
      · exact h.setPoll nofun
  · exact h

/-- What a poll answers of a current flow finds no stop under way. -/
lemma DeviceFlowOk.readLogin (h : DeviceFlowOk flow) (p : ℕ)
    {entry : PendingModelProviderDeviceFlow} (hcurrent : flow.isCurrentActive entry)
    (hactive : entry.lifecycle = .active) (state : DeviceLoginState) :
    DeviceFlowOk (flow.readLogin p entry state) := by
  have hidle : flow.stopInFlight = false := h.idle hcurrent
  cases state with
  | unavailable => exact h.cleanBeforeAnswer p _ _
  | terminalFailure reason => exact h.cleanBeforeAnswer p _ _
  | awaitingCode deviceCode verificationUri =>
      rw [DeviceFlow.readLogin]
      split_ifs
      · have hstored := h.store
          { entry with verificationUri := some verificationUri, userCode := some deviceCode }
          hcurrent hactive
        exact hstored.answerPoll fun _ _ _ _ => hidle
      · exact h.answerPoll fun _ _ _ _ => hidle
  | pending => exact h.answerPoll fun _ _ _ _ => hidle
  | completed => exact h.answerPoll fun _ _ _ _ => hidle

lemma DeviceFlowOk.takeLogin (h : DeviceFlowOk flow) (p : ℕ) (answer : Answer DeviceLoginState) :
    DeviceFlowOk (flow.takeLogin p answer) := by
  unfold DeviceFlow.takeLogin
  split
  · next entry hpoll =>
      have hactive : entry.lifecycle = .active := h.polls p _ hpoll (.inr rfl)
      split
      · exact h.setPoll nofun
      · split_ifs
        · exact h.cleanBeforeAnswer p _ _
        · exact h.answerPoll nofun
      · split_ifs with hcurrent
        · exact h.readLogin p hcurrent hactive _
        · exact h.answerPoll nofun
  · exact h

lemma DeviceFlowOk.takeCleaned (h : DeviceFlowOk flow) (p : ℕ) :
    DeviceFlowOk (flow.takeCleaned p) := by
  unfold DeviceFlow.takeCleaned
  split
  · next entry stop reason hpoll =>
      split
      · refine h.answerPoll fun message intervalSeconds code heq => ?_
        cases reason <;> cases heq
      · exact h.setPoll nofun
      · exact h
  · exact h

/-! ### Finalizations -/

lemma DeviceFlowOk.takeReconciled (h : DeviceFlowOk flow) (f : ℕ) (answer : Answer Unit) :
    DeviceFlowOk (flow.takeReconciled f answer) := by
  unfold DeviceFlow.takeReconciled
  split
  · exact (h.cleanup _).setCalls _ _ _ _
  · exact h

lemma DeviceFlowOk.takeFinalizationCleaned (h : DeviceFlowOk flow) (f : ℕ) :
    DeviceFlowOk (flow.takeFinalizationCleaned f) := by
  have hreleased : DeviceFlowOk (flow.record (.released (.finalization f))) := h.record trivial
  unfold DeviceFlow.takeFinalizationCleaned
  split
  · split
    · exact hreleased.setCalls _ _ _ _
    · exact hreleased.setCalls _ _ _ _
    · exact h
  · exact h

lemma DeviceFlowOk.retireFinalization (h : DeviceFlowOk flow) :
    DeviceFlowOk flow.retireFinalization := by
  unfold DeviceFlow.retireFinalization
  split
  · exact h.setCalls _ _ _ _
  · exact h

lemma DeviceFlowOk.takeFinalized (h : DeviceFlowOk flow) (p : ℕ) :
    DeviceFlowOk (flow.takeFinalized p) := by
  unfold DeviceFlow.takeFinalized
  split
  · split
    · exact h.answerPoll fun _ _ _ heq => by cases heq
    · exact h.setPoll nofun
    · exact h
  · exact h

/-! ### Cancels -/

lemma DeviceFlowOk.answerCancel (h : DeviceFlowOk flow)
    (result : Except DomainError DeviceFlowCancelState) :
    DeviceFlowOk (flow.answerCancel result) := by
  have hanswered : DeviceFlowOk (flow.record (.cancelAnswered result)) := h.record trivial
  unfold DeviceFlow.answerCancel
  split
  · exact hanswered.record trivial
  · exact hanswered

/-- A stop that is awaited is there. -/
lemma DeviceFlowCore.exists_stop_cleanup (h : DeviceFlowCore flow) {generation n : ℕ}
    (hawaited : (flow.cleanup generation).1 = some n) :
    ∃ stop, (flow.cleanup generation).2.stops.get n = some stop := by
  rw [DeviceFlow.cleanup] at hawaited ⊢
  split at hawaited
  · next active hentry =>
      obtain rfl : active = n := Option.some.inj hawaited
      exact h.entry active hentry
  · split at hawaited
    · cases hawaited
    · split_ifs at hawaited with hgeneration
      obtain rfl := Option.some.inj hawaited
      simp only [*, if_true]
      exact ⟨_, Objects.get_add_next⟩

lemma DeviceFlowOk.setCancellations (h : DeviceFlowOk flow)
    (cancellations : Objects DeviceCancellation) (cancellation : Option ℕ)
    (hstops : ∀ c cancellation n, cancellations.get c = some cancellation →
      cancellation.stop = some n → ∃ stop, flow.stops.get n = some stop)
    (hcancellation : ∀ c, cancellation = some c → ∃ found, cancellations.get c = some found) :
    DeviceFlowOk { flow with cancellations := cancellations, cancellation := cancellation } :=
  ⟨{ h.toDeviceFlowCore with cancellations := hstops, cancellation := hcancellation }, h.armed⟩

lemma cleanup_cancellations (flow : DeviceFlow) {generation : ℕ} :
    (flow.cleanup generation).2.cancellations = flow.cancellations := by
  rw [DeviceFlow.cleanup]
  split
  · rfl
  · split
    · rfl
    · split_ifs <;> rfl

lemma DeviceFlowOk.cancel (h : DeviceFlowOk flow) (principal : ConnectionProvisioningPrincipal) :
    DeviceFlowOk (flow.cancel principal) := by
  unfold DeviceFlow.cancel
  split
  · exact h.answerCancel _
  · next current hmapped =>
      split_ifs
      · exact h.answerCancel _
      · split
        · exact h.setCalls _ _ _ _
        · have hcleaned := h.cleanup current.generation
          refine DeviceFlowOk.setCalls (hcleaned.setCancellations
            (flow.cancellations.add ⟨(flow.cleanup current.generation).1, none⟩)
            (some flow.cancellations.next) (fun c cancellation n hc hn => ?_) ?_) _ _ _ _
          · obtain ⟨-, rfl⟩ | hold := Objects.get_add_eq_some hc
            · exact h.exists_stop_cleanup hn
            · rw [← cleanup_cancellations flow] at hold
              exact hcleaned.cancellations c cancellation n hold hn
          · rintro _ ⟨⟩
            exact ⟨_, Objects.get_add_next⟩

lemma DeviceFlowOk.takeCancellationCleaned (h : DeviceFlowOk flow) (c : ℕ) :
    DeviceFlowOk (flow.takeCancellationCleaned c) := by
  unfold DeviceFlow.takeCancellationCleaned
  split
  · split
    · refine h.setCancellations _ _ (fun c' cancellation n hc' hn => ?_) fun c' hc' => ?_
      · obtain ⟨old, hold, rfl⟩ := Objects.get_modify_eq_some hc'
        split_ifs at hn
        · exact h.cancellations c' old n hold hn
        · exact h.cancellations c' old n hold hn
      · obtain ⟨old, hold⟩ := h.cancellation c' hc'
        exact Objects.exists_get_modify hold
    · exact h
  · exact h

lemma DeviceFlowOk.takeCancelled (h : DeviceFlowOk flow) (x : ℕ) :
    DeviceFlowOk (flow.takeCancelled x) := by
  unfold DeviceFlow.takeCancelled
  split
  · split
    · exact (h.answerCancel _).setCalls _ _ _ _
    · exact h
  · exact h

lemma DeviceFlowOk.retireCancellation (h : DeviceFlowOk flow) :
    DeviceFlowOk flow.retireCancellation := by
  unfold DeviceFlow.retireCancellation
  split
  · exact h.setCancellations _ _ h.cancellations nofun
  · exact h

/-! ### Steps -/

lemma deviceFlowOk_step (flow : DeviceFlow) (event : DeviceFlowEvent) (h : DeviceFlowOk flow) :
    DeviceFlowOk (deviceFlowMachine.step flow event) := by
  change DeviceFlowOk (deviceFlowStep flow event)
  cases event with
  | startPolled answer => exact h.takeStartLogin answer
  | startSlept => exact h.takeStartSlept
  | startCleaned => exact h.takeStartCleaned
  | poll principal => exact h.poll principal
  | refreshed p answer => exact h.takeRefreshed p answer
  | loginPolled p answer => exact h.takeLogin p answer
  | pollCleaned p => exact h.takeCleaned p
  | finalized p => exact h.takeFinalized p
  | reconciled f answer => exact h.takeReconciled f answer
  | finalizationCleaned f => exact h.takeFinalizationCleaned f
  | finalizationRetired => exact h.retireFinalization
  | cancel principal => exact h.cancel principal
  | cancellationCleaned c => exact h.takeCancellationCleaned c
  | cancelAnswered x => exact h.takeCancelled x
  | cancellationRetired => exact h.retireCancellation
  | cleanup generation => exact h.cleanup generation
  | cancelled n answer => exact h.takeCancelAnswer n answer
  | stopRetired => exact h.retireStop
  | timer t => exact h.fireTimer t
  | elapse ms => exact h.elapse ms

lemma deviceFlowOk_new (principal : ConnectionProvisioningPrincipal)
    (providerId authChoiceId : String) (now : Date) :
    DeviceFlowOk (.new principal providerId authChoiceId now) where
  entry := nofun
  stops n stop hstop := by cases hstop
  cancelling current hcurrent hcancelling := by
    obtain rfl : DeviceFlow.base = current := Option.some.inj hcurrent
    cases hcancelling
  due t timer ht := by
    obtain ⟨-, rfl⟩ | hold := Objects.get_add_eq_some ht
    · exact le_rfl
    · cases hold
  stopped := nofun
  polls p poll hpoll := by cases hpoll
  base := rfl
  cancellations c cancellation n hc := by cases hc
  cancellation := nofun
  answers := ⟨fun _ _ _ _ hmem => absurd hmem List.not_mem_nil,
    fun _ hmem => absurd hmem List.not_mem_nil⟩
  acquired n := rfl
  released n := rfl
  armed _ _ := .inl ⟨_, _, Objects.get_add_next, rfl⟩

end Changes

/-! ### The stop protocol -/

/-- The continuations of a stop that has settled: its entry, and that of a cancellation that has
waited for it, leave their maps. -/
def DeviceFlow.continuations (flow : DeviceFlow) : List DeviceFlowEvent :=
  .stopRetired :: (flow.cancellation.toList.map .cancellationCleaned ++ [.cancellationRetired])

/-- What a flow shows at any time: one stop is under way at most; it has left the map only when
the runtime had confirmed the end of its login; no poll has answered pending and no finalization
was started under a stop; a stop that fails leaves an active entry; an entry without a stop is
active, with an armed timer, and a cancel of its owner starts a stop; every stop has taken the
reservation once, and has released it once when it has settled. -/
structure DeviceFlowLawful (flow : DeviceFlow) : Prop where
  oneStop : ∀ n n', flow.isCancelling n → flow.isCancelling n' → n = n'
  stopped : flow.mapped = none → .stopConfirmed ∈ flow.facts
  answers : AnsweredIdle flow.facts
  failed : ∀ n answer, flow.isCancelling n → answer ≠ .ok () →
    ∃ current, (flow.takeCancelAnswer n answer).mapped = some current ∧
      current.lifecycle = .active
  active : ∀ current, flow.mapped = some current → flow.stopInFlight = false →
    current.lifecycle = .active
  timer : ∀ current, flow.mapped = some current → flow.stopInFlight = false →
    ∃ t timer, flow.timers.get t = some timer ∧ timer.armed = true
  restarts : ∀ principal, flow.isOwner principal → flow.mapped ≠ none →
    flow.stopInFlight = false →
      (deviceFlowMachine.outcome flow (flow.continuations ++ [.cancel principal])).stopInFlight
  acquired : ∀ n, flow.facts.countP (DeviceFlowFact.isAcquiredBy n) =
    if n < flow.stops.next then 1 else 0
  released : ∀ n, flow.facts.countP (DeviceFlowFact.isReleasedBy n) =
    if flow.isSettled n then 1 else 0

section Lawful

variable {flow : DeviceFlow}

lemma DeviceFlowCore.active (h : DeviceFlowCore flow) {current : PendingModelProviderDeviceFlow}
    (hmapped : flow.mapped = some current) (hidle : flow.stopInFlight = false) :
    current.lifecycle = .active := by
  cases hlifecycle : current.lifecycle with
  | active => rfl
  | cancelling =>
      have hstopping : flow.stopInFlight :=
        stopInFlight_iff.mpr (h.cancelling current hmapped hlifecycle)
      rw [hidle] at hstopping
      cases hstopping

/-- A cancel of the owner starts a stop when no other call is under way. -/
lemma stopInFlight_cancel {current : PendingModelProviderDeviceFlow}
    {principal : ConnectionProvisioningPrincipal} (howner : flow.isOwner principal)
    (hmapped : flow.mapped = some current) (hstop : flow.stop = none)
    (hcancellation : flow.cancellation = none) : (flow.cancel principal).stopInFlight := by
  have hcleanup : flow.cleanup current.generation =
      (some flow.stops.next, flow.beginStop current) := by
    simp [DeviceFlow.cleanup, hstop, hmapped]
  have hcancel : (flow.cancel principal).stops = (flow.beginStop current).stops := by
    simp [DeviceFlow.cancel, hmapped, howner, hcancellation, hcleanup]
  rw [stopInFlight_iff, hcancel]
  exact ⟨_, _, Objects.get_add_next, rfl⟩

/-- The entry of a settled stop leaves its map. -/
lemma DeviceFlowCore.retireStop_stop (h : DeviceFlowCore flow)
    (hidle : flow.stopInFlight = false) : flow.retireStop.stop = none := by
  rw [DeviceFlow.retireStop]
  split_ifs with hsettling
  · rfl
  · cases hentry : flow.stop with
    | none => rfl
    | some n =>
        obtain ⟨generation, hstop⟩ :=
          h.cancelling_of_entry hentry (Bool.eq_false_iff.mpr hsettling)
        have hstopping : flow.stopInFlight := stopInFlight_iff.mpr ⟨n, _, hstop, rfl⟩
        rw [hidle] at hstopping
        cases hstopping

/-- A cancellation whose stop has settled leaves its map. -/
lemma DeviceFlowCore.retireCancellation_cancellation (h : DeviceFlowCore flow)
    (hstop : flow.stop = none) {c : ℕ} (hc : flow.cancellation = some c) :
    (flow.takeCancellationCleaned c).retireCancellation.cancellation = none := by
  obtain ⟨⟨stop, result⟩, hget⟩ := h.cancellation c hc
  have hawaited : ∃ settled, flow.awaited stop = some settled := by
    cases stop with
    | none => exact ⟨_, rfl⟩
    | some n =>
        obtain ⟨⟨generation, point⟩, hn⟩ := h.cancellations c _ n hget rfl
        cases point with
        | cancelling => exact absurd rfl (h.not_cancelling hstop hn)
        | settled settled => exact ⟨settled, by rw [DeviceFlow.awaited, hn]⟩
  obtain ⟨settled, hsettled⟩ := hawaited
  cases result with
  | some result =>
      simp [DeviceFlow.takeCancellationCleaned, hget, DeviceFlow.retireCancellation, hc]
  | none =>
      simp [DeviceFlow.takeCancellationCleaned, hget, hsettled, DeviceFlow.retireCancellation, hc]

/-- What the continuations leave alone. -/
lemma retireStop_frame (flow : DeviceFlow) : flow.retireStop.mapped = flow.mapped ∧
    flow.retireStop.principal = flow.principal ∧
    flow.retireStop.cancellation = flow.cancellation := by
  rw [DeviceFlow.retireStop]
  split_ifs <;> exact ⟨rfl, rfl, rfl⟩

lemma takeCancellationCleaned_frame (flow : DeviceFlow) (c : ℕ) :
    (flow.takeCancellationCleaned c).mapped = flow.mapped ∧
    (flow.takeCancellationCleaned c).principal = flow.principal ∧
    (flow.takeCancellationCleaned c).stop = flow.stop := by
  unfold DeviceFlow.takeCancellationCleaned
  split
  · split <;> exact ⟨rfl, rfl, rfl⟩
  · exact ⟨rfl, rfl, rfl⟩

lemma retireCancellation_frame (flow : DeviceFlow) : flow.retireCancellation.mapped = flow.mapped ∧
    flow.retireCancellation.principal = flow.principal ∧
    flow.retireCancellation.stop = flow.stop := by
  unfold DeviceFlow.retireCancellation
  split <;> exact ⟨rfl, rfl, rfl⟩

/-- After the continuations no call is under way, and the flow is as it was. -/
lemma DeviceFlowOk.continuations (h : DeviceFlowOk flow) (hidle : flow.stopInFlight = false) :
    ∃ flow', deviceFlowMachine.outcome flow flow.continuations = flow' ∧
      flow'.mapped = flow.mapped ∧ flow'.principal = flow.principal ∧ flow'.stop = none ∧
      flow'.cancellation = none := by
  have hstop : flow.retireStop.stop = none := h.retireStop_stop hidle
  obtain ⟨hmapped, hprincipal, hkept⟩ := retireStop_frame flow
  cases hc : flow.cancellation with
  | none =>
      refine ⟨flow.retireStop.retireCancellation, ?_, ?_⟩
      · rw [DeviceFlow.continuations, hc]
        rfl
      · obtain ⟨hmapped', hprincipal', hstop'⟩ :=
          retireCancellation_frame flow.retireStop
        refine ⟨hmapped'.trans hmapped, hprincipal'.trans hprincipal, hstop'.trans hstop, ?_⟩
        rw [DeviceFlow.retireCancellation, hkept, hc]
        exact hkept.trans hc
  | some c =>
      refine ⟨(flow.retireStop.takeCancellationCleaned c).retireCancellation, ?_, ?_⟩
      · rw [DeviceFlow.continuations, hc]
        rfl
      · obtain ⟨hmapped', hprincipal', hstop'⟩ :=
          takeCancellationCleaned_frame flow.retireStop c
        obtain ⟨hmapped'', hprincipal'', hstop''⟩ :=
          retireCancellation_frame (flow.retireStop.takeCancellationCleaned c)
        exact ⟨hmapped''.trans (hmapped'.trans hmapped),
          hprincipal''.trans (hprincipal'.trans hprincipal), hstop''.trans (hstop'.trans hstop),
          h.retireStop.retireCancellation_cancellation hstop (hkept.trans hc)⟩

lemma DeviceFlowOk.restarts (h : DeviceFlowOk flow) {principal : ConnectionProvisioningPrincipal}
    (howner : flow.isOwner principal) (hmapped : flow.mapped ≠ none)
    (hidle : flow.stopInFlight = false) :
    (deviceFlowMachine.outcome flow (flow.continuations ++ [.cancel principal])).stopInFlight := by
  obtain ⟨flow', houtcome, hmapped', hprincipal, hstop, hcancellation⟩ := h.continuations hidle
  obtain ⟨current, hcurrent⟩ := Option.ne_none_iff_exists'.mp hmapped
  rw [EventMachine.outcome_append, houtcome]
  refine stopInFlight_cancel ?_ (hmapped'.trans hcurrent) hstop hcancellation
  rwa [DeviceFlow.isOwner, hprincipal]

/-- A stop that fails leaves an active entry. -/
lemma DeviceFlowOk.failed (h : DeviceFlowOk flow) {n : ℕ} {answer : Answer Unit}
    (hcancelling : flow.isCancelling n) (hanswer : answer ≠ .ok ()) :
    ∃ current, (flow.takeCancelAnswer n answer).mapped = some current ∧
      current.lifecycle = .active := by
  obtain ⟨⟨generation, point⟩, hstop, hpoint⟩ := isCancelling_iff.mp hcancelling
  obtain rfl : point = .cancelling := hpoint
  obtain ⟨current, hmapped, hcurrent⟩ := h.entry_of_cancelling hstop
  have hrestore : ∃ current, (flow.restoreFlow generation).mapped = some current ∧
      current.lifecycle = .active := by
    simp only [DeviceFlow.restoreFlow, hmapped, if_pos hcurrent]
    split_ifs <;> exact ⟨_, rfl, rfl⟩
  rw [DeviceFlow.takeCancelAnswer, hstop]
  cases answer with
  | ok value => exact absurd rfl hanswer
  | err error => exact hrestore
  | threw => exact hrestore

lemma DeviceFlowOk.lawful (h : DeviceFlowOk flow) : DeviceFlowLawful flow where
  oneStop n n' hn hn' := by
    obtain ⟨stop, hstop, hpoint⟩ := isCancelling_iff.mp hn
    obtain ⟨stop', hstop', hpoint'⟩ := isCancelling_iff.mp hn'
    have hentry := (h.stops n stop hstop hpoint).1
    exact Option.some.inj (hentry.symm.trans (h.stops n' stop' hstop' hpoint').1)
  stopped := h.stopped
  answers := h.answers
  failed _ _ hcancelling hanswer := h.failed hcancelling hanswer
  active _ hmapped hidle := h.active hmapped hidle
  timer current hmapped hidle := by
    refine (h.armed current hmapped).resolve_right fun hcancelling => ?_
    rw [h.active hmapped hidle] at hcancelling
    cases hcancelling.1
  restarts _ howner hmapped hidle := h.restarts howner hmapped hidle
  acquired := h.acquired
  released := h.released

end Lawful

/-- **The stop protocol**: in every run of a device-code sign-in its flow is lawful at any time. -/
theorem device_flow_stop_protocol (principal : ConnectionProvisioningPrincipal)
    (providerId authChoiceId : String) (now : Date) (events : List DeviceFlowEvent) :
    deviceFlowMachine.Always DeviceFlowLawful (.new principal providerId authChoiceId now)
      events :=
  (EventMachine.always_of_invariant deviceFlowOk_step
    (deviceFlowOk_new principal providerId authChoiceId now)).mono fun _ h => h.lawful

end Opzava.Provisioning
