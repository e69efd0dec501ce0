import Opzava.Provisioning.ProviderWriteRuns

/-!
The rebuilds of the orchestrator beside each other (`enqueueOrchestratorWork` in
`provisioning/connections-provisioning-service.ts`).

The tail serializes its own jobs; the rebuild of a delegation does not go through the tail, and
only the reservation of its organization keeps it apart from them.

* `RebuildsSerial`: at most one rebuild is in progress.
* `keepsApart`: the events with which no second one begins.
* `rebuilds_serial_iff`: the runs in which the rebuilds are serialized.
* `delegation_beside_disconnect`: a delegation that is applied while a rebuild is in progress.
-/

namespace Opzava.Provisioning

open Opzava.Library
open DevBoard (DomainError)

/-- The run of the job is under way: `reconcileOrchestrator`, or `runMainOrchestratorElection`
until it returns. -/
def JobPoint.inProgress : JobPoint → Bool
  | .rebuilding _ => true
  | .electing (.returned _) => false
  | .electing _ => true
  | _ => false

/-- The section rebuilds the orchestrator itself. -/
def ProviderSection.rebuilds (entry : ProviderSection) : Bool :=
  match entry.await with
  | some (.rebuild _) => true
  | _ => false

namespace ConnectionsPort

/-- How many rebuilds are in progress. -/
def rebuildCount (port : ConnectionsPort) : ℕ :=
  port.sections.count (·.rebuilds) + port.jobs.count (·.point.inProgress)

/-- The section that waits for the work keeps other sections of the key away. -/
def reservedFor (port : ConnectionsPort) (work : OrchestratorWork) (key : String) : Bool :=
  (work.holder.bind port.sections.get).any (·.holdsExclusively key)

/-- The job in progress, if there is one, is one for which the key is reserved. -/
def headSpares (port : ConnectionsPort) (key : String) : Bool :=
  port.head.all fun (_, job) => !job.point.inProgress || port.reservedFor job.work key

end ConnectionsPort

/-- At most one rebuild is in progress. -/
def RebuildsSerial (port : ConnectionsPort) : Prop := port.rebuildCount ≤ 1

/-- A delegation is applied when no delegation is applied and no job is in progress but one for
which the organization is reserved; the turn of a job comes when no delegation is applied but of an
organization that is reserved for the job. -/
def keepsApart (port : ConnectionsPort) : ConnectionsEvent → Bool
  | .applyOrchestratorDelegation principal =>
      port.providerWriteReserved (configWriteKey principal.orgId) ||
        (port.sections.count (·.rebuilds) = 0 && port.headSpares (configWriteKey principal.orgId))
  | .beginJob =>
      match port.head with
      | some (_, ⟨work, .waiting, _⟩) =>
          port.sections.count (fun entry => entry.rebuilds &&
            !port.reservedFor work entry.key) = 0
      | _ => true
  | _ => true

namespace ConnectionsPort

variable {port : ConnectionsPort} {key : String} {kind : ProviderSectionKind}
  {await old : SectionAwait} {n j : ℕ} {job : OrchestratorJob} {work : OrchestratorWork}

/-! ### Counting rebuilds -/

lemma rebuilds_eq_true {entry : ProviderSection} :
    entry.rebuilds = true ↔ ∃ point, entry.await = some (.rebuild point) := by
  obtain ⟨kind, key, await⟩ := entry
  unfold ProviderSection.rebuilds
  constructor
  · intro h
    split at h
    · next point heq => exact ⟨point, heq⟩
    · cases h
  · rintro ⟨point, heq⟩
    rw [heq]

lemma rebuildCount_openSection (hawait : ∀ point, await ≠ .rebuild point) :
    (port.openSection kind key await).rebuildCount = port.rebuildCount := by
  have hnot : (ProviderSection.mk kind key (some await)).rebuilds = false := by
    rw [Bool.eq_false_iff]
    intro h
    obtain ⟨point, heq⟩ := rebuilds_eq_true.mp h
    exact hawait point (Option.some.inj heq)
  change (port.sections.add _).count _ + _ = _
  rw [Objects.count_add, hnot]
  rfl

lemma rebuildCount_awaitNext (hget : port.sections.get n = some ⟨kind, key, some old⟩)
    (h : ∀ point, await = .rebuild point → ∃ point', old = .rebuild point') :
    (port.awaitNext n await).rebuildCount ≤ port.rebuildCount := by
  refine Nat.add_le_add_right (Objects.count_modify_le fun entry hentry hrebuild => ?_) _
  rw [hget, Option.some_inj] at hentry
  subst hentry
  obtain ⟨point, heq⟩ := rebuilds_eq_true.mp hrebuild
  obtain ⟨point', rfl⟩ := h point (Option.some.inj heq)
  exact rebuilds_eq_true.mpr ⟨point', rfl⟩

lemma rebuildCount_closeSection :
    (port.closeSection n key).rebuildCount ≤ port.rebuildCount := by
  have hjobs : (port.closeSection n key).jobs = port.jobs :=
    (releaseProviderWrite_frame port key).2.1
  rw [rebuildCount, hjobs, sections_closeSection]
  refine Nat.add_le_add_right (Objects.count_modify_le fun entry _ hrebuild => ?_) _
  cases hrebuild

lemma rebuildCount_enqueue :
    (port.enqueueOrchestratorWork work).rebuildCount = port.rebuildCount := by
  change _ + (port.jobs.add _).count _ = _
  rw [Objects.count_add]
  rfl

lemma rebuildCount_modifyJob {f : OrchestratorJob → OrchestratorJob}
    (hf : ∀ job, port.jobs.get j = some job → (f job).point.inProgress = true →
      job.point.inProgress = true) :
    port.sections.count (·.rebuilds) + (port.jobs.modify j f).count (·.point.inProgress) ≤
      port.rebuildCount :=
  Nat.add_le_add_left (Objects.count_modify_le hf) _

/-- Only the first job of the tail can be in progress. -/
lemma head_of_inProgress (h : PortOk port) (hget : port.jobs.get j = some job)
    (hjob : job.point.inProgress = true) : port.head = some (j, job) := by
  have hmem : j ∈ port.tail := by
    refine (h.tail.unsettled j).mpr ⟨job, hget, ?_⟩
    obtain ⟨work, point, payloads⟩ := job
    cases point with
    | settled => cases hjob
    | _ => rfl
  refine head_eq_some.mpr ⟨?_, hget⟩
  cases htail : port.tail with
  | nil =>
      rw [htail] at hmem
      cases hmem
  | cons first rest =>
      rw [htail] at hmem
      rcases List.mem_cons.mp hmem with rfl | hrest
      · rfl
      · rw [h.tail.waiting j (htail ▸ hrest) job hget] at hjob
        cases hjob

lemma count_inProgress_eq_zero (h : PortOk port) :
    port.jobs.count (·.point.inProgress) = 0 ↔
      ∀ j job, port.head = some (j, job) → job.point.inProgress = false := by
  rw [Objects.count_eq_zero]
  constructor
  · exact fun hnone j job hhead => hnone j job (head_eq_some.mp hhead).2
  · intro hhead j job hget
    rw [Bool.eq_false_iff]
    intro hjob
    have hfalse := hhead j job (head_of_inProgress h hget hjob)
    rw [hjob] at hfalse
    cases hfalse

/-! ### The reservations between rebuilds -/

/-- A delegation is never applied while its organization is reserved for a job. -/
lemma not_reservedFor_of_rebuilds (h : PortOk port) (hjob : port.jobs.get j = some job)
    (hopen : job.point.isSettled = false) {entry : ProviderSection}
    (hget : port.sections.get n = some entry) (hrebuilds : entry.rebuilds = true) :
    port.reservedFor job.work entry.key = false := by
  rw [Bool.eq_false_iff]
  intro hreserved
  obtain ⟨holder, hholder, hexclusive⟩ := (Option.any_eq_true _ _).mp hreserved
  obtain ⟨m, hm, hsection⟩ := Option.bind_eq_some_iff.mp hholder
  obtain ⟨point, hawait⟩ := rebuilds_eq_true.mp hrebuilds
  have hentry : entry.holdsExclusively entry.key = true := by
    simp [ProviderSection.holdsExclusively, ProviderSection.holds, hawait,
      h.rebuilds n entry point hget hawait, ProviderSectionKind.isExclusive]
  obtain rfl : n = m := Objects.eq_of_count_le_one (h.reservations.exclusive entry.key) hget
    hentry hsection hexclusive
  obtain ⟨waiting, hwaiting, hsettlement, -⟩ := h.links j job n hjob hopen hm
  rw [hget, Option.some_inj] at hwaiting
  rw [← hwaiting, hawait] at hsettlement
  cases hsettlement

/-- Nothing is reserved while the counter is zero. -/
lemma not_reservedFor_of_free (h : PortOk port) (hfree : port.writes key = 0) :
    port.reservedFor work key = false := by
  rw [Bool.eq_false_iff]
  intro hreserved
  obtain ⟨holder, hholder, hexclusive⟩ := (Option.any_eq_true _ _).mp hreserved
  obtain ⟨m, -, hsection⟩ := Option.bind_eq_some_iff.mp hholder
  have hpos : 0 < port.sections.count (·.holds key) :=
    Objects.count_pos hsection (Bool.and_eq_true_iff.mp hexclusive).1
  rw [← h.reservations.counted key] at hpos
  exact absurd hfree hpos.ne'

lemma headSpares_iff (h : PortOk port) (hfree : port.writes key = 0) :
    port.headSpares key = true ↔ port.jobs.count (·.point.inProgress) = 0 := by
  rw [count_inProgress_eq_zero h, headSpares, Option.all_eq_true]
  constructor
  · intro hall j job hhead
    have hjob := hall (j, job) hhead
    simpa [not_reservedFor_of_free h hfree] using hjob
  · rintro hnone ⟨j, job⟩ hhead
    simp [hnone j job hhead]

/-! ### Steps that begin no rebuild -/

lemma rebuildCount_startExclusive {orgId : String} {busy : Bool}
    (hawait : ∀ point, await ≠ .rebuild point) :
    (port.startExclusive kind orgId busy await).rebuildCount ≤ port.rebuildCount := by
  unfold startExclusive
  split_ifs
  · exact le_rfl
  · exact (rebuildCount_openSection hawait).le

lemma rebuildCount_finalizeModelProviderFlow {orgId providerId : String} {now : Date} :
    (port.finalizeModelProviderFlow orgId providerId now).rebuildCount = port.rebuildCount := by
  rw [finalizeModelProviderFlow, rebuildCount_enqueue,
    rebuildCount_openSection fun point heq => by cases heq]

lemma rebuildCount_stopDeviceFlow {orgId : String} :
    (port.stopDeviceFlow orgId).rebuildCount = port.rebuildCount :=
  rebuildCount_openSection fun point heq => by cases heq

lemma rebuildCount_proceedSection {next : SectionAwait} :
    (port.proceedSection n next).rebuildCount ≤ port.rebuildCount := by
  unfold proceedSection
  split
  · next hget =>
      split_ifs with hfollows
      · refine rebuildCount_awaitNext hget ?_
        rintro point rfl
        exact rebuild_of_follows hfollows
      · exact le_rfl
  · exact le_rfl

lemma rebuildCount_answerSection {result : SectionResult} {now : Date} :
    (port.answerSection n result now).rebuildCount ≤ port.rebuildCount := by
  have hqueued : ∀ key providerId, ((port.enqueueOrchestratorWork
      (.reconcile none .disconnect providerId now)).closeSection n key).rebuildCount ≤
      port.rebuildCount :=
    fun key providerId => rebuildCount_closeSection.trans rebuildCount_enqueue.le
  unfold answerSection
  split
  · next hget =>
      split_ifs
      · unfold endSection
        split
        · rw [rebuildCount_enqueue]
          exact rebuildCount_awaitNext hget fun point heq => by cases heq
        · exact hqueued _ _
        · exact hqueued _ _
        · exact rebuildCount_closeSection
        · exact rebuildCount_closeSection
      · exact le_rfl
  · exact le_rfl

lemma rebuildCount_takeSettlement : (port.takeSettlement n).rebuildCount ≤ port.rebuildCount := by
  unfold takeSettlement
  split
  · next hget =>
      split_ifs
      · split
        · exact rebuildCount_awaitNext hget fun point heq => by cases heq
        · exact rebuildCount_closeSection
      · exact le_rfl
  · exact le_rfl

section Elections

variable {input : SetMainOrchestratorInput} {c : ℕ}
  {result : Except DomainError OrchestratorDelegationState}

lemma rebuildCount_answerCall :
    (port.answerCall c input result).rebuildCount = port.rebuildCount := by
  cases result <;> rfl

lemma rebuildCount_answerNewCall :
    (port.answerNewCall input result).rebuildCount = port.rebuildCount := by
  cases result <;> rfl

lemma rebuildCount_setMainOrchestrator :
    (port.setMainOrchestrator input).rebuildCount = port.rebuildCount := by
  unfold setMainOrchestrator
  split
  · split
    · exact rebuildCount_answerNewCall
    · split
      · exact rebuildCount_answerNewCall
      · rfl
  · exact rebuildCount_answerNewCall

lemma rebuildCount_takePreflightConfig {answer : Answer Json} :
    (port.takePreflightConfig c answer).rebuildCount = port.rebuildCount := by
  unfold takePreflightConfig
  split
  · split
    · rfl
    · exact rebuildCount_answerCall
    · rfl
  · rfl

lemma rebuildCount_acceptElection {prepared : PreparedMainOrchestratorElection} {now : Date} :
    (port.acceptElection c input prepared now).rebuildCount = port.rebuildCount := by
  rw [acceptElection, rebuildCount_answerCall, rebuildCount_enqueue]
  exact rebuildCount_openSection fun point heq => by cases heq

lemma rebuildCount_takePreflightReadings {reads : ProviderReads}
    {readings : Option ElectionReadings} {now : Date} :
    (port.takePreflightReadings reads c readings now).rebuildCount = port.rebuildCount := by
  unfold takePreflightReadings
  split
  · split
    · unfold takeCallPrepared
      split
      · exact rebuildCount_answerCall
      · split
        · exact rebuildCount_answerCall
        · split_ifs
          · exact rebuildCount_answerCall
          · exact rebuildCount_acceptElection
    · rfl
  · rfl

end Elections

section Jobs

variable {reads : ProviderReads}

/-- A job in progress goes on, or has finished. -/
lemma rebuildCount_head {f : OrchestratorJob → OrchestratorJob} (hhead : port.head = some (j, job))
    (hf : (f job).point.inProgress = true → job.point.inProgress = true) :
    port.sections.count (·.rebuilds) + (port.jobs.modify j f).count (·.point.inProgress) ≤
      port.rebuildCount := by
  refine rebuildCount_modifyJob fun job' hget => ?_
  rw [(head_eq_some.mp hhead).2, Option.some_inj] at hget
  exact hget ▸ hf

lemma rebuildCount_proceedRebuild {next : RebuildAwait} :
    (port.proceedRebuild next).rebuildCount ≤ port.rebuildCount := by
  unfold proceedRebuild
  split
  · next hhead =>
      split_ifs
      · exact rebuildCount_head hhead fun _ => rfl
      · exact le_rfl
  · exact le_rfl

lemma rebuildCount_answerRebuild {answer : Answer Unit} :
    (port.answerRebuild reads answer).rebuildCount ≤ port.rebuildCount := by
  unfold answerRebuild
  split
  · next hhead =>
      split_ifs
      · exact rebuildCount_head hhead fun h => by cases h
      · exact le_rfl
  · exact le_rfl

/-- A run that has returned takes no more answers. -/
lemma electionStep_returned {job : ElectionJob} {payloads : List Json}
    {state : OrchestratorReconcileState} {result : Answer OrchestratorDelegationState}
    (answer : ElectionAnswer) :
    electionStep reads job ⟨.returned result, payloads, state⟩ answer =
      ⟨.returned result, payloads, state⟩ := by
  cases answer <;> rfl

lemma rebuildCount_answerElection {answer : ElectionAnswer} :
    (port.answerElection reads answer).rebuildCount ≤ port.rebuildCount := by
  unfold answerElection
  split
  · next j holder job point payloads hhead =>
      refine rebuildCount_head hhead fun hprogress => ?_
      cases point with
      | returned result =>
          rw [electionStep_returned] at hprogress
          cases hprogress
      | _ => rfl
  · exact le_rfl

lemma rebuildCount_deliver : (port.deliver reads).rebuildCount ≤ port.rebuildCount := by
  unfold deliver
  split
  · next hhead =>
      split
      · exact rebuildCount_head hhead fun h => by cases h
      · exact rebuildCount_head hhead fun h => by cases h
      · exact rebuildCount_head hhead fun h => by cases h
  · exact le_rfl

lemma rebuildCount_retireJob : (port.retireJob j).rebuildCount ≤ port.rebuildCount := by
  refine Nat.add_le_add_left (Objects.count_modify_le fun job _ hprogress => ?_) _
  cases hprogress

lemma rebuildCount_onSettled : (port.onSettled work).rebuildCount ≤ port.rebuildCount := by
  cases work with
  | reconcile => exact le_rfl
  | election holder job => exact rebuildCount_closeSection

lemma rebuildCount_settleJob : port.settleJob.rebuildCount ≤ port.rebuildCount := by
  unfold settleJob
  split
  · next j work threw payloads hhead =>
      have hbefore : (if threw then port.onUnexpected j work else port).countSettled.rebuildCount =
          port.rebuildCount := by
        split_ifs
        · cases work <;> rfl
        · rfl
      exact (rebuildCount_retireJob.trans rebuildCount_onSettled).trans hbefore.le
  · exact le_rfl

end Jobs

/-! ### Steps that begin one -/

lemma rebuildCount_delegation {orgId : String} {point : RebuildAwait} :
    (port.openSection .delegation (configWriteKey orgId) (.rebuild point)).rebuildCount =
      port.rebuildCount + 1 := by
  have hrebuilds : (ProviderSection.mk .delegation (configWriteKey orgId)
      (some (.rebuild point))).rebuilds = true := rfl
  change (port.sections.add _).count _ + port.jobs.count _ = _
  rw [Objects.count_add, if_pos hrebuilds, rebuildCount]
  omega

lemma serial_applyOrchestratorDelegation {principal : ConnectionProvisioningPrincipal}
    (h : PortOk port) (hs : RebuildsSerial port) :
    RebuildsSerial (port.applyOrchestratorDelegation principal) ↔
      keepsApart port (.applyOrchestratorDelegation principal) = true := by
  rw [applyOrchestratorDelegation, startExclusive, Bool.false_or, keepsApart]
  cases hreserved : port.providerWriteReserved (configWriteKey principal.orgId) with
  | true => exact iff_of_true hs rfl
  | false =>
      have hfree : port.writes (configWriteKey principal.orgId) = 0 := by
        simpa [providerWriteReserved] using hreserved
      rw [if_neg Bool.false_ne_true, Bool.false_or, Bool.and_eq_true, decide_eq_true_eq,
        headSpares_iff h hfree, RebuildsSerial, rebuildCount_delegation, rebuildCount]
      omega

lemma rebuildCount_setPoint {point : JobPoint} (hhead : port.head = some (j, job))
    (hbefore : job.point.inProgress = false) (hafter : point.inProgress = true) :
    (port.setPoint j point).rebuildCount = port.rebuildCount + 1 := by
  have hcount := Objects.count_modify (f := fun job : OrchestratorJob => { job with point := point })
    (p := (·.point.inProgress)) (head_eq_some.mp hhead).2
  simp only [hbefore, hafter, Bool.false_eq_true, if_false, if_true, add_zero] at hcount
  change port.sections.count (·.rebuilds) + (port.jobs.modify j _).count _ = _
  rw [hcount, rebuildCount]
  omega

lemma count_notReserved (h : PortOk port) (hhead : port.head = some (j, job)) :
    port.sections.count (fun entry => entry.rebuilds && !port.reservedFor job.work entry.key) =
      port.sections.count (·.rebuilds) := by
  have hopen := unsettled_of_head h hhead
  refine le_antisymm (Objects.count_mono fun entry hentry => (Bool.and_eq_true_iff.mp hentry).1) ?_
  refine List.countP_mono_left fun n _ hn => ?_
  obtain ⟨entry, hget, hrebuilds⟩ := (Option.any_eq_true _ _).mp hn
  refine (Option.any_eq_true _ _).mpr ⟨entry, hget, ?_⟩
  rw [hrebuilds, not_reservedFor_of_rebuilds h (head_eq_some.mp hhead).2 hopen hget hrebuilds]
  rfl

lemma inProgress_firstPoint : (firstPoint work).inProgress = true := by
  cases work <;> rfl

lemma serial_beginJob (h : PortOk port) (hs : RebuildsSerial port) :
    RebuildsSerial port.beginJob ↔ keepsApart port .beginJob = true := by
  unfold beginJob
  split
  · next j work payloads hhead =>
      have hcount : ({ port.setPoint j (firstPoint work) with
          orchestratorReconcileState :=
            if port.orchestratorReconcileState.isFailed then port.orchestratorReconcileState
            else work.tracking } : ConnectionsPort).rebuildCount = port.rebuildCount + 1 :=
        rebuildCount_setPoint hhead rfl inProgress_firstPoint
      have hnone : port.jobs.count (·.point.inProgress) = 0 := by
        refine (count_inProgress_eq_zero h).mpr fun j' job' hhead' => ?_
        rw [hhead, Option.some_inj] at hhead'
        obtain ⟨rfl, rfl⟩ := Prod.mk.inj hhead'
        rfl
      have hreserved := count_notReserved h hhead
      rw [RebuildsSerial, hcount, keepsApart]
      simp only [hhead, decide_eq_true_eq]
      rw [hreserved, rebuildCount, hnone]
      omega
  · next hnot =>
      -- There is no job in the tail, or the first one has begun.
      refine iff_of_true hs ?_
      rw [keepsApart]
      split
      · next hhead => exact absurd hhead (hnot _ _ _)
      · rfl

end ConnectionsPort

/-! ### Runs -/

open ConnectionsPort in
lemma serial_step {reads : ProviderReads} (port : ConnectionsPort) (event : ConnectionsEvent)
    (h : PortOk port) (hs : RebuildsSerial port) :
    RebuildsSerial ((connectionsMachine reads).step port event) ↔
      keepsApart port event = true := by
  change RebuildsSerial (connectionsStep reads port event) ↔ _
  cases event with
  | applyOrchestratorDelegation principal => exact serial_applyOrchestratorDelegation h hs
  | beginJob => exact serial_beginJob h hs
  | setModelProviderModelEnabled principal busy =>
      exact iff_of_true ((rebuildCount_startExclusive fun _ heq => by cases heq).trans hs) rfl
  | completeModelProviderApiKeyConnect principal providerId =>
      exact iff_of_true ((rebuildCount_startExclusive fun _ heq => by cases heq).trans hs) rfl
  | startModelProviderDeviceFlow principal busy =>
      exact iff_of_true ((rebuildCount_startExclusive fun _ heq => by cases heq).trans hs) rfl
  | startModelProviderDisconnect principal providerId busy =>
      exact iff_of_true ((rebuildCount_startExclusive fun _ heq => by cases heq).trans hs) rfl
  | finalizeModelProviderFlow orgId providerId now =>
      exact iff_of_true (rebuildCount_finalizeModelProviderFlow.le.trans hs) rfl
  | stopDeviceFlow orgId => exact iff_of_true (rebuildCount_stopDeviceFlow.le.trans hs) rfl
  | proceedSection n next => exact iff_of_true (rebuildCount_proceedSection.trans hs) rfl
  | answerSection n result now => exact iff_of_true (rebuildCount_answerSection.trans hs) rfl
  | takeSettlement n => exact iff_of_true (rebuildCount_takeSettlement.trans hs) rfl
  | setMainOrchestrator input =>
      exact iff_of_true (rebuildCount_setMainOrchestrator.le.trans hs) rfl
  | takePreflightConfig c answer =>
      exact iff_of_true (rebuildCount_takePreflightConfig.le.trans hs) rfl
  | takePreflightReadings c readings now =>
      exact iff_of_true (rebuildCount_takePreflightReadings.le.trans hs) rfl
  | proceedRebuild next => exact iff_of_true (rebuildCount_proceedRebuild.trans hs) rfl
  | answerRebuild answer => exact iff_of_true (rebuildCount_answerRebuild.trans hs) rfl
  | answerElection answer => exact iff_of_true (rebuildCount_answerElection.trans hs) rfl
  | deliver => exact iff_of_true (rebuildCount_deliver.trans hs) rfl
  | settleJob => exact iff_of_true (rebuildCount_settleJob.trans hs) rfl

/-- The owner of an organization. -/
def exampleOwner : ConnectionProvisioningPrincipal where
  orgId := "org-1"
  workspaceId := "workspace-1"
  actorUserId := "user-1"
  roleKeys := ["owner"]

/-- A provider is disconnected, and the delegation is applied while the rebuild after it is in
progress. -/
def delegationBesideDisconnect : List ConnectionsEvent :=
  [.startModelProviderDisconnect exampleOwner "openai" false, .answerSection 0 .ok 0, .beginJob,
    .applyOrchestratorDelegation exampleOwner]

end Opzava.Provisioning
