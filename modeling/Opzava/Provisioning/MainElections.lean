import Opzava.Provisioning.ProviderWriteRuns

/-!
The elections of the main orchestrator over whole runs (`setMainOrchestrator` in
`provisioning/connections-provisioning-service.ts`).

* `InFlightOk`: `mainOrchestratorElectionInFlight` is the one election that has not settled.
* `ElectionTrail`: what is audited of an election, up to where its job is.
* `electionsOk_step`: they hold in every run.
* `AnsweredDuring`: the calls that are answered while an election is in flight.
* `main_orchestrator_elections`: elections run once.
-/

namespace Opzava.Provisioning

open Opzava.Library
open DevBoard (DomainError)
open ConnectionsPort

/-- An election that is queued or running. -/
def OrchestratorJob.isElection (job : OrchestratorJob) : Bool :=
  match job.work with
  | .election _ _ => !job.point.isSettled
  | .reconcile _ _ _ _ => false

/-- The entry is that of an election with this input. -/
def EntryOf (inFlight : ElectionInFlight) (input : SetMainOrchestratorInput) : Prop :=
  inFlight.requestId = input.requestId ∧ inFlight.providerId = input.providerId ∧
    inFlight.requestedModel = requestedModel input

/-- Without an entry no election is queued or running; an entry is that of the only one. -/
def InFlightOk (jobs : Objects OrchestratorJob) : Option ElectionInFlight → Prop
  | none => ∀ j job, jobs.get j = some job → job.isElection = false
  | some inFlight =>
      validSetMainRequestId inFlight.requestId = true ∧
        ∃ j job holder election, jobs.get j = some job ∧ job.work = .election holder election ∧
          job.isElection = true ∧ EntryOf inFlight election.input ∧
          ∀ j' job', jobs.get j' = some job' → job'.isElection = true → j' = j

/-- The audit of the end of an election: it is completed when a configuration was read that has
what was elected, or has failed. -/
def TerminalAudit (j : ℕ) (election : ElectionJob) (reads : List Json) (event : ElectionAudit) :
    Prop :=
  (∃ state, event = completedAudit j election.input state ∧ Confirmed election reads state) ∨
    ∃ failure, event = failedAudit j election.input failure

/-- What is audited of an election: that it was requested and, once its run is over, how it ended.
An exception is audited when the job settles. -/
def ElectionTrail (j : ℕ) (election : ElectionJob) (job : OrchestratorJob)
    (trail : List ElectionAudit) : Prop :=
  match job.point with
  | .finished false | .settled =>
      ∃ terminal, TerminalAudit j election job.reads terminal ∧
        trail = [requestedAudit j election.input, terminal]
  | _ => trail = [requestedAudit j election.input]

/-- The run of an election has read what it works with. -/
structure ElectionRunOk (election : ElectionJob) (job : OrchestratorJob) : Prop where
  model : isModelRef election.tracking.model
  electing : ∀ point, job.point = .electing point → ElectionPointOk election job.reads point
  notRebuilding : ∀ point, job.point ≠ .rebuilding point

/-- The audits of an election. -/
def electionAudits (audits : List ElectionAudit) (j : ℕ) : List ElectionAudit :=
  audits.filter fun event => event.election = some j

/-- A call that has not been answered yet. -/
def SetMainCall.isPending (call : SetMainCall) : Bool :=
  match call.point with
  | .config => true
  | .readings _ => true
  | _ => false

/-- Every election is audited as far as its job is, and nothing else is audited as one. -/
structure TrailsOk (jobs : Objects OrchestratorJob) (audits : List ElectionAudit) : Prop where
  ofJob : ∀ j job holder election, jobs.get j = some job → job.work = .election holder election →
    ElectionRunOk election job ∧ ElectionTrail j election job (electionAudits audits j)
  tagged : ∀ event ∈ audits, ∀ j, event.election = some j → j < jobs.next

structure ElectionsOk (port : ConnectionsPort) : Prop where
  inFlight : InFlightOk port.jobs port.mainOrchestratorElectionInFlight
  calls : ∀ c call, port.setMainCalls.get c = some call → call.isPending = true →
    validSetMainRequestId call.input.requestId = true
  trails : TrailsOk port.jobs port.audits

lemma electionsOk_new : ElectionsOk .new where
  inFlight := fun j job h => by cases h
  calls := fun c call h => by cases h
  trails := ⟨fun j job holder election h => (by cases h), fun event h => (by cases h)⟩

/-! ### The entry -/

section InFlight

variable {jobs : Objects OrchestratorJob} {inFlight : Option ElectionInFlight} {j : ℕ}
  {job : OrchestratorJob} {f : OrchestratorJob → OrchestratorJob}

lemma isElection_of_work {holder : ℕ} {election : ElectionJob}
    (hwork : job.work = .election holder election) :
    job.isElection = !job.point.isSettled := by
  rw [OrchestratorJob.isElection, hwork]

/-- A job changes that stays the election it is, or is none. -/
lemma inFlightOk_modify (h : InFlightOk jobs inFlight) (hwork : ∀ job, (f job).work = job.work)
    (hsame : ∀ job, jobs.get j = some job → (f job).isElection = job.isElection) :
    InFlightOk (jobs.modify j f) inFlight := by
  have hold : ∀ {j' job'}, (jobs.modify j f).get j' = some job' →
      ∃ old, jobs.get j' = some old ∧ job'.isElection = old.isElection := by
    intro j' job' hget
    obtain ⟨old, hold, rfl⟩ := Objects.get_modify_eq_some hget
    refine ⟨old, hold, ?_⟩
    split_ifs with hj
    · subst hj
      exact hsame old hold
    · rfl
  cases inFlight with
  | none =>
      intro j' job' hget
      obtain ⟨old, hget', heq⟩ := hold hget
      rw [heq]
      exact h j' old hget'
  | some entry =>
      obtain ⟨hvalid, m, job, holder, election, hget, hjob, helection, hentry, hunique⟩ := h
      refine ⟨hvalid, m, if m = j then f job else job, holder, election, ?_, ?_, ?_, hentry, ?_⟩
      · by_cases hm : m = j
        · subst hm
          rw [if_pos rfl, Objects.get_modify_of_some hget]
        · rw [if_neg hm, Objects.get_modify_of_ne hm, hget]
      · split_ifs
        · rw [hwork, hjob]
        · exact hjob
      · split_ifs with hm
        · subst hm
          rw [hsame job hget, helection]
        · exact helection
      · intro j' job' hget' helection'
        obtain ⟨old, hgetOld, heq⟩ := hold hget'
        exact hunique j' old hgetOld (heq ▸ helection')

/-- A job is added that is no election. -/
lemma inFlightOk_add (h : InFlightOk jobs inFlight) (hjob : job.isElection = false) :
    InFlightOk (jobs.add job) inFlight := by
  have hold : ∀ {j' job'}, (jobs.add job).get j' = some job' → job'.isElection = true →
      jobs.get j' = some job' := by
    intro j' job' hget helection
    rcases Objects.get_add_eq_some hget with ⟨-, rfl⟩ | hold
    · rw [hjob] at helection
      cases helection
    · exact hold
  cases inFlight with
  | none =>
      intro j' job' hget
      rw [Bool.eq_false_iff]
      intro helection
      have hfalse := h j' job' (hold hget helection)
      rw [helection] at hfalse
      cases hfalse
  | some entry =>
      obtain ⟨hvalid, m, job', holder, election, hget, hwork, helection, hentry, hunique⟩ := h
      exact ⟨hvalid, m, job', holder, election, Objects.get_add_of_some hget, hwork, helection,
        hentry, fun k other hother hrun => hunique k other (hold hother hrun) hrun⟩

/-- An election is added while there is none. -/
lemma inFlightOk_accept {holder : ℕ} {election : ElectionJob} {entry : ElectionInFlight}
    (h : InFlightOk jobs none) (hvalid : validSetMainRequestId entry.requestId = true)
    (hentry : EntryOf entry election.input) :
    InFlightOk (jobs.add ⟨.election holder election, .waiting, []⟩) (some entry) := by
  refine ⟨hvalid, jobs.next, _, holder, election, Objects.get_add_next, rfl, rfl, hentry, ?_⟩
  intro j' job' hget helection
  rcases Objects.get_add_eq_some hget with ⟨rfl, -⟩ | hold
  · rfl
  · rw [h j' job' hold] at helection
    cases helection

/-- The entry while an election has not settled is its entry. -/
lemma entry_of_election {holder : ℕ} {election : ElectionJob} (h : InFlightOk jobs inFlight)
    (hget : jobs.get j = some job) (hwork : job.work = .election holder election)
    (hopen : job.point.isSettled = false) :
    ∃ entry, inFlight = some entry ∧ EntryOf entry election.input ∧
      ∀ j' job', jobs.get j' = some job' → job'.isElection = true → j' = j := by
  have helection : job.isElection = true := by rw [isElection_of_work hwork, hopen, Bool.not_false]
  cases inFlight with
  | none =>
      rw [h j job hget] at helection
      cases helection
  | some entry =>
      obtain ⟨-, m, job', holder', election', hget', hwork', -, hentry, hunique⟩ := h
      obtain rfl := hunique j job hget helection
      rw [hget, Option.some_inj] at hget'
      subst hget'
      rw [hwork] at hwork'
      obtain ⟨rfl, rfl⟩ := OrchestratorWork.election.inj hwork'
      exact ⟨entry, rfl, hentry, hunique⟩

/-- The election settles, and its entry is removed. -/
lemma inFlightOk_settle (hunique : ∀ j' job', jobs.get j' = some job' →
    job'.isElection = true → j' = j) (hf : ∀ job, (f job).point.isSettled = true) :
    InFlightOk (jobs.modify j f) none := by
  intro j' job' hget
  obtain ⟨old, hold, rfl⟩ := Objects.get_modify_eq_some hget
  rw [Bool.eq_false_iff]
  intro helection
  split_ifs at helection with hj
  · unfold OrchestratorJob.isElection at helection
    split at helection
    · rw [hf] at helection
      cases helection
    · cases helection
  · exact hj (hunique j' old hold helection)

end InFlight

/-! ### Trails -/

section Trails

variable {jobs : Objects OrchestratorJob} {audits audits' : List ElectionAudit}
  {event : ElectionAudit} {j m : ℕ} {job : OrchestratorJob} {f : OrchestratorJob → OrchestratorJob}

lemma electionAudits_append_of_ne (h : event.election ≠ some j) :
    electionAudits (audits ++ [event]) j = electionAudits audits j := by
  rw [electionAudits, List.filter_append, List.filter_cons_of_neg (by simpa using h),
    List.filter_nil, List.append_nil, electionAudits]

lemma electionAudits_append_self (h : event.election = some j) :
    electionAudits (audits ++ [event]) j = electionAudits audits j ++ [event] := by
  rw [electionAudits, List.filter_append, List.filter_cons_of_pos (by simpa using h),
    List.filter_nil, electionAudits]

/-- No election is audited that has no job yet. -/
lemma electionAudits_next (h : TrailsOk jobs audits) : electionAudits audits jobs.next = [] := by
  refine List.filter_eq_nil_iff.mpr fun event hevent hnext => ?_
  exact lt_irrefl _ (h.tagged event hevent jobs.next (of_decide_eq_true hnext))

/-- A refusal is audited without an election. -/
lemma trailsOk_refused (h : TrailsOk jobs audits) (hevent : event.election = none) :
    TrailsOk jobs (audits ++ [event]) := by
  constructor
  · intro j job holder election hget hwork
    rw [electionAudits_append_of_ne (by simp [hevent])]
    exact h.ofJob j job holder election hget hwork
  · intro event' hevent' j hj
    rcases List.mem_append.mp hevent' with hold | hnew
    · exact h.tagged event' hold j hj
    · rw [List.mem_singleton] at hnew
      rw [hnew, hevent] at hj
      cases hj

/-- A rebuild is queued. -/
lemma trailsOk_add (h : TrailsOk jobs audits) (hjob : ∀ holder election,
    job.work ≠ .election holder election) : TrailsOk (jobs.add job) audits := by
  constructor
  · intro j job' holder election hget hwork
    rcases Objects.get_add_eq_some hget with ⟨-, rfl⟩ | hold
    · exact absurd hwork (hjob holder election)
    · exact h.ofJob j job' holder election hold hwork
  · exact fun event hevent j hj => (h.tagged event hevent j hj).trans (Nat.lt_succ_self _)

/-- An election is queued, and audited as requested. -/
lemma trailsOk_accept {holder : ℕ} {election : ElectionJob} (h : TrailsOk jobs audits)
    (hmodel : isModelRef election.tracking.model) :
    TrailsOk (jobs.add ⟨.election holder election, .waiting, []⟩)
      (audits ++ [requestedAudit jobs.next election.input]) := by
  constructor
  · intro j job holder' election' hget hwork
    rcases Objects.get_add_eq_some hget with ⟨rfl, rfl⟩ | hold
    · obtain ⟨rfl, rfl⟩ := OrchestratorWork.election.inj hwork
      refine ⟨⟨hmodel, fun point heq => (by cases heq), fun point heq => (by cases heq)⟩, ?_⟩
      rw [electionAudits_append_self rfl, electionAudits_next h]
      rfl
    · rw [electionAudits_append_of_ne (by
        simpa [requestedAudit] using (Objects.lt_next hold).ne')]
      exact h.ofJob j job holder' election' hold hwork
  · intro event hevent j hj
    rcases List.mem_append.mp hevent with hold | hnew
    · exact (h.tagged event hold j hj).trans (Nat.lt_succ_self _)
    · rw [List.mem_singleton] at hnew
      subst hnew
      obtain rfl := Option.some.inj hj
      exact Nat.lt_succ_self _

/-- A job changes, and events of its election may be audited. -/
lemma trailsOk_modify (h : TrailsOk jobs audits) (hget : jobs.get j = some job)
    (hwork : (f job).work = job.work)
    (hothers : ∀ m, m ≠ j → electionAudits audits' m = electionAudits audits m)
    (htagged : ∀ event ∈ audits', ∀ m, event.election = some m → m < jobs.next)
    (hjob : ∀ holder election, job.work = .election holder election →
      ElectionRunOk election job → ElectionTrail j election job (electionAudits audits j) →
      ElectionRunOk election (f job) ∧
        ElectionTrail j election (f job) (electionAudits audits' j)) :
    TrailsOk (jobs.modify j f) audits' := by
  refine ⟨fun m job' holder election hget' hwork' => ?_, htagged⟩
  obtain ⟨old, hold, rfl⟩ := Objects.get_modify_eq_some hget'
  by_cases hm : m = j
  · subst hm
    rw [hget, Option.some_inj] at hold
    subst hold
    rw [if_pos rfl] at hwork' ⊢
    rw [hwork] at hwork'
    obtain ⟨hrun, htrail⟩ := h.ofJob m job holder election hget hwork'
    exact hjob holder election hwork' hrun htrail
  · rw [if_neg hm] at hwork' ⊢
    rw [hothers m hm]
    exact h.ofJob m old holder election hold hwork'

/-- The end of an election is audited. -/
lemma trailsOk_terminal {holder : ℕ} {election : ElectionJob} (h : TrailsOk jobs audits)
    (hget : jobs.get j = some job) (hwork : job.work = .election holder election)
    (hf : (f job).work = job.work) (hreads : (f job).reads = job.reads)
    (hbefore : ∀ trail, ElectionTrail j election job trail →
      trail = [requestedAudit j election.input])
    (hafter : (f job).point = .finished false ∨ (f job).point = .settled)
    (hevent : TerminalAudit j election job.reads event) :
    TrailsOk (jobs.modify j f) (audits ++ [event]) := by
  have htag : event.election = some j := by
    rcases hevent with ⟨state, rfl, -⟩ | ⟨failure, rfl⟩
    · rfl
    · rfl
  refine trailsOk_modify h hget hf (fun m hm => ?_) ?_ ?_
  · exact electionAudits_append_of_ne (by simp [htag, Ne.symm hm])
  · intro event' hevent' m hm
    rcases List.mem_append.mp hevent' with hold | hnew
    · exact h.tagged event' hold m hm
    · rw [List.mem_singleton] at hnew
      rw [hnew, htag, Option.some_inj] at hm
      exact hm ▸ Objects.lt_next hget
  · intro holder' election' hwork' hrun htrail
    rw [hwork] at hwork'
    obtain ⟨rfl, rfl⟩ := OrchestratorWork.election.inj hwork'
    have htrail' : ∃ terminal, TerminalAudit j election (f job).reads terminal ∧
        electionAudits (audits ++ [event]) j = [requestedAudit j election.input, terminal] := by
      refine ⟨event, hreads ▸ hevent, ?_⟩
      rw [electionAudits_append_self htag, hbefore _ htrail]
      rfl
    rcases hafter with hpoint | hpoint
    · refine ⟨⟨hrun.model, fun point heq => ?_, fun point heq => ?_⟩, ?_⟩
      · rw [hpoint] at heq
        cases heq
      · rw [hpoint] at heq
        cases heq
      · rw [ElectionTrail, hpoint]
        exact htrail'
    · refine ⟨⟨hrun.model, fun point heq => ?_, fun point heq => ?_⟩, ?_⟩
      · rw [hpoint] at heq
        cases heq
      · rw [hpoint] at heq
        cases heq
      · rw [ElectionTrail, hpoint]
        exact htrail'

end Trails

section Steps

variable {port : ConnectionsPort} {j n c : ℕ} {job : OrchestratorJob} {work : OrchestratorWork}
  {input : SetMainOrchestratorInput} {key : String}
  {result : Except DomainError OrchestratorDelegationState} {f : OrchestratorJob → OrchestratorJob}

/-- The fields that the elections are about. -/
lemma ElectionsOk.congr {port' : ConnectionsPort} (h : ElectionsOk port)
    (hjobs : port'.jobs = port.jobs)
    (hinFlight : port'.mainOrchestratorElectionInFlight = port.mainOrchestratorElectionInFlight)
    (hcalls : port'.setMainCalls = port.setMainCalls) (haudits : port'.audits = port.audits) :
    ElectionsOk port' := by
  constructor
  · rw [hjobs, hinFlight]
    exact h.inFlight
  · rw [hcalls]
    exact h.calls
  · rw [hjobs, haudits]
    exact h.trails

variable (port key) in
lemma releaseProviderWrite_elections :
    (port.releaseProviderWrite key).mainOrchestratorElectionInFlight =
        port.mainOrchestratorElectionInFlight ∧
      (port.releaseProviderWrite key).setMainCalls = port.setMainCalls ∧
      (port.releaseProviderWrite key).audits = port.audits := by
  unfold releaseProviderWrite
  split_ifs
  · exact ⟨rfl, rfl, rfl⟩
  · exact ⟨rfl, rfl, rfl⟩

variable (n key) in
lemma electionsOk_closeSection (h : ElectionsOk port) : ElectionsOk (port.closeSection n key) := by
  obtain ⟨hinFlight, hcalls, haudits⟩ := releaseProviderWrite_elections port key
  obtain ⟨-, hjobs, -⟩ := releaseProviderWrite_frame port key
  exact h.congr hjobs hinFlight hcalls haudits

/-- A rebuild is queued. -/
lemma electionsOk_reconcile {holder : Option ℕ} {reason : CredentialChange} {providerId : String}
    {startedAt : Date} (h : ElectionsOk port) :
    ElectionsOk (port.enqueueOrchestratorWork
      (.reconcile holder reason providerId startedAt)) where
  inFlight := inFlightOk_add h.inFlight rfl
  calls := h.calls
  trails := trailsOk_add h.trails fun holder election hwork => by cases hwork

lemma electionsOk_auditAnswer (h : ElectionsOk port) :
    ElectionsOk (port.auditAnswer input result) := by
  cases result with
  | ok state => exact h
  | error error => exact ⟨h.inFlight, h.calls, trailsOk_refused h.trails rfl⟩

lemma electionsOk_setCallPoint {point : SetMainPoint} (h : ElectionsOk port)
    (hpending : ∀ call, port.setMainCalls.get c = some call →
      SetMainCall.isPending { call with point := point } = true → call.isPending = true) :
    ElectionsOk (port.setCallPoint c point) where
  inFlight := h.inFlight
  calls := by
    intro c' call hget hcall
    obtain ⟨old, hold, rfl⟩ := Objects.get_modify_eq_some hget
    split_ifs at hcall ⊢ with hc
    · subst hc
      exact h.calls c' old hold (hpending old hold hcall)
    · exact h.calls c' old hold hcall
  trails := h.trails

lemma electionsOk_answerCall (h : ElectionsOk port) : ElectionsOk (port.answerCall c input result) :=
  electionsOk_auditAnswer (electionsOk_setCallPoint h fun call _ hcall => by cases hcall)

lemma electionsOk_addCall {point : SetMainPoint} (h : ElectionsOk port)
    (hvalid : SetMainCall.isPending ⟨input, point⟩ = true →
      validSetMainRequestId input.requestId = true) :
    ElectionsOk { port with setMainCalls := port.setMainCalls.add ⟨input, point⟩ } where
  inFlight := h.inFlight
  calls := by
    intro c' call hget hcall
    rcases Objects.get_add_eq_some hget with ⟨-, rfl⟩ | hold
    · exact hvalid hcall
    · exact h.calls c' call hold hcall
  trails := h.trails

lemma electionsOk_answerNewCall (h : ElectionsOk port) :
    ElectionsOk (port.answerNewCall input result) :=
  electionsOk_auditAnswer (electionsOk_addCall h fun hcall => by cases hcall)

/-- The first job goes on. -/
lemma electionsOk_modifyHead (h : ElectionsOk port) (hp : PortOk port)
    (hhead : port.head = some (j, job)) (hwork : ∀ job, (f job).work = job.work)
    (hopen : (f job).point.isSettled = false)
    (hjob : ∀ holder election trail, job.work = .election holder election →
      ElectionRunOk election job → ElectionTrail j election job trail →
      ElectionRunOk election (f job) ∧ ElectionTrail j election (f job) trail) :
    ElectionsOk { port with jobs := port.jobs.modify j f } where
  inFlight := by
    refine inFlightOk_modify h.inFlight hwork fun job' hget => ?_
    rw [(head_eq_some.mp hhead).2, Option.some_inj] at hget
    subst hget
    unfold OrchestratorJob.isElection
    rw [hwork, hopen, unsettled_of_head hp hhead]
  calls := h.calls
  trails := trailsOk_modify h.trails (head_eq_some.mp hhead).2 (hwork job) (fun _ _ => rfl)
    h.trails.tagged fun holder election => hjob holder election _

/-! ### Calls -/

lemma coalesce_eq_none : port.coalesceMainOrchestratorElection input = none ↔
    port.mainOrchestratorElectionInFlight = none :=
  Option.map_eq_none_iff

lemma electionsOk_setMainOrchestrator (h : ElectionsOk port) :
    ElectionsOk (port.setMainOrchestrator input) := by
  unfold setMainOrchestrator
  split
  · next hvalid =>
      split
      · exact electionsOk_answerNewCall h
      · split
        · exact electionsOk_answerNewCall h
        · exact electionsOk_addCall h fun _ => hvalid
  · exact electionsOk_answerNewCall h

lemma electionsOk_takePreflightConfig {answer : Answer Json} (h : ElectionsOk port) :
    ElectionsOk (port.takePreflightConfig c answer) := by
  unfold takePreflightConfig
  split
  · next hget =>
      split
      · refine electionsOk_setCallPoint h fun call hcall _ => ?_
        rw [hget, Option.some_inj] at hcall
        subst hcall
        rfl
      · exact electionsOk_answerCall h
      · exact electionsOk_setCallPoint h fun call _ hcall => by cases hcall
  · exact h

/-- A model that is elected names its provider. -/
lemma isModelRef_of_electionModel {providerId elected : String} {model derived : Option String}
    {provider : Option ModelProviderCatalogEntry}
    (hderived : ∀ name, derived = some name → isModelRef name)
    (h : electionModel providerId model derived provider = .ok elected) : isModelRef elected := by
  unfold electionModel at h
  simp only at h
  split at h
  · split_ifs at h
    rw [← Except.ok.inj h]
    exact isModelRef_providerModelRef _ _
  · split at h
    · rw [← Except.ok.inj h]
      exact hderived _ rfl
    · cases h

lemma isModelRef_of_prepare {reads : ProviderReads} {providerId : String} {model : Option String}
    {payload : Json} {readings : ElectionReadings} {reconcile : OrchestratorReconcileState}
    {now : Date} {prepared : PreparedMainOrchestratorElection}
    (h : prepareMainOrchestratorElection reads providerId model payload readings reconcile now =
      .ok prepared) : isModelRef prepared.orchestratorModel := by
  unfold prepareMainOrchestratorElection at h
  simp only at h
  split_ifs at h with hconnected
  split at h
  · cases h
  · next elected helected =>
      split at h
      · cases h
      · split at h
        · cases h
        · obtain rfl := Except.ok.inj h
          refine isModelRef_of_electionModel (fun name hname => ?_) helected
          unfold derivedElectionModel at hname
          split at hname
          · rw [← Option.some.inj hname]
            exact isModelRef_providerModelRef _ _
          · obtain ⟨entry, -, rfl⟩ := Option.map_eq_some_iff.mp hname
            exact isModelRef_providerModelRef _ _

/-- An election is accepted: it is requested, and waits for its turn. -/
lemma electionsOk_acceptElection {prepared : PreparedMainOrchestratorElection} {now : Date}
    (h : ElectionsOk port) (hvalid : validSetMainRequestId input.requestId = true)
    (hnone : port.mainOrchestratorElectionInFlight = none)
    (hmodel : isModelRef prepared.orchestratorModel) :
    ElectionsOk (port.acceptElection c input prepared now) := by
  have hinFlight := h.inFlight
  rw [hnone] at hinFlight
  exact electionsOk_answerCall ⟨inFlightOk_accept hinFlight hvalid ⟨rfl, rfl, rfl⟩, h.calls,
    trailsOk_accept h.trails hmodel⟩

lemma electionsOk_takeCallPrepared {now : Date}
    {prepared : Except DomainError PreparedMainOrchestratorElection} (h : ElectionsOk port)
    (hvalid : validSetMainRequestId input.requestId = true)
    (hmodel : ∀ election, prepared = .ok election → isModelRef election.orchestratorModel) :
    ElectionsOk (port.takeCallPrepared c input now prepared) := by
  unfold takeCallPrepared
  split
  · exact electionsOk_answerCall h
  · next election =>
      split
      · exact electionsOk_answerCall h
      · next hcoalesce =>
          split
          · exact electionsOk_answerCall h
          · exact electionsOk_acceptElection h hvalid (coalesce_eq_none.mp hcoalesce)
              (hmodel election rfl)

lemma electionsOk_takePreflightReadings {reads : ProviderReads}
    {readings : Option ElectionReadings} {now : Date} (h : ElectionsOk port) :
    ElectionsOk (port.takePreflightReadings reads c readings now) := by
  unfold takePreflightReadings
  split
  · next input payload hget =>
      split
      · exact electionsOk_takeCallPrepared h (h.calls c ⟨input, .readings payload⟩ hget rfl)
          fun election hprepare => isModelRef_of_prepare hprepare
      · exact electionsOk_setCallPoint h fun call _ hcall => by cases hcall
  · exact h

/-! ### Sections -/

lemma electionsOk_startExclusive {kind : ProviderSectionKind} {orgId : String} {busy : Bool}
    {await : SectionAwait} (h : ElectionsOk port) :
    ElectionsOk (port.startExclusive kind orgId busy await) := by
  unfold startExclusive
  split_ifs
  · exact h
  · exact ⟨h.inFlight, h.calls, h.trails⟩

lemma electionsOk_finalizeModelProviderFlow {orgId providerId : String} {now : Date}
    (h : ElectionsOk port) :
    ElectionsOk (port.finalizeModelProviderFlow orgId providerId now) :=
  electionsOk_reconcile ⟨h.inFlight, h.calls, h.trails⟩

lemma electionsOk_awaitNext {await : SectionAwait} (h : ElectionsOk port) :
    ElectionsOk (port.awaitNext n await) :=
  ⟨h.inFlight, h.calls, h.trails⟩

lemma electionsOk_proceedSection {next : SectionAwait} (h : ElectionsOk port) :
    ElectionsOk (port.proceedSection n next) := by
  unfold proceedSection
  split
  · split_ifs
    · exact electionsOk_awaitNext h
    · exact h
  · exact h

lemma electionsOk_answerSection {result : SectionResult} {now : Date} (h : ElectionsOk port) :
    ElectionsOk (port.answerSection n result now) := by
  unfold answerSection
  split
  · next kind key await hget =>
    split_ifs
    · unfold endSection
      split
      · exact electionsOk_reconcile (electionsOk_awaitNext h)
      · exact electionsOk_closeSection _ _ (electionsOk_reconcile h)
      · exact electionsOk_closeSection _ _ (electionsOk_reconcile h)
      · have hclosed := electionsOk_closeSection n key h
        exact ⟨hclosed.inFlight, hclosed.calls, hclosed.trails⟩
      · exact electionsOk_closeSection _ _ h
    · exact h
  · exact h

lemma electionsOk_takeSettlement (h : ElectionsOk port) : ElectionsOk (port.takeSettlement n) := by
  unfold takeSettlement
  split
  · split_ifs
    · split
      · exact electionsOk_awaitNext h
      · exact electionsOk_closeSection _ _ h
    · exact h
  · exact h

/-! ### Jobs -/

lemma electionsOk_beginJob (h : ElectionsOk port) (hp : PortOk port) :
    ElectionsOk port.beginJob := by
  unfold beginJob
  split
  · next j work payloads hhead =>
      have hnext := electionsOk_modifyHead (f := fun job => { job with point := firstPoint work })
        h hp hhead (fun _ => rfl) (by cases work <;> rfl) ?_
      · exact ⟨hnext.inFlight, hnext.calls, hnext.trails⟩
      · rintro holder election trail rfl hrun htrail
        refine ⟨⟨hrun.model, ?_, fun point heq => by cases heq⟩, htrail⟩
        rintro point heq
        obtain rfl := JobPoint.electing.inj heq
        trivial
  · exact h

lemma electionsOk_rebuildPoint {work : OrchestratorWork} {old : RebuildAwait}
    {payloads : List Json} (point : JobPoint) (h : ElectionsOk port) (hp : PortOk port)
    (hhead : port.head = some (j, ⟨work, .rebuilding old, payloads⟩))
    (hopen : point.isSettled = false) : ElectionsOk (port.setPoint j point) := by
  refine electionsOk_modifyHead h hp hhead (fun _ => rfl) hopen ?_
  intro holder election trail hwork hrun
  exact absurd rfl (hrun.notRebuilding old)

lemma electionsOk_proceedRebuild {next : RebuildAwait} (h : ElectionsOk port) (hp : PortOk port) :
    ElectionsOk (port.proceedRebuild next) := by
  unfold proceedRebuild
  split
  · next hhead =>
      split_ifs
      · exact electionsOk_rebuildPoint _ h hp hhead rfl
      · exact h
  · exact h

lemma electionsOk_answerRebuild {reads : ProviderReads} {answer : Answer Unit}
    (h : ElectionsOk port) (hp : PortOk port) : ElectionsOk (port.answerRebuild reads answer) := by
  unfold answerRebuild
  split
  · next hhead =>
      split_ifs
      · have hnext := electionsOk_rebuildPoint (.finished (isThrow answer)) h hp hhead rfl
        exact ⟨hnext.inFlight, hnext.calls, hnext.trails⟩
      · exact h
  · exact h

lemma electionsOk_answerElection {reads : ProviderReads} {answer : ElectionAnswer}
    (h : ElectionsOk port) (hp : PortOk port) : ElectionsOk (port.answerElection reads answer) := by
  unfold answerElection
  split
  · next j holder job point payloads hhead =>
      have hnext := electionsOk_modifyHead (f := fun entry =>
        { entry with
          point := .electing (electionStep reads job
            ⟨point, payloads, port.orchestratorReconcileState⟩ answer).point
          reads := (electionStep reads job
            ⟨point, payloads, port.orchestratorReconcileState⟩ answer).reads })
        h hp hhead (fun _ => rfl) rfl ?_
      · exact ⟨hnext.inFlight, hnext.calls, hnext.trails⟩
      · intro holder' election trail hwork hrun htrail
        obtain ⟨rfl, rfl⟩ := OrchestratorWork.election.inj hwork
        refine ⟨⟨hrun.model, ?_, fun point heq => by cases heq⟩, htrail⟩
        intro point' heq
        obtain rfl := JobPoint.electing.inj heq
        have hok := hrun.electing point rfl
        exact ElectionRun.ok_step answer hrun.model hok
  · exact h

/-- The end of the first job's election is audited. -/
lemma electionsOk_terminal {holder : ℕ} {election : ElectionJob} {point : ElectionPoint}
    {payloads : List Json} {event : ElectionAudit} (h : ElectionsOk port)
    (hhead : port.head = some (j, ⟨.election holder election, .electing point, payloads⟩))
    (hevent : TerminalAudit j election payloads event) :
    ElectionsOk ((port.audit event).setPoint j (.finished false)) where
  inFlight := by
    refine inFlightOk_modify h.inFlight (fun _ => rfl) fun job hget => ?_
    obtain rfl := Option.some.inj ((head_eq_some.mp hhead).2.symm.trans hget)
    rfl
  calls := h.calls
  trails := trailsOk_terminal h.trails (head_eq_some.mp hhead).2 rfl rfl rfl (fun _ htrail => htrail)
    (.inl rfl) hevent

lemma electionsOk_deliver {reads : ProviderReads} (h : ElectionsOk port) (hp : PortOk port) :
    ElectionsOk (port.deliver reads) := by
  unfold deliver
  split
  · next j holder job result payloads hhead =>
      obtain ⟨hrun, -⟩ := h.trails.ofJob j _ holder job (head_eq_some.mp hhead).2 rfl
      have hpoint : ElectionPointOk job payloads (.returned result) := hrun.electing _ rfl
      split
      · next state =>
          have hnext := electionsOk_terminal h hhead (.inl ⟨state, rfl, hpoint⟩)
          exact ⟨hnext.inFlight, hnext.calls, hnext.trails⟩
      · next error =>
          have hnext := electionsOk_terminal h hhead
            (.inr ⟨redactedDomainError reads error, rfl⟩)
          exact ⟨hnext.inFlight, hnext.calls, hnext.trails⟩
      · refine electionsOk_modifyHead h hp hhead (fun _ => rfl) rfl ?_
        intro holder' election trail hwork hrun' htrail
        exact ⟨⟨hrun'.model, fun point heq => (by cases heq), fun point heq => (by cases heq)⟩, htrail⟩
  · exact h

/-- The job of an election settles, and its entry is removed. -/
lemma electionsOk_retireElection {ended : ConnectionsPort} {holder : ℕ} {election : ElectionJob}
    (h : ElectionsOk port) (hp : PortOk port) (hhead : port.head = some (j, job))
    (hwork : job.work = .election holder election) (hjobs : ended.jobs = port.jobs)
    (hinFlight : ended.mainOrchestratorElectionInFlight = port.mainOrchestratorElectionInFlight)
    (hcalls : ended.setMainCalls = port.setMainCalls)
    (htrails : TrailsOk (port.jobs.modify j fun job => { job with point := .settled })
      ended.audits) :
    ElectionsOk ((ended.onSettled (.election holder election)).retireJob j) := by
  obtain ⟨-, hcallsClosed, haudits⟩ := releaseProviderWrite_elections ended
    (configWriteKey election.input.principal.orgId)
  obtain ⟨-, hjobsClosed, -⟩ := releaseProviderWrite_frame ended
    (configWriteKey election.input.principal.orgId)
  obtain ⟨entry, hentry, hentryOf, hunique⟩ := entry_of_election h.inFlight
    (head_eq_some.mp hhead).2 hwork (unsettled_of_head hp hhead)
  have hnone : (if ended.mainOrchestratorElectionInFlight.any fun inFlight =>
      inFlight.requestId = election.input.requestId then none
      else ended.mainOrchestratorElectionInFlight) = none := by
    rw [hinFlight, hentry, Option.any_some, decide_eq_true hentryOf.1, if_pos rfl]
  constructor
  · change InFlightOk ((ended.releaseProviderWrite _).jobs.modify j _) (if _ then _ else _)
    rw [hjobsClosed, hjobs, hnone]
    exact inFlightOk_settle hunique fun _ => rfl
  · change ∀ c call, (ended.releaseProviderWrite _).setMainCalls.get c = some call → _
    rw [hcallsClosed, hcalls]
    exact h.calls
  · change TrailsOk ((ended.releaseProviderWrite _).jobs.modify j _)
      (ended.releaseProviderWrite _).audits
    rw [hjobsClosed, hjobs, haudits]
    exact htrails

lemma electionsOk_settleReconcile {ended : ConnectionsPort} {holder : Option ℕ}
    {reason : CredentialChange} {providerId : String} {startedAt : Date} {point : JobPoint}
    {payloads : List Json} (h : ElectionsOk port)
    (hhead : port.head = some (j, ⟨.reconcile holder reason providerId startedAt, point, payloads⟩))
    (hjobs : ended.jobs = port.jobs)
    (hinFlight : ended.mainOrchestratorElectionInFlight = port.mainOrchestratorElectionInFlight)
    (hcalls : ended.setMainCalls = port.setMainCalls) (haudits : ended.audits = port.audits) :
    ElectionsOk (ended.retireJob j) := by
  have hended := h.congr hjobs hinFlight hcalls haudits
  have hget : ended.jobs.get j = some _ := hjobs ▸ (head_eq_some.mp hhead).2
  constructor
  · refine inFlightOk_modify hended.inFlight (fun _ => rfl) fun job hjob => ?_
    rw [hget, Option.some_inj] at hjob
    subst hjob
    rfl
  · exact hended.calls
  · exact trailsOk_modify hended.trails hget rfl (fun _ _ => rfl) hended.trails.tagged
      fun holder' election hwork => by cases hwork

lemma electionsOk_settleJob (h : ElectionsOk port) (hp : PortOk port) :
    ElectionsOk port.settleJob := by
  unfold settleJob
  split
  · next j work threw payloads hhead =>
      obtain ⟨-, hget⟩ := head_eq_some.mp hhead
      cases work with
      | reconcile holder reason providerId startedAt =>
          cases threw with
          | true => exact electionsOk_settleReconcile h hhead rfl rfl rfl rfl
          | false => exact electionsOk_settleReconcile h hhead rfl rfl rfl rfl
      | election holder election =>
          cases threw with
          | true =>
              exact electionsOk_retireElection h hp hhead rfl rfl rfl rfl
                (trailsOk_terminal h.trails hget rfl rfl rfl (fun _ htrail => htrail) (.inr rfl)
                  (.inr ⟨orchestratorElectionFailed, rfl⟩))
          | false =>
              refine electionsOk_retireElection h hp hhead rfl rfl rfl rfl
                (trailsOk_modify h.trails hget rfl (fun _ _ => rfl) h.trails.tagged ?_)
              intro holder' election' hwork hrun htrail
              exact ⟨⟨hrun.model, fun point heq => (by cases heq), fun point heq => (by cases heq)⟩,
                htrail⟩
  · exact h

end Steps

/-! ### Runs -/

/-- The elections, in a port whose tail and reservations are in order. -/
structure MainElectionsOk (port : ConnectionsPort) : Prop where
  portOk : PortOk port
  elections : ElectionsOk port

lemma electionsOk_step {reads : ProviderReads} (port : ConnectionsPort) (event : ConnectionsEvent)
    (hall : MainElectionsOk port) : MainElectionsOk ((connectionsMachine reads).step port event) := by
  refine ⟨portOk_step port event hall.portOk, ?_⟩
  obtain ⟨hp, h⟩ := hall
  change ElectionsOk (connectionsStep reads port event)
  cases event with
  | setModelProviderModelEnabled principal busy => exact electionsOk_startExclusive h
  | completeModelProviderApiKeyConnect principal providerId => exact electionsOk_startExclusive h
  | startModelProviderDeviceFlow principal busy => exact electionsOk_startExclusive h
  | startModelProviderDisconnect principal providerId busy => exact electionsOk_startExclusive h
  | applyOrchestratorDelegation principal => exact electionsOk_startExclusive h
  | finalizeModelProviderFlow orgId providerId now => exact electionsOk_finalizeModelProviderFlow h
  | stopDeviceFlow orgId => exact ⟨h.inFlight, h.calls, h.trails⟩
  | proceedSection n next => exact electionsOk_proceedSection h
  | answerSection n result now => exact electionsOk_answerSection h
  | takeSettlement n => exact electionsOk_takeSettlement h
  | setMainOrchestrator input => exact electionsOk_setMainOrchestrator h
  | takePreflightConfig c answer => exact electionsOk_takePreflightConfig h
  | takePreflightReadings c readings now => exact electionsOk_takePreflightReadings h
  | beginJob => exact electionsOk_beginJob h hp
  | proceedRebuild next => exact electionsOk_proceedRebuild h hp
  | answerRebuild answer => exact electionsOk_answerRebuild h hp
  | answerElection answer => exact electionsOk_answerElection h hp
  | deliver => exact electionsOk_deliver h hp
  | settleJob => exact electionsOk_settleJob h hp

lemma electionsOk_run (reads : ProviderReads) (events : List ConnectionsEvent) :
    (connectionsMachine reads).Always MainElectionsOk .new events :=
  EventMachine.always_of_invariant electionsOk_step ⟨portOk_new, electionsOk_new⟩

/-- At most one election is queued or running, and the entry is its entry; every election is
audited as requested and, once its run is over, as completed or failed, and it is completed only if
it has read a configuration that has what was elected. -/
def ElectionsHold (port : ConnectionsPort) : Prop :=
  (∀ j j' job job', port.jobs.get j = some job → port.jobs.get j' = some job' →
      job.isElection = true → job'.isElection = true → j = j') ∧
    (port.mainOrchestratorElectionInFlight.isSome = true ↔
      ∃ j job, port.jobs.get j = some job ∧ job.isElection = true) ∧
    ∀ j job holder election, port.jobs.get j = some job → job.work = .election holder election →
      (job.isElection = true → ∃ inFlight, port.mainOrchestratorElectionInFlight = some inFlight ∧
        EntryOf inFlight election.input) ∧
      ElectionTrail j election job (electionAudits port.audits j)

lemma electionsHold_of_ok {port : ConnectionsPort} (h : ElectionsOk port) : ElectionsHold port := by
  have hunique := h.inFlight
  refine ⟨?_, ?_, fun j job holder election hget hwork => ⟨fun helection => ?_,
    (h.trails.ofJob j job holder election hget hwork).2⟩⟩
  · intro j j' job job' hget hget' hjob hjob'
    cases hentry : port.mainOrchestratorElectionInFlight with
    | none =>
        rw [hentry] at hunique
        rw [hunique j job hget] at hjob
        cases hjob
    | some inFlight =>
        rw [hentry] at hunique
        obtain ⟨-, m, -, -, -, -, -, -, -, honly⟩ := hunique
        rw [honly j job hget hjob, honly j' job' hget' hjob']
  · cases hentry : port.mainOrchestratorElectionInFlight with
    | none =>
        rw [hentry] at hunique
        refine iff_of_false Bool.false_ne_true ?_
        rintro ⟨j, job, hget, hjob⟩
        rw [hunique j job hget] at hjob
        cases hjob
    | some inFlight =>
        rw [hentry] at hunique
        obtain ⟨-, j, job, -, -, hget, -, hjob, -, -⟩ := hunique
        exact iff_of_true rfl ⟨j, job, hget, hjob⟩
  · rw [isElection_of_work hwork, Bool.not_eq_true'] at helection
    obtain ⟨inFlight, hentry, hentryOf, -⟩ := entry_of_election h.inFlight hget hwork helection
    exact ⟨inFlight, hentry, hentryOf⟩

/-- What happens to the calls while an election is in flight. A call that is made is answered at
once, and nothing else changes: it succeeds if and only if it repeats the election. A call whose
preflight ends is answered or rejected, and nothing else changes: it succeeds only if it repeats the
election. -/
def AnsweredDuring (port : ConnectionsPort) (event : ConnectionsEvent) (after : ConnectionsPort) :
    Prop :=
  ∀ inFlight, port.mainOrchestratorElectionInFlight = some inFlight →
    match event with
    | .setMainOrchestrator input =>
        ∃ result, after = port.answerNewCall input result ∧
          ((∃ state, result = .ok state) ↔ repeatsElection inFlight input = true)
    | .takePreflightReadings c _ _ =>
        after = port ∨ after = port.setCallPoint c .rejected ∨
          ∃ input result, after = port.answerCall c input result ∧
            ((∃ state, result = .ok state) → repeatsElection inFlight input = true)
    | _ => True

section During

variable {port : ConnectionsPort} {inFlight : ElectionInFlight} {input : SetMainOrchestratorInput}

variable (input) in
lemma coalesce_of_inFlight (h : port.mainOrchestratorElectionInFlight = some inFlight) :
    ∃ result, port.coalesceMainOrchestratorElection input = some result ∧
      ((∃ state, result = .ok state) ↔ repeatsElection inFlight input = true) := by
  rw [coalesceMainOrchestratorElection, h, Option.map_some]
  refine ⟨_, rfl, ?_⟩
  split_ifs with hrepeats
  · exact iff_of_true ⟨_, rfl⟩ hrepeats
  · refine iff_of_false ?_ hrepeats
    rintro ⟨state, heq⟩
    cases heq

lemma answered_setMainOrchestrator (h : ElectionsOk port)
    (hentry : port.mainOrchestratorElectionInFlight = some inFlight) :
    ∃ result, port.setMainOrchestrator input = port.answerNewCall input result ∧
      ((∃ state, result = .ok state) ↔ repeatsElection inFlight input = true) := by
  obtain ⟨result, hresult, hrepeats⟩ := coalesce_of_inFlight input hentry
  by_cases hvalid : validSetMainRequestId input.requestId = true
  · refine ⟨result, ?_, hrepeats⟩
    rw [setMainOrchestrator, if_pos hvalid, hresult]
  · refine ⟨.error invalidSetMainRequestId, ?_, iff_of_false ?_ ?_⟩
    · rw [setMainOrchestrator, if_neg hvalid]
    · rintro ⟨state, heq⟩
      cases heq
    · -- The request of the election is valid, and so would be the same request of the call.
      intro hsame
      have hinFlight := h.inFlight
      rw [hentry] at hinFlight
      simp only [repeatsElection, Bool.and_eq_true, decide_eq_true_eq] at hsame
      exact hvalid (hsame.1.1 ▸ hinFlight.1)

lemma answered_takePreflightReadings {reads : ProviderReads} {c : ℕ}
    {readings : Option ElectionReadings} {now : Date}
    (hentry : port.mainOrchestratorElectionInFlight = some inFlight) :
    port.takePreflightReadings reads c readings now = port ∨
      port.takePreflightReadings reads c readings now = port.setCallPoint c .rejected ∨
      ∃ input result, port.takePreflightReadings reads c readings now =
          port.answerCall c input result ∧
        ((∃ state, result = .ok state) → repeatsElection inFlight input = true) := by
  unfold takePreflightReadings
  split
  · next input payload hget =>
      split
      · obtain ⟨result, hresult, hrepeats⟩ := coalesce_of_inFlight input hentry
        refine .inr (.inr ⟨input, ?_⟩)
        unfold takeCallPrepared
        split
        · next error _ =>
            refine ⟨.error error, rfl, ?_⟩
            rintro ⟨state, heq⟩
            cases heq
        · rw [hresult]
          exact ⟨result, rfl, hrepeats.mp⟩
      · exact .inr (.inl rfl)
  · exact .inl rfl

end During

lemma answeredDuring_step {reads : ProviderReads} (port : ConnectionsPort)
    (event : ConnectionsEvent) (h : MainElectionsOk port) :
    AnsweredDuring port event (connectionsStep reads port event) := by
  intro inFlight hentry
  cases event with
  | setMainOrchestrator input => exact answered_setMainOrchestrator h.elections hentry
  | takePreflightReadings c readings now => exact answered_takePreflightReadings hentry
  | _ => trivial

end Opzava.Provisioning
