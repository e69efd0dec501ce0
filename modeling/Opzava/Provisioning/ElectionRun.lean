import Opzava.Provisioning.OrchestratorConfig

/-!
The run of an election of the main orchestrator (`runMainOrchestratorElection` in
`provisioning/connections-provisioning-service.ts`).

* `electionStep`: the run after the answer it awaits.
* `Confirmed`: a configuration was read that already had what was elected.
* `ElectionRun.ok_step`: a run that returns a state has read it.
-/

namespace Opzava.Provisioning

open Opzava.Library
open DevBoard (DomainError)

/-! ### The run -/

def mainOrchestratorElectionMaxAttempts : ℕ := 3

def orchestratorReconcileMaxAttempts : ℕ := 3

def orchestratorReconcileMaxWaitMs : ℕ := 150000

def orchestratorReconcileRateLimitMarginMs : ℕ := 1000

/-- What an election awaits, or what it has returned. A configuration, the readings, the canary, a
write, the delay of a refused write, and the configuration once more. -/
inductive ElectionPoint
  | config (attempt : ℕ)
  | readings (attempt : ℕ) (configGetPayload : Json)
  | canary (attempt : ℕ) (prepared : PreparedMainOrchestratorElection)
  | patch (attempt : ℕ) (prepared : PreparedMainOrchestratorElection) (tries waitedMs : ℕ)
  | rateLimit (attempt : ℕ) (prepared : PreparedMainOrchestratorElection) (tries waitedMs : ℕ)
  | readback (attempt : ℕ) (prepared : PreparedMainOrchestratorElection)
      (patched : Except DomainError Unit)
  | returned (result : Answer OrchestratorDelegationState)

/-- The verdict of `probeModelRunnable`. -/
inductive ModelVerdict
  | runnable
  | unproven
  | unrunnable (reason : String)

/-- An answer for an election; the readings are missing when one of them throws. -/
inductive ElectionAnswer
  | config (answer : Answer Json)
  | readings (readings : Option ElectionReadings) (now : Date)
  | canary (answer : Answer ModelVerdict)
  | patch (answer : Answer Unit)
  | slept
  | readback (answer : Answer Json)

/-- An election: its input, the model it elects and what is shown of it while it runs. -/
structure ElectionJob where
  input : SetMainOrchestratorInput
  tracking : ElectionTracking

/-- A run: what it awaits, the configurations it has read, and what is shown. -/
structure ElectionRun where
  point : ElectionPoint
  reads : List Json
  reconcile : OrchestratorReconcileState

/-- The text in which errors are recognised. -/
def errorText (error : DomainError) : String := (error.code ++ " " ++ error.message).toLower

/-- `text.includes(part)`. -/
def includes (text part : String) : Bool := decide (part.toList <:+: text.toList)

def staleConfigBaseHashError (error : DomainError) : Bool :=
  let text := errorText error
  includes text "stalebasehash" ||
    (includes text "basehash" && (includes text "stale" || includes text "mismatch" ||
      includes text "changed" || includes text "conflict" || includes text "rejected"))

/-- `closedBeforeResponseError` or `disconnectPostCheckTransient`. -/
def ambiguousConfigPatchOutcome (error : DomainError) : Bool :=
  let text := errorText error
  (includes text "config.patch" && includes text "closed before a response") ||
    includes text "operatorwshandshakefailed" || includes text "requesttimeout" ||
    includes text "closed before" || includes text "connection closed" ||
    includes text "socket closed" || includes text "service restart" ||
    includes text "econnrefused" || includes text "circuitopen"

def modelNotRunnableByGateway (model reason : String) : DomainError :=
  ⟨"provisioning.connections.modelNotRunnableByGateway",
    "The gateway's bundled runtime cannot run " ++ model ++ ": " ++ reason ++
      " Choose another model or update the gateway runtime before retrying."⟩

def electionConfigConflict : DomainError :=
  ⟨"provisioning.connections.configConflict",
    "Gateway config changed repeatedly while electing the main orchestrator."⟩

def orchestratorElectionVerifyFailed : DomainError :=
  ⟨"provisioning.connections.orchestratorElectionVerifyFailed",
    "Gateway config did not retain the requested main orchestrator after reload."⟩

/-- The end of an attempt whose configuration was not read back. -/
def afterReadback (attempt : ℕ) : Except DomainError Unit → ElectionPoint
  | .error error =>
      if staleConfigBaseHashError error then
        if attempt < mainOrchestratorElectionMaxAttempts then .config (attempt + 1)
        else .returned (.err electionConfigConflict)
      else if ambiguousConfigPatchOutcome error then
        .returned (.err orchestratorElectionVerifyFailed)
      else .returned (.err error)
  | .ok _ => .returned (.err orchestratorElectionVerifyFailed)

/-- A refused write is tried again after the delay the gateway asks for. -/
def afterPatch (reads : ProviderReads) (attempt : ℕ) (prepared : PreparedMainOrchestratorElection)
    (tries waitedMs : ℕ) (error : DomainError) : ElectionPoint :=
  match reads.rateLimitRetryAfterMs error with
  | some retryAfterMs =>
      let waited := waitedMs + (retryAfterMs + orchestratorReconcileRateLimitMarginMs)
      if tries < orchestratorReconcileMaxAttempts ∧ waited ≤ orchestratorReconcileMaxWaitMs then
        .rateLimit attempt prepared tries waited
      else .readback attempt prepared (.error error)
  | none => .readback attempt prepared (.error error)

/-- `orchestratorConfigIsCurrent` of a configuration that was read. -/
def payloadIsCurrent (payload : Json) (model : String) (subagents : List OrchestratorSubagentRole) :
    Bool :=
  orchestratorConfigIsCurrent (configPayload payload) model
    (gatewayPrimaryModel (configPayload payload)) subagents

namespace ElectionRun

/-- The run returns. -/
def returns (run : ElectionRun) (result : Answer OrchestratorDelegationState) : ElectionRun :=
  { run with point := .returned result }

def takeConfig (run : ElectionRun) (answer : Answer Json) : ElectionRun :=
  match run.point, answer with
  | .config attempt, .ok payload =>
      { run with point := .readings attempt payload, reads := run.reads ++ [payload] }
  | .config _, .err error => run.returns (.err error)
  | .config _, .threw => run.returns .threw
  | _, _ => run

/-- `prepareMainOrchestratorElection` in the run: it returns, or goes on with the canary. -/
def takePrepared (job : ElectionJob) (run : ElectionRun) (attempt : ℕ) :
    Except DomainError PreparedMainOrchestratorElection → ElectionRun
  | .error error => run.returns (.err error)
  | .ok prepared =>
      if prepared.alreadyCurrent then run.returns (.ok prepared.desiredState)
      else
        { run with
          point := .canary attempt prepared
          reconcile := .electing { job.tracking with phase := .verifying } }

def takeReadings (reads : ProviderReads) (job : ElectionJob) (run : ElectionRun)
    (readings : Option ElectionReadings) (now : Date) : ElectionRun :=
  match run.point, readings with
  | .readings attempt payload, some readings =>
      takePrepared job run attempt (prepareMainOrchestratorElection reads job.input.providerId
        (some job.tracking.model) payload readings run.reconcile now)
  | .readings _ _, none => run.returns .threw
  | _, _ => run

/-- `gateOrchestratorModel`: only a model that cannot run is refused. -/
def takeCanary (job : ElectionJob) (run : ElectionRun) (answer : Answer ModelVerdict) :
    ElectionRun :=
  match run.point, answer with
  | .canary _ _, .ok (.unrunnable reason) =>
      run.returns (.err (modelNotRunnableByGateway job.tracking.model reason))
  | .canary _ _, .threw => run.returns .threw
  | .canary attempt prepared, _ =>
      { run with
        point := .patch attempt prepared 1 0
        reconcile := .electing { job.tracking with phase := .committing } }
  | _, _ => run

/-- `patchOrchestratorConfig`. -/
def takePatch (reads : ProviderReads) (run : ElectionRun) (answer : Answer Unit) : ElectionRun :=
  match run.point, answer with
  | .patch attempt prepared _ _, .ok _ =>
      { run with point := .readback attempt prepared (.ok ()) }
  | .patch attempt prepared tries waitedMs, .err error =>
      { run with point := afterPatch reads attempt prepared tries waitedMs error }
  | .patch _ _ _ _, .threw => run.returns .threw
  | _, _ => run

/-- The delay of a refused write has passed. -/
def wake (run : ElectionRun) : ElectionRun :=
  match run.point with
  | .rateLimit attempt prepared tries waitedMs =>
      { run with point := .patch attempt prepared (tries + 1) waitedMs }
  | _ => run

def takeReadback (job : ElectionJob) (run : ElectionRun) (answer : Answer Json) : ElectionRun :=
  match run.point, answer with
  | .readback attempt prepared patched, .ok payload =>
      if payloadIsCurrent payload job.tracking.model prepared.desiredState.subagents then
        { run with
          point := .returned (.ok prepared.desiredState), reads := run.reads ++ [payload] }
      else { run with point := afterReadback attempt patched, reads := run.reads ++ [payload] }
  | .readback attempt _ patched, .err _ => { run with point := afterReadback attempt patched }
  | .readback _ _ _, .threw => run.returns .threw
  | _, _ => run

end ElectionRun

/-- `runMainOrchestratorElection`, with the answer it awaits. -/
def electionStep (reads : ProviderReads) (job : ElectionJob) (run : ElectionRun) :
    ElectionAnswer → ElectionRun
  | .config answer => run.takeConfig answer
  | .readings readings now => .takeReadings reads job run readings now
  | .canary answer => .takeCanary job run answer
  | .patch answer => .takePatch reads run answer
  | .slept => run.wake
  | .readback answer => .takeReadback job run answer

/-! ### What has been read -/

/-- The model of an election, as its run selects it. -/
def electedModel (job : ElectionJob) : String := String.ofList (jsTrim job.tracking.model.toList)

/-- A configuration was read that has the elected model and the owned agents of the state. -/
def Confirmed (job : ElectionJob) (reads : List Json) (state : OrchestratorDelegationState) :
    Prop :=
  state.orchestratorModel = some (electedModel job) ∧
    ∃ payload ∈ reads, payloadIsCurrent payload (electedModel job) state.subagents = true

/-- The model is named as `providerModelRef` names models. -/
def isModelRef (model : String) : Prop := '/' ∈ model.toList

/-- What was prepared for a job: the state it is to reach has the elected model. -/
def PreparedFor (job : ElectionJob) (prepared : PreparedMainOrchestratorElection) : Prop :=
  prepared.desiredState.orchestratorModel = some (electedModel job)

/-- A run has read what it works with. -/
def ElectionPointOk (job : ElectionJob) (reads : List Json) : ElectionPoint → Prop
  | .config _ => True
  | .readings _ payload => payload ∈ reads
  | .canary _ prepared | .patch _ prepared _ _ | .rateLimit _ prepared _ _
  | .readback _ prepared _ => PreparedFor job prepared
  | .returned (.ok state) => Confirmed job reads state
  | .returned _ => True

lemma isModelRef_providerModelRef (providerId modelId : String) :
    isModelRef (providerModelRef providerId modelId) := by
  unfold providerModelRef isModelRef
  split_ifs with h
  · exact h
  · simp

lemma mem_jsTrim_of_mem {cs : List Char} {c : Char} (hc : isJsSpace c = false) (h : c ∈ cs) :
    c ∈ jsTrim cs := by
  have hdrop : ∀ {l : List Char}, c ∈ l → c ∈ l.dropWhile isJsSpace := by
    intro l hl
    rw [← List.takeWhile_append_dropWhile (p := isJsSpace) (l := l), List.mem_append] at hl
    rcases hl with hspace | hrest
    · have hspace' := List.mem_takeWhile_imp hspace
      rw [hc] at hspace'
      exact absurd hspace' Bool.false_ne_true
    · exact hrest
  unfold jsTrim
  exact List.mem_reverse.mpr (hdrop (List.mem_reverse.mpr (hdrop h)))

/-- A model that names its provider is elected under its trimmed name. -/
lemma electionModel_of_isModelRef {providerId model elected : String} {derived : Option String}
    {provider : Option ModelProviderCatalogEntry} (hmodel : isModelRef model)
    (h : electionModel providerId (some model) derived provider = .ok elected) :
    elected = String.ofList (jsTrim model.toList) := by
  have hslash : '/' ∈ jsTrim model.toList := mem_jsTrim_of_mem (by decide) hmodel
  have hne : String.ofList (jsTrim model.toList) ≠ "" := by
    intro heq
    have hnil := congrArg String.toList heq
    rw [String.toList_ofList] at hnil
    rw [hnil] at hslash
    cases hslash
  unfold electionModel at h
  simp only [Option.map_some, Option.filter_some, hne, ne_eq, not_false_eq_true,
    decide_true, if_true] at h
  split_ifs at h with hknown
  rw [← Except.ok.inj h, providerModelRef, if_pos (by rwa [String.toList_ofList])]

lemma preparedFor_of_prepare {reads : ProviderReads} {job : ElectionJob} {payload : Json}
    {readings : ElectionReadings} {reconcile : OrchestratorReconcileState} {now : Date}
    {prepared : PreparedMainOrchestratorElection} (hmodel : isModelRef job.tracking.model)
    (h : prepareMainOrchestratorElection reads job.input.providerId (some job.tracking.model)
      payload readings reconcile now = .ok prepared) :
    PreparedFor job prepared ∧ (prepared.alreadyCurrent = true → ∀ payloads, payload ∈ payloads →
      Confirmed job payloads prepared.desiredState) := by
  unfold prepareMainOrchestratorElection at h
  simp only at h
  split_ifs at h with hconnected
  split at h
  · exact absurd h (by simp)
  · next elected helected =>
      split at h
      · exact absurd h (by simp)
      · next canonical hcanonical =>
          split at h
          · exact absurd h (by simp)
          · next patchParams hpatch =>
              obtain rfl := Except.ok.inj h
              have heq := electionModel_of_isModelRef hmodel helected
              refine ⟨congrArg some heq, fun hcurrent payloads hmem => ?_⟩
              exact ⟨congrArg some heq, payload, hmem, heq ▸ hcurrent⟩

/-- The primary model that is read is trimmed. -/
lemma trimmed_of_primary {config : JsonFields} {model : String}
    (h : gatewayPrimaryModel config = some model) : String.ofList (jsTrim model.toList) = model := by
  have hstring : ∀ {value : Option Json}, stringValue value = some model →
      String.ofList (jsTrim model.toList) = model := by
    intro value hvalue
    unfold stringValue at hvalue
    split at hvalue
    · simp only at hvalue
      split_ifs at hvalue with hblank
      rw [← Option.some.inj hvalue, String.toList_ofList, jsTrim_jsTrim]
    · exact absurd hvalue (by simp)
  unfold gatewayPrimaryModel modelSelectorPrimary at h
  split at h
  · exact hstring h
  · exact hstring h
  · exact absurd h (by simp)

lemma primary_of_current {config : JsonFields} {model : String} {primary : Option String}
    {subagents : List OrchestratorSubagentRole}
    (h : orchestratorConfigIsCurrent config model primary subagents = true) :
    primary = some model := by
  unfold orchestratorConfigIsCurrent at h
  split_ifs at h with hprimary
  exact (not_not.mp hprimary).symm

lemma confirmed_of_readback {job : ElectionJob} {prepared : PreparedMainOrchestratorElection}
    {payload : Json} {reads : List Json} (hprepared : PreparedFor job prepared)
    (h : payloadIsCurrent payload job.tracking.model prepared.desiredState.subagents = true) :
    Confirmed job (reads ++ [payload]) prepared.desiredState := by
  have htrimmed : electedModel job = job.tracking.model :=
    trimmed_of_primary (primary_of_current h)
  exact ⟨hprepared, payload, by simp, htrimmed.symm ▸ h⟩

lemma electionPointOk_afterReadback {job : ElectionJob} {reads : List Json} {attempt : ℕ}
    {patched : Except DomainError Unit} :
    ElectionPointOk job reads (afterReadback attempt patched) := by
  unfold afterReadback
  split
  · split_ifs <;> trivial
  · trivial

lemma electionPointOk_afterPatch {reads : ProviderReads} {job : ElectionJob} {payloads : List Json}
    {attempt tries waitedMs : ℕ} {prepared : PreparedMainOrchestratorElection} {error : DomainError}
    (h : PreparedFor job prepared) :
    ElectionPointOk job payloads (afterPatch reads attempt prepared tries waitedMs error) := by
  unfold afterPatch
  split
  · simp only
    split_ifs
    · exact h
    · exact h
  · exact h

/-- The run has read what it works with. -/
def ElectionRun.Ok (job : ElectionJob) (run : ElectionRun) : Prop :=
  ElectionPointOk job run.reads run.point

namespace ElectionRun

variable {reads : ProviderReads} {job : ElectionJob} {run : ElectionRun}

lemma ok_takeConfig (answer : Answer Json) (h : run.Ok job) : (run.takeConfig answer).Ok job := by
  unfold takeConfig
  split
  · exact List.mem_append_right _ List.mem_cons_self
  · trivial
  · trivial
  · exact h

lemma ok_takePrepared {attempt : ℕ} {prepared : PreparedMainOrchestratorElection}
    (hprepared : PreparedFor job prepared)
    (hcurrent : prepared.alreadyCurrent = true → Confirmed job run.reads prepared.desiredState) :
    (takePrepared job run attempt (.ok prepared)).Ok job := by
  rw [takePrepared]
  split_ifs with halready
  · exact hcurrent halready
  · exact hprepared

lemma ok_takeReadings (readings : Option ElectionReadings) (now : Date)
    (hmodel : isModelRef job.tracking.model) (h : run.Ok job) :
    (takeReadings reads job run readings now).Ok job := by
  unfold takeReadings
  split
  · next attempt payload readings hpoint =>
      have hread : payload ∈ run.reads := by rwa [Ok, hpoint] at h
      cases hprepare : prepareMainOrchestratorElection reads job.input.providerId
        (some job.tracking.model) payload readings run.reconcile now with
      | error error => trivial
      | ok prepared =>
          obtain ⟨hprepared, hcurrent⟩ := preparedFor_of_prepare hmodel hprepare
          exact ok_takePrepared hprepared fun halready => hcurrent halready run.reads hread
  · trivial
  · exact h

lemma ok_takeCanary (answer : Answer ModelVerdict) (h : run.Ok job) :
    (takeCanary job run answer).Ok job := by
  unfold takeCanary
  split
  · trivial
  · trivial
  · next attempt prepared hpoint _ _ =>
      have hprepared : PreparedFor job prepared := by rwa [Ok, hpoint] at h
      exact hprepared
  · exact h

lemma ok_takePatch (answer : Answer Unit) (h : run.Ok job) :
    (takePatch reads run answer).Ok job := by
  unfold takePatch
  split
  · next attempt prepared _ _ _ hpoint =>
      have hprepared : PreparedFor job prepared := by rwa [Ok, hpoint] at h
      exact hprepared
  · next attempt prepared _ _ _ hpoint =>
      have hprepared : PreparedFor job prepared := by rwa [Ok, hpoint] at h
      exact electionPointOk_afterPatch hprepared
  · trivial
  · exact h

lemma ok_wake (h : run.Ok job) : run.wake.Ok job := by
  unfold wake
  split
  · next attempt prepared _ _ hpoint =>
      have hprepared : PreparedFor job prepared := by rwa [Ok, hpoint] at h
      exact hprepared
  · exact h

lemma ok_takeReadback (answer : Answer Json) (h : run.Ok job) :
    (takeReadback job run answer).Ok job := by
  unfold takeReadback
  split
  · next attempt prepared _ payload hpoint =>
      have hprepared : PreparedFor job prepared := by rwa [Ok, hpoint] at h
      split_ifs with hcurrent
      · exact confirmed_of_readback hprepared hcurrent
      · exact electionPointOk_afterReadback
  · exact electionPointOk_afterReadback
  · trivial
  · exact h

/-- An answer keeps what a run has read. -/
lemma ok_step (answer : ElectionAnswer) (hmodel : isModelRef job.tracking.model)
    (h : run.Ok job) : (electionStep reads job run answer).Ok job := by
  cases answer with
  | config answer => exact ok_takeConfig answer h
  | readings readings now => exact ok_takeReadings readings now hmodel h
  | canary answer => exact ok_takeCanary answer h
  | patch answer => exact ok_takePatch answer h
  | slept => exact ok_wake h
  | readback answer => exact ok_takeReadback answer h

end ElectionRun

end Opzava.Provisioning
