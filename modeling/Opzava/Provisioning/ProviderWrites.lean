import Opzava.Library.EventMachine
import Opzava.Library.Objects
import Opzava.Library.OrderedMap
import Opzava.Provisioning.ElectionRun

/-!
The writes of the provisioning port to the gateway (`GatewayAdminConnectionsProvisioningPort` in
`provisioning/connections-provisioning-service.ts`): the reservations of the organizations, the
tail of the rebuilds of the orchestrator, and the elections.

Between the awaits named here a section changes nothing that the others see; which of the awaits
comes next depends on the answers, and is taken from the event.

* `ProviderSection`, `endSection`, `takeSettlement`: the sections that hold a reservation.
* `enqueueOrchestratorWork`, `beginJob`, `settleJob`: the tail.
* `setMainOrchestrator`, `takePreflightReadings`, `deliver`: the elections.
* `connectionsMachine`: the port under all of them.
-/

namespace Opzava.Provisioning

open Opzava.Library
open DevBoard (DomainError)

/-! ### Sections -/

/-- What holds the reservation of an organization. -/
inductive ProviderSectionKind
  | modelToggle
  | credentialWrite (providerId : String)
  | deviceFlowStart
  | disconnect (providerId : String)
  | delegation
  | election
  | finalization
  | deviceStop
  deriving DecidableEq

/-- The kinds that take the reservation only when nobody holds it. -/
def ProviderSectionKind.isExclusive : ProviderSectionKind → Bool
  | .finalization | .deviceStop => false
  | _ => true

/-- The awaits of `reconcileOrchestrator`; `patch` and `rateLimit` are those of
`patchOrchestratorConfig`. -/
inductive RebuildAwait
  | config
  | readings
  | canary
  | patch (tries : ℕ)
  | rateLimit (tries : ℕ)
  deriving DecidableEq

/-- How the last request of a section, or of a rebuild, came out. -/
inductive SectionResult
  | ok
  | err
  | threw
  deriving DecidableEq

/-- The awaits that can come after one, while the rebuild goes on. -/
def RebuildAwait.follows : RebuildAwait → RebuildAwait → Bool
  | .config, .readings => true
  | .readings, .canary => true
  | .canary, .patch tries => tries = 1
  | .patch tries, .rateLimit tries' => tries' = tries && tries < orchestratorReconcileMaxAttempts
  | .rateLimit tries, .patch tries' => tries' = tries + 1
  | _, _ => false

/-- How a rebuild can end with an answer: the canary can only refuse the model, and a delay is
followed by another write. -/
def RebuildAwait.endsWith : RebuildAwait → SectionResult → Bool
  | .canary, .ok => false
  | .rateLimit _, _ => false
  | _, _ => true

/-- The awaits of the sections: of `setModelProviderModelEnabledInner`,
`writeAndProveProviderCredential`, `startModelProviderDeviceFlowInner`,
`runModelProviderDisconnect`, `applyOrchestratorDelegationInner`, `cleanupDeviceFlow` and
`finalizeModelProviderFlow`. A job of the tail is awaited until it has settled. -/
inductive SectionAwait
  | toggleReads (attempt : ℕ)
  | togglePatch (attempt : ℕ)
  | toggleGatewayReady
  | togglePostCheck
  | toggleRefresh
  | credentialConfig
  | credentialPatch
  | credentialOnboard
  | credentialShared
  | credentialPostCheck
  | credentialResolvable
  | credentialProbe
  | credentialRollback
  | flowConfig
  | flowSharedAgent
  | flowCleanup
  | flowLogin
  | flowPoll (attempt : ℕ)
  | flowSleep (attempt : ℕ)
  | flowStop
  | disconnectProvider
  | rebuild (point : RebuildAwait)
  | cancelLogin
  | settlement (job : ℕ)
  | finalCleanup
  deriving DecidableEq

def modelToggleMaxMutationAttempts : ℕ := 3

def deviceFlowStartMaxAttempts : ℕ := 4

/-- The awaits that can come after one, while the section goes on. -/
def SectionAwait.follows : SectionAwait → SectionAwait → Bool
  | .toggleReads attempt, .togglePatch attempt' => attempt' = attempt
  | .togglePatch attempt, .toggleReads attempt' =>
      attempt' = attempt + 1 && attempt < modelToggleMaxMutationAttempts
  | .togglePatch _, .toggleGatewayReady => true
  | .toggleGatewayReady, .togglePostCheck => true
  | .togglePostCheck, .toggleRefresh => true
  | .credentialConfig, .credentialPatch => true
  | .credentialConfig, .credentialOnboard => true
  | .credentialPatch, .credentialOnboard => true
  | .credentialOnboard, .credentialShared => true
  | .credentialShared, .credentialPostCheck => true
  | .credentialPostCheck, .credentialResolvable => true
  | .credentialResolvable, .credentialProbe => true
  | .credentialProbe, .credentialRollback => true
  | .flowConfig, .flowSharedAgent => true
  | .flowConfig, .flowCleanup => true
  | .flowSharedAgent, .flowCleanup => true
  | .flowCleanup, .flowLogin => true
  | .flowLogin, .flowPoll attempt => attempt = 0
  | .flowPoll attempt, .flowSleep attempt' => attempt' = attempt
  | .flowPoll _, .flowStop => true
  | .flowSleep attempt, .flowPoll attempt' =>
      attempt' = attempt + 1 && attempt + 1 < deviceFlowStartMaxAttempts
  | .rebuild point, .rebuild point' => point.follows point'
  | _, _ => false

/-- How a section can end with an answer. -/
def SectionAwait.endsWith : SectionAwait → SectionResult → Bool
  | .rebuild point, result => point.endsWith result
  | .settlement _, _ => false
  | .flowSleep attempt, result => attempt + 1 = deviceFlowStartMaxAttempts && result ≠ .threw
  | .flowCleanup, .err => false
  | .toggleReads _, .ok => true
  | .togglePostCheck, .ok => true
  | .toggleRefresh, .ok => true
  | .credentialProbe, .ok => true
  | .credentialRollback, .ok => true
  | .flowPoll _, .ok => true
  | .disconnectProvider, .ok => true
  | .cancelLogin, .ok => true
  | .finalCleanup, .ok => true
  | _, .ok => false
  | _, _ => true

/-- A section; it has ended when it awaits nothing any more. -/
structure ProviderSection where
  kind : ProviderSectionKind
  key : String
  await : Option SectionAwait

namespace ProviderSection

/-- The section is open, with the reservation of this key. -/
def holds (key : String) (entry : ProviderSection) : Bool :=
  entry.await.isSome && entry.key = key

def holdsExclusively (key : String) (entry : ProviderSection) : Bool :=
  entry.holds key && entry.kind.isExclusive

end ProviderSection

/-! ### The tail and the elections -/

/-- The work of a job, with the section that waits for it: a rebuild after a change of a
credential, or an election. -/
inductive OrchestratorWork
  | reconcile (holder : Option ℕ) (reason : CredentialChange) (providerId : String)
      (startedAt : Date)
  | election (holder : ℕ) (job : ElectionJob)

namespace OrchestratorWork

def holder : OrchestratorWork → Option ℕ
  | .reconcile holder _ _ _ => holder
  | .election holder _ => some holder

/-- What is shown while the work is under way. -/
def tracking : OrchestratorWork → OrchestratorReconcileState
  | .reconcile _ reason providerId startedAt => .running reason providerId startedAt
  | .election _ job => .electing job.tracking

end OrchestratorWork

/-- A job waits for its turn, runs, has finished its run, or has settled. -/
inductive JobPoint
  | waiting
  | rebuilding (point : RebuildAwait)
  | electing (point : ElectionPoint)
  | finished (threw : Bool)
  | settled

/-- A job of the tail, with the configurations that its election has read. -/
structure OrchestratorJob where
  work : OrchestratorWork
  point : JobPoint
  reads : List Json

/-- `mainOrchestratorElectionInFlight`. -/
structure ElectionInFlight where
  requestId : String
  providerId : String
  model : String
  requestedModel : Option String
  acceptedState : OrchestratorDelegationState

/-- A call of `setMainOrchestrator` awaits the configuration or the readings of its preflight, or
is answered. -/
inductive SetMainPoint
  | config
  | readings (configGetPayload : Json)
  | answered (result : Except DomainError OrchestratorDelegationState)
  | rejected

structure SetMainCall where
  input : SetMainOrchestratorInput
  point : SetMainPoint

inductive ElectionTransition
  | requested
  | completed
  | failed
  deriving DecidableEq

/-- An audit event with the intent `orchestrator_set`; those of an accepted election are marked
with its job. -/
structure ElectionAudit where
  election : Option ℕ
  input : SetMainOrchestratorInput
  transition : ElectionTransition
  resultCode : Option String
  resultMessage : Option String
  snapshot : Option OrchestratorDelegationState

/-- The port: `providerCredentialWrites` with the sections that were opened, the tail of the
rebuilds, `mainOrchestratorElectionInFlight`, and the calls of `setMainOrchestrator`. -/
structure ConnectionsPort where
  providerCredentialWrites : OrderedMap String ℕ
  sections : Objects ProviderSection
  jobs : Objects OrchestratorJob
  tail : List ℕ
  orchestratorReconcileState : OrchestratorReconcileState
  orchestratorReconcileQueued : ℕ
  mainOrchestratorElectionInFlight : Option ElectionInFlight
  setMainCalls : Objects SetMainCall
  audits : List ElectionAudit

namespace ConnectionsPort

def new : ConnectionsPort where
  providerCredentialWrites := .empty
  sections := .empty
  jobs := .empty
  tail := []
  orchestratorReconcileState := .idle
  orchestratorReconcileQueued := 0
  mainOrchestratorElectionInFlight := none
  setMainCalls := .empty
  audits := []

/-! ### Reservations -/

/-- The counter of a key. -/
def writes (port : ConnectionsPort) (key : String) : ℕ :=
  (port.providerCredentialWrites.get key).getD 0

def acquireProviderWrite (port : ConnectionsPort) (key : String) : ConnectionsPort :=
  { port with
    providerCredentialWrites := port.providerCredentialWrites.set key (port.writes key + 1) }

def releaseProviderWrite (port : ConnectionsPort) (key : String) : ConnectionsPort :=
  if port.writes key ≤ 1 then
    { port with providerCredentialWrites := port.providerCredentialWrites.delete key }
  else
    { port with
      providerCredentialWrites := port.providerCredentialWrites.set key (port.writes key - 1) }

def providerWriteReserved (port : ConnectionsPort) (key : String) : Bool := 0 < port.writes key

def openSection (port : ConnectionsPort) (kind : ProviderSectionKind) (key : String)
    (await : SectionAwait) : ConnectionsPort :=
  { port.acquireProviderWrite key with sections := port.sections.add ⟨kind, key, some await⟩ }

/-- A section goes on to its next await. -/
def awaitNext (port : ConnectionsPort) (n : ℕ) (await : SectionAwait) : ConnectionsPort :=
  { port with
    sections := port.sections.modify n fun entry => { entry with await := some await } }

/-- A section releases the reservation, and has ended. -/
def closeSection (port : ConnectionsPort) (n : ℕ) (key : String) : ConnectionsPort :=
  { port.releaseProviderWrite key with
    sections := port.sections.modify n fun entry => { entry with await := none } }

/-! ### The tail -/

/-- `enqueueOrchestratorWork`. -/
def enqueueOrchestratorWork (port : ConnectionsPort) (work : OrchestratorWork) :
    ConnectionsPort :=
  { port with
    orchestratorReconcileQueued := port.orchestratorReconcileQueued + 1
    orchestratorReconcileState :=
      if port.orchestratorReconcileQueued = 0 && !port.orchestratorReconcileState.isFailed then
        work.tracking
      else port.orchestratorReconcileState
    jobs := port.jobs.add ⟨work, .waiting, []⟩
    tail := port.tail ++ [port.jobs.next] }

/-- The first job of the tail that has not settled. -/
def head (port : ConnectionsPort) : Option (ℕ × OrchestratorJob) :=
  port.tail.head?.bind fun j => (port.jobs.get j).map (j, ·)

def setPoint (port : ConnectionsPort) (j : ℕ) (point : JobPoint) : ConnectionsPort :=
  { port with jobs := port.jobs.modify j fun job => { job with point := point } }

/-- Where the run of a job begins. -/
def firstPoint : OrchestratorWork → JobPoint
  | .reconcile .. => .rebuilding .config
  | .election .. => .electing (.config 1)

/-- A job has its turn. -/
def beginJob (port : ConnectionsPort) : ConnectionsPort :=
  match port.head with
  | some (j, ⟨work, .waiting, _⟩) =>
      { port.setPoint j (firstPoint work) with
        orchestratorReconcileState :=
          if port.orchestratorReconcileState.isFailed then port.orchestratorReconcileState
          else work.tracking }
  | _ => port

/-! ### Sections that test the reservation -/

/-- A section that opens when nobody holds the reservation, nor is the provider busy otherwise. -/
def startExclusive (port : ConnectionsPort) (kind : ProviderSectionKind) (orgId : String)
    (busy : Bool) (await : SectionAwait) : ConnectionsPort :=
  if busy || port.providerWriteReserved (configWriteKey orgId) then port
  else port.openSection kind (configWriteKey orgId) await

/-- `setModelProviderModelEnabledInner`; the provider is busy with a pending connect or a device
flow. -/
def setModelProviderModelEnabled (port : ConnectionsPort)
    (principal : ConnectionProvisioningPrincipal) (busy : Bool) : ConnectionsPort :=
  port.startExclusive .modelToggle principal.orgId busy (.toggleReads 1)

/-- `completeModelProviderApiKeyConnect`. -/
def completeModelProviderApiKeyConnect (port : ConnectionsPort)
    (principal : ConnectionProvisioningPrincipal) (providerId : String) : ConnectionsPort :=
  port.startExclusive (.credentialWrite providerId) principal.orgId false .credentialConfig

/-- `startModelProviderDeviceFlowInner` with its auth choices; the provider is busy with a pending
connect. -/
def startModelProviderDeviceFlow (port : ConnectionsPort)
    (principal : ConnectionProvisioningPrincipal) (busy : Bool) : ConnectionsPort :=
  port.startExclusive .deviceFlowStart principal.orgId busy .flowConfig

/-- `startModelProviderDisconnectInner`; the provider is busy with a pending connect or a device
flow. -/
def startModelProviderDisconnect (port : ConnectionsPort)
    (principal : ConnectionProvisioningPrincipal) (providerId : String) (busy : Bool) :
    ConnectionsPort :=
  port.startExclusive (.disconnect providerId) principal.orgId busy .disconnectProvider

/-- `applyOrchestratorDelegationInner`. -/
def applyOrchestratorDelegation (port : ConnectionsPort)
    (principal : ConnectionProvisioningPrincipal) : ConnectionsPort :=
  port.startExclusive .delegation principal.orgId false (.rebuild .config)

/-! ### Sections that do not -/

/-- `finalizeModelProviderFlow`. -/
def finalizeModelProviderFlow (port : ConnectionsPort) (orgId providerId : String) (now : Date) :
    ConnectionsPort :=
  (port.openSection .finalization (configWriteKey orgId)
    (.settlement port.jobs.next)).enqueueOrchestratorWork
      (.reconcile (some port.sections.next) .connect providerId now)

/-- `cleanupDeviceFlow`, where it stops a login. -/
def stopDeviceFlow (port : ConnectionsPort) (orgId : String) : ConnectionsPort :=
  port.openSection .deviceStop (configWriteKey orgId) .cancelLogin

/-! ### The answers to sections -/

/-- The answer lets the section go on. -/
def proceedSection (port : ConnectionsPort) (n : ℕ) (next : SectionAwait) : ConnectionsPort :=
  match port.sections.get n with
  | some ⟨_, _, some await⟩ => if await.follows next then port.awaitNext n next else port
  | _ => port

/-- The end of a section. A proven credential is followed by a rebuild that is awaited; a removed
one, and a disconnected provider, by one that is not. -/
def endSection (port : ConnectionsPort) (n : ℕ) (kind : ProviderSectionKind) (key : String)
    (await : SectionAwait) (result : SectionResult) (now : Date) : ConnectionsPort :=
  match await, kind, result with
  | .credentialProbe, .credentialWrite providerId, .ok =>
      (port.awaitNext n (.settlement port.jobs.next)).enqueueOrchestratorWork
        (.reconcile (some n) .connect providerId now)
  | .credentialRollback, .credentialWrite providerId, .ok =>
      (port.enqueueOrchestratorWork (.reconcile none .disconnect providerId now)).closeSection n key
  | .disconnectProvider, .disconnect providerId, .ok =>
      (port.enqueueOrchestratorWork (.reconcile none .disconnect providerId now)).closeSection n key
  | .rebuild _, _, .ok => { port.closeSection n key with orchestratorReconcileState := .idle }
  | _, _, _ => port.closeSection n key

/-- A section with its last answer. -/
def answerSection (port : ConnectionsPort) (n : ℕ) (result : SectionResult) (now : Date) :
    ConnectionsPort :=
  match port.sections.get n with
  | some ⟨kind, key, some await⟩ =>
      if await.endsWith result then port.endSection n kind key await result now else port
  | _ => port

/-- The job has settled. -/
def isSettled (port : ConnectionsPort) (j : ℕ) : Bool :=
  match port.jobs.get j with
  | some ⟨_, .settled, _⟩ => true
  | _ => false

/-- A section after the job it awaits. -/
def takeSettlement (port : ConnectionsPort) (n : ℕ) : ConnectionsPort :=
  match port.sections.get n with
  | some ⟨kind, key, some (.settlement j)⟩ =>
      if port.isSettled j then
        match kind with
        | .finalization => port.awaitNext n .finalCleanup
        | _ => port.closeSection n key
      else port
  | _ => port

/-! ### Audits and answers of elections -/

def setMainRequestIdMaxLength : ℕ := 128

def validSetMainRequestId (value : String) : Bool :=
  jsTrim value.toList = value.toList && 0 < jsLength value &&
    jsLength value ≤ setMainRequestIdMaxLength

def invalidSetMainRequestId : DomainError :=
  ⟨"provisioning.connections.invalidSetMainRequestId",
    "requestId must contain between 1 and 128 characters."⟩

def providerConnectInFlightError (providerId : String) : DomainError :=
  ⟨"provisioning.connections.providerConnectInFlight",
    "A connect for " ++ providerId ++
      " is already running. Wait for it to finish before starting another."⟩

def orchestratorElectionInFlight : DomainError :=
  ⟨"provisioning.connections.orchestratorElectionInFlight",
    "Another main orchestrator election is already running. Wait for it to finish before retrying."⟩

def orchestratorElectionFailed : DomainError :=
  ⟨"provisioning.connections.orchestratorElectionFailed",
    "Main orchestrator election failed unexpectedly in the provisioning worker."⟩

def orchestratorReconcileFailed : DomainError :=
  ⟨"provisioning.connections.orchestratorReconcileFailed",
    "Orchestrator re-election failed unexpectedly in the provisioning worker."⟩

/-- `redactedDomainError`. -/
def redactedDomainError (reads : ProviderReads) (error : DomainError) : DomainError :=
  ⟨error.code, reads.redactDeviceCodeLog error.message⟩

def audit (port : ConnectionsPort) (event : ElectionAudit) : ConnectionsPort :=
  { port with audits := port.audits ++ [event] }

/-- `auditMainOrchestratorElectionTerminal` of a completed election. -/
def completedAudit (j : ℕ) (input : SetMainOrchestratorInput)
    (state : OrchestratorDelegationState) : ElectionAudit :=
  ⟨some j, input, .completed, none, none, some state⟩

/-- `auditMainOrchestratorElectionTerminal` of a failed election. -/
def failedAudit (j : ℕ) (input : SetMainOrchestratorInput) (failure : DomainError) :
    ElectionAudit :=
  ⟨some j, input, .failed, some failure.code, some failure.message, none⟩

def requestedAudit (j : ℕ) (input : SetMainOrchestratorInput) : ElectionAudit :=
  ⟨some j, input, .requested, none, none, none⟩

/-- What `setMainOrchestrator` audits of a refused call. -/
def refusedAudit (input : SetMainOrchestratorInput) (error : DomainError) : ElectionAudit :=
  ⟨none, input, .failed, some error.code, none, none⟩

/-- The audit of a call that is answered. -/
def auditAnswer (port : ConnectionsPort) (input : SetMainOrchestratorInput) :
    Except DomainError OrchestratorDelegationState → ConnectionsPort
  | .ok _ => port
  | .error error => port.audit (refusedAudit input error)

def setCallPoint (port : ConnectionsPort) (c : ℕ) (point : SetMainPoint) : ConnectionsPort :=
  { port with setMainCalls := port.setMainCalls.modify c fun call => { call with point := point } }

/-- A call that was waiting is answered. -/
def answerCall (port : ConnectionsPort) (c : ℕ) (input : SetMainOrchestratorInput)
    (result : Except DomainError OrchestratorDelegationState) : ConnectionsPort :=
  (port.setCallPoint c (.answered result)).auditAnswer input result

/-- A call that is answered at once. -/
def answerNewCall (port : ConnectionsPort) (input : SetMainOrchestratorInput)
    (result : Except DomainError OrchestratorDelegationState) : ConnectionsPort :=
  { port with
    setMainCalls := port.setMainCalls.add ⟨input, .answered result⟩ }.auditAnswer input result

/-! ### The calls of `setMainOrchestrator` -/

/-- The model a call asks for. -/
def requestedModel (input : SetMainOrchestratorInput) : Option String :=
  input.model.map (providerModelRef input.providerId)

/-- The call repeats the election. -/
def repeatsElection (inFlight : ElectionInFlight) (input : SetMainOrchestratorInput) : Bool :=
  inFlight.requestId = input.requestId && inFlight.providerId = input.providerId &&
    requestedModel input = inFlight.requestedModel

/-- What is shown to a call that repeats the election. -/
def coalescedReconcile (port : ConnectionsPort) (inFlight : ElectionInFlight)
    (input : SetMainOrchestratorInput) : OrchestratorReconcileState :=
  match port.orchestratorReconcileState with
  | .electing tracking =>
      if tracking.requestId = input.requestId then .electing tracking
      else inFlight.acceptedState.reconcile
  | _ => inFlight.acceptedState.reconcile

/-- `coalesceMainOrchestratorElection`. -/
def coalesceMainOrchestratorElection (port : ConnectionsPort) (input : SetMainOrchestratorInput) :
    Option (Except DomainError OrchestratorDelegationState) :=
  port.mainOrchestratorElectionInFlight.map fun inFlight =>
    if repeatsElection inFlight input then
      .ok { inFlight.acceptedState with reconcile := port.coalescedReconcile inFlight input }
    else .error orchestratorElectionInFlight

/-- `setMainOrchestrator` until its first await. -/
def setMainOrchestrator (port : ConnectionsPort) (input : SetMainOrchestratorInput) :
    ConnectionsPort :=
  if validSetMainRequestId input.requestId then
    match port.coalesceMainOrchestratorElection input with
    | some result => port.answerNewCall input result
    | none =>
        if port.providerWriteReserved (configWriteKey input.principal.orgId) then
          port.answerNewCall input (.error (providerConnectInFlightError "gateway config"))
        else { port with setMainCalls := port.setMainCalls.add ⟨input, .config⟩ }
  else port.answerNewCall input (.error invalidSetMainRequestId)

/-- The preflight of a call, with its configuration. -/
def takePreflightConfig (port : ConnectionsPort) (c : ℕ) (answer : Answer Json) :
    ConnectionsPort :=
  match port.setMainCalls.get c with
  | some ⟨input, .config⟩ =>
      match answer with
      | .ok payload => port.setCallPoint c (.readings payload)
      | .err error => port.answerCall c input (.error error)
      | .threw => port.setCallPoint c .rejected
  | _ => port

/-- The running state of an election that is accepted. -/
def newTracking (input : SetMainOrchestratorInput) (prepared : PreparedMainOrchestratorElection)
    (now : Date) : ElectionTracking where
  phase := .queued
  requestId := input.requestId
  providerId := input.providerId
  model := prepared.orchestratorModel
  startedAt := now

def newInFlight (input : SetMainOrchestratorInput) (prepared : PreparedMainOrchestratorElection)
    (now : Date) : ElectionInFlight where
  requestId := input.requestId
  providerId := input.providerId
  model := prepared.orchestratorModel
  requestedModel := requestedModel input
  acceptedState :=
    { prepared.persistedState with reconcile := .electing (newTracking input prepared now) }

/-- An election is accepted: its section holds the reservation until its job has settled. -/
def acceptElection (port : ConnectionsPort) (c : ℕ) (input : SetMainOrchestratorInput)
    (prepared : PreparedMainOrchestratorElection) (now : Date) : ConnectionsPort :=
  let inFlight := newInFlight input prepared now
  (({ port.openSection .election (configWriteKey input.principal.orgId)
        (.settlement port.jobs.next) with
      mainOrchestratorElectionInFlight := some inFlight }.audit
    (requestedAudit port.jobs.next input)).enqueueOrchestratorWork
      (.election port.sections.next ⟨input, newTracking input prepared now⟩)).answerCall c input
        (.ok inFlight.acceptedState)

/-- A call that is prepared: an election may have been accepted, or the reservation taken, since
its first await. -/
def takeCallPrepared (port : ConnectionsPort) (c : ℕ) (input : SetMainOrchestratorInput)
    (now : Date) : Except DomainError PreparedMainOrchestratorElection → ConnectionsPort
  | .error error => port.answerCall c input (.error error)
  | .ok prepared =>
      match port.coalesceMainOrchestratorElection input with
      | some result => port.answerCall c input result
      | none =>
          if port.providerWriteReserved (configWriteKey input.principal.orgId) then
            port.answerCall c input (.error (providerConnectInFlightError "gateway config"))
          else port.acceptElection c input prepared now

/-- The preflight of a call, with its readings. -/
def takePreflightReadings (reads : ProviderReads) (port : ConnectionsPort) (c : ℕ)
    (readings : Option ElectionReadings) (now : Date) : ConnectionsPort :=
  match port.setMainCalls.get c with
  | some ⟨input, .readings payload⟩ =>
      match readings with
      | some readings =>
          port.takeCallPrepared c input now (prepareMainOrchestratorElection reads input.providerId
            input.model payload readings port.orchestratorReconcileState now)
      | none => port.setCallPoint c .rejected
  | _ => port

/-! ### The runs of the jobs -/

/-- The rebuild of a job goes on. -/
def proceedRebuild (port : ConnectionsPort) (next : RebuildAwait) : ConnectionsPort :=
  match port.head with
  | some (j, ⟨_, .rebuilding point, _⟩) =>
      if point.follows next then port.setPoint j (.rebuilding next) else port
  | _ => port

/-- What is shown when the work of a job has failed. -/
def failedState (work : OrchestratorWork) (failure : DomainError) : OrchestratorReconcileState :=
  match work with
  | .reconcile _ reason providerId startedAt => .failed reason providerId failure startedAt
  | .election _ job =>
      .electionFailed job.input.requestId job.input.providerId job.tracking.model failure
        job.tracking.startedAt

/-- What an answer is, as the result of a section. -/
def resultOf {α : Type} : Answer α → SectionResult
  | .ok _ => .ok
  | .err _ => .err
  | .threw => .threw

def isThrow {α : Type} : Answer α → Bool
  | .threw => true
  | _ => false

/-- What is shown after a rebuild; what was thrown is shown when the job settles. -/
def afterRebuild (reads : ProviderReads) (port : ConnectionsPort) (work : OrchestratorWork) :
    Answer Unit → OrchestratorReconcileState
  | .ok _ => .idle
  | .err error => failedState work (redactedDomainError reads error)
  | .threw => port.orchestratorReconcileState

/-- The rebuild of a job, with its last answer. -/
def answerRebuild (reads : ProviderReads) (port : ConnectionsPort) (answer : Answer Unit) :
    ConnectionsPort :=
  match port.head with
  | some (j, ⟨work, .rebuilding point, _⟩) =>
      if point.endsWith (resultOf answer) then
        { port.setPoint j (.finished (isThrow answer)) with
          orchestratorReconcileState := afterRebuild reads port work answer }
      else port
  | _ => port

/-- The run of an election takes an answer. -/
def answerElection (reads : ProviderReads) (port : ConnectionsPort) (answer : ElectionAnswer) :
    ConnectionsPort :=
  match port.head with
  | some (j, ⟨.election _ job, .electing point, payloads⟩) =>
      let run := electionStep reads job ⟨point, payloads, port.orchestratorReconcileState⟩ answer
      { port with
        jobs := port.jobs.modify j fun entry =>
          { entry with point := .electing run.point, reads := run.reads }
        orchestratorReconcileState := run.reconcile }
  | _ => port

/-- The job of an election, after `runMainOrchestratorElection`. -/
def deliver (reads : ProviderReads) (port : ConnectionsPort) : ConnectionsPort :=
  match port.head with
  | some (j, ⟨.election holder job, .electing (.returned result), _⟩) =>
      match result with
      | .ok state =>
          { (port.audit (completedAudit j job.input state)).setPoint j (.finished false) with
            orchestratorReconcileState := .idle }
      | .err error =>
          let failure := redactedDomainError reads error
          { (port.audit (failedAudit j job.input failure)).setPoint j (.finished false) with
            orchestratorReconcileState := failedState (.election holder job) failure }
      | .threw => port.setPoint j (.finished true)
  | _ => port

/-- `onUnexpected` of a job whose run has thrown. -/
def onUnexpected (port : ConnectionsPort) (j : ℕ) (work : OrchestratorWork) : ConnectionsPort :=
  match work with
  | .reconcile .. =>
      { port with orchestratorReconcileState := failedState work orchestratorReconcileFailed }
  | .election _ job =>
      { port.audit (failedAudit j job.input orchestratorElectionFailed) with
        orchestratorReconcileState := failedState work orchestratorElectionFailed }

/-- The settlement is counted. -/
def countSettled (port : ConnectionsPort) : ConnectionsPort :=
  { port with
    orchestratorReconcileQueued := port.orchestratorReconcileQueued - 1
    orchestratorReconcileState :=
      if port.orchestratorReconcileQueued - 1 = 0 && port.orchestratorReconcileState.isRunning then
        .idle
      else port.orchestratorReconcileState }

/-- `onSettled`. -/
def onSettled (port : ConnectionsPort) (work : OrchestratorWork) : ConnectionsPort :=
  match work with
  | .reconcile .. => port
  | .election holder job =>
      { port.closeSection holder (configWriteKey job.input.principal.orgId) with
        mainOrchestratorElectionInFlight :=
          if port.mainOrchestratorElectionInFlight.any fun inFlight =>
            inFlight.requestId = job.input.requestId then none
          else port.mainOrchestratorElectionInFlight }

/-- The job has settled: the next of the tail can have its turn. -/
def retireJob (port : ConnectionsPort) (j : ℕ) : ConnectionsPort :=
  { port.setPoint j .settled with tail := port.tail.tail }

/-- The end of the continuation of a job. -/
def settleJob (port : ConnectionsPort) : ConnectionsPort :=
  match port.head with
  | some (j, ⟨work, .finished threw, _⟩) =>
      (((if threw then port.onUnexpected j work else port).countSettled).onSettled work).retireJob j
  | _ => port

end ConnectionsPort

/-! ### The machine -/

/-- What can happen on the port. -/
inductive ConnectionsEvent
  | setModelProviderModelEnabled (principal : ConnectionProvisioningPrincipal) (busy : Bool)
  | completeModelProviderApiKeyConnect (principal : ConnectionProvisioningPrincipal)
      (providerId : String)
  | startModelProviderDeviceFlow (principal : ConnectionProvisioningPrincipal) (busy : Bool)
  | startModelProviderDisconnect (principal : ConnectionProvisioningPrincipal)
      (providerId : String) (busy : Bool)
  | applyOrchestratorDelegation (principal : ConnectionProvisioningPrincipal)
  | finalizeModelProviderFlow (orgId providerId : String) (now : Date)
  | stopDeviceFlow (orgId : String)
  | proceedSection (n : ℕ) (next : SectionAwait)
  | answerSection (n : ℕ) (result : SectionResult) (now : Date)
  | takeSettlement (n : ℕ)
  | setMainOrchestrator (input : SetMainOrchestratorInput)
  | takePreflightConfig (c : ℕ) (answer : Answer Json)
  | takePreflightReadings (c : ℕ) (readings : Option ElectionReadings) (now : Date)
  | beginJob
  | proceedRebuild (next : RebuildAwait)
  | answerRebuild (answer : Answer Unit)
  | answerElection (answer : ElectionAnswer)
  | deliver
  | settleJob

/-- The port after an event. -/
def connectionsStep (reads : ProviderReads) (port : ConnectionsPort) :
    ConnectionsEvent → ConnectionsPort
  | .setModelProviderModelEnabled principal busy =>
      port.setModelProviderModelEnabled principal busy
  | .completeModelProviderApiKeyConnect principal providerId =>
      port.completeModelProviderApiKeyConnect principal providerId
  | .startModelProviderDeviceFlow principal busy =>
      port.startModelProviderDeviceFlow principal busy
  | .startModelProviderDisconnect principal providerId busy =>
      port.startModelProviderDisconnect principal providerId busy
  | .applyOrchestratorDelegation principal => port.applyOrchestratorDelegation principal
  | .finalizeModelProviderFlow orgId providerId now =>
      port.finalizeModelProviderFlow orgId providerId now
  | .stopDeviceFlow orgId => port.stopDeviceFlow orgId
  | .proceedSection n next => port.proceedSection n next
  | .answerSection n result now => port.answerSection n result now
  | .takeSettlement n => port.takeSettlement n
  | .setMainOrchestrator input => port.setMainOrchestrator input
  | .takePreflightConfig c answer => port.takePreflightConfig c answer
  | .takePreflightReadings c readings now => port.takePreflightReadings reads c readings now
  | .beginJob => port.beginJob
  | .proceedRebuild next => port.proceedRebuild next
  | .answerRebuild answer => port.answerRebuild reads answer
  | .answerElection answer => port.answerElection reads answer
  | .deliver => port.deliver reads
  | .settleJob => port.settleJob

def connectionsMachine (reads : ProviderReads) :
    EventMachine ConnectionsPort ConnectionsEvent where
  step := connectionsStep reads

end Opzava.Provisioning
