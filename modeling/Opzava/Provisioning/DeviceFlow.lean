import Opzava.Library.EventMachine
import Opzava.Library.Objects
import Opzava.Provisioning.Values

/-!
A device-code sign-in of a model provider (`provisioning/connections-provisioning-service.ts` and
`provider-connect-flow-cleanup.ts`).

The entry of the flow in `modelDeviceFlows` is replaced by polls, stops and the start; who holds
an older copy of it has lost it when the generation differs.

* `DeviceFlow`: the flow with everything that is under way on it.
* `cleanup`, `takeCancelAnswer`, `retireStop`: the verified stop of its login.
* `takeStartLogin`, `poll`, `takeRefreshed`, `takeLogin`: the start and the polls.
* `takeReconciled`, `takeFinalizationCleaned`: the finalization of a sign-in.
* `cancel`, `takeCancellationCleaned`: the cancels of the owner.
* `deviceFlowMachine`: the flow under all of them.
-/

namespace Opzava.Provisioning

open Opzava.Library
open DevBoard (DomainError)

/-! ### The flow -/

inductive DeviceFlowLifecycle
  | active
  | cancelling
  deriving DecidableEq

/-- An entry of `modelDeviceFlows`; `timeout` is the number of its timer. -/
structure PendingModelProviderDeviceFlow where
  generation : ℕ
  lifecycle : DeviceFlowLifecycle
  timeout : ℕ
  verificationUri : Option String
  userCode : Option String

structure FlowTimer where
  due : Date
  armed : Bool

/-- `DeviceLoginState`. -/
inductive DeviceLoginState
  | awaitingCode (deviceCode verificationUri : String)
  | pending
  | completed
  | unavailable
  | terminalFailure (reason : String)

/-- `ProviderConnectionState`, with the fields that are only passed on. -/
structure DeviceConnection where
  status : String
  authChoiceId : Option String
  details : JsonFields

/-- `DeviceFlowPollState`; the code is the verification URI with the code of the user. -/
inductive DeviceFlowPollState
  | pending (message : String) (intervalSeconds : ℕ) (code : Option (String × String))
  | connected (message : String) (connection : DeviceConnection)
  | failed (message : String)
  | expired (message : String)

/-- `DeviceFlowCancelState`. -/
inductive DeviceFlowCancelState
  | cancelled
  | notFound

/-- `DeviceFlowChallenge`, its fields that depend on the entry. -/
structure DeviceFlowChallenge where
  verificationUri : String
  userCode : String
  codePending : Bool

/-- A stop waits for `cancelDeviceLogin`, or has settled. -/
inductive StopPoint
  | cancelling
  | settled (result : Except DomainError Unit)

structure DeviceStop where
  generation : ℕ
  point : StopPoint

inductive DeviceStartPoint
  | polling (attempt : ℕ)
  | sleeping (attempt : ℕ)
  | cleaning (stop : Option ℕ)
  | answered (result : Except DomainError DeviceFlowChallenge)
  | rejected

/-- Why a poll asks for a stop. -/
inductive StopReason
  | expired
  | unreadable
  | denied

/-- A poll waits for the connection of its provider, for the state of the login, for a stop before
its answer, or for a finalization. -/
inductive DevicePollPoint
  | refreshing
  | polling
  | cleaning (stop : Option ℕ) (reason : StopReason)
  | finalizing (finalization : ℕ)
  | answered (result : Except DomainError DeviceFlowPollState)
  | rejected

structure DevicePoll where
  snapshot : PendingModelProviderDeviceFlow
  point : DevicePollPoint

/-- A finalization waits for the rebuild of the orchestrator, then for the stop of the login; it
settles with the answer connected, or throws. -/
inductive FinalizationPoint
  | reconciling
  | cleaning (stop : Option ℕ) (connected : Bool)
  | settled (connected : Bool)

structure DeviceFinalization where
  snapshot : PendingModelProviderDeviceFlow
  connection : DeviceConnection
  point : FinalizationPoint

/-- An entry of `modelDeviceFlowCancellations` waits for a stop, or has its result. -/
structure DeviceCancellation where
  stop : Option ℕ
  result : Option (Except DomainError DeviceFlowCancelState)

inductive DeviceCancelCall
  | waiting (cancellation : ℕ)
  | answered (result : Except DomainError DeviceFlowCancelState)

/-- Who takes the reservation of the organization. -/
inductive DeviceFlowSection
  | stop (n : ℕ)
  | finalization (f : ℕ)
  deriving DecidableEq

inductive DeviceFlowTransition
  | completed
  | failed
  | cancelled
  deriving DecidableEq

/-- What happened on the flow, in order: the reservation was taken or released; the runtime
confirmed the end of the login; a poll was answered and a finalization was started, each with
whether a stop was under way then; a cancel was answered; an event was audited. -/
inductive DeviceFlowFact
  | acquired (holder : DeviceFlowSection)
  | released (holder : DeviceFlowSection)
  | stopConfirmed
  | polled (result : Except DomainError DeviceFlowPollState) (stopping : Bool)
  | finalizationStarted (stopping : Bool)
  | cancelAnswered (result : Except DomainError DeviceFlowCancelState)
  | audited (transition : DeviceFlowTransition)

/-- The flow of one id: its entries in `modelDeviceFlows`, `modelDeviceFlowStops`,
`modelDeviceFlowFinalizations` and `modelDeviceFlowCancellations`, its timers, and the calls that
are under way on it. -/
structure DeviceFlow where
  principal : ConnectionProvisioningPrincipal
  providerId : String
  authChoiceId : String
  expiresAt : Date
  now : Date
  generations : ℕ
  mapped : Option PendingModelProviderDeviceFlow
  timers : Objects FlowTimer
  stops : Objects DeviceStop
  stop : Option ℕ
  startBase : PendingModelProviderDeviceFlow
  startPoint : DeviceStartPoint
  polls : Objects DevicePoll
  finalizations : Objects DeviceFinalization
  finalization : Option ℕ
  cancellations : Objects DeviceCancellation
  cancellation : Option ℕ
  cancels : Objects DeviceCancelCall
  facts : List DeviceFlowFact

def modelDeviceFlowExpiresMs : ℤ := 15 * 60 * 1000

def modelDeviceFlowCleanupRetryMs : ℤ := 5000

def modelDeviceFlowPollIntervalSeconds : ℕ := 5

def modelDeviceFlowStartMaxAttempts : ℕ := 4

namespace DeviceFlow

/-- The entry that `startModelProviderDeviceFlow` stores first. -/
def base : PendingModelProviderDeviceFlow where
  generation := 0
  lifecycle := .active
  timeout := 0
  verificationUri := none
  userCode := none

/-- The flow that `startModelProviderDeviceFlow` has registered, before its first poll of the
login. -/
def new (principal : ConnectionProvisioningPrincipal) (providerId authChoiceId : String)
    (now : Date) : DeviceFlow where
  principal := principal
  providerId := providerId
  authChoiceId := authChoiceId
  expiresAt := now + modelDeviceFlowExpiresMs
  now := now
  generations := 1
  mapped := some base
  timers := Objects.empty.add ⟨now + modelDeviceFlowExpiresMs, true⟩
  stops := .empty
  stop := none
  startBase := base
  startPoint := .polling 0
  polls := .empty
  finalizations := .empty
  finalization := none
  cancellations := .empty
  cancellation := none
  cancels := .empty
  facts := []

/-- `isCurrentActiveDeviceFlow` of a copy of the entry. -/
def isCurrentActive (flow : DeviceFlow) (copy : PendingModelProviderDeviceFlow) : Bool :=
  match flow.mapped with
  | some current => current.generation = copy.generation ∧ current.lifecycle = .active
  | none => false

/-- The calls of the user who has started the flow. -/
def isOwner (flow : DeviceFlow) (principal : ConnectionProvisioningPrincipal) : Bool :=
  flow.principal.orgId = principal.orgId ∧ flow.principal.actorUserId = principal.actorUserId

def isCancelling (flow : DeviceFlow) (n : ℕ) : Bool :=
  match flow.stops.get n with
  | some ⟨_, .cancelling⟩ => true
  | _ => false

/-- A `cancelDeviceLogin` is under way. -/
def stopInFlight (flow : DeviceFlow) : Bool := (List.range flow.stops.next).any flow.isCancelling

def record (flow : DeviceFlow) (fact : DeviceFlowFact) : DeviceFlow :=
  { flow with facts := flow.facts ++ [fact] }

/-! ### Stops -/

/-- A stop begins: the entry gets a new generation, so that polls lose it at once. -/
def beginStop (flow : DeviceFlow) (current : PendingModelProviderDeviceFlow) : DeviceFlow :=
  { flow.record (.acquired (.stop flow.stops.next)) with
    generations := flow.generations + 1
    mapped := some { current with generation := flow.generations, lifecycle := .cancelling }
    stops := flow.stops.add ⟨flow.generations, .cancelling⟩
    stop := some flow.stops.next }

/-- `cleanupDeviceFlow` by the holder of a copy of the entry with that generation: the stop that
is awaited, if there is anything to await. -/
def cleanup (flow : DeviceFlow) (generation : ℕ) : Option ℕ × DeviceFlow :=
  match flow.stop with
  | some activeStop => (some activeStop, flow)
  | none =>
      match flow.mapped with
      | none => (none, flow)
      | some current =>
          if current.generation = generation then (some flow.stops.next, flow.beginStop current)
          else (none, flow)

def deviceFlowStopUnverified : DomainError :=
  ⟨"provisioning.connections.deviceFlowStopUnverified",
    "Could not confirm that the device-code sign-in stopped."⟩

/-- A stop has its result, and releases the reservation. -/
def settleStop (flow : DeviceFlow) (n : ℕ) (result : Except DomainError Unit) : DeviceFlow :=
  { flow.record (.released (.stop n)) with
    stops := flow.stops.modify n fun stop => { stop with point := .settled result } }

/-- The login has ended: the flow leaves the map. -/
def confirmStop (flow : DeviceFlow) (generation : ℕ) : DeviceFlow :=
  match flow.mapped with
  | some current =>
      if current.generation = generation ∧ current.lifecycle = .cancelling then
        { flow with
          mapped := none
          timers := flow.timers.modify current.timeout fun timer => { timer with armed := false } }
      else flow
  | none => flow

/-- The end of the login is not confirmed: the entry is active again, past its deadline with a
timer for the next try. -/
def restoreFlow (flow : DeviceFlow) (generation : ℕ) : DeviceFlow :=
  match flow.mapped with
  | some current =>
      if current.generation = generation ∧ current.lifecycle = .cancelling then
        if flow.expiresAt ≤ flow.now then
          { flow with
            mapped := some { current with lifecycle := .active, timeout := flow.timers.next }
            timers := flow.timers.add ⟨flow.now + modelDeviceFlowCleanupRetryMs, true⟩ }
        else { flow with mapped := some { current with lifecycle := .active } }
      else flow
  | none => flow

/-- A stop after `cancelDeviceLogin`. -/
def takeCancelAnswer (flow : DeviceFlow) (n : ℕ) (answer : Answer Unit) : DeviceFlow :=
  match flow.stops.get n with
  | some ⟨generation, .cancelling⟩ =>
      match answer with
      | .ok _ => ((flow.record .stopConfirmed).confirmStop generation).settleStop n (.ok ())
      | .err _ | .threw =>
          (flow.restoreFlow generation).settleStop n (.error deviceFlowStopUnverified)
  | _ => flow

/-- What awaiting a stop has come to, if it has settled. -/
def awaited (flow : DeviceFlow) : Option ℕ → Option (Except DomainError Unit)
  | none => some (.ok ())
  | some n =>
      match flow.stops.get n with
      | some ⟨_, .settled result⟩ => some result
      | _ => none

/-- A settled stop is still in `modelDeviceFlowStops`: its continuation has not run yet. -/
def isSettling (flow : DeviceFlow) : Bool := flow.stop.any fun n => (flow.awaited (some n)).isSome

/-- The end of `cleanupDeviceFlow`. -/
def retireStop (flow : DeviceFlow) : DeviceFlow :=
  if flow.isSettling then { flow with stop := none } else flow

/-- The timer of the deadline, or of another try: no timer fires before its time, nor before the
continuations that are due. -/
def fireTimer (flow : DeviceFlow) (t : ℕ) : DeviceFlow :=
  match flow.timers.get t with
  | some ⟨due, true⟩ =>
      if due ≤ flow.now ∧ flow.isSettling = false then
        let fired :=
          { flow with timers := flow.timers.modify t fun timer => { timer with armed := false } }
        match fired.mapped with
        | some current => (fired.cleanup current.generation).2
        | none => fired
      else flow
  | _ => flow

/-! ### The start -/

def deviceCodeLogReadError : DomainError :=
  ⟨"provisioning.connections.deviceFlowLogUnavailable",
    "Gateway device-code log could not be read."⟩

def deviceFlowCancelled : DomainError :=
  ⟨"provisioning.connections.deviceFlowCancelled",
    "Device-code sign-in was cancelled before it completed."⟩

/-- `challengeFromModelFlow`. -/
def challengeFromModelFlow (entry : PendingModelProviderDeviceFlow) : DeviceFlowChallenge where
  verificationUri := entry.verificationUri.getD ""
  userCode := entry.userCode.getD ""
  codePending := entry.verificationUri.isNone || entry.userCode.isNone

/-- The start after `pollDeviceLogin`. -/
def takeStartLogin (flow : DeviceFlow) (answer : Answer DeviceLoginState) : DeviceFlow :=
  match flow.startPoint with
  | .polling attempt =>
      match answer with
      | .threw => { flow with startPoint := .rejected }
      | .err _ | .ok .unavailable =>
          { (flow.cleanup flow.startBase.generation).2 with
            startPoint := .cleaning (flow.cleanup flow.startBase.generation).1 }
      | .ok state =>
          if flow.isCurrentActive flow.startBase then
            match state with
            | .awaitingCode deviceCode verificationUri =>
                let entry :=
                  { flow.startBase with
                    verificationUri := some verificationUri
                    userCode := some deviceCode }
                { flow with
                  mapped := some entry
                  startPoint := .answered (.ok (challengeFromModelFlow entry)) }
            | _ => { flow with startPoint := .sleeping attempt }
          else { flow with startPoint := .answered (.error deviceFlowCancelled) }
  | _ => flow

/-- The start after its sleep. -/
def takeStartSlept (flow : DeviceFlow) : DeviceFlow :=
  match flow.startPoint with
  | .sleeping attempt =>
      if attempt + 1 < modelDeviceFlowStartMaxAttempts then
        { flow with startPoint := .polling (attempt + 1) }
      else if flow.isCurrentActive flow.startBase then
        { flow with startPoint := .answered (.ok (challengeFromModelFlow flow.startBase)) }
      else { flow with startPoint := .answered (.error deviceFlowCancelled) }
  | _ => flow

/-- The start after the stop that it has asked for. -/
def takeStartCleaned (flow : DeviceFlow) : DeviceFlow :=
  match flow.startPoint with
  | .cleaning stop =>
      match flow.awaited stop with
      | some (.ok _) => { flow with startPoint := .answered (.error deviceCodeLogReadError) }
      | some (.error _) => { flow with startPoint := .rejected }
      | none => flow
  | _ => flow

/-! ### Polls -/

def addPoll (flow : DeviceFlow) (entry : PendingModelProviderDeviceFlow) (point : DevicePollPoint) :
    DeviceFlow :=
  { flow with polls := flow.polls.add ⟨entry, point⟩ }

def setPoll (flow : DeviceFlow) (p : ℕ) (point : DevicePollPoint) : DeviceFlow :=
  { flow with polls := flow.polls.modify p fun poll => { poll with point := point } }

/-- `auditDeviceFlowTerminal`. -/
def terminalTransition : Except DomainError DeviceFlowPollState → Option DeviceFlowTransition
  | .error _ => some .failed
  | .ok (.connected _ _) => some .completed
  | .ok (.failed _) | .ok (.expired _) => some .failed
  | .ok (.pending _ _ _) => none

/-- The answer to a poll; a terminal one is audited. -/
def recordAnswer (flow : DeviceFlow) (result : Except DomainError DeviceFlowPollState) :
    DeviceFlow :=
  let answered := flow.record (.polled result flow.stopInFlight)
  match terminalTransition result with
  | some transition => answered.record (.audited transition)
  | none => answered

def answerPoll (flow : DeviceFlow) (p : ℕ) (result : Except DomainError DeviceFlowPollState) :
    DeviceFlow :=
  (flow.recordAnswer result).setPoll p (.answered result)

/-- A poll asks for a stop before its answer. -/
def cleanBeforeAnswer (flow : DeviceFlow) (p generation : ℕ) (reason : StopReason) : DeviceFlow :=
  (flow.cleanup generation).2.setPoll p (.cleaning (flow.cleanup generation).1 reason)

def notFoundState : DeviceFlowPollState := .expired "Device sign-in not found."

def expiredState (entry : PendingModelProviderDeviceFlow) : DeviceFlowPollState :=
  .expired
    (if entry.verificationUri.isNone || entry.userCode.isNone then
      "Could not get a device code, try again."
    else "Model-provider device code expired.")

def deniedState : DeviceFlowPollState :=
  .failed ("The provider blocked, rate-limited, or denied the device-code request. " ++
    "Wait a minute and retry, or connect with an API key.")

/-- What a poll answers after its stop. -/
def answerAfterStop (entry : PendingModelProviderDeviceFlow) :
    StopReason → Except DomainError DeviceFlowPollState
  | .expired => .ok (expiredState entry)
  | .unreadable => .error deviceCodeLogReadError
  | .denied => .ok deniedState

def pendingState (entry : PendingModelProviderDeviceFlow) : DeviceFlowPollState :=
  match entry.verificationUri, entry.userCode with
  | some verificationUri, some userCode =>
      .pending "Waiting for gateway device-code authorization." modelDeviceFlowPollIntervalSeconds
        (some (verificationUri, userCode))
  | _, _ => .pending "Requesting device code..." modelDeviceFlowPollIntervalSeconds none

/-- `pollDeviceFlow` of the flow up to its first await. -/
def poll (flow : DeviceFlow) (principal : ConnectionProvisioningPrincipal) : DeviceFlow :=
  match flow.mapped with
  | none => flow.record (.polled (.ok notFoundState) flow.stopInFlight)
  | some entry =>
      if flow.isOwner principal = false ∨ flow.isCurrentActive entry = false then
        (flow.recordAnswer (.ok notFoundState)).addPoll entry (.answered (.ok notFoundState))
      else if flow.expiresAt ≤ flow.now then
        (flow.cleanup entry.generation).2.addPoll entry
          (.cleaning (flow.cleanup entry.generation).1 .expired)
      else flow.addPoll entry .refreshing

/-- `finalizeModelProviderFlow` up to its first await. -/
def startFinalization (flow : DeviceFlow) (entry : PendingModelProviderDeviceFlow)
    (connection : DeviceConnection) : DeviceFlow :=
  let f := flow.finalizations.next
  { (flow.record (.finalizationStarted flow.stopInFlight)).record (.acquired (.finalization f)) with
    finalizations := flow.finalizations.add ⟨entry, connection, .reconciling⟩
    finalization := some f }

/-- A poll after `refreshedProviderConnection`. -/
def takeRefreshed (flow : DeviceFlow) (p : ℕ) (answer : Answer DeviceConnection) : DeviceFlow :=
  match flow.polls.get p with
  | some ⟨entry, .refreshing⟩ =>
      match answer with
      | .ok connection =>
          if flow.isCurrentActive entry then
            if connection.status = "connected" then
              match flow.finalization with
              | some f => flow.setPoll p (.finalizing f)
              | none =>
                  (flow.startFinalization entry connection).setPoll p
                    (.finalizing flow.finalizations.next)
            else flow.setPoll p .polling
          else flow.answerPoll p (.ok notFoundState)
      | .err _ | .threw => flow.setPoll p .rejected
  | _ => flow

/-- What a poll makes of the state of the login of a current flow. -/
def readLogin (flow : DeviceFlow) (p : ℕ) (entry : PendingModelProviderDeviceFlow) :
    DeviceLoginState → DeviceFlow
  | .unavailable => flow.cleanBeforeAnswer p entry.generation .unreadable
  | .terminalFailure _ => flow.cleanBeforeAnswer p entry.generation .denied
  | .awaitingCode deviceCode verificationUri =>
      if entry.verificationUri.isNone || entry.userCode.isNone then
        let current :=
          { entry with verificationUri := some verificationUri, userCode := some deviceCode }
        { flow with mapped := some current }.answerPoll p (.ok (pendingState current))
      else flow.answerPoll p (.ok (pendingState entry))
  | .pending | .completed => flow.answerPoll p (.ok (pendingState entry))

/-- A poll after `pollDeviceLogin`. -/
def takeLogin (flow : DeviceFlow) (p : ℕ) (answer : Answer DeviceLoginState) : DeviceFlow :=
  match flow.polls.get p with
  | some ⟨entry, .polling⟩ =>
      match answer with
      | .threw => flow.setPoll p .rejected
      | .err _ =>
          if flow.isCurrentActive entry then
            flow.cleanBeforeAnswer p entry.generation .unreadable
          else flow.answerPoll p (.ok notFoundState)
      | .ok state =>
          if flow.isCurrentActive entry then flow.readLogin p entry state
          else flow.answerPoll p (.ok notFoundState)
  | _ => flow

/-- A poll after the stop that it has asked for. -/
def takeCleaned (flow : DeviceFlow) (p : ℕ) : DeviceFlow :=
  match flow.polls.get p with
  | some ⟨entry, .cleaning stop reason⟩ =>
      match flow.awaited stop with
      | some (.ok _) => flow.answerPoll p (answerAfterStop entry reason)
      | some (.error _) => flow.setPoll p .rejected
      | none => flow
  | _ => flow

/-! ### Finalizations -/

def setFinalization (flow : DeviceFlow) (f : ℕ) (point : FinalizationPoint) : DeviceFlow :=
  { flow with finalizations := flow.finalizations.modify f fun finalization =>
      { finalization with point := point } }

def connectedState (flow : DeviceFlow) (connection : DeviceConnection) : DeviceFlowPollState :=
  .connected (flow.providerId ++ " connected in Opzava Gateway.")
    { connection with authChoiceId := some (connection.authChoiceId.getD flow.authChoiceId) }

/-- A finalization after `reconcileOrchestratorAfterCredentialChange`. -/
def takeReconciled (flow : DeviceFlow) (f : ℕ) (answer : Answer Unit) : DeviceFlow :=
  match flow.finalizations.get f with
  | some ⟨entry, _, .reconciling⟩ =>
      (flow.cleanup entry.generation).2.setFinalization f
        (.cleaning (flow.cleanup entry.generation).1
          (match answer with
            | .ok _ => true
            | .err _ | .threw => false))
  | _ => flow

/-- A finalization after the stop that it has asked for. -/
def takeFinalizationCleaned (flow : DeviceFlow) (f : ℕ) : DeviceFlow :=
  match flow.finalizations.get f with
  | some ⟨_, _, .cleaning stop connected⟩ =>
      match flow.awaited stop with
      | some (.ok _) =>
          (flow.record (.released (.finalization f))).setFinalization f (.settled connected)
      | some (.error _) =>
          (flow.record (.released (.finalization f))).setFinalization f (.settled false)
      | none => flow
  | _ => flow

/-- A settled finalization leaves the map. -/
def retireFinalization (flow : DeviceFlow) : DeviceFlow :=
  match flow.finalization.bind flow.finalizations.get with
  | some ⟨_, _, .settled _⟩ => { flow with finalization := none }
  | _ => flow

/-- A poll after its finalization. -/
def takeFinalized (flow : DeviceFlow) (p : ℕ) : DeviceFlow :=
  match flow.polls.get p with
  | some ⟨_, .finalizing f⟩ =>
      match flow.finalizations.get f with
      | some ⟨_, connection, .settled true⟩ =>
          flow.answerPoll p (.ok (flow.connectedState connection))
      | some ⟨_, _, .settled false⟩ => flow.setPoll p .rejected
      | _ => flow
  | _ => flow

/-! ### Cancels -/

def deviceFlowCancellationFailed : DomainError :=
  ⟨"provisioning.connections.deviceFlowCancellationFailed",
    "Could not confirm that device sign-in stopped. Try again."⟩

/-- A cancel is answered; only a real cancellation is audited. -/
def answerCancel (flow : DeviceFlow) (result : Except DomainError DeviceFlowCancelState) :
    DeviceFlow :=
  match result with
  | .ok .cancelled => (flow.record (.cancelAnswered result)).record (.audited .cancelled)
  | _ => flow.record (.cancelAnswered result)

/-- `cancelModelProviderDeviceFlow` up to its await. -/
def cancel (flow : DeviceFlow) (principal : ConnectionProvisioningPrincipal) : DeviceFlow :=
  match flow.mapped with
  | none => flow.answerCancel (.ok .notFound)
  | some current =>
      if flow.isOwner principal = false then flow.answerCancel (.ok .notFound)
      else
        match flow.cancellation with
        | some existing => { flow with cancels := flow.cancels.add (.waiting existing) }
        | none =>
            { (flow.cleanup current.generation).2 with
              cancellations := flow.cancellations.add
                ⟨(flow.cleanup current.generation).1, none⟩
              cancellation := some flow.cancellations.next
              cancels := flow.cancels.add (.waiting flow.cancellations.next) }

/-- A cancellation after its stop. -/
def takeCancellationCleaned (flow : DeviceFlow) (c : ℕ) : DeviceFlow :=
  match flow.cancellations.get c with
  | some ⟨stop, none⟩ =>
      match flow.awaited stop with
      | some result =>
          { flow with cancellations := flow.cancellations.modify c fun cancellation =>
              { cancellation with
                result := some (match result with
                  | .ok _ => .ok .cancelled
                  | .error _ => .error deviceFlowCancellationFailed) } }
      | none => flow
  | _ => flow

/-- A call after its cancellation. -/
def takeCancelled (flow : DeviceFlow) (x : ℕ) : DeviceFlow :=
  match flow.cancels.get x with
  | some (.waiting c) =>
      match flow.cancellations.get c with
      | some ⟨_, some result⟩ =>
          { flow.answerCancel result with
            cancels := flow.cancels.modify x fun _ => .answered result }
      | _ => flow
  | _ => flow

/-- A cancellation with its result leaves the map. -/
def retireCancellation (flow : DeviceFlow) : DeviceFlow :=
  match flow.cancellation.bind flow.cancellations.get with
  | some ⟨_, some _⟩ => { flow with cancellation := none }
  | _ => flow

end DeviceFlow

/-! ### The machine -/

/-- What happens: calls, the answers that they have waited for, the continuations of what has
settled, timers, and the clock. -/
inductive DeviceFlowEvent
  | startPolled (answer : Answer DeviceLoginState)
  | startSlept
  | startCleaned
  | poll (principal : ConnectionProvisioningPrincipal)
  | refreshed (p : ℕ) (answer : Answer DeviceConnection)
  | loginPolled (p : ℕ) (answer : Answer DeviceLoginState)
  | pollCleaned (p : ℕ)
  | finalized (p : ℕ)
  | reconciled (f : ℕ) (answer : Answer Unit)
  | finalizationCleaned (f : ℕ)
  | finalizationRetired
  | cancel (principal : ConnectionProvisioningPrincipal)
  | cancellationCleaned (c : ℕ)
  | cancelAnswered (x : ℕ)
  | cancellationRetired
  | cleanup (generation : ℕ)
  | cancelled (n : ℕ) (answer : Answer Unit)
  | stopRetired
  | timer (t : ℕ)
  | elapse (ms : ℕ)

def deviceFlowStep (flow : DeviceFlow) : DeviceFlowEvent → DeviceFlow
  | .startPolled answer => flow.takeStartLogin answer
  | .startSlept => flow.takeStartSlept
  | .startCleaned => flow.takeStartCleaned
  | .poll principal => flow.poll principal
  | .refreshed p answer => flow.takeRefreshed p answer
  | .loginPolled p answer => flow.takeLogin p answer
  | .pollCleaned p => flow.takeCleaned p
  | .finalized p => flow.takeFinalized p
  | .reconciled f answer => flow.takeReconciled f answer
  | .finalizationCleaned f => flow.takeFinalizationCleaned f
  | .finalizationRetired => flow.retireFinalization
  | .cancel principal => flow.cancel principal
  | .cancellationCleaned c => flow.takeCancellationCleaned c
  | .cancelAnswered x => flow.takeCancelled x
  | .cancellationRetired => flow.retireCancellation
  | .cleanup generation => (flow.cleanup generation).2
  | .cancelled n answer => flow.takeCancelAnswer n answer
  | .stopRetired => flow.retireStop
  | .timer t => flow.fireTimer t
  | .elapse ms => { flow with now := flow.now + ms }

def deviceFlowMachine : EventMachine DeviceFlow DeviceFlowEvent := ⟨deviceFlowStep⟩

end Opzava.Provisioning
