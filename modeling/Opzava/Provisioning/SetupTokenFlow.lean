import Opzava.Library.Objects
import Opzava.Provisioning.ConfigPatches

/-!
A setup-token flow (`provisioning/connections-provisioning-service.ts` and
`provider-connect-flow-cleanup.ts`).

The flow is one object that browser polls, code submissions, its completion, its timers and its
cleanups change, each of them across awaits.

* `SetupTokenFlow`: the flow with everything that is under way on it.
* `requestCleanup`, `takeCancelAnswer`, `retireCleanup`: the verified stop of its login.
* `poll`, `submit`, `takeLoginState`, `takeSubmitAnswer`: the calls of the browser.
* `startCompletion`, `takeConfig`, `takePatched`, `takeOnboarded`, `takeWritten`, `takeProof`,
  `recordOutcome`: the completion.
-/

namespace Opzava.Provisioning

open Opzava.Library
open DevBoard (DomainError)

/-! ### The flow -/

inductive SetupTokenPhase
  | starting
  | awaitingCode
  | completing
  | cancelling
  deriving DecidableEq

/-- `SetupTokenFlowPollState`; the connection is the value that is sent. -/
inductive SetupTokenPollState
  | pending
  | awaitingCode (authorizeUrl : String)
  | connected (connection : Json)
  | failed (message code : String)
  | expired (message code : String)

/-- `SetupTokenLoginState`. -/
inductive SetupTokenLoginState
  | awaitingCode (authorizeUrl : String)
  | pending
  | completed (setupToken : String)
  | unavailable
  | terminalFailure (reason : String)

/-- A call of `cleanupSetupTokenFlowInner` waits for `cancelSetupTokenLogin`, or has settled. -/
inductive CleanupPoint
  | cancelling
  | settled (result : Except DomainError Unit)

structure SetupTokenCleanup where
  previousPhase : SetupTokenPhase
  point : CleanupPoint

inductive SubmitPoint
  | submitting
  | answered (result : Except DomainError Unit)
  | rejected

structure SetupTokenSubmit where
  previousPhase : SetupTokenPhase
  previousCodeSubmittedAt : Option Date
  point : SubmitPoint

/-- A poll waits for the state of the login, or for a cleanup before its answer. -/
inductive SetupTokenPollPoint
  | polling
  | cleaning (cleanup : Option ℕ) (result : Except DomainError SetupTokenPollState)
  | answered (result : Except DomainError SetupTokenPollState)
  | rejected

/-- What a completion waits for. In `proving` it is past its writes, with its last checks, the
removal of a rejected credential and the rebuild of the orchestrator. -/
inductive CompletionPoint
  | readingConfig
  | allowingPlugin
  | onboarding
  | rereadingConfig
  | addingAgent
  | writingCredential
  | proving
  | settled (result : Except DomainError Json)
  | returned

/-- A credential write holds the reservation of its organization. -/
def CompletionPoint.holds : CompletionPoint → Bool
  | .settled _ | .returned => false
  | _ => true

structure SetupTokenCompletion where
  mintedToken : String
  point : CompletionPoint

/-- The armed timer of `scheduleSetupTokenOutcomeCleanup`. -/
structure OutcomeTimer where
  retryIndex : ℕ
  finalAttempt : Bool

/-- The handler of a failed cleanup that an outcome timer has asked for. -/
structure OutcomeCleanup where
  cleanup : Option ℕ
  timer : OutcomeTimer
  waiting : Bool

inductive CredentialCall
  | connectApiKey
  | writeAgentCredential
  deriving DecidableEq

/-- What happened on the flow, in order: a code was taken by the runtime; a completion was started;
an outcome was recorded; the runtime confirmed the end of the login; a poll was answered; a call
with the minted token was started, with whether the flow was current then. -/
inductive SetupTokenFact
  | codeAccepted
  | completionStarted
  | outcomeRecorded (outcome : SetupTokenPollState)
  | stopConfirmed
  | polled (state : SetupTokenPollState)
  | writeStarted (call : CredentialCall) (current : Bool)

/-- `PendingModelProviderSetupTokenFlow`, with whether it is in `modelSetupTokenFlows`, its entry
in `modelSetupTokenFlowCleanups`, and what is under way on it. -/
structure SetupTokenFlow where
  principal : ConnectionProvisioningPrincipal
  providerId : String
  expiresAt : Date
  mapped : Bool
  timeout : Bool
  phase : SetupTokenPhase
  authorizeUrl : Option String
  codeSubmittedAt : Option Date
  completionInFlight : Bool
  outcome : Option SetupTokenPollState
  outcomeCleanupTimeout : Option OutcomeTimer
  cleanups : Objects SetupTokenCleanup
  cleanup : Option ℕ
  submits : Objects SetupTokenSubmit
  polls : Objects SetupTokenPollPoint
  completions : Objects SetupTokenCompletion
  outcomeCleanups : Objects OutcomeCleanup
  facts : List SetupTokenFact

def modelSetupTokenFlowExpiresMs : ℤ := 600000

def setupTokenCodeExchangeTimeoutMs : ℤ := 30000

def setupTokenCleanupRetryDelaysMs : List ℕ := [1000, 2000, 4000]

namespace SetupTokenFlow

/-- The flow that `startModelProviderSetupTokenFlow` registers. -/
def new (principal : ConnectionProvisioningPrincipal) (providerId : String) (now : Date) :
    SetupTokenFlow where
  principal := principal
  providerId := providerId
  expiresAt := now + modelSetupTokenFlowExpiresMs
  mapped := true
  timeout := true
  phase := .starting
  authorizeUrl := none
  codeSubmittedAt := none
  completionInFlight := false
  outcome := none
  outcomeCleanupTimeout := none
  cleanups := .empty
  cleanup := none
  submits := .empty
  polls := .empty
  completions := .empty
  outcomeCleanups := .empty
  facts := []

/-- `isCurrentSetupTokenFlow`. A flow id is never given out again, so the flow of that id in the
map is the flow itself, with its own login. -/
def isCurrent (flow : SetupTokenFlow) : Bool := flow.mapped && flow.phase ≠ .cancelling

def record (flow : SetupTokenFlow) (fact : SetupTokenFact) : SetupTokenFlow :=
  { flow with facts := flow.facts ++ [fact] }

/-! ### Cleanups -/

/-- `cleanupSetupTokenFlow`: the cleanup that is awaited, if there is anything to await. -/
def requestCleanup (flow : SetupTokenFlow) : Option ℕ × SetupTokenFlow :=
  match flow.cleanup with
  | some existing => (some existing, flow)
  | none =>
      if flow.mapped then
        (some flow.cleanups.next,
          { flow with
            phase := .cancelling
            cleanups := flow.cleanups.add ⟨flow.phase, .cancelling⟩
            cleanup := some flow.cleanups.next })
      else (none, flow)

def settleCleanup (flow : SetupTokenFlow) (c : ℕ) (result : Except DomainError Unit) :
    SetupTokenFlow :=
  { flow with cleanups := flow.cleanups.modify c fun cleanup =>
      { cleanup with point := .settled result } }

/-- The phase that a failed cancel puts back. -/
def restorePhase (flow : SetupTokenFlow) (previousPhase : SetupTokenPhase) : SetupTokenFlow :=
  if flow.mapped ∧ flow.phase = .cancelling then { flow with phase := previousPhase } else flow

/-- `cleanupSetupTokenFlowInner` after `cancelSetupTokenLogin`. -/
def takeCancelAnswer (flow : SetupTokenFlow) (c : ℕ) (answer : Answer Unit) : SetupTokenFlow :=
  match flow.cleanups.get c with
  | some ⟨previousPhase, .cancelling⟩ =>
      match answer with
      | .ok _ =>
          let confirmed := (flow.record .stopConfirmed).settleCleanup c (.ok ())
          if flow.mapped ∧ flow.phase = .cancelling then
            { confirmed with
              mapped := false
              timeout := false
              outcomeCleanupTimeout := none }
          else confirmed
      | .err error =>
          (flow.restorePhase previousPhase).settleCleanup c
            (if flow.mapped then .error error else .ok ())
      | .threw =>
          (flow.restorePhase previousPhase).settleCleanup c
            (.error ⟨"runtime_stop_failed", ""⟩)
  | _ => flow

/-- The end of `cleanupSetupTokenFlow`: a settled cleanup leaves the map. -/
def retireCleanup (flow : SetupTokenFlow) : SetupTokenFlow :=
  match flow.cleanup.bind flow.cleanups.get with
  | some ⟨_, .settled _⟩ => { flow with cleanup := none }
  | _ => flow

/-- What awaiting a cleanup has come to, if it has settled. -/
def awaited (flow : SetupTokenFlow) : Option ℕ → Option (Except DomainError Unit)
  | none => some (.ok ())
  | some c =>
      match flow.cleanups.get c with
      | some ⟨_, .settled result⟩ => some result
      | _ => none

/-! ### Polls -/

def addPoll (flow : SetupTokenFlow) (point : SetupTokenPollPoint) : SetupTokenFlow :=
  { flow with polls := flow.polls.add point }

def setPoll (flow : SetupTokenFlow) (p : ℕ) (point : SetupTokenPollPoint) : SetupTokenFlow :=
  { flow with polls := flow.polls.modify p fun _ => point }

/-- A poll answers. -/
def answerPoll (flow : SetupTokenFlow) (p : ℕ) (state : SetupTokenPollState) : SetupTokenFlow :=
  (flow.record (.polled state)).setPoll p (.answered (.ok state))

/-- A poll cleans the flow up before it answers. -/
def cleanBeforeAnswer (flow : SetupTokenFlow) (p : ℕ)
    (result : Except DomainError SetupTokenPollState) : SetupTokenFlow :=
  (flow.requestCleanup).2.setPoll p (.cleaning flow.requestCleanup.1 result)

def setupTokenFlowCancellingError : DomainError :=
  ⟨"provisioning.connections.setupTokenFlowCancelling",
    "Setup-token connection flow is being cancelled. " ++
      "Start a new flow after cancellation completes."⟩

def deviceCodeLogReadError : DomainError :=
  ⟨"provisioning.connections.deviceFlowLogUnavailable",
    "Gateway device-code log could not be read."⟩

def expiredState : SetupTokenPollState :=
  .expired "Claude setup-token sign-in expired. Start again and approve the browser prompt."
    "provisioning.connections.setupTokenFlowExpired"

def deniedState : SetupTokenPollState :=
  .failed
    ("Claude setup-token sign-in was denied or the authorization code was invalid. " ++
      "Start again and paste the newest code.")
    "provisioning.connections.setupTokenLoginFailed"

def unavailableState : SetupTokenPollState :=
  .failed "The Claude setup process is unavailable. Start a new setup-token flow and retry."
    "provisioning.connections.setupTokenLoginUnavailable"

def notAcceptedState : SetupTokenPollState :=
  .failed "Claude did not accept the authorization code. Copy a fresh code from Claude and retry."
    "provisioning.connections.setupTokenLoginFailed"

/-- `pollModelProviderSetupTokenFlow` of the mapped flow, up to its first await. -/
def poll (flow : SetupTokenFlow) (now : Date) : SetupTokenFlow :=
  let p := flow.polls.next
  if flow.phase = .cancelling then
    flow.addPoll (.answered (.error setupTokenFlowCancellingError))
  else if flow.expiresAt ≤ now ∧ flow.completionInFlight = false then
    (flow.addPoll .polling).cleanBeforeAnswer p (.ok expiredState)
  else
    match flow.outcome with
    | some outcome => (flow.addPoll .polling).cleanBeforeAnswer p (.ok outcome)
    | none => flow.addPoll .polling

/-! ### The completion -/

def setCompletion (flow : SetupTokenFlow) (k : ℕ) (point : CompletionPoint) : SetupTokenFlow :=
  { flow with completions := flow.completions.modify k fun completion =>
      { completion with point := point } }

def holds (flow : SetupTokenFlow) (k : ℕ) : Bool :=
  (flow.completions.get k).any fun completion => completion.point.holds

def providerConnectInFlightError (providerId : String) : DomainError :=
  ⟨"provisioning.connections.providerConnectInFlight",
    "A connect for " ++ providerId ++
      " is already running. Wait for it to finish before starting another."⟩

/-- `runSetupTokenCompletion` of a current flow, up to its first await. -/
def startCompletion (flow : SetupTokenFlow) (mintedToken : String) (reserved : Bool) :
    SetupTokenFlow :=
  { flow.record .completionStarted with
    completions := flow.completions.add
      ⟨mintedToken,
        if reserved then .settled (.error (providerConnectInFlightError flow.providerId))
        else .readingConfig⟩ }

/-- `connectApiKey`, when the flow still owns its completion. -/
def beginOnboard (flow : SetupTokenFlow) (k : ℕ) : SetupTokenFlow :=
  if flow.isCurrent then
    (flow.record (.writeStarted .connectApiKey flow.isCurrent)).setCompletion k .onboarding
  else
    flow.setCompletion k (.settled (.error
      ⟨"provisioning.connections.setupTokenFlowSuperseded",
        "Setup-token connection flow was replaced before its credential could be stored."⟩))

/-- `writeAgentCredential`. -/
def beginWrite (flow : SetupTokenFlow) (k : ℕ) : SetupTokenFlow :=
  (flow.record (.writeStarted .writeAgentCredential flow.isCurrent)).setCompletion k
    .writingCredential

/-- The end of a completion whose call has failed, or has thrown. -/
def failCompletion (flow : SetupTokenFlow) (k : ℕ) : Option DomainError → SetupTokenFlow
  | some error => flow.setCompletion k (.settled (.error error))
  | none => flow.setCompletion k .returned

/-- The patch of a configuration, if there is one to make, and what follows without one. -/
def patchOr (flow : SetupTokenFlow) (k : ℕ) (payload : Json)
    (patch : Option (JsonFields × List String)) (patching : CompletionPoint)
    (next : SetupTokenFlow) : SetupTokenFlow :=
  match patch with
  | none => next
  | some (patch, replacePaths) =>
      match configPatchParams payload patch replacePaths with
      | .error error => flow.failCompletion k (some error)
      | .ok _ => flow.setCompletion k patching

/-- After `config.get`: before the first write, and before the second one. -/
def takeConfig (flow : SetupTokenFlow) (k : ℕ) (answer : Answer Json) : SetupTokenFlow :=
  match flow.completions.get k, answer with
  | some ⟨_, .readingConfig⟩, .ok payload =>
      flow.patchOr k payload (pluginAllowPatch flow.providerId payload) .allowingPlugin
        (flow.beginOnboard k)
  | some ⟨_, .rereadingConfig⟩, .ok payload =>
      flow.patchOr k payload (sharedAgentPatch payload) .addingAgent (flow.beginWrite k)
  | some ⟨_, .readingConfig⟩, .err error | some ⟨_, .rereadingConfig⟩, .err error =>
      flow.failCompletion k (some error)
  | some ⟨_, .readingConfig⟩, .threw | some ⟨_, .rereadingConfig⟩, .threw =>
      flow.failCompletion k none
  | _, _ => flow

/-- After `config.patch`. -/
def takePatched (flow : SetupTokenFlow) (k : ℕ) (answer : Answer Unit) : SetupTokenFlow :=
  match flow.completions.get k, answer with
  | some ⟨_, .allowingPlugin⟩, .ok _ => flow.beginOnboard k
  | some ⟨_, .addingAgent⟩, .ok _ => flow.beginWrite k
  | some ⟨_, .allowingPlugin⟩, .err error | some ⟨_, .addingAgent⟩, .err error =>
      flow.failCompletion k (some error)
  | some ⟨_, .allowingPlugin⟩, .threw | some ⟨_, .addingAgent⟩, .threw =>
      flow.failCompletion k none
  | _, _ => flow

/-- After `connectApiKey`; a command that has failed is given by its `commandFailureError`. -/
def takeOnboarded (flow : SetupTokenFlow) (k : ℕ) (answer : Answer (Except DomainError Unit)) :
    SetupTokenFlow :=
  match flow.completions.get k with
  | some ⟨_, .onboarding⟩ =>
      match answer with
      | .ok (.ok _) => flow.setCompletion k .rereadingConfig
      | .ok (.error error) | .err error => flow.failCompletion k (some error)
      | .threw => flow.failCompletion k none
  | _ => flow

/-- After `writeAgentCredential`. -/
def takeWritten (flow : SetupTokenFlow) (k : ℕ) (answer : Answer (Except DomainError Unit)) :
    SetupTokenFlow :=
  match flow.completions.get k with
  | some ⟨_, .writingCredential⟩ =>
      match answer with
      | .ok (.ok _) => flow.setCompletion k .proving
      | .ok (.error error) | .err error => flow.failCompletion k (some error)
      | .threw => flow.failCompletion k none
  | _ => flow

/-- After the checks of the credential that was written. -/
def takeProof (flow : SetupTokenFlow) (k : ℕ) (answer : Answer Json) : SetupTokenFlow :=
  match flow.completions.get k with
  | some ⟨_, .proving⟩ =>
      match answer with
      | .ok connection => flow.setCompletion k (.settled (.ok connection))
      | .err error => flow.failCompletion k (some error)
      | .threw => flow.failCompletion k none
  | _ => flow

/-- The outcome of a completion; the message of an error is redacted. -/
def outcomeOf (redact : String → String) : Except DomainError Json → SetupTokenPollState
  | .ok connection => .connected connection
  | .error error => .failed (redact error.message) error.code

/-- The end of `runSetupTokenCompletion`. -/
def recordOutcome (redact : String → String) (flow : SetupTokenFlow) (k : ℕ) : SetupTokenFlow :=
  match flow.completions.get k with
  | some ⟨_, .settled result⟩ =>
      if flow.isCurrent ∧ flow.outcome.isNone then
        { (flow.record (.outcomeRecorded (outcomeOf redact result))).setCompletion k .returned with
          outcome := some (outcomeOf redact result)
          outcomeCleanupTimeout := some ⟨0, false⟩ }
      else flow.setCompletion k .returned
  | _ => flow

/-! ### Answers to the polls -/

/-- A code was handed over: the login has a while to exchange it. -/
def awaitExchange (flow : SetupTokenFlow) (p : ℕ) (now : Date) : SetupTokenFlow :=
  if now - flow.codeSubmittedAt.getD 0 < setupTokenCodeExchangeTimeoutMs then
    flow.answerPoll p .pending
  else flow.cleanBeforeAnswer p (.ok notAcceptedState)

/-- What a poll of a current flow, which is not being completed, makes of the login's state. -/
def readLoginState (flow : SetupTokenFlow) (p : ℕ) (state : SetupTokenLoginState) (now : Date)
    (reserved : Bool) : SetupTokenFlow :=
  match state with
  | .completed setupToken =>
      let completing := { flow with phase := .completing, completionInFlight := true }
      (completing.startCompletion setupToken reserved).answerPoll p .pending
  | .terminalFailure _ => flow.cleanBeforeAnswer p (.ok deniedState)
  | .unavailable => flow.cleanBeforeAnswer p (.ok unavailableState)
  | .awaitingCode authorizeUrl =>
      if flow.phase = .completing then flow.awaitExchange p now
      else
        let authorizing :=
          { flow with phase := .awaitingCode, authorizeUrl := some authorizeUrl }
        authorizing.answerPoll p (.awaitingCode authorizeUrl)
  | .pending =>
      if flow.phase = .completing then flow.awaitExchange p now else flow.answerPoll p .pending

/-- `pollModelProviderSetupTokenFlow` after `pollSetupTokenLogin`. -/
def takeLoginState (flow : SetupTokenFlow) (p : ℕ) (answer : Answer SetupTokenLoginState)
    (now : Date) (reserved : Bool) : SetupTokenFlow :=
  match flow.polls.get p with
  | some .polling =>
      match answer with
      | .threw => flow.setPoll p .rejected
      | .err _ =>
          if flow.isCurrent then flow.cleanBeforeAnswer p (.error deviceCodeLogReadError)
          else flow.answerPoll p .pending
      | .ok state =>
          if flow.isCurrent ∧ flow.completionInFlight = false then
            flow.readLoginState p state now reserved
          else flow.answerPoll p .pending
  | _ => flow

/-- A poll after the cleanup it has waited for. -/
def takeCleaned (flow : SetupTokenFlow) (p : ℕ) : SetupTokenFlow :=
  match flow.polls.get p with
  | some (.cleaning cleanup result) =>
      match flow.awaited cleanup, result with
      | some (.ok _), .ok state => flow.answerPoll p state
      | some (.ok _), .error error => flow.setPoll p (.answered (.error error))
      | some (.error _), _ => flow.setPoll p .rejected
      | none, _ => flow
  | _ => flow

/-! ### Codes -/

def addSubmit (flow : SetupTokenFlow) (point : SubmitPoint) : SetupTokenFlow :=
  { flow with submits := flow.submits.add ⟨flow.phase, flow.codeSubmittedAt, point⟩ }

def setSubmit (flow : SetupTokenFlow) (u : ℕ) (point : SubmitPoint) : SetupTokenFlow :=
  { flow with submits := flow.submits.modify u fun submit => { submit with point := point } }

/-- `submitModelProviderSetupTokenCode` of the mapped flow, up to its await. -/
def submit (flow : SetupTokenFlow) (code : String) (now : Date) : SetupTokenFlow :=
  let trimmed := String.ofList (jsTrim code.toList)
  if flow.phase = .cancelling then
    flow.addSubmit (.answered (.error setupTokenFlowCancellingError))
  else if jsLength trimmed = 0 ∨ 512 < jsLength trimmed then
    flow.addSubmit (.answered (.error ⟨"provisioning.connections.invalidSetupTokenCode",
      "Paste the authorization code Claude shows after browser approval."⟩))
  else if flow.phase = .completing ∨ flow.completionInFlight = true then
    flow.addSubmit (.answered (.ok ()))
  else
    { flow.addSubmit .submitting with
      phase := .completing
      codeSubmittedAt := some now }

/-- `submitModelProviderSetupTokenCode` after `submitSetupTokenCode`. -/
def takeSubmitAnswer (flow : SetupTokenFlow) (u : ℕ) (answer : Answer Unit) : SetupTokenFlow :=
  match flow.submits.get u with
  | some ⟨previousPhase, previousCodeSubmittedAt, .submitting⟩ =>
      match answer with
      | .ok _ => (flow.record .codeAccepted).setSubmit u (.answered (.ok ()))
      | .err error =>
          if flow.isCurrent then
            { flow.setSubmit u (.answered (.error error)) with
              phase := previousPhase
              codeSubmittedAt := previousCodeSubmittedAt }
          else flow.setSubmit u (.answered (.ok ()))
      | .threw => flow.setSubmit u .rejected
  | _ => flow

/-! ### Timers -/

/-- The timer of the flow's deadline: a completion under way owns the flow. -/
def expiryTimer (flow : SetupTokenFlow) : SetupTokenFlow :=
  if flow.timeout then
    let fired := { flow with timeout := false }
    if flow.mapped ∧ flow.completionInFlight = false then fired.requestCleanup.2 else fired
  else flow

/-- The timer of `scheduleSetupTokenOutcomeCleanup`. -/
def outcomeTimer (flow : SetupTokenFlow) : SetupTokenFlow :=
  match flow.outcomeCleanupTimeout with
  | none => flow
  | some timer =>
      let fired := { flow with outcomeCleanupTimeout := none }
      if flow.isCurrent ∧ flow.outcome.isSome then
        { fired.requestCleanup.2 with
          outcomeCleanups := flow.outcomeCleanups.add ⟨fired.requestCleanup.1, timer, true⟩ }
      else fired

/-- The handler of a cleanup that has failed: three delays, and a last attempt. -/
def takeOutcomeCleanup (flow : SetupTokenFlow) (w : ℕ) : SetupTokenFlow :=
  match flow.outcomeCleanups.get w with
  | some ⟨cleanup, timer, true⟩ =>
      let handled :=
        { flow with outcomeCleanups := flow.outcomeCleanups.modify w fun waiter =>
            { waiter with waiting := false } }
      match flow.awaited cleanup with
      | some (.error _) =>
          if flow.isCurrent = false then handled
          else if timer.retryIndex < setupTokenCleanupRetryDelaysMs.length then
            { handled with outcomeCleanupTimeout := some ⟨timer.retryIndex + 1, false⟩ }
          else if timer.finalAttempt then handled
          else { handled with outcomeCleanupTimeout := some ⟨timer.retryIndex, true⟩ }
      | some (.ok _) => handled
      | none => flow
  | _ => flow

end SetupTokenFlow

end Opzava.Provisioning
