import Mathlib
import Opzava.Library.EventMachine
import Opzava.Library.Objects
import Opzava.Provisioning.Values

/-!
The device flows of GitHub (`provisioning/connections-provisioning-service.ts`).

Every poll works on the flow that it has found before its request, and an answer `slow_down`
stores that flow again with a longer interval, whether or not it is still pending.

* `pollDeviceFlow`, `readTokenAnswer`, `gitHubStep`: the polls as a machine of their answers.
* `keepsFinished_step`: a finished flow stays out of the map.
* `finished_flows_stay_finished`: the runs in which it does.
-/

namespace Opzava.Provisioning

open Opzava.Library
open DevBoard (DomainError)

/-! ### Flows and polls -/

structure PendingGitHubDeviceFlow where
  flowId : String
  deviceCode : String
  expiresAt : Date
  intervalSeconds : ℚ
  repository : String
  principal : ConnectionProvisioningPrincipal
  deriving DecidableEq

structure GitHubConnectionState where
  status : String
  accountLabel : Option String
  scopes : List String
  repository : String
  lastCheckedAt : Date
  message : String
  deriving DecidableEq

inductive DeviceFlowStatus
  | pending
  | connected
  | expired
  | failed
  deriving DecidableEq

/-- `DeviceFlowPollState` of a GitHub flow. -/
structure GitHubPollState where
  status : DeviceFlowStatus
  message : String
  intervalSeconds : Option ℚ := none
  connection : Option GitHubConnectionState := none
  deriving DecidableEq

/-- What GitHub says of the device code. -/
inductive TokenAnswer
  | invalid
  | authorizationPending
  | slowDown
  | expiredToken
  | accessDenied
  | noToken
  | token (accessToken : String)
  deriving DecidableEq

/-- The answer in a payload; `none` is a body that is not JSON. -/
def readTokenAnswer (responseOk : Bool) (payload : Option Json) : TokenAnswer :=
  match recordValue payload with
  | none => .invalid
  | some fields =>
      let errorCode := stringValue (fields.lookup "error")
      if errorCode = some "authorization_pending" then .authorizationPending
      else if errorCode = some "slow_down" then .slowDown
      else if errorCode = some "expired_token" then .expiredToken
      else if errorCode = some "access_denied" then .accessDenied
      else
        match stringValue (fields.lookup "access_token") with
        | some accessToken => if responseOk then .token accessToken else .noToken
        | none => .noToken

/-- `githubTokenScopes(payload["scope"])`. -/
def githubTokenScopes (payload : Option Json) : List String :=
  splitScope ((recordValue payload).bind fun fields => fields.lookup "scope")

/-- What a poll waits for: the response of GitHub, its body, the vault, and the check of the new
token. -/
inductive GitHubPollPoint
  | fetching
  | reading (responseOk : Bool)
  | storing (scopes : List String)
  | verifying (scopes : List String)
  | answered (result : Except DomainError GitHubPollState)

/-- A poll, with the flow that it has found. -/
structure GitHubPoll where
  flow : PendingGitHubDeviceFlow
  point : GitHubPollPoint

/-- The flows, with the ids that were given out and the polls of them. -/
structure GitHubService where
  githubFlows : String → Option PendingGitHubDeviceFlow
  flowIds : List String
  polls : Objects GitHubPoll

def GitHubService.initial : GitHubService := ⟨fun _ => none, [], .empty⟩

def GitHubService.setFlow (s : GitHubService) (flow : PendingGitHubDeviceFlow) : GitHubService :=
  { s with githubFlows := Function.update s.githubFlows flow.flowId (some flow) }

def GitHubService.deleteFlow (s : GitHubService) (flowId : String) : GitHubService :=
  { s with githubFlows := Function.update s.githubFlows flowId none }

def GitHubService.addPoll (s : GitHubService) (flow : PendingGitHubDeviceFlow)
    (point : GitHubPollPoint) : GitHubService :=
  { s with polls := s.polls.add ⟨flow, point⟩ }

def GitHubService.goto (s : GitHubService) (n : ℕ) (point : GitHubPollPoint) : GitHubService :=
  { s with polls := s.polls.modify n fun poll => { poll with point := point } }

def GitHubService.answer (s : GitHubService) (n : ℕ) (status : DeviceFlowStatus)
    (message : String) (intervalSeconds : Option ℚ := none) : GitHubService :=
  s.goto n (.answered (.ok ⟨status, message, intervalSeconds, none⟩))

/-! ### Calls and answers -/

/-- `startGitHubDeviceFlow` with the answer of GitHub: the new flow has an id of its own. -/
def startGitHubDeviceFlow (s : GitHubService) (flow : PendingGitHubDeviceFlow) : GitHubService :=
  if flow.flowId ∈ s.flowIds then s
  else { s.setFlow flow with flowIds := flow.flowId :: s.flowIds }

/-- `pollDeviceFlow` up to its first await: the flow that is polled, or the answer. -/
def pollDeviceFlow (s : GitHubService) (flowId : String)
    (principal : ConnectionProvisioningPrincipal) :
    Except GitHubPollState PendingGitHubDeviceFlow :=
  match s.githubFlows flowId with
  | some flow =>
      if flow.principal.orgId ≠ principal.orgId ∨
          flow.principal.actorUserId ≠ principal.actorUserId then
        .error { status := .expired, message := "Device sign-in not found." }
      else .ok flow
  | none =>
      if jsStartsWith flowId "model:" ∨ jsStartsWith flowId "github:" then
        .error { status := .expired, message := "Device sign-in not found." }
      else
        .error
          { status := .failed, message := "Device flow is not known or has already completed." }

/-- `pollGitHubFlow` up to its first await. -/
def pollGitHubFlow (s : GitHubService) (flow : PendingGitHubDeviceFlow) (now : Date) :
    GitHubService :=
  if flow.expiresAt ≤ now then
    (s.deleteFlow flow.flowId).addPoll flow
      (.answered (.ok { status := .expired, message := "GitHub device code expired." }))
  else s.addPoll flow .fetching

/-- `pollGitHubFlow` after its request. -/
def takeResponse (s : GitHubService) (n : ℕ) : Except String Bool → GitHubService
  | .ok responseOk => s.goto n (.reading responseOk)
  | .error _ =>
      s.goto n (.answered (.error ⟨"provisioning.githubOAuth.network",
        "GitHub device flow poll failed before response."⟩))

/-- The flow with the interval that GitHub has asked for. -/
def slowedFlow (flow : PendingGitHubDeviceFlow) : PendingGitHubDeviceFlow :=
  { flow with intervalSeconds := min (flow.intervalSeconds + 5) 60 }

/-- `pollGitHubFlow` after the body of the response. -/
def takeTokenAnswer (s : GitHubService) (n : ℕ) (flow : PendingGitHubDeviceFlow)
    (responseOk : Bool) (payload : Option Json) : GitHubService :=
  match readTokenAnswer responseOk payload with
  | .invalid => s.answer n .failed "GitHub device flow returned invalid JSON."
  | .authorizationPending =>
      s.answer n .pending "Waiting for GitHub device approval." (some flow.intervalSeconds)
  | .slowDown =>
      (s.setFlow (slowedFlow flow)).answer n .pending "GitHub asked us to slow polling."
        (some (slowedFlow flow).intervalSeconds)
  | .expiredToken => (s.deleteFlow flow.flowId).answer n .expired "GitHub device code expired."
  | .accessDenied =>
      (s.deleteFlow flow.flowId).answer n .failed "GitHub device authorization was denied."
  | .noToken => s.answer n .failed "GitHub device flow failed."
  | .token _ => s.goto n (.storing (githubTokenScopes payload))

/-- `pollGitHubFlow` after the vault. -/
def takeStored (s : GitHubService) (n : ℕ) (flow : PendingGitHubDeviceFlow)
    (scopes : List String) : Except DomainError Unit → GitHubService
  | .ok _ => (s.deleteFlow flow.flowId).goto n (.verifying scopes)
  | .error error => s.goto n (.answered (.error error))

/-- The connection that a poll answers: the one that was checked, or the reference in the vault. -/
def connectedState (flow : PendingGitHubDeviceFlow) (scopes : List String)
    (connection : GitHubConnectionState) (now : Date) : GitHubPollState where
  status := .connected
  message := "GitHub token stored in SecretsVaultPort."
  connection := some <|
    if connection.status = "connected" then connection
    else
      { status := "connected"
        accountLabel := some "GitHub token"
        scopes := scopes
        repository := flow.repository
        lastCheckedAt := now
        message := "GitHub token vault reference is present." }

/-- What happens: a flow is started; a call polls one; and a poll gets what it waits for. -/
inductive GitHubEvent
  | start (flow : PendingGitHubDeviceFlow)
  | poll (flowId : String) (principal : ConnectionProvisioningPrincipal) (now : Date)
  | fetched (n : ℕ) (response : Except String Bool)
  | parsed (n : ℕ) (payload : Option Json)
  | stored (n : ℕ) (result : Except DomainError Unit)
  | verified (n : ℕ) (connection : GitHubConnectionState) (now : Date)

def gitHubStep (s : GitHubService) : GitHubEvent → GitHubService
  | .start flow => startGitHubDeviceFlow s flow
  | .poll flowId principal now =>
      match pollDeviceFlow s flowId principal with
      | .ok flow => pollGitHubFlow s flow now
      | .error _ => s
  | .fetched n response =>
      match s.polls.get n with
      | some ⟨_, .fetching⟩ => takeResponse s n response
      | _ => s
  | .parsed n payload =>
      match s.polls.get n with
      | some ⟨flow, .reading responseOk⟩ => takeTokenAnswer s n flow responseOk payload
      | _ => s
  | .stored n result =>
      match s.polls.get n with
      | some ⟨flow, .storing scopes⟩ => takeStored s n flow scopes result
      | _ => s
  | .verified n connection now =>
      match s.polls.get n with
      | some ⟨flow, .verifying scopes⟩ =>
          s.goto n (.answered (.ok (connectedState flow scopes connection now)))
      | _ => s

def gitHubMachine : EventMachine GitHubService GitHubEvent := ⟨gitHubStep⟩

/-! ### What is promised -/

/-- The poll has ended its flow with its answer. -/
def GitHubPollPoint.IsVerdict : GitHubPollPoint → Prop
  | .answered (.ok state) =>
      state.status = .connected ∨ state.status = .expired ∨
        state.status = .failed ∧ state.message = "GitHub device authorization was denied."
  | _ => False

/-- Of a flow that a poll has ended nothing is left in the map. -/
def FinishedGone (s : GitHubService) : Prop :=
  ∀ n poll, s.polls.get n = some poll → poll.point.IsVerdict →
    s.githubFlows poll.flow.flowId = none

/-- What an event must meet: GitHub asks to slow down in a poll whose flow is still pending. -/
def slowedPending (s : GitHubService) : GitHubEvent → Bool
  | .parsed n payload =>
      match s.polls.get n with
      | some ⟨flow, .reading responseOk⟩ =>
          readTokenAnswer responseOk payload ≠ .slowDown || (s.githubFlows flow.flowId).isSome
      | _ => true
  | _ => true

/-! ### Finished flows -/

/-- The poll ends its flow, now or with the check of its token. -/
def GitHubPollPoint.HasEnded : GitHubPollPoint → Prop
  | .verifying _ => True
  | point => point.IsVerdict

/-- The flows of the map and of the polls were started, and the ended ones are not in the map. -/
structure FlowsOk (s : GitHubService) : Prop where
  started : ∀ flowId flow, s.githubFlows flowId = some flow →
    flow.flowId = flowId ∧ flowId ∈ s.flowIds
  polled : ∀ n poll, s.polls.get n = some poll → poll.flow.flowId ∈ s.flowIds
  gone : ∀ n poll, s.polls.get n = some poll → poll.point.HasEnded →
    s.githubFlows poll.flow.flowId = none

lemma GitHubPollPoint.IsVerdict.hasEnded {point : GitHubPollPoint} (h : point.IsVerdict) :
    point.HasEnded := by
  cases point with
  | answered result => exact h
  | _ => exact h.elim

lemma FlowsOk.finishedGone {s : GitHubService} (h : FlowsOk s) : FinishedGone s :=
  fun n poll hpoll hverdict => h.gone n poll hpoll hverdict.hasEnded

lemma flowsOk_initial : FlowsOk .initial where
  started _ _ hflow := by cases hflow
  polled _ _ hpoll := by cases hpoll
  gone _ _ hpoll := by cases hpoll

lemma setFlow_self (s : GitHubService) (flow : PendingGitHubDeviceFlow) :
    (s.setFlow flow).githubFlows flow.flowId = some flow :=
  Function.update_self _ _ _

lemma deleteFlow_self (s : GitHubService) (flowId : String) :
    (s.deleteFlow flowId).githubFlows flowId = none :=
  Function.update_self _ _ _

section Changes

variable {s : GitHubService}

lemma FlowsOk.deleteFlow (h : FlowsOk s) (flowId : String) : FlowsOk (s.deleteFlow flowId) where
  started flowId' flow hflow := by
    by_cases hid : flowId' = flowId
    · subst hid
      exact absurd hflow (by simp [GitHubService.deleteFlow])
    · exact h.started flowId' flow ((Function.update_of_ne hid _ _).symm.trans hflow)
  polled := h.polled
  gone n poll hpoll hended := by
    by_cases hid : poll.flow.flowId = flowId
    · rw [← hid]
      exact Function.update_self _ _ _
    · exact (Function.update_of_ne hid _ _).trans (h.gone n poll hpoll hended)

/-- A flow that is still in the map is replaced. -/
lemma FlowsOk.setFlow {flow : PendingGitHubDeviceFlow} (h : FlowsOk s)
    (hmapped : s.githubFlows flow.flowId ≠ none) : FlowsOk (s.setFlow flow) where
  started flowId' flow' hflow := by
    by_cases hid : flowId' = flow.flowId
    · subst hid
      obtain ⟨old, hold⟩ := Option.ne_none_iff_exists'.mp hmapped
      have hself : flow = flow' := Option.some.inj ((setFlow_self s flow).symm.trans hflow)
      exact ⟨by rw [hself], (h.started _ old hold).2⟩
    · exact h.started flowId' flow' ((Function.update_of_ne hid _ _).symm.trans hflow)
  polled := h.polled
  gone n poll hpoll hended := by
    have hgone : s.githubFlows poll.flow.flowId = none := h.gone n poll hpoll hended
    have hne : poll.flow.flowId ≠ flow.flowId := fun hid => hmapped (hid ▸ hgone)
    exact (Function.update_of_ne hne _ _).trans hgone

lemma FlowsOk.goto {n : ℕ} {poll : GitHubPoll} {point : GitHubPollPoint} (h : FlowsOk s)
    (hpoll : s.polls.get n = some poll)
    (hended : point.HasEnded → s.githubFlows poll.flow.flowId = none) :
    FlowsOk (s.goto n point) where
  started := h.started
  polled m poll' hpoll' := by
    obtain ⟨old, hold, rfl⟩ := Objects.get_modify_eq_some hpoll'
    split_ifs
    · exact h.polled m old hold
    · exact h.polled m old hold
  gone m poll' hpoll' hended' := by
    obtain ⟨old, hold, rfl⟩ := Objects.get_modify_eq_some hpoll'
    by_cases hm : m = n
    · subst hm
      rw [hpoll, Option.some.injEq] at hold
      subst hold
      rw [if_pos rfl] at hended' ⊢
      exact hended hended'
    · rw [if_neg hm] at hended' ⊢
      exact h.gone m old hold hended'

lemma FlowsOk.addPoll {flow : PendingGitHubDeviceFlow} {point : GitHubPollPoint} (h : FlowsOk s)
    (hflow : flow.flowId ∈ s.flowIds)
    (hended : point.HasEnded → s.githubFlows flow.flowId = none) :
    FlowsOk (s.addPoll flow point) where
  started := h.started
  polled n poll hpoll := by
    obtain ⟨-, rfl⟩ | hold := Objects.get_add_eq_some hpoll
    · exact hflow
    · exact h.polled n poll hold
  gone n poll hpoll hended' := by
    obtain ⟨-, rfl⟩ | hold := Objects.get_add_eq_some hpoll
    · exact hended hended'
    · exact h.gone n poll hold hended'

/-- A flow with a new id. -/
lemma FlowsOk.start (h : FlowsOk s) (flow : PendingGitHubDeviceFlow) :
    FlowsOk (startGitHubDeviceFlow s flow) := by
  rw [startGitHubDeviceFlow]
  split_ifs with hnew
  · exact h
  · refine ⟨fun flowId' flow' hflow => ?_, fun n poll hpoll => ?_, fun n poll hpoll hended => ?_⟩
    · by_cases hid : flowId' = flow.flowId
      · subst hid
        have hself : flow = flow' := Option.some.inj ((setFlow_self s flow).symm.trans hflow)
        exact ⟨by rw [hself], List.mem_cons_self⟩
      · have hold := h.started flowId' flow' ((Function.update_of_ne hid _ _).symm.trans hflow)
        exact ⟨hold.1, List.mem_cons_of_mem _ hold.2⟩
    · exact List.mem_cons_of_mem _ (h.polled n poll hpoll)
    · have hne : poll.flow.flowId ≠ flow.flowId := fun hid => hnew (hid ▸ h.polled n poll hpoll)
      exact (Function.update_of_ne hne _ _).trans (h.gone n poll hpoll hended)

end Changes

lemma pollDeviceFlow_eq_ok {s : GitHubService} {flowId : String}
    {principal : ConnectionProvisioningPrincipal} {flow : PendingGitHubDeviceFlow}
    (h : pollDeviceFlow s flowId principal = .ok flow) : s.githubFlows flowId = some flow := by
  rw [pollDeviceFlow] at h
  split at h
  · next found hfound =>
      split_ifs at h
      rw [Except.ok.injEq] at h
      exact h ▸ hfound
  · split_ifs at h

lemma FlowsOk.takeTokenAnswer {s : GitHubService} {n : ℕ} {flow : PendingGitHubDeviceFlow}
    {responseOk : Bool} {payload : Option Json} (h : FlowsOk s)
    (hpoll : s.polls.get n = some ⟨flow, .reading responseOk⟩)
    (hslow : slowedPending s (.parsed n payload)) :
    FlowsOk (takeTokenAnswer s n flow responseOk payload) := by
  rw [Provisioning.takeTokenAnswer]
  split
  · exact h.goto hpoll (by rintro (h | h | h) <;> simp_all)
  · exact h.goto hpoll (by rintro (h | h | h) <;> simp_all)
  · next hanswer =>
      have hmapped : s.githubFlows flow.flowId ≠ none := by
        simpa [slowedPending, hpoll, hanswer, Option.ne_none_iff_isSome] using hslow
      have hset : FlowsOk (s.setFlow (slowedFlow flow)) := h.setFlow hmapped
      refine hset.goto hpoll ?_
      rintro (h | h | h) <;> simp_all
  · exact (h.deleteFlow flow.flowId).goto hpoll fun _ => deleteFlow_self s _
  · exact (h.deleteFlow flow.flowId).goto hpoll fun _ => deleteFlow_self s _
  · exact h.goto hpoll (by rintro (h | h | h) <;> simp_all)
  · exact h.goto hpoll fun hended => hended.elim

/-- An event keeps the finished flows out of the map when no flow is slowed down that is gone. -/
lemma keepsFinished_step (s : GitHubService) (event : GitHubEvent) (h : FlowsOk s)
    (hevent : slowedPending s event) : FlowsOk (gitHubStep s event) := by
  cases event with
  | start flow => exact h.start flow
  | poll flowId principal now =>
      rw [gitHubStep]
      split
      · next flow hflow =>
          have hfound := h.started flowId flow (pollDeviceFlow_eq_ok hflow)
          have hstarted : flow.flowId ∈ s.flowIds := hfound.1 ▸ hfound.2
          rw [pollGitHubFlow]
          split_ifs
          · exact (h.deleteFlow flow.flowId).addPoll hstarted fun _ => deleteFlow_self s _
          · exact h.addPoll hstarted fun hended => hended.elim
      · exact h
  | fetched n response =>
      rw [gitHubStep]
      split
      · next hpoll =>
          cases response with
          | ok responseOk => exact h.goto hpoll fun hended => hended.elim
          | error error => exact h.goto hpoll fun hended => hended.elim
      · exact h
  | parsed n payload =>
      rw [gitHubStep]
      split
      · next hpoll => exact h.takeTokenAnswer hpoll hevent
      · exact h
  | stored n result =>
      rw [gitHubStep]
      split
      · next flow scopes hpoll =>
          cases result with
          | ok stored => exact (h.deleteFlow flow.flowId).goto hpoll fun _ => deleteFlow_self s _
          | error error => exact h.goto hpoll fun hended => hended.elim
      · exact h
  | verified n connection now =>
      rw [gitHubStep]
      split
      · next flow scopes hpoll => exact h.goto hpoll fun _ => h.gone n _ hpoll trivial
      · exact h

/-- **Finished flows stay finished**: in every run in which GitHub asks to slow down only in polls
of flows that are still pending, a flow that a poll has answered connected or expired, or failed
because the access was denied, is in no later state in the map. -/
theorem finished_flows_stay_finished (events : List GitHubEvent)
    (h : gitHubMachine.EachStep (fun s event => slowedPending s event = true) .initial events) :
    gitHubMachine.Always FinishedGone .initial events :=
  (EventMachine.always_of_eachStep keepsFinished_step flowsOk_initial h).mono
    fun _ hok => hok.finishedGone

/-! ### Runs -/

namespace GitHubRuns

def owner : ConnectionProvisioningPrincipal := ⟨"org", "workspace", "user", ["owner"]⟩

def flow : PendingGitHubDeviceFlow :=
  { flowId := "github:1"
    deviceCode := "code"
    expiresAt := 900000
    intervalSeconds := 5
    repository := "owner/repository"
    principal := owner }

def connection : GitHubConnectionState :=
  { status := "connected"
    accountLabel := some "@owner"
    scopes := ["repo"]
    repository := "owner/repository"
    lastCheckedAt := 2000
    message := "GitHub token validated from SecretsVaultPort." }

/-- Two polls of the flow, each with an answer of GitHub: the first one is told to slow down and
the second one gets the token. -/
def polls (answers : List GitHubEvent) : List GitHubEvent :=
  [.start flow, .poll "github:1" owner 1000, .poll "github:1" owner 1001,
    .fetched 0 (.ok true), .fetched 1 (.ok true)] ++ answers

def slowDown : GitHubEvent := .parsed 0 (some (.object [("error", .string "slow_down")]))

def takeToken : List GitHubEvent :=
  [.parsed 1 (some (.object [("access_token", .string "token"), ("scope", .string "repo")])),
    .stored 1 (.ok ()), .verified 1 connection 2000]

end GitHubRuns

open GitHubRuns in
theorem finished_flows_stay_finished_slowed :
    gitHubMachine.Always FinishedGone .initial (polls (slowDown :: takeToken)) :=
  finished_flows_stay_finished _ (by decide)

open GitHubRuns in
/-- The answer to the first poll comes after the second one has connected. -/
theorem slowed_flow_pending_again :
    ¬ gitHubMachine.Always FinishedGone .initial (polls (takeToken ++ [slowDown])) := by
  intro h
  have hgone := h.outcome 1 _ rfl (.inl rfl)
  exact absurd hgone (by decide)

end Opzava.Provisioning
