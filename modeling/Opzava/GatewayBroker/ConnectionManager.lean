import Mathlib
import Opzava.Library.EventMachine
import Opzava.Library.Objects
import Opzava.DevBoard.Domain

/-!
The clients of the broker and their idle timers (`routing/connection-manager.ts`).

A route has one operator client, which is made at the first call and disconnected when its
idle timer fires. The timer is armed at the end of a call, and when the last stream of the
route has ended, by the number of active streams alone: the calls that are still in flight are
not counted, and a timer that fires removes whatever client the route has by then.

* `Manager`, `ManagerEvent`, `managerStep`: the manager as a machine of calls, stream ends,
  timers and `disconnectAll`.
* `known_step`: the clients of the map are the ones of their routes and are connected.
* `sound_step`: when an event keeps the clients and the timers in order.
* `one_live_client_iff`: the runs in which every route has one live client.
-/

namespace Opzava.GatewayBroker

open Opzava.Library
open DevBoard (DomainError)

/-! ### Routes -/

structure GatewayRouteConfig where
  routeId : String
  tenantId : String
  deriving DecidableEq

/-- `StaticGatewayRoutingTable`: of two routes with one id the later one counts. -/
def getRoute (routes : List GatewayRouteConfig) (routeId : String) : Option GatewayRouteConfig :=
  routes.reverse.find? fun route => route.routeId = routeId

lemma getRoute_routeId {routes : List GatewayRouteConfig} {routeId : String}
    {route : GatewayRouteConfig} (h : getRoute routes routeId = some route) :
    route.routeId = routeId := by
  have hfound := List.find?_some h
  exact of_decide_eq_true hfound

/-! ### The manager -/

/-- `ManagedClient`, with what the manager sees of its client: whether it was disconnected, the
keys of its active streams, and the calls that wait for it. -/
structure ManagedClient where
  route : GatewayRouteConfig
  idleTimer : Bool
  shutdown : Bool
  activeStreams : List String
  inFlight : List ℕ
  deriving DecidableEq

structure CircuitState where
  openedUntil : ℤ
  reason : String
  failures : ℕ
  deriving DecidableEq

structure ManagerOptions where
  routes : List GatewayRouteConfig
  maxFailuresBeforeOpen : ℕ := 3
  circuitOpenMs : ℤ := 30000
  baseBackoffMs : ℚ := 1000
  maxBackoffMs : ℚ := 30000

/-- The manager: all the clients it has made, and its two maps. -/
structure Manager where
  managed : Objects ManagedClient
  clients : String → Option ℕ
  circuits : String → Option CircuitState
  nextCall : ℕ

def Manager.initial : Manager where
  managed := .empty
  clients := fun _ => none
  circuits := fun _ => none
  nextCall := 0

/-- A change of one client. -/
def Manager.modify (s : Manager) (c : ℕ) (f : ManagedClient → ManagedClient) : Manager :=
  { s with managed := s.managed.modify c f }

def clearIdleTimer (s : Manager) (c : ℕ) : Manager :=
  s.modify c fun managed => { managed with idleTimer := false }

def scheduleIdleDisconnect (s : Manager) (c : ℕ) : Manager :=
  s.modify c fun managed =>
    if managed.activeStreams = [] then { managed with idleTimer := true } else managed

/-- The callback of the clients of a route: the timer is the one of the route's client of now. -/
def onActiveStreamDrained (s : Manager) (routeId : String) : Manager :=
  match s.clients routeId with
  | some current => scheduleIdleDisconnect s current
  | none => s

/-- A new client of the route. -/
def Manager.register (s : Manager) (routeId : String) (route : GatewayRouteConfig) : Manager :=
  { s with
    managed := s.managed.add ⟨route, false, false, [], []⟩
    clients := Function.update s.clients routeId (some s.managed.next) }

/-- `getOrCreateClient`: the client of the route, and the manager with it. -/
def getOrCreateClient (options : ManagerOptions) (s : Manager) (routeId : String) (now : ℤ) :
    Except DomainError (ℕ × Manager) :=
  match getRoute options.routes routeId with
  | none => .error ⟨"gatewayBroker.gatewayUnavailable", "Gateway route was not found."⟩
  | some route =>
      if (s.circuits routeId).any (fun circuit => now < circuit.openedUntil) then
        .error ⟨"gatewayBroker.circuitOpen", "Tenant Gateway route circuit breaker is open."⟩
      else
        match s.clients routeId with
        | some existing => .ok (existing, s)
        | none => .ok (s.managed.next, s.register routeId route)

/-- `backoffMs`. -/
def backoffMs (options : ManagerOptions) (failures : ℕ) (jitter : ℚ) : ℤ :=
  max 1 ⌊min options.maxBackoffMs (options.baseBackoffMs * 2 ^ (failures - 1)) * (1 / 2 + jitter)⌋

/-- `recordResult`; of the result only the error's code is read. -/
def recordResult (options : ManagerOptions) (s : Manager) (routeId : String)
    (result : Except String Unit) (now : ℤ) (jitter : ℚ) : Manager :=
  match result with
  | .ok _ => { s with circuits := Function.update s.circuits routeId none }
  | .error code =>
      if code = "gatewayBroker.sessionBusy" ∨ code = "gatewayBroker.auditUnsupported" then s
      else
        let failures := ((s.circuits routeId).map (·.failures)).getD 0 + 1
        let openedUntil :=
          if failures < options.maxFailuresBeforeOpen then now + backoffMs options failures jitter
          else now + options.circuitOpenMs
        { s with circuits := Function.update s.circuits routeId (some ⟨openedUntil, code, failures⟩) }

/-! ### Events -/

/-- What a call asks of the client. -/
inductive ManagerRequest
  | startAssistantStream (tenantId sessionKey : String)
  | getEffectiveTools
  | auditActivityList

/-- What the client does at once: a stream for its own tenant and a session that is not busy is
registered before anything is awaited. -/
def ManagerRequest.begin (request : ManagerRequest) (managed : ManagedClient) : List String :=
  match request with
  | .startAssistantStream tenantId sessionKey =>
      if tenantId = managed.route.tenantId ∧ sessionKey ∉ managed.activeStreams then
        managed.activeStreams ++ [sessionKey]
      else managed.activeStreams
  | _ => managed.activeStreams

/-- What a call does with the streams of its client when it comes to its end: nothing, for a plain
request and for a stream that was refused; `closeActiveStream` for a stream that could not be
started, which may no longer be the one of its key; and for one that was, the move to the key the
gateway has answered and the end of it, when that is among the events that were held back. -/
inductive StreamSettlement
  | none
  | closed (sessionKey : String) (registered : Bool)
  | opened (sessionKey responseSessionKey : String) (ended : Bool)

/-- `activeStreams.delete(sessionKey); activeStreams.set(responseSessionKey, stream)`. -/
def rekey (streams : List String) (sessionKey responseSessionKey : String) : List String :=
  if responseSessionKey = sessionKey then streams
  else (streams.filter (fun key => key ≠ sessionKey ∧ key ≠ responseSessionKey)) ++
    [responseSessionKey]

/-- The active streams after the settlement. -/
def StreamSettlement.streams (settlement : StreamSettlement) (streams : List String) :
    List String :=
  match settlement with
  | .none => streams
  | .closed sessionKey registered => if registered then streams.filter (· ≠ sessionKey) else streams
  | .opened sessionKey responseSessionKey ended =>
      let moved := rekey streams sessionKey responseSessionKey
      if ended then moved.filter (· ≠ responseSessionKey) else moved

/-- The settlement calls `closeActiveStream`, which reports the route drained when no stream is
left. -/
def StreamSettlement.closes : StreamSettlement → Bool
  | .none => false
  | .closed _ _ => true
  | .opened _ _ ended => ended

/-- What happens to the manager: a call is made; a call of a client comes to its end, with its
result or by a throw after the move of its stream; a frame ends a stream; a client fails its
streams with its connection; an idle timer fires; `disconnectAll`. -/
inductive ManagerEvent
  | start (routeId : String) (now : ℤ) (request : ManagerRequest)
  | complete (c call : ℕ) (settlement : StreamSettlement) (result : Except String Unit) (now : ℤ)
      (jitter : ℚ)
  | throw (c call : ℕ) (sessionKey responseSessionKey : String)
  | endStream (c : ℕ) (sessionKey : String)
  | failStreams (c : ℕ)
  | idle (c : ℕ)
  | disconnectAll

/-- The streams of a client after a change, and the report when none is left of them. -/
def closeStreams (s : Manager) (c : ℕ) (streams : List String) (report : Bool) : Manager :=
  match s.managed.get c with
  | none => s
  | some managed =>
      let closed := s.modify c fun managed => { managed with activeStreams := streams }
      if report ∧ streams = [] then onActiveStreamDrained closed managed.route.routeId else closed

/-- The three calls of a route up to their await. -/
def startCall (options : ManagerOptions) (s : Manager) (routeId : String) (now : ℤ)
    (request : ManagerRequest) : Manager :=
  match getOrCreateClient options s routeId now with
  | .error _ => s
  | .ok (c, s) =>
      { (clearIdleTimer s c).modify c fun managed =>
          { managed with
            activeStreams := request.begin managed
            inFlight := managed.inFlight ++ [s.nextCall] } with
        nextCall := s.nextCall + 1 }

/-- The three calls of a route after their await. -/
def completeCall (options : ManagerOptions) (s : Manager) (c call : ℕ)
    (settlement : StreamSettlement) (result : Except String Unit) (now : ℤ) (jitter : ℚ) :
    Manager :=
  match s.managed.get c with
  | none => s
  | some managed =>
      if call ∈ managed.inFlight then
        let returned := s.modify c fun managed =>
          { managed with inFlight := managed.inFlight.erase call }
        let settled := closeStreams returned c (settlement.streams managed.activeStreams)
          settlement.closes
        let recorded := recordResult options settled managed.route.routeId result now jitter
        scheduleIdleDisconnect recorded c
      else s

/-- A call whose client throws is not awaited any further. -/
def throwCall (s : Manager) (c call : ℕ) (sessionKey responseSessionKey : String) : Manager :=
  match s.managed.get c with
  | none => s
  | some managed =>
      if call ∈ managed.inFlight then
        s.modify c fun managed =>
          { managed with
            inFlight := managed.inFlight.erase call
            activeStreams := rekey managed.activeStreams sessionKey responseSessionKey }
      else s

/-- `disconnect` of the client: it fails its streams without a report. -/
def ManagedClient.disconnect (managed : ManagedClient) : ManagedClient :=
  { managed with
    shutdown := true
    activeStreams := [] }

/-- The callback of the idle timer. -/
def idleTimeout (s : Manager) (c : ℕ) : Manager :=
  match s.managed.get c with
  | none => s
  | some managed =>
      if managed.idleTimer = false then s
      else if managed.activeStreams ≠ [] then clearIdleTimer s c
      else
        { (clearIdleTimer s c).modify c ManagedClient.disconnect with
          clients := Function.update s.clients managed.route.routeId none }

/-- `disconnectAll`. -/
def disconnectAll (s : Manager) : Manager :=
  { s with
    managed := s.managed.modifyAll fun c managed =>
      if s.clients managed.route.routeId = some c then
        { managed.disconnect with idleTimer := false }
      else managed
    clients := fun _ => none }

/-- The manager after an event. -/
def managerStep (options : ManagerOptions) (s : Manager) : ManagerEvent → Manager
  | .start routeId now request => startCall options s routeId now request
  | .complete c call settlement result now jitter =>
      completeCall options s c call settlement result now jitter
  | .throw c call sessionKey responseSessionKey => throwCall s c call sessionKey responseSessionKey
  | .endStream c sessionKey =>
      match s.managed.get c with
      | none => s
      | some managed =>
          if sessionKey ∈ managed.activeStreams then
            closeStreams s c (managed.activeStreams.filter (· ≠ sessionKey)) true
          else s
  | .failStreams c =>
      match s.managed.get c with
      | none => s
      | some managed => if managed.activeStreams = [] then s else closeStreams s c [] true
  | .idle c => idleTimeout s c
  | .disconnectAll => disconnectAll s

def managerMachine (options : ManagerOptions) : EventMachine Manager ManagerEvent :=
  ⟨managerStep options⟩

/-! ### What is promised -/

/-- Every client has its timer armed only when it is idle. -/
def TimersIdle (s : Manager) : Prop :=
  ∀ c managed, s.managed.get c = some managed → managed.idleTimer = true →
    managed.inFlight = [] ∧ managed.activeStreams = []

/-- Every client that was not disconnected is the one of its route. -/
def LiveRegistered (s : Manager) : Prop :=
  ∀ c managed, s.managed.get c = some managed → managed.shutdown = false →
    s.clients managed.route.routeId = some c

/-- One live client for a route, and no timer on a client in use. -/
structure OneLive (s : Manager) : Prop where
  timers : TimersIdle s
  registered : LiveRegistered s
  unique : ∀ c c' managed managed', s.managed.get c = some managed → s.managed.get c' = some managed' →
    managed.shutdown = false → managed'.shutdown = false →
    managed.route.routeId = managed'.route.routeId → c = c'

/-- A client that an event removes from the map was disconnected. -/
def RemovesDisconnected (s s' : Manager) : Prop :=
  ∀ routeId c, s.clients routeId = some c → s'.clients routeId ≠ some c →
    ∃ managed, s'.managed.get c = some managed ∧ managed.shutdown = true

/-- The client has no call in flight, or has active streams. -/
def Unused (s : Manager) (c : ℕ) : Prop :=
  ∀ managed, s.managed.get c = some managed → managed.activeStreams = [] → managed.inFlight = []

/-- What an event must meet. The last stream of a client ends while the client of the route has no
call in flight; a call that leaves its client without streams ends as the last one in flight, and
if it has closed a stream, the client of the route by then has none either; and a timer fires on
the client that its route has, if the route has one. -/
def SoundEvent (s : Manager) : ManagerEvent → Prop
  | .start _ _ _ => True
  | .complete c call settlement _ _ _ =>
      ∀ managed, s.managed.get c = some managed → call ∈ managed.inFlight →
        settlement.streams managed.activeStreams = [] →
          managed.inFlight.erase call = [] ∧
            (settlement.closes = true → ∀ current,
              s.clients managed.route.routeId = some current → current ≠ c → Unused s current)
  | .throw _ _ _ _ => True
  | .endStream c sessionKey =>
      ∀ managed, s.managed.get c = some managed → sessionKey ∈ managed.activeStreams →
        managed.activeStreams.filter (· ≠ sessionKey) = [] → ∀ current current',
          s.clients managed.route.routeId = some current → s.managed.get current = some current' →
            (current = c ∨ current'.activeStreams = []) → current'.inFlight = []
  | .failStreams c =>
      ∀ managed, s.managed.get c = some managed → managed.activeStreams ≠ [] → ∀ current current',
        s.clients managed.route.routeId = some current → s.managed.get current = some current' →
          (current = c ∨ current'.activeStreams = []) → current'.inFlight = []
  | .idle c =>
      ∀ managed, s.managed.get c = some managed → managed.idleTimer = true →
        ∀ current, s.clients managed.route.routeId = some current → current = c
  | .disconnectAll => True

/-- The clients of the map are clients of their routes that were not disconnected. -/
def Known (s : Manager) : Prop :=
  ∀ routeId c, s.clients routeId = some c → ∃ managed, s.managed.get c = some managed ∧
    managed.route.routeId = routeId ∧ managed.shutdown = false

/-! ### One client at a time -/

section Modify

variable {s : Manager} {c : ℕ} {f : ManagedClient → ManagedClient}

lemma modify_eq_some {managed : ManagedClient} (h : s.managed.get c = some managed) :
    (s.modify c f).managed.get c = some (f managed) :=
  Objects.get_modify_of_some h

lemma modify_of_ne {c' : ℕ} (h : c' ≠ c) : (s.modify c f).managed.get c' = s.managed.get c' :=
  Objects.get_modify_of_ne h

lemma modify_some {c' : ℕ} {managed' : ManagedClient}
    (h : (s.modify c f).managed.get c' = some managed') :
    ∃ managed, s.managed.get c' = some managed ∧
      managed' = if c' = c then f managed else managed :=
  Objects.get_modify_eq_some h

end Modify

/-- The clients of two managers differ in their timers, streams and calls alone. -/
structure SameClients (s s' : Manager) : Prop where
  clients : s'.clients = s.clients
  managed : ∀ c, (s'.managed.get c).map (fun m => (m.route, m.shutdown)) =
    (s.managed.get c).map fun m => (m.route, m.shutdown)

lemma SameClients.refl (s : Manager) : SameClients s s := ⟨rfl, fun _ => rfl⟩

lemma SameClients.trans {s s' s'' : Manager} (h : SameClients s s') (h' : SameClients s' s'') :
    SameClients s s'' :=
  ⟨h'.clients.trans h.clients, fun c => (h'.managed c).trans (h.managed c)⟩

lemma sameClients_modify (s : Manager) (c : ℕ) {f : ManagedClient → ManagedClient}
    (hf : ∀ m, (f m).route = m.route ∧ (f m).shutdown = m.shutdown) :
    SameClients s (s.modify c f) := by
  refine ⟨rfl, fun c' => ?_⟩
  by_cases hc : c' = c
  · subst hc
    rw [Manager.modify, Objects.get_modify_self, Option.map_map]
    cases s.managed.get c' with
    | none => rfl
    | some m => exact congrArg some (Prod.ext (hf m).1 (hf m).2)
  · rw [modify_of_ne hc]

lemma sameClients_schedule (s : Manager) (c : ℕ) : SameClients s (scheduleIdleDisconnect s c) := by
  refine sameClients_modify s c fun m => ?_
  split_ifs
  · exact ⟨rfl, rfl⟩
  · exact ⟨rfl, rfl⟩

lemma sameClients_drained (s : Manager) (routeId : String) :
    SameClients s (onActiveStreamDrained s routeId) := by
  rw [onActiveStreamDrained]
  split
  · exact sameClients_schedule s _
  · exact .refl s

lemma sameClients_closeStreams (s : Manager) (c : ℕ) (streams : List String) (report : Bool) :
    SameClients s (closeStreams s c streams report) := by
  have hmodify : SameClients s (s.modify c fun m => { m with activeStreams := streams }) :=
    sameClients_modify s c fun _ => ⟨rfl, rfl⟩
  rw [closeStreams]
  split
  · exact .refl s
  · dsimp only
    split_ifs
    · exact hmodify.trans (sameClients_drained _ _)
    · exact hmodify

lemma sameClients_recordResult (options : ManagerOptions) (s : Manager) (routeId : String)
    (result : Except String Unit) (now : ℤ) (jitter : ℚ) :
    SameClients s (recordResult options s routeId result now jitter) := by
  unfold recordResult
  repeat' split
  all_goals exact ⟨rfl, fun _ => rfl⟩

lemma sameClients_complete (options : ManagerOptions) (s : Manager) (c call : ℕ)
    (settlement : StreamSettlement) (result : Except String Unit) (now : ℤ) (jitter : ℚ) :
    SameClients s (completeCall options s c call settlement result now jitter) := by
  rw [completeCall]
  split
  · exact .refl s
  · split_ifs
    · refine .trans ?_ (sameClients_schedule _ c)
      refine .trans ?_ (sameClients_recordResult options _ _ result now jitter)
      refine .trans ?_ (sameClients_closeStreams _ c _ _)
      exact sameClients_modify s c fun _ => ⟨rfl, rfl⟩
    · exact .refl s

lemma sameClients_throw (s : Manager) (c call : ℕ) (sessionKey responseSessionKey : String) :
    SameClients s (throwCall s c call sessionKey responseSessionKey) := by
  rw [throwCall]
  split
  · exact .refl s
  · split_ifs
    · exact sameClients_modify s c fun _ => ⟨rfl, rfl⟩
    · exact .refl s

lemma SameClients.exists_managed {s s' : Manager} (h : SameClients s s') {c : ℕ}
    {managed : ManagedClient} (hmanaged : s.managed.get c = some managed) :
    ∃ managed', s'.managed.get c = some managed' ∧ managed'.route = managed.route ∧
      managed'.shutdown = managed.shutdown := by
  have heq := h.managed c
  rw [hmanaged, Option.map_some, Option.map_eq_some_iff] at heq
  obtain ⟨managed', hmanaged', hpair⟩ := heq
  exact ⟨managed', hmanaged', congrArg Prod.fst hpair, congrArg Prod.snd hpair⟩

lemma SameClients.symm {s s' : Manager} (h : SameClients s s') : SameClients s' s :=
  ⟨h.clients.symm, fun c => (h.managed c).symm⟩

lemma SameClients.known {s s' : Manager} (h : SameClients s s') (hs : Known s) : Known s' := by
  intro routeId c hc
  rw [h.clients] at hc
  obtain ⟨managed, hmanaged, hroute, hlive⟩ := hs routeId c hc
  obtain ⟨managed', hmanaged', hroute', hlive'⟩ := h.exists_managed hmanaged
  exact ⟨managed', hmanaged', by rw [hroute', hroute], by rw [hlive', hlive]⟩

lemma SameClients.liveRegistered {s s' : Manager} (h : SameClients s s') (hs : LiveRegistered s) :
    LiveRegistered s' := by
  intro c managed' hmanaged' hlive'
  obtain ⟨managed, hmanaged, hroute, hlive⟩ := h.symm.exists_managed hmanaged'
  rw [h.clients, ← hroute]
  exact hs c managed hmanaged (hlive.trans hlive')

/-! ### Timers -/

/-- Arming a timer is in order when the client has no call in flight. -/
lemma timersIdle_schedule {s : Manager} {c : ℕ} :
    TimersIdle (scheduleIdleDisconnect s c) ↔ TimersIdle s ∧ Unused s c := by
  constructor
  · intro h
    constructor
    · intro c' managed hmanaged harmed
      by_cases hc : c' = c
      · subst hc
        have hidle := h c' _ (modify_eq_some hmanaged)
        split_ifs at hidle with hstreams
        · exact ⟨(hidle rfl).1, hstreams⟩
        · exact hidle harmed
      · exact h c' managed ((modify_of_ne hc).trans hmanaged) harmed
    · intro managed hmanaged hstreams
      have hidle := h c _ (modify_eq_some hmanaged)
      rw [if_pos hstreams] at hidle
      exact (hidle rfl).1
  · rintro ⟨h, hunused⟩ c' managed' hmanaged' harmed
    obtain ⟨managed, hmanaged, rfl⟩ := modify_some hmanaged'
    by_cases hc : c' = c
    · subst hc
      rw [if_pos rfl] at harmed ⊢
      by_cases hstreams : managed.activeStreams = []
      · rw [if_pos hstreams]
        exact ⟨hunused managed hmanaged hstreams, hstreams⟩
      · rw [if_neg hstreams] at harmed ⊢
        exact h c' managed hmanaged harmed
    · rw [if_neg hc] at harmed ⊢
      exact h c' managed hmanaged harmed

lemma timersIdle_drained {s : Manager} {routeId : String} :
    TimersIdle (onActiveStreamDrained s routeId) ↔
      TimersIdle s ∧ ∀ current, s.clients routeId = some current → Unused s current := by
  rw [onActiveStreamDrained]
  split
  · next current hcurrent =>
      rw [timersIdle_schedule]
      refine and_congr_right fun _ => ⟨fun h c hc => ?_, fun h => h current hcurrent⟩
      rw [hcurrent, Option.some.injEq] at hc
      exact hc ▸ h
  · next hnone =>
      refine ⟨fun h => ⟨h, fun c hc => ?_⟩, fun h => h.1⟩
      rw [hnone] at hc
      exact absurd hc (by simp)

/-- A change of a client whose timer is not armed after it. -/
lemma timersIdle_modify {s : Manager} {c : ℕ} {f : ManagedClient → ManagedClient}
    (h : TimersIdle s) (hf : ∀ managed, s.managed.get c = some managed → (f managed).idleTimer = false) :
    TimersIdle (s.modify c f) := by
  intro c' managed' hmanaged' harmed
  obtain ⟨managed, hmanaged, rfl⟩ := modify_some hmanaged'
  by_cases hc : c' = c
  · subst hc
    rw [if_pos rfl, hf managed hmanaged] at harmed
    exact absurd harmed Bool.false_ne_true
  · rw [if_neg hc] at harmed ⊢
    exact h c' managed hmanaged harmed

/-- The client of the route has no call in flight, or has active streams that are left. -/
def DrainUnused (s : Manager) (c : ℕ) (routeId : String) : Prop :=
  ∀ current current', s.clients routeId = some current → s.managed.get current = some current' →
    (current = c ∨ current'.activeStreams = []) → current'.inFlight = []

lemma timersIdle_closeStreams {s : Manager} {c : ℕ} {managed : ManagedClient}
    {streams : List String} {report : Bool} (h : TimersIdle s)
    (hmanaged : s.managed.get c = some managed) (harmed : managed.idleTimer = false) :
    TimersIdle (closeStreams s c streams report) ↔
      (report = true ∧ streams = [] → DrainUnused s c managed.route.routeId) := by
  have hclosed : TimersIdle (s.modify c fun m => { m with activeStreams := streams }) := by
    refine timersIdle_modify h fun m hm => ?_
    rw [hmanaged, Option.some.injEq] at hm
    exact hm ▸ harmed
  simp only [closeStreams, hmanaged]
  split_ifs with hdrain
  · rw [timersIdle_drained, forall_prop_of_true hdrain]
    refine ⟨fun hunused current current' hcurrent hcurrent' hempty => ?_, fun hdrained =>
      ⟨hclosed, fun current hcurrent current' hcurrent' hempty => ?_⟩⟩
    · have hself := hunused.2 current hcurrent
      by_cases hc : current = c
      · subst hc
        exact hself { current' with activeStreams := streams } (modify_eq_some hcurrent') hdrain.2
      · exact hself current' ((modify_of_ne hc).trans hcurrent') (hempty.resolve_left hc)
    · obtain ⟨managed', hmanaged', rfl⟩ := modify_some hcurrent'
      by_cases hc : current = c
      · rw [if_pos hc]
        exact hdrained current managed' hcurrent hmanaged' (.inl hc)
      · rw [if_neg hc] at hempty ⊢
        exact hdrained current managed' hcurrent hmanaged' (.inr hempty)
  · exact ⟨fun _ hd => absurd hd hdrain, fun _ => hclosed⟩

lemma closeStreams_self {s : Manager} {c : ℕ} {managed : ManagedClient}
    (hmanaged : s.managed.get c = some managed) (streams : List String) (report : Bool) :
    ∃ managed', (closeStreams s c streams report).managed.get c = some managed' ∧
      managed'.activeStreams = streams ∧ managed'.inFlight = managed.inFlight := by
  have hself : (s.modify c fun m => { m with activeStreams := streams }).managed.get c =
      some { managed with activeStreams := streams } :=
    modify_eq_some hmanaged
  simp only [closeStreams, hmanaged]
  split_ifs with hdrain
  · rw [onActiveStreamDrained]
    split
    · next current hcurrent =>
        by_cases hc : c = current
        · subst hc
          refine ⟨_, modify_eq_some hself, ?_⟩
          dsimp only
          split_ifs
          · exact ⟨rfl, rfl⟩
          · exact ⟨rfl, rfl⟩
        · exact ⟨_, (modify_of_ne hc).trans hself, rfl, rfl⟩
    · exact ⟨_, hself, rfl, rfl⟩
  · exact ⟨_, hself, rfl, rfl⟩

lemma recordResult_managed (options : ManagerOptions) (s : Manager) (routeId : String)
    (result : Except String Unit) (now : ℤ) (jitter : ℚ) :
    (recordResult options s routeId result now jitter).managed = s.managed := by
  unfold recordResult
  repeat' split
  all_goals rfl

/-! ### Events -/

section Steps

variable {options : ManagerOptions} {s : Manager} {c call : ℕ}

lemma timersIdle_complete {managed : ManagedClient} {settlement : StreamSettlement}
    {result : Except String Unit} {now : ℤ} {jitter : ℚ} (h : TimersIdle s)
    (hmanaged : s.managed.get c = some managed) (hcall : call ∈ managed.inFlight) :
    TimersIdle (completeCall options s c call settlement result now jitter) ↔
      (settlement.streams managed.activeStreams = [] →
        managed.inFlight.erase call = [] ∧ (settlement.closes = true → ∀ current,
          s.clients managed.route.routeId = some current → current ≠ c → Unused s current)) := by
  have harmed : managed.idleTimer = false := by
    by_contra harmed
    have hempty := (h c managed hmanaged (Bool.eq_true_of_not_eq_false harmed)).1
    rw [hempty] at hcall
    exact absurd hcall List.not_mem_nil
  set returned := s.modify c fun managed =>
    { managed with inFlight := managed.inFlight.erase call } with hreturned
  have hself : returned.managed.get c = some { managed with inFlight := managed.inFlight.erase call } :=
    modify_eq_some hmanaged
  have hidle : TimersIdle returned := by
    refine timersIdle_modify h fun m hm => ?_
    rw [hmanaged, Option.some.injEq] at hm
    exact hm ▸ harmed
  set streams := settlement.streams managed.activeStreams
  obtain ⟨settled, hsettled, hstreams, hflight⟩ :=
    closeStreams_self hself streams settlement.closes
  have hunused : Unused (closeStreams returned c streams settlement.closes) c ↔
      (streams = [] → managed.inFlight.erase call = []) := by
    constructor
    · intro hunused hempty
      exact hflight.symm.trans (hunused settled hsettled (hstreams.trans hempty))
    · intro hempty m hm hm'
      rw [hsettled, Option.some.injEq] at hm
      subst hm
      exact hflight.trans (hempty (hstreams.symm.trans hm'))
  have hdrain : DrainUnused returned c managed.route.routeId ↔
      (s.clients managed.route.routeId = some c → managed.inFlight.erase call = []) ∧
      ∀ current, s.clients managed.route.routeId = some current → current ≠ c →
        Unused s current := by
    constructor
    · intro hdrain
      refine ⟨fun hcurrent => hdrain c _ hcurrent hself (.inl rfl), ?_⟩
      intro current hcurrent hne m hm hempty
      exact hdrain current m hcurrent ((modify_of_ne hne).trans hm) (.inr hempty)
    · rintro ⟨hown, hother⟩ current m hcurrent hm hempty
      by_cases hne : current = c
      · subst hne
        rw [hself, Option.some.injEq] at hm
        subst hm
        exact hown hcurrent
      · rw [modify_of_ne hne] at hm
        exact hother current hcurrent hne m hm (hempty.resolve_left hne)
  have hcomplete : completeCall options s c call settlement result now jitter =
      scheduleIdleDisconnect (recordResult options (closeStreams returned c streams
        settlement.closes) managed.route.routeId result now jitter) c := by
    simp only [completeCall, hmanaged, if_pos hcall]
    rfl
  rw [hcomplete, timersIdle_schedule]
  simp only [TimersIdle, Unused, recordResult_managed]
  rw [← TimersIdle, ← Unused, hunused, timersIdle_closeStreams hidle hself harmed, hdrain]
  tauto

lemma oneLive_iff : OneLive s ↔ TimersIdle s ∧ LiveRegistered s := by
  refine ⟨fun h => ⟨h.timers, h.registered⟩, fun h => ⟨h.1, h.2, ?_⟩⟩
  intro c c' managed managed' hmanaged hmanaged' hlive hlive' hroute
  have hc := h.2 c managed hmanaged hlive
  rw [hroute, h.2 c' managed' hmanaged' hlive', Option.some.injEq] at hc
  exact hc.symm

lemma SameClients.oneLive {s' : Manager} (h : SameClients s s') (hs : OneLive s) :
    OneLive s' ↔ TimersIdle s' :=
  oneLive_iff.trans (and_iff_left (h.liveRegistered hs.registered))

/-- The client a call is made on, and that no other client has changed. -/
lemma getOrCreateClient_spec {routeId : String} {now : ℤ} {s' : Manager}
    (h : getOrCreateClient options s routeId now = .ok (c, s')) :
    (s' = s ∧ s.clients routeId = some c) ∨
    ∃ route, route.routeId = routeId ∧ s.clients routeId = none ∧ s' = s.register routeId route := by
  unfold getOrCreateClient at h
  split at h
  · exact absurd h (by simp)
  · next route hroute =>
      split_ifs at h
      split at h
      · next existing hexisting =>
          simp only [Except.ok.injEq, Prod.mk.injEq] at h
          obtain ⟨rfl, rfl⟩ := h
          exact .inl ⟨rfl, hexisting⟩
      · next hnone =>
          simp only [Except.ok.injEq, Prod.mk.injEq] at h
          exact .inr ⟨route, getRoute_routeId hroute, hnone, h.2.symm⟩

lemma Known.register {routeId : String} {route : GatewayRouteConfig} (hs : Known s)
    (hroute : route.routeId = routeId) : Known (s.register routeId route) := by
  intro r c hc
  simp only [Manager.register, Function.update_apply] at hc
  split_ifs at hc with hr
  · obtain rfl := Option.some.inj hc
    exact ⟨_, Objects.get_add_next, hroute.trans hr.symm, rfl⟩
  · obtain ⟨managed, hmanaged, hspec⟩ := hs r c hc
    exact ⟨managed, Objects.get_add_of_some hmanaged, hspec⟩

lemma OneLive.register {routeId : String} {route : GatewayRouteConfig} (h : OneLive s)
    (hroute : route.routeId = routeId) (hnone : s.clients routeId = none) :
    OneLive (s.register routeId route) := by
  refine oneLive_iff.mpr ⟨fun c managed hmanaged harmed => ?_, fun c managed hmanaged hlive => ?_⟩
  · rcases Objects.get_add_eq_some hmanaged with ⟨-, rfl⟩ | hold
    · exact ⟨rfl, rfl⟩
    · exact h.timers c managed hold harmed
  · rcases Objects.get_add_eq_some hmanaged with ⟨rfl, rfl⟩ | hold
    · rw [hroute]
      exact Function.update_self ..
    · have hregistered := h.registered c managed hold hlive
      have hr : managed.route.routeId ≠ routeId := by
        intro hr
        rw [hr, hnone] at hregistered
        exact absurd hregistered (by simp)
      exact (Function.update_of_ne hr ..).trans hregistered

/-- The client a call is made on is known, and the others are in order. -/
lemma getOrCreateClient_keeps {routeId : String} {now : ℤ} {s' : Manager} (hs : Known s)
    (h : getOrCreateClient options s routeId now = .ok (c, s')) :
    Known s' ∧ (OneLive s → OneLive s') := by
  rcases getOrCreateClient_spec h with ⟨rfl, -⟩ | ⟨route, hroute, hnone, rfl⟩
  · exact ⟨hs, id⟩
  · exact ⟨hs.register hroute, fun hlive => hlive.register hroute hnone⟩

/-- What a call does up to its await, after it has its client. -/
lemma sameClients_begin (s : Manager) (c : ℕ) (request : ManagerRequest) :
    SameClients s { (clearIdleTimer s c).modify c fun managed =>
      { managed with
        activeStreams := request.begin managed
        inFlight := managed.inFlight ++ [s.nextCall] } with
      nextCall := s.nextCall + 1 } := by
  have hclear : SameClients s (clearIdleTimer s c) := sameClients_modify s c fun _ => ⟨rfl, rfl⟩
  have hbegin := sameClients_modify (clearIdleTimer s c) c (f := fun managed =>
    { managed with
      activeStreams := request.begin managed
      inFlight := managed.inFlight ++ [s.nextCall] }) fun _ => ⟨rfl, rfl⟩
  exact .trans (hclear.trans hbegin) ⟨rfl, fun _ => rfl⟩

lemma start_keeps {routeId : String} {now : ℤ} {request : ManagerRequest} (hs : Known s) :
    Known (startCall options s routeId now request) ∧
      (OneLive s → OneLive (startCall options s routeId now request)) := by
  unfold startCall
  split
  · exact ⟨hs, id⟩
  · next c s' hclient =>
      obtain ⟨hknown, hlive⟩ := getOrCreateClient_keeps hs hclient
      refine ⟨(sameClients_begin s' c request).known hknown, fun h => ?_⟩
      refine ((sameClients_begin s' c request).oneLive (hlive h)).mpr ?_
      have hcleared : TimersIdle (clearIdleTimer s' c) :=
        timersIdle_modify (hlive h).timers fun _ _ => rfl
      refine timersIdle_modify hcleared fun managed hmanaged => ?_
      obtain ⟨managed', -, rfl⟩ := modify_some hmanaged
      rw [if_pos rfl]

lemma timersIdle_throw {sessionKey responseSessionKey : String} (h : TimersIdle s) :
    TimersIdle (throwCall s c call sessionKey responseSessionKey) := by
  rw [throwCall]
  split
  · exact h
  · next managed hmanaged =>
      split_ifs with hcall
      · refine timersIdle_modify h fun m hm => ?_
        obtain rfl := Option.some.inj (hm.symm.trans hmanaged)
        by_contra harmed
        have hempty := (h c m hm (Bool.eq_true_of_not_eq_false harmed)).1
        rw [hempty] at hcall
        exact absurd hcall List.not_mem_nil
      · exact h

/-- A client with active streams has no timer. -/
lemma TimersIdle.unarmed {managed : ManagedClient} (h : TimersIdle s)
    (hmanaged : s.managed.get c = some managed) (hstreams : managed.activeStreams ≠ []) :
    managed.idleTimer = false := by
  by_contra harmed
  exact hstreams (h c managed hmanaged (Bool.eq_true_of_not_eq_false harmed)).2

lemma idle_known (hs : Known s) : Known (idleTimeout s c) := by
  have hclear : SameClients s (clearIdleTimer s c) := sameClients_modify s c fun _ => ⟨rfl, rfl⟩
  unfold idleTimeout
  split
  · exact hs
  · next managed hmanaged =>
      split_ifs
      · exact hs
      · exact hclear.known hs
      · intro r c' hc'
        simp only [Function.update_apply] at hc'
        split_ifs at hc' with hr
        obtain ⟨managed', hmanaged', hroute, hlive⟩ := hs r c' hc'
        have hne : c' ≠ c := by
          rintro rfl
          obtain rfl := Option.some.inj (hmanaged'.symm.trans hmanaged)
          exact hr hroute.symm
        exact ⟨managed', (modify_of_ne hne).trans ((modify_of_ne hne).trans hmanaged'), hroute,
          hlive⟩

/-- A timer that fires on a client keeps the clients in order if the route has no other client. -/
lemma idle_oneLive (hs : Known s) (h : OneLive s) :
    OneLive (idleTimeout s c) ↔ SoundEvent s (.idle c) := by
  have hclear : TimersIdle (clearIdleTimer s c) := timersIdle_modify h.timers fun _ _ => rfl
  have hsame : SameClients s (clearIdleTimer s c) := sameClients_modify s c fun _ => ⟨rfl, rfl⟩
  simp only [idleTimeout, SoundEvent]
  cases hmanaged : s.managed.get c with
  | none => exact ⟨fun _ managed hsome => absurd hsome (by simp), fun _ => h⟩
  | some managed =>
      simp only [Option.some.injEq, forall_eq']
      by_cases harmed : managed.idleTimer = false
      · simp only [harmed]
        exact ⟨fun _ hfalse => absurd hfalse Bool.false_ne_true, fun _ => h⟩
      have harmed' := Bool.eq_true_of_not_eq_false harmed
      have hempty := (h.timers c managed hmanaged harmed').2
      rw [if_neg harmed, if_neg (not_not.mpr hempty), oneLive_iff, forall_prop_of_true harmed']
      constructor
      · rintro ⟨-, hregistered⟩ current hcurrent
        by_contra hne
        obtain ⟨managed', hmanaged', hroute, hlive⟩ := hs _ current hcurrent
        have hafter := hregistered current managed'
          ((modify_of_ne hne).trans ((modify_of_ne hne).trans hmanaged')) hlive
        rw [hroute] at hafter
        exact absurd ((Function.update_self ..).symm.trans hafter) (by simp)
      · intro hcurrent
        constructor
        · refine timersIdle_modify hclear fun m hm => ?_
          obtain ⟨m', -, rfl⟩ := modify_some hm
          rw [if_pos rfl]
          rfl
        · intro c' managed' hmanaged' hlive'
          obtain ⟨m, hm, rfl⟩ := modify_some hmanaged'
          by_cases hne : c' = c
          · rw [if_pos hne] at hlive'
            exact absurd hlive' (by simp [ManagedClient.disconnect])
          · rw [if_neg hne] at hlive' ⊢
            rw [clearIdleTimer, modify_of_ne hne] at hm
            have hregistered := h.registered c' m hm hlive'
            have hr : m.route.routeId ≠ managed.route.routeId := by
              intro hr
              rw [hr] at hregistered
              exact hne (hcurrent c' hregistered)
            exact (Function.update_of_ne hr ..).trans hregistered

lemma disconnectAll_keeps :
    Known (disconnectAll s) ∧ (OneLive s → OneLive (disconnectAll s)) := by
  refine ⟨fun r c hc => absurd hc (by simp [disconnectAll]), fun h =>
    oneLive_iff.mpr ⟨fun c managed' hmanaged' harmed => ?_, fun c managed' hmanaged' hlive => ?_⟩⟩
  · obtain ⟨managed, hmanaged, rfl⟩ := Objects.get_modifyAll_eq_some hmanaged'
    split_ifs at harmed ⊢
    exact h.timers c managed hmanaged harmed
  · obtain ⟨managed, hmanaged, rfl⟩ := Objects.get_modifyAll_eq_some hmanaged'
    -- Every live client is one of the map, and these are disconnected.
    split_ifs at hlive with hregistered
    · exact absurd hlive (by simp [ManagedClient.disconnect])
    · exact absurd (h.registered c managed hmanaged hlive) hregistered

/-- What an event does to the streams of a client is in order if the client of the route is not in
use. -/
lemma closeStreams_oneLive {managed : ManagedClient} {streams : List String} {report : Bool}
    (h : OneLive s) (hmanaged : s.managed.get c = some managed)
    (hstreams : managed.activeStreams ≠ []) :
    OneLive (closeStreams s c streams report) ↔
      (report = true ∧ streams = [] → DrainUnused s c managed.route.routeId) :=
  ((sameClients_closeStreams s c streams report).oneLive h).trans
    (timersIdle_closeStreams h.timers hmanaged (h.timers.unarmed hmanaged hstreams))

end Steps

variable {options : ManagerOptions} {s : Manager}

/-- What is known of the map holds after every event. -/
lemma known_step (hs : Known s) (event : ManagerEvent) : Known (managerStep options s event) := by
  cases event with
  | start routeId now request => exact (start_keeps hs).1
  | complete c call settlement result now jitter =>
      exact (sameClients_complete options s c call settlement result now jitter).known hs
  | throw c call sessionKey responseSessionKey =>
      exact (sameClients_throw s c call sessionKey responseSessionKey).known hs
  | endStream c sessionKey =>
      simp only [managerStep]
      split
      · exact hs
      · split_ifs
        · exact (sameClients_closeStreams s c _ _).known hs
        · exact hs
  | failStreams c =>
      simp only [managerStep]
      split
      · exact hs
      · split_ifs
        · exact hs
        · exact (sameClients_closeStreams s c _ _).known hs
  | idle c => exact idle_known hs
  | disconnectAll => exact disconnectAll_keeps.1

/-- **One step**: an event keeps the clients and the timers in order if and only if it is sound. -/
lemma sound_step (hs : Known s) (h : OneLive s) (event : ManagerEvent) :
    OneLive (managerStep options s event) ↔ SoundEvent s event := by
  cases event with
  | start routeId now request => exact iff_of_true ((start_keeps hs).2 h) trivial
  | complete c call settlement result now jitter =>
      refine ((sameClients_complete options s c call settlement result now jitter).oneLive h).trans ?_
      simp only [SoundEvent]
      cases hmanaged : s.managed.get c with
      | none =>
          refine iff_of_true ?_ fun managed hsome => absurd hsome (by simp)
          simp only [completeCall, hmanaged]
          exact h.timers
      | some managed =>
          simp only [Option.some.injEq, forall_eq']
          by_cases hcall : call ∈ managed.inFlight
          · rw [forall_prop_of_true hcall]
            exact timersIdle_complete h.timers hmanaged hcall
          · refine iff_of_true ?_ fun hin => absurd hin hcall
            simp only [completeCall, hmanaged, if_neg hcall]
            exact h.timers
  | throw c call sessionKey responseSessionKey =>
      refine iff_of_true ?_ trivial
      exact ((sameClients_throw s c call sessionKey responseSessionKey).oneLive h).mpr
        (timersIdle_throw h.timers)
  | endStream c sessionKey =>
      simp only [managerStep, SoundEvent]
      cases hmanaged : s.managed.get c with
      | none => exact iff_of_true h fun managed hsome => absurd hsome (by simp)
      | some managed =>
          simp only [Option.some.injEq, forall_eq']
          by_cases hkey : sessionKey ∈ managed.activeStreams
          · rw [if_pos hkey, forall_prop_of_true hkey,
              closeStreams_oneLive h hmanaged (List.ne_nil_of_mem hkey), DrainUnused]
            simp only [true_and]
          · rw [if_neg hkey]
            exact iff_of_true h fun hin => absurd hin hkey
  | failStreams c =>
      simp only [managerStep, SoundEvent]
      cases hmanaged : s.managed.get c with
      | none => exact iff_of_true h fun managed hsome => absurd hsome (by simp)
      | some managed =>
          simp only [Option.some.injEq, forall_eq']
          by_cases hstreams : managed.activeStreams = []
          · rw [if_pos hstreams]
            exact iff_of_true h fun hne => absurd hstreams hne
          · rw [if_neg hstreams, forall_prop_of_true hstreams,
              closeStreams_oneLive h hmanaged hstreams, DrainUnused]
            simp only [and_self, true_imp_iff]
  | idle c => exact idle_oneLive hs h
  | disconnectAll => exact iff_of_true (disconnectAll_keeps.2 h) trivial

/-- A client keeps its route. -/
lemma route_step (event : ManagerEvent) {c : ℕ} {managed : ManagedClient}
    (hmanaged : s.managed.get c = some managed) :
    ∃ managed', (managerStep options s event).managed.get c = some managed' ∧
      managed'.route = managed.route := by
  have hself : ∃ managed', s.managed.get c = some managed' ∧ managed'.route = managed.route :=
    ⟨managed, hmanaged, rfl⟩
  have hsame : ∀ s', SameClients s s' → ∃ managed', s'.managed.get c = some managed' ∧
      managed'.route = managed.route := by
    intro s' h
    obtain ⟨managed', hmanaged', hroute, -⟩ := h.exists_managed hmanaged
    exact ⟨managed', hmanaged', hroute⟩
  cases event with
  | start routeId now request =>
      simp only [managerStep, startCall]
      split
      · exact hself
      · next c' s' hclient =>
          rcases getOrCreateClient_spec hclient with ⟨rfl, -⟩ | ⟨route, -, -, rfl⟩
          · exact hsame _ (sameClients_begin s' c' request)
          · have hold : (s.register routeId route).managed.get c = some managed :=
              Objects.get_add_of_some hmanaged
            obtain ⟨managed', hmanaged', hroute, -⟩ :=
              (sameClients_begin (s.register routeId route) c' request).exists_managed hold
            exact ⟨managed', hmanaged', hroute⟩
  | complete c' call settlement result now jitter =>
      exact hsame _ (sameClients_complete options s c' call settlement result now jitter)
  | throw c' call sessionKey responseSessionKey =>
      exact hsame _ (sameClients_throw s c' call sessionKey responseSessionKey)
  | endStream c' sessionKey =>
      simp only [managerStep]
      split
      · exact hself
      · split_ifs
        · exact hsame _ (sameClients_closeStreams s c' _ _)
        · exact hself
  | failStreams c' =>
      simp only [managerStep]
      split
      · exact hself
      · split_ifs
        · exact hself
        · exact hsame _ (sameClients_closeStreams s c' _ _)
  | idle c' =>
      simp only [managerStep, idleTimeout]
      split
      · exact hself
      · split_ifs
        · exact hself
        · exact hsame _ (sameClients_modify s c' fun _ => ⟨rfl, rfl⟩)
        · by_cases hne : c = c'
          · subst hne
            exact ⟨_, modify_eq_some (modify_eq_some hmanaged), rfl⟩
          · exact ⟨managed, (modify_of_ne hne).trans ((modify_of_ne hne).trans hmanaged), rfl⟩
  | disconnectAll =>
      refine ⟨_, congrArg (Option.map _) hmanaged, ?_⟩
      dsimp only
      split_ifs
      · rfl
      · rfl

/-- Where the clients are in order after an event, the ones it has removed are disconnected. -/
lemma removesDisconnected_step (hs : Known s) (event : ManagerEvent)
    (h : OneLive (managerStep options s event)) :
    RemovesDisconnected s (managerStep options s event) := by
  intro routeId c hc hremoved
  obtain ⟨managed, hmanaged, hroute, -⟩ := hs routeId c hc
  obtain ⟨managed', hmanaged', hroute'⟩ := route_step event hmanaged
  refine ⟨managed', hmanaged', ?_⟩
  by_contra hlive
  have hregistered := h.registered c managed' hmanaged' (Bool.eq_false_of_not_eq_true hlive)
  rw [hroute', hroute] at hregistered
  exact hremoved hregistered

lemma known_initial : Known Manager.initial :=
  fun _ _ hc => absurd hc (by simp [Manager.initial])

lemma oneLive_initial : OneLive Manager.initial :=
  ⟨fun _ _ h => absurd h (by simp [Manager.initial]),
    fun _ _ h => absurd h (by simp [Manager.initial]),
    fun _ _ _ _ h => absurd h (by simp [Manager.initial])⟩

/-- **One live client per route**: in a run of the manager no timer is armed on a client that is in
use, every client that was not disconnected is the one of its route, a route has at most one such
client and none is dropped without being disconnected, if and only if every event of the run is
sound. -/
theorem one_live_client_iff (options : ManagerOptions) (events : List ManagerEvent) :
    ((managerMachine options).Always OneLive .initial events ∧
      (managerMachine options).EachStep
        (fun s event => RemovesDisconnected s (managerStep options s event)) .initial events) ↔
      (managerMachine options).EachStep SoundEvent .initial events := by
  have hiff : (managerMachine options).Always OneLive .initial events ↔
      (managerMachine options).EachStep SoundEvent .initial events :=
    EventMachine.always_iff_eachStep (fun _ event hs => known_step hs event)
      (fun _ event hs h => sound_step hs h event) known_initial oneLive_initial
  rw [← hiff]
  refine and_iff_left_of_imp fun h => ?_
  exact h.eachStep (fun _ event hs => known_step hs event)
    (fun _ event hs hnext => removesDisconnected_step hs event hnext) known_initial

/-- A broker with one route. -/
def sampleManagerOptions : ManagerOptions where
  routes := [⟨"r1", "t1"⟩]

/-- Two plain calls that overlap: the first one arms the timer, and when it fires the client is
disconnected under the second. -/
def overlappingCalls : List ManagerEvent :=
  [.start "r1" 0 .getEffectiveTools, .start "r1" 0 .auditActivityList,
    .complete 0 0 .none (.ok ()) 0 0]

/-- A call that ends after `disconnectAll` arms the timer of its old client, and when it fires the
new client of the route is lost. -/
def staleTimer : List ManagerEvent :=
  [.start "r1" 0 .getEffectiveTools, .disconnectAll,
    .complete 0 0 .none (.error "gatewayBroker.connectionClosed") 0 0,
    .start "r1" 1500 (.startAssistantStream "t1" "agent:a:s"), .idle 0]

/-- The timer of a client is armed while a call of it is in flight; and a client is live that the
map has lost. -/
theorem timer_armed_in_flight :
    (∃ managed, ((managerMachine sampleManagerOptions).outcome .initial overlappingCalls).managed.get 0 =
        some managed ∧ managed.idleTimer = true ∧ managed.inFlight = [1]) ∧
      (∃ managed, ((managerMachine sampleManagerOptions).outcome .initial staleTimer).managed.get 1 =
        some managed ∧ managed.shutdown = false ∧ managed.activeStreams = ["agent:a:s"] ∧
          ((managerMachine sampleManagerOptions).outcome .initial staleTimer).clients "r1" = none) ∧
      ¬ (managerMachine sampleManagerOptions).Always OneLive .initial overlappingCalls ∧
      ¬ (managerMachine sampleManagerOptions).Always OneLive .initial staleTimer := by
  have harmed : ((managerMachine sampleManagerOptions).outcome .initial overlappingCalls).managed.get 0 =
      some ⟨⟨"r1", "t1"⟩, true, false, [], [1]⟩ := by decide
  have hlost : ((managerMachine sampleManagerOptions).outcome .initial staleTimer).managed.get 1 =
      some ⟨⟨"r1", "t1"⟩, false, false, ["agent:a:s"], [1]⟩ := by decide +kernel
  have hclients :
      ((managerMachine sampleManagerOptions).outcome .initial staleTimer).clients "r1" = none := by
    decide +kernel
  refine ⟨⟨_, harmed, rfl, rfl⟩, ⟨_, hlost, rfl, rfl, hclients⟩, fun h => ?_, fun h => ?_⟩
  · have hidle := h.outcome.timers 0 _ harmed rfl
    exact absurd hidle.1 (by decide)
  · have hregistered := h.outcome.registered 1 _ hlost rfl
    rw [hclients] at hregistered
    exact absurd hregistered (by simp)

end Opzava.GatewayBroker
