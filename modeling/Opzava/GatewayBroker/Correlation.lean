import Opzava.Library.Texts
import Opzava.GatewayBroker.OperatorClient

/-!
Requests and their responses.

A request is pending from its call until it is settled, once, by its response, its timer, an error
of the socket, or the end of the connection. A response to a request that is not pending any more
is taken for a violation of the protocol, and fails the whole connection.

* `RpcEffect`, `rpc_effect`: all that an event does to the requests.
* `RpcOk`, `rpcOk_step`: ids are not reused, and a request is pending until it is settled.
* `settled_once`, `settled_ok_of_response`: how requests settle.
* `correlation`: these for every run, and when a gateway that answers every request at most once
  never fails the connection.
-/

namespace Opzava.GatewayBroker

open Opzava.Library

/-! ### Effects -/

/-- The id of the next request. -/
def Rpc.nextId (rpc : Rpc) (method : String) : String :=
  method ++ ":" ++ toString rpc.requestSequence

/-- The requests after a new one. -/
def Rpc.send (rpc : Rpc) (method : String) : Rpc :=
  { rpc with
    requestSequence := rpc.requestSequence + 1
    pending := rpc.pending.set (rpc.nextId method) method
    sent := rpc.sent ++ [rpc.nextId method] }

structure ResponseFrame where
  id : String
  ok : Bool
  payload : JsValue
  error : JsValue

/-- The response an event brings, on a socket whose handshake is complete. -/
def response? (client : OperatorClient) (event : ClientEvent) : Option ResponseFrame :=
  match event with
  | .message n (some (.res id ok payload error)) =>
      if (client.connection.sockets.get n).any
          (fun socket => !socket.ended && socket.handshakeComplete) then
        some ⟨id, ok, payload, error⟩
      else none
  | _ => none

/-- What an event that is no response does to the requests: nothing, a number that is taken by a
request that is too large, a new request, a pending one that fails, or all of them. -/
inductive RpcQuiet (rpc : Rpc) : Rpc → Prop
  | same : RpcQuiet rpc rpc
  | tooLarge : RpcQuiet rpc { rpc with requestSequence := rpc.requestSequence + 1 }
  | sent (method : String) : RpcQuiet rpc (rpc.send method)
  | failed (id : String) (error : BrokerError) (hpending : rpc.pending.has id = true) :
      RpcQuiet rpc (rpc.settle id (.error error))
  | rejected (error : BrokerError) : RpcQuiet rpc (rpc.rejectPending error)

/-- The requests of two clients, where the second one has failed no further connection. -/
def Quiet (client client' : OperatorClient) : Prop :=
  RpcQuiet client.rpc client'.rpc ∧ client'.failConnections = client.failConnections

section Effects

variable {texts : GatewayTexts} {options : ClientOptions} {client client' : OperatorClient}
  {event : ClientEvent} {c : ℕ}

/-- What a client does whose requests are those of another one. -/
lemma Quiet.of_same {before : OperatorClient} (h : Quiet before client')
    (hrpc : before.rpc = client.rpc) (hfail : before.failConnections = client.failConnections) :
    Quiet client client' :=
  ⟨hrpc ▸ h.1, h.2.trans hfail⟩

lemma quiet_request (texts : GatewayTexts) (client : OperatorClient) (method : String) (params : JsRecord)
    (sideEffect : Option String) :
    Quiet client (client.request texts method params sideEffect).2 := by
  unfold OperatorClient.request
  dsimp only
  split_ifs
  · exact ⟨.same, rfl⟩
  · exact ⟨.same, rfl⟩
  · exact ⟨.tooLarge, rfl⟩
  · exact ⟨.sent method, rfl⟩

lemma quiet_ensureSessionCreated {input : StartAssistantStreamInput} {force : Bool} :
    Quiet client (client.ensureSessionCreated texts c input force) := by
  unfold OperatorClient.ensureSessionCreated
  split_ifs
  · exact ⟨.same, rfl⟩
  · exact quiet_request texts client _ _ none

lemma quiet_streamStarted {input : StartAssistantStreamInput} {payload : JsValue} :
    Quiet client (client.streamStarted texts c input payload) := by
  unfold OperatorClient.streamStarted
  dsimp only
  split_ifs
  · exact (quiet_request texts _ _ _ none).of_same rfl rfl
  · exact ⟨.same, rfl⟩

lemma quiet_resumeStream {input : StartAssistantStreamInput} {point : CallPoint} :
    Quiet client (client.resumeStream texts c input point) := by
  unfold OperatorClient.resumeStream
  split
  · split
    · exact ⟨.same, rfl⟩
    · exact ⟨.same, rfl⟩
    · exact quiet_ensureSessionCreated.of_same rfl rfl
  · split
    · exact ⟨.same, rfl⟩
    · unfold OperatorClient.sessionCreated
      split
      · exact ⟨.same, rfl⟩
      · exact ⟨.same, rfl⟩
  · split
    · exact ⟨.same, rfl⟩
    · exact quiet_request texts client _ _ _
  · split
    · exact ⟨.same, rfl⟩
    · exact quiet_streamStarted
    · split_ifs
      · exact quiet_ensureSessionCreated.of_same rfl rfl
      · exact ⟨.same, rfl⟩
  · exact ⟨.same, rfl⟩

lemma quiet_resumePlain {method : String} {params : JsRecord} {check : Option BrokerError}
    {point : CallPoint} : Quiet client (client.resumePlain texts c method params check point) := by
  unfold OperatorClient.resumePlain
  split
  · split
    · exact ⟨.same, rfl⟩
    · exact ⟨.same, rfl⟩
    · exact ⟨.same, rfl⟩
    · have hrequest := quiet_request texts client method params none
      exact ⟨hrequest.1, hrequest.2⟩
  · split
    · exact ⟨.same, rfl⟩
    · exact ⟨.same, rfl⟩
  · exact ⟨.same, rfl⟩

lemma quiet_resume : Quiet client (client.resume texts c) := by
  unfold OperatorClient.resume
  split
  · exact ⟨.same, rfl⟩
  · split
    · exact quiet_resumeStream
    · exact quiet_resumePlain
    · exact quiet_resumePlain
    · split
      · split
        · exact ⟨.same, rfl⟩
        · exact ⟨.same, rfl⟩
      · exact ⟨.same, rfl⟩

lemma quiet_handleSocketClosed {now : ℤ} : Quiet client (client.handleSocketClosed options now) := by
  unfold OperatorClient.handleSocketClosed
  dsimp only
  split_ifs
  · exact ⟨.rejected connectionClosed, rfl⟩
  · exact ⟨.rejected connectionClosed, rfl⟩

lemma quiet_handleEvent {name : String} {payload : JsValue} :
    Quiet client (client.handleEvent texts name payload) := by
  unfold OperatorClient.handleEvent
  split_ifs
  · exact ⟨.same, rfl⟩
  · split
    · exact ⟨.same, rfl⟩
    · exact ⟨.same, rfl⟩
  · exact ⟨.same, rfl⟩
  · exact ⟨.same, rfl⟩

lemma quiet_startAssistantStream {input : StartAssistantStreamInput} {now : ℤ} :
    Quiet client (client.startAssistantStream options input now) := by
  unfold OperatorClient.startAssistantStream
  dsimp only
  split_ifs
  · exact ⟨.same, rfl⟩
  · exact ⟨.same, rfl⟩
  · exact ⟨.same, rfl⟩

lemma quiet_settlePending {id : String} {error : BrokerError} :
    RpcQuiet client.rpc (client.rpc.settlePending id (.error error)) := by
  unfold Rpc.settlePending
  split_ifs with hpending
  · exact .failed id error hpending
  · exact .same

lemma quiet_handleClose {n : ℕ} {now : ℤ} : Quiet client (client.handleClose options n now) := by
  unfold OperatorClient.handleClose
  split
  · exact ⟨.same, rfl⟩
  · split_ifs
    · exact ⟨.same, rfl⟩
    · exact quiet_handleSocketClosed.of_same rfl rfl
    · exact ⟨.same, rfl⟩

lemma quiet_handleMessage {n : ℕ} {frame : Option Frame}
    (h : response? client (.message n frame) = none) :
    Quiet client (client.handleMessage texts n frame) := by
  unfold OperatorClient.handleMessage
  split
  · exact ⟨.same, rfl⟩
  · next socket hsocket =>
      by_cases hended : socket.ended = true
      · rw [if_pos hended]
        exact ⟨.same, rfl⟩
      · rw [if_neg hended]
        cases frame with
        | none => exact ⟨.same, rfl⟩
        | some frame =>
            by_cases hcomplete : socket.handshakeComplete = true
            · simp only [if_pos hcomplete]
              cases frame with
              | req => exact ⟨.same, rfl⟩
              | res id ok payload error => simp [response?, hsocket, hended, hcomplete] at h
              | event name payload => exact quiet_handleEvent
            · simp only [if_neg hcomplete]
              exact ⟨.same, rfl⟩

/-- A response is handled. -/
lemma step_of_response {response : ResponseFrame} (h : response? client event = some response) :
    clientStep options client event = client.handleResponse options.texts response.id response.ok
      response.payload response.error := by
  unfold response? at h
  split at h
  · next n id ok payload error =>
      split_ifs at h with hsocket
      obtain rfl := Option.some.inj h
      obtain ⟨socket, hsome, hopen⟩ := Option.any_eq_true _ _ |>.mp hsocket
      rw [Bool.and_eq_true, Bool.not_eq_true'] at hopen
      simp only [clientStep, OperatorClient.handleMessage, hsome, hopen,
        OperatorClient.handleFrame, if_true, Bool.false_eq_true, if_false]
  · exact absurd h (by simp)

/-- **What an event does to the requests** when it brings no response. -/
lemma quiet_step (h : response? client event = none) :
    Quiet client (clientStep options client event) := by
  cases event with
  | startAssistantStream input now => exact quiet_startAssistantStream
  | getEffectiveTools sessionKey now => exact ⟨.same, rfl⟩
  | auditActivityList params now => exact ⟨.same, rfl⟩
  | ensureConnected now => exact ⟨.same, rfl⟩
  | resume c => exact quiet_resume
  | message n frame => exact quiet_handleMessage h
  | close n now => exact quiet_handleClose
  | error n => exact ⟨.same, rfl⟩
  | signFailed n => exact ⟨.same, rfl⟩
  | challengeTimeout n => exact ⟨.same, rfl⟩
  | requestTimeout id => exact ⟨quiet_settlePending, rfl⟩
  | sendFailed id => exact ⟨quiet_settlePending, rfl⟩
  | connectStep now => exact ⟨.same, rfl⟩
  | wake now => exact ⟨.same, rfl⟩
  | connectFinally => exact ⟨.same, rfl⟩
  | disconnect => exact ⟨.rejected connectionClosed, rfl⟩
  | next stream => exact ⟨.same, rfl⟩

end Effects

/-! ### The invariant -/

/-- The ids of the requests that are settled. -/
def Rpc.settledIds (rpc : Rpc) : List String := rpc.settled.map Prod.fst

/-- The requests of a client: an id is the method and a number that was given out once, a request
is pending until it is settled, and it is settled once. -/
structure RpcOk (rpc : Rpc) : Prop where
  numbered : ∀ id ∈ rpc.sent, ∃ method k, k < rpc.requestSequence ∧
    id = method ++ ":" ++ toString k
  nodup : rpc.sent.Nodup
  once : rpc.settledIds.Nodup
  pending : ∀ id, rpc.pending.has id = true ↔ id ∈ rpc.sent ∧ id ∉ rpc.settledIds
  settled : ∀ id ∈ rpc.settledIds, id ∈ rpc.sent
  responded : ∀ id ∈ rpc.respondedIds, id ∈ rpc.settledIds ∧ id ∈ rpc.answered

section Invariant

variable {rpc rpc' : Rpc}

lemma RpcOk.nextId_notMem (h : RpcOk rpc) (method : String) : rpc.nextId method ∉ rpc.sent := by
  intro hmem
  obtain ⟨method', k, hk, hid⟩ := h.numbered _ hmem
  obtain ⟨-, rfl⟩ := append_number_inj hid
  exact absurd hk (lt_irrefl _)

lemma RpcOk.send (h : RpcOk rpc) (method : String) : RpcOk (rpc.send method) := by
  have hnew := h.nextId_notMem method
  have hunsettled : rpc.nextId method ∉ rpc.settledIds := fun hmem => hnew (h.settled _ hmem)
  constructor
  · intro id hid
    rcases List.mem_append.mp hid with hold | hself
    · obtain ⟨method', k, hk, rfl⟩ := h.numbered id hold
      exact ⟨method', k, Nat.lt_succ_of_lt hk, rfl⟩
    · obtain rfl := List.mem_singleton.mp hself
      exact ⟨method, _, Nat.lt_succ_self _, rfl⟩
  · exact List.nodup_append.mpr ⟨h.nodup, List.nodup_singleton _, fun a ha b hb =>
      (List.mem_singleton.mp hb) ▸ fun hab => hnew (hab ▸ ha)⟩
  · exact h.once
  · intro id
    have hhas : (rpc.send method).pending.has id = true ↔
        id = rpc.nextId method ∨ rpc.pending.has id = true := by
      rw [OrderedMap.has, OrderedMap.has, Rpc.send, OrderedMap.get_set]
      by_cases hid : id = rpc.nextId method <;> simp [hid]
    rw [hhas, h.pending id]
    simp only [Rpc.send, List.mem_append, List.mem_singleton]
    constructor
    · rintro (rfl | ⟨hsent, hsettled⟩)
      · exact ⟨.inr rfl, hunsettled⟩
      · exact ⟨.inl hsent, hsettled⟩
    · rintro ⟨hsent | hself, hsettled⟩
      · exact .inr ⟨hsent, hsettled⟩
      · exact .inl hself
  · exact fun id hid => List.mem_append_left _ (h.settled id hid)
  · exact h.responded

lemma mem_settledIds_settle (rpc : Rpc) (id : String) (result : Except BrokerError JsValue) :
    id ∈ (rpc.settle id result).settledIds := by
  simp [Rpc.settledIds, Rpc.settle]

/-- A pending request is settled. -/
lemma RpcOk.settle (h : RpcOk rpc) {id : String} (hpending : rpc.pending.has id = true)
    (result : Except BrokerError JsValue) : RpcOk (rpc.settle id result) := by
  obtain ⟨hsent, hunsettled⟩ := (h.pending id).mp hpending
  have hids : (rpc.settle id result).settledIds = rpc.settledIds ++ [id] := List.map_append
  refine ⟨h.numbered, h.nodup, ?_, fun id' => ?_, fun id' hid' => ?_, fun id' hid' => ?_⟩
  · rw [hids]
    exact List.nodup_append.mpr ⟨h.once, List.nodup_singleton _, fun a ha b hb =>
      (List.mem_singleton.mp hb) ▸ fun hab => hunsettled (hab ▸ ha)⟩
  · have hhas : (rpc.settle id result).pending.has id' = true ↔
        id' ≠ id ∧ rpc.pending.has id' = true := by
      rw [OrderedMap.has, OrderedMap.has, Rpc.settle, OrderedMap.get_delete]
      by_cases hid : id' = id <;> simp [hid]
    rw [hhas, h.pending id', hids, List.mem_append, List.mem_singleton, not_or]
    constructor
    · rintro ⟨hne, hsent', hsettled'⟩
      exact ⟨hsent', hsettled', hne⟩
    · rintro ⟨hsent', hsettled', hne⟩
      exact ⟨hne, hsent', hsettled'⟩
  · rw [hids, List.mem_append, List.mem_singleton] at hid'
    rcases hid' with hold | rfl
    · exact h.settled id' hold
    · exact hsent
  · obtain ⟨hsettled, hanswered⟩ := h.responded id' hid'
    exact ⟨hids ▸ List.mem_append_left _ hsettled, hanswered⟩

lemma has_iff_mem_keys {κ ν : Type} [DecidableEq κ] {m : OrderedMap κ ν} {k : κ} :
    m.has k = true ↔ k ∈ m.entries.map Prod.fst := by
  rw [OrderedMap.has, Option.isSome_iff_exists, List.mem_map]
  constructor
  · rintro ⟨v, hv⟩
    exact ⟨(k, v), OrderedMap.mem_entries_iff.mpr hv, rfl⟩
  · rintro ⟨⟨k', v⟩, hmem, rfl⟩
    exact ⟨v, OrderedMap.mem_entries_iff.mp hmem⟩

/-- All the pending requests are settled. -/
lemma RpcOk.rejectPending (h : RpcOk rpc) (error : BrokerError) :
    RpcOk (rpc.rejectPending error) := by
  have hids : (rpc.rejectPending error).settledIds =
      rpc.settledIds ++ rpc.pending.entries.map Prod.fst := by
    rw [Rpc.settledIds, Rpc.rejectPending, List.map_append, List.map_map]
    rfl
  have hmem : ∀ id, id ∈ rpc.pending.entries.map Prod.fst ↔ id ∈ rpc.sent ∧ id ∉ rpc.settledIds :=
    fun id => has_iff_mem_keys.symm.trans (h.pending id)
  refine ⟨h.numbered, h.nodup, ?_, fun id => ?_, fun id hid => ?_, fun id hid => ?_⟩
  · rw [hids]
    exact List.nodup_append.mpr ⟨h.once, rpc.pending.nodupKeys, fun a ha b hb hab =>
      ((hmem b).mp hb).2 (hab ▸ ha)⟩
  · refine iff_of_false (by simp [Rpc.rejectPending, OrderedMap.has, OrderedMap.get,
      OrderedMap.empty]) ?_
    rintro ⟨hsent, hunsettled⟩
    rw [hids, List.mem_append, not_or] at hunsettled
    exact hunsettled.2 ((hmem id).mpr ⟨hsent, hunsettled.1⟩)
  · rw [hids, List.mem_append] at hid
    rcases hid with hold | hpending
    · exact h.settled id hold
    · exact ((hmem id).mp hpending).1
  · obtain ⟨hsettled, hanswered⟩ := h.responded id hid
    exact ⟨hids ▸ List.mem_append_left _ hsettled, hanswered⟩

/-- A response that was seen. -/
lemma RpcOk.answer (h : RpcOk rpc) (id : String) :
    RpcOk { rpc with answered := rpc.answered ++ [id] } :=
  ⟨h.numbered, h.nodup, h.once, h.pending, h.settled, fun id' hid' =>
    ⟨(h.responded id' hid').1, List.mem_append_left _ (h.responded id' hid').2⟩⟩

lemma RpcQuiet.rpcOk (hquiet : RpcQuiet rpc rpc') (h : RpcOk rpc) : RpcOk rpc' := by
  cases hquiet with
  | same => exact h
  | tooLarge =>
      refine ⟨fun id hid => ?_, h.nodup, h.once, h.pending, h.settled, h.responded⟩
      obtain ⟨method, k, hk, rfl⟩ := h.numbered id hid
      exact ⟨method, k, Nat.lt_succ_of_lt hk, rfl⟩
  | sent method => exact h.send method
  | failed id error hpending => exact h.settle hpending _
  | rejected error => exact h.rejectPending error

/-- What a response does: it settles its request if that is pending, and fails the connection if
not. -/
lemma handleResponse_spec {texts : GatewayTexts} {client : OperatorClient} (h : RpcOk client.rpc)
    (response : ResponseFrame) :
    (client.rpc.pending.has response.id = true ∧
      (client.handleResponse texts response.id response.ok response.payload response.error).rpc =
        ({ client.rpc with
          answered := client.rpc.answered ++ [response.id]
          respondedIds := client.rpc.respondedIds ++ [response.id] }.settle response.id
            (OperatorClient.responseResult texts response.ok response.payload response.error)) ∧
      (client.handleResponse texts response.id response.ok response.payload
        response.error).failConnections = client.failConnections) ∨
    (client.rpc.pending.has response.id = false ∧ ∃ error,
      (client.handleResponse texts response.id response.ok response.payload response.error).rpc =
        { client.rpc with answered := client.rpc.answered ++ [response.id] }.rejectPending error ∧
      (client.handleResponse texts response.id response.ok response.payload
        response.error).failConnections = client.failConnections + 1) := by
  have hpending := h.pending response.id
  unfold OperatorClient.handleResponse
  dsimp only
  split_ifs with hresponded hunknown
  · have hsettled := (h.responded _ hresponded).1
    refine .inr ⟨?_, duplicateResponse, rfl, rfl⟩
    by_contra hhas
    exact (hpending.mp (Bool.eq_true_of_not_eq_false hhas)).2 hsettled
  · exact .inr ⟨hunknown, unknownResponse, rfl, rfl⟩
  · exact .inl ⟨Bool.eq_true_of_not_eq_false hunknown, rfl, rfl⟩

/-- The invariant is kept by every event. -/
lemma rpcOk_step (options : ClientOptions) (client : OperatorClient) (event : ClientEvent)
    (h : RpcOk client.rpc) : RpcOk (clientStep options client event).rpc := by
  cases hresponse : response? client event with
  | none => exact (quiet_step hresponse).1.rpcOk h
  | some response =>
      rw [step_of_response hresponse]
      rcases handleResponse_spec h response with ⟨hpending, hrpc, -⟩ | ⟨-, error, hrpc, -⟩
      · rw [hrpc]
        obtain ⟨hnumbered, hnodup, honce, hpendings, hsettled, hresponded⟩ :=
          (h.answer response.id).settle hpending _
        refine ⟨hnumbered, hnodup, honce, hpendings, hsettled, fun id hid => ?_⟩
        rcases List.mem_append.mp hid with hold | hself
        · exact hresponded id hold
        · obtain rfl := List.mem_singleton.mp hself
          exact ⟨mem_settledIds_settle .., List.mem_append_right _ (List.mem_singleton_self _)⟩
      · rw [hrpc]
        exact (h.answer response.id).rejectPending error

end Invariant

/-! ### Runs -/

section Runs

variable {options : ClientOptions} {client : OperatorClient} {event : ClientEvent}

lemma rpcOk_initial : RpcOk OperatorClient.initial.rpc := by
  constructor
  · exact fun _ hid => absurd hid List.not_mem_nil
  · exact List.nodup_nil
  · exact List.nodup_nil
  · exact fun id => ⟨fun h => absurd h (by simp [OperatorClient.initial, OrderedMap.has,
      OrderedMap.get, OrderedMap.empty]), fun h => absurd h.1 List.not_mem_nil⟩
  · exact fun _ hid => absurd hid List.not_mem_nil
  · exact fun _ hid => absurd hid List.not_mem_nil

lemma rpcOk_run (options : ClientOptions) (events : List ClientEvent) :
    RpcOk ((clientMachine options).outcome .initial events).rpc :=
  (EventMachine.always_of_invariant (I := fun client => RpcOk client.rpc)
    (fun client event h => rpcOk_step options client event h) rpcOk_initial).outcome

/-- A request is settled with a payload only by a response with it. -/
lemma settled_ok_step (h : RpcOk client.rpc) {id : String} {payload : JsValue}
    (hbefore : (id, .ok payload) ∉ client.rpc.settled)
    (hafter : (id, .ok payload) ∈ (clientStep options client event).rpc.settled) :
    client.rpc.pending.has id = true ∧
      ∃ error, response? client event = some ⟨id, true, payload, error⟩ := by
  have hrejected : ∀ (rpc : Rpc) error, rpc.settled = client.rpc.settled →
      (id, .ok payload) ∉ (rpc.rejectPending error).settled := by
    intro rpc error hsettled hmem
    rw [Rpc.rejectPending, hsettled, List.mem_append, List.mem_map] at hmem
    rcases hmem with hold | ⟨entry, -, hentry⟩
    · exact hbefore hold
    · exact absurd (congrArg Prod.snd hentry) (by simp)
  cases hresponse : response? client event with
  | none =>
      have hquiet : RpcQuiet client.rpc (clientStep options client event).rpc :=
        (quiet_step hresponse).1
      generalize (clientStep options client event).rpc = rpc' at hquiet hafter
      cases hquiet with
      | same => exact absurd hafter hbefore
      | tooLarge => exact absurd hafter hbefore
      | sent method => exact absurd hafter hbefore
      | failed id' error hpending =>
          rcases List.mem_append.mp hafter with hold | hself
          · exact absurd hold hbefore
          · exact absurd (congrArg Prod.snd (List.mem_singleton.mp hself)) (by simp)
      | rejected error => exact absurd hafter (hrejected client.rpc error rfl)
  | some response =>
      rw [step_of_response hresponse] at hafter
      rcases handleResponse_spec h response with ⟨hpending, hrpc, -⟩ | ⟨-, error, hrpc, -⟩
      · rw [hrpc] at hafter
        rcases List.mem_append.mp hafter with hold | hself
        · exact absurd hold hbefore
        · obtain ⟨rfl, hresult⟩ := Prod.mk.inj (List.mem_singleton.mp hself)
          cases hok : response.ok with
          | false =>
              rw [OperatorClient.responseResult, hok] at hresult
              exact absurd hresult (by simp)
          | true =>
              rw [OperatorClient.responseResult, hok, if_pos rfl, Except.ok.injEq] at hresult
              exact ⟨hpending, response.error, by rw [hresult, ← hok]⟩
      · rw [hrpc] at hafter
        exact absurd hafter (hrejected _ error rfl)

/-- The gateway answers a request that was sent to it, and once. -/
def CorrectGateway (client : OperatorClient) (event : ClientEvent) : Prop :=
  ∀ response ∈ response? client event,
    response.id ∈ client.rpc.sent ∧ response.id ∉ client.rpc.answered

/-- No response comes for a request that was settled without it: by its timer, by a failed send, or
with the connection it was made on. -/
def OnTime (client : OperatorClient) (event : ClientEvent) : Prop :=
  ∀ response ∈ response? client event, response.id ∉ client.rpc.settledIds

instance : DecidableRel CorrectGateway := fun client event =>
  match h : response? client event with
  | none => Decidable.isTrue fun response hresponse => by rw [h] at hresponse; exact absurd hresponse (by simp)
  | some response => decidable_of_iff (response.id ∈ client.rpc.sent ∧
      response.id ∉ client.rpc.answered) (by simp [CorrectGateway, h])

/-- An event of a correct gateway fails the connection if and only if it is a late response. -/
lemma failConnections_step (h : RpcOk client.rpc) (hcorrect : CorrectGateway client event) :
    (OnTime client event ∧
      (clientStep options client event).failConnections = client.failConnections) ∨
    (¬ OnTime client event ∧
      (clientStep options client event).failConnections = client.failConnections + 1) := by
  cases hresponse : response? client event with
  | none =>
      refine .inl ⟨fun response hmem => ?_, (quiet_step hresponse).2⟩
      rw [hresponse] at hmem
      exact absurd hmem (by simp)
  | some response =>
      have hsent := (hcorrect response hresponse).1
      rw [step_of_response hresponse]
      rcases handleResponse_spec h response with ⟨hpending, -, hfail⟩ | ⟨hpending, error, -, hfail⟩
      · refine .inl ⟨fun response' hmem => ?_, hfail⟩
        obtain rfl := Option.some.inj (hresponse.symm.trans hmem)
        exact ((h.pending _).mp hpending).2
      · refine .inr ⟨fun hontime => ?_, hfail⟩
        have hhas := (h.pending response.id).mpr ⟨hsent, hontime response hresponse⟩
        rw [hpending] at hhas
        exact absurd hhas (by simp)

/-- The failed connections of a run with a correct gateway. -/
lemma failConnections_run (options : ClientOptions) (events : List ClientEvent)
    (h : RpcOk client.rpc) (hcorrect : (clientMachine options).EachStep CorrectGateway client events) :
    client.failConnections ≤ ((clientMachine options).outcome client events).failConnections ∧
      (((clientMachine options).outcome client events).failConnections = client.failConnections ↔
        (clientMachine options).EachStep OnTime client events) := by
  induction events generalizing client with
  | nil => exact ⟨le_rfl, iff_of_true rfl trivial⟩
  | cons event events ih =>
      obtain ⟨hle, hiff⟩ := ih (rpcOk_step options client event h) hcorrect.2
      have hstep : (OnTime client event ∧
          (clientStep options client event).failConnections = client.failConnections) ∨
          (¬ OnTime client event ∧
            (clientStep options client event).failConnections = client.failConnections + 1) :=
        failConnections_step h hcorrect.1
      rcases hstep with ⟨hontime, hfail⟩ | ⟨hlate, hfail⟩
      · rw [hfail] at hle hiff
        exact ⟨hle, hiff.trans (and_iff_right hontime).symm⟩
      · rw [hfail] at hle
        have hlt : client.failConnections <
            ((clientMachine options).outcome client (event :: events)).failConnections :=
          Nat.lt_of_succ_le hle
        exact ⟨hlt.le, iff_of_false hlt.ne' fun heach => hlate heach.1⟩

/-- **Correlation of requests and responses.** In every run of a client, ids are not reused, a
request is settled at most once and is pending until it is, with its timer still running; it is
settled with a payload only by a response with its id and the payload that came while it was
pending. And where the gateway answers only what it was sent, and once, it never fails the
connection if and only if none of its answers comes after its request was settled without it. -/
theorem correlation (options : ClientOptions) (events : List ClientEvent) :
    let client := (clientMachine options).outcome .initial events
    client.rpc.sent.Nodup ∧ client.rpc.settledIds.Nodup ∧
    (∀ id ∈ client.rpc.settledIds, id ∈ client.rpc.sent) ∧
    (∀ id ∈ client.rpc.sent, id ∈ client.rpc.settledIds ∨
      (id, .error requestTimedOut) ∈ (clientStep options client (.requestTimeout id)).rpc.settled) ∧
    (∀ id payload, (id, .ok payload) ∈ client.rpc.settled →
      ∃ before event after error, events = before ++ event :: after ∧
        ((clientMachine options).outcome .initial before).rpc.pending.has id = true ∧
        response? ((clientMachine options).outcome .initial before) event =
          some ⟨id, true, payload, error⟩) ∧
    ((clientMachine options).EachStep CorrectGateway .initial events →
      (client.failConnections = 0 ↔ (clientMachine options).EachStep OnTime .initial events)) := by
  intro client
  have hok : RpcOk client.rpc := rpcOk_run options events
  refine ⟨hok.nodup, hok.once, hok.settled, fun id hid => ?_, fun id payload hmem => ?_,
    fun hcorrect => (failConnections_run options events rpcOk_initial hcorrect).2⟩
  · by_cases hsettled : id ∈ client.rpc.settledIds
    · exact .inl hsettled
    · right
      have hpending : client.rpc.pending.has id = true := (hok.pending id).mpr ⟨hid, hsettled⟩
      simp [clientStep, Rpc.settlePending, hpending, Rpc.settle]
  · have hinitial : (id, Except.ok payload) ∉ OperatorClient.initial.rpc.settled := List.not_mem_nil
    obtain ⟨before, event, after, rfl, hbefore, hafter⟩ :=
      EventMachine.exists_step_of_outcome
        (P := fun client : OperatorClient => (id, Except.ok payload) ∈ client.rpc.settled) hinitial
        hmem
    obtain ⟨hpending, error, hresponse⟩ := settled_ok_step (rpcOk_run options before) hbefore hafter
    exact ⟨before, event, after, error, rfl, hpending, hresponse⟩

/-- A slow answer: the request times out, and its response comes after that. -/
def lateAnswer : List ClientEvent :=
  connectedRun ++ [.getEffectiveTools "agent:a:s" 0, .resume 1, .requestTimeout "tools.effective:0",
    .message 0 (some (.res "tools.effective:0" true (.object []) .undefined))]

/-- The gateway answers its one request once, and the answer fails the connection. -/
theorem late_answer_fails_connection :
    (clientMachine sampleClientOptions).EachStep CorrectGateway .initial lateAnswer ∧
      ((clientMachine sampleClientOptions).outcome .initial lateAnswer).failConnections = 1 := by
  constructor
  · decide
  · decide

end Runs

end Opzava.GatewayBroker
