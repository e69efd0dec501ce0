import Opzava.GatewayBroker.OperatorClient
import Opzava.GatewayBroker.StreamEvents

/-!
The streams of a client and the calls that have started them.

* `StreamEffect`, `stream_effect`: all that an event does to the streams and the calls.
* `stream_events_terminated`: the events of every stream, in every run.
* `streams_registered`: the streams that are open are the ones of the map, in every run whose
  responses to `sessions.send` keep the keys apart.
-/

namespace Opzava.GatewayBroker

open Opzava.Library

/-! ### Effects -/

/-- The call has not come to its end. -/
def CallPoint.running : CallPoint → Bool
  | .returned _ => false
  | .thrown => false
  | _ => true

/-- The call has failed, with an error or by a throw. -/
def CallPoint.failed : CallPoint → Bool
  | .returned (.error _) => true
  | .thrown => true
  | _ => false

/-- The call is one of `startAssistantStream`. -/
def CallKind.isStream : CallKind → Bool
  | .startAssistantStream _ => true
  | _ => false

/-- What an event does to the streams and the calls: the streams move; a call is made without a
stream; the connection is lost; a stream is registered with its call; a call goes on; a call fails
and closes its stream; a call has the response to its message. -/
inductive StreamEffect (texts : GatewayTexts) (client : OperatorClient) (event : ClientEvent) :
    StreamTable → Objects Call → Prop
  | moved (table : StreamTable) (hmoves : TableMoves client.table table) :
      StreamEffect texts client event table client.calls
  | added (kind : CallKind) (point : CallPoint)
      (hkind : kind.isStream = false ∨ ∃ error, point = .returned (.error error)) :
      StreamEffect texts client event client.table (client.calls.add ⟨kind, point⟩)
  | lost (code message : String) (calls : Objects Call)
      (hcalls : calls = client.calls ∨ ∃ wait,
        calls = client.calls.add ⟨.ensureConnected, .connecting wait⟩) :
      StreamEffect texts client event (client.table.failActiveStreams code message) calls
  | registered (input : StartAssistantStreamInput) (wait : ConnectWait)
      (hfree : client.table.activeStreams.get input.sessionKey = none) :
      StreamEffect texts client event
        (client.table.register client.calls.next input.sessionKey input.turnId)
        (client.calls.add ⟨.startAssistantStream input, .connecting wait⟩)
  | continued (table : StreamTable) (c : ℕ) (call : Call) (point : CallPoint)
      (hmoves : TableMoves client.table table) (hcall : client.calls.get c = some call)
      (hrunning : call.point.running = true)
      (hpoint : call.kind.isStream = true → point.running = true) :
      StreamEffect texts client event table
        (client.calls.modify c fun call => { call with point := point })
  | abandoned (c : ℕ) (input : StartAssistantStreamInput) (point : CallPoint) (error : BrokerError)
      (hcall : client.calls.get c = some ⟨.startAssistantStream input, point⟩)
      (hrunning : point.running = true) :
      StreamEffect texts client event (client.table.closeActiveStream input.sessionKey c)
        (client.calls.modify c fun call => { call with point := .returned (.error error) })
  | started (table : StreamTable) (c : ℕ) (input : StartAssistantStreamInput) (again : Bool)
      (wait : RequestWait) (payload : JsValue) (point : CallPoint)
      (hevent : event = .resume c)
      (hcall : client.calls.get c = some ⟨.startAssistantStream input, .sending again wait⟩)
      (hresult : client.requestResult wait = some (.ok payload))
      (hmoves : TableMoves (client.table.bindRun c input.sessionKey
        (OperatorClient.responseSessionKey payload input.sessionKey)
        (OperatorClient.responseRunId payload input.idempotencyKey)) table)
      (hpoint : point = .thrown ∨ ∃ receipt, point = .returned (.ok receipt)) :
      StreamEffect texts client event table
        (client.calls.modify c fun call => { call with point := point })

section Effects

variable {texts : GatewayTexts} {options : ClientOptions} {client : OperatorClient}
  {event : ClientEvent} {c : ℕ} {input : StartAssistantStreamInput}

lemma request_table (texts : GatewayTexts) (client : OperatorClient) (method : String)
    (params : JsRecord) (sideEffect : Option String) :
    (client.request texts method params sideEffect).2.table = client.table ∧
      (client.request texts method params sideEffect).2.calls = client.calls := by
  unfold OperatorClient.request
  dsimp only
  split_ifs
  · exact ⟨rfl, rfl⟩
  · exact ⟨rfl, rfl⟩
  · exact ⟨rfl, rfl⟩
  · exact ⟨rfl, rfl⟩

/-- `ensureSessionCreated` sets the point of its call. -/
lemma ensureSessionCreated_table (texts : GatewayTexts) (client : OperatorClient) (c : ℕ)
    (input : StartAssistantStreamInput) (force : Bool) :
    (client.ensureSessionCreated texts c input force).table = client.table ∧
      ∃ point : CallPoint, point.running = true ∧
        (client.ensureSessionCreated texts c input force).calls =
          client.calls.modify c fun call => { call with point := point } := by
  unfold OperatorClient.ensureSessionCreated
  split_ifs
  · exact ⟨rfl, .created force (.ok ()), rfl, rfl⟩
  · obtain ⟨htable, hcalls⟩ := request_table texts client "sessions.create"
      [("key", .string input.sessionKey), ("agentId", .string input.assistantKey)] none
    exact ⟨htable, .creating force (client.request texts "sessions.create"
      [("key", .string input.sessionKey), ("agentId", .string input.assistantKey)] none).1, rfl,
      congrArg (fun calls => Objects.modify calls c _) hcalls⟩

lemma streamStarted_effect {again : Bool} {wait : RequestWait} {payload : JsValue}
    (hcall : client.calls.get c = some ⟨.startAssistantStream input, .sending again wait⟩)
    (hresult : client.requestResult wait = some (.ok payload)) :
    StreamEffect texts client (.resume c) (client.streamStarted texts c input payload).table
      (client.streamStarted texts c input payload).calls := by
  set key := OperatorClient.responseSessionKey payload input.sessionKey with hkey
  set bound := client.table.bindRun c input.sessionKey key
    (OperatorClient.responseRunId payload input.idempotencyKey) with hbound
  have hmoves : TableMoves bound (bound.flushPendingStreamEvents texts key c).1 :=
    flushPendingStreamEvents_moves key
  unfold OperatorClient.streamStarted
  dsimp only
  rw [← hkey, ← hbound]
  split_ifs
  · obtain ⟨htable, hcalls⟩ := request_table texts
      { client with table := (bound.flushPendingStreamEvents texts key c).1 }
      "sessions.messages.subscribe"
      [("key", .string key), ("agentId", .string input.assistantKey)] none
    simp only [OperatorClient.setPoint, htable, hcalls]
    exact .started _ c input again wait payload _ rfl hcall hresult hmoves (.inr ⟨_, rfl⟩)
  · exact .started _ c input again wait payload .thrown rfl hcall hresult hmoves (.inl rfl)

/-- A call of `startAssistantStream` goes on. -/
lemma resumeStream_effect {point : CallPoint}
    (hcall : client.calls.get c = some ⟨.startAssistantStream input, point⟩) :
    StreamEffect texts client (.resume c) (client.resumeStream texts c input point).table
      (client.resumeStream texts c input point).calls := by
  have hsame : StreamEffect texts client (.resume c) client.table client.calls := .moved _ .refl
  unfold OperatorClient.resumeStream
  split
  · next wait =>
      split
      · exact hsame
      · exact .abandoned c input _ _ hcall rfl
      · obtain ⟨htable, next, hnext, hcalls⟩ := ensureSessionCreated_table texts
          { client with table := client.table.pushQueued c } c input false
        rw [htable, hcalls]
        exact .continued _ c _ next (.single pushQueued_move) hcall rfl fun _ => hnext
  · next force wait =>
      split
      · exact hsame
      · unfold OperatorClient.sessionCreated
        split
        · exact .continued _ c _ _ .refl hcall rfl fun _ => rfl
        · exact .continued _ c _ _ .refl hcall rfl fun _ => rfl
  · next force result =>
      split
      · exact .abandoned c input _ _ hcall rfl
      · unfold OperatorClient.sendSessionMessage
        obtain ⟨htable, hcalls⟩ := request_table texts client "sessions.send"
          [("key", .string input.sessionKey), ("agentId", .string input.assistantKey),
            ("message", .string input.prompt)] (some input.idempotencyKey)
        simp only [OperatorClient.setPoint, htable, hcalls]
        exact .continued _ c _ _ .refl hcall rfl fun _ => rfl
  · next again wait =>
      split
      · exact hsame
      · next payload hresult => exact streamStarted_effect hcall hresult
      · split_ifs
        · obtain ⟨htable, next, hnext, hcalls⟩ := ensureSessionCreated_table texts
            { client with
              createdSessionKeys := client.createdSessionKeys.filter (· ≠ input.sessionKey) } c
            input true
          rw [htable, hcalls]
          exact .continued _ c _ next .refl hcall rfl fun _ => hnext
        · exact .abandoned c input _ _ hcall rfl
  · exact hsame

/-- A call without a stream goes on. -/
lemma setPoint_effect {kind : CallKind} {point point' : CallPoint}
    (hcall : client.calls.get c = some ⟨kind, point⟩) (hkind : kind.isStream = false)
    (hrunning : point.running = true) :
    StreamEffect texts client event client.table
      (client.calls.modify c fun call => { call with point := point' }) :=
  .continued _ c _ _ .refl hcall hrunning fun h => absurd h (by simp [hkind])

lemma resumePlain_effect {kind : CallKind} {point : CallPoint} {method : String} {params : JsRecord}
    {check : Option BrokerError} (hcall : client.calls.get c = some ⟨kind, point⟩)
    (hkind : kind.isStream = false) :
    StreamEffect texts client (.resume c)
      (client.resumePlain texts c method params check point).table
      (client.resumePlain texts c method params check point).calls := by
  unfold OperatorClient.resumePlain
  split
  · split
    · exact .moved _ .refl
    · exact setPoint_effect hcall hkind rfl
    · exact setPoint_effect hcall hkind rfl
    · obtain ⟨htable, hcalls⟩ := request_table texts client method params none
      simp only [OperatorClient.setPoint, htable, hcalls]
      exact setPoint_effect hcall hkind rfl
  · split
    · exact .moved _ .refl
    · exact setPoint_effect hcall hkind rfl
  · exact .moved _ .refl

lemma resume_effect : StreamEffect texts client (.resume c) (client.resume texts c).table
    (client.resume texts c).calls := by
  unfold OperatorClient.resume
  split
  · exact .moved _ .refl
  · next call hcall =>
      obtain ⟨kind, point⟩ := call
      dsimp only
      split
      · exact resumeStream_effect hcall
      · exact resumePlain_effect hcall rfl
      · exact resumePlain_effect hcall rfl
      · split
        · split
          · exact .moved _ .refl
          · exact setPoint_effect hcall rfl rfl
        · exact .moved _ .refl

lemma handleSocketClosed_effect {client' : OperatorClient} {now : ℤ}
    (htable : client'.table = client.table) (hcalls : client'.calls = client.calls) :
    StreamEffect texts client event (client'.handleSocketClosed options now).table
      (client'.handleSocketClosed options now).calls := by
  have hlost : ∀ calls, (calls = client'.calls ∨ ∃ wait,
      calls = client'.calls.add ⟨.ensureConnected, .connecting wait⟩) →
      StreamEffect texts client event (client'.table.failActiveStreams connectionClosed.code
        (options.texts.sanitizeText connectionClosed.message connectionClosed.message)) calls := by
    rw [htable, hcalls]
    exact fun calls h => .lost _ _ calls h
  unfold OperatorClient.handleSocketClosed
  dsimp only
  split_ifs
  · exact hlost _ (.inl rfl)
  · exact hlost _ (.inr ⟨_, rfl⟩)

lemma handleFrame_effect {frame : Frame} :
    StreamEffect texts client event (client.handleFrame texts frame).table
      (client.handleFrame texts frame).calls := by
  cases frame with
  | req => exact .moved _ .refl
  | res id ok payload error =>
      simp only [OperatorClient.handleFrame, OperatorClient.handleResponse]
      split_ifs
      · exact .lost _ _ _ (.inl rfl)
      · exact .lost _ _ _ (.inl rfl)
      · exact .moved _ .refl
  | event name payload =>
      simp only [OperatorClient.handleFrame, OperatorClient.handleEvent]
      split_ifs
      · exact .moved _ .refl
      · split
        · next table htable => exact .moved _ (.single (handleStreamEvent_move htable))
        · exact .moved _ .refl
      · exact .moved _ (.single handleApprovalEvent_move)
      · exact .moved _ .refl

lemma handleMessage_effect {n : ℕ} {frame : Option Frame} :
    StreamEffect texts client event (client.handleMessage texts n frame).table
      (client.handleMessage texts n frame).calls := by
  unfold OperatorClient.handleMessage
  split
  · exact .moved _ .refl
  · next socket _ =>
      by_cases hended : socket.ended = true
      · rw [if_pos hended]
        exact .moved _ .refl
      · rw [if_neg hended]
        cases frame with
        | none => exact .moved _ .refl
        | some frame =>
            by_cases hcomplete : socket.handshakeComplete = true
            · simp only [if_pos hcomplete]
              exact handleFrame_effect
            · simp only [if_neg hcomplete]
              exact .moved _ .refl

lemma handleClose_effect {n : ℕ} {now : ℤ} :
    StreamEffect texts client event (client.handleClose options n now).table
      (client.handleClose options n now).calls := by
  unfold OperatorClient.handleClose
  split
  · exact .moved _ .refl
  · split_ifs
    · exact .moved _ .refl
    · exact handleSocketClosed_effect rfl rfl
    · exact .moved _ .refl

lemma startAssistantStream_effect {now : ℤ} :
    StreamEffect texts client event (client.startAssistantStream options input now).table
      (client.startAssistantStream options input now).calls := by
  unfold OperatorClient.startAssistantStream
  dsimp only
  split_ifs with htenant hbusy
  · exact .added _ _ (.inr ⟨_, rfl⟩)
  · exact .added _ _ (.inr ⟨_, rfl⟩)
  · exact .registered input _ (Option.not_isSome_iff_eq_none.mp hbusy)

/-- **What an event does to the streams and the calls.** -/
lemma stream_effect (options : ClientOptions) (client : OperatorClient) (event : ClientEvent) :
    StreamEffect options.texts client event (clientStep options client event).table
      (clientStep options client event).calls := by
  cases event with
  | startAssistantStream input now => exact startAssistantStream_effect
  | getEffectiveTools sessionKey now => exact .added _ _ (.inl rfl)
  | auditActivityList params now => exact .added _ _ (.inl rfl)
  | ensureConnected now => exact .added _ _ (.inl rfl)
  | resume c => exact resume_effect
  | message n frame => exact handleMessage_effect
  | close n now => exact handleClose_effect
  | error n => exact .moved _ .refl
  | signFailed n => exact .moved _ .refl
  | challengeTimeout n => exact .moved _ .refl
  | requestTimeout id => exact .moved _ .refl
  | sendFailed id => exact .moved _ .refl
  | connectStep now => exact .moved _ .refl
  | wake now => exact .moved _ .refl
  | connectFinally => exact .moved _ .refl
  | disconnect => exact .lost _ _ _ (.inl rfl)
  | next stream => exact .moved _ (.single next_move)

end Effects

/-! ### Events of streams -/

/-- The streams of a client: the events of each are in order, each is one of a call that was made,
with its turn, and the queue of a stream whose call has not failed is closed after a terminal
event. -/
structure StreamsOk (client : OperatorClient) : Prop where
  ok : ∀ c stream, client.table.streams c = some stream → StreamOk stream
  fresh : ∀ c, client.calls.next ≤ c → client.table.streams c = none
  turn : ∀ c call stream input, client.calls.get c = some call →
    client.table.streams c = some stream → call.kind = .startAssistantStream input →
    stream.turnId = input.turnId
  finished : ∀ c call stream, client.calls.get c = some call →
    client.table.streams c = some stream → call.point.failed = false → Finished stream

section Events

variable {options : ClientOptions} {client client' : OperatorClient} {event : ClientEvent}

lemma CallPoint.failed_of_running {point : CallPoint} (h : point.running = true) :
    point.failed = false := by
  cases point with
  | returned result => exact absurd h (by simp [CallPoint.running])
  | thrown => exact absurd h (by simp [CallPoint.running])
  | connecting wait => rfl
  | creating force wait => rfl
  | created force result => rfl
  | sending again wait => rfl
  | requesting wait => rfl

/-- The streams proceed, and the calls are the ones from before, no further failed. -/
lemma StreamsOk.proceeds (h : StreamsOk client)
    (hproceeds : ∀ c stream', client'.table.streams c = some stream' →
      ∃ stream, client.table.streams c = some stream ∧ Proceeds stream stream')
    (hnext : client.calls.next ≤ client'.calls.next)
    (hcalls : ∀ c call', client'.calls.get c = some call' → client.calls.next ≤ c ∨
      ∃ call, client.calls.get c = some call ∧ call'.kind = call.kind ∧
        (call'.point.failed = false → call.point.failed = false)) : StreamsOk client' := by
  have hold : ∀ c call' stream, client'.calls.get c = some call' →
      client.table.streams c = some stream → ∃ call, client.calls.get c = some call ∧
        call'.kind = call.kind ∧ (call'.point.failed = false → call.point.failed = false) := by
    intro c call' stream hcall' hstream
    rcases hcalls c call' hcall' with hnew | hcall
    · rw [h.fresh c hnew] at hstream
      exact absurd hstream (by simp)
    · exact hcall
  refine ⟨fun c stream' hstream' => ?_, fun c hc => ?_, fun c call' stream' input hcall' hstream'
    hkind => ?_, fun c call' stream' hcall' hstream' hpoint => ?_⟩
  · obtain ⟨stream, hstream, hproceed⟩ := hproceeds c stream' hstream'
    exact hproceed.ok (h.ok c stream hstream)
  · cases hstream' : client'.table.streams c with
    | none => rfl
    | some stream' =>
        obtain ⟨stream, hstream, -⟩ := hproceeds c stream' hstream'
        rw [h.fresh c (hnext.trans hc)] at hstream
        exact absurd hstream (by simp)
  · obtain ⟨stream, hstream, hproceed⟩ := hproceeds c stream' hstream'
    obtain ⟨call, hcall, hkind', -⟩ := hold c call' stream hcall' hstream
    rw [hproceed.turnId]
    exact h.turn c call stream input hcall hstream (hkind'.symm.trans hkind)
  · obtain ⟨stream, hstream, hproceed⟩ := hproceeds c stream' hstream'
    obtain ⟨call, hcall, -, hfailed⟩ := hold c call' stream hcall' hstream
    exact hproceed.finished (h.ok c stream hstream)
      (h.finished c call stream hcall hstream (hfailed hpoint))

/-- The calls of a client in which one has gone on. -/
lemma modified_calls {calls : Objects Call} {c : ℕ} {call : Call} {point : CallPoint}
    (hcall : calls.get c = some call) (hrunning : call.point.running = true) (c' : ℕ) (call' : Call)
    (hcall' : (calls.modify c fun call => { call with point := point }).get c' = some call') :
    calls.next ≤ c' ∨ ∃ call, calls.get c' = some call ∧ call'.kind = call.kind ∧
      (call'.point.failed = false → call.point.failed = false) := by
  obtain ⟨old, hold, rfl⟩ := Objects.get_modify_eq_some hcall'
  refine .inr ⟨old, hold, ?_⟩
  by_cases hc : c' = c
  · subst hc
    obtain rfl := Option.some.inj (hold.symm.trans hcall)
    rw [if_pos rfl]
    exact ⟨rfl, fun _ => CallPoint.failed_of_running hrunning⟩
  · rw [if_neg hc]
    exact ⟨rfl, id⟩

lemma added_calls {calls : Objects Call} {call : Call} (c' : ℕ) (call' : Call)
    (hcall' : (calls.add call).get c' = some call') :
    calls.next ≤ c' ∨ ∃ call, calls.get c' = some call ∧ call'.kind = call.kind ∧
      (call'.point.failed = false → call.point.failed = false) := by
  rcases Objects.get_add_eq_some hcall' with ⟨rfl, -⟩ | hold
  · exact .inl le_rfl
  · exact .inr ⟨call', hold, rfl, id⟩

/-- A new stream with its call. -/
lemma StreamsOk.register {input : StartAssistantStreamInput} {wait : ConnectWait}
    (h : StreamsOk client)
    (htable : client'.table =
      client.table.register client.calls.next input.sessionKey input.turnId)
    (hcalls : client'.calls = client.calls.add ⟨.startAssistantStream input, .connecting wait⟩) :
    StreamsOk client' := by
  have hstreams : ∀ c stream, client'.table.streams c = some stream →
      (c = client.calls.next ∧ stream = .start input.sessionKey input.turnId) ∨
        (c ≠ client.calls.next ∧ client.table.streams c = some stream) := by
    intro c stream hstream
    rw [htable] at hstream
    exact put_some hstream
  have hget : ∀ c call, c ≠ client.calls.next → client'.calls.get c = some call →
      client.calls.get c = some call := by
    intro c call hne hcall
    rw [hcalls, Objects.get_add_of_ne hne] at hcall
    exact hcall
  refine ⟨fun c stream hstream => ?_, fun c hc => ?_, fun c call stream input' hcall hstream hkind =>
    ?_, fun c call stream hcall hstream hpoint => ?_⟩
  · rcases hstreams c stream hstream with ⟨-, rfl⟩ | ⟨-, hold⟩
    · exact ⟨fun _ he => absurd he List.not_mem_nil, fun _ he => absurd he List.not_mem_nil,
        fun _ _ he => absurd he List.not_mem_nil, List.nodup_nil,
        fun _ he => absurd he List.not_mem_nil, fun _ he => absurd he List.not_mem_nil⟩
    · exact h.ok c stream hold
  · rw [hcalls, Objects.next_add] at hc
    cases hstream : client'.table.streams c with
    | none => rfl
    | some stream =>
        rcases hstreams c stream hstream with ⟨rfl, -⟩ | ⟨-, hold⟩
        · omega
        · rw [h.fresh c (by omega)] at hold
          exact absurd hold (by simp)
  · rcases hstreams c stream hstream with ⟨rfl, rfl⟩ | ⟨hne, hold⟩
    · rw [hcalls, Objects.get_add_next, Option.some.injEq] at hcall
      subst hcall
      obtain rfl := CallKind.startAssistantStream.inj hkind
      rfl
    · exact h.turn c call stream input' (hget c call hne hcall) hold hkind
  · rcases hstreams c stream hstream with ⟨-, rfl⟩ | ⟨hne, hold⟩
    · exact fun hclosed => absurd hclosed (by simp [ActiveStream.start, AsyncQueue.empty])
    · exact h.finished c call stream (hget c call hne hcall) hold hpoint

/-- A stream is closed without a terminal event only with the failure of its call. -/
lemma StreamsOk.abandon {input : StartAssistantStreamInput} {point : CallPoint} {error : BrokerError}
    {c : ℕ} (h : StreamsOk client)
    (hcall : client.calls.get c = some ⟨.startAssistantStream input, point⟩)
    (htable : client'.table = client.table.closeActiveStream input.sessionKey c)
    (hcalls : client'.calls =
      client.calls.modify c fun call => { call with point := .returned (.error error) }) :
    StreamsOk client' := by
  have hstreams : ∀ c' stream', client'.table.streams c' = some stream' →
      ∃ stream, client.table.streams c' = some stream ∧
        stream' = if c' = c then stream.close else stream := by
    intro c' stream' hstream'
    simp only [htable, StreamTable.closeActiveStream, Function.update_apply] at hstream'
    split_ifs at hstream' ⊢ with hc
    · subst hc
      obtain ⟨stream, hstream, rfl⟩ := Option.map_eq_some_iff.mp hstream'
      exact ⟨stream, hstream, rfl⟩
    · exact ⟨stream', hstream', rfl⟩
  have hget : ∀ c' call', client'.calls.get c' = some call' → ∃ call,
      client.calls.get c' = some call ∧ call'.kind = call.kind ∧
        (call'.point.failed = false → c' ≠ c ∧ call'.point = call.point) := by
    intro c' call' hcall'
    rw [hcalls] at hcall'
    obtain ⟨call, hold, rfl⟩ := Objects.get_modify_eq_some hcall'
    refine ⟨call, hold, ?_⟩
    split_ifs with hc
    · exact ⟨rfl, fun hfailed => absurd hfailed (by simp [CallPoint.failed])⟩
    · exact ⟨rfl, fun _ => ⟨hc, rfl⟩⟩
  refine ⟨fun c' stream' hstream' => ?_, fun c' hc' => ?_, fun c' call' stream' input' hcall'
    hstream' hkind => ?_, fun c' call' stream' hcall' hstream' hpoint => ?_⟩
  · obtain ⟨stream, hstream, rfl⟩ := hstreams c' stream' hstream'
    split_ifs
    · exact (h.ok c' stream hstream).close
    · exact h.ok c' stream hstream
  · rw [hcalls, Objects.next_modify] at hc'
    cases hstream' : client'.table.streams c' with
    | none => rfl
    | some stream' =>
        obtain ⟨stream, hstream, -⟩ := hstreams c' stream' hstream'
        rw [h.fresh c' hc'] at hstream
        exact absurd hstream (by simp)
  · obtain ⟨stream, hstream, rfl⟩ := hstreams c' stream' hstream'
    obtain ⟨call, hold, hkind', -⟩ := hget c' call' hcall'
    have hturn := h.turn c' call stream input' hold hstream (hkind'.symm.trans hkind)
    split_ifs
    · exact hturn
    · exact hturn
  · obtain ⟨stream, hstream, rfl⟩ := hstreams c' stream' hstream'
    obtain ⟨call, hold, -, hfailed⟩ := hget c' call' hcall'
    obtain ⟨hne, heq⟩ := hfailed hpoint
    rw [if_neg hne]
    exact h.finished c' call stream hold hstream (heq ▸ hpoint)

/-- The streams are in order after every event. -/
lemma streamsOk_step (options : ClientOptions) (client : OperatorClient) (event : ClientEvent)
    (h : StreamsOk client) : StreamsOk (clientStep options client event) := by
  have heffect := stream_effect options client event
  generalize htable : (clientStep options client event).table = table at heffect
  generalize hcalls : (clientStep options client event).calls = calls at heffect
  cases heffect with
  | moved table hmoves =>
      refine h.proceeds (fun c stream' hstream' => hmoves.proceeds (htable ▸ hstream'))
        (by rw [hcalls]) fun c call' hcall' => .inr ⟨call', hcalls ▸ hcall', rfl, id⟩
  | added kind point hkind =>
      refine h.proceeds (fun c stream' hstream' => ⟨stream', htable ▸ hstream', .refl stream'⟩)
        (by rw [hcalls]; exact Nat.le_succ _) fun c call' hcall' => ?_
      rw [hcalls] at hcall'
      exact added_calls c call' hcall'
  | lost code message calls hlost =>
      refine h.proceeds (fun c stream' hstream' => failActiveStreams_proceeds (htable ▸ hstream'))
        ?_ fun c call' hcall' => ?_
      · rcases hlost with rfl | ⟨wait, rfl⟩
        · rw [hcalls]
        · rw [hcalls]
          exact Nat.le_succ _
      · rw [hcalls] at hcall'
        rcases hlost with rfl | ⟨wait, rfl⟩
        · exact .inr ⟨call', hcall', rfl, id⟩
        · exact added_calls c call' hcall'
  | registered input wait hfree => exact h.register htable hcalls
  | continued table c call point hmoves hcall hrunning hpoint =>
      refine h.proceeds (fun c stream' hstream' => hmoves.proceeds (htable ▸ hstream'))
        (by rw [hcalls]; exact le_rfl) fun c' call' hcall' => ?_
      rw [hcalls] at hcall'
      exact modified_calls hcall hrunning c' call' hcall'
  | abandoned c input point error hcall hrunning => exact h.abandon hcall htable hcalls
  | started table c input again wait payload point hevent hcall hresult hmoves hpoint =>
      refine h.proceeds (fun c stream' hstream' => ?_) (by rw [hcalls]; exact le_rfl)
        fun c' call' hcall' => modified_calls hcall rfl c' call' (hcalls ▸ hcall')
      obtain ⟨bound, hbound, hproceeds⟩ := hmoves.proceeds (htable ▸ hstream')
      obtain ⟨stream, hstream, hbefore, -⟩ := bindRun_proceeds hbound
      exact ⟨stream, hstream, hbefore.trans hproceeds⟩

lemma streamsOk_initial : StreamsOk .initial :=
  ⟨fun _ _ h => absurd h (by simp [OperatorClient.initial, StreamTable.initial]), fun _ _ => rfl,
    fun _ _ _ _ h => absurd h (by simp [OperatorClient.initial]),
    fun _ _ _ h => absurd h (by simp [OperatorClient.initial])⟩

lemma streamsOk_run (options : ClientOptions) (events : List ClientEvent) :
    StreamsOk ((clientMachine options).outcome .initial events) :=
  (EventMachine.always_of_invariant
    (fun client event h => streamsOk_step options client event h) streamsOk_initial).outcome

/-- **The events of a stream.** In every run of a client: nothing follows an event that ends a
stream, so that there is at most one; every event has the turn of the call; the number of a delta
is used once; no event comes from a `chat` or `session.message` frame that names another run than
the one the stream is bound to; and when the call has returned a stream whose queue was closed,
the last event is one that ends the stream. What a consumer is given is the beginning of these
events. -/
theorem stream_events_terminated (options : ClientOptions) (events : List ClientEvent) (c : ℕ)
    (call : Call) (input : StartAssistantStreamInput) (stream : ActiveStream)
    (hcall : ((clientMachine options).outcome .initial events).calls.get c = some call)
    (hkind : call.kind = .startAssistantStream input)
    (hstream : ((clientMachine options).outcome .initial events).table.streams c = some stream) :
    stream.queue.delivered <+: stream.events ∧
    (∀ before e after, stream.events = before ++ e :: after → e.event.terminal = true → after = []) ∧
    (∀ e ∈ stream.events, e.event.turnId = input.turnId) ∧
    (stream.events.filterMap Emission.deltaSeq).Nodup ∧
    (∀ e ∈ stream.events, ∀ record runId run, e.source = .stream record →
      recordRun record = some runId → e.bound = some run → runId = run) ∧
    (∀ receipt, call.point = .returned (.ok receipt) → stream.queue.closed = true →
      ∃ e ∈ stream.events.getLast?, e.event.terminal = true) := by
  have h := streamsOk_run options events
  have hok := h.ok c stream hstream
  refine ⟨AsyncQueue.delivered_prefix, fun before e after hevents hterminal => ?_, fun e he => ?_,
    hok.seqs, fun e he record runId run hsource => hok.runs e he record hsource runId run,
    fun receipt hpoint => ?_⟩
  · by_contra hafter
    have hmem : e ∈ stream.events.dropLast := by
      rw [hevents, List.dropLast_append_of_ne_nil (List.cons_ne_nil _ _),
        List.dropLast_cons_of_ne_nil hafter]
      exact List.mem_append_right _ List.mem_cons_self
    rw [hok.ends e hmem] at hterminal
    exact absurd hterminal Bool.false_ne_true
  · rw [hok.turn e he]
    exact h.turn c call stream input hcall hstream hkind
  · refine h.finished c call stream hcall hstream ?_
    rw [hpoint]
    rfl

end Events

/-- A stream is started: the session is created and the message is sent. -/
def sampleStreamInput : StartAssistantStreamInput where
  tenantId := "t1"
  assistantKey := "a"
  conversationId := "s"
  turnId := "turn-1"
  prompt := "Hello"
  idempotencyKey := "k1"
  sessionRef := none

/-- A client connects and starts a stream; the gateway names its run. -/
def streamRun : List ClientEvent :=
  connectedRun ++ [.startAssistantStream sampleStreamInput 0, .resume 1,
    .message 0 (some (.res "sessions.create:0" true (.object []) .undefined)), .resume 1, .resume 1,
    .message 0 (some (.res "sessions.send:1" true (.object [("runId", .string "run-1")]) .undefined)),
    .resume 1]

/-- A `chat` event of the stream's session. -/
def chatFrame (fields : JsRecord) : ClientEvent :=
  .message 0 (some (.event "chat" (.object (("sessionKey", .string "agent:a:s") :: fields))))

/-- The stream has a delta and comes to its end. -/
def finalRun : List ClientEvent :=
  streamRun ++ [chatFrame [("runId", .string "run-1"), ("state", .string "delta"),
      ("seq", .number "1"), ("deltaText", .string "Hi")],
    chatFrame [("runId", .string "run-1"), ("state", .string "final"), ("seq", .number "1")]]

/-- What is shown of an event: its turn, and whether it ends the stream. -/
def eventView (emission : Emission) : String × Bool :=
  (emission.event.turnId, emission.event.terminal)

/-- What is shown of a call: the turn of a stream, and whether the call has returned one. -/
def callView (call : Call) : Option String × Bool :=
  (match call.kind with
    | .startAssistantStream input => some input.turnId
    | _ => none,
    match call.point with
    | .returned (.ok _) => true
    | _ => false)

lemma callView_returned {call : Call} {turnId : String} (h : callView call = (some turnId, true)) :
    ∃ input receipt, call.kind = .startAssistantStream input ∧ input.turnId = turnId ∧
      call.point = .returned (.ok receipt) := by
  obtain ⟨kind, point⟩ := call
  unfold callView at h
  simp only [Prod.mk.injEq] at h
  obtain ⟨hturn, hpoint⟩ := h
  split at hturn
  · next input =>
      split at hpoint
      · next receipt => exact ⟨input, receipt, rfl, Option.some.inj hturn, rfl⟩
      · exact absurd hpoint (by simp)
  · exact absurd hturn (by simp)

theorem stream_events_terminated_final :
    ∃ stream, ((clientMachine sampleClientOptions).outcome .initial finalRun).table.streams 1 =
        some stream ∧ stream.queue.closed = true ∧
      stream.events.map eventView = [("turn-1", false), ("turn-1", false), ("turn-1", true)] ∧
      (∃ e ∈ stream.events.getLast?, e.event.terminal = true) := by
  have hstreams : (((clientMachine sampleClientOptions).outcome .initial finalRun).table.streams
      1).map (fun stream => (stream.events.map eventView, stream.queue.closed)) =
      some ([("turn-1", false), ("turn-1", false), ("turn-1", true)], true) := by decide
  have hcalls : (((clientMachine sampleClientOptions).outcome .initial finalRun).calls.get
      1).map callView = some (some "turn-1", true) := by decide
  obtain ⟨stream, hstream, hview⟩ := Option.map_eq_some_iff.mp hstreams
  obtain ⟨call, hcall, hcallView⟩ := Option.map_eq_some_iff.mp hcalls
  obtain ⟨input, receipt, hkind, -, hpoint⟩ := callView_returned hcallView
  obtain ⟨hevents, hclosed⟩ := Prod.mk.inj hview
  exact ⟨stream, hstream, hclosed, hevents,
    (stream_events_terminated sampleClientOptions finalRun 1 call input stream hcall hkind
      hstream).2.2.2.2.2 receipt hpoint hclosed⟩

/-- An approval is asked for in the name of another run. -/
def approvalRun : List ClientEvent :=
  streamRun ++ [.message 0 (some (.event "exec.approval.requested"
    (.object [("sessionKey", .string "agent:a:s"), ("approvalRef", .string "ap-1"),
      ("runId", .string "run-2")])))]

/-- The run the approval of an event names, and the run its stream was bound to. -/
def approvalView (emission : Emission) : Option (Option String × Option String) :=
  match emission.source with
  | .approval payload => some (recordRun payload, emission.bound)
  | _ => none

/-- An event of a frame that names another run is given to a stream that is bound to its own. -/
theorem approval_of_other_run :
    ∃ stream, ((clientMachine sampleClientOptions).outcome .initial approvalRun).table.streams 1 =
        some stream ∧ stream.runId = some "run-1" ∧
      ∃ e ∈ stream.events, ∃ payload, e.source = .approval payload ∧
        recordRun payload = some "run-2" ∧ e.bound = some "run-1" := by
  have hstreams : (((clientMachine sampleClientOptions).outcome .initial approvalRun).table.streams
      1).map (fun stream => (stream.events.filterMap approvalView, stream.runId)) =
      some ([(some "run-2", some "run-1")], some "run-1") := by decide
  obtain ⟨stream, hstream, hview⟩ := Option.map_eq_some_iff.mp hstreams
  obtain ⟨hevents, hrun⟩ := Prod.mk.inj hview
  refine ⟨stream, hstream, hrun, ?_⟩
  have hmem : (some "run-2", some "run-1") ∈ stream.events.filterMap approvalView := by
    rw [hevents]
    exact List.mem_singleton_self _
  obtain ⟨e, he, happroval⟩ := List.mem_filterMap.mp hmem
  unfold approvalView at happroval
  split at happroval
  · next payload hsource =>
      obtain ⟨hrun', hbound⟩ := Prod.mk.inj (Option.some.inj happroval)
      exact ⟨e, he, payload, hsource, hrun', hbound⟩
  · exact absurd happroval (by simp)

end Opzava.GatewayBroker
