import Opzava.GatewayBroker.StreamCalls

/-!
The map of active streams.

A stream is registered under the session key of its call until the gateway answers, and is moved
then to the key that the answer names. The move does not ask whether the stream is still the one of
its key, nor whether the other key is free.

* `TableOk`, `tableMoves_ok`: the streams of the map are open and have one key.
* `RegistryOk`, `registryOk_step`: the open streams are the ones of the map, as long as an answer
  moves a stream that is still registered to a key that is free.
* `streams_registered`: the same for every run.
-/

namespace Opzava.GatewayBroker

open Opzava.Library

/-! ### The map -/

/-- The streams of the map are open, and each has one key. -/
structure TableOk (table : StreamTable) : Prop where
  opens : ∀ key id, table.activeStreams.get key = some id →
    ∃ stream, table.streams id = some stream ∧ stream.queue.closed = false
  unique : ∀ key key' id, table.activeStreams.get key = some id →
    table.activeStreams.get key' = some id → key = key'

/-- The streams that are still open were open, and have kept their keys. -/
def KeepsKeys (table table' : StreamTable) : Prop :=
  ∀ id stream', table'.streams id = some stream' → stream'.queue.closed = false →
    ∃ stream, table.streams id = some stream ∧ stream.queue.closed = false ∧
      ∀ key, table.activeStreams.get key = some id → table'.activeStreams.get key = some id

section Table

variable {table table' table'' : StreamTable}

lemma KeepsKeys.refl (table : StreamTable) : KeepsKeys table table :=
  fun _ stream' hstream' hopen => ⟨stream', hstream', hopen, fun _ => id⟩

lemma KeepsKeys.trans (h : KeepsKeys table table') (h' : KeepsKeys table' table'') :
    KeepsKeys table table'' := by
  intro id stream'' hstream'' hopen''
  obtain ⟨stream', hstream', hopen', hkeys'⟩ := h' id stream'' hstream'' hopen''
  obtain ⟨stream, hstream, hopen, hkeys⟩ := h id stream' hstream' hopen'
  exact ⟨stream, hstream, hopen, fun key hkey => hkeys' key (hkeys key hkey)⟩

/-- A move keeps the map in order. -/
lemma tableMove_ok (h : TableOk table) (hmove : TableMove table table') :
    TableOk table' ∧ KeepsKeys table table' := by
  cases hmove with
  | same => exact ⟨h, .refl table⟩
  | proceeds id stream stream' hstream hproceeds hclosed =>
      refine ⟨⟨fun key id' hkey => ?_, h.unique⟩, fun id' stream'' hstream'' hopen => ?_⟩
      · obtain ⟨old, hold, hopen⟩ := h.opens key id' hkey
        by_cases hid : id' = id
        · subst hid
          obtain rfl := Option.some.inj (hold.symm.trans hstream)
          exact ⟨stream', Function.update_self .., hclosed.trans hopen⟩
        · exact ⟨old, (Function.update_of_ne hid ..).trans hold, hopen⟩
      · rcases put_some hstream'' with ⟨rfl, rfl⟩ | ⟨-, hold⟩
        · exact ⟨stream, hstream, hclosed ▸ hopen, fun _ hkey => hkey⟩
        · exact ⟨stream'', hold, hopen, fun _ hkey => hkey⟩
  | ended key id stream stream' hkey hstream hproceeds =>
      have hget : ∀ key' id', (table.activeStreams.delete key).get key' = some id' →
          key' ≠ key ∧ table.activeStreams.get key' = some id' := by
        intro key' id' hkey'
        rw [OrderedMap.get_delete] at hkey'
        split_ifs at hkey' with hne
        exact ⟨hne, hkey'⟩
      -- The stream has no other key, so no other entry of the map is one of it.
      have hother : ∀ key' id', (table.activeStreams.delete key).get key' = some id' → id' ≠ id := by
        rintro key' id' hkey' rfl
        obtain ⟨hne, hkey'⟩ := hget key' id' hkey'
        exact hne (h.unique key' key id' hkey' hkey)
      refine ⟨⟨fun key' id' hkey' => ?_, fun key₁ key₂ id' hkey₁ hkey₂ => ?_⟩,
        fun id' stream'' hstream'' hopen => ?_⟩
      · obtain ⟨old, hold, hopen⟩ := h.opens key' id' (hget key' id' hkey').2
        exact ⟨old, (Function.update_of_ne (hother key' id' hkey') ..).trans hold, hopen⟩
      · exact h.unique key₁ key₂ id' (hget key₁ id' hkey₁).2 (hget key₂ id' hkey₂).2
      · rcases put_some hstream'' with ⟨rfl, rfl⟩ | ⟨hid, hold⟩
        · exact absurd hopen (by simp [ActiveStream.close])
        · refine ⟨stream'', hold, hopen, fun key' hkey' => ?_⟩
          rw [OrderedMap.get_delete_of_ne]
          · exact hkey'
          · rintro rfl
            exact hid (Option.some.inj (hkey'.symm.trans hkey))

lemma tableMoves_ok (h : TableOk table) (hmoves : TableMoves table table') :
    TableOk table' ∧ KeepsKeys table table' := by
  induction hmoves with
  | refl => exact ⟨h, .refl table⟩
  | tail _ hmove ih =>
      obtain ⟨hok, hkeeps⟩ := tableMove_ok ih.1 hmove
      exact ⟨hok, ih.2.trans hkeeps⟩

end Table

/-! ### Calls and the map -/

/-- A call whose response to `sessions.send` is handled next: its number, the key its stream was
registered under and the key the response names. -/
structure Move where
  call : ℕ
  sessionKey : String
  responseSessionKey : String

/-- The move an event makes. -/
def move? (client : OperatorClient) (event : ClientEvent) : Option Move :=
  match event with
  | .resume c =>
      match client.calls.get c with
      | some ⟨.startAssistantStream input, .sending _ wait⟩ =>
          match client.requestResult wait with
          | some (.ok payload) => some ⟨c, input.sessionKey,
              OperatorClient.responseSessionKey payload input.sessionKey⟩
          | _ => none
      | _ => none
  | _ => none

/-- A response names the key of the stream, or the stream is still registered under its key and
the key that is named is free. -/
def SoundMove (client : OperatorClient) (event : ClientEvent) : Prop :=
  ∀ move ∈ move? client event, move.responseSessionKey = move.sessionKey ∨
    (client.table.activeStreams.get move.sessionKey = some move.call ∧
      client.table.activeStreams.get move.responseSessionKey = none)

instance : DecidableRel SoundMove := fun client event =>
  match h : move? client event with
  | none => .isTrue fun move hmove => by rw [h] at hmove; exact absurd hmove (by simp)
  | some move => decidable_of_iff (move.responseSessionKey = move.sessionKey ∨
      (client.table.activeStreams.get move.sessionKey = some move.call ∧
        client.table.activeStreams.get move.responseSessionKey = none)) (by simp [SoundMove, h])

/-- The open streams and the map. The stream of a call that is running has the session key of the
call; after that it has the key it was moved to. -/
structure RegistryOk (client : OperatorClient) : Prop where
  table : TableOk client.table
  fresh : ∀ c, client.calls.next ≤ c → client.table.streams c = none
  running : ∀ c input point stream, client.calls.get c = some ⟨.startAssistantStream input, point⟩ →
    point.running = true → client.table.streams c = some stream → stream.queue.closed = false →
    client.table.activeStreams.get input.sessionKey = some c
  returned : ∀ c call stream, client.calls.get c = some call → call.point.failed = false →
    client.table.streams c = some stream → stream.queue.closed = false →
    ∃ key, client.table.activeStreams.get key = some c

section Registry

variable {client client' : OperatorClient} {event : ClientEvent}

/-- The map moves, and the calls are the ones from before, none running that was not. -/
lemma RegistryOk.moves (h : RegistryOk client) (hmoves : TableMoves client.table client'.table)
    (hnext : client.calls.next ≤ client'.calls.next)
    (hcalls : ∀ c call', client'.calls.get c = some call' → client.calls.next ≤ c ∨
      ∃ call, client.calls.get c = some call ∧ call'.kind = call.kind ∧
        (call'.point.failed = false → call.point.failed = false) ∧
        (call'.kind.isStream = true → call'.point.running = true → call.point.running = true)) :
    RegistryOk client' := by
  obtain ⟨hok, hkeeps⟩ := tableMoves_ok h.table hmoves
  have hold : ∀ c stream, client.table.streams c = some stream → ¬ client.calls.next ≤ c := by
    intro c stream hstream hc
    rw [h.fresh c hc] at hstream
    exact absurd hstream (by simp)
  refine ⟨hok, fun c hc => ?_, fun c input point stream' hcall' hrunning hstream' hopen' => ?_,
    fun c call' stream' hcall' hfailed hstream' hopen' => ?_⟩
  · cases hstream' : client'.table.streams c with
    | none => rfl
    | some stream' =>
        obtain ⟨stream, hstream, -⟩ := hmoves.proceeds hstream'
        exact absurd (hnext.trans hc) (hold c stream hstream)
  · obtain ⟨stream, hstream, hopen, hkeys⟩ := hkeeps c stream' hstream' hopen'
    rcases hcalls c _ hcall' with hnew | ⟨⟨kind, point'⟩, hcall, hkind, -, hrun⟩
    · exact absurd hnew (hold c stream hstream)
    · dsimp only at hkind hrun
      subst hkind
      exact hkeys _ (h.running c input point' stream hcall (hrun rfl hrunning) hstream hopen)
  · obtain ⟨stream, hstream, hopen, hkeys⟩ := hkeeps c stream' hstream' hopen'
    rcases hcalls c _ hcall' with hnew | ⟨call, hcall, -, hfail, -⟩
    · exact absurd hnew (hold c stream hstream)
    · obtain ⟨key, hkey⟩ := h.returned c call stream hcall (hfail hfailed) hstream hopen
      exact ⟨key, hkeys key hkey⟩

lemma added_running {calls : Objects Call} {call : Call} (c' : ℕ) (call' : Call)
    (hcall' : (calls.add call).get c' = some call') :
    calls.next ≤ c' ∨ ∃ call, calls.get c' = some call ∧ call'.kind = call.kind ∧
      (call'.point.failed = false → call.point.failed = false) ∧
      (call'.kind.isStream = true → call'.point.running = true → call.point.running = true) := by
  rcases Objects.get_add_eq_some hcall' with ⟨rfl, -⟩ | hold
  · exact .inl le_rfl
  · exact .inr ⟨call', hold, rfl, id, fun _ => id⟩

lemma modified_running {calls : Objects Call} {c : ℕ} {call : Call} {point : CallPoint}
    (hcall : calls.get c = some call) (hrunning : call.point.running = true) (c' : ℕ) (call' : Call)
    (hcall' : (calls.modify c fun call => { call with point := point }).get c' = some call') :
    calls.next ≤ c' ∨ ∃ call, calls.get c' = some call ∧ call'.kind = call.kind ∧
      (call'.point.failed = false → call.point.failed = false) ∧
      (call'.kind.isStream = true → call'.point.running = true → call.point.running = true) := by
  obtain ⟨old, hold, rfl⟩ := Objects.get_modify_eq_some hcall'
  refine .inr ⟨old, hold, ?_⟩
  by_cases hc : c' = c
  · subst hc
    obtain rfl := Option.some.inj (hold.symm.trans hcall)
    rw [if_pos rfl]
    exact ⟨rfl, fun _ => CallPoint.failed_of_running hrunning, fun _ _ => hrunning⟩
  · rw [if_neg hc]
    exact ⟨rfl, id, fun _ => id⟩

/-- With the connection all the open streams of calls that have not failed are closed. -/
lemma RegistryOk.lost {code message : String} (h : RegistryOk client)
    (htable : client'.table = client.table.failActiveStreams code message)
    (hnext : client.calls.next ≤ client'.calls.next)
    (hcalls : ∀ c call', client'.calls.get c = some call' → client.calls.next ≤ c ∨
      client.calls.get c = some call') : RegistryOk client' := by
  have hempty : ∀ key id, client'.table.activeStreams.get key ≠ some id := by
    intro key id hkey
    rw [htable] at hkey
    exact absurd hkey (by simp [StreamTable.failActiveStreams, OrderedMap.get, OrderedMap.empty])
  have hstreams : ∀ c stream', client'.table.streams c = some stream' →
      stream'.queue.closed = false → client.table.streams c = some stream' ∧
        ∀ key, client.table.activeStreams.get key ≠ some c := by
    intro c stream' hstream' hopen
    simp only [htable, StreamTable.failActiveStreams] at hstream'
    split_ifs at hstream' with hmem
    · obtain ⟨stream, -, rfl⟩ := Option.map_eq_some_iff.mp hstream'
      exact absurd hopen (by simp [ActiveStream.close])
    · exact ⟨hstream', fun key hkey => hmem (OrderedMap.mem_values_iff.mpr ⟨key, hkey⟩)⟩
  have hnone : ∀ c call' stream', client'.calls.get c = some call' →
      call'.point.failed = false → client'.table.streams c = some stream' →
      stream'.queue.closed = true := by
    intro c call' stream' hcall' hfailed hstream'
    by_contra hopen
    have hopen := Bool.eq_false_of_not_eq_true hopen
    obtain ⟨hstream, hunregistered⟩ := hstreams c stream' hstream' hopen
    rcases hcalls c call' hcall' with hnew | hcall
    · rw [h.fresh c hnew] at hstream
      exact absurd hstream (by simp)
    · obtain ⟨key, hkey⟩ := h.returned c call' stream' hcall hfailed hstream hopen
      exact hunregistered key hkey
  refine ⟨⟨fun key id hkey => absurd hkey (hempty key id), fun key _ id hkey =>
    absurd hkey (hempty key id)⟩, fun c hc => ?_, fun c input point stream' hcall' hrunning hstream'
    hopen => ?_, fun c call' stream' hcall' hfailed hstream' hopen => ?_⟩
  · rw [htable, StreamTable.failActiveStreams]
    simp [h.fresh c (hnext.trans hc)]
  · rw [hnone c _ stream' hcall' (CallPoint.failed_of_running hrunning) hstream'] at hopen
    exact absurd hopen (by simp)
  · rw [hnone c call' stream' hcall' hfailed hstream'] at hopen
    exact absurd hopen (by simp)

/-- A new stream is registered under a key that is free. -/
lemma RegistryOk.register {input : StartAssistantStreamInput} {wait : ConnectWait}
    (h : RegistryOk client) (hfree : client.table.activeStreams.get input.sessionKey = none)
    (htable : client'.table =
      client.table.register client.calls.next input.sessionKey input.turnId)
    (hcalls : client'.calls = client.calls.add ⟨.startAssistantStream input, .connecting wait⟩) :
    RegistryOk client' := by
  have hactive : ∀ key, client'.table.activeStreams.get key =
      if key = input.sessionKey then some client.calls.next
      else client.table.activeStreams.get key := by
    intro key
    rw [htable]
    exact OrderedMap.get_set ..
  have hstreams : ∀ c stream, client'.table.streams c = some stream →
      (c = client.calls.next ∧ stream = .start input.sessionKey input.turnId) ∨
        (c ≠ client.calls.next ∧ client.table.streams c = some stream) := by
    intro c stream hstream
    rw [htable] at hstream
    exact put_some hstream
  have hnew : ∀ key, client.table.activeStreams.get key ≠ some client.calls.next := by
    intro key hkey
    obtain ⟨stream, hstream, -⟩ := h.table.opens key _ hkey
    rw [h.fresh _ le_rfl] at hstream
    exact absurd hstream (by simp)
  have hkeep : ∀ key c, client.table.activeStreams.get key = some c →
      client'.table.activeStreams.get key = some c := by
    intro key c hkey
    rw [hactive, if_neg, hkey]
    rintro rfl
    rw [hfree] at hkey
    exact absurd hkey (by simp)
  have hget : ∀ c call, c ≠ client.calls.next → client'.calls.get c = some call →
      client.calls.get c = some call := by
    intro c call hne hcall
    rw [hcalls, Objects.get_add_of_ne hne] at hcall
    exact hcall
  refine ⟨⟨fun key id hkey => ?_, fun key key' id hkey hkey' => ?_⟩, fun c hc => ?_,
    fun c input' point stream hcall hrunning hstream hopen => ?_,
    fun c call stream hcall hfailed hstream hopen => ?_⟩
  · rw [hactive] at hkey
    split_ifs at hkey with heq
    · obtain rfl := Option.some.inj hkey
      rw [htable]
      exact ⟨_, Function.update_self .., rfl⟩
    · obtain ⟨stream, hstream, hopen⟩ := h.table.opens key id hkey
      have hne : id ≠ client.calls.next := fun heq => hnew key (heq ▸ hkey)
      rw [htable]
      exact ⟨stream, (Function.update_of_ne hne ..).trans hstream, hopen⟩
  · rw [hactive] at hkey hkey'
    split_ifs at hkey hkey' with heq heq'
    · exact heq.trans heq'.symm
    · obtain rfl := Option.some.inj hkey
      exact absurd hkey' (hnew key')
    · obtain rfl := Option.some.inj hkey'
      exact absurd hkey (hnew key)
    · exact h.table.unique key key' id hkey hkey'
  · rw [hcalls, Objects.next_add] at hc
    cases hstream : client'.table.streams c with
    | none => rfl
    | some stream =>
        rcases hstreams c stream hstream with ⟨rfl, -⟩ | ⟨-, hold⟩
        · omega
        · rw [h.fresh c (by omega)] at hold
          exact absurd hold (by simp)
  · rcases hstreams c stream hstream with ⟨rfl, rfl⟩ | ⟨hne, hold⟩
    · rw [hcalls, Objects.get_add_next, Option.some.injEq, Call.mk.injEq] at hcall
      obtain rfl := CallKind.startAssistantStream.inj hcall.1
      rw [hactive, if_pos rfl]
    · exact hkeep _ c (h.running c input' point stream (hget c _ hne hcall) hrunning hold hopen)
  · rcases hstreams c stream hstream with ⟨rfl, rfl⟩ | ⟨hne, hold⟩
    · exact ⟨input.sessionKey, by rw [hactive, if_pos rfl]⟩
    · obtain ⟨key, hkey⟩ := h.returned c call stream (hget c call hne hcall) hfailed hold hopen
      exact ⟨key, hkeep key c hkey⟩

/-- A call that fails takes its stream from the map, if it is still there. -/
lemma RegistryOk.abandon {input : StartAssistantStreamInput} {point : CallPoint}
    {error : BrokerError} {c : ℕ} (h : RegistryOk client)
    (hcall : client.calls.get c = some ⟨.startAssistantStream input, point⟩)
    (hrunning : point.running = true)
    (htable : client'.table = client.table.closeActiveStream input.sessionKey c)
    (hcalls : client'.calls =
      client.calls.modify c fun call => { call with point := .returned (.error error) }) :
    RegistryOk client' := by
  have hactive : ∀ key id, client'.table.activeStreams.get key = some id ↔
      client.table.activeStreams.get key = some id ∧ id ≠ c := by
    intro key id
    have hself : client.table.activeStreams.get key = some c → key = input.sessionKey := by
      intro hkey
      obtain ⟨stream, hstream, hopen⟩ := h.table.opens key c hkey
      exact h.table.unique _ _ c hkey (h.running c input point stream hcall hrunning hstream hopen)
    simp only [htable, StreamTable.closeActiveStream]
    split_ifs with hregistered
    · rw [OrderedMap.get_delete]
      split_ifs with hkey
      · subst hkey
        refine ⟨fun hfalse => absurd hfalse (by simp), fun hother => ?_⟩
        exact absurd (Option.some.inj (hother.1.symm.trans hregistered)) hother.2
      · exact ⟨fun hid => ⟨hid, fun hc => hkey (hself (hc ▸ hid))⟩, fun hid => hid.1⟩
    · exact ⟨fun hid => ⟨hid, fun hc => hregistered (hself (hc ▸ hid) ▸ hc ▸ hid)⟩,
        fun hid => hid.1⟩
  have hstreams : ∀ c' stream', client'.table.streams c' = some stream' →
      stream'.queue.closed = false → c' ≠ c ∧ client.table.streams c' = some stream' := by
    intro c' stream' hstream' hopen
    simp only [htable, StreamTable.closeActiveStream, Function.update_apply] at hstream'
    split_ifs at hstream' with hc
    · obtain ⟨stream, -, rfl⟩ := Option.map_eq_some_iff.mp hstream'
      exact absurd hopen (by simp [ActiveStream.close])
    · exact ⟨hc, hstream'⟩
  have hget : ∀ c' call', c' ≠ c → client'.calls.get c' = some call' →
      client.calls.get c' = some call' := by
    intro c' call' hne hcall'
    rw [hcalls, Objects.get_modify_of_ne hne] at hcall'
    exact hcall'
  refine ⟨⟨fun key id hkey => ?_, fun key key' id hkey hkey' => ?_⟩, fun c' hc' => ?_,
    fun c' input' point' stream hcall' hrunning' hstream hopen => ?_,
    fun c' call' stream hcall' hfailed hstream hopen => ?_⟩
  · obtain ⟨hold, hne⟩ := (hactive key id).mp hkey
    obtain ⟨stream, hstream, hopen⟩ := h.table.opens key id hold
    rw [htable]
    exact ⟨stream, (Function.update_of_ne hne ..).trans hstream, hopen⟩
  · exact h.table.unique key key' id ((hactive key id).mp hkey).1 ((hactive key' id).mp hkey').1
  · rw [hcalls, Objects.next_modify] at hc'
    have hnone := h.fresh c' hc'
    simp only [htable, StreamTable.closeActiveStream, Function.update_apply]
    split_ifs with hc
    · rw [← hc, hnone, Option.map_none]
    · exact hnone
  · obtain ⟨hne, hold⟩ := hstreams c' stream hstream hopen
    exact (hactive _ c').mpr
      ⟨h.running c' input' point' stream (hget c' _ hne hcall') hrunning' hold hopen, hne⟩
  · obtain ⟨hne, hold⟩ := hstreams c' stream hstream hopen
    obtain ⟨key, hkey⟩ := h.returned c' call' stream (hget c' call' hne hcall') hfailed hold hopen
    exact ⟨key, (hactive key c').mpr ⟨hkey, hne⟩⟩

/-- A response that names the key of the stream leaves the map alone. -/
lemma bindRun_move {table : StreamTable} {id : ℕ} {key runId : String} :
    TableMove table (table.bindRun id key key runId) := by
  rw [StreamTable.bindRun, if_pos rfl]
  cases hstream : table.streams id with
  | none =>
      have hsame := update_none hstream fun stream => { stream with runId := some runId }
      rw [hstream] at hsame
      rw [hsame]
      exact .same
  | some stream =>
      exact .proceeds id stream { stream with runId := some runId } hstream
        (proceeds_of_events rfl rfl rfl (List.Subset.refl _)) rfl

/-- The map after the move of a stream that is registered to a key that is free. -/
lemma get_bindRun {table : StreamTable} {id : ℕ} {key key' runId : String} (hne : key' ≠ key)
    (name : String) :
    (table.bindRun id key key' runId).activeStreams.get name =
      if name = key' then some id else if name = key then none
      else table.activeStreams.get name := by
  rw [StreamTable.bindRun, if_neg hne, OrderedMap.get_set, OrderedMap.get_delete]

lemma TableOk.bindRun {table : StreamTable} {id : ℕ} {key key' runId : String} (h : TableOk table)
    (hne : key' ≠ key) (hkey : table.activeStreams.get key = some id) :
    TableOk (table.bindRun id key key' runId) := by
  have hother : ∀ name id', name ≠ key → table.activeStreams.get name = some id' → id' ≠ id := by
    rintro name id' hname hget rfl
    exact hname (h.unique name key id' hget hkey)
  obtain ⟨stream, hstream, hopen⟩ := h.opens key id hkey
  refine ⟨fun name id' hname => ?_, fun name name' id' hname hname' => ?_⟩
  · rw [get_bindRun hne] at hname
    split_ifs at hname with hname₁ hname₂
    · obtain rfl := Option.some.inj hname
      refine ⟨{ stream with runId := some runId }, ?_, hopen⟩
      simp [StreamTable.bindRun, hstream]
    · obtain ⟨stream', hstream', hopen'⟩ := h.opens name id' hname
      exact ⟨stream', (Function.update_of_ne (hother name id' hname₂ hname) ..).trans hstream',
        hopen'⟩
  · rw [get_bindRun hne] at hname hname'
    split_ifs at hname hname' with h₁ h₂ h₃ h₄ h₅ h₆
    · exact h₁.trans h₂.symm
    · obtain rfl := Option.some.inj hname
      exact absurd rfl (hother name' _ h₃ hname')
    · obtain rfl := Option.some.inj hname'
      exact absurd rfl (hother name _ h₄ hname)
    · exact h.unique name name' id' hname hname'

/-- A call has the response to its message: its stream is moved. -/
lemma RegistryOk.started {input : StartAssistantStreamInput} {again : Bool} {wait : RequestWait}
    {point : CallPoint} {c : ℕ} {key runId : String} (h : RegistryOk client)
    (hcall : client.calls.get c = some ⟨.startAssistantStream input, .sending again wait⟩)
    (hsound : key = input.sessionKey ∨ (client.table.activeStreams.get input.sessionKey = some c ∧
      client.table.activeStreams.get key = none))
    (hmoves : TableMoves (client.table.bindRun c input.sessionKey key runId) client'.table)
    (hpoint : point.running = false)
    (hcalls : client'.calls = client.calls.modify c fun call => { call with point := point }) :
    RegistryOk client' := by
  by_cases hkey : key = input.sessionKey
  · subst hkey
    refine h.moves (.head bindRun_move hmoves) (by rw [hcalls]; exact le_rfl) fun c' call' hcall' => ?_
    rw [hcalls] at hcall'
    exact modified_running hcall rfl c' call' hcall'
  obtain ⟨hregistered, hfree⟩ := hsound.resolve_left hkey
  obtain ⟨hok, hkeeps⟩ := tableMoves_ok (h.table.bindRun hkey hregistered) hmoves
  -- The streams of the other calls have kept their keys.
  have hother : ∀ c' stream', c' ≠ c → client'.table.streams c' = some stream' →
      stream'.queue.closed = false → ∃ stream, client.table.streams c' = some stream ∧
        stream.queue.closed = false ∧ ∀ name, client.table.activeStreams.get name = some c' →
          client'.table.activeStreams.get name = some c' := by
    intro c' stream' hne hstream' hopen'
    obtain ⟨bound, hbound, hopen, hkeys⟩ := hkeeps c' stream' hstream' hopen'
    refine ⟨bound, ?_, hopen, fun name hname => hkeys name ?_⟩
    · exact (Function.update_of_ne hne ..).symm.trans hbound
    · rw [get_bindRun hkey]
      split_ifs with h₁ h₂
      · subst h₁
        rw [hfree] at hname
        exact absurd hname (by simp)
      · subst h₂
        exact absurd (Option.some.inj (hname.symm.trans hregistered)) hne
      · exact hname
  have hget : ∀ c' call', c' ≠ c → client'.calls.get c' = some call' →
      client.calls.get c' = some call' := by
    intro c' call' hne hcall'
    rw [hcalls, Objects.get_modify_of_ne hne] at hcall'
    exact hcall'
  refine ⟨hok, fun c' hc' => ?_, fun c' input' point' stream' hcall' hrunning hstream' hopen' => ?_,
    fun c' call' stream' hcall' hfailed hstream' hopen' => ?_⟩
  · rw [hcalls, Objects.next_modify] at hc'
    cases hstream' : client'.table.streams c' with
    | none => rfl
    | some stream' =>
        obtain ⟨bound, hbound, -⟩ := hmoves.proceeds hstream'
        obtain ⟨stream, hstream, -⟩ := bindRun_proceeds hbound
        rw [h.fresh c' hc'] at hstream
        exact absurd hstream (by simp)
  · by_cases hne : c' = c
    · subst hne
      rw [hcalls, Objects.get_modify_of_some hcall, Option.some.injEq, Call.mk.injEq] at hcall'
      rw [← hcall'.2, hpoint] at hrunning
      exact absurd hrunning (by simp)
    · obtain ⟨stream, hstream, hopen, hkeys⟩ := hother c' stream' hne hstream' hopen'
      exact hkeys _ (h.running c' input' point' stream (hget c' _ hne hcall') hrunning hstream hopen)
  · by_cases hne : c' = c
    · subst hne
      obtain ⟨bound, -, -, hkeys⟩ := hkeeps c' stream' hstream' hopen'
      exact ⟨key, hkeys key (by rw [get_bindRun hkey, if_pos rfl])⟩
    · obtain ⟨stream, hstream, hopen, hkeys⟩ := hother c' stream' hne hstream' hopen'
      obtain ⟨name, hname⟩ :=
        h.returned c' call' stream (hget c' call' hne hcall') hfailed hstream hopen
      exact ⟨name, hkeys name hname⟩

/-- The map is in order after every event that moves no stream it should not. -/
lemma registryOk_step (options : ClientOptions) (client : OperatorClient) (event : ClientEvent)
    (h : RegistryOk client) (hsound : SoundMove client event) :
    RegistryOk (clientStep options client event) := by
  have heffect := stream_effect options client event
  generalize htable : (clientStep options client event).table = table at heffect
  generalize hcalls : (clientStep options client event).calls = calls at heffect
  cases heffect with
  | moved table hmoves =>
      refine h.moves (htable ▸ hmoves) (by rw [hcalls]) fun c call' hcall' => ?_
      exact .inr ⟨call', hcalls ▸ hcall', rfl, id, fun _ => id⟩
  | added kind point hkind =>
      refine h.moves (htable ▸ .refl) (by rw [hcalls]; exact Nat.le_succ _) fun c call' hcall' => ?_
      rw [hcalls] at hcall'
      exact added_running c call' hcall'
  | lost code message calls hlost =>
      refine h.lost htable ?_ fun c call' hcall' => ?_
      · rcases hlost with rfl | ⟨wait, rfl⟩
        · rw [hcalls]
        · rw [hcalls]
          exact Nat.le_succ _
      · rw [hcalls] at hcall'
        rcases hlost with rfl | ⟨wait, rfl⟩
        · exact .inr hcall'
        · exact (Objects.get_add_eq_some hcall').imp_left fun hnew => hnew.1.ge
  | registered input wait hfree => exact h.register hfree htable hcalls
  | continued table c call point hmoves hcall hrunning hpoint =>
      refine h.moves (htable ▸ hmoves) (by rw [hcalls]; exact le_rfl) fun c' call' hcall' => ?_
      rw [hcalls] at hcall'
      exact modified_running hcall hrunning c' call' hcall'
  | abandoned c input point error hcall hrunning => exact h.abandon hcall hrunning htable hcalls
  | started table c input again wait payload point hevent hcall hresult hmoves hpoint =>
      have hmove : move? client event = some ⟨c, input.sessionKey,
          OperatorClient.responseSessionKey payload input.sessionKey⟩ := by
        subst hevent
        simp only [move?, hcall, hresult]
      refine h.started hcall (hsound _ hmove) (htable ▸ hmoves) ?_ hcalls
      rcases hpoint with rfl | ⟨receipt, rfl⟩
      · rfl
      · rfl

lemma registryOk_initial : RegistryOk .initial := by
  have hempty : ∀ key id, OperatorClient.initial.table.activeStreams.get key ≠ some id := by
    intro key id hkey
    exact absurd hkey (by simp [OperatorClient.initial, StreamTable.initial, OrderedMap.get,
      OrderedMap.empty])
  exact ⟨⟨fun key id hkey => absurd hkey (hempty key id),
      fun key _ id hkey => absurd hkey (hempty key id)⟩, fun _ _ => rfl,
    fun _ _ _ _ h => absurd h (by simp [OperatorClient.initial]),
    fun _ _ _ h => absurd h (by simp [OperatorClient.initial])⟩

end Registry

/-! ### Runs -/

/-- The streams of the map are open, and the stream of every call that is running or has returned
it, if its queue is not closed, is registered under exactly one key. -/
structure StreamsRegistered (client : OperatorClient) : Prop where
  opens : ∀ key id, client.table.activeStreams.get key = some id →
    ∃ stream, client.table.streams id = some stream ∧ stream.queue.closed = false
  registered : ∀ c call stream, client.calls.get c = some call → call.point.failed = false →
    client.table.streams c = some stream → stream.queue.closed = false →
    ∃! key, client.table.activeStreams.get key = some c

lemma RegistryOk.streamsRegistered {client : OperatorClient} (h : RegistryOk client) :
    StreamsRegistered client := by
  refine ⟨h.table.opens, fun c call stream hcall hfailed hstream hopen => ?_⟩
  obtain ⟨key, hkey⟩ := h.returned c call stream hcall hfailed hstream hopen
  exact ⟨key, hkey, fun key' hkey' => h.table.unique key' key c hkey' hkey⟩

/-- **No stream is lost, and none is left behind**: in every run in which a response to
`sessions.send` names the key of its stream, or moves a stream that is still registered to a key
that is free, the streams of the map are open and every open stream has its key, in every state. -/
theorem streams_registered (options : ClientOptions) (events : List ClientEvent)
    (h : (clientMachine options).EachStep SoundMove .initial events) :
    (clientMachine options).Always StreamsRegistered .initial events :=
  (EventMachine.always_of_eachStep
    (fun client event hok hsound => registryOk_step options client event hok hsound)
    registryOk_initial h).mono fun _ hok => hok.streamsRegistered

theorem streams_registered_final :
    (clientMachine sampleClientOptions).EachStep SoundMove .initial finalRun ∧
      (clientMachine sampleClientOptions).Always StreamsRegistered .initial finalRun := by
  have hsound : (clientMachine sampleClientOptions).EachStep SoundMove .initial finalRun := by
    decide
  exact ⟨hsound, streams_registered sampleClientOptions finalRun hsound⟩

/-- The turn ends before the gateway has answered, and the answer names another key. -/
def lateKey : List ClientEvent :=
  connectedRun ++ [.startAssistantStream sampleStreamInput 0, .resume 1,
    .message 0 (some (.res "sessions.create:0" true (.object []) .undefined)), .resume 1, .resume 1,
    chatFrame [("state", .string "final")],
    .message 0 (some (.res "sessions.send:1" true
      (.object [("key", .string "agent:a:canonical")]) .undefined)), .resume 1]

/-- A stream whose queue is closed is left in the map. -/
theorem closed_stream_registered :
    ¬ (clientMachine sampleClientOptions).Always StreamsRegistered .initial lateKey := by
  have hactive : ((clientMachine sampleClientOptions).outcome .initial
      lateKey).table.activeStreams.get "agent:a:canonical" = some 1 := by decide
  have hclosed : (((clientMachine sampleClientOptions).outcome .initial lateKey).table.streams
      1).map (fun stream => stream.queue.closed) = some true := by decide
  intro h
  obtain ⟨stream, hstream, hopen⟩ := h.outcome.opens _ _ hactive
  rw [hstream, Option.map_some, hopen] at hclosed
  exact absurd hclosed (by simp)

end Opzava.GatewayBroker
