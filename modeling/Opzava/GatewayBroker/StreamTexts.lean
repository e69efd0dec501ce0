import Opzava.GatewayBroker.StreamCalls

/-!
The text of a stream and the deltas of its queue.

A record with a `deltaText` changes the text of its stream and the queue side by side: the text is
extended, or replaced when the record says so, and the event that is queued holds the new part
alone. The text is therefore the one a reader of the events would rebuild who knew which deltas
replace what was before them.

* `TableStep`, `clientStep_steps`: an event changes the table by operations of the table.
* `rebuilt_eq_deltaTexts_iff`: the rebuilt text against the texts of the deltas in a row.
* `TextOk`, `textOk_run`: the text of every open stream is the rebuilt one.
* `final_text_iff`: the exact condition under which a final text is the deltas in a row.
-/

namespace Opzava.GatewayBroker

open Opzava.Library

/-! ### Operations of the table -/

/-- The operations on the table of streams. -/
inductive TableStep (texts : GatewayTexts) (table : StreamTable) : StreamTable → Prop
  | registered (id : ℕ) (sessionKey turnId : String) :
      TableStep texts table (table.register id sessionKey turnId)
  | queued (id : ℕ) : TableStep texts table (table.pushQueued id)
  | closed (sessionKey : String) (id : ℕ) :
      TableStep texts table (table.closeActiveStream sessionKey id)
  | failed (code message : String) : TableStep texts table (table.failActiveStreams code message)
  | streamEvent (payload : JsValue) (table' : StreamTable)
      (h : table.handleStreamEvent texts payload = some table') : TableStep texts table table'
  | approvalEvent (payload : JsValue) : TableStep texts table (table.handleApprovalEvent payload)
  | bound (id : ℕ) (sessionKey responseSessionKey runId : String) :
      TableStep texts table (table.bindRun id sessionKey responseSessionKey runId)
  | unbuffered (id : ℕ) (stream : ActiveStream) (hstream : table.streams id = some stream) :
      TableStep texts table (table.put id { stream with pendingStreamEvents := [] })
  | asked (id : ℕ) : TableStep texts table (table.next id)

/-- The operations of one event of the client. -/
abbrev TableSteps (texts : GatewayTexts) : StreamTable → StreamTable → Prop :=
  Relation.ReflTransGen (TableStep texts)

section Steps

variable {texts : GatewayTexts} {options : ClientOptions} {client : OperatorClient}
  {table : StreamTable} {c : ℕ} {input : StartAssistantStreamInput}

lemma flushEvents_steps (texts : GatewayTexts) (key : String) (records : List JsRecord) :
    ∀ table : StreamTable, TableSteps texts table (table.flushEvents texts key records).1 := by
  induction records with
  | nil => exact fun table => .refl
  | cons record records ih =>
      intro table
      rw [StreamTable.flushEvents]
      split
      · next table' hevent => exact .head (.streamEvent _ table' hevent) (ih table')
      · exact .refl

lemma flushPendingStreamEvents_steps (key : String) (id : ℕ) :
    TableSteps texts table (table.flushPendingStreamEvents texts key id).1 := by
  unfold StreamTable.flushPendingStreamEvents
  split
  · exact .refl
  · next stream hstream =>
      exact .head (.unbuffered id stream hstream) (flushEvents_steps texts key _ _)

lemma streamStarted_steps (payload : JsValue) :
    TableSteps texts client.table (client.streamStarted texts c input payload).table := by
  set key := OperatorClient.responseSessionKey payload input.sessionKey with hkey
  set run := OperatorClient.responseRunId payload input.idempotencyKey with hrun
  have hsteps : TableSteps texts client.table
      ((client.table.bindRun c input.sessionKey key run).flushPendingStreamEvents texts key c).1 :=
    .head (.bound c input.sessionKey key run) (flushPendingStreamEvents_steps key c)
  unfold OperatorClient.streamStarted
  dsimp only
  rw [← hkey, ← hrun]
  split_ifs
  · simp only [OperatorClient.setPoint, (request_table texts _ _ _ _).1]
    exact hsteps
  · exact hsteps

lemma resumeStream_steps (point : CallPoint) :
    TableSteps texts client.table (client.resumeStream texts c input point).table := by
  unfold OperatorClient.resumeStream
  split
  · split
    · exact .refl
    · exact .single (.closed input.sessionKey c)
    · rw [(ensureSessionCreated_table texts _ c input false).1]
      exact .single (.queued c)
  · split
    · exact .refl
    · unfold OperatorClient.sessionCreated
      split
      · exact .refl
      · exact .refl
  · split
    · exact .single (.closed input.sessionKey c)
    · unfold OperatorClient.sendSessionMessage
      simp only [OperatorClient.setPoint, (request_table texts _ _ _ _).1]
      exact .refl
  · split
    · exact .refl
    · exact streamStarted_steps _
    · split_ifs
      · rw [(ensureSessionCreated_table texts _ c input true).1]
      · exact .single (.closed input.sessionKey c)
  · exact .refl

lemma resumePlain_table {method : String} {params : JsRecord} {check : Option BrokerError}
    (point : CallPoint) :
    (client.resumePlain texts c method params check point).table = client.table := by
  unfold OperatorClient.resumePlain
  split
  · split
    · rfl
    · rfl
    · rfl
    · simp only [OperatorClient.setPoint, (request_table texts _ _ _ _).1]
  · split
    · rfl
    · rfl
  · rfl

lemma resume_steps : TableSteps texts client.table (client.resume texts c).table := by
  unfold OperatorClient.resume
  split
  · exact .refl
  · split
    · exact resumeStream_steps _
    · rw [resumePlain_table]
    · rw [resumePlain_table]
    · split
      · split
        · exact .refl
        · exact .refl
      · exact .refl

lemma handleFrame_steps (frame : Frame) :
    TableSteps texts client.table (client.handleFrame texts frame).table := by
  cases frame with
  | req => exact .refl
  | res id ok payload error =>
      simp only [OperatorClient.handleFrame, OperatorClient.handleResponse]
      split_ifs
      · exact .single (.failed _ _)
      · exact .single (.failed _ _)
      · exact .refl
  | event name payload =>
      simp only [OperatorClient.handleFrame, OperatorClient.handleEvent]
      split_ifs
      · exact .refl
      · split
        · next table htable => exact .single (.streamEvent payload table htable)
        · exact .refl
      · exact .single (.approvalEvent payload)
      · exact .refl

lemma handleMessage_steps (n : ℕ) (frame : Option Frame) :
    TableSteps texts client.table (client.handleMessage texts n frame).table := by
  unfold OperatorClient.handleMessage
  split
  · exact .refl
  · next socket _ =>
      by_cases hended : socket.ended = true
      · rw [if_pos hended]
      · rw [if_neg hended]
        cases frame with
        | none => exact .refl
        | some frame =>
            by_cases hcomplete : socket.handshakeComplete = true
            · simp only [if_pos hcomplete]
              exact handleFrame_steps frame
            · simp only [if_neg hcomplete]
              exact .refl

lemma handleClose_steps (n : ℕ) (now : ℤ) :
    TableSteps options.texts client.table (client.handleClose options n now).table := by
  unfold OperatorClient.handleClose
  split
  · exact .refl
  · split_ifs
    · exact .refl
    · unfold OperatorClient.handleSocketClosed
      dsimp only
      split_ifs
      · exact .single (.failed _ _)
      · exact .single (.failed _ _)
    · exact .refl

lemma startAssistantStream_steps (now : ℤ) :
    TableSteps options.texts client.table
      (client.startAssistantStream options input now).table := by
  unfold OperatorClient.startAssistantStream
  dsimp only
  split_ifs
  · exact .refl
  · exact .refl
  · exact .single (.registered _ _ _)

/-- **What an event does to the table**: operations of the table, one after another. -/
lemma clientStep_steps (options : ClientOptions) (client : OperatorClient) (event : ClientEvent) :
    TableSteps options.texts client.table (clientStep options client event).table := by
  cases event with
  | startAssistantStream input now => exact startAssistantStream_steps now
  | getEffectiveTools sessionKey now => exact .refl
  | auditActivityList params now => exact .refl
  | ensureConnected now => exact .refl
  | resume c => exact resume_steps
  | message n frame => exact handleMessage_steps n frame
  | close n now => exact handleClose_steps n now
  | error n => exact .refl
  | signFailed n => exact .refl
  | challengeTimeout n => exact .refl
  | requestTimeout id => exact .refl
  | sendFailed id => exact .refl
  | connectStep now => exact .refl
  | wake now => exact .refl
  | connectFinally => exact .refl
  | disconnect => exact .single (.failed _ _)
  | next stream => exact .single (.asked stream)

end Steps

/-! ### The rebuilt text -/

/-- The text of a delta. -/
def StreamEvent.deltaText : StreamEvent → Option String
  | .delta _ deltaText => some deltaText
  | _ => none

/-- The text of the event that ends a stream well. -/
def StreamEvent.finalText : StreamEvent → Option String
  | .final _ text _ _ => some text
  | _ => none

/-- The event comes from a record that replaces the text before it. -/
def Emission.replaces (emission : Emission) : Bool :=
  match emission.source with
  | .stream record => isJsTrue (JsRecord.read record "replace")
  | _ => false

/-- The text of the deltas, as a reader rebuilds it who knows which of them replace. -/
def rebuild (text : String) (emission : Emission) : String :=
  match emission.event.deltaText with
  | some deltaText => if emission.replaces then deltaText else text ++ deltaText
  | none => text

/-- The text that is rebuilt from the events of a stream. -/
def rebuilt (events : List Emission) : String := events.foldl rebuild ""

/-- The deltas of a stream. -/
def deltas (events : List Emission) : List Emission :=
  events.filter fun e => e.event.deltaText.isSome

/-- The texts of the deltas in a row. -/
def deltaTexts (events : List Emission) : String :=
  (events.filterMap fun e => e.event.deltaText).foldl (· ++ ·) ""

section Rebuilt

variable {events : List Emission} {e : Emission} {deltaText : String}

lemma rebuilt_concat : rebuilt (events ++ [e]) = rebuild (rebuilt events) e := by
  rw [rebuilt, List.foldl_append]
  rfl

lemma rebuilt_of_none (h : e.event.deltaText = none) :
    rebuilt (events ++ [e]) = rebuilt events := by
  rw [rebuilt_concat, rebuild, h]

lemma deltas_concat_of_none (h : e.event.deltaText = none) :
    deltas (events ++ [e]) = deltas events := by
  simp [deltas, h]

lemma deltas_concat_of_some (h : e.event.deltaText = some deltaText) :
    deltas (events ++ [e]) = deltas events ++ [e] := by
  simp [deltas, h]

lemma deltaTexts_concat_of_none (h : e.event.deltaText = none) :
    deltaTexts (events ++ [e]) = deltaTexts events := by
  simp [deltaTexts, h]

lemma deltaTexts_concat_of_some (h : e.event.deltaText = some deltaText) :
    deltaTexts (events ++ [e]) = deltaTexts events ++ deltaText := by
  simp [deltaTexts, h, List.foldl_append]

/-- Every delta of the events has a text. -/
def DeltasFilled (events : List Emission) : Prop :=
  ∀ e ∈ events, ∀ deltaText, e.event.deltaText = some deltaText → deltaText ≠ ""

lemma append_eq_right_iff (s t : String) : t = s ++ t ↔ s = "" := by
  constructor
  · intro h
    have hlength := congrArg String.length h
    rw [String.length_append] at hlength
    exact String.length_eq_zero_iff.mp (by omega)
  · rintro rfl
    exact (String.empty_append).symm

lemma append_left_inj (s s' t : String) : s ++ t = s' ++ t ↔ s = s' := by
  rw [← String.toList_inj, String.toList_append, String.toList_append, List.append_left_inj,
    String.toList_inj]

/-- There are no texts in a row without a delta. -/
lemma deltaTexts_eq_empty_iff (hfilled : DeltasFilled events) :
    deltaTexts events = "" ↔ deltas events = [] := by
  induction events using List.reverseRecOn with
  | nil => exact ⟨fun _ => rfl, fun _ => rfl⟩
  | append_singleton events e ih =>
      cases hdelta : e.event.deltaText with
      | none =>
          rw [deltaTexts_concat_of_none hdelta, deltas_concat_of_none hdelta]
          exact ih fun e he => hfilled e (List.mem_append_left _ he)
      | some deltaText =>
          have hmem : e ∈ events ++ [e] := List.mem_append_right _ (List.mem_singleton_self _)
          have hne := hfilled e hmem deltaText hdelta
          rw [deltaTexts_concat_of_some hdelta, deltas_concat_of_some hdelta]
          refine ⟨fun h => absurd ?_ hne, fun h => absurd h (List.append_ne_nil_of_right_ne_nil _
            (List.cons_ne_nil _ _))⟩
          exact (String.append_eq_empty_iff.mp h).2

/-- **The rebuilt text is the deltas in a row** if and only if no delta after the first one replaces
what was before it. -/
lemma rebuilt_eq_deltaTexts_iff (hfilled : DeltasFilled events) :
    rebuilt events = deltaTexts events ↔ ∀ e ∈ (deltas events).tail, e.replaces = false := by
  induction events using List.reverseRecOn with
  | nil => exact ⟨fun _ e he => absurd he List.not_mem_nil, fun _ => rfl⟩
  | append_singleton events e ih =>
      have hbefore : DeltasFilled events := fun e he => hfilled e (List.mem_append_left _ he)
      cases hdelta : e.event.deltaText with
      | none =>
          rw [rebuilt_of_none hdelta, deltaTexts_concat_of_none hdelta,
            deltas_concat_of_none hdelta]
          exact ih hbefore
      | some deltaText =>
          rw [rebuilt_concat, rebuild, hdelta, deltaTexts_concat_of_some hdelta,
            deltas_concat_of_some hdelta]
          cases hreplaces : e.replaces with
          | false =>
              have htail : (∀ d ∈ (deltas events ++ [e]).tail, d.replaces = false) ↔
                  ∀ d ∈ (deltas events).tail, d.replaces = false := by
                cases hdeltas : deltas events with
                | nil => simp
                | cons first rest => simp [or_imp, forall_and, hreplaces]
              rw [htail]
              exact (append_left_inj _ _ _).trans (ih hbefore)
          | true =>
              have htail : (∀ d ∈ (deltas events ++ [e]).tail, d.replaces = false) ↔
                  deltas events = [] := by
                cases hdeltas : deltas events with
                | nil => simp
                | cons first rest => simp [or_imp, forall_and, hreplaces]
              rw [htail, ← deltaTexts_eq_empty_iff hbefore]
              exact append_eq_right_iff _ _

end Rebuilt

/-! ### The text of a stream -/

/-- The text of an open stream is the one its events rebuild; the deltas have texts; and an event
that ends the stream well comes from a record, whose message it has, or else the text that was
rebuilt so far. -/
structure TextOk (stream : ActiveStream) : Prop where
  text : stream.queue.closed = false → stream.text = rebuilt stream.events
  filled : DeltasFilled stream.events
  finals : ∀ before e after, stream.events = before ++ e :: after →
    ∀ text, e.event.finalText = some text → ∃ record, e.source = .stream record ∧
      text = (textFromMessage (JsRecord.read record "message")).getD (rebuilt before)

section Text

variable {texts : GatewayTexts} {stream stream' : ActiveStream} {event : StreamEvent}
  {source : Source} {record : JsRecord} {sessionKey : String}

lemma textOk_start (sessionKey turnId : String) : TextOk (.start sessionKey turnId) where
  text _ := rfl
  filled _ he := absurd he List.not_mem_nil
  finals _ _ _ h := absurd h.symm (List.append_ne_nil_of_right_ne_nil _ (List.cons_ne_nil _ _))

/-- A change that leaves the text and the events alone. -/
lemma TextOk.of_events (h : TextOk stream) (htext : stream'.text = stream.text)
    (hevents : stream'.events = stream.events)
    (hclosed : stream'.queue.closed = false → stream.queue.closed = false) : TextOk stream' := by
  refine ⟨fun hopen => ?_, ?_, ?_⟩
  · rw [htext, hevents]
    exact h.text (hclosed hopen)
  · rw [hevents]
    exact h.filled
  · rw [hevents]
    exact h.finals

lemma TextOk.close (h : TextOk stream) : TextOk stream.close :=
  h.of_events rfl rfl fun hopen => absurd hopen (by simp [ActiveStream.close])

/-- A place in a list with one more item is a place of the list, or the last one. -/
lemma split_concat {α : Type} {xs before after : List α} {x y : α}
    (h : xs ++ [x] = before ++ y :: after) :
    (before = xs ∧ y = x ∧ after = []) ∨ ∃ rest, xs = before ++ y :: rest := by
  rcases List.eq_nil_or_concat after with rfl | ⟨rest, last, rfl⟩
  · obtain ⟨hbefore, hlast⟩ := List.append_inj' h rfl
    exact .inl ⟨hbefore.symm, (List.cons.inj hlast).1.symm, rfl⟩
  · rw [List.concat_eq_append, ← List.cons_append, ← List.append_assoc] at h
    exact .inr ⟨rest, (List.append_inj' h rfl).1⟩

/-- An event is taken, with the text that stands beside it. -/
lemma TextOk.emit (h : TextOk stream) {text : String}
    (htext : stream.queue.closed = false → text = rebuild stream.text ⟨event, source, stream.runId⟩)
    (hfilled : ∀ deltaText, event.deltaText = some deltaText → deltaText ≠ "")
    (hfinal : stream.queue.closed = false → ∀ final, event.finalText = some final →
      ∃ record, source = .stream record ∧
        final = (textFromMessage (JsRecord.read record "message")).getD stream.text) :
    TextOk ({ stream with text := text }.emit event source) := by
  cases hopen : stream.queue.closed with
  | true =>
      have hsame : { stream with text := text }.emit event source = { stream with text := text } :=
        emit_of_closed hopen
      rw [hsame]
      exact ⟨fun hfalse => absurd (hopen.symm.trans hfalse) (by simp), h.filled, h.finals⟩
  | false =>
      have hevents : ({ stream with text := text }.emit event source).events =
          stream.events ++ [⟨event, source, stream.runId⟩] := by
        rw [events_emit, if_neg (by simp [hopen])]
        rfl
      refine ⟨fun _ => ?_, ?_, fun before e after hsplit final hevent => ?_⟩
      · rw [hevents, rebuilt_concat, ← h.text hopen]
        exact htext hopen
      · rw [hevents]
        intro e he deltaText hdelta
        rcases List.mem_append.mp he with hold | hnew
        · exact h.filled e hold deltaText hdelta
        · obtain rfl := List.mem_singleton.mp hnew
          exact hfilled deltaText hdelta
      · rw [hevents] at hsplit
        rcases split_concat hsplit with ⟨rfl, rfl, -⟩ | ⟨rest, hold⟩
        · rw [← h.text hopen]
          exact hfinal hopen final hevent
        · exact h.finals before e rest hold final hevent

/-- An event that is neither a delta nor a good end. -/
lemma TextOk.emit_other (h : TextOk stream) (hdelta : event.deltaText = none)
    (hfinal : event.finalText = none) : TextOk (stream.emit event source) := by
  refine h.emit (fun _ => ?_) (fun deltaText hsome => ?_)
    fun _ final hsome => ?_
  · rw [rebuild, hdelta]
  · rw [hdelta] at hsome
    exact absurd hsome (by simp)
  · rw [hfinal] at hsome
    exact absurd hsome (by simp)

lemma TextOk.takeDelta (h : TextOk stream) : TextOk (stream.takeDelta record) := by
  unfold ActiveStream.takeDelta
  split
  · next deltaText _ =>
      split_ifs with hempty hreplace
      · exact h
      · refine h.emit (fun _ => ?_) (fun deltaText' hsome => ?_) fun _ final hsome => ?_
        · simp [rebuild, StreamEvent.deltaText, Emission.replaces, hreplace]
        · obtain rfl := Option.some.inj hsome
          exact hempty
        · exact absurd hsome (by simp [StreamEvent.finalText])
      · refine h.emit (fun _ => ?_) (fun deltaText' hsome => ?_) fun _ final hsome => ?_
        · simp [rebuild, StreamEvent.deltaText, Emission.replaces, hreplace]
        · obtain rfl := Option.some.inj hsome
          exact hempty
        · exact absurd hsome (by simp [StreamEvent.finalText])
  · exact h

lemma TextOk.takeToolCall (h : TextOk stream) : TextOk (stream.takeToolCall record) := by
  unfold ActiveStream.takeToolCall
  split
  · exact h
  · split
    · exact h.emit_other rfl rfl
    · exact h

/-- The good end of a stream. -/
lemma TextOk.emit_final (h : TextOk stream) :
    TextOk (stream.emit (stream.finalEvent sessionKey record) (.stream record)) := by
  refine h.emit (fun _ => rfl) (fun deltaText hsome => ?_)
    fun _ final hsome => ⟨record, rfl, ?_⟩
  · exact absurd hsome (by simp [ActiveStream.finalEvent, StreamEvent.deltaText])
  · exact (Option.some.inj hsome).symm

lemma TextOk.handleChatStreamState (h : TextOk stream) (state : String) :
    TextOk (stream.handleChatStreamState texts sessionKey record state).1 := by
  unfold ActiveStream.handleChatStreamState
  dsimp only
  by_cases hdelta : state = "delta"
  · rw [if_pos hdelta]
    exact h.takeDelta
  · rw [if_neg hdelta]
    split_ifs
    · exact h.emit_final
    · exact h.emit_other rfl rfl
    · exact h.emit_other rfl rfl
    · exact h.emit_other rfl rfl

/-- **A record of the stream's run** keeps the text beside the events. -/
lemma TextOk.receive {result : ActiveStream × Bool} (h : TextOk stream)
    (hreceive : stream.receive texts sessionKey record = some result) : TextOk result.1 := by
  unfold ActiveStream.receive at hreceive
  split at hreceive
  · next state _ =>
      split at hreceive
      · split_ifs at hreceive
        · obtain rfl := Option.some.inj hreceive
          exact h
        · obtain rfl := Option.some.inj hreceive
          refine TextOk.handleChatStreamState ?_ state
          exact h.of_events rfl rfl id
      · obtain rfl := Option.some.inj hreceive
        exact h.handleChatStreamState state
  · split at hreceive
    · dsimp only at hreceive
      split_ifs at hreceive
      · obtain rfl := Option.some.inj hreceive
        exact h.takeDelta.takeToolCall.emit_final
      · obtain rfl := Option.some.inj hreceive
        exact h.takeDelta.takeToolCall
    · unfold ActiveStream.takeError at hreceive
      split at hreceive
      · exact absurd hreceive (by simp)
      · obtain ⟨message, -, rfl⟩ := Option.map_eq_some_iff.mp hreceive
        exact h.emit_other rfl rfl

end Text

/-! ### Runs -/

/-- The streams of a table have their texts. -/
def TextsOk (table : StreamTable) : Prop :=
  ∀ id stream, table.streams id = some stream → TextOk stream

section Runs

variable {texts : GatewayTexts} {table table' : StreamTable} {id : ℕ} {stream : ActiveStream}

lemma TextsOk.put (h : TextsOk table) (hstream : TextOk stream) :
    TextsOk (table.put id stream) := by
  intro id' stream' hstream'
  rcases put_some hstream' with ⟨-, rfl⟩ | ⟨-, hold⟩
  · exact hstream
  · exact h id' stream' hold

/-- Every stream is changed by one function. -/
lemma TextsOk.map (h : TextsOk table) (f : ℕ → ActiveStream → ActiveStream)
    (hf : ∀ id stream, TextOk stream → TextOk (f id stream))
    (hstreams : ∀ id, table'.streams id = table.streams id ∨
      table'.streams id = (table.streams id).map (f id)) : TextsOk table' := by
  intro id stream' hstream'
  rcases hstreams id with hsame | hchanged
  · exact h id stream' (hsame ▸ hstream')
  · rw [hchanged] at hstream'
    obtain ⟨stream, hstream, rfl⟩ := Option.map_eq_some_iff.mp hstream'
    exact hf id stream (h id stream hstream)

/-- One stream is changed. -/
lemma TextsOk.update (h : TextsOk table) (f : ActiveStream → ActiveStream)
    (hf : ∀ stream, TextOk stream → TextOk (f stream))
    (hstreams : table'.streams = Function.update table.streams id ((table.streams id).map f)) :
    TextsOk table' := by
  refine h.map (fun _ => f) (fun _ => hf) fun id' => ?_
  rw [hstreams]
  by_cases hid : id' = id
  · subst hid
    exact .inr (Function.update_self ..)
  · exact .inl (Function.update_of_ne hid ..)

lemma TextsOk.closeActiveStream (h : TextsOk table) (key : String) (id : ℕ) :
    TextsOk (table.closeActiveStream key id) :=
  h.update ActiveStream.close (fun _ hstream => hstream.close) rfl

lemma TextsOk.deliver {key : String} {record : JsRecord} (h : TextsOk table)
    (hstream : table.streams id = some stream)
    (hdeliver : table.deliver texts key id stream record = some table') : TextsOk table' := by
  unfold StreamTable.deliver at hdeliver
  split at hdeliver
  · exact absurd hdeliver (by simp)
  · next hreceive =>
      obtain rfl := Option.some.inj hdeliver
      exact (h.put ((h id stream hstream).receive hreceive)).closeActiveStream key id
  · next hreceive =>
      obtain rfl := Option.some.inj hdeliver
      exact h.put ((h id stream hstream).receive hreceive)

lemma TextsOk.handleStreamEvent {payload : JsValue} (h : TextsOk table)
    (hevent : table.handleStreamEvent texts payload = some table') : TextsOk table' := by
  unfold StreamTable.handleStreamEvent at hevent
  dsimp only at hevent
  split at hevent
  · obtain rfl := Option.some.inj hevent
    exact h
  · split at hevent
    · obtain rfl := Option.some.inj hevent
      exact h
    · next id _ =>
        split at hevent
        · obtain rfl := Option.some.inj hevent
          exact h
        · next stream hstream =>
            split at hevent
            · obtain rfl := Option.some.inj hevent
              exact h.put ((h id stream hstream).of_events rfl rfl fun hopen => hopen)
            · split_ifs at hevent
              · exact h.deliver hstream hevent
              · obtain rfl := Option.some.inj hevent
                exact h
            · exact h.deliver hstream hevent

lemma TextsOk.handleApprovalEvent (h : TextsOk table) (payload : JsValue) :
    TextsOk (table.handleApprovalEvent payload) := by
  unfold StreamTable.handleApprovalEvent
  split
  · exact h
  · split
    · split
      · exact h
      · split
        · exact h
        · next stream hstream => exact h.put ((h _ stream hstream).emit_other rfl rfl)
    · exact h

/-- **An operation of the table** keeps the texts. -/
lemma TextsOk.step (h : TextsOk table) (hstep : TableStep texts table table') : TextsOk table' := by
  cases hstep with
  | registered id sessionKey turnId => exact h.put (textOk_start sessionKey turnId)
  | queued id =>
      unfold StreamTable.pushQueued
      split
      · next stream hstream => exact h.put ((h id stream hstream).emit_other rfl rfl)
      · exact h
  | closed key id => exact h.closeActiveStream key id
  | failed code message =>
      let fail (stream : ActiveStream) : ActiveStream :=
        (stream.emit (.failed stream.turnId (.string code) message) .connection).close
      have hfail : ∀ stream, TextOk stream → TextOk (fail stream) :=
        fun _ hstream => (hstream.emit_other rfl rfl).close
      refine h.map (fun _ => fail) (fun _ => hfail) fun id => ?_
      simp only [StreamTable.failActiveStreams]
      split_ifs
      · exact .inr rfl
      · exact .inl rfl
  | streamEvent payload table' hevent => exact h.handleStreamEvent hevent
  | approvalEvent payload => exact h.handleApprovalEvent payload
  | bound id key key' runId =>
      exact h.update (fun stream => { stream with runId := some runId })
        (fun _ hstream => hstream.of_events rfl rfl fun hopen => hopen) rfl
  | unbuffered id stream hstream =>
      exact h.put ((h id stream hstream).of_events rfl rfl fun hopen => hopen)
  | asked id =>
      refine h.update (fun stream => { stream with queue := stream.queue.next })
        (fun stream hstream => hstream.of_events rfl AsyncQueue.accepted_next fun hopen => ?_) rfl
      exact AsyncQueue.closed_next ▸ hopen

lemma TextsOk.steps (h : TextsOk table) (hsteps : TableSteps texts table table') :
    TextsOk table' := by
  induction hsteps with
  | refl => exact h
  | tail _ hstep ih => exact ih.step hstep

lemma textsOk_run (options : ClientOptions) (events : List ClientEvent) :
    TextsOk ((clientMachine options).outcome .initial events).table := by
  have hstep : ∀ client event, TextsOk client.table →
      TextsOk (clientStep options client event).table :=
    fun client event h => h.steps (clientStep_steps options client event)
  have hinitial : TextsOk OperatorClient.initial.table := fun _ _ h =>
    absurd h (by simp [OperatorClient.initial, StreamTable.initial])
  have hrun : (clientMachine options).Always (fun client => TextsOk client.table) .initial events :=
    EventMachine.always_of_invariant hstep hinitial
  exact hrun.outcome

end Runs

/-- The record of the event has no text for its message. -/
def Emission.noMessageText (emission : Emission) : Bool :=
  match emission.source with
  | .stream record => (textFromMessage (JsRecord.read record "message")).isNone
  | _ => false

/-- **Final text and deltas.** In every run of a client, when the record that ends a stream well has
no text of its own, the text of the final event is the deltas before it in a row if and only if no
delta after the first one came from a record with `replace`. -/
theorem final_text_iff (options : ClientOptions) (events : List ClientEvent) (c : ℕ)
    (stream : ActiveStream) (before after : List Emission) (e : Emission) (text : String)
    (hstream : ((clientMachine options).outcome .initial events).table.streams c = some stream)
    (hevents : stream.events = before ++ e :: after) (hfinal : e.event.finalText = some text)
    (hmessage : e.noMessageText = true) :
    text = deltaTexts before ↔ ∀ d ∈ (deltas before).tail, d.replaces = false := by
  have h := textsOk_run options events c stream hstream
  have hfilled : DeltasFilled before := fun d hd =>
    h.filled d (hevents ▸ List.mem_append_left _ hd)
  obtain ⟨record, hsource, htext⟩ := h.finals before e after hevents text hfinal
  have hnone : textFromMessage (JsRecord.read record "message") = none := by
    rw [Emission.noMessageText, hsource] at hmessage
    exact Option.isNone_iff_eq_none.mp hmessage
  rw [htext, hnone, Option.getD_none]
  exact rebuilt_eq_deltaTexts_iff hfilled

/-- What is shown of a stream: the deltas before its last event in a row, and of the last event its
text and whether its record has none. -/
def textView (stream : ActiveStream) : String × Option (Option String × Bool) :=
  (deltaTexts stream.events.dropLast,
    stream.events.getLast?.map fun e => (e.event.finalText, e.noMessageText))

lemma textView_split {stream : ActiveStream} {deltas text : String}
    (h : textView stream = (deltas, some (some text, true))) :
    ∃ before e, stream.events = before ++ [e] ∧ e.event.finalText = some text ∧
      e.noMessageText = true ∧ deltaTexts before = deltas := by
  obtain ⟨hdeltas, hlast⟩ := Prod.mk.inj h
  obtain ⟨e, he, hview⟩ := Option.map_eq_some_iff.mp hlast
  obtain ⟨htext, hmessage⟩ := Prod.mk.inj hview
  exact ⟨stream.events.dropLast, e, (List.dropLast_append_getLast? e he).symm, htext, hmessage,
    hdeltas⟩

/-- A stream with two deltas comes to its end. -/
def helloRun : List ClientEvent :=
  streamRun ++ [chatFrame [("state", .string "delta"), ("deltaText", .string "Hel")],
    chatFrame [("state", .string "delta"), ("deltaText", .string "lo")],
    chatFrame [("state", .string "final")]]

theorem final_text_iff_hello :
    ∃ stream, ((clientMachine sampleClientOptions).outcome .initial helloRun).table.streams 1 =
        some stream ∧ ∃ before e, stream.events = before ++ [e] ∧
      e.event.finalText = some "Hello" ∧ deltaTexts before = "Hello" ∧
      ∀ d ∈ (deltas before).tail, d.replaces = false := by
  have hstreams : (((clientMachine sampleClientOptions).outcome .initial helloRun).table.streams
      1).map textView = some ("Hello", some (some "Hello", true)) := by decide
  obtain ⟨stream, hstream, hview⟩ := Option.map_eq_some_iff.mp hstreams
  obtain ⟨before, e, hevents, htext, hmessage, hdeltas⟩ := textView_split hview
  exact ⟨stream, hstream, before, e, hevents, htext, hdeltas,
    (final_text_iff sampleClientOptions helloRun 1 stream before [] e "Hello" hstream hevents htext
      hmessage).mp hdeltas.symm⟩

/-- The second delta of a stream replaces the first one. -/
def replaceRun : List ClientEvent :=
  streamRun ++ [chatFrame [("state", .string "delta"), ("deltaText", .string "Hello")],
    chatFrame [("state", .string "delta"), ("deltaText", .string "Bye"),
      ("replace", .boolean true)],
    chatFrame [("state", .string "final")]]

/-- The final text is not the deltas in a row. -/
theorem final_text_replaced :
    ¬ ∀ (options : ClientOptions) (events : List ClientEvent) (c : ℕ) (stream : ActiveStream)
      (before after : List Emission) (e : Emission) (text : String),
      ((clientMachine options).outcome .initial events).table.streams c = some stream →
      stream.events = before ++ e :: after → e.event.finalText = some text →
      e.noMessageText = true → text = deltaTexts before := by
  intro h
  have hstreams : (((clientMachine sampleClientOptions).outcome .initial replaceRun).table.streams
      1).map textView = some ("HelloBye", some (some "Bye", true)) := by decide
  obtain ⟨stream, hstream, hview⟩ := Option.map_eq_some_iff.mp hstreams
  obtain ⟨before, e, hevents, htext, hmessage, hdeltas⟩ := textView_split hview
  have heq := h sampleClientOptions replaceRun 1 stream before [] e "Bye" hstream hevents htext
    hmessage
  rw [hdeltas] at heq
  exact absurd heq (by decide)

end Opzava.GatewayBroker
