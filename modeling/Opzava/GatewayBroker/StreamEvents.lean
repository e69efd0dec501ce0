import Opzava.GatewayBroker.Streams

/-!
What the queue of a stream holds.

An event that ends a stream is followed by the close of its queue at once, and a queue that is
closed takes nothing more. So whatever the frames are, the events of a stream end with at most one
terminal event.

* `StreamOk`: the events of a stream, and `Finished`: a closed queue ends with a terminal event.
* `Proceeds`: what every change of a stream keeps but the close of one that could not be started.
* `receive_proceeds`, `handleStreamEvent_cases`, `flushEvents_steps`: the records of frames.
-/

namespace Opzava.GatewayBroker

open Opzava.Library

/-! ### Emissions -/

/-- The number of a record with the state `delta`. -/
def deltaSeq (record : JsRecord) : Option String :=
  match JsRecord.read record "state" with
  | .string state => if state = "delta" then numberValue (JsRecord.read record "seq") else none
  | _ => none

/-- The number of the record an event comes from. -/
def Emission.deltaSeq (emission : Emission) : Option String :=
  match emission.source with
  | .stream record => GatewayBroker.deltaSeq record
  | _ => none

/-- The run the record names, if it names one. -/
def recordRun (record : JsRecord) : Option String := stringValue (JsRecord.read record "runId")

/-- A record that names a run is one of the run the stream is bound to. -/
def RunOk (bound : Option String) (record : JsRecord) : Prop :=
  ∀ runId run, recordRun record = some runId → bound = some run → runId = run

/-- The event comes from no record of another run. -/
def Emission.runOk (emission : Emission) : Prop :=
  ∀ record, emission.source = .stream record → RunOk emission.bound record

/-- The events a stream has taken. -/
def ActiveStream.events (stream : ActiveStream) : List Emission := stream.queue.accepted

/-- The events of a stream: they are of its turn, an event that ends the stream is the last one,
the numbers of deltas do not repeat, and no event comes from a record of another run. -/
structure StreamOk (stream : ActiveStream) : Prop where
  turn : ∀ e ∈ stream.events, e.event.turnId = stream.turnId
  ends : ∀ e ∈ stream.events.dropLast, e.event.terminal = false
  opens : stream.queue.closed = false → ∀ e ∈ stream.events, e.event.terminal = false
  seqs : (stream.events.filterMap Emission.deltaSeq).Nodup
  seen : ∀ seq ∈ stream.events.filterMap Emission.deltaSeq, seq ∈ stream.seenChatSeqs
  runs : ∀ e ∈ stream.events, e.runOk

/-- A queue that is closed ends with a terminal event. -/
def Finished (stream : ActiveStream) : Prop :=
  stream.queue.closed = true → ∃ e ∈ stream.events.getLast?, e.event.terminal = true

/-- A change of a stream that keeps its events in order. -/
structure Proceeds (stream stream' : ActiveStream) : Prop where
  ok : StreamOk stream → StreamOk stream'
  finished : StreamOk stream → Finished stream → Finished stream'
  opened : stream'.queue.closed = false → stream.queue.closed = false
  turnId : stream'.turnId = stream.turnId

section Stream

variable {stream stream' stream'' : ActiveStream} {event : StreamEvent} {source : Source}

lemma Proceeds.refl (stream : ActiveStream) : Proceeds stream stream := ⟨id, fun _ h => h, id, rfl⟩

lemma Proceeds.trans (h : Proceeds stream stream') (h' : Proceeds stream' stream'') :
    Proceeds stream stream'' :=
  ⟨fun hok => h'.ok (h.ok hok), fun hok hfin => h'.finished (h.ok hok) (h.finished hok hfin),
    fun hopen => h.opened (h'.opened hopen), h'.turnId.trans h.turnId⟩

/-- A change that leaves the events alone; the numbers that were seen may only grow. -/
lemma proceeds_of_events (hevents : stream'.events = stream.events)
    (hclosed : stream'.queue.closed = stream.queue.closed)
    (hturn : stream'.turnId = stream.turnId) (hseen : stream.seenChatSeqs ⊆ stream'.seenChatSeqs) :
    Proceeds stream stream' := by
  refine ⟨fun hok => ?_, fun _ hfin => ?_, fun hopen => hclosed ▸ hopen, hturn⟩
  · refine ⟨?_, ?_, ?_, ?_, ?_, ?_⟩
    · rw [hevents, hturn]
      exact hok.turn
    · rw [hevents]
      exact hok.ends
    · rw [hevents, hclosed]
      exact hok.opens
    · rw [hevents]
      exact hok.seqs
    · rw [hevents]
      exact fun seq hseq => hseen (hok.seen seq hseq)
    · rw [hevents]
      exact hok.runs
  · rw [Finished, hevents, hclosed]
    exact hfin

lemma events_emit : (stream.emit event source).events =
    if stream.queue.closed then stream.events
    else stream.events ++ [⟨event, source, stream.runId⟩] :=
  AsyncQueue.accepted_push

/-- What an event must meet to be taken: it is of the turn, it comes from no record of another run,
and the number of its record was just noted. -/
structure Admissible (stream : ActiveStream) (event : StreamEvent) (source : Source) : Prop where
  turn : event.turnId = stream.turnId
  run : ∀ record, source = .stream record → RunOk stream.runId record
  seq : ∀ record seq, source = .stream record → deltaSeq record = some seq →
    seq ∈ stream.seenChatSeqs ∧ seq ∉ stream.events.filterMap Emission.deltaSeq

/-- The events after one that was taken. -/
lemma StreamOk.append (hok : StreamOk stream) (hadm : Admissible stream event source)
    (hopen : stream.queue.closed = false) (hevents : stream'.events =
      stream.events ++ [⟨event, source, stream.runId⟩])
    (hturn : stream'.turnId = stream.turnId) (hseen : stream'.seenChatSeqs = stream.seenChatSeqs)
    (hterminal : stream'.queue.closed = false → event.terminal = false) : StreamOk stream' := by
  have hmem : ∀ e ∈ stream'.events, e ∈ stream.events ∨ e = ⟨event, source, stream.runId⟩ := by
    intro e he
    rw [hevents] at he
    exact (List.mem_append.mp he).imp_right List.mem_singleton.mp
  have hseqs : stream'.events.filterMap Emission.deltaSeq =
      stream.events.filterMap Emission.deltaSeq ++
        ((⟨event, source, stream.runId⟩ : Emission).deltaSeq).toList := by
    rw [hevents, List.filterMap_append]
    cases h : (⟨event, source, stream.runId⟩ : Emission).deltaSeq <;> simp [h]
  have hseq : ∀ seq ∈ (⟨event, source, stream.runId⟩ : Emission).deltaSeq.toList,
      seq ∈ stream.seenChatSeqs ∧ seq ∉ stream.events.filterMap Emission.deltaSeq := by
    intro seq hseq
    rw [Option.mem_toList] at hseq
    cases source with
    | stream record => exact hadm.seq record seq rfl hseq
    | call => exact absurd hseq (by simp [Emission.deltaSeq])
    | approval payload => exact absurd hseq (by simp [Emission.deltaSeq])
    | connection => exact absurd hseq (by simp [Emission.deltaSeq])
  refine ⟨fun e he => ?_, ?_, fun hopen' e he => ?_, ?_, fun seq hmemseq => ?_, fun e he => ?_⟩
  · rcases hmem e he with hold | rfl
    · rw [hturn]
      exact hok.turn e hold
    · rw [hturn]
      exact hadm.turn
  · rw [hevents, List.dropLast_concat]
    exact hok.opens hopen
  · rcases hmem e he with hold | rfl
    · exact hok.opens hopen e hold
    · exact hterminal hopen'
  · rw [hseqs]
    refine List.nodup_append.mpr ⟨hok.seqs, ?_, fun a ha b hb hab => (hseq b hb).2 (hab ▸ ha)⟩
    cases (⟨event, source, stream.runId⟩ : Emission).deltaSeq with
    | none => exact List.nodup_nil
    | some seq => exact List.nodup_singleton _
  · rw [hseqs, List.mem_append] at hmemseq
    rw [hseen]
    rcases hmemseq with hold | hnew
    · exact hok.seen seq hold
    · exact (hseq seq hnew).1
  · rcases hmem e he with hold | rfl
    · exact hok.runs e hold
    · exact hadm.run

lemma emit_of_closed (h : stream.queue.closed = true) : stream.emit event source = stream := by
  rw [ActiveStream.emit, AsyncQueue.push, if_pos h]

/-- The close of a queue keeps the order of its events. -/
lemma StreamOk.close (hok : StreamOk stream) : StreamOk stream.close :=
  ⟨hok.turn, hok.ends, fun hfalse => absurd hfalse (by simp [ActiveStream.close]), hok.seqs, hok.seen,
    hok.runs⟩

/-- An event that does not end the stream. -/
lemma proceeds_emit (hadm : Admissible stream event source)
    (hterminal : event.terminal = false) : Proceeds stream (stream.emit event source) := by
  have hclosed : (stream.emit event source).queue.closed = stream.queue.closed :=
    AsyncQueue.closed_push
  cases hopen : stream.queue.closed with
  | true =>
      rw [emit_of_closed hopen]
      exact .refl stream
  | false =>
      have hevents : (stream.emit event source).events =
          stream.events ++ [⟨event, source, stream.runId⟩] := by
        rw [events_emit, hopen]
        rfl
      refine ⟨fun hok => hok.append hadm hopen hevents rfl rfl fun _ => hterminal,
        fun _ _ hclosed' => ?_, fun _ => hopen, rfl⟩
      rw [hclosed, hopen] at hclosed'
      exact absurd hclosed' Bool.false_ne_true

/-- An event that ends the stream, with the close of its queue. -/
lemma proceeds_finish (hadm : Admissible stream event source)
    (hterminal : event.terminal = true) : Proceeds stream (stream.emit event source).close := by
  cases hopen : stream.queue.closed with
  | true =>
      rw [emit_of_closed hopen]
      exact ⟨fun hok => hok.close, fun _ hfin _ => hfin hopen,
        fun hfalse => absurd hfalse (by simp [ActiveStream.close]), rfl⟩
  | false =>
      have hevents : (stream.emit event source).close.events =
          stream.events ++ [⟨event, source, stream.runId⟩] := by
        show (stream.emit event source).events = _
        rw [events_emit, hopen]
        rfl
      refine ⟨fun hok => hok.append hadm hopen hevents rfl rfl
        fun hfalse => absurd hfalse (by simp [ActiveStream.close]), fun _ _ _ => ?_, fun _ => hopen,
        rfl⟩
      rw [hevents, List.getLast?_concat]
      exact ⟨_, rfl, hterminal⟩

/-- An event after another change of the stream. -/
lemma Proceeds.emit (h : Proceeds stream stream')
    (hadm : StreamOk stream → Admissible stream' event source) (hterminal : event.terminal = false) :
    Proceeds stream (stream'.emit event source) where
  ok hok := (proceeds_emit (hadm hok) hterminal).ok (h.ok hok)
  finished hok hfin :=
    (proceeds_emit (hadm hok) hterminal).finished (h.ok hok) (h.finished hok hfin)
  opened hopen := h.opened (AsyncQueue.closed_push ▸ hopen)
  turnId := h.turnId

/-- The end of a stream after another change of it. -/
lemma Proceeds.finish (h : Proceeds stream stream')
    (hadm : StreamOk stream → Admissible stream' event source) (hterminal : event.terminal = true) :
    Proceeds stream (stream'.emit event source).close where
  ok hok := (proceeds_finish (hadm hok) hterminal).ok (h.ok hok)
  finished hok hfin :=
    (proceeds_finish (hadm hok) hterminal).finished (h.ok hok) (h.finished hok hfin)
  opened hopen := absurd hopen (by simp [ActiveStream.close])
  turnId := h.turnId

/-! ### Records -/

variable {texts : GatewayTexts} {sessionKey : String} {record : JsRecord}

/-- An event of a record is taken whose number, if it has one, was noted but not used yet. -/
lemma admissible_stream (hturn : event.turnId = stream.turnId) (hrun : RunOk stream.runId record)
    (hseq : ∀ seq, deltaSeq record = some seq →
      seq ∈ stream.seenChatSeqs ∧ seq ∉ stream.events.filterMap Emission.deltaSeq) :
    Admissible stream event (.stream record) := by
  refine ⟨hturn, fun record' hrecord => ?_, fun record' seq hrecord hsome => ?_⟩
  · obtain rfl := Source.stream.inj hrecord
    exact hrun
  · obtain rfl := Source.stream.inj hrecord
    exact hseq seq hsome

/-- The text of a stream. -/
lemma Proceeds.text (h : Proceeds stream stream') (text : String) :
    Proceeds stream { stream' with text := text } :=
  h.trans (proceeds_of_events rfl rfl rfl (List.Subset.refl _))

lemma takeDelta_proceeds (h : Proceeds stream stream') (hrun : RunOk stream'.runId record)
    (hseq : StreamOk stream → ∀ seq, deltaSeq record = some seq →
      seq ∈ stream'.seenChatSeqs ∧ seq ∉ stream'.events.filterMap Emission.deltaSeq) :
    Proceeds stream (stream'.takeDelta record) := by
  unfold ActiveStream.takeDelta
  split
  · next deltaText _ =>
      by_cases hempty : deltaText = ""
      · rw [if_pos hempty]
        exact h
      · rw [if_neg hempty]
        exact (h.text _).emit (fun hok => admissible_stream rfl hrun (hseq hok)) rfl
  · exact h

lemma takeToolCall_proceeds (h : Proceeds stream stream') (hrun : RunOk stream'.runId record)
    (hseq : deltaSeq record = none) : Proceeds stream (stream'.takeToolCall record) := by
  unfold ActiveStream.takeToolCall
  split
  · exact h
  · split
    · refine h.emit (fun _ => admissible_stream rfl hrun fun seq hsome => ?_) rfl
      rw [hseq] at hsome
      exact absurd hsome (by simp)
    · exact h

lemma takeDelta_runId : (stream.takeDelta record).runId = stream.runId := by
  unfold ActiveStream.takeDelta
  repeat' split
  all_goals rfl

lemma takeDelta_closed : (stream.takeDelta record).queue.closed = stream.queue.closed := by
  unfold ActiveStream.takeDelta
  repeat' split
  all_goals first | rfl | exact AsyncQueue.closed_push

lemma takeToolCall_runId : (stream.takeToolCall record).runId = stream.runId := by
  unfold ActiveStream.takeToolCall
  repeat' split
  all_goals rfl

lemma takeToolCall_closed : (stream.takeToolCall record).queue.closed = stream.queue.closed := by
  unfold ActiveStream.takeToolCall
  repeat' split
  all_goals first | rfl | exact AsyncQueue.closed_push

/-- What a record does to a stream: it proceeds, and its queue is closed if and only if it was
ended. -/
def Received (stream : ActiveStream) (result : ActiveStream × Bool) : Prop :=
  if result.2 then Proceeds stream result.1.close
  else Proceeds stream result.1 ∧ result.1.queue.closed = stream.queue.closed

lemma received_finish (h : Proceeds stream stream') (hrun : RunOk stream'.runId record)
    (hseq : deltaSeq record = none) (hturn : event.turnId = stream'.turnId)
    (hterminal : event.terminal = true) :
    Received stream (stream'.emit event (.stream record), true) := by
  refine h.finish (fun _ => admissible_stream hturn hrun fun seq hsome => ?_) hterminal
  rw [hseq] at hsome
  exact absurd hsome (by simp)

/-- The state of a `chat` record. -/
lemma handleChatStreamState_received {state : String} (h : Proceeds stream stream')
    (hclosed : stream'.queue.closed = stream.queue.closed) (hrun : RunOk stream'.runId record)
    (hstate : JsRecord.read record "state" = .string state) (hseq : StreamOk stream → ∀ seq, deltaSeq record = some seq →
      seq ∈ stream'.seenChatSeqs ∧ seq ∉ stream'.events.filterMap Emission.deltaSeq) :
    Received stream (stream'.handleChatStreamState texts sessionKey record state) := by
  have hnone : state ≠ "delta" → deltaSeq record = none := by
    intro hne
    rw [deltaSeq, hstate]
    exact if_neg hne
  unfold ActiveStream.handleChatStreamState
  dsimp only
  by_cases hdelta : state = "delta"
  · rw [if_pos hdelta]
    exact ⟨takeDelta_proceeds h hrun hseq, takeDelta_closed.trans hclosed⟩
  · rw [if_neg hdelta]
    split_ifs
    · exact received_finish h hrun (hnone hdelta) rfl rfl
    · exact received_finish h hrun (hnone hdelta) rfl rfl
    · exact received_finish h hrun (hnone hdelta) rfl rfl
    · exact received_finish h hrun (hnone hdelta) rfl rfl

lemma takeError_received {error : JsValue} {result : ActiveStream × Bool}
    (hrun : RunOk stream.runId record) (hseq : deltaSeq record = none)
    (h : stream.takeError texts record error = some result) : Received stream result := by
  unfold ActiveStream.takeError at h
  split at h
  · exact absurd h (by simp)
  · obtain ⟨message, -, rfl⟩ := Option.map_eq_some_iff.mp h
    exact received_finish (.refl stream) hrun hseq rfl rfl

/-- **A record of the stream's run** is received in order. -/
lemma receive_received {result : ActiveStream × Bool} (hrun : RunOk stream.runId record)
    (h : stream.receive texts sessionKey record = some result) : Received stream result := by
  unfold ActiveStream.receive at h
  split at h
  · next state hstate =>
      split at h
      · next seq hseq =>
          have hdelta : deltaSeq record = some seq := by rw [deltaSeq, hstate]; exact hseq
          split_ifs at h with hseen
          · obtain rfl := Option.some.inj h
            exact ⟨.refl stream, rfl⟩
          · obtain rfl := Option.some.inj h
            refine handleChatStreamState_received (proceeds_of_events rfl rfl rfl
              (List.subset_append_left _ _)) rfl hrun hstate fun hok seq' hseq' => ?_
            obtain rfl := Option.some.inj (hdelta.symm.trans hseq')
            exact ⟨List.mem_append_right _ (List.mem_singleton_self _),
              fun hmem => hseen (hok.seen seq hmem)⟩
      · next hseq =>
          have hdelta : deltaSeq record = none := by rw [deltaSeq, hstate]; exact hseq
          obtain rfl := Option.some.inj h
          refine handleChatStreamState_received (.refl stream) rfl hrun hstate fun _ seq hseq' => ?_
          rw [hdelta] at hseq'
          exact absurd hseq' (by simp)
  · next hstate =>
      have hdelta : deltaSeq record = none := by
        rw [deltaSeq]
        split
        · next state hstring => exact absurd hstring (hstate state)
        · rfl
      split at h
      · have hfirst : Proceeds stream (stream.takeDelta record) := by
          refine takeDelta_proceeds (.refl stream) hrun fun _ seq hseq => ?_
          rw [hdelta] at hseq
          exact absurd hseq (by simp)
        have hrun₁ : RunOk (stream.takeDelta record).runId record := by
          rw [takeDelta_runId]
          exact hrun
        have hsecond := takeToolCall_proceeds hfirst hrun₁ hdelta
        have hrun₂ : RunOk ((stream.takeDelta record).takeToolCall record).runId record := by
          rw [takeToolCall_runId]
          exact hrun₁
        dsimp only at h
        split_ifs at h
        · obtain rfl := Option.some.inj h
          exact received_finish hsecond hrun₂ hdelta rfl rfl
        · obtain rfl := Option.some.inj h
          exact ⟨hsecond, takeToolCall_closed.trans takeDelta_closed⟩
      · exact takeError_received hrun hdelta h

end Stream

/-! ### The table -/

section Table

variable {texts : GatewayTexts} {table table' : StreamTable} {payload : JsValue} {id : ℕ}
  {stream : ActiveStream}

/-- A move of the table: a stream proceeds and is as open as before, or it is ended and dropped
from its key. -/
inductive TableMove (table : StreamTable) : StreamTable → Prop
  | same : TableMove table table
  | proceeds (id : ℕ) (stream stream' : ActiveStream) (hstream : table.streams id = some stream)
      (hproceeds : Proceeds stream stream')
      (hclosed : stream'.queue.closed = stream.queue.closed) : TableMove table (table.put id stream')
  | ended (key : String) (id : ℕ) (stream stream' : ActiveStream)
      (hkey : table.activeStreams.get key = some id) (hstream : table.streams id = some stream)
      (hproceeds : Proceeds stream stream'.close) :
      TableMove table { table.put id stream'.close with
        activeStreams := table.activeStreams.delete key }

/-- The moves of a table in one step of the client. -/
abbrev TableMoves : StreamTable → StreamTable → Prop := Relation.ReflTransGen TableMove

lemma closeActiveStream_put {key : String} (hkey : table.activeStreams.get key = some id) :
    (table.put id stream).closeActiveStream key id =
      { table.put id stream.close with activeStreams := table.activeStreams.delete key } := by
  simp [StreamTable.closeActiveStream, StreamTable.put, hkey]

lemma deliver_move {key : String} {record : JsRecord}
    (hkey : table.activeStreams.get key = some id) (hstream : table.streams id = some stream)
    (hrun : RunOk stream.runId record)
    (h : table.deliver texts key id stream record = some table') : TableMove table table' := by
  unfold StreamTable.deliver at h
  split at h
  · exact absurd h (by simp)
  · next stream' hreceive =>
      obtain rfl := Option.some.inj h
      rw [closeActiveStream_put hkey]
      exact .ended key id stream stream' hkey hstream (receive_received hrun hreceive)
  · next stream' hreceive =>
      obtain rfl := Option.some.inj h
      obtain ⟨hproceeds, hclosed⟩ := receive_received hrun hreceive
      exact .proceeds id stream stream' hstream hproceeds hclosed

/-- **A `chat` or `session.message` event** is a move of the table. -/
lemma handleStreamEvent_move (h : table.handleStreamEvent texts payload = some table') :
    TableMove table table' := by
  unfold StreamTable.handleStreamEvent at h
  dsimp only at h
  split at h
  · obtain rfl := Option.some.inj h
    exact .same
  · next key _ =>
      split at h
      · obtain rfl := Option.some.inj h
        exact .same
      · next id hkey =>
          split at h
          · obtain rfl := Option.some.inj h
            exact .same
          · next stream hstream =>
              split at h
              · obtain rfl := Option.some.inj h
                exact .proceeds id stream _ hstream
                  (proceeds_of_events rfl rfl rfl (List.Subset.refl _)) rfl
              · next runId bound hrun hbound =>
                  split_ifs at h with heq
                  · refine deliver_move hkey hstream (fun runId' run hrun' hrun'' => ?_) h
                    rw [recordRun, hrun, Option.some.injEq] at hrun'
                    rw [hbound, Option.some.injEq] at hrun''
                    exact hrun'.symm.trans (heq.trans hrun'')
                  · obtain rfl := Option.some.inj h
                    exact .same
              · next hrun =>
                  refine deliver_move hkey hstream (fun runId' run hrun' => ?_) h
                  rw [recordRun, hrun] at hrun'
                  exact absurd hrun' (by simp)

lemma handleApprovalEvent_move : TableMove table (table.handleApprovalEvent payload) := by
  unfold StreamTable.handleApprovalEvent
  split
  · exact .same
  · split
    · split
      · exact .same
      · split
        · exact .same
        · next stream hstream =>
            refine .proceeds _ stream _ hstream ((Proceeds.refl stream).emit (fun _ => ?_) rfl)
              AsyncQueue.closed_push
            exact ⟨rfl, fun record hrecord => absurd hrecord (by simp),
              fun record seq hrecord => absurd hrecord (by simp)⟩
    · exact .same

/-- An event of the call itself. -/
lemma pushQueued_move : TableMove table (table.pushQueued id) := by
  unfold StreamTable.pushQueued
  split
  · next stream hstream =>
      refine .proceeds _ stream _ hstream ((Proceeds.refl stream).emit (fun _ => ?_) rfl)
        AsyncQueue.closed_push
      exact ⟨rfl, fun record hrecord => absurd hrecord (by simp),
        fun record seq hrecord => absurd hrecord (by simp)⟩
  · exact .same

lemma update_none (h : table.streams id = none) (f : ActiveStream → ActiveStream) :
    Function.update table.streams id ((table.streams id).map f) = table.streams := by
  rw [h, Option.map_none, ← h, Function.update_eq_self]

lemma next_move : TableMove table (table.next id) := by
  rw [StreamTable.next]
  cases hstream : table.streams id with
  | none =>
      have hsame := update_none hstream fun stream => { stream with queue := stream.queue.next }
      rw [hstream] at hsame
      rw [hsame]
      exact .same
  | some stream =>
      exact .proceeds id stream { stream with queue := stream.queue.next } hstream
        (proceeds_of_events AsyncQueue.accepted_next AsyncQueue.closed_next rfl
          (List.Subset.refl _)) AsyncQueue.closed_next

lemma flushEvents_moves (texts : GatewayTexts) (key : String) (records : List JsRecord) :
    ∀ table : StreamTable, TableMoves table (table.flushEvents texts key records).1 := by
  induction records with
  | nil => exact fun table => .refl
  | cons record records ih =>
      intro table
      rw [StreamTable.flushEvents]
      split
      · next table' hevent => exact .head (handleStreamEvent_move hevent) (ih table')
      · exact .refl

lemma flushPendingStreamEvents_moves (key : String) :
    TableMoves table (table.flushPendingStreamEvents texts key id).1 := by
  unfold StreamTable.flushPendingStreamEvents
  split
  · exact .refl
  · next stream hstream =>
      have hfirst : TableMove table (table.put id { stream with pendingStreamEvents := [] }) :=
        .proceeds id stream { stream with pendingStreamEvents := [] } hstream
          (proceeds_of_events rfl rfl rfl (List.Subset.refl _)) rfl
      exact .head hfirst (flushEvents_moves texts key _ _)

lemma put_some {id' : ℕ} {stream' : ActiveStream} (h : (table.put id stream).streams id' = some stream') :
    (id' = id ∧ stream' = stream) ∨ (id' ≠ id ∧ table.streams id' = some stream') := by
  simp only [StreamTable.put, Function.update_apply] at h
  split_ifs at h with hid
  · exact .inl ⟨hid, (Option.some.inj h).symm⟩
  · exact .inr ⟨hid, h⟩

/-- The streams proceed with the moves of their table, and none is added. -/
lemma TableMoves.proceeds (h : TableMoves table table') {stream' : ActiveStream}
    (hstream' : table'.streams id = some stream') :
    ∃ stream, table.streams id = some stream ∧ Proceeds stream stream' := by
  induction h generalizing stream' with
  | refl => exact ⟨stream', hstream', .refl stream'⟩
  | tail _ hmove ih =>
      cases hmove with
      | same => exact ih hstream'
      | proceeds id₁ stream₁ stream₂ hstream₁ hproceeds _ =>
          rcases put_some hstream' with ⟨rfl, rfl⟩ | ⟨-, hold⟩
          · obtain ⟨stream, hstream, hbefore⟩ := ih hstream₁
            exact ⟨stream, hstream, hbefore.trans hproceeds⟩
          · exact ih hold
      | ended key id₁ stream₁ stream₂ hkey hstream₁ hproceeds =>
          rcases put_some hstream' with ⟨rfl, rfl⟩ | ⟨-, hold⟩
          · obtain ⟨stream, hstream, hbefore⟩ := ih hstream₁
            exact ⟨stream, hstream, hbefore.trans hproceeds⟩
          · exact ih hold

/-- The streams that fail with the connection. -/
lemma failActiveStreams_proceeds {code message : String} {stream' : ActiveStream}
    (hstream' : (table.failActiveStreams code message).streams id = some stream') :
    ∃ stream, table.streams id = some stream ∧ Proceeds stream stream' := by
  simp only [StreamTable.failActiveStreams] at hstream'
  split_ifs at hstream'
  · obtain ⟨stream, hstream, rfl⟩ := Option.map_eq_some_iff.mp hstream'
    refine ⟨stream, hstream, (Proceeds.refl stream).finish (fun _ => ?_) rfl⟩
    exact ⟨rfl, fun record hrecord => absurd hrecord (by simp),
      fun record seq hrecord => absurd hrecord (by simp)⟩
  · exact ⟨stream', hstream', .refl stream'⟩

/-- A stream that is bound to its run. -/
lemma bindRun_proceeds {key key' runId : String} {stream' : ActiveStream} {id' : ℕ}
    (hstream' : (table.bindRun id key key' runId).streams id' = some stream') :
    ∃ stream, table.streams id' = some stream ∧ Proceeds stream stream' ∧
      stream'.queue.closed = stream.queue.closed := by
  simp only [StreamTable.bindRun, Function.update_apply] at hstream'
  split_ifs at hstream' with hid
  · subst hid
    obtain ⟨stream, hstream, rfl⟩ := Option.map_eq_some_iff.mp hstream'
    exact ⟨stream, hstream, proceeds_of_events rfl rfl rfl (List.Subset.refl _), rfl⟩
  · exact ⟨stream', hstream', .refl stream', rfl⟩

end Table

end Opzava.GatewayBroker
