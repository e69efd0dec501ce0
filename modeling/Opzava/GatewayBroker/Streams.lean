import Opzava.Library.Objects
import Opzava.Library.OrderedMap
import Opzava.GatewayBroker.Protocol

/-!
The streams of an operator client (`rpc/async-queue.ts`, and the handlers of
`acl/openclaw/operator-client.ts` that write to them).

A stream is a queue of events with the correlation data of its turn. What a frame does to it is a
function of the stream alone; the table then drops a stream that was ended from its key.

* `AsyncQueue.accepted`: the events a queue has taken, which a close does not change.
* `ActiveStream.receive`: what a record of a `chat` or `session.message` event does to a stream.
* `StreamTable.handleStreamEvent`, `closeActiveStream`, `failActiveStreams`: the table.
-/

namespace Opzava.GatewayBroker

open Opzava.Library

/-! ### Queues -/

/-- `AsyncQueue`, with the events its iterator was given so far. An iterator waits only when there
is nothing to give to it. -/
structure AsyncQueue (α : Type) where
  values : List α
  waiters : ℕ
  closed : Bool
  delivered : List α
  waits : waiters ≠ 0 → values = []

namespace AsyncQueue

variable {α : Type} {queue : AsyncQueue α} {value : α}

def empty : AsyncQueue α := ⟨[], 0, false, [], fun _ => rfl⟩

def push (queue : AsyncQueue α) (value : α) : AsyncQueue α :=
  if queue.closed then queue
  else if h : queue.waiters = 0 then
    { queue with
      values := queue.values ++ [value]
      waits := fun hne => absurd h hne }
  else
    { queue with
      waiters := queue.waiters - 1
      delivered := queue.delivered ++ [value]
      waits := fun _ => queue.waits h }

def close (queue : AsyncQueue α) : AsyncQueue α :=
  { queue with
    closed := true
    waiters := 0
    waits := fun hne => absurd rfl hne }

/-- One call of the iterator's `next`. -/
def next (queue : AsyncQueue α) : AsyncQueue α :=
  match h : queue.values with
  | value :: rest =>
      { queue with
        values := rest
        delivered := queue.delivered ++ [value]
        waits := fun hne => absurd (queue.waits hne) (by rw [h]; exact List.cons_ne_nil _ _) }
  | [] =>
      if queue.closed then queue
      else
        { queue with
          waiters := queue.waiters + 1
          waits := fun _ => h }

/-- The values the queue has taken, delivered or not, in order. -/
def accepted (queue : AsyncQueue α) : List α := queue.delivered ++ queue.values

lemma accepted_push : (queue.push value).accepted =
    if queue.closed then queue.accepted else queue.accepted ++ [value] := by
  rw [push]
  split_ifs with hclosed hwaiters
  · rfl
  · exact (List.append_assoc ..).symm
  · simp [accepted, queue.waits hwaiters]

@[simp] lemma closed_push : (queue.push value).closed = queue.closed := by
  rw [push]
  split_ifs
  · rfl
  · rfl
  · rfl

@[simp] lemma accepted_close : queue.close.accepted = queue.accepted := rfl

@[simp] lemma closed_close : queue.close.closed = true := rfl

@[simp] lemma accepted_next : queue.next.accepted = queue.accepted := by
  unfold next
  split
  · next value rest h => simp [accepted, h]
  · split_ifs
    · rfl
    · rfl

@[simp] lemma closed_next : queue.next.closed = queue.closed := by
  unfold next
  split
  · rfl
  · split_ifs
    · rfl
    · rfl

/-- What was delivered is the beginning of what was taken. -/
lemma delivered_prefix : queue.delivered <+: queue.accepted := List.prefix_append _ _

end AsyncQueue

/-! ### A stream -/

/-- Where an event of a stream comes from: the call that started it, a record of a `chat` or
`session.message` frame, an approval frame, or the loss of the connection. -/
inductive Source
  | call
  | stream (record : JsRecord)
  | approval (payload : JsRecord)
  | connection

/-- An event of a stream, with its source and the run the stream was bound to. -/
structure Emission where
  event : StreamEvent
  source : Source
  bound : Option String

/-- `ActiveStream`. -/
structure ActiveStream where
  sessionKey : String
  turnId : String
  queue : AsyncQueue Emission
  seenChatSeqs : List String
  pendingStreamEvents : List JsRecord
  text : String
  runId : Option String

namespace ActiveStream

def start (sessionKey turnId : String) : ActiveStream where
  sessionKey := sessionKey
  turnId := turnId
  queue := .empty
  seenChatSeqs := []
  pendingStreamEvents := []
  text := ""
  runId := none

/-- `stream.queue.push(event)`. -/
def emit (stream : ActiveStream) (event : StreamEvent) (source : Source) : ActiveStream :=
  { stream with queue := stream.queue.push ⟨event, source, stream.runId⟩ }

/-- `stream.queue.close()`. -/
def close (stream : ActiveStream) : ActiveStream := { stream with queue := stream.queue.close }

/-- The `deltaText` of a record. -/
def takeDelta (stream : ActiveStream) (record : JsRecord) : ActiveStream :=
  match JsRecord.read record "deltaText" with
  | .string deltaText =>
      if deltaText = "" then stream
      else
        { stream with
          text := if isJsTrue (JsRecord.read record "replace") then deltaText
            else stream.text ++ deltaText }.emit (.delta stream.turnId deltaText) (.stream record)
  | _ => stream

/-- The `toolCall` of a record. -/
def takeToolCall (stream : ActiveStream) (record : JsRecord) : ActiveStream :=
  match recordValue (JsRecord.read record "toolCall") with
  | none => stream
  | some toolCall =>
      match stringValue (JsRecord.read toolCall "id"),
        stringValue (JsRecord.read toolCall "name") with
      | some toolCallId, some toolName =>
          stream.emit (.toolCall stream.turnId toolCallId toolName
            ((recordValue (JsRecord.read toolCall "args")).getD [])) (.stream record)
      | _, _ => stream

/-- The `final` event of a record. -/
def finalEvent (stream : ActiveStream) (sessionKey : String) (record : JsRecord) : StreamEvent :=
  .final stream.turnId ((textFromMessage (JsRecord.read record "message")).getD stream.text)
    (externalRef sessionKey) (stream.runId.map externalRef)

/-- `handleChatStreamState`: the stream, and whether it was ended. -/
def handleChatStreamState (texts : GatewayTexts) (stream : ActiveStream) (sessionKey : String)
    (record : JsRecord) (state : String) : ActiveStream × Bool :=
  let message := textFromMessage (JsRecord.read record "message")
  if state = "delta" then (stream.takeDelta record, false)
  else if state = "final" then
    (stream.emit (stream.finalEvent sessionKey record) (.stream record), true)
  else if state = "aborted" then
    (stream.emit (.failed stream.turnId (.string "aborted")
      (sanitizeFailureText texts message "OpenClaw stream aborted.")) (.stream record), true)
  else if state = "error" then
    let upstream := (stringValue (JsRecord.read record "errorMessage")).orElse fun _ => message
    let kind := match JsRecord.read record "errorKind" with
      | .undefined => JsRecord.read record "errorMessage"
      | .null => JsRecord.read record "errorMessage"
      | kind => kind
    (stream.emit (.failed stream.turnId
      (.string (texts.sanitizedStreamCode kind "openclaw_stream_error"))
      (sanitizeFailureText texts upstream "OpenClaw stream failed.")) (.stream record), true)
  else
    (stream.emit (.failed stream.turnId (.string "openclaw_unknown_chat_state")
      "OpenClaw emitted an unknown chat stream state.") (.stream record), true)

/-- The `error` of a record that has no state. It throws when the error is `null`, or its message
has no text. -/
def takeError (texts : GatewayTexts) (stream : ActiveStream) (record : JsRecord) (error : JsValue) :
    Option (ActiveStream × Bool) :=
  match error with
  | .null => none
  | error =>
      let fields := (recordValue error).getD []
      let code := match JsRecord.read fields "code" with
        | .undefined => .string "openclaw.streamFailed"
        | .null => .string "openclaw.streamFailed"
        | code => code
      (sanitizeFailureMessage texts (JsRecord.read fields "message") "OpenClaw stream failed.").map
        fun message => (stream.emit (.failed stream.turnId code message) (.stream record), true)

/-- What `handleStreamEvent` does with a record that is one of the stream's run: the stream and
whether it was ended, or nothing when it throws. -/
def receive (texts : GatewayTexts) (stream : ActiveStream) (sessionKey : String)
    (record : JsRecord) : Option (ActiveStream × Bool) :=
  match JsRecord.read record "state" with
  | .string state =>
      match if state = "delta" then numberValue (JsRecord.read record "seq") else none with
      | some seq =>
          if seq ∈ stream.seenChatSeqs then some (stream, false)
          else
            some ({ stream with
              seenChatSeqs := stream.seenChatSeqs ++ [seq] }.handleChatStreamState texts sessionKey
                record state)
      | none => some (stream.handleChatStreamState texts sessionKey record state)
  | _ =>
      match JsRecord.read record "error" with
      | .undefined =>
          let stream := (stream.takeDelta record).takeToolCall record
          if isJsTrue (JsRecord.read record "done") then
            some (stream.emit (stream.finalEvent sessionKey record) (.stream record), true)
          else some (stream, false)
      | error => stream.takeError texts record error

end ActiveStream

/-! ### The table -/

/-- The streams that were made, each with the number of its call, and the map of the active
ones. -/
structure StreamTable where
  streams : ℕ → Option ActiveStream
  activeStreams : OrderedMap String ℕ

namespace StreamTable

def initial : StreamTable := ⟨fun _ => none, .empty⟩

/-- A stream is written back. -/
def put (table : StreamTable) (id : ℕ) (stream : ActiveStream) : StreamTable :=
  { table with streams := Function.update table.streams id (some stream) }

/-- A stream is registered under its key. -/
def register (table : StreamTable) (id : ℕ) (sessionKey turnId : String) : StreamTable :=
  { table.put id (.start sessionKey turnId) with
    activeStreams := table.activeStreams.set sessionKey id }

/-- The first event of a stream. -/
def pushQueued (table : StreamTable) (id : ℕ) : StreamTable :=
  match table.streams id with
  | some stream => table.put id (stream.emit (.queued stream.turnId) .call)
  | none => table

/-- `closeActiveStream`. -/
def closeActiveStream (table : StreamTable) (sessionKey : String) (id : ℕ) : StreamTable :=
  { table with
    streams := Function.update table.streams id ((table.streams id).map ActiveStream.close)
    activeStreams := if table.activeStreams.get sessionKey = some id then
      table.activeStreams.delete sessionKey else table.activeStreams }

/-- `failActiveStreams`. A queue that was closed takes nothing any more, so that the order of the
streams does not matter. -/
def failActiveStreams (table : StreamTable) (code message : String) : StreamTable where
  streams id :=
    if id ∈ table.activeStreams.values then
      (table.streams id).map fun stream =>
        (stream.emit (.failed stream.turnId (.string code) message) .connection).close
    else table.streams id
  activeStreams := .empty

/-- A record is given to a stream, which is dropped when it was ended. -/
def deliver (texts : GatewayTexts) (table : StreamTable) (sessionKey : String) (id : ℕ)
    (stream : ActiveStream) (record : JsRecord) : Option StreamTable :=
  match stream.receive texts sessionKey record with
  | none => none
  | some (stream, true) => some ((table.put id stream).closeActiveStream sessionKey id)
  | some (stream, false) => some (table.put id stream)

/-- `handleStreamEvent`, or nothing when it throws. A record of a run that is not known yet is held
back, and one of another run is dropped. -/
def handleStreamEvent (texts : GatewayTexts) (table : StreamTable) (payload : JsValue) :
    Option StreamTable :=
  let record := (recordValue payload).getD []
  match stringValue (JsRecord.read record "sessionKey") with
  | none => some table
  | some sessionKey =>
      match table.activeStreams.get sessionKey with
      | none => some table
      | some id =>
          match table.streams id with
          | none => some table
          | some stream =>
              match stringValue (JsRecord.read record "runId"), stream.runId with
              | some _, none =>
                  some (table.put id { stream with
                    pendingStreamEvents := stream.pendingStreamEvents ++ [record] })
              | some runId, some bound =>
                  if runId = bound then table.deliver texts sessionKey id stream record
                  else some table
              | none, _ => table.deliver texts sessionKey id stream record

/-- `handleApprovalEvent`. -/
def handleApprovalEvent (table : StreamTable) (payload : JsValue) : StreamTable :=
  match recordValue payload with
  | none => table
  | some fields =>
      match stringValue (JsRecord.read fields "sessionKey"),
        stringValue (JsRecord.read fields "approvalRef") with
      | some sessionKey, some approvalRef =>
          match table.activeStreams.get sessionKey with
          | none => table
          | some id =>
              match table.streams id with
              | none => table
              | some stream =>
                  table.put id (stream.emit (.approvalRequested stream.turnId
                    (externalRef approvalRef)
                    ((stringValue (JsRecord.read fields "summary")).getD
                      "OpenClaw requested approval.")) (.approval fields))
      | _, _ => table

/-- The loop of `flushPendingStreamEvents`; the flag says that it came to its end. -/
def flushEvents (texts : GatewayTexts) (table : StreamTable) (sessionKey : String) :
    List JsRecord → StreamTable × Bool
  | [] => (table, true)
  | record :: records =>
      match table.handleStreamEvent texts
        (.object (JsRecord.spread record [("sessionKey", .string sessionKey)])) with
      | some table => table.flushEvents texts sessionKey records
      | none => (table, false)

/-- `flushPendingStreamEvents`. -/
def flushPendingStreamEvents (texts : GatewayTexts) (table : StreamTable) (sessionKey : String)
    (id : ℕ) : StreamTable × Bool :=
  match table.streams id with
  | none => (table, true)
  | some stream =>
      (table.put id { stream with pendingStreamEvents := [] }).flushEvents texts sessionKey
        stream.pendingStreamEvents

/-- The move of a stream to the key the gateway has answered, and its run. -/
def bindRun (table : StreamTable) (id : ℕ) (sessionKey responseSessionKey runId : String) :
    StreamTable where
  streams := Function.update table.streams id
    ((table.streams id).map fun stream => { stream with runId := some runId })
  activeStreams :=
    if responseSessionKey = sessionKey then table.activeStreams
    else (table.activeStreams.delete sessionKey).set responseSessionKey id

/-- A consumer asks the queue of a stream for its next event. -/
def next (table : StreamTable) (id : ℕ) : StreamTable :=
  { table with
    streams := Function.update table.streams id
      ((table.streams id).map fun stream => { stream with queue := stream.queue.next }) }

end StreamTable

end Opzava.GatewayBroker
