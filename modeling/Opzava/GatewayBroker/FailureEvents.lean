import Opzava.GatewayBroker.FailureTexts
import Opzava.GatewayBroker.OperatorClient

/-!
The failed events of a stream and the free text of the frames they come from.

Two frames are compared that differ in their free text alone, with texts that are sanitized to the
same message. The messages of their failed events are the same by that; their codes are the same
but for one branch, which makes the code out of the free text when the frame has no kind of error.

* `SameButTexts`, `sanitizedText`: what is compared.
* `receive_same`: the stream after either of two frames that leak nothing.
* `failed_events_same_iff`: the frames whose failed events show no more than the sanitized text.
-/

namespace Opzava.GatewayBroker

open Opzava.Library

/-- The functions on texts, with the ones that are defined here. -/
def GatewayTexts.withFailureTexts (texts : GatewayTexts) : GatewayTexts :=
  { texts with
    sanitizeText := FailureTexts.sanitizeFailureMessage
    sanitizedStreamCode := fun value fallback =>
      match value with
      | .string text => FailureTexts.sanitizedStreamCode text fallback
      | _ => fallback }

/-! ### Frames -/

/-- The fields of free text; of `error` it is the `message`. -/
def freeTextFields : List String := ["errorMessage", "message", "error"]

/-- Two errors that differ in their messages at most. -/
def SameButMessage (error error' : JsValue) : Prop :=
  error = error' ∨ ∃ fields fields', error = .object fields ∧ error' = .object fields' ∧
    ∀ field, field ≠ "message" → JsRecord.read fields field = JsRecord.read fields' field

/-- Two records that differ in their free text at most. -/
structure SameButTexts (record record' : JsRecord) : Prop where
  fields : ∀ field, field ∉ freeTextFields →
    JsRecord.read record field = JsRecord.read record' field
  error : SameButMessage (JsRecord.read record "error") (JsRecord.read record' "error")

/-- What the free text of a record is sanitized to: nothing when it has none, or when the sanitizer
throws. -/
def sanitizedText (texts : GatewayTexts) (record : JsRecord) : Option String :=
  let message := textFromMessage (JsRecord.read record "message")
  match JsRecord.read record "state" with
  | .string state =>
      if state = "aborted" then some (sanitizeFailureText texts message "OpenClaw stream aborted.")
      else if state = "error" then
        some (sanitizeFailureText texts
          ((stringValue (JsRecord.read record "errorMessage")).orElse fun _ => message)
          "OpenClaw stream failed.")
      else none
  | _ =>
      sanitizeFailureMessage texts
        (JsRecord.read ((recordValue (JsRecord.read record "error")).getD []) "message")
        "OpenClaw stream failed."

/-- The record has the state `error`, and no kind of error. -/
def NamesNoKind (record : JsRecord) : Prop :=
  JsRecord.read record "state" = .string "error" ∧
  (JsRecord.read record "errorKind" = .undefined ∨ JsRecord.read record "errorKind" = .null)

section Same

variable {record record' record'' : JsRecord} {error error' error'' : JsValue}

lemma SameButMessage.symm (h : SameButMessage error error') : SameButMessage error' error := by
  rcases h with rfl | ⟨fields, fields', herror, herror', h⟩
  · exact .inl rfl
  · exact .inr ⟨fields', fields, herror', herror, fun field hne => (h field hne).symm⟩

lemma SameButMessage.trans (h : SameButMessage error error') (h' : SameButMessage error' error'') :
    SameButMessage error error'' := by
  rcases h with rfl | ⟨fields, fields', herror, herror', h⟩
  · exact h'
  · rcases h' with rfl | ⟨fields₁, fields₂, herror₁, herror₂, h'⟩
    · exact .inr ⟨fields, fields', herror, herror', h⟩
    · obtain rfl := JsValue.object.inj (herror'.symm.trans herror₁)
      exact .inr ⟨fields, fields₂, herror, herror₂,
        fun field hne => (h field hne).trans (h' field hne)⟩

lemma SameButTexts.symm (h : SameButTexts record record') : SameButTexts record' record :=
  ⟨fun field hfield => (h.fields field hfield).symm, h.error.symm⟩

lemma SameButTexts.trans (h : SameButTexts record record') (h' : SameButTexts record' record'') :
    SameButTexts record record'' :=
  ⟨fun field hfield => (h.fields field hfield).trans (h'.fields field hfield),
    h.error.trans h'.error⟩

lemma SameButTexts.namesNoKind (h : SameButTexts record record') (hkind : NamesNoKind record) :
    NamesNoKind record' := by
  unfold NamesNoKind
  rw [← h.fields "state" (by decide), ← h.fields "errorKind" (by decide)]
  exact hkind

/-- Another `errorMessage`. -/
lemma sameButTexts_write (record : JsRecord) (text : String) :
    SameButTexts record (JsRecord.write record "errorMessage" (.string text)) := by
  refine ⟨fun field hfield => ?_, .inl ?_⟩
  · have hne : field ≠ "errorMessage" := fun heq => hfield (heq ▸ by decide)
    rw [JsRecord.read_write, if_neg hne]
  · rw [JsRecord.read_write, if_neg (by decide)]

end Same

/-! ### Streams -/

/-- The event is a failed one. -/
def StreamEvent.isFailed : StreamEvent → Bool
  | .failed _ _ _ => true
  | _ => false

/-- The failed events a stream has taken. -/
def ActiveStream.failures (stream : ActiveStream) : List StreamEvent :=
  (stream.queue.accepted.map Emission.event).filter StreamEvent.isFailed

/-- What a record shows: the failed events, and whether the stream was ended. -/
def shown (result : ActiveStream × Bool) : List StreamEvent × Bool := (result.1.failures, result.2)

section Streams

variable {texts : GatewayTexts} {stream : ActiveStream} {record record' : JsRecord}
  {event : StreamEvent} {source source' : Source} {sessionKey : String}

lemma failures_emit : (stream.emit event source).failures =
    if stream.queue.closed then stream.failures
    else stream.failures ++ if event.isFailed then [event] else [] := by
  have haccepted : (stream.queue.push ⟨event, source, stream.runId⟩).accepted =
      if stream.queue.closed then stream.queue.accepted
      else stream.queue.accepted ++ [⟨event, source, stream.runId⟩] := AsyncQueue.accepted_push
  unfold ActiveStream.failures ActiveStream.emit
  dsimp only
  rw [haccepted]
  cases stream.queue.closed with
  | true => rfl
  | false => simp [List.filter_cons, List.filter_append]

lemma failures_emit_other (h : event.isFailed = false) :
    (stream.emit event source).failures = stream.failures := by
  rw [failures_emit, h]
  split
  · rfl
  · exact List.append_nil _

/-- The failed events do not show where an event comes from. -/
lemma failures_emit_source :
    (stream.emit event source).failures = (stream.emit event source').failures := by
  rw [failures_emit, failures_emit]

lemma failures_takeDelta : (stream.takeDelta record).failures = stream.failures := by
  unfold ActiveStream.takeDelta
  split
  · split
    · rfl
    · exact failures_emit_other rfl
  · rfl

lemma failures_takeToolCall : (stream.takeToolCall record).failures = stream.failures := by
  unfold ActiveStream.takeToolCall
  split
  · rfl
  · split
    · exact failures_emit_other rfl
    · rfl

/-- The state of a `chat` record. -/
lemma handleChatStreamState_same {state : String}
    (hstate : JsRecord.read record "state" = .string state) (hsame : SameButTexts record record')
    (hkind : ¬ NamesNoKind record)
    (htext : sanitizedText texts record = sanitizedText texts record') :
    shown (stream.handleChatStreamState texts sessionKey record state) =
      shown (stream.handleChatStreamState texts sessionKey record' state) := by
  have hstate' : JsRecord.read record' "state" = .string state :=
    (hsame.fields "state" (by decide)).symm.trans hstate
  unfold sanitizedText at htext
  simp only [hstate, hstate'] at htext
  unfold ActiveStream.handleChatStreamState
  dsimp only
  by_cases hdelta : state = "delta"
  · rw [if_pos hdelta, if_pos hdelta]
    exact Prod.ext (failures_takeDelta.trans failures_takeDelta.symm) rfl
  · rw [if_neg hdelta, if_neg hdelta]
    by_cases hfinal : state = "final"
    · rw [if_pos hfinal, if_pos hfinal]
      exact Prod.ext ((failures_emit_other rfl).trans (failures_emit_other rfl).symm) rfl
    · rw [if_neg hfinal, if_neg hfinal]
      by_cases haborted : state = "aborted"
      · rw [if_pos haborted, if_pos haborted] at htext
        rw [if_pos haborted, if_pos haborted, Option.some.inj htext]
        exact Prod.ext failures_emit_source rfl
      · rw [if_neg haborted, if_neg haborted] at htext ⊢
        by_cases herror : state = "error"
        · rw [if_pos herror, if_pos herror] at htext
          have hkinds := hsame.fields "errorKind" (by decide)
          have hnamed : JsRecord.read record "errorKind" ≠ .undefined ∧
              JsRecord.read record "errorKind" ≠ .null :=
            ⟨fun h => hkind ⟨herror ▸ hstate, .inl h⟩, fun h => hkind ⟨herror ▸ hstate, .inr h⟩⟩
          rw [if_pos herror, if_pos herror, Option.some.inj htext, ← hkinds]
          cases hvalue : JsRecord.read record "errorKind" with
          | undefined => exact absurd hvalue hnamed.1
          | null => exact absurd hvalue hnamed.2
          | _ => exact Prod.ext failures_emit_source rfl
        · rw [if_neg herror, if_neg herror]
          exact Prod.ext failures_emit_source rfl

/-- The code of an error. -/
def errorCode (error : JsValue) : JsValue :=
  match JsRecord.read ((recordValue error).getD []) "code" with
  | .undefined => .string "openclaw.streamFailed"
  | .null => .string "openclaw.streamFailed"
  | code => code

/-- What the message of an error is sanitized to. -/
def errorMessage (texts : GatewayTexts) (error : JsValue) : Option String :=
  sanitizeFailureMessage texts (JsRecord.read ((recordValue error).getD []) "message")
    "OpenClaw stream failed."

lemma takeError_shown {error : JsValue} (h : error ≠ .null) :
    (stream.takeError texts record error).map shown = (errorMessage texts error).map fun message =>
      shown (stream.emit (.failed stream.turnId (errorCode error) message) .call, true) := by
  unfold ActiveStream.takeError
  split
  · exact absurd rfl h
  · rw [Option.map_map]
    exact congrArg (fun f => Option.map f (errorMessage texts error))
      (funext fun message => Prod.ext failures_emit_source rfl)

lemma SameButMessage.code {error error' : JsValue} (h : SameButMessage error error') :
    errorCode error = errorCode error' := by
  rcases h with rfl | ⟨fields, fields', rfl, rfl, hfields⟩
  · rfl
  · unfold errorCode
    simp only [recordValue, Option.getD_some]
    rw [hfields "code" (by decide)]

/-- The errors of two records without a state. -/
lemma takeError_same {error error' : JsValue} (hsame : SameButMessage error error')
    (htext : errorMessage texts error = errorMessage texts error') :
    (stream.takeError texts record error).map shown =
      (stream.takeError texts record' error').map shown := by
  by_cases hnull : error = .null
  · subst hnull
    rcases hsame with rfl | ⟨fields, fields', herror, -⟩
    · rfl
    · exact absurd herror (by simp)
  · have hnull' : error' ≠ .null := by
      rintro rfl
      rcases hsame with heq | ⟨fields, fields', -, herror', -⟩
      · exact hnull heq
      · exact absurd herror' (by simp)
    rw [takeError_shown hnull, takeError_shown hnull', htext, hsame.code]

lemma SameButMessage.undefined {error : JsValue} (h : SameButMessage .undefined error) :
    error = .undefined := by
  rcases h with heq | ⟨fields, fields', herror, -⟩
  · exact heq.symm
  · exact absurd herror (by simp)

/-- What a record shows that has no state and no error. -/
lemma receive_rest_shown (stream : ActiveStream) (sessionKey : String) (record : JsRecord) :
    (if isJsTrue (JsRecord.read record "done") then
      some (((stream.takeDelta record).takeToolCall record).emit
        (((stream.takeDelta record).takeToolCall record).finalEvent sessionKey record)
        (.stream record), true)
    else some ((stream.takeDelta record).takeToolCall record, false)).map shown =
      some (stream.failures, isJsTrue (JsRecord.read record "done")) := by
  have hfailures : ((stream.takeDelta record).takeToolCall record).failures = stream.failures :=
    failures_takeToolCall.trans failures_takeDelta
  cases hdone : isJsTrue (JsRecord.read record "done") with
  | true => exact congrArg some (Prod.ext ((failures_emit_other rfl).trans hfailures) rfl)
  | false => exact congrArg some (Prod.ext hfailures rfl)

/-- A record without a state shows its error. -/
lemma receive_stateless (h : ∀ state, JsRecord.read record "state" ≠ .string state) :
    (stream.receive texts sessionKey record).map shown =
      if isUndefined (JsRecord.read record "error") then
        some (stream.failures, isJsTrue (JsRecord.read record "done"))
      else (stream.takeError texts record (JsRecord.read record "error")).map shown := by
  unfold ActiveStream.receive
  split
  · next state hstate => exact absurd hstate (h state)
  · split
    · next herror =>
        rw [herror]
        exact receive_rest_shown stream sessionKey record
    · next herror =>
        have hdefined : isUndefined (JsRecord.read record "error") = false := by
          unfold isUndefined
          split
          · next heq => exact absurd heq herror
          · rfl
        rw [hdefined]
        rfl

lemma sanitizedText_stateless (h : ∀ state, JsRecord.read record "state" ≠ .string state) :
    sanitizedText texts record = errorMessage texts (JsRecord.read record "error") := by
  unfold sanitizedText
  split
  · next state hstate => exact absurd hstate (h state)
  · rfl

/-- **Two records with the same sanitized text** show the same, when they name a kind of error. -/
lemma receive_same (hsame : SameButTexts record record') (hkind : ¬ NamesNoKind record)
    (htext : sanitizedText texts record = sanitizedText texts record') :
    (stream.receive texts sessionKey record).map shown =
      (stream.receive texts sessionKey record').map shown := by
  have hstates := hsame.fields "state" (by decide)
  by_cases hstring : ∃ state, JsRecord.read record "state" = .string state
  · obtain ⟨state, hstate⟩ := hstring
    unfold ActiveStream.receive
    rw [← hstates, hstate, ← hsame.fields "seq" (by decide)]
    dsimp only
    split
    · split
      · rfl
      · exact congrArg some (handleChatStreamState_same hstate hsame hkind htext)
    · exact congrArg some (handleChatStreamState_same hstate hsame hkind htext)
  · have hnone : ∀ state, JsRecord.read record "state" ≠ .string state :=
      fun state hstate => hstring ⟨state, hstate⟩
    have hnone' : ∀ state, JsRecord.read record' "state" ≠ .string state := hstates ▸ hnone
    rw [sanitizedText_stateless hnone, sanitizedText_stateless hnone'] at htext
    rw [receive_stateless hnone, receive_stateless hnone', ← hsame.fields "done" (by decide),
      takeError_same hsame.error htext]
    rcases hsame.error with heq | ⟨fields, fields', herror, herror', -⟩
    · rw [heq]
    · rw [herror, herror']
      rfl

end Streams

/-! ### Tables -/

/-- The failed events of a stream of the table. -/
def StreamTable.failures (table : StreamTable) (id : ℕ) : Option (List StreamEvent) :=
  (table.streams id).map ActiveStream.failures

section Tables

variable {texts : GatewayTexts} {table : StreamTable} {record record' : JsRecord} {id id' : ℕ}
  {stream : ActiveStream} {key : String}

lemma failures_put : (table.put id stream).failures id' =
    if id' = id then some stream.failures else table.failures id' := by
  simp only [StreamTable.failures, StreamTable.put, Function.update_apply]
  split_ifs
  · rfl
  · rfl

lemma failures_closeActiveStream : (table.closeActiveStream key id).failures id' =
    table.failures id' := by
  simp only [StreamTable.failures, StreamTable.closeActiveStream, Function.update_apply]
  split_ifs with hid
  · subst hid
    rw [Option.map_map]
    rfl
  · rfl

/-- What a record shows is what the table shows after it. -/
lemma failures_deliver : (table.deliver texts key id stream record).map (·.failures id') =
    ((stream.receive texts key record).map shown).map fun result =>
      if id' = id then some result.1 else table.failures id' := by
  unfold StreamTable.deliver
  split
  · next h => rw [h]; rfl
  · next h =>
      rw [h]
      exact congrArg some (failures_closeActiveStream.trans failures_put)
  · next h =>
      rw [h]
      exact congrArg some failures_put

lemma handleStreamEvent_same (hsame : SameButTexts record record')
    (hkind : (stringValue (JsRecord.read record "sessionKey")).isSome = true →
      ¬ NamesNoKind record)
    (htext : sanitizedText texts record = sanitizedText texts record') :
    (table.handleStreamEvent texts (.object record)).map (·.failures id) =
      (table.handleStreamEvent texts (.object record')).map (·.failures id) := by
  unfold StreamTable.handleStreamEvent
  simp only [recordValue, Option.getD_some]
  rw [← hsame.fields "sessionKey" (by decide), ← hsame.fields "runId" (by decide)]
  have hdeliver : ∀ key id' stream,
      stringValue (JsRecord.read record "sessionKey") = some key →
      (table.deliver texts key id' stream record).map (·.failures id) =
        (table.deliver texts key id' stream record').map (·.failures id) := by
    intro key id' stream hkey
    rw [failures_deliver, failures_deliver, receive_same hsame (hkind (by rw [hkey]; rfl)) htext]
  split
  · rfl
  · next key hkey =>
      split
      · rfl
      · split
        · rfl
        · split
          · refine congrArg some ?_
            dsimp only
            rw [failures_put, failures_put]
            rfl
          · split
            · exact hdeliver _ _ _ hkey
            · rfl
          · exact hdeliver _ _ _ hkey

end Tables

/-! ### Clients -/

/-- The failed events of a stream after a frame was handled. -/
def failuresAfter (texts : GatewayTexts) (client : OperatorClient) (name : String)
    (record : JsRecord) (id : ℕ) : Option (List StreamEvent) :=
  (client.handleEvent texts name (.object record)).table.failures id

/-- The frames of one shape show no more of their free text than what it is sanitized to, in any
client: frames with texts that are sanitized to the same leave the same failed events. -/
def ShowsSanitizedOnly (texts : GatewayTexts) (shape : JsRecord) : Prop :=
  ∀ (client : OperatorClient) (name : String) (id : ℕ) (record record' : JsRecord),
    name = "chat" ∨ name = "session.message" → SameButTexts shape record →
    SameButTexts shape record' → sanitizedText texts record = sanitizedText texts record' →
    failuresAfter texts client name record id = failuresAfter texts client name record' id

/-- The frame is an error of a `chat` for a session that names no kind. -/
def IsUnkindError (record : JsRecord) : Prop :=
  (stringValue (JsRecord.read record "sessionKey")).isSome = true ∧ NamesNoKind record

section Clients

variable {texts : GatewayTexts} {client : OperatorClient} {shape record record' : JsRecord}
  {name key text : String} {id : ℕ}

lemma failuresAfter_eq (hname : name = "chat" ∨ name = "session.message") :
    failuresAfter texts client name record id =
      ((client.table.handleStreamEvent texts (.object record)).map (·.failures id)).getD
        (client.table.failures id) := by
  have hfamily : isAllowedEventFamily name = true := by
    rcases hname with rfl | rfl
    · decide
    · decide
  unfold failuresAfter OperatorClient.handleEvent
  rw [hfamily, if_neg (by simp), if_pos hname]
  split
  · next h => rw [h]; rfl
  · next h => rw [h]; rfl

lemma showsSanitizedOnly (h : ¬ IsUnkindError shape) : ShowsSanitizedOnly texts shape := by
  intro client name id record record' hname hshape hshape' htext
  have hkind : (stringValue (JsRecord.read record "sessionKey")).isSome = true →
      ¬ NamesNoKind record := by
    intro hkey hkind
    rw [← hshape.fields "sessionKey" (by decide)] at hkey
    exact h ⟨hkey, hshape.symm.namesNoKind hkind⟩
  rw [failuresAfter_eq hname, failuresAfter_eq hname,
    handleStreamEvent_same (hshape.symm.trans hshape') hkind htext]

/-! ### The code that shows the text -/

/-- A client with one stream, which the frames of a shape are for. -/
def listeningClient (shape : JsRecord) (key : String) : OperatorClient :=
  { OperatorClient.initial with
    table :=
      { streams := fun _ =>
          some { ActiveStream.start key "turn-1" with
            runId := stringValue (JsRecord.read shape "runId") }
        activeStreams := OrderedMap.empty.set key 0 } }

/-- A frame of the shape with the free text. -/
def withErrorMessage (shape : JsRecord) (text : String) : JsRecord :=
  JsRecord.write shape "errorMessage" (.string text)

/-- The code is made of the free text. -/
lemma receive_unkind {stream : ActiveStream} (h : NamesNoKind record)
    (htext : JsRecord.read record "errorMessage" = .string text)
    (hfilled : stringValue (.string text) = some text) (hopen : stream.queue.closed = false) :
    (stream.receive texts key record).map shown = some (stream.failures ++
      [.failed stream.turnId (.string (texts.sanitizedStreamCode (.string text)
        "openclaw_stream_error")) (texts.sanitizeText text "OpenClaw stream failed.")], true) := by
  obtain ⟨hstate, hkind⟩ := h
  have hnone : ∀ value, (if "error" = "delta" then numberValue value else none) = none :=
    fun value => if_neg (by decide)
  unfold ActiveStream.receive
  rw [hstate]
  dsimp only
  rw [hnone]
  unfold ActiveStream.handleChatStreamState
  dsimp only
  rw [if_neg (by decide), if_neg (by decide), if_neg (by decide), if_pos rfl, htext, hfilled]
  have hshown : ∀ code : String, shown (stream.emit (.failed stream.turnId (.string code)
      (texts.sanitizeText text "OpenClaw stream failed.")) (.stream record), true) =
      (stream.failures ++ [.failed stream.turnId (.string code)
        (texts.sanitizeText text "OpenClaw stream failed.")], true) := by
    intro code
    refine Prod.ext ?_ rfl
    show (stream.emit _ _).failures = _
    rw [failures_emit, hopen]
    rfl
  rcases hkind with hkind | hkind
  · rw [hkind]
    exact congrArg some (hshown _)
  · rw [hkind]
    exact congrArg some (hshown _)

/-- What the client with one stream shows after the free text. -/
lemma failuresAfter_unkind (h : IsUnkindError shape)
    (hfilled : stringValue (.string text) = some text)
    (hkey : stringValue (JsRecord.read shape "sessionKey") = some key) :
    failuresAfter texts (listeningClient shape key) "chat" (withErrorMessage shape text) 0 =
      some [.failed "turn-1" (.string (texts.sanitizedStreamCode (.string text)
        "openclaw_stream_error")) (texts.sanitizeText text "OpenClaw stream failed.")] := by
  have hsame : SameButTexts shape (withErrorMessage shape text) := sameButTexts_write shape text
  have hread : JsRecord.read (withErrorMessage shape text) "errorMessage" = .string text := by
    rw [withErrorMessage, JsRecord.read_write, if_pos rfl]
  have hdeliver : (listeningClient shape key).table.handleStreamEvent texts
      (.object (withErrorMessage shape text)) =
        (listeningClient shape key).table.deliver texts key 0 { ActiveStream.start key "turn-1" with
          runId := stringValue (JsRecord.read shape "runId") } (withErrorMessage shape text) := by
    unfold StreamTable.handleStreamEvent
    simp only [recordValue, Option.getD_some]
    rw [← hsame.fields "sessionKey" (by decide), ← hsame.fields "runId" (by decide), hkey]
    have hget : (listeningClient shape key).table.activeStreams.get key = some 0 :=
      OrderedMap.get_set_self _ _ _
    dsimp only
    rw [hget]
    simp only [listeningClient]
    split
    · next run hrun hnone => exact absurd (hrun.symm.trans hnone) (by simp)
    · next run bound hrun hbound => rw [if_pos (Option.some.inj (hrun.symm.trans hbound))]
    · rfl
  rw [failuresAfter_eq (.inl rfl), hdeliver, failures_deliver,
    receive_unkind (hsame.namesNoKind h.2) hread hfilled rfl]
  rfl

lemma sanitizedText_unkind (h : NamesNoKind shape)
    (hfilled : stringValue (.string text) = some text) :
    sanitizedText texts (withErrorMessage shape text) =
      some (texts.sanitizeText text "OpenClaw stream failed.") := by
  have hstate := ((sameButTexts_write shape text).namesNoKind h).1
  have hread : JsRecord.read (withErrorMessage shape text) "errorMessage" = .string text := by
    rw [withErrorMessage, JsRecord.read_write, if_pos rfl]
  unfold sanitizedText
  dsimp only
  rw [withErrorMessage, hstate]
  dsimp only
  rw [if_neg (by decide), if_pos rfl, ← withErrorMessage, hread, hfilled]
  rfl

/-- The codes of texts with the same message are the same, when the frames show no more. -/
lemma codes_eq_of_shows {text' : String} (h : ShowsSanitizedOnly texts shape)
    (hunkind : IsUnkindError shape) (hfilled : stringValue (.string text) = some text)
    (hfilled' : stringValue (.string text') = some text')
    (hsame : texts.sanitizeText text "OpenClaw stream failed." =
      texts.sanitizeText text' "OpenClaw stream failed.") :
    texts.sanitizedStreamCode (.string text) "openclaw_stream_error" =
      texts.sanitizedStreamCode (.string text') "openclaw_stream_error" := by
  obtain ⟨key, hkey⟩ := Option.isSome_iff_exists.mp hunkind.1
  have hfailures := h (listeningClient shape key) "chat" 0 (withErrorMessage shape text)
    (withErrorMessage shape text') (.inl rfl) (sameButTexts_write shape _)
    (sameButTexts_write shape _) (by
      rw [sanitizedText_unkind hunkind.2 hfilled, sanitizedText_unkind hunkind.2 hfilled', hsame])
  rw [failuresAfter_unkind hunkind hfilled hkey, failuresAfter_unkind hunkind hfilled' hkey]
    at hfailures
  exact JsValue.string.inj
    (StreamEvent.failed.inj (List.cons.inj (Option.some.inj hfailures)).1).2.1

end Clients

/-- Two texts that are sanitized to the fallback and have different codes. -/
lemma exists_code_ne (texts : GatewayTexts) : ∃ text text' : String,
    stringValue (.string text) = some text ∧ stringValue (.string text') = some text' ∧
    texts.withFailureTexts.sanitizeText text "OpenClaw stream failed." =
      texts.withFailureTexts.sanitizeText text' "OpenClaw stream failed." ∧
    texts.withFailureTexts.sanitizedStreamCode (.string text) "openclaw_stream_error" ≠
      texts.withFailureTexts.sanitizedStreamCode (.string text') "openclaw_stream_error" := by
  have hmessages : FailureTexts.sanitizeFailureMessage "socket hang up one"
        "OpenClaw stream failed." =
      FailureTexts.sanitizeFailureMessage "socket hang up two" "OpenClaw stream failed." := by
    decide +kernel
  have hcodes : FailureTexts.sanitizedStreamCode "socket hang up one" "openclaw_stream_error" ≠
      FailureTexts.sanitizedStreamCode "socket hang up two" "openclaw_stream_error" := by
    decide +kernel
  exact ⟨"socket hang up one", "socket hang up two", by decide, by decide, hmessages, hcodes⟩

/-- **What a failed event shows of the free text.** The failed events of the frames of a shape are
made of the sanitized text alone, in any client, if and only if the shape is not a `chat` error for
a session without a kind of error: the code of such a one is made of the text itself. -/
theorem failed_events_same_iff (texts : GatewayTexts) (shape : JsRecord) :
    ShowsSanitizedOnly texts.withFailureTexts shape ↔ ¬ IsUnkindError shape := by
  refine ⟨fun h hunkind => ?_, showsSanitizedOnly⟩
  obtain ⟨text, text', hfilled, hfilled', hsame, hne⟩ := exists_code_ne texts
  exact hne (codes_eq_of_shows h hunkind hfilled hfilled' hsame)

/-- The frame of an error that has no kind. -/
def unkindFrame : JsRecord :=
  [("sessionKey", .string "agent:a:s"), ("state", .string "error")]

/-- Two texts with the same sanitized message have different codes. -/
theorem code_shows_free_text :
    ¬ ∀ (texts : GatewayTexts) (shape : JsRecord),
      ShowsSanitizedOnly texts.withFailureTexts shape := by
  intro h
  have hunkind : IsUnkindError unkindFrame := ⟨by decide, rfl, .inl rfl⟩
  obtain ⟨text, text', hfilled, hfilled', hsame, hne⟩ := exists_code_ne sampleClientOptions.texts
  exact hne (codes_eq_of_shows (h _ unkindFrame) hunkind hfilled hfilled' hsame)

end Opzava.GatewayBroker
