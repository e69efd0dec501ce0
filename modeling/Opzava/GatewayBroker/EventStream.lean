import Opzava.Library.Json

/-!
The events of a turn on their way from the broker to the web app (`internal/http-server.ts`,
`web/lib/sse.ts`, `web/lib/openclaw-gateway-broker.ts`).

The broker writes every event as a block of two lines and a blank one. The web app reads the bytes
as they come, in chunks that may end anywhere.

* `writeSse`, `parseSseBuffer`, `readSseFrames`, `brokerEventStream`: the two ends.
* `readSseFrames_eq`: the frames do not depend on the chunks.
* `event_stream_transparent`: what is read is what was written, or the beginning of it.
-/

namespace Opzava.GatewayBroker

open Opzava.Library

/-! ### Events -/

structure OpaqueExternalRef where
  system : String
  kind : String
  value : String

/-- `OpenClawStreamEvent`. -/
inductive OpenClawStreamEvent
  | queued (turnId : String)
  | delta (turnId deltaText : String)
  | toolStarted (turnId toolCallId toolName : String)
  | toolCall (turnId toolCallId toolName : String) (args : JsRecord)
  | toolCompleted (turnId toolCallId toolName : String) (output : JsRecord)
  | approvalRequested (turnId : String) (approvalRef : OpaqueExternalRef) (summary : String)
  | final (turnId : String) (content : JsRecord) (sessionRef runRef : Option OpaqueExternalRef)
  | failed (turnId : String) (code : JsValue) (message : String)

def OpaqueExternalRef.toValue (ref : OpaqueExternalRef) : JsValue :=
  .object [("system", .string ref.system), ("kind", .string ref.kind), ("value", .string ref.value)]

/-- A field that may be absent. -/
def optionalField (name : String) : Option OpaqueExternalRef → JsRecord
  | none => []
  | some ref => [(name, ref.toValue)]

namespace OpenClawStreamEvent

def type : OpenClawStreamEvent → String
  | .queued _ => "queued"
  | .delta _ _ => "delta"
  | .toolStarted _ _ _ => "tool.started"
  | .toolCall _ _ _ _ => "tool.call"
  | .toolCompleted _ _ _ _ => "tool.completed"
  | .approvalRequested _ _ _ => "approval.requested"
  | .final _ _ _ _ => "final"
  | .failed _ _ _ => "failed"

/-- The fields of an event after its type. -/
def fields : OpenClawStreamEvent → JsRecord
  | .queued turnId => [("turnId", .string turnId)]
  | .delta turnId deltaText => [("turnId", .string turnId), ("deltaText", .string deltaText)]
  | .toolStarted turnId toolCallId toolName =>
      [("turnId", .string turnId), ("toolCallId", .string toolCallId),
        ("toolName", .string toolName)]
  | .toolCall turnId toolCallId toolName args =>
      [("turnId", .string turnId), ("toolCallId", .string toolCallId),
        ("toolName", .string toolName), ("args", .object args)]
  | .toolCompleted turnId toolCallId toolName output =>
      [("turnId", .string turnId), ("toolCallId", .string toolCallId),
        ("toolName", .string toolName), ("output", .object output)]
  | .approvalRequested turnId approvalRef summary =>
      [("turnId", .string turnId), ("approvalRef", approvalRef.toValue),
        ("summary", .string summary)]
  | .final turnId content sessionRef runRef =>
      [("turnId", .string turnId), ("content", .object content)] ++
        optionalField "sessionRef" sessionRef ++ optionalField "runRef" runRef
  | .failed turnId code message =>
      [("turnId", .string turnId), ("code", code), ("message", .string message)]

end OpenClawStreamEvent

mutual

/-- What `JSON.stringify` keeps of a value; nothing when it is left out. -/
def jsonOf : JsValue → Option Json
  | .undefined => none
  | .null => some .null
  | .boolean b => some (.boolean b)
  | .number text => some (.number text)
  | .nonFinite => some .null
  | .string s => some (.string s)
  | .array items => some (.array (jsonItems items))
  | .object fields => some (.object (jsonFields fields))
  | .other => none

/-- The items of an array; what is left out elsewhere is `null` here. -/
def jsonItems : List JsValue → List Json
  | [] => []
  | item :: items => (jsonOf item).getD .null :: jsonItems items

/-- The fields of an object. -/
def jsonFields : List (String × JsValue) → List (String × Json)
  | [] => []
  | field :: fields => jsonField field ++ jsonFields fields

/-- One field, if it is kept. -/
def jsonField : String × JsValue → List (String × Json)
  | (name, value) =>
      match jsonOf value with
      | none => []
      | some json => [(name, json)]

end

/-- An event as JSON. -/
def OpenClawStreamEvent.toJson (event : OpenClawStreamEvent) : Json :=
  .object (("type", .string event.type) :: jsonFields event.fields)

/-! ### The broker -/

/-- `writeSse`. -/
def writeSse (event : OpenClawStreamEvent) : List Char :=
  "event: ".toList ++ event.type.toList ++ ['\n'] ++
    ("data: ".toList ++ event.toJson.print ++ ['\n', '\n'])

/-- The events that are written: requests for approval are dropped. -/
def surfaced (events : List OpenClawStreamEvent) : List OpenClawStreamEvent :=
  events.filter fun event => event.type ≠ "approval.requested"

/-- The body of the response. -/
def streamBytes (events : List OpenClawStreamEvent) : List UInt8 :=
  utf8Bytes ((surfaced events).flatMap writeSse)

/-! ### The web app -/

structure SseFrame where
  event : Option (List Char)
  data : List Char

/-- `line.trimEnd()`. -/
def jsTrimEnd (line : List Char) : List Char := line.rdropWhile isJsSpace

/-- `text.replace(/^ /, "")`. -/
def stripSpace (text : List Char) : List Char :=
  if text.head? = some ' ' then text.tail else text

/-- One line of a block: the event and the data lines so far. -/
def frameLine (frame : Option (List Char) × List (List Char)) (rawLine : List Char) :
    Option (List Char) × List (List Char) :=
  let line := jsTrimEnd rawLine
  if "event:".toList.isPrefixOf line then (some (stripSpace (line.drop 6)), frame.2)
  else if "data:".toList.isPrefixOf line then (frame.1, frame.2 ++ [stripSpace (line.drop 5)])
  else frame

/-- `frameFromBlock`. -/
def frameFromBlock (block : List Char) : Option SseFrame :=
  let (event, dataLines) := (block.splitOn '\n').foldl frameLine (none, [])
  if dataLines.isEmpty then none else some ⟨event, ['\n'].intercalate dataLines⟩

/-- One character of `buffer.split("\n\n")`: the parts that are complete, and the last one. -/
def splitStep (blocks : List (List Char) × List Char) (c : Char) : List (List Char) × List Char :=
  if c = '\n' ∧ blocks.2.getLast? = some '\n' then (blocks.1 ++ [blocks.2.dropLast], [])
  else (blocks.1, blocks.2 ++ [c])

/-- `buffer.split("\n\n")`, without its last part, and the last part. -/
def splitBlocks (buffer : List Char) : List (List Char) × List Char :=
  buffer.foldl splitStep ([], [])

example : splitBlocks ['a', '\n', '\n', '\n', 'b'] = ([['a']], ['\n', 'b']) := by decide

/-- `parseSseBuffer`: the frames and the remainder. -/
def parseSseBuffer (buffer : List Char) : List SseFrame × List Char :=
  let (parts, remainder) := splitBlocks buffer
  (parts.filterMap frameFromBlock, remainder)

/-- The frame of what is left in the buffer at the end. -/
def lastFrame (buffer : List Char) : List SseFrame :=
  if jsTrim buffer = [] then [] else (frameFromBlock buffer).toList

/-- The loop of `readSseFrames`. -/
def readChunks (decoder : TextDecoder) (buffer : List Char) : List (List UInt8) → List SseFrame
  | [] => lastFrame (buffer ++ decoder.finish)
  | chunk :: chunks =>
      let (text, decoder) := decoder.decode chunk
      let (frames, remainder) := parseSseBuffer (buffer ++ text)
      frames ++ readChunks decoder remainder chunks

/-- `readSseFrames`. -/
def readSseFrames (chunks : List (List UInt8)) : List SseFrame := readChunks {} [] chunks

def openClawStreamEventTypes : List String :=
  ["queued", "delta", "tool.started", "tool.call", "tool.completed", "approval.requested", "final",
    "failed"]

/-- `parseOpenClawStreamEvent`. An array has no `type`. -/
def parseOpenClawStreamEvent (canonical : List Char → String) (data : List Char) : Option Json :=
  match jsonParse canonical data with
  | some (.object fields) =>
      match (fields.find? fun field => field.1 = "type").map Prod.snd with
      | some (.string type) =>
          if type ∈ openClawStreamEventTypes then some (.object fields) else none
      | _ => none
  | _ => none

/-- `brokerEventStream`. -/
def brokerEventStream (canonical : List Char → String) (chunks : List (List UInt8)) : List Json :=
  (readSseFrames chunks).filterMap fun frame => parseOpenClawStreamEvent canonical frame.data

/-! ### Blocks -/

section Blocks

variable {text line line' : List Char}

lemma foldl_splitStep (parts : List (List Char)) (last text : List Char) :
    text.foldl splitStep (parts, last) =
      (parts ++ (text.foldl splitStep ([], last)).1, (text.foldl splitStep ([], last)).2) := by
  induction text generalizing parts last with
  | nil => rw [List.foldl_nil, List.foldl_nil, List.append_nil]
  | cons c text ih =>
      rw [List.foldl_cons, List.foldl_cons, splitStep, splitStep]
      split_ifs
      · rw [ih, ih ([] ++ [last.dropLast]), List.nil_append, List.append_assoc]
      · rw [ih]

lemma splitBlocks_concat (text : List Char) (c : Char) :
    splitBlocks (text ++ [c]) = splitStep (splitBlocks text) c := by
  rw [splitBlocks, List.foldl_append]
  rfl

/-- The last part has no blank line. -/
lemma splitBlocks_remainder (text : List Char) :
    splitBlocks (splitBlocks text).2 = ([], (splitBlocks text).2) := by
  induction text using List.reverseRecOn with
  | nil => rfl
  | append_singleton text c ih =>
      rw [splitBlocks_concat, splitStep]
      split_ifs with hblank
      · rfl
      · rw [splitBlocks_concat, ih, splitStep, if_neg hblank]

/-- **Blocks do not depend on where a text is cut**: what follows is added to the last part. -/
lemma splitBlocks_append (text text' : List Char) :
    splitBlocks (text ++ text') =
      ((splitBlocks text).1 ++ (splitBlocks ((splitBlocks text).2 ++ text')).1,
        (splitBlocks ((splitBlocks text).2 ++ text')).2) := by
  have hlast : splitBlocks ((splitBlocks text).2 ++ text') =
      text'.foldl splitStep ([], (splitBlocks text).2) := by
    rw [splitBlocks, List.foldl_append]
    exact congrArg (fun blocks => text'.foldl splitStep blocks) (splitBlocks_remainder text)
  rw [hlast, splitBlocks, List.foldl_append]
  exact foldl_splitStep (splitBlocks text).1 (splitBlocks text).2 text'

/-- A text in which no part is complete is the last part. -/
lemma splitBlocks_eq_self (h : (splitBlocks text).1 = []) : splitBlocks text = ([], text) := by
  induction text using List.reverseRecOn with
  | nil => rfl
  | append_singleton text c ih =>
      rw [splitBlocks_concat, splitStep] at h ⊢
      split_ifs at h ⊢ with hblank
      · exact absurd h (by simp)
      · rw [ih h]

lemma splitBlocks_of_prefix {whole : List Char} (hbegins : text <+: whole)
    (h : splitBlocks whole = ([], whole)) : splitBlocks text = ([], text) := by
  obtain ⟨rest, rfl⟩ := hbegins
  rw [splitBlocks_append] at h
  have hparts := congrArg Prod.fst h
  exact splitBlocks_eq_self (List.append_eq_nil_iff.mp hparts).1

/-- A line. -/
lemma foldl_splitStep_line (last : List Char) (h : '\n' ∉ line) :
    line.foldl splitStep ([], last) = ([], last ++ line) := by
  induction line generalizing last with
  | nil => rw [List.append_nil]; rfl
  | cons c line ih =>
      rw [List.mem_cons, not_or] at h
      rw [List.foldl_cons, splitStep, if_neg fun hblank => h.1 hblank.1.symm, ih _ h.2,
        List.append_assoc]
      rfl

/-- Two lines and the newline of the second. -/
lemma splitBlocks_lines (h : '\n' ∉ line) (h' : '\n' ∉ line') (hne : line' ≠ []) :
    splitBlocks (line ++ '\n' :: line' ++ ['\n']) = ([], line ++ '\n' :: line' ++ ['\n']) := by
  have hnewline : ∀ text : List Char, text.getLast? ≠ some '\n' →
      splitStep ([], text) '\n' = ([], text ++ ['\n']) := fun text htext =>
    if_neg fun hblank => htext hblank.2
  have hfirst : line.getLast? ≠ some '\n' := fun hlast => h (List.mem_of_getLast? hlast)
  have hsecond : (line ++ ['\n'] ++ line').getLast? ≠ some '\n' := by
    rw [List.getLast?_append_of_ne_nil _ hne]
    exact fun hlast => h' (List.mem_of_getLast? hlast)
  have hlines : splitBlocks (line ++ '\n' :: line') = ([], line ++ ['\n'] ++ line') := by
    rw [splitBlocks, List.foldl_append, foldl_splitStep_line [] h, List.nil_append, List.foldl_cons,
      hnewline line hfirst, foldl_splitStep_line _ h']
  rw [splitBlocks_concat, hlines, hnewline _ hsecond]
  simp

/-- A block that is complete. -/
lemma splitBlocks_block (h : '\n' ∉ line) (h' : '\n' ∉ line') (hne : line' ≠ []) :
    splitBlocks (line ++ '\n' :: line' ++ ['\n', '\n']) = ([line ++ '\n' :: line'], []) := by
  have happend : line ++ '\n' :: line' ++ ['\n', '\n'] =
      line ++ '\n' :: line' ++ ['\n'] ++ ['\n'] := by simp
  rw [happend, splitBlocks_concat, splitBlocks_lines h h' hne, splitStep,
    if_pos ⟨rfl, List.getLast?_concat⟩, List.dropLast_concat]
  rfl

end Blocks

/-! ### Chunks -/

lemma readChunks_eq (decoder : TextDecoder) (buffer : List Char) (chunks : List (List UInt8))
    (hbuffer : splitBlocks buffer = ([], buffer)) :
    readChunks decoder buffer chunks =
      (parseSseBuffer (buffer ++ (decoder.decodeAll chunks).1)).1 ++
        lastFrame ((parseSseBuffer (buffer ++ (decoder.decodeAll chunks).1)).2 ++
          (decoder.decodeAll chunks).2.finish) := by
  induction chunks generalizing decoder buffer with
  | nil =>
      simp only [readChunks, TextDecoder.decodeAll, List.append_nil, parseSseBuffer, hbuffer,
        List.filterMap_nil, List.nil_append]
  | cons chunk chunks ih =>
      have hremainder : splitBlocks (parseSseBuffer (buffer ++ (decoder.decode chunk).1)).2 =
          ([], (parseSseBuffer (buffer ++ (decoder.decode chunk).1)).2) :=
        splitBlocks_remainder _
      simp only [readChunks, TextDecoder.decodeAll]
      rw [ih _ _ hremainder]
      simp only [parseSseBuffer]
      rw [← List.append_assoc buffer, splitBlocks_append (buffer ++ (decoder.decode chunk).1)]
      simp only [List.filterMap_append, List.append_assoc]

/-! ### The data of a block -/

/-- What a line adds to the data. -/
def dataLine (rawLine : List Char) : Option (List Char) :=
  if "event:".toList.isPrefixOf (jsTrimEnd rawLine) then none
  else if "data:".toList.isPrefixOf (jsTrimEnd rawLine) then
    some (stripSpace ((jsTrimEnd rawLine).drop 5))
  else none

/-- The event of a block. -/
def eventOfBlock (canonical : List Char → String) (block : List Char) : Option Json :=
  (frameFromBlock block).bind fun frame => parseOpenClawStreamEvent canonical frame.data

section Data

variable {canonical : List Char → String} {line line' line'' : List Char}

lemma foldl_frameLine (frame : Option (List Char) × List (List Char)) (lines : List (List Char)) :
    (lines.foldl frameLine frame).2 = frame.2 ++ lines.filterMap dataLine := by
  induction lines generalizing frame with
  | nil => rw [List.filterMap_nil, List.append_nil]; rfl
  | cons line lines ih =>
      rw [List.foldl_cons, ih, frameLine, List.filterMap_cons, dataLine]
      split_ifs
      · rfl
      · rw [List.append_assoc]
        rfl
      · rfl

/-- The data of a block, by its lines. -/
lemma data_frameFromBlock (block : List Char) :
    (frameFromBlock block).map SseFrame.data =
      if ((block.splitOn '\n').filterMap dataLine).isEmpty then none
      else some (['\n'].intercalate ((block.splitOn '\n').filterMap dataLine)) := by
  have hdata := foldl_frameLine (none, []) (block.splitOn '\n')
  rw [List.nil_append] at hdata
  rw [frameFromBlock]
  dsimp only
  rw [hdata]
  split_ifs
  · rfl
  · rfl

/-- A block without data. -/
lemma eventOfBlock_none {block : List Char}
    (h : (block.splitOn '\n').filterMap dataLine = []) : eventOfBlock canonical block = none := by
  have hdata := data_frameFromBlock block
  rw [h, List.isEmpty_nil, if_pos rfl] at hdata
  rw [eventOfBlock, Option.map_eq_none_iff.mp hdata]
  rfl

/-- A block with one line of data. -/
lemma eventOfBlock_data {block data : List Char}
    (h : (block.splitOn '\n').filterMap dataLine = [data]) :
    eventOfBlock canonical block = parseOpenClawStreamEvent canonical data := by
  have hdata := data_frameFromBlock block
  rw [h, List.isEmpty_cons, if_neg (by decide), List.intercalate_singleton] at hdata
  obtain ⟨frame, hframe, hdata⟩ := Option.map_eq_some_iff.mp hdata
  rw [eventOfBlock, hframe, Option.bind_some, hdata]

/-- A line that does not begin with the first letter of `data:`. -/
lemma dataLine_none (h : line.head? ≠ some 'd') : dataLine line = none := by
  have hdata : "data:".toList.isPrefixOf (jsTrimEnd line) = false := by
    rw [Bool.eq_false_iff]
    intro hbegins
    obtain ⟨rest, hrest⟩ := (List.isPrefixOf_iff_prefix.mp hbegins).trans
      (List.rdropWhile_prefix (p := isJsSpace) (l := line))
    exact h (by rw [← hrest]; rfl)
  rw [dataLine, hdata]
  simp only [Bool.false_eq_true, if_false, ite_self]

lemma jsTrimEnd_concat {text : List Char} {c : Char} (hc : isJsSpace c = false) :
    jsTrimEnd (text ++ [c]) = text ++ [c] :=
  List.rdropWhile_concat_neg isJsSpace text c (by simp [hc])

/-- What a line of data adds. -/
lemma dataLine_cases (line : List Char) : dataLine line = none ∨
    ∃ data, jsTrimEnd line = "data:".toList ++ data ∧ dataLine line = some (stripSpace data) := by
  rw [dataLine]
  split_ifs with hevent hdata
  · exact .inl rfl
  · obtain ⟨data, hdata⟩ := List.isPrefixOf_iff_prefix.mp hdata
    refine .inr ⟨data, hdata.symm, ?_⟩
    rw [← hdata]
    rfl
  · exact .inl rfl

/-- The beginning of a line of data adds the beginning of the data. -/
lemma dataLine_beginning {text : List Char} (h : line <+: "data: ".toList ++ text) :
    dataLine line = none ∨ ∃ data, dataLine line = some data ∧ data <+: text := by
  rcases dataLine_cases line with hnone | ⟨data, htrim, hdata⟩
  · exact .inl hnone
  · refine .inr ⟨stripSpace data, hdata, ?_⟩
    have hbegins : "data:".toList ++ data <+: "data:".toList ++ ' ' :: text :=
      htrim ▸ (List.rdropWhile_prefix (p := isJsSpace) (l := line)).trans h
    rcases List.prefix_cons_iff.mp ((List.prefix_append_right_inj _).mp hbegins) with
      rfl | ⟨rest, rfl, hrest⟩
    · exact List.nil_prefix
    · exact hrest

/-- A line that ends with what stands for bytes that are no character. -/
lemma dataLine_replacementChar (line : List Char) : dataLine (line ++ [replacementChar]) = none ∨
    ∃ data, dataLine (line ++ [replacementChar]) = some (data ++ [replacementChar]) := by
  rcases dataLine_cases (line ++ [replacementChar]) with hnone | ⟨data, htrim, hdata⟩
  · exact .inl hnone
  · rw [jsTrimEnd_concat (by decide)] at htrim
    rcases List.eq_nil_or_concat data with rfl | ⟨init, c, rfl⟩
    · have hlast := congrArg List.getLast? htrim
      rw [List.getLast?_concat] at hlast
      exact absurd hlast (by decide)
    · rw [List.concat_eq_append, ← List.append_assoc] at htrim
      obtain rfl : c = replacementChar :=
        (List.cons.inj (List.append_inj' htrim rfl).2).1.symm
      refine .inr ?_
      rw [hdata, List.concat_eq_append]
      cases init with
      | nil => exact ⟨[], rfl⟩
      | cons d rest =>
          by_cases hd : d = ' '
          · exact ⟨rest, by simp [stripSpace, hd]⟩
          · exact ⟨d :: rest, by simp [stripSpace, hd]⟩

/-- A line of data whose end is not trimmed. -/
lemma dataLine_concat {text : List Char} {c : Char} (hc : isJsSpace c = false) :
    dataLine ("data: ".toList ++ (text ++ [c])) = some (text ++ [c]) := by
  rw [dataLine, ← List.append_assoc, jsTrimEnd_concat hc]
  rfl

end Data

/-! ### The block of an event -/

section Event

variable {canonical : List Char → String} {event : OpenClawStreamEvent} {tail : List Char}

/-- The first line of an event. -/
def eventLine (event : OpenClawStreamEvent) : List Char := "event: ".toList ++ event.type.toList

lemma writeSse_eq (event : OpenClawStreamEvent) : writeSse event =
    eventLine event ++ '\n' :: ("data: ".toList ++ event.toJson.print) ++ ['\n', '\n'] := by
  unfold writeSse eventLine
  generalize "event: ".toList = first
  generalize "data: ".toList = second
  simp only [List.append_assoc, List.cons_append, List.nil_append]

lemma type_mem (event : OpenClawStreamEvent) : event.type ∈ openClawStreamEventTypes := by
  cases event <;> simp [OpenClawStreamEvent.type, openClawStreamEventTypes]

lemma notMem_eventLine (event : OpenClawStreamEvent) : '\n' ∉ eventLine event := by
  have htypes : ∀ type ∈ openClawStreamEventTypes, '\n' ∉ "event: ".toList ++ type.toList := by
    decide
  exact htypes event.type (type_mem event)

/-- The JSON text of an event ends with a brace, and is read back. -/
lemma print_toJson (hevent : event.toJson.Ok canonical) :
    ∃ text, event.toJson.print = text ++ ['\x7d'] ∧
      jsonParse canonical (text ++ ['\x7d']) = some event.toJson := by
  obtain ⟨text, htext⟩ := print_object (("type", .string event.type) :: jsonFields event.fields)
  exact ⟨'\x7b' :: text, htext, htext ▸ jsonParse_print hevent⟩

lemma notMem_dataLine (hevent : event.toJson.Ok canonical) :
    '\n' ∉ "data: ".toList ++ event.toJson.print := by
  intro hmem
  rcases List.mem_append.mp hmem with hmem | hmem
  · exact absurd hmem (by decide)
  · exact absurd (le_of_mem_print event.toJson hevent _ hmem) (by decide)

lemma parseOpenClawStreamEvent_print (hevent : event.toJson.Ok canonical) :
    parseOpenClawStreamEvent canonical event.toJson.print = some event.toJson := by
  rw [parseOpenClawStreamEvent, jsonParse_print hevent]
  simp only [OpenClawStreamEvent.toJson, List.find?_cons, decide_true, Option.map_some,
    if_pos (type_mem event)]

lemma parseOpenClawStreamEvent_none {data : List Char} (h : jsonParse canonical data = none) :
    parseOpenClawStreamEvent canonical data = none := by
  rw [parseOpenClawStreamEvent, h]

/-- What a decoder may add at the end. -/
def IsTail (tail : List Char) : Prop := tail = [] ∨ tail = [replacementChar]

lemma IsTail.notMem (h : IsTail tail) : '\n' ∉ tail := by
  rcases h with rfl | rfl
  · decide
  · decide

lemma IsTail.dataLine (h : IsTail tail) : dataLine tail = none :=
  dataLine_none (by
    rcases h with rfl | rfl
    · decide
    · decide)

/-- The line of data of an event that was cut off has no data that can be read, unless it is
whole. -/
lemma dataLine_cut (hevent : event.toJson.Ok canonical) (htail : IsTail tail) {line : List Char}
    (hbegins : line <+: "data: ".toList ++ event.toJson.print) :
    dataLine (line ++ tail) = none ∨ ∃ data, dataLine (line ++ tail) = some data ∧
      (parseOpenClawStreamEvent canonical data = none ∨
        parseOpenClawStreamEvent canonical data = some event.toJson) := by
  rcases htail with rfl | rfl
  · rw [List.append_nil]
    rcases dataLine_beginning hbegins with hnone | ⟨data, hdata, hbeginning⟩
    · exact .inl hnone
    · refine .inr ⟨data, hdata, ?_⟩
      obtain ⟨text, htext, hparse⟩ := print_toJson hevent
      by_cases hwhole : data = event.toJson.print
      · exact .inr (hwhole ▸ parseOpenClawStreamEvent_print hevent)
      · rw [htext] at hbeginning hwhole
        exact .inl (parseOpenClawStreamEvent_none (jsonParse_beginning hparse hbeginning hwhole))
  · rcases dataLine_replacementChar line with hnone | ⟨data, hdata⟩
    · exact .inl hnone
    · exact .inr ⟨_, hdata,
        .inl (parseOpenClawStreamEvent_none (jsonParse_replacementChar canonical data))⟩

lemma head_eventLine (event : OpenClawStreamEvent) : (eventLine event).head? = some 'e' := rfl

lemma dataLine_eventLine (event : OpenClawStreamEvent) : dataLine (eventLine event) = none :=
  dataLine_none (by rw [head_eventLine]; decide)

lemma dataLine_event (hevent : event.toJson.Ok canonical) :
    dataLine ("data: ".toList ++ event.toJson.print) = some event.toJson.print := by
  obtain ⟨text, htext, -⟩ := print_toJson hevent
  rw [htext]
  exact dataLine_concat (by decide)

/-- The block of an event. -/
lemma eventOfBlock_event (hevent : event.toJson.Ok canonical) :
    eventOfBlock canonical (eventLine event ++ '\n' :: ("data: ".toList ++ event.toJson.print)) =
      some event.toJson := by
  rw [← parseOpenClawStreamEvent_print hevent]
  refine eventOfBlock_data ?_
  rw [List.splitOn_append_cons_self_of_not_mem (notMem_eventLine event),
    List.splitOn_eq_singleton (notMem_dataLine hevent), List.filterMap_cons,
    dataLine_eventLine, List.filterMap_cons, dataLine_event hevent]
  rfl

/-- The first line of an event, or less. -/
lemma eventOfBlock_eventLine (htail : IsTail tail) {text : List Char}
    (hbegins : text <+: eventLine event) : eventOfBlock canonical (text ++ tail) = none := by
  have hnewline : '\n' ∉ text ++ tail := by
    rw [List.mem_append, not_or]
    exact ⟨fun hmem => notMem_eventLine event (hbegins.subset hmem), htail.notMem⟩
  refine eventOfBlock_none ?_
  rw [List.splitOn_eq_singleton hnewline, List.filterMap_cons, dataLine_none]
  · rfl
  · cases text with
    | nil =>
        rcases htail with rfl | rfl
        · decide
        · decide
    | cons c rest =>
        obtain ⟨after, hafter⟩ := hbegins
        have hhead := head_eventLine event
        rw [← hafter, List.cons_append, List.head?_cons] at hhead
        rw [List.cons_append, List.head?_cons, hhead]
        decide

/-- The first line of an event, and the second or less. -/
lemma eventOfBlock_lines (hevent : event.toJson.Ok canonical) (htail : IsTail tail)
    {line : List Char} (hbegins : line <+: "data: ".toList ++ event.toJson.print) :
    eventOfBlock canonical (eventLine event ++ '\n' :: line ++ tail) = none ∨
      eventOfBlock canonical (eventLine event ++ '\n' :: line ++ tail) = some event.toJson := by
  have hnewline : '\n' ∉ line ++ tail := by
    rw [List.mem_append, not_or]
    exact ⟨fun hmem => notMem_dataLine hevent (hbegins.subset hmem), htail.notMem⟩
  have hlines : (eventLine event ++ '\n' :: line ++ tail).splitOn '\n' =
      [eventLine event, line ++ tail] := by
    rw [List.append_assoc, List.cons_append,
      List.splitOn_append_cons_self_of_not_mem (notMem_eventLine event),
      List.splitOn_eq_singleton hnewline]
  rcases dataLine_cut hevent htail hbegins with hnone | ⟨data, hdata, hparsed⟩
  · refine .inl (eventOfBlock_none ?_)
    rw [hlines, List.filterMap_cons, dataLine_eventLine, List.filterMap_cons, hnone]
    rfl
  · have hone : ((eventLine event ++ '\n' :: line ++ tail).splitOn '\n').filterMap dataLine =
        [data] := by
      rw [hlines, List.filterMap_cons, dataLine_eventLine, List.filterMap_cons, hdata]
      rfl
    rw [eventOfBlock_data hone]
    exact hparsed

/-- A block that was cut off is no event, or the whole one. -/
lemma eventOfBlock_cut (hevent : event.toJson.Ok canonical) (htail : IsTail tail) {text : List Char}
    (hbegins : text <+: writeSse event) (hne : text ≠ writeSse event) :
    eventOfBlock canonical (text ++ tail) = none ∨
      eventOfBlock canonical (text ++ tail) = some event.toJson := by
  rw [writeSse_eq, List.append_assoc] at hbegins
  rcases prefix_append_cases hbegins with ⟨hfirst, -⟩ | ⟨rest, rfl, hrest⟩
  · exact .inl (eventOfBlock_eventLine htail hfirst)
  rw [List.cons_append] at hrest
  rcases List.prefix_cons_iff.mp hrest with rfl | ⟨line, rfl, hline⟩
  · rw [List.append_nil]
    exact .inl (eventOfBlock_eventLine htail (List.prefix_refl _))
  rcases prefix_append_cases hline with ⟨hsecond, -⟩ | ⟨newlines, rfl, hnewlines⟩
  · exact eventOfBlock_lines hevent htail hsecond
  rcases List.prefix_cons_iff.mp hnewlines with rfl | ⟨newline, rfl, hnewline⟩
  · rw [List.append_nil]
    exact eventOfBlock_lines hevent htail (List.prefix_refl _)
  rcases List.prefix_cons_iff.mp hnewline with rfl | ⟨nothing, rfl, hnothing⟩
  · -- Both lines are whole, and the tail is a third one.
    rw [List.append_assoc, List.cons_append, List.append_assoc, List.singleton_append]
    refine .inr ((eventOfBlock_data ?_).trans (parseOpenClawStreamEvent_print hevent))
    rw [List.splitOn_append_cons_self_of_not_mem (notMem_eventLine event),
      List.splitOn_append_cons_self_of_not_mem (notMem_dataLine hevent),
      List.splitOn_eq_singleton htail.notMem, List.filterMap_cons, dataLine_eventLine,
      List.filterMap_cons, dataLine_event hevent, List.filterMap_cons, htail.dataLine]
    rfl
  · rw [List.prefix_nil.mp hnothing] at hne
    refine absurd ?_ hne
    rw [writeSse_eq]
    simp only [List.append_assoc, List.cons_append]

end Event

/-! ### The stream -/

section Stream

variable {canonical : List Char → String} {events : List OpenClawStreamEvent}

/-- The events of a text, and of what is left of it with the tail. -/
def eventsOfText (canonical : List Char → String) (text tail : List Char) : List Json :=
  (splitBlocks text).1.filterMap (eventOfBlock canonical) ++
    (lastFrame ((splitBlocks text).2 ++ tail)).filterMap fun frame =>
      parseOpenClawStreamEvent canonical frame.data

lemma lastFrame_events (canonical : List Char → String) (buffer : List Char) :
    ((lastFrame buffer).filterMap fun frame => parseOpenClawStreamEvent canonical frame.data) = [] ∨
      ((lastFrame buffer).filterMap fun frame => parseOpenClawStreamEvent canonical frame.data) =
        (eventOfBlock canonical buffer).toList := by
  rw [lastFrame]
  split_ifs
  · exact .inl rfl
  · refine .inr ?_
    rw [eventOfBlock]
    cases frameFromBlock buffer with
    | none => rfl
    | some frame =>
        rw [Option.toList_some, List.filterMap_cons, Option.bind_some]
        cases parseOpenClawStreamEvent canonical frame.data with
        | none => rfl
        | some event => rfl

/-- An event that was written whole is read first. -/
lemma eventsOfText_event {event : OpenClawStreamEvent} (hevent : event.toJson.Ok canonical)
    (text tail : List Char) :
    eventsOfText canonical (writeSse event ++ text) tail =
      event.toJson :: eventsOfText canonical text tail := by
  have hblock := splitBlocks_block (notMem_eventLine event) (notMem_dataLine hevent)
    (List.append_ne_nil_of_left_ne_nil (by decide) _)
  rw [eventsOfText, splitBlocks_append, writeSse_eq, hblock]
  dsimp only
  rw [List.nil_append, List.filterMap_append, List.filterMap_cons, eventOfBlock_event hevent,
    List.filterMap_nil]
  rfl

/-- An event that was cut off is not read, or read. -/
lemma eventsOfText_cut {event : OpenClawStreamEvent} (hevent : event.toJson.Ok canonical)
    {text tail : List Char} (htail : IsTail tail) (hbegins : text <+: writeSse event)
    (hne : text ≠ writeSse event) : eventsOfText canonical text tail <+: [event.toJson] := by
  have hwhole := splitBlocks_lines (notMem_eventLine event) (notMem_dataLine hevent)
    (List.append_ne_nil_of_left_ne_nil (by decide) _)
  have hshort : text <+: eventLine event ++ '\n' :: ("data: ".toList ++ event.toJson.print) ++
      ['\n'] := by
    rw [writeSse_eq, show ∀ l : List Char, l ++ ['\n', '\n'] = (l ++ ['\n']) ++ ['\n'] by simp]
      at hbegins hne
    exact (List.prefix_concat_iff.mp hbegins).resolve_left hne
  rw [eventsOfText, splitBlocks_of_prefix hshort hwhole, List.filterMap_nil, List.nil_append]
  rcases lastFrame_events canonical (text ++ tail) with hnil | hevents
  · rw [hnil]
    exact List.nil_prefix
  · rw [hevents]
    rcases eventOfBlock_cut hevent htail hbegins hne with hnone | hsome
    · rw [hnone]
      exact List.nil_prefix
    · rw [hsome]
      exact List.prefix_refl _

/-- Nothing was written. -/
lemma eventsOfText_nil (canonical : List Char → String) {tail : List Char} (htail : IsTail tail) :
    eventsOfText canonical [] tail = [] := by
  have hnone : eventOfBlock canonical tail = none := by
    refine eventOfBlock_none ?_
    rw [List.splitOn_eq_singleton htail.notMem, List.filterMap_cons, htail.dataLine]
    rfl
  rcases lastFrame_events canonical tail with hnil | hevents
  · exact hnil
  · exact hevents.trans (by rw [hnone]; rfl)

/-- The beginning of what was written gives the beginning of the events. -/
lemma eventsOfText_prefix (hevents : ∀ event ∈ events, event.toJson.Ok canonical)
    {text tail : List Char} (htail : IsTail tail) (hbegins : text <+: events.flatMap writeSse) :
    eventsOfText canonical text tail <+: events.map OpenClawStreamEvent.toJson := by
  induction events generalizing text with
  | nil =>
      rw [List.flatMap_nil] at hbegins
      rw [List.prefix_nil.mp hbegins, eventsOfText_nil canonical htail]
      exact List.nil_prefix
  | cons event events ih =>
      rw [List.flatMap_cons] at hbegins
      have hevent := hevents event List.mem_cons_self
      rcases prefix_append_cases hbegins with ⟨hfirst, hne⟩ | ⟨rest, rfl, hrest⟩
      · exact (eventsOfText_cut hevent htail hfirst hne).trans
          (List.cons_prefix_cons.mpr ⟨rfl, List.nil_prefix⟩)
      · rw [eventsOfText_event hevent, List.map_cons]
        exact List.cons_prefix_cons.mpr
          ⟨rfl, ih (fun event hmem => hevents event (List.mem_cons_of_mem _ hmem)) hrest⟩

/-- All that was written gives all the events. -/
lemma eventsOfText_whole (hevents : ∀ event ∈ events, event.toJson.Ok canonical) :
    eventsOfText canonical (events.flatMap writeSse) [] =
      events.map OpenClawStreamEvent.toJson := by
  induction events with
  | nil => rfl
  | cons event events ih =>
      rw [List.flatMap_cons, eventsOfText_event (hevents event List.mem_cons_self),
        ih fun event hmem => hevents event (List.mem_cons_of_mem _ hmem), List.map_cons]

/-- What is written does not begin with a byte order mark. -/
lemma head_ne_byteOrderMark {text : List Char} (h : text <+: events.flatMap writeSse) :
    text.head? ≠ some byteOrderMark := by
  cases text with
  | nil => decide
  | cons c rest =>
      cases events with
      | nil => exact absurd (List.prefix_nil.mp h) (List.cons_ne_nil _ _)
      | cons event events =>
          obtain ⟨after, hafter⟩ := h
          have hhead : (writeSse event ++ events.flatMap writeSse).head? = some 'e' := rfl
          rw [← List.flatMap_cons, ← hafter, List.cons_append, List.head?_cons] at hhead
          rw [List.head?_cons, hhead]
          decide

/-- The events of a stream, by the text of its bytes. -/
lemma brokerEventStream_eq (canonical : List Char → String) {chunks : List (List UInt8)}
    (hbegins : chunks.flatten <+: utf8Bytes (events.flatMap writeSse)) :
    ∃ text tail, brokerEventStream canonical chunks = eventsOfText canonical text tail ∧
      text <+: events.flatMap writeSse ∧ IsTail tail ∧
      (chunks.flatten = utf8Bytes (events.flatMap writeSse) →
        text = events.flatMap writeSse ∧ tail = []) := by
  have hbeginning := decodeBytes_prefix _ hbegins
  obtain ⟨htext, hstate⟩ :=
    TextDecoder.decodeAll_eq {} chunks fun _ => head_ne_byteOrderMark hbeginning
  refine ⟨(decodeBytes {} chunks.flatten).1, (TextDecoder.decodeAll {} chunks).2.finish, ?_,
    hbeginning, TextDecoder.finish_cases _, fun hwhole => ?_⟩
  · rw [brokerEventStream, readSseFrames, readChunks_eq {} [] chunks rfl, List.nil_append, htext,
      eventsOfText, parseSseBuffer]
    dsimp only
    rw [List.filterMap_append, List.filterMap_filterMap]
    rfl
  · rw [hwhole, decodeBytes_utf8Bytes] at hstate ⊢
    refine ⟨rfl, ?_⟩
    rw [TextDecoder.finish, hstate]
    rfl

end Stream

/-- **The stream is transparent**: however the bytes are cut into chunks, the events that were
written are read, in order; and when the bytes end early, the beginning of them is. -/
theorem event_stream_transparent (canonical : List Char → String)
    (events : List OpenClawStreamEvent) (hevents : ∀ event ∈ events, event.toJson.Ok canonical)
    (chunks : List (List UInt8)) :
    (chunks.flatten = streamBytes events → brokerEventStream canonical chunks =
        (surfaced events).map OpenClawStreamEvent.toJson) ∧
      (chunks.flatten <+: streamBytes events → brokerEventStream canonical chunks <+:
        (surfaced events).map OpenClawStreamEvent.toJson) := by
  have hsurfaced : ∀ event ∈ surfaced events, event.toJson.Ok canonical := fun event hmem =>
    hevents event (List.mem_of_mem_filter hmem)
  constructor
  · intro hwhole
    have hbegins : chunks.flatten <+: streamBytes events := hwhole ▸ List.prefix_refl _
    obtain ⟨text, tail, hstream, -, -, hall⟩ := brokerEventStream_eq canonical hbegins
    obtain ⟨rfl, rfl⟩ := hall hwhole
    rw [hstream, eventsOfText_whole hsurfaced]
  · intro hbegins
    obtain ⟨text, tail, hstream, htext, htail, -⟩ := brokerEventStream_eq canonical hbegins
    rw [hstream]
    exact eventsOfText_prefix hsurfaced htail htext

/-- Events with text that is escaped, and text that takes several bytes. -/
def sampleEvents : List OpenClawStreamEvent :=
  [.queued "t1", .delta "t1" "a\n\nё", .approvalRequested "t1" ⟨"openclaw", "approval", "a1"⟩ "s",
    .toolCall "t1" "c1" "list" [("limit", .number "20"), ("query", .undefined)],
    .failed "t1" (.string "aborted") "m"]

theorem event_stream_transparent_sample :
    (∀ event ∈ sampleEvents, event.toJson.Ok String.ofList) ∧
      brokerEventStream String.ofList
          [(streamBytes sampleEvents).take 90, (streamBytes sampleEvents).drop 90] =
        (surfaced sampleEvents).map OpenClawStreamEvent.toJson ∧
      brokerEventStream String.ofList [(streamBytes sampleEvents).take 92] <+:
        (surfaced sampleEvents).map OpenClawStreamEvent.toJson := by
  have hevents : ∀ event ∈ sampleEvents, event.toJson.Ok String.ofList := by
    have hnumeral : isNumeral ['2', '0'] = true := by decide
    intro event hmem
    simp only [sampleEvents, List.mem_cons, List.not_mem_nil, or_false] at hmem
    rcases hmem with rfl | rfl | rfl | rfl | rfl
    all_goals
      simp [OpenClawStreamEvent.toJson, OpenClawStreamEvent.fields, OpaqueExternalRef.toValue,
        jsonFields, jsonField, jsonOf, Json.Ok, FieldsOk, FieldOk, hnumeral]
  refine ⟨hevents, ?_, ?_⟩
  · refine (event_stream_transparent String.ofList sampleEvents hevents _).1 ?_
    simp
  · refine (event_stream_transparent String.ofList sampleEvents hevents _).2 ?_
    rw [List.flatten_singleton]
    exact List.take_prefix _ _

end Opzava.GatewayBroker
