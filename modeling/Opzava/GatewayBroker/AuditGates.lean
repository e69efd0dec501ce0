import Opzava.Library.JsonFields
import Opzava.Library.Numerals

/-!
The gates that the audit activity of OpenClaw passes: the operator client and the internal HTTP
server of the broker, and the client of the broker in the web app.

* `Broker.projectAuditPage`, `Web.parseAuditActivityPage`: the pages of events.
* `Http.parseAuditFilters`, `Broker.validAuditFilters`: the filters of a request.
* `parseAuditEvent_projectAuditEvent`: the web app accepts an event that the broker has projected.
* `audit_gates_agree`: the gates of the two applications agree, in both directions.
-/

namespace Opzava.GatewayBroker.AuditGates

open Opzava.Library JsonFields

/-! ### Values -/

/-- `value === text`. -/
def isText (value : Option Json) (text : String) : Bool :=
  match value with
  | some (.string s) => s = text
  | _ => false

/-- `texts.includes(value)`. -/
def isOneOf (value : Option Json) (texts : List String) : Bool :=
  match value with
  | some (.string s) => s ∈ texts
  | _ => false

/-- A string that is not empty, of at most so many code units. -/
def isBounded (value : Option Json) (max : ℕ) : Bool :=
  match value with
  | some (.string s) => 0 < jsLength s ∧ jsLength s ≤ max
  | _ => false

/-- The integer that a value is. -/
def integerOf : Option Json → Option ℤ
  | some (.number text) => (decimalOf text.toList).integer?
  | _ => none

/-- `Number.isSafeInteger(value) && value >= least`. -/
def isSafeInteger (least : ℤ) (value : Option Json) : Bool :=
  (integerOf value).any fun n => n.natAbs ≤ 9007199254740991 && least ≤ n

/-- `Number.isInteger(value) && least <= value && value <= greatest`. -/
def isIntegerIn (least greatest : ℤ) (value : Option Json) : Bool :=
  (integerOf value).any fun n => least ≤ n && n ≤ greatest

/-- `a > b`, for integers. -/
def isGreater (a b : Option Json) : Bool :=
  match integerOf a, integerOf b with
  | some m, some n => n < m
  | _, _ => false

/-- `/^hmac-sha256:v1:[0-9a-f]{32}:[0-9a-f]{64}$/`. -/
def isPseudonym : Option Json → Bool
  | some (.string s) =>
      let isHex (c : Char) : Bool := ('0' ≤ c ∧ c ≤ '9') ∨ ('a' ≤ c ∧ c ≤ 'f')
      let rest := s.toList.drop 15
      s.toList.take 15 = "hmac-sha256:v1:".toList && rest.length = 97 &&
        (rest.take 32).all isHex && rest[32]? = some ':' && (rest.drop 33).all isHex
  | _ => false

/-- `status in errors && errorCode === errors[status]`. -/
def isFinished (errors : List (String × Option String)) (status errorCode : Option Json) : Bool :=
  errors.any fun (name, expected) => isText status name &&
    match expected with
    | none => errorCode.isNone
    | some code => isText errorCode code

/-! ### The operator client of the broker -/

namespace Broker

def auditKinds : List String := ["agent_run", "tool_action", "message"]

def auditStatuses : List String :=
  ["started", "succeeded", "failed", "cancelled", "timed_out", "blocked", "unknown"]

def conversationKinds : List String := ["direct", "group", "channel", "unknown"]

def messageIdentityFields : List String :=
  ["accountRef", "conversationRef", "messageRef", "targetRef"]

def auditCommonWireKeys : List String :=
  ["eventType", "schemaVersion", "eventId", "sequence", "sourceSequence", "occurredAt", "kind",
    "action", "status", "actor", "redaction"]

def inboundCompletedReasons : List String :=
  ["fast_abort", "plugin_bound_handled", "plugin_bound_unavailable", "plugin_bound_declined",
    "before_dispatch_handled", "acp_dispatch_completed", "acp_dispatch_empty"]

def inboundSkippedReasons : List String :=
  ["duplicate", "reply_operation_active", "reply_operation_aborted", "acp_dispatch_aborted"]

def inboundFailedReasons : List String := ["acp_dispatch_failed", "plugin_bound_error"]

def outboundSuppressedReasons : List String :=
  ["cancelled_by_message_sending_hook", "cancelled_by_reply_payload_sending_hook",
    "empty_after_message_sending_hook", "empty_after_reply_payload_sending_hook",
    "no_visible_payload"]

def nonEmpty (value : Option Json) (max : ℕ := 2048) : Bool := isBounded value max

def optionalString (record : JsonFields) (key : String) (max : ℕ := 2048) : Bool :=
  (record.lookup key).isNone || nonEmpty (record.lookup key) max

def optionalNonNegativeInteger (record : JsonFields) (key : String) : Bool :=
  (record.lookup key).isNone || isSafeInteger 0 (record.lookup key)

def exactKeys (record : JsonFields) (allowed : List String) : Bool := record.namesIn allowed

def exactEventKeys (record : JsonFields) (extra : List String) : Bool :=
  exactKeys record (auditCommonWireKeys ++ extra)

def validActor (value : Option Json) (inbound : Bool := false) : Bool :=
  match value with
  | some (.object actor) =>
      exactKeys actor ["type", "id"] && nonEmpty (actor.lookup "id") &&
        if inbound then
          isText (actor.lookup "type") "system" ||
            (isText (actor.lookup "type") "channel_sender" && isPseudonym (actor.lookup "id"))
        else isText (actor.lookup "type") "agent" || isText (actor.lookup "type") "system"
  | _ => false

/-- The filters of a request, which are an object. -/
def validAuditFilters : Json → Bool
  | .object record =>
      let kind := record.lookup "kind"
      let direction := record.lookup "direction"
      let after := record.lookup "after"
      let before := record.lookup "before"
      exactKeys record ["agent", "session", "run", "kind", "status", "direction", "channel",
        "after", "before", "limit", "cursor"] &&
      ["agent", "session", "run"].all (optionalString record ·) &&
      optionalString record "channel" 128 && optionalString record "cursor" 512 &&
      (kind.isNone || isOneOf kind auditKinds) &&
      ((record.lookup "status").isNone || isOneOf (record.lookup "status") auditStatuses) &&
      (direction.isNone || isText direction "inbound" || isText direction "outbound") &&
      (after.isNone || isSafeInteger 0 after) && (before.isNone || isSafeInteger 0 before) &&
      ((record.lookup "limit").isNone || isIntegerIn 1 500 (record.lookup "limit")) &&
      !(after.isSome && before.isSome && isGreater after before) &&
      !((direction.isSome || (record.lookup "channel").isSome) && kind.isSome &&
        !isText kind "message") &&
      !((record.lookup "session").isSome && isText kind "message")
  | _ => false

def auditCommon (record : JsonFields) : Bool :=
  integerOf (record.lookup "schemaVersion") = some 1 &&
  isText (record.lookup "redaction") "metadata_only" && nonEmpty (record.lookup "eventId") &&
  isSafeInteger 1 (record.lookup "sequence") && isSafeInteger 1 (record.lookup "sourceSequence") &&
  isSafeInteger 0 (record.lookup "occurredAt") && nonEmpty (record.lookup "action") &&
  isOneOf (record.lookup "status") auditStatuses &&
  messageIdentityFields.all fun key => (record.lookup key).isNone ||
    (nonEmpty (record.lookup key) 120 && isPseudonym (record.lookup key))

/-- The fields of `commonProjection`. -/
def commonNames : List String :=
  ["eventId", "sequence", "sourceSequence", "occurredAt", "action", "status"]

def agentRunErrors : List (String × Option String) :=
  [("succeeded", none), ("failed", some "run_failed"), ("cancelled", some "run_cancelled"),
    ("timed_out", some "run_timed_out"), ("blocked", some "run_blocked")]

def toolActionErrors : List (String × Option String) :=
  [("succeeded", none), ("failed", some "tool_failed"), ("cancelled", some "tool_cancelled"),
    ("timed_out", some "tool_timed_out"), ("blocked", some "tool_blocked"),
    ("unknown", some "tool_outcome_unknown")]

/-- The event has started, or it has finished with the error of its status. -/
def validOutcome (started finished : String) (errors : List (String × Option String))
    (record : JsonFields) : Bool :=
  if isText (record.lookup "action") started then
    isText (record.lookup "status") "started" && (record.lookup "errorCode").isNone
  else isText (record.lookup "action") finished &&
    isFinished errors (record.lookup "status") (record.lookup "errorCode")

def validAgentRun (record : JsonFields) : Bool :=
  exactEventKeys record ["agentId", "sessionKey", "sessionId", "runId", "errorCode"] &&
  validActor (record.lookup "actor") && isText (record.lookup "kind") "agent_run" &&
  nonEmpty (record.lookup "agentId") && nonEmpty (record.lookup "runId") &&
  optionalString record "sessionKey" && optionalString record "sessionId" &&
  optionalString record "errorCode" &&
  validOutcome "agent.run.started" "agent.run.finished" agentRunErrors record

def agentRunNames : List String := commonNames ++ ["eventType", "agentId", "runId", "errorCode"]

def validToolAction (record : JsonFields) : Bool :=
  exactEventKeys record
    ["agentId", "sessionKey", "sessionId", "runId", "toolCallId", "toolName", "errorCode"] &&
  validActor (record.lookup "actor") && isText (record.lookup "kind") "tool_action" &&
  nonEmpty (record.lookup "agentId") && nonEmpty (record.lookup "runId") &&
  optionalString record "sessionKey" && optionalString record "sessionId" &&
  optionalString record "toolCallId" && optionalString record "toolName" &&
  optionalString record "errorCode" &&
  validOutcome "tool.action.started" "tool.action.finished" toolActionErrors record

def toolActionNames : List String :=
  commonNames ++ ["eventType", "agentId", "runId", "toolName", "errorCode"]

def messageExtras (inbound : Bool) : List String :=
  ["direction", "channel", "conversationKind", "outcome", "durationMs", "resultCount", "agentId",
    "runId"] ++ messageIdentityFields ++ ["reasonCode", "errorCode"] ++
    if inbound then [] else ["deliveryKind", "failureStage"]

def validMessage (inbound : Bool) (record : JsonFields) : Bool :=
  exactEventKeys record (messageExtras inbound) && validActor (record.lookup "actor") inbound &&
  isText (record.lookup "kind") "message" &&
  isText (record.lookup "direction") (if inbound then "inbound" else "outbound") &&
  nonEmpty (record.lookup "channel") 128 &&
  isOneOf (record.lookup "conversationKind") conversationKinds &&
  nonEmpty (record.lookup "outcome") && optionalString record "agentId" &&
  optionalString record "runId" && optionalString record "reasonCode" &&
  optionalString record "errorCode" && optionalNonNegativeInteger record "durationMs" &&
  optionalNonNegativeInteger record "resultCount"

/-- The fields of `optional`. -/
def optionalNames : List String :=
  ["agentId", "runId", "durationMs", "resultCount", "reasonCode", "errorCode"]

def validInbound (record : JsonFields) : Bool :=
  let status := record.lookup "status"
  let outcome := record.lookup "outcome"
  let reason := record.lookup "reasonCode"
  let errorCode := record.lookup "errorCode"
  isText (record.lookup "action") "message.inbound.processed" &&
  ((isText status "succeeded" && isText outcome "completed" && errorCode.isNone &&
      (reason.isNone || isOneOf reason inboundCompletedReasons)) ||
    (isText status "blocked" && isText outcome "skipped" && errorCode.isNone &&
      (reason.isNone || isOneOf reason inboundSkippedReasons)) ||
    (isText status "failed" && isText outcome "failed" &&
      isText errorCode "message_processing_failed" &&
      (reason.isNone || isOneOf reason inboundFailedReasons)))

def inboundNames : List String :=
  commonNames ++ ["eventType", "channel", "conversationKind", "outcome"] ++ optionalNames

def validOutbound (record : JsonFields) : Bool :=
  let status := record.lookup "status"
  let outcome := record.lookup "outcome"
  let reason := record.lookup "reasonCode"
  let errorCode := record.lookup "errorCode"
  let deliveryKind := record.lookup "deliveryKind"
  let failureStage := record.lookup "failureStage"
  isText (record.lookup "action") "message.outbound.finished" &&
  isOneOf outcome ["sent", "suppressed", "failed", "unknown"] &&
  (deliveryKind.isNone || isOneOf deliveryKind ["text", "media", "other"]) &&
  (failureStage.isNone || isOneOf failureStage ["platform_send", "queue", "unknown"]) &&
  ((isText status "succeeded" && isText outcome "sent" && errorCode.isNone && reason.isNone &&
      failureStage.isNone) ||
    (isText status "blocked" && isText outcome "suppressed" &&
      isOneOf reason outboundSuppressedReasons && errorCode.isNone && failureStage.isNone &&
      deliveryKind.isNone) ||
    (isText status "failed" && isText outcome "failed" &&
      isOneOf errorCode ["message_delivery_failed", "message_delivery_partial_failure"] &&
      failureStage.isSome && reason.isNone) ||
    (isText status "unknown" && isText outcome "unknown" && failureStage.isSome &&
      errorCode.isNone && reason.isNone && deliveryKind.isNone))

def outboundNames : List String := inboundNames ++ ["deliveryKind", "failureStage"]

/-- The fields of an event that are passed on. All that must be there were checked before. -/
def projectAuditEvent : Json → Option Json
  | .object record =>
      let eventType := record.lookup "eventType"
      if !auditCommon record then none
      else if isText eventType "agent_run" then
        if validAgentRun record then some (.object (pick record agentRunNames)) else none
      else if isText eventType "tool_action" then
        if validToolAction record then some (.object (pick record toolActionNames)) else none
      else if isText eventType "inbound_message" then
        if validMessage true record && validInbound record then
          some (.object (pick record inboundNames)) else none
      else if isText eventType "outbound_message" then
        if validMessage false record && validOutbound record then
          some (.object (pick record outboundNames)) else none
      else none
  | _ => none

def projectAuditPage (value : Json) (limit : ℕ) : Option Json :=
  match value with
  | .object record =>
      match record.lookup "events" with
      | some (.array items) =>
          if !exactKeys record ["events", "nextCursor"] || limit < items.length ||
              500 < items.length ||
              !((record.lookup "nextCursor").isNone || nonEmpty (record.lookup "nextCursor") 512) then
            none
          else (items.mapM projectAuditEvent).map fun events =>
            .object (("events", .array events) :: pick record ["nextCursor"])
      | _ => none
  | _ => none

end Broker

/-! ### The web app -/

namespace Web

def safeString (value : Option Json) (max : ℕ := 2048) : Bool := isBounded value max

def exactKeys (record : JsonFields) (allowed : List String) : Bool := record.namesIn allowed

def auditStatuses : List String :=
  ["started", "succeeded", "failed", "cancelled", "timed_out", "blocked", "unknown"]

def inboundCompletedReasons : List String :=
  ["fast_abort", "plugin_bound_handled", "plugin_bound_unavailable", "plugin_bound_declined",
    "before_dispatch_handled", "acp_dispatch_completed", "acp_dispatch_empty"]

def inboundSkippedReasons : List String :=
  ["duplicate", "reply_operation_active", "reply_operation_aborted", "acp_dispatch_aborted"]

def inboundFailedReasons : List String := ["acp_dispatch_failed", "plugin_bound_error"]

def outboundSuppressedReasons : List String :=
  ["cancelled_by_message_sending_hook", "cancelled_by_reply_payload_sending_hook",
    "empty_after_message_sending_hook", "empty_after_reply_payload_sending_hook",
    "no_visible_payload"]

def commonAuditKeys : List String :=
  ["eventType", "eventId", "sequence", "sourceSequence", "occurredAt", "action", "status"]

/-- The fields of `common`. -/
def commonNames : List String :=
  ["eventId", "sequence", "sourceSequence", "occurredAt", "action", "status"]

def validCommon (record : JsonFields) : Bool :=
  safeString (record.lookup "eventId") && isSafeInteger 1 (record.lookup "sequence") &&
  isSafeInteger 1 (record.lookup "sourceSequence") && isSafeInteger 0 (record.lookup "occurredAt") &&
  safeString (record.lookup "action") && isOneOf (record.lookup "status") auditStatuses

def agentRunErrors : List (String × Option String) :=
  [("succeeded", none), ("failed", some "run_failed"), ("cancelled", some "run_cancelled"),
    ("timed_out", some "run_timed_out"), ("blocked", some "run_blocked")]

def toolActionErrors : List (String × Option String) :=
  [("succeeded", none), ("failed", some "tool_failed"), ("cancelled", some "tool_cancelled"),
    ("timed_out", some "tool_timed_out"), ("blocked", some "tool_blocked"),
    ("unknown", some "tool_outcome_unknown")]

/-- The event has started, or it has finished with the error of its status. -/
def validOutcome (started finished : String) (errors : List (String × Option String))
    (record : JsonFields) : Bool :=
  let action := record.lookup "action"
  let status := record.lookup "status"
  let errorCode := record.lookup "errorCode"
  (isText action started && isText status "started" && errorCode.isNone) ||
    (isText action finished && isFinished errors status errorCode)

def optionalString (record : JsonFields) (key : String) : Bool :=
  (record.lookup key).isNone || safeString (record.lookup key)

def validAgentRun (record : JsonFields) : Bool :=
  exactKeys record (commonAuditKeys ++ ["agentId", "runId", "errorCode"]) &&
  safeString (record.lookup "agentId") && safeString (record.lookup "runId") &&
  optionalString record "errorCode" &&
  validOutcome "agent.run.started" "agent.run.finished" agentRunErrors record

def agentRunNames : List String := commonNames ++ ["eventType", "agentId", "runId", "errorCode"]

def validToolAction (record : JsonFields) : Bool :=
  exactKeys record (commonAuditKeys ++ ["agentId", "runId", "toolName", "errorCode"]) &&
  safeString (record.lookup "agentId") && safeString (record.lookup "runId") &&
  optionalString record "toolName" && optionalString record "errorCode" &&
  validOutcome "tool.action.started" "tool.action.finished" toolActionErrors record

def toolActionNames : List String :=
  commonNames ++ ["eventType", "agentId", "runId", "toolName", "errorCode"]

def optionalKeys : List String :=
  ["agentId", "runId", "durationMs", "resultCount", "reasonCode", "errorCode"]

def variantKeys (inbound : Bool) : List String :=
  if inbound then optionalKeys else optionalKeys ++ ["deliveryKind", "failureStage"]

def validMessage (inbound : Bool) (record : JsonFields) : Bool :=
  exactKeys record
    (commonAuditKeys ++ ["channel", "conversationKind", "outcome"] ++ variantKeys inbound) &&
  safeString (record.lookup "channel") 128 &&
  isOneOf (record.lookup "conversationKind") ["direct", "group", "channel", "unknown"] &&
  safeString (record.lookup "outcome") &&
  ["agentId", "runId", "reasonCode", "errorCode"].all (optionalString record ·) &&
  ["durationMs", "resultCount"].all fun key =>
    (record.lookup key).isNone || isSafeInteger 0 (record.lookup key)

def validInbound (record : JsonFields) : Bool :=
  let status := record.lookup "status"
  let outcome := record.lookup "outcome"
  let reason := record.lookup "reasonCode"
  let errorCode := record.lookup "errorCode"
  isOneOf outcome ["completed", "skipped", "failed"] &&
  isText (record.lookup "action") "message.inbound.processed" &&
  ((isText status "succeeded" && isText outcome "completed" && errorCode.isNone &&
      (reason.isNone || isOneOf reason inboundCompletedReasons)) ||
    (isText status "blocked" && isText outcome "skipped" && errorCode.isNone &&
      (reason.isNone || isOneOf reason inboundSkippedReasons)) ||
    (isText status "failed" && isText outcome "failed" &&
      isText errorCode "message_processing_failed" &&
      (reason.isNone || isOneOf reason inboundFailedReasons)))

def inboundNames : List String :=
  commonNames ++ ["eventType", "channel", "conversationKind", "outcome"] ++ optionalKeys

def validOutbound (record : JsonFields) : Bool :=
  let status := record.lookup "status"
  let outcome := record.lookup "outcome"
  let reason := record.lookup "reasonCode"
  let errorCode := record.lookup "errorCode"
  let deliveryKind := record.lookup "deliveryKind"
  let failureStage := record.lookup "failureStage"
  isOneOf outcome ["sent", "suppressed", "failed", "unknown"] &&
  (deliveryKind.isNone || isOneOf deliveryKind ["text", "media", "other"]) &&
  (failureStage.isNone || isOneOf failureStage ["platform_send", "queue", "unknown"]) &&
  isText (record.lookup "action") "message.outbound.finished" &&
  ((isText status "succeeded" && isText outcome "sent" && errorCode.isNone && reason.isNone &&
      failureStage.isNone) ||
    (isText status "blocked" && isText outcome "suppressed" &&
      isOneOf reason outboundSuppressedReasons && errorCode.isNone && failureStage.isNone &&
      deliveryKind.isNone) ||
    (isText status "failed" && isText outcome "failed" &&
      isOneOf errorCode ["message_delivery_failed", "message_delivery_partial_failure"] &&
      failureStage.isSome && reason.isNone) ||
    (isText status "unknown" && isText outcome "unknown" && failureStage.isSome &&
      errorCode.isNone && reason.isNone && deliveryKind.isNone))

def outboundNames : List String := inboundNames ++ ["deliveryKind", "failureStage"]

def parseAuditEvent : Json → Option Json
  | .object record =>
      let eventType := record.lookup "eventType"
      if !validCommon record then none
      else if isText eventType "agent_run" then
        if validAgentRun record then some (.object (pick record agentRunNames)) else none
      else if isText eventType "tool_action" then
        if validToolAction record then some (.object (pick record toolActionNames)) else none
      else if isText eventType "inbound_message" then
        if validMessage true record && validInbound record then
          some (.object (pick record inboundNames)) else none
      else if isText eventType "outbound_message" then
        if validMessage false record && validOutbound record then
          some (.object (pick record outboundNames)) else none
      else none
  | _ => none

def parseAuditActivityPage (payload : Json) (limit : ℕ) : Option Json :=
  match payload with
  | .object record =>
      match record.lookup "events" with
      | some (.array items) =>
          if !exactKeys record ["events", "nextCursor"] || limit < items.length ||
              500 < items.length ||
              !((record.lookup "nextCursor").isNone ||
                safeString (record.lookup "nextCursor") 512) then
            none
          else (items.mapM parseAuditEvent).map fun events =>
            .object (("events", .array events) :: pick record ["nextCursor"])
      | _ => none
  | _ => none

end Web

/-! ### The internal HTTP server of the broker -/

namespace Http

def hasExactKeys (record : JsonFields) (allowed : List String) : Bool := record.namesIn allowed

def boundedOptionalString (value : Option Json) (max : ℕ) : Bool :=
  value.isNone || isBounded value max

def parseAuditFilters : Json → Option Json
  | .object record =>
      let kind := record.lookup "kind"
      let direction := record.lookup "direction"
      let after := record.lookup "after"
      let before := record.lookup "before"
      if hasExactKeys record ["agent", "session", "run", "kind", "status", "direction", "channel",
          "after", "before", "limit", "cursor"] &&
        boundedOptionalString (record.lookup "agent") 2048 &&
        boundedOptionalString (record.lookup "session") 2048 &&
        boundedOptionalString (record.lookup "run") 2048 &&
        boundedOptionalString (record.lookup "channel") 128 &&
        boundedOptionalString (record.lookup "cursor") 512 &&
        (kind.isNone || isOneOf kind ["agent_run", "tool_action", "message"]) &&
        ((record.lookup "status").isNone || isOneOf (record.lookup "status")
          ["started", "succeeded", "failed", "cancelled", "timed_out", "blocked", "unknown"]) &&
        (direction.isNone || isText direction "inbound" || isText direction "outbound") &&
        (after.isNone || isSafeInteger 0 after) && (before.isNone || isSafeInteger 0 before) &&
        ((record.lookup "limit").isNone || isIntegerIn 1 500 (record.lookup "limit")) &&
        !isGreater after before &&
        !((direction.isSome || (record.lookup "channel").isSome) && kind.isSome &&
          !isText kind "message") &&
        !((record.lookup "session").isSome && isText kind "message") then
      some (.object (writeField record "limit" ((record.lookup "limit").getD (.number "100"))))
      else none
  | _ => none

end Http

/-! ### Events -/

section Events

variable {record : JsonFields} {names : List String}

/-- The common fields pass the gate of the web app. -/
lemma validCommon_pick (h : Broker.auditCommon record = true)
    (hnames : ∀ name ∈ Broker.commonNames, name ∈ names) :
    Web.validCommon (pick record names) = true := by
  have hread : ∀ name ∈ Broker.commonNames,
      (pick record names).lookup name = record.lookup name := fun name hname =>
    lookup_pick_of_mem (hnames name hname)
  simp only [Broker.commonNames, List.forall_mem_cons, List.not_mem_nil, false_imp_iff,
    implies_true, and_true] at hread
  obtain ⟨heventId, hsequence, hsource, hoccurred, haction, hstatus⟩ := hread
  simp only [Broker.auditCommon, Bool.and_eq_true, and_assoc] at h
  obtain ⟨-, -, h₁, h₂, h₃, h₄, h₅, h₆, -⟩ := h
  simp only [Web.validCommon, heventId, hsequence, hsource, hoccurred, haction, hstatus,
    Bool.and_eq_true, and_assoc]
  exact ⟨h₁, h₂, h₃, h₄, h₅, h₆⟩

lemma validOutcome_of_broker {started finished : String}
    {errors : List (String × Option String)}
    (h : Broker.validOutcome started finished errors record = true) :
    Web.validOutcome started finished errors record = true := by
  rw [Broker.validOutcome] at h
  simp only [Web.validOutcome, Bool.or_eq_true, Bool.and_eq_true]
  split at h
  · rename_i hstarted
    rw [Bool.and_eq_true] at h
    exact .inl ⟨⟨hstarted, h.1⟩, h.2⟩
  · rw [Bool.and_eq_true] at h
    exact .inr h

lemma isOneOf_of_isText {value : Option Json} {text : String} {texts : List String}
    (h : isText value text = true) (htext : text ∈ texts) : isOneOf value texts = true := by
  rcases value with _ | (_ | _ | _ | s | _ | _)
  case some.string =>
    rw [isText, decide_eq_true_eq] at h
    rw [isOneOf, decide_eq_true_eq, h]
    exact htext
  all_goals exact absurd h Bool.false_ne_true

/-- What is read from the fields that were passed on. -/
lemma read_pick (record : JsonFields) (names : List String) :
    ∀ name ∈ names, (pick record names).lookup name = record.lookup name :=
  fun _ hname => lookup_pick_of_mem hname

/-- The run of an agent. -/
lemma validAgentRun_pick (h : Broker.validAgentRun record = true) :
    Web.validAgentRun (pick record Broker.agentRunNames) = true := by
  have hkeys : Web.exactKeys (pick record Broker.agentRunNames)
      (Web.commonAuditKeys ++ ["agentId", "runId", "errorCode"]) = true :=
    namesIn_mono namesIn_pick (by decide)
  have hread := read_pick record Broker.agentRunNames
  generalize pick record Broker.agentRunNames = passed at hkeys hread ⊢
  simp only [Broker.agentRunNames, Broker.commonNames, List.cons_append, List.nil_append,
    List.forall_mem_cons, List.not_mem_nil, false_imp_iff, implies_true, and_true] at hread
  obtain ⟨-, -, -, -, haction, hstatus, -, hagent, hrun, herror⟩ := hread
  simp only [Broker.validAgentRun, Bool.and_eq_true, and_assoc] at h
  obtain ⟨-, -, -, hagentId, hrunId, -, -, herrorCode, houtcome⟩ := h
  have hfinished := validOutcome_of_broker houtcome
  simp only [Web.validAgentRun, Web.validOutcome, Web.optionalString, haction, hstatus, hagent,
    hrun, herror, Bool.and_eq_true, and_assoc]
  exact ⟨hkeys, hagentId, hrunId, herrorCode, hfinished⟩

/-- The use of a tool. -/
lemma validToolAction_pick (h : Broker.validToolAction record = true) :
    Web.validToolAction (pick record Broker.toolActionNames) = true := by
  have hkeys : Web.exactKeys (pick record Broker.toolActionNames)
      (Web.commonAuditKeys ++ ["agentId", "runId", "toolName", "errorCode"]) = true :=
    namesIn_mono namesIn_pick (by decide)
  have hread := read_pick record Broker.toolActionNames
  generalize pick record Broker.toolActionNames = passed at hkeys hread ⊢
  simp only [Broker.toolActionNames, Broker.commonNames, List.cons_append, List.nil_append,
    List.forall_mem_cons, List.not_mem_nil, false_imp_iff, implies_true, and_true] at hread
  obtain ⟨-, -, -, -, haction, hstatus, -, hagent, hrun, htool, herror⟩ := hread
  simp only [Broker.validToolAction, Bool.and_eq_true, and_assoc] at h
  obtain ⟨-, -, -, hagentId, hrunId, -, -, -, htoolName, herrorCode, houtcome⟩ := h
  have hfinished := validOutcome_of_broker houtcome
  simp only [Web.validToolAction, Web.validOutcome, Web.optionalString, haction, hstatus, hagent,
    hrun, htool, herror, Bool.and_eq_true, and_assoc]
  exact ⟨hkeys, hagentId, hrunId, htoolName, herrorCode, hfinished⟩

/-- The fields that the messages of both directions have. -/
lemma validMessage_pick {inbound : Bool} (h : Broker.validMessage inbound record = true)
    (hkeys : Web.exactKeys (pick record names) (Web.commonAuditKeys ++
      ["channel", "conversationKind", "outcome"] ++ Web.variantKeys inbound) = true)
    (hnames : ∀ name ∈ Broker.inboundNames, name ∈ names) :
    Web.validMessage inbound (pick record names) = true := by
  have hread : ∀ name ∈ Broker.inboundNames, (pick record names).lookup name =
      record.lookup name := fun name hname => read_pick record names name (hnames name hname)
  generalize pick record names = passed at hkeys hread ⊢
  simp only [Broker.inboundNames, Broker.commonNames, Broker.optionalNames, List.cons_append,
    List.nil_append, List.forall_mem_cons, List.not_mem_nil, false_imp_iff, implies_true, and_true]
    at hread
  obtain ⟨-, -, -, -, -, -, -, hchannel, hkind, houtcome, hagent, hrun, hduration, hcount, hreason,
    herror⟩ := hread
  simp only [Broker.validMessage, Bool.and_eq_true, and_assoc] at h
  obtain ⟨-, -, -, -, h₁, h₂, h₃, h₄, h₅, h₆, h₇, h₈, h₉⟩ := h
  simp only [Web.validMessage, Web.optionalString, hchannel, hkind, houtcome, List.all_cons,
    List.all_nil, hagent, hrun, hduration, hcount, hreason, herror, Bool.and_eq_true, and_assoc,
    Bool.and_true]
  exact ⟨hkeys, h₁, h₂, h₃, h₄, h₅, h₆, h₇, h₈, h₉⟩

/-- A message that has come in. -/
lemma validInbound_pick (h : Broker.validInbound record = true) :
    Web.validInbound (pick record Broker.inboundNames) = true := by
  have hread := read_pick record Broker.inboundNames
  generalize pick record Broker.inboundNames = passed at hread ⊢
  simp only [Broker.inboundNames, Broker.commonNames, Broker.optionalNames, List.cons_append,
    List.nil_append, List.forall_mem_cons, List.not_mem_nil, false_imp_iff, implies_true, and_true]
    at hread
  obtain ⟨-, -, -, -, haction, hstatus, -, -, -, houtcome, -, -, -, -, hreason, herror⟩ := hread
  simp only [Web.validInbound, haction, hstatus, houtcome, hreason, herror]
  have houtcomes : isOneOf (record.lookup "outcome") ["completed", "skipped", "failed"] = true := by
    simp only [Broker.validInbound, Bool.and_eq_true, Bool.or_eq_true] at h
    rcases h.2 with (hcompleted | hskipped) | hfailed
    · exact isOneOf_of_isText hcompleted.1.1.2 (by decide)
    · exact isOneOf_of_isText hskipped.1.1.2 (by decide)
    · exact isOneOf_of_isText hfailed.1.1.2 (by decide)
  rw [houtcomes]
  exact h

/-- A message that was sent. -/
lemma validOutbound_pick (h : Broker.validOutbound record = true) :
    Web.validOutbound (pick record Broker.outboundNames) = true := by
  have hread := read_pick record Broker.outboundNames
  generalize pick record Broker.outboundNames = passed at hread ⊢
  simp only [Broker.outboundNames, Broker.inboundNames, Broker.commonNames, Broker.optionalNames,
    List.cons_append, List.nil_append, List.forall_mem_cons, List.not_mem_nil, false_imp_iff,
    implies_true, and_true] at hread
  obtain ⟨-, -, -, -, haction, hstatus, -, -, -, houtcome, -, -, -, -, hreason, herror, hdelivery,
    hfailure⟩ := hread
  simp only [Broker.validOutbound, Bool.and_eq_true, and_assoc] at h
  obtain ⟨haction', houtcome', hdelivery', hfailure', hterminal⟩ := h
  simp only [Web.validOutbound, haction, hstatus, houtcome, hreason, herror, hdelivery, hfailure,
    Bool.and_eq_true, and_assoc]
  exact ⟨houtcome', hdelivery', hfailure', haction', hterminal⟩

/-- The type of the event is passed on. -/
lemma eventType_pick (hnames : "eventType" ∈ names) :
    (pick record names).lookup "eventType" = record.lookup "eventType" :=
  read_pick record names _ hnames

/-- A value is one text at most. -/
lemma eq_of_isText {value : Option Json} {text text' : String} (h : isText value text = true)
    (h' : isText value text' = true) : text = text' := by
  rcases value with _ | (_ | _ | _ | s | _ | _)
  case some.string =>
    rw [isText, decide_eq_true_eq] at h h'
    exact h.symm.trans h'
  all_goals exact absurd h Bool.false_ne_true

lemma isText_ne {value : Option Json} {text text' : String} (h : isText value text = true)
    (hne : text ≠ text') : isText value text' = false :=
  Bool.eq_false_iff.mpr fun h' => hne (eq_of_isText h h')

/-- **The events of the two applications.** The web app accepts an event that the broker passes on,
and leaves it as it is. -/
lemma parseAuditEvent_projectAuditEvent {value event : Json}
    (h : Broker.projectAuditEvent value = some event) : Web.parseAuditEvent event = some event := by
  cases value with
  | object record =>
      rw [Broker.projectAuditEvent] at h
      split at h
      · cases h
      rename_i hcommon
      simp only [Bool.not_eq_true', Bool.not_eq_false] at hcommon
      split at h
      · rename_i htype
        split at h <;> cases h
        rename_i hvalid
        have hpick : pick (pick record Broker.agentRunNames) Web.agentRunNames =
            pick record Broker.agentRunNames := pick_pick (by decide)
        rw [Web.parseAuditEvent, validCommon_pick hcommon (by decide),
          eventType_pick (by decide), htype, validAgentRun_pick hvalid, hpick]
        rfl
      rename_i hrun
      split at h
      · rename_i htype
        split at h <;> cases h
        rename_i hvalid
        have hpick : pick (pick record Broker.toolActionNames) Web.toolActionNames =
            pick record Broker.toolActionNames := pick_pick (by decide)
        rw [Web.parseAuditEvent, validCommon_pick hcommon (by decide),
          eventType_pick (by decide), htype, isText_ne htype (by decide),
          validToolAction_pick hvalid, hpick]
        rfl
      split at h
      · rename_i htype
        split at h <;> cases h
        rename_i hvalid
        rw [Bool.and_eq_true] at hvalid
        have hkeys : Web.exactKeys (pick record Broker.inboundNames) (Web.commonAuditKeys ++
            ["channel", "conversationKind", "outcome"] ++ Web.variantKeys true) = true :=
          namesIn_mono namesIn_pick (by decide)
        have hmessage := validMessage_pick hvalid.1 hkeys fun _ hname => hname
        have hpick : pick (pick record Broker.inboundNames) Web.inboundNames =
            pick record Broker.inboundNames := pick_pick (by decide)
        rw [Web.parseAuditEvent, validCommon_pick hcommon (by decide),
          eventType_pick (by decide), htype, isText_ne htype (by decide),
          isText_ne htype (by decide), hmessage, validInbound_pick hvalid.2, hpick]
        rfl
      split at h
      · rename_i htype
        split at h <;> cases h
        rename_i hvalid
        rw [Bool.and_eq_true] at hvalid
        have hkeys : Web.exactKeys (pick record Broker.outboundNames) (Web.commonAuditKeys ++
            ["channel", "conversationKind", "outcome"] ++ Web.variantKeys false) = true :=
          namesIn_mono namesIn_pick (by decide)
        have hmessage := validMessage_pick hvalid.1 hkeys fun _ hname => List.mem_append_left _ hname
        have hpick : pick (pick record Broker.outboundNames) Web.outboundNames =
            pick record Broker.outboundNames := pick_pick (by decide)
        rw [Web.parseAuditEvent, validCommon_pick hcommon (by decide),
          eventType_pick (by decide), htype, isText_ne htype (by decide),
          isText_ne htype (by decide), isText_ne htype (by decide), hmessage,
          validOutbound_pick hvalid.2, hpick]
        rfl
      · cases h
  | _ => cases h

/-- An event that is passed on can be printed, if the one that was received can. -/
lemma ok_projectAuditEvent {canonical : List Char → String} {value event : Json}
    (hvalue : value.Ok canonical) (h : Broker.projectAuditEvent value = some event) :
    event.Ok canonical := by
  cases value with
  | object record =>
      have hpick : ∀ names : List String, names.Nodup →
          (Json.object (pick record names)).Ok canonical := fun names => ok_pick hvalue.1
      rw [Broker.projectAuditEvent] at h
      split at h
      · cases h
      split at h
      · split at h <;> cases h
        exact hpick _ (by decide)
      split at h
      · split at h <;> cases h
        exact hpick _ (by decide)
      split at h
      · split at h <;> cases h
        exact hpick _ (by decide)
      split at h
      · split at h <;> cases h
        exact hpick _ (by decide)
      · cases h
  | _ => cases h

end Events

/-! ### Pages -/

section Pages

variable {canonical : List Char → String} {value page : Json} {limit : ℕ}

/-- The parts of a page that is passed on. -/
lemma projectAuditPage_some (h : Broker.projectAuditPage value limit = some page) :
    ∃ record items events, value = .object record ∧ record.lookup "events" = some (.array items) ∧
      items.mapM Broker.projectAuditEvent = some events ∧ items.length ≤ limit ∧
      items.length ≤ 500 ∧ ((record.lookup "nextCursor").isNone ||
        Broker.nonEmpty (record.lookup "nextCursor") 512) = true ∧
      page = .object (("events", .array events) :: pick record ["nextCursor"]) := by
  cases value with
  | object record =>
      rw [Broker.projectAuditPage] at h
      split at h
      · rename_i items hevents
        split at h
        · cases h
        rename_i hvalid
        obtain ⟨events, hitems, hpage⟩ := Option.map_eq_some_iff.mp h
        rw [Bool.or_eq_true, Bool.or_eq_true, Bool.or_eq_true, not_or, not_or, not_or,
          decide_eq_true_eq, decide_eq_true_eq, not_lt, not_lt] at hvalid
        exact ⟨record, items, events, rfl, hevents, hitems, hvalid.1.1.2, hvalid.1.2,
          by simpa only [Bool.not_eq_true', Bool.not_eq_false] using hvalid.2, hpage.symm⟩
      · cases h
  | _ => cases h

/-- **The pages of the two applications.** -/
lemma parseAuditActivityPage_projectAuditPage
    (h : Broker.projectAuditPage value limit = some page) :
    Web.parseAuditActivityPage page limit = some page := by
  obtain ⟨record, items, events, rfl, -, hitems, hlimit, hmax, hcursor, rfl⟩ :=
    projectAuditPage_some h
  have hlength : items.length = events.length := (forall₂_of_mapM hitems).length_eq
  have hparsed : events.mapM Web.parseAuditEvent = some events := mapM_eq_self fun event hevent =>
    let ⟨_, _, hproject⟩ := exists_of_mem_mapM hitems hevent
    parseAuditEvent_projectAuditEvent hproject
  have hread : (("events", Json.array events) :: pick record ["nextCursor"]).lookup "nextCursor" =
      record.lookup "nextCursor" := by
    rw [JsonFields.lookup_cons, if_neg (by decide),
      lookup_pick_of_mem List.mem_cons_self]
  have hkeys : Web.exactKeys (("events", Json.array events) :: pick record ["nextCursor"])
      ["events", "nextCursor"] = true := by
    have hcursorName : (pick record ["nextCursor"]).namesIn ["events", "nextCursor"] = true :=
      namesIn_mono namesIn_pick (by decide)
    rw [Web.exactKeys, namesIn, List.all_cons, Bool.and_eq_true]
    exact ⟨by simp, hcursorName⟩
  have hpick : pick (("events", Json.array events) :: pick record ["nextCursor"]) ["nextCursor"] =
      pick record ["nextCursor"] := by
    refine List.filterMap_congr fun name hname => ?_
    rw [List.mem_singleton.mp hname, hread]
  have hevents : (("events", Json.array events) :: pick record ["nextCursor"]).lookup "events" =
      some (.array events) := List.lookup_cons_self
  have hvalid : (!Web.exactKeys (("events", Json.array events) :: pick record ["nextCursor"])
      ["events", "nextCursor"] || decide (limit < events.length) || decide (500 < events.length) ||
      !((record.lookup "nextCursor").isNone ||
        Web.safeString (record.lookup "nextCursor") 512)) = false := by
    have hcursor' : ((record.lookup "nextCursor").isNone ||
        Web.safeString (record.lookup "nextCursor") 512) = true := hcursor
    rw [hkeys, hcursor', ← hlength, decide_eq_false (not_lt.mpr hlimit),
      decide_eq_false (not_lt.mpr hmax)]
    rfl
  rw [Web.parseAuditActivityPage, hevents]
  dsimp only
  rw [hread, hvalid, if_neg Bool.false_ne_true, hparsed, hpick]
  rfl

lemma ok_projectAuditPage (hvalue : value.Ok canonical)
    (h : Broker.projectAuditPage value limit = some page) : page.Ok canonical := by
  obtain ⟨record, items, events, rfl, hevents, hitems, -, -, -, rfl⟩ := projectAuditPage_some h
  have hitemsOk : ItemsOk canonical items := ok_of_mem_fields hvalue.1 (mem_of_lookup hevents)
  have heventsOk : ItemsOk canonical events := itemsOk_of_forall fun event hevent =>
    let ⟨item, hitem, hproject⟩ := exists_of_mem_mapM hitems hevent
    ok_projectAuditEvent (ok_of_mem hitemsOk hitem) hproject
  have hcursor : (Json.object (pick record ["nextCursor"])).Ok canonical :=
    ok_pick hvalue.1 (by decide)
  refine ⟨⟨heventsOk, hcursor.1⟩, List.nodup_cons.mpr ⟨fun hmem => ?_, hcursor.2⟩⟩
  have hname := map_fst_pick_sublist.subset hmem
  exact absurd (List.mem_singleton.mp hname) (by simp)

end Pages

/-! ### Filters -/

/-- The numbers that were compared are there. -/
lemma isSome_of_isGreater {a b : Option Json} (h : isGreater a b = true) :
    a.isSome = true ∧ b.isSome = true := by
  rcases a with _ | a
  · exact absurd h Bool.false_ne_true
  rcases b with _ | b
  · rw [isGreater] at h
    split at h
    · rename_i hb
      cases hb
    · exact absurd h Bool.false_ne_true
  exact ⟨rfl, rfl⟩

/-- **The filters of the two layers.** -/
lemma parseAuditFilters_isSome (filters : JsonFields) :
    (Http.parseAuditFilters (.object filters)).isSome = Broker.validAuditFilters (.object filters) := by
  have hgreater : (!((filters.lookup "after").isSome && (filters.lookup "before").isSome &&
      isGreater (filters.lookup "after") (filters.lookup "before"))) =
      !isGreater (filters.lookup "after") (filters.lookup "before") := by
    cases h : isGreater (filters.lookup "after") (filters.lookup "before") with
    | false => rw [Bool.and_false]
    | true =>
        obtain ⟨hafter, hbefore⟩ := isSome_of_isGreater h
        rw [hafter, hbefore]
        rfl
  rw [Http.parseAuditFilters, Broker.validAuditFilters, hgreater]
  have hsome (valid : Bool) (result : Json) :
      (if valid = true then some result else none).isSome = valid := by
    cases valid <;> rfl
  simp only [hsome, Http.hasExactKeys, Broker.exactKeys, Http.boundedOptionalString,
    Broker.optionalString, Broker.nonEmpty, List.all_cons, List.all_nil, Bool.and_true,
    Broker.auditKinds, Broker.auditStatuses, Bool.and_assoc]

/-- The filters with the default limit. -/
lemma validAuditFilters_limit {filters : JsonFields}
    (h : Broker.validAuditFilters (.object filters) = true) :
    Broker.validAuditFilters (.object (writeField filters "limit"
      ((filters.lookup "limit").getD (.number "100")))) = true := by
  have hlimit : (writeField filters "limit" ((filters.lookup "limit").getD (.number "100"))).lookup
      "limit" = some ((filters.lookup "limit").getD (.number "100")) := by
    rw [lookup_writeField, if_pos rfl]
  have hread : ∀ name ∈ ["agent", "session", "run", "kind", "status", "direction", "channel",
      "after", "before", "cursor"], (writeField filters "limit"
        ((filters.lookup "limit").getD (.number "100"))).lookup name = filters.lookup name := by
    intro name hname
    rw [lookup_writeField, if_neg]
    rintro rfl
    exact absurd hname (by decide)
  simp only [Broker.validAuditFilters, Broker.optionalString, List.all_cons, List.all_nil,
    Bool.and_true, Bool.and_eq_true, and_assoc] at h
  obtain ⟨hkeys, hagent, hsession, hrun, hchannel, hcursor, hkind, hstatus, hdirection, hafter,
    hbefore, hlimitIn, hrest⟩ := h
  have hkeys' : Broker.exactKeys (writeField filters "limit"
      ((filters.lookup "limit").getD (.number "100"))) ["agent", "session", "run", "kind", "status",
        "direction", "channel", "after", "before", "limit", "cursor"] = true :=
    namesIn_writeField hkeys (by decide)
  have hdefault : isIntegerIn 1 500 (some ((filters.lookup "limit").getD (.number "100"))) = true := by
    cases hvalue : filters.lookup "limit" with
    | none => decide
    | some value =>
        rw [hvalue] at hlimitIn
        exact hlimitIn
  generalize writeField filters "limit" ((filters.lookup "limit").getD (.number "100")) = written
    at hlimit hread hkeys' ⊢
  simp only [List.forall_mem_cons, List.not_mem_nil, false_imp_iff, implies_true, and_true] at hread
  obtain ⟨h₁, h₂, h₃, h₄, h₅, h₆, h₇, h₈, h₉, h₁₀⟩ := hread
  simp only [Broker.validAuditFilters, Broker.optionalString, List.all_cons, List.all_nil,
    Bool.and_true, Bool.and_eq_true, and_assoc, h₁, h₂, h₃, h₄, h₅, h₆, h₇, h₈, h₉, h₁₀, hlimit,
    hdefault, Bool.or_true]
  exact ⟨hkeys', hagent, hsession, hrun, hchannel, hcursor, hkind, hstatus, hdirection, hafter,
    hbefore, hrest⟩

/-- The filters that the HTTP server admits are valid for the operator client. -/
lemma valid_of_parseAuditFilters {filters : JsonFields} {admitted : Json}
    (h : Http.parseAuditFilters (.object filters) = some admitted) :
    Broker.validAuditFilters admitted = true := by
  have hvalid : Broker.validAuditFilters (.object filters) = true := by
    rw [← parseAuditFilters_isSome, h]
    rfl
  rw [Http.parseAuditFilters] at h
  split at h
  · obtain rfl := Option.some.inj h
    exact validAuditFilters_limit hvalid
  · cases h

/-- **The gates agree.** A page that the broker passes on is read from its text by the web app, and
is accepted there as it is. The HTTP server admits the filters that the operator client accepts,
which accepts them again with the default limit. -/
theorem audit_gates_agree (canonical : List Char → String) :
    (∀ (value page : Json) (limit : ℕ), value.Ok canonical →
        Broker.projectAuditPage value limit = some page →
        ((jsonParse canonical page.print).bind (Web.parseAuditActivityPage · limit)) = some page) ∧
      ∀ filters : JsonFields,
        ((Http.parseAuditFilters (.object filters)).isSome =
          Broker.validAuditFilters (.object filters)) ∧
        ∀ admitted, Http.parseAuditFilters (.object filters) = some admitted →
          Broker.validAuditFilters admitted = true := by
  constructor
  · intro value page limit hvalue h
    rw [jsonParse_print (ok_projectAuditPage hvalue h), Option.bind_some]
    exact parseAuditActivityPage_projectAuditPage h
  · intro filters
    exact ⟨parseAuditFilters_isSome filters, fun _ => valid_of_parseAuditFilters⟩

/-- An event as the gateway sends it. -/
def sampleEvent : JsonFields :=
  [("eventType", .string "agent_run"), ("schemaVersion", .number "1"), ("eventId", .string "e-1"),
    ("sequence", .number "7"), ("sourceSequence", .number "3"), ("occurredAt", .number "1500"),
    ("kind", .string "agent_run"), ("action", .string "agent.run.finished"),
    ("status", .string "failed"),
    ("actor", .object [("type", .string "agent"), ("id", .string "a-1")]),
    ("redaction", .string "metadata_only"), ("agentId", .string "a-1"), ("runId", .string "r-1"),
    ("errorCode", .string "run_failed")]

/-- The page of that event. -/
def samplePage : Json := .object [("events", .array [.object sampleEvent])]

theorem audit_gates_agree_sample : ((jsonParse String.ofList (Json.object [("events",
    .array [.object (pick sampleEvent Broker.agentRunNames)])]).print).bind
      (Web.parseAuditActivityPage · 100)) =
    some (.object [("events", .array [.object (pick sampleEvent Broker.agentRunNames)])]) :=
  (audit_gates_agree String.ofList).1 samplePage _ 100
    (by simp [samplePage, sampleEvent, Json.Ok, ItemsOk, FieldsOk, FieldOk]; decide) rfl

end Opzava.GatewayBroker.AuditGates
