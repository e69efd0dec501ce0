import Opzava.Library.JavaScript

/-!
The wire protocol of the gateway (`openclaw-wire/src/protocol.ts`, `acl/openclaw/protocol.ts`)
and the events of an assistant stream.

* `Frame`: the frames `parseOpenClawFrame` accepts.
* `helloOk?`, `acceptHelloOk`: the check of a `hello-ok` payload.
* `StreamEvent`: what a stream gives to its consumer.
* `GatewayTexts`: the functions on texts that no result depends on.
-/

namespace Opzava.GatewayBroker

open Opzava.Library

/-! ### Values -/

/-- `stringValue`: a text that is not blank. -/
def stringValue (value : JsValue) : Option String :=
  match value with
  | .string s => if jsTrim s.toList = [] then none else some s
  | _ => none

/-- `recordValue`. -/
def recordValue (value : JsValue) : Option JsRecord :=
  match value with
  | .object fields => some fields
  | _ => none

/-- `Array.isArray(value)`, with the items. -/
def arrayValue (value : JsValue) : Option (List JsValue) :=
  match value with
  | .array items => some items
  | _ => none

/-- `value === undefined`. -/
def isUndefined (value : JsValue) : Bool :=
  match value with
  | .undefined => true
  | _ => false

/-- `value === true`. -/
def isJsTrue (value : JsValue) : Bool :=
  match value with
  | .boolean b => b
  | _ => false

/-- `typeof value === "number"`, with the number as the key of a `Set`. -/
def numberValue (value : JsValue) : Option String :=
  match value with
  | .number text => some text
  | .nonFinite => some "Infinity"
  | _ => none

/-- `textFromMessage`. -/
def textFromMessage (value : JsValue) : Option String :=
  match value with
  | .string s => some s
  | .object fields =>
      (stringValue (JsRecord.read fields "text")).orElse fun _ =>
        (stringValue (JsRecord.read fields "content")).orElse fun _ =>
          stringValue (JsRecord.read fields "message")
  | _ => none

/-- The value of an `OpaqueExternalRef`. -/
def externalRef (value : String) : String := String.ofList (jsTrim value.toList)

/-! ### Errors -/

/-- A `DomainError` of the broker, with the details that are read again. -/
structure BrokerError where
  code : String
  message : String
  details : JsRecord := []
  retryAfterMs : Option ℤ := none

/-- The functions on texts: `sanitizeFailureMessage` of a text, `String(value)` of a JSON value
(which may throw), `sanitizedStreamCode`, `errorFromGatewayPayload`, `retryAfterMs`, the two
classifications of an error by its text, and the length of a serialized request against the
policy. -/
structure GatewayTexts where
  sanitizeText : String → String → String
  stringOf : JsValue → Option String
  sanitizedStreamCode : JsValue → String → String
  errorFromGatewayPayload : JsValue → BrokerError
  retryAfterMs : JsValue → Option ℤ
  isAlreadyExistsError : BrokerError → Bool
  isSessionNotFoundError : BrokerError → Bool
  isTooLarge : JsValue → String → JsRecord → Bool

/-- `sanitizeFailureMessage` of a text that may be absent. -/
def sanitizeFailureText (texts : GatewayTexts) (raw : Option String) (fallback : String) : String :=
  match raw with
  | none => fallback
  | some text => texts.sanitizeText text fallback

/-- `sanitizeFailureMessage` of any value; it throws when the value has no text. -/
def sanitizeFailureMessage (texts : GatewayTexts) (raw : JsValue) (fallback : String) :
    Option String :=
  match raw with
  | .undefined => some fallback
  | .null => some fallback
  | raw => (texts.stringOf raw).map fun text => texts.sanitizeText text fallback

/-! ### Frames -/

/-- The frames the client reads. Of a request frame, which a gateway has no reason to send,
nothing is read. -/
inductive Frame
  | req
  | res (id : String) (ok : Bool) (payload error : JsValue)
  | event (name : String) (payload : JsValue)

/-- `isConnectChallenge`. -/
def isConnectChallenge (frame : Frame) : Bool :=
  match frame with
  | .event name payload =>
      name = "connect.challenge" ∧ (recordValue payload).any fun fields =>
        (stringValue (JsRecord.read fields "nonce")).isSome ∧
          (numberValue (JsRecord.read fields "ts")).isSome
  | _ => false

/-- The texts of a list of strings. -/
def stringItems? : List JsValue → Option (List String)
  | [] => some []
  | .string s :: rest => (stringItems? rest).map (s :: ·)
  | _ :: _ => none

/-- What is read of a `hello-ok` payload: the protocol as the text of its number, the role, the
scopes, the methods and the limit of a payload. -/
structure HelloOk where
  protocol : String
  role : JsValue
  scopes : List JsValue
  methods : List String
  maxPayload : JsValue

/-- `isHelloOkPayload`. -/
def helloOk? (payload : JsValue) : Option HelloOk := do
  let fields ← recordValue payload
  guard (stringValue (JsRecord.read fields "type") = some "hello-ok")
  let protocol ← numberValue (JsRecord.read fields "protocol")
  let _ ← recordValue (JsRecord.read fields "server")
  let features ← recordValue (JsRecord.read fields "features")
  let methods ← arrayValue (JsRecord.read features "methods")
  let methods ← stringItems? methods
  let events ← arrayValue (JsRecord.read features "events")
  let _ ← stringItems? events
  let auth ← recordValue (JsRecord.read fields "auth")
  let policy ← recordValue (JsRecord.read fields "policy")
  let scopes ← arrayValue (JsRecord.read auth "scopes")
  let _ ← numberValue (JsRecord.read policy "maxPayload")
  let _ ← numberValue (JsRecord.read policy "maxBufferedBytes")
  let _ ← numberValue (JsRecord.read policy "tickIntervalMs")
  guard (isUndefined (JsRecord.read fields "snapshot") ∨
    (recordValue (JsRecord.read fields "snapshot")).isSome)
  return ⟨protocol, JsRecord.read auth "role", scopes, methods, JsRecord.read policy "maxPayload"⟩

def expectedOperatorScopes : List String := ["operator.write", "operator.approvals"]

def allowedOperatorScopes : List String := expectedOperatorScopes ++ ["operator.read"]

/-- `hasExactExpectedScopes`. -/
def hasExactExpectedScopes (scopes : List JsValue) : Bool :=
  match stringItems? scopes with
  | some scopes =>
      scopes.Nodup ∧ (∀ scope ∈ expectedOperatorScopes, scope ∈ scopes) ∧
        ∀ scope ∈ scopes, scope ∈ allowedOperatorScopes
  | none => false

/-- `acceptHelloOk`: the protocol version is the one that is both the least and the greatest
supported one. -/
def acceptHelloOk (hello : HelloOk) : Except BrokerError Unit :=
  if hello.protocol ≠ "4" then
    .error
      { code := "gatewayBroker.protocolMismatch"
        message := "OpenClaw Gateway negotiated an unsupported protocol." }
  else
    match hello.role with
    | .string role =>
        if role = "operator" ∧ hasExactExpectedScopes hello.scopes then .ok ()
        else
          .error
            { code := "gatewayBroker.scopeMismatch"
              message := "OpenClaw Gateway returned scopes outside the broker hot-path contract." }
    | _ =>
        .error
          { code := "gatewayBroker.scopeMismatch"
            message := "OpenClaw Gateway returned scopes outside the broker hot-path contract." }

/-- `eventFamily`. -/
def eventFamily (name : String) : String := String.ofList (name.toList.takeWhile (· ≠ '.'))

/-- `isAllowedEventFamily`. -/
def isAllowedEventFamily (name : String) : Bool :=
  name = "connect.challenge" ∨ eventFamily name ∈ ["chat", "session", "exec", "plugin", "presence",
    "tick", "health", "heartbeat", "shutdown"]

/-! ### Stream events -/

/-- The events a stream of the broker holds. -/
inductive StreamEvent
  | queued (turnId : String)
  | delta (turnId deltaText : String)
  | toolCall (turnId toolCallId toolName : String) (args : JsRecord)
  | approvalRequested (turnId approvalRef summary : String)
  | final (turnId text sessionRef : String) (runRef : Option String)
  | failed (turnId : String) (code : JsValue) (message : String)

def StreamEvent.turnId : StreamEvent → String
  | .queued turnId => turnId
  | .delta turnId _ => turnId
  | .toolCall turnId _ _ _ => turnId
  | .approvalRequested turnId _ _ => turnId
  | .final turnId _ _ _ => turnId
  | .failed turnId _ _ => turnId

/-- The events that end a stream. -/
def StreamEvent.terminal : StreamEvent → Bool
  | .final _ _ _ _ => true
  | .failed _ _ _ => true
  | _ => false

end Opzava.GatewayBroker
