import Opzava.Library.EventMachine
import Opzava.GatewayBroker.Streams

/-!
The operator client (`acl/openclaw/operator-client.ts`) as a machine of its events.

The client owns the sockets it has opened, one connect loop at a time, the requests that wait for a
response, and the streams of its calls. Its handlers run to their end without a break; what a call
does after an `await` is an event of its own, which may happen at any later time.

* `Connection`, `Rpc`, `OperatorClient`: the state.
* `connectStep`, `handleHandshakeFrame`, `handleResponse`, `resume`: the handlers.
* `clientStep`: the client after an event.
-/

namespace Opzava.GatewayBroker

open Opzava.Library

/-! ### State -/

/-- A socket of `connectOnce`: how the attempt settled, whether the handshake is complete and with
which payload, whether the client has closed it, and whether it has reported its close. -/
structure Socket where
  outcome : Option (Except BrokerError Unit) := none
  handshakeComplete : Bool := false
  hello : Option HelloOk := none
  closedByClient : Bool := false
  ended : Bool := false

/-- Where `connectWithinBudget` is: it waits for an attempt, or for its sleep, or has returned. -/
inductive LoopPhase
  | attempting (socket : ℕ)
  | sleeping (lastError : BrokerError)
  | finished

/-- The promise of `reconnectInFlight`. -/
structure ConnectLoop where
  number : ℕ
  startedAt : ℤ
  phase : LoopPhase

structure Connection where
  sockets : Objects Socket
  socket : Option ℕ
  connected : Bool
  shutdown : Bool
  loop : Option ConnectLoop
  loops : ℕ
  loopResults : List (ℕ × Except BrokerError Unit)
  maxPayload : JsValue
  advertisedMethods : List String

/-- The requests. `sent`, `settled` and `answered` are the ids that were ever given to a request,
how each promise was settled, and the ids of the responses that were handled. -/
structure Rpc where
  requestSequence : ℕ
  pending : OrderedMap String String
  respondedIds : List String
  sent : List String
  settled : List (String × Except BrokerError JsValue)
  answered : List String

structure StartAssistantStreamInput where
  tenantId : String
  assistantKey : String
  conversationId : String
  turnId : String
  prompt : String
  idempotencyKey : String
  sessionRef : Option String

/-- The canonical session key. -/
def StartAssistantStreamInput.sessionKey (input : StartAssistantStreamInput) : String :=
  let rawSessionKey := input.sessionRef.getD input.conversationId
  if jsStartsWith rawSessionKey "agent:" then rawSessionKey
  else "agent:" ++ input.assistantKey ++ ":" ++ rawSessionKey

inductive CallKind
  | startAssistantStream (input : StartAssistantStreamInput)
  | getEffectiveTools (sessionKey : String)
  | auditActivityList (params : JsRecord)
  | ensureConnected

/-- What a call that awaits the connection has: the result, or the loop it waits for. -/
inductive ConnectWait
  | ready (result : Except BrokerError Unit)
  | loop (number : ℕ)

/-- What a call that awaits a request has. -/
inductive RequestWait
  | ready (result : Except BrokerError JsValue)
  | pending (id : String)

structure Receipt where
  sessionRef : String
  runRef : String

/-- The `await` a call is at. `force` and `again` tell the second round, after a session that was
not found, from the first. -/
inductive CallPoint
  | connecting (wait : ConnectWait)
  | creating (force : Bool) (wait : RequestWait)
  | created (force : Bool) (result : Except BrokerError Unit)
  | sending (again : Bool) (wait : RequestWait)
  | requesting (wait : RequestWait)
  | returned (result : Except BrokerError (Option Receipt))
  | thrown

structure Call where
  kind : CallKind
  point : CallPoint

/-- The client. A stream has the number of the call that has started it. -/
structure OperatorClient where
  connection : Connection
  rpc : Rpc
  table : StreamTable
  createdSessionKeys : List String
  calls : Objects Call
  failConnections : ℕ

structure ClientOptions where
  tenantId : String
  pairedDevice : Bool
  connectBudgetMs : ℤ
  texts : GatewayTexts

def OperatorClient.initial : OperatorClient where
  connection :=
    { sockets := .empty
      socket := none
      connected := false
      shutdown := false
      loop := none
      loops := 0
      loopResults := []
      maxPayload := .nat (25 * 1024 * 1024)
      advertisedMethods := [] }
  rpc := ⟨0, .empty, [], [], [], []⟩
  table := .initial
  createdSessionKeys := []
  calls := .empty
  failConnections := 0

/-! ### Errors -/

def connectionClosed : BrokerError :=
  { code := "gatewayBroker.connectionClosed", message := "OpenClaw connection closed." }

def notOpen : BrokerError :=
  { code := "gatewayBroker.connectionClosed", message := "OpenClaw connection is not open." }

def notSent : BrokerError :=
  { code := "gatewayBroker.connectionClosed", message := "Gateway request could not be sent." }

def closedDuringHandshake : BrokerError :=
  { code := "gatewayBroker.connectionClosed"
    message := "OpenClaw connection closed during handshake." }

def authModeForbidden : BrokerError :=
  { code := "gatewayBroker.authModeForbidden"
    message := "Gateway broker hot path requires paired-device auth." }

def outsideBudget : BrokerError :=
  { code := "gatewayBroker.gatewayUnavailable"
    message := "OpenClaw Gateway did not become available inside the connection budget." }

def socketFailed : BrokerError :=
  { code := "gatewayBroker.gatewayUnavailable", message := "OpenClaw Gateway socket failed." }

def challengeTimedOut : BrokerError :=
  { code := "gatewayBroker.connectChallengeTimeout"
    message := "OpenClaw Gateway did not send connect.challenge in time." }

def signatureFailed : BrokerError :=
  { code := "gatewayBroker.deviceSignatureFailed"
    message := "Broker device keypair failed to sign the OpenClaw challenge." }

def invalidFrame (message : String) : BrokerError :=
  { code := "gatewayBroker.invalidFrame", message := message }

def requestTimedOut : BrokerError :=
  { code := "gatewayBroker.requestTimeout", message := "Gateway request timed out." }

def missingIdempotencyKey : BrokerError :=
  { code := "gatewayBroker.missingIdempotencyKey"
    message := "Side-effecting Gateway methods require an idempotency key." }

def duplicateResponse : BrokerError :=
  { code := "gatewayBroker.duplicateResponse", message := "Gateway sent a duplicate response." }

def unknownResponse : BrokerError :=
  { code := "gatewayBroker.unknownResponse", message := "Gateway sent an unknown response id." }

def tenantMismatch : BrokerError :=
  { code := "gatewayBroker.tenantMismatch"
    message := "Gateway route tenant does not match the authenticated principal." }

def sessionBusy (sessionKey : String) : BrokerError :=
  { code := "gatewayBroker.sessionBusy"
    message := "OpenClaw session " ++ sessionKey ++ " already has an active assistant turn."
    details := [("sessionKey", .string sessionKey)] }

def auditUnsupported : BrokerError :=
  { code := "gatewayBroker.auditUnsupported"
    message := "OpenClaw Gateway does not advertise audit activity." }

/-! ### Sockets -/

namespace Connection

/-- The socket of a new attempt. -/
def openSocket (connection : Connection) (loop : ConnectLoop) : Connection :=
  { connection with
    sockets := connection.sockets.add {}
    loop := some { loop with phase := .attempting connection.sockets.next } }

/-- `connectWithinBudget` returns. -/
def finishLoop (connection : Connection) (loop : ConnectLoop) (result : Except BrokerError Unit) :
    Connection :=
  { connection with
    loop := some { loop with phase := .finished }
    loopResults := connection.loopResults ++ [(loop.number, result)] }

/-- `ensureConnected` up to its await, and what it waits for. -/
def ensureConnected (options : ClientOptions) (connection : Connection) (now : ℤ) :
    ConnectWait × Connection :=
  if options.pairedDevice = false then (.ready (.error authModeForbidden), connection)
  else if connection.connected then (.ready (.ok ()), connection)
  else
    match connection.loop with
    | some loop => (.loop loop.number, connection)
    | none =>
        let loop : ConnectLoop := ⟨connection.loops, now, .finished⟩
        let started := { connection with loops := connection.loops + 1 }
        if connection.shutdown ∨ options.connectBudgetMs < 0 then
          (.loop loop.number, started.finishLoop loop (.error outsideBudget))
        else (.loop loop.number, started.openSocket loop)

/-- `connectWithinBudget` after its attempt has settled. -/
def connectStep (options : ClientOptions) (connection : Connection) (now : ℤ) : Connection :=
  match connection.loop with
  | none => connection
  | some loop =>
      match loop.phase with
      | .attempting n =>
          match (connection.sockets.get n).bind (·.outcome) with
          | none => connection
          | some (.ok _) => connection.finishLoop loop (.ok ())
          | some (.error error) =>
              if connection.shutdown then connection.finishLoop loop (.error error)
              else
                match error.retryAfterMs with
                | none => connection.finishLoop loop (.error error)
                | some retryAfter =>
                    if error.code ≠ "gatewayBroker.gatewayUnavailable" ∨
                        options.connectBudgetMs < now - loop.startedAt + retryAfter then
                      connection.finishLoop loop (.error error)
                    else { connection with loop := some { loop with phase := .sleeping error } }
      | _ => connection

/-- `connectWithinBudget` after its sleep. -/
def wake (options : ClientOptions) (connection : Connection) (now : ℤ) : Connection :=
  match connection.loop with
  | none => connection
  | some loop =>
      match loop.phase with
      | .sleeping lastError =>
          if connection.shutdown ∨ options.connectBudgetMs < now - loop.startedAt then
            connection.finishLoop loop (.error lastError)
          else connection.openSocket loop
      | _ => connection

/-- The `finally` of `ensureConnected`. -/
def connectFinally (connection : Connection) : Connection :=
  match connection.loop with
  | some ⟨_, _, .finished⟩ => { connection with loop := none }
  | _ => connection

/-- `settle` of an attempt. -/
def settle (connection : Connection) (n : ℕ) (result : Except BrokerError Unit) : Connection :=
  { connection with
    sockets := connection.sockets.modify n fun socket =>
      if socket.outcome.isSome then socket
      else
        { socket with
          outcome := some result
          closedByClient := socket.closedByClient || !result.isOk } }

/-- The handshake of a socket is complete, whether or not its attempt has settled before. -/
def completeHandshake (connection : Connection) (n : ℕ) (hello : HelloOk) : Connection :=
  { connection with
    socket := some n
    connected := true
    maxPayload := hello.maxPayload
    advertisedMethods := hello.methods
    sockets := connection.sockets.modify n fun socket =>
      { socket with
        handshakeComplete := true
        hello := some hello } }.settle n (.ok ())

/-- `handleHandshakeFrame` up to the signature of a challenge. -/
def handleHandshakeFrame (texts : GatewayTexts) (connection : Connection) (n : ℕ) (frame : Frame) :
    Connection :=
  if isConnectChallenge frame then connection
  else
    match frame with
    | .res id ok payload error =>
        if jsStartsWith id "connect:" = false then
          connection.settle n (.error (invalidFrame "Unexpected handshake frame."))
        else if ok = false then
          match texts.retryAfterMs error with
          | none => connection.settle n (.error (texts.errorFromGatewayPayload error))
          | some retryMs =>
              connection.settle n (.error
                { code := "gatewayBroker.gatewayUnavailable"
                  message := "OpenClaw Gateway startup sidecars are not ready."
                  details := (texts.errorFromGatewayPayload error).details
                  retryAfterMs := some retryMs })
        else
          match helloOk? payload with
          | none => connection.settle n (.error (invalidFrame "Invalid hello-ok payload."))
          | some hello =>
              match acceptHelloOk hello with
              | .error error => connection.settle n (.error error)
              | .ok _ => connection.completeHandshake n hello
    | _ => connection.settle n (.error (invalidFrame "Unexpected handshake frame."))

/-- `this.socket?.close(); this.socket = undefined` of a client that is no longer connected. -/
def dropSocket (connection : Connection) : Connection :=
  { connection with
    connected := false
    socket := none
    sockets := match connection.socket with
      | some n => connection.sockets.modify n fun socket => { socket with closedByClient := true }
      | none => connection.sockets }

end Connection

/-! ### Requests -/

namespace Rpc

/-- The promise of a request is settled. -/
def settle (rpc : Rpc) (id : String) (result : Except BrokerError JsValue) : Rpc :=
  { rpc with
    pending := rpc.pending.delete id
    settled := rpc.settled ++ [(id, result)] }

/-- `rejectPending`. -/
def rejectPending (rpc : Rpc) (error : BrokerError) : Rpc :=
  { rpc with
    pending := .empty
    settled := rpc.settled ++ rpc.pending.entries.map fun entry => (entry.1, .error error) }

/-- A promise that is settled from outside while it waits; a timer that was cleared and a promise
that was settled before do nothing. -/
def settlePending (rpc : Rpc) (id : String) (result : Except BrokerError JsValue) : Rpc :=
  if rpc.pending.has id then rpc.settle id result else rpc

end Rpc

namespace OperatorClient

/-- `request`: what the caller waits for, and the client. `sideEffect` is the idempotency key of a
method that has one. -/
def request (texts : GatewayTexts) (client : OperatorClient) (method : String) (params : JsRecord)
    (sideEffect : Option String) : RequestWait × OperatorClient :=
  if sideEffect.any (fun key => (stringValue (.string key)).isNone) then
    (.ready (.error missingIdempotencyKey), client)
  else if client.connection.connected = false ∨ client.connection.socket = none then
    (.ready (.error notOpen), client)
  else
    let params := JsRecord.spread params (match sideEffect with
      | some key => [("idempotencyKey", .string key)]
      | none => [])
    let id := method ++ ":" ++ toString client.rpc.requestSequence
    let numbered := { client.rpc with requestSequence := client.rpc.requestSequence + 1 }
    if texts.isTooLarge client.connection.maxPayload id params then
      (.ready (.error (invalidFrame "Gateway request is too large.")), { client with rpc := numbered })
    else
      (.pending id,
        { client with
          rpc := { numbered with
            pending := client.rpc.pending.set id method
            sent := client.rpc.sent ++ [id] } })

/-- The client without its connection: the pending requests and the active streams fail. -/
def teardown (texts : GatewayTexts) (client : OperatorClient) (error : BrokerError) :
    OperatorClient :=
  { client with
    rpc := client.rpc.rejectPending error
    table := client.table.failActiveStreams error.code
      (texts.sanitizeText error.message error.message)
    createdSessionKeys := [] }

/-- `failConnection`. -/
def failConnection (texts : GatewayTexts) (client : OperatorClient) (error : BrokerError) :
    OperatorClient :=
  { client.teardown texts error with
    connection := client.connection.dropSocket
    failConnections := client.failConnections + 1 }

/-- `disconnect`. -/
def disconnect (texts : GatewayTexts) (client : OperatorClient) : OperatorClient :=
  { client.teardown texts connectionClosed with
    connection := { client.connection.dropSocket with shutdown := true } }

/-- What a response settles its request with. -/
def responseResult (texts : GatewayTexts) (ok : Bool) (payload error : JsValue) :
    Except BrokerError JsValue :=
  if ok then .ok payload else .error (texts.errorFromGatewayPayload error)

/-- `handleResponse`. -/
def handleResponse (texts : GatewayTexts) (client : OperatorClient) (id : String) (ok : Bool)
    (payload error : JsValue) : OperatorClient :=
  let answered := { client with
    rpc := { client.rpc with answered := client.rpc.answered ++ [id] } }
  if id ∈ client.rpc.respondedIds then answered.failConnection texts duplicateResponse
  else if client.rpc.pending.has id = false then answered.failConnection texts unknownResponse
  else
    { client with
      rpc := { answered.rpc with
        respondedIds := client.rpc.respondedIds ++ [id] }.settle id
          (responseResult texts ok payload error) }

/-- `handleEvent`; a handler that throws has changed nothing. -/
def handleEvent (texts : GatewayTexts) (client : OperatorClient) (name : String)
    (payload : JsValue) : OperatorClient :=
  if isAllowedEventFamily name = false then client
  else if name = "chat" ∨ name = "session.message" then
    match client.table.handleStreamEvent texts payload with
    | some table => { client with table := table }
    | none => client
  else if name = "exec.approval.requested" then
    { client with table := client.table.handleApprovalEvent payload }
  else client

/-- `handleFrame`. -/
def handleFrame (texts : GatewayTexts) (client : OperatorClient) (frame : Frame) :
    OperatorClient :=
  match frame with
  | .res id ok payload error => client.handleResponse texts id ok payload error
  | .event name payload => client.handleEvent texts name payload
  | .req => client

/-! ### Calls -/

/-- A call that is made, with the `await` it is at. -/
def addCall (client : OperatorClient) (kind : CallKind) (point : CallPoint) : OperatorClient :=
  { client with calls := client.calls.add ⟨kind, point⟩ }

/-- A call goes on to an `await`, or to its end. -/
def setPoint (client : OperatorClient) (c : ℕ) (point : CallPoint) : OperatorClient :=
  { client with
    calls := client.calls.modify c fun call => { call with point := point } }

/-- A call that begins with `await this.ensureConnected()`. -/
def connectCall (options : ClientOptions) (client : OperatorClient) (kind : CallKind) (now : ℤ) :
    OperatorClient :=
  let (wait, connection) := client.connection.ensureConnected options now
  { client with connection := connection }.addCall kind (.connecting wait)

/-- `handleSocketClosed`, with the reconnect in the background. -/
def handleSocketClosed (options : ClientOptions) (client : OperatorClient) (now : ℤ) :
    OperatorClient :=
  let closed := { client.teardown options.texts connectionClosed with
    connection := { client.connection with
      connected := false
      socket := none } }
  if client.connection.shutdown then closed else closed.connectCall options .ensureConnected now

/-- `startAssistantStream` up to its first `await`: the stream is registered at once. -/
def startAssistantStream (options : ClientOptions) (client : OperatorClient)
    (input : StartAssistantStreamInput) (now : ℤ) : OperatorClient :=
  let kind := CallKind.startAssistantStream input
  if input.tenantId ≠ options.tenantId then
    client.addCall kind (.returned (.error tenantMismatch))
  else if client.table.activeStreams.has input.sessionKey then
    client.addCall kind (.returned (.error (sessionBusy input.sessionKey)))
  else
    { client with
      table := client.table.register client.calls.next input.sessionKey input.turnId }.connectCall
        options kind now

/-- The result of the connection a call waits for. -/
def connectResult (client : OperatorClient) : ConnectWait → Option (Except BrokerError Unit)
  | .ready result => some result
  | .loop number =>
      (client.connection.loopResults.find? fun entry => entry.1 = number).map Prod.snd

/-- The result of the request a call waits for. -/
def requestResult (client : OperatorClient) : RequestWait → Option (Except BrokerError JsValue)
  | .ready result => some result
  | .pending id => (client.rpc.settled.find? fun entry => entry.1 = id).map Prod.snd

/-- A stream that could not be started. -/
def abandonStream (client : OperatorClient) (c : ℕ) (input : StartAssistantStreamInput)
    (error : BrokerError) : OperatorClient :=
  { client with
    table := client.table.closeActiveStream input.sessionKey c }.setPoint c
      (.returned (.error error))

/-- `ensureSessionCreated` up to its `await`. -/
def ensureSessionCreated (texts : GatewayTexts) (client : OperatorClient) (c : ℕ)
    (input : StartAssistantStreamInput) (force : Bool) : OperatorClient :=
  if force = false ∧ input.sessionKey ∈ client.createdSessionKeys then
    client.setPoint c (.created force (.ok ()))
  else
    let (wait, client) := client.request texts "sessions.create"
      [("key", .string input.sessionKey), ("agentId", .string input.assistantKey)] none
    client.setPoint c (.creating force wait)

/-- The result of `ensureSessionCreated` from the response to `sessions.create`. -/
def createResult (texts : GatewayTexts) (response : Except BrokerError JsValue) :
    Except BrokerError Unit :=
  match response with
  | .error error => if texts.isAlreadyExistsError error then .ok () else .error error
  | .ok value =>
      let fields := (recordValue value).getD []
      match JsRecord.read fields "ok" with
      | .boolean false =>
          let message := (stringValue (JsRecord.read fields "message")).getD
            ((stringValue (JsRecord.read fields "error")).getD
              "OpenClaw Gateway rejected session creation.")
          let code := (stringValue (JsRecord.read fields "code")).getD "gatewayBroker.requestFailed"
          let error : BrokerError :=
            { code := "gatewayBroker.requestFailed"
              message := message
              details := [("code", .string code), ("message", .string message)] }
          if texts.isAlreadyExistsError error then .ok () else .error error
      | _ => .ok ()

/-- `ensureSessionCreated` after its `await`. -/
def sessionCreated (texts : GatewayTexts) (client : OperatorClient) (c : ℕ)
    (input : StartAssistantStreamInput) (force : Bool) (response : Except BrokerError JsValue) :
    OperatorClient :=
  match createResult texts response with
  | .ok _ =>
      { client with
        createdSessionKeys := client.createdSessionKeys.insert input.sessionKey }.setPoint c
          (.created force (.ok ()))
  | .error error => client.setPoint c (.created force (.error error))

/-- `sendSessionMessage` up to its `await`. -/
def sendSessionMessage (texts : GatewayTexts) (client : OperatorClient) (c : ℕ)
    (input : StartAssistantStreamInput) (again : Bool) : OperatorClient :=
  let (wait, client) := client.request texts "sessions.send"
    [("key", .string input.sessionKey), ("agentId", .string input.assistantKey),
      ("message", .string input.prompt)] (some input.idempotencyKey)
  client.setPoint c (.sending again wait)

/-- The session key a response to `sessions.send` names. -/
def responseSessionKey (payload : JsValue) (sessionKey : String) : String :=
  let fields := (recordValue payload).getD []
  (stringValue (JsRecord.read fields "key")).getD
    ((stringValue (JsRecord.read fields "sessionKey")).getD sessionKey)

/-- The run a response to `sessions.send` names. -/
def responseRunId (payload : JsValue) (idempotencyKey : String) : String :=
  (stringValue (JsRecord.read ((recordValue payload).getD []) "runId")).getD
    ("run:" ++ idempotencyKey)

/-- `startAssistantStream` after a response to `sessions.send`: the stream is bound to its run and
moved, what was held back is handled, and the call returns. -/
def streamStarted (texts : GatewayTexts) (client : OperatorClient) (c : ℕ)
    (input : StartAssistantStreamInput) (payload : JsValue) : OperatorClient :=
  let key := responseSessionKey payload input.sessionKey
  let runId := responseRunId payload input.idempotencyKey
  let (table, flushed) :=
    (client.table.bindRun c input.sessionKey key runId).flushPendingStreamEvents texts key c
  let client := { client with table := table }
  if flushed then
    let (_, client) := client.request texts "sessions.messages.subscribe"
      [("key", .string key), ("agentId", .string input.assistantKey)] none
    client.setPoint c (.returned (.ok (some ⟨externalRef key, externalRef runId⟩)))
  else client.setPoint c .thrown

/-- `startAssistantStream` after an `await`. -/
def resumeStream (texts : GatewayTexts) (client : OperatorClient) (c : ℕ)
    (input : StartAssistantStreamInput) (point : CallPoint) : OperatorClient :=
  match point with
  | .connecting wait =>
      match client.connectResult wait with
      | none => client
      | some (.error error) => client.abandonStream c input error
      | some (.ok _) =>
          { client with
            table := client.table.pushQueued c }.ensureSessionCreated texts c input false
  | .creating force wait =>
      match client.requestResult wait with
      | none => client
      | some response => client.sessionCreated texts c input force response
  | .created force result =>
      match result with
      | .error error => client.abandonStream c input error
      | .ok _ => client.sendSessionMessage texts c input force
  | .sending again wait =>
      match client.requestResult wait with
      | none => client
      | some (.ok payload) => client.streamStarted texts c input payload
      | some (.error error) =>
          if again = false ∧ texts.isSessionNotFoundError error then
            { client with
              createdSessionKeys := client.createdSessionKeys.filter (· ≠ input.sessionKey)
              }.ensureSessionCreated texts c input true
          else client.abandonStream c input error
  | _ => client

/-- `getEffectiveTools` and `auditActivityList` after an `await`, up to the reading of the answer;
`check` is what is asked of the connection. -/
def resumePlain (texts : GatewayTexts) (client : OperatorClient) (c : ℕ) (method : String)
    (params : JsRecord) (check : Option BrokerError) (point : CallPoint) : OperatorClient :=
  match point with
  | .connecting wait =>
      match client.connectResult wait, check with
      | none, _ => client
      | some (.error error), _ => client.setPoint c (.returned (.error error))
      | some (.ok _), some error => client.setPoint c (.returned (.error error))
      | some (.ok _), none =>
          let (wait, client) := client.request texts method params none
          client.setPoint c (.requesting wait)
  | .requesting wait =>
      match client.requestResult wait with
      | none => client
      | some result => client.setPoint c (.returned (result.map fun _ => none))
  | _ => client

/-- A call goes on after its `await`. -/
def resume (texts : GatewayTexts) (client : OperatorClient) (c : ℕ) : OperatorClient :=
  match client.calls.get c with
  | none => client
  | some call =>
      match call.kind with
      | .startAssistantStream input => client.resumeStream texts c input call.point
      | .getEffectiveTools sessionKey =>
          client.resumePlain texts c "tools.effective" [("sessionKey", .string sessionKey)] none
            call.point
      | .auditActivityList params =>
          client.resumePlain texts c "audit.activity.list" params
            (if "audit.activity.list" ∈ client.connection.advertisedMethods then none
              else some auditUnsupported) call.point
      | .ensureConnected =>
          match call.point with
          | .connecting wait =>
              match client.connectResult wait with
              | none => client
              | some result => client.setPoint c (.returned (result.map fun _ => none))
          | _ => client

end OperatorClient

/-! ### Events -/

/-- What happens to a client: a call is made or goes on after an `await`; a socket gives a message
(`none` when it is no frame), reports its close or an error; the signature of a challenge fails; a
timer fires; a request could not be sent; the connect loop goes on; `disconnect` is called; a
consumer asks for the next event of a stream. -/
inductive ClientEvent
  | startAssistantStream (input : StartAssistantStreamInput) (now : ℤ)
  | getEffectiveTools (sessionKey : String) (now : ℤ)
  | auditActivityList (params : JsRecord) (now : ℤ)
  | ensureConnected (now : ℤ)
  | resume (call : ℕ)
  | message (socket : ℕ) (frame : Option Frame)
  | close (socket : ℕ) (now : ℤ)
  | error (socket : ℕ)
  | signFailed (socket : ℕ)
  | challengeTimeout (socket : ℕ)
  | requestTimeout (id : String)
  | sendFailed (id : String)
  | connectStep (now : ℤ)
  | wake (now : ℤ)
  | connectFinally
  | disconnect
  | next (stream : ℕ)

namespace OperatorClient

/-- A message of a socket. A text that is no frame settles the attempt, and nothing else. -/
def handleMessage (texts : GatewayTexts) (client : OperatorClient) (n : ℕ) (frame : Option Frame) :
    OperatorClient :=
  match client.connection.sockets.get n with
  | none => client
  | some socket =>
      if socket.ended then client
      else
        match frame with
        | none =>
            { client with
              connection := client.connection.settle n
                (.error (invalidFrame "Invalid Gateway frame.")) }
        | some frame =>
            if socket.handshakeComplete then client.handleFrame texts frame
            else
              { client with
                connection := client.connection.handleHandshakeFrame texts n frame }

/-- The close of a socket. -/
def handleClose (options : ClientOptions) (client : OperatorClient) (n : ℕ) (now : ℤ) :
    OperatorClient :=
  match client.connection.sockets.get n with
  | none => client
  | some socket =>
      if socket.ended then client
      else
        let client := { client with
          connection := { client.connection with
            sockets := client.connection.sockets.modify n fun socket =>
              { socket with ended := true } } }
        if socket.handshakeComplete then client.handleSocketClosed options now
        else
          { client with
            connection := client.connection.settle n (.error closedDuringHandshake) }

/-- An attempt that fails. -/
def failAttempt (client : OperatorClient) (n : ℕ) (error : BrokerError) : OperatorClient :=
  { client with connection := client.connection.settle n (.error error) }

end OperatorClient

/-- The client after an event. -/
def clientStep (options : ClientOptions) (client : OperatorClient) : ClientEvent → OperatorClient
  | .startAssistantStream input now => client.startAssistantStream options input now
  | .getEffectiveTools sessionKey now =>
      client.connectCall options (.getEffectiveTools sessionKey) now
  | .auditActivityList params now => client.connectCall options (.auditActivityList params) now
  | .ensureConnected now => client.connectCall options .ensureConnected now
  | .resume c => client.resume options.texts c
  | .message n frame => client.handleMessage options.texts n frame
  | .close n now => client.handleClose options n now
  | .error n => client.failAttempt n socketFailed
  | .signFailed n => client.failAttempt n signatureFailed
  | .challengeTimeout n => client.failAttempt n challengeTimedOut
  | .requestTimeout id =>
      { client with rpc := client.rpc.settlePending id (.error requestTimedOut) }
  | .sendFailed id => { client with rpc := client.rpc.settlePending id (.error notSent) }
  | .connectStep now => { client with connection := client.connection.connectStep options now }
  | .wake now => { client with connection := client.connection.wake options now }
  | .connectFinally => { client with connection := client.connection.connectFinally }
  | .disconnect => client.disconnect options.texts
  | .next stream => { client with table := client.table.next stream }

/-- The client as a machine. -/
def clientMachine (options : ClientOptions) : EventMachine OperatorClient ClientEvent :=
  ⟨clientStep options⟩

/-! ### A sample client -/

/-- A client whose texts are passed on as they are. -/
def sampleClientOptions : ClientOptions where
  tenantId := "t1"
  pairedDevice := true
  connectBudgetMs := 10000
  texts :=
    { sanitizeText := fun text _ => text
      stringOf := fun _ => none
      sanitizedStreamCode := fun _ fallback => fallback
      errorFromGatewayPayload := fun _ =>
        { code := "gatewayBroker.requestFailed", message := "OpenClaw Gateway request failed." }
      retryAfterMs := fun _ => none
      isAlreadyExistsError := fun _ => false
      isSessionNotFoundError := fun _ => false
      isTooLarge := fun _ _ _ => false }

/-- A `hello-ok` frame the client accepts. -/
def sampleHello : Frame :=
  .res "connect:r1" true (.object [("type", .string "hello-ok"), ("protocol", .number "4"),
    ("server", .object []),
    ("features", .object [("methods", .array []), ("events", .array [])]),
    ("auth", .object [("role", .string "operator"),
      ("scopes", .array [.string "operator.write", .string "operator.approvals"])]),
    ("policy", .object [("maxPayload", .number "1048576"), ("maxBufferedBytes", .number "1048576"),
      ("tickIntervalMs", .number "30000")])]) .undefined

/-- A client connects. -/
def connectedRun : List ClientEvent :=
  [.ensureConnected 0, .message 0 (some sampleHello), .connectStep 0, .connectFinally]

end Opzava.GatewayBroker
