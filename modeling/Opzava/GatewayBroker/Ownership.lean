import Opzava.GatewayBroker.OperatorClient

/-!
Which socket the client belongs to.

The handlers of a socket stay attached when its attempt has failed or its connection was given up,
and write the fields of the client without asking whether the socket is still the client's own.

* `ConnectionOk`: the sockets, the field and the connect loop.
* `SoundSocketEvent`: an event of a socket that does not reach into the connection of another one.
* `connection_owned`: in every run of such events the client is connected with the socket of the
  last attempt that has succeeded, and no other socket changes it.
-/

namespace Opzava.GatewayBroker

open Opzava.Library

/-! ### The invariant -/

/-- What the phase of the connect loop says about the client: it is not connected while an attempt
has not succeeded, or while the loop sleeps. -/
def LoopPhase.Idle (phase : LoopPhase) (connection : Connection) : Prop :=
  match phase with
  | .attempting n => ∃ socket, connection.sockets.get n = some socket ∧
      (socket.outcome ≠ some (.ok ()) → connection.connected = false)
  | .sleeping _ => connection.connected = false
  | .finished => True

/-- The sockets of a client. The field is set while the client is connected; a handshake is complete
when its attempt has settled with success, with a payload that is accepted; a socket with a complete
handshake that is not closed is the one of the field, and the last such one; an attempt that has not
settled is the last one, and the connect loop waits for it. -/
structure ConnectionOk (connection : Connection) : Prop where
  field : connection.connected = connection.socket.isSome
  owner : ∀ n, connection.socket = some n → ∃ socket, connection.sockets.get n = some socket ∧
    socket.handshakeComplete = true
  complete : ∀ n socket, connection.sockets.get n = some socket →
    (socket.handshakeComplete = true ↔ socket.outcome = some (.ok ()))
  hello : ∀ n socket, connection.sockets.get n = some socket → socket.handshakeComplete = true →
    ∃ hello, socket.hello = some hello ∧ acceptHelloOk hello = .ok ()
  opens : ∀ n socket, connection.sockets.get n = some socket → socket.handshakeComplete = true →
    socket.closedByClient = false → socket.ended = false → connection.socket = some n
  latest : ∀ n m socket, connection.socket = some n → n < m →
    connection.sockets.get m = some socket → socket.handshakeComplete = false
  attempt : ∀ n socket, connection.sockets.get n = some socket → socket.outcome = none →
    n + 1 = connection.sockets.next ∧
      ∃ loop, connection.loop = some loop ∧ loop.phase = .attempting n
  loop : ∀ loop, connection.loop = some loop → loop.phase.Idle connection
  shutdown : connection.connected = true → connection.shutdown = false

/-- A socket later on: its handshake is what it was, and it is closed no less. -/
structure SocketKept (before after : Socket) : Prop where
  handshakeComplete : after.handshakeComplete = before.handshakeComplete
  hello : after.hello = before.hello
  closed : after.closedByClient = false → before.closedByClient = false
  ended : after.ended = false → before.ended = false
  succeeded : after.outcome = some (.ok ()) ↔ before.outcome = some (.ok ())
  unsettled : after.outcome = none → before.outcome = none

lemma SocketKept.refl (socket : Socket) : SocketKept socket socket :=
  ⟨rfl, rfl, id, id, Iff.rfl, id⟩

/-- The client is as connected as it was, or it has given up its socket, which is closed. -/
def FieldKept (before after : Connection) : Prop :=
  (after.connected = before.connected ∧ after.socket = before.socket ∧
      after.shutdown = before.shutdown) ∨
    (after.connected = false ∧ after.socket = none ∧ ∀ n socket, before.socket = some n →
      after.sockets.get n = some socket → socket.closedByClient = true ∨ socket.ended = true)

/-- The connection after a socket has reported its close. -/
def Connection.endSocket (connection : Connection) (n : ℕ) : Connection :=
  { connection with
    sockets := connection.sockets.modify n fun socket => { socket with ended := true } }

section Connection

variable {connection connection' : Connection} {n : ℕ}

lemma FieldKept.connected (h : FieldKept connection connection')
    (hconnected : connection.connected = false) : connection'.connected = false := by
  rcases h with ⟨hsame, -, -⟩ | ⟨hfalse, -, -⟩
  · exact hsame.trans hconnected
  · exact hfalse

lemma FieldKept.socket (h : FieldKept connection connection') (hn : connection'.socket = some n) :
    connection.socket = some n := by
  rcases h with ⟨-, hsame, -⟩ | ⟨-, hnone, -⟩
  · exact hsame.symm.trans hn
  · rw [hnone] at hn
    exact absurd hn (by simp)

/-- The invariant, where no handshake was completed and no attempt was begun. -/
lemma ConnectionOk.keep (h : ConnectionOk connection)
    (hsockets : ∀ n, Option.Rel SocketKept (connection.sockets.get n) (connection'.sockets.get n))
    (hnext : connection'.sockets.next = connection.sockets.next)
    (hloop : connection'.loop = connection.loop) (hfield : FieldKept connection connection') :
    ConnectionOk connection' := by
  have hbefore : ∀ n after, connection'.sockets.get n = some after →
      ∃ before, connection.sockets.get n = some before ∧ SocketKept before after := by
    intro n after hafter
    have hrel := hsockets n
    rw [hafter] at hrel
    generalize hget : connection.sockets.get n = before at hrel
    cases hrel with
    | some hkept => exact ⟨_, rfl, hkept⟩
  have hafter : ∀ n before, connection.sockets.get n = some before →
      ∃ after, connection'.sockets.get n = some after ∧ SocketKept before after := by
    intro n before hbefore
    have hrel := hsockets n
    rw [hbefore] at hrel
    generalize hget : connection'.sockets.get n = after at hrel
    cases hrel with
    | some hkept => exact ⟨_, rfl, hkept⟩
  constructor
  case field =>
    rcases hfield with ⟨hconnected, hsocket, -⟩ | ⟨hconnected, hsocket, -⟩
    · rw [hconnected, hsocket, h.field]
    · rw [hconnected, hsocket, Option.isSome_none]
  case owner =>
    intro n hn
    obtain ⟨before, hget, hcomplete⟩ := h.owner n (hfield.socket hn)
    obtain ⟨after, hget', hkept⟩ := hafter n before hget
    exact ⟨after, hget', hkept.handshakeComplete.trans hcomplete⟩
  case complete =>
    intro n after hget'
    obtain ⟨before, hget, hkept⟩ := hbefore n after hget'
    rw [hkept.handshakeComplete, hkept.succeeded]
    exact h.complete n before hget
  case hello =>
    intro n after hget' hcomplete
    obtain ⟨before, hget, hkept⟩ := hbefore n after hget'
    rw [hkept.hello]
    exact h.hello n before hget (hkept.handshakeComplete.symm.trans hcomplete)
  case opens =>
    intro n after hget' hcomplete hclosed hended
    obtain ⟨before, hget, hkept⟩ := hbefore n after hget'
    have hn : connection.socket = some n :=
      h.opens n before hget (hkept.handshakeComplete.symm.trans hcomplete) (hkept.closed hclosed)
        (hkept.ended hended)
    rcases hfield with ⟨-, hsame, -⟩ | ⟨-, -, hgone⟩
    · exact hsame.trans hn
    · rcases hgone n after hn hget' with htrue | htrue
      · exact absurd htrue (by simp [hclosed])
      · exact absurd htrue (by simp [hended])
  case latest =>
    intro n m after hn hm hget'
    obtain ⟨before, hget, hkept⟩ := hbefore m after hget'
    exact hkept.handshakeComplete.trans (h.latest n m before (hfield.socket hn) hm hget)
  case attempt =>
    intro n after hget' houtcome
    obtain ⟨before, hget, hkept⟩ := hbefore n after hget'
    rw [hnext, hloop]
    exact h.attempt n before hget (hkept.unsettled houtcome)
  case loop =>
    intro loop hsome
    have hidle := h.loop loop (hloop.symm.trans hsome)
    revert hidle
    cases loop.phase with
    | attempting n =>
        rintro ⟨before, hget, hconnected⟩
        obtain ⟨after, hget', hkept⟩ := hafter n before hget
        exact ⟨after, hget', fun hne =>
          hfield.connected (hconnected fun hok => hne (hkept.succeeded.mpr hok))⟩
    | sleeping error => exact hfield.connected
    | finished => exact id
  case shutdown =>
    intro hconnected
    rcases hfield with ⟨hsame, -, hshutdown⟩ | ⟨hfalse, -, -⟩
    · exact hshutdown.trans (h.shutdown (hsame.symm.trans hconnected))
    · rw [hfalse] at hconnected
      exact absurd hconnected (by simp)

/-- The invariant, where only the connect loop has changed. -/
lemma ConnectionOk.looped (h : ConnectionOk connection)
    (hsockets : connection'.sockets = connection.sockets)
    (hsame : connection'.connected = connection.connected ∧ connection'.socket = connection.socket ∧
      connection'.shutdown = connection.shutdown)
    (hsettled : ∀ n socket, connection.sockets.get n = some socket → socket.outcome ≠ none)
    (hidle : ∀ loop, connection'.loop = some loop → loop.phase.Idle connection') :
    ConnectionOk connection' := by
  obtain ⟨hconnected, hsocket, hshutdown⟩ := hsame
  constructor
  case field => rw [hconnected, hsocket, h.field]
  case owner => rw [hsocket, hsockets]; exact h.owner
  case complete => rw [hsockets]; exact h.complete
  case hello => rw [hsockets]; exact h.hello
  case opens => rw [hsocket, hsockets]; exact h.opens
  case latest => rw [hsocket, hsockets]; exact h.latest
  case attempt =>
    intro n socket hget houtcome
    rw [hsockets] at hget
    exact absurd houtcome (hsettled n socket hget)
  case loop => exact hidle
  case shutdown => rw [hconnected, hshutdown]; exact h.shutdown

lemma ConnectionOk.connected_of_attempt (h : ConnectionOk connection) {socket : Socket}
    (hsocket : connection.sockets.get n = some socket) (houtcome : socket.outcome = none) :
    connection.connected = false := by
  obtain ⟨-, loop, hloop, hphase⟩ := h.attempt n socket hsocket houtcome
  have hidle := h.loop loop hloop
  rw [hphase] at hidle
  obtain ⟨socket', hsocket', hconnected⟩ := hidle
  obtain rfl := Option.some.inj (hsocket.symm.trans hsocket')
  exact hconnected (by simp [houtcome])

/-- Where the connect loop does not wait for an attempt that has not settled, none has. -/
lemma ConnectionOk.settled (h : ConnectionOk connection)
    (hloop : ∀ loop n socket, connection.loop = some loop → loop.phase = .attempting n →
      connection.sockets.get n = some socket → socket.outcome ≠ none) (n : ℕ) (socket : Socket)
    (hsocket : connection.sockets.get n = some socket) : socket.outcome ≠ none := by
  intro houtcome
  obtain ⟨-, loop, hsome, hphase⟩ := h.attempt n socket hsocket houtcome
  exact hloop loop n socket hsome hphase hsocket houtcome

lemma ConnectionOk.socket_none (h : ConnectionOk connection)
    (hconnected : connection.connected = false) : connection.socket = none := by
  rw [h.field] at hconnected
  exact Option.isSome_eq_false_iff.mp hconnected |> Option.isNone_iff_eq_none.mp

/-! ### The handlers of the connection -/

lemma socketKept_settle_error (socket : Socket) (error : BrokerError) :
    SocketKept socket (if socket.outcome.isSome then socket else
      { socket with
        outcome := some (.error error)
        closedByClient :=
          socket.closedByClient || !(Except.error error : Except _ Unit).isOk }) := by
  split_ifs with hsettled
  · exact .refl socket
  · have hnone : socket.outcome = none := Option.not_isSome_iff_eq_none.mp hsettled
    refine ⟨rfl, rfl, fun hclosed => ?_, id, ?_, fun hfalse => absurd hfalse (by simp)⟩
    · exact absurd hclosed (by simp [Except.isOk, Except.toBool])
    · simp [hnone]

/-- An attempt fails. -/
lemma ConnectionOk.settle_error (h : ConnectionOk connection) (n : ℕ) (error : BrokerError) :
    ConnectionOk (connection.settle n (.error error)) :=
  h.keep (Objects.rel_modify SocketKept.refl fun socket _ => socketKept_settle_error socket error)
    rfl rfl (.inl ⟨rfl, rfl, rfl⟩)

/-- The client gives up its socket. -/
lemma ConnectionOk.dropSocket (h : ConnectionOk connection) :
    ConnectionOk connection.dropSocket := by
  cases hsocket : connection.socket with
  | none =>
      refine h.keep (fun n => ?_) ?_ rfl (.inr ⟨rfl, rfl, fun n socket hn => ?_⟩)
      · simp only [Connection.dropSocket, hsocket]
        cases connection.sockets.get n with
        | none => exact .none
        | some socket => exact .some (.refl socket)
      · simp only [Connection.dropSocket, hsocket]
      · rw [hsocket] at hn
        exact absurd hn (by simp)
  | some m =>
      refine h.keep (fun n => ?_) ?_ rfl (.inr ⟨rfl, rfl, fun n socket hn hget => ?_⟩)
      · simp only [Connection.dropSocket, hsocket]
        refine Objects.rel_modify SocketKept.refl (fun socket _ => ?_) n
        exact ⟨rfl, rfl, fun hfalse => absurd hfalse (by simp), id, Iff.rfl, id⟩
      · simp only [Connection.dropSocket, hsocket, Objects.next_modify]
      · obtain rfl := Option.some.inj (hsocket.symm.trans hn)
        simp only [Connection.dropSocket, hsocket] at hget
        obtain ⟨before, -, rfl⟩ := Objects.get_modify_eq_some hget
        exact .inl (by rw [if_pos rfl])

lemma ConnectionOk.shutDown (h : ConnectionOk connection)
    (hconnected : connection.connected = false) :
    ConnectionOk { connection with shutdown := true } := by
  refine h.keep (fun n => ?_) rfl rfl (.inr ⟨hconnected, h.socket_none hconnected, ?_⟩)
  · cases connection.sockets.get n with
    | none => exact .none
    | some socket => exact .some (.refl socket)
  · intro n socket hn
    rw [h.socket_none hconnected] at hn
    exact absurd hn (by simp)

lemma ConnectionOk.ended (h : ConnectionOk connection) (n : ℕ) :
    ConnectionOk (connection.endSocket n) :=
  h.keep (Objects.rel_modify SocketKept.refl fun _ _ =>
    ⟨rfl, rfl, id, fun hfalse => absurd hfalse (by simp), Iff.rfl, id⟩) rfl rfl
      (.inl ⟨rfl, rfl, rfl⟩)

/-- The close of the client's socket, or of one of a client that is not connected. -/
lemma ConnectionOk.closed (h : ConnectionOk connection)
    (hn : connection.socket = some n ∨ connection.connected = false) :
    ConnectionOk { connection.endSocket n with
      connected := false
      socket := none } := by
  refine h.keep (Objects.rel_modify SocketKept.refl fun _ _ =>
    ⟨rfl, rfl, id, fun hfalse => absurd hfalse (by simp), Iff.rfl, id⟩) rfl rfl
    (.inr ⟨rfl, rfl, fun m socket hm hget => ?_⟩)
  rcases hn with hn | hfalse
  · obtain rfl := Option.some.inj (hn.symm.trans hm)
    obtain ⟨before, -, rfl⟩ := Objects.get_modify_eq_some hget
    exact .inr (by rw [if_pos rfl])
  · rw [h.socket_none hfalse] at hm
    exact absurd hm (by simp)

/-- The attempt in progress succeeds. -/
lemma ConnectionOk.completeHandshake (h : ConnectionOk connection) {socket : Socket}
    {hello : HelloOk}
    (hsocket : connection.sockets.get n = some socket) (houtcome : socket.outcome = none)
    (hshutdown : connection.shutdown = false) (haccept : acceptHelloOk hello = .ok ()) :
    ConnectionOk (connection.completeHandshake n hello) := by
  obtain ⟨hlast, loop, hloop, hphase⟩ := h.attempt n socket hsocket houtcome
  have hnone : connection.socket = none := h.socket_none (h.connected_of_attempt hsocket houtcome)
  have hself : (connection.completeHandshake n hello).sockets.get n = some
      { socket with
        handshakeComplete := true
        hello := some hello
        outcome := some (.ok ())
        closedByClient :=
          socket.closedByClient || !(Except.ok () : Except BrokerError Unit).isOk } := by
    simp [Connection.completeHandshake, Connection.settle, hsocket, houtcome]
  have hother : ∀ m, m ≠ n → (connection.completeHandshake n hello).sockets.get m =
      connection.sockets.get m := by
    intro m hm
    simp only [Connection.completeHandshake, Connection.settle]
    rw [Objects.get_modify_of_ne hm, Objects.get_modify_of_ne hm]
  constructor
  case field => rfl
  case owner =>
    intro m hm
    obtain rfl := Option.some.inj (show some n = some m from hm)
    exact ⟨_, hself, rfl⟩
  case complete =>
    intro m after hget
    by_cases hm : m = n
    · subst hm
      obtain rfl := Option.some.inj (hself.symm.trans hget)
      exact ⟨fun _ => rfl, fun _ => rfl⟩
    · rw [hother m hm] at hget
      exact h.complete m after hget
  case hello =>
    intro m after hget hcomplete
    by_cases hm : m = n
    · subst hm
      obtain rfl := Option.some.inj (hself.symm.trans hget)
      exact ⟨hello, rfl, haccept⟩
    · rw [hother m hm] at hget
      exact h.hello m after hget hcomplete
  case opens =>
    intro m after hget hcomplete hclosed hended
    by_cases hm : m = n
    · exact congrArg some hm.symm
    · rw [hother m hm] at hget
      have hfield := h.opens m after hget hcomplete hclosed hended
      rw [hnone] at hfield
      exact absurd hfield (by simp)
  case latest =>
    intro m k after hm hk hget
    obtain rfl := Option.some.inj (show some n = some m from hm)
    rw [hother k hk.ne'] at hget
    exact absurd (Objects.lt_next hget) (by omega)
  case attempt =>
    intro m after hget hnone'
    by_cases hm : m = n
    · subst hm
      obtain rfl := Option.some.inj (hself.symm.trans hget)
      exact absurd hnone' (by simp)
    · rw [hother m hm] at hget
      exact absurd (h.attempt m after hget hnone').1 (by omega)
  case loop =>
    intro loop' hloop'
    obtain rfl := Option.some.inj (hloop.symm.trans hloop')
    rw [hphase]
    exact ⟨_, hself, fun hne => absurd rfl hne⟩
  case shutdown => exact fun _ => hshutdown

/-- A new attempt. -/
lemma ConnectionOk.openSocket (h : ConnectionOk connection) (loop : ConnectLoop)
    (hconnected : connection.connected = false)
    (hsettled : ∀ n socket, connection.sockets.get n = some socket → socket.outcome ≠ none) :
    ConnectionOk (connection.openSocket loop) := by
  have hnone : connection.socket = none := h.socket_none hconnected
  have hsome : ∀ m, (connection.openSocket loop).socket ≠ some m := by
    intro m hm
    rw [show (connection.openSocket loop).socket = connection.socket from rfl, hnone] at hm
    exact absurd hm (by simp)
  constructor
  case field => exact h.field
  case owner => exact fun m hm => absurd hm (hsome m)
  case complete =>
    intro m socket hget
    rcases Objects.get_add_eq_some hget with ⟨rfl, rfl⟩ | hget
    · exact ⟨fun hfalse => absurd hfalse (by simp), fun hfalse => absurd hfalse (by simp)⟩
    · exact h.complete m socket hget
  case hello =>
    intro m socket hget hcomplete
    rcases Objects.get_add_eq_some hget with ⟨rfl, rfl⟩ | hget
    · exact absurd hcomplete (by simp)
    · exact h.hello m socket hget hcomplete
  case opens =>
    intro m socket hget hcomplete hclosed hended
    rcases Objects.get_add_eq_some hget with ⟨rfl, rfl⟩ | hget
    · exact absurd hcomplete (by simp)
    · exact h.opens m socket hget hcomplete hclosed hended
  case latest => exact fun m _ _ hm => absurd hm (hsome m)
  case attempt =>
    intro m socket hget houtcome
    rcases Objects.get_add_eq_some hget with ⟨rfl, rfl⟩ | hget
    · exact ⟨rfl, _, rfl, rfl⟩
    · exact absurd houtcome (hsettled m socket hget)
  case loop =>
    intro loop' hloop'
    obtain rfl := Option.some.inj hloop'
    exact ⟨{}, Objects.get_add_next, fun _ => hconnected⟩
  case shutdown => exact h.shutdown

/-- The connect loop returns. -/
lemma ConnectionOk.finishLoop (h : ConnectionOk connection) (loop : ConnectLoop)
    (result : Except BrokerError Unit)
    (hsettled : ∀ n socket, connection.sockets.get n = some socket → socket.outcome ≠ none) :
    ConnectionOk (connection.finishLoop loop result) := by
  refine h.looped rfl ⟨rfl, rfl, rfl⟩ hsettled fun loop' hloop' => ?_
  obtain rfl := Option.some.inj hloop'
  trivial

lemma ConnectionOk.ensureConnected (h : ConnectionOk connection) (options : ClientOptions)
    (now : ℤ) : ConnectionOk (connection.ensureConnected options now).2 := by
  rw [Connection.ensureConnected]
  by_cases hpaired : options.pairedDevice = false
  · rw [if_pos hpaired]
    exact h
  rw [if_neg hpaired]
  by_cases hconnected : connection.connected = true
  · rw [if_pos hconnected]
    exact h
  rw [if_neg hconnected]
  split
  · exact h
  · next hloop =>
      have hsettled : ∀ n socket, connection.sockets.get n = some socket → socket.outcome ≠ none :=
        h.settled fun loop n socket hsome => by rw [hloop] at hsome; exact absurd hsome (by simp)
      have hstarted : ConnectionOk { connection with loops := connection.loops + 1 } :=
        h.looped rfl ⟨rfl, rfl, rfl⟩ hsettled fun loop hsome => h.loop loop hsome
      dsimp only
      split_ifs
      · exact hstarted.finishLoop _ _ hsettled
      · exact hstarted.openSocket _ (Bool.not_eq_true _ ▸ hconnected) hsettled

lemma ConnectionOk.connectStep (h : ConnectionOk connection) (options : ClientOptions) (now : ℤ) :
    ConnectionOk (connection.connectStep options now) := by
  unfold Connection.connectStep
  cases hloop : connection.loop with
  | none => exact h
  | some loop =>
      cases hphase : loop.phase with
      | sleeping lastError => simpa only [hphase] using h
      | finished => simpa only [hphase] using h
      | attempting n =>
          have hidle := h.loop loop hloop
          rw [hphase] at hidle
          obtain ⟨socket, hsocket, hconnected⟩ := hidle
          simp only [hphase, hsocket, Option.bind_some]
          cases houtcome : socket.outcome with
          | none => exact h
          | some result =>
              have hsettled : ∀ n socket, connection.sockets.get n = some socket →
                  socket.outcome ≠ none := by
                refine h.settled fun loop' n' socket' hsome hphase' hsocket' => ?_
                obtain rfl := Option.some.inj (hloop.symm.trans hsome)
                obtain rfl := LoopPhase.attempting.inj (hphase.symm.trans hphase')
                obtain rfl := Option.some.inj (hsocket.symm.trans hsocket')
                simp [houtcome]
              cases result with
              | ok u => exact h.finishLoop loop _ hsettled
              | error error =>
                  dsimp only
                  split_ifs
                  · exact h.finishLoop loop _ hsettled
                  · cases error.retryAfterMs with
                    | none => exact h.finishLoop loop _ hsettled
                    | some retryAfter =>
                        dsimp only
                        split_ifs
                        · exact h.finishLoop loop _ hsettled
                        · refine h.looped rfl ⟨rfl, rfl, rfl⟩ hsettled fun loop' hloop' => ?_
                          obtain rfl := Option.some.inj hloop'
                          exact hconnected (by simp [houtcome])

lemma ConnectionOk.wake (h : ConnectionOk connection) (options : ClientOptions) (now : ℤ) :
    ConnectionOk (connection.wake options now) := by
  unfold Connection.wake
  cases hloop : connection.loop with
  | none => exact h
  | some loop =>
      cases hphase : loop.phase with
      | attempting n => simpa only [hphase] using h
      | finished => simpa only [hphase] using h
      | sleeping lastError =>
          have hconnected := h.loop loop hloop
          rw [hphase] at hconnected
          have hsettled : ∀ n socket, connection.sockets.get n = some socket →
              socket.outcome ≠ none := by
            refine h.settled fun loop' n' socket' hsome hphase' => ?_
            obtain rfl := Option.some.inj (hloop.symm.trans hsome)
            rw [hphase] at hphase'
            exact absurd hphase' (by simp)
          simp only [hphase]
          split_ifs
          · exact h.finishLoop loop _ hsettled
          · exact h.openSocket loop hconnected hsettled

lemma ConnectionOk.connectFinally (h : ConnectionOk connection) :
    ConnectionOk connection.connectFinally := by
  unfold Connection.connectFinally
  split
  · next number startedAt hloop =>
      refine h.looped rfl ⟨rfl, rfl, rfl⟩ ?_ fun loop hnone => absurd hnone (by simp)
      refine h.settled fun loop n socket hsome hphase => ?_
      obtain rfl := Option.some.inj (hloop.symm.trans hsome)
      exact absurd hphase (by simp)
  · exact h

end Connection

/-! ### Calls do not touch the connection -/

section Resume

variable {texts : GatewayTexts} {client : OperatorClient} {c : ℕ}

lemma request_connection (texts : GatewayTexts) (client : OperatorClient) (method : String)
    (params : JsRecord) (sideEffect : Option String) :
    (client.request texts method params sideEffect).2.connection = client.connection := by
  unfold OperatorClient.request
  dsimp only
  split_ifs
  · rfl
  · rfl
  · rfl
  · rfl

lemma ensureSessionCreated_connection {input : StartAssistantStreamInput} {force : Bool} :
    (client.ensureSessionCreated texts c input force).connection = client.connection := by
  unfold OperatorClient.ensureSessionCreated
  split_ifs
  · rfl
  · exact request_connection texts client _ _ none

lemma streamStarted_connection {input : StartAssistantStreamInput} {payload : JsValue} :
    (client.streamStarted texts c input payload).connection = client.connection := by
  unfold OperatorClient.streamStarted
  dsimp only
  split_ifs
  · exact request_connection texts _ _ _ none
  · rfl

lemma resumeStream_connection {input : StartAssistantStreamInput} {point : CallPoint} :
    (client.resumeStream texts c input point).connection = client.connection := by
  unfold OperatorClient.resumeStream
  split
  · split
    · rfl
    · rfl
    · exact ensureSessionCreated_connection
  · split
    · rfl
    · unfold OperatorClient.sessionCreated
      split
      · rfl
      · rfl
  · split
    · rfl
    · exact request_connection texts client _ _ _
  · split
    · rfl
    · exact streamStarted_connection
    · split_ifs
      · exact ensureSessionCreated_connection
      · rfl
  · rfl

lemma resumePlain_connection {method : String} {params : JsRecord} {check : Option BrokerError}
    {point : CallPoint} :
    (client.resumePlain texts c method params check point).connection = client.connection := by
  unfold OperatorClient.resumePlain
  split
  · split
    · rfl
    · rfl
    · rfl
    · exact request_connection texts client method params none
  · split
    · rfl
    · rfl
  · rfl

lemma resume_connection : (client.resume texts c).connection = client.connection := by
  unfold OperatorClient.resume
  split
  · rfl
  · split
    · exact resumeStream_connection
    · exact resumePlain_connection
    · exact resumePlain_connection
    · split
      · split
        · rfl
        · rfl
      · rfl

end Resume

/-! ### Events of a socket -/

/-- The payload of a frame that completes a handshake. -/
def acceptedHello? (frame : Frame) : Option HelloOk :=
  match frame with
  | .res id true payload _ =>
      if jsStartsWith id "connect:" then
        (helloOk? payload).filter fun hello => (acceptHelloOk hello).isOk
      else none
  | _ => none

/-- A frame that answers no request and names no active stream. -/
def NamesNoStream (table : StreamTable) (frame : Frame) : Prop :=
  match frame with
  | .req => True
  | .res _ _ _ _ => False
  | .event _ payload =>
      ∀ key ∈ stringValue (JsRecord.read ((recordValue payload).getD []) "sessionKey"),
        table.activeStreams.get key = none

instance (table : StreamTable) : DecidablePred (NamesNoStream table) := fun frame =>
  match frame with
  | .req => inferInstanceAs (Decidable True)
  | .res _ _ _ _ => inferInstanceAs (Decidable False)
  | .event _ payload => inferInstanceAs (Decidable
      (∀ key ∈ stringValue (JsRecord.read ((recordValue payload).getD []) "sessionKey"),
        table.activeStreams.get key = none))

/-- A client that is not connected and has no request, no stream and no session to lose. -/
def OperatorClient.Vacant (client : OperatorClient) : Prop :=
  client.connection.connected = false ∧ client.rpc.pending.entries = [] ∧
    client.table.activeStreams.entries = [] ∧ client.createdSessionKeys = []

instance : DecidablePred OperatorClient.Vacant := fun _ =>
  inferInstanceAs (Decidable (_ ∧ _ ∧ _ ∧ _))

/-- An event of a socket that does not reach into the connection of another one: after its handshake
a socket that is not the client's own has nothing to say to the client, unless the client is vacant;
and a handshake is completed only by the attempt in progress, of a client that is not shut down. -/
def SoundSocketEvent (client : OperatorClient) (event : ClientEvent) : Prop :=
  match event with
  | .message n (some frame) => ∀ socket ∈ client.connection.sockets.get n, socket.ended = false →
      if socket.handshakeComplete then
        client.connection.socket = some n ∨ client.Vacant ∨ NamesNoStream client.table frame
      else (acceptedHello? frame).isSome →
        socket.outcome.isNone ∧ client.connection.shutdown = false
  | .close n _ => ∀ socket ∈ client.connection.sockets.get n, socket.ended = false →
      socket.handshakeComplete → client.connection.socket = some n ∨ client.Vacant
  | _ => True

instance : DecidableRel SoundSocketEvent := fun client event =>
  match event with
  | .message n (some frame) => inferInstanceAs (Decidable
      (∀ socket ∈ client.connection.sockets.get n, socket.ended = false →
        if socket.handshakeComplete then
          client.connection.socket = some n ∨ client.Vacant ∨ NamesNoStream client.table frame
        else (acceptedHello? frame).isSome →
          socket.outcome.isNone ∧ client.connection.shutdown = false))
  | .close n _ => inferInstanceAs (Decidable
      (∀ socket ∈ client.connection.sockets.get n, socket.ended = false →
        socket.handshakeComplete → client.connection.socket = some n ∨ client.Vacant))
  | .message _ none => inferInstanceAs (Decidable True)
  | .startAssistantStream _ _ => inferInstanceAs (Decidable True)
  | .getEffectiveTools _ _ => inferInstanceAs (Decidable True)
  | .auditActivityList _ _ => inferInstanceAs (Decidable True)
  | .ensureConnected _ => inferInstanceAs (Decidable True)
  | .resume _ => inferInstanceAs (Decidable True)
  | .error _ => inferInstanceAs (Decidable True)
  | .signFailed _ => inferInstanceAs (Decidable True)
  | .challengeTimeout _ => inferInstanceAs (Decidable True)
  | .requestTimeout _ => inferInstanceAs (Decidable True)
  | .sendFailed _ => inferInstanceAs (Decidable True)
  | .connectStep _ => inferInstanceAs (Decidable True)
  | .wake _ => inferInstanceAs (Decidable True)
  | .connectFinally => inferInstanceAs (Decidable True)
  | .disconnect => inferInstanceAs (Decidable True)
  | .next _ => inferInstanceAs (Decidable True)

/-- What a message of a socket does: nothing; it fails the attempt of the socket; it is a frame that
comes after the handshake; or it completes the handshake. -/
inductive MessageEffect (texts : GatewayTexts) (client : OperatorClient) (n : ℕ) :
    Option Frame → OperatorClient → Prop
  | ignored {frame : Option Frame} : MessageEffect texts client n frame client
  | failed {frame : Option Frame} (error : BrokerError) :
      MessageEffect texts client n frame (client.failAttempt n error)
  | handled {frame : Frame} (socket : Socket)
      (hsocket : client.connection.sockets.get n = some socket) (hended : socket.ended = false)
      (hcomplete : socket.handshakeComplete = true) :
      MessageEffect texts client n (some frame) (client.handleFrame texts frame)
  | completed {frame : Frame} (socket : Socket) (hello : HelloOk)
      (hsocket : client.connection.sockets.get n = some socket) (hended : socket.ended = false)
      (hcomplete : socket.handshakeComplete = false) (hframe : acceptedHello? frame = some hello)
      (haccept : acceptHelloOk hello = .ok ()) :
      MessageEffect texts client n (some frame)
        { client with connection := client.connection.completeHandshake n hello }

section Client

variable {texts : GatewayTexts} {options : ClientOptions} {client : OperatorClient}
  {event : ClientEvent} {n : ℕ}

lemma handleHandshakeFrame_effect {frame : Frame} {socket : Socket}
    (hsocket : client.connection.sockets.get n = some socket) (hended : socket.ended = false)
    (hcomplete : socket.handshakeComplete = false) :
    MessageEffect texts client n (some frame)
      { client with
        connection := client.connection.handleHandshakeFrame texts n frame } := by
  unfold Connection.handleHandshakeFrame
  split_ifs with hchallenge
  · exact .ignored
  cases frame with
  | req => exact .failed _
  | event name payload => exact .failed _
  | res id ok payload error =>
      dsimp only
      split_ifs with hid hok
      · exact .failed _
      · split
        · exact .failed _
        · exact .failed _
      · split
        · exact .failed _
        · next hello hhello =>
            split
            · exact .failed _
            · next haccept =>
                refine .completed socket hello hsocket hended hcomplete ?_ haccept
                rw [Bool.not_eq_false] at hid hok
                subst hok
                simp [acceptedHello?, hid, hhello, haccept, Except.isOk, Except.toBool]

lemma handleMessage_messageEffect (texts : GatewayTexts) (client : OperatorClient) (n : ℕ)
    (frame : Option Frame) :
    MessageEffect texts client n frame (client.handleMessage texts n frame) := by
  unfold OperatorClient.handleMessage
  split
  · exact .ignored
  · next socket hsocket =>
      by_cases hended : socket.ended = true
      · rw [if_pos hended]
        exact .ignored
      rw [if_neg hended]
      rw [Bool.not_eq_true] at hended
      cases frame with
      | none => exact .failed _
      | some frame =>
          dsimp only
          split_ifs with hcomplete
          · exact .handled socket hsocket hended hcomplete
          · exact handleHandshakeFrame_effect hsocket hended (Bool.not_eq_true _ ▸ hcomplete)

/-- The close of a socket: nothing; it fails the attempt of the socket; or it is the end of a
connection. -/
lemma handleClose_cases (options : ClientOptions) (client : OperatorClient) (n : ℕ) (now : ℤ) :
    client.handleClose options n now = client ∨
      ∃ socket, client.connection.sockets.get n = some socket ∧ socket.ended = false ∧
        ((socket.handshakeComplete = false ∧ client.handleClose options n now =
            { client with connection := client.connection.endSocket n }.failAttempt n
              closedDuringHandshake) ∨
          (socket.handshakeComplete = true ∧ client.handleClose options n now =
            { client with connection := client.connection.endSocket n }.handleSocketClosed options
              now)) := by
  unfold OperatorClient.handleClose
  split
  · exact .inl rfl
  · next socket hsocket =>
      by_cases hended : socket.ended = true
      · rw [if_pos hended]
        exact .inl rfl
      rw [if_neg hended]
      rw [Bool.not_eq_true] at hended
      refine .inr ⟨socket, hsocket, hended, ?_⟩
      by_cases hcomplete : socket.handshakeComplete = true
      · exact .inr ⟨hcomplete, if_pos hcomplete⟩
      · exact .inl ⟨Bool.not_eq_true _ ▸ hcomplete, if_neg hcomplete⟩

lemma connectionOk_connectCall (h : ConnectionOk client.connection) (kind : CallKind) (now : ℤ) :
    ConnectionOk (client.connectCall options kind now).connection :=
  h.ensureConnected options now

lemma connectionOk_handleFrame (h : ConnectionOk client.connection) (frame : Frame) :
    ConnectionOk (client.handleFrame texts frame).connection := by
  cases frame with
  | req => exact h
  | res id ok payload error =>
      simp only [OperatorClient.handleFrame, OperatorClient.handleResponse]
      split_ifs
      · exact h.dropSocket
      · exact h.dropSocket
      · exact h
  | event name payload =>
      simp only [OperatorClient.handleFrame, OperatorClient.handleEvent]
      split_ifs
      · exact h
      · split
        · exact h
        · exact h
      · exact h
      · exact h

lemma connectionOk_handleMessage (h : ConnectionOk client.connection) {frame : Option Frame}
    (hsound : SoundSocketEvent client (.message n frame)) :
    ConnectionOk (client.handleMessage texts n frame).connection := by
  have heffect := handleMessage_messageEffect texts client n frame
  generalize client.handleMessage texts n frame = client' at heffect
  cases heffect with
  | ignored => exact h
  | failed error => exact h.settle_error n error
  | handled socket hsocket hended hcomplete => exact connectionOk_handleFrame h _
  | completed socket hello hsocket hended hcomplete hframe haccept =>
      have hattempt := hsound socket hsocket hended
      rw [if_neg (by simp [hcomplete]), hframe, Option.isSome_some] at hattempt
      obtain ⟨houtcome, hshutdown⟩ := hattempt rfl
      exact h.completeHandshake hsocket (Option.isNone_iff_eq_none.mp houtcome) hshutdown haccept

lemma connectionOk_handleClose (h : ConnectionOk client.connection) {now : ℤ}
    (hsound : SoundSocketEvent client (.close n now)) :
    ConnectionOk (client.handleClose options n now).connection := by
  rcases handleClose_cases options client n now with
    heq | ⟨socket, hsocket, hended, ⟨-, heq⟩ | ⟨hcomplete, heq⟩⟩
  · rw [heq]
    exact h
  · rw [heq]
    exact (h.ended n).settle_error n _
  · have hclosed := h.closed ((hsound socket hsocket hended hcomplete).imp_right fun hv => hv.1)
    rw [heq]
    unfold OperatorClient.handleSocketClosed
    dsimp only
    split_ifs
    · exact hclosed
    · exact connectionOk_connectCall hclosed _ _

/-- One event. -/
lemma connectionOk_step (options : ClientOptions) (client : OperatorClient) (event : ClientEvent)
    (h : ConnectionOk client.connection) (hsound : SoundSocketEvent client event) :
    ConnectionOk (clientStep options client event).connection := by
  cases event with
  | startAssistantStream input now =>
      simp only [clientStep, OperatorClient.startAssistantStream]
      split_ifs
      · exact h
      · exact h
      · exact connectionOk_connectCall h (.startAssistantStream input) now
  | getEffectiveTools sessionKey now => exact connectionOk_connectCall h _ now
  | auditActivityList params now => exact connectionOk_connectCall h _ now
  | ensureConnected now => exact connectionOk_connectCall h _ now
  | resume c =>
      simp only [clientStep]
      rw [resume_connection]
      exact h
  | message n frame => exact connectionOk_handleMessage h hsound
  | close n now => exact connectionOk_handleClose h hsound
  | error n => exact h.settle_error n _
  | signFailed n => exact h.settle_error n _
  | challengeTimeout n => exact h.settle_error n _
  | requestTimeout id => exact h
  | sendFailed id => exact h
  | connectStep now => exact h.connectStep options now
  | wake now => exact h.wake options now
  | connectFinally => exact h.connectFinally
  | disconnect => exact h.dropSocket.shutDown rfl
  | next stream => exact h

lemma connectionOk_initial : ConnectionOk OperatorClient.initial.connection := by
  have hnone : ∀ n socket, OperatorClient.initial.connection.sockets.get n ≠ some socket :=
    fun n socket hsocket => absurd hsocket (by simp [OperatorClient.initial])
  constructor
  case field => rfl
  case owner => exact fun n hn => absurd hn (by simp [OperatorClient.initial])
  case complete => exact fun n socket hsocket => absurd hsocket (hnone n socket)
  case hello => exact fun n socket hsocket => absurd hsocket (hnone n socket)
  case opens => exact fun n socket hsocket => absurd hsocket (hnone n socket)
  case latest => exact fun n m socket hn => absurd hn (by simp [OperatorClient.initial])
  case attempt => exact fun n socket hsocket => absurd hsocket (hnone n socket)
  case loop => exact fun loop hloop => absurd hloop (by simp [OperatorClient.initial])
  case shutdown => exact fun hconnected => absurd hconnected (by simp [OperatorClient.initial])

end Client

/-! ### What another socket does to the client -/

/-- The socket an event is one of. -/
def ClientEvent.socket? : ClientEvent → Option ℕ
  | .message n _ => some n
  | .close n _ => some n
  | .error n => some n
  | .signFailed n => some n
  | .challengeTimeout n => some n
  | _ => none

/-- The second client has the requests, streams and sessions of the first. -/
structure SameWork (client client' : OperatorClient) : Prop where
  pending : client'.rpc.pending = client.rpc.pending
  table : client'.table = client.table
  createdSessionKeys : client'.createdSessionKeys = client.createdSessionKeys

/-- The second client is connected as the first is. -/
def SameField (client client' : OperatorClient) : Prop :=
  client'.connection.connected = client.connection.connected ∧
    client'.connection.socket = client.connection.socket

/-- The socket of an attempt that has not settled becomes the client's own, which had none. -/
def Succeeds (client client' : OperatorClient) (n : ℕ) : Prop :=
  client.connection.socket = none ∧ client'.connection.socket = some n ∧
    ∃ socket, client.connection.sockets.get n = some socket ∧ socket.outcome = none

/-- An event of a socket that is not the client's own changes neither the field nor the requests,
streams and sessions; the attempt in progress may only give the client its socket. -/
def KeepsOut (options : ClientOptions) (client : OperatorClient) (event : ClientEvent) : Prop :=
  ∀ n ∈ event.socket?, client.connection.socket ≠ some n →
    SameWork client (clientStep options client event) ∧
      (SameField client (clientStep options client event) ∨
        Succeeds client (clientStep options client event) n)

section Others

variable {texts : GatewayTexts} {options : ClientOptions} {client : OperatorClient} {n : ℕ}

lemma entries_eq_nil {κ ν : Type} {m : OrderedMap κ ν} (h : m.entries = []) : m = .empty := by
  obtain ⟨entries, hnodup⟩ := m
  subst h
  rfl

/-- A vacant client has nothing that could fail. -/
lemma OperatorClient.Vacant.teardown (h : client.Vacant) (texts : GatewayTexts)
    (error : BrokerError) : SameWork client (client.teardown texts error) := by
  obtain ⟨-, hpending, hstreams, hkeys⟩ := h
  refine ⟨(entries_eq_nil hpending).symm, ?_, hkeys.symm⟩
  have hempty : client.table.activeStreams = .empty := entries_eq_nil hstreams
  have hvalues : client.table.activeStreams.values = [] := by rw [hempty]; rfl
  simp only [OperatorClient.teardown, StreamTable.failActiveStreams, hvalues, List.not_mem_nil,
    if_false, ← hempty]

/-- A frame that names no stream does nothing. -/
lemma handleFrame_of_namesNoStream {frame : Frame} (h : NamesNoStream client.table frame) :
    client.handleFrame texts frame = client := by
  cases frame with
  | req => rfl
  | res id ok payload error => exact h.elim
  | event name payload =>
      simp only [OperatorClient.handleFrame, OperatorClient.handleEvent]
      have hstream : client.table.handleStreamEvent texts payload = some client.table := by
        unfold StreamTable.handleStreamEvent
        dsimp only
        split
        · rfl
        · next key hkey => rw [h key hkey]
      have happroval : client.table.handleApprovalEvent payload = client.table := by
        unfold StreamTable.handleApprovalEvent
        split
        · rfl
        · next fields hfields =>
            split
            · next key ref hkey _ =>
                rw [h key (by rw [hfields, Option.getD_some]; exact hkey)]
            · rfl
      split_ifs
      · rfl
      · rw [hstream]
      · rw [happroval]
      · rfl

/-- A frame to a vacant client changes nothing it has. -/
lemma OperatorClient.Vacant.handleFrame (h : client.Vacant) (hok : ConnectionOk client.connection)
    (frame : Frame) :
    SameWork client (client.handleFrame texts frame) ∧
      SameField client (client.handleFrame texts frame) := by
  have hnone : client.connection.socket = none := hok.socket_none h.1
  have hempty : client.table.activeStreams = .empty := entries_eq_nil h.2.2.1
  cases frame with
  | req => exact ⟨⟨rfl, rfl, rfl⟩, rfl, rfl⟩
  | event name payload =>
      have hnames : NamesNoStream client.table (.event name payload) := by
        intro key _
        rw [hempty]
        exact OrderedMap.get_empty key
      rw [handleFrame_of_namesNoStream hnames]
      exact ⟨⟨rfl, rfl, rfl⟩, rfl, rfl⟩
  | res id ok payload error =>
      have hfail : ∀ reason, SameWork client (client.failConnection texts reason) ∧
          SameField client (client.failConnection texts reason) := by
        intro reason
        have hwork := h.teardown texts reason
        exact ⟨⟨hwork.pending, hwork.table, hwork.createdSessionKeys⟩, h.1.symm, hnone.symm⟩
      have hpending : client.rpc.pending.has id = false := by
        rw [entries_eq_nil h.2.1]
        rfl
      simp only [OperatorClient.handleFrame, OperatorClient.handleResponse]
      split_ifs
      · obtain ⟨hwork, hfield⟩ := hfail duplicateResponse
        exact ⟨⟨hwork.pending, hwork.table, hwork.createdSessionKeys⟩, hfield⟩
      · obtain ⟨hwork, hfield⟩ := hfail unknownResponse
        exact ⟨⟨hwork.pending, hwork.table, hwork.createdSessionKeys⟩, hfield⟩

lemma keepsOut_message (h : ConnectionOk client.connection) {frame : Option Frame}
    (hsound : SoundSocketEvent client (.message n frame)) :
    KeepsOut options client (.message n frame) := by
  rintro m hm hne
  obtain rfl := Option.some.inj (show some n = some m from hm)
  have heffect := handleMessage_messageEffect options.texts client n frame
  simp only [clientStep]
  generalize client.handleMessage options.texts n frame = client' at heffect
  cases heffect with
  | ignored => exact ⟨⟨rfl, rfl, rfl⟩, .inl ⟨rfl, rfl⟩⟩
  | failed error => exact ⟨⟨rfl, rfl, rfl⟩, .inl ⟨rfl, rfl⟩⟩
  | handled socket hsocket hended hcomplete =>
      have hother := hsound socket hsocket hended
      rw [if_pos hcomplete] at hother
      rcases hother.resolve_left hne with hvacant | hnames
      · obtain ⟨hwork, hfield⟩ := hvacant.handleFrame h _
        exact ⟨hwork, .inl hfield⟩
      · rw [handleFrame_of_namesNoStream hnames]
        exact ⟨⟨rfl, rfl, rfl⟩, .inl ⟨rfl, rfl⟩⟩
  | completed socket hello hsocket hended hcomplete hframe haccept =>
      have hattempt := hsound socket hsocket hended
      rw [if_neg (by simp [hcomplete]), hframe, Option.isSome_some] at hattempt
      have houtcome : socket.outcome = none := Option.isNone_iff_eq_none.mp (hattempt rfl).1
      exact ⟨⟨rfl, rfl, rfl⟩, .inr ⟨h.socket_none (h.connected_of_attempt hsocket houtcome), rfl,
        socket, hsocket, houtcome⟩⟩

lemma ensureConnected_field (connection : Connection) (options : ClientOptions) (now : ℤ) :
    (connection.ensureConnected options now).2.connected = connection.connected ∧
      (connection.ensureConnected options now).2.socket = connection.socket := by
  unfold Connection.ensureConnected
  split
  · exact ⟨rfl, rfl⟩
  · split
    · exact ⟨rfl, rfl⟩
    · split
      · exact ⟨rfl, rfl⟩
      · dsimp only
        split
        · exact ⟨rfl, rfl⟩
        · exact ⟨rfl, rfl⟩

lemma keepsOut_close (h : ConnectionOk client.connection) {now : ℤ}
    (hsound : SoundSocketEvent client (.close n now)) : KeepsOut options client (.close n now) := by
  rintro m hm hne
  obtain rfl := Option.some.inj (show some n = some m from hm)
  simp only [clientStep]
  rcases handleClose_cases options client n now with
    heq | ⟨socket, hsocket, hended, ⟨-, heq⟩ | ⟨hcomplete, heq⟩⟩
  · rw [heq]
    exact ⟨⟨rfl, rfl, rfl⟩, .inl ⟨rfl, rfl⟩⟩
  · rw [heq]
    exact ⟨⟨rfl, rfl, rfl⟩, .inl ⟨rfl, rfl⟩⟩
  · have hvacant : client.Vacant := (hsound socket hsocket hended hcomplete).resolve_left hne
    have hwork := hvacant.teardown options.texts connectionClosed
    have hnone : client.connection.socket = none := h.socket_none hvacant.1
    rw [heq]
    unfold OperatorClient.handleSocketClosed
    dsimp only
    split_ifs
    · exact ⟨⟨hwork.pending, hwork.table, hwork.createdSessionKeys⟩,
        .inl ⟨hvacant.1.symm, hnone.symm⟩⟩
    · refine ⟨⟨hwork.pending, hwork.table, hwork.createdSessionKeys⟩, .inl ⟨?_, ?_⟩⟩
      · exact (ensureConnected_field _ options now).1.trans hvacant.1.symm
      · exact (ensureConnected_field _ options now).2.trans hnone.symm

/-- An event that does not reach into another connection keeps out of it. -/
lemma keepsOut_of_sound (options : ClientOptions) (client : OperatorClient) (event : ClientEvent)
    (h : ConnectionOk client.connection) (hsound : SoundSocketEvent client event) :
    KeepsOut options client event := by
  cases event with
  | message n frame => exact keepsOut_message h hsound
  | close n now => exact keepsOut_close h hsound
  | error n => exact fun _ _ _ => ⟨⟨rfl, rfl, rfl⟩, .inl ⟨rfl, rfl⟩⟩
  | signFailed n => exact fun _ _ _ => ⟨⟨rfl, rfl, rfl⟩, .inl ⟨rfl, rfl⟩⟩
  | challengeTimeout n => exact fun _ _ _ => ⟨⟨rfl, rfl, rfl⟩, .inl ⟨rfl, rfl⟩⟩
  | _ => exact fun _ hm => absurd hm (by simp [ClientEvent.socket?])

end Others

/-! ### Runs -/

/-- A handshake that the protocol, the role and the scopes were accepted of. -/
def HelloOk.Accepted (hello : HelloOk) : Prop :=
  hello.protocol = "4" ∧ hello.role = .string "operator" ∧
    hasExactExpectedScopes hello.scopes = true

lemma accepted_of_ok {hello : HelloOk} (h : acceptHelloOk hello = .ok ()) : hello.Accepted := by
  unfold acceptHelloOk at h
  split_ifs at h with hprotocol
  split at h
  · next role hrole =>
      split_ifs at h with hscopes
      exact ⟨not_not.mp hprotocol, hscopes.1 ▸ hrole, hscopes.2⟩
  · exact absurd h (by simp)

/-- A socket whose handshake is complete, and that is closed from neither side. -/
def Socket.live (socket : Socket) : Bool :=
  socket.handshakeComplete && !socket.closedByClient && !socket.ended

/-- A client that is connected has the socket of an attempt that has succeeded, with a handshake
that was accepted, after which no other has; it was not shut down; and no two sockets are live. -/
structure Owned (connection : Connection) : Prop where
  attempt : connection.connected = true → ∃ n socket hello, connection.socket = some n ∧
    connection.sockets.get n = some socket ∧ socket.outcome = some (.ok ()) ∧
    socket.hello = some hello ∧ hello.Accepted
  last : connection.connected = true → ∀ n m socket, connection.socket = some n → n < m →
    connection.sockets.get m = some socket → socket.outcome ≠ some (.ok ())
  shutdown : connection.connected = true → connection.shutdown = false
  one : ∀ n m socket socket', connection.sockets.get n = some socket →
    connection.sockets.get m = some socket' → socket.live = true → socket'.live = true → n = m

lemma ConnectionOk.owned {connection : Connection} (h : ConnectionOk connection) :
    Owned connection := by
  constructor
  case attempt =>
    intro hconnected
    rw [h.field] at hconnected
    obtain ⟨n, hn⟩ := Option.isSome_iff_exists.mp hconnected
    obtain ⟨socket, hsocket, hcomplete⟩ := h.owner n hn
    obtain ⟨hello, hhello, haccept⟩ := h.hello n socket hsocket hcomplete
    exact ⟨n, socket, hello, hn, hsocket, (h.complete n socket hsocket).mp hcomplete, hhello,
      accepted_of_ok haccept⟩
  case last =>
    intro _ n m socket hn hm hsocket houtcome
    have hcomplete := (h.complete m socket hsocket).mpr houtcome
    rw [h.latest n m socket hn hm hsocket] at hcomplete
    exact absurd hcomplete (by simp)
  case shutdown => exact h.shutdown
  case one =>
    intro n m socket socket' hsocket hsocket' hlive hlive'
    simp only [Socket.live, Bool.and_eq_true, Bool.not_eq_true'] at hlive hlive'
    have hn := h.opens n socket hsocket hlive.1.1 hlive.1.2 hlive.2
    have hm := h.opens m socket' hsocket' hlive'.1.1 hlive'.1.2 hlive'.2
    exact Option.some.inj (hn.symm.trans hm)

/-- **Connection ownership**: in every run whose sockets stay out of the connections of others, the
client is connected only with the socket of the last attempt that has succeeded and before it is
shut down, at most one socket is live, and no event of another socket changes the client. -/
theorem connection_owned (options : ClientOptions) (events : List ClientEvent)
    (h : (clientMachine options).EachStep SoundSocketEvent .initial events) :
    (clientMachine options).Always (fun client => Owned client.connection) .initial events ∧
      (clientMachine options).EachStep (KeepsOut options) .initial events :=
  ⟨(EventMachine.always_of_eachStep
      (fun client event hok hsound => connectionOk_step options client event hok hsound)
      connectionOk_initial h).mono fun _ hok => hok.owned,
    EventMachine.eachStep_of_eachStep
      (fun client event hok hsound => connectionOk_step options client event hok hsound)
      (fun client event hok hsound => keepsOut_of_sound options client event hok hsound)
      connectionOk_initial h⟩

/-- A response the client does not know ends the connection, and the client connects anew when the
socket has reported its close. -/
def reconnectedRun : List ClientEvent :=
  connectedRun ++ [.message 0 (some (.res "unknown" true .undefined .undefined)), .close 0 0,
    .message 1 (some sampleHello), .connectStep 0, .connectFinally]

theorem connection_owned_reconnected :
    (clientMachine sampleClientOptions).EachStep SoundSocketEvent .initial reconnectedRun ∧
      (clientMachine sampleClientOptions).Always (fun client => Owned client.connection) .initial
        reconnectedRun ∧
      (clientMachine sampleClientOptions).EachStep (KeepsOut sampleClientOptions) .initial
        reconnectedRun := by
  have hsound : (clientMachine sampleClientOptions).EachStep SoundSocketEvent .initial
      reconnectedRun := by decide
  exact ⟨hsound, connection_owned sampleClientOptions reconnectedRun hsound⟩

/-- The client has connected anew before the socket it has given up reports its close. -/
def lateClose : List ClientEvent :=
  connectedRun ++ [.message 0 (some (.res "unknown" true .undefined .undefined)),
    .ensureConnected 0, .message 1 (some sampleHello), .connectStep 0, .connectFinally, .close 0 0,
    .message 2 (some sampleHello)]

/-- Two sockets are live. -/
theorem late_close_drops_connection :
    ¬ ((clientMachine sampleClientOptions).Always (fun client => Owned client.connection) .initial
        lateClose ∧
      (clientMachine sampleClientOptions).EachStep (KeepsOut sampleClientOptions) .initial
        lateClose) := by
  have hlive : ∀ n ∈ [1, 2], (((clientMachine sampleClientOptions).outcome .initial
      lateClose).connection.sockets.get n).map Socket.live = some true := by decide
  rintro ⟨hall, -⟩
  obtain ⟨socket, hsocket, hlive₁⟩ := Option.map_eq_some_iff.mp (hlive 1 (by decide))
  obtain ⟨socket', hsocket', hlive₂⟩ := Option.map_eq_some_iff.mp (hlive 2 (by decide))
  exact absurd (hall.outcome.one 1 2 socket socket' hsocket hsocket' hlive₁ hlive₂) (by decide)

end Opzava.GatewayBroker
