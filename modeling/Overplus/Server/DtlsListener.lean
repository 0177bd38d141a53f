import Overplus.Library.Table
import Overplus.Server.DtlsSteps

/-!
# The DTLS listener

`DtlsListener` as a machine, together with the sessions it creates. A session is an object,
named by its place in the order of creation, and `sessions_` maps an endpoint to one of them.
A session's own code runs inside a step and calls `on_destroy_`, which removes an entry of
`sessions_`, as often as it records that call. An object lives as long as its entry or an
operation of its own refers to it; the step that deletes it runs the destructor, which calls
`stop` once more.
-/
namespace Overplus.Server

/-- A session object. -/
structure Hosted where
  /-- `client_ep_`. -/
  clientEp : Endpoint
  /-- The rest of the session. -/
  session : DtlsServerSession
  /-- The object was deleted. -/
  deleted : Bool := false

/-- `DtlsListener` and the session objects. -/
structure DtlsListener where
  /-- `sessions_`. -/
  sessions : List (Endpoint × Nat) := []
  /-- Session objects in the order of their creation. -/
  heap : List Hosted := []
  /-- `dtls_ctx_` is set. -/
  dtlsCtx : Bool
  /-- The receive of `do_receive` is in flight. -/
  receiving : Bool := true
  /-- The process was ended by an exception or a stray read. -/
  crashed : Bool := false

/-- Calls of `on_destroy_` that a session has made on the way from one state to another. -/
def destroyCalls (before after : DtlsServerSession) : Nat :=
  (after.trace.drop before.trace.length).count .destroyed

namespace DtlsListener

/-- `remove_session`. -/
def removeSession (listener : DtlsListener) (endpoint : Endpoint) : DtlsListener :=
  { listener with sessions := listener.sessions.filter fun entry => entry.1 ≠ endpoint }

/-- Store a session object after its code has run; each call of `on_destroy_` it made has
called `remove_session`. -/
def ranSession (listener : DtlsListener) (id : Nat) (hosted : Hosted) (next : DtlsServerSession) :
    DtlsListener :=
  (fun listener => listener.removeSession hosted.clientEp)^[destroyCalls hosted.session next]
    { listener with
      heap := listener.heap.set id { hosted with session := next }
      crashed := listener.crashed || next.crashed }

/-- `sessions_[sender_ep_] = session` for a new session. -/
def insertSession (listener : DtlsListener) (hosted : Hosted) : DtlsListener :=
  { listener with
    sessions := (hosted.clientEp, listener.heap.length) ::
      listener.sessions.filter fun entry => entry.1 ≠ hosted.clientEp
    heap := listener.heap ++ [hosted] }

/-- The handler of a received datagram; `ssl` says whether `SSL_new` succeeds for a new
session. -/
def onReceive (listener : DtlsListener) (sha224 : Bytes → Bytes) (config : ServerConfig)
    (sender : Endpoint) (ssl : Bool) (answers : Answers) : DtlsListener :=
  match listener.sessions.lookup sender with
  | some id =>
    match listener.heap[id]? with
    | some hosted => listener.ranSession id hosted (hosted.session.onDatagram sha224 config answers)
    | none => listener
  | none =>
    let hosted : Hosted := ⟨sender, .created (listener.dtlsCtx && ssl), false⟩
    (listener.insertSession hosted).ranSession listener.heap.length hosted
      (hosted.session.onDatagram sha224 config answers)

/-- `session->stop()` for an entry of the copied map. -/
def stopEntry (listener : DtlsListener) (entry : Endpoint × Nat) : DtlsListener :=
  match listener.heap[entry.2]? with
  | some hosted => listener.ranSession entry.2 hosted hosted.session.stop
  | none => listener

/-- `stop`: the map is moved away before its sessions are stopped. -/
def stop (listener : DtlsListener) : DtlsListener :=
  { listener.sessions.foldl stopEntry { listener with sessions := [] } with dtlsCtx := false }

/-- Neither an entry nor an operation in flight refers to the object. -/
def unreferenced (listener : DtlsListener) (id : Nat) (hosted : Hosted) : Bool :=
  hosted.session.pending.isEmpty && listener.sessions.all fun entry => entry.2 != id

end DtlsListener

/-- What can happen to a listener and its sessions. -/
inductive ListenerEvent where
  /-- A datagram arrives. -/
  | datagram (sender : Endpoint) (ssl : Bool) (answers : Answers)
  /-- The receive completes with `operation_aborted`. -/
  | receiveAborted
  /-- The receive completes with another error and is started again. -/
  | receiveFailed
  /-- An operation of a session completes. -/
  | completed (id : Nat) (op : DtlsOp) (result : DtlsResult) (answers : Answers)
  /-- A session object is deleted. -/
  | deleted (id : Nat)
  /-- `stop` is called. -/
  | stop

/-- A listener after `start`. -/
def DtlsListener.started (dtlsCtx : Bool) : DtlsListener := { dtlsCtx := dtlsCtx }

/-- One event. -/
def DtlsListener.step (sha224 : Bytes → Bytes) (config : ServerConfig) (listener : DtlsListener)
    (event : ListenerEvent) : Option DtlsListener :=
  if listener.crashed then none
  else match event with
  | .datagram sender ssl answers =>
    if listener.receiving then some (listener.onReceive sha224 config sender ssl answers) else none
  | .receiveAborted =>
    if listener.receiving then some { listener with receiving := false } else none
  | .receiveFailed => if listener.receiving then some listener else none
  | .completed id op result answers =>
    (listener.heap[id]?).bind fun hosted =>
      (hosted.session.step sha224 config (.completed op result answers)).map
        (listener.ranSession id hosted)
  | .deleted id =>
    (listener.heap[id]?).bind fun hosted =>
      if hosted.deleted = false ∧ listener.unreferenced id hosted = true then
        some (listener.ranSession id { hosted with deleted := true } hosted.session.stop)
      else none
  | .stop => some listener.stop

end Overplus.Server
