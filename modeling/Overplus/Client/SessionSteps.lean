import Overplus.Client.Server

/-!
# Steps of the client session

What the handlers of a session do to the table of relays. Most leave it alone; `destroy` may
remove the session's entry, and UDP ASSOCIATE adds one. One lemma says which of the three a
completed operation does, and which operations it starts.
-/
namespace Overplus.Client

/-- Operations before the application's request has been decoded. -/
def Op.isEarly : Op → Bool
  | .firstRead | .greetingWrite | .requestRead | .headerRead _ => true
  | _ => false

/-- A session's part in the table of relays and in the statistics, and the channel it leaves
alone. -/
structure Registry where
  /-- `relays_`. -/
  relays : List (UInt16 × Nat)
  /-- `next_session_id_`. -/
  nextSessionId : UInt16
  /-- Number of ids allocated so far. -/
  allocated : Nat
  /-- Number of the session. -/
  number : Nat
  /-- `destroyed_`. -/
  destroyed : Bool
  /-- `session_id_`. -/
  sessionId : UInt16
  /-- `udp_relay_`. -/
  relay : Option UdpRelay
  /-- `dtls_`. -/
  dtls : Option DtlsChannel
  /-- `ProxyStats::instance()`. -/
  stats : ProxyStats

namespace Registry

/-- The part of `destroy`. -/
def destroy (registry : Registry) : Registry :=
  if registry.destroyed then registry
  else
    { registry with
      relays := if registry.sessionId ≠ 0 then
          registry.relays.filter fun entry => entry.1 ≠ registry.sessionId
        else registry.relays
      destroyed := true
      relay := none
      stats := registry.stats.sessionDestroyed registry.number }

/-- The part of UDP ASSOCIATE. -/
def register (registry : Registry) : Registry :=
  { registry with
    relays := (registry.nextSessionId, registry.number) ::
      registry.relays.filter fun entry => entry.1 ≠ registry.nextSessionId
    nextSessionId := registry.nextSessionId + 1
    allocated := registry.allocated + 1
    sessionId := registry.nextSessionId
    relay := some (UdpRelay.start registry.nextSessionId) }

/-- `destroy` allocates nothing, adds nothing to the table and leaves the channel alone. -/
theorem destroy_keeps (registry : Registry) :
    registry.destroy.nextSessionId = registry.nextSessionId ∧
      registry.destroy.allocated = registry.allocated ∧ registry.destroy.dtls = registry.dtls ∧
      registry.destroy.relays ⊆ registry.relays ∧
      (registry.destroy.relay = registry.relay ∨ registry.destroy.relay = none) := by
  unfold destroy
  split
  · exact ⟨rfl, rfl, rfl, List.Subset.refl _, .inl rfl⟩
  · refine ⟨rfl, rfl, rfl, ?_, .inr rfl⟩
    dsimp only
    split
    · exact List.filter_subset_self _
    · exact List.Subset.refl _

end Registry

namespace Scope

variable {config : ClientConfig} {world : World} {scope next : Scope} {op : Op} {result : Result}
  {effect : Effect}

/-- A session's part in the table of relays. -/
def registry (scope : Scope) : Registry where
  relays := scope.server.relays
  nextSessionId := scope.server.nextSessionId
  allocated := scope.server.allocated
  number := scope.session.number
  destroyed := scope.session.destroyed
  sessionId := scope.session.sessionId
  relay := scope.session.udpRelay
  dtls := scope.server.dtls
  stats := scope.server.stats

section Frame

variable (data : Bytes) (request : Request) (http : HttpRequest)

@[simp]
theorem registry_await : (scope.await op).registry = scope.registry := rfl

@[simp]
theorem registry_emit : (scope.emit effect).registry = scope.registry := rfl

@[simp]
theorem registry_crash : scope.crash.registry = scope.registry := rfl

@[simp]
theorem registry_setMessage : (scope.setMessage data).registry = scope.registry := rfl

@[simp]
theorem registry_setResponseSent : scope.setResponseSent.registry = scope.registry := rfl

@[simp]
theorem registry_takeHttpRequest : (scope.takeHttpRequest http).registry = scope.registry := rfl

@[simp]
theorem await_pending : (scope.await op).session.pending = scope.session.pending ++ [op] := rfl

@[simp]
theorem emit_pending : (scope.emit effect).session.pending = scope.session.pending := rfl

@[simp]
theorem setMessage_pending : (scope.setMessage data).session.pending = scope.session.pending := rfl

@[simp]
theorem setResponseSent_pending :
    scope.setResponseSent.session.pending = scope.session.pending := rfl

@[simp]
theorem takeHttpRequest_pending :
    (scope.takeHttpRequest http).session.pending = scope.session.pending := rfl

end Frame

/-- `destroy` seen from the table. -/
@[simp]
theorem registry_destroy : scope.destroy.registry = scope.registry.destroy := by
  by_cases dead : scope.session.destroyed
  · have same : scope.destroy = scope := if_pos dead
    have kept : scope.registry.destroy = scope.registry := if_pos dead
    rw [same, kept]
  · by_cases none : scope.session.sessionId = 0
    · simp [destroy, unregister, registry, Registry.destroy, dead, none, Server.sessionDestroyed]
    · simp [destroy, unregister, registry, Registry.destroy, dead, none, Server.sessionDestroyed,
        Server.unregisterRelay]

@[simp]
theorem destroy_pending : scope.destroy.session.pending = scope.session.pending := by
  unfold destroy unregister
  dsimp only
  split
  · rfl
  · split <;> rfl

/-- What `destroy` leaves alone. -/
theorem destroy_session (scope : Scope) : ∃ dead relay,
    scope.destroy.session = { scope.session with destroyed := dead, udpRelay := relay } := by
  unfold destroy
  split
  · exact ⟨_, _, rfl⟩
  · unfold unregister
    dsimp only
    split <;> exact ⟨true, none, rfl⟩

/-- Every handler destroys the session on an error. -/
theorem handle_failed (config : ClientConfig) (world : World) {op : Op} (scope : Scope) :
    scope.handle config world op .failed = scope.destroy := by
  cases op <;> rfl

/-- `destroy` changes the server in its table and its statistics only. -/
theorem destroy_server (scope : Scope) : ∃ relays stats,
    scope.destroy.server = { scope.server with relays, stats } := by
  unfold destroy unregister
  dsimp only
  split
  · exact ⟨_, _, rfl⟩
  · split <;> exact ⟨_, _, rfl⟩

/-- Registration seen from the table. -/
@[simp]
theorem registry_register : scope.register.registry = scope.registry.register := rfl

@[simp]
theorem register_pending : scope.register.session.pending = scope.session.pending := rfl

/-- What the handler of an operation did to the table, and which operations it started. -/
inductive Outcome (scope : Scope) (op : Op) (next : Scope) : Prop
  /-- The table is as it was. An early operation is started by an early one and alone; none is
  started where an exception ends the process. -/
  | plain (added : List Op) (same : next.registry = scope.registry)
    (pending : next.session.pending = scope.session.pending ++ added)
    (early : ∀ other ∈ added, other.isEarly = true → op.isEarly = true ∧ added = [other])
    (busy : next.server.crashed = false → added ≠ [])
  /-- The session was destroyed. -/
  | destroyed (same : next.registry = scope.registry.destroy)
    (pending : next.session.pending = scope.session.pending)
  /-- A relay was registered. -/
  | registered (request : op = .requestRead) (same : next.registry = scope.registry.register)
    (pending : next.session.pending = scope.session.pending ++ [.associateWrite])

/-- A handler may begin by changing other parts of the session. -/
theorem Outcome.congr {start : Scope} (outcome : Outcome start op next)
    (same : start.registry = scope.registry)
    (pending : start.session.pending = scope.session.pending) : Outcome scope op next := by
  cases outcome with
  | plain added kept started early busy =>
    exact .plain added (kept.trans same) (by rw [started, pending]) early busy
  | destroyed kept started => exact .destroyed (by rw [kept, same]) (started.trans pending)
  | registered request kept started =>
    exact .registered request (by rw [kept, same]) (by rw [started, pending])

/-- An exception ends the process. -/
theorem Outcome.crash : Outcome scope op scope.crash :=
  .plain [] rfl (List.append_nil _).symm (by simp) (by simp [Scope.crash])

/-- Nothing happens to the table, and one operation is started. -/
theorem Outcome.start (other : Op) (same : next.registry = scope.registry)
    (pending : next.session.pending = scope.session.pending ++ [other])
    (early : other.isEarly = true → op.isEarly = true) : Outcome scope op next := by
  refine .plain [other] same pending ?_ fun _ => List.cons_ne_nil _ _
  intro third member isEarly
  rw [List.mem_singleton.mp member] at isEarly ⊢
  exact ⟨early isEarly, rfl⟩

/-- The session is destroyed. -/
theorem Outcome.destroy : Outcome scope op scope.destroy :=
  .destroyed registry_destroy destroy_pending

/-- The V request is written. -/
theorem Outcome.doSentVReq : Outcome scope op scope.doSentVReq := by
  refine .start .vRequestWrite ?_ ?_ fun isEarly => by cases isEarly
  · simp [Scope.doSentVReq]
  · simp [Scope.doSentVReq]

/-- The reply to the application is written, or an exception ends the process. -/
theorem Outcome.writeSocks5Response : Outcome scope op (scope.writeSocks5Response world) := by
  unfold Scope.writeSocks5Response
  split
  · exact .start .replyWrite (by simp) (by simp) fun isEarly => by cases isEarly
  · exact .crash

/-- Both ends of the tunnel are read. -/
theorem Outcome.readBoth : Outcome scope op scope.readBoth := by
  refine .plain [.localRead, .upstreamRead] rfl (List.append_assoc _ _ _) ?_ fun _ =>
    List.cons_ne_nil _ _
  intro other member isEarly
  rcases List.mem_cons.mp member with rfl | last
  · cases isEarly
  · rw [List.mem_singleton.mp last] at isEarly
    cases isEarly

/-- An association is refused. -/
theorem Outcome.refuse : Outcome scope op (scope.refuse world) := by
  unfold Scope.refuse
  dsimp only
  split
  · exact Outcome.destroy.congr rfl rfl
  · exact .crash

/-- The first bytes choose the protocol. -/
theorem Outcome.onFirstRead (length : Nat) :
    Outcome scope .firstRead (scope.onFirstRead length) := by
  unfold Scope.onFirstRead
  dsimp only
  split
  · split
    · exact .destroy
    · unfold writeSock5HanshakeReply
      split
      · exact .start _ rfl rfl fun _ => rfl
      · exact .destroy
  · split
    · exact .start _ rfl rfl fun _ => rfl
    · exact .destroy

/-- A SOCKS5 request is served or refused. -/
theorem Outcome.onRequestRead (length : Nat) :
    Outcome scope .requestRead (scope.onRequestRead config world length) := by
  unfold Scope.onRequestRead
  dsimp only
  generalize scope.session.socks5Req.unsteam scope.session.inBuf length = decoded
  suffices kept : Outcome (scope.setRequest decoded.2) .requestRead _ from kept.congr rfl rfl
  split
  · split
    · split
      · unfold doHandleSocks5UdpAssociate
        split
        · split
          · exact .registered rfl (by simp) (by simp)
          · exact .crash
        · exact .refuse
      · exact .refuse
    · exact .start .resolve (by simp [doResolve]) (by simp [doResolve]) fun _ => rfl
  · exact .destroy

/-- An HTTP request is served or refused. -/
theorem Outcome.onHeaderRead (buf : Bytes) (initial : Bytes) :
    Outcome scope (.headerRead initial) (scope.onHeaderRead buf) := by
  unfold Scope.onHeaderRead
  split
  · exact .crash
  · split
    · refine .start .httpWrite ?_ ?_ fun isEarly => by cases isEarly
      · simp [writeHttpConnectResponse]
      · simp [writeHttpConnectResponse]
    · exact .destroy

/-- **What a completed operation does** to the table of relays. -/
theorem handle_outcome (admitted : op.admits result = true) :
    Outcome scope op (scope.handle config world op result) := by
  cases result with
  | failed =>
    have failed : scope.handle config world op .failed = scope.destroy := by cases op <;> rfl
    rw [failed]
    exact .destroy
  | done =>
    cases op with
    | greetingWrite =>
      change Outcome scope _ scope.onGreetingWritten
      unfold onGreetingWritten
      split
      · exact .destroy
      · exact .start _ rfl rfl fun _ => rfl
    | connect =>
      change Outcome scope _ (scope.onConnected world)
      unfold onConnected
      split
      · exact .start _ rfl rfl fun isEarly => by cases isEarly
      · exact .crash
    | tlsHandshake =>
      change Outcome scope _ scope.afterSslHandshake
      unfold afterSslHandshake
      split
      · exact .doSentVReq
      · exact .start .wsHandshake rfl rfl fun isEarly => by cases isEarly
    | vRequestWrite =>
      change Outcome scope _ (scope.onVRequestWritten world)
      unfold onVRequestWritten
      suffices kept : Outcome scope.setForward .vRequestWrite _ from kept.congr rfl rfl
      dsimp only
      split
      · exact .readBoth
      · exact .writeSocks5Response
    | wsHandshake => exact .doSentVReq
    | replyWrite =>
      suffices kept : Outcome scope.setForward .replyWrite scope.setForward.readBoth from
        kept.congr rfl rfl
      exact .readBoth
    | httpWrite | upstreamWrite | localWrite | associateWrite =>
      exact .start _ rfl rfl fun isEarly => by cases isEarly
    | _ => cases admitted
  | read data =>
    cases op with
    | firstRead =>
      suffices kept : Outcome (scope.fillIn data) .firstRead _ from kept.congr rfl rfl
      exact .onFirstRead _
    | requestRead =>
      suffices kept : Outcome (scope.fillIn data) .requestRead _ from kept.congr rfl rfl
      exact .onRequestRead _
    | headerRead initial => exact .onHeaderRead _ _
    | localRead =>
      suffices kept : Outcome (scope.fillIn data) .localRead _ from kept.congr rfl rfl
      exact .start .upstreamWrite rfl rfl fun isEarly => by cases isEarly
    | upstreamRead =>
      suffices kept : Outcome (scope.fillOut data) .upstreamRead _ from kept.congr rfl rfl
      exact .start .localWrite rfl rfl fun isEarly => by cases isEarly
    | controlRead => exact .start .controlRead rfl rfl fun isEarly => by cases isEarly
    | _ => cases admitted
  | resolved results =>
    cases op with
    | resolve =>
      change Outcome scope _ (scope.onResolved results)
      unfold onResolved
      split
      · exact .destroy
      · exact .start _ rfl rfl fun isEarly => by cases isEarly
    | _ => cases admitted

section Trace

@[simp]
theorem destroy_trace : scope.destroy.session.trace = scope.session.trace := by
  obtain ⟨dead, relay, same⟩ := destroy_session scope
  rw [same]

/-- Refusing an association tells the application. -/
theorem refuse_extends (scope : Scope) :
    scope.session.trace <+: (scope.refuse world).session.trace := by
  unfold refuse
  dsimp only
  split
  · rw [destroy_trace]
    exact List.prefix_append _ _
  · exact List.prefix_rfl

/-- The first bytes of the application lead to the greeting at most. -/
theorem onFirstRead_extends (scope : Scope) (length : Nat) :
    scope.session.trace <+: (scope.onFirstRead length).session.trace := by
  unfold onFirstRead
  dsimp only
  split
  · split
    · rw [destroy_trace]
    · unfold writeSock5HanshakeReply
      split
      · exact List.prefix_append _ _
      · rw [destroy_trace]
  · split
    · exact List.prefix_rfl
    · rw [destroy_trace]

/-- A SOCKS5 request leads to a resolution or to an answer. -/
theorem onRequestRead_extends (scope : Scope) (length : Nat) :
    scope.session.trace <+: (scope.onRequestRead config world length).session.trace := by
  unfold onRequestRead
  dsimp only
  generalize scope.session.socks5Req.unsteam scope.session.inBuf length = decoded
  split
  · split
    · split
      · unfold doHandleSocks5UdpAssociate
        split
        · split
          · exact List.prefix_append _ _
          · exact List.prefix_rfl
        · exact refuse_extends (scope.setRequest decoded.2)
      · exact refuse_extends (scope.setRequest decoded.2)
    · exact (List.prefix_append _ _).trans (List.prefix_append _ _)
  · rw [destroy_trace]
    exact List.prefix_rfl

/-- An HTTP request leads to its answer. -/
theorem onHeaderRead_extends (buf : Bytes) :
    scope.session.trace <+: (scope.onHeaderRead buf).session.trace := by
  unfold onHeaderRead
  split
  · exact List.prefix_rfl
  · split
    · exact (List.prefix_append _ _).trans (List.prefix_append _ _)
    · rw [destroy_trace]

/-- **Every handler only adds to the trace** of its session. -/
theorem handle_extends (scope : Scope) (admitted : op.admits result = true) :
    scope.session.trace <+: (scope.handle config world op result).session.trace := by
  cases result with
  | failed => rw [handle_failed, destroy_trace]
  | done =>
    cases op with
    | greetingWrite =>
      change _ <+: scope.onGreetingWritten.session.trace
      unfold onGreetingWritten
      split
      · rw [destroy_trace]
      · exact List.prefix_rfl
    | connect =>
      change _ <+: (scope.onConnected world).session.trace
      unfold onConnected
      split <;> exact List.prefix_rfl
    | tlsHandshake =>
      change _ <+: scope.afterSslHandshake.session.trace
      unfold afterSslHandshake
      split
      · exact List.prefix_append _ _
      · exact List.prefix_rfl
    | vRequestWrite =>
      change _ <+: (scope.onVRequestWritten world).session.trace
      unfold onVRequestWritten writeSocks5Response
      dsimp only
      split
      · exact List.prefix_rfl
      · split
        · exact List.prefix_append _ _
        · exact List.prefix_rfl
    | httpWrite | wsHandshake => exact List.prefix_append _ _
    | replyWrite | upstreamWrite | localWrite | associateWrite => exact List.prefix_rfl
    | _ => cases admitted
  | read data =>
    cases op with
    | firstRead => exact onFirstRead_extends (scope.fillIn data) data.length
    | requestRead => exact onRequestRead_extends (scope.fillIn data) data.length
    | headerRead initial => exact onHeaderRead_extends (initial ++ data)
    | localRead | upstreamRead => exact List.prefix_append _ _
    | controlRead => exact List.prefix_rfl
    | _ => cases admitted
  | resolved results =>
    cases op with
    | resolve =>
      change _ <+: (scope.onResolved results).session.trace
      unfold onResolved
      split
      · rw [destroy_trace]
      · exact List.prefix_append _ _
    | _ => cases admitted

end Trace

end Scope

/-- A session of a running process handles one of its operations. -/
theorem Process.step_completed {config : ClientConfig} {client : Process} {number : Nat}
    {session : Session} {op : Op} {result : Result} {world : World}
    (running : client.server.crashed = false) (found : client.sessions[number]? = some session)
    (member : op ∈ session.pending) (admitted : op.admits result = true) :
    client.step config (.completed number op result world) = some (client.putScope number
      ((Scope.complete ⟨client.server, session⟩ op).handle config world op result)) := by
  unfold Process.step Process.stepEvent
  rw [if_neg (by simp [running])]
  simp only [found]
  exact if_pos ⟨member, admitted⟩

/-- The newest session handles one of its operations. -/
theorem Process.step_last {config : ClientConfig} (client : Process) {before : List Session}
    {session : Session} {op : Op} {result : Result} {world : World} {scope : Scope}
    (running : client.server.crashed = false) (sessions : client.sessions = before ++ [session])
    (member : op ∈ session.pending) (admitted : op.admits result = true)
    (handled : (Scope.complete ⟨client.server, session⟩ op).handle config world op result = scope) :
    client.step config (.completed before.length op result world) =
      some { client with server := scope.server, sessions := before ++ [scope.session] } := by
  have found : client.sessions[before.length]? = some session := by
    rw [sessions, List.getElem?_concat_length]
  have put : client.sessions.set before.length scope.session = before ++ [scope.session] := by
    rw [sessions, List.set_append_right _ _ (Nat.le_refl _)]
    simp
  rw [Process.step_completed running found member admitted, handled, Process.putScope, put]

/-- An operation that is not in flight does not complete. -/
theorem Process.step_idle {config : ClientConfig} {client : Process} {number : Nat}
    {session : Session} {op : Op} {result : Result} {world : World}
    (found : client.sessions[number]? = some session) (idle : op ∉ session.pending) :
    client.step config (.completed number op result world) = none := by
  unfold Process.step Process.stepEvent
  split
  · rfl
  · dsimp only
    rw [found]
    exact if_neg fun enabled => idle enabled.1

section History

/-- Completions of one session's operations, in order. -/
def completions (number : Nat) (events : List Event) : List (Op × Result) :=
  events.filterMap fun event => match event with
    | .completed owner op result _ => if owner = number then some (op, result) else none
    | _ => none

/-- Completions are collected event by event. -/
theorem completions_append (number : Nat) (before after : List Event) :
    completions number (before ++ after) = completions number before ++ completions number after :=
  List.filterMap_append

/-- A session as `accept` builds it, before it starts. -/
def Session.accepted (config : ClientConfig) (number : Nat) : Session where
  number := number
  kind := if config.useWebSocket then .websocket else .tls
  remoteHost := config.remoteAddr
  remotePort := config.remotePort
  userName := config.userName
  password := config.password

/-- Behind a connection accepted, a session found was there or is the new one. -/
theorem Process.accept_cases {config : ClientConfig} {client : Process} {world : World}
    {index : Nat} {session : Session}
    (found : (client.accept config world).sessions[index]? = some session) :
    client.sessions[index]? = some session ∨ index = client.sessions.length ∧
      session = (Scope.start ⟨client.server, .accepted config client.sessions.length⟩
        world).session :=
  getElem?_concat_cases found

/-- The completions so far are those of accepted sessions, and each session is related to its
own. -/
structure Related (relates : List (Op × Result) → Session → Prop) (past : List Event)
    (client : Process) : Prop where
  /-- No completion belongs to a session to come. -/
  known : ∀ number, client.sessions.length ≤ number → completions number past = []
  /-- Each session is related to its completions. -/
  each : ∀ (number : Nat) (session : Session), client.sessions[number]? = some session →
    relates (completions number past) session

variable {config : ClientConfig} {relates : List (Op × Result) → Session → Prop}

/-- One event keeps every session related to its completions. -/
theorem Related.step
    (starts : ∀ server number world,
      relates [] (Scope.start ⟨server, .accepted config number⟩ world).session)
    (keeps : ∀ past server session op result world, relates past session → op ∈ session.pending →
      op.admits result = true → relates (past ++ [(op, result)])
        ((Scope.complete ⟨server, session⟩ op).handle config world op result).session)
    (blind : ∀ past session relay, relates past session →
      relates past { session with udpRelay := relay })
    (past : List Event) (client : Process) (event : Event) (next : Process)
    (related : Related relates past client) (stepped : client.step config event = some next) :
    Related relates (past ++ [event]) next := by
  rcases Process.step_cases stepped with ⟨world, rfl, rfl⟩ |
    ⟨number, op, result, world, session, rfl, found, member, admitted, rfl⟩ | ⟨other, frame⟩
  · have same (number : Nat) : completions number (past ++ [.accept world]) =
        completions number past := by
      rw [completions_append]
      exact List.append_nil _
    refine ⟨?_, ?_⟩
    · intro number beyond
      rw [same]
      refine related.known number ?_
      have more : client.sessions.length + 1 ≤ number := by
        simpa [Process.accept] using beyond
      exact Nat.le_of_succ_le more
    · intro number session found
      rw [same]
      rcases Process.accept_cases found with old | ⟨rfl, rfl⟩
      · exact related.each number session old
      · rw [related.known _ (Nat.le_refl _)]
        exact starts _ _ _
  · have own : completions number (past ++ [.completed number op result world]) =
        completions number past ++ [(op, result)] := by
      rw [completions_append]
      simp [completions]
    have others {third : Nat} (different : third ≠ number) :
        completions third (past ++ [.completed number op result world]) =
          completions third past := by
      rw [completions_append]
      simp [completions, different.symm]
    have inside : number < client.sessions.length := (List.getElem?_eq_some_iff.mp found).1
    refine ⟨?_, ?_⟩
    · intro third beyond
      have outside : client.sessions.length ≤ third := by simpa [Process.putScope] using beyond
      rw [others (by omega)]
      exact related.known third outside
    · intro third changed there
      rcases getElem?_set_cases there with ⟨rfl, rfl⟩ | ⟨different, old⟩
      · rw [own]
        exact keeps _ _ _ _ _ _ (related.each third session found) member admitted
      · rw [others different]
        exact related.each third changed old
  · have same (number : Nat) : completions number (past ++ [event]) =
        completions number past := by
      rw [completions_append]
      cases event with
      | completed => cases other
      | _ => exact List.append_nil _
    refine ⟨?_, ?_⟩
    · intro number beyond
      have length : next.sessions.length = client.sessions.length := by
        simpa using congrArg List.length frame.sessions
      rw [same]
      exact related.known number (length ▸ beyond)
    · intro number session found
      obtain ⟨old, isOld, outlined⟩ := frame.back found
      rw [same, Process.eq_of_outline outlined]
      exact blind _ _ _ (related.each number old isOld)

/-- **A session follows its own completions.** A relation between the completions of a session and
the session that holds when it starts, and is kept by its handlers and by the work of the relays,
holds in every run. -/
theorem session_history {ssl : Bool} {events : List Event} {client : Process} {number : Nat}
    {session : Session}
    (starts : ∀ server number world,
      relates [] (Scope.start ⟨server, .accepted config number⟩ world).session)
    (keeps : ∀ past server session op result world, relates past session → op ∈ session.pending →
      op.admits result = true → relates (past ++ [(op, result)])
        ((Scope.complete ⟨server, session⟩ op).handle config world op result).session)
    (blind : ∀ past session relay, relates past session →
      relates past { session with udpRelay := relay })
    (ran : run (Process.step config) (Process.start config ssl) events = some client)
    (found : client.sessions[number]? = some session) :
    relates (completions number events) session := by
  have start : Related relates [] (Process.start config ssl) :=
    ⟨fun _ _ => rfl, fun _ _ none => by cases none⟩
  have related : Related relates ([] ++ events) client :=
    run_history (Related.step starts keeps blind) start ran
  exact related.each number session found

end History

/-- Accepting a connection counts its session, and may end the process. -/
theorem Process.accept_server (config : ClientConfig) (client : Process) (world : World) :
    ∃ stats crashed, (client.accept config world).server =
      { client.server with stats, crashed } := by
  unfold Process.accept Scope.start
  dsimp only
  split
  · exact ⟨_, _, rfl⟩
  · exact ⟨_, true, rfl⟩

/-- Ids are never given back to the counter. -/
theorem Process.step_allocated {config : ClientConfig} {client next : Process} {event : Event}
    (stepped : client.step config event = some next) :
    client.server.allocated ≤ next.server.allocated := by
  rcases step_cases stepped with ⟨world, -, rfl⟩ |
    ⟨number, op, result, world, session, -, found, member, admitted, rfl⟩ | ⟨-, frame⟩
  · obtain ⟨stats, crashed, server⟩ := accept_server config client world
    exact Nat.le_of_eq (congrArg Server.allocated server).symm
  · have outcome := @Scope.handle_outcome config world (Scope.complete ⟨client.server, session⟩ op)
      op result admitted
    cases outcome with
    | plain _ same _ _ _ => exact Nat.le_of_eq (congrArg Registry.allocated same).symm
    | destroyed same _ =>
      have kept := (congrArg Registry.allocated same).trans (Registry.destroy_keeps _).2.1
      exact Nat.le_of_eq kept.symm
    | registered _ same _ =>
      have more : _ = client.server.allocated + 1 := congrArg Registry.allocated same
      exact Nat.le_trans (Nat.le_succ _) (Nat.le_of_eq more.symm)
  · exact Nat.le_of_eq frame.allocated.symm

/-- The trace of a session is only added to. -/
theorem Process.step_extends {config : ClientConfig} {client next : Process} {event : Event}
    {number : Nat} {session : Session} (stepped : client.step config event = some next)
    (found : client.sessions[number]? = some session) :
    ∃ later, next.sessions[number]? = some later ∧ session.trace <+: later.trace := by
  rcases step_cases stepped with ⟨world, -, rfl⟩ |
    ⟨other, op, result, world, own, -, isOwn, member, admitted, rfl⟩ | ⟨-, frame⟩
  · have inside : number < client.sessions.length := (List.getElem?_eq_some_iff.mp found).1
    refine ⟨session, ?_, List.prefix_rfl⟩
    exact (List.getElem?_append_left inside).trans found
  · rw [getElem?_putScope isOwn]
    split
    · rename_i same
      obtain rfl : session = own := by simpa [same, isOwn] using found.symm
      exact ⟨_, rfl, Scope.handle_extends (Scope.complete ⟨client.server, session⟩ op) admitted⟩
    · exact ⟨session, found, List.prefix_rfl⟩
  · obtain ⟨later, isLater, outlined⟩ := frame.forth found
    refine ⟨later, isLater, ?_⟩
    rw [eq_of_outline outlined]

end Overplus.Client
