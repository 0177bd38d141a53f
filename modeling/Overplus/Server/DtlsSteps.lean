import Overplus.Server.DtlsServerSession

/-!
# Steps of the DTLS session

What an event does to a DTLS session, with its calls of OpenSSL summarised. A datagram of the
client is taken in quietly, stops the session, starts proxying, or brings a frame; a completed
operation sends to a resolved target, or a reply to the client.
-/
namespace Overplus.Server

/-- Effects that neither reach a target nor the client's relays. -/
def DtlsEffect.isQuiet : DtlsEffect → Bool
  | .openssl _ _ | .authRecord _ | .proxyRecord _ | .toClient _ => true
  | _ => false

namespace DtlsServerSession

/-- A session that differs in its state and in quiet effects. -/
def Quiet (before after : DtlsServerSession) : Prop :=
  ∃ effects state ssl authBuf crashed,
    after = { before with trace := before.trace ++ effects, state, ssl, authBuf, crashed } ∧
      ∀ effect ∈ effects, effect.isQuiet = true

variable {sha224 : Bytes → Bytes} {config : ServerConfig} {answers : Answers}
  {session middle next first second third : DtlsServerSession}

/-- Nothing happens. -/
theorem Quiet.refl (session : DtlsServerSession) : Quiet session session :=
  ⟨[], session.state, session.ssl, session.authBuf, session.crashed, by rw [List.append_nil],
    by simp⟩

/-- One thing after another. -/
theorem Quiet.trans (earlier : Quiet first second) (later : Quiet second third) :
    Quiet first third := by
  obtain ⟨before, _, _, _, _, rfl, quiet⟩ := earlier
  obtain ⟨after, state, ssl, authBuf, crashed, rfl, still⟩ := later
  refine ⟨before ++ after, state, ssl, authBuf, crashed, by rw [← List.append_assoc], ?_⟩
  intro effect member
  rcases List.mem_append.mp member with old | new
  · exact quiet effect old
  · exact still effect new

/-- The state changes. -/
theorem Quiet.set (session : DtlsServerSession) (state : DtlsState) (ssl : Bool) (authBuf : Bytes)
    (crashed : Bool) : Quiet session { session with state, ssl, authBuf, crashed } :=
  ⟨[], state, ssl, authBuf, crashed, by rw [List.append_nil], by simp⟩

/-- A quiet effect. -/
theorem Quiet.emit (session : DtlsServerSession) {effect : DtlsEffect}
    (quiet : effect.isQuiet = true) : Quiet session (session.emit effect) := by
  refine ⟨[effect], _, _, _, _, rfl, ?_⟩
  intro other member
  rwa [List.mem_singleton.mp member]

/-- A call of OpenSSL. -/
theorem Quiet.call (session : DtlsServerSession) (call : OpenSslCall) :
    Quiet session (session.call call) := .emit session rfl

/-- The output is drained. -/
theorem Quiet.drainWbio (session : DtlsServerSession) (drained : List Bytes) :
    Quiet session (session.drainWbio drained) := by
  obtain ⟨effects, drains, known⟩ := session.drainWbio_eq drained
  refine ⟨effects, _, _, _, _, drains, ?_⟩
  intro effect member
  rcases known effect member with rfl | ⟨datagram, rfl⟩ <;> rfl

/-- The constructor works quietly. -/
theorem created_quiet {ssl : Bool} {effect : DtlsEffect} (member : effect ∈ (created ssl).trace) :
    effect.isQuiet = true := by
  simp only [created_trace, List.mem_cons, List.not_mem_nil, or_false] at member
  rcases member with rfl | rfl | rfl | rfl <;> rfl

section SendToTarget

variable (session : DtlsServerSession) (endpoint : Endpoint) (payload : Bytes) (sessionId : UInt16)

@[simp]
theorem doSendToTarget_trace : (session.doSendToTarget endpoint payload sessionId).trace =
    session.trace ++ [.sendToTarget endpoint payload sessionId] := by
  unfold doSendToTarget
  dsimp only
  split <;> rfl

@[simp]
theorem doSendToTarget_pending : (session.doSendToTarget endpoint payload sessionId).pending =
    session.pending ++ [.targetSend] := by
  unfold doSendToTarget
  dsimp only
  split <;> rfl

@[simp]
theorem doSendToTarget_destroyed : (session.doSendToTarget endpoint payload sessionId).destroyed =
    session.destroyed := by
  unfold doSendToTarget
  dsimp only
  split <;> rfl

@[simp]
theorem doSendToTarget_table :
    (session.doSendToTarget endpoint payload sessionId).targetToSession =
      if sessionId = 0 then session.targetToSession
      else Function.update session.targetToSession endpoint (some sessionId) := by
  unfold doSendToTarget
  dsimp only
  split <;> rfl

end SendToTarget

/-- What an event does. -/
inductive Outcome (session : DtlsServerSession) : DtlsEvent → DtlsServerSession → Prop
  /-- A datagram is taken in. -/
  | quiet {answers : Answers} {next : DtlsServerSession} (same : Quiet session next) :
    Outcome session (.datagram answers) next
  /-- A datagram stops the session. -/
  | stopped {answers : Answers} {middle : DtlsServerSession} (same : Quiet session middle) :
    Outcome session (.datagram answers) middle.stop
  /-- A datagram brings the password. -/
  | proxying {answers : Answers} {middle : DtlsServerSession} (same : Quiet session middle) :
    Outcome session (.datagram answers) (middle.await .targetReceive)
  /-- A datagram brings a frame. -/
  | frame {answers : Answers} {middle : DtlsServerSession} {record : Bytes}
    {parsed : UdpFrame.Parsed} (same : Quiet session middle) (read : answers.read = .data record)
    (decoded : UdpFrame.parseFresh (record.drop 2) = .ok parsed)
    (accepted : parsed.accepted = true) :
    Outcome session (.datagram answers)
      (middle.onFrame answers (ofBe16 (record.getD 0 0) (record.getD 1 0)) parsed.frame)
  /-- An operation completes without consequence. -/
  | idle {op : DtlsOp} {result : DtlsResult} {answers : Answers} {next : DtlsServerSession}
    (member : op ∈ session.pending) (same : Quiet (session.complete op) next) :
    Outcome session (.completed op result answers) next
  /-- A receive is started again and nothing was sent to the client. -/
  | reading {answers : Answers} {result : DtlsResult} {middle : DtlsServerSession}
    (member : .targetReceive ∈ session.pending)
    (same : Quiet (session.complete .targetReceive) middle) :
    Outcome session (.completed .targetReceive result answers) middle.doReadTarget
  /-- A name is resolved. -/
  | resolved {domain payload : Bytes} {port sessionId : UInt16} {answers : Answers}
    {endpoint : Endpoint} {results : List Endpoint}
    (member : .resolve domain port payload sessionId ∈ session.pending)
    (chosen : results.head? = some endpoint) :
    Outcome session
      (.completed (.resolve domain port payload sessionId) (.resolved results) answers)
      (((session.complete (.resolve domain port payload sessionId)).emit
        (.putUdp (Session.dnsKey domain (decimal port.toNat)) endpoint)).doSendToTarget endpoint
          payload sessionId)
  /-- A target's datagram is sent to the client. -/
  | replied {answers : Answers} {sender : Endpoint} {data : Bytes}
    {before after : DtlsServerSession} (member : .targetReceive ∈ session.pending)
    (earlier : Quiet (session.complete .targetReceive) before)
    (later : Quiet (before.emit (.record (session.replyRecord sender data))) after) :
    Outcome session (.completed .targetReceive (.received sender data) answers) after.doReadTarget
  /-- `stop` is called. -/
  | stop : Outcome session .stop session.stop

/-- A record in state `AUTH`. -/
theorem onAuthRecord_outcome (before : Quiet session middle) (record : Bytes) :
    Outcome session (.datagram answers) (middle.onAuthRecord sha224 config record) := by
  unfold onAuthRecord
  dsimp only
  have buffered : Quiet session { (middle.emit (.authRecord record)).startAuth with
      authBuf := (middle.emit (.authRecord record)).startAuth.authBuf ++ record } :=
    (before.trans (.emit middle rfl)).trans (.set _ _ _ _ _)
  split
  · exact .quiet buffered
  · have hashed := buffered.trans (.call _ .evpDigest)
    split
    · exact .proxying (hashed.trans (.set _ .proxy _ _ _))
    · exact .stopped hashed

/-- A record in state `PROXY`. -/
theorem onProxyRecord_outcome (before : Quiet session middle) {record : Bytes}
    (read : answers.read = .data record) :
    Outcome session (.datagram answers) (middle.onProxyRecord answers record) := by
  have received : Quiet session (middle.emit (.proxyRecord record)) :=
    before.trans (.emit middle rfl)
  unfold onProxyRecord
  dsimp only
  split
  · exact .quiet received
  · split
    · exact .quiet (received.trans (.set _ _ _ _ true))
    · rename_i decoded
      split
      · rename_i accepted
        exact .frame received read decoded accepted
      · exact .quiet received

/-- Reading a record. -/
theorem tryReadAppData_outcome (before : Quiet session middle) :
    Outcome session (.datagram answers) (middle.tryReadAppData sha224 config answers) := by
  unfold tryReadAppData
  split
  · have reading := before.trans (.call middle .sslRead)
    have noted := reading.trans (.call _ .sslGetError)
    dsimp only
    split
    · rename_i record read
      split
      · exact .quiet noted
      · split
        · exact onAuthRecord_outcome reading record
        · exact onProxyRecord_outcome reading read
        · exact .quiet reading
    · exact .quiet noted
    · exact .stopped noted
    · exact .quiet noted
  · exact .quiet before

/-- A datagram of the client. -/
theorem onDatagram_outcome :
    Outcome session (.datagram answers) (session.onDatagram sha224 config answers) := by
  unfold onDatagram
  split
  · exact .quiet (.refl session)
  · have written : Quiet session (session.call .bioWrite) := .call session .bioWrite
    dsimp only
    split
    · unfold processHandshake
      split
      · have accepted := (written.trans (.call _ .sslAccept)).trans (.drainWbio _ answers.drained)
        have noted := accepted.trans (.call _ .sslGetError)
        dsimp only
        split
        · exact tryReadAppData_outcome (accepted.trans (.set _ .auth _ _ _))
        · exact .quiet noted
        · exact .stopped noted
      · exact .quiet written
    · exact tryReadAppData_outcome written
    · exact tryReadAppData_outcome written
    · exact .quiet written

/-- **What an event can do** to a DTLS session. -/
theorem step_outcome {event : DtlsEvent} (stepped : session.step sha224 config event = some next) :
    Outcome session event next := by
  unfold step at stepped
  split at stepped
  · cases stepped
  cases event with
  | datagram answers =>
    obtain rfl := Option.some.inj stepped
    exact onDatagram_outcome
  | stop =>
    obtain rfl := Option.some.inj stepped
    exact .stop
  | completed op result answers =>
    dsimp only at stepped
    split at stepped
    · rename_i enabled
      obtain ⟨member, admitted⟩ := enabled
      obtain rfl := Option.some.inj stepped
      cases op with
      | resolve domain port payload sessionId =>
        cases result with
        | resolved results =>
          simp only [handle]
          split
          · exact .idle member (.set _ _ _ _ true)
          · rename_i chosen
            exact .resolved member chosen
        | _ => exact .idle member (.refl _)
      | targetSend => exact .idle member (.refl _)
      | targetReceive =>
        cases result with
        | failed => exact .reading member (.refl _)
        | received sender data =>
          simp only [handle, sendToClient]
          split
          · exact .reading member (.refl _)
          · have written : Quiet (session.complete .targetReceive) _ := .call _ .sslWrite
            split
            · exact .replied member written (.drainWbio _ _)
            · exact .reading member
                ((written.trans (.call _ .sslGetError)).trans (.call _ .errGetError))
        | _ => exact .idle member (.refl _)
    · cases stepped

/-- Quiet work only adds to the trace. -/
theorem Quiet.extends (same : Quiet first second) : first.trace <+: second.trace := by
  obtain ⟨effects, _, _, _, _, rfl, -⟩ := same
  exact List.prefix_append _ _

/-- `stop` only adds to the trace. -/
theorem stop_extends (session : DtlsServerSession) : session.trace <+: session.stop.trace := by
  unfold stop
  split
  · exact List.prefix_refl _
  · dsimp only
    split
    · refine (List.prefix_append _ [.openssl .sslShutdown session.ssl]).trans ?_
      exact (List.prefix_append _ [.openssl .sslFree session.ssl]).trans (List.prefix_append _ _)
    · exact List.prefix_append _ _

/-- Reading the target's socket does not show in the trace. -/
@[simp]
theorem doReadTarget_trace (session : DtlsServerSession) :
    session.doReadTarget.trace = session.trace := by
  unfold doReadTarget
  split <;> rfl

/-- A frame only adds to the trace. -/
theorem onFrame_extends (session : DtlsServerSession) (answers : Answers) (sessionId : UInt16)
    (frame : UdpFrame) : session.trace <+: (session.onFrame answers sessionId frame).trace := by
  unfold onFrame doResolveAndSend
  dsimp only
  split
  · split
    · rw [doSendToTarget_trace]
      exact (List.prefix_append _ _).trans (List.prefix_append _ _)
    · exact List.prefix_append _ _
  · split
    · rw [doSendToTarget_trace]
      exact List.prefix_append _ _
    · exact List.prefix_refl _

/-- **What was done stays done.** -/
theorem Outcome.extends {event : DtlsEvent} (outcome : Outcome session event next) :
    session.trace <+: next.trace := by
  cases outcome with
  | quiet same => exact same.extends
  | stopped same => exact same.extends.trans (stop_extends _)
  | proxying same => exact same.extends
  | frame same => exact same.extends.trans (onFrame_extends _ _ _ _)
  | idle _ same => exact same.extends
  | reading _ same =>
    rw [doReadTarget_trace]
    exact same.extends
  | resolved =>
    rw [doSendToTarget_trace]
    exact (List.prefix_append _ _).trans (List.prefix_append _ _)
  | replied _ earlier later =>
    rw [doReadTarget_trace]
    exact (earlier.extends.trans (List.prefix_append _ _)).trans later.extends
  | stop => exact stop_extends _

/-- What was done before a run stays done. -/
theorem run_extends {events : List DtlsEvent} {effect : DtlsEffect}
    (ran : run (step sha224 config) session events = some next) (done : effect ∈ session.trace) :
    effect ∈ next.trace := by
  refine @run_invariant _ _ _ (fun state => effect ∈ state.trace) _ _ _ ?_ done ran
  intro state event later before stepped
  exact (step_outcome stepped).extends.subset before

/-- A session that went on without calling `on_destroy_`. -/
structure Calm (before after : DtlsServerSession) : Prop where
  /-- The trace grows by other effects. -/
  recorded : ∃ effects, after.trace = before.trace ++ effects ∧ .destroyed ∉ effects
  /-- `destroyed_` is the same. -/
  destroyed : after.destroyed = before.destroyed

/-- A session with the same trace. -/
theorem Calm.of_same (trace : second.trace = first.trace)
    (destroyed : second.destroyed = first.destroyed) : Calm first second :=
  ⟨⟨[], by rw [trace, List.append_nil], by simp⟩, destroyed⟩

/-- One thing after another. -/
theorem Calm.trans (earlier : Calm first second) (later : Calm second third) :
    Calm first third := by
  obtain ⟨before, traced, none⟩ := earlier.recorded
  obtain ⟨after, tracedAfter, noneAfter⟩ := later.recorded
  refine ⟨⟨before ++ after, ?_, ?_⟩, later.destroyed.trans earlier.destroyed⟩
  · rw [tracedAfter, traced, List.append_assoc]
  · intro member
    exact (List.mem_append.mp member).elim none noneAfter

/-- Recording another effect. -/
theorem Calm.emit {effect : DtlsEffect} (other : effect ≠ .destroyed) :
    Calm session (session.emit effect) :=
  ⟨⟨[effect], rfl, by simpa using other.symm⟩, rfl⟩

/-- Quiet work does not call `on_destroy_`. -/
theorem Quiet.calm (same : Quiet first second) : Calm first second := by
  obtain ⟨effects, _, _, _, _, rfl, quiet⟩ := same
  refine ⟨⟨effects, rfl, ?_⟩, rfl⟩
  intro member
  cases quiet _ member

/-- Sending to a target does not call `on_destroy_`. -/
theorem doSendToTarget_calm (session : DtlsServerSession) (endpoint : Endpoint) (payload : Bytes)
    (sessionId : UInt16) : Calm session (session.doSendToTarget endpoint payload sessionId) :=
  ⟨⟨_, doSendToTarget_trace session endpoint payload sessionId, by simp⟩,
    doSendToTarget_destroyed session endpoint payload sessionId⟩

/-- Reading the target does not call `on_destroy_`. -/
theorem doReadTarget_calm (session : DtlsServerSession) : Calm session session.doReadTarget := by
  refine .of_same (doReadTarget_trace session) ?_
  unfold doReadTarget
  split <;> rfl

/-- A frame does not call `on_destroy_`. -/
theorem onFrame_calm (session : DtlsServerSession) (answers : Answers) (sessionId : UInt16)
    (frame : UdpFrame) : Calm session (session.onFrame answers sessionId frame) := by
  unfold onFrame
  split
  · unfold doResolveAndSend
    dsimp only
    have asked : Calm session (session.emit
        (.resolveAndSend frame.address frame.port frame.payload sessionId)) := .emit (by simp)
    split
    · exact asked.trans (doSendToTarget_calm _ _ _ _)
    · exact asked.trans (.of_same rfl rfl)
  · split
    · exact doSendToTarget_calm _ _ _ _
    · exact .of_same rfl rfl

/-- An event calls `on_destroy_` only in `stop`, as the last thing it does. -/
theorem Outcome.calm {event : DtlsEvent} (outcome : Outcome session event next) :
    Calm session next ∨ ∃ middle, Calm session middle ∧ next = middle.stop := by
  have started (op : DtlsOp) : Calm session (session.complete op) := .of_same rfl rfl
  cases outcome with
  | quiet same => exact .inl same.calm
  | stopped same => exact .inr ⟨_, same.calm, rfl⟩
  | proxying same => exact .inl (same.calm.trans (.of_same rfl rfl))
  | frame same => exact .inl (same.calm.trans (onFrame_calm _ _ _ _))
  | idle _ same => exact .inl ((started _).trans same.calm)
  | reading _ same => exact .inl (((started _).trans same.calm).trans (doReadTarget_calm _))
  | resolved =>
    refine .inl (((started _).trans (.emit ?_)).trans (doSendToTarget_calm _ _ _ _))
    simp
  | replied _ earlier later =>
    refine .inl ((Calm.trans ?_ later.calm).trans (doReadTarget_calm _))
    exact ((started _).trans earlier.calm).trans (.emit (by simp))
  | stop => exact .inr ⟨session, .of_same rfl rfl, rfl⟩

/-- A stopped session is not stopped again. -/
theorem stop_of_destroyed (dead : session.destroyed = true) : session.stop = session :=
  if_pos dead

/-- `stop` of a live session calls `on_destroy_` once. -/
theorem stop_of_live (live : session.destroyed = false) : session.stop.destroyed = true ∧
    ∃ effects, session.stop.trace = session.trace ++ effects ∧ effects.count .destroyed = 1 := by
  unfold stop
  rw [if_neg (by simp [live])]
  dsimp only
  split
  · refine ⟨rfl, [.openssl .sslShutdown session.ssl, .openssl .sslFree session.ssl,
      .destroyed], ?_, ?_⟩
    · simp [emit, call]
    · simp
  · exact ⟨rfl, [.destroyed], rfl, rfl⟩

end DtlsServerSession

end Overplus.Server
