import Overplus.Server.DtlsSteps

/-!
# What a DTLS session records

A step records calls of OpenSSL, calls towards targets and the like, and two kinds of messages: the
records it reads in state `AUTH`, which OpenSSL has read from a datagram, and the records it writes
for the client, which carry a datagram of a target. `step_adds` says so for every step and every
property of effects.
-/
namespace Overplus.Server.DtlsServerSession

variable {sha224 : Bytes → Bytes} {config : ServerConfig} {holds : DtlsEffect → Prop}
  {before middle after session next : DtlsServerSession} {answers : Answers} {event : DtlsEvent}

/-- What a session records on the way from one state to another. -/
def Adds (holds : DtlsEffect → Prop) (before after : DtlsServerSession) : Prop :=
  ∃ effects, after.trace = before.trace ++ effects ∧ ∀ effect ∈ effects, holds effect

/-- Nothing is recorded. -/
theorem Adds.of_same (same : after.trace = before.trace) : Adds holds before after :=
  ⟨[], by rw [same, List.append_nil], by simp⟩

/-- One thing after another. -/
theorem Adds.trans (earlier : Adds holds before middle) (later : Adds holds middle after) :
    Adds holds before after := by
  obtain ⟨first, one, known⟩ := earlier
  obtain ⟨second, other, also⟩ := later
  refine ⟨first ++ second, by rw [other, one, List.append_assoc], ?_⟩
  intro effect member
  rcases List.mem_append.mp member with old | new
  · exact known effect old
  · exact also effect new

/-- One effect. -/
theorem Adds.emit {effect : DtlsEffect} (known : holds effect) :
    Adds holds session (session.emit effect) :=
  ⟨[effect], rfl, fun _ member => List.mem_singleton.mp member ▸ known⟩

/-- A record that was read before proxying, or written for the client. -/
def isMessage : DtlsEffect → Bool
  | .authRecord _ | .record _ => true
  | _ => false

section Plain

variable (plain : ∀ effect, isMessage effect = false → holds effect)

include plain

/-- A call of OpenSSL. -/
theorem Adds.call (call : OpenSslCall) : Adds holds session (session.call call) :=
  .emit (plain _ rfl)

/-- The output is drained. -/
theorem Adds.drainWbio (drained : List Bytes) : Adds holds session (session.drainWbio drained) := by
  obtain ⟨effects, drains, known⟩ := session.drainWbio_eq drained
  refine ⟨effects, by rw [drains], ?_⟩
  intro effect member
  rcases known effect member with rfl | ⟨datagram, rfl⟩ <;> exact plain _ rfl

/-- The session is stopped. -/
theorem Adds.stop : Adds holds session session.stop := by
  unfold DtlsServerSession.stop
  split
  · exact .of_same rfl
  · have ending : Adds holds session { session with destroyed := true, state := .destroy } :=
      .of_same rfl
    dsimp only
    refine Adds.trans ?_ (.emit (plain _ rfl))
    split
    · exact ((ending.trans (.call plain .sslShutdown)).trans (.call plain .sslFree)).trans
        (.of_same rfl)
    · exact ending

/-- A datagram is sent to a target. -/
theorem Adds.doSendToTarget (endpoint : Endpoint) (payload : Bytes) (sid : UInt16) :
    Adds holds session (session.doSendToTarget endpoint payload sid) := by
  refine ⟨[.sendToTarget endpoint payload sid],
    doSendToTarget_trace session endpoint payload sid, ?_⟩
  intro effect member
  exact List.mem_singleton.mp member ▸ plain _ rfl

/-- A name is resolved for a target. -/
theorem Adds.doResolveAndSend (domain : Bytes) (port : UInt16) (payload : Bytes) (sid : UInt16) :
    Adds holds session (session.doResolveAndSend answers domain port payload sid) := by
  have asked : Adds holds session (session.emit (.resolveAndSend domain port payload sid)) :=
    .emit (plain _ rfl)
  unfold DtlsServerSession.doResolveAndSend
  dsimp only
  split
  · exact asked.trans (.doSendToTarget plain _ _ _)
  · exact asked.trans (.of_same rfl)

/-- A record read while proxying is handled. -/
theorem Adds.onProxyRecord (record : Bytes) :
    Adds holds session (session.onProxyRecord answers record) := by
  have received : Adds holds session (session.emit (.proxyRecord record)) := .emit (plain _ rfl)
  unfold DtlsServerSession.onProxyRecord DtlsServerSession.onFrame
  dsimp only
  split
  · exact received
  · split
    · exact received.trans (.of_same rfl)
    · split
      · split
        · exact received.trans (.doResolveAndSend plain _ _ _ _)
        · split
          · exact received.trans (.doSendToTarget plain _ _ _)
          · exact received
      · exact received

/-- A record read before proxying is handled. -/
theorem Adds.onAuthRecord {record : Bytes} (told : holds (.authRecord record)) :
    Adds holds session (session.onAuthRecord sha224 config record) := by
  have received : Adds holds session { (session.emit (.authRecord record)).startAuth with
      authBuf := (session.emit (.authRecord record)).startAuth.authBuf ++ record } :=
    Adds.trans (.emit told) (.of_same rfl)
  unfold DtlsServerSession.onAuthRecord
  dsimp only
  split
  · exact received
  · have hashed := received.trans (.call plain .evpDigest)
    split
    · exact hashed.trans (.of_same (doReadTarget_trace _))
    · exact hashed.trans (.stop plain)

/-- A record is read. -/
theorem Adds.tryReadAppData
    (told : ∀ record, answers.read = .data record → holds (.authRecord record)) :
    Adds holds session (session.tryReadAppData sha224 config answers) := by
  unfold DtlsServerSession.tryReadAppData
  split
  · have reading : Adds holds session (session.call .sslRead) := .call plain .sslRead
    dsimp only
    split
    · rename_i record read
      split
      · exact reading.trans (.call plain _)
      · split
        · exact reading.trans (.onAuthRecord plain (told record read))
        · exact reading.trans (.onProxyRecord plain record)
        · exact reading
    · exact reading.trans (.call plain _)
    · exact (reading.trans (.call plain _)).trans (.stop plain)
    · exact reading.trans (.call plain _)
  · exact .of_same rfl

/-- A datagram of the client is handled. -/
theorem Adds.onDatagram
    (told : ∀ record, answers.read = .data record → holds (.authRecord record)) :
    Adds holds session (session.onDatagram sha224 config answers) := by
  unfold DtlsServerSession.onDatagram
  split
  · exact .of_same rfl
  · have written : Adds holds session (session.call .bioWrite) := .call plain .bioWrite
    dsimp only
    split
    · refine written.trans ?_
      unfold DtlsServerSession.processHandshake
      split
      · have tried : Adds holds (session.call .bioWrite)
            (((session.call .bioWrite).call .sslAccept).drainWbio answers.drained) :=
          Adds.trans (.call plain .sslAccept) (.drainWbio plain _)
        dsimp only
        split
        · exact (tried.trans (.of_same rfl)).trans (.tryReadAppData plain told)
        · exact tried.trans (.call plain _)
        · exact (tried.trans (.call plain _)).trans (.stop plain)
      · exact .of_same rfl
    · exact written.trans (.tryReadAppData plain told)
    · exact written.trans (.tryReadAppData plain told)
    · exact written

/-- A completed operation is handled. -/
theorem Adds.handle (op : DtlsOp) (result : DtlsResult)
    (replied : ∀ sender data, op = .targetReceive → result = .received sender data →
      holds (.record (session.replyRecord sender data))) :
    Adds holds session (session.handle answers op result) := by
  have again {later : DtlsServerSession} (adds : Adds holds session later) :
      Adds holds session later.doReadTarget :=
    adds.trans (.of_same (doReadTarget_trace _))
  cases op with
  | resolve domain port payload sid =>
    cases result with
    | resolved results =>
      simp only [DtlsServerSession.handle]
      split
      · exact .of_same rfl
      · refine Adds.trans (.emit ?_) (.doSendToTarget plain _ _ _)
        exact plain _ rfl
    | _ => exact .of_same rfl
  | targetSend => exact .of_same rfl
  | targetReceive =>
    cases result with
    | failed => exact again (.of_same rfl)
    | received sender data =>
      refine again ?_
      unfold DtlsServerSession.sendToClient
      split
      · exact .of_same rfl
      · have written : Adds holds session (session.call .sslWrite) := .call plain .sslWrite
        dsimp only
        split
        · exact (written.trans (.emit (replied sender data rfl rfl))).trans (.drainWbio plain _)
        · exact (written.trans (.call plain _)).trans (.call plain _)
    | _ => exact .of_same rfl

end Plain

/-- **What a step records.** A property of effects that holds of everything but messages, of the
record a datagram brings and of the record for a datagram of a target, holds of all that a step
records. -/
theorem step_adds (plain : ∀ effect, isMessage effect = false → holds effect)
    (told : ∀ answers record, event = .datagram answers → answers.read = .data record →
      holds (.authRecord record))
    (replied : ∀ sender data answers,
      event = .completed .targetReceive (.received sender data) answers →
        holds (.record (session.replyRecord sender data)))
    (stepped : session.step sha224 config event = some next) : Adds holds session next := by
  unfold step at stepped
  split at stepped
  · cases stepped
  cases event with
  | datagram answers =>
    obtain rfl := Option.some.inj stepped
    exact .onDatagram plain fun record read => told answers record rfl read
  | completed op result answers =>
    simp only [Option.ite_none_right_eq_some, Option.some.injEq] at stepped
    obtain ⟨-, rfl⟩ := stepped
    refine Adds.trans (.of_same rfl) (.handle plain op result ?_)
    rintro sender data rfl rfl
    exact replied sender data answers rfl
  | stop =>
    obtain rfl := Option.some.inj stepped
    exact .stop plain

end Overplus.Server.DtlsServerSession
