import Overplus.Verif.ServedTarget
import Overplus.Verif.TrojanReplies

/-!
# The UDP mode of a Trojan session

A session in UDP mode has one operation in flight for its first packet and, behind that packet, one
for each direction: towards the target it reads the client, resolves a name or sends a datagram,
and towards the client it waits for a datagram or writes a packet. Datagrams are therefore sent in
the order of the client's packets, each once. No two operations of a live session, in any mode,
use the same half of a connection at a time, and a live session always waits for something.
-/
namespace Overplus.Verif.UdpMode

open Server ServedTarget TrojanUdp

variable {config : ServerConfig} {kind : SessionKind} {session next : Session} {world : World}
  {op : Op} {result : Result} {data : Bytes} {past : List Event} {payloads : List Bytes}
  {beside : List Op} {packet : UDPPacket}

section Flow

/-- Operations of the direction from the target to the client. -/
def isDownlink : Op → Bool
  | .udpReceive | .udpWrite => true
  | _ => false

/-- An operation of the direction from the client to the target, and what is in flight beside
it. -/
inductive Uplink : Op → List Op → Prop
  /-- The first packet is read. -/
  | firstRead : Uplink .udpFirstRead []
  /-- The first packet's name is resolved. -/
  | firstResolve (packet : UDPPacket) (key : Bytes) : Uplink (.udpResolve true packet key) []
  /-- The first packet is sent. -/
  | firstSend : Uplink (.udpSend dirBoth) []
  /-- The client is read. -/
  | read {down : Op} (own : isDownlink down = true) : Uplink .udpRead [down]
  /-- A later packet's name is resolved. -/
  | resolve {down : Op} (own : isDownlink down = true) (packet : UDPPacket) (key : Bytes) :
    Uplink (.udpResolve false packet key) [down]
  /-- A later packet is sent. -/
  | send {down : Op} (own : isDownlink down = true) : Uplink (.udpSend [.down]) [down]

/-- A live session in UDP mode: one operation towards the target, and at most one beside it. The
packets parsed are those sent and the one the operation carries. -/
structure Flowing (session : Session) : Prop where
  /-- The session was not destroyed. -/
  alive : session.state ≠ .destroy
  /-- The operations in flight account for every packet parsed. -/
  flow : ∃ op beside, session.pending.Perm (op :: beside) ∧ Uplink op beside ∧
    Accounted session (sentPayloads session.trace ++ outstanding op)

/-- The operation is one towards the target. -/
theorem Uplink.own (uplink : Uplink op beside) : isUplink op = true := by
  cases uplink <;> rfl

/-- Beside it there are only operations towards the client. -/
theorem Uplink.others (uplink : Uplink op beside) {other : Op} (member : other ∈ beside) :
    isDownlink other = true := by
  cases uplink with
  | firstRead | firstResolve | firstSend => cases member
  | read own | resolve own | send own => rwa [List.mem_singleton.mp member]

/-- With an operation beside it, it is steady. -/
theorem Uplink.steady (uplink : Uplink op beside) {other : Op} (member : other ∈ beside) :
    isSteady op = true := by
  cases uplink with
  | firstRead | firstResolve | firstSend => cases member
  | read | resolve | send => rfl

/-- Operations towards the client are steady and not towards the target. -/
theorem steady_of_isDownlink (down : isDownlink op = true) :
    isSteady op = true ∧ isUplink op = false := by
  cases op <;> first | exact ⟨rfl, rfl⟩ | cases down

/-- At most one operation is in flight beside it, so nothing depends on their order. -/
theorem Uplink.eq_of_perm {ops : List Op} (uplink : Uplink op beside) (perm : ops.Perm beside) :
    ops = beside := by
  cases uplink with
  | firstRead | firstResolve | firstSend => exact perm.eq_nil
  | read | resolve | send => exact List.perm_singleton.mp perm

/-- Completing the operation towards the target enters its handler. -/
theorem Flowing.complete (flowing : Flowing session) (member : op ∈ session.pending)
    (up : isUplink op = true) : Uplink op (session.complete op).pending ∧
      Between (session.complete op) (sentPayloads session.trace ++ outstanding op) := by
  obtain ⟨alive, first, beside, perm, uplink, accounted⟩ := flowing
  have same : op = first := by
    rcases List.mem_cons.mp (perm.mem_iff.mp member) with here | there
    · exact here
    · rw [(steady_of_isDownlink (uplink.others there)).2] at up
      cases up
  subst same
  have erased := perm.erase op
  rw [List.erase_cons_head] at erased
  have rest : (session.complete op).pending = beside := uplink.eq_of_perm erased
  refine ⟨rest ▸ uplink, alive, ?_, ?_, accounted.congr rfl rfl rfl⟩
  · intro other left
    rw [rest] at left
    exact (steady_of_isDownlink (uplink.others left)).1
  · rw [rest, List.filter_eq_nil_iff]
    intro other left
    rw [(steady_of_isDownlink (uplink.others left)).2]
    exact Bool.false_ne_true

/-- Starting the next operation towards the target leaves the handler. -/
theorem flowing_await (between : Between session payloads) (uplink : Uplink op session.pending)
    (exact : payloads = sentPayloads session.trace ++ outstanding op) :
    Flowing (session.await op) := by
  refine ⟨between.alive, op, session.pending, List.perm_append_singleton _ _, uplink, ?_⟩
  rw [exact] at between
  exact between.accounted.congr rfl rfl stream_await

/-- A parsed packet is sent. -/
theorem flowing_send {payload : Bytes} {directions : List Direction}
    (between : Between session (sentPayloads session.trace ++ [payload])) (endpoint : Endpoint)
    (uplink : Uplink (.udpSend directions) session.pending) :
    Flowing (session.asyncSendTo payload endpoint directions) := by
  refine flowing_await (between.emit rfl) uplink ?_
  change _ = sentPayloads (session.trace ++ [.datagram endpoint payload]) ++ []
  rw [sentPayloads_append, List.append_nil]
  rfl

/-- The first packet is sent, or the session ends. -/
theorem flowing_openAndSend {payload : Bytes}
    (between : Between session (sentPayloads session.trace ++ [payload]))
    (alone : session.pending = []) (world : World) (endpoint : Endpoint) :
    Flowing (session.openAndSend world payload endpoint) ∨
      Dead (session.openAndSend world payload endpoint) := by
  have uplink : Uplink (.udpSend dirBoth) session.pending := by
    rw [alone]
    exact .firstSend
  unfold Session.openAndSend
  split
  · exact .inl (flowing_send between endpoint uplink)
  · split
    · have opened : Between { session with udpOpen := true }
          (sentPayloads session.trace ++ [payload]) :=
        ⟨between.alive, between.steady, between.idle, between.accounted.congr rfl rfl rfl⟩
      exact .inl (flowing_send opened endpoint uplink)
    · exact .inr between.destroy

/-- A parsed packet is sent or resolved. -/
theorem flowing_dispatch {first : Bool} {send : Session → Endpoint → Session}
    (between : Between session (sentPayloads session.trace ++ [packet.payload]))
    (uplink : ∀ key, Uplink (.udpResolve first packet key) session.pending) (world : World)
    (sends : ∀ endpoint, Flowing (send session endpoint) ∨ Dead (send session endpoint)) :
    Flowing (session.dispatch world first packet send) ∨
      Dead (session.dispatch world first packet send) := by
  unfold Session.dispatch
  dsimp only
  split
  · exact sends _
  · refine .inl (flowing_await (between.emit rfl) (uplink _) ?_)
    change _ = sentPayloads (session.trace ++ [.udpResolve _ _]) ++ [packet.payload]
    rw [sentPayloads_append]
    simp [sentPayloads]

/-- The first-packet path keeps the flow or ends the session. -/
theorem flowing_handleTrojanUdpProxy
    (between : Between session (sentPayloads session.trace)) (alone : session.pending = [])
    (world : World) :
    Flowing (session.handleTrojanUdpProxy world) ∨ Dead (session.handleTrojanUdpProxy world) := by
  have forward : Between { session with state := .forward } (sentPayloads session.trace) :=
    ⟨by simp, between.steady, between.idle, between.accounted.congr rfl rfl rfl⟩
  unfold Session.handleTrojanUdpProxy
  dsimp only
  split
  · split
    · exact .inr forward.destroy
    · refine .inl (flowing_await forward ?_ (List.append_nil _).symm)
      change Uplink .udpFirstRead session.pending
      rw [alone]
      exact .firstRead
  · rename_i packet len found
    obtain ⟨advanced, -⟩ := forward.advance found
    obtain ⟨buff, offset, moved⟩ := Session.advance_eq { session with state := .forward } len
    rw [moved] at advanced ⊢
    refine flowing_dispatch advanced ?_ world ?_
    · intro key
      change Uplink _ session.pending
      rw [alone]
      exact .firstResolve packet key
    · intro endpoint
      exact flowing_openAndSend advanced alone world endpoint

/-- The steady path keeps the flow or ends the session. -/
theorem flowing_onUdpRead {down : Op}
    (between : Between session (sentPayloads session.trace)) (rest : session.pending = [down])
    (own : isDownlink down = true) (world : World) :
    Flowing (session.onUdpRead world) ∨ Dead (session.onUdpRead world) := by
  unfold Session.onUdpRead
  split
  · split
    · exact .inr between.destroy
    · refine .inl (flowing_await between ?_ (List.append_nil _).symm)
      rw [rest]
      exact .read own
  · rename_i packet len found
    obtain ⟨advanced, -⟩ := between.advance found
    obtain ⟨buff, offset, moved⟩ := Session.advance_eq session len
    rw [moved] at advanced ⊢
    refine flowing_dispatch advanced ?_ world ?_
    · intro key
      change Uplink _ session.pending
      rw [rest]
      exact .resolve own packet key
    · intro endpoint
      refine .inl (flowing_send advanced endpoint ?_)
      change Uplink _ session.pending
      rw [rest]
      exact .send own

/-- A resolved packet is sent, or the session ends. -/
theorem flowing_onUdpResolved {first : Bool} {key : Bytes}
    (between : Between session (sentPayloads session.trace ++ [packet.payload]))
    (uplink : Uplink (.udpResolve first packet key) session.pending) (world : World)
    (results : List Endpoint) :
    Flowing (session.onUdpResolved world first packet key results) ∨
      Dead (session.onUdpResolved world first packet key results) := by
  unfold Session.onUdpResolved
  split
  · exact .inr between.destroy
  · rename_i endpoint _
    have cached : Between (session.emit (.putUdp key endpoint))
        (sentPayloads (session.emit (.putUdp key endpoint)).trace ++ [packet.payload]) := by
      change Between _ (sentPayloads (session.trace ++ [_]) ++ _)
      rw [sentPayloads_append]
      simpa [sentPayloads] using between.emit rfl
    generalize rest : session.pending = ops at uplink
    cases uplink with
    | firstResolve => exact flowing_openAndSend cached rest world endpoint
    | resolve own =>
      refine .inl (flowing_send cached endpoint ?_)
      change Uplink _ session.pending
      rw [rest]
      exact .send own

/-- Behind a datagram the client is read again, and behind the first one the target too. -/
theorem flowing_read {directions : List Direction}
    (between : Between session (sentPayloads session.trace))
    (uplink : Uplink (.udpSend directions) session.pending) :
    Flowing (session.udpAsyncBidirectionalRead directions) := by
  generalize rest : session.pending = ops at uplink
  have exact : sentPayloads session.trace =
      sentPayloads session.trace ++ outstanding .udpRead := (List.append_nil _).symm
  cases uplink with
  | firstSend =>
    refine ⟨between.alive, .udpRead, [.udpReceive], ?_, .read rfl, ?_⟩
    · change ((session.pending ++ [_]) ++ [_]).Perm _
      rw [rest]
      exact .refl _
    · have accounted := between.accounted
      rw [exact] at accounted
      exact accounted.congr rfl rfl rfl
  | send own =>
    refine flowing_await between ?_ exact
    rw [rest]
    exact .read own

/-- One operation towards the client gives way to the next. -/
theorem Flowing.downlink {other : Op} (flowing : Flowing session) (member : op ∈ session.pending)
    (down : isDownlink op = true) (own : isDownlink other = true) :
    Flowing ((session.complete op).await other) := by
  obtain ⟨alive, first, beside, perm, uplink, accounted⟩ := flowing
  have different : first ≠ op := by
    rintro rfl
    have up := uplink.own
    rw [(steady_of_isDownlink down).2] at up
    cases up
  have erased := (perm.erase op).append_right [other]
  have among : op ∈ beside := by
    rcases List.mem_cons.mp (perm.mem_iff.mp member) with here | there
    · exact absurd here.symm different
    · exact there
  rw [List.erase_cons_tail (by simpa using different)] at erased
  have replaced : Uplink first (beside.erase op ++ [other]) := by
    cases uplink with
    | firstRead | firstResolve | firstSend => cases among
    | read | resolve | send =>
      rw [List.mem_singleton.mp among, List.erase_cons_head]
      first | exact .read own | exact .resolve own _ _ | exact .send own
  exact ⟨alive, first, _, erased, replaced, accounted.congr rfl rfl rfl⟩

/-- **One step of the UDP mode** keeps the flow or ends the session. -/
theorem Flowing.step {event : Event} (flowing : Flowing session)
    (stepped : session.step config event = some next) : Flowing next ∨ Dead next := by
  obtain ⟨member, admitted, rfl⟩ := Session.step_some stepped
  obtain ⟨op, result, world⟩ := event
  dsimp only at member admitted ⊢
  have known : isUplink op = true ∨ isDownlink op = true := by
    obtain ⟨-, first, beside, perm, uplink, -⟩ := flowing
    rcases List.mem_cons.mp (perm.mem_iff.mp member) with rfl | there
    · exact .inl uplink.own
    · exact .inr (uplink.others there)
  have rest (other : Op) (left : other ∈ (session.complete op).pending) :
      isSteady other = true := by
    rcases known with up | down
    · exact (flowing.complete member up).2.steady other left
    · obtain ⟨-, first, beside, perm, uplink, -⟩ := flowing
      have among : op ∈ beside := by
        rcases List.mem_cons.mp (perm.mem_iff.mp member) with rfl | there
        · have up := uplink.own
          rw [(steady_of_isDownlink down).2] at up
          cases up
        · exact there
      rcases List.mem_cons.mp (perm.mem_iff.mp (List.mem_of_mem_erase left)) with rfl | there
      · exact uplink.steady among
      · exact (steady_of_isDownlink (uplink.others there)).1
  cases result with
  | failed =>
    rw [Session.handle_failed]
    refine .inr ⟨Session.destroy_state, ?_⟩
    rw [Session.destroy_pending]
    exact rest
  | done =>
    cases op with
    | udpSend directions =>
      obtain ⟨uplink, between⟩ := flowing.complete member rfl
      rw [outstanding_udpSend, List.append_nil] at between
      exact .inl (flowing_read between uplink)
    | udpWrite => exact .inl (flowing.downlink member rfl rfl)
    | udpFirstRead | udpResolve | udpRead | udpReceive => cases admitted
    | _ => rcases known with up | down <;> contradiction
  | read data =>
    cases op with
    | udpFirstRead =>
      obtain ⟨uplink, between⟩ := flowing.complete member rfl
      rw [outstanding_udpFirstRead, List.append_nil] at between
      obtain ⟨received, -⟩ := between.receive data
      refine flowing_handleTrojanUdpProxy ?_ ?_ world
      · rw [sentPayloads_receive]
        exact received
      · change (session.complete .udpFirstRead).pending = []
        generalize (session.complete .udpFirstRead).pending = ops at uplink
        cases uplink
        rfl
    | udpRead =>
      obtain ⟨uplink, between⟩ := flowing.complete member rfl
      rw [outstanding_udpRead, List.append_nil] at between
      obtain ⟨received, -⟩ := between.receive data
      generalize left : (session.complete .udpRead).pending = ops at uplink
      cases uplink with
      | read own =>
        have between : Between (((session.complete .udpRead).receive .down data).appendUdp
            data.length) (sentPayloads (((session.complete .udpRead).receive .down data).appendUdp
              data.length).trace) := by
          rw [sentPayloads_receive]
          exact received
        exact flowing_onUdpRead between left own world
    | udpSend | udpWrite | udpResolve | udpReceive => cases admitted
    | _ => rcases known with up | down <;> contradiction
  | sent count =>
    cases op with
    | udpFirstRead | udpSend | udpWrite | udpResolve | udpReceive | udpRead => cases admitted
    | _ => rcases known with up | down <;> contradiction
  | resolved results =>
    cases op with
    | udpResolve first packet key =>
      obtain ⟨uplink, between⟩ := flowing.complete member rfl
      exact flowing_onUdpResolved between uplink world results
    | udpFirstRead | udpSend | udpWrite | udpReceive | udpRead => cases admitted
    | _ => rcases known with up | down <;> contradiction
  | received sender data =>
    cases op with
    | udpReceive =>
      have writing : Flowing ((session.complete .udpReceive).await .udpWrite) :=
        flowing.downlink member rfl rfl
      obtain ⟨alive, first, beside, perm, uplink, accounted⟩ := writing
      refine .inl ⟨alive, first, beside, perm, uplink, ?_⟩
      have quiet (reply : Bytes) : sentPayloads ((session.trace ++ [.udpReceived sender data]) ++
          [.udpReply reply]) = sentPayloads session.trace := by
        simp [sentPayloads]
      change Accounted _ (sentPayloads ((session.trace ++ [_]) ++ [_]) ++ _)
      rw [quiet]
      refine accounted.congr rfl rfl ?_
      change stream (Session.await (Session.emit (Session.emit _ _) _) _) = _
      rw [stream_await, stream_emit rfl, stream_emit rfl]
      rfl
    | udpFirstRead | udpSend | udpWrite | udpResolve | udpRead => cases admitted
    | _ => rcases known with up | down <;> contradiction

end Flow

section Reads

/-- A session that keeps its request and has read nothing more from the client. -/
structure Alike (before after : Session) : Prop where
  /-- What the session keeps of its first message. -/
  kept : kept after = kept before
  /-- Bytes of the client. -/
  received : receivedBytes .down after.trace = receivedBytes .down before.trace

/-- One after another. -/
theorem Alike.trans {first second third : Session} (one : Alike first second)
    (two : Alike second third) : Alike first third :=
  ⟨two.kept.trans one.kept, two.received.trans one.received⟩

/-- Starting an operation. -/
theorem Alike.await (session : Session) (op : Op) : Alike session (session.await op) := ⟨rfl, rfl⟩

/-- Recording an effect that reads nothing. -/
theorem Alike.emit (session : Session) {effect : Effect}
    (quiet : receivedBytes .down [effect] = []) : Alike session (session.emit effect) := by
  refine ⟨rfl, ?_⟩
  change receivedBytes .down (session.trace ++ [effect]) = _
  rw [receivedBytes_append, quiet, List.append_nil]

/-- Being destroyed. -/
theorem Alike.destroy (session : Session) : Alike session session.destroy :=
  ⟨kept_destroy, by rw [Session.destroy_trace]⟩

/-- Sending a datagram. -/
theorem Alike.asyncSendTo (session : Session) (payload : Bytes) (endpoint : Endpoint)
    (directions : List Direction) :
    Alike session (session.asyncSendTo payload endpoint directions) :=
  (Alike.emit session rfl).trans (.await _ _)

/-- Sending the first datagram. -/
theorem Alike.openAndSend (session : Session) (world : World) (payload : Bytes)
    (endpoint : Endpoint) : Alike session (session.openAndSend world payload endpoint) := by
  unfold Session.openAndSend
  split
  · exact .asyncSendTo _ _ _ _
  · split
    · have opened : Alike session { session with udpOpen := true } := ⟨rfl, rfl⟩
      exact opened.trans (.asyncSendTo _ _ _ _)
    · exact .destroy _

/-- Sending or resolving a packet. -/
theorem Alike.dispatch (session : Session) (world : World) (first : Bool) (packet : UDPPacket)
    {send : Session → Endpoint → Session}
    (sends : ∀ endpoint, Alike session (send session endpoint)) :
    Alike session (session.dispatch world first packet send) := by
  unfold Session.dispatch
  dsimp only
  split
  · exact sends _
  · exact (Alike.emit session rfl).trans (.await _ _)

/-- Stepping over a packet. -/
theorem Alike.advance (session : Session) (len : Nat) : Alike session (session.advance len) := by
  obtain ⟨buff, offset, moved⟩ := session.advance_eq len
  rw [moved]
  exact ⟨rfl, rfl⟩

/-- Reading again. -/
theorem Alike.udpAsyncBidirectionalRead (session : Session) (directions : List Direction) :
    Alike session (session.udpAsyncBidirectionalRead directions) := by
  unfold Session.udpAsyncBidirectionalRead
  dsimp only
  split <;> split <;> exact ⟨rfl, rfl⟩

/-- The first-packet path. -/
theorem Alike.handleTrojanUdpProxy (session : Session) (world : World) :
    Alike session (session.handleTrojanUdpProxy world) := by
  have forward : Alike session { session with state := .forward } := ⟨rfl, rfl⟩
  unfold Session.handleTrojanUdpProxy
  dsimp only
  split
  · split
    · exact forward.trans (.destroy _)
    · exact forward.trans (.await _ _)
  · refine (forward.trans (.advance _ _)).trans (.dispatch _ _ _ _ fun endpoint => ?_)
    exact .openAndSend _ _ _ _

/-- The steady path. -/
theorem Alike.onUdpRead (session : Session) (world : World) :
    Alike session (session.onUdpRead world) := by
  unfold Session.onUdpRead
  split
  · split
    · exact .destroy _
    · exact .udpAsyncBidirectionalRead _ _
  · refine (Alike.advance _ _).trans (.dispatch _ _ _ _ fun endpoint => ?_)
    exact .asyncSendTo _ _ _ _

/-- A resolved packet. -/
theorem Alike.onUdpResolved (session : Session) (world : World) (first : Bool) (packet : UDPPacket)
    (key : Bytes) (results : List Endpoint) :
    Alike session (session.onUdpResolved world first packet key results) := by
  unfold Session.onUdpResolved
  split
  · exact .destroy _
  · rename_i endpoint _
    have cached : Alike session (session.emit (.putUdp key endpoint)) := .emit session rfl
    refine cached.trans ?_
    dsimp only
    split
    · exact .openAndSend _ _ _ _
    · exact .asyncSendTo _ _ _ _

/-- Bytes of the client are recorded and queued. -/
theorem received_appendUdp (session : Session) (data : Bytes) :
    kept ((session.receive .down data).appendUdp data.length) = kept session ∧
      receivedBytes .down ((session.receive .down data).appendUdp data.length).trace =
        receivedBytes .down session.trace ++ data := by
  refine ⟨rfl, ?_⟩
  change receivedBytes .down (session.trace ++ [.received .down data]) = _
  rw [receivedBytes_received, if_pos rfl]

/-- **An operation of the UDP mode** keeps the request and reads what its completion says. -/
theorem udp_handle_reads (config : ServerConfig) (world : World) (session : Session)
    (udp : Tunnel.isUdp op = true) (admitted : op.admits result = true) :
    kept (session.handle config world op result) = kept session ∧
      receivedBytes .down (session.handle config world op result).trace =
        receivedBytes .down session.trace ++ clientData ⟨op, result, world⟩ := by
  have nothing {after : Session} (alike : Alike session after) : kept after = kept session ∧
      receivedBytes .down after.trace = receivedBytes .down session.trace ++ [] :=
    ⟨alike.kept, by rw [alike.received, List.append_nil]⟩
  cases result with
  | failed =>
    rw [Session.handle_failed]
    exact nothing (.destroy _)
  | done =>
    cases op with
    | udpSend directions => exact nothing (.udpAsyncBidirectionalRead _ _)
    | udpWrite => exact nothing (.udpAsyncBidirectionalRead _ [.up])
    | udpFirstRead | udpResolve | udpRead | udpReceive => cases admitted
    | _ => cases udp
  | read data =>
    cases op with
    | udpFirstRead =>
      obtain ⟨same, read⟩ := received_appendUdp session data
      have alike := Alike.handleTrojanUdpProxy
        ((session.receive .down data).appendUdp data.length) world
      exact ⟨alike.kept.trans same, alike.received.trans read⟩
    | udpRead =>
      obtain ⟨same, read⟩ := received_appendUdp session data
      have alike := Alike.onUdpRead ((session.receive .down data).appendUdp data.length) world
      exact ⟨alike.kept.trans same, alike.received.trans read⟩
    | udpSend | udpWrite | udpResolve | udpReceive => cases admitted
    | _ => cases udp
  | sent count =>
    cases op with
    | udpFirstRead | udpSend | udpWrite | udpResolve | udpReceive | udpRead => cases admitted
    | _ => cases udp
  | resolved results =>
    cases op with
    | udpResolve first packet key => exact nothing (.onUdpResolved _ _ _ _ _ _)
    | udpFirstRead | udpSend | udpWrite | udpReceive | udpRead => cases admitted
    | _ => cases udp
  | received sender data =>
    cases op with
    | udpReceive =>
      refine nothing ?_
      have filled : Alike session (session.fill .up data) := ⟨rfl, rfl⟩
      exact filled.trans ((Alike.emit _ rfl).trans ((Alike.emit _ rfl).trans (.await _ _)))
    | udpFirstRead | udpSend | udpWrite | udpResolve | udpRead => cases admitted
    | _ => cases udp

end Reads

section Course

/-- The first message asked for the UDP mode with an allowed password, and the bytes of the client
are that message and those read since. -/
def AsksUdp (config : ServerConfig) (past : List Event) (session : Session) : Prop :=
  ∃ message, (TrojanReq.parse {} message).1 ≠ -1 ∧
    session.trojanReq = (TrojanReq.parse {} message).2 ∧
    session.trojanReq.command = some .udpAssociate ∧
    session.trojanReq.password ∈ config.allowedPasswords ∧
    clientBytes past = message ++ receivedBytes .down session.trace

/-- A session that was destroyed or whose process has ended. -/
def Over (session : Session) : Prop := session.state = .destroy ∨ session.crashed = true

/-- Where a session stands with respect to the UDP mode. -/
inductive Course (config : ServerConfig) (kind : SessionKind) (past : List Event)
    (session : Session) : Prop
  /-- The first message was not read. -/
  | waiting (waiting : Waiting kind session) (silent : clientBytes past = [])
  /-- The session serves a TCP target or ended before it served one. -/
  | tcp (tcp : session.OnlyTcp) (ended : session.pending = [] → Over session)
  /-- The session is in UDP mode. -/
  | udp (flowing : Flowing session) (asks : AsksUdp config past session)
  /-- The session was in UDP mode. -/
  | dead (dead : Dead session)

/-- Looking for a target starts an operation. -/
theorem doResolve_busy (session : Session) (world : World) :
    (session.doResolve world).pending ≠ [] := by
  unfold Session.doResolve
  dsimp only
  split <;> exact List.append_ne_nil_of_right_ne_nil _ (List.cons_ne_nil _ _)

/-- Forwarding starts with operations in flight. -/
theorem startForwarding_busy (session : Session) : session.startForwarding.pending ≠ [] := by
  simp [Session.startForwarding, Session.asyncBidirectionalRead, Session.await, dirBoth]

/-- An operation on the way to a tunnel is followed by another one or ends the session. -/
theorem opening_over (completion : TcpCompletion op result) (other : Tunnel.isTunnel op = false)
    (none : (session.handle config world op result).pending = []) :
    Over (session.handle config world op result) := by
  cases completion with
  | failed =>
    rw [Session.handle_failed]
    exact .inl Session.destroy_state
  | resolved dnsKey results =>
    change (session.onResolved dnsKey results).pending = [] at none
    change Over (session.onResolved dnsKey results)
    unfold Session.onResolved at none ⊢
    cases found : results.head? with
    | none => exact .inl Session.destroy_state
    | some endpoint =>
      rw [found] at none
      exact absurd none (List.append_ne_nil_of_right_ne_nil _ (List.cons_ne_nil _ _))
  | connected =>
    change (session.onConnected world).pending = [] at none
    change Over (session.onConnected world)
    unfold Session.onConnected at none ⊢
    by_cases fine : world.optionsOk = true
    · rw [if_pos fine] at none
      split at none
      · exact absurd none (startForwarding_busy session)
      · exact absurd none (List.append_ne_nil_of_right_ne_nil _ (List.cons_ne_nil _ _))
    · rw [if_neg fine]
      exact .inr rfl
  | written => exact absurd none (startForwarding_busy _)
  | read | sent => cases other

/-- A session of the TCP mode goes on waiting until it is over. -/
theorem tcp_over {event : Event} (phase : Tunnel.Phase session) (tcp : session.OnlyTcp)
    (stepped : session.step config event = some next) (none : next.pending = []) : Over next := by
  obtain ⟨member, admitted, handled⟩ := Session.step_some stepped
  have completion := tcpCompletion_of_admits (tcp _ member) admitted
  rcases phase with opening | relaying | tunnelling | closed
  · obtain ⟨⟨op, alone, -, other⟩, -⟩ := opening
    rw [alone, List.mem_singleton] at member
    rw [← handled] at none ⊢
    rw [← member] at other
    exact opening_over completion other none
  · have udp := relaying.udp _ member
    have own := tcp _ member
    cases isOp : event.op <;> simp [isOp, Tunnel.isUdp, Op.isTcp] at udp own
  · rcases tunnelling.step stepped with kept | rfl
    · obtain ⟨-, ops, perm, -⟩ := kept
      rw [none] at perm
      exact absurd perm.nil_eq (List.cons_ne_nil _ _).symm
    · exact .inl Session.destroy_state
  · rw [← handled]
    have left : Tunnel.Closed (session.complete event.op) :=
      ⟨closed.dead, fun op among => closed.tunnel op (List.mem_of_mem_erase among)⟩
    exact .inl (left.handle config event.world event.op event.result (closed.tunnel _ member)
      admitted).dead

/-- The password check leads to the UDP mode, to a TCP target or to the end. -/
theorem course_authenticate {parsed : Session} {event : Event} {valid : Bool}
    (alive : parsed.state ≠ .destroy) (idle : parsed.pending = [])
    (offset : parsed.udpBuffOffset = 0)
    (silent : receivedBytes .down parsed.trace = []) (unsent : sentPayloads parsed.trace = [])
    (reads : clientData event = data) (before : clientBytes past = [])
    (asks : valid = true → parsed.vprotocol = false → (TrojanReq.parse {} data).1 ≠ -1 ∧
      parsed.trojanReq = (TrojanReq.parse {} data).2 ∧
      parsed.password = parsed.trojanReq.password) :
    Course config kind (past ++ [event]) (parsed.authenticate config world valid) := by
  have tcp : parsed.OnlyTcp := by simp [Session.OnlyTcp, idle]
  have ended : Course config kind (past ++ [event]) parsed.destroy :=
    .tcp (tcp.congr Session.destroy_pending) fun _ => .inl Session.destroy_state
  unfold Session.authenticate
  split
  · rename_i fine
    split
    · rename_i allowed
      split
      · rename_i udp
        obtain ⟨accepted, request, password⟩ := asks fine udp.1
        have start : Between { parsed with upstreamUdpBuff := parsed.trojanReq.payload }
            (sentPayloads parsed.trace) := by
          refine ⟨alive, by simp [idle], by simp [idle], by simp [offset], [], ?_, by simp [unsent]⟩
          simp only [stream, silent, List.append_nil, Session.remaining, offset, List.drop_zero]
          exact .start _
        have alike := Alike.handleTrojanUdpProxy
          { parsed with upstreamUdpBuff := parsed.trojanReq.payload } world
        have same : (Session.handleTrojanUdpProxy { parsed with
            upstreamUdpBuff := parsed.trojanReq.payload } world).trojanReq = parsed.trojanReq :=
          congrArg Kept.trojanReq alike.kept
        rcases flowing_handleTrojanUdpProxy start idle world with flowing | dead
        · refine .udp flowing ⟨data, accepted, same.trans request, ?_, ?_, ?_⟩
          · rw [same]
            exact udp.2
          · rw [same, ← password]
            exact allowed
          · rw [clientBytes_concat, before, reads, alike.received]
            change _ = data ++ receivedBytes .down parsed.trace
            rw [silent, List.append_nil]
            rfl
        · exact .dead dead
      · obtain ⟨state, goes⟩ := Session.doResolve_goes parsed world
        refine .tcp (fun op member => (goes.pending member).elim (tcp op) id) fun none => ?_
        exact absurd none (doResolve_busy parsed world)
    · exact ended
  · exact ended

/-- The first message leads to the UDP mode, to a TCP target or to the end. -/
theorem course_firstRead (before : clientBytes past = []) :
    Course config kind (past ++ [⟨.firstRead, .read data, world⟩])
      ({ Session.start kind with pending := [] }.handle config world .firstRead (.read data)) := by
  have message : ((({ Session.start kind with pending := [] } : Session).fill .down data).emit
      (.firstMessage data)).inBuf.take data.length = data := by simp [Session.emit, Session.fill]
  have reads : clientData ⟨.firstRead, .read data, world⟩ = data := rfl
  have alive : SessionState.handshake ≠ .destroy := by decide
  change Course config kind _ (Session.onFirstMessage _ config world data.length)
  unfold Session.onFirstMessage
  simp only [message]
  split
  · split
    · refine .tcp (fun op member => ?_) fun _ => .inr rfl
      cases member
    · refine course_authenticate alive rfl rfl rfl rfl reads before ?_
      intro _ other
      cases other
  · refine course_authenticate alive rfl rfl rfl rfl reads before ?_
    intro valid _
    exact ⟨bne_iff_ne.mp valid, rfl, rfl⟩

/-- Every operation of the UDP mode in flight is one of that mode. -/
theorem Flowing.udp (flowing : Flowing session) (member : op ∈ session.pending) :
    Tunnel.isUdp op = true := by
  obtain ⟨-, first, beside, perm, uplink, -⟩ := flowing
  rcases List.mem_cons.mp (perm.mem_iff.mp member) with rfl | there
  · cases uplink <;> rfl
  · have down := uplink.others there
    cases op <;> first | rfl | cases down

/-- **One step** keeps a session on its course. -/
theorem step_course {event : Event} (course : Course config kind past session)
    (phase : Tunnel.Phase session) (stepped : session.step config event = some next) :
    Course config kind (past ++ [event]) next := by
  obtain ⟨member, admitted, outcome⟩ := Session.step_outcome stepped
  cases course with
  | waiting waiting silent =>
    rcases waiting.step stepped with ⟨still, none⟩ | rfl | ⟨data, world, rfl, rfl⟩
    · exact .waiting still (clientBytes_concat_nil silent none)
    · refine .tcp (fun op member => ?_) fun _ => .inl Session.destroy_state
      rw [Session.destroy_pending] at member
      cases member
    · exact course_firstRead silent
  | tcp tcp ended =>
    have rest : (session.complete event.op).OnlyTcp := fun op left =>
      tcp op (List.mem_of_mem_erase left)
    exact .tcp (rest.outcome (tcp _ member) outcome) (tcp_over phase tcp stepped)
  | udp flowing asks =>
    rcases flowing.step stepped with goesOn | dead
    · refine .udp goesOn ?_
      obtain ⟨-, -, rfl⟩ := Session.step_some stepped
      obtain ⟨same, read⟩ := udp_handle_reads config event.world (session.complete event.op)
        (flowing.udp member) admitted
      obtain ⟨message, accepted, request, command, allowed, whole⟩ := asks
      have keeps := congrArg Kept.trojanReq same
      refine ⟨message, accepted, keeps.trans request, ?_, ?_, ?_⟩
      · exact (congrArg TrojanReq.command keeps).trans command
      · exact (congrArg TrojanReq.password keeps) ▸ allowed
      · rw [clientBytes_concat, whole, read, List.append_assoc]
        rfl
    · exact .dead dead
  | dead dead =>
    obtain ⟨-, -, rfl⟩ := Session.step_some stepped
    have rest : Dead (session.complete event.op) :=
      ⟨dead.dead, fun op left => dead.steady op (List.mem_of_mem_erase left)⟩
    exact .dead (rest.handle event.world event.result (dead.steady _ member))

/-- Every run of a session keeps it on its course. -/
theorem run_course {events : List Event}
    (ran : run (Session.step config) (Session.start kind) events = some session) :
    Course config kind events session := by
  have start : Course config kind [] (Session.start kind) ∧ Tunnel.Phase (Session.start kind) :=
    ⟨.waiting ⟨.handshake, rfl, rfl⟩ rfl, .inl (Tunnel.start_opening kind)⟩
  have course := @run_history _ _ _ _ _ _
    (fun past state => Course config kind past state ∧ Tunnel.Phase state) [] ?_ start ran
  · exact course.1
  rintro past state event next ⟨course, phase⟩ stepped
  exact ⟨step_course course phase stepped, Tunnel.step_phase config state event next phase stepped⟩

end Course

/-- **Datagrams follow the client's packets.** In every run of a live session in UDP mode, for
every way the client's bytes are cut into reads and every order of completions: the bytes read from
the client are one Trojan request for UDP with an allowed password and, behind it, packets and an
unparsed rest; the payloads of these packets, in their order and each once, are those of the
datagrams sent, and at most one more, of a packet whose target is being resolved. -/
theorem udp_datagrams_in_order (config : ServerConfig) (kind : SessionKind) (events : List Event)
    (session : Session) (ran : run (Session.step config) (Session.start kind) events = some session)
    (alive : session.state ≠ .destroy) (udp : ∃ op ∈ session.pending, Tunnel.isUdp op = true) :
    ∃ (parts : TrojanCodec.RequestParts) (packets : List UDPPacket) (waiting : List Bytes),
      parts.password ∈ config.allowedPasswords ∧ parts.command = .udpAssociate ∧
      clientBytes events = parts.bytes ∧
      Decoded UDPPacket.parse parts.payload packets session.remaining ∧
      packets.map (·.payload) = sentPayloads session.trace ++ waiting ∧
      (waiting = [] ∨ ∃ first packet key, Op.udpResolve first packet key ∈ session.pending ∧
        waiting = [packet.payload]) := by
  obtain ⟨some, among, isUdp⟩ := udp
  cases run_course ran with
  | waiting waiting =>
    obtain ⟨op, greeting, rfl⟩ := waiting
    rw [List.mem_singleton.mp among] at isUdp
    cases op <;> simp [Op.isGreeting, Tunnel.isUdp] at greeting isUdp
  | tcp tcp =>
    have own := tcp some among
    cases some <;> simp [Op.isTcp, Tunnel.isUdp] at own isUdp
  | udp flowing asks =>
    obtain ⟨message, accepted, request, command, allowed, whole⟩ := asks
    obtain ⟨-, op, beside, perm, uplink, -, packets, decoded, mapped⟩ := flowing
    obtain ⟨parts, of⟩ := TrojanCodec.RequestParts.exists_of_parse accepted
    have keeps : session.trojanReq = parts.request := by
      rw [of.parse] at request
      exact request
    rw [keeps] at command allowed
    have payload : stream session = parts.payload ++ receivedBytes .down session.trace := by
      rw [stream, keeps]
      rfl
    rw [payload] at decoded
    refine ⟨{ parts with payload := parts.payload ++ receivedBytes .down session.trace }, packets,
      outstanding op, allowed, Option.some.inj command, ?_, decoded, mapped, ?_⟩
    · rw [whole, of.whole, bytes_append_payload]
    · have inFlight : op ∈ session.pending := perm.mem_iff.mpr List.mem_cons_self
      cases op with
      | udpResolve first packet key => exact .inr ⟨first, packet, key, inFlight, rfl⟩
      | _ => exact .inl rfl
  | dead dead => exact absurd dead.dead alive

/-- Two packets in one read: the first one is sent, the second one stays in the buffer. -/
theorem udp_datagrams_in_order_sample : ∃ session,
    run (Session.step ⟨[[0x70]]⟩) (Session.start .tls)
        (TrojanUdp.sampleEvents (samplePacket 7 ++ samplePacket 8)) = some session ∧
      sentPayloads session.trace = [[7]] ∧
      ∃ (parts : TrojanCodec.RequestParts) (packets : List UDPPacket) (waiting : List Bytes),
        parts.password ∈ [[(0x70 : UInt8)]] ∧ parts.command = .udpAssociate ∧
        clientBytes (TrojanUdp.sampleEvents (samplePacket 7 ++ samplePacket 8)) = parts.bytes ∧
        Decoded UDPPacket.parse parts.payload packets session.remaining ∧
        packets.map (·.payload) = sentPayloads session.trace ++ waiting ∧
        (waiting = [] ∨ ∃ first packet key, Op.udpResolve first packet key ∈ session.pending ∧
          waiting = [packet.payload]) := by
  have checked : (run (Session.step ⟨[[0x70]]⟩) (Session.start .tls)
      (TrojanUdp.sampleEvents (samplePacket 7 ++ samplePacket 8))).any (fun session =>
        decide (session.state ≠ .destroy ∧ (∃ op ∈ session.pending, Tunnel.isUdp op = true) ∧
          sentPayloads session.trace = [[7]])) = true := by
    decide +kernel
  obtain ⟨session, ran, good⟩ := exists_of_run checked
  obtain ⟨alive, udp, sent⟩ := of_decide_eq_true good
  exact ⟨session, ran, sent, udp_datagrams_in_order _ _ _ _ ran alive udp⟩

section Exclusive

/-- The halves of a session's two connections. -/
inductive Half where
  /-- Bytes from the client. -/
  | clientIn
  /-- Bytes to the client. -/
  | clientOut
  /-- Bytes and datagrams from the target. -/
  | targetIn
  /-- Bytes and datagrams to the target. -/
  | targetOut
deriving DecidableEq, Repr

/-- The operation uses a half of a connection; handshakes and connecting use both halves. -/
def uses : Half → Op → Bool
  | .clientIn, .handshake | .clientIn, .accept | .clientIn, .firstRead => true
  | .clientIn, .read .down | .clientIn, .udpFirstRead | .clientIn, .udpRead => true
  | .clientOut, .handshake | .clientOut, .accept => true
  | .clientOut, .send .up _ _ | .clientOut, .udpWrite => true
  | .targetIn, .connect | .targetIn, .read .up | .targetIn, .udpReceive => true
  | .targetOut, .connect | .targetOut, .payloadWrite => true
  | .targetOut, .send .down _ _ | .targetOut, .udpSend _ => true
  | _, _ => false

variable {half : Half} {ops : List Op}

/-- One operation in flight is alone on every half. -/
theorem exclusive_single : [op].countP (uses half) ≤ 1 := List.countP_le_length

/-- Two operations that share no half. -/
theorem exclusive_pair {one two : Op} (perm : ops.Perm [one, two])
    (apart : uses half one = true → uses half two = false) : ops.countP (uses half) ≤ 1 := by
  rw [perm.countP_eq, List.countP_cons, List.countP_singleton]
  cases first : uses half one with
  | false => split <;> simp
  | true => simp [apart first]

/-- The two operations of a tunnel share no half. -/
theorem tunnel_apart {down up : Lane} {one two : Op} {handed carried sent source : Bytes}
    (first : Tunnel.LaneOk .down down one handed carried)
    (second : Tunnel.LaneOk .up up two sent source) (used : uses half one = true) :
    uses half two = false := by
  rcases first.busy with ⟨rfl, -⟩ | ⟨rfl, -⟩ <;> rcases second.busy with ⟨rfl, -⟩ | ⟨rfl, -⟩ <;>
    cases half <;> first | rfl | cases used

/-- The two operations of the UDP mode share no half. -/
theorem udp_exclusive (perm : ops.Perm (op :: beside)) (uplink : Uplink op beside) :
    ops.countP (uses half) ≤ 1 := by
  have apart {down : Op} (own : isDownlink down = true) (up : isUplink op = true)
      (used : uses half op = true) : uses half down = false := by
    cases down with
    | udpReceive | udpWrite =>
      cases op <;> cases half <;> first | rfl | (cases up; done) | cases used
    | _ => cases own
  have up := uplink.own
  cases uplink with
  | firstRead | firstResolve | firstSend =>
    rw [perm.countP_eq]
    exact exclusive_single
  | read own | resolve own | send own => exact exclusive_pair perm (apart own up)

end Exclusive

/-- **A live session is never stuck and never overlaps its operations.** In every run, in every
mode, a session that was not destroyed waits for some operation, and no two operations in flight
use the same half of the client's or the target's connection. -/
theorem operations_exclusive (config : ServerConfig) (kind : SessionKind) (events : List Event)
    (session : Session) (ran : run (Session.step config) (Session.start kind) events = some session)
    (alive : session.state ≠ .destroy) (running : session.crashed = false) :
    session.pending ≠ [] ∧ ∀ half, session.pending.countP (uses half) ≤ 1 := by
  rcases Tunnel.run_phase ran with opening | relaying | tunnelling | closed
  · obtain ⟨⟨op, alone, -⟩, -⟩ := opening
    rw [alone]
    exact ⟨List.cons_ne_nil _ _, fun half => exclusive_single⟩
  · cases run_course ran with
    | waiting waiting =>
      obtain ⟨op, -, rfl⟩ := waiting
      exact ⟨List.cons_ne_nil _ _, fun half => exclusive_single⟩
    | tcp tcp ended =>
      -- an operation of neither mode can be in flight, so the session would be over
      have none : session.pending = [] := by
        refine List.eq_nil_iff_forall_not_mem.mpr fun op member => ?_
        have udp := relaying.udp op member
        have own := tcp op member
        cases op <;> simp [Tunnel.isUdp, Op.isTcp] at udp own
      rcases ended none with dead | crashed
      · exact absurd dead alive
      · rw [running] at crashed
        cases crashed
    | udp flowing =>
      obtain ⟨-, op, beside, perm, uplink, -⟩ := flowing
      refine ⟨?_, fun half => udp_exclusive perm uplink⟩
      intro none
      rw [none] at perm
      exact absurd perm.nil_eq (List.cons_ne_nil _ _).symm
    | dead dead => exact absurd dead.dead alive
  · obtain ⟨-, ops, perm, lanes⟩ := tunnelling
    refine ⟨?_, fun half => exclusive_pair perm (tunnel_apart (lanes .down) (lanes .up))⟩
    intro none
    rw [none] at perm
    exact absurd perm.nil_eq (List.cons_ne_nil _ _).symm
  · exact absurd closed.dead alive

/-- The sample session of the UDP mode reads its client and its target. -/
theorem operations_exclusive_sample : ∃ session,
    run (Session.step ⟨[[0x70]]⟩) (Session.start .tls)
        (TrojanUdp.sampleEvents (samplePacket 7)) = some session ∧
      session.pending = [.udpRead, .udpReceive] ∧ session.pending ≠ [] ∧
      ∀ half, session.pending.countP (uses half) ≤ 1 := by
  have checked : (run (Session.step ⟨[[0x70]]⟩) (Session.start .tls)
      (TrojanUdp.sampleEvents (samplePacket 7))).any (fun session =>
        decide (session.state ≠ .destroy ∧ session.crashed = false ∧
          session.pending = [.udpRead, .udpReceive])) = true := by
    decide +kernel
  obtain ⟨session, ran, good⟩ := exists_of_run checked
  obtain ⟨alive, running, pending⟩ := of_decide_eq_true good
  exact ⟨session, ran, pending, operations_exclusive _ _ _ _ ran alive running⟩

section Replies

/-- Datagrams received from the target side. -/
def targetDatagrams (trace : List Effect) : List Bytes :=
  trace.filterMap fun effect => match effect with
    | .udpReceived _ data => some data
    | _ => none

/-- Packets written to the client. -/
def replyPackets (trace : List Effect) : List Bytes :=
  trace.filterMap fun effect => match effect with
    | .udpReply packet => some packet
    | _ => none

/-- The packets written are those of the datagrams received. -/
def Answered (trace : List Effect) : Prop :=
  replyPackets trace = (targetDatagrams trace).map (UDPPacket.generate .unspecified)

/-- Effects of neither sort. -/
def isSilent : Effect → Bool
  | .udpReceived _ _ | .udpReply _ => false
  | _ => true

/-- Effects of neither sort change nothing. -/
theorem Answered.silent {trace effects : List Effect} (answered : Answered trace)
    (silent : ∀ effect ∈ effects, isSilent effect = true) : Answered (trace ++ effects) := by
  have none : replyPackets effects = [] ∧ targetDatagrams effects = [] := by
    constructor <;> refine List.filterMap_eq_nil_iff.mpr fun effect member => ?_
    all_goals
      have quiet := silent effect member
      cases effect <;> first | rfl | cases quiet
  unfold Answered replyPackets targetDatagrams at *
  rw [List.filterMap_append, List.filterMap_append, none.1, none.2, List.append_nil,
    List.append_nil]
  exact answered

/-- A session that goes on with effects of neither sort. -/
theorem answered_goes {records : Effect → Prop} {starts : Op → Prop}
    (goes : session.Goes records starts next)
    (silent : ∀ effect, records effect → isSilent effect = true)
    (answered : Answered session.trace) : Answered next.trace := by
  obtain ⟨effects, traced, fine⟩ := goes.recorded
  rw [traced]
  exact answered.silent fun effect member => silent effect (fine effect member)

/-- Plain effects are of neither sort. -/
theorem isSilent_plain {effect : Effect} (plain : effect.IsPlain) : isSilent effect = true := by
  cases effect <;> first | rfl | cases plain

/-- **One step** answers the datagram it receives and writes no other packet. -/
theorem outcome_answered (outcome : session.Outcome world op result next)
    (answered : Answered session.trace) : Answered next.trace := by
  have recorded {effect : Effect} (quiet : isSilent effect = true) :
      Answered (session.emit effect).trace := by
    refine answered.silent fun other member => ?_
    rwa [List.mem_singleton.mp member]
  cases outcome with
  | failed => rwa [Session.destroy_trace]
  | greeted => exact answered
  | tcp own state goes => exact answered_goes goes (fun _ => isSilent_plain) answered
  | service state goes => exact answered_goes goes (fun _ => isSilent_plain) (recorded rfl)
  | @packet _ data buff effect held _ source holds goes ended =>
    refine answered_goes goes ?_ ?_
    · intro effect own
      cases effect <;> first | rfl | cases own
    · rw [Session.skipPacket_trace, holds.trace]
      exact recorded (isSilent_plain (Session.packetSource_plain source))
  | resolved chosen goes =>
    refine answered_goes goes ?_ (recorded rfl)
    rintro _ rfl
    rfl
  | unresolved none => rwa [Session.destroy_trace]
  | resumed own goes => exact answered_goes goes (fun _ => False.elim) answered
  | @replied sender data _ goes =>
    refine answered_goes goes (fun _ => False.elim) ?_
    change Answered ((session.trace ++ [_]) ++ [_])
    unfold Answered replyPackets targetDatagrams at *
    simp only [List.filterMap_append, answered, List.map_append, List.append_assoc]
    rfl

/-- A datagram that a length word can describe. -/
abbrev SmallDatagram := { data : Bytes // data.length < 2 ^ 16 }

/-- What the packet of a datagram is parsed to. -/
def parsedReply (data : SmallDatagram) : UDPPacket where
  address := ⟨some .ipv4, dotted 0 0 0 0, 0⟩
  length := UInt16.ofNat data.val.length
  payload := data.val

/-- The packet of a datagram is parsed whole. -/
theorem parse_reply (data : SmallDatagram) :
    UDPPacket.parse (UDPPacket.generate .unspecified data.val) =
      some (parsedReply data, (UDPPacket.generate .unspecified data.val).length) := by
  have whole : SOCKS5Address.parse (SOCKS5Address.generate .unspecified) =
      some (⟨some .ipv4, dotted 0 0 0 0, 0⟩, (SOCKS5Address.generate .unspecified).length) := by
    decide +kernel
  exact UDPPacket.parse_tail whole data.property

/-- The bytes a write takes in the call that starts it: one TLS record, or one fragment of a
websocket message when no control frame is on its way. `udp_async_bidirectional_read` hands
`upstream_udp_write` a string that it drops when it returns, so a write that goes on after the call
reads freed memory. -/
def takenAtOnce : SessionKind → Nat
  | .tls => 16 * 1024
  | .websocket => 4 * 1024

/-- What is taken at once is less than a length word can describe. -/
theorem takenAtOnce_lt (kind : SessionKind) : takenAtOnce kind < 2 ^ 16 := by
  cases kind <;> decide

/-- A packet is longer than its datagram. -/
theorem length_le_generate (data : Bytes) :
    data.length ≤ (UDPPacket.generate .unspecified data).length := by
  unfold UDPPacket.generate UDPPacket.tail
  simp only [List.length_append]
  omega

/-- **The client gets the target's datagrams.** In every run of a session whose target side sends
datagrams such that each packet is taken by the call that starts its write, parsing what was
written to the client packet by packet gives back exactly the datagrams received, in their
order. -/
theorem replies_decode (config : ServerConfig) (kind : SessionKind) (events : List Event)
    (session : Session) (ran : run (Session.step config) (Session.start kind) events = some session)
    (taken : ∀ data ∈ targetDatagrams session.trace,
      (UDPPacket.generate .unspecified data).length ≤ takenAtOnce kind) :
    (decodeStream UDPPacket.parse (replyPackets session.trace).flatten).map (·.payload) =
      targetDatagrams session.trace := by
  have answered : Answered session.trace := by
    have start : Answered (Session.start kind).trace := rfl
    refine @run_invariant _ _ _ (fun state => Answered state.trace) _ _ _ ?_ start ran
    intro state event next answered stepped
    exact outcome_answered (Session.step_outcome stepped).2.2 answered
  have small : ∀ data ∈ targetDatagrams session.trace, data.length < 2 ^ 16 := fun data member =>
    calc data.length
      _ ≤ (UDPPacket.generate .unspecified data).length := length_le_generate data
      _ ≤ takenAtOnce kind := taken data member
      _ < 2 ^ 16 := takenAtOnce_lt kind
  obtain ⟨datagrams, same⟩ : ∃ datagrams : List SmallDatagram,
      datagrams.map Subtype.val = targetDatagrams session.trace :=
    ⟨(targetDatagrams session.trace).attachWith _ small, List.attachWith_map_subtype_val small⟩
  have decoded := Decoded.flatMap parse_selfDelimiting
    (fun data : SmallDatagram => UDPPacket.generate .unspecified data.val) parsedReply parse_reply
    datagrams
  have written : (replyPackets session.trace).flatten = datagrams.flatMap
      (fun data : SmallDatagram => UDPPacket.generate .unspecified data.val) := by
    rw [answered, ← same, List.map_map, List.flatMap_def]
    rfl
  rw [written, decoded.decodeStream_eq parse_selfDelimiting parse_selfDelimiting.parse_nil,
    List.map_map, ← same]
  rfl

/-- The target answers the sample session with two bytes. -/
theorem replies_decode_sample : ∃ session,
    run (Session.step ⟨[[0x70]]⟩) (Session.start .tls)
        (TrojanUdp.sampleEvents (samplePacket 7) ++
          [⟨.udpReceive, .received ⟨.ofWord 0x7f000001, 53⟩ [1, 2], {}⟩]) = some session ∧
      targetDatagrams session.trace = [[1, 2]] ∧
      (decodeStream UDPPacket.parse (replyPackets session.trace).flatten).map (·.payload) =
        targetDatagrams session.trace := by
  have checked : (run (Session.step ⟨[[0x70]]⟩) (Session.start .tls)
      (TrojanUdp.sampleEvents (samplePacket 7) ++
        [⟨.udpReceive, .received ⟨.ofWord 0x7f000001, 53⟩ [1, 2], {}⟩])).any (fun session =>
        decide (targetDatagrams session.trace = [[1, 2]])) = true := by
    decide +kernel
  obtain ⟨session, ran, good⟩ := exists_of_run checked
  have received := of_decide_eq_true good
  refine ⟨session, ran, received, replies_decode _ _ _ _ ran ?_⟩
  rw [received]
  decide +kernel

end Replies

end Overplus.Verif.UdpMode
