import Overplus.Verif.TrojanUdp

/-!
# The buffer of the UDP mode

A session in UDP mode appends what it reads to a buffer, parses one packet from it for each
read and drops the parsed bytes once they are many and bytes follow them. While the packets
parsed leave few bytes behind them, and some bytes once many were parsed, the buffer of a live
session stays below twice the size of a read. A client whose reads always end where a packet
ends makes it grow without bound.
-/
namespace Overplus.Verif.UdpBuffer

open Server

/-- A packet parsed at the offset leaves at most one read of bytes behind it, and some bytes
unless at most one read of bytes is parsed. -/
def LeavesRoom (buff : Bytes) (offset : Nat) : Prop :=
  ∀ parsed ∈ UDPPacket.parse (buff.drop offset),
    buff.length - (offset + parsed.2) ≤ maxBuffSize ∧
      (offset + parsed.2 ≤ maxBuffSize ∨ offset + parsed.2 < buff.length)

instance (buff : Bytes) (offset : Nat) : Decidable (LeavesRoom buff offset) :=
  inferInstanceAs (Decidable (∀ parsed ∈ UDPPacket.parse (buff.drop offset), _))

/-- The buffer with the bytes a step reads from the client in UDP mode. -/
def readBuff (session : Session) (event : Event) : Option Bytes :=
  match event.op, event.result with
  | .udpFirstRead, .read data => some (session.upstreamUdpBuff ++ data)
  | .udpRead, .read data => some (session.upstreamUdpBuff ++ data)
  | _, _ => none

/-- A packet that the step reads leaves room. -/
def KeepsRoom (session : Session) (event : Event) : Prop :=
  ∀ buff ∈ readBuff session event, LeavesRoom buff session.udpBuffOffset

instance (session : Session) (event : Event) : Decidable (KeepsRoom session event) :=
  inferInstanceAs (Decidable (∀ buff ∈ readBuff session event, _))

/-- The buffer is small unless the session was destroyed. -/
structure Roomy (session : Session) : Prop where
  /-- At most one read of bytes is parsed. -/
  parsed : session.udpBuffOffset ≤ maxBuffSize
  /-- At most one read of bytes is unparsed. -/
  unparsed : session.upstreamUdpBuff.length - session.udpBuffOffset ≤ maxBuffSize ∨
    session.state = .destroy

/-- A session in UDP mode: the offset is inside the buffer, which is small if the packets so
far left room. -/
structure InUdp (room : Prop) (session : Session) : Prop where
  /-- Only operations of the UDP mode are in flight. -/
  pending : ∀ op ∈ session.pending, op.IsUdp
  /-- The offset is inside the buffer. -/
  inside : session.udpBuffOffset ≤ session.upstreamUdpBuff.length
  /-- The buffer is small. -/
  roomy : room → Roomy session

/-- The buffer of the UDP mode was not used. -/
structure Unused (session : Session) : Prop where
  /-- The buffer is empty. -/
  buff : session.upstreamUdpBuff = []
  /-- The offset is at its start. -/
  offset : session.udpBuffOffset = 0

/-- A session before its first message. -/
structure Greeting (session : Session) : Prop extends Unused session where
  /-- One operation of the greeting is in flight. -/
  pending : ∃ op, session.pending = [op] ∧ op.isGreeting = true
  /-- No request was parsed. -/
  trojanReq : session.trojanReq = {}

/-- Where a session stands with respect to the buffer of the UDP mode. -/
inductive Stage (room : Prop) (session : Session) : Prop where
  /-- The first message was not read. -/
  | greeting (greeting : Greeting session)
  /-- The session serves a TCP target or ended before it served one. -/
  | tcp (tcp : session.OnlyTcp) (unused : Unused session)
  /-- The session is in UDP mode. -/
  | udp (udp : InUdp room session)

variable {room : Prop} {session next held : Session} {world : World} {op : Op} {result : Result}
  {config : ServerConfig}

/-- The stages are about the pending operations, the buffer and the state. -/
theorem InUdp.goes {records : Effect → Prop} (udp : InUdp room session)
    (goes : session.Goes records Op.IsUdp next) : InUdp room next where
  pending := fun op member => (goes.pending member).elim (udp.pending op) id
  inside := by
    rw [goes.offset, goes.buff]
    exact udp.inside
  roomy := by
    intro roomy
    obtain ⟨parsed, unparsed⟩ := udp.roomy roomy
    refine ⟨?_, ?_⟩
    · rw [goes.offset]
      exact parsed
    · rw [goes.offset, goes.buff]
      rcases goes.state with same | ended
      · rw [same]
        exact unparsed
      · exact .inr ended

/-- A destroyed session keeps its buffer. -/
theorem InUdp.destroy (udp : InUdp room session) : InUdp room session.destroy := by
  have goes : session.Goes (fun _ => True) Op.IsUdp session.destroy := .destroy
  exact udp.goes goes

/-- Recording an effect leaves the buffer. -/
theorem InUdp.emit (udp : InUdp room session) (effect : Effect) :
    InUdp room (session.emit effect) := by
  have goes : session.Goes (fun _ => True) Op.IsUdp (session.emit effect) := .emit trivial
  exact udp.goes goes

/-- Bytes held without a packet are few, or the session is destroyed. -/
theorem roomy_none (small : held.udpBuffOffset ≤ maxBuffSize)
    (buff : next.upstreamUdpBuff = held.upstreamUdpBuff)
    (offset : next.udpBuffOffset = held.udpBuffOffset)
    (ended : held.tooLong = true → next.state = .destroy) : Roomy next := by
  refine ⟨by rw [offset]; exact small, ?_⟩
  rw [buff, offset]
  by_cases long : held.tooLong = true
  · exact .inr (ended long)
  · exact .inl (by simpa [Session.tooLong] using long)

/-- Stepping over a packet that leaves room. -/
theorem advance_room {len : Nat} (within : held.udpBuffOffset + len ≤ held.upstreamUdpBuff.length) :
    (held.advance len).udpBuffOffset ≤ (held.advance len).upstreamUdpBuff.length ∧
      (held.upstreamUdpBuff.length - (held.udpBuffOffset + len) ≤ maxBuffSize →
        held.udpBuffOffset + len ≤ maxBuffSize ∨
          held.udpBuffOffset + len < held.upstreamUdpBuff.length →
        (held.advance len).udpBuffOffset ≤ maxBuffSize ∧
          (held.advance len).upstreamUdpBuff.length - (held.advance len).udpBuffOffset ≤
            maxBuffSize) := by
  unfold Session.advance maxBuffSize
  dsimp only
  split
  · dsimp only
    rw [List.length_drop]
    omega
  · dsimp only
    omega

/-- **Handling the bytes held** keeps the offset inside the buffer, and the buffer small when
the packet leaves room. -/
theorem held_inUdp {records : Effect → Prop} (pending : ∀ op ∈ held.pending, op.IsUdp)
    (inside : held.udpBuffOffset ≤ held.upstreamUdpBuff.length)
    (small : room → held.udpBuffOffset ≤ maxBuffSize)
    (leaves : room → LeavesRoom held.upstreamUdpBuff held.udpBuffOffset)
    (goes : held.skipPacket.Goes records Op.IsUdp next)
    (ended : UDPPacket.parse held.remaining = none → held.tooLong = true →
      next.state = .destroy) : InUdp room next := by
  have kept (op : Op) (member : op ∈ next.pending) : op.IsUdp := by
    rcases goes.pending member with old | new
    · rw [Session.skipPacket_pending] at old
      exact pending op old
    · exact new
  have buff := goes.buff
  have offset := goes.offset
  cases found : UDPPacket.parse held.remaining with
  | none =>
    simp only [Session.skipPacket, found] at buff offset
    refine ⟨kept, by rw [buff, offset]; exact inside, fun roomy => ?_⟩
    exact roomy_none (small roomy) buff offset (ended found)
  | some parsed =>
    have bounds := (UDPPacket.parse_spec found).2.1
    rw [Session.remaining, List.length_drop] at bounds
    have room := @advance_room held parsed.2 (by omega)
    simp only [Session.skipPacket, found] at buff offset
    rw [← buff, ← offset] at room
    obtain ⟨within, few⟩ := room
    refine ⟨kept, within, fun roomy => ?_⟩
    obtain ⟨left, more⟩ := leaves roomy parsed found
    obtain ⟨low, high⟩ := few left more
    exact ⟨low, .inl high⟩

/-- A session that starts no more operations and did not use the buffer. -/
theorem Unused.goes {records : Effect → Prop} {starts : Op → Prop} (unused : Unused session)
    (goes : session.Goes records starts next) : Unused next :=
  ⟨goes.buff.trans unused.buff, goes.offset.trans unused.offset⟩

/-- The payload of a first message leaves room. -/
theorem leavesRoom_first {buff : Bytes} (short : buff.length ≤ maxBuffSize) :
    LeavesRoom buff 0 := by
  intro parsed found
  have bounds := (UDPPacket.parse_spec found).2.1
  rw [List.drop_zero] at bounds
  omega

/-- The greeting goes on, or leads to one of the modes. -/
theorem Greeting.outcome (greeting : Greeting session) (member : op ∈ session.pending)
    (admitted : op.admits result = true)
    (outcome : (session.complete op).Outcome world op result next) : Stage room next := by
  obtain ⟨⟨buff, offset⟩, ⟨only, pending, hello⟩, trojanReq⟩ := greeting
  rw [pending, List.mem_singleton] at member
  subst member
  have alone : (session.complete op).pending = [] := by simp [Session.complete, pending]
  have unused : Unused (session.complete op) := ⟨buff, offset⟩
  have served {base : Session} (goes : base.Goes Effect.IsPlain (·.isTcp = true) next)
      (none : base.pending = []) (fresh : Unused base) : Stage room next := by
    refine .tcp (fun other started => ?_) (fresh.goes goes)
    rcases goes.pending started with old | new
    · rw [none] at old
      cases old
    · exact new
  cases outcome with
  | failed => exact served .destroy alone unused
  | greeted _ later =>
    exact .greeting ⟨⟨buff, offset⟩, ⟨_, by simp [Session.await, alone], later⟩, trojanReq⟩
  | tcp own => exact absurd hello (Op.isTcp_exclusive own).1
  | service state goes => exact served goes alone ⟨buff, offset⟩
  | @packet _ data payload effect held _ source holds goes ended =>
    rcases Session.packetSource_op source with rfl | rfl | rfl
    · have start : held.udpBuffOffset = 0 := holds.offset.trans offset
      have short : held.upstreamUdpBuff.length ≤ maxBuffSize := by
        obtain ⟨-, rfl⟩ := Prod.mk.inj (Option.some.inj source)
        have bound : data.length ≤ maxBuffSize := of_decide_eq_true admitted
        rw [holds.buff]
        change (session.trojanReq.parse data).2.payload.length ≤ _
        rw [trojanReq]
        exact (TrojanReq.parse_payload_length data).trans bound
      refine .udp (held_inUdp ?_ ?_ ?_ ?_ goes ended)
      · rw [holds.pending, alone]
        simp
      · rw [start]
        exact Nat.zero_le _
      · intro _
        rw [start]
        exact Nat.zero_le _
      · intro _
        rw [start]
        exact leavesRoom_first short
    · cases hello
    · cases hello
  | resolved => cases hello
  | unresolved => cases hello
  | resumed own => exact absurd hello (Op.isUdp_exclusive own)
  | replied => cases hello

/-- **One step of the UDP mode** keeps the offset inside the buffer, and the buffer small when
the packet it reads leaves room. -/
theorem InUdp.outcome (udp : InUdp room session) (own : op.IsUdp)
    (leaves : room → KeepsRoom session ⟨op, result, world⟩)
    (outcome : session.Outcome world op result next) : InUdp room next := by
  cases outcome with
  | failed => exact udp.destroy
  | greeted hello => exact absurd hello (Op.isUdp_exclusive own)
  | tcp tcp => exact absurd own (Op.isTcp_exclusive tcp).2
  | service => cases own
  | @packet _ data buff effect held _ source holds goes ended =>
    have joined : buff = session.upstreamUdpBuff ++ data ∧
        (room → LeavesRoom buff session.udpBuffOffset) := by
      rcases Session.packetSource_op source with rfl | rfl | rfl
      · cases own
      all_goals
        obtain ⟨-, rfl⟩ := Prod.mk.inj (Option.some.inj source)
        exact ⟨rfl, fun roomy => leaves roomy _ rfl⟩
    refine held_inUdp ?_ ?_ ?_ ?_ goes ended
    · rw [holds.pending]
      exact udp.pending
    · rw [holds.offset, holds.buff, joined.1, List.length_append]
      exact Nat.le_add_right_of_le udp.inside
    · intro roomy
      rw [holds.offset]
      exact (udp.roomy roomy).parsed
    · intro roomy
      rw [holds.buff, holds.offset]
      exact joined.2 roomy
  | resolved chosen goes => exact (udp.emit _).goes goes
  | unresolved => exact udp.destroy
  | resumed _ goes => exact udp.goes goes
  | replied goes => exact ((udp.emit _).emit _).goes goes

/-- **One step** keeps the stages. -/
theorem step_stage {event : Event} (stage : Stage room session)
    (leaves : room → KeepsRoom session event) (stepped : session.step config event = some next) :
    Stage room next := by
  obtain ⟨member, admitted, outcome⟩ := Session.step_outcome stepped
  cases stage with
  | greeting greeting => exact greeting.outcome member admitted outcome
  | tcp tcp unused =>
    have rest : (session.complete event.op).OnlyTcp := fun op left =>
      tcp op (List.mem_of_mem_erase left)
    obtain ⟨state, goes⟩ := outcome.goes_of_tcp (tcp _ member)
    refine .tcp (rest.outcome (tcp _ member) outcome) ?_
    exact ⟨goes.buff.trans unused.buff, goes.offset.trans unused.offset⟩
  | udp udp =>
    have rest : InUdp room (session.complete event.op) := by
      refine ⟨fun op left => udp.pending op (List.mem_of_mem_erase left), udp.inside, ?_⟩
      intro roomy
      exact ⟨(udp.roomy roomy).parsed, (udp.roomy roomy).unparsed⟩
    exact .udp (rest.outcome (udp.pending _ member) leaves outcome)

/-- Every run whose packets leave room where room is asked for keeps the stages. -/
theorem run_stage {kind : SessionKind} {events : List Event}
    (ran : run (Session.step config) (Session.start kind) events = some session)
    (leaves : Meets (Session.step config) (fun state event => room → KeepsRoom state event)
      (Session.start kind) events) : Stage room session := by
  have keeps : ∀ state event next, Stage room state → (room → KeepsRoom state event) →
      Session.step config state event = some next → Stage room next :=
    fun _ _ _ stage leaves stepped => step_stage stage leaves stepped
  refine run_invariant_of_meets keeps ?_ leaves ran
  exact .greeting ⟨⟨rfl, rfl⟩, ⟨.handshake, rfl, rfl⟩, rfl⟩

/-- The offset is inside the buffer after every run. -/
theorem offset_inside {kind : SessionKind} {events : List Event}
    (ran : run (Session.step config) (Session.start kind) events = some session) :
    session.udpBuffOffset ≤ session.upstreamUdpBuff.length := by
  have stage : Stage False session := run_stage ran (meets_of_forall fun _ _ => False.elim)
  cases stage with
  | greeting greeting => simp [greeting.offset]
  | tcp _ unused => simp [unused.offset]
  | udp udp => exact udp.inside

/-- **The buffer is bounded where packets leave room.** Along every run in which each packet read
leaves at most one read of bytes behind it, and some bytes once more than one read of bytes is
parsed, the buffer of a live session has at most twice the size of a read, and the offset is
inside it. -/
theorem buffer_bounded (config : ServerConfig) (kind : SessionKind) (events : List Event)
    (session : Session) (ran : run (Session.step config) (Session.start kind) events = some session)
    (leaves : Meets (Session.step config) KeepsRoom (Session.start kind) events)
    (alive : session.state ≠ .destroy) :
    session.upstreamUdpBuff.length ≤ 2 * maxBuffSize ∧
      session.udpBuffOffset ≤ session.upstreamUdpBuff.length := by
  refine ⟨?_, offset_inside ran⟩
  have always : Meets (Session.step config) (fun state event => True → KeepsRoom state event)
      (Session.start kind) events := by
    simpa using leaves
  have stage : Stage True session := run_stage ran always
  cases stage with
  | greeting greeting => simp [greeting.buff]
  | tcp _ unused => simp [unused.buff]
  | udp udp =>
    obtain ⟨parsed, few | dead⟩ := udp.roomy trivial
    · omega
    · exact absurd dead alive

section Growth

open TrojanUdp

/-- The target of the sample packets is cached. -/
def cachedWorld : World := { cachedUdp := fun _ => some ⟨.ofWord 0x7f000001, 53⟩ }

/-- The client sends one more packet, and it has been sent. -/
def onePacket : List Event :=
  [⟨.udpRead, .read (samplePacket 7), cachedWorld⟩, ⟨.udpSend [.down], .done, {}⟩]

/-- A client that sends two packets one by one keeps the buffer small. -/
theorem buffer_bounded_two_packets : ∃ session,
    run (Session.step ⟨[[0x70]]⟩) (Session.start .tls)
      (sampleEvents (samplePacket 7) ++ onePacket) = some session ∧ session.state ≠ .destroy ∧
      stream session = samplePacket 7 ++ samplePacket 7 ∧
      session.upstreamUdpBuff.length ≤ 2 * maxBuffSize ∧
      session.udpBuffOffset ≤ session.upstreamUdpBuff.length := by
  have checked : (run (Session.step ⟨[[0x70]]⟩) (Session.start .tls)
      (sampleEvents (samplePacket 7) ++ onePacket)).any (fun session =>
        decide (session.state ≠ .destroy ∧ stream session = samplePacket 7 ++ samplePacket 7)) =
          true := by
    decide +kernel
  have leaves : Meets (Session.step ⟨[[0x70]]⟩) KeepsRoom (Session.start .tls)
      (sampleEvents (samplePacket 7) ++ onePacket) := by
    decide +kernel
  obtain ⟨session, ran, good⟩ := exists_of_run checked
  obtain ⟨alive, whole⟩ := of_decide_eq_true good
  exact ⟨session, ran, alive, whole, buffer_bounded _ _ _ _ ran leaves alive⟩

/-- A live session that has read some sample packets, each in a read of its own, and has kept
all their bytes. -/
structure Kept (count : Nat) (session : Session) : Prop where
  /-- The session forwards. -/
  forward : session.state = .forward
  /-- The process runs. -/
  running : session.crashed = false
  /-- All bytes are parsed. -/
  parsed : session.udpBuffOffset = session.upstreamUdpBuff.length
  /-- All bytes are kept. -/
  kept : session.upstreamUdpBuff = (List.replicate count (samplePacket 7)).flatten
  /-- The client sent packets only. -/
  whole : stream session = (List.replicate count (samplePacket 7)).flatten

/-- The sample packet parses whole. -/
theorem parse_samplePacket : UDPPacket.parse (samplePacket 7) =
    some (⟨⟨some .ipv4, dotted 127 0 0 1, 53⟩, 1, [7]⟩, 12) := by
  decide +kernel

/-- A packet that ends where the buffer ends is sent and kept. -/
theorem onUdpRead_kept (unparsed : held.remaining = samplePacket 7)
    (ends : held.udpBuffOffset + 12 = held.upstreamUdpBuff.length) :
    held.onUdpRead cachedWorld =
      { held with udpBuffOffset := held.upstreamUdpBuff.length }.asyncSendTo [7]
        ⟨.ofWord 0x7f000001, 53⟩ [.down] := by
  have kept : held.advance 12 = { held with udpBuffOffset := held.upstreamUdpBuff.length } := by
    unfold Session.advance
    dsimp only
    rw [if_neg (by omega), ends]
  simp only [Session.onUdpRead, unparsed, parse_samplePacket, kept]
  rfl

/-- A packet read is kept and sent. -/
theorem Kept.read {count : Nat} (kept : Kept count session) (reading : .udpRead ∈ session.pending) :
    ∃ sent,
      Session.step config session ⟨.udpRead, .read (samplePacket 7), cachedWorld⟩ = some sent ∧
      Kept (count + 1) sent ∧ .udpSend [.down] ∈ sent.pending := by
  obtain ⟨forward, running, parsed, kept, whole⟩ := kept
  -- The session holding the packet, before it is parsed.
  let held := ((session.complete .udpRead).receive .down (samplePacket 7)).appendUdp 12
  have buff : held.upstreamUdpBuff = session.upstreamUdpBuff ++ samplePacket 7 :=
    ((session.complete .udpRead).receive_holds (samplePacket 7)).buff
  have unparsed : held.remaining = samplePacket 7 := by
    rw [Session.remaining, buff]
    change List.drop session.udpBuffOffset _ = _
    rw [parsed, List.drop_left]
  have ends : held.udpBuffOffset + 12 = held.upstreamUdpBuff.length := by
    rw [buff, List.length_append]
    exact congrArg (· + 12) parsed
  have more : session.upstreamUdpBuff ++ samplePacket 7 =
      (List.replicate (count + 1) (samplePacket 7)).flatten := by
    rw [kept, List.replicate_succ', List.flatten_concat]
  have frame : held.state = .forward ∧ held.crashed = false := by
    simp [held, Session.emit, Session.appendUdp, Session.receive, Session.fill, Session.complete,
      forward, running]
  have stored : stream held = (List.replicate (count + 1) (samplePacket 7)).flatten := by
    change session.trojanReq.payload ++
      receivedBytes .down (session.trace ++ [.received .down (samplePacket 7)]) = _
    rw [receivedBytes_received, if_pos rfl, ← more, kept, ← whole, stream, List.append_assoc]
  refine ⟨held.onUdpRead cachedWorld, if_pos ⟨running, reading, by decide⟩, ?_⟩
  rw [onUdpRead_kept unparsed ends]
  generalize held = holding at buff frame stored
  refine ⟨⟨frame.1, frame.2, rfl, buff.trans more, ?_⟩, ?_⟩
  · exact (stream_emit rfl).trans stored
  · exact List.mem_append_right _ List.mem_cons_self

/-- Behind a send the client is read again. -/
theorem Kept.sent {count : Nat} (kept : Kept count session)
    (sending : .udpSend [.down] ∈ session.pending) :
    ∃ next, Session.step config session ⟨.udpSend [.down], .done, {}⟩ = some next ∧
      Kept count next ∧ .udpRead ∈ next.pending := by
  obtain ⟨forward, running, parsed, kept, whole⟩ := kept
  refine ⟨(session.complete (.udpSend [.down])).await .udpRead, if_pos ⟨running, sending, rfl⟩,
    ⟨forward, running, parsed, kept, whole⟩, ?_⟩
  exact List.mem_append_right _ List.mem_cons_self

/-- Any number of packets can be kept. -/
theorem exists_kept (count : Nat) : ∃ events session,
    run (Session.step ⟨[[0x70]]⟩) (Session.start .tls) events = some session ∧
      Kept (count + 1) session ∧ .udpRead ∈ session.pending := by
  induction count with
  | zero =>
    have checked : (run (Session.step ⟨[[0x70]]⟩) (Session.start .tls)
        (sampleEvents (samplePacket 7))).any (fun session => decide (session.state = .forward ∧
          session.crashed = false ∧ session.udpBuffOffset = session.upstreamUdpBuff.length ∧
          session.upstreamUdpBuff = samplePacket 7 ∧ stream session = samplePacket 7 ∧
          .udpRead ∈ session.pending)) = true := by
      decide +kernel
    obtain ⟨session, ran, good⟩ := exists_of_run checked
    obtain ⟨forward, running, parsed, kept, whole, reading⟩ := of_decide_eq_true good
    exact ⟨_, session, ran, ⟨forward, running, parsed, kept, whole⟩, reading⟩
  | succ count ih =>
    obtain ⟨events, session, ran, kept, reading⟩ := ih
    obtain ⟨sent, first, more, sending⟩ := kept.read reading
    obtain ⟨next, second, most, again⟩ := more.sent sending
    refine ⟨events ++ onePacket, next, ?_, most, again⟩
    rw [run_append ran, onePacket, run, first, Option.bind_some]
    exact run_single second

/-- **The buffer grows without bound.** There is no bound on what a live session keeps of a client
that sends the same packet again and again: the client that sends one packet in each read makes it
keep more bytes than any. -/
theorem buffer_unbounded : ¬ ∃ bound : Nat, ∀ events session count,
    run (Session.step ⟨[[0x70]]⟩) (Session.start .tls) events = some session →
      session.state ≠ .destroy →
      stream session = (List.replicate count (samplePacket 7)).flatten →
      session.upstreamUdpBuff.length ≤ bound := by
  rintro ⟨bound, bounded⟩
  obtain ⟨events, session, ran, kept, -⟩ := exists_kept bound
  have alive : session.state ≠ .destroy := by simp [kept.forward]
  have small := bounded events session (bound + 1) ran alive kept.whole
  have size : session.upstreamUdpBuff.length = (bound + 1) * 12 := by
    rw [kept.kept, List.length_flatten, List.map_replicate, List.sum_replicate]
    rfl
  omega

end Growth

end Overplus.Verif.UdpBuffer
