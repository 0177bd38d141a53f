import Overplus.Library.Composite
import Overplus.Verif.Conversation
import Overplus.Verif.RequestDecoding
import Overplus.Verif.ServedTarget

/-!
# A tunnel from end to end

A client process, one of its sessions, and the server session at the other end of that session's
connection, in one system. Each of the two takes from the connection, in pieces of any size and at
any time, what the other has put on it. The first message the server session takes may therefore
be any beginning of what the client session has written; it is accepted only when it holds the
whole V request, so a circuit that forwards carries between the application and the target exactly
the bytes behind the request, whatever the order of steps.
-/
namespace Overplus.Verif.EndToEnd

open Conversation HttpConnect RequestRoundTrip ServedTarget Tunnel

section FirstMessage

variable {request : VRequest} {data rest : Bytes} {config : Server.ServerConfig}
  {session : ServedTarget.Kept}

/-- The sent form of a request, with its computed header length. -/
theorem stream_image (request : VRequest) : ∃ sent : VRequest,
    request.stream [] = (sent, sent.image) ∧ sent.address = request.address ∧
      sent.port = request.port ∧ sent.password = request.password := by
  refine ⟨{ request with header := { request.header with len := request.headerLen } }, ?_, rfl,
    rfl, rfl⟩
  rw [VRequest.stream_eq]
  exact congrArg (Prod.mk _) (List.nil_append _)

/-- A message cut inside its declared header is not accepted, whatever is behind it in memory. -/
theorem unstream_cut {sent decoded : VRequest} (beyond : Memory)
    (exact : sent.header.len.toNat = sent.image.length) (within : data <+: sent.image)
    (short : data.length < sent.image.length) :
    VRequest.unstream {} data beyond ≠ .ok (true, decoded) := by
  intro accepted
  unfold VRequest.unstream at accepted
  by_cases tiny : data.length < VRequest.identifierLen + 1 + 4
  · rw [if_pos tiny] at accepted
    cases accepted
  · rw [if_neg tiny] at accepted
    -- the fifteen bytes of the fixed part are there, and with them the declared length
    have long : 15 ≤ data.length := Nat.not_lt.mp tiny
    have fixed : VRequest.vIdentifier ++ ([sent.header.version] ++ be32 sent.header.len) <+:
        sent.image := by
      unfold VRequest.image
      simp only [← List.append_assoc]
      exact (((List.prefix_append _ _).trans (List.prefix_append _ _)).trans
        (List.prefix_append _ _)).trans (List.prefix_append _ _)
    obtain ⟨back, layout⟩ := List.prefix_of_prefix_length_le fixed within
      (by simpa [VRequest.vIdentifier] using long)
    have split : data = (VRequest.vIdentifier ++ [sent.header.version]) ++
        (be32 sent.header.len ++ back) := by
      rw [← layout]
      simp only [List.append_assoc]
    have word : wordAt data 11 = sent.header.len := wordAt_part _ _ split rfl
    obtain ⟨version, -, accepted⟩ := bind_ok accepted
    obtain ⟨len, read, accepted⟩ := bind_ok accepted
    rw [Coding.decodeNet32_inside (by simp only [VRequest.identifierLen]; omega)] at read
    obtain rfl : sent.header.len = len := word.symm.trans (Except.ok.inj read)
    rw [if_pos (by omega)] at accepted
    cases accepted

/-- A beginning of the identifier is no Trojan request. -/
theorem parse_identifier (within : data <+: VRequest.vIdentifier) :
    (TrojanReq.parse {} data).1 = -1 := by
  by_contra accepted
  obtain ⟨parts, of⟩ := TrojanCodec.RequestParts.exists_of_parse accepted
  have inside : (13 : UInt8) ∈ data := by simp [of.whole, TrojanCodec.RequestParts.bytes, crlf]
  have absent : (13 : UInt8) ∉ VRequest.vIdentifier := by decide
  exact absent (within.subset inside)

/-- **Only a whole request is served.** A first message that is a beginning of a V request and of
bytes behind it is accepted only with the whole request in it, and the session then keeps that
request, with the rest of the message as its early data. -/
theorem asks_whole (fits : Fits request) (asks : Asks config data session)
    (within : data <+: (request.stream []).2 ++ rest) :
    ∃ early, data = (request.stream []).2 ++ early ∧ session.vprotocol = true ∧
      session.vReq.packedBuff = early ∧ request.password ∈ config.allowedPasswords ∧
      session.remoteHost = request.address ∧
      session.remotePort = decimal request.port.toNat := by
  obtain ⟨sent, streamed, address, port, password⟩ := stream_image request
  have decode (early : Bytes) (beyond : Memory) :=
    unstream_stream request {} early beyond fits rfl
  have recognised := isVProtocol_stream request
  rw [streamed] at within decode recognised ⊢
  dsimp only at within decode recognised ⊢
  have exact := (decode [] Memory.unmapped).2
  by_cases whole : sent.image.length ≤ data.length
  · obtain ⟨early, rfl⟩ :=
      List.prefix_of_prefix_length_le (List.prefix_append sent.image rest) within whole
    refine ⟨early, rfl, ?_⟩
    cases asks with
    | vProtocol beyond flag identified decoded allowed host service =>
      rw [(decode early beyond).1] at decoded
      obtain ⟨-, keeps⟩ := Prod.mk.inj (Except.ok.inj decoded)
      rw [← keeps] at allowed host service ⊢
      refine ⟨flag, rfl, ?_, host.trans address, ?_⟩
      · rw [← password]
        exact allowed
      · rw [service, ← port]
    | trojan flag identified =>
      rw [List.append_assoc, recognised] at identified
      cases identified
  · have cut : data <+: sent.image :=
      List.prefix_of_prefix_length_le within (List.prefix_append _ _) (by omega)
    cases asks with
    | vProtocol beyond flag identified decoded =>
      exact absurd decoded (unstream_cut beyond exact cut (by omega))
    | trojan flag identified parsed =>
      by_cases named : data.length ≤ VRequest.vIdentifier.length
      · have begins : data <+: VRequest.vIdentifier :=
          List.prefix_of_prefix_length_le cut (List.prefix_append _ _) named
        exact absurd (parse_identifier begins) parsed
      · obtain ⟨back, layout⟩ := List.prefix_of_prefix_length_le
          (List.prefix_append VRequest.vIdentifier _) cut (by omega)
        rw [← layout] at identified
        simp [VRequest.isVProtocol, VRequest.identifierLen, VRequest.vIdentifier] at identified

end FirstMessage

section Model

/-- Bytes of the tunnel that a server session has put, or is putting, on the connection to its
client. There are none before forwarding starts. -/
def offeredBytes (session : Server.Session) : Bytes :=
  if Server.Effect.forwarding ∈ session.trace then
    Server.handedBytes .up session.trace ++ session.up.ring.contents
  else []

/-- A client process and the server session that serves one of its sessions. -/
structure Circuit where
  /-- The client process. -/
  client : Client.Process
  /-- The server session. -/
  server : Server.Session
  /-- Bytes the server session has put on the connection before it was destroyed. -/
  offered : Bytes := []
  /-- Bytes of these that the client session has read. -/
  returned : Bytes := []
  /-- Bytes of the client session that the server session has read. -/
  taken : Bytes := []

/-- A step of either side. -/
inductive Event where
  /-- A step of the client process. -/
  | client (event : Client.Event)
  /-- A step of the server session. -/
  | server (event : Server.Event)

/-- Steps of the client process. -/
def Event.client? : Event → Option Client.Event
  | .client event => some event
  | .server _ => none

/-- Steps of the server session. -/
def Event.server? : Event → Option Server.Event
  | .client _ => none
  | .server event => some event

namespace Circuit

/-- Bytes the client session has put on the connection. Those of a write count from its start on:
also of a write that fails, some may have left. -/
def wire (circuit : Circuit) (number : Nat) : Bytes :=
  (circuit.client.sessions[number]?).elim [] fun session => wireBytes session.trace

/-- One step of a circuit of the client session with the given number. Either side reads only what
comes next on the connection; everything else it does as it likes. -/
def step (config : Client.ClientConfig) (served : Server.ServerConfig) (number : Nat)
    (circuit : Circuit) : Event → Option Circuit
  | .client event =>
    let data := returnedBytes (Client.completions number [event])
    if comesNext circuit.offered circuit.returned data then
      (circuit.client.step config event).map fun client =>
        { circuit with client, returned := circuit.returned ++ data }
    else none
  | .server event =>
    if comesNext (circuit.wire number) circuit.taken (clientData event) then
      (circuit.server.step served event).map fun server =>
        { circuit with
          server
          taken := circuit.taken ++ clientData event
          offered := if server.state = .destroy then circuit.offered else offeredBytes server }
    else none

/-- A client process without sessions, and a server session before its handshakes. -/
def start (config : Client.ClientConfig) (ssl : Bool) (kind : Server.SessionKind) : Circuit where
  client := Client.Process.start config ssl
  server := Server.Session.start kind

end Circuit

end Model

variable {config : Client.ClientConfig} {served : Server.ServerConfig} {number : Nat}
  {circuit next : Circuit}

/-- What a step of the client side does. -/
theorem step_client {event : Client.Event}
    (stepped : circuit.step config served number (.client event) = some next) :
    ∃ client, circuit.client.step config event = some client ∧
      comesNext circuit.offered circuit.returned
        (returnedBytes (Client.completions number [event])) = true ∧
      next = { circuit with
        client
        returned := circuit.returned ++ returnedBytes (Client.completions number [event]) } := by
  simp only [Circuit.step] at stepped
  split at stepped
  · rename_i enabled
    obtain ⟨client, moved, rfl⟩ := Option.map_eq_some_iff.mp stepped
    exact ⟨client, moved, enabled, rfl⟩
  · cases stepped

/-- What a step of the server side does. -/
theorem step_server {event : Server.Event}
    (stepped : circuit.step config served number (.server event) = some next) :
    ∃ server, circuit.server.step served event = some server ∧
      comesNext (circuit.wire number) circuit.taken (clientData event) = true ∧
      next = { circuit with
        server
        taken := circuit.taken ++ clientData event
        offered := if server.state = .destroy then circuit.offered else offeredBytes server } := by
  simp only [Circuit.step] at stepped
  split at stepped
  · rename_i enabled
    obtain ⟨server, moved, rfl⟩ := Option.map_eq_some_iff.mp stepped
    exact ⟨server, moved, enabled, rfl⟩
  · cases stepped

section Projections

variable {start : Circuit} {events : List Event}

/-- A run of a circuit is a run of its client process. -/
theorem run_client
    (ran : run (Circuit.step config served number) start events = some circuit) :
    run (Client.Process.step config) start.client (events.filterMap Event.client?) =
      some circuit.client := by
  have follows : ∀ (state : Circuit) (event : Event) (next : Circuit),
      state.step config served number event = some next →
      run (Client.Process.step config) state.client event.client?.toList = some next.client := by
    intro state event next stepped
    cases event with
    | client event =>
      obtain ⟨client, moved, -, rfl⟩ := step_client stepped
      exact run_single moved
    | server event =>
      obtain ⟨server, -, -, rfl⟩ := step_server stepped
      rfl
  exact run_component follows ran

/-- A run of a circuit is a run of its server session. -/
theorem run_server
    (ran : run (Circuit.step config served number) start events = some circuit) :
    run (Server.Session.step served) start.server (events.filterMap Event.server?) =
      some circuit.server := by
  have follows : ∀ (state : Circuit) (event : Event) (next : Circuit),
      state.step config served number event = some next →
      run (Server.Session.step served) state.server event.server?.toList = some next.server := by
    intro state event next stepped
    cases event with
    | client event =>
      obtain ⟨client, -, -, rfl⟩ := step_client stepped
      rfl
    | server event =>
      obtain ⟨server, moved, -, rfl⟩ := step_server stepped
      exact run_single moved
  exact run_component follows ran

end Projections

section Offered

variable {session later : Server.Session} {event : Server.Event}

/-- Before forwarding nothing is offered. -/
theorem offeredBytes_quiet (quiet : Server.Effect.forwarding ∉ session.trace) :
    offeredBytes session = [] := if_neg quiet

/-- A tunnel offers what it has read from the target. -/
theorem offeredBytes_tunnelling (tunnelling : Tunnelling session)
    (started : Server.Effect.forwarding ∈ session.trace) :
    offeredBytes session = Server.receivedBytes .up session.trace := by
  obtain ⟨-, ops, -, lanes⟩ := tunnelling
  rw [offeredBytes, if_pos started]
  exact (lanes .up).exact

/-- Whatever a session does, a forwarding tunnel that lives on has offered more. -/
theorem offeredBytes_grow (phase : Phase session)
    (started : Server.Effect.forwarding ∈ session.trace) (alive : later.state ≠ .destroy)
    (stepped : session.step served event = some later) :
    session.state ≠ .destroy ∧ offeredBytes session <+: offeredBytes later := by
  have extended := (Server.Session.step_outcome stepped).2.2.extends
  rcases phase with opening | relaying | tunnelling | closed
  · exact absurd started opening.ready.notForwarding
  · exact absurd started relaying.quiet
  · refine ⟨tunnelling.alive, ?_⟩
    rcases tunnelling.step stepped with kept | rfl
    · obtain ⟨effects, trace⟩ := extended
      have still : Server.Effect.forwarding ∈ later.trace := by
        rw [← trace]
        exact List.mem_append_left _ started
      rw [offeredBytes_tunnelling tunnelling started, offeredBytes_tunnelling kept still, ← trace,
        Server.receivedBytes_append]
      exact List.prefix_append _ _
    · exact absurd Server.Session.destroy_state alive
  · obtain ⟨pending, admitted, rfl⟩ := Server.Session.step_some stepped
    have left : Closed (session.complete event.op) :=
      ⟨closed.dead, fun op member => closed.tunnel op (List.mem_of_mem_erase member)⟩
    exact absurd (left.handle served event.world event.op event.result
      (closed.tunnel _ pending) admitted).dead alive

/-- What a session offers it has read from the target. -/
theorem offeredBytes_received (phase : Phase session) (alive : session.state ≠ .destroy) :
    offeredBytes session <+: Server.receivedBytes .up session.trace := by
  by_cases started : Server.Effect.forwarding ∈ session.trace
  · rcases phase with opening | relaying | tunnelling | closed
    · exact absurd started opening.ready.notForwarding
    · exact absurd started relaying.quiet
    · rw [offeredBytes_tunnelling tunnelling started]
    · exact absurd closed.dead alive
  · rw [offeredBytes_quiet started]
    exact List.nil_prefix

end Offered

/-- How the two sides of a circuit stand to each other. -/
structure Linked (number : Nat) (past : List Event) (circuit : Circuit) : Prop where
  /-- The server session is in one of its phases. -/
  phase : Phase circuit.server
  /-- What the client session has read of the connection. -/
  returned : circuit.returned =
    returnedBytes (Client.completions number (past.filterMap Event.client?))
  /-- What the server session has read of the connection. -/
  taken : circuit.taken = clientBytes (past.filterMap Event.server?)
  /-- The server session has read a beginning of what the client session wrote. -/
  uplink : circuit.taken <+: circuit.wire number
  /-- The client session has read a beginning of what the server session offered. -/
  downlink : circuit.returned <+: circuit.offered
  /-- What was offered was read from the target. -/
  source : circuit.offered <+: Server.receivedBytes .up circuit.server.trace
  /-- A live session offers what is recorded. -/
  current : circuit.server.state ≠ .destroy → circuit.offered = offeredBytes circuit.server
  /-- Nothing is offered before forwarding starts. -/
  quiet : Server.Effect.forwarding ∉ circuit.server.trace → circuit.offered = []

/-- A step of the client process only adds to what its session wrote. -/
theorem wire_grows {client : Client.Process} {event : Client.Event}
    (stepped : circuit.client.step config event = some client) :
    circuit.wire number <+: { circuit with client }.wire number := by
  cases found : circuit.client.sessions[number]? with
  | none =>
    rw [Circuit.wire, found]
    exact List.nil_prefix
  | some session =>
    obtain ⟨later, isLater, effects, trace⟩ := Client.Process.step_extends stepped found
    rw [Circuit.wire, Circuit.wire, found, isLater]
    change wireBytes session.trace <+: wireBytes later.trace
    rw [← trace, wireBytes_append]
    exact List.prefix_append _ _

/-- **One step of either side** keeps the two sides linked. -/
theorem Linked.step {past : List Event} {event : Event} (linked : Linked number past circuit)
    (stepped : circuit.step config served number event = some next) :
    Linked number (past ++ [event]) next := by
  cases event with
  | client event =>
    obtain ⟨client, moved, enabled, rfl⟩ := step_client stepped
    refine ⟨linked.phase, ?_, ?_, ?_, ?_, linked.source, linked.current, linked.quiet⟩
    · rw [List.filterMap_append, Client.completions_append]
      exact (congrArg (· ++ _) linked.returned).trans List.flatMap_append.symm
    · rw [List.filterMap_append]
      exact linked.taken.trans (congrArg clientBytes (List.append_nil _).symm)
    · exact linked.uplink.trans (wire_grows moved)
    · exact prefix_of_comesNext linked.downlink enabled
  | server event =>
    obtain ⟨server, moved, enabled, rfl⟩ := step_server stepped
    have phase := step_phase served circuit.server event server linked.phase moved
    have extended := (Server.Session.step_outcome moved).2.2.extends
    have received : Server.receivedBytes .up circuit.server.trace <+:
        Server.receivedBytes .up server.trace := by
      obtain ⟨effects, trace⟩ := extended
      rw [← trace, Server.receivedBytes_append]
      exact List.prefix_append _ _
    refine ⟨phase, ?_, ?_, ?_, ?_, ?_, ?_, ?_⟩
    · rw [List.filterMap_append]
      exact linked.returned.trans (congrArg (fun events => returnedBytes
        (Client.completions number events)) (List.append_nil _).symm)
    · rw [List.filterMap_append, ServedTarget.clientBytes, List.flatMap_append]
      change _ = _ ++ (clientData event ++ [])
      rw [List.append_nil]
      exact congrArg (· ++ _) linked.taken
    · exact prefix_of_comesNext linked.uplink enabled
    · dsimp only
      split
      · exact linked.downlink
      · rename_i alive
        by_cases started : Server.Effect.forwarding ∈ circuit.server.trace
        · obtain ⟨before, grown⟩ := offeredBytes_grow linked.phase started alive moved
          rw [← linked.current before] at grown
          exact linked.downlink.trans grown
        · have nothing : circuit.returned = [] :=
            List.prefix_nil.mp (linked.quiet started ▸ linked.downlink)
          rw [nothing]
          exact List.nil_prefix
    · dsimp only
      split
      · exact linked.source.trans received
      · rename_i alive
        exact offeredBytes_received phase alive
    · intro alive
      exact if_neg alive
    · intro quiet
      have before : Server.Effect.forwarding ∉ circuit.server.trace :=
        fun member => quiet (extended.subset member)
      dsimp only
      split
      · exact linked.quiet before
      · exact offeredBytes_quiet quiet

section Runs

variable {ssl : Bool} {kind : Server.SessionKind} {events : List Event}

/-- In every run the two sides are linked. -/
theorem run_linked
    (ran : run (Circuit.step config served number) (.start config ssl kind) events =
      some circuit) : Linked number events circuit := by
  have start : Linked number [] (Circuit.start config ssl kind) := by
    refine ⟨.inl (start_opening kind), rfl, rfl, ?_, List.nil_prefix, List.nil_prefix, ?_, ?_⟩
    · exact List.nil_prefix
    · intro alive
      exact (offeredBytes_quiet (start_opening kind).ready.notForwarding).symm
    · intro quiet
      rfl
  have linked : Linked number ([] ++ events) circuit := run_history ?_ start ran
  · exact linked
  intro past state event next linked stepped
  exact linked.step stepped

/-- What a forwarding circuit has carried towards the target, and what is on the connection. -/
theorem run_uplink {session : Client.Session}
    (ran : run (Circuit.step config served number) (.start config ssl kind) events = some circuit)
    (found : circuit.client.sessions[number]? = some session)
    (fits : ∀ host port, (host, port) ∈ askedFor session.trace → Fits (requestFor config host port))
    (started : Server.Effect.forwarding ∈ circuit.server.trace)
    (alive : circuit.server.state ≠ .destroy) :
    config.password ∈ served.allowedPasswords ∧
    ∃ host port, askedFor session.trace = [(host, port)] ∧ circuit.server.remoteHost = host ∧
      circuit.server.remotePort = decimal port.toNat ∧
      circuit.taken = requestBytes config host port ++
        (Server.handedBytes .down circuit.server.trace ++ circuit.server.down.ring.contents) ∧
      circuit.wire number = requestBytes config host port ++
        tunnelBytes (Client.completions number (events.filterMap Event.client?)) := by
  have linked := run_linked ran
  obtain ⟨stage, -, asked, uplink, -⟩ := run_transparent (run_client ran) found
  obtain ⟨-, data, -, asks, reads⟩ := run_serving (run_server ran) started
  obtain ⟨-, ops, -, lanes⟩ := run_tunnelling (run_server ran) started alive
  have exact : Server.handedBytes .down circuit.server.trace ++
      circuit.server.down.ring.contents = circuit.server.initialPayload ++
        Server.receivedBytes .down circuit.server.trace := (lanes .down).exact
  have wire : circuit.wire number = wireBytes session.trace := by
    rw [Circuit.wire, found]
    rfl
  have first : data <+: wireBytes session.trace := by
    have behind := linked.uplink
    rw [linked.taken, reads, wire] at behind
    exact (List.prefix_append _ _).trans behind
  -- nothing is accepted of a session that has not sent its request
  have refused (empty : wireBytes session.trace = []) : False := by
    rw [empty, List.prefix_nil] at first
    rw [first] at asks
    cases asks with
    | vProtocol beyond flag identified decoded => cases decoded
    | trojan flag identified parsed => exact parsed rfl
  cases target : stage.target with
  | none =>
    rw [target] at uplink
    exact (refused uplink).elim
  | some asker =>
    obtain ⟨front, host, port⟩ := asker
    rw [target] at uplink asked
    dsimp only at uplink
    split at uplink
    · have fit := fits host port (by rw [asked]; exact List.mem_singleton.mpr rfl)
      have within := first
      rw [uplink] at within
      obtain ⟨early, whole, flag, packed, allowed, isHost, isPort⟩ := asks_whole fit asks within
      have payload : circuit.server.initialPayload = early := by
        have isV : circuit.server.vprotocol = true := flag
        rw [Server.Session.initialPayload, if_pos isV]
        exact packed
      have taken : circuit.taken = requestBytes config host port ++
          (early ++ Server.receivedBytes .down circuit.server.trace) := by
        rw [linked.taken, reads, whole, List.append_assoc]
        rfl
      rw [exact, payload]
      exact ⟨allowed, host, port, asked, isHost, isPort, taken, wire.trans uplink⟩
    · exact (refused uplink).elim

end Runs

/-- A user `u` with password `p`. -/
def sampleConfig : Client.ClientConfig := { userName := [0x75], password := [0x70] }

/-- An application asks over SOCKS5 for port 80 of 127.0.0.1 and sends three bytes. The connection
delivers the first of them with the V request, and brings back one byte of the target. -/
def sampleEvents : List Event :=
  [.server ⟨.handshake, .done, {}⟩, .client (.accept {}),
    .client (.completed 0 .firstRead (.read [5, 1, 0]) {}),
    .client (.completed 0 .greetingWrite .done {}),
    .client (.completed 0 .requestRead (.read [5, 1, 0, 1, 127, 0, 0, 1, 0, 80]) {}),
    .client (.completed 0 .resolve (.resolved [⟨.ofWord 0x01020304, 443⟩]) {}),
    .client (.completed 0 .connect .done {}), .client (.completed 0 .tlsHandshake .done {}),
    .client (.completed 0 .vRequestWrite .done
      { remoteEndpoint := some ⟨.ofWord 0x01020304, 443⟩ }),
    .client (.completed 0 .replyWrite .done {}),
    .client (.completed 0 .localRead (.read [1, 2, 3]) {}),
    .server ⟨.firstRead, .read (requestBytes sampleConfig (dotted 127 0 0 1) 80 ++ [1]),
      { cachedTcp := fun _ => some ⟨.ofWord 0x7f000001, 80⟩ }⟩,
    .server ⟨.connect, .done, {}⟩, .server ⟨.payloadWrite, .done, {}⟩,
    .server ⟨.read .up, .read [9], {}⟩,
    .client (.completed 0 .upstreamRead (.read [9]) {}),
    .server ⟨.read .down, .read [2], {}⟩]

/-- The sample circuit forwards, and its client session asked for what fits a request. -/
theorem sample_runs : ∃ circuit session,
    run (Circuit.step sampleConfig ⟨[[0x70]]⟩ 0) (.start sampleConfig true .tls) sampleEvents =
        some circuit ∧
      circuit.client.sessions[0]? = some session ∧
      askedFor session.trace = [(dotted 127 0 0 1, 80)] ∧
      Server.Effect.forwarding ∈ circuit.server.trace ∧ circuit.server.state ≠ .destroy ∧
      circuit.server.crashed = false ∧ circuit.client.server.crashed = false ∧
      circuit.returned = [9] := by
  have checked : (run (Circuit.step sampleConfig ⟨[[0x70]]⟩ 0) (.start sampleConfig true .tls)
      sampleEvents).any (fun circuit =>
        decide (circuit.client.sessions[0]?.map (fun session => askedFor session.trace) =
            some [(dotted 127 0 0 1, 80)] ∧
          Server.Effect.forwarding ∈ circuit.server.trace ∧ circuit.server.state ≠ .destroy ∧
          circuit.server.crashed = false ∧ circuit.client.server.crashed = false ∧
          circuit.returned = [9])) = true := by
    decide +kernel
  obtain ⟨circuit, ran, good⟩ := exists_of_run checked
  obtain ⟨asked, rest⟩ := of_decide_eq_true good
  obtain ⟨session, found, asked⟩ := Option.map_eq_some_iff.mp asked
  exact ⟨circuit, session, ran, found, asked, rest⟩

/-- **The target gets what the application sent.** In every run of a circuit, for every order of
steps and every way the connection cuts what is written, when the server session forwards and was
not destroyed: the client's password is an allowed one, the server session looked for the one host
and port the application asked for, what it has read of the connection is the V request followed
by what it has handed to the target and what waits in its ring, and the latter are a beginning of
what the application sent through the tunnel. -/
theorem circuit_uplink (config : Client.ClientConfig) (served : Server.ServerConfig) (ssl : Bool)
    (kind : Server.SessionKind) (number : Nat) (events : List Event) (circuit : Circuit)
    (session : Client.Session)
    (ran : run (Circuit.step config served number) (.start config ssl kind) events = some circuit)
    (found : circuit.client.sessions[number]? = some session)
    (fits : ∀ host port, (host, port) ∈ askedFor session.trace → Fits (requestFor config host port))
    (started : Server.Effect.forwarding ∈ circuit.server.trace)
    (alive : circuit.server.state ≠ .destroy) :
    config.password ∈ served.allowedPasswords ∧
    ∃ host port, askedFor session.trace = [(host, port)] ∧ circuit.server.remoteHost = host ∧
      circuit.server.remotePort = decimal port.toNat ∧
      circuit.taken = requestBytes config host port ++
        (Server.handedBytes .down circuit.server.trace ++ circuit.server.down.ring.contents) ∧
      Server.handedBytes .down circuit.server.trace ++ circuit.server.down.ring.contents <+:
        tunnelBytes (Client.completions number (events.filterMap Event.client?)) := by
  obtain ⟨allowed, host, port, asked, isHost, isPort, taken, wire⟩ :=
    run_uplink ran found fits started alive
  refine ⟨allowed, host, port, asked, isHost, isPort, taken, ?_⟩
  have behind := (run_linked ran).uplink
  rw [wire, taken] at behind
  exact (List.prefix_append_right_inj _).mp behind

/-- The sample circuit has handed on or queued two of the three bytes. -/
theorem circuit_uplink_sample : ∃ circuit session,
    run (Circuit.step sampleConfig ⟨[[0x70]]⟩ 0) (.start sampleConfig true .tls) sampleEvents =
        some circuit ∧
      circuit.client.sessions[0]? = some session ∧
      tunnelBytes (Client.completions 0 (sampleEvents.filterMap Event.client?)) = [1, 2, 3] ∧
      [0x70] ∈ [[(0x70 : UInt8)]] ∧
      ∃ host port, askedFor session.trace = [(host, port)] ∧ circuit.server.remoteHost = host ∧
        circuit.server.remotePort = decimal port.toNat ∧
        circuit.taken = requestBytes sampleConfig host port ++
          (Server.handedBytes .down circuit.server.trace ++ circuit.server.down.ring.contents) ∧
        Server.handedBytes .down circuit.server.trace ++ circuit.server.down.ring.contents <+:
          tunnelBytes (Client.completions 0 (sampleEvents.filterMap Event.client?)) := by
  obtain ⟨circuit, session, ran, found, asked, started, alive, -⟩ := sample_runs
  have fits (host : Bytes) (port : UInt16) (member : (host, port) ∈ askedFor session.trace) :
      Fits (requestFor sampleConfig host port) := by
    rw [asked, List.mem_singleton] at member
    obtain ⟨rfl, rfl⟩ := Prod.mk.inj member
    decide
  exact ⟨circuit, session, ran, found, rfl,
    circuit_uplink _ _ _ _ _ _ _ _ ran found fits started alive⟩

/-- **The application gets what the target sent.** In every run of a circuit, for every order of
steps, and also when either side was destroyed in the middle of a transfer: what the application
was told is the replies of its protocol followed by a beginning of what the server session has
read from the target. -/
theorem circuit_downlink (config : Client.ClientConfig) (served : Server.ServerConfig)
    (ssl : Bool) (kind : Server.SessionKind) (number : Nat) (events : List Event)
    (circuit : Circuit) (session : Client.Session)
    (ran : run (Circuit.step config served number) (.start config ssl kind) events = some circuit)
    (found : circuit.client.sessions[number]? = some session) :
    ∃ stage replies, run (Stage.next config) .fresh session.trace = some stage ∧
      stage.Replies replies ∧ toldBytes session.trace = replies ++ circuit.returned ∧
      circuit.returned <+: Server.receivedBytes .up circuit.server.trace := by
  have linked := run_linked ran
  obtain ⟨stage, standing, -, -, replies, given, told⟩ := run_transparent (run_client ran) found
  refine ⟨stage, replies, standing.said.reached, given, ?_, linked.downlink.trans linked.source⟩
  rw [told, linked.returned]

/-- The sample application was told its two replies and the byte of the target. -/
theorem circuit_downlink_sample : ∃ circuit session,
    run (Circuit.step sampleConfig ⟨[[0x70]]⟩ 0) (.start sampleConfig true .tls) sampleEvents =
        some circuit ∧
      circuit.client.sessions[0]? = some session ∧ circuit.returned = [9] ∧
      ∃ stage replies, run (Stage.next sampleConfig) .fresh session.trace = some stage ∧
        stage.Replies replies ∧ toldBytes session.trace = replies ++ circuit.returned ∧
        circuit.returned <+: Server.receivedBytes .up circuit.server.trace := by
  obtain ⟨circuit, session, ran, found, -, -, -, -, -, returned⟩ := sample_runs
  exact ⟨circuit, session, ran, found, returned,
    circuit_downlink _ _ _ _ _ _ _ _ ran found⟩

end Overplus.Verif.EndToEnd
