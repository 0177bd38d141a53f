import Overplus.Verif.HttpRequestLine
import Overplus.Verif.RequestRoundTrip

/-!
# HTTP CONNECT and the tunnel behind it

An application sends a CONNECT request and then tunnel bytes in one stream. The session takes its
first read, reads on until there is a line end if it has none yet, looks at the first line only
and drops the rest of what it has. Whatever is read later is forwarded. So the tunnel is opened and
exact just when the first line can be decoded and the reads of the handshake end with the blank
line of the request: bytes of the header that come later are forwarded, and tunnel bytes that came
earlier are lost.
-/
namespace Overplus.Verif.HttpConnect

open Client RequestRoundTrip

/-- A CONNECT request: a request line for an authority, header lines and a blank line. -/
structure ConnectRequest where
  /-- Host and port asked for. -/
  authority : Bytes
  /-- Header lines, without their line ends. -/
  headers : List Bytes
  /-- The authority is one word. -/
  word : authority ≠ [] ∧ ∀ octet ∈ authority, octet ≠ 32 ∧ octet ≠ 13 ∧ octet ≠ 10
  /-- No header line is blank or has a line end inside. -/
  lines : ∀ line ∈ headers, line ≠ [] ∧ ∀ octet ∈ line, octet ≠ 13 ∧ octet ≠ 10

/-- The text ` HTTP/1.1`. -/
def version : Bytes := [32, 72, 84, 84, 80, 47, 49, 46, 49]

/-- The bytes of a request, with its blank line. -/
def ConnectRequest.bytes (request : ConnectRequest) : Bytes :=
  HttpRequest.method ++ request.authority ++ version ++ crlf ++
    request.headers.flatMap (· ++ crlf) ++ crlf

/-- Bytes of the application that completions have read before the tunnel. -/
def setupBytes (past : List (Op × Result)) : Bytes :=
  past.flatMap fun completion => match completion with
    | (.localRead, _) | (.upstreamRead, _) => []
    | (_, .read data) => data
    | _ => []

/-- Bytes of the application that completions have read in the tunnel. -/
def tunnelBytes (past : List (Op × Result)) : Bytes :=
  past.flatMap fun completion => match completion with
    | (.localRead, .read data) => data
    | _ => []

/-- All bytes of the application that completions have read. -/
def localBytes (past : List (Op × Result)) : Bytes :=
  past.flatMap fun completion => match completion with
    | (.upstreamRead, _) => []
    | (_, .read data) => data
    | _ => []

/-- Bytes forwarded to the remote server behind the V request. -/
def upstreamBytes (trace : List Effect) : Bytes :=
  trace.flatMap fun effect => match effect with
    | .toUpstream data => data
    | _ => []

variable {config : ClientConfig} {world : World} {scope : Scope} {session : Session} {op : Op}
  {result : Result} {past : List (Op × Result)}

/-- Forwarded bytes are counted effect by effect. -/
theorem upstreamBytes_append (before after : List Effect) :
    upstreamBytes (before ++ after) = upstreamBytes before ++ upstreamBytes after :=
  List.flatMap_append

/-- A handler that records effects of which none forwards anything. -/
def Silent (before after : List Effect) : Prop :=
  ∃ effects, after = before ++ effects ∧ upstreamBytes effects = []

/-- Recording nothing. -/
theorem Silent.refl (trace : List Effect) : Silent trace trace :=
  ⟨[], (List.append_nil _).symm, rfl⟩

/-- Recording effects that forward nothing. -/
theorem Silent.append (trace : List Effect) {effects : List Effect}
    (silent : upstreamBytes effects = []) : Silent trace (trace ++ effects) :=
  ⟨effects, rfl, silent⟩

/-- Recording effects one after another. -/
theorem Silent.trans {first second third : List Effect} (earlier : Silent first second)
    (later : Silent second third) : Silent first third := by
  obtain ⟨some, rfl, silent⟩ := earlier
  obtain ⟨more, rfl, quiet⟩ := later
  refine ⟨some ++ more, List.append_assoc _ _ _, ?_⟩
  rw [upstreamBytes_append, silent, quiet]
  rfl

/-- Destroying a session forwards nothing. -/
theorem silent_destroy (scope : Scope) :
    Silent scope.session.trace scope.destroy.session.trace := by
  obtain ⟨dead, relay, same⟩ := Scope.destroy_session scope
  rw [same]
  exact .refl _

/-- Refusing an association forwards nothing. -/
theorem silent_refuse (scope : Scope) (world : World) :
    Silent scope.session.trace (scope.refuse world).session.trace := by
  unfold Scope.refuse
  dsimp only
  split
  · exact (Silent.append _ rfl).trans (silent_destroy _)
  · exact .refl _

/-- The first bytes are answered or dropped. -/
theorem silent_onFirstRead (scope : Scope) (length : Nat) :
    Silent scope.session.trace (scope.onFirstRead length).session.trace := by
  unfold Scope.onFirstRead
  dsimp only
  split
  · split
    · exact silent_destroy scope
    · unfold Scope.writeSock5HanshakeReply
      split
      · exact .append _ rfl
      · exact silent_destroy scope
  · split
    · exact .refl _
    · exact silent_destroy scope

/-- A SOCKS5 request forwards nothing. -/
theorem silent_onRequestRead (scope : Scope) (length : Nat) :
    Silent scope.session.trace (scope.onRequestRead config world length).session.trace := by
  unfold Scope.onRequestRead
  dsimp only
  generalize scope.session.socks5Req.unsteam scope.session.inBuf length = decoded
  suffices kept : Silent (scope.setRequest decoded.2).session.trace _ from kept
  split
  · split
    · split
      · unfold Scope.doHandleSocks5UdpAssociate
        split
        · split
          · exact .append _ rfl
          · exact .refl _
        · exact silent_refuse _ world
      · exact silent_refuse _ world
    · exact (Silent.append _ rfl).trans (.append _ rfl)
  · exact silent_destroy _

/-- An HTTP request forwards nothing, whatever follows it in the buffer. -/
theorem silent_onHeaderRead (scope : Scope) (buf : Bytes) :
    Silent scope.session.trace (scope.onHeaderRead buf).session.trace := by
  unfold Scope.onHeaderRead
  split
  · exact .refl _
  · split
    · exact (Silent.append _ rfl).trans (.append _ rfl)
    · exact silent_destroy scope

/-- Answers of the remote side forward nothing. -/
theorem silent_done (admitted : op.admits .done = true) :
    Silent scope.session.trace (scope.handle config world op .done).session.trace := by
  cases op with
  | greetingWrite =>
    change Silent _ scope.onGreetingWritten.session.trace
    unfold Scope.onGreetingWritten
    split
    · exact silent_destroy scope
    · exact .refl _
  | httpWrite => exact .append _ rfl
  | connect =>
    change Silent _ (scope.onConnected world).session.trace
    unfold Scope.onConnected
    split <;> exact .refl _
  | tlsHandshake =>
    change Silent _ scope.afterSslHandshake.session.trace
    unfold Scope.afterSslHandshake
    split
    · exact .append _ rfl
    · exact .refl _
  | wsHandshake => exact .append _ rfl
  | vRequestWrite =>
    change Silent _ (scope.onVRequestWritten world).session.trace
    unfold Scope.onVRequestWritten Scope.writeSocks5Response
    dsimp only
    split
    · exact .refl _
    · split
      · exact .append _ rfl
      · exact .refl _
  | replyWrite | upstreamWrite | localWrite | associateWrite => exact .refl _
  | _ => cases admitted

/-- **Only reads of the tunnel are forwarded**, each as it was read. -/
theorem handle_upstream (config : ClientConfig) (world : World) (scope : Scope)
    (admitted : op.admits result = true) :
    ∃ effects, (scope.handle config world op result).session.trace =
        scope.session.trace ++ effects ∧
      upstreamBytes effects = tunnelBytes [(op, result)] := by
  have silent (quiet : tunnelBytes [(op, result)] = []) (kept : Silent scope.session.trace
      (scope.handle config world op result).session.trace) :
      ∃ effects, (scope.handle config world op result).session.trace =
          scope.session.trace ++ effects ∧
        upstreamBytes effects = tunnelBytes [(op, result)] := by
    obtain ⟨effects, same, none⟩ := kept
    exact ⟨effects, same, none.trans quiet.symm⟩
  cases result with
  | failed =>
    refine silent (by cases op <;> rfl) ?_
    rw [Scope.handle_failed]
    exact silent_destroy scope
  | done => exact silent (by cases op <;> rfl) (silent_done admitted)
  | read data =>
    cases op with
    | firstRead => exact silent rfl (silent_onFirstRead (scope.fillIn data) _)
    | requestRead => exact silent rfl (silent_onRequestRead (scope.fillIn data) _)
    | headerRead initial => exact silent rfl (silent_onHeaderRead scope _)
    | localRead =>
      refine ⟨[.toUpstream ((scope.fillIn data).session.inBuf.take data.length)], rfl, ?_⟩
      simp [upstreamBytes, tunnelBytes, Scope.fillIn]
    | upstreamRead => exact silent rfl (.append _ rfl)
    | controlRead => exact silent rfl (.refl _)
    | _ => cases admitted
  | resolved results =>
    cases op with
    | resolve =>
      refine silent rfl ?_
      change Silent _ (scope.onResolved results).session.trace
      unfold Scope.onResolved
      split
      · exact silent_destroy scope
      · exact .append _ rfl
    | _ => cases admitted

/-- What a session has read and forwarded: the reads of the handshake come first, and those of
the tunnel are what was forwarded. -/
structure Carried (config : ClientConfig) (past : List (Op × Result)) (session : Session) :
    Prop where
  /-- The session is before its tunnel or in it. -/
  honest : Honest config session
  /-- The handshake reads before the tunnel does. -/
  split : localBytes past = setupBytes past ++ tunnelBytes past
  /-- The tunnel forwards what it reads. -/
  forwarded : upstreamBytes session.trace = tunnelBytes past
  /-- There is no tunnel before the request. -/
  early : askedFor session.trace = [] → tunnelBytes past = []

/-- Reads are counted completion by completion. -/
theorem localBytes_append (before after : List (Op × Result)) :
    localBytes (before ++ after) = localBytes before ++ localBytes after := List.flatMap_append

/-- Reads are counted completion by completion. -/
theorem setupBytes_append (before after : List (Op × Result)) :
    setupBytes (before ++ after) = setupBytes before ++ setupBytes after := List.flatMap_append

/-- Reads are counted completion by completion. -/
theorem tunnelBytes_append (before after : List (Op × Result)) :
    tunnelBytes (before ++ after) = tunnelBytes before ++ tunnelBytes after := List.flatMap_append

/-- An operation of the tunnel reads for the tunnel or not at all. -/
theorem localBytes_of_tunnel (own : isTunnel op = true) (admitted : op.admits result = true) :
    localBytes [(op, result)] = tunnelBytes [(op, result)] ∧ setupBytes [(op, result)] = [] := by
  cases op <;> cases own <;> cases result <;> first | exact ⟨rfl, rfl⟩ | cases admitted

/-- An operation before the tunnel reads nothing for it. -/
theorem localBytes_of_setup (result : Result) (own : isTunnel op = false) :
    localBytes [(op, result)] = setupBytes [(op, result)] ∧ tunnelBytes [(op, result)] = [] := by
  cases op <;> cases own <;> cases result <;> exact ⟨rfl, rfl⟩

/-- **One completion** keeps the account of what was read and forwarded. -/
theorem Carried.handle {server : Client.Server} (carried : Carried config past session)
    (member : op ∈ session.pending) (admitted : op.admits result = true) :
    Carried config (past ++ [(op, result)])
      ((Scope.complete ⟨server, session⟩ op).handle config world op result).session := by
  obtain ⟨effects, recorded, forwards⟩ :=
    handle_upstream config world (Scope.complete ⟨server, session⟩ op) admitted
  have trace : (Scope.complete ⟨server, session⟩ op).session.trace = session.trace := rfl
  have honest : Honest config
      ((Scope.complete ⟨server, session⟩ op).handle config world op result).session :=
    carried.honest.handle world result member
  have forwarded :
      upstreamBytes (session.trace ++ effects) = tunnelBytes (past ++ [(op, result)]) := by
    rw [upstreamBytes_append, carried.forwarded, forwards, tunnelBytes_append]
  rw [trace] at recorded
  rcases carried.honest with unasked | asked
  · obtain ⟨reads, quiet⟩ := localBytes_of_setup result (unasked.complete server member).2.2
    have none := carried.early unasked.asked
    have before := carried.split
    rw [none, List.append_nil] at before
    refine ⟨honest, ?_, ?_, ?_⟩
    · rw [localBytes_append, setupBytes_append, tunnelBytes_append, before, reads, none, quiet]
      exact (List.append_nil _).symm
    · rw [recorded]
      exact forwarded
    · intro _
      rw [tunnelBytes_append, none, quiet]
      rfl
  · obtain ⟨reads, quiet⟩ := localBytes_of_tunnel (asked.tunnel op member) admitted
    refine ⟨honest, ?_, ?_, ?_⟩
    · rw [localBytes_append, setupBytes_append, tunnelBytes_append, carried.split, reads, quiet,
        List.append_nil, List.append_assoc]
    · rw [recorded]
      exact forwarded
    · rw [recorded, askedFor_append, asked.asked]
      intro none
      cases none

/-- Every session of every run has read and forwarded in this way. -/
theorem run_carried {ssl : Bool} {events : List Event} {client : Process} {number : Nat}
    (ran : run (Process.step config) (Process.start config ssl) events = some client)
    (found : client.sessions[number]? = some session) :
    Carried config (completions number events) session := by
  refine session_history ?_ ?_ ?_ ran found
  · intro server number world
    have silent : (Scope.start ⟨server, .accepted config number⟩ world).session.trace = [] := by
      unfold Scope.start
      split <;> rfl
    refine ⟨honest_start config server number world, rfl, ?_, fun _ => rfl⟩
    rw [silent]
    rfl
  · intro past server session op result world carried member admitted
    exact carried.handle member admitted
  · intro past session relay carried
    exact ⟨carried.honest.setRelay relay, carried.split, carried.forwarded, carried.early⟩

section Target

/-- The target of a request line is decoded: it has no colon, or there is something in front of its
first colon and behind it a text that `std::stoi` converts. -/
def Decodable (authority : Bytes) : Prop :=
  58 ∉ authority ∨ ∃ front rest, authority = front ++ 58 :: rest ∧ 58 ∉ front ∧ front ≠ [] ∧
    ∃ value, stoi rest = .ok value

/-- The decoder accepts exactly the targets that can be decoded. -/
theorem unstreamAddress_accepts (before : HttpRequest) {authority : Bytes}
    (some : authority ≠ []) :
    (∃ decoded, before.unstreamAddress authority = .ok (true, decoded)) ↔ Decodable authority := by
  by_cases coloned : (58 : UInt8) ∈ authority
  · obtain ⟨front, rest, rfl, plain⟩ := List.eq_append_cons_of_mem coloned
    rw [HttpRequestLine.unstreamAddress_colon plain]
    constructor
    · rintro ⟨decoded, accepted⟩
      cases converted : stoi rest with
      | error fault =>
        rw [converted] at accepted
        cases accepted
      | ok value =>
        rw [converted] at accepted
        have named := (Prod.mk.inj (Except.ok.inj accepted)).1
        exact .inr ⟨front, rest, rfl, plain, by simpa using named, value, converted⟩
    · rintro (none | ⟨other, last, same, clean, named, value, converted⟩)
      · exact absurd coloned none
      · obtain ⟨rfl, rfl⟩ := append_cons_inj plain clean same
        refine ⟨⟨front, UInt16.ofInt value⟩, ?_⟩
        have flag : (!front.isEmpty) = true := by simpa using named
        rw [converted, Except.map, flag]
  · have flag : (!authority.isEmpty) = true := by simpa using some
    rw [HttpRequestLine.unstreamAddress_plain coloned, flag]
    exact ⟨fun _ => .inl coloned, fun _ => ⟨_, rfl⟩⟩

/-- However the stream is cut, a part of it with a line end has the request's target in its first
line. -/
theorem target_of_read {request : ConnectRequest} {buf unread tunnel : Bytes}
    (stream : buf ++ unread = request.bytes ++ tunnel) (ended : (find crlf buf).isSome = true) :
    HttpRequestLine.target (HttpRequestLine.firstLine buf) = some request.authority := by
  obtain ⟨line, isLine⟩ : ∃ line, line = HttpRequest.method ++ (request.authority ++ version) :=
    ⟨_, rfl⟩
  have clean : (13 : UInt8) ∉ line := by
    rw [isLine]
    intro member
    rcases List.mem_append.mp member with method | rest
    · exact absurd method (by decide)
    · rcases List.mem_append.mp rest with authority | last
      · exact (request.word.2 13 authority).2.1 rfl
      · exact absurd last (by decide)
  have free : find crlf line = none := find_none_of_absent (by decide) clean
  have whole : buf ++ unread =
      line ++ (crlf ++ (request.headers.flatMap (· ++ crlf) ++ crlf ++ tunnel)) := by
    rw [stream, isLine]
    simp only [ConnectRequest.bytes, List.append_assoc]
  obtain ⟨position, found⟩ := Option.isSome_iff_exists.mp ended
  have ends : position = line.length := by
    have first := find_append_left found unread
    rw [whole, find_append_crlf free] at first
    exact (Option.some.inj first).symm
  have inside : position ≤ buf.length := by
    have bounded := (append_of_find found).1
    omega
  have front : HttpRequestLine.firstLine buf = line := by
    have taken := congrArg (List.take position) whole
    rw [List.take_append_of_le_length inside, ends, List.take_left, ← ends] at taken
    rw [HttpRequestLine.firstLine, found, Option.getD_some]
    exact taken
  have word : (request.authority ++ version).takeWhile (· != (32 : UInt8)) = request.authority := by
    rw [List.takeWhile_append_of_pos]
    · exact List.append_nil _
    · intro octet member
      simpa using (request.word.2 octet member).1
  rw [front, isLine]
  have method : (HttpRequest.method ++ (request.authority ++ version)).take 8 =
      HttpRequest.method := rfl
  unfold HttpRequestLine.target
  rw [if_pos method]
  exact congrArg some word

end Target

section Opening

/-- Completions of a session that read nothing of its application. -/
def Unfed (number : Nat) (events : List Event) : Prop :=
  ∀ event ∈ events, ∃ op result world, event = .completed number op result world ∧
    localBytes [(op, result)] = []

/-- The session can open its tunnel: completions of its operations that read nothing of the
application lead to a session that forwards and waits for the application's bytes. -/
def Opens (config : ClientConfig) (client : Process) (number : Nat) : Prop :=
  ∃ more later session, Unfed number more ∧
    run (Process.step config) client more = some later ∧
    later.sessions[number]? = some session ∧ session.state = .forward ∧
    .localRead ∈ session.pending

variable {client later : Process} {number : Nat} {next : Op}

/-- One completion on the way to the tunnel. -/
theorem Opens.cons (stepped : client.step config (.completed number op result world) = some later)
    (silent : localBytes [(op, result)] = []) (opens : Opens config later number) :
    Opens config client number := by
  obtain ⟨more, final, session, unfed, ran, rest⟩ := opens
  refine ⟨.completed number op result world :: more, final, session, ?_, ?_, rest⟩
  · intro event member
    rcases List.mem_cons.mp member with rfl | among
    · exact ⟨op, result, world, rfl, silent⟩
    · exact unfed event among
  · rw [run, stepped]
    exact ran

/-- A session without operations in flight opens no tunnel. -/
theorem not_opens (found : client.sessions[number]? = some session)
    (idle : session.pending = []) : ¬ Opens config client number := by
  rintro ⟨more, final, last, unfed, ran, isLast, -, waits⟩
  cases more with
  | nil =>
    obtain rfl := Option.some.inj ran
    obtain rfl := Option.some.inj (found.symm.trans isLast)
    rw [idle] at waits
    cases waits
  | cons event more =>
    obtain ⟨op, result, world, rfl, -⟩ := unfed event List.mem_cons_self
    have stuck : client.step config (.completed number op result world) = none := by
      refine Process.step_idle found ?_
      rw [idle]
      exact List.not_mem_nil
    rw [run, stuck] at ran
    cases ran

/-- A session of a running process whose application has its response, with operations in
flight. -/
structure Ready (kind : SessionKind) (pending : List Op) (scope : Scope) : Prop where
  /-- The process runs. -/
  running : scope.server.crashed = false
  /-- These operations are in flight. -/
  waits : scope.session.pending = pending
  /-- The application has its response. -/
  told : scope.session.responseSent = true
  /-- The session is of this class. -/
  kind : scope.session.kind = kind

section Ready

variable {kind : SessionKind} {pending : List Op}

/-- Readiness is not about effects. -/
theorem Ready.emit (ready : Ready kind pending scope) (effect : Effect) :
    Ready kind pending (scope.emit effect) := ⟨ready.running, ready.waits, ready.told, ready.kind⟩

/-- Readiness is not about messages. -/
theorem Ready.setMessage (ready : Ready kind pending scope) (message : Bytes) :
    Ready kind pending (scope.setMessage message) :=
  ⟨ready.running, ready.waits, ready.told, ready.kind⟩

/-- One more operation is started. -/
theorem Ready.await (ready : Ready kind pending scope) (op : Op) :
    Ready kind (pending ++ [op]) (scope.await op) :=
  ⟨ready.running, congrArg (· ++ [op]) ready.waits, ready.told, ready.kind⟩

/-- The V request is written. -/
theorem Ready.doSentVReq (ready : Ready kind [] scope) :
    Ready kind [.vRequestWrite] scope.doSentVReq := ((ready.setMessage _).emit _).await _

end Ready

/-- A session that waits for one operation on the way to its tunnel. -/
def OnTheWay (client : Process) (number : Nat) (kind : SessionKind) (op : Op) : Prop :=
  ∃ session, client.sessions[number]? = some session ∧ Ready kind [op] ⟨client.server, session⟩

/-- The operation a session waits for completes. -/
theorem OnTheWay.completes {kind : SessionKind} (way : OnTheWay client number kind op)
    (config : ClientConfig) (world : World) (admitted : op.admits result = true) :
    ∃ scope later, Ready kind [] scope ∧
      client.step config (.completed number op result world) = some later ∧
      later.server = (scope.handle config world op result).server ∧
      later.sessions[number]? = some (scope.handle config world op result).session := by
  obtain ⟨session, found, ready⟩ := way
  have waits : session.pending = [op] := ready.waits
  refine ⟨Scope.complete ⟨client.server, session⟩ op, _, ⟨ready.running, ?_, ready.told,
    ready.kind⟩, Process.step_completed ready.running found ?_ admitted, rfl, ?_⟩
  · simp [Scope.complete, waits]
  · rw [waits]
    exact List.mem_singleton_self op
  · rw [Process.getElem?_putScope found, if_pos rfl]

/-- An operation completes, and the session waits for the next one. -/
theorem OnTheWay.opens {kind : SessionKind} (way : OnTheWay client number kind op)
    (admitted : op.admits result = true) (silent : localBytes [(op, result)] = [])
    (goes : ∀ scope, Ready kind [] scope → Ready kind [next] (scope.handle config {} op result))
    (rest : ∀ later, OnTheWay later number kind next → Opens config later number) :
    Opens config client number := by
  obtain ⟨scope, later, ready, stepped, server, found⟩ := way.completes config {} admitted
  refine .cons stepped silent (rest later ⟨_, found, ?_⟩)
  rw [server]
  exact goes scope ready

/-- Once its V request is written, a session forwards. -/
theorem OnTheWay.vRequestWritten {kind : SessionKind}
    (way : OnTheWay client number kind .vRequestWrite) : Opens config client number := by
  obtain ⟨scope, later, ready, stepped, -, found⟩ :=
    way.completes config {} (rfl : Op.vRequestWrite.admits .done = true)
  have forwards : scope.handle config {} .vRequestWrite .done = scope.setForward.readBoth :=
    if_pos ready.told
  rw [forwards] at found
  have ended : Opens config later number := by
    refine ⟨[], later, _, ?_, rfl, found, rfl, ?_⟩
    · intro event member
      cases member
    · exact List.mem_append_left _ (List.mem_append_right _ (List.mem_singleton_self _))
  exact ended.cons stepped rfl

/-- **A session that has answered its application can open the tunnel.** -/
theorem OnTheWay.answered {kind : SessionKind} (way : OnTheWay client number kind .httpWrite) :
    Opens config client number := by
  have resolves (scope : Scope) (ready : Ready kind [] scope) :
      Ready kind [.resolve] (scope.handle config {} .httpWrite .done) := (ready.emit _).await _
  have connects (scope : Scope) (ready : Ready kind [] scope) :
      Ready kind [.connect] (scope.handle config {} .resolve (.resolved [.unspecified])) :=
    (ready.emit _).await _
  have secures (scope : Scope) (ready : Ready kind [] scope) :
      Ready kind [.tlsHandshake] (scope.handle config {} .connect .done) := ready.await _
  refine way.opens rfl rfl resolves fun _ resolving => ?_
  refine resolving.opens rfl rfl connects fun _ connecting => ?_
  refine connecting.opens rfl rfl secures fun _ securing => ?_
  -- A websocket session shakes hands once more before it sends the V request.
  cases kind with
  | tls =>
    have sends (scope : Scope) (ready : Ready .tls [] scope) :
        Ready .tls [.vRequestWrite] (scope.handle config {} .tlsHandshake .done) := by
      change Ready .tls _ scope.afterSslHandshake
      unfold Scope.afterSslHandshake
      rw [ready.kind]
      exact ready.doSentVReq
    exact securing.opens rfl rfl sends fun _ sent => sent.vRequestWritten
  | websocket =>
    have upgrades (scope : Scope) (ready : Ready .websocket [] scope) :
        Ready .websocket [.wsHandshake] (scope.handle config {} .tlsHandshake .done) := by
      change Ready .websocket _ scope.afterSslHandshake
      unfold Scope.afterSslHandshake
      rw [ready.kind]
      exact ready.await _
    have sends (scope : Scope) (ready : Ready .websocket [] scope) :
        Ready .websocket [.vRequestWrite] (scope.handle config {} .wsHandshake .done) :=
      ready.doSentVReq
    refine securing.opens rfl rfl upgrades fun _ upgrading => ?_
    exact upgrading.opens rfl rfl sends fun _ sent => sent.vRequestWritten

end Opening

section Decided

/-- Once the reads of its handshake are done, a session reads for its tunnel or not at all. -/
def Decided (config : ClientConfig) (past : List (Op × Result)) (session : Session) : Prop :=
  ∀ first rest later,
    past = [(.firstRead, .read first), (.headerRead first, .read rest)] ++ later →
      setupBytes later = [] ∧ (session.pending = [] ∨ Asked config session)

/-- A request that is not decoded ends the session, or the process. -/
theorem onHeaderRead_refused (idle : scope.session.pending = []) {buf : Bytes}
    (refused : ¬ ∃ request, scope.session.httpReq.unstream buf = .ok (true, request)) :
    (scope.onHeaderRead buf).session.pending = [] := by
  unfold Scope.onHeaderRead
  split
  · exact idle
  · rename_i decoded returned
    split
    · rename_i accepted
      refine absurd ⟨decoded.2, ?_⟩ refused
      rw [returned, ← accepted]
    · rw [Scope.destroy_pending]
      exact idle

/-- A request that is decoded is answered. -/
theorem onHeaderRead_accepted (running : scope.server.crashed = false)
    (idle : scope.session.pending = []) {buf : Bytes} {request : HttpRequest}
    (accepted : scope.session.httpReq.unstream buf = .ok (true, request)) :
    Ready scope.session.kind [.httpWrite] (scope.onHeaderRead buf) := by
  have answers : scope.onHeaderRead buf = ((scope.takeHttpRequest request).emit
      (.asked request.host request.port)).writeHttpConnectResponse := by
    rw [Scope.onHeaderRead, accepted]
    rfl
  have told : Ready scope.session.kind [] ((scope.takeHttpRequest request).emit
      (.asked request.host request.port)).setResponseSent := ⟨running, idle, rfl, rfl⟩
  rw [answers]
  exact ((told.setMessage _).emit _).await _

/-- **One completion** behind the handshake is one of the tunnel. -/
theorem Decided.handle {server : Client.Server} (decided : Decided config past session)
    (honest : Honest config session) (member : op ∈ session.pending)
    (admitted : op.admits result = true) :
    Decided config (past ++ [(op, result)])
      ((Scope.complete ⟨server, session⟩ op).handle config world op result).session := by
  intro first rest later split
  have goesOn (earlier : List (Op × Result)) (isLater : later = earlier ++ [(op, result)])
      (before : past = [(.firstRead, .read first), (.headerRead first, .read rest)] ++ earlier) :
      setupBytes later = [] ∧
        (((Scope.complete ⟨server, session⟩ op).handle config world op result).session.pending =
            [] ∨
          Asked config
            ((Scope.complete ⟨server, session⟩ op).handle config world op result).session) := by
    obtain ⟨quiet, none | asked⟩ := decided first rest earlier before
    · rw [none] at member
      cases member
    · have own := asked.tunnel op member
      refine ⟨?_, .inr ((asked.complete server op).handle world result own)⟩
      rw [isLater, setupBytes_append, quiet, (localBytes_of_tunnel own admitted).2]
      rfl
  rcases List.append_eq_append_iff.mp split with ⟨middle, inside, tail⟩ | ⟨middle, before, tail⟩
  · cases middle with
    | nil =>
      refine goesOn [] ?_ ?_
      · simpa using tail.symm
      · simpa using inside.symm
    | cons head more =>
      -- The completion is the header read itself.
      obtain ⟨rfl, none⟩ := List.cons.inj tail
      obtain ⟨rfl, rfl⟩ := List.append_eq_nil_iff.mp none.symm
      have last : (op, result) = (Op.headerRead first, Result.read rest) := by
        have ends := congrArg List.getLast? inside
        simpa using ends.symm
      obtain ⟨rfl, rfl⟩ := Prod.mk.inj last
      refine ⟨rfl, ?_⟩
      rcases honest with unasked | asked
      · obtain ⟨still, idle, -⟩ := unasked.complete server member
        exact (still.onHeaderRead idle (first ++ rest)).imp_left And.right
      · cases asked.tunnel _ member
  · exact goesOn middle tail before

/-- Every session of every run reads in this way. -/
theorem run_decided {ssl : Bool} {events : List Event} {client : Process} {number : Nat}
    (ran : run (Process.step config) (Process.start config ssl) events = some client)
    (found : client.sessions[number]? = some session) :
    Decided config (completions number events) session := by
  refine (@session_history config (fun past session => Honest config session ∧
    Decided config past session) _ _ _ _ _ ?_ ?_ ?_ ran found).2
  · intro server number world
    exact ⟨honest_start config server number world, fun first rest later none => by cases none⟩
  · rintro past server session op result world ⟨honest, decided⟩ member admitted
    exact ⟨honest.handle world result member, decided.handle honest member admitted⟩
  · rintro past session relay ⟨honest, decided⟩
    refine ⟨honest.setRelay relay, fun first rest later split => ?_⟩
    obtain ⟨quiet, stands⟩ := decided first rest later split
    exact ⟨quiet, stands.imp_right fun asked => asked.congr rfl rfl rfl rfl rfl⟩

end Decided

/-- Whatever happens to the process, the bytes a session has forwarded behind its V request and
those of the stream it has not read yet are the tunnel bytes; some bytes were read before. -/
def Forwards (config : ClientConfig) (client : Process) (number : Nat)
    (already stream tunnel : Bytes) : Prop :=
  ∀ more later session unread, run (Process.step config) client more = some later →
    later.sessions[number]? = some session →
    already ++ localBytes (completions number more) ++ unread = stream →
    upstreamBytes session.trace ++ unread = tunnel

section Handshake

variable {ssl : Bool} {before : List Event} {client : Process} {number : Nat}
  {request : ConnectRequest} {tunnel first rest unread : Bytes}

/-- The session of a header read waited for nothing else, and its handler has run. -/
theorem headerRead_handled
    (ran : run (Process.step config) (Process.start config ssl)
      (before ++ [.completed number (.headerRead first) (.read rest) world]) = some client) :
    ∃ server old, server.crashed = false ∧ (find crlf (first ++ rest)).isSome = true ∧
      (Scope.complete ⟨server, old⟩ (.headerRead first)).session.pending = [] ∧
      client.server = ((Scope.complete ⟨server, old⟩ (.headerRead first)).onHeaderRead
        (first ++ rest)).server ∧
      client.sessions[number]? = some ((Scope.complete ⟨server, old⟩
        (.headerRead first)).onHeaderRead (first ++ rest)).session := by
  obtain ⟨middle, ranBefore, last⟩ := exists_of_run_append ran
  obtain ⟨_, stepped, same⟩ := Option.bind_eq_some_iff.mp last
  obtain rfl := Option.some.inj same
  have running : middle.server.crashed = false := by
    by_contra crashed
    rw [Process.step, if_pos (by simpa using crashed)] at stepped
    cases stepped
  rcases Process.step_cases stepped with ⟨_, accepted, -⟩ |
    ⟨_, _, _, _, old, isRead, found, member, admitted, rfl⟩ | ⟨other, -⟩
  · cases accepted
  · cases isRead
    rcases (run_carried ranBefore found).honest with unasked | asked
    · refine ⟨middle.server, old, running, (Bool.and_eq_true_iff.mp admitted).1,
        (unasked.complete middle.server member).2.1, rfl, ?_⟩
      rw [Process.getElem?_putScope found, if_pos rfl]
      rfl
    · cases asked.tunnel _ member
  · cases other

/-- A session can open its tunnel exactly when the target of the request is decoded. -/
theorem opens_iff
    (ran : run (Process.step config) (Process.start config ssl)
      (before ++ [.completed number (.headerRead first) (.read rest) world]) = some client)
    (stream : first ++ rest ++ unread = request.bytes ++ tunnel) :
    Opens config client number ↔ Decodable request.authority := by
  obtain ⟨server, old, running, ended, idle, isServer, found⟩ := headerRead_handled ran
  have decoded : old.httpReq.unstream (first ++ rest) =
      old.httpReq.unstreamAddress request.authority := by
    rw [HttpRequestLine.unstream_eq _ ended, target_of_read stream ended]
  rw [← unstreamAddress_accepts old.httpReq request.word.1, ← decoded]
  constructor
  · intro opens
    by_contra refused
    exact not_opens found (onHeaderRead_refused idle refused) opens
  · rintro ⟨result, accepted⟩
    have ready := @onHeaderRead_accepted (Scope.complete ⟨server, old⟩ (.headerRead first)) running
      idle _ _ accepted
    have answered : OnTheWay client number old.kind .httpWrite := by
      refine ⟨_, found, ?_⟩
      rw [isServer]
      exact ready
    exact answered.answered

/-- What is forwarded is the tunnel exactly when the reads of the handshake are the request. -/
theorem forwards_iff
    (ran : run (Process.step config) (Process.start config ssl)
      (before ++ [.completed number (.headerRead first) (.read rest) world]) = some client)
    (reads : completions number before = [(.firstRead, .read first)])
    (stream : first ++ rest ++ unread = request.bytes ++ tunnel) :
    Forwards config client number (first ++ rest) (request.bytes ++ tunnel) tunnel ↔
      first ++ rest = request.bytes := by
  have past : completions number
      (before ++ [.completed number (.headerRead first) (.read rest) world]) =
      [(.firstRead, .read first), (.headerRead first, .read rest)] := by
    rw [completions_append, reads]
    simp [completions]
  constructor
  · intro forwards
    obtain ⟨server, old, -, -, -, -, found⟩ := headerRead_handled ran
    -- Nothing is forwarded yet, so what is still to be read must be the tunnel.
    have none := (run_carried ran found).forwarded
    rw [past] at none
    have read : first ++ rest ++ localBytes (completions number []) ++ unread =
        request.bytes ++ tunnel := by
      rw [← stream]
      exact congrArg (· ++ unread) (List.append_nil _)
    have left := forwards [] client _ unread rfl found read
    rw [none] at left
    rw [← left] at stream
    exact List.append_cancel_right stream
  · intro whole more later session left ranMore found goesOn
    have ranAll := (run_append ran).trans ranMore
    have carried := run_carried ranAll found
    rw [completions_append, past] at carried
    have quiet : setupBytes (completions number more) = [] := by
      refine (run_decided ranAll found first rest _ ?_).1
      rw [completions_append, past]
    have split := carried.split
    rw [localBytes_append, setupBytes_append, quiet, List.append_nil] at split
    have same : localBytes (completions number more) = upstreamBytes session.trace := by
      rw [carried.forwarded]
      exact List.append_cancel_left split
    rw [whole, same, List.append_assoc] at goesOn
    exact List.append_cancel_left goesOn

end Handshake

/-- **Transparency of an HTTP tunnel.** For every well-formed CONNECT request with any tunnel bytes
behind it, and every cut of the stream into the reads of the handshake, in every run: the session
can open the tunnel, and what it forwards behind the V request with what is still to be read is
always the tunnel bytes, exactly when the reads of the handshake are the request with its blank
line and the target of its first line is decoded. -/
theorem connect_transparent_iff (config : ClientConfig) (ssl : Bool) (before : List Event)
    (client : Process) (number : Nat) (world : World) (request : ConnectRequest)
    (tunnel first rest unread : Bytes)
    (ran : run (Process.step config) (Process.start config ssl)
      (before ++ [.completed number (.headerRead first) (.read rest) world]) = some client)
    (reads : completions number before = [(.firstRead, .read first)])
    (stream : first ++ rest ++ unread = request.bytes ++ tunnel) :
    Opens config client number ∧
        Forwards config client number (first ++ rest) (request.bytes ++ tunnel) tunnel ↔
      first ++ rest = request.bytes ∧ Decodable request.authority := by
  rw [opens_iff ran stream, forwards_iff ran reads stream]
  exact and_comm

/-- `CONNECT a:80 HTTP/1.1` without header lines. -/
def sampleRequest : ConnectRequest where
  authority := [97, 58, 56, 48]
  headers := []
  word := by simp
  lines := by simp

/-- A session reads a first part with a line end, opens its tunnel, and reads a last part. -/
def sampleEvents (first last : Bytes) : List Event :=
  [.accept {}, .completed 0 .firstRead (.read first) {},
    .completed 0 (.headerRead first) (.read []) {}, .completed 0 .httpWrite .done {},
    .completed 0 .resolve (.resolved [⟨.ofWord 0x01020304, 443⟩]) {},
    .completed 0 .connect .done {}, .completed 0 .tlsHandshake .done {},
    .completed 0 .vRequestWrite .done {}, .completed 0 .localRead (.read last) {}]

/-- The events up to the read of the header. -/
theorem sampleEvents_split (first last : Bytes) : sampleEvents first last =
    (([.accept {}, .completed 0 .firstRead (.read first) {}] ++
      [.completed 0 (.headerRead first) (.read []) {}]) ++ (sampleEvents first last).drop 3) := rfl

/-- A request in one read and a byte in another. -/
theorem connect_transparent_whole : ∃ client later session,
    run (Process.step {}) (Process.start {} true)
        ([.accept {}, .completed 0 .firstRead (.read sampleRequest.bytes) {}] ++
          [.completed 0 (.headerRead sampleRequest.bytes) (.read []) {}]) = some client ∧
      Opens {} client 0 ∧
      run (Process.step {}) client ((sampleEvents sampleRequest.bytes [7]).drop 3) = some later ∧
      later.sessions[0]? = some session ∧ session.state = .forward ∧
      upstreamBytes session.trace = [7] := by
  have checked : (run (Process.step {}) (Process.start {} true)
      (sampleEvents sampleRequest.bytes [7])).any (fun client =>
        (client.sessions[0]?).any fun session => decide (session.state = .forward)) = true := by
    decide +kernel
  obtain ⟨later, ranAll, good⟩ := exists_of_run checked
  obtain ⟨session, found, forwarding⟩ := (Option.any_eq_true _ _).mp good
  rw [sampleEvents_split] at ranAll
  obtain ⟨client, ran, ranMore⟩ := exists_of_run_append ranAll
  have colon : Decodable sampleRequest.authority :=
    .inr ⟨[97], [56, 48], rfl, by decide, by decide, 80, by decide +kernel⟩
  obtain ⟨opens, forwards⟩ := (connect_transparent_iff {} true _ client 0 {} sampleRequest [7]
    sampleRequest.bytes [] [7] ran rfl (by decide +kernel)).mpr ⟨List.append_nil _, colon⟩
  have sent := forwards _ later session [] ranMore found (by decide +kernel)
  rw [List.append_nil] at sent
  exact ⟨client, later, session, ran, opens, ranMore, found, of_decide_eq_true forwarding, sent⟩

/-- The same request cut behind its first line: the blank line is forwarded. -/
theorem blank_line_forwarded : ∃ client session,
    run (Process.step {}) (Process.start {} true)
        (sampleEvents (HttpRequest.method ++ [97, 58, 56, 48] ++ version ++ crlf) crlf) =
      some client ∧
    client.sessions[0]? = some session ∧
    localBytes (completions 0
        (sampleEvents (HttpRequest.method ++ [97, 58, 56, 48] ++ version ++ crlf) crlf)) =
      sampleRequest.bytes ∧
    session.state = .forward ∧ upstreamBytes session.trace = crlf := by
  have checked : (run (Process.step {}) (Process.start {} true)
      (sampleEvents (HttpRequest.method ++ [97, 58, 56, 48] ++ version ++ crlf) crlf)).any
        (fun client => (client.sessions[0]?).any fun session =>
          decide (session.state = .forward ∧ upstreamBytes session.trace = crlf)) = true := by
    decide +kernel
  obtain ⟨client, ran, good⟩ := exists_of_run checked
  obtain ⟨session, found, result⟩ := (Option.any_eq_true _ _).mp good
  exact ⟨client, session, ran, found, by decide +kernel, of_decide_eq_true result⟩

end Overplus.Verif.HttpConnect
