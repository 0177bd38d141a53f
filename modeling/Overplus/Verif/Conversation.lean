import Overplus.Verif.HttpConnect

/-!
# The conversation of a client session

What a client session may say, and in which order, as an automaton over its effects: a SOCKS5
application is greeted, asks, has the remote server resolved, connected and sent the V request, and
then gets its reply; an HTTP application gets its answer as soon as it has asked; an association is
granted or refused. Behind the V request and the reply there are only bytes of the tunnel. Every
session of every run follows the automaton, waits only for operations of the stage it is at, one
for each direction, and the bytes of a write stay in their buffer until the write completes.
-/
namespace Overplus.Verif.Conversation

open Client RequestRoundTrip HttpConnect

section Automaton

/-- How an application asks for a tunnel. -/
inductive Front where
  /-- With a SOCKS5 request. -/
  | socks5
  /-- With an HTTP CONNECT request. -/
  | http
deriving DecidableEq, Repr

/-- Where a conversation stands. -/
inductive Stage where
  /-- Nothing was said. -/
  | fresh
  /-- The greeting of SOCKS5 was answered. -/
  | greeted
  /-- A tunnel was asked for. -/
  | asked (front : Front) (host : Bytes) (port : UInt16)
  /-- The HTTP request was answered. -/
  | answered (host : Bytes) (port : UInt16)
  /-- The remote server's name is being resolved. -/
  | resolving (front : Front) (host : Bytes) (port : UInt16)
  /-- The remote server is being connected. -/
  | connecting (front : Front) (host : Bytes) (port : UInt16)
  /-- The V request was sent, and the SOCKS5 application has no reply yet. -/
  | requested (host : Bytes) (port : UInt16)
  /-- The V request and all replies were sent. -/
  | tunnel (front : Front) (host : Bytes) (port : UInt16)
  /-- An association was granted. -/
  | associated
  /-- An association was refused. -/
  | refused
deriving DecidableEq, Repr

/-- A SOCKS5 reply with a result and an IPv4 address. -/
def isReply (result : UInt8) (data : Bytes) : Bool :=
  data.length = 10 ∧ data.take 4 = [0x05, result, 0x00, 0x01]

/-- The V request of the configured account for a host and a port. -/
def requestBytes (config : ClientConfig) (host : Bytes) (port : UInt16) : Bytes :=
  ((requestFor config host port).stream []).2

/-- The name resolved is that of the configured server. -/
def isServer (config : ClientConfig) (name service : Bytes) : Bool :=
  name = config.remoteAddr ∧ service = config.remotePort

/-- The stage behind a stage and an effect; nothing where the effect is out of order. -/
def Stage.next (config : ClientConfig) : Stage → Effect → Option Stage
  | .fresh, .toLocal data => if data = [0x05, 0x00] then some .greeted else none
  | .fresh, .asked host port => some (.asked .http host port)
  | .greeted, .asked host port => some (.asked .socks5 host port)
  | .greeted, .toLocal data =>
    if isReply 0x00 data then some .associated
    else if isReply 0x02 data then some .refused else none
  | .asked .http host port, .toLocal data =>
    if data = HttpResponse.ok then some (.answered host port) else none
  | .asked .socks5 host port, .resolve name service =>
    if isServer config name service then some (.resolving .socks5 host port) else none
  | .answered host port, .resolve name service =>
    if isServer config name service then some (.resolving .http host port) else none
  | .resolving front host port, .connect _ => some (.connecting front host port)
  | .connecting .socks5 host port, .vRequest data =>
    if data = requestBytes config host port then some (.requested host port) else none
  | .connecting .http host port, .vRequest data =>
    if data = requestBytes config host port then some (.tunnel .http host port) else none
  | .requested host port, .toLocal data =>
    if isReply 0x00 data then some (.tunnel .socks5 host port) else none
  | .tunnel front host port, .toUpstream _ | .tunnel front host port, .toLocal _ =>
    some (.tunnel front host port)
  | _, _ => none

/-- Operations that leave the direction from the application to the remote server alone. -/
def isDownlink : Op → Bool
  | .upstreamRead | .localWrite => true
  | _ => false

/-- Operations that leave the direction from the remote server to the application alone. -/
def isUplink : Op → Bool
  | .localRead | .upstreamWrite => true
  | _ => false

/-- Operations a session may wait for at a stage. -/
def Stage.awaits : Stage → Op → Bool
  | .fresh, .firstRead | .fresh, .headerRead _ => true
  | .greeted, .greetingWrite | .greeted, .requestRead => true
  | .answered _ _, .httpWrite => true
  | .resolving _ _ _, .resolve => true
  | .connecting _ _ _, .connect | .connecting _ _ _, .tlsHandshake => true
  | .connecting _ _ _, .wsHandshake => true
  | .requested _ _, .vRequestWrite => true
  | .tunnel .http _ _, .vRequestWrite | .tunnel .socks5 _ _, .replyWrite => true
  | .tunnel _ _ _, op => isUplink op || isDownlink op
  | .associated, .associateWrite | .associated, .controlRead => true
  | _, _ => false

/-- What the application asked for, and how. -/
def Stage.target : Stage → Option (Front × Bytes × UInt16)
  | .asked front host port | .resolving front host port | .connecting front host port
  | .tunnel front host port => some (front, host, port)
  | .answered host port => some (.http, host, port)
  | .requested host port => some (.socks5, host, port)
  | _ => none

/-- The V request was sent. -/
def Stage.isSent : Stage → Bool
  | .requested _ _ | .tunnel _ _ _ => true
  | _ => false

/-- Bytes of the tunnel may be exchanged. -/
def Stage.isTunnel : Stage → Bool
  | .tunnel _ _ _ => true
  | _ => false

/-- The replies an application was given before the bytes of the tunnel. -/
def Stage.Replies : Stage → Bytes → Prop
  | .fresh, replies | .asked .http _ _, replies => replies = []
  | .greeted, replies | .asked .socks5 _ _, replies | .requested _ _, replies =>
    replies = [0x05, 0x00]
  | .answered _ _, replies => replies = HttpResponse.ok
  | .resolving front _ _, replies | .connecting front _ _, replies =>
    replies = match front with
      | .socks5 => [0x05, 0x00]
      | .http => HttpResponse.ok
  | .tunnel .http _ _, replies => replies = HttpResponse.ok
  | .tunnel .socks5 _ _, replies | .associated, replies =>
    ∃ reply, isReply 0x00 reply = true ∧ replies = [0x05, 0x00] ++ reply
  | .refused, replies => ∃ reply, isReply 0x02 reply = true ∧ replies = [0x05, 0x00] ++ reply

/-- Bytes written to the application. -/
def toldBytes (trace : List Effect) : Bytes :=
  trace.flatMap fun effect => match effect with
    | .toLocal data => data
    | _ => []

/-- Bytes written to the remote server. -/
def wireBytes (trace : List Effect) : Bytes :=
  trace.flatMap fun effect => match effect with
    | .vRequest data | .toUpstream data => data
    | _ => []

variable {config : ClientConfig} {stage later : Stage} {effect : Effect} {effects : List Effect}

/-- Bytes are counted effect by effect. -/
theorem toldBytes_append (before after : List Effect) :
    toldBytes (before ++ after) = toldBytes before ++ toldBytes after := List.flatMap_append

/-- Bytes are counted effect by effect. -/
theorem wireBytes_append (before after : List Effect) :
    wireBytes (before ++ after) = wireBytes before ++ wireBytes after := List.flatMap_append

/-- The steps of a conversation, with what each needs. -/
inductive Turn (config : ClientConfig) : Stage → Effect → Stage → Prop
  /-- The greeting is answered. -/
  | greet : Turn config .fresh (.toLocal [0x05, 0x00]) .greeted
  /-- An HTTP application asks. -/
  | askHttp (host : Bytes) (port : UInt16) :
    Turn config .fresh (.asked host port) (.asked .http host port)
  /-- A SOCKS5 application asks. -/
  | askSocks5 (host : Bytes) (port : UInt16) :
    Turn config .greeted (.asked host port) (.asked .socks5 host port)
  /-- An association is granted. -/
  | grant {reply : Bytes} (shape : isReply 0x00 reply = true) :
    Turn config .greeted (.toLocal reply) .associated
  /-- An association is refused. -/
  | refuse {reply : Bytes} (shape : isReply 0x02 reply = true) :
    Turn config .greeted (.toLocal reply) .refused
  /-- An HTTP request is answered. -/
  | answer (host : Bytes) (port : UInt16) :
    Turn config (.asked .http host port) (.toLocal HttpResponse.ok) (.answered host port)
  /-- The server is resolved for a SOCKS5 application. -/
  | resolveSocks5 (host : Bytes) (port : UInt16) :
    Turn config (.asked .socks5 host port) (.resolve config.remoteAddr config.remotePort)
      (.resolving .socks5 host port)
  /-- The server is resolved for an HTTP application. -/
  | resolveHttp (host : Bytes) (port : UInt16) :
    Turn config (.answered host port) (.resolve config.remoteAddr config.remotePort)
      (.resolving .http host port)
  /-- The server is connected. -/
  | connect (front : Front) (host : Bytes) (port : UInt16) (endpoint : Endpoint) :
    Turn config (.resolving front host port) (.connect endpoint) (.connecting front host port)
  /-- The V request is sent for a SOCKS5 application. -/
  | requestSocks5 (host : Bytes) (port : UInt16) :
    Turn config (.connecting .socks5 host port) (.vRequest (requestBytes config host port))
      (.requested host port)
  /-- The V request is sent for an HTTP application. -/
  | requestHttp (host : Bytes) (port : UInt16) :
    Turn config (.connecting .http host port) (.vRequest (requestBytes config host port))
      (.tunnel .http host port)
  /-- The SOCKS5 application gets its reply. -/
  | reply {reply : Bytes} (host : Bytes) (port : UInt16) (shape : isReply 0x00 reply = true) :
    Turn config (.requested host port) (.toLocal reply) (.tunnel .socks5 host port)
  /-- Bytes are forwarded. -/
  | forward (front : Front) (host : Bytes) (port : UInt16) (data : Bytes) :
    Turn config (.tunnel front host port) (.toUpstream data) (.tunnel front host port)
  /-- Bytes are returned. -/
  | back (front : Front) (host : Bytes) (port : UInt16) (data : Bytes) :
    Turn config (.tunnel front host port) (.toLocal data) (.tunnel front host port)

/-- **Every step of the automaton** is one of those listed. -/
theorem Stage.turn_of_next (moved : stage.next config effect = some later) :
    Turn config stage effect later := by
  unfold Stage.next at moved
  split at moved
  · split_ifs at moved with same
    obtain rfl := Option.some.inj moved
    rw [same]
    exact .greet
  · obtain rfl := Option.some.inj moved
    exact .askHttp _ _
  · obtain rfl := Option.some.inj moved
    exact .askSocks5 _ _
  · split_ifs at moved with granted refused
    · obtain rfl := Option.some.inj moved
      exact .grant granted
    · obtain rfl := Option.some.inj moved
      exact .refuse refused
  · split_ifs at moved with same
    obtain rfl := Option.some.inj moved
    rw [same]
    exact .answer _ _
  · split_ifs at moved with same
    obtain rfl := Option.some.inj moved
    obtain ⟨rfl, rfl⟩ := of_decide_eq_true same
    exact .resolveSocks5 _ _
  · split_ifs at moved with same
    obtain rfl := Option.some.inj moved
    obtain ⟨rfl, rfl⟩ := of_decide_eq_true same
    exact .resolveHttp _ _
  · obtain rfl := Option.some.inj moved
    exact .connect _ _ _ _
  · split_ifs at moved with same
    obtain rfl := Option.some.inj moved
    rw [same]
    exact .requestSocks5 _ _
  · split_ifs at moved with same
    obtain rfl := Option.some.inj moved
    rw [same]
    exact .requestHttp _ _
  · split_ifs at moved with shape
    obtain rfl := Option.some.inj moved
    exact .reply _ _ shape
  · obtain rfl := Option.some.inj moved
    exact .forward _ _ _ _
  · obtain rfl := Option.some.inj moved
    exact .back _ _ _ _
  · cases moved

/-- Each of them is a step. -/
theorem Turn.next (turn : Turn config stage effect later) :
    stage.next config effect = some later := by
  cases turn with
  | greet | askHttp | askSocks5 | answer | connect | forward | back => rfl
  | grant shape => exact if_pos shape
  | @refuse reply shape =>
    have other : isReply 0x00 reply = false := by
      obtain ⟨-, first⟩ := of_decide_eq_true shape
      refine decide_eq_false ?_
      rw [first]
      simp
    unfold Stage.next
    simp [shape, other]
  | resolveSocks5 | resolveHttp => exact if_pos (decide_eq_true ⟨rfl, rfl⟩)
  | requestSocks5 | requestHttp => exact if_pos rfl
  | reply _ _ shape => exact if_pos shape

/-- **What was written to the remote server**: the V request of what was asked for, and behind it
the bytes of the tunnel. -/
structure Written (config : ClientConfig) (effects : List Effect) (stage : Stage) : Prop where
  /-- Behind the V request there are only bytes of the tunnel. -/
  wire : wireBytes effects = match stage.target with
    | some (_, host, port) =>
      if stage.isSent then requestBytes config host port ++ upstreamBytes effects else []
    | none => []
  /-- No byte of the tunnel comes before it. -/
  early : stage.isTunnel = false → upstreamBytes effects = []
  /-- The application asked once. -/
  asked : askedFor effects = stage.target.toList.map fun target => target.2

/-- One step of a conversation keeps the account. -/
theorem Written.next (written : Written config effects stage)
    (moved : stage.next config effect = some later) :
    Written config (effects ++ [effect]) later := by
  obtain ⟨wire, early, asked⟩ := written
  have turn := Stage.turn_of_next moved
  refine ⟨?_, ?_, ?_⟩
  -- Only what was written before counts, not how.
  · rw [wireBytes_append, upstreamBytes_append]
    generalize wireBytes effects = sent at wire
    generalize upstreamBytes effects = forwarded at wire early
    cases turn <;>
      simp_all [Stage.target, Stage.isSent, Stage.isTunnel, wireBytes, upstreamBytes]
  · rw [upstreamBytes_append]
    generalize upstreamBytes effects = forwarded at early
    cases turn <;> simp_all [Stage.isTunnel, upstreamBytes]
  · rw [askedFor_append]
    generalize askedFor effects = questions at asked
    cases turn <;> simp_all [Stage.target, askedFor]

/-- Whatever was said in order was written in this way. -/
theorem written_of_run (ran : run (Stage.next config) .fresh effects = some stage) :
    Written config effects stage := by
  have start : Written config [] .fresh := ⟨rfl, fun _ => rfl, rfl⟩
  have written : Written config ([] ++ effects) stage :=
    run_history (fun _ _ _ _ written moved => written.next moved) start ran
  exact written

/-- One step in front of the tunnel adds its reply to those given so far. -/
theorem Stage.Replies.next {replies : Bytes} (given : stage.Replies replies)
    (turn : Turn config stage effect later) (setup : stage.isTunnel = false) :
    later.Replies (replies ++ toldBytes [effect]) := by
  cases turn with
  | greet | askHttp | answer =>
    obtain rfl : replies = [] := given
    rfl
  | askSocks5 | resolveSocks5 | resolveHttp | requestSocks5 =>
    rw [show replies ++ toldBytes [_] = replies from List.append_nil _]
    exact given
  | connect front | requestHttp =>
    rw [show replies ++ toldBytes [_] = replies from List.append_nil _]
    exact given
  | @grant reply shape | @refuse reply shape | @reply reply host port shape =>
    obtain rfl : replies = [0x05, 0x00] := given
    exact ⟨reply, shape, by rw [show toldBytes [.toLocal reply] = reply from List.append_nil _]⟩
  | forward | back => cases setup

end Automaton

section Sessions

/-- Bytes of the remote server that completions have read. -/
def returnedBytes (past : List (Op × Result)) : Bytes :=
  past.flatMap fun completion => match completion with
    | (.upstreamRead, .read data) => data
    | _ => []

/-- Writes to the application. -/
def localWrites (trace : List Effect) : List Bytes :=
  trace.filterMap fun effect => match effect with
    | .toLocal data => some data
    | _ => none

/-- Writes of the tunnel to the remote server. -/
def upstreamWrites (trace : List Effect) : List Bytes :=
  trace.filterMap fun effect => match effect with
    | .toUpstream data => some data
    | _ => none

/-- A conversation that stands at a stage: what was told are the replies of the stage and behind
them the bytes that the remote server returned. -/
structure Said (config : ClientConfig) (past : List (Op × Result)) (trace : List Effect)
    (stage : Stage) : Prop where
  /-- Everything was said in order. -/
  reached : run (Stage.next config) .fresh trace = some stage
  /-- The application was told the replies and what the remote server returned. -/
  told : ∃ replies, stage.Replies replies ∧ toldBytes trace = replies ++ returnedBytes past
  /-- Nothing was returned in front of the tunnel. -/
  early : stage.isTunnel = false → returnedBytes past = []

/-- A session with the configured account and server. -/
structure Account (config : ClientConfig) (session : Session) : Prop where
  /-- The account is the configured one. -/
  account : session.userName = config.userName ∧ session.password = config.password
  /-- The server is the configured one. -/
  server : session.remoteHost = config.remoteAddr ∧ session.remotePort = config.remotePort

/-- What a session holds at a stage. -/
structure Knows (config : ClientConfig) (session : Session) (stage : Stage) : Prop
    extends Account config session where
  /-- The request object holds what was asked for. -/
  target : ∀ front host port, stage.target = some (front, host, port) →
    session.socks5Req.remoteHost = host ∧ session.socks5Req.remotePort = port
  /-- The flag of the response is set for HTTP applications that have asked. -/
  front : session.responseSent = stage.target.any fun target => target.1 = .http
  /-- The message buffer is empty at the start. -/
  message : stage = .fresh → session.messageBuf = []

/-- The operations in flight are those of the stage, one for each direction. An operation in front
of the tunnel keeps both directions busy. -/
structure Waits (session : Session) (stage : Stage) : Prop where
  /-- Only operations of the stage are in flight. -/
  fits : ∀ op ∈ session.pending, stage.awaits op = true
  /-- At most one keeps the direction to the remote server busy. -/
  uplink : session.pending.countP (!isDownlink ·) ≤ 1
  /-- At most one keeps the direction to the application busy. -/
  downlink : session.pending.countP (!isUplink ·) ≤ 1
  /-- In a live session with operations in flight both directions are busy. -/
  both : session.destroyed = false → session.pending ≠ [] →
    session.pending.countP (!isDownlink ·) = 1 ∧ session.pending.countP (!isUplink ·) = 1

/-- A write finds in its buffer what was to be written when it was started. -/
def Unspoiled (session : Session) : Op → Prop
  | .greetingWrite | .httpWrite | .replyWrite | .associateWrite =>
    (localWrites session.trace).getLast? = some session.messageBuf
  | .vRequestWrite => (vRequests session.trace).getLast? = some session.messageBuf
  | .upstreamWrite => ∃ data, (upstreamWrites session.trace).getLast? = some data ∧
    session.inBuf.take data.length = data
  | .localWrite => ∃ data, (localWrites session.trace).getLast? = some data ∧
    session.outBuf.take data.length = data
  | _ => True

/-- A session between two of its handlers. -/
structure Standing (config : ClientConfig) (past : List (Op × Result)) (session : Session)
    (stage : Stage) : Prop where
  /-- What was said leads to the stage. -/
  said : Said config past session.trace stage
  /-- The session holds what it needs at the stage. -/
  knows : Knows config session stage
  /-- It waits for operations of the stage. -/
  waits : Waits session stage
  /-- Writes in flight find their bytes. -/
  unspoiled : ∀ op ∈ session.pending, Unspoiled session op

variable {config : ClientConfig} {world : World} {scope : Scope} {session : Session} {op : Op}
  {result : Result} {past : List (Op × Result)} {stage later : Stage} {effect : Effect}
  {trace : List Effect}

section Account

variable (known : Account config scope.session)
include known

/-- Recording an effect. -/
theorem Account.emit (effect : Effect) : Account config (scope.emit effect).session :=
  ⟨known.account, known.server⟩

/-- Setting the message buffer. -/
theorem Account.setMessage (message : Bytes) : Account config (scope.setMessage message).session :=
  ⟨known.account, known.server⟩

/-- Setting the flag of the response. -/
theorem Account.setResponseSent : Account config scope.setResponseSent.session :=
  ⟨known.account, known.server⟩

/-- Keeping an HTTP request. -/
theorem Account.takeHttpRequest (request : HttpRequest) :
    Account config (scope.takeHttpRequest request).session := ⟨known.account, known.server⟩

end Account

/-- One more effect in front of the tunnel. -/
theorem Said.next (said : Said config past trace stage) (setup : stage.isTunnel = false)
    (turn : Turn config stage effect later) : Said config past (trace ++ [effect]) later := by
  obtain ⟨reached, ⟨replies, given, told⟩, early⟩ := said
  have none := early setup
  rw [none, List.append_nil] at told
  refine ⟨?_, ⟨replies ++ toldBytes [effect], given.next turn setup, ?_⟩, fun _ => none⟩
  · rw [run_append reached]
    exact run_single turn.next
  · rw [toldBytes_append, told, none, List.append_nil]

/-- Completions that return nothing leave the account as it is. -/
theorem Said.completed (said : Said config past trace stage)
    (quiet : returnedBytes [(op, result)] = []) :
    Said config (past ++ [(op, result)]) trace stage := by
  have same : returnedBytes (past ++ [(op, result)]) = returnedBytes past := by
    rw [returnedBytes, List.flatMap_append]
    exact (congrArg _ quiet).trans (List.append_nil _)
  exact ⟨said.reached, by rw [same]; exact said.told, by rw [same]; exact said.early⟩

/-- A session that starts one operation of its stage with nothing else in flight. -/
theorem Standing.start (said : Said config past scope.session.trace stage)
    (knows : Knows config scope.session stage) (idle : scope.session.pending = [])
    (fits : stage.awaits op = true) (both : isUplink op = false ∧ isDownlink op = false)
    (unspoiled : Unspoiled scope.session op) :
    Standing config past (scope.await op).session stage := by
  have only : (scope.await op).session.pending = [op] := by simp [idle]
  refine ⟨said, ⟨⟨knows.account, knows.server⟩, knows.target, knows.front, knows.message⟩, ?_, ?_⟩
  · refine ⟨?_, ?_, ?_, ?_⟩ <;> rw [only]
    · simpa using fits
    · simp [both.2]
    · simp [both.1]
    · simp [both.1, both.2]
  · rw [only]
    intro other member
    rw [List.mem_singleton.mp member]
    cases op <;> exact unspoiled

/-- A session that stops with nothing in flight. -/
theorem Standing.stop (said : Said config past session.trace stage)
    (knows : Knows config session stage) (idle : session.pending = []) :
    Standing config past session stage := by
  refine ⟨said, knows, ?_, ?_⟩
  · refine ⟨?_, ?_, ?_, ?_⟩ <;> simp [idle]
  · simp [idle]

/-- Destroying a session with nothing in flight. -/
theorem Standing.destroy (said : Said config past scope.session.trace stage)
    (knows : Knows config scope.session stage) (idle : scope.session.pending = []) :
    Standing config past scope.destroy.session stage := by
  obtain ⟨dead, relay, same⟩ := Scope.destroy_session scope
  rw [same]
  refine .stop said ?_ idle
  exact ⟨⟨knows.account, knows.server⟩, knows.target, knows.front, knows.message⟩

/-- Both ends of the tunnel are read. -/
theorem Standing.readBoth {front : Front} {host : Bytes} {port : UInt16}
    (said : Said config past scope.session.trace (.tunnel front host port))
    (knows : Knows config scope.session (.tunnel front host port))
    (idle : scope.session.pending = []) :
    Standing config past scope.readBoth.session (.tunnel front host port) := by
  have two : scope.readBoth.session.pending = [.localRead, .upstreamRead] := by
    simp [Scope.readBoth, idle]
  refine ⟨said, ⟨⟨knows.account, knows.server⟩, knows.target, knows.front, knows.message⟩, ?_, ?_⟩
  · refine ⟨?_, ?_, ?_, ?_⟩ <;> rw [two]
    · cases front <;> simp [Stage.awaits, isUplink, isDownlink]
    · simp [isDownlink]
    · simp [isUplink]
    · simp [isUplink, isDownlink]
  · rw [two]
    intro other member
    rcases List.mem_pair.mp member with rfl | rfl <;> trivial

/-- The last write to the application is the one just recorded. -/
theorem localWrites_last (trace : List Effect) (data : Bytes) :
    (localWrites (trace ++ [.toLocal data])).getLast? = some data := by
  simp [localWrites]

/-- The last V request is the one just recorded. -/
theorem vRequests_last (trace : List Effect) (data : Bytes) :
    (vRequests (trace ++ [.vRequest data])).getLast? = some data := by
  simp [vRequests]

/-- Writes of a reply to the application. -/
def isReplyWrite : Op → Bool
  | .greetingWrite | .httpWrite | .replyWrite | .associateWrite => true
  | _ => false

/-- A reply is written to the application from the message buffer. -/
theorem Standing.write (message : Bytes)
    (said : Said config past (scope.session.trace ++ [.toLocal message]) stage)
    (knows : Knows config (scope.setMessage message).session stage)
    (idle : scope.session.pending = []) (fits : stage.awaits op = true)
    (own : isReplyWrite op = true) :
    Standing config past
      (((scope.setMessage message).emit (.toLocal message)).await op).session stage := by
  have last := localWrites_last scope.session.trace message
  have kept : Knows config ((scope.setMessage message).emit (.toLocal message)).session stage :=
    ⟨⟨knows.account, knows.server⟩, knows.target, knows.front, knows.message⟩
  refine .start said kept idle fits ?_ ?_
  · cases op <;> first | exact ⟨rfl, rfl⟩ | cases own
  · cases op <;> first | exact last | cases own

/-- A SOCKS5 reply has ten bytes and begins with its result. -/
theorem isReply_stream (result : UInt8) (address : UInt32) (port : UInt16) :
    isReply result (Reply.stream ⟨0x05, result, 0x00, .v4, address, port⟩ []) = true := by
  refine decide_eq_true ⟨rfl, rfl⟩

/-- The first bytes of the application choose the protocol. -/
theorem standing_onFirstRead (scope : Scope)
    (said : Said config past scope.session.trace .fresh)
    (knows : Knows config scope.session .fresh) (idle : scope.session.pending = [])
    (length : Nat) : ∃ later, Standing config past (scope.onFirstRead length).session later := by
  unfold Scope.onFirstRead
  dsimp only
  split
  · split
    · exact ⟨_, .destroy said knows idle⟩
    · unfold Scope.writeSock5HanshakeReply
      split
      · -- The answer is appended to a buffer that nothing was written to.
        have message : AuthRes.stream ⟨0x05, .noAuthentication⟩ scope.session.messageBuf =
            [0x05, 0x00] := by
          rw [knows.message rfl]
          rfl
        simp only [message]
        refine ⟨.greeted, .write [0x05, 0x00] (said.next rfl .greet) ?_ idle rfl rfl⟩
        exact ⟨⟨knows.account, knows.server⟩, fun _ _ _ none => (by cases none), knows.front,
          fun same => (by cases same)⟩
      · exact ⟨_, .destroy said knows idle⟩
  · split
    · exact ⟨.fresh, .start said knows idle rfl ⟨rfl, rfl⟩ trivial⟩
    · exact ⟨_, .destroy said knows idle⟩

/-- An association is refused. -/
theorem standing_refuse (scope : Scope)
    (said : Said config past scope.session.trace .greeted)
    (knows : Knows config scope.session .greeted) (idle : scope.session.pending = []) :
    ∃ later, Standing config past (scope.refuse world).session later := by
  have refused : Said config past (scope.session.trace ++
      [.toLocal (Reply.stream ⟨0x05, 0x02, 0x00, .v4, 0, 0⟩ [])]) .refused :=
    said.next rfl (.refuse (isReply_stream _ _ _))
  unfold Scope.refuse
  dsimp only
  split
  · refine ⟨.refused, .destroy refused ?_ idle⟩
    exact ⟨⟨knows.account, knows.server⟩, fun _ _ _ none => (by cases none), knows.front,
      fun same => (by cases same)⟩
  · exact ⟨.greeted, .stop said knows idle⟩

/-- The remote server is resolved. -/
theorem standing_doResolve (scope : Scope) {front : Front} {host : Bytes} {port : UInt16}
    (said : Said config past scope.session.trace stage) (setup : stage.isTunnel = false)
    (turn : Turn config stage (.resolve config.remoteAddr config.remotePort)
      (.resolving front host port))
    (knows : Knows config scope.session (.resolving front host port))
    (idle : scope.session.pending = []) :
    Standing config past scope.doResolve.session (.resolving front host port) := by
  have resolving : Said config past (scope.emit (.resolve scope.session.remoteHost
      scope.session.remotePort)).session.trace (.resolving front host port) := by
    rw [knows.server.1, knows.server.2]
    exact said.next setup turn
  refine .start resolving ?_ idle rfl ⟨rfl, rfl⟩ trivial
  exact ⟨⟨knows.account, knows.server⟩, knows.target, knows.front, knows.message⟩

/-- A SOCKS5 request asks for a tunnel or for an association. -/
theorem standing_onRequestRead (scope : Scope)
    (said : Said config past scope.session.trace .greeted)
    (knows : Knows config scope.session .greeted) (idle : scope.session.pending = [])
    (length : Nat) :
    ∃ later, Standing config past (scope.onRequestRead config world length).session later := by
  unfold Scope.onRequestRead
  dsimp only
  generalize scope.session.socks5Req.unsteam scope.session.inBuf length = decoded
  have kept : Knows config (scope.setRequest decoded.2).session .greeted :=
    ⟨⟨knows.account, knows.server⟩, fun _ _ _ none => (by cases none), knows.front,
      fun same => (by cases same)⟩
  split
  · split
    · split
      · unfold Scope.doHandleSocks5UdpAssociate
        split
        · split
          · have shape := isReply_stream 0x00 0x7f000001 world.localPort
            generalize Reply.stream ⟨0x05, 0x00, 0x00, .v4, 0x7f000001, world.localPort⟩ [] =
              message at shape ⊢
            refine ⟨.associated, .write message (said.next rfl (.grant shape)) ?_ idle rfl rfl⟩
            exact ⟨⟨kept.account, kept.server⟩, fun _ _ _ none => (by cases none), kept.front,
              fun same => (by cases same)⟩
          · exact ⟨.greeted, .stop said kept idle⟩
        · exact standing_refuse (scope.setRequest decoded.2) said kept idle
      · exact standing_refuse (scope.setRequest decoded.2) said kept idle
    · have asked : Said config past (scope.session.trace ++
          [.asked decoded.2.remoteHost decoded.2.remotePort])
          (.asked .socks5 decoded.2.remoteHost decoded.2.remotePort) :=
        said.next rfl (.askSocks5 _ _)
      refine ⟨_, standing_doResolve ((scope.setRequest decoded.2).emit (.asked decoded.2.remoteHost
        decoded.2.remotePort)) asked rfl (.resolveSocks5 _ _) ?_ idle⟩
      refine ⟨⟨kept.account, kept.server⟩, ?_, kept.front, fun same => (by cases same)⟩
      rintro front host port ⟨⟩
      exact ⟨rfl, rfl⟩
  · exact ⟨.greeted, .destroy said kept idle⟩

/-- An HTTP request asks for a tunnel and is answered. -/
theorem standing_onHeaderRead (said : Said config past scope.session.trace .fresh)
    (knows : Knows config scope.session .fresh) (idle : scope.session.pending = [])
    (buf : Bytes) : ∃ later, Standing config past (scope.onHeaderRead buf).session later := by
  unfold Scope.onHeaderRead
  split
  · exact ⟨.fresh, .stop said knows idle⟩
  · rename_i decoded _
    split
    · have asked : Said config past (scope.session.trace ++
          [.asked decoded.2.host decoded.2.port]) (.asked .http decoded.2.host decoded.2.port) :=
        said.next rfl (.askHttp _ _)
      have account := ((knows.toAccount.takeHttpRequest decoded.2).emit
        (.asked decoded.2.host decoded.2.port)).setResponseSent.setMessage HttpResponse.ok
      refine ⟨_, .write HttpResponse.ok (asked.next rfl (.answer _ _)) ?_ idle rfl rfl⟩
      refine ⟨account, ?_, rfl, fun same => (by cases same)⟩
      rintro front host port ⟨⟩
      exact ⟨rfl, rfl⟩
    · exact ⟨.fresh, .destroy said knows idle⟩

/-- The V request is sent. -/
theorem standing_doSentVReq {front : Front} {host : Bytes} {port : UInt16}
    (said : Said config past scope.session.trace (.connecting front host port))
    (knows : Knows config scope.session (.connecting front host port))
    (idle : scope.session.pending = []) :
    ∃ later, Standing config past scope.doSentVReq.session later := by
  obtain ⟨sameHost, samePort⟩ := knows.target front host port rfl
  have message : ((Scope.vRequest scope.session).stream []).2 = requestBytes config host port := by
    rw [requestBytes, Scope.vRequest, requestFor, knows.account.1, knows.account.2, sameHost,
      samePort]
  have account := (knows.toAccount.setMessage (requestBytes config host port)).emit
    (.vRequest (requestBytes config host port))
  unfold Scope.doSentVReq
  simp only [message]
  cases front with
  | socks5 =>
    have requested : Said config past (scope.session.trace ++
        [.vRequest (requestBytes config host port)]) (.requested host port) :=
      said.next rfl (.requestSocks5 _ _)
    refine ⟨_, .start requested ?_ idle rfl ⟨rfl, rfl⟩ (vRequests_last _ _)⟩
    exact ⟨account, knows.target, knows.front, fun same => (by cases same)⟩
  | http =>
    have requested : Said config past (scope.session.trace ++
        [.vRequest (requestBytes config host port)]) (.tunnel .http host port) :=
      said.next rfl (.requestHttp _ _)
    refine ⟨_, .start requested ?_ idle rfl ⟨rfl, rfl⟩ (vRequests_last _ _)⟩
    exact ⟨account, knows.target, knows.front, fun same => (by cases same)⟩

/-- The V request was sent, and the tunnel is opened or a SOCKS5 application gets its reply. -/
theorem standing_onVRequestWritten (said : Said config past scope.session.trace stage)
    (knows : Knows config scope.session stage) (idle : scope.session.pending = [])
    (own : stage.awaits .vRequestWrite = true) :
    ∃ later, Standing config past (scope.onVRequestWritten world).session later := by
  have forward : Knows config scope.setForward.session stage :=
    ⟨⟨knows.account, knows.server⟩, knows.target, knows.front, knows.message⟩
  have front := knows.front
  unfold Scope.onVRequestWritten
  dsimp only
  cases stage with
  | requested host port =>
    rw [if_neg (by simp [Scope.setForward, front, Stage.target])]
    unfold Scope.writeSocks5Response
    split
    · refine ⟨_, .write _ (said.next rfl (.reply _ _ (isReply_stream _ _ _))) ?_ idle rfl rfl⟩
      exact ⟨⟨knows.account, knows.server⟩, knows.target, knows.front, fun same => (by cases same)⟩
    · exact ⟨_, .stop said forward idle⟩
  | tunnel shape host port =>
    cases shape with
    | socks5 => cases own
    | http =>
      rw [if_pos (by simp [Scope.setForward, front, Stage.target])]
      exact ⟨_, .readBoth said forward idle⟩
  | _ => cases own

/-- Nothing keeps neither direction busy. -/
theorem busy_somewhere (op : Op) : isUplink op = false ∨ isDownlink op = false := by
  cases op <;> simp [isUplink, isDownlink]

/-- An operation that keeps both directions busy is alone. -/
theorem Waits.alone (waits : Waits session stage) (member : op ∈ session.pending)
    (both : isUplink op = false ∧ isDownlink op = false) : session.pending.erase op = [] := by
  have up : (session.pending.erase op).countP (!isDownlink ·) = 0 := by
    have most := waits.uplink
    rw [List.countP_erase, if_pos ⟨member, by simp [both.2]⟩]
    omega
  have down : (session.pending.erase op).countP (!isUplink ·) = 0 := by
    have most := waits.downlink
    rw [List.countP_erase, if_pos ⟨member, by simp [both.1]⟩]
    omega
  refine List.eq_nil_iff_forall_not_mem.mpr fun other left => ?_
  rcases busy_somewhere other with free | free
  · exact absurd (by simp [free]) (List.countP_eq_zero.mp down other left)
  · exact absurd (by simp [free]) (List.countP_eq_zero.mp up other left)

/-- One operation gives way to another that is counted alike. -/
theorem countP_replace {counts : Op → Bool} {pending : List Op} {next : Op}
    (member : op ∈ pending) (alike : counts next = counts op) :
    (pending.erase op ++ [next]).countP counts = pending.countP counts := by
  rw [List.countP_append, List.countP_erase, List.countP_singleton, alike]
  by_cases counted : counts op = true
  · have positive : 0 < pending.countP counts := List.countP_pos_iff.mpr ⟨op, member, counted⟩
    rw [if_pos ⟨member, counted⟩, if_pos counted]
    omega
  · rw [if_neg fun both => counted both.2, if_neg counted]
    omega

/-- An operation of the tunnel gives way to the next one of its direction. -/
theorem Waits.replace (waits : Waits session stage) {next : Op} {after : Session}
    (member : op ∈ session.pending) (fits : stage.awaits next = true)
    (alike : isUplink next = isUplink op ∧ isDownlink next = isDownlink op)
    (pending : after.pending = session.pending.erase op ++ [next])
    (destroyed : after.destroyed = session.destroyed) : Waits after stage := by
  have up : after.pending.countP (!isDownlink ·) = session.pending.countP (!isDownlink ·) := by
    rw [pending]
    exact countP_replace member (by rw [alike.2])
  have down : after.pending.countP (!isUplink ·) = session.pending.countP (!isUplink ·) := by
    rw [pending]
    exact countP_replace member (by rw [alike.1])
  refine ⟨?_, ?_, ?_, ?_⟩
  · rw [pending]
    intro other among
    rcases List.mem_append.mp among with old | new
    · exact waits.fits other (List.mem_of_mem_erase old)
    · rwa [List.mem_singleton.mp new]
  · rw [up]
    exact waits.uplink
  · rw [down]
    exact waits.downlink
  · intro alive _
    rw [up, down]
    exact waits.both (destroyed ▸ alive) (List.ne_nil_of_mem member)

/-- What is in flight beside an operation of the tunnel belongs to the other direction. -/
theorem Waits.other (waits : Waits session stage) (member : op ∈ session.pending) {left : Op}
    (among : left ∈ session.pending.erase op) :
    (isDownlink op = false → isDownlink left = true) ∧
      (isUplink op = false → isUplink left = true) := by
  refine ⟨fun counted => ?_, fun counted => ?_⟩
  · have most := waits.uplink
    have none : (session.pending.erase op).countP (!isDownlink ·) = 0 := by
      rw [List.countP_erase, if_pos ⟨member, by simp [counted]⟩]
      omega
    simpa using List.countP_eq_zero.mp none left among
  · have most := waits.downlink
    have none : (session.pending.erase op).countP (!isUplink ·) = 0 := by
      rw [List.countP_erase, if_pos ⟨member, by simp [counted]⟩]
      omega
    simpa using List.countP_eq_zero.mp none left among

/-- Only a tunnel waits for its operations. -/
theorem Stage.tunnel_of_awaits (fits : stage.awaits op = true)
    (own : isUplink op = true ∨ isDownlink op = true) :
    ∃ front host port, stage = .tunnel front host port := by
  cases stage with
  | tunnel front host port => exact ⟨front, host, port, rfl⟩
  | _ => cases op <;> simp_all [Stage.awaits, isUplink, isDownlink]

/-- The stages at which an operation in front of the tunnel is in flight. -/
def Starts : Op → Stage → Prop
  | .firstRead, stage | .headerRead _, stage => stage = .fresh
  | .greetingWrite, stage | .requestRead, stage => stage = .greeted
  | .httpWrite, stage => ∃ host port, stage = .answered host port
  | .resolve, stage => ∃ front host port, stage = .resolving front host port
  | .connect, stage | .tlsHandshake, stage | .wsHandshake, stage =>
    ∃ front host port, stage = .connecting front host port
  | .replyWrite, stage => ∃ host port, stage = .tunnel .socks5 host port
  | .associateWrite, stage | .controlRead, stage => stage = .associated
  | _, _ => True

/-- An operation in front of the tunnel tells the stage. -/
theorem Stage.of_awaits (fits : stage.awaits op = true) : Starts op stage := by
  cases stage with
  | tunnel front => cases front <;> cases op <;> first | trivial | (cases fits; simp [Starts])
  | _ => cases op <;> first | trivial | (cases fits; simp [Starts])

/-- A failed operation destroys the session. -/
theorem Standing.fail (standing : Standing config past session stage) (server : Client.Server)
    (op : Op) :
    Standing config past (Scope.complete ⟨server, session⟩ op).destroy.session stage := by
  have dead : (Scope.complete ⟨server, session⟩ op).destroy.session.destroyed = true := by
    unfold Scope.destroy
    split
    · assumption
    · unfold Scope.unregister
      dsimp only
      split <;> rfl
  obtain ⟨flag, relay, same⟩ := Scope.destroy_session (Scope.complete ⟨server, session⟩ op)
  obtain ⟨said, knows, waits, unspoiled⟩ := standing
  have fewer (counts : Op → Bool) :
      (session.pending.erase op).countP counts ≤ session.pending.countP counts :=
    List.Sublist.countP_le List.erase_sublist
  rw [same] at dead ⊢
  refine ⟨said, ?_, ?_, ?_⟩
  · exact ⟨⟨knows.account, knows.server⟩, knows.target, knows.front, knows.message⟩
  · refine ⟨fun other left => waits.fits other (List.mem_of_mem_erase left),
      (fewer _).trans waits.uplink, (fewer _).trans waits.downlink, fun alive => ?_⟩
    rw [dead] at alive
    cases alive
  · intro other left
    have before := unspoiled other (List.mem_of_mem_erase left)
    cases other <;> exact before

/-- An operation of the tunnel completes and the next one of its direction is started. -/
theorem Standing.carry {more : List (Op × Result)} (inBuf outBuf : Bytes) (trace : List Effect)
    (standing : Standing config past session stage) (member : op ∈ session.pending) (next : Op)
    (fits : stage.awaits next = true)
    (alike : isUplink next = isUplink op ∧ isDownlink next = isDownlink op)
    (said : Said config more trace stage)
    (kept : ∀ left ∈ session.pending.erase op, Unspoiled session left →
      Unspoiled { session with inBuf, outBuf, trace } left)
    (fresh : Unspoiled { session with inBuf, outBuf, trace } next) :
    Standing config more
      { session with inBuf, outBuf, trace, pending := session.pending.erase op ++ [next] }
      stage := by
  obtain ⟨⟨account, server⟩, target, front, message⟩ := standing.knows
  refine ⟨said, ⟨⟨account, server⟩, target, front, message⟩,
    standing.waits.replace member fits alike rfl rfl, ?_⟩
  intro other among
  have holds : Unspoiled { session with inBuf, outBuf, trace } other := by
    rcases List.mem_append.mp among with old | new
    · exact kept other old (standing.unspoiled other (List.mem_of_mem_erase old))
    · rwa [List.mem_singleton.mp new]
  cases other <;> exact holds

/-- Bytes forwarded say nothing to the application. -/
theorem Said.forward {front : Front} {host : Bytes} {port : UInt16}
    (said : Said config past trace (.tunnel front host port)) (data : Bytes) :
    Said config past (trace ++ [.toUpstream data]) (.tunnel front host port) := by
  obtain ⟨reached, ⟨replies, given, told⟩, early⟩ := said
  refine ⟨?_, ⟨replies, given, ?_⟩, early⟩
  · rw [run_append reached]
    exact run_single rfl
  · rw [toldBytes_append, told]
    exact List.append_nil _

/-- Bytes returned are told to the application. -/
theorem Said.back {front : Front} {host : Bytes} {port : UInt16}
    (said : Said config past trace (.tunnel front host port)) (data : Bytes) :
    Said config (past ++ [(.upstreamRead, .read data)]) (trace ++ [.toLocal data])
      (.tunnel front host port) := by
  obtain ⟨reached, ⟨replies, given, told⟩, -⟩ := said
  refine ⟨?_, ⟨replies, given, ?_⟩, fun setup => by cases setup⟩
  · rw [run_append reached]
    exact run_single rfl
  · have more : returnedBytes (past ++ [(.upstreamRead, .read data)]) =
        returnedBytes past ++ data := by
      simp [returnedBytes]
    rw [toldBytes_append, told, more, List.append_assoc]
    simp [toldBytes]

/-- **One completion in the tunnel** keeps the conversation at its stage. -/
theorem Standing.tunnel {server : Client.Server} {front : Front} {host : Bytes} {port : UInt16}
    (standing : Standing config past session (.tunnel front host port))
    (member : op ∈ session.pending) (own : isUplink op = true ∨ isDownlink op = true)
    (admitted : op.admits result = true) :
    Standing config (past ++ [(op, result)])
      ((Scope.complete ⟨server, session⟩ op).handle config world op result).session
      (.tunnel front host port) := by
  have awaits {next : Op} (lane : isUplink next = true ∨ isDownlink next = true) :
      Stage.awaits (.tunnel front host port) next = true := by
    cases front <;> cases next <;> simp_all [Stage.awaits, isUplink, isDownlink]
  cases result with
  | failed =>
    rw [Scope.handle_failed]
    have quiet : returnedBytes [(op, Result.failed)] = [] := by cases op <;> rfl
    have failed := standing.fail server op
    exact ⟨failed.said.completed quiet, failed.knows, failed.waits, failed.unspoiled⟩
  | done =>
    cases op with
    | upstreamWrite =>
      have said : Said config (past ++ [(.upstreamWrite, .done)]) session.trace
          (.tunnel front host port) := standing.said.completed rfl
      exact standing.carry _ _ _ member .localRead (awaits (.inl rfl)) ⟨rfl, rfl⟩ said
        (fun _ _ before => before) trivial
    | localWrite =>
      have said : Said config (past ++ [(.localWrite, .done)]) session.trace
          (.tunnel front host port) := standing.said.completed rfl
      exact standing.carry _ _ _ member .upstreamRead (awaits (.inr rfl)) ⟨rfl, rfl⟩ said
        (fun _ _ before => before) trivial
    | _ => rcases own with up | down <;> contradiction
  | read data =>
    cases op with
    | localRead =>
      have taken : (data ++ session.inBuf.drop data.length).take data.length = data := by simp
      have past : Said config (past ++ [(.localRead, .read data)]) session.trace
          (.tunnel front host port) := standing.said.completed rfl
      have said := past.forward ((data ++ session.inBuf.drop data.length).take data.length)
      refine standing.carry (data ++ session.inBuf.drop data.length) session.outBuf
        (session.trace ++
          [.toUpstream ((data ++ session.inBuf.drop data.length).take data.length)])
        member .upstreamWrite (awaits (.inl rfl)) ⟨rfl, rfl⟩ said ?_ ?_
      · intro left among before
        have lies := (standing.waits.other member among).1 rfl
        cases left with
        | upstreamRead => trivial
        | localWrite =>
          obtain ⟨bytes, last, held⟩ := before
          refine ⟨bytes, ?_, held⟩
          dsimp only
          rw [localWrites, List.filterMap_append]
          exact (congrArg _ (List.append_nil _)).trans last
        | _ => cases lies
      · refine ⟨data, ?_, taken⟩
        dsimp only
        rw [taken]
        simp [upstreamWrites]
    | upstreamRead =>
      have taken : (data ++ session.outBuf.drop data.length).take data.length = data := by simp
      have said : Said config (past ++ [(.upstreamRead, .read data)]) (session.trace ++
          [.toLocal ((data ++ session.outBuf.drop data.length).take data.length)])
          (.tunnel front host port) := by
        rw [taken]
        exact standing.said.back data
      refine standing.carry session.inBuf (data ++ session.outBuf.drop data.length)
        (session.trace ++ [.toLocal ((data ++ session.outBuf.drop data.length).take data.length)])
        member .localWrite (awaits (.inr rfl)) ⟨rfl, rfl⟩ said ?_ ?_
      · intro left among before
        have lies := (standing.waits.other member among).2 rfl
        cases left with
        | localRead => trivial
        | upstreamWrite =>
          obtain ⟨bytes, last, held⟩ := before
          refine ⟨bytes, ?_, held⟩
          dsimp only
          rw [upstreamWrites, List.filterMap_append]
          exact (congrArg _ (List.append_nil _)).trans last
        | _ => cases lies
      · refine ⟨data, ?_, taken⟩
        dsimp only
        rw [taken]
        exact localWrites_last _ _
    | _ => rcases own with up | down <;> contradiction
  | resolved results =>
    cases op with
    | _ => rcases own with up | down <;> contradiction

/-- **One completion in front of the tunnel** leads to one of the stages. -/
theorem Standing.setup {server : Client.Server} (standing : Standing config past session stage)
    (member : op ∈ session.pending) (both : isUplink op = false ∧ isDownlink op = false)
    (admitted : op.admits result = true) :
    ∃ later, Standing config (past ++ [(op, result)])
      ((Scope.complete ⟨server, session⟩ op).handle config world op result).session later := by
  have fits := standing.waits.fits op member
  have idle : (Scope.complete ⟨server, session⟩ op).session.pending = [] :=
    standing.waits.alone member both
  have quiet : returnedBytes [(op, result)] = [] := by
    cases op <;> first | rfl | cases both.2
  have said : Said config (past ++ [(op, result)])
      (Scope.complete ⟨server, session⟩ op).session.trace
      stage := standing.said.completed quiet
  have knows : Knows config (Scope.complete ⟨server, session⟩ op).session stage :=
    ⟨⟨standing.knows.account, standing.knows.server⟩, standing.knows.target, standing.knows.front,
      standing.knows.message⟩
  generalize Scope.complete ⟨server, session⟩ op = scope at idle said knows ⊢
  cases result with
  | failed =>
    rw [Scope.handle_failed]
    exact ⟨stage, .destroy said knows idle⟩
  | done =>
    cases op with
    | greetingWrite =>
      obtain rfl : stage = .greeted := Stage.of_awaits fits
      change ∃ later, Standing config _ scope.onGreetingWritten.session later
      unfold Scope.onGreetingWritten
      split
      · exact ⟨_, .destroy said knows idle⟩
      · exact ⟨_, .start said knows idle rfl ⟨rfl, rfl⟩ trivial⟩
    | httpWrite =>
      obtain ⟨host, port, rfl⟩ := Stage.of_awaits fits
      refine ⟨_, standing_doResolve scope said rfl (.resolveHttp host port) ?_ idle⟩
      exact ⟨⟨knows.account, knows.server⟩, knows.target, knows.front, fun same => (by cases same)⟩
    | connect =>
      obtain ⟨front, host, port, rfl⟩ := Stage.of_awaits fits
      change ∃ later, Standing config _ (scope.onConnected world).session later
      unfold Scope.onConnected
      split
      · exact ⟨_, .start said knows idle rfl ⟨rfl, rfl⟩ trivial⟩
      · exact ⟨_, .stop said knows idle⟩
    | tlsHandshake =>
      obtain ⟨front, host, port, rfl⟩ := Stage.of_awaits fits
      change ∃ later, Standing config _ scope.afterSslHandshake.session later
      unfold Scope.afterSslHandshake
      split
      · exact standing_doSentVReq said knows idle
      · exact ⟨_, .start said knows idle rfl ⟨rfl, rfl⟩ trivial⟩
    | wsHandshake =>
      obtain ⟨front, host, port, rfl⟩ := Stage.of_awaits fits
      exact standing_doSentVReq said knows idle
    | vRequestWrite => exact standing_onVRequestWritten said knows idle fits
    | replyWrite =>
      obtain ⟨host, port, rfl⟩ := Stage.of_awaits fits
      refine ⟨_, .readBoth said ?_ idle⟩
      exact ⟨⟨knows.account, knows.server⟩, knows.target, knows.front, knows.message⟩
    | associateWrite =>
      obtain rfl : stage = .associated := Stage.of_awaits fits
      exact ⟨_, .start said knows idle rfl ⟨rfl, rfl⟩ trivial⟩
    | upstreamWrite => cases both.1
    | localWrite => cases both.2
    | _ => cases admitted
  | read data =>
    have filled : Knows config (scope.fillIn data).session stage :=
      ⟨⟨knows.account, knows.server⟩, knows.target, knows.front, knows.message⟩
    cases op with
    | firstRead =>
      obtain rfl : stage = .fresh := Stage.of_awaits fits
      exact standing_onFirstRead (scope.fillIn data) said filled idle _
    | requestRead =>
      obtain rfl : stage = .greeted := Stage.of_awaits fits
      exact standing_onRequestRead (scope.fillIn data) said filled idle _
    | headerRead initial =>
      obtain rfl : stage = .fresh := Stage.of_awaits fits
      exact standing_onHeaderRead said knows idle _
    | controlRead =>
      obtain rfl : stage = .associated := Stage.of_awaits fits
      exact ⟨_, .start said knows idle rfl ⟨rfl, rfl⟩ trivial⟩
    | localRead => cases both.1
    | upstreamRead => cases both.2
    | _ => cases admitted
  | resolved results =>
    cases op with
    | resolve =>
      obtain ⟨front, host, port, rfl⟩ := Stage.of_awaits fits
      change ∃ later, Standing config _ (scope.onResolved results).session later
      unfold Scope.onResolved
      split
      · exact ⟨_, .destroy said knows idle⟩
      · rename_i endpoint _
        refine ⟨.connecting front host port, .start (said.next rfl (.connect _ _ _ endpoint))
          ?_ idle rfl ⟨rfl, rfl⟩ trivial⟩
        exact ⟨⟨knows.account, knows.server⟩, knows.target, knows.front,
          fun same => (by cases same)⟩
    | _ => cases admitted

/-- **One completion** keeps a session in its conversation. -/
theorem Standing.handle {server : Client.Server} (standing : Standing config past session stage)
    (member : op ∈ session.pending) (admitted : op.admits result = true) :
    ∃ later, Standing config (past ++ [(op, result)])
      ((Scope.complete ⟨server, session⟩ op).handle config world op result).session later := by
  by_cases lane : isUplink op = true ∨ isDownlink op = true
  · obtain ⟨front, host, port, rfl⟩ :=
      Stage.tunnel_of_awaits (standing.waits.fits op member) lane
    exact ⟨_, standing.tunnel member lane admitted⟩
  · have both : isUplink op = false ∧ isDownlink op = false := by simpa using lane
    exact standing.setup member both admitted

/-- A session stands at one of the stages. -/
def Conversing (config : ClientConfig) (past : List (Op × Result)) (session : Session) : Prop :=
  ∃ stage, Standing config past session stage

/-- Every session of every run stands at a stage of its conversation. -/
theorem run_conversing {ssl : Bool} {events : List Event} {client : Process} {number : Nat}
    (ran : run (Process.step config) (Process.start config ssl) events = some client)
    (found : client.sessions[number]? = some session) :
    Conversing config (completions number events) session := by
  refine session_history ?_ ?_ ?_ ran found
  · intro server number world
    have said : Said config [] [] .fresh := ⟨rfl, ⟨[], rfl, rfl⟩, fun _ => rfl⟩
    have knows : Knows config (Session.accepted config number) .fresh :=
      ⟨⟨⟨rfl, rfl⟩, ⟨rfl, rfl⟩⟩, fun _ _ _ none => (by cases none), rfl, fun _ => rfl⟩
    unfold Scope.start
    split
    · refine ⟨.fresh, .start ?_ ?_ rfl rfl ⟨rfl, rfl⟩ trivial⟩
      · exact said
      · exact knows
    · exact ⟨.fresh, .stop said knows rfl⟩
  · rintro past server session op result world ⟨stage, standing⟩ member admitted
    exact standing.handle member admitted
  · rintro past session relay ⟨stage, said, knows, waits, unspoiled⟩
    refine ⟨stage, said, ?_, ?_, ?_⟩
    · exact ⟨⟨knows.account, knows.server⟩, knows.target, knows.front, knows.message⟩
    · exact ⟨waits.fits, waits.uplink, waits.downlink, waits.both⟩
    · intro op member
      have before := unspoiled op member
      cases op <;> exact before

end Sessions

/-- An application asks over SOCKS5 for port 80 of 127.0.0.1, sends three bytes through the tunnel
and gets one back; both writes are in flight. -/
def sampleEvents : List Event :=
  [.accept {}, .completed 0 .firstRead (.read [5, 1, 0]) {}, .completed 0 .greetingWrite .done {},
    .completed 0 .requestRead (.read [5, 1, 0, 1, 127, 0, 0, 1, 0, 80]) {},
    .completed 0 .resolve (.resolved [⟨.ofWord 0x01020304, 443⟩]) {},
    .completed 0 .connect .done {}, .completed 0 .tlsHandshake .done {},
    .completed 0 .vRequestWrite .done { remoteEndpoint := some ⟨.ofWord 0x01020304, 443⟩ },
    .completed 0 .replyWrite .done {}, .completed 0 .localRead (.read [1, 2, 3]) {},
    .completed 0 .upstreamRead (.read [9]) {}]

/-- Both writes of the sample session are in flight. -/
theorem sample_runs : ∃ client session,
    run (Process.step {}) (Process.start {} true) sampleEvents = some client ∧
      client.sessions[0]? = some session ∧ session.pending = [.upstreamWrite, .localWrite] := by
  have checked : (run (Process.step {}) (Process.start {} true) sampleEvents).any
      (fun client => decide (client.sessions[0]?.map (·.pending) =
        some [.upstreamWrite, .localWrite])) = true := by
    decide +kernel
  obtain ⟨client, ran, good⟩ := exists_of_run checked
  obtain ⟨session, found, pending⟩ := Option.map_eq_some_iff.mp (of_decide_eq_true good)
  exact ⟨client, session, ran, found, pending⟩

/-- **Every session keeps to its protocol.** In every run of the client, what a session has done so
far is a conversation that leads to some stage. It waits only for operations of that stage, never
for two that keep the same direction busy, and while it is live and waits for anything, both
directions are busy. -/
theorem session_conforms (config : ClientConfig) (ssl : Bool) (events : List Event)
    (client : Process) (number : Nat) (session : Session)
    (ran : run (Process.step config) (Process.start config ssl) events = some client)
    (found : client.sessions[number]? = some session) :
    ∃ stage, run (Stage.next config) .fresh session.trace = some stage ∧ Waits session stage := by
  obtain ⟨stage, standing⟩ := run_conversing ran found
  exact ⟨stage, standing.said.reached, standing.waits⟩

/-- The sample session is in its tunnel. -/
theorem session_conforms_sample : ∃ client session,
    run (Process.step {}) (Process.start {} true) sampleEvents = some client ∧
      client.sessions[0]? = some session ∧ session.pending = [.upstreamWrite, .localWrite] ∧
      ∃ stage, run (Stage.next {}) .fresh session.trace = some stage ∧ Waits session stage := by
  obtain ⟨client, session, ran, found, pending⟩ := sample_runs
  exact ⟨client, session, ran, found, pending, session_conforms _ _ _ _ _ _ ran found⟩

/-- **No write is overtaken.** In every run of the client, the buffer of every write in flight
still holds the bytes that were in it when the write was started. -/
theorem writes_unspoiled (config : ClientConfig) (ssl : Bool) (events : List Event)
    (client : Process) (number : Nat) (session : Session)
    (ran : run (Process.step config) (Process.start config ssl) events = some client)
    (found : client.sessions[number]? = some session) :
    ∀ op ∈ session.pending, Unspoiled session op := by
  obtain ⟨stage, standing⟩ := run_conversing ran found
  exact standing.unspoiled

/-- Both writes of the sample session find their bytes. -/
theorem writes_unspoiled_sample : ∃ client session,
    run (Process.step {}) (Process.start {} true) sampleEvents = some client ∧
      client.sessions[0]? = some session ∧ session.pending = [.upstreamWrite, .localWrite] ∧
      ∀ op ∈ session.pending, Unspoiled session op := by
  obtain ⟨client, session, ran, found, pending⟩ := sample_runs
  exact ⟨client, session, ran, found, pending, writes_unspoiled _ _ _ _ _ _ ran found⟩

/-- What a session has written to both sides, given the completions of its operations. -/
structure Transparent (config : ClientConfig) (past : List (Op × Result)) (session : Session)
    (stage : Stage) : Prop where
  /-- What was asked for is what the stage is for. -/
  asked : askedFor session.trace = stage.target.toList.map fun target => target.2
  /-- The remote server gets the V request and then the bytes of the application. -/
  uplink : wireBytes session.trace = match stage.target with
    | some (_, host, port) =>
      if stage.isSent then requestBytes config host port ++ tunnelBytes past else []
    | none => []
  /-- The application gets its replies and then the bytes of the remote server. -/
  downlink : ∃ replies, stage.Replies replies ∧
    toldBytes session.trace = replies ++ returnedBytes past

/-- What a session writes is determined by what it reads. -/
theorem run_transparent {config : ClientConfig} {ssl : Bool} {events : List Event}
    {client : Process} {number : Nat} {session : Session}
    (ran : run (Process.step config) (Process.start config ssl) events = some client)
    (found : client.sessions[number]? = some session) :
    ∃ stage, Standing config (completions number events) session stage ∧
      Transparent config (completions number events) session stage := by
  obtain ⟨stage, standing⟩ := run_conversing ran found
  have written := written_of_run standing.said.reached
  have forwarded := (run_carried ran found).forwarded
  refine ⟨stage, standing, written.asked, ?_, standing.said.told⟩
  rw [written.wire, forwarded]

/-- **A session adds the handshakes and nothing else.** In every run of the client, a session has
written to the remote server one V request for what its application asked for, followed by exactly
the bytes it has read from the application in the tunnel, and to the application the replies of
its protocol, followed by exactly the bytes it has read from the remote server. -/
theorem session_transparent (config : ClientConfig) (ssl : Bool) (events : List Event)
    (client : Process) (number : Nat) (session : Session)
    (ran : run (Process.step config) (Process.start config ssl) events = some client)
    (found : client.sessions[number]? = some session) :
    ∃ stage, run (Stage.next config) .fresh session.trace = some stage ∧
      Transparent config (completions number events) session stage := by
  obtain ⟨stage, standing, transparent⟩ := run_transparent ran found
  exact ⟨stage, standing.said.reached, transparent⟩

/-- The sample session has forwarded three bytes and returned one. -/
theorem session_transparent_sample : ∃ client session,
    run (Process.step {}) (Process.start {} true) sampleEvents = some client ∧
      client.sessions[0]? = some session ∧
      tunnelBytes (completions 0 sampleEvents) = [1, 2, 3] ∧
      returnedBytes (completions 0 sampleEvents) = [9] ∧
      ∃ stage, run (Stage.next {}) .fresh session.trace = some stage ∧
        Transparent {} (completions 0 sampleEvents) session stage := by
  obtain ⟨client, session, ran, found, -⟩ := sample_runs
  exact ⟨client, session, ran, found, rfl, rfl, session_transparent _ _ _ _ _ _ ran found⟩

end Overplus.Verif.Conversation
