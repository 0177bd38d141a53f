import Overplus.Client.SessionSteps
import Overplus.Verif.Socks5Codec

/-!
# SOCKS5 negotiation and how it is cut into reads

The session decodes the greeting from its whole buffer after one read, and the request from the
next read. A greeting that comes in two reads is therefore decoded with zeros for the methods
still to come, and its second part is taken for the request. A greeting with 255 methods is
answered and then dropped. Which cuts are harmless is exactly what is proved here.
-/
namespace Overplus.Verif.Socks5Negotiation

open Client Socks5Codec

/-- A greeting that offers methods. -/
def greeting (methods : Bytes) : Bytes := [5, UInt8.ofNat methods.length] ++ methods

/-- A message arrives in these reads. -/
def Cut (message : Bytes) (reads : List Bytes) : Prop :=
  reads.flatten = message ∧ ∀ chunk ∈ reads, chunk ≠ []

/-- A new session reads the bytes and writes its answer. -/
def greetingEvents (number : Nat) (first : Bytes) : List Event :=
  [.accept {}, .completed number .firstRead (.read first) {},
    .completed number .greetingWrite .done {}]

/-- A new session that reads the bytes first answers `05 00` and waits for the request. -/
def GoesOn (config : ClientConfig) (client : Process) (first : Bytes) : Prop :=
  ∃ next session, run (Process.step config) client (greetingEvents client.sessions.length first) =
      some next ∧
    next.sessions[client.sessions.length]? = some session ∧
    session.trace = [.toLocal [5, 0]] ∧ .requestRead ∈ session.pending

/-- Command, host and port of a session that has done something about a request, which it has if
it decoded one. -/
def served (session : Session) : Option (UInt8 × Bytes × UInt16) :=
  if session.trace = [.toLocal [5, 0]] then none
  else some (session.socks5Req.cmd, session.socks5Req.remoteHost, session.socks5Req.remotePort)

/-- What a new session decodes from its second read behind its first. -/
def decoded (config : ClientConfig) (client : Process) (first second : Bytes) :
    Option (UInt8 × Bytes × UInt16) :=
  (run (Process.step config) client (greetingEvents client.sessions.length first ++
    [.completed client.sessions.length .requestRead (.read second) {}])).bind fun next =>
      (next.sessions[client.sessions.length]?).bind served

/-- The negotiation as it should be: the session goes on to the request exactly when the greeting
offers no authentication, and then decodes what it would decode from single reads. -/
def Negotiates (config : ClientConfig) (client : Process) (methods : Bytes)
    (request : SocksRequest) (reads : List Bytes) : Prop :=
  ∃ first second rest, reads = first :: second :: rest ∧
    (GoesOn config client first ↔ 0 ∈ methods) ∧
    (GoesOn config client first →
      decoded config client first second =
        decoded config client (greeting methods) request.bytes)

/-- The bytes of a message ask for what a request asks for: for the same command, host and port,
or, where the decoder does not support the request's address, for nothing it supports. -/
def AsksAlike (request : SocksRequest) (message : Bytes) : Prop :=
  match hostText request.address with
  | some host => ∃ asked, Asks message asked host ∧ asked.cmd = request.cmd ∧
      asked.port = request.port
  | none => ∀ asked host, ¬ Asks message asked host

/-- Reads that do no harm. If the greeting does not offer the method, it has 255 methods, or its
first read is one byte or all of it. If it does, it has fewer methods, its first read is more
than one byte, and the bytes of the next read ask for what the request asks for. -/
def Harmless (methods : Bytes) (request : SocksRequest) (reads : List Bytes) : Prop :=
  ∃ first second rest, reads = first :: second :: rest ∧
    ((0 ∉ methods ∧ (methods.length = 255 ∨ first.length = 1 ∨ first = greeting methods)) ∨
      (0 ∈ methods ∧ methods.length ≠ 255 ∧ first.length ≠ 1 ∧
        AsksAlike request second))

variable {config : ClientConfig} {client : Process} {first second methods : Bytes}

section Decoder

/-- What the decoder makes of a message. -/
def decodes (message : Bytes) : Option (UInt8 × Bytes × UInt16) :=
  let result := ({} : Request).unsteam message message.length
  if result.1 then some (result.2.cmd, result.2.remoteHost, result.2.remotePort) else none

/-- A message that asks for a host is decoded to what it asks for. -/
theorem decodes_of_asks {message host : Bytes} {asked : SocksRequest}
    (asks : Asks message asked host) : decodes message = some (asked.cmd, host, asked.port) := by
  obtain ⟨accepted, cmd, text, port⟩ := unsteam_bytes {} asks
  unfold decodes
  dsimp only
  rw [if_pos accepted, cmd, text, port]

/-- Only messages that ask for a host are decoded. -/
theorem decodes_eq_none {message : Bytes} :
    decodes message = none ↔ ∀ asked host, ¬ Asks message asked host := by
  constructor
  · intro refused asked host asks
    rw [decodes_of_asks asks] at refused
    cases refused
  · intro nothing
    unfold decodes
    apply if_neg
    intro accepted
    obtain ⟨asked, host, asks⟩ := asks_of_unsteam accepted
    exact nothing asked host asks

/-- A request for an address the decoder does not support is no request it supports. -/
theorem not_asks_of_unsupported {request asked : SocksRequest} {host : Bytes}
    (unsupported : hostText request.address = none) : ¬ Asks request.bytes asked host := by
  rintro ⟨layout, text⟩
  obtain ⟨cmd, address, port⟩ := request
  obtain ⟨other, supported, number⟩ := asked
  -- The fourth byte is the address type, and an IPv6 address has one of its own.
  have kind := congrArg (List.getD · 3 0) layout
  cases address with
  | v4 octets => cases unsupported
  | domain name short => cases unsupported
  | v6 octets =>
    cases supported with
    | v4 octets => cases kind
    | domain name short => cases kind
    | v6 octets => cases text

/-- **What is decoded alike.** A message is decoded like a request exactly when its bytes ask for
what the request asks for. -/
theorem decodes_eq_iff {request : SocksRequest} {message : Bytes} :
    decodes message = decodes request.bytes ↔ AsksAlike request message := by
  unfold AsksAlike
  cases text : hostText request.address with
  | none =>
    rw [decodes_eq_none.mpr fun _ _ => not_asks_of_unsupported text]
    exact decodes_eq_none
  | some host =>
    rw [decodes_of_asks (⟨rfl, text⟩ : Asks request.bytes request host)]
    constructor
    · intro alike
      have some : ¬ ∀ asked host, ¬ Asks message asked host := by
        intro nothing
        rw [decodes_eq_none.mpr nothing] at alike
        cases alike
      push Not at some
      obtain ⟨asked, other, asks⟩ := some
      rw [decodes_of_asks asks] at alike
      obtain ⟨cmd, rest⟩ := Prod.mk.inj (Option.some.inj alike)
      obtain ⟨rfl, port⟩ := Prod.mk.inj rest
      exact ⟨asked, asks, cmd, port⟩
    · rintro ⟨asked, asks, cmd, port⟩
      rw [decodes_of_asks asks, cmd, port]

end Decoder

section Buffer

/-- `in_buf` of a new session behind its first read. -/
def buffer (first : Bytes) : Bytes := first ++ (List.replicate maxBuffSize 0).drop first.length

/-- Behind the first read the buffer is zero. -/
theorem buffer_getD (index : Nat) : (buffer first).getD index 0 = first.getD index 0 := by
  unfold buffer
  rcases Nat.lt_or_ge index first.length with inside | outside
  · exact List.getD_append _ _ _ _ inside
  · rw [List.getD_append_right _ _ _ _ outside, List.drop_replicate,
      List.getD_eq_default first _ outside]
    generalize maxBuffSize - first.length = count
    rcases Nat.lt_or_ge (index - first.length) count with left | beyond
    · exact List.getD_replicate _ left
    · exact List.getD_eq_default _ _ (by rwa [List.length_replicate])

/-- The first read offers no authentication, as far as the decoder can see. -/
def Offers (first : Bytes) : Prop :=
  ∃ index < (first.getD 1 0).toNat, first.getD (2 + index) 0 = 0

/-- Zero is the byte of no authentication. -/
theorem ofByte_eq_noAuthentication {octet : UInt8} :
    AuthMethod.ofByte octet = .noAuthentication ↔ octet = 0 := by
  unfold AuthMethod.ofByte
  constructor
  · intro same
    by_contra other
    rw [if_neg other] at same
    split at same
    · cases same
    · split at same
      · cases same
      · split at same
        · cases same
        · split at same <;> cases same
  · intro zero
    rw [if_pos zero]

/-- The decoder finds the method in the buffer. -/
theorem mem_methods : .noAuthentication ∈ ((List.range ((buffer first).getD 1 0).toNat).map
    fun index => AuthMethod.ofByte ((buffer first).getD (2 + index) 0)) ↔ Offers first := by
  simp only [List.mem_map, List.mem_range, buffer_getD, ofByte_eq_noAuthentication, Offers]

end Buffer

section Session

/-- A new session that has read its first bytes, with what it has written and awaits. -/
def read (config : ClientConfig) (number : Nat) (first message : Bytes) (trace : List Effect)
    (pending : List Op) : Session :=
  { Session.accepted config number with
    inBuf := buffer first, messageBuf := message, trace := trace, pending := pending }

/-- A connection is accepted. -/
theorem step_accept (running : client.server.crashed = false) :
    client.step config (.accept {}) = some { client with
      server := client.counted
      sessions := client.sessions ++
        [read config client.sessions.length [] [] [] [.firstRead]] } := by
  unfold Process.step
  rw [if_neg (by simp [running])]
  rfl

/-- The greeting is decoded from the buffer behind the first read. -/
theorem handle_firstRead (config : ClientConfig) (server : Client.Server) (number : Nat)
    (five : first.getD 0 0 = 5) :
    (Scope.complete ⟨server, read config number [] [] [] [.firstRead]⟩ .firstRead).handle config {}
        .firstRead (.read first) =
      Scope.writeSock5HanshakeReply ⟨server, read config number first [] [] []⟩
        ⟨5, (buffer first).getD 1 0, (List.range ((buffer first).getD 1 0).toNat).map
          fun index => .ofByte ((buffer first).getD (2 + index) 0)⟩ := by
  change Scope.onFirstRead ⟨server, read config number first [] [] []⟩ first.length = _
  unfold Scope.onFirstRead AuthReq.unstream
  have version : (read config number first [] [] []).inBuf.getD 0 0 = 5 :=
    (buffer_getD 0).trans five
  dsimp only
  rw [if_pos version, if_neg (by rw [version]; simp), version]
  rfl

/-- A greeting in which the session sees the method is answered. -/
theorem handle_offered (config : ClientConfig) (server : Client.Server) (number : Nat)
    (five : first.getD 0 0 = 5) (offers : Offers first) :
    (Scope.complete ⟨server, read config number [] [] [] [.firstRead]⟩ .firstRead).handle config {}
        .firstRead (.read first) =
      ⟨server, read config number first [5, 0] [.toLocal [5, 0]] [.greetingWrite]⟩ := by
  rw [handle_firstRead config server number five]
  exact if_pos (mem_methods.mpr offers)

/-- A greeting in which the session does not see the method ends it. -/
theorem handle_refused (config : ClientConfig) (server : Client.Server) (number : Nat)
    (five : first.getD 0 0 = 5) (refused : ¬ Offers first) :
    (Scope.complete ⟨server, read config number [] [] [] [.firstRead]⟩ .firstRead).handle config {}
        .firstRead (.read first) =
      Scope.destroy ⟨server, read config number first [] [] []⟩ := by
  rw [handle_firstRead config server number five]
  exact if_neg fun seen => refused (mem_methods.mp seen)

/-- A session that does not see the method ends without an answer. -/
theorem run_refused (config : ClientConfig) (running : client.server.crashed = false)
    (five : first.getD 0 0 = 5) (short : first.length ≤ maxBuffSize) (refused : ¬ Offers first) :
    run (Process.step config) client (greetingEvents client.sessions.length first) = none := by
  have admitted : Op.firstRead.admits (.read first) = true := decide_eq_true short
  have handled := handle_refused config client.counted client.sessions.length five refused
  have second := Process.step_last { client with
      server := client.counted
      sessions := client.sessions ++ [read config client.sessions.length [] [] [] [.firstRead]] }
    running rfl (List.mem_singleton_self _) admitted handled
  have idle : Op.greetingWrite ∉ (Scope.destroy
      ⟨client.counted, read config client.sessions.length first [] [] []⟩).session.pending := by
    rw [Scope.destroy_pending]
    exact List.not_mem_nil
  rw [greetingEvents, run, step_accept running, Option.bind_some, run, second, Option.bind_some,
    run, Process.step_idle List.getElem?_concat_length idle]
  rfl

/-- Behind its answer a session waits for the request, or ends if there were 255 methods. -/
theorem run_offered (config : ClientConfig) (running : client.server.crashed = false)
    (five : first.getD 0 0 = 5) (short : first.length ≤ maxBuffSize) (offers : Offers first)
    {scope : Scope} (written : Scope.onGreetingWritten ⟨client.counted,
      read config client.sessions.length first [5, 0] [.toLocal [5, 0]] []⟩ = scope) :
    run (Process.step config) client (greetingEvents client.sessions.length first) =
      some { client with
        server := scope.server, sessions := client.sessions ++ [scope.session] } := by
  have admitted : Op.firstRead.admits (.read first) = true := decide_eq_true short
  have handled := handle_offered config client.counted client.sessions.length five offers
  have second := Process.step_last { client with
      server := client.counted
      sessions := client.sessions ++ [read config client.sessions.length [] [] [] [.firstRead]] }
    running rfl (List.mem_singleton_self _) admitted handled
  have answered : (Scope.complete ⟨client.counted, read config client.sessions.length first [5, 0]
      [.toLocal [5, 0]] [.greetingWrite]⟩ .greetingWrite).handle config {} .greetingWrite .done =
        scope := written
  have third := Process.step_last { client with
      server := client.counted
      sessions := client.sessions ++
        [read config client.sessions.length first [5, 0] [.toLocal [5, 0]] [.greetingWrite]] }
    running rfl (List.mem_singleton_self _) rfl answered
  rw [greetingEvents, run, step_accept running, Option.bind_some, run, second, Option.bind_some]
  exact run_single third

/-- With fewer than 255 methods the session waits for the request. -/
theorem run_waits (config : ClientConfig) (running : client.server.crashed = false)
    (five : first.getD 0 0 = 5) (short : first.length ≤ maxBuffSize) (offers : Offers first)
    (few : first.getD 1 0 ≠ 0xFF) :
    run (Process.step config) client (greetingEvents client.sessions.length first) =
      some { client with
        server := client.counted
        sessions := client.sessions ++
          [read config client.sessions.length first [5, 0] [.toLocal [5, 0]] [.requestRead]] } := by
  have written : Scope.onGreetingWritten ⟨client.counted, read config client.sessions.length first
      [5, 0] [.toLocal [5, 0]] []⟩ = ⟨client.counted, read config client.sessions.length first
        [5, 0] [.toLocal [5, 0]] [.requestRead]⟩ :=
    if_neg fun many => few ((buffer_getD 1).symm.trans many)
  exact run_offered config running five short offers written

/-- **Going on.** A session goes on to the request exactly when it sees the method and fewer than
255 methods. -/
theorem goesOn_iff (config : ClientConfig) (running : client.server.crashed = false)
    (five : first.getD 0 0 = 5) (short : first.length ≤ maxBuffSize) :
    GoesOn config client first ↔ Offers first ∧ first.getD 1 0 ≠ 0xFF := by
  constructor
  · rintro ⟨next, session, ran, found, -, waits⟩
    by_cases offers : Offers first
    · refine ⟨offers, fun many => ?_⟩
      have written : Scope.onGreetingWritten ⟨client.counted, read config client.sessions.length
          first [5, 0] [.toLocal [5, 0]] []⟩ = Scope.destroy _ :=
        if_pos ((buffer_getD 1).trans many)
      rw [run_offered config running five short offers written] at ran
      obtain rfl := Option.some.inj ran
      rw [List.getElem?_concat_length] at found
      obtain rfl := Option.some.inj found
      rw [Scope.destroy_pending] at waits
      cases waits
    · rw [run_refused config running five short offers] at ran
      cases ran
  · rintro ⟨offers, few⟩
    exact ⟨_, _, run_waits config running five short offers few, List.getElem?_concat_length, rfl,
      List.mem_singleton_self _⟩

/-- A session that has done more than answer the greeting has served its request. -/
theorem served_of_more {session : Session} {request : Request} (more : 2 ≤ session.trace.length)
    (kept : session.socks5Req = request) :
    served session = some (request.cmd, request.remoteHost, request.remotePort) := by
  have other : session.trace ≠ [.toLocal [5, 0]] := by
    intro same
    rw [same] at more
    exact absurd more (by decide)
  unfold served
  rw [if_neg other, kept]

/-- A refused association counts as served. -/
theorem served_refuse {scope : Scope} (answered : scope.session.trace = [.toLocal [5, 0]]) :
    served (scope.refuse {}).session = some (scope.session.socks5Req.cmd,
      scope.session.socks5Req.remoteHost, scope.session.socks5Req.remotePort) := by
  unfold Scope.refuse
  dsimp only
  rw [if_pos rfl]
  obtain ⟨dead, relay, same⟩ := Scope.destroy_session ((scope.setMessage (Reply.stream
    { repResult := 0x02, realRemoteIP := 0, realRemotePort := 0 } [])).emit (.toLocal (Reply.stream
      { repResult := 0x02, realRemoteIP := 0, realRemotePort := 0 } [])))
  rw [same]
  refine served_of_more ?_ rfl
  change 2 ≤ (scope.session.trace ++ [_]).length
  rw [List.length_append, answered]
  exact le_rfl

/-- A session that has decoded a request keeps it and does something about it; one that has not
does nothing. -/
theorem served_onRequestRead {scope : Scope} {length : Nat} {result : Bool × Request}
    (config : ClientConfig)
    (decoded : scope.session.socks5Req.unsteam scope.session.inBuf length = result)
    (answered : scope.session.trace = [.toLocal [5, 0]]) :
    served (scope.onRequestRead config {} length).session =
      if result.1 then some (result.2.cmd, result.2.remoteHost, result.2.remotePort) else none := by
  have kept : (scope.setRequest result.2).session.trace = [.toLocal [5, 0]] := answered
  unfold Scope.onRequestRead
  rw [decoded]
  dsimp only
  split
  · split
    · split
      · unfold Scope.doHandleSocks5UdpAssociate
        split
        · rw [if_pos rfl]
          refine served_of_more ?_ rfl
          change 2 ≤ (scope.session.trace ++ [_]).length
          rw [List.length_append, answered]
          exact le_rfl
        · exact served_refuse kept
      · exact served_refuse kept
    · refine served_of_more ?_ rfl
      change 2 ≤ (scope.session.trace ++ [_] ++ [_]).length
      rw [List.length_append, List.length_append, answered]
      exact Nat.le_succ 2
  · obtain ⟨dead, relay, same⟩ := Scope.destroy_session (scope.setRequest result.2)
    rw [same]
    exact if_pos kept

/-- The second read is decoded as the request, whatever the buffer holds behind it. -/
theorem decoded_eq (config : ClientConfig) (running : client.server.crashed = false)
    (five : first.getD 0 0 = 5) (short : first.length ≤ maxBuffSize) (offers : Offers first)
    (few : first.getD 1 0 ≠ 0xFF) (fits : second.length ≤ maxBuffSize) :
    decoded config client first second = decodes second := by
  obtain ⟨waiting, waitingIs⟩ : ∃ waiting, waiting = read config client.sessions.length first
    [5, 0] [.toLocal [5, 0]] [] := ⟨_, rfl⟩
  have admitted : Op.requestRead.admits (.read second) = true := decide_eq_true fits
  have handled : (Scope.complete ⟨client.counted, read config client.sessions.length first [5, 0]
      [.toLocal [5, 0]] [.requestRead]⟩ .requestRead).handle config {} .requestRead
        (.read second) =
      (Scope.fillIn ⟨client.counted, waiting⟩ second).onRequestRead config {} second.length := by
    rw [waitingIs]
    rfl
  have stepped := Process.step_last { client with
      server := client.counted
      sessions := client.sessions ++
        [read config client.sessions.length first [5, 0] [.toLocal [5, 0]] [.requestRead]] }
    running rfl (List.mem_singleton_self _) admitted handled
  have ran := (run_append (run_waits config running five short offers few)).trans
    (run_single stepped)
  unfold decoded
  rw [ran, Option.bind_some, List.getElem?_concat_length, Option.bind_some]
  rw [served_onRequestRead config rfl (by rw [waitingIs]; rfl)]
  have unsteamed : (Scope.fillIn ⟨client.counted, waiting⟩ second).session.socks5Req.unsteam
      (Scope.fillIn ⟨client.counted, waiting⟩ second).session.inBuf second.length =
      ({} : Request).unsteam (second ++ (buffer first).drop second.length) second.length := by
    rw [waitingIs]
    rfl
  rw [unsteamed, decodes]
  rcases Nat.lt_or_ge second.length 7 with little | long
  · rw [if_neg (by simp [Request.unsteam_short little]),
      if_neg (by simp [Request.unsteam_short little])]
  · rw [Request.unsteam_append long]

end Session

section Cuts

/-- Zeros behind a list count as its members until its full length is reached. -/
theorem exists_getD_eq_zero {part later : Bytes} :
    (∃ index < (part ++ later).length, part.getD index 0 = 0) ↔ later ≠ [] ∨ 0 ∈ part := by
  constructor
  · rintro ⟨index, inside, zero⟩
    rcases Nat.lt_or_ge index part.length with seen | unseen
    · right
      rw [← zero, List.getD_eq_getElem part 0 seen]
      exact List.getElem_mem seen
    · left
      rintro rfl
      rw [List.append_nil] at inside
      omega
  · rintro (more | member)
    · have positive : 0 < later.length := List.length_pos_iff.mpr more
      refine ⟨part.length, ?_, List.getD_eq_default _ _ le_rfl⟩
      rw [List.length_append]
      omega
    · obtain ⟨index, inside, zero⟩ := List.mem_iff_getElem.mp member
      refine ⟨index, ?_, ?_⟩
      · rw [List.length_append]
        omega
      · rw [List.getD_eq_getElem part 0 inside, zero]

/-- What a session sees in a first part of a greeting. -/
theorem offers_iff {later : Bytes} (most : methods.length ≤ 255)
    (cut : first ++ later = greeting methods) (some : first ≠ []) :
    first.getD 0 0 = 5 ∧ (Offers first ∧ first.getD 1 0 ≠ 0xFF ↔
      methods.length ≠ 255 ∧ first.length ≠ 1 ∧ (first ≠ greeting methods ∨ 0 ∈ methods)) := by
  match first, some with
  | [version], _ =>
    obtain ⟨isFive, -⟩ := List.cons.inj cut
    refine ⟨isFive, ?_⟩
    constructor
    · rintro ⟨⟨index, none, -⟩, -⟩
      exact absurd none (Nat.not_lt_zero index)
    · rintro ⟨-, short, -⟩
      exact absurd rfl short
  | version :: count :: part, _ =>
    obtain ⟨isFive, tail⟩ := List.cons.inj cut
    obtain ⟨isCount, isMethods⟩ := List.cons.inj tail
    change part ++ later = methods at isMethods
    have counted : count.toNat = methods.length := by
      rw [isCount, UInt8.toNat_ofNat']
      exact Nat.mod_eq_of_lt (by omega)
    have many : count = 0xFF ↔ methods.length = 255 := by
      rw [← counted, ← UInt8.toNat_inj]
      rfl
    have whole : version :: count :: part = greeting methods ↔ later = [] := by
      rw [← cut]
      exact List.self_eq_append_right
    have seen : Offers (version :: count :: part) ↔ later ≠ [] ∨ 0 ∈ part := by
      rw [← exists_getD_eq_zero, isMethods, ← counted]
      simp only [Offers, List.getD_cons_succ, List.getD_cons_zero, Nat.add_comm 2]
    have members : (later ≠ [] ∨ 0 ∈ part) ↔ (later ≠ [] ∨ 0 ∈ methods) := by
      by_cases rest : later = []
      · rw [← isMethods, rest, List.append_nil]
      · simp [rest]
    refine ⟨isFive, ?_⟩
    rw [seen, members]
    constructor
    · rintro ⟨visible, few⟩
      exact ⟨fun all => few (many.mpr all), by simp, visible.imp_left (mt whole.mp)⟩
    · rintro ⟨few, -, visible⟩
      exact ⟨visible.imp_left (mt whole.mpr), fun all => few (many.mp all)⟩

/-- A read is no longer than the message it is a part of. -/
theorem Cut.length_le {message chunk : Bytes} {reads : List Bytes} (cut : Cut message reads)
    (member : chunk ∈ reads) : chunk.length ≤ message.length := by
  rw [← cut.1]
  exact (List.sublist_flatten_of_mem member).length_le

end Cuts

/-- **Negotiation and its cuts.** For every greeting of 1 to 255 methods, every request behind it
and every cut of the two into reads: a new session negotiates as it should exactly when the reads
do no harm. -/
theorem negotiates_iff (config : ClientConfig) (client : Process) (methods : Bytes)
    (request : SocksRequest) (greetingReads requestReads : List Bytes)
    (running : client.server.crashed = false) (least : 1 ≤ methods.length)
    (most : methods.length ≤ 255) (greeted : Cut (greeting methods) greetingReads)
    (asked : Cut request.bytes requestReads) :
    Negotiates config client methods request (greetingReads ++ requestReads) ↔
      Harmless methods request (greetingReads ++ requestReads) := by
  have size : (greeting methods).length = methods.length + 2 := by simp [greeting]
  have bounded {chunk : Bytes} (member : chunk ∈ greetingReads ++ requestReads) :
      chunk.length ≤ maxBuffSize := by
    unfold maxBuffSize
    rcases List.mem_append.mp member with inGreeting | inRequest
    · have := greeted.length_le inGreeting
      omega
    · have := asked.length_le inRequest
      have := request.bytes_length_le
      omega
  refine exists_congr fun first => exists_congr fun second => exists_congr fun rest =>
    and_congr_right fun same => ?_
  have among (chunk : Bytes) (listed : chunk ∈ first :: second :: rest) :
      chunk.length ≤ maxBuffSize := bounded (same ▸ listed)
  obtain ⟨later, cut, some⟩ : ∃ later, first ++ later = greeting methods ∧ first ≠ [] := by
    cases greetingReads with
    | nil => cases greeted.1
    | cons head tail =>
      obtain ⟨rfl, -⟩ := List.cons.inj same
      exact ⟨tail.flatten, greeted.1, greeted.2 _ List.mem_cons_self⟩
  obtain ⟨five, offers⟩ := offers_iff most cut some
  obtain ⟨wholeFive, wholeOffers⟩ :=
    offers_iff most (List.append_nil (greeting methods)) (by simp [greeting])
  have goes := (goesOn_iff config running five (among first (by simp))).trans offers
  have decodedSame (goesOn : GoesOn config client first) (offered : 0 ∈ methods) :
      decoded config client first second = decodes second ∧
        decoded config client (greeting methods) request.bytes = decodes request.bytes := by
    obtain ⟨seen, few⟩ := offers.mpr (goes.mp goesOn)
    obtain ⟨wholeSeen, wholeFew⟩ :=
      wholeOffers.mpr ⟨(goes.mp goesOn).1, by omega, .inr offered⟩
    refine ⟨decoded_eq config running five (among first (by simp)) seen few
      (among second (by simp)), ?_⟩
    have requestFits := request.bytes_length_le
    refine decoded_eq config running wholeFive ?_ wholeSeen wholeFew ?_
    · unfold maxBuffSize
      omega
    · unfold maxBuffSize
      omega
  constructor
  · rintro ⟨exactly, sameRequest⟩
    by_cases offered : 0 ∈ methods
    · have goesOn := exactly.mpr offered
      obtain ⟨few, long, -⟩ := goes.mp goesOn
      obtain ⟨one, other⟩ := decodedSame goesOn offered
      refine .inr ⟨offered, few, long, decodes_eq_iff.mp ?_⟩
      rw [← one, ← other]
      exact sameRequest goesOn
    · refine .inl ⟨offered, ?_⟩
      by_contra harm
      push Not at harm
      exact offered (exactly.mp (goes.mpr ⟨harm.1, harm.2.1, .inl harm.2.2⟩))
  · rintro (⟨refused, harmless⟩ | ⟨offered, few, long, alike⟩)
    · have stops : ¬ GoesOn config client first := by
        intro goesOn
        obtain ⟨few, long, visible⟩ := goes.mp goesOn
        rcases harmless with all | one | whole
        · exact few all
        · exact long one
        · exact visible.elim (fun part => part whole) refused
      exact ⟨⟨fun goesOn => absurd goesOn stops, fun member => absurd member refused⟩,
        fun goesOn => absurd goesOn stops⟩
    · have goesOn := goes.mpr ⟨few, long, .inr offered⟩
      obtain ⟨one, other⟩ := decodedSame goesOn offered
      have same := decodes_eq_iff.mpr alike
      exact ⟨⟨fun _ => offered, fun _ => goesOn⟩, fun _ => by rw [one, other, same]⟩

/-- A request to connect to 127.0.0.1, port 80. -/
def sampleRequest : SocksRequest := ⟨1, .v4 Address.loopbackBytes, 80⟩

/-- A greeting and a request in one read each. -/
theorem negotiates_single_reads :
    Negotiates {} (Process.start {} true) [0] sampleRequest
      [greeting [0], sampleRequest.bytes] := by
  have greeted : Cut (greeting [0]) [greeting [0]] := ⟨rfl, by simp [greeting]⟩
  have asked : Cut sampleRequest.bytes [sampleRequest.bytes] :=
    ⟨rfl, by simp [SocksRequest.bytes]⟩
  refine (negotiates_iff {} (Process.start {} true) [0] sampleRequest [greeting [0]]
    [sampleRequest.bytes] rfl (by decide) (by decide) greeted asked).mpr ?_
  have alike : AsksAlike sampleRequest sampleRequest.bytes :=
    ⟨sampleRequest, ⟨rfl, rfl⟩, rfl, rfl⟩
  exact ⟨_, _, [], rfl, .inr ⟨by simp, by decide, by decide, alike⟩⟩

/-- A greeting that offers a password only, in two reads: the session answers that it needs no
authentication and goes on. -/
theorem unsent_method_accepted : Cut (greeting [2]) [[5, 1], [2]] ∧
    Cut sampleRequest.bytes [sampleRequest.bytes] ∧ GoesOn {} (Process.start {} true) [5, 1] ∧
    ¬ Negotiates {} (Process.start {} true) [2] sampleRequest
      ([[5, 1], [2]] ++ [sampleRequest.bytes]) := by
  have checked : (run (Process.step {}) (Process.start {} true) (greetingEvents 0 [5, 1])).any
      (fun next => (next.sessions[0]?).any fun session =>
        decide (session.trace = [.toLocal [5, 0]] ∧ .requestRead ∈ session.pending)) = true := by
    decide +kernel
  have goesOn : GoesOn {} (Process.start {} true) [5, 1] := by
    obtain ⟨next, ran, good⟩ := exists_of_run checked
    obtain ⟨session, found, waits⟩ := (Option.any_eq_true _ _).mp good
    exact ⟨next, session, ran, found, of_decide_eq_true waits⟩
  refine ⟨⟨rfl, by simp⟩, ⟨rfl, by simp [SocksRequest.bytes]⟩, goesOn, ?_⟩
  rintro ⟨first, second, rest, same, exactly, -⟩
  obtain ⟨rfl, -⟩ := List.cons.inj same
  exact absurd (exactly.mp goesOn) (by simp)

end Overplus.Verif.Socks5Negotiation
