import Overplus.Server.DtlsSteps
import Overplus.Server.Service
import Overplus.Verif.UdpBuffer

/-!
# The address a packet is sent to

Sessions of both kinds share the name caches. A TLS or websocket session takes a name to mean
its first IPv4 endpoint, a DTLS session its first endpoint, and each enters what it took in the
cache for all of them. While the resolutions of DTLS sessions put an IPv4 endpoint first, every
packet goes to the first IPv4 endpoint of its name, whoever filled the cache. A DTLS session
that resolves a name whose first endpoint is an IPv6 one sends there itself, and makes the other
sessions send there.
-/
namespace Overplus.Verif.AddressChoice

open Server UdpBuffer

/-- The first IPv4 endpoint of a list that has one. -/
def FirstV4 (results : List Endpoint) (endpoint : Endpoint) : Prop :=
  results.any (·.address.isV4) = true → results.find? (·.address.isV4) = some endpoint

instance (results : List Endpoint) (endpoint : Endpoint) : Decidable (FirstV4 results endpoint) :=
  inferInstanceAs (Decidable (_ → _))

/-- The endpoint is the first IPv4 one the resolver has for a host and a port. -/
def Means (resolver : Resolver) (host : Bytes) (port : UInt16) (endpoint : Endpoint) : Prop :=
  FirstV4 (resolver host (decimal port.toNat)) endpoint

instance (resolver : Resolver) (host : Bytes) (port : UInt16) (endpoint : Endpoint) :
    Decidable (Means resolver host port endpoint) :=
  inferInstanceAs (Decidable (FirstV4 _ _))

/-- A datagram went to the first IPv4 endpoint of the name its packet is for. A TLS or websocket
session sends for packets only; a DTLS session's frame may carry an address instead of a name. -/
def Right (resolver : Resolver) : Sent → Prop
  | .trojan packet endpoint payload => ∃ sent ∈ packet, sent.payload = payload ∧
      Means resolver sent.address.address sent.address.port endpoint
  | .dtls name endpoint _ => ∀ target ∈ name, Means resolver target.1 target.2 endpoint

instance (resolver : Resolver) : DecidablePred (Right resolver)
  | .trojan packet _ _ => inferInstanceAs (Decidable (∃ sent ∈ packet, _))
  | .dtls name _ _ => inferInstanceAs (Decidable (∀ target ∈ name, _))

/-- The first endpoint is an IPv4 one if any is. -/
def HeadV4 (results : List Endpoint) : Prop :=
  results.any (·.address.isV4) = true → results.head?.any (·.address.isV4) = true

instance (results : List Endpoint) : Decidable (HeadV4 results) :=
  inferInstanceAs (Decidable (_ → _))

/-- What a resolution of a DTLS session completes with. -/
def dtlsResults : ServiceEvent → Option (List Endpoint)
  | .dtls _ (.completed (.resolve _ _ _ _) (.resolved results) _) _ => some results
  | _ => none

/-- A resolution of a DTLS session has an IPv4 endpoint first if it has one. -/
def ResolvesV4 (_ : Service) (event : ServiceEvent) : Prop :=
  ∀ results ∈ dtlsResults event, HeadV4 results

instance (service : Service) (event : ServiceEvent) : Decidable (ResolvesV4 service event) :=
  inferInstanceAs (Decidable (∀ results ∈ dtlsResults event, _))

section Choice

variable {results : List Endpoint} {endpoint : Endpoint}

/-- A TLS or websocket session chooses the first IPv4 endpoint. -/
theorem firstV4_chooseEndpoint (chosen : Session.chooseEndpoint results = some endpoint) :
    FirstV4 results endpoint := by
  intro some
  obtain ⟨first, found⟩ := Option.isSome_iff_exists.mp
    (List.find?_isSome.mpr (List.any_eq_true.mp some))
  rw [Session.chooseEndpoint, found, Option.some_or] at chosen
  rw [found, chosen]

/-- A DTLS session chooses the first endpoint, which may be the first IPv4 one. -/
theorem firstV4_head (head : HeadV4 results) (chosen : results.head? = some endpoint) :
    FirstV4 results endpoint := by
  intro some
  have first := head some
  rw [chosen, Option.any_some] at first
  cases results with
  | nil => cases chosen
  | cons other rest =>
    obtain rfl : other = endpoint := Option.some.inj chosen
    exact List.find?_cons_of_pos first

end Choice

section Cache

variable {resolver : Resolver} {cache : DnsCacheManager} {now : Int} {host key : Bytes}
  {port : UInt16} {endpoint : Endpoint}

/-- An endpoint may be entered under a key: it is the first IPv4 one of the key's name. -/
def Cacheable (resolver : Resolver) (key : Bytes) (endpoint : Endpoint) : Prop :=
  ∃ host port, key = Session.dnsKey host (decimal port.toNat) ∧ Means resolver host port endpoint

/-- Every entry of the UDP cache holds the first IPv4 endpoint of its name. -/
def Known (resolver : Resolver) (cache : DnsCacheManager) : Prop :=
  ∀ entry ∈ cache.udpCache, Cacheable resolver entry.1 entry.2.endpoint

/-- A key stands for one host and one port. -/
theorem Cacheable.means
    (fine : Cacheable resolver (Session.dnsKey host (decimal port.toNat)) endpoint) :
    Means resolver host port endpoint := by
  obtain ⟨other, number, same, means⟩ := fine
  obtain ⟨rfl, equal⟩ := append_colon_decimal_inj same
  obtain rfl := UInt16.toNat_inj.mp equal
  exact means

/-- What the cache answers for a name is its first IPv4 endpoint. -/
theorem Known.getUdp (known : Known resolver cache)
    (found : cache.getUdp now (Session.dnsKey host (decimal port.toNat)) = some endpoint) :
    Means resolver host port endpoint := by
  obtain ⟨entry, member, rfl⟩ := NameTable.mem_of_get found
  exact (known _ member).means

/-- Entering an endpoint keeps what is known. -/
theorem Known.putUdp (known : Known resolver cache) (fine : Cacheable resolver key endpoint) :
    Known resolver (cache.putUdp now key endpoint) := by
  intro entry member
  rcases List.mem_cons.mp member with rfl | old
  · exact fine
  · exact known entry (List.mem_filter.mp old).1

/-- Removing entries keeps what is known. -/
theorem Known.cleanupExpired (known : Known resolver cache) :
    Known resolver (cache.cleanupExpired now) :=
  fun entry member => known entry (List.mem_filter.mp member).1

end Cache

section Trojan

variable {resolver : Resolver} {cache : DnsCacheManager} {now : Int} {packet : Option UDPPacket}
  {effects : List Effect} {config : ServerConfig} {session next : Session} {event : Event}

/-- An effect of a session that handles a packet: its datagrams are right, and what it enters in
the UDP cache may be entered. -/
def Sound (resolver : Resolver) (packet : Option UDPPacket) : Effect → Prop
  | .datagram endpoint payload => Right resolver (.trojan packet endpoint payload)
  | .putUdp key endpoint => Cacheable resolver key endpoint
  | _ => True

/-- Plain effects send and cache nothing. -/
theorem sound_of_plain {effect : Effect} (plain : effect.IsPlain) :
    Sound resolver packet effect := by
  cases effect <;> trivial

/-- Sound effects keep what is known. -/
theorem Known.store (known : Known resolver cache)
    (sound : ∀ effect ∈ effects, Sound resolver packet effect) :
    Known resolver (effects.foldl (Effect.store now) cache) := by
  apply List.foldlRecOn effects _ known
  intro cache known effect member
  have fine := sound effect member
  cases effect with
  | putUdp key endpoint => exact known.putUdp fine
  | _ => exact known

/-- The datagrams of sound effects are right. -/
theorem right_of_sound (sound : ∀ effect ∈ effects, Sound resolver packet effect) :
    ∀ sent ∈ effects.filterMap (Effect.sent? packet), Right resolver sent := by
  intro sent member
  obtain ⟨effect, recorded, made⟩ := List.mem_filterMap.mp member
  have fine := sound effect recorded
  cases effect with
  | datagram endpoint payload =>
    obtain rfl := Option.some.inj made
    exact fine
  | _ => cases made

/-- The bytes a handler parses are those its packet is read from. -/
theorem packetInHand_held {op : Op} {data buff : Bytes} {effect : Effect} {held : Session}
    (stage : Stage False session) (member : op ∈ session.pending)
    (source : (session.complete op).packetSource data op = some (effect, buff))
    (holds : (session.complete op).Holds effect buff held) :
    session.packetInHand op (.read data) = (UDPPacket.parse held.remaining).map (·.1) := by
  have unparsed : held.remaining = buff.drop session.udpBuffOffset := by
    rw [Session.remaining, holds.buff, holds.offset]
    rfl
  rcases Session.packetSource_op source with rfl | rfl | rfl
  · -- The first message: the greeting has not used the buffer.
    obtain ⟨-, rfl⟩ := Prod.mk.inj (Option.some.inj source)
    have start : session.udpBuffOffset = 0 := by
      cases stage with
      | greeting greeting => exact greeting.offset
      | tcp tcp unused => exact unused.offset
      | udp udp => cases udp.pending _ member
    rw [unparsed, start]
    rfl
  all_goals
    obtain ⟨-, rfl⟩ := Prod.mk.inj (Option.some.inj source)
    have inside : session.udpBuffOffset ≤ session.upstreamUdpBuff.length := by
      cases stage with
      | greeting greeting => simp [greeting.offset]
      | tcp tcp unused => simp [unused.offset]
      | udp udp => exact udp.inside
    rw [unparsed]
    change _ = (UDPPacket.parse ((session.upstreamUdpBuff ++ data).drop _)).map _
    rw [List.drop_append_of_le_length inside]
    rfl

/-- A resolution in flight is kept under the key of its packet. -/
theorem key_of_stage {first : Bool} {packet : UDPPacket} {key : Bytes}
    (stage : Stage False session) (member : .udpResolve first packet key ∈ session.pending) :
    key = packetKey packet := by
  cases stage with
  | greeting greeting =>
    obtain ⟨op, only, hello⟩ := greeting.pending
    rw [only, List.mem_singleton] at member
    subst member
    cases hello
  | tcp tcp _ => cases tcp _ member
  | udp udp => exact udp.pending _ member

/-- **A step of a TLS or websocket session** records sound effects only. -/
theorem step_sound (stage : Stage False session) (known : Known resolver cache)
    (answered : event.answeredBy resolver = true)
    (stepped : session.step config (event.withCache cache now) = some next) :
    ∃ effects, next.trace = session.trace ++ effects ∧
      ∀ effect ∈ effects, Sound resolver (session.packetInHand event.op event.result) effect := by
  obtain ⟨member, -, outcome⟩ := Session.step_outcome stepped
  obtain ⟨op, result, world⟩ := event
  change op ∈ session.pending at member
  change (session.complete op).Outcome { world with
    cachedUdp := cache.getUdp now, cachedTcp := cache.getTcp now } op result next at outcome
  cases outcome with
  | failed => exact ⟨[], by simp [Session.complete], by simp⟩
  | greeted => exact ⟨[], by simp [Session.complete, Session.await], by simp⟩
  | tcp _ _ goes =>
    exact goes.traced (List.append_nil _).symm (by simp) fun _ fine => sound_of_plain fine
  | service _ goes =>
    refine goes.traced rfl ?_ fun _ fine => sound_of_plain fine
    intro effect first
    rw [List.mem_singleton.mp first]
    trivial
  | @packet _ data buff effect held _ source holds goes _ =>
    have trace : held.skipPacket.trace = session.trace ++ [effect] := by
      rw [Session.skipPacket_trace, holds.trace]
      rfl
    refine goes.traced trace ?_ ?_
    · intro other first
      rw [List.mem_singleton.mp first]
      exact sound_of_plain (Session.packetSource_plain source)
    · intro other fine
      cases other with
      | datagram endpoint payload =>
        obtain ⟨packet, len, found, same, cached⟩ := fine
        refine ⟨packet, ?_, same, known.getUdp cached⟩
        rw [packetInHand_held stage member source holds, found]
        rfl
      | _ => exact sound_of_plain fine
  | @resolved first packet key results endpoint _ chosen goes =>
    have means : Means resolver packet.address.address packet.address.port endpoint := by
      have list : results = resolver packet.address.address _ := of_decide_eq_true answered
      rw [Means, ← list]
      exact firstV4_chooseEndpoint chosen
    refine goes.traced rfl ?_ ?_
    · intro effect entered
      rw [List.mem_singleton.mp entered]
      exact ⟨_, _, key_of_stage stage member, means⟩
    · rintro effect rfl
      exact ⟨packet, rfl, rfl, means⟩
  | unresolved => exact ⟨[], by simp [Session.complete], by simp⟩
  | resumed _ goes => exact goes.traced (List.append_nil _).symm (by simp) fun _ => False.elim
  | @replied sender data _ goes =>
    refine goes.traced (List.append_assoc _ _ _) ?_ fun _ => False.elim
    simp [Sound]

end Trojan

section Dtls

variable {resolver : Resolver} {cache : DnsCacheManager} {now : Int}
  {name : Option (Bytes × UInt16)} {effects quiet : List DtlsEffect} {sha224 : Bytes → Bytes}
  {config : ServerConfig} {session next : DtlsServerSession} {event : DtlsEvent}

/-- An effect of a DTLS session that handles a name: its datagrams are right, and what it enters
in the UDP cache may be entered. -/
def DtlsSound (resolver : Resolver) (name : Option (Bytes × UInt16)) : DtlsEffect → Prop
  | .sendToTarget endpoint payload _ => Right resolver (.dtls name endpoint payload)
  | .putUdp key endpoint => Cacheable resolver key endpoint
  | _ => True

/-- Effects that neither send to a target nor cache, and that name no target. -/
def isSilent : DtlsEffect → Bool
  | .sendToTarget _ _ _ | .putUdp _ _ | .resolveAndSend _ _ _ _ => false
  | _ => true

/-- Silent effects are sound. -/
theorem dtlsSound_of_silent {effect : DtlsEffect} (silent : isSilent effect = true) :
    DtlsSound resolver name effect := by
  cases effect <;> trivial

/-- Silent effects name no target. -/
theorem findSome_silent (silent : ∀ effect ∈ quiet, isSilent effect = true) :
    (quiet ++ effects).findSome? DtlsEffect.name? = effects.findSome? DtlsEffect.name? := by
  have none : quiet.findSome? DtlsEffect.name? = none := by
    rw [List.findSome?_eq_none_iff]
    intro effect member
    have own := silent effect member
    cases effect <;> first | rfl | cases own
  rw [List.findSome?_append, none, Option.none_or]

/-- Sound effects keep what is known. -/
theorem Known.dtlsStore (known : Known resolver cache)
    (sound : ∀ effect ∈ effects, DtlsSound resolver name effect) :
    Known resolver (effects.foldl (DtlsEffect.store now) cache) := by
  apply List.foldlRecOn effects _ known
  intro cache known effect member
  have fine := sound effect member
  cases effect with
  | putUdp key endpoint => exact known.putUdp fine
  | _ => exact known

/-- The datagrams of sound effects are right. -/
theorem right_of_dtlsSound (sound : ∀ effect ∈ effects, DtlsSound resolver name effect) :
    ∀ sent ∈ effects.filterMap (DtlsEffect.sent? name), Right resolver sent := by
  intro sent member
  obtain ⟨effect, recorded, made⟩ := List.mem_filterMap.mp member
  have fine := sound effect recorded
  cases effect with
  | sendToTarget endpoint payload sessionId =>
    obtain rfl := Option.some.inj made
    exact fine
  | _ => cases made

/-- A session that went on silently. -/
def Silent (before after : DtlsServerSession) : Prop :=
  ∃ effects, after.trace = before.trace ++ effects ∧ ∀ effect ∈ effects, isSilent effect = true

/-- One thing after another. -/
theorem Silent.trans {first second third : DtlsServerSession} (earlier : Silent first second)
    (later : Silent second third) : Silent first third := by
  obtain ⟨before, traced, silent⟩ := earlier
  obtain ⟨after, tracedAfter, still⟩ := later
  refine ⟨before ++ after, by rw [tracedAfter, traced, List.append_assoc], ?_⟩
  intro effect member
  exact (List.mem_append.mp member).elim (silent effect) (still effect)

/-- Work that does not show in the trace is silent. -/
theorem Silent.of_same {first second : DtlsServerSession} (same : second.trace = first.trace) :
    Silent first second := ⟨[], by rw [same, List.append_nil], by simp⟩

/-- Quiet work is silent. -/
theorem Silent.of_quiet {first second : DtlsServerSession}
    (same : DtlsServerSession.Quiet first second) : Silent first second := by
  obtain ⟨effects, _, _, _, _, rfl, quiet⟩ := same
  refine ⟨effects, rfl, fun effect member => ?_⟩
  have own := quiet effect member
  cases effect <;> first | rfl | cases own

/-- `stop` is silent. -/
theorem silent_stop (session : DtlsServerSession) : Silent session session.stop := by
  unfold DtlsServerSession.stop
  split
  · exact .of_same rfl
  · dsimp only
    split
    · exact ⟨[.openssl .sslShutdown session.ssl, .openssl .sslFree session.ssl, .destroyed],
        by simp [DtlsServerSession.emit, DtlsServerSession.call], by simp [isSilent]⟩
    · exact ⟨[.destroyed], rfl, by simp [isSilent]⟩

/-- A frame's datagram goes to the cached endpoint of its name, or to its address. -/
theorem onFrame_sound (known : Known resolver cache) (session : DtlsServerSession)
    {answers : Answers} (cached : answers.cachedUdp = cache.getUdp now) (sessionId : UInt16)
    (frame : UdpFrame) : ∃ effects,
      (session.onFrame answers sessionId frame).trace = session.trace ++ effects ∧
      ∀ effect ∈ effects, DtlsSound resolver (effects.findSome? DtlsEffect.name?) effect := by
  unfold DtlsServerSession.onFrame
  split
  · unfold DtlsServerSession.doResolveAndSend
    dsimp only
    split
    · rename_i endpoint found
      rw [cached] at found
      refine ⟨[.resolveAndSend frame.address frame.port frame.payload sessionId,
        .sendToTarget endpoint frame.payload sessionId], ?_, ?_⟩
      · simp [DtlsServerSession.emit]
      · intro effect member
        rcases List.mem_pair.mp member with rfl | rfl
        · trivial
        · intro target named
          obtain rfl := Option.some.inj named
          exact known.getUdp found
    · refine ⟨[.resolveAndSend frame.address frame.port frame.payload sessionId], rfl, ?_⟩
      intro effect member
      rw [List.mem_singleton.mp member]
      trivial
  · split
    · refine ⟨[.sendToTarget (DtlsServerSession.frameEndpoint frame) frame.payload sessionId],
        DtlsServerSession.doSendToTarget_trace _ _ _ _, ?_⟩
      intro effect member
      rw [List.mem_singleton.mp member]
      intro target named
      cases named
    · exact ⟨[], (List.append_nil _).symm, by simp⟩

/-- **A step of a DTLS session** whose resolution has an IPv4 endpoint first records sound effects
only. -/
theorem dtls_step_sound {service : Service} {id : Nat} (known : Known resolver cache)
    (answered : event.answeredBy resolver = true) (first : ResolvesV4 service (.dtls id event now))
    (stepped : session.step sha224 config (event.withCache cache now) = some next) :
    ∃ effects, next.trace = session.trace ++ effects ∧
      ∀ effect ∈ effects, DtlsSound resolver (event.nameInHand effects) effect := by
  have outcome := DtlsServerSession.step_outcome stepped
  have silently (silent : Silent session next) : ∃ effects,
      next.trace = session.trace ++ effects ∧
      ∀ effect ∈ effects, DtlsSound resolver (event.nameInHand effects) effect := by
    obtain ⟨effects, traced, own⟩ := silent
    exact ⟨effects, traced, fun effect member => dtlsSound_of_silent (own effect member)⟩
  have completed (op : DtlsOp) : Silent session (session.complete op) := .of_same rfl
  cases event with
  | stop =>
    cases outcome with
    | stop => exact silently (silent_stop session)
  | datagram answers =>
    generalize shown : DtlsEvent.withCache cache now (.datagram answers) = given at outcome
    cases outcome with
    | quiet same => exact silently (.of_quiet same)
    | stopped same => exact silently ((Silent.of_quiet same).trans (silent_stop _))
    | proxying same => exact silently ((Silent.of_quiet same).trans (.of_same rfl))
    | @frame given middle record parsed same read decoded accepted =>
      obtain rfl := DtlsEvent.datagram.inj shown
      obtain ⟨quiet, traced, silent⟩ := Silent.of_quiet same
      have cached : ({ answers with cachedUdp := cache.getUdp now } : Answers).cachedUdp =
          cache.getUdp now := rfl
      obtain ⟨effects, later, sound⟩ := onFrame_sound known middle cached
        (ofBe16 (record.getD 0 0) (record.getD 1 0)) parsed.frame
      refine ⟨quiet ++ effects, by rw [later, traced, List.append_assoc], ?_⟩
      intro effect member
      change DtlsSound resolver ((quiet ++ effects).findSome? _) effect
      rw [findSome_silent silent]
      rcases List.mem_append.mp member with early | late
      · exact dtlsSound_of_silent (silent effect early)
      · exact sound effect late
    | _ => cases shown
  | completed op result answers =>
    generalize shown : DtlsEvent.withCache cache now (.completed op result answers) = given
      at outcome
    cases outcome with
    | idle _ same => exact silently ((completed _).trans (.of_quiet same))
    | reading _ same =>
      refine silently (((completed _).trans (.of_quiet same)).trans (.of_same ?_))
      exact DtlsServerSession.doReadTarget_trace _
    | @resolved domain payload port sessionId _ endpoint results member chosen =>
      obtain ⟨rfl, rfl, -⟩ := DtlsEvent.completed.inj shown
      have means : Means resolver domain port endpoint := by
        have list : results = resolver domain _ := of_decide_eq_true answered
        rw [Means, ← list]
        exact firstV4_head (first results rfl) chosen
      refine ⟨[.putUdp (Session.dnsKey domain (decimal port.toNat)) endpoint,
        .sendToTarget endpoint payload sessionId], ?_, ?_⟩
      · simp [DtlsServerSession.emit, DtlsServerSession.complete]
      · intro effect recorded
        rcases List.mem_pair.mp recorded with rfl | rfl
        · exact ⟨domain, port, rfl, means⟩
        · intro target named
          obtain rfl := Option.some.inj named
          exact means
    | @replied _ sender data before after _ earlier later =>
      have noted : Silent before (before.emit (.record (session.replyRecord sender data))) :=
        ⟨[_], rfl, by simp [isSilent]⟩
      refine silently (Silent.trans ?_ (.of_same (DtlsServerSession.doReadTarget_trace _)))
      exact (((completed _).trans (.of_quiet earlier)).trans noted).trans (.of_quiet later)
    | _ => cases shown

end Dtls

section Process

variable {resolver : Resolver} {sha224 : Bytes → Bytes} {config : ServerConfig}
  {service next : Service} {event : ServiceEvent}

/-- What holds of the process between its steps. -/
structure Consistent (resolver : Resolver) (service : Service) : Prop where
  /-- The UDP cache has first IPv4 endpoints. -/
  known : Known resolver service.cache
  /-- Every TLS or websocket session parses the bytes behind its offset. -/
  stages : ∀ session ∈ service.sessions, Stage False session
  /-- Every datagram went to the first IPv4 endpoint of its name. -/
  right : ∀ sent ∈ service.sent, Right resolver sent

/-- What a trace gained is what was appended to it. -/
theorem newEffects_eq {ε : Type} {before after effects : List ε}
    (traced : after = before ++ effects) :
    after.drop before.length = effects := by
  rw [traced, List.drop_left]

/-- A new session has not used its buffer. -/
theorem stage_start (kind : SessionKind) : Stage False (Session.start kind) :=
  .greeting ⟨⟨rfl, rfl⟩, ⟨.handshake, rfl, rfl⟩, rfl⟩

/-- **One step** of the process keeps it consistent. -/
theorem step_consistent (consistent : Consistent resolver service)
    (first : ResolvesV4 service event)
    (stepped : service.step resolver sha224 config event = some next) :
    Consistent resolver next := by
  obtain ⟨known, stages, right⟩ := consistent
  cases event with
  | accept kind =>
    obtain rfl := Option.some.inj stepped
    refine ⟨known, fun session member => ?_, right⟩
    rcases List.mem_append.mp member with old | new
    · exact stages session old
    · rw [List.mem_singleton.mp new]
      exact stage_start kind
  | acceptDtls ssl =>
    obtain rfl := Option.some.inj stepped
    exact ⟨known, stages, right⟩
  | session id event now =>
    unfold Service.step at stepped
    dsimp only at stepped
    split at stepped
    · rename_i answered
      obtain ⟨before, found, rest⟩ := Option.bind_eq_some_iff.mp stepped
      obtain ⟨after, ran, rfl⟩ := Option.map_eq_some_iff.mp rest
      have stage := stages before (List.mem_of_getElem? found)
      obtain ⟨effects, traced, sound⟩ := step_sound stage known answered ran
      have gained : before.newEffects after = effects := newEffects_eq traced
      refine ⟨?_, ?_, ?_⟩
      · simp only [Service.ranSession, gained]
        exact known.store sound
      · intro session member
        rcases List.mem_or_eq_of_mem_set member with old | rfl
        · exact stages session old
        · exact step_stage stage False.elim ran
      · intro sent member
        simp only [Service.ranSession, gained, List.mem_append] at member
        rcases member with old | new
        · exact right sent old
        · exact right_of_sound sound sent new
    · cases stepped
  | dtls id event now =>
    unfold Service.step at stepped
    dsimp only at stepped
    split at stepped
    · rename_i answered
      obtain ⟨before, found, rest⟩ := Option.bind_eq_some_iff.mp stepped
      obtain ⟨after, ran, rfl⟩ := Option.map_eq_some_iff.mp rest
      obtain ⟨effects, traced, sound⟩ := dtls_step_sound known answered first ran
      have gained : before.newEffects after = effects := newEffects_eq traced
      refine ⟨?_, stages, ?_⟩
      · simp only [Service.ranDtls, gained]
        exact known.dtlsStore sound
      · intro sent member
        simp only [Service.ranDtls, gained, List.mem_append] at member
        rcases member with old | new
        · exact right sent old
        · exact right_of_dtlsSound sound sent new
    · cases stepped
  | cleanup now =>
    obtain rfl := Option.some.inj stepped
    exact ⟨known.cleanupExpired, stages, right⟩

/-- **The address of a packet does not depend on the cache** while the resolutions of DTLS
sessions put an IPv4 endpoint first: in every run of such steps, with any resolver, every datagram
sent for a name that has an IPv4 endpoint went to the first one. -/
theorem sent_to_first_v4 (resolver : Resolver) (sha224 : Bytes → Bytes) (config : ServerConfig)
    (ttl : Int) (events : List ServiceEvent) (service : Service)
    (ran : run (Service.step resolver sha224 config) (.started ttl) events = some service)
    (first : Meets (Service.step resolver sha224 config) ResolvesV4 (.started ttl) events) :
    ∀ sent ∈ service.sent, Right resolver sent := by
  have keeps : ∀ state event next, Consistent resolver state → ResolvesV4 state event →
      Service.step resolver sha224 config state event = some next → Consistent resolver next :=
    fun _ _ _ consistent first stepped => step_consistent consistent first stepped
  have fresh : Consistent resolver (.started ttl) :=
    ⟨fun _ member => (by cases member), fun _ member => (by cases member),
      fun _ member => (by cases member)⟩
  exact (run_invariant_of_meets keeps fresh first ran).right

end Process

section Samples

/-- An IPv4 endpoint. -/
def endpointV4 : Endpoint := ⟨.ofWord 0x0a000001, 53⟩

/-- An IPv6 endpoint. -/
def endpointV6 : Endpoint := ⟨.v6 ⟨List.replicate 16 1, rfl⟩, 53⟩

/-- A DTLS session logs in and sends a frame for port 53 of the host `a`, which it resolves; then
a Trojan session sends a packet for the same name. -/
def shared (results : List Endpoint) : List ServiceEvent :=
  [.acceptDtls true,
    .dtls 0 (.datagram { accept := .done, read := .data [0x70, 10] }) 0,
    .dtls 0 (.datagram { read := .data ([0, 1] ++ UdpFrame.generateDomain [97] 53 [1, 2]) }) 1,
    .dtls 0 (.completed (.resolve [97] 53 [2] 1) (.resolved results) {}) 2,
    .accept .tls,
    .session 0 ⟨.handshake, .done, {}⟩ 3,
    .session 0 ⟨.firstRead, .read ([0x70, 13, 10, 3, 1, 0, 0, 0, 0, 0, 0, 13, 10] ++
      [3, 1, 97, 0, 53, 0, 1, 13, 10, 7]), {}⟩ 4]

/-- With the IPv4 endpoint first, both sessions send to it. -/
theorem sent_to_first_v4_shared : ∃ service,
    run (Service.step (fun _ _ => [endpointV4, endpointV6]) id ⟨[[0x70]]⟩) (.started 600)
      (shared [endpointV4, endpointV6]) = some service ∧ service.sent.length = 2 ∧
      ∀ sent ∈ service.sent, Right (fun _ _ => [endpointV4, endpointV6]) sent := by
  have checked : (run (Service.step (fun _ _ => [endpointV4, endpointV6]) id ⟨[[0x70]]⟩)
      (.started 600) (shared [endpointV4, endpointV6])).any
        (fun service => decide (service.sent.length = 2)) = true := by
    decide +kernel
  have first : Meets (Service.step (fun _ _ => [endpointV4, endpointV6]) id ⟨[[0x70]]⟩)
      ResolvesV4 (.started 600) (shared [endpointV4, endpointV6]) := by
    decide +kernel
  obtain ⟨service, ran, good⟩ := exists_of_run checked
  exact ⟨service, ran, of_decide_eq_true good, sent_to_first_v4 _ _ _ _ _ _ ran first⟩

/-- With the IPv6 endpoint first, the DTLS session sends to it and caches it, and the Trojan
session sends to it as well. -/
theorem sent_to_cached_v6 : ∃ service,
    run (Service.step (fun _ _ => [endpointV6, endpointV4]) id ⟨[[0x70]]⟩) (.started 600)
      (shared [endpointV6, endpointV4]) = some service ∧
      service.sent = [.dtls (some ([97], 53)) endpointV6 [2],
        .trojan (some ⟨⟨some .domainName, [97], 53⟩, 1, [7]⟩) endpointV6 [7]] ∧
      ∀ sent ∈ service.sent, ¬ Right (fun _ _ => [endpointV6, endpointV4]) sent := by
  have checked : (run (Service.step (fun _ _ => [endpointV6, endpointV4]) id ⟨[[0x70]]⟩)
      (.started 600) (shared [endpointV6, endpointV4])).any
        (fun service => decide (service.sent = [.dtls (some ([97], 53)) endpointV6 [2],
          .trojan (some ⟨⟨some .domainName, [97], 53⟩, 1, [7]⟩) endpointV6 [7]] ∧
        ∀ sent ∈ service.sent, ¬ Right (fun _ _ => [endpointV6, endpointV4]) sent)) = true := by
    decide +kernel
  obtain ⟨service, ran, good⟩ := exists_of_run checked
  exact ⟨service, ran, of_decide_eq_true good⟩

end Samples

end Overplus.Verif.AddressChoice
