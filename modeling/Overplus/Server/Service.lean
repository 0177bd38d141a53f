import Overplus.Server.DtlsServerSession
import Overplus.Shared.DnsCache

/-!
# Sessions on shared name caches

The sessions of a server process, of both kinds, with the one `DnsCacheManager` they share. A
step takes a new session, lets one session handle an event, or runs the timer of
`Service::start_dns_cleanup_timer`. A handler asks the caches at most once and enters at most
one endpoint in them, so a handler is one step of the process even where sessions run on
several threads. The resolver is outside the program: it has one answer for each name, and a
resolution completes with it or fails.

The process notes every datagram a session sends, with the name the datagram's packet is for.
-/
namespace Overplus.Server

/-- The endpoints of a host and a service. -/
abbrev Resolver := Bytes → Bytes → List Endpoint

/-- A datagram a session sent. -/
inductive Sent where
  /-- By a TLS or websocket session, for the packet it was handling. -/
  | trojan (packet : Option UDPPacket) (endpoint : Endpoint) (payload : Bytes)
  /-- By a DTLS session, for the name in the frame it was handling if that has one. -/
  | dtls (name : Option (Bytes × UInt16)) (endpoint : Endpoint) (payload : Bytes)
deriving DecidableEq

section Trojan

/-- The packet a session handles in a step: the one its resolution was for, or the first one of
the unparsed bytes. -/
def Session.packetInHand (session : Session) : Op → Result → Option UDPPacket
  | .udpResolve _ packet _, _ => some packet
  | .firstRead, .read data =>
    (UDPPacket.parse (session.trojanReq.parse data).2.payload).map (·.1)
  | .udpFirstRead, .read data | .udpRead, .read data =>
    (UDPPacket.parse (session.remaining ++ data)).map (·.1)
  | _, _ => none

/-- What a step added to a session's trace. -/
def Session.newEffects (before after : Session) : List Effect :=
  after.trace.drop before.trace.length

/-- The datagram of an effect. -/
def Effect.sent? (packet : Option UDPPacket) : Effect → Option Sent
  | .datagram endpoint payload => some (.trojan packet endpoint payload)
  | _ => none

/-- What an effect does to the caches. -/
def Effect.store (now : Int) (cache : DnsCacheManager) : Effect → DnsCacheManager
  | .putUdp key endpoint => cache.putUdp now key endpoint
  | .putTcp key endpoint => cache.putTcp now key endpoint
  | _ => cache

/-- A resolution for a packet completes with the resolver's answer. -/
def Event.answeredBy (resolver : Resolver) (event : Event) : Bool :=
  match event.op, event.result with
  | .udpResolve _ packet _, .resolved results =>
    decide (results = resolver packet.address.address (decimal packet.address.port.toNat))
  | _, _ => true

/-- The event with the answers of the caches. -/
def Event.withCache (event : Event) (cache : DnsCacheManager) (now : Int) : Event :=
  { event with world := { event.world with
    cachedUdp := cache.getUdp now
    cachedTcp := cache.getTcp now } }

end Trojan

section Dtls

/-- What a step added to a session's trace. -/
def DtlsServerSession.newEffects (before after : DtlsServerSession) : List DtlsEffect :=
  after.trace.drop before.trace.length

/-- The name of a call of `do_resolve_and_send`. -/
def DtlsEffect.name? : DtlsEffect → Option (Bytes × UInt16)
  | .resolveAndSend domain port _ _ => some (domain, port)
  | _ => none

/-- The name a session handles in a step: the one its resolution was for, or the one it called
`do_resolve_and_send` with. -/
def DtlsEvent.nameInHand (effects : List DtlsEffect) : DtlsEvent → Option (Bytes × UInt16)
  | .completed (.resolve domain port _ _) _ _ => some (domain, port)
  | _ => effects.findSome? DtlsEffect.name?

/-- The datagram of an effect. -/
def DtlsEffect.sent? (name : Option (Bytes × UInt16)) : DtlsEffect → Option Sent
  | .sendToTarget endpoint payload _ => some (.dtls name endpoint payload)
  | _ => none

/-- What an effect does to the caches. -/
def DtlsEffect.store (now : Int) (cache : DnsCacheManager) : DtlsEffect → DnsCacheManager
  | .putUdp key endpoint => cache.putUdp now key endpoint
  | _ => cache

/-- A resolution completes with the resolver's answer. -/
def DtlsEvent.answeredBy (resolver : Resolver) : DtlsEvent → Bool
  | .completed (.resolve domain port _ _) (.resolved results) _ =>
    decide (results = resolver domain (decimal port.toNat))
  | _ => true

/-- The event with the answers of the caches. -/
def DtlsEvent.withCache (cache : DnsCacheManager) (now : Int) : DtlsEvent → DtlsEvent
  | .datagram answers => .datagram { answers with cachedUdp := cache.getUdp now }
  | .completed op result answers =>
    .completed op result { answers with cachedUdp := cache.getUdp now }
  | .stop => .stop

end Dtls

/-- The sessions of the process and the caches. -/
structure Service where
  /-- `DnsCacheManager::instance()`. -/
  cache : DnsCacheManager
  /-- TLS and websocket sessions. -/
  sessions : List Session := []
  /-- DTLS sessions. -/
  dtlsSessions : List DtlsServerSession := []
  /-- Datagrams sent to targets. -/
  sent : List Sent := []

/-- What can happen in the process. -/
inductive ServiceEvent where
  /-- A connection is accepted. -/
  | accept (kind : SessionKind)
  /-- A DTLS session is created. -/
  | acceptDtls (ssl : Bool)
  /-- An operation of a session completes. -/
  | session (id : Nat) (event : Event) (now : Int)
  /-- A DTLS session handles an event. -/
  | dtls (id : Nat) (event : DtlsEvent) (now : Int)
  /-- The timer calls `cleanup_expired`. -/
  | cleanup (now : Int)

namespace Service

/-- A process before its first session. -/
def started (ttl : Int) : Service := { cache := { defaultTtl := ttl } }

/-- A session has handled an event. -/
def ranSession (service : Service) (id : Nat) (event : Event) (now : Int) (before after : Session) :
    Service :=
  let effects := before.newEffects after
  { service with
    sessions := service.sessions.set id after
    cache := effects.foldl (Effect.store now) service.cache
    sent := service.sent ++
      effects.filterMap (Effect.sent? (before.packetInHand event.op event.result)) }

/-- A DTLS session has handled an event. -/
def ranDtls (service : Service) (id : Nat) (event : DtlsEvent) (now : Int)
    (before after : DtlsServerSession) : Service :=
  let effects := before.newEffects after
  { service with
    dtlsSessions := service.dtlsSessions.set id after
    cache := effects.foldl (DtlsEffect.store now) service.cache
    sent := service.sent ++ effects.filterMap (DtlsEffect.sent? (event.nameInHand effects)) }

/-- One event. -/
def step (resolver : Resolver) (sha224 : Bytes → Bytes) (config : ServerConfig)
    (service : Service) : ServiceEvent → Option Service
  | .accept kind => some { service with sessions := service.sessions ++ [.start kind] }
  | .acceptDtls ssl => some { service with dtlsSessions := service.dtlsSessions ++ [.created ssl] }
  | .session id event now =>
    if event.answeredBy resolver then
      (service.sessions[id]?).bind fun before =>
        (before.step config (event.withCache service.cache now)).map
          (service.ranSession id event now before)
    else none
  | .dtls id event now =>
    if event.answeredBy resolver then
      (service.dtlsSessions[id]?).bind fun before =>
        (before.step sha224 config (event.withCache service.cache now)).map
          (service.ranDtls id event now before)
    else none
  | .cleanup now => some { service with cache := service.cache.cleanupExpired now }

end Service

end Overplus.Server
