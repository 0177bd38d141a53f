import Overplus.Server.Service
import Overplus.Server.SessionNames
import Overplus.Verif.ServedTarget

/-!
# The endpoint a session connects to

The TCP sessions of a process share one cache of endpoints. Whatever the resolver answers, and
however its answers change, a session connects to the first endpoint of an answer to a resolution
of the very host and port its own first message asks for: one that completed just now, or one that
another session asked for and that is younger than the time entries live.
-/
namespace Overplus.Verif.TcpTarget

open Server ServedTarget

/-- A session that serves a TCP target under a name. -/
structure Seeks (host port : Bytes) (session : Session) : Prop where
  /-- The session is in TCP mode. -/
  tcp : session.OnlyTcp
  /-- It asked for the host. -/
  host : session.remoteHost = host
  /-- It asked for the service. -/
  port : session.remotePort = port

/-- At a time, a session that serves a target under the name was told the endpoint: it is the
first one of the answer to the session's resolution. -/
def Learned (past : List ServiceEvent) (sessions : List Session) (host port : Bytes)
    (endpoint : Endpoint) (time : Int) : Prop :=
  ∃ id asker results world,
    .session id ⟨.resolve (Session.dnsKey host port), .resolved results, world⟩ time ∈ past ∧
      results.head? = some endpoint ∧ sessions[id]? = some asker ∧ Seeks host port asker

/-- An entry of the TCP cache was learned under its key when it was entered. -/
def Entered (ttl : Int) (past : List ServiceEvent) (sessions : List Session)
    (entry : Bytes × CacheEntry) : Prop :=
  ∃ (host : Bytes) (port : UInt16) (time : Int),
    entry.1 = Session.dnsKey host (decimal port.toNat) ∧ entry.2.expireTime = time + ttl ∧
      Learned past sessions host (decimal port.toNat) entry.2.endpoint time

/-- What a session asks the resolver for is its own name. -/
def AsksOwn (session : Session) : Prop :=
  ∀ key, .resolve key ∈ session.pending → ∃ port : UInt16,
    session.remotePort = decimal port.toNat ∧
      key = Session.dnsKey session.remoteHost session.remotePort

/-- What is known of the sessions and the TCP cache of a process. -/
structure Known (config : ServerConfig) (ttl : Int) (past : List ServiceEvent)
    (service : Service) : Prop where
  /-- Entries live for the time set. -/
  lives : service.cache.defaultTtl = ttl
  /-- Every session has run from its start. -/
  runs : ∀ session ∈ service.sessions, ∃ kind events,
    run (Session.step config) (.start kind) events = some session
  /-- Every session asks for its own name. -/
  asks : ∀ session ∈ service.sessions, AsksOwn session
  /-- Every entry of the TCP cache was learned. -/
  entries : ∀ entry ∈ service.cache.tcpCache, Entered ttl past service.sessions entry

variable {resolver : Resolver} {sha224 : Bytes → Bytes} {config : ServerConfig} {ttl now : Int}
  {past : List ServiceEvent} {service next : Service} {event : ServiceEvent} {id : Nat}
  {session before after : Session} {host port key : Bytes} {endpoint : Endpoint}

section Sessions

/-- **A step of a session** that serves a target keeps the name of the target. -/
theorem Seeks.step {completion : Event} (seeks : Seeks host port before)
    (stepped : before.step config completion = some after) : Seeks host port after := by
  obtain ⟨member, -, outcome⟩ := Session.step_outcome stepped
  have own := seeks.tcp completion.op member
  have rest : (before.complete completion.op).OnlyTcp := fun other left =>
    seeks.tcp other (List.mem_of_mem_erase left)
  obtain ⟨-, admitted, rfl⟩ := Session.step_some stepped
  have same : kept ((before.complete completion.op).handle config completion.world completion.op
      completion.result) = kept before := handle_kept (tcpCompletion_of_admits own admitted)
  exact ⟨rest.outcome own outcome, (congrArg Kept.remoteHost same).trans seeks.host,
    (congrArg Kept.remotePort same).trans seeks.port⟩

/-- A session with an operation of the TCP mode behind its first message serves the target of
that message. -/
theorem serving_of_pending {kind : SessionKind} {events : List Event} {op : Op}
    (ran : run (Session.step config) (.start kind) events = some session)
    (member : op ∈ session.pending) (tcp : op.isTcp = true) :
    Serving config events session := by
  cases run_course ran with
  | waiting waiting =>
    obtain ⟨hello, greeting, rfl⟩ := waiting
    rw [List.mem_singleton.mp member] at tcp
    cases hello <;> first | (cases tcp; done) | cases greeting
  | serving serving => exact serving
  | other relaying =>
    have udp := relaying.udp op member
    cases op <;> first | (cases tcp; done) | cases udp

/-- A session that waits for its first message waits for nothing else. -/
theorem alone_of_firstRead {kind : SessionKind} {events : List Event}
    (ran : run (Session.step config) (.start kind) events = some session)
    (member : .firstRead ∈ session.pending) : session.pending = [.firstRead] := by
  cases run_course ran with
  | waiting waiting =>
    obtain ⟨hello, -, rfl⟩ := waiting
    rw [List.mem_singleton.mp member]
  | serving serving => cases serving.tcp _ member
  | other relaying => cases relaying.udp _ member

/-- A step extends the run of a session. -/
theorem run_step {kind : SessionKind} {events : List Event} {completion : Event}
    (ran : run (Session.step config) (.start kind) events = some before)
    (stepped : before.step config completion = some after) :
    run (Session.step config) (.start kind) (events ++ [completion]) = some after := by
  rw [run_append ran, run_single stepped]

end Sessions

section Cache

/-- What was learned stays known. -/
theorem Learned.mono {sessions later : List Session} {more : List ServiceEvent} {time : Int}
    (learned : Learned past sessions host port endpoint time)
    (stays : ∀ (id : Nat) asker, sessions[id]? = some asker → Seeks host port asker →
      ∃ same, later[id]? = some same ∧ Seeks host port same) :
    Learned (past ++ more) later host port endpoint time := by
  obtain ⟨id, asker, results, world, told, first, found, seeks⟩ := learned
  obtain ⟨same, there, still⟩ := stays id asker found seeks
  exact ⟨id, same, results, world, List.mem_append_left _ told, first, there, still⟩

/-- Effects that enter no TCP name leave the TCP cache alone. -/
theorem store_tcp {effects : List Effect} (now : Int) (cache : DnsCacheManager)
    (quiet : ∀ effect ∈ effects, ∀ key endpoint, effect ≠ .putTcp key endpoint) :
    (effects.foldl (Effect.store now) cache).tcpCache = cache.tcpCache ∧
      (effects.foldl (Effect.store now) cache).defaultTtl = cache.defaultTtl := by
  apply List.foldlRecOn effects (motive := fun (stored : DnsCacheManager) =>
    stored.tcpCache = cache.tcpCache ∧ stored.defaultTtl = cache.defaultTtl) _ ⟨rfl, rfl⟩
  intro stored same effect member
  cases effect with
  | putTcp key endpoint => exact absurd rfl (quiet _ member key endpoint)
  | _ => exact same

/-- DTLS sessions leave the TCP cache alone. -/
theorem dtlsStore_tcp (effects : List DtlsEffect) (now : Int) (cache : DnsCacheManager) :
    (effects.foldl (DtlsEffect.store now) cache).tcpCache = cache.tcpCache ∧
      (effects.foldl (DtlsEffect.store now) cache).defaultTtl = cache.defaultTtl := by
  apply List.foldlRecOn effects (motive := fun (stored : DnsCacheManager) =>
    stored.tcpCache = cache.tcpCache ∧ stored.defaultTtl = cache.defaultTtl) _ ⟨rfl, rfl⟩
  intro stored same effect _
  cases effect <;> exact same

/-- What a lookup answers has not expired. -/
theorem entry_of_get {table : NameTable} (found : table.get now key = some endpoint) :
    ∃ entry, (key, entry) ∈ table ∧ entry.endpoint = endpoint ∧ now < entry.expireTime := by
  unfold NameTable.get at found
  split at found
  · rename_i entry stored
    split at found
    · rename_i fresh
      exact ⟨entry, mem_of_lookup stored, Option.some.inj found, fresh⟩
    · cases found
  · cases found

end Cache

section Process

/-- A process in which a session has handled an event. -/
theorem step_session {completion : Event}
    (stepped : service.step resolver sha224 config (.session id completion now) = some next) :
    ∃ before after, service.sessions[id]? = some before ∧
      before.step config (completion.withCache service.cache now) = some after ∧
      next = service.ranSession id completion now before after := by
  unfold Service.step at stepped
  dsimp only at stepped
  split at stepped
  · obtain ⟨before, found, rest⟩ := Option.bind_eq_some_iff.mp stepped
    obtain ⟨after, ran, rfl⟩ := Option.map_eq_some_iff.mp rest
    exact ⟨before, after, found, ran, rfl⟩
  · cases stepped

/-- A session that serves a target still does so after a step of any session. -/
theorem seeks_set {completion : Event} (found : service.sessions[id]? = some before)
    (ran : before.step config completion = some after) (other : Nat) (asker : Session)
    (there : service.sessions[other]? = some asker) (seeks : Seeks host port asker) :
    ∃ same, (service.sessions.set id after)[other]? = some same ∧ Seeks host port same := by
  by_cases own : other = id
  · subst own
    obtain rfl := Option.some.inj (found.symm.trans there)
    refine ⟨after, ?_, seeks.step ran⟩
    exact List.getElem?_set_self (List.getElem?_eq_some_iff.mp found).1
  · refine ⟨asker, ?_, seeks⟩
    rw [List.getElem?_set_ne (Ne.symm own)]
    exact there

/-- A session that asks for its own name does so after a step. -/
theorem AsksOwn.step {completion : Event} (asks : AsksOwn before)
    (idle : completion.op = .firstRead → before.pending = [.firstRead])
    (ran : before.step config completion = some after) : AsksOwn after := by
  obtain ⟨member, targets⟩ := Session.step_targets ran
  obtain ⟨op, result, world⟩ := completion
  intro key pending
  have none (first : op = .firstRead) {parsed : Session}
      (same : (before.complete op).Steady parsed) : .resolve key ∉ parsed.pending := by
    intro still
    have old := List.mem_of_mem_erase (same.asks key still)
    rw [idle first] at old
    cases List.mem_singleton.mp old
  cases targets with
  | steady same =>
    rw [same.host, same.port]
    exact asks key (List.mem_of_mem_erase (same.asks key pending))
  | cached same =>
    rcases List.mem_append.mp pending with old | new
    · exact (none rfl same old).elim
    · cases List.mem_singleton.mp new
  | @asked _ _ port _ same =>
    rcases List.mem_append.mp pending with old | new
    · exact (none rfl same old).elim
    · refine ⟨port, rfl, ?_⟩
      exact Op.resolve.inj (List.mem_singleton.mp new)
  | resolved =>
    rcases List.mem_append.mp pending with old | new
    · exact asks key (List.mem_of_mem_erase old)
    · cases List.mem_singleton.mp new

/-- The process enters in the cache what the session recorded. -/
theorem ranSession_cache {completion : Event} {effects : List Effect}
    (traced : after.trace = before.trace ++ effects) :
    (service.ranSession id completion now before after).cache =
      effects.foldl (Effect.store now) service.cache := by
  simp only [Service.ranSession, Session.newEffects, traced, List.drop_left]

/-- A session that steps learns the endpoint it enters in the cache. -/
theorem learned_step {results : List Endpoint} {world : World}
    (known : Known config ttl past service) (found : service.sessions[id]? = some before)
    (ran : before.step config (Event.withCache ⟨.resolve key, .resolved results, world⟩
      service.cache now) = some after)
    (first : results.head? = some endpoint) :
    ∃ (host : Bytes) (port : UInt16), key = Session.dnsKey host (decimal port.toNat) ∧
      after.remoteHost = host ∧ after.remotePort = decimal port.toNat ∧
      Learned (past ++ [.session id ⟨.resolve key, .resolved results, world⟩ now])
        (service.sessions.set id after) host (decimal port.toNat) endpoint now := by
  have listed := List.mem_of_getElem? found
  have member : .resolve key ∈ before.pending := (Session.step_some ran).1
  obtain ⟨kind, events, ranBefore⟩ := known.runs before listed
  obtain ⟨port, service, named⟩ := known.asks before listed key member
  have tcp := (serving_of_pending ranBefore member rfl).tcp
  have seeks : Seeks before.remoteHost (decimal port.toNat) before := ⟨tcp, rfl, service⟩
  have still := seeks.step ran
  rw [service] at named
  refine ⟨before.remoteHost, port, named, still.host, still.port, id, after, results, world, ?_,
    first, ?_, still⟩
  · rw [← named]
    exact List.mem_append_right _ (List.mem_singleton_self _)
  · exact List.getElem?_set_self (List.getElem?_eq_some_iff.mp found).1

/-- What was learned stays known after a step of a session. -/
theorem Learned.ran {completion : Event} {more : List ServiceEvent} {time : Int}
    (found : service.sessions[id]? = some before)
    (ran : before.step config completion = some after)
    (learned : Learned past service.sessions host port endpoint time) :
    Learned (past ++ more) (service.sessions.set id after) host port endpoint time :=
  learned.mono fun other asker => seeks_set found ran other asker

/-- **A step of a session** keeps what is known. -/
theorem Known.ranSession {completion : Event} (known : Known config ttl past service)
    (found : service.sessions[id]? = some before)
    (ran : before.step config (completion.withCache service.cache now) = some after) :
    Known config ttl (past ++ [.session id completion now])
      (service.ranSession id completion now before after) := by
  have listed := List.mem_of_getElem? found
  obtain ⟨kind, events, ranBefore⟩ := known.runs before listed
  have runs : ∀ session ∈ service.sessions.set id after, ∃ kind events,
      run (Session.step config) (.start kind) events = some session := by
    intro session member
    rcases List.mem_or_eq_of_mem_set member with old | rfl
    · exact known.runs session old
    · exact ⟨kind, _, run_step ranBefore ran⟩
  have asks : ∀ session ∈ service.sessions.set id after, AsksOwn session := by
    intro session member
    rcases List.mem_or_eq_of_mem_set member with old | rfl
    · exact known.asks session old
    · refine (known.asks before listed).step ?_ ran
      intro first
      exact alone_of_firstRead ranBefore (first ▸ (Session.step_some ran).1)
  -- An entry that was there is still learned.
  have old : ∀ entry ∈ service.cache.tcpCache, Entered ttl
      (past ++ [.session id completion now]) (service.sessions.set id after) entry := by
    intro entry member
    obtain ⟨host, port, time, named, lives, learned⟩ := known.entries entry member
    exact ⟨host, port, time, named, lives, learned.ran found ran⟩
  obtain ⟨effects, traced, finds⟩ := Session.step_found ran
  have cache : (service.ranSession id completion now before after).cache =
      effects.foldl (Effect.store now) service.cache := ranSession_cache traced
  have quietly (quiet : ∀ effect ∈ effects, ∀ key endpoint, effect ≠ .putTcp key endpoint) :
      Known config ttl (past ++ [.session id completion now])
        (service.ranSession id completion now before after) := by
    obtain ⟨table, lives⟩ := store_tcp now service.cache quiet
    rw [← cache] at table lives
    refine ⟨lives.trans known.lives, runs, asks, ?_⟩
    rw [table]
    exact old
  obtain ⟨op, result, world⟩ := completion
  change Session.Found _ after op result effects at finds
  cases finds with
  | nothing steady =>
    apply quietly
    rintro effect member key endpoint rfl
    cases steady _ member
  | cached steady =>
    apply quietly
    rintro effect member key endpoint rfl
    rcases List.mem_append.mp member with early | late
    · cases steady _ early
    · cases List.mem_singleton.mp late
  | resolved first =>
    obtain ⟨host, port, named, -, -, learned⟩ := learned_step known found ran first
    refine ⟨?_, runs, asks, ?_⟩
    · rw [cache]
      exact known.lives
    · rw [cache]
      intro entry member
      change entry ∈ service.cache.tcpCache.put _ _ at member
      rcases List.mem_cons.mp member with rfl | there
      · exact ⟨host, port, now, named, congrArg (now + ·) known.lives, learned⟩
      · exact old entry (List.mem_filter.mp there).1

/-- **One step** of the process keeps what is known. -/
theorem Known.step (known : Known config ttl past service)
    (stepped : service.step resolver sha224 config event = some next) :
    Known config ttl (past ++ [event]) next := by
  obtain ⟨lives, runs, asks, entries⟩ := known
  have grown (more : List Session) : ∀ entry ∈ service.cache.tcpCache,
      Entered ttl (past ++ [event]) (service.sessions ++ more) entry := by
    intro entry member
    obtain ⟨host, port, time, named, expires, learned⟩ := entries entry member
    refine ⟨host, port, time, named, expires, learned.mono ?_⟩
    intro id asker found seeks
    have inside := (List.getElem?_eq_some_iff.mp found).1
    exact ⟨asker, by rw [List.getElem?_append_left inside, found], seeks⟩
  have same := grown []
  rw [List.append_nil] at same
  cases event with
  | accept kind =>
    obtain rfl := Option.some.inj stepped
    refine ⟨lives, ?_, ?_, grown _⟩
    · intro session member
      rcases List.mem_append.mp member with old | new
      · exact runs session old
      · rw [List.mem_singleton.mp new]
        exact ⟨kind, [], rfl⟩
    · intro session member
      rcases List.mem_append.mp member with old | new
      · exact asks session old
      · rw [List.mem_singleton.mp new]
        intro key pending
        cases List.mem_singleton.mp pending
  | acceptDtls ssl =>
    obtain rfl := Option.some.inj stepped
    exact ⟨lives, runs, asks, same⟩
  | session id completion now =>
    obtain ⟨before, after, found, ran, rfl⟩ := step_session stepped
    exact Known.ranSession ⟨lives, runs, asks, entries⟩ found ran
  | dtls id completion now =>
    unfold Service.step at stepped
    dsimp only at stepped
    split at stepped
    · obtain ⟨before, -, rest⟩ := Option.bind_eq_some_iff.mp stepped
      obtain ⟨after, -, rfl⟩ := Option.map_eq_some_iff.mp rest
      obtain ⟨table, live⟩ := dtlsStore_tcp (before.newEffects after) now service.cache
      refine ⟨live.trans lives, runs, asks, ?_⟩
      change ∀ entry ∈ (List.foldl _ service.cache _).tcpCache, _
      rw [table]
      exact same
    · cases stepped
  | cleanup now =>
    obtain rfl := Option.some.inj stepped
    exact ⟨lives, runs, asks, fun entry member => same entry (List.mem_filter.mp member).1⟩

/-- **A session connects to a fresh answer for its own name.** In every run of the process, with
any number of sessions on the shared cache and whatever the resolver answers each time: when a
session opens a connection, the first message it read asked for the host and port it connects
under with an allowed password, and the endpoint is the first one of the answer to a resolution of
just that host and port by a session of the process. The answer came in this very step, or less
than the lifetime of an entry ago. -/
theorem connects_to_fresh_answer (resolver : Resolver) (sha224 : Bytes → Bytes)
    (config : ServerConfig) (ttl now : Int) (past : List ServiceEvent) (service next : Service)
    (id : Nat) (completion : Event) (before after : Session) (endpoint : Endpoint)
    (ran : run (Service.step resolver sha224 config) (.started ttl) past = some service)
    (stepped : service.step resolver sha224 config (.session id completion now) = some next)
    (found : service.sessions[id]? = some before) (made : next.sessions[id]? = some after)
    (opened : .connect endpoint ∈ before.newEffects after) :
    ∃ data time, .firstMessage data ∈ after.trace ∧ Asks config data (kept after) ∧
      Learned (past ++ [.session id completion now]) next.sessions after.remoteHost
        after.remotePort endpoint time ∧ (time = now ∨ now < time + ttl) := by
  have start : Known config ttl [] (.started ttl) :=
    ⟨rfl, fun _ member => (by cases member), fun _ member => (by cases member),
      fun _ member => (by cases member)⟩
  have known : Known config ttl ([] ++ past) service :=
    run_history (fun _ _ _ _ known stepped => known.step stepped) start ran
  obtain ⟨session, left, there, handled, rfl⟩ := step_session stepped
  obtain rfl := Option.some.inj (found.symm.trans there)
  have inside := (List.getElem?_eq_some_iff.mp found).1
  change (service.sessions.set id left)[id]? = some after at made
  rw [List.getElem?_set_self inside] at made
  obtain rfl := Option.some.inj made
  obtain ⟨effects, traced, finds⟩ := Session.step_found handled
  have gained : before.newEffects left = effects := by
    rw [Session.newEffects, traced, List.drop_left]
  rw [gained] at opened
  -- A session that opens a connection waits for it, so it serves its first message's target.
  have serves (waits : .connect ∈ left.pending) :
      ∃ data, .firstMessage data ∈ left.trace ∧ Asks config data (kept left) := by
    obtain ⟨kind, events, ranBefore⟩ := known.runs before (List.mem_of_getElem? found)
    obtain ⟨-, data, message, asks, -⟩ := serving_of_pending (run_step ranBefore handled) waits rfl
    exact ⟨data, message, asks⟩
  obtain ⟨op, result, world⟩ := completion
  change Session.Found _ left op result effects at finds
  cases finds with
  | nothing steady => cases steady _ opened
  | @cached data quiet port hit steady named answered waits =>
    have same : endpoint = hit := by
      rcases List.mem_append.mp opened with early | late
      · cases steady _ early
      · exact Effect.connect.inj (List.mem_singleton.mp late)
    obtain ⟨entry, stored, holds, fresh⟩ := entry_of_get answered
    obtain ⟨host, number, time, key, expires, learned⟩ := known.entries _ stored
    -- The key of the entry stands for this session's own name.
    rw [named] at key
    obtain ⟨sameHost, samePort⟩ := append_colon_decimal_inj key
    obtain ⟨data, message, asks⟩ := serves waits
    refine ⟨data, time, message, asks, ?_, .inr (expires ▸ fresh)⟩
    rw [named, sameHost, samePort, same, ← holds]
    exact learned.ran found handled
  | @resolved key results hit first waits =>
    have same : endpoint = hit := by
      rcases List.mem_pair.mp opened with entered | made
      · cases entered
      · exact Effect.connect.inj made
    obtain ⟨host, port, -, atHost, atPort, learned⟩ := learned_step known found handled first
    obtain ⟨data, message, asks⟩ := serves waits
    refine ⟨data, now, message, asks, ?_, .inl rfl⟩
    rw [atHost, atPort, same]
    exact learned

/-- The first message of a Trojan client with password `p` for port 80 of the host `a`. -/
def sampleMessage : Bytes := [0x70, 13, 10, 1, 3, 1, 97, 0, 80, 13, 10]

/-- A session resolves the name of its target, and a second session for the same target is about
to read its first message. -/
def sampleEvents : List ServiceEvent :=
  [.accept .tls, .session 0 ⟨.handshake, .done, {}⟩ 0,
    .session 0 ⟨.firstRead, .read sampleMessage, {}⟩ 1,
    .session 0 ⟨.resolve (Session.dnsKey [97] (decimal 80)), .resolved [.unspecified], {}⟩ 2,
    .accept .websocket, .session 1 ⟨.handshake, .done, {}⟩ 3, .session 1 ⟨.accept, .done, {}⟩ 4]

/-- The second session connects to the endpoint the first one learned. -/
theorem connects_to_fresh_answer_sample : ∃ service next before after,
    run (Service.step (fun _ _ => []) (fun text => text) ⟨[[0x70]]⟩) (.started 600) sampleEvents =
        some service ∧
      service.step (fun _ _ => []) (fun text => text) ⟨[[0x70]]⟩
        (.session 1 ⟨.firstRead, .read sampleMessage, {}⟩ 500) = some next ∧
      service.sessions[1]? = some before ∧ next.sessions[1]? = some after ∧
      .connect .unspecified ∈ before.newEffects after ∧
      ∃ data time, .firstMessage data ∈ after.trace ∧ Asks ⟨[[0x70]]⟩ data (kept after) ∧
        Learned (sampleEvents ++ [.session 1 ⟨.firstRead, .read sampleMessage, {}⟩ 500])
          next.sessions after.remoteHost after.remotePort .unspecified time ∧
        (time = 500 ∨ 500 < time + 600) := by
  have checked : (run (Service.step (fun _ _ => []) (fun text => text) ⟨[[0x70]]⟩) (.started 600)
      sampleEvents).any (fun service => (service.step (fun _ _ => []) (fun text => text) ⟨[[0x70]]⟩
        (.session 1 ⟨.firstRead, .read sampleMessage, {}⟩ 500)).any fun next =>
          (service.sessions[1]?).any fun before => (next.sessions[1]?).any fun after =>
            decide (.connect .unspecified ∈ before.newEffects after)) = true := by
    decide +kernel
  obtain ⟨service, ran, goes⟩ := exists_of_run checked
  obtain ⟨next, stepped, both⟩ := (Option.any_eq_true _ _).mp goes
  obtain ⟨before, found, later⟩ := (Option.any_eq_true _ _).mp both
  obtain ⟨after, made, good⟩ := (Option.any_eq_true _ _).mp later
  have opened := of_decide_eq_true good
  exact ⟨service, next, before, after, ran, stepped, found, made, opened,
    connects_to_fresh_answer _ _ _ _ _ _ _ _ _ _ _ _ _ ran stepped found made opened⟩

end Process

end Overplus.Verif.TcpTarget
