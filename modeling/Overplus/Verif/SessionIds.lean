import Overplus.Client.SessionSteps
import Overplus.Library.Table

/-!
# Ids of live associations

Every UDP association of the client takes the next value of a 16-bit counter as its id. As long
as the value is not zero and no live association holds it, the table of relays is exact: every
live association is in it under its own id, and nothing else is. The counter wraps, so after
65535 associations an id is zero, or the id of a live association, and this fails.
-/
namespace Overplus.Verif.SessionIds

open Client

/-- Id of a session's relay, if it has one. -/
def relayId (session : Session) : Option UInt16 := session.udpRelay.map (·.sessionId)

/-- A session that has registered a relay and was not destroyed. -/
def Live (session : Session) : Prop :=
  session.destroyed = false ∧ session.udpRelay.isSome = true

/-- The table of relays is the table of live associations. -/
structure IdsOk (client : Process) : Prop where
  /-- A live association has an id other than zero, and the table has its relay under it. -/
  mapped : ∀ (index : Nat) (session : Session), client.sessions[index]? = some session →
    Live session →
      session.sessionId ≠ 0 ∧ client.server.findRelay session.sessionId = some index
  /-- No two live associations have the same id. -/
  distinct : ∀ (first second : Nat) (one other : Session), client.sessions[first]? = some one →
    client.sessions[second]? = some other → Live one → Live other →
    one.sessionId = other.sessionId → first = second
  /-- No entry is that of a destroyed session. -/
  clean : ∀ entry ∈ client.server.relays, ∃ session,
    client.sessions[entry.2]? = some session ∧ session.destroyed = false

/-- If the event allocates an id, the id is not zero and nothing is registered under it. -/
def FreshId (config : ClientConfig) (client : Process) (event : Event) : Prop :=
  ∀ next, client.step config event = some next →
    next.server.allocated ≠ client.server.allocated →
    client.server.nextSessionId ≠ 0 ∧
      client.server.findRelay client.server.nextSessionId = none

instance (config : ClientConfig) (client : Process) (event : Event) :
    Decidable (FreshId config client event) :=
  inferInstanceAs (Decidable (∀ next ∈ client.step config event,
    next.server.allocated ≠ client.server.allocated →
    client.server.nextSessionId ≠ 0 ∧
      client.server.findRelay client.server.nextSessionId = none))

/-- A session keeps its id and its relay in step, and has neither before its request. -/
structure Tidy (session : Session) : Prop where
  /-- A session with a relay is live under the relay's id, which is not zero. -/
  held : ∀ sid, relayId session = some sid →
    session.destroyed = false ∧ session.sessionId = sid ∧ sid ≠ 0
  /-- A session without a relay that was not destroyed has no id. -/
  bare : session.destroyed = false → relayId session = none → session.sessionId = 0
  /-- Before the request one operation is in flight, and there is no relay yet. -/
  early : ∀ op ∈ session.pending, op.isEarly = true →
    session.pending = [op] ∧ session.destroyed = false ∧ relayId session = none

/-- The table of relays and the sessions agree. -/
structure Consistent (client : Process) : Prop where
  /-- Sessions are numbered by their index. -/
  numbered : ∀ (index : Nat) (session : Session), client.sessions[index]? = some session →
    session.number = index
  /-- No id occurs twice in the table. -/
  keyed : Keyed client.server.relays
  /-- The table lists the relays of the sessions. -/
  entries : ∀ (sid : UInt16) (index : Nat), (sid, index) ∈ client.server.relays ↔
    ∃ session, client.sessions[index]? = some session ∧ relayId session = some sid
  /-- Every session is tidy. -/
  tidy : ∀ session ∈ client.sessions, Tidy session

variable {config : ClientConfig} {client next : Process} {session changed : Session}
  {event : Event} {server : Client.Server} {op : Op} {number : Nat}

/-- Tidiness is about ids, relays and what is in flight. -/
theorem Tidy.congr (tidy : Tidy session) (dead : changed.destroyed = session.destroyed)
    (sid : changed.sessionId = session.sessionId) (relay : relayId changed = relayId session)
    (pending : changed.pending = session.pending) : Tidy changed where
  held := by rw [relay, dead, sid]; exact tidy.held
  bare := by rw [relay, dead, sid]; exact tidy.bare
  early := by rw [relay, dead, pending]; exact tidy.early

/-- Behind a completed operation nothing early is left. -/
theorem Tidy.rest (tidy : Tidy session) (member : op ∈ session.pending) :
    ∀ other ∈ session.pending.erase op, other.isEarly = false := by
  intro other left
  by_contra isEarly
  obtain ⟨alone, -, -⟩ := tidy.early other (List.mem_of_mem_erase left) (by simpa using isEarly)
  rw [alone, List.mem_singleton] at member
  rw [alone, member, List.erase_cons_head] at left
  cases left

/-- An exact table with tidy sessions is the table of live associations. -/
theorem Consistent.idsOk (consistent : Consistent client) : IdsOk client := by
  have entry {index : Nat} {session : Session} (found : client.sessions[index]? = some session)
      (live : Live session) :
      session.sessionId ≠ 0 ∧ (session.sessionId, index) ∈ client.server.relays := by
    obtain ⟨relay, owned⟩ := Option.isSome_iff_exists.mp live.2
    have same : relayId session = some relay.sessionId := by rw [relayId, owned]; rfl
    have tidy := consistent.tidy session (List.mem_of_getElem? found)
    obtain ⟨-, sid, nonzero⟩ := tidy.held _ same
    rw [sid]
    exact ⟨nonzero, (consistent.entries _ _).mpr ⟨session, found, same⟩⟩
  refine ⟨?_, ?_, ?_⟩
  · intro index session found live
    obtain ⟨nonzero, member⟩ := entry found live
    exact ⟨nonzero, consistent.keyed.lookup member⟩
  · intro first second one other foundOne foundOther liveOne liveOther same
    have left := (entry foundOne liveOne).2
    have right := (entry foundOther liveOther).2
    rw [same] at left
    exact consistent.keyed.unique left right
  · rintro ⟨sid, index⟩ member
    obtain ⟨session, found, same⟩ := (consistent.entries sid index).mp member
    have tidy := consistent.tidy session (List.mem_of_getElem? found)
    exact ⟨session, found, (tidy.held sid same).1⟩

/-- A session's entry is that of its relay. -/
theorem Consistent.entry_iff (consistent : Consistent client)
    (found : client.sessions[number]? = some session) {sid : UInt16} :
    (sid, number) ∈ client.server.relays ↔ relayId session = some sid := by
  rw [consistent.entries, found]
  simp

/-- One session and the table change together. -/
theorem Consistent.put (consistent : Consistent client)
    (found : client.sessions[number]? = some session) (same : changed.number = session.number)
    (keyed : Keyed server.relays)
    (own : ∀ sid, (sid, number) ∈ server.relays ↔ relayId changed = some sid)
    (others : ∀ sid index, index ≠ number →
      ((sid, index) ∈ server.relays ↔ (sid, index) ∈ client.server.relays))
    (tidy : Tidy changed) : Consistent (client.putScope number ⟨server, changed⟩) := by
  refine ⟨?_, keyed, ?_, ?_⟩
  · intro index other there
    rcases getElem?_set_cases there with ⟨rfl, rfl⟩ | ⟨-, old⟩
    · rw [same]
      exact consistent.numbered _ _ found
    · exact consistent.numbered _ _ old
  · intro sid index
    change (sid, index) ∈ server.relays ↔ _
    rw [Process.getElem?_putScope found]
    split
    · rename_i here
      subst here
      rw [own sid]
      simp
    · rename_i elsewhere
      rw [others sid index elsewhere, consistent.entries]
  · intro other member
    rcases List.mem_or_eq_of_mem_set member with old | new
    · exact consistent.tidy other old
    · rw [new]
      exact tidy

/-- A handler that leaves the table alone keeps it exact. -/
theorem Consistent.plain {scope : Scope} {added : List Op} (consistent : Consistent client)
    (found : client.sessions[number]? = some session) (member : op ∈ session.pending)
    (same : scope.registry = Scope.registry ⟨client.server, session⟩)
    (pending : scope.session.pending = session.pending.erase op ++ added)
    (early : ∀ other ∈ added, other.isEarly = true → op.isEarly = true ∧ added = [other]) :
    Consistent (client.putScope number scope) := by
  have tidy := consistent.tidy session (List.mem_of_getElem? found)
  have relays : scope.server.relays = client.server.relays := congrArg Registry.relays same
  have relay : relayId scope.session = relayId session :=
    congrArg (fun registry => registry.relay.map (·.sessionId)) same
  have dead : scope.session.destroyed = session.destroyed := congrArg Registry.destroyed same
  have sid : scope.session.sessionId = session.sessionId := congrArg Registry.sessionId same
  refine consistent.put found (congrArg Registry.number same) ?_ ?_ ?_ ⟨?_, ?_, ?_⟩
  · rw [relays]
    exact consistent.keyed
  · intro sid
    rw [relays, relay]
    exact consistent.entry_iff found
  · intro sid index _
    rw [relays]
  · rw [relay, dead, sid]
    exact tidy.held
  · rw [relay, dead, sid]
    exact tidy.bare
  · intro other left isEarly
    rw [pending] at left
    rcases List.mem_append.mp left with old | new
    · rw [tidy.rest member other old] at isEarly
      cases isEarly
    · obtain ⟨wasEarly, alone⟩ := early other new isEarly
      obtain ⟨only, living, none⟩ := tidy.early op member wasEarly
      rw [dead, relay, pending, only, List.erase_cons_head, alone]
      exact ⟨rfl, living, none⟩

/-- A destroyed session without a relay is tidy. -/
theorem Tidy.gone (tidy : Tidy session) (member : op ∈ session.pending)
    (dead : changed.destroyed = true) (relay : relayId changed = none)
    (pending : changed.pending = session.pending.erase op) : Tidy changed := by
  refine ⟨?_, ?_, ?_⟩
  · rw [relay]
    intro sid none
    cases none
  · rw [dead]
    intro none
    cases none
  · intro other left isEarly
    rw [pending] at left
    rw [tidy.rest member other left] at isEarly
    cases isEarly

/-- Removing the key of a session's entry removes this entry and no other. -/
theorem Consistent.mem_filter (consistent : Consistent client) {sid other : UInt16} {index : Nat}
    (mine : (sid, number) ∈ client.server.relays) (elsewhere : index ≠ number) :
    (other, index) ∈ client.server.relays.filter (fun entry => entry.1 ≠ sid) ↔
      (other, index) ∈ client.server.relays := by
  rw [List.mem_filter]
  constructor
  · intro entry
    exact entry.1
  · intro entry
    refine ⟨entry, decide_eq_true ?_⟩
    rintro rfl
    exact elsewhere (consistent.keyed.unique entry mine)

/-- Destroying a session removes its entry and no other. -/
theorem Consistent.destroyed {scope : Scope} (consistent : Consistent client)
    (found : client.sessions[number]? = some session) (member : op ∈ session.pending)
    (same : scope.registry = (Scope.registry ⟨client.server, session⟩).destroy)
    (pending : scope.session.pending = session.pending.erase op) :
    Consistent (client.putScope number scope) := by
  have tidy := consistent.tidy session (List.mem_of_getElem? found)
  by_cases dead : session.destroyed = true
  · have kept : (Scope.registry ⟨client.server, session⟩).destroy =
        Scope.registry ⟨client.server, session⟩ := if_pos dead
    exact consistent.plain found member (same.trans kept) (by rw [pending, List.append_nil])
      (by simp)
  · have removed : (Scope.registry ⟨client.server, session⟩).destroy = _ := if_neg dead
    rw [removed] at same
    have living : session.destroyed = false := by simpa using dead
    have relay : relayId scope.session = none :=
      congrArg (fun registry => registry.relay.map (·.sessionId)) same
    have relays := congrArg Registry.relays same
    have gone : Tidy scope.session :=
      tidy.gone member (congrArg Registry.destroyed same) relay pending
    -- Whether the session holds an entry decides whether its id is zero.
    cases holds : relayId session with
    | none =>
      have zero : session.sessionId = 0 := tidy.bare living holds
      have unchanged : scope.server.relays = client.server.relays := by
        refine relays.trans ?_
        exact if_neg (not_not.mpr zero)
      refine consistent.put found (congrArg Registry.number same) ?_ ?_ ?_ gone
      · rw [unchanged]
        exact consistent.keyed
      · intro sid
        rw [unchanged, relay, consistent.entry_iff found, holds]
      · intro sid index _
        rw [unchanged]
    | some sid =>
      obtain ⟨-, isSid, nonzero⟩ := tidy.held sid holds
      have filtered : scope.server.relays =
          client.server.relays.filter fun entry => entry.1 ≠ sid := by
        have held : session.sessionId ≠ 0 := by
          rw [isSid]
          exact nonzero
        rw [← isSid]
        exact relays.trans (if_pos held)
      refine consistent.put found (congrArg Registry.number same) ?_ ?_ ?_ gone
      · rw [filtered]
        exact consistent.keyed.filter _
      · intro other
        rw [filtered, relay, List.mem_filter, consistent.entry_iff found, holds]
        constructor
        · rintro ⟨isMine, isOther⟩
          exact absurd (Option.some.inj isMine).symm (of_decide_eq_true isOther)
        · intro none
          cases none
      · intro other index elsewhere
        rw [filtered]
        exact consistent.mem_filter ((consistent.entry_iff found).mpr holds) elsewhere

/-- Registering a relay under a free id adds its entry. -/
theorem Consistent.registered {scope : Scope} (consistent : Consistent client)
    (found : client.sessions[number]? = some session)
    (member : .requestRead ∈ session.pending)
    (same : scope.registry = (Scope.registry ⟨client.server, session⟩).register)
    (pending : scope.session.pending = session.pending.erase .requestRead ++ [.associateWrite])
    (nonzero : client.server.nextSessionId ≠ 0)
    (free : client.server.findRelay client.server.nextSessionId = none) :
    Consistent (client.putScope number scope) := by
  have tidy := consistent.tidy session (List.mem_of_getElem? found)
  obtain ⟨alone, living, bare⟩ := tidy.early _ member rfl
  have missing (index : Nat) : (client.server.nextSessionId, index) ∉ client.server.relays :=
    not_mem_of_lookup_none consistent.keyed free index
  have isNumber : session.number = number := consistent.numbered _ _ found
  have relay : relayId scope.session = some client.server.nextSessionId :=
    congrArg (fun registry => registry.relay.map (·.sessionId)) same
  have relays : scope.server.relays = (client.server.nextSessionId, number) ::
      client.server.relays.filter fun entry => entry.1 ≠ client.server.nextSessionId := by
    rw [← isNumber]
    exact congrArg Registry.relays same
  have isSid : scope.session.sessionId = client.server.nextSessionId :=
    congrArg Registry.sessionId same
  have isLiving : scope.session.destroyed = false :=
    (congrArg Registry.destroyed same).trans living
  refine consistent.put found (congrArg Registry.number same) ?_ ?_ ?_ ⟨?_, ?_, ?_⟩
  · rw [relays]
    exact consistent.keyed.replace _ _
  · intro sid
    rw [relays, relay, List.mem_cons, List.mem_filter]
    constructor
    · rintro (new | ⟨old, -⟩)
      · rw [(Prod.mk.inj new).1]
      · rw [consistent.entry_iff found, bare] at old
        cases old
    · intro new
      rw [Option.some.inj new]
      exact .inl rfl
  · intro sid index elsewhere
    rw [relays, List.mem_cons, List.mem_filter]
    constructor
    · rintro (new | ⟨old, -⟩)
      · exact absurd (Prod.mk.inj new).2 elsewhere
      · exact old
    · intro old
      refine .inr ⟨old, ?_⟩
      by_contra equal
      have key : sid = client.server.nextSessionId := by simpa using equal
      rw [key] at old
      exact missing index old
  · intro sid holds
    rw [relay] at holds
    rw [isSid, ← Option.some.inj holds]
    exact ⟨isLiving, rfl, nonzero⟩
  · rw [relay]
    intro _ none
    cases none
  · intro other left isEarly
    rw [pending, alone, List.erase_cons_head, List.nil_append, List.mem_singleton] at left
    rw [left] at isEarly
    cases isEarly

/-- A session that starts is tidy, and leaves the table alone. -/
theorem Tidy.start {fresh : Session} (bare : relayId fresh = none)
    (living : fresh.destroyed = false) (zero : fresh.sessionId = 0) (idle : fresh.pending = [])
    (world : World) :
    Tidy (Scope.start ⟨server, fresh⟩ world).session ∧
      (Scope.start ⟨server, fresh⟩ world).registry = Scope.registry ⟨server, fresh⟩ := by
  have tidy {started : Session} (relay : relayId started = relayId fresh)
      (dead : started.destroyed = fresh.destroyed) (sid : started.sessionId = fresh.sessionId)
      (few : ∀ op ∈ started.pending, started.pending = [op]) : Tidy started := by
    rw [bare] at relay
    refine ⟨?_, fun _ _ => sid.trans zero, fun op member _ =>
      ⟨few op member, dead.trans living, relay⟩⟩
    intro sid holds
    rw [relay] at holds
    cases holds
  unfold Scope.start
  split
  · refine ⟨tidy rfl rfl rfl ?_, rfl⟩
    change ∀ op ∈ fresh.pending ++ [.firstRead], fresh.pending ++ [.firstRead] = [op]
    simp [idle]
  · refine ⟨tidy rfl rfl rfl ?_, rfl⟩
    change ∀ op ∈ fresh.pending, fresh.pending = [op]
    simp [idle]

/-- Accepting a connection adds a session without a relay. -/
theorem Consistent.accept (consistent : Consistent client) (world : World) :
    Consistent (client.accept config world) := by
  obtain ⟨tidy, same⟩ := @Tidy.start client.server
    (Session.accepted config client.sessions.length) rfl rfl rfl rfl world
  have relays : (client.accept config world).server.relays = client.server.relays :=
    congrArg Registry.relays same
  have bare : relayId (Scope.start
      ⟨client.server, .accepted config client.sessions.length⟩ world).session = none :=
    congrArg (fun registry => registry.relay.map (·.sessionId)) same
  have isNumber : (Scope.start
      ⟨client.server, .accepted config client.sessions.length⟩ world).session.number =
        client.sessions.length := congrArg Registry.number same
  refine ⟨?_, ?_, ?_, ?_⟩
  · intro index other there
    rcases Process.accept_cases there with old | ⟨rfl, rfl⟩
    · exact consistent.numbered _ _ old
    · exact isNumber
  · rw [relays]
    exact consistent.keyed
  · intro sid index
    rw [relays, consistent.entries]
    constructor
    · rintro ⟨other, there, holds⟩
      exact ⟨other, getElem?_concat_old there, holds⟩
    · rintro ⟨other, there, holds⟩
      rcases Process.accept_cases there with old | ⟨rfl, rfl⟩
      · exact ⟨other, old, holds⟩
      · rw [bare] at holds
        cases holds
  · intro other member
    rcases List.mem_append.mp member with old | new
    · exact consistent.tidy other old
    · rw [List.mem_singleton.mp new]
      exact tidy

/-- Work of the relays and of the channel leaves the table exact. -/
theorem Consistent.frame (consistent : Consistent client) (frame : Process.Frame client next) :
    Consistent next := by
  have relay {one other : Session} (same : Process.outline one = Process.outline other) :
      relayId one = relayId other := by
    have ids := congrArg relayId same
    simpa [relayId, Process.outline, Option.map_map, Function.comp_def] using ids
  refine ⟨?_, ?_, ?_, ?_⟩
  · intro index session found
    obtain ⟨old, isOld, same⟩ := frame.back found
    have isNumber := consistent.numbered _ _ isOld
    rw [Process.eq_of_outline same]
    exact isNumber
  · rw [frame.relays]
    exact consistent.keyed
  · intro sid index
    rw [frame.relays, consistent.entries]
    constructor
    · rintro ⟨old, isOld, holds⟩
      obtain ⟨session, found, same⟩ := frame.forth isOld
      exact ⟨session, found, (relay same).trans holds⟩
    · rintro ⟨session, found, holds⟩
      obtain ⟨old, isOld, same⟩ := frame.back found
      exact ⟨old, isOld, (relay same).symm.trans holds⟩
  · intro session member
    obtain ⟨index, found⟩ := List.mem_iff_getElem?.mp member
    obtain ⟨old, isOld, same⟩ := frame.back found
    refine (consistent.tidy old (List.mem_of_getElem? isOld)).congr ?_ ?_ (relay same) ?_
    all_goals rw [Process.eq_of_outline same]

/-- **One event of the client** keeps the table exact, if the id it allocates is fresh. -/
theorem Consistent.step (consistent : Consistent client)
    (fresh : next.server.allocated ≠ client.server.allocated →
      client.server.nextSessionId ≠ 0 ∧
        client.server.findRelay client.server.nextSessionId = none)
    (stepped : client.step config event = some next) : Consistent next := by
  rcases Process.step_cases stepped with ⟨world, -, rfl⟩ |
    ⟨number, op, result, world, session, -, found, member, admitted, rfl⟩ | ⟨-, frame⟩
  · exact consistent.accept world
  · generalize handled :
      (Scope.complete ⟨client.server, session⟩ op).handle config world op result = scope at fresh ⊢
    have outcome : Scope.Outcome (Scope.complete ⟨client.server, session⟩ op) op scope := by
      rw [← handled]
      exact Scope.handle_outcome admitted
    cases outcome with
    | plain added same pending early _ => exact consistent.plain found member same pending early
    | destroyed same pending => exact consistent.destroyed found member same pending
    | registered request same pending =>
      subst request
      have more : scope.server.allocated = client.server.allocated + 1 :=
        congrArg Registry.allocated same
      obtain ⟨nonzero, free⟩ := fresh (by
        change scope.server.allocated ≠ client.server.allocated
        omega)
      exact consistent.registered found member same pending nonzero free
  · exact consistent.frame frame

/-- Before the first event the table is empty and there is no session. -/
theorem consistent_start (config : ClientConfig) (ssl : Bool) :
    Consistent (Process.start config ssl) where
  numbered _ _ found := by cases found
  keyed := keyed_nil
  entries sid index := by
    constructor
    · intro member
      cases member
    · rintro ⟨session, found, -⟩
      cases found
  tidy _ member := by cases member

/-- **Ids of live associations.** Along every run in which each allocated id is neither zero nor
registered, live associations have distinct ids other than zero, the table has each relay under
its own id, and it has no entry of a destroyed session. -/
theorem live_ids_distinct (config : ClientConfig) (ssl : Bool) (events : List Event)
    (client : Process)
    (ran : run (Process.step config) (Process.start config ssl) events = some client)
    (fresh : Meets (Process.step config) (FreshId config) (Process.start config ssl) events) :
    IdsOk client := by
  have consistent : Consistent client := run_invariant_of_meets
    (fun _ _ next holds condition stepped => holds.step (condition next stepped) stepped)
    (consistent_start config ssl) fresh ran
  exact consistent.idsOk

section Wrap

/-- An application opens a connection and asks for UDP. -/
def association (number : Nat) : List Event :=
  [.accept {}, .completed number .firstRead (.read [5, 1, 0]) {},
    .completed number .greetingWrite .done {},
    .completed number .requestRead (.read [5, 3, 0, 1, 0, 0, 0, 0, 0, 0]) {}]

/-- The session of a connection whose read of the given bytes and its consequences led to the
given operation. -/
def waiting (number : Nat) (read : Bytes) (op : Op) (message : Bytes) (trace : List Effect) :
    Session where
  number := number
  kind := .tls
  inBuf := read ++ (List.replicate maxBuffSize 0).drop read.length
  messageBuf := message
  pending := [op]
  trace := trace

/-- An association on the default configuration gets the next id. -/
theorem run_association (running : client.server.crashed = false)
    (dtls : client.server.hasDtls = true) : ∃ session,
    run (Process.step {}) client (association client.sessions.length) =
      some { client with
        server := client.counted.allocateSessionId.2.registerRelay client.server.nextSessionId
          client.sessions.length
        sessions := client.sessions ++ [session] } ∧
      Live session ∧ session.sessionId = client.server.nextSessionId ∧
      session.pending = [.associateWrite] := by
  have accepted : client.step {} (.accept {}) = some { client with
      server := client.counted
      sessions := client.sessions ++ [waiting client.sessions.length [] .firstRead [] []] } := by
    unfold Process.step
    rw [if_neg (by simp [running])]
    rfl
  generalize length : client.sessions.length = number at accepted
  have greeted (server : Client.Server) :
      (Scope.complete ⟨server, waiting number [] .firstRead [] []⟩ .firstRead).handle {} {}
        .firstRead (.read [5, 1, 0]) =
      ⟨server, waiting number [5, 1, 0] .greetingWrite [5, 0] [.toLocal [5, 0]]⟩ := rfl
  have asked (server : Client.Server) :
      (Scope.complete ⟨server, waiting number [5, 1, 0] .greetingWrite [5, 0]
        [.toLocal [5, 0]]⟩ .greetingWrite).handle {} {} .greetingWrite .done =
      ⟨server, waiting number [5, 1, 0] .requestRead [5, 0] [.toLocal [5, 0]]⟩ := rfl
  have associated (server : Client.Server) (present : server.hasDtls = true) : ∃ session,
      (Scope.complete ⟨server, waiting number [5, 1, 0] .requestRead [5, 0]
        [.toLocal [5, 0]]⟩ .requestRead).handle {} {} .requestRead
          (.read [5, 3, 0, 1, 0, 0, 0, 0, 0, 0]) =
        ⟨server.allocateSessionId.2.registerRelay server.nextSessionId number, session⟩ ∧
      Live session ∧ session.sessionId = server.nextSessionId ∧
      session.pending = [.associateWrite] := by
    obtain ⟨nextId, relays, dtls, ready, allocated, stats, crashed⟩ := server
    cases dtls with
    | none => cases present
    | some channel => exact ⟨_, rfl, ⟨rfl, rfl⟩, rfl, rfl⟩
  obtain ⟨session, handled, live, isNext, pending⟩ := associated client.counted dtls
  refine ⟨session, ?_, live, isNext, pending⟩
  unfold association
  rw [run, accepted, Option.bind_some]
  have second := Process.step_last { client with
      server := client.counted
      sessions := client.sessions ++ [waiting number [] .firstRead [] []] }
    running rfl (List.mem_singleton_self _) rfl (greeted _)
  have third := Process.step_last { client with
      server := client.counted
      sessions := client.sessions ++
        [waiting number [5, 1, 0] .greetingWrite [5, 0] [.toLocal [5, 0]]] }
    running rfl (List.mem_singleton_self _) rfl (asked _)
  have fourth := Process.step_last { client with
      server := client.counted
      sessions := client.sessions ++
        [waiting number [5, 1, 0] .requestRead [5, 0] [.toLocal [5, 0]]] }
    running rfl (List.mem_singleton_self _) rfl handled
  rw [length] at second third fourth
  rw [run, second, Option.bind_some, run, third, Option.bind_some, run, fourth, Option.bind_some]
  rfl

/-- An association that ends again gives its id back to nobody. -/
theorem run_cycle (running : client.server.crashed = false)
    (dtls : client.server.hasDtls = true) : ∃ events next,
    run (Process.step {}) client events = some next ∧ next.server.crashed = false ∧
      next.server.hasDtls = true ∧
      next.server.nextSessionId = client.server.nextSessionId + 1 := by
  obtain ⟨session, ran, -, -, pending⟩ := run_association running dtls
  have member : .associateWrite ∈ session.pending := by
    rw [pending]
    exact List.mem_singleton_self _
  have closed := Process.step_last { client with
      server := client.counted.allocateSessionId.2.registerRelay client.server.nextSessionId
        client.sessions.length
      sessions := client.sessions ++ [session] }
    running rfl member rfl (Scope.handle_failed {} {} _)
  obtain ⟨relays, stats, server⟩ := Scope.destroy_server (Scope.complete
    ⟨client.counted.allocateSessionId.2.registerRelay client.server.nextSessionId
      client.sessions.length, session⟩ .associateWrite)
  refine ⟨_, _, (run_append ran).trans (run_single closed), ?_⟩
  dsimp only
  rw [server]
  exact ⟨running, dtls, rfl⟩

/-- The counter moves on by one with every association. -/
theorem run_cycles (count : Nat) (running : client.server.crashed = false)
    (dtls : client.server.hasDtls = true) : ∃ events next,
    run (Process.step {}) client events = some next ∧ next.server.crashed = false ∧
      next.server.hasDtls = true ∧
      next.server.nextSessionId = client.server.nextSessionId + UInt16.ofNat count := by
  induction count with
  | zero => exact ⟨[], client, rfl, running, dtls, by simp⟩
  | succ count ih =>
    obtain ⟨events, middle, ran, stillRunning, stillDtls, counter⟩ := ih
    obtain ⟨more, next, ranMore, nextRunning, nextDtls, nextCounter⟩ :=
      run_cycle stillRunning stillDtls
    refine ⟨events ++ more, next, (run_append ran).trans ranMore, nextRunning, nextDtls, ?_⟩
    rw [nextCounter, counter, UInt16.ofNat_add, UInt16.add_assoc]
    rfl

/-- After 65535 associations that ended again, the next one gets the id zero and is live. -/
theorem association_gets_zero : ∃ (events : List Event) (client : Process) (index : Nat)
    (session : Session),
    run (Process.step {}) (Process.start {} true) events = some client ∧
      client.sessions[index]? = some session ∧ Live session ∧ session.sessionId = 0 ∧
      ¬ IdsOk client := by
  obtain ⟨events, full, ran, running, dtls, counter⟩ :=
    run_cycles 65535 (rfl : (Process.start {} true).server.crashed = false) rfl
  have zero : full.server.nextSessionId = 0 := by
    rw [counter]
    decide
  obtain ⟨session, ranMore, live, isNext, -⟩ := run_association running dtls
  have found : (full.sessions ++ [session])[full.sessions.length]? = some session :=
    List.getElem?_concat_length
  refine ⟨_, _, full.sessions.length, session, (run_append ran).trans ranMore, found, live,
    isNext.trans zero, ?_⟩
  intro ok
  exact (ok.mapped _ _ found live).1 (isNext.trans zero)

end Wrap

/-- Three associations, of which the second one has ended. -/
def sampleEvents : List Event :=
  association 0 ++ association 1 ++ association 2 ++ [.completed 1 .associateWrite .failed {}]

/-- The first and the third association stay, under their own ids. -/
theorem live_ids_distinct_two_of_three : ∃ client,
    run (Process.step {}) (Process.start {} true) sampleEvents = some client ∧
      client.sessions.map (·.destroyed) = [false, true, false] ∧
      client.server.findRelay 1 = some 0 ∧ client.server.findRelay 2 = none ∧
      client.server.findRelay 3 = some 2 ∧ IdsOk client := by
  have checked : (run (Process.step {}) (Process.start {} true) sampleEvents).any (fun client =>
      decide (client.sessions.map (·.destroyed) = [false, true, false] ∧
        client.server.findRelay 1 = some 0 ∧ client.server.findRelay 2 = none ∧
        client.server.findRelay 3 = some 2)) = true := by
    decide +kernel
  obtain ⟨client, ran, good⟩ := exists_of_run checked
  obtain ⟨ended, first, second, third⟩ := of_decide_eq_true good
  have fresh : Meets (Process.step {}) (FreshId {}) (Process.start {} true) sampleEvents := by
    decide +kernel
  exact ⟨client, ran, ended, first, second, third, live_ids_distinct _ _ _ _ ran fresh⟩

end Overplus.Verif.SessionIds
