import Overplus.Server.DtlsListener

/-!
# The table of DTLS sessions

A session is entered under the endpoint of its client when it is created, and leaves the table
when it is stopped. The live sessions are exactly the entries of the table, so the second call
of `stop`, by the destructor of a session that outlived its entry, finds the session destroyed
and leaves a newer entry for the same endpoint alone.
-/
namespace Overplus.Verif.SessionTable

open Server

variable {sha224 : Bytes → Bytes} {config : ServerConfig} {answers : Answers}
  {listener next : DtlsListener} {before after : DtlsServerSession} {hosted value : Hosted}
  {id : Nat}

section Turns

/-- What running its code makes of a session: it stays live or destroyed without a call of
`on_destroy_`, or it is destroyed with one call. -/
inductive Turn (before after : DtlsServerSession) : Prop
  /-- The session was not destroyed now. -/
  | kept (same : after.destroyed = before.destroyed) (none : destroyCalls before after = 0)
      (count : after.trace.count .destroyed = before.trace.count .destroyed)
  /-- The session was destroyed now. -/
  | ended (live : before.destroyed = false) (dead : after.destroyed = true)
      (once : destroyCalls before after = 1)
      (count : after.trace.count .destroyed = before.trace.count .destroyed + 1)

/-- Calls of `on_destroy_` are counted in what a session has recorded since. -/
theorem destroyCalls_eq {effects : List DtlsEffect}
    (traced : after.trace = before.trace ++ effects) :
    destroyCalls before after = effects.count .destroyed ∧
      after.trace.count .destroyed = before.trace.count .destroyed + effects.count .destroyed := by
  rw [destroyCalls, traced, List.drop_left, List.count_append]
  exact ⟨rfl, rfl⟩

/-- Work that does not call `on_destroy_`. -/
theorem Turn.of_calm (calm : before.Calm after) : Turn before after := by
  obtain ⟨⟨effects, traced, none⟩, same⟩ := calm
  obtain ⟨calls, count⟩ := destroyCalls_eq traced
  rw [List.count_eq_zero.mpr none] at calls count
  exact .kept same calls count

/-- `stop` behind such work. -/
theorem Turn.of_stop (calm : before.Calm after) : Turn before after.stop := by
  cases dead : after.destroyed with
  | true =>
    rw [DtlsServerSession.stop_of_destroyed dead]
    exact .of_calm calm
  | false =>
    obtain ⟨destroyed, effects, traced, once⟩ := DtlsServerSession.stop_of_live dead
    obtain ⟨⟨quiet, earlier, none⟩, same⟩ := calm
    have whole : after.stop.trace = before.trace ++ (quiet ++ effects) := by
      rw [traced, earlier, List.append_assoc]
    obtain ⟨calls, count⟩ := destroyCalls_eq whole
    rw [List.count_append, List.count_eq_zero.mpr none, once] at calls count
    exact .ended (same ▸ dead) destroyed calls count

/-- **Every event is a turn** of its session. -/
theorem Turn.of_outcome {event : DtlsEvent} (outcome : before.Outcome event after) :
    Turn before after := by
  rcases outcome.calm with calm | ⟨middle, calm, rfl⟩
  · exact .of_calm calm
  · exact .of_stop calm

/-- The calls of `on_destroy_` stay in step with `destroyed_`. -/
theorem Turn.count (turn : Turn before after)
    (first : before.trace.count .destroyed = if before.destroyed then 1 else 0) :
    after.trace.count .destroyed = if after.destroyed then 1 else 0 := by
  cases turn with
  | kept same none count => rw [count, same, first]
  | ended live dead once count =>
    rw [count, first, live, dead]
    rfl

/-- A session is destroyed once it was stopped. -/
theorem stop_destroyed (session : DtlsServerSession) : session.stop.destroyed = true := by
  cases dead : session.destroyed with
  | true => rw [DtlsServerSession.stop_of_destroyed dead, dead]
  | false => exact (DtlsServerSession.stop_of_live dead).1

end Turns

/-- Entries and live sessions belong together. -/
structure Registered (listener : DtlsListener) : Prop where
  /-- An endpoint has one entry. -/
  keyed : Keyed listener.sessions
  /-- An entry holds a live session of its endpoint. -/
  entry : ∀ endpoint id, (endpoint, id) ∈ listener.sessions → ∃ hosted,
    listener.heap[id]? = some hosted ∧ hosted.clientEp = endpoint ∧
      hosted.session.destroyed = false ∧ hosted.deleted = false
  /-- A live session has its entry. -/
  live : ∀ (id : Nat) (hosted : Hosted), listener.heap[id]? = some hosted →
    hosted.session.destroyed = false → (hosted.clientEp, id) ∈ listener.sessions
  /-- A session has called `on_destroy_` once if it is destroyed. -/
  calls : ∀ (id : Nat) (hosted : Hosted), listener.heap[id]? = some hosted →
    hosted.session.trace.count .destroyed = if hosted.session.destroyed then 1 else 0

/-- An entry stays, or its own session is destroyed. -/
def Keeps (listener next : DtlsListener) : Prop :=
  ∀ endpoint id, (endpoint, id) ∈ listener.sessions → (endpoint, id) ∈ next.sessions ∨
    ∃ hosted, next.heap[id]? = some hosted ∧ hosted.session.destroyed = true

/-- A session's code ran and did not end it. -/
theorem Registered.store (registered : Registered listener)
    (present : listener.heap[id]? = some hosted) (crashed : Bool)
    (endpoint : value.clientEp = hosted.clientEp)
    (same : value.session.destroyed = hosted.session.destroyed)
    (count : value.session.trace.count .destroyed = if value.session.destroyed then 1 else 0)
    (kept : hosted.session.destroyed = false → value.deleted = hosted.deleted) :
    Registered { listener with heap := listener.heap.set id value, crashed := crashed } := by
  obtain ⟨inside, _⟩ := List.getElem?_eq_some_iff.mp present
  refine ⟨registered.keyed, ?_, ?_, ?_⟩
  · intro key place member
    obtain ⟨found, here, named, alive, whole⟩ := registered.entry key place member
    by_cases own : place = id
    · subst own
      obtain rfl := Option.some.inj (here.symm.trans present)
      refine ⟨value, List.getElem?_set_self inside, endpoint.trans named, same.trans alive, ?_⟩
      exact (kept alive).trans whole
    · exact ⟨found, (List.getElem?_set_ne (Ne.symm own)).trans here, named, alive, whole⟩
  · intro place found here alive
    rcases getElem?_set_cases here with ⟨rfl, rfl⟩ | ⟨_, old⟩
    · rw [endpoint]
      exact registered.live place hosted present (same.symm.trans alive)
    · exact registered.live place found old alive
  · intro place found here
    rcases getElem?_set_cases here with ⟨rfl, rfl⟩ | ⟨_, old⟩
    · exact count
    · exact registered.calls place found old

/-- A session's code ran and ended it: its own entry is removed and no other. -/
theorem Registered.finish (registered : Registered listener)
    (present : listener.heap[id]? = some hosted) (crashed : Bool)
    (alive : hosted.session.destroyed = false) (dead : value.session.destroyed = true)
    (count : value.session.trace.count .destroyed = if value.session.destroyed then 1 else 0) :
    Registered (DtlsListener.removeSession
      { listener with heap := listener.heap.set id value, crashed := crashed }
      hosted.clientEp) := by
  have own := registered.live id hosted present alive
  have kept {key : Endpoint} {place : Nat} (member : (key, place) ∈ listener.sessions)
      (other : place ≠ id) : key ≠ hosted.clientEp := by
    rintro rfl
    exact other (registered.keyed.unique member own)
  refine ⟨registered.keyed.filter _, ?_, ?_, ?_⟩
  · intro key place member
    obtain ⟨old, different⟩ := List.mem_filter.mp member
    obtain ⟨found, here, named, live, whole⟩ := registered.entry key place old
    have other : place ≠ id := by
      rintro rfl
      obtain rfl := Option.some.inj (here.symm.trans present)
      exact of_decide_eq_true different named.symm
    exact ⟨found, (List.getElem?_set_ne (Ne.symm other)).trans here, named, live, whole⟩
  · intro place found here live
    rcases getElem?_set_cases here with ⟨rfl, rfl⟩ | ⟨other, old⟩
    · rw [dead] at live
      cases live
    · have member := registered.live place found old live
      exact List.mem_filter.mpr ⟨member, decide_eq_true (kept member other)⟩
  · intro place found here
    rcases getElem?_set_cases here with ⟨rfl, rfl⟩ | ⟨_, old⟩
    · exact count
    · exact registered.calls place found old

/-- The listener with a session object stored. -/
def stored (listener : DtlsListener) (id : Nat) (hosted : Hosted) (after : DtlsServerSession) :
    DtlsListener :=
  { listener with
    heap := listener.heap.set id { hosted with session := after }
    crashed := listener.crashed || after.crashed }

/-- A session that was not destroyed now is stored. -/
theorem ranSession_kept (none : destroyCalls hosted.session after = 0) :
    listener.ranSession id hosted after = stored listener id hosted after := by
  rw [DtlsListener.ranSession, none]
  rfl

/-- A session that was destroyed now is stored and its entry removed. -/
theorem ranSession_ended (once : destroyCalls hosted.session after = 1) :
    listener.ranSession id hosted after =
      (stored listener id hosted after).removeSession hosted.clientEp := by
  rw [DtlsListener.ranSession, once]
  rfl

/-- **Running a session's code** keeps the table, and removes at most the session's own entry. -/
theorem Registered.ran (registered : Registered listener)
    (present : listener.heap[id]? = some hosted) (turn : Turn hosted.session after) :
    Registered (listener.ranSession id hosted after) ∧
      Keeps listener (listener.ranSession id hosted after) := by
  have count := turn.count (registered.calls id hosted present)
  cases turn with
  | kept same none =>
    rw [ranSession_kept none]
    refine ⟨?_, fun endpoint place member => .inl member⟩
    exact registered.store present _ rfl same count fun _ => rfl
  | ended live dead once =>
    rw [ranSession_ended once]
    refine ⟨registered.finish present _ live dead count, ?_⟩
    intro endpoint place member
    by_cases own : place = id
    · subst own
      obtain ⟨inside, _⟩ := List.getElem?_eq_some_iff.mp present
      exact .inr ⟨_, List.getElem?_set_self inside, dead⟩
    · refine .inl (List.mem_filter.mpr ⟨member, decide_eq_true ?_⟩)
      intro same
      have first := registered.live id hosted present live
      rw [← same] at first
      exact own (registered.keyed.unique member first)

/-- A new session is entered under a free endpoint. -/
theorem Registered.insert (registered : Registered listener)
    (free : listener.sessions.lookup hosted.clientEp = none)
    (live : hosted.session.destroyed = false) (silent : .destroyed ∉ hosted.session.trace)
    (whole : hosted.deleted = false) :
    Registered (listener.insertSession hosted) ∧
      ∀ entry ∈ listener.sessions, entry ∈ (listener.insertSession hosted).sessions := by
  have last : (listener.heap ++ [hosted])[listener.heap.length]? = some hosted := by simp
  have kept (entry : Endpoint × Nat) (member : entry ∈ listener.sessions) :
      entry ∈ (listener.insertSession hosted).sessions := by
    refine List.mem_cons_of_mem _ (List.mem_filter.mpr ⟨member, decide_eq_true ?_⟩)
    rintro same
    refine not_mem_of_lookup_none registered.keyed free entry.2 ?_
    rw [← same]
    exact member
  refine ⟨⟨registered.keyed.replace _ _, ?_, ?_, ?_⟩, kept⟩
  · intro key place member
    rcases List.mem_cons.mp member with new | old
    · obtain ⟨rfl, rfl⟩ := Prod.mk.inj new
      exact ⟨hosted, last, rfl, live, whole⟩
    · obtain ⟨found, here, named, alive, undeleted⟩ :=
        registered.entry key place (List.mem_filter.mp old).1
      exact ⟨found, getElem?_concat_old here, named, alive, undeleted⟩
  · intro place found here alive
    rcases getElem?_concat_cases here with old | ⟨rfl, rfl⟩
    · exact kept _ (registered.live place found old alive)
    · exact List.mem_cons_self
  · intro place found here
    rcases getElem?_concat_cases here with old | ⟨rfl, rfl⟩
    · exact registered.calls place found old
    · rw [List.count_eq_zero.mpr silent, live]
      rfl

section Stop

/-- The map was moved away, and the sessions of some of its entries are still to be stopped. -/
structure Stopping (size : Nat) (rest : List (Endpoint × Nat)) (listener : DtlsListener) :
    Prop where
  /-- `sessions_` is empty. -/
  empty : listener.sessions = []
  /-- No object is created or lost. -/
  size : listener.heap.length = size
  /-- The live sessions are still to be stopped. -/
  live : ∀ (id : Nat) (hosted : Hosted), listener.heap[id]? = some hosted →
    hosted.session.destroyed = false → ∃ endpoint, (endpoint, id) ∈ rest
  /-- A session has called `on_destroy_` once if it is destroyed. -/
  calls : ∀ (id : Nat) (hosted : Hosted), listener.heap[id]? = some hosted →
    hosted.session.trace.count .destroyed = if hosted.session.destroyed then 1 else 0

/-- Stopping a session stores it destroyed and leaves an empty map empty. -/
theorem ranSession_stop (empty : listener.sessions = []) :
    (listener.ranSession id hosted hosted.session.stop).sessions = [] ∧
      (listener.ranSession id hosted hosted.session.stop).heap =
        listener.heap.set id { hosted with session := hosted.session.stop } := by
  have turn : Turn hosted.session hosted.session.stop := .of_stop (.of_same rfl rfl)
  cases turn with
  | kept same none =>
    rw [ranSession_kept none]
    exact ⟨empty, rfl⟩
  | ended live dead once =>
    rw [ranSession_ended once]
    refine ⟨?_, rfl⟩
    change listener.sessions.filter _ = []
    rw [empty]
    rfl

/-- One session of the copied map is stopped. -/
theorem Stopping.stopEntry {size : Nat} {entry : Endpoint × Nat} {rest : List (Endpoint × Nat)}
    (stopping : Stopping size (entry :: rest) listener) :
    Stopping size rest (listener.stopEntry entry) := by
  have later {id : Nat} (other : id ≠ entry.2)
      (waits : ∃ endpoint, (endpoint, id) ∈ entry :: rest) : ∃ endpoint, (endpoint, id) ∈ rest := by
    obtain ⟨endpoint, member⟩ := waits
    rcases List.mem_cons.mp member with rfl | after
    · exact absurd rfl other
    · exact ⟨endpoint, after⟩
  cases present : listener.heap[entry.2]? with
  | none =>
    simp only [DtlsListener.stopEntry, present]
    refine ⟨stopping.empty, stopping.size, fun id hosted here alive => ?_, stopping.calls⟩
    refine later ?_ (stopping.live id hosted here alive)
    rintro rfl
    rw [present] at here
    cases here
  | some hosted =>
    simp only [DtlsListener.stopEntry, present]
    obtain ⟨empty, heap⟩ := @ranSession_stop listener hosted entry.2 stopping.empty
    refine ⟨empty, by rw [heap, List.length_set]; exact stopping.size, ?_, ?_⟩
    · intro id found here alive
      rw [heap] at here
      rcases getElem?_set_cases here with ⟨rfl, rfl⟩ | ⟨other, old⟩
      · rw [stop_destroyed] at alive
        cases alive
      · exact later other (stopping.live id found old alive)
    · intro id found here
      rw [heap] at here
      rcases getElem?_set_cases here with ⟨rfl, rfl⟩ | ⟨_, old⟩
      · exact Turn.count (.of_stop (.of_same rfl rfl)) (stopping.calls _ hosted present)
      · exact stopping.calls id found old

/-- All sessions of the copied map are stopped. -/
theorem Stopping.fold {size : Nat} {rest : List (Endpoint × Nat)}
    (stopping : Stopping size rest listener) :
    Stopping size [] (rest.foldl DtlsListener.stopEntry listener) := by
  induction rest generalizing listener with
  | nil => exact stopping
  | cons entry rest ih => exact ih stopping.stopEntry

/-- **`stop`** empties the table and destroys every session in it. -/
theorem Registered.stop (registered : Registered listener) :
    Registered listener.stop ∧ Keeps listener listener.stop := by
  have start : Stopping listener.heap.length listener.sessions { listener with sessions := [] } :=
    ⟨rfl, rfl, fun id hosted here alive => ⟨_, registered.live id hosted here alive⟩,
      registered.calls⟩
  obtain ⟨empty, size, live, calls⟩ := start.fold
  have dead {id : Nat} {hosted : Hosted} (here : listener.stop.heap[id]? = some hosted) :
      hosted.session.destroyed = true := by
    cases alive : hosted.session.destroyed with
    | true => rfl
    | false =>
      obtain ⟨endpoint, member⟩ := live id hosted here alive
      cases member
  have none : listener.stop.sessions = [] := empty
  refine ⟨⟨?_, ?_, ?_, calls⟩, ?_⟩
  · rw [none]
    exact keyed_nil
  · intro endpoint id member
    rw [none] at member
    cases member
  · intro id hosted here alive
    rw [dead here] at alive
    cases alive
  · intro endpoint id member
    obtain ⟨hosted, here, -⟩ := registered.entry endpoint id member
    obtain ⟨inside, _⟩ := List.getElem?_eq_some_iff.mp here
    have bound : id < listener.stop.heap.length := by
      have same : listener.stop.heap.length = listener.heap.length := size
      rwa [same]
    exact .inr ⟨_, List.getElem?_eq_getElem bound, dead (List.getElem?_eq_getElem bound)⟩

end Stop

/-- A deleted object was destroyed before, so its destructor does nothing. -/
theorem Registered.delete (registered : Registered listener)
    (present : listener.heap[id]? = some hosted)
    (unreferenced : listener.unreferenced id hosted = true) :
    Registered (listener.ranSession id { hosted with deleted := true } hosted.session.stop) ∧
      Keeps listener
        (listener.ranSession id { hosted with deleted := true } hosted.session.stop) := by
  have absent (endpoint : Endpoint) : (endpoint, id) ∉ listener.sessions := by
    intro member
    have every := (Bool.and_eq_true_iff.mp unreferenced).2
    simpa using List.all_eq_true.mp every _ member
  have dead : hosted.session.destroyed = true := by
    cases alive : hosted.session.destroyed with
    | true => rfl
    | false => exact absurd (registered.live id hosted present alive) (absent _)
  rw [DtlsServerSession.stop_of_destroyed dead, ranSession_kept (by simp [destroyCalls])]
  refine ⟨?_, fun endpoint place member => .inl member⟩
  refine registered.store present _ rfl rfl (registered.calls id hosted present) ?_
  intro alive
  rw [dead] at alive
  cases alive

/-- A datagram goes to the session of its sender, which is created where there is none. -/
theorem Registered.receive (registered : Registered listener) (sender : Endpoint) (ssl : Bool)
    (answers : Answers) :
    Registered (listener.onReceive sha224 config sender ssl answers) ∧
      Keeps listener (listener.onReceive sha224 config sender ssl answers) := by
  have turn (session : DtlsServerSession) :
      Turn session (session.onDatagram sha224 config answers) :=
    .of_outcome (@DtlsServerSession.onDatagram_outcome sha224 config answers session)
  cases found : listener.sessions.lookup sender with
  | some id =>
    obtain ⟨hosted, present, -⟩ := registered.entry sender id (mem_of_lookup found)
    simp only [DtlsListener.onReceive, found, present]
    exact registered.ran present (turn _)
  | none =>
    simp only [DtlsListener.onReceive, found]
    obtain ⟨entered, kept⟩ := @Registered.insert listener
      ⟨sender, .created (listener.dtlsCtx && ssl), false⟩ registered found rfl
      (fun called => by cases DtlsServerSession.created_quiet called) rfl
    have present : (listener.insertSession
        ⟨sender, .created (listener.dtlsCtx && ssl), false⟩).heap[listener.heap.length]? =
          some ⟨sender, .created (listener.dtlsCtx && ssl), false⟩ := by
      simp [DtlsListener.insertSession]
    obtain ⟨ran, keeps⟩ := entered.ran present (turn _)
    exact ⟨ran, fun endpoint id member => keeps endpoint id (kept _ member)⟩

/-- **One step** keeps the table, and removes an entry only with its session. -/
theorem Registered.step {event : ListenerEvent} (registered : Registered listener)
    (stepped : listener.step sha224 config event = some next) :
    Registered next ∧ Keeps listener next := by
  simp only [DtlsListener.step] at stepped
  split at stepped
  · cases stepped
  cases event with
  | datagram sender ssl answers =>
    dsimp only at stepped
    split at stepped
    · obtain rfl := Option.some.inj stepped
      exact registered.receive sender ssl answers
    · cases stepped
  | receiveAborted =>
    dsimp only at stepped
    split at stepped
    · obtain rfl := Option.some.inj stepped
      refine ⟨⟨registered.keyed, registered.entry, registered.live, registered.calls⟩, ?_⟩
      exact fun endpoint id member => .inl member
    · cases stepped
  | receiveFailed =>
    dsimp only at stepped
    split at stepped
    · obtain rfl := Option.some.inj stepped
      exact ⟨registered, fun endpoint id member => .inl member⟩
    · cases stepped
  | completed id op result answers =>
    obtain ⟨hosted, present, ran⟩ := Option.bind_eq_some_iff.mp stepped
    obtain ⟨after, moved, rfl⟩ := Option.map_eq_some_iff.mp ran
    exact registered.ran present (.of_outcome (DtlsServerSession.step_outcome moved))
  | deleted id =>
    obtain ⟨hosted, present, ran⟩ := Option.bind_eq_some_iff.mp stepped
    split at ran
    · rename_i enabled
      obtain rfl := Option.some.inj ran
      exact registered.delete present enabled.2
    · cases ran
  | stop =>
    obtain rfl := Option.some.inj stepped
    exact registered.stop

/-- Entries and live sessions belong together after every run. -/
theorem run_registered {dtlsCtx : Bool} {events : List ListenerEvent}
    (ran : run (DtlsListener.step sha224 config) (.started dtlsCtx) events = some listener) :
    Registered listener := by
  have start : Registered (.started dtlsCtx) :=
    ⟨keyed_nil, by simp [DtlsListener.started], by simp [DtlsListener.started],
      by simp [DtlsListener.started]⟩
  exact run_invariant (fun _ _ _ registered stepped => (registered.step stepped).1) start ran

/-- **The table of DTLS sessions.** In every state a listener can reach, every entry holds a
session of its endpoint that is not destroyed; every session has called `on_destroy_` at most
once; and whatever happens next, an entry stays unless its own session is destroyed, so that
ending or deleting an old session never removes the entry of a newer one. -/
theorem session_table (sha224 : Bytes → Bytes) (config : ServerConfig) (dtlsCtx : Bool)
    (events : List ListenerEvent) (listener : DtlsListener)
    (ran : run (DtlsListener.step sha224 config) (.started dtlsCtx) events = some listener) :
    (∀ endpoint id, (endpoint, id) ∈ listener.sessions → ∃ hosted,
      listener.heap[id]? = some hosted ∧ hosted.clientEp = endpoint ∧
        hosted.session.destroyed = false ∧ hosted.deleted = false) ∧
    (∀ hosted ∈ listener.heap, hosted.session.trace.count .destroyed ≤ 1) ∧
    (∀ event next, listener.step sha224 config event = some next →
      ∀ endpoint id, (endpoint, id) ∈ listener.sessions → (endpoint, id) ∈ next.sessions ∨
        ∃ hosted, next.heap[id]? = some hosted ∧ hosted.session.destroyed = true) := by
  have registered := run_registered ran
  refine ⟨registered.entry, ?_, ?_⟩
  · intro hosted member
    obtain ⟨id, here⟩ := List.mem_iff_getElem?.mp member
    rw [registered.calls id hosted here]
    split <;> decide
  · intro event next stepped
    exact (registered.step stepped).2

/-- The client of the sample run. -/
def sampleClient : Endpoint := ⟨.ofWord 0x7f000001, 7000⟩

/-- A stand-in for the digest. -/
def sampleHash (password : Bytes) : Bytes := password

/-- A client logs in, closes its session, and opens another one; then the first session's receive
is aborted and its object deleted. -/
def sampleEvents : List ListenerEvent :=
  [.datagram sampleClient true { accept := .done, read := .data [0x70, 10] },
    .datagram sampleClient true { read := .zeroReturn },
    .datagram sampleClient true {},
    .completed 0 .targetReceive .aborted {},
    .deleted 0]

/-- The entry of the second session survives the deletion of the first one. -/
theorem session_table_successor : ∃ listener,
    run (DtlsListener.step sampleHash ⟨[[0x70]]⟩) (.started true) sampleEvents = some listener ∧
      listener.sessions = [(sampleClient, 1)] ∧ listener.heap.length = 2 ∧
      (∃ hosted, listener.heap[1]? = some hosted ∧ hosted.clientEp = sampleClient ∧
        hosted.session.destroyed = false ∧ hosted.deleted = false) ∧
      ∀ hosted ∈ listener.heap, hosted.session.trace.count .destroyed ≤ 1 := by
  have checked : (run (DtlsListener.step sampleHash ⟨[[0x70]]⟩) (.started true) sampleEvents).any
      (fun listener => decide (listener.sessions = [(sampleClient, 1)] ∧
        listener.heap.length = 2)) = true := by
    decide +kernel
  obtain ⟨listener, ran, good⟩ := exists_of_run checked
  obtain ⟨table, size⟩ := of_decide_eq_true good
  obtain ⟨entry, once, -⟩ := session_table _ _ _ _ _ ran
  exact ⟨listener, ran, table, size, entry sampleClient 1 (by simp [table]), once⟩

end Overplus.Verif.SessionTable
