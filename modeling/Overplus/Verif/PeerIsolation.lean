import Overplus.Server.DtlsTrace
import Overplus.Verif.NoOpenRelay
import Overplus.Verif.SessionTable

/-!
# Peers of the DTLS listener

The listener receives the datagrams of all peers on one socket and hands each to a session for its
sender. Whatever the peers send and in whatever order sessions come and go, the listener amounts to
independent sessions: every session object is in the state it would reach alone, from the
completions of its own operations and from datagrams of its own peer, and every datagram is handled
once, by a session for its sender, in the order of arrival.

So what holds of one session holds of every session of a listener. In particular a session reaches
a target only after a datagram of its own peer has carried an allowed password.
-/
namespace Overplus.Verif.PeerIsolation

open Server SessionTable

section Shares

/-- The datagrams of a peer, as what OpenSSL makes of them. -/
def datagramsOf (peer : Endpoint) (events : List ListenerEvent) : List Answers :=
  events.filterMap fun event => match event with
    | .datagram sender _ answers => if sender = peer then some answers else none
    | _ => none

/-- The completed operations of a session object. -/
def completionsOf (id : Nat) (events : List ListenerEvent) :
    List (DtlsOp × DtlsResult × Answers) :=
  events.filterMap fun event => match event with
    | .completed other op result answers => if other = id then some (op, result, answers) else none
    | _ => none

/-- The datagrams that a session handles. -/
def datagramsIn (own : List DtlsEvent) : List Answers :=
  own.filterMap fun event => match event with
    | .datagram answers => some answers
    | _ => none

/-- The completed operations that a session handles. -/
def completionsIn (own : List DtlsEvent) : List (DtlsOp × DtlsResult × Answers) :=
  own.filterMap fun event => match event with
    | .completed op result answers => some (op, result, answers)
    | _ => none

/-- The datagrams that the sessions for a peer handle, in the order of the sessions. -/
def served (peer : Endpoint) (accounts : List (Hosted × List DtlsEvent)) : List Answers :=
  accounts.flatMap fun account => if account.1.clientEp = peer then datagramsIn account.2 else []

variable {peer : Endpoint} {accounts : List (Hosted × List DtlsEvent)} {id : Nat}
  {hosted value : Hosted} {own : List DtlsEvent} {event : DtlsEvent}

/-- Datagrams of a peer in more events. -/
theorem datagramsOf_append (peer : Endpoint) (past more : List ListenerEvent) :
    datagramsOf peer (past ++ more) = datagramsOf peer past ++ datagramsOf peer more :=
  List.filterMap_append

/-- Completions of a session object in more events. -/
theorem completionsOf_append (id : Nat) (past more : List ListenerEvent) :
    completionsOf id (past ++ more) = completionsOf id past ++ completionsOf id more :=
  List.filterMap_append

/-- One more event of a session. -/
theorem datagramsIn_snoc (own : List DtlsEvent) (event : DtlsEvent) :
    datagramsIn (own ++ [event]) = datagramsIn own ++ datagramsIn [event] :=
  List.filterMap_append

/-- No session for the peer, no datagram of the peer. -/
theorem served_nil (others : ∀ account ∈ accounts, account.1.clientEp ≠ peer) :
    served peer accounts = [] :=
  List.flatMap_eq_nil_iff.mpr fun account member => if_neg (others account member)

/-- One more event of the last session for a peer is the last of the peer's datagrams. -/
theorem served_set (found : accounts[id]? = some (hosted, own))
    (same : value.clientEp = hosted.clientEp)
    (latest : datagramsIn [event] = [] ∨ ∀ (later : Nat) (account : Hosted × List DtlsEvent),
      id < later → accounts[later]? = some account → account.1.clientEp ≠ hosted.clientEp) :
    served peer (accounts.set id (value, own ++ [event])) =
      served peer accounts ++ if hosted.clientEp = peer then datagramsIn [event] else [] := by
  obtain ⟨inside, here⟩ := List.getElem?_eq_some_iff.mp found
  have split : accounts = accounts.take id ++ (hosted, own) :: accounts.drop (id + 1) := by
    rw [← here, ← List.drop_eq_getElem_cons inside, List.take_append_drop]
  have changed : accounts.set id (value, own ++ [event]) =
      accounts.take id ++ (value, own ++ [event]) :: accounts.drop (id + 1) :=
    List.set_eq_take_append_cons_drop.trans (if_pos inside)
  have parts (front back : List (Hosted × List DtlsEvent)) (host : Hosted)
      (events : List DtlsEvent) : served peer (front ++ (host, events) :: back) =
        served peer front ++ ((if host.clientEp = peer then datagramsIn events else []) ++
          served peer back) := by
    simp only [served, List.flatMap_append, List.flatMap_cons]
  rw [changed, parts]
  conv_rhs => rw [split, parts]
  rw [same, datagramsIn_snoc]
  by_cases mine : hosted.clientEp = peer
  · rw [if_pos mine, if_pos mine, if_pos mine]
    rcases latest with none | last
    · simp [none]
    · have empty : served peer (accounts.drop (id + 1)) = [] := by
        apply served_nil
        intro account member
        obtain ⟨index, isAt⟩ := List.mem_iff_getElem?.mp member
        rw [List.getElem?_drop] at isAt
        rw [← mine]
        exact last _ account (by omega) isAt
      simp [empty]
  · simp [mine]

end Shares

section Listener

variable {sha224 : Bytes → Bytes} {config : ServerConfig} {past more : List ListenerEvent}
  {listener next : DtlsListener} {accounts : List (Hosted × List DtlsEvent)} {id : Nat}
  {hosted value : Hosted} {own : List DtlsEvent} {event : DtlsEvent}
  {after : DtlsServerSession}

/-- Every session object with the events of its own that led to its state. -/
structure Demultiplexed (sha224 : Bytes → Bytes) (config : ServerConfig)
    (past : List ListenerEvent) (listener : DtlsListener)
    (accounts : List (Hosted × List DtlsEvent)) : Prop where
  /-- There is one account for each object. -/
  heap : accounts.map Prod.fst = listener.heap
  /-- An object is in the state its own events lead to. -/
  runs : ∀ account ∈ accounts, ∃ ssl,
    run (DtlsServerSession.step sha224 config) (.created ssl) account.2 = some account.1.session
  /-- Its completions are those of its operations. -/
  completions : ∀ (id : Nat) (account : Hosted × List DtlsEvent), accounts[id]? = some account →
    completionsIn account.2 = completionsOf id past
  /-- No operation of an object to come has completed. -/
  fresh : ∀ id, accounts.length ≤ id → completionsOf id past = []
  /-- The sessions for a peer have handled the peer's datagrams. -/
  datagrams : ∀ peer, served peer accounts = datagramsOf peer past
  /-- The entry of a peer is the last session for it. -/
  entry : ∀ peer id, (peer, id) ∈ listener.sessions →
    (∃ account, accounts[id]? = some account ∧ account.1.clientEp = peer) ∧
      ∀ (later : Nat) (account : Hosted × List DtlsEvent), id < later →
        accounts[later]? = some account → account.1.clientEp ≠ peer
  /-- While the process runs, no session has ended it. -/
  running : listener.crashed = false → ∀ account ∈ accounts, account.1.session.crashed = false

/-- Removing entries leaves the objects alone. -/
theorem removeSession_iterate (peer : Endpoint) (count : Nat) (listener : DtlsListener) :
    ∃ sessions, (fun listener => listener.removeSession peer)^[count] listener =
      { listener with sessions } ∧ sessions ⊆ listener.sessions := by
  induction count generalizing listener with
  | zero => exact ⟨listener.sessions, rfl, List.Subset.refl _⟩
  | succ count ih =>
    obtain ⟨sessions, same, kept⟩ := ih (listener.removeSession peer)
    refine ⟨sessions, ?_, List.Subset.trans kept (List.filter_subset_self _)⟩
    rw [Function.iterate_succ_apply, same]
    rfl

/-- Running a session's code stores the object and removes entries. -/
theorem ranSession_eq (listener : DtlsListener) (id : Nat) (hosted : Hosted)
    (after : DtlsServerSession) : ∃ sessions, listener.ranSession id hosted after =
      { listener with
        sessions
        heap := listener.heap.set id { hosted with session := after }
        crashed := listener.crashed || after.crashed } ∧ sessions ⊆ listener.sessions :=
  removeSession_iterate _ _ _

/-- What the events of a listener mean to its sessions is the same. -/
theorem Demultiplexed.congr (demultiplexed : Demultiplexed sha224 config past listener accounts)
    (heap : next.heap = listener.heap) (sessions : next.sessions ⊆ listener.sessions)
    (crashed : next.crashed = listener.crashed)
    (datagrams : ∀ peer, datagramsOf peer more = [])
    (completions : ∀ id, completionsOf id more = []) :
    Demultiplexed sha224 config (past ++ more) next accounts where
  heap := demultiplexed.heap.trans heap.symm
  runs := demultiplexed.runs
  completions id account found := by
    rw [demultiplexed.completions id account found, completionsOf_append, completions,
      List.append_nil]
  fresh id beyond := by
    rw [completionsOf_append, demultiplexed.fresh id beyond, completions, List.append_nil]
  datagrams peer := by
    rw [demultiplexed.datagrams peer, datagramsOf_append, datagrams, List.append_nil]
  entry peer id member := demultiplexed.entry peer id (sessions member)
  running fine := demultiplexed.running (crashed.symm.trans fine)

/-- **A session runs its code** on an event of its own. -/
theorem Demultiplexed.ran (demultiplexed : Demultiplexed sha224 config past listener accounts)
    (found : accounts[id]? = some (hosted, own)) (same : value.clientEp = hosted.clientEp)
    (stepped : hosted.session.step sha224 config event = some after)
    (completed : completionsOf id more = completionsIn [event])
    (others : ∀ other, other ≠ id → completionsOf other more = [])
    (received : ∀ peer, datagramsOf peer more =
      if hosted.clientEp = peer then datagramsIn [event] else [])
    (latest : datagramsIn [event] = [] ∨ (hosted.clientEp, id) ∈ listener.sessions) :
    Demultiplexed sha224 config (past ++ more) (listener.ranSession id value after)
      (accounts.set id ({ value with session := after }, own ++ [event])) := by
  obtain ⟨sessions, stored, kept⟩ := ranSession_eq listener id value after
  obtain ⟨inside, -⟩ := List.getElem?_eq_some_iff.mp found
  rw [stored]
  refine ⟨?_, ?_, ?_, ?_, ?_, ?_, ?_⟩
  · rw [List.map_set, demultiplexed.heap]
  · intro account member
    rcases List.mem_or_eq_of_mem_set member with old | rfl
    · exact demultiplexed.runs account old
    · obtain ⟨ssl, ran⟩ := demultiplexed.runs _ (List.mem_of_getElem? found)
      refine ⟨ssl, ?_⟩
      rw [run_append ran]
      exact run_single stepped
  · intro place account here
    rw [completionsOf_append]
    rcases getElem?_set_cases here with ⟨rfl, rfl⟩ | ⟨different, old⟩
    · rw [completed, ← demultiplexed.completions place _ found]
      exact List.filterMap_append
    · rw [others place different, List.append_nil]
      exact demultiplexed.completions place account old
  · intro place beyond
    rw [List.length_set] at beyond
    rw [completionsOf_append, demultiplexed.fresh place beyond, others place (by omega),
      List.append_nil]
  · intro peer
    have last : datagramsIn [event] = [] ∨ ∀ (later : Nat) (account : Hosted × List DtlsEvent),
        id < later → accounts[later]? = some account → account.1.clientEp ≠ hosted.clientEp :=
      latest.imp_right fun member => (demultiplexed.entry _ _ member).2
    rw [served_set found (by exact same) last, demultiplexed.datagrams peer, datagramsOf_append,
      received peer]
  · intro peer place member
    obtain ⟨⟨account, here, named⟩, behind⟩ := demultiplexed.entry peer place (kept member)
    refine ⟨?_, ?_⟩
    · by_cases mine : place = id
      · subst mine
        obtain rfl := Option.some.inj (found.symm.trans here)
        exact ⟨_, List.getElem?_set_self inside, same.trans named⟩
      · exact ⟨account, (List.getElem?_set_ne (Ne.symm mine)).trans here, named⟩
    · intro later other beyond there
      rcases getElem?_set_cases there with ⟨rfl, rfl⟩ | ⟨-, old⟩
      · have unnamed := behind later _ beyond found
        exact fun equal => unnamed (same.symm.trans equal)
      · exact behind later other beyond old
  · intro fine account member
    have parts := Bool.or_eq_false_iff.mp fine
    rcases List.mem_or_eq_of_mem_set member with old | rfl
    · exact demultiplexed.running parts.1 account old
    · exact parts.2

/-- A session is created for a peer without an entry. -/
theorem Demultiplexed.insert (demultiplexed : Demultiplexed sha224 config past listener accounts)
    {peer : Endpoint} (ssl : Bool) (free : listener.sessions.lookup peer = none) :
    Demultiplexed sha224 config past (listener.insertSession ⟨peer, .created ssl, false⟩)
      (accounts ++ [(⟨peer, .created ssl, false⟩, [])]) := by
  have length : accounts.length = listener.heap.length := by
    rw [← demultiplexed.heap, List.length_map]
  refine ⟨?_, ?_, ?_, ?_, ?_, ?_, ?_⟩
  · rw [List.map_append, demultiplexed.heap]
    rfl
  · intro account member
    rcases List.mem_append.mp member with old | new
    · exact demultiplexed.runs account old
    · rw [List.mem_singleton.mp new]
      exact ⟨ssl, rfl⟩
  · intro id account here
    rcases getElem?_concat_cases here with old | ⟨rfl, rfl⟩
    · exact demultiplexed.completions id account old
    · exact (demultiplexed.fresh _ (Nat.le_refl _)).symm
  · intro id beyond
    rw [List.length_append] at beyond
    exact demultiplexed.fresh id (by omega)
  · intro other
    rw [served, List.flatMap_append, ← demultiplexed.datagrams other]
    simp [served, datagramsIn]
  · intro other id member
    rcases List.mem_cons.mp member with new | old
    · obtain ⟨rfl, rfl⟩ := Prod.mk.inj new
      have last := @List.getElem?_concat_length _ accounts
        ((⟨other, .created ssl, false⟩ : Hosted), ([] : List DtlsEvent))
      rw [length] at last
      refine ⟨⟨_, last, rfl⟩, ?_⟩
      intro later account beyond here
      rcases getElem?_concat_cases here with old | ⟨rfl, -⟩
      · have inside := (List.getElem?_eq_some_iff.mp old).1
        omega
      · omega
    · obtain ⟨listed, different⟩ := List.mem_filter.mp old
      obtain ⟨⟨account, here, named⟩, behind⟩ := demultiplexed.entry other id listed
      refine ⟨⟨account, getElem?_concat_old here, named⟩, ?_⟩
      intro later another beyond there
      rcases getElem?_concat_cases there with earlier | ⟨-, rfl⟩
      · exact behind later another beyond earlier
      · exact fun equal => of_decide_eq_true different equal.symm
  · intro fine account member
    rcases List.mem_append.mp member with old | new
    · exact demultiplexed.running fine account old
    · rw [List.mem_singleton.mp new]
      rfl

/-- A session object and its account. -/
theorem Demultiplexed.account (demultiplexed : Demultiplexed sha224 config past listener accounts)
    (present : listener.heap[id]? = some hosted) :
    ∃ own, accounts[id]? = some (hosted, own) := by
  rw [← demultiplexed.heap, List.getElem?_map] at present
  obtain ⟨⟨held, own⟩, found, rfl⟩ := Option.map_eq_some_iff.mp present
  exact ⟨own, found⟩

/-- A datagram is handled by the session that has the entry of its sender, or by a new one. -/
theorem Demultiplexed.receive (demultiplexed : Demultiplexed sha224 config past listener accounts)
    (fine : listener.crashed = false) (sender : Endpoint) (ssl : Bool) (answers : Answers) :
    ∃ accounts, Demultiplexed sha224 config (past ++ [.datagram sender ssl answers])
      (listener.onReceive sha224 config sender ssl answers) accounts := by
  have received (peer : Endpoint) : datagramsOf peer [.datagram sender ssl answers] =
      if sender = peer then datagramsIn [.datagram answers] else [] := by
    by_cases mine : sender = peer <;> simp [datagramsOf, datagramsIn, mine]
  have runs {session : DtlsServerSession} (running : session.crashed = false) :
      session.step sha224 config (.datagram answers) =
        some (session.onDatagram sha224 config answers) := by
    rw [DtlsServerSession.step, running]
    rfl
  unfold DtlsListener.onReceive
  split
  · rename_i id known
    have member := mem_of_lookup known
    obtain ⟨⟨account, found, named⟩, -⟩ := demultiplexed.entry sender id member
    obtain ⟨hosted, own⟩ := account
    have present : listener.heap[id]? = some hosted := by
      rw [← demultiplexed.heap, List.getElem?_map, found]
      rfl
    have running := demultiplexed.running fine _ (List.mem_of_getElem? found)
    subst named
    rw [present]
    exact ⟨_, demultiplexed.ran found rfl (runs running) rfl (fun _ _ => rfl) received
      (.inr member)⟩
  · rename_i free
    have inserted := demultiplexed.insert (listener.dtlsCtx && ssl) free
    have length : accounts.length = listener.heap.length := by
      rw [← demultiplexed.heap, List.length_map]
    have found := @List.getElem?_concat_length _ accounts
      ((⟨sender, .created (listener.dtlsCtx && ssl), false⟩ : Hosted), ([] : List DtlsEvent))
    rw [length] at found
    exact ⟨_, inserted.ran found rfl (runs rfl) rfl (fun _ _ => rfl) received
      (.inr List.mem_cons_self)⟩

/-- Stopping a session does not end the process. -/
theorem stop_crashed (session : DtlsServerSession) : session.stop.crashed = session.crashed := by
  unfold DtlsServerSession.stop
  split
  · rfl
  · dsimp only
    split <;> rfl

/-- A session is stopped from outside. -/
theorem Demultiplexed.stopped (demultiplexed : Demultiplexed sha224 config past listener accounts)
    (fine : listener.crashed = false) (present : listener.heap[id]? = some hosted)
    (same : value.clientEp = hosted.clientEp) :
    (listener.ranSession id value hosted.session.stop).crashed = false ∧
      ∃ accounts, Demultiplexed sha224 config past
        (listener.ranSession id value hosted.session.stop) accounts := by
  obtain ⟨own, found⟩ := demultiplexed.account present
  have running : hosted.session.crashed = false :=
    demultiplexed.running fine _ (List.mem_of_getElem? found)
  have stepped : hosted.session.step sha224 config .stop = some hosted.session.stop := by
    rw [DtlsServerSession.step, running]
    rfl
  refine ⟨?_, ?_⟩
  · obtain ⟨sessions, stored, -⟩ := ranSession_eq listener id value hosted.session.stop
    rw [stored]
    change (listener.crashed || hosted.session.stop.crashed) = false
    rw [stop_crashed, running, fine]
    rfl
  · have ran : Demultiplexed sha224 config (past ++ [])
        (listener.ranSession id value hosted.session.stop)
        (accounts.set id ({ value with session := hosted.session.stop }, own ++ [.stop])) :=
      demultiplexed.ran found same stepped rfl (fun _ _ => rfl) (fun _ => (ite_self _).symm)
        (.inl rfl)
    rw [List.append_nil] at ran
    exact ⟨_, ran⟩

/-- The sessions of several entries are stopped. -/
theorem Demultiplexed.stopAll (entries : List (Endpoint × Nat)) (fine : listener.crashed = false)
    (demultiplexed : Demultiplexed sha224 config past listener accounts) :
    ∃ accounts, Demultiplexed sha224 config past
      (entries.foldl DtlsListener.stopEntry listener) accounts := by
  induction entries generalizing listener accounts with
  | nil => exact ⟨accounts, demultiplexed⟩
  | cons entry rest ih =>
    rw [List.foldl_cons]
    cases present : listener.heap[entry.2]? with
    | none =>
      have same : listener.stopEntry entry = listener := by
        rw [DtlsListener.stopEntry, present]
      rw [same]
      exact ih fine demultiplexed
    | some hosted =>
      have same : listener.stopEntry entry =
          listener.ranSession entry.2 hosted hosted.session.stop := by
        rw [DtlsListener.stopEntry, present]
      obtain ⟨still, accounts, later⟩ := demultiplexed.stopped fine present rfl
      rw [same]
      exact ih still later

/-- **Step.** Every event of the listener is an event of the sessions it concerns. -/
theorem Demultiplexed.step {event : ListenerEvent}
    (demultiplexed : Demultiplexed sha224 config past listener accounts)
    (stepped : listener.step sha224 config event = some next) :
    ∃ accounts, Demultiplexed sha224 config (past ++ [event]) next accounts := by
  unfold DtlsListener.step at stepped
  split at stepped
  · cases stepped
  rename_i running
  have fine : listener.crashed = false := by simpa using running
  cases event with
  | datagram sender ssl answers =>
    simp only [Option.ite_none_right_eq_some, Option.some.injEq] at stepped
    obtain ⟨-, rfl⟩ := stepped
    exact demultiplexed.receive fine sender ssl answers
  | receiveAborted =>
    simp only [Option.ite_none_right_eq_some, Option.some.injEq] at stepped
    obtain ⟨-, rfl⟩ := stepped
    exact ⟨accounts, demultiplexed.congr rfl (List.Subset.refl _) rfl (fun _ => rfl) fun _ => rfl⟩
  | receiveFailed =>
    simp only [Option.ite_none_right_eq_some, Option.some.injEq] at stepped
    obtain ⟨-, rfl⟩ := stepped
    exact ⟨accounts, demultiplexed.congr rfl (List.Subset.refl _) rfl (fun _ => rfl) fun _ => rfl⟩
  | completed id op result answers =>
    obtain ⟨hosted, present, moved⟩ := Option.bind_eq_some_iff.mp stepped
    obtain ⟨after, handled, rfl⟩ := Option.map_eq_some_iff.mp moved
    obtain ⟨own, found⟩ := demultiplexed.account present
    refine ⟨_, demultiplexed.ran found rfl handled ?_ ?_ (fun _ => (ite_self _).symm) (.inl rfl)⟩
    · simp [completionsOf, completionsIn]
    · intro other different
      simp [completionsOf, Ne.symm different]
  | deleted id =>
    obtain ⟨hosted, present, moved⟩ := Option.bind_eq_some_iff.mp stepped
    simp only [Option.ite_none_right_eq_some, Option.some.injEq] at moved
    obtain ⟨-, rfl⟩ := moved
    have same : ({ hosted with deleted := true } : Hosted).clientEp = hosted.clientEp := rfl
    obtain ⟨-, accounts, later⟩ := demultiplexed.stopped fine present same
    exact ⟨accounts, later.congr rfl (List.Subset.refl _) rfl (fun _ => rfl) fun _ => rfl⟩
  | stop =>
    obtain rfl := Option.some.inj stepped
    have moved : Demultiplexed sha224 config (past ++ [.stop]) { listener with sessions := [] }
        accounts :=
      demultiplexed.congr rfl (List.nil_subset _) rfl (fun _ => rfl) fun _ => rfl
    have still : ({ listener with sessions := [] } : DtlsListener).crashed = false := fine
    obtain ⟨accounts, later⟩ := Demultiplexed.stopAll listener.sessions still moved
    have closed : Demultiplexed sha224 config (past ++ [.stop] ++ []) listener.stop accounts :=
      later.congr rfl (List.Subset.refl _) rfl (fun _ => rfl) fun _ => rfl
    rw [List.append_nil] at closed
    exact ⟨accounts, closed⟩

/-- Every run of a listener is a run of its sessions. -/
theorem run_demultiplexed {dtlsCtx : Bool} {events : List ListenerEvent}
    (ran : run (DtlsListener.step sha224 config) (.started dtlsCtx) events = some listener) :
    ∃ accounts, Demultiplexed sha224 config events listener accounts := by
  have start : ∃ accounts, Demultiplexed sha224 config [] (.started dtlsCtx) accounts :=
    ⟨[], rfl, fun _ member => (by cases member), fun _ _ found => (by cases found),
      fun _ _ => rfl, fun _ => rfl, fun _ _ member => (by cases member),
      fun _ _ member => (by cases member)⟩
  exact @run_history _ _ _ _ _ _
    (fun past state => ∃ accounts, Demultiplexed sha224 config past state accounts) []
    (fun past state event next held stepped => by
      obtain ⟨accounts, demultiplexed⟩ := held
      exact demultiplexed.step stepped) start ran

end Listener

/-- **The listener is its sessions, each on its own.** After every run of a listener there is for
each session object a list of events that alone leads a session to the state of the object. Its
completions are those of the object's own operations. The datagrams of the sessions for a peer,
one session after another, are the peer's datagrams in the order of arrival: none is lost, none is
handled twice, and none reaches a session for another peer. -/
theorem peers_demultiplexed (sha224 : Bytes → Bytes) (config : ServerConfig) (dtlsCtx : Bool)
    (events : List ListenerEvent) (listener : DtlsListener)
    (ran : run (DtlsListener.step sha224 config) (.started dtlsCtx) events = some listener) :
    ∃ accounts : List (Hosted × List DtlsEvent), accounts.map Prod.fst = listener.heap ∧
      (∀ (id : Nat) (account : Hosted × List DtlsEvent), accounts[id]? = some account →
        (∃ ssl, run (DtlsServerSession.step sha224 config) (.created ssl) account.2 =
          some account.1.session) ∧ completionsIn account.2 = completionsOf id events) ∧
      ∀ peer, served peer accounts = datagramsOf peer events := by
  obtain ⟨accounts, demultiplexed⟩ := run_demultiplexed ran
  refine ⟨accounts, demultiplexed.heap, ?_, demultiplexed.datagrams⟩
  intro id account found
  exact ⟨demultiplexed.runs account (List.mem_of_getElem? found),
    demultiplexed.completions id account found⟩

/-- A client of the sample run by its port. -/
def sampleClient (port : UInt16) : Endpoint := ⟨.ofWord 0x7f000001, port⟩

/-- Two clients take turns: the first logs in and sends a datagram to 8.8.8.8, the second closes
its session and opens another one. -/
def sampleEvents : List ListenerEvent :=
  [.datagram (sampleClient 1) true { accept := .done, read := .data [0x70, 10] },
    .datagram (sampleClient 2) true { accept := .done },
    .datagram (sampleClient 1) true
      { read := .data ([0, 1] ++ UdpFrame.generate ⟨.ofWord 0x08080808, 53⟩ [7]) },
    .datagram (sampleClient 2) true { read := .zeroReturn },
    .completed 0 .targetSend .done {},
    .datagram (sampleClient 2) true {}]

/-- The sample run, with three session objects. -/
theorem sample_runs : ∃ listener hosted,
    run (DtlsListener.step id ⟨[[0x70]]⟩) (.started true) sampleEvents = some listener ∧
      listener.heap.length = 3 ∧ listener.heap[0]? = some hosted ∧
      hosted.clientEp = sampleClient 1 ∧
      .sendToTarget ⟨.ofWord 0x08080808, 53⟩ [7] 1 ∈ hosted.session.trace := by
  have checked : (run (DtlsListener.step id ⟨[[0x70]]⟩) (.started true) sampleEvents).any
      (fun listener => decide (listener.heap.length = 3 ∧
        (listener.heap[0]?).any (fun hosted => decide (hosted.clientEp = sampleClient 1 ∧
          .sendToTarget ⟨.ofWord 0x08080808, 53⟩ [7] 1 ∈ hosted.session.trace)) = true)) =
      true := by decide +kernel
  obtain ⟨listener, ran, good⟩ := exists_of_run checked
  obtain ⟨size, first⟩ := of_decide_eq_true good
  obtain ⟨hosted, present, known⟩ := (Option.any_eq_true _ _).mp first
  obtain ⟨named, sent⟩ := of_decide_eq_true known
  exact ⟨listener, hosted, ran, size, present, named, sent⟩

/-- The datagrams of the second client are those of its two sessions. -/
theorem peers_demultiplexed_sample : ∃ listener,
    run (DtlsListener.step id ⟨[[0x70]]⟩) (.started true) sampleEvents = some listener ∧
      listener.heap.length = 3 ∧ ∃ accounts : List (Hosted × List DtlsEvent),
        accounts.map Prod.fst = listener.heap ∧
        (served (sampleClient 2) accounts).length = 3 := by
  obtain ⟨listener, -, ran, size, -⟩ := sample_runs
  obtain ⟨accounts, heap, -, datagrams⟩ := peers_demultiplexed _ _ _ _ _ ran
  have count : (datagramsOf (sampleClient 2) sampleEvents).length = 3 := by decide +kernel
  exact ⟨listener, ran, size, accounts, heap, by rw [datagrams, count]⟩

/-- **Records are read from datagrams.** A session records a record in state `AUTH` only where
OpenSSL has read it from a datagram. -/
theorem authRecord_read {sha224 : Bytes → Bytes} {config : ServerConfig} {ssl : Bool}
    {own : List DtlsEvent} {session : DtlsServerSession} {record : Bytes}
    (ran : run (DtlsServerSession.step sha224 config) (.created ssl) own = some session)
    (member : .authRecord record ∈ session.trace) :
    ∃ answers, .datagram answers ∈ own ∧ answers.read = .data record := by
  have held := @run_history _ _ _ _ _ _
    (fun past state => ∀ record, .authRecord record ∈ state.trace →
      ∃ answers, DtlsEvent.datagram answers ∈ past ∧ answers.read = .data record) [] ?_
    (fun _ early => by simp [DtlsServerSession.created_trace] at early) ran
  · exact held record member
  intro past state event next known stepped record among
  have adds : DtlsServerSession.Adds (fun effect => effect = .authRecord record →
      ∃ answers, event = .datagram answers ∧ answers.read = .data record) state next := by
    refine DtlsServerSession.step_adds ?_ ?_ ?_ stepped
    · rintro effect other rfl
      cases other
    · rintro answers read isEvent isRead same
      obtain rfl := DtlsEffect.authRecord.inj same
      exact ⟨answers, isEvent, isRead⟩
    · intro sender data answers isEvent same
      cases same
  obtain ⟨effects, trace, each⟩ := adds
  rw [trace] at among
  rcases List.mem_append.mp among with old | new
  · obtain ⟨answers, earlier, read⟩ := known record old
    exact ⟨answers, List.mem_append_left _ earlier, read⟩
  · obtain ⟨answers, rfl, read⟩ := each _ new rfl
    exact ⟨answers, List.mem_append_right _ (List.mem_singleton_self _), read⟩

/-- **A peer relays with its own password only.** After every run of a listener, if a session for a
peer has called `do_send_to_target` or `do_resolve_and_send`, then a datagram of this very peer has
carried a record whose first line hashes to an allowed password. -/
theorem peer_authenticated (sha224 : Bytes → Bytes) (config : ServerConfig) (dtlsCtx : Bool)
    (events : List ListenerEvent) (listener : DtlsListener)
    (ran : run (DtlsListener.step sha224 config) (.started dtlsCtx) events = some listener)
    (hosted : Hosted) (member : hosted ∈ listener.heap) (effect : DtlsEffect)
    (made : effect ∈ hosted.session.trace) (call : NoOpenRelay.isTargetCall effect = true) :
    ∃ ssl answers record position, .datagram hosted.clientEp ssl answers ∈ events ∧
      answers.read = .data record ∧ find [10] record = some position ∧
      sha224 (record.take position) ∈ config.allowedPasswords := by
  obtain ⟨accounts, demultiplexed⟩ := run_demultiplexed ran
  rw [← demultiplexed.heap] at member
  obtain ⟨⟨object, own⟩, among, rfl⟩ := List.mem_map.mp member
  obtain ⟨ssl, alone⟩ := demultiplexed.runs _ among
  have gate := run_invariant (NoOpenRelay.dtls_step_gate sha224 config ssl)
    (NoOpenRelay.created_gate sha224 config ssl) alone
  obtain ⟨earlier, later, split⟩ := List.append_of_mem made
  obtain ⟨shown, before, record, position, rfl, line, allowed⟩ := gate.shown _ _ _ split call
  have recorded : .authRecord record ∈ object.session.trace := by
    rw [split]
    exact List.mem_append_left _ before
  obtain ⟨answers, datagram, read⟩ := authRecord_read alone recorded
  have handled : answers ∈ served object.clientEp accounts := by
    refine List.mem_flatMap.mpr ⟨(object, own), among, ?_⟩
    rw [if_pos rfl]
    exact List.mem_filterMap.mpr ⟨.datagram answers, datagram, rfl⟩
  rw [demultiplexed.datagrams] at handled
  obtain ⟨event, arrived, same⟩ := List.mem_filterMap.mp handled
  cases event with
  | datagram sender ssl other =>
    dsimp only at same
    split at same
    · rename_i own
      subst own
      obtain rfl := Option.some.inj same
      exact ⟨ssl, other, record, position, arrived, read, line, allowed⟩
    · cases same
  | _ => cases same

/-- The first client of the sample run has sent the password `p`. -/
theorem peer_authenticated_sample : ∃ ssl answers record position,
    .datagram (sampleClient 1) ssl answers ∈ sampleEvents ∧ answers.read = .data record ∧
      find [10] record = some position ∧ id (record.take position) ∈ [[(0x70 : UInt8)]] := by
  obtain ⟨listener, hosted, ran, -, present, named, sent⟩ := sample_runs
  rw [← named]
  exact peer_authenticated _ _ _ _ _ ran hosted (List.mem_of_getElem? present) _ sent rfl

end Overplus.Verif.PeerIsolation
