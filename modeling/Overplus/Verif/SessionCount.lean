import Overplus.Client.SessionSteps

/-!
# The number of client sessions

A session is counted when its connection is accepted and counted down by the first `destroy`.
Between handlers the count is the number of sessions that were started and not destroyed, no
session was counted down twice, and a session that was not destroyed has an operation in flight:
every handler starts one, destroys the session, or ends the process by an exception.
-/
namespace Overplus.Verif.SessionCount

open Client

/-- Number of sessions started and not destroyed. -/
def live (client : Process) : Nat := client.sessions.countP (!·.destroyed)

/-- The accounts of a process between two handlers. -/
structure Accounts (client : Process) : Prop where
  /-- The counter is the number of live sessions, as a word of its width. -/
  count : client.server.stats.sessionCount = UInt64.ofNat (live client)
  /-- It was raised once for each session, in their order. -/
  created : client.server.stats.created = List.range client.sessions.length
  /-- It was lowered as often as it was raised for sessions that are not live. -/
  balance : client.server.stats.ended.length + live client = client.server.stats.created.length
  /-- No session lowered it twice. -/
  once : client.server.stats.ended.Nodup
  /-- The sessions that lowered it are those destroyed. -/
  ended : ∀ number, number ∈ client.server.stats.ended ↔
    ∃ session, client.sessions[number]? = some session ∧ session.destroyed = true
  /-- A live session has an operation in flight. -/
  busy : ∀ session ∈ client.sessions, session.destroyed = false → session.pending ≠ []

section Steps

variable {config : ClientConfig} {client next : Process} {event : Event}

/-- The accounts and the numbering of the sessions. -/
structure Sound (client : Process) : Prop extends Accounts client where
  /-- A session has the number of its place. -/
  numbered : ∀ (number : Nat) (session : Session), client.sessions[number]? = some session →
    session.number = number

/-- A word that counts one more. -/
theorem ofNat_succ (value : Nat) : UInt64.ofNat (value + 1) = UInt64.ofNat value + 1 :=
  UInt64.ofNat_add value 1

/-- Accepting a connection starts and counts a session. -/
theorem Sound.accept (sound : Sound client) (world : World)
    (running : (client.accept config world).server.crashed = false) :
    Sound (client.accept config world) := by
  have options : world.optionsOk = true := by
    by_contra thrown
    simp [Process.accept, Scope.start, thrown, Scope.crash, Server.sessionCreated] at running
  obtain ⟨session, accepted, isNumber, alive, waiting⟩ : ∃ session : Session,
      client.accept config world = { client with
        server := client.counted, sessions := client.sessions ++ [session] } ∧
      session.number = client.sessions.length ∧ session.destroyed = false ∧
      session.pending = [.firstRead] := by
    refine ⟨(Scope.start ⟨client.server, .accepted config client.sessions.length⟩ world).session,
      ?_, ?_⟩
    · simp [Process.accept, Scope.start, options, Process.counted, Session.accepted, Scope.await]
    · simp [Scope.start, options, Session.accepted, Scope.await]
  have more : live { client with
      server := client.counted, sessions := client.sessions ++ [session] } = live client + 1 := by
    simp [live, alive]
  rw [accepted]
  refine ⟨⟨?_, ?_, ?_, sound.once, ?_, ?_⟩, ?_⟩
  · rw [more, ofNat_succ, ← sound.count]
    rfl
  · change client.server.stats.created ++ [client.sessions.length] = _
    rw [sound.created, List.length_append, List.length_singleton, List.range_succ]
  · change client.server.stats.ended.length + _ =
      (client.server.stats.created ++ [client.sessions.length]).length
    rw [more, List.length_append, ← sound.balance]
    rfl
  · intro number
    change number ∈ client.server.stats.ended ↔ _
    rw [sound.ended]
    constructor
    · rintro ⟨other, found, dead⟩
      exact ⟨other, getElem?_concat_old found, dead⟩
    · rintro ⟨other, found, dead⟩
      rcases getElem?_concat_cases found with old | ⟨rfl, rfl⟩
      · exact ⟨other, old, dead⟩
      · rw [alive] at dead
        cases dead
  · intro other member
    rcases List.mem_append.mp member with old | new
    · exact sound.busy other old
    · rw [List.mem_singleton.mp new, waiting]
      simp
  · intro number other found
    rcases getElem?_concat_cases found with old | ⟨rfl, rfl⟩
    · exact sound.numbered number other old
    · exact isNumber

section Put

variable {number : Nat} {session : Session} {scope : Scope}

/-- What one session adds to the number of live ones. -/
def share (session : Session) : Nat := if session.destroyed then 0 else 1

/-- Putting a session back changes the number of live ones by its share. -/
theorem live_put (found : client.sessions[number]? = some session) :
    live (client.putScope number scope) + share session = live client + share scope.session := by
  obtain ⟨inside, rfl⟩ := List.getElem?_eq_some_iff.mp found
  have counted : 0 < share client.sessions[number] → 0 < live client := by
    intro alive
    refine List.countP_pos_iff.mpr ⟨client.sessions[number], List.getElem_mem inside, ?_⟩
    by_contra dead
    simp [share, show client.sessions[number].destroyed = true by simpa using dead] at alive
  have set : live (client.putScope number scope) =
      live client - share client.sessions[number] + share scope.session := by
    simp only [live, Process.putScope, List.countP_set inside, share]
    cases client.sessions[number].destroyed <;> cases scope.session.destroyed <;> rfl
  have small : share client.sessions[number] ≤ 1 := by
    unfold share
    split <;> decide
  omega

/-- The numbering is kept. -/
theorem Sound.numbered_put (sound : Sound client)
    (found : client.sessions[number]? = some session)
    (isNumber : scope.session.number = session.number) (index : Nat) (other : Session)
    (there : (client.putScope number scope).sessions[index]? = some other) :
    other.number = index := by
  rw [Process.getElem?_putScope found] at there
  split at there
  · rename_i same
    rw [← Option.some.inj there, isNumber, same]
    exact sound.numbered number session found
  · exact sound.numbered index other there

/-- Live sessions stay busy. -/
theorem Sound.busy_put (sound : Sound client)
    (busy : scope.session.destroyed = false → scope.session.pending ≠ []) :
    ∀ other ∈ (client.putScope number scope).sessions, other.destroyed = false →
      other.pending ≠ [] := by
  intro other member
  rcases List.mem_or_eq_of_mem_set member with old | rfl
  · exact sound.busy other old
  · exact busy

/-- A session whose `destroyed_` stays as it was leaves the accounts alone. -/
theorem Sound.put (sound : Sound client) (found : client.sessions[number]? = some session)
    (stats : scope.server.stats = client.server.stats)
    (isNumber : scope.session.number = session.number)
    (same : scope.session.destroyed = session.destroyed)
    (busy : scope.session.destroyed = false → scope.session.pending ≠ []) :
    Sound (client.putScope number scope) := by
  have kept : live (client.putScope number scope) = live client := by
    have changed := @live_put client number session scope found
    have equal : share scope.session = share session := by rw [share, share, same]
    omega
  have length : (client.putScope number scope).sessions.length = client.sessions.length :=
    List.length_set
  refine ⟨⟨?_, ?_, ?_, ?_, ?_, sound.busy_put busy⟩, sound.numbered_put found isNumber⟩
  · rw [kept, ← sound.count, ← stats]
    rfl
  · rw [length, ← sound.created, ← stats]
    rfl
  · rw [kept]
    change scope.server.stats.ended.length + _ = scope.server.stats.created.length
    rw [stats]
    exact sound.balance
  · change scope.server.stats.ended.Nodup
    rw [stats]
    exact sound.once
  · intro index
    change index ∈ scope.server.stats.ended ↔ _
    rw [stats, sound.ended, Process.getElem?_putScope found]
    split
    · rename_i here
      rw [here, found]
      simp [same]
    · exact Iff.rfl

/-- A session that ends is counted down. -/
theorem Sound.ended_put (sound : Sound client) (found : client.sessions[number]? = some session)
    (alive : session.destroyed = false)
    (stats : scope.server.stats = client.server.stats.sessionDestroyed session.number)
    (isNumber : scope.session.number = session.number) (dead : scope.session.destroyed = true) :
    Sound (client.putScope number scope) := by
  have fewer : live client = live (client.putScope number scope) + 1 := by
    have changed := @live_put client number session scope found
    simp only [share, alive, dead, ↓reduceIte, Bool.false_eq_true] at changed
    omega
  have fresh : number ∉ client.server.stats.ended := by
    rw [sound.ended]
    rintro ⟨other, there, gone⟩
    rw [found] at there
    rw [← Option.some.inj there, alive] at gone
    cases gone
  have listed : scope.server.stats.ended = client.server.stats.ended ++ [number] := by
    rw [stats, sound.numbered number session found]
    rfl
  refine ⟨⟨?_, ?_, ?_, ?_, ?_, sound.busy_put (by simp [dead])⟩,
    sound.numbered_put found isNumber⟩
  · change scope.server.stats.sessionCount = _
    have before := sound.count
    rw [fewer, ofNat_succ] at before
    rw [stats]
    change client.server.stats.sessionCount - 1 = _
    rw [before]
    exact UInt64.add_sub_cancel _ _
  · change scope.server.stats.created = List.range (client.sessions.set number _).length
    rw [stats, List.length_set, ← sound.created]
    rfl
  · change scope.server.stats.ended.length + _ = scope.server.stats.created.length
    have before := sound.balance
    rw [listed, stats, List.length_append, List.length_singleton]
    change _ = client.server.stats.created.length
    omega
  · change scope.server.stats.ended.Nodup
    rw [listed]
    exact List.nodup_append.mpr ⟨sound.once, List.nodup_singleton _, by
      rintro one member other only rfl
      rw [List.mem_singleton.mp only] at member
      exact fresh member⟩
  · intro index
    change index ∈ scope.server.stats.ended ↔ _
    rw [listed, List.mem_append, List.mem_singleton, sound.ended, Process.getElem?_putScope found]
    by_cases here : index = number
    · simp [here, dead]
    · simp [here]

end Put

/-- Work of the relays and of the channel leaves the accounts alone. -/
theorem Sound.frame (sound : Sound client) (frame : Process.Frame client next) : Sound next := by
  have kept : live next = live client := by
    have outlined (sessions : List Session) : sessions.countP (!·.destroyed) =
        (sessions.map Process.outline).countP (!·.destroyed) := by
      rw [List.countP_map]
      rfl
    rw [live, live, outlined, frame.sessions, ← outlined]
  have length : next.sessions.length = client.sessions.length := by
    simpa using congrArg List.length frame.sessions
  have busy : ∀ session ∈ next.sessions, session.destroyed = false → session.pending ≠ [] :=
    frame.forall (fun _ _ holds => holds) sound.busy
  refine ⟨⟨?_, ?_, ?_, ?_, ?_, busy⟩, ?_⟩
  · rw [frame.stats, kept]
    exact sound.count
  · rw [frame.stats, length]
    exact sound.created
  · rw [frame.stats, kept]
    exact sound.balance
  · rw [frame.stats]
    exact sound.once
  · intro number
    rw [frame.stats, sound.ended]
    constructor
    · rintro ⟨old, isOld, dead⟩
      obtain ⟨session, found, same⟩ := frame.forth isOld
      rw [Process.eq_of_outline same.symm] at dead
      exact ⟨session, found, dead⟩
    · rintro ⟨session, found, dead⟩
      obtain ⟨old, isOld, same⟩ := frame.back found
      rw [Process.eq_of_outline same] at dead
      exact ⟨old, isOld, dead⟩
  · intro number session found
    obtain ⟨old, isOld, same⟩ := frame.back found
    rw [Process.eq_of_outline same]
    exact sound.numbered number old isOld

/-- **One handler** keeps the accounts, unless an exception ends the process. -/
theorem Sound.step (sound : Sound client) (stepped : client.step config event = some next)
    (running : next.server.crashed = false) : Sound next := by
  rcases Process.step_cases stepped with ⟨world, -, rfl⟩ |
    ⟨number, op, result, world, session, -, found, member, admitted, rfl⟩ | ⟨-, frame⟩
  · exact sound.accept world running
  · generalize handled :
      (Scope.complete ⟨client.server, session⟩ op).handle config world op result = scope
      at running ⊢
    have outcome : Scope.Outcome (Scope.complete ⟨client.server, session⟩ op) op scope := by
      rw [← handled]
      exact Scope.handle_outcome admitted
    cases outcome with
    | plain added same pending early busy =>
      refine sound.put found (congrArg Registry.stats same) (congrArg Registry.number same)
        (congrArg Registry.destroyed same) fun _ => ?_
      rw [pending]
      exact List.append_ne_nil_of_right_ne_nil _ (busy running)
    | destroyed same pending =>
      by_cases dead : session.destroyed = true
      · have kept : (Scope.complete ⟨client.server, session⟩ op).registry.destroy = _ := if_pos dead
        rw [kept] at same
        have still : scope.session.destroyed = true := (congrArg Registry.destroyed same).trans dead
        exact sound.put found (congrArg Registry.stats same) (congrArg Registry.number same)
          (congrArg Registry.destroyed same) (by simp [still])
      · have ended : (Scope.complete ⟨client.server, session⟩ op).registry.destroy = _ :=
          if_neg dead
        rw [ended] at same
        exact sound.ended_put found (by simpa using dead) (congrArg Registry.stats same)
          (congrArg Registry.number same) (congrArg Registry.destroyed same)
    | registered request same pending =>
      refine sound.put found (congrArg Registry.stats same) (congrArg Registry.number same)
        (congrArg Registry.destroyed same) fun _ => ?_
      rw [pending]
      simp
  · exact sound.frame frame

/-- Before the first connection nothing is counted. -/
theorem sound_start (config : ClientConfig) (ssl : Bool) : Sound (Process.start config ssl) where
  count := rfl
  created := rfl
  balance := rfl
  once := List.nodup_nil
  ended := by simp [Process.start]
  busy := by simp [Process.start]
  numbered := by simp [Process.start]

end Steps

/-- **Every session is counted as long as it lives, and lives as long as it works.** In every state
between the handlers of a process that no exception has ended, the counter is the number of
sessions started and not destroyed, no session has lowered it twice, it was lowered at most as
often as it was raised, and every session that was not destroyed has an operation in flight. -/
theorem sessions_accounted (config : ClientConfig) (ssl : Bool) (events : List Event)
    (client : Process)
    (ran : run (Process.step config) (Process.start config ssl) events = some client)
    (running : client.server.crashed = false) : Accounts client := by
  have keeps : ∀ state event next, (state.server.crashed = false → Sound state) →
      Process.step config state event = some next → next.server.crashed = false → Sound next := by
    intro state event next sound stepped running
    have before : state.server.crashed = false := by
      unfold Process.step at stepped
      split at stepped
      · cases stepped
      · rename_i alive
        simpa using alive
    exact (sound before).step stepped running
  exact (run_invariant keeps (fun _ => sound_start config ssl) ran running).toAccounts

/-- Of two connections one is greeted and one breaks. -/
theorem sessions_accounted_two : ∃ client,
    run (Process.step {}) (Process.start {} true)
      [.accept {}, .accept {}, .completed 0 .firstRead (.read [5, 1, 0]) {},
        .completed 1 .firstRead .failed {}] = some client ∧
      client.server.stats = ⟨1, [0, 1], [1]⟩ ∧ Accounts client := by
  have checked : (run (Process.step {}) (Process.start {} true)
      [.accept {}, .accept {}, .completed 0 .firstRead (.read [5, 1, 0]) {},
        .completed 1 .firstRead .failed {}]).any (fun client =>
          decide (client.server.stats = ⟨1, [0, 1], [1]⟩ ∧ client.server.crashed = false)) =
            true := by
    decide +kernel
  obtain ⟨client, ran, good⟩ := exists_of_run checked
  obtain ⟨stats, running⟩ := of_decide_eq_true good
  exact ⟨client, ran, stats, sessions_accounted _ _ _ _ ran running⟩

end Overplus.Verif.SessionCount
