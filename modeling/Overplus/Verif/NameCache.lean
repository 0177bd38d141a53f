import Overplus.Shared.DnsCache

/-!
# The name caches against their history

The caches forget: a put overwrites the entry of its name, and `cleanup_expired` removes entries
whose time is over. Their specification forgets nothing. It is the list of all calls so far, and a
lookup answers from the latest put for its name, with the lifetime in force when it was made. As
long as the clock does not go back, the caches answer like the history.
-/
namespace Overplus.Verif.NameCache

/-- The two caches. -/
inductive Kind where
  /-- `udp_cache_`. -/
  | udp
  /-- `tcp_cache_`. -/
  | tcp
deriving DecidableEq

/-- The calls of a `DnsCacheManager`. -/
inductive Call where
  /-- `set_default_ttl`. -/
  | setDefaultTtl (ttl : Int)
  /-- `put_udp` and `put_tcp`. -/
  | put (kind : Kind) (key : Bytes) (endpoint : Endpoint)
  /-- `get_udp` and `get_tcp`, with what the output argument holds before the call. -/
  | get (kind : Kind) (key : Bytes) (ep : Endpoint)
  /-- `cleanup_expired`. -/
  | cleanupExpired
deriving DecidableEq

/-- A call and the time it reads from the clock. -/
structure TimedCall where
  /-- What `time(nullptr)` returns. -/
  time : Int
  /-- The call. -/
  call : Call
deriving DecidableEq

/-- What a lookup gives its caller. -/
structure Answer where
  /-- The cache asked. -/
  kind : Kind
  /-- The flag returned. -/
  found : Bool
  /-- The output argument behind the call. -/
  ep : Endpoint
deriving DecidableEq

/-- The cache behind a call. -/
def perform (cache : DnsCacheManager) (timed : TimedCall) : DnsCacheManager :=
  match timed.call with
  | .setDefaultTtl ttl => cache.setDefaultTtl ttl
  | .put .udp key endpoint => cache.putUdp timed.time key endpoint
  | .put .tcp key endpoint => cache.putTcp timed.time key endpoint
  | .get _ _ _ => cache
  | .cleanupExpired => cache.cleanupExpired timed.time

/-- The lookup in one of the caches. -/
def look (cache : DnsCacheManager) (kind : Kind) (now : Int) (key : Bytes) : Option Endpoint :=
  match kind with
  | .udp => cache.getUdp now key
  | .tcp => cache.getTcp now key

/-- What a call gives its caller. -/
def answer (cache : DnsCacheManager) (timed : TimedCall) : Option Answer :=
  match timed.call with
  | .get kind key ep => some (match look cache kind timed.time key with
    | some endpoint => ⟨kind, true, endpoint⟩
    | none => ⟨kind, false, ep⟩)
  | _ => none

/-- A manager and all answers it has given. -/
structure Service where
  /-- The manager. -/
  cache : DnsCacheManager := {}
  /-- Answers given, in order. -/
  answers : List Answer := []

/-- One call. -/
def Service.step (service : Service) (timed : TimedCall) : Service where
  cache := perform service.cache timed
  answers := service.answers ++ (answer service.cache timed).toList

/-- A new manager behind these calls. -/
def serve (calls : List TimedCall) : Service := calls.foldl Service.step {}

/-- The clock does not go back. -/
def InOrder (calls : List TimedCall) : Prop := calls.Pairwise fun one next => one.time ≤ next.time

/-- The lifetime a call sets. -/
def TimedCall.ttl? (timed : TimedCall) : Option Int :=
  match timed.call with
  | .setDefaultTtl ttl => some ttl
  | _ => none

/-- The lifetime in force behind these calls: the one set last, or 600 seconds. -/
def ttlAfter (past : List TimedCall) : Int := (past.filterMap TimedCall.ttl?).getLast?.getD 600

/-- The call enters this name into this cache. -/
def TimedCall.Puts (timed : TimedCall) (kind : Kind) (key : Bytes) : Prop :=
  ∃ endpoint, timed.call = .put kind key endpoint

/-- The latest put for a name stored this endpoint at this time, when this lifetime was in
force. -/
def LatestPut (past : List TimedCall) (kind : Kind) (key : Bytes) (endpoint : Endpoint)
    (stored ttl : Int) : Prop :=
  ∃ before after, past = before ++ ⟨stored, .put kind key endpoint⟩ :: after ∧
    (∀ timed ∈ after, ¬ timed.Puts kind key) ∧ ttl = ttlAfter before

/-- The latest put for a name stored this endpoint, and its lifetime is not over. -/
def Current (past : List TimedCall) (now : Int) (kind : Kind) (key : Bytes)
    (endpoint : Endpoint) : Prop :=
  ∃ stored ttl, LatestPut past kind key endpoint stored ttl ∧ now < stored + ttl

variable {past calls : List TimedCall} {timed : TimedCall} {kind : Kind} {key : Bytes}
  {endpoint ep : Endpoint} {now stored ttl : Int} {cache : DnsCacheManager}

section History

/-- A list that ends with a call, cut at one of its calls: the cut is at the last one, or the last
one is in the part behind the cut. -/
theorem concat_eq_append_cons {first : TimedCall} {before after : List TimedCall}
    (whole : past ++ [timed] = before ++ first :: after) :
    (after = [] ∧ before = past ∧ first = timed) ∨
      ∃ rest, after = rest ++ [timed] ∧ past = before ++ first :: rest := by
  rcases List.eq_nil_or_concat after with rfl | ⟨rest, last, rfl⟩
  · obtain ⟨rfl, same⟩ := List.append_inj' whole rfl
    exact .inl ⟨rfl, rfl, (List.cons.inj same).1.symm⟩
  · rw [List.concat_eq_append, ← List.cons_append, ← List.append_assoc] at whole
    obtain ⟨rfl, same⟩ := List.append_inj' whole rfl
    obtain ⟨rfl, -⟩ := List.cons.inj same
    exact .inr ⟨rest, List.concat_eq_append, rfl⟩

/-- No put was made before the first call. -/
theorem not_latestPut_nil : ¬ LatestPut [] kind key endpoint stored ttl := by
  rintro ⟨before, after, whole, -⟩
  simp at whole

/-- A put for a name is the latest one. -/
theorem latestPut_put {value : Endpoint} (puts : timed.call = .put kind key value) :
    LatestPut (past ++ [timed]) kind key endpoint stored ttl ↔
      endpoint = value ∧ stored = timed.time ∧ ttl = ttlAfter past := by
  constructor
  · rintro ⟨before, after, whole, quiet, rfl⟩
    rcases concat_eq_append_cons whole with ⟨-, rfl, rfl⟩ | ⟨rest, rfl, -⟩
    · exact ⟨(Call.put.inj puts).2.2, rfl, rfl⟩
    · exact absurd ⟨value, puts⟩ (quiet timed (by simp))
  · rintro ⟨rfl, rfl, rfl⟩
    refine ⟨past, [], ?_, by simp, rfl⟩
    rw [← puts]

/-- Any other call leaves the latest put as it is. -/
theorem latestPut_other (other : ¬ timed.Puts kind key) :
    LatestPut (past ++ [timed]) kind key endpoint stored ttl ↔
      LatestPut past kind key endpoint stored ttl := by
  constructor
  · rintro ⟨before, after, whole, quiet, rfl⟩
    rcases concat_eq_append_cons whole with ⟨-, -, rfl⟩ | ⟨rest, rfl, split⟩
    · exact absurd ⟨endpoint, rfl⟩ other
    · refine ⟨before, rest, split, ?_, rfl⟩
      intro call member
      exact quiet call (List.mem_append_left _ member)
  · rintro ⟨before, after, rfl, quiet, rfl⟩
    refine ⟨before, after ++ [timed], by simp, ?_, rfl⟩
    intro call member
    rcases List.mem_append.mp member with old | new
    · exact quiet call old
    · rwa [List.mem_singleton.mp new]

/-- A put for a name is current until its lifetime is over. -/
theorem current_put {value : Endpoint} (puts : timed.call = .put kind key value) :
    Current (past ++ [timed]) now kind key endpoint ↔
      endpoint = value ∧ now < timed.time + ttlAfter past := by
  constructor
  · rintro ⟨stored, ttl, latest, alive⟩
    obtain ⟨rfl, rfl, rfl⟩ := (latestPut_put puts).mp latest
    exact ⟨rfl, alive⟩
  · rintro ⟨rfl, alive⟩
    exact ⟨timed.time, ttlAfter past, (latestPut_put puts).mpr ⟨rfl, rfl, rfl⟩, alive⟩

/-- Any other call leaves what is current as it is. -/
theorem current_other (other : ¬ timed.Puts kind key) :
    Current (past ++ [timed]) now kind key endpoint ↔ Current past now kind key endpoint := by
  unfold Current
  simp only [latestPut_other other]

/-- The lifetime in force behind one more call. -/
theorem ttlAfter_append : ttlAfter (past ++ [timed]) = timed.ttl?.getD (ttlAfter past) := by
  unfold ttlAfter
  rw [List.filterMap_append]
  cases given : timed.ttl? with
  | none => simp [given]
  | some ttl => simp [given]

end History

section Simulation

/-- The table of one of the caches. -/
def table (cache : DnsCacheManager) : Kind → NameTable
  | .udp => cache.udpCache
  | .tcp => cache.tcpCache

/-- A lookup reads the table of its cache. -/
theorem look_eq : look cache kind now key = (table cache kind).get now key := by
  cases kind <;> rfl

/-- The table of a cache behind a call. -/
theorem table_perform (kind : Kind) : table (perform cache timed) kind =
    match timed.call with
    | .put other key endpoint =>
      if other = kind then
        (table cache kind).put key ⟨endpoint, timed.time + cache.defaultTtl⟩
      else table cache kind
    | .cleanupExpired => (table cache kind).cleanup timed.time
    | _ => table cache kind := by
  unfold perform
  obtain ⟨time, call⟩ := timed
  cases call with
  | put other => cases other <;> cases kind <;> rfl
  | _ => cases kind <;> rfl

/-- The lifetime in force behind a call. -/
theorem defaultTtl_perform :
    (perform cache timed).defaultTtl = timed.ttl?.getD cache.defaultTtl := by
  obtain ⟨time, call⟩ := timed
  cases call with
  | put kind => cases kind <;> rfl
  | _ => rfl

/-- A cache and the history of its calls: the lifetime in force is the one set last, no name has
two entries, and from the last call on every lookup finds what is current. -/
structure Simulates (past : List TimedCall) (cache : DnsCacheManager) : Prop where
  /-- The lifetime in force. -/
  ttl : cache.defaultTtl = ttlAfter past
  /-- No name has two entries. -/
  keyed : ∀ kind, Keyed (table cache kind)
  /-- Lookups find what is current. -/
  finds : ∀ kind key now endpoint, (∀ timed ∈ past, timed.time ≤ now) →
    ((table cache kind).get now key = some endpoint ↔ Current past now kind key endpoint)

/-- A new manager. -/
theorem simulates_nil : Simulates [] {} where
  ttl := rfl
  keyed kind := by cases kind <;> exact keyed_nil
  finds kind key now endpoint _ := by
    constructor
    · intro found
      cases kind <;> cases found
    · rintro ⟨stored, ttl, latest, -⟩
      exact absurd latest not_latestPut_nil

/-- **One call** keeps a cache in step with its history. -/
theorem Simulates.step (simulates : Simulates past cache) (timed : TimedCall) :
    Simulates (past ++ [timed]) (perform cache timed) where
  ttl := by rw [defaultTtl_perform, ttlAfter_append, simulates.ttl]
  keyed kind := by
    have keyed := simulates.keyed kind
    rw [table_perform]
    split
    · split
      · exact keyed.replace _ _
      · exact keyed
    · exact keyed.filter _
    · exact keyed
  finds kind key now endpoint last := by
    have before : ∀ call ∈ past, call.time ≤ now := fun call member =>
      last call (List.mem_append_left _ member)
    have time : timed.time ≤ now := last timed (by simp)
    have finds := simulates.finds kind key now endpoint before
    have keyed := simulates.keyed kind
    rw [table_perform]
    split
    · rename_i other name value puts
      by_cases same : other = kind ∧ key = name
      · obtain ⟨rfl, rfl⟩ := same
        rw [if_pos rfl, NameTable.get_put_self, simulates.ttl, current_put puts]
        by_cases alive : now < timed.time + ttlAfter past
        · rw [if_pos alive, Option.some.injEq, eq_comm]
          exact (and_iff_left alive).symm
        · rw [if_neg alive]
          simp [alive]
      · rw [current_other, ← finds]
        · split
          · rename_i family
            rw [NameTable.get_put_other keyed fun equal => same ⟨family, equal⟩]
          · exact Iff.rfl
        · rintro ⟨_, both⟩
          rw [puts] at both
          obtain ⟨rfl, rfl, -⟩ := Call.put.inj both
          exact same ⟨rfl, rfl⟩
    · rename_i cleans
      rw [NameTable.get_cleanup keyed time, finds, current_other]
      rintro ⟨value, puts⟩
      rw [cleans] at puts
      cases puts
    · rename_i noPut _
      rw [finds, current_other]
      rintro ⟨value, puts⟩
      exact noPut _ _ _ puts

/-- A manager behind one more call. -/
theorem serve_append : serve (past ++ [timed]) = (serve past).step timed := by
  rw [serve, List.foldl_append]
  rfl

/-- **Every sequence of calls** leaves the caches in step with its history. -/
theorem serve_simulates (calls : List TimedCall) : Simulates calls (serve calls).cache := by
  induction calls using List.reverseRecOn with
  | nil => exact simulates_nil
  | append_singleton past timed ih =>
    rw [serve_append]
    exact ih.step timed

/-- Behind calls in order, a lookup finds what is current. -/
theorem look_serve (ordered : InOrder (past ++ [timed])) :
    look (serve past).cache kind timed.time key = some endpoint ↔
      Current past timed.time kind key endpoint := by
  rw [look_eq]
  apply (serve_simulates past).finds
  intro call member
  exact (List.pairwise_append.mp ordered).2.2 call member timed (List.mem_singleton_self _)

end Simulation

/-- Filtering a history that ends with a call that is kept. -/
theorem filter_kept {keep : TimedCall → Bool} (kept : keep timed = true) :
    (past ++ [timed]).filter keep = past.filter keep ++ [timed] := by
  rw [List.filter_append, List.filter_cons_of_pos kept, List.filter_nil]

/-- Filtering a history that ends with a call that is dropped. -/
theorem filter_dropped {keep : TimedCall → Bool} (dropped : keep timed = false) :
    (past ++ [timed]).filter keep = past.filter keep := by
  rw [List.filter_append, List.filter_cons_of_neg (by simp [dropped]), List.filter_nil,
    List.append_nil]

section Cleanup

/-- The call is not a cleanup. -/
def stays (timed : TimedCall) : Bool := timed.call ≠ .cleanupExpired

/-- Only cleanups are dropped. -/
theorem eq_cleanup (dropped : stays timed = false) : timed.call = .cleanupExpired := by
  simpa [stays] using dropped

/-- The lifetime in force does not depend on cleanups. -/
theorem ttlAfter_stays (past : List TimedCall) : ttlAfter (past.filter stays) = ttlAfter past := by
  induction past using List.reverseRecOn with
  | nil => rfl
  | append_singleton past timed ih =>
    cases kept : stays timed with
    | true => rw [filter_kept kept, ttlAfter_append, ttlAfter_append, ih]
    | false =>
      rw [filter_dropped kept, ttlAfter_append, ih, TimedCall.ttl?, eq_cleanup kept]
      rfl

/-- What is current does not depend on cleanups. -/
theorem current_stays (past : List TimedCall) :
    Current (past.filter stays) now kind key endpoint ↔ Current past now kind key endpoint := by
  induction past using List.reverseRecOn with
  | nil => exact Iff.rfl
  | append_singleton past timed ih =>
    by_cases puts : timed.Puts kind key
    · obtain ⟨value, puts⟩ := puts
      have kept : stays timed = true := by simp [stays, puts]
      rw [filter_kept kept, current_put puts, current_put puts, ttlAfter_stays]
    · rw [current_other puts, ← ih]
      cases kept : stays timed with
      | true => rw [filter_kept kept, current_other puts]
      | false => rw [filter_dropped kept]

/-- The same calls without the cleanups get the same answers. -/
theorem answers_stays (ordered : InOrder calls) :
    (serve (calls.filter stays)).answers = (serve calls).answers := by
  induction calls using List.reverseRecOn with
  | nil => rfl
  | append_singleton past timed ih =>
    have before : InOrder past := (List.pairwise_append.mp ordered).1
    cases kept : stays timed with
    | true =>
      have fewer : InOrder (past.filter stays ++ [timed]) :=
        ordered.sublist (List.filter_sublist.append (List.Sublist.refl _))
      have same (kind : Kind) (key : Bytes) : look (serve (past.filter stays)).cache kind
          timed.time key = look (serve past).cache kind timed.time key := by
        apply Option.ext
        intro endpoint
        rw [look_serve fewer, look_serve ordered, current_stays]
      have answered : answer (serve (past.filter stays)).cache timed =
          answer (serve past).cache timed := by
        unfold answer
        simp only [same]
      rw [filter_kept kept, serve_append, serve_append, Service.step, Service.step, ih before,
        answered]
    | false =>
      rw [filter_dropped kept, serve_append, ih before]
      simp [Service.step, answer, eq_cleanup kept]

end Cleanup

section Independence

/-- The call is no put and no lookup of the other cache. -/
def concerns (kind : Kind) (timed : TimedCall) : Bool :=
  match timed.call with
  | .put other _ _ => other = kind
  | .get other _ _ => other = kind
  | _ => true

/-- A call for the other cache changes neither this cache nor the lifetime in force. -/
theorem perform_other (dropped : concerns kind timed = false) :
    table (perform cache timed) kind = table cache kind ∧
      (perform cache timed).defaultTtl = cache.defaultTtl := by
  rw [table_perform, defaultTtl_perform]
  obtain ⟨time, call⟩ := timed
  cases call with
  | put other key endpoint =>
    have different : other ≠ kind := by simpa [concerns] using dropped
    exact ⟨if_neg different, rfl⟩
  | get other key ep => exact ⟨rfl, rfl⟩
  | setDefaultTtl ttl => cases dropped
  | cleanupExpired => cases dropped

/-- A cache and the lifetime in force do not depend on calls for the other cache. -/
theorem serve_concerns (kind : Kind) (calls : List TimedCall) :
    table (serve (calls.filter (concerns kind))).cache kind = table (serve calls).cache kind ∧
      (serve (calls.filter (concerns kind))).cache.defaultTtl =
        (serve calls).cache.defaultTtl := by
  induction calls using List.reverseRecOn with
  | nil => exact ⟨rfl, rfl⟩
  | append_singleton past timed ih =>
    obtain ⟨tables, ttls⟩ := ih
    cases kept : concerns kind timed with
    | true =>
      rw [filter_kept kept, serve_append, serve_append]
      simp only [Service.step, table_perform, defaultTtl_perform, tables, ttls, and_self]
    | false =>
      obtain ⟨sameTable, sameTtl⟩ := @perform_other timed kind (serve past).cache kept
      rw [filter_dropped kept, serve_append, Service.step, sameTable, sameTtl]
      exact ⟨tables, ttls⟩

/-- Answers of one cache. -/
def answersOf (kind : Kind) (answers : List Answer) : List Answer :=
  answers.filter fun answer => answer.kind = kind

/-- The lookups of a cache get the same answers without the calls for the other cache. -/
theorem answersOf_serve (kind : Kind) (calls : List TimedCall) :
    answersOf kind (serve calls).answers = (serve (calls.filter (concerns kind))).answers := by
  induction calls using List.reverseRecOn with
  | nil => rfl
  | append_singleton past timed ih =>
    have split : answersOf kind (serve (past ++ [timed])).answers =
        (serve (past.filter (concerns kind))).answers ++
          answersOf kind (answer (serve past).cache timed).toList := by
      rw [serve_append, Service.step, answersOf, List.filter_append, ← answersOf, ih]
      rfl
    -- A call without an answer adds none, whether it is kept or not.
    have silent (none : ∀ cache, answer cache timed = none) :
        answersOf kind (serve (past ++ [timed])).answers =
          (serve ((past ++ [timed]).filter (concerns kind))).answers := by
      rw [split, none]
      cases kept : concerns kind timed with
      | true =>
        rw [filter_kept kept, serve_append, Service.step, none]
        rfl
      | false =>
        rw [filter_dropped kept]
        exact List.append_nil _
    obtain ⟨time, call⟩ := timed
    cases call with
    | get other key ep =>
      rw [split]
      by_cases own : other = kind
      · subst own
        have kept : concerns other ⟨time, .get other key ep⟩ = true := by simp [concerns]
        have same : look (serve past).cache other time key =
            look (serve (past.filter (concerns other))).cache other time key := by
          rw [look_eq, look_eq, (serve_concerns other past).1]
        rw [filter_kept kept, serve_append, Service.step]
        simp only [answer, same]
        cases look (serve (past.filter (concerns other))).cache other time key <;>
          simp [answersOf]
      · have dropped : concerns kind ⟨time, .get other key ep⟩ = false := by simp [concerns, own]
        rw [filter_dropped dropped]
        simp only [answer]
        cases look (serve past).cache other time key <;> simp [answersOf, own]
    | put other key endpoint => exact silent fun _ => rfl
    | setDefaultTtl ttl => exact silent fun _ => rfl
    | cleanupExpired => exact silent fun _ => rfl

end Independence

/-- **The caches refine their history.** In calls at times that do not go back, a lookup returns an
endpoint exactly when the latest put for its name stored it less than the lifetime ago that was in
force then, and otherwise returns false and leaves its output argument alone. Two sequences of
calls that differ in cleanups only get the same answers, and each cache answers as if the puts and
lookups of the other had not been made. -/
theorem cache_refines_history :
    (∀ past now kind key ep, InOrder (past ++ [⟨now, .get kind key ep⟩]) →
      (∀ endpoint, answer (serve past).cache ⟨now, .get kind key ep⟩ =
        some ⟨kind, true, endpoint⟩ ↔ Current past now kind key endpoint) ∧
      ((∀ endpoint, ¬ Current past now kind key endpoint) →
        answer (serve past).cache ⟨now, .get kind key ep⟩ = some ⟨kind, false, ep⟩)) ∧
    (∀ calls other, InOrder calls → InOrder other → calls.filter stays = other.filter stays →
      (serve calls).answers = (serve other).answers) ∧
    ∀ kind calls, answersOf kind (serve calls).answers =
      (serve (calls.filter (concerns kind))).answers := by
  refine ⟨?_, ?_, answersOf_serve⟩
  · intro past now kind key ep ordered
    have finds (endpoint : Endpoint) : look (serve past).cache kind now key = some endpoint ↔
        Current past now kind key endpoint := look_serve ordered
    simp only [← finds, answer]
    cases found : look (serve past).cache kind now key <;> simp
  · intro calls other ordered second same
    rw [← answers_stays ordered, ← answers_stays second, same]

/-- An endpoint of the sample. -/
def sampleEndpoint : Endpoint := ⟨.ofWord 0x7f000001, 53⟩

/-- An endpoint put at time 5 with a lifetime of 10 is found at time 14 behind a cleanup. -/
theorem cache_refines_history_sample :
    answer (serve [⟨0, .setDefaultTtl 10⟩, ⟨5, .put .udp [97] sampleEndpoint⟩,
        ⟨14, .cleanupExpired⟩]).cache ⟨14, .get .udp [97] .unspecified⟩ =
      some ⟨.udp, true, sampleEndpoint⟩ := by
  have ordered : InOrder ([⟨0, .setDefaultTtl 10⟩, ⟨5, .put .udp [97] sampleEndpoint⟩,
      ⟨14, .cleanupExpired⟩] ++ [⟨14, .get .udp [97] .unspecified⟩]) := by
    simp [InOrder]
  have refines := (cache_refines_history.1 _ 14 .udp [97] .unspecified ordered).1 sampleEndpoint
  apply refines.mpr
  refine ⟨5, 10, ⟨[⟨0, .setDefaultTtl 10⟩], [⟨14, .cleanupExpired⟩], rfl, ?_, rfl⟩, by decide⟩
  rintro timed member ⟨endpoint, puts⟩
  rw [List.mem_singleton.mp member] at puts
  cases puts

end Overplus.Verif.NameCache
