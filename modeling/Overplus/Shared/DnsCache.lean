import Overplus.Library.Table
import Overplus.Protocol.Endpoint

/-!
# The name caches

`DnsCacheManager`: one cache for UDP endpoints and one for TCP endpoints, each from a text that
names a host and a port to an endpoint and the time it expires. Each call reads the clock once
and holds the lock until it returns, so a call is one step; the time it read is an argument.
-/
namespace Overplus

/-- `UdpEntry` and `TcpEntry`. -/
structure CacheEntry where
  /-- Endpoint stored. -/
  endpoint : Endpoint
  /-- `expire_time`. -/
  expireTime : Int
deriving DecidableEq

/-- `udp_cache_` and `tcp_cache_`. -/
abbrev NameTable := List (Bytes × CacheEntry)

namespace NameTable

/-- The lookup of `get_udp` and `get_tcp`; nothing where the call returns false and leaves its
output alone. -/
def get (table : NameTable) (now : Int) (key : Bytes) : Option Endpoint :=
  match table.lookup key with
  | some entry => if now < entry.expireTime then some entry.endpoint else none
  | none => none

/-- The assignment of `put_udp` and `put_tcp`. -/
def put (table : NameTable) (key : Bytes) (entry : CacheEntry) : NameTable :=
  (key, entry) :: table.filter fun stored => stored.1 ≠ key

/-- A loop of `cleanup_expired`. -/
def cleanup (table : NameTable) (now : Int) : NameTable :=
  table.filter fun stored => now < stored.2.expireTime

variable {table : NameTable} {now time : Int} {key other : Bytes} {endpoint : Endpoint}
  {entry : CacheEntry}

/-- What a lookup answers is stored under its key. -/
theorem mem_of_get (found : table.get now key = some endpoint) :
    ∃ entry, (key, entry) ∈ table ∧ entry.endpoint = endpoint := by
  unfold get at found
  split at found
  · rename_i entry stored
    split at found
    · exact ⟨entry, mem_of_lookup stored, Option.some.inj found⟩
    · cases found
  · cases found

/-- A lookup is a lookup of the entry and a look at the clock. -/
theorem get_eq (table : NameTable) (now : Int) (key : Bytes) :
    table.get now key =
      ((table.lookup key).filter fun entry => now < entry.expireTime).map (·.endpoint) := by
  unfold get
  split
  · rename_i entry found
    rw [found, Option.filter_some]
    split <;> simp_all
  · rename_i missing
    rw [missing]
    rfl

/-- An entry is found under its key until it expires. -/
theorem get_put_self : (table.put key entry).get now key =
    if now < entry.expireTime then some entry.endpoint else none := by
  unfold get put
  rw [List.lookup_cons_self]

/-- Entering a key leaves the others alone. -/
theorem get_put_other (keyed : Keyed table) (different : other ≠ key) :
    (table.put key entry).get now other = table.get now other := by
  have same : (table.put key entry).lookup other = table.lookup other := by
    unfold put
    rw [List.lookup_cons, beq_eq_false_iff_ne.mpr different, keyed.lookup_filter]
    cases table.lookup other <;> simp [different]
  rw [get_eq, same, get_eq]

/-- What a cleanup removes is not found later either: the two tests of the clock are exact
complements. -/
theorem get_cleanup (keyed : Keyed table) (later : now ≤ time) :
    (table.cleanup now).get time key = table.get time key := by
  rw [get_eq, get_eq, cleanup, keyed.lookup_filter]
  cases table.lookup key with
  | none => rfl
  | some entry =>
    simp only [Option.filter_some, decide_eq_true_eq]
    by_cases stays : now < entry.expireTime
    · rw [if_pos stays, Option.filter_some]
      simp only [decide_eq_true_eq]
    · rw [if_neg stays, if_neg (by omega)]
      rfl

end NameTable

/-- `DnsCacheManager`. -/
structure DnsCacheManager where
  /-- `default_ttl_`. -/
  defaultTtl : Int := 600
  /-- `udp_cache_`. -/
  udpCache : NameTable := []
  /-- `tcp_cache_`. -/
  tcpCache : NameTable := []

namespace DnsCacheManager

/-- `set_default_ttl`. -/
def setDefaultTtl (cache : DnsCacheManager) (ttl : Int) : DnsCacheManager :=
  { cache with defaultTtl := ttl }

/-- `get_udp`. -/
def getUdp (cache : DnsCacheManager) (now : Int) (key : Bytes) : Option Endpoint :=
  cache.udpCache.get now key

/-- `put_udp`. The sum of the time and the lifetime is taken not to overflow `time_t`. -/
def putUdp (cache : DnsCacheManager) (now : Int) (key : Bytes) (endpoint : Endpoint) :
    DnsCacheManager :=
  { cache with udpCache := cache.udpCache.put key ⟨endpoint, now + cache.defaultTtl⟩ }

/-- `get_tcp`. -/
def getTcp (cache : DnsCacheManager) (now : Int) (key : Bytes) : Option Endpoint :=
  cache.tcpCache.get now key

/-- `put_tcp`. The sum of the time and the lifetime is taken not to overflow `time_t`. -/
def putTcp (cache : DnsCacheManager) (now : Int) (key : Bytes) (endpoint : Endpoint) :
    DnsCacheManager :=
  { cache with tcpCache := cache.tcpCache.put key ⟨endpoint, now + cache.defaultTtl⟩ }

/-- `cleanup_expired`. -/
def cleanupExpired (cache : DnsCacheManager) (now : Int) : DnsCacheManager :=
  { cache with udpCache := cache.udpCache.cleanup now, tcpCache := cache.tcpCache.cleanup now }

end DnsCacheManager

end Overplus
