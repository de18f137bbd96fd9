import AccessGateway.Json.Basic

/-!
# Bounded caches

A cache holds at most a given number of entries and drops the least recently used one to make
room.  Recency is a stamp: every storing and every hit writes the next number of a counter.
Entries may also have a time to live; an expired entry is never returned, but it stays until a
lookup, a purge or the making of room removes it.  The clock of a cache is a number of
milliseconds that only `advance` moves.

A lookup that computes a missing value touches the map twice, and other tasks may work on the
cache in between: `getOrInsertAround` takes what they do as arguments.
-/

namespace AccessGateway

structure CacheEntry (κ β : Type) where
  key : κ
  value : β
  storedAt : Nat
  /-- The stamp of the last storing or hit. -/
  lastUsed : Nat

structure Cache (κ β : Type) where
  capacity : Nat
  /-- How long entries live, in milliseconds; without it they do not expire. -/
  timeToLive : Option Nat
  now : Nat := 0
  /-- In no particular order, at most one of a key. -/
  entries : List (CacheEntry κ β) := []
  /-- The next stamp. -/
  stamp : Nat := 0
  hits : Nat := 0
  misses : Nat := 0
  insertions : Nat := 0
  evictions : Nat := 0
  /-- The size that was last reported. -/
  reported : Option Nat := none

structure CacheStats where
  size : Nat
  capacity : Nat
  hits : Nat
  misses : Nat
  insertions : Nat
  evictions : Nat
  deriving DecidableEq, Repr

namespace CacheStats

def toJson (stats : CacheStats) : Json :=
  .object [("size", .nat stats.size), ("capacity", .nat stats.capacity),
    ("hits", .nat stats.hits), ("misses", .nat stats.misses),
    ("insertions", .nat stats.insertions), ("evictions", .nat stats.evictions)]

end CacheStats

namespace Cache

variable {κ β : Type} [DecidableEq κ]

/-- An empty cache; it has room for one entry at least. -/
def ofCapacity (capacity : Nat) (timeToLive : Option Nat) : Cache κ β where
  capacity := max capacity 1
  timeToLive := timeToLive

def size (cache : Cache κ β) : Nat := cache.entries.length

def isEmpty (cache : Cache κ β) : Bool := cache.entries.isEmpty

def stats (cache : Cache κ β) : CacheStats :=
  ⟨cache.size, cache.capacity, cache.hits, cache.misses, cache.insertions, cache.evictions⟩

def advance (cache : Cache κ β) (milliseconds : Nat) : Cache κ β :=
  { cache with now := cache.now + milliseconds }

def isExpired (cache : Cache κ β) (entry : CacheEntry κ β) : Bool :=
  cache.timeToLive.any fun life => life ≤ cache.now - entry.storedAt

/-- The entry of a key, expired or not. -/
def find? (cache : Cache κ β) (key : κ) : Option (CacheEntry κ β) :=
  cache.entries.find? fun entry => entry.key = key

def report (cache : Cache κ β) : Cache κ β :=
  { cache with reported := some cache.size }

/-- Gives the entry of a key the next stamp. -/
def touch (cache : Cache κ β) (key : κ) : Cache κ β :=
  { cache with
    entries := cache.entries.map fun entry =>
      if entry.key = key then { entry with lastUsed := cache.stamp } else entry
    stamp := cache.stamp + 1 }

/-- Stores a value under a key, in place of the entry of that key. -/
def store (cache : Cache κ β) (key : κ) (value : β) : Cache κ β :=
  { cache with
    entries := ⟨key, value, cache.now, cache.stamp⟩ ::
      cache.entries.filter fun entry => entry.key ≠ key
    stamp := cache.stamp + 1
    insertions := cache.insertions + 1 }

def remove (cache : Cache κ β) (key : κ) : Cache κ β :=
  { cache with entries := cache.entries.filter fun entry => entry.key ≠ key }

def removeExpired (cache : Cache κ β) (key : κ) : Cache κ β :=
  { cache with
    entries := cache.entries.filter fun entry => entry.key ≠ key || !cache.isExpired entry }

/-- Removes every expired entry and reports the size; tells how many there were. -/
def purge (cache : Cache κ β) : Nat × Cache κ β :=
  match cache.timeToLive with
  | none => (0, cache)
  | some _ =>
    let kept := cache.entries.filter fun entry => !cache.isExpired entry
    (cache.size - kept.length, report { cache with entries := kept })

def clear (cache : Cache κ β) : Cache κ β :=
  report { cache with entries := [] }

/-! ## Making room -/

def lessRecent (a : CacheEntry κ β) : Option (CacheEntry κ β) → CacheEntry κ β
  | none => a
  | some b => if b.lastUsed < a.lastUsed then b else a

def leastRecent : List (CacheEntry κ β) → Option (CacheEntry κ β)
  | [] => none
  | entry :: rest => some (lessRecent entry (leastRecent rest))

/-- The entry that goes next when room is made for a key. -/
def victim? (cache : Cache κ β) (keep : κ) : Option (CacheEntry κ β) :=
  leastRecent (cache.entries.filter fun entry => entry.key ≠ keep)

/-- Evicts up to a number of entries, the least recently used first and never the one of `keep`. -/
def evict (keep : κ) : Nat → Cache κ β → Cache κ β
  | 0, cache => cache
  | n + 1, cache =>
    match cache.victim? keep with
    | none => cache
    | some victim =>
      evict keep n { cache.remove victim.key with evictions := cache.evictions + 1 }

/-- Brings the cache back to its capacity after `keep` was added. -/
def makeRoom (cache : Cache κ β) (keep : κ) : Cache κ β :=
  if cache.size ≤ cache.capacity then cache
  else
    let purged := cache.purge.2
    evict keep (purged.size - purged.capacity) purged

/-- Stores a value; a new key may push others out. -/
def insert (cache : Cache κ β) (key : κ) (value : β) : Cache κ β :=
  let stored := cache.store key value
  report (if (cache.find? key).isSome then stored else stored.makeRoom key)

/-! ## Lookups -/

/-- What the first access of a lookup finds. -/
inductive Sight (β : Type) where
  | hit (value : β)
  | expired
  | absent

def sight (cache : Cache κ β) (key : κ) : Sight β :=
  match cache.find? key with
  | none => .absent
  | some entry => if cache.isExpired entry then .expired else .hit entry.value

def recordHit (cache : Cache κ β) (key : κ) : Cache κ β :=
  { cache.touch key with hits := cache.hits + 1 }

def recordMiss (cache : Cache κ β) : Cache κ β :=
  { cache with misses := cache.misses + 1 }

/-- The value of a key; an expired entry is removed. -/
def get (cache : Cache κ β) (key : κ) : Option β × Cache κ β :=
  match cache.sight key with
  | .hit value => (some value, cache.recordHit key)
  | .expired => (none, (cache.removeExpired key).recordMiss)
  | .absent => (none, cache.recordMiss)

/-- The answer of a lookup that computes a missing value. -/
structure Computed (ε β : Type) where
  /-- Whether the value was computed. -/
  called : Bool
  result : Except ε β

/-- The second access of such a lookup: a value that is there by now is used, another one is
computed and stored.  A failure is not stored. -/
def settle {ε : Type} (cache : Cache κ β) (key : κ) (compute : Except ε β) :
    Computed ε β × Cache κ β :=
  match cache.sight key, compute with
  | .hit value, _ => (⟨false, .ok value⟩, report (cache.touch key))
  | .expired, .ok value => (⟨true, .ok value⟩, report (cache.store key value))
  | .absent, .ok value => (⟨true, .ok value⟩, report ((cache.store key value).makeRoom key))
  | _, .error e => (⟨true, .error e⟩, cache)

/-- Looks up a key and computes a missing value while other tasks work on the cache: `early`
before an expired entry that was met is removed, and `late` right before the second access. -/
def getOrInsertAround {ε : Type} (cache : Cache κ β) (key : κ) (compute : Except ε β)
    (early late : Cache κ β → Cache κ β) : Computed ε β × Cache κ β :=
  match cache.sight key with
  | .hit value => (⟨false, .ok value⟩, cache.recordHit key)
  | .expired => settle (late ((early cache).removeExpired key).recordMiss) key compute
  | .absent => settle (late cache.recordMiss) key compute

def getOrInsert {ε : Type} (cache : Cache κ β) (key : κ) (compute : Except ε β) :
    Computed ε β × Cache κ β :=
  cache.getOrInsertAround key compute id id

end Cache

end AccessGateway
