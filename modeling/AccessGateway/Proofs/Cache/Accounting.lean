import AccessGateway.Proofs.Cache.SizeReport

/-!
# The accounts of a cache

Every lookup is a hit or a miss, and every value that was stored is still there, was
evicted, has been dropped because it had expired, was dropped when the cache was
cleared, or was overwritten.  Each of these ways out is counted on the cache as it was
right before the event, so that the counters of the cache are compared with something
they are not made of.
-/

namespace AccessGateway

variable {κ β ε : Type}

/-- The entries that have gone without being evicted. -/
structure Departures where
  /-- Those that had expired: in lookups, in purges, and in purges before an eviction. -/
  expired : Nat := 0
  cleared : Nat := 0
  /-- Those in whose place another value was stored. -/
  overwritten : Nat := 0
  deriving DecidableEq, Repr

namespace Departures

def total (gone : Departures) : Nat := gone.expired + gone.cleared + gone.overwritten

def add (gone more : Departures) : Departures :=
  ⟨gone.expired + more.expired, gone.cleared + more.cleared, gone.overwritten + more.overwritten⟩

@[simp] theorem total_add (gone more : Departures) :
    (gone.add more).total = gone.total + more.total := by
  simp only [total, add]
  omega

end Departures

/-- A value was computed without a failure. -/
def Cache.Computed.succeeds : Cache.Computed ε β → Bool
  | ⟨true, .ok _⟩ => true
  | _ => false

namespace CacheEvent

/-- The event is the end of a lookup's first access, which finds a value or does not. -/
def looksUp : CacheEvent κ β ε → CacheAnswer β ε → Bool
  | .call (.get _), _ | .call (.getOrInsert ..), _ => true
  | .look .., .found _ | .leave .., .found _ => true
  | _, _ => false

def isInsert : CacheEvent κ β ε → Bool
  | .call (.insert ..) => true
  | _ => false

/-- A value was computed in the event, without a failure. -/
def computes : CacheEvent κ β ε → CacheAnswer β ε → Bool
  | .call (.getOrInsert ..), .computed answer | .settle .., .computed answer => answer.succeeds
  | _, _ => false

end CacheEvent

/-! ## What goes in an event -/

namespace Cache

variable [DecidableEq κ]

/-- What goes when a value is stored: the entry in whose place it is and, if the cache is then
over its capacity, every expired one. -/
def displaced (cache : Cache κ β) (key : κ) (value : β) : Departures where
  overwritten := cache.entries.countP fun entry => entry.key = key
  expired :=
    let stored := cache.store key value
    if stored.capacity < stored.size then stored.entries.countP stored.isExpired else 0

/-- What goes when a lookup settles. -/
def settled (cache : Cache κ β) (key : κ) (compute : Except ε β) : Departures :=
  match cache.fresh? key, compute with
  | none, .ok value => cache.displaced key value
  | _, _ => {}

def departures (cache : Cache κ β) : CacheCall κ β ε → Departures
  | .get key => { expired := cache.removals key }
  | .insert key value => cache.displaced key value
  | .getOrInsert key compute =>
    match cache.fresh? key with
    | some _ => {}
    | none =>
      ({ expired := cache.removals key } : Departures).add ((cache.get key).2.settled key compute)
  | .purge => { expired := cache.entries.countP cache.isExpired }
  | .clear => { cleared := cache.size }
  | .advance _ => {}

end Cache

namespace SharedCache

variable [DecidableEq κ]

def departures (shared : SharedCache κ β) : CacheEvent κ β ε → Departures
  | .call call => shared.cache.departures call
  | .look .. => {}
  | .leave task key =>
    match shared.stage task key with
    | some .metExpired => { expired := shared.cache.removals key }
    | _ => {}
  | .settle task key compute =>
    match shared.stage task key with
    | some .left => shared.cache.settled key compute
    | _ => {}

/-- What goes in a run. -/
def departed : List (CacheEvent κ β ε) → SharedCache κ β → Departures
  | [], _ => {}
  | event :: events, shared =>
    (shared.departures event).add (departed events (shared.perform event).2)

end SharedCache

/-! ## The balance of a step -/

namespace Cache

/-- From one cache to another there were some lookups, some values were stored, and some entries
have gone. -/
structure Balances (cache after : Cache κ β) (lookups stores : Nat) (gone : Departures) :
    Prop where
  lookups_eq : after.hits + after.misses = cache.hits + cache.misses + lookups
  insertions_eq : after.insertions = cache.insertions + stores
  entries_eq : cache.size + cache.evictions + stores = after.size + after.evictions + gone.total

variable {cache after last : Cache κ β} {lookups stores : Nat} {gone : Departures}

theorem Balances.refl (cache : Cache κ β) : cache.Balances cache 0 0 {} := ⟨rfl, rfl, rfl⟩

theorem Balances.trans (h : cache.Balances after lookups stores gone) {moreLookups moreStores : Nat}
    {moreGone : Departures} (hlast : after.Balances last moreLookups moreStores moreGone) :
    cache.Balances last (lookups + moreLookups) (stores + moreStores) (gone.add moreGone) := by
  have hlookups := h.lookups_eq
  have hmoreLookups := hlast.lookups_eq
  have hinsertions := h.insertions_eq
  have hmoreInsertions := hlast.insertions_eq
  have hentries := h.entries_eq
  have hmoreEntries := hlast.entries_eq
  refine ⟨by omega, by omega, ?_⟩
  rw [Departures.total_add]
  omega

theorem balances_recordMiss (cache : Cache κ β) : cache.Balances cache.recordMiss 1 0 {} :=
  ⟨rfl, rfl, rfl⟩

theorem length_filter_not_add (p : CacheEntry κ β → Bool) (entries : List (CacheEntry κ β)) :
    (entries.filter fun entry => !p entry).length + entries.countP p = entries.length := by
  have hsplit := List.length_eq_countP_add_countP p (l := entries)
  simp only [Bool.not_eq_true, Bool.decide_eq_false] at hsplit
  rw [hsplit, ← List.countP_eq_length_filter, Nat.add_comm]

theorem balances_purge (cache : Cache κ β) :
    cache.Balances cache.purge.2 0 0 { expired := cache.entries.countP cache.isExpired } := by
  obtain ⟨reported, hpurge⟩ := cache.purge_eq
  rw [hpurge]
  refine ⟨rfl, rfl, ?_⟩
  have hsplit := length_filter_not_add cache.isExpired cache.entries
  simp only [size, live, Departures.total]
  omega

theorem balances_clear (cache : Cache κ β) :
    cache.Balances cache.clear 0 0 { cleared := cache.size } := by
  refine ⟨rfl, rfl, ?_⟩
  simp [clear, report, size, Departures.total, Nat.add_comm]

variable [DecidableEq κ] {key : κ}

theorem balances_touch (cache : Cache κ β) (key : κ) :
    cache.Balances (report (cache.touch key)) 0 0 {} := by
  refine ⟨rfl, rfl, ?_⟩
  have hsize : (report (cache.touch key)).size = cache.size := size_touch cache key
  rw [hsize]
  rfl

theorem balances_recordHit (cache : Cache κ β) (key : κ) :
    cache.Balances (cache.recordHit key) 1 0 {} := by
  refine ⟨Nat.add_right_comm .., rfl, ?_⟩
  have hsize : (cache.recordHit key).size = cache.size := size_touch cache key
  rw [hsize]
  rfl

theorem Kept.balances_removeExpired (h : cache.Kept) (key : κ) :
    cache.Balances (cache.removeExpired key) 0 0 { expired := cache.removals key } := by
  refine ⟨rfl, rfl, ?_⟩
  have hsize := h.size_removeExpired key
  have hevictions : (cache.removeExpired key).evictions = cache.evictions := rfl
  simp only [Departures.total]
  omega

theorem Kept.balances_get (h : cache.Kept) (key : κ) :
    cache.Balances (cache.get key).2 1 0 { expired := cache.removals key } := by
  cases hfresh : cache.fresh? key with
  | some value =>
      have hnone : cache.removals key = 0 := by simp only [removals, sight_eq_hit hfresh]
      rw [get_of_fresh hfresh, hnone]
      exact cache.balances_recordHit key
  | none =>
      rw [get_of_missing hfresh]
      exact (h.balances_removeExpired key).trans (balances_recordMiss _)

theorem size_store_add (cache : Cache κ β) (key : κ) (value : β) :
    (cache.store key value).size + (cache.displaced key value).overwritten = cache.size + 1 := by
  have hsplit := length_filter_not_add (fun entry => entry.key = key) cache.entries
  simp only [size, store, displaced, List.length_cons, ne_eq, decide_not]
  omega

/-- What was stored is there, was evicted or has been purged. -/
theorem Kept.size_insert (h : cache.Kept) (key : κ) (value : β) :
    (cache.insert key value).size + (cache.insert key value).evictions +
        (cache.displaced key value).expired =
      (cache.store key value).size + cache.evictions := by
  rw [h.insert_eq_makeRoom]
  by_cases hover : (cache.store key value).capacity < (cache.store key value).size
  · obtain ⟨listed, hlisted⟩ := h.ranking
    have hstored := hlisted.store key value
    obtain ⟨entries, reported, hkept, hmakeRoom⟩ := makeRoom_eq hstored rfl h.room hover
    have hlive := hstored.filter fun entry => !(cache.store key value).isExpired entry
    have hlength := hkept.perm.length_eq
    rw [List.length_take, hlive.perm.length_eq] at hlength
    have hsplit := length_filter_not_add (cache.store key value).isExpired
      (cache.store key value).entries
    rw [hmakeRoom]
    have hexpired : (cache.displaced key value).expired =
        (cache.store key value).entries.countP (cache.store key value).isExpired := if_pos hover
    have hevictions : (cache.store key value).evictions = cache.evictions := rfl
    simp only [hexpired, report, size, live] at hlength hsplit hover ⊢
    omega
  · have hroom : (cache.store key value).makeRoom key = cache.store key value :=
      if_pos (Nat.le_of_not_lt hover)
    rw [hroom, displaced]
    simp only [if_neg hover]
    rfl

theorem Kept.balances_insert (h : cache.Kept) (key : κ) (value : β) :
    cache.Balances (cache.insert key value) 0 1 (cache.displaced key value) := by
  have hsize := h.size_insert key value
  have hstore := cache.size_store_add key value
  have hcleared : (cache.displaced key value).cleared = 0 := rfl
  obtain ⟨entries, -, hinsert⟩ := h.insert_eq key value
  refine ⟨by rw [hinsert]; rfl, by rw [hinsert]; rfl, ?_⟩
  simp only [Departures.total]
  omega

theorem Kept.balances_settle (h : cache.Kept) (key : κ) (compute : Except ε β) :
    cache.Balances (cache.settle key compute).2 0
      (if (cache.settle key compute).1.succeeds then 1 else 0) (cache.settled key compute) := by
  unfold settled
  cases hfresh : cache.fresh? key with
  | some value =>
      rw [settle_of_fresh hfresh]
      exact cache.balances_touch key
  | none =>
      rw [settle_of_missing hfresh]
      cases compute with
      | ok value => exact h.balances_insert key value
      | error e => exact .refl cache

theorem Kept.balances_getOrInsert (h : cache.Kept) (key : κ) (compute : Except ε β) :
    cache.Balances (cache.getOrInsert key compute).2 1
      (if (cache.getOrInsert key compute).1.succeeds then 1 else 0)
      (cache.departures (.getOrInsert key compute)) := by
  simp only [departures]
  cases hfresh : cache.fresh? key with
  | some value =>
      rw [getOrInsert_of_fresh hfresh]
      exact cache.balances_recordHit key
  | none =>
      have hget := h.balances_get key
      have hsettle := (h.get key).kept.balances_settle key compute
      have hboth : cache.getOrInsert key compute = (cache.get key).2.settle key compute := by
        rw [getOrInsert_eq, get_of_missing hfresh]
      rw [hboth]
      simpa only [Nat.zero_add, Nat.add_zero] using hget.trans hsettle

/-! ## Entries that do not expire -/

omit [DecidableEq κ] in
theorem countP_isExpired_of_timeless (h : cache.timeToLive = none)
    (entries : List (CacheEntry κ β)) : entries.countP cache.isExpired = 0 := by
  apply List.countP_eq_zero.mpr
  intro entry _
  simp [isExpired, h]

theorem removals_of_timeless (h : cache.timeToLive = none) (key : κ) :
    cache.removals key = 0 := by
  unfold removals
  split
  next hsight =>
    obtain ⟨entry, -, hexpired⟩ := find?_of_sight_eq_expired hsight
    simp [isExpired, h] at hexpired
  next => rfl

/-- A value is stored only where there is none. -/
theorem settled_of_timeless (h : cache.timeToLive = none) (key : κ) (compute : Except ε β) :
    (cache.settled key compute).expired = 0 ∧ (cache.settled key compute).overwritten = 0 := by
  unfold settled
  split
  next value hfresh =>
    have hlife : (cache.store key value).timeToLive = none := h
    have hnone : cache.find? key = none := by
      cases hfind : cache.find? key with
      | none => rfl
      | some entry => simp [fresh?, sight, hfind, isExpired, h] at hfresh
    refine ⟨?_, List.countP_eq_zero.mpr (List.find?_eq_none.mp hnone)⟩
    simp only [displaced, countP_isExpired_of_timeless hlife, ite_self]
  next => exact ⟨rfl, rfl⟩

end Cache

/-! ## The balance of a run -/

namespace SharedCache

variable [DecidableEq κ] {shared : SharedCache κ β}

theorem balances_perform (h : shared.cache.Kept) (event : CacheEvent κ β ε) :
    shared.cache.Balances (shared.perform event).2.cache
      (if event.looksUp (shared.perform event).1 then 1 else 0)
      ((if event.computes (shared.perform event).1 then 1 else 0) +
        if event.isInsert then 1 else 0)
      (shared.departures event) := by
  cases event with
  | call call =>
      cases call with
      | get key => exact h.balances_get key
      | insert key value => exact h.balances_insert key value
      | getOrInsert key compute => exact h.balances_getOrInsert key compute
      | purge => exact shared.cache.balances_purge
      | clear => exact shared.cache.balances_clear
      | advance milliseconds => exact ⟨rfl, rfl, rfl⟩
  | look task key =>
      cases hsight : shared.cache.sight key with
      | hit value =>
          simp only [perform, hsight]
          exact shared.cache.balances_recordHit key
      | expired | absent =>
          simp only [perform, hsight]
          exact .refl shared.cache
  | leave task key =>
      cases hstage : shared.stage task key with
      | none =>
          simp only [perform, departures, hstage]
          exact .refl shared.cache
      | some stage =>
          simp only [perform, departures, hstage]
          cases stage with
          | metExpired => exact (h.balances_removeExpired key).trans (Cache.balances_recordMiss _)
          | metNothing => exact shared.cache.balances_recordMiss
          | left => exact .refl shared.cache
  | settle task key compute =>
      cases hstage : shared.stage task key with
      | none =>
          simp only [perform, departures, hstage]
          exact .refl shared.cache
      | some stage =>
          simp only [perform, departures, hstage]
          cases stage with
          | metExpired | metNothing => exact .refl shared.cache
          | left => exact h.balances_settle key compute

theorem mem_of_mem_run {events : List (CacheEvent κ β ε)}
    {entry : CacheEvent κ β ε × CacheAnswer β ε} (h : entry ∈ (run events shared).1) :
    entry.1 ∈ events := by
  induction events generalizing shared with
  | nil => cases h
  | cons event events ih =>
      rcases List.mem_cons.mp h with rfl | hrest
      · exact List.mem_cons_self
      · exact List.mem_cons_of_mem _ (ih hrest)

theorem balances_run (h : shared.cache.Kept) (events : List (CacheEvent κ β ε)) :
    shared.cache.Balances (run events shared).2.cache
      ((run events shared).1.countP fun entry => entry.1.looksUp entry.2)
      (((run events shared).1.countP fun entry => entry.1.computes entry.2) +
        (run events shared).1.countP fun entry => entry.1.isInsert)
      (departed events shared) := by
  induction events generalizing shared with
  | nil => exact .refl shared.cache
  | cons event events ih =>
      have hkept : (shared.perform event).2.cache.Kept :=
        (h.effect (shared.effect_perform event)).kept
      obtain ⟨hlookups, hinsertions, hentries⟩ := (balances_perform h event).trans (ih hkept)
      simp only [run, List.countP_cons]
      exact ⟨by omega, by omega, by simp only [departed]; omega⟩

/-! ## Caches whose entries do not expire -/

theorem departures_of_timeless (h : shared.cache.Kept)
    (hlife : shared.cache.timeToLive = none) {event : CacheEvent κ β ε}
    (hinsert : event.isInsert = false) :
    (shared.departures event).expired = 0 ∧ (shared.departures event).overwritten = 0 := by
  cases event with
  | call call =>
      cases call with
      | get key => exact ⟨Cache.removals_of_timeless hlife key, rfl⟩
      | insert key value => cases hinsert
      | getOrInsert key compute =>
          simp only [departures, Cache.departures]
          have hremovals := Cache.removals_of_timeless hlife key
          have hafter := (h.get key).timeToLive.trans hlife
          obtain ⟨hexpired, hoverwritten⟩ := Cache.settled_of_timeless hafter key compute
          split
          next => exact ⟨rfl, rfl⟩
          next => exact ⟨by simp [Departures.add, hremovals, hexpired], by
            simp [Departures.add, hoverwritten]⟩
      | purge => exact ⟨Cache.countP_isExpired_of_timeless hlife _, rfl⟩
      | clear => exact ⟨rfl, rfl⟩
      | advance milliseconds => exact ⟨rfl, rfl⟩
  | look task key => exact ⟨rfl, rfl⟩
  | leave task key =>
      simp only [departures]
      split
      next => exact ⟨Cache.removals_of_timeless hlife key, rfl⟩
      next => exact ⟨rfl, rfl⟩
  | settle task key compute =>
      simp only [departures]
      split
      next => exact Cache.settled_of_timeless hlife key compute
      next => exact ⟨rfl, rfl⟩

theorem departed_of_timeless (h : shared.cache.Kept) (hlife : shared.cache.timeToLive = none)
    {events : List (CacheEvent κ β ε)} (hinserts : ∀ event ∈ events, event.isInsert = false) :
    (departed events shared).expired = 0 ∧ (departed events shared).overwritten = 0 := by
  induction events generalizing shared with
  | nil => exact ⟨rfl, rfl⟩
  | cons event events ih =>
      obtain ⟨hinsert, hrest⟩ := List.forall_mem_cons.mp hinserts
      obtain ⟨hexpired, hoverwritten⟩ := departures_of_timeless h hlife hinsert
      have hkeeps := h.effect (shared.effect_perform event)
      obtain ⟨hrestExpired, hrestOverwritten⟩ :=
        ih hkeeps.kept (hkeeps.timeToLive.trans hlife) hrest
      simp only [departed, Departures.add]
      omega

/-! ## The accounts -/

/-- The counters of a cache agree with the events that it has seen, with what it holds and with
what has gone. -/
structure Accounts (cache : Cache κ β) (log : List (CacheEvent κ β ε × CacheAnswer β ε))
    (gone : Departures) : Prop where
  lookups : cache.hits + cache.misses = log.countP fun entry => entry.1.looksUp entry.2
  insertions : cache.insertions =
    (log.countP fun entry => entry.1.isInsert) + log.countP fun entry => entry.1.computes entry.2
  entries : cache.insertions =
    cache.size + cache.evictions + gone.expired + gone.cleared + gone.overwritten

theorem accounts_of_run (capacity : Nat) (timeToLive : Option Nat)
    (events : List (CacheEvent κ β ε)) :
    let start : SharedCache κ β := .ofCapacity capacity timeToLive
    Accounts (run events start).2.cache (run events start).1 (departed events start) := by
  intro start
  have hkept : start.cache.Kept := Cache.kept_ofCapacity capacity timeToLive
  obtain ⟨hlookups, hinsertions, hentries⟩ := balances_run hkept events
  have hempty : start.cache.size = 0 ∧ start.cache.evictions = 0 ∧ start.cache.insertions = 0 ∧
      start.cache.hits = 0 ∧ start.cache.misses = 0 := ⟨rfl, rfl, rfl, rfl, rfl⟩
  rw [Departures.total] at hentries
  exact ⟨by omega, by omega, by omega⟩

/-- Where entries do not expire and no value is stored but those that lookups compute, each of
these is there, was evicted or has been cleared. -/
theorem computations_of_run (capacity : Nat) {events : List (CacheEvent κ β ε)}
    (hinserts : ∀ event ∈ events, event.isInsert = false) :
    let start : SharedCache κ β := .ofCapacity capacity none
    ((run events start).1.countP fun entry => entry.1.computes entry.2) =
      (run events start).2.cache.size + (run events start).2.cache.evictions +
        (departed events start).cleared := by
  intro start
  have haccounts : Accounts (run events start).2.cache (run events start).1
      (departed events start) := accounts_of_run capacity none events
  obtain ⟨-, hinsertions, hentries⟩ := haccounts
  have hkept : start.cache.Kept := Cache.kept_ofCapacity capacity none
  have hlife : start.cache.timeToLive = none := rfl
  obtain ⟨hexpired, hoverwritten⟩ := departed_of_timeless hkept hlife hinserts
  have hnone : ((run events start).1.countP fun entry => entry.1.isInsert) = 0 := by
    apply List.countP_eq_zero.mpr
    intro entry hentry
    rw [hinserts entry.1 (mem_of_mem_run hentry)]
    exact Bool.false_ne_true
  omega

end SharedCache

end AccessGateway
