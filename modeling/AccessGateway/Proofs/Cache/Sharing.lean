import AccessGateway.Proofs.Cache.Recency

/-!
# Tasks that share a cache

A lookup that computes a missing value does three things to the cache.  It looks
for the value; if it met none it leaves, which removes an expired entry that it
met; and it settles what to answer.  Each of them is one event, and between any
two of them other tasks may do anything.  A lookup that only asks ends when it
has left.

`getOrInsertAround` is a run of such events with the calls of other tasks in
between, as `getOrInsertAround_eq_run` says.
-/

namespace AccessGateway

variable {κ β ε : Type}

/-- How far a lookup has come that met no value. -/
inductive LookupStage where
  | metExpired
  | metNothing
  | left

structure SharedCache (κ β : Type) where
  cache : Cache κ β
  /-- The lookups under way, by their task and key. -/
  stage : Nat → κ → Option LookupStage := fun _ _ => none

inductive CacheEvent (κ β ε : Type) where
  | call (call : CacheCall κ β ε)
  | look (task : Nat) (key : κ)
  | leave (task : Nat) (key : κ)
  | settle (task : Nat) (key : κ) (compute : Except ε β)

namespace CacheEvent

/-- The key and the value that an event stored, by its answer. -/
def stored? : CacheEvent κ β ε → CacheAnswer β ε → Option (κ × β)
  | .call (.insert key value), _ => some (key, value)
  | .call (.getOrInsert key _), .computed ⟨true, .ok value⟩ => some (key, value)
  | .settle _ key _, .computed ⟨true, .ok value⟩ => some (key, value)
  | _, _ => none

/-- The key and the value that an event found, by its answer. -/
def found? : CacheEvent κ β ε → CacheAnswer β ε → Option (κ × β)
  | .call (.get key), .found (some value) => some (key, value)
  | .call (.getOrInsert key _), .computed ⟨false, .ok value⟩ => some (key, value)
  | .look _ key, .found (some value) => some (key, value)
  | .settle _ key _, .computed ⟨false, .ok value⟩ => some (key, value)
  | _, _ => none

def isPurge : CacheEvent κ β ε → Bool
  | .call .purge => true
  | _ => false

end CacheEvent

/-! ## What a lookup finds -/

namespace Cache

variable [DecidableEq κ] {cache : Cache κ β} {key : κ} {value : β}

/-- The value that a lookup finds. -/
def fresh? (cache : Cache κ β) (key : κ) : Option β :=
  match cache.sight key with
  | .hit value => some value
  | _ => none

theorem sight_eq_hit (h : cache.fresh? key = some value) : cache.sight key = .hit value := by
  unfold fresh? at h
  cases hsight : cache.sight key with
  | hit found =>
      rw [hsight] at h
      exact congrArg Sight.hit (Option.some.inj h)
  | expired => simp [hsight] at h
  | absent => simp [hsight] at h

theorem find?_of_sight_eq_absent (h : cache.sight key = .absent) : cache.find? key = none := by
  unfold sight at h
  cases hfind : cache.find? key with
  | none => rfl
  | some entry =>
      cases hexpired : cache.isExpired entry <;> simp [hfind, hexpired] at h

theorem find?_of_sight_eq_expired (h : cache.sight key = .expired) :
    ∃ entry, cache.find? key = some entry ∧ cache.isExpired entry = true := by
  unfold sight at h
  cases hfind : cache.find? key with
  | none => simp [hfind] at h
  | some entry =>
      refine ⟨entry, rfl, ?_⟩
      cases hexpired : cache.isExpired entry with
      | true => rfl
      | false => simp [hfind, hexpired] at h

theorem removeExpired_of_absent (h : cache.sight key = .absent) :
    cache.removeExpired key = cache := by
  have hnone := List.find?_eq_none.mp (find?_of_sight_eq_absent h)
  have hsame : (cache.entries.filter fun entry => entry.key ≠ key || !cache.isExpired entry) =
      cache.entries := by
    apply List.filter_eq_self.mpr
    intro entry hmem
    have hne : entry.key ≠ key := by simpa using hnone entry hmem
    simp [hne]
  simp only [removeExpired, hsame]

theorem get_of_fresh (h : cache.fresh? key = some value) :
    cache.get key = (some value, cache.recordHit key) := by
  simp only [get, sight_eq_hit h]

theorem get_of_missing (h : cache.fresh? key = none) :
    cache.get key = (none, (cache.removeExpired key).recordMiss) := by
  unfold fresh? at h
  cases hsight : cache.sight key with
  | hit found => simp [hsight] at h
  | expired => simp only [get, hsight]
  | absent => simp only [get, hsight, removeExpired_of_absent hsight]

theorem getOrInsert_of_fresh (h : cache.fresh? key = some value) (compute : Except ε β) :
    cache.getOrInsert key compute = (⟨false, .ok value⟩, cache.recordHit key) := by
  rw [getOrInsert_eq, get_of_fresh h]

theorem settle_of_fresh (h : cache.fresh? key = some value) (compute : Except ε β) :
    cache.settle key compute = (⟨false, .ok value⟩, report (cache.touch key)) := by
  simp only [settle, sight_eq_hit h]

/-- Whether an expired entry is there or none, a missing value is stored as any other. -/
theorem settle_of_missing (h : cache.fresh? key = none) (compute : Except ε β) :
    cache.settle key compute =
      match compute with
      | .ok value => (⟨true, .ok value⟩, cache.insert key value)
      | .error e => (⟨true, .error e⟩, cache) := by
  unfold fresh? at h
  cases hsight : cache.sight key with
  | hit found => simp [hsight] at h
  | expired =>
      obtain ⟨entry, hfind, -⟩ := find?_of_sight_eq_expired hsight
      cases compute <;> simp [settle, hsight, Cache.insert, hfind]
  | absent => exact settle_of_absent (find?_of_sight_eq_absent hsight) compute

end Cache

/-! ## Runs -/

namespace SharedCache

variable [DecidableEq κ]

def ofCapacity (capacity : Nat) (timeToLive : Option Nat) : SharedCache κ β where
  cache := .ofCapacity capacity timeToLive

/-- Brings a lookup to a stage, or to its end, and the cache to what it made of it. -/
def move (shared : SharedCache κ β) (task : Nat) (key : κ) (stage : Option LookupStage)
    (cache : Cache κ β) : SharedCache κ β where
  cache := cache
  stage := fun other otherKey =>
    if other = task ∧ otherKey = key then stage else shared.stage other otherKey

/-- What an event answers and makes of the cache.  An event of a lookup that has not come to it
does nothing. -/
def perform (shared : SharedCache κ β) : CacheEvent κ β ε → CacheAnswer β ε × SharedCache κ β
  | .call call => (shared.cache.perform call).map id fun cache => { shared with cache := cache }
  | .look task key =>
    match shared.cache.sight key with
    | .hit value => (.found (some value), shared.move task key none (shared.cache.recordHit key))
    | .expired => (.done, shared.move task key (some .metExpired) shared.cache)
    | .absent => (.done, shared.move task key (some .metNothing) shared.cache)
  | .leave task key =>
    match shared.stage task key with
    | some .metExpired =>
      (.found none,
        shared.move task key (some .left) (shared.cache.removeExpired key).recordMiss)
    | some .metNothing => (.found none, shared.move task key (some .left) shared.cache.recordMiss)
    | _ => (.done, shared)
  | .settle task key compute =>
    match shared.stage task key with
    | some .left => (shared.cache.settle key compute).map .computed (shared.move task key none)
    | _ => (.done, shared)

/-- The events with their answers, and the cache after them. -/
def run : List (CacheEvent κ β ε) → SharedCache κ β →
    List (CacheEvent κ β ε × CacheAnswer β ε) × SharedCache κ β
  | [], shared => ([], shared)
  | event :: events, shared =>
    let (answer, shared) := shared.perform event
    let (log, shared) := run events shared
    ((event, answer) :: log, shared)

variable {shared : SharedCache κ β}

theorem run_append (first second : List (CacheEvent κ β ε)) (shared : SharedCache κ β) :
    run (first ++ second) shared =
      ((run first shared).1 ++ (run second (run first shared).2).1,
        (run second (run first shared).2).2) := by
  induction first generalizing shared with
  | nil => rfl
  | cons event events ih => simp only [List.cons_append, run, ih]

/-- What holds at the start and is kept by every event holds after a run. -/
theorem run_invariant {p : SharedCache κ β → Prop}
    (hstep : ∀ shared (event : CacheEvent κ β ε), p shared → p (shared.perform event).2)
    (events : List (CacheEvent κ β ε)) (h : p shared) : p (run events shared).2 := by
  induction events generalizing shared with
  | nil => exact h
  | cons event events ih => exact ih (hstep shared event h)

end SharedCache

/-! ## Effects -/

/-- All that an event can answer and make of a cache. -/
inductive Cache.Effect [DecidableEq κ] (cache : Cache κ β) :
    CacheEvent κ β ε → CacheAnswer β ε → Cache κ β → Prop where
  | call (call : CacheCall κ β ε) :
      Effect cache (.call call) (cache.perform call).1 (cache.perform call).2
  | nothing (event : CacheEvent κ β ε) (h : ∀ call, event ≠ .call call) :
      Effect cache event .done cache
  | hit (task : Nat) (key : κ) (value : β) (h : cache.fresh? key = some value) :
      Effect cache (.look task key) (.found (some value)) (cache.recordHit key)
  | leftExpired (task : Nat) (key : κ) :
      Effect cache (.leave task key) (.found none) (cache.removeExpired key).recordMiss
  | leftNothing (task : Nat) (key : κ) :
      Effect cache (.leave task key) (.found none) cache.recordMiss
  | settled (task : Nat) (key : κ) (compute : Except ε β) :
      Effect cache (.settle task key compute) (.computed (cache.settle key compute).1)
        (cache.settle key compute).2

namespace SharedCache

variable [DecidableEq κ]

theorem effect_perform (shared : SharedCache κ β) (event : CacheEvent κ β ε) :
    shared.cache.Effect event (shared.perform event).1 (shared.perform event).2.cache := by
  cases event with
  | call call => exact .call call
  | look task key =>
      cases hsight : shared.cache.sight key with
      | hit value =>
          have hfresh : shared.cache.fresh? key = some value := by simp only [Cache.fresh?, hsight]
          simpa only [perform, hsight, move] using .hit task key value hfresh
      | expired => simpa only [perform, hsight, move] using .nothing (.look task key) (by simp)
      | absent => simpa only [perform, hsight, move] using .nothing (.look task key) (by simp)
  | leave task key =>
      have hnothing : shared.cache.Effect (.leave task key : CacheEvent κ β ε) .done
          shared.cache := .nothing _ (by simp)
      cases hstage : shared.stage task key with
      | none => simpa only [perform, hstage] using hnothing
      | some stage =>
          cases stage with
          | metExpired => simpa only [perform, hstage, move] using .leftExpired task key
          | metNothing => simpa only [perform, hstage, move] using .leftNothing task key
          | left => simpa only [perform, hstage] using hnothing
  | settle task key compute =>
      have hnothing : shared.cache.Effect (.settle task key compute) .done shared.cache :=
        .nothing _ (by simp)
      cases hstage : shared.stage task key with
      | none => simpa only [perform, hstage] using hnothing
      | some stage =>
          cases stage with
          | metExpired => simpa only [perform, hstage] using hnothing
          | metNothing => simpa only [perform, hstage] using hnothing
          | left => simpa only [perform, hstage, move] using .settled task key compute

/-! ## Lookups as runs -/

theorem run_calls (calls : List (CacheCall κ β ε)) (shared : SharedCache κ β) :
    (run (calls.map .call) shared).2 =
      { shared with cache := (answersOf Cache.perform calls shared.cache).2 } := by
  induction calls generalizing shared with
  | nil => rfl
  | cons call calls ih => exact ih _

/-- A lookup up to where it settles, with the calls of other tasks before and after it leaves. -/
def approach (task : Nat) (key : κ) (early late : List (CacheCall κ β ε)) :
    List (CacheEvent κ β ε) :=
  .look task key :: early.map .call ++ .leave task key :: late.map .call

/-- A lookup that computes a missing value is a run of its events.  Where it met nothing there is
nothing to remove, so what others do before it leaves does not matter. -/
theorem getOrInsertAround_eq_run (shared : SharedCache κ β) (task : Nat) (key : κ)
    (compute : Except ε β) (early late : List (CacheCall κ β ε)) :
    let around := shared.cache.getOrInsertAround key compute
      (fun cache => (answersOf Cache.perform early cache).2)
      (fun cache => (answersOf Cache.perform late cache).2)
    let settled (early : List (CacheCall κ β ε)) :=
      (run (approach task key early late) shared).2.perform (.settle task key compute)
    match shared.cache.sight key with
    | .hit value =>
      around.1 = ⟨false, .ok value⟩ ∧
        shared.perform (.look task key : CacheEvent κ β ε) =
          (.found (some value), shared.move task key none around.2)
    | .expired => (settled early).1 = .computed around.1 ∧ (settled early).2.cache = around.2
    | .absent => (settled []).1 = .computed around.1 ∧ (settled []).2.cache = around.2 := by
  cases hsight : shared.cache.sight key with
  | hit value => simp [perform, move, hsight, Cache.getOrInsertAround]
  | expired =>
      simp [approach, run, run_append, run_calls, perform, move, hsight, Cache.getOrInsertAround]
  | absent => simp [approach, run, run_calls, perform, move, hsight, Cache.getOrInsertAround]

end SharedCache

end AccessGateway
