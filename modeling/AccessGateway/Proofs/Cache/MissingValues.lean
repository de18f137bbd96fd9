import AccessGateway.Proofs.Cache.Bound

/-!
# Computing a missing value

A lookup that computes a missing value touches the map twice.  Whatever other tasks
do in between, the value is computed only if both accesses miss it, and the call
has one of three meanings: it used a value that was there, it stored the computed
one as any call stores a value, or the computation failed and the map is as others
left it, but for an expired entry of the key.
-/

namespace AccessGateway

variable {κ β ε : Type}

namespace Cache

/-- No entry of a key lives. -/
def Lacks (cache : Cache κ β) (key : κ) : Prop :=
  ∀ entry ∈ cache.live, entry.key ≠ key

/-- The value of an entry that lives was found, and the entry was used after all others. -/
structure Uses (cache : Cache κ β) (key : κ) (value : β) (after : Cache κ β) : Prop where
  found : ∃ entry ∈ cache.live, entry.key = key ∧ entry.value = value ∧
    { entry with lastUsed := cache.stamp } ∈ after.entries
  last : ∀ entry ∈ after.entries, entry.key ≠ key → entry.lastUsed < cache.stamp
  others : ∀ entry, entry.key ≠ key → (entry ∈ after.entries ↔ entry ∈ cache.entries)

variable {cache : Cache κ β} {key : κ} {value : β}

theorem Uses.of_entries {after other : Cache κ β} (h : cache.Uses key value after)
    (heq : other.entries = after.entries) : cache.Uses key value other :=
  ⟨heq ▸ h.found, heq ▸ h.last, heq ▸ h.others⟩

variable [DecidableEq κ]

/-- A value was stored, as by any call, and is of age zero.  It is there unless nothing lives
at all. -/
structure Stored (cache : Cache κ β) (key : κ) (value : β) (after : Cache κ β) : Prop where
  after_eq : after = cache.insert key value
  insertions : after.insertions = cache.insertions + 1
  held : (∃ entry ∈ after.entries, entry.item = ⟨key, value, after.now⟩) ∨
    cache.timeToLive = some 0

/-- Nothing was changed but that an expired entry of a key is gone and a miss is counted. -/
structure Missed (cache : Cache κ β) (key : κ) (after : Cache κ β) : Prop where
  mem_iff : ∀ entry, entry ∈ after.entries ↔
    entry ∈ cache.entries ∧ ¬ (entry.key = key ∧ cache.isExpired entry = true)
  insertions : after.insertions = cache.insertions
  misses : after.misses = cache.misses + 1

theorem Kept.answersOf (h : cache.Kept) (calls : List (CacheCall κ β ε)) :
    cache.Keeps (answersOf Cache.perform calls cache).2 := by
  let shared : SharedCache κ β := ⟨cache, fun _ _ => none⟩
  have hshared : shared.cache.Kept := h
  have hkeeps := SharedCache.keeps_run (calls.map .call) hshared
  rwa [SharedCache.run_calls] at hkeeps

theorem Kept.fresh?_eq_none_iff (h : cache.Kept) : cache.fresh? key = none ↔ cache.Lacks key := by
  rw [Option.eq_none_iff_forall_ne_some]
  constructor
  · intro hnone entry hlive hkey
    exact hnone entry.value (h.fresh?_eq_some_iff.mpr ⟨entry, hlive, hkey, rfl⟩)
  · intro hlacks value hsome
    obtain ⟨entry, hlive, hkey, -⟩ := h.fresh?_eq_some_iff.mp hsome
    exact hlacks entry hlive hkey

/-! ## What the accesses make of the cache -/

theorem missed_removeExpired (cache : Cache κ β) (key : κ) :
    cache.Missed key (cache.removeExpired key).recordMiss where
  mem_iff entry := by
    simp only [recordMiss, removeExpired, List.mem_filter]
    by_cases hkey : entry.key = key <;> simp [hkey]
  insertions := rfl
  misses := rfl

theorem Kept.uses_touch (h : cache.Kept) (hfresh : cache.fresh? key = some value) :
    cache.Uses key value (cache.touch key) := by
  obtain ⟨entry, hlive, hkey, hvalue⟩ := h.fresh?_eq_some_iff.mp hfresh
  obtain ⟨ranked, hranked⟩ := h.ranking
  constructor
  · refine ⟨entry, hlive, hkey, hvalue, List.mem_map.mpr ⟨entry, (List.mem_filter.mp hlive).1, ?_⟩⟩
    exact if_pos hkey
  · intro other hother hne
    obtain ⟨before, hbefore, rfl⟩ := List.mem_map.mp hother
    by_cases hsame : before.key = key
    · simp [hsame] at hne
    · simp only [hsame, if_false]
      exact hranked.stamped before (hranked.perm.mem_iff.mpr hbefore)
  · intro other hne
    constructor
    · intro hother
      obtain ⟨before, hbefore, rfl⟩ := List.mem_map.mp hother
      by_cases hsame : before.key = key
      · simp [hsame] at hne
      · simpa [hsame] using hbefore
    · intro hother
      exact List.mem_map.mpr ⟨other, hother, if_neg hne⟩

theorem Kept.stored_insert (h : cache.Kept) (key : κ) (value : β) :
    cache.Stored key value (cache.insert key value) := by
  obtain ⟨ranked, hranked⟩ := h.ranking
  have hfollows : cache.Follows (cache.listing ranked) := ⟨h.room, ranked, hranked, rfl⟩
  obtain ⟨entries, -, hinsert⟩ := h.insert_eq key value
  have hnow : (cache.insert key value).now = cache.now := by rw [hinsert]; rfl
  refine ⟨rfl, by rw [hinsert]; rfl, ?_⟩
  rw [hnow]
  rcases hfollows.insert_keeps key value with hheld | ⟨hzero, -⟩
  · exact .inl hheld
  · exact .inr hzero

/-! ## The whole lookup -/

/-- The cache in which a lookup that met no value leaves: other tasks come first only if it has an
expired entry to remove. -/
def met (cache : Cache κ β) (key : κ) (early : Cache κ β → Cache κ β) : Cache κ β :=
  match cache.sight key with
  | .expired => early cache
  | _ => cache

theorem Kept.met (h : cache.Kept) (key : κ) {early : Cache κ β → Cache κ β}
    (hearly : (early cache).Kept) : (cache.met key early).Kept := by
  unfold Cache.met
  split
  · exact hearly
  · exact h

theorem getOrInsertAround_of_fresh (h : cache.fresh? key = some value) (compute : Except ε β)
    (early late : Cache κ β → Cache κ β) :
    cache.getOrInsertAround key compute early late =
      (⟨false, .ok value⟩, cache.recordHit key) := by
  simp only [getOrInsertAround, sight_eq_hit h]

theorem getOrInsertAround_of_missing (h : cache.fresh? key = none) (compute : Except ε β)
    (early late : Cache κ β → Cache κ β) :
    cache.getOrInsertAround key compute early late =
      (late (((cache.met key early).removeExpired key).recordMiss)).settle key compute := by
  unfold fresh? at h
  unfold getOrInsertAround met
  cases hsight : cache.sight key with
  | hit found => simp [hsight] at h
  | expired => rfl
  | absent => simp only [removeExpired_of_absent hsight]

/-- What a settled lookup means: a value that is there is used, and otherwise the computed one is
stored or the failure changes nothing. -/
theorem Kept.settle_cases (h : cache.Kept) (key : κ) (compute : Except ε β) :
    let (answer, after) := cache.settle key compute
    (answer.called = true ↔ cache.Lacks key) ∧
      (answer.called = false →
        ∃ value, answer.result = .ok value ∧ cache.Uses key value after) ∧
      (answer.called = true → answer.result = compute ∧
        (∀ value, compute = .ok value → cache.Stored key value after) ∧
        ∀ e, compute = .error e → after = cache) := by
  rw [← h.fresh?_eq_none_iff]
  cases hfresh : cache.fresh? key with
  | some value =>
      rw [settle_of_fresh hfresh]
      exact ⟨by simp, fun _ => ⟨value, rfl, (h.uses_touch hfresh).of_entries rfl⟩, by simp⟩
  | none =>
      rw [settle_of_missing hfresh]
      cases compute with
      | ok value =>
          refine ⟨by simp, by simp, fun _ => ⟨rfl, ?_, by simp⟩⟩
          rintro other ⟨⟩
          exact h.stored_insert key value
      | error e => exact ⟨by simp, by simp, fun _ => ⟨rfl, by simp, fun _ _ => rfl⟩⟩

/-- However far other tasks have come with their lookups before, and whatever calls they make in
between, a lookup computes a missing value exactly if both of its accesses miss it.  Then it
answers with what was computed; a value is stored and a failure is not.  Otherwise it answers
with the value that the first or the second access found. -/
theorem getOrInsertAround_computes_missing (capacity : Nat) (timeToLive : Option Nat)
    (events : List (CacheEvent κ β ε)) (key : κ) (compute : Except ε β)
    (early late : List (CacheCall κ β ε)) :
    let others (calls : List (CacheCall κ β ε)) (cache : Cache κ β) :=
      (AccessGateway.answersOf Cache.perform calls cache).2
    let cache := (SharedCache.run events (.ofCapacity capacity timeToLive)).2.cache
    let met := cache.met key (others early)
    let left := (met.removeExpired key).recordMiss
    let second := others late left
    let (answer, after) := cache.getOrInsertAround key compute (others early) (others late)
    (answer.called = true ↔ cache.Lacks key ∧ second.Lacks key) ∧
      (answer.called = false → ∃ value, answer.result = .ok value ∧
        (cache.Uses key value after ∨ cache.Lacks key ∧ second.Uses key value after)) ∧
      (answer.called = true → answer.result = compute ∧ met.Missed key left ∧
        (∀ value, compute = .ok value → second.Stored key value after) ∧
        ∀ e, compute = .error e → after = second) := by
  intro others cache met left second
  have hcache : cache.Kept :=
    (SharedCache.keeps_run events (kept_ofCapacity capacity timeToLive)).kept
  have hmet : met.Kept := hcache.met key (hcache.answersOf early).kept
  have hleft : left.Kept := (hmet.removeExpired key).kept.recordMiss.kept
  have hsecond : second.Kept := (hleft.answersOf late).kept
  cases hfresh : cache.fresh? key with
  | some value =>
      have hlives : ¬ cache.Lacks key := by
        rw [← hcache.fresh?_eq_none_iff, hfresh]
        exact Option.some_ne_none value
      rw [getOrInsertAround_of_fresh hfresh]
      refine ⟨by simp [hlives], fun _ => ⟨value, rfl, .inl ?_⟩, by simp⟩
      exact (hcache.uses_touch hfresh).of_entries rfl
  | none =>
      have hlacks : cache.Lacks key := hcache.fresh?_eq_none_iff.mp hfresh
      obtain ⟨hcalled, hfound, hcomputed⟩ := hsecond.settle_cases key compute
      rw [getOrInsertAround_of_missing hfresh]
      refine ⟨by simpa [hlacks] using hcalled, ?_, ?_⟩
      · intro hcall
        obtain ⟨value, hresult, huses⟩ := hfound hcall
        exact ⟨value, hresult, .inr ⟨hlacks, huses⟩⟩
      · intro hcall
        obtain ⟨hresult, hmeaning⟩ := hcomputed hcall
        exact ⟨hresult, missed_removeExpired met key, hmeaning⟩

/-- Another task was faster. -/
example :
    let cache : Cache String Nat := .ofCapacity 2 (some 60)
    (cache.getOrInsertAround "key" (.ok 1 : Except Unit Nat) id (·.insert "key" 7)).1 =
      ⟨false, .ok 7⟩ := rfl

end Cache

end AccessGateway
