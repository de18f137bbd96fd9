import AccessGateway.Proofs.Cache.Bound

/-!
# The size that is reported

A cache reports its size when it stores a value, purges or is cleared.  A lookup
that met an expired entry removes it and reports nothing.  So the size reported
last is too large by the entries that lookups have removed since, and by nothing
else.
-/

namespace AccessGateway.Cache

variable {κ β ε : Type}

/-- The size reported last is too large by a number of entries. -/
structure Overstates (cache : Cache κ β) (count : Nat) : Prop where
  reported : ∀ size, cache.reported = some size → size = cache.size + count
  /-- Before the first report there is nothing to remove. -/
  unreported : cache.reported = none → cache.size = 0 ∧ count = 0

variable {cache after : Cache κ β} {count : Nat}

theorem overstates_ofCapacity (capacity : Nat) (timeToLive : Option Nat) :
    (ofCapacity capacity timeToLive : Cache κ β).Overstates 0 where
  reported size hsize := by cases hsize
  unreported _ := ⟨rfl, rfl⟩

theorem Overstates.of_reported (h : cache.reported = some cache.size) : cache.Overstates 0 where
  reported size hsize := by
    rw [h] at hsize
    exact (Option.some.inj hsize).symm
  unreported hnone := by simp [h] at hnone

/-- Without a report the entries that are gone are added to those of before. -/
theorem Overstates.of_removed (h : cache.Overstates count) {removed : Nat}
    (hreported : after.reported = cache.reported) (hsize : after.size + removed = cache.size) :
    after.Overstates (count + removed) where
  reported size hafter := by
    rw [hreported] at hafter
    have heq := h.reported size hafter
    omega
  unreported hafter := by
    rw [hreported] at hafter
    obtain ⟨hempty, hcount⟩ := h.unreported hafter
    omega

theorem Overstates.of_same (h : cache.Overstates count)
    (hreported : after.reported = cache.reported) (hsize : after.size = cache.size) :
    after.Overstates count where
  reported := by rw [hreported, hsize]; exact h.reported
  unreported := by rw [hreported, hsize]; exact h.unreported

theorem Overstates.purge (h : cache.Overstates count) :
    cache.purge.2.Overstates (if cache.timeToLive.isSome then 0 else count) := by
  cases hlife : cache.timeToLive with
  | none =>
      have hsame : cache.purge.2 = cache := by simp only [Cache.purge, hlife]
      rw [hsame]
      exact h
  | some life =>
      apply of_reported
      simp only [Cache.purge, hlife]
      rfl

variable [DecidableEq κ] {key : κ}

/-! ## Lookups -/

/-- How many entries a lookup removes. -/
def removals (cache : Cache κ β) (key : κ) : Nat :=
  match cache.sight key with
  | .expired => 1
  | _ => 0

/-- The entry that is found is the only one of its key. -/
theorem Kept.entries_removeExpired (h : cache.Kept) {entry : CacheEntry κ β}
    (hfind : cache.find? key = some entry) :
    (cache.removeExpired key).entries =
      cache.entries.filter fun other => other.key ≠ key || !cache.isExpired entry := by
  have hmem := List.mem_of_find?_eq_some hfind
  have hkey : entry.key = key := by simpa using List.find?_some hfind
  apply List.filter_congr
  intro other hother
  by_cases hotherKey : other.key = key
  · rw [h.eq_of_key hother hmem (hotherKey.trans hkey.symm)]
  · simp [hotherKey]

theorem Kept.size_removeExpired (h : cache.Kept) (key : κ) :
    (cache.removeExpired key).size + cache.removals key = cache.size := by
  cases hfind : cache.find? key with
  | none =>
      have hsight : cache.sight key = .absent := by simp only [sight, hfind]
      simp only [removals, hsight, removeExpired_of_absent hsight, Nat.add_zero]
  | some entry =>
      obtain ⟨ranked, hranked⟩ := h.ranking
      obtain ⟨hmem, rfl⟩ := hranked.mem_of_find? hfind
      have hothers := (hranked.filter fun other => other.key ≠ entry.key).perm.length_eq
      have hall := (hranked.perm_cons_filter hmem).length_eq
      rw [List.length_cons, hothers] at hall
      rw [size, h.entries_removeExpired hfind]
      cases hexpired : cache.isExpired entry with
      | true => simpa [removals, sight, hfind, hexpired, size] using hall
      | false => simp [removals, sight, hfind, hexpired, size]

theorem size_touch (cache : Cache κ β) (key : κ) : (cache.touch key).size = cache.size :=
  List.length_map _

theorem Overstates.get (h : cache.Overstates count) (hkept : cache.Kept) (key : κ) :
    (cache.get key).2.Overstates (count + cache.removals key) := by
  cases hfresh : cache.fresh? key with
  | some value =>
      have hnone : cache.removals key = 0 := by simp only [removals, sight_eq_hit hfresh]
      rw [get_of_fresh hfresh, hnone]
      exact h.of_same rfl (size_touch cache key)
  | none =>
      rw [get_of_missing hfresh]
      exact h.of_removed rfl (hkept.size_removeExpired key)

theorem Kept.reported_insert (h : cache.Kept) (key : κ) (value : β) :
    (cache.insert key value).reported = some (cache.insert key value).size := by
  obtain ⟨entries, -, hinsert⟩ := h.insert_eq key value
  rw [hinsert]
  rfl

/-! ## Calls -/

/-- How many entries are gone since the last report when a call was made. -/
def goneAfter (cache : Cache κ β) (gone : Nat) : CacheCall κ β ε → Nat
  | .get key => gone + cache.removals key
  | .insert _ _ => 0
  | .getOrInsert key compute =>
    match cache.fresh? key, compute with
    | some _, _ => gone
    | none, .ok _ => 0
    | none, .error _ => gone + cache.removals key
  | .purge => if cache.timeToLive.isSome then 0 else gone
  | .clear => 0
  | .advance _ => gone

/-- How many entries lookups have removed since the last report. -/
def gone (cache : Cache κ β) : List (CacheCall κ β ε) → Nat → Nat
  | [], count => count
  | call :: calls, count => gone (cache.perform call).2 calls (cache.goneAfter count call)

theorem Overstates.getOrInsert (h : cache.Overstates count) (hkept : cache.Kept) (key : κ)
    (compute : Except ε β) :
    (cache.getOrInsert key compute).2.Overstates
      (cache.goneAfter count (.getOrInsert key compute)) := by
  cases hfresh : cache.fresh? key with
  | some value =>
      rw [getOrInsert_of_fresh hfresh]
      simp only [goneAfter, hfresh]
      exact h.of_same rfl (size_touch cache key)
  | none =>
      have hget := h.get hkept key
      simp only [hkept.getOrInsert_of_missing hfresh, goneAfter, hfresh]
      cases compute with
      | ok value => exact of_reported ((hkept.get key).kept.reported_insert key value)
      | error e => exact hget

theorem Overstates.perform (h : cache.Overstates count) (hkept : cache.Kept)
    (call : CacheCall κ β ε) :
    (cache.perform call).2.Overstates (cache.goneAfter count call) := by
  cases call with
  | get key => exact h.get hkept key
  | insert key value => exact of_reported (hkept.reported_insert key value)
  | getOrInsert key compute => exact h.getOrInsert hkept key compute
  | purge => exact h.purge
  | clear => exact of_reported rfl
  | advance milliseconds => exact h.of_same rfl rfl

theorem Overstates.answersOf (h : cache.Overstates count) (hkept : cache.Kept)
    (calls : List (CacheCall κ β ε)) :
    (answersOf Cache.perform calls cache).2.Overstates (cache.gone calls count) := by
  induction calls generalizing cache count with
  | nil => exact h
  | cons call calls ih => exact ih (h.perform hkept call) (hkept.perform call).kept

/-- After every history of calls the size reported last is right but for the expired entries that
lookups have removed since. -/
theorem reported_answersOf (capacity : Nat) (timeToLive : Option Nat)
    (calls : List (CacheCall κ β ε)) :
    let start : Cache κ β := ofCapacity capacity timeToLive
    let cache := (answersOf Cache.perform calls start).2
    (cache.reported = none ∧ cache.size = 0) ∨
      cache.reported = some (cache.size + start.gone calls 0) := by
  intro start cache
  have hcache : cache.Overstates (start.gone calls 0) :=
    (overstates_ofCapacity capacity timeToLive).answersOf (kept_ofCapacity capacity timeToLive)
      calls
  cases hreported : cache.reported with
  | none => exact .inl ⟨rfl, (hcache.unreported hreported).1⟩
  | some size => exact .inr (congrArg some (hcache.reported size hreported))

/-- A lookup empties the cache and one entry stays reported. -/
theorem reported_of_expired_lookup :
    let calls : List (CacheCall String Nat Unit) := [.insert "a" 1, .advance 61000, .get "a"]
    let cache := (answersOf Cache.perform calls (ofCapacity 4 (some 60000))).2
    cache.reported = some 1 ∧ cache.size = 0 := by
  decide

end AccessGateway.Cache
