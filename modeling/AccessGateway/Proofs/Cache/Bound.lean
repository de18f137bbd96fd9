import AccessGateway.Proofs.Cache.Sharing

/-!
# The bound of a shared cache

A cache is over its capacity only inside the call that stores a new key.  Every
completed event leaves it within the bound, whatever other tasks do between the
events of a lookup, and an event evicts at most one entry: it then stored a key
that was not there, and every place was taken by an entry that lives.
-/

namespace AccessGateway

variable {κ β ε : Type}

namespace Cache

/-- What every completed event keeps of a cache. -/
structure Kept (cache : Cache κ β) : Prop where
  room : 1 ≤ cache.capacity
  bounded : cache.size ≤ cache.capacity
  ranking : ∃ ranked, Ranked ranked cache.entries cache.stamp

structure Keeps (cache after : Cache κ β) : Prop where
  kept : after.Kept
  capacity : after.capacity = cache.capacity
  timeToLive : after.timeToLive = cache.timeToLive

variable {cache after : Cache κ β}

theorem kept_ofCapacity (capacity : Nat) (timeToLive : Option Nat) :
    (ofCapacity capacity timeToLive : Cache κ β).Kept where
  room := Nat.le_max_right capacity 1
  bounded := Nat.zero_le _
  ranking := ⟨[], Ranked.nil⟩

theorem Keeps.trans {last : Cache κ β} (h : cache.Keeps after) (hlast : after.Keeps last) :
    cache.Keeps last where
  kept := hlast.kept
  capacity := hlast.capacity.trans h.capacity
  timeToLive := hlast.timeToLive.trans h.timeToLive

theorem Kept.eq_of_key (h : cache.Kept) {a b : CacheEntry κ β} (ha : a ∈ cache.entries)
    (hb : b ∈ cache.entries) (hkey : a.key = b.key) : a = b := by
  obtain ⟨ranked, hranked⟩ := h.ranking
  exact hranked.eq_of_key (hranked.perm.mem_iff.mpr ha) (hranked.perm.mem_iff.mpr hb) hkey

theorem Kept.of_filter (h : cache.Kept) (p : CacheEntry κ β → Bool)
    (hcapacity : after.capacity = cache.capacity) (hstamp : after.stamp = cache.stamp)
    (hentries : after.entries = cache.entries.filter p) : after.Kept where
  room := by rw [hcapacity]; exact h.room
  bounded := by
    have hle := List.length_filter_le p cache.entries
    have hbounded := h.bounded
    simp only [size] at hbounded ⊢
    rw [hcapacity, hentries]
    omega
  ranking := by
    obtain ⟨ranked, hranked⟩ := h.ranking
    rw [hentries, hstamp]
    exact ⟨ranked.filter p, hranked.filter p⟩

theorem Kept.of_entries (h : cache.Kept) (hcapacity : after.capacity = cache.capacity)
    (hstamp : after.stamp = cache.stamp) (hentries : after.entries = cache.entries) :
    after.Kept :=
  h.of_filter (fun _ => true) hcapacity hstamp (by rw [hentries, List.filter_true])

theorem Kept.recordMiss (h : cache.Kept) : cache.Keeps cache.recordMiss where
  kept := h.of_entries rfl rfl rfl
  capacity := rfl
  timeToLive := rfl

theorem Kept.purge (h : cache.Kept) : cache.Keeps cache.purge.2 := by
  obtain ⟨reported, hpurge⟩ := cache.purge_eq
  rw [hpurge]
  exact ⟨h.of_filter (fun entry => !cache.isExpired entry) rfl rfl rfl, rfl, rfl⟩

variable [DecidableEq κ] {key : κ} {value : β}

theorem Kept.removeExpired (h : cache.Kept) (key : κ) :
    cache.Keeps (cache.removeExpired key) where
  kept := h.of_filter (fun entry => entry.key ≠ key || !cache.isExpired entry) rfl rfl rfl
  capacity := rfl
  timeToLive := rfl

/-! ## Finding a value -/

theorem Kept.fresh?_eq_some_iff (h : cache.Kept) :
    cache.fresh? key = some value ↔
      ∃ entry ∈ cache.live, entry.key = key ∧ entry.value = value := by
  constructor
  · intro hfresh
    have hsight := sight_eq_hit hfresh
    unfold sight at hsight
    cases hfind : cache.find? key with
    | none => simp [hfind] at hsight
    | some entry =>
        have hmem := List.mem_of_find?_eq_some hfind
        have hkey : entry.key = key := by simpa using List.find?_some hfind
        cases hexpired : cache.isExpired entry with
        | true => simp [hfind, hexpired] at hsight
        | false =>
            have hvalue : entry.value = value := by simpa [hfind, hexpired] using hsight
            exact ⟨entry, List.mem_filter.mpr ⟨hmem, by simp [hexpired]⟩, hkey, hvalue⟩
  · rintro ⟨entry, hlive, hkey, hvalue⟩
    obtain ⟨hmem, hexpired⟩ := List.mem_filter.mp hlive
    cases hfind : cache.find? key with
    | none =>
        have hne := List.find?_eq_none.mp hfind entry hmem
        simp [hkey] at hne
    | some other =>
        have hother := List.mem_of_find?_eq_some hfind
        have hotherKey : other.key = key := by simpa using List.find?_some hfind
        have hsame := h.eq_of_key hother hmem (hotherKey.trans hkey.symm)
        subst hsame
        have hfreshEntry : cache.isExpired other = false := by simpa using hexpired
        simp [fresh?, sight, hfind, hfreshEntry, hvalue]

theorem Kept.touch (h : cache.Kept) (hfresh : cache.fresh? key = some value) :
    cache.Keeps (cache.touch key) := by
  obtain ⟨entry, hlive, rfl, -⟩ := h.fresh?_eq_some_iff.mp hfresh
  have hmem := (List.mem_filter.mp hlive).1
  obtain ⟨ranked, hranked⟩ := h.ranking
  have htouched := hranked.touch (hranked.perm.mem_iff.mpr hmem)
  have hbounded : (cache.touch entry.key).size ≤ cache.capacity := by
    have hbounded := h.bounded
    simpa [size, Cache.touch] using hbounded
  exact ⟨⟨h.room, hbounded, _, htouched⟩, rfl, rfl⟩

theorem Kept.recordHit (h : cache.Kept) (hfresh : cache.fresh? key = some value) :
    cache.Keeps (cache.recordHit key) :=
  ⟨(h.touch hfresh).kept.of_entries rfl rfl rfl, rfl, rfl⟩

theorem Kept.get (h : cache.Kept) (key : κ) : cache.Keeps (cache.get key).2 := by
  cases hfresh : cache.fresh? key with
  | some value =>
      rw [get_of_fresh hfresh]
      exact h.recordHit hfresh
  | none =>
      rw [get_of_missing hfresh]
      have hremoved := h.removeExpired key
      exact hremoved.trans hremoved.kept.recordMiss

theorem live_removeExpired (cache : Cache κ β) (key : κ) :
    (cache.removeExpired key).live = cache.live := by
  have hfresh : (cache.removeExpired key).live =
      (cache.entries.filter fun entry => entry.key ≠ key || !cache.isExpired entry).filter
        fun entry => !cache.isExpired entry := rfl
  rw [hfresh, List.filter_filter]
  apply List.filter_congr
  intro entry _
  cases cache.isExpired entry <;> simp

theorem Kept.fresh?_removeExpired (h : cache.Kept) (key other : κ) :
    (cache.removeExpired key).fresh? other = cache.fresh? other := by
  apply Option.ext
  intro value
  rw [h.fresh?_eq_some_iff, (h.removeExpired key).kept.fresh?_eq_some_iff, live_removeExpired]

/-- No other task comes in between, so a value that was missing is computed. -/
theorem Kept.getOrInsert_of_missing (h : cache.Kept) (hfresh : cache.fresh? key = none)
    (compute : Except ε β) :
    cache.getOrInsert key compute =
      match compute with
      | .ok value => (⟨true, .ok value⟩, (cache.get key).2.insert key value)
      | .error e => (⟨true, .error e⟩, (cache.get key).2) := by
  have hagain : (cache.removeExpired key).recordMiss.fresh? key = none :=
    (h.fresh?_removeExpired key key).trans hfresh
  rw [getOrInsert_eq, get_of_missing hfresh]
  exact settle_of_missing hagain compute

/-! ## Storing a value -/

theorem Kept.size_store_le (h : cache.Kept) (key : κ) (value : β) :
    (cache.store key value).size ≤ cache.capacity + 1 := by
  have hle := List.length_filter_le (fun entry => entry.key ≠ key) cache.entries
  have hbounded := h.bounded
  simp only [size, store, List.length_cons] at hbounded ⊢
  omega

/-- In place of another entry a value needs no room. -/
theorem Kept.size_store_of_mem (h : cache.Kept) {entry : CacheEntry κ β}
    (hmem : entry ∈ cache.entries) (value : β) :
    (cache.store entry.key value).size ≤ cache.capacity := by
  have hlt : (cache.entries.filter fun other => other.key ≠ entry.key).length <
      cache.entries.length := by
    apply List.length_filter_lt_length_iff_exists.mpr
    exact ⟨entry, hmem, by simp⟩
  have hbounded := h.bounded
  simp only [size, store, List.length_cons] at hbounded ⊢
  omega

theorem live_store (cache : Cache κ β) (key : κ) (value : β) :
    (cache.store key value).live =
      ([⟨key, value, cache.now, cache.stamp⟩].filter fun entry => !cache.isExpired entry) ++
        cache.live.filter fun entry => entry.key ≠ key := by
  let new : CacheEntry κ β := ⟨key, value, cache.now, cache.stamp⟩
  let others := cache.entries.filter fun entry => entry.key ≠ key
  have hothers : (others.filter fun entry => !cache.isExpired entry) =
      cache.live.filter fun entry => entry.key ≠ key := List.filter_comm ..
  calc
    (cache.store key value).live =
        ([new] ++ others).filter fun entry => !cache.isExpired entry := rfl
    _ = ([new].filter fun entry => !cache.isExpired entry) ++
        others.filter fun entry => !cache.isExpired entry := List.filter_append ..
    _ = _ := by rw [hothers]

theorem Kept.insert_eq_makeRoom (h : cache.Kept) (key : κ) (value : β) :
    cache.insert key value = report ((cache.store key value).makeRoom key) := by
  unfold Cache.insert
  cases hfind : cache.find? key with
  | none => simp
  | some entry =>
      have hmem := List.mem_of_find?_eq_some hfind
      have hkey : entry.key = key := by simpa using List.find?_some hfind
      subst hkey
      have hroom : (cache.store entry.key value).makeRoom entry.key =
          cache.store entry.key value := if_pos (h.size_store_of_mem hmem value)
      simp [hroom]

/-- The entries that are left when a value was stored and room was made: of those that live as
many as fit, from the most recently used on.  Where there was room already the expired ones stay
too. -/
structure LeftAfter (stored : Cache κ β) (entries : List (CacheEntry κ β)) : Prop where
  bounded : entries.length ≤ stored.capacity
  ranking : ∃ ranked, Ranked ranked entries stored.stamp
  live : ∃ ranked, Ranked ranked stored.live stored.stamp ∧
    (entries.filter fun entry => !stored.isExpired entry).Perm (ranked.take stored.capacity)

theorem Kept.insert_eq (h : cache.Kept) (key : κ) (value : β) :
    ∃ entries, (cache.store key value).LeftAfter entries ∧
      cache.insert key value =
        { cache.store key value with
          entries := entries
          reported := some entries.length
          evictions := cache.evictions +
            ((cache.store key value).live.length - cache.capacity) } := by
  rw [h.insert_eq_makeRoom]
  obtain ⟨listed, hlisted⟩ := h.ranking
  have hstored := hlisted.store key value
  have hlive := hstored.filter fun entry => !cache.isExpired entry
  by_cases hover : (cache.store key value).size ≤ cache.capacity
  · have hle : (cache.store key value).live.length ≤ cache.capacity :=
      Nat.le_trans (List.length_filter_le _ _) hover
    have hmakeRoom : (cache.store key value).makeRoom key = cache.store key value :=
      if_pos hover
    refine ⟨(cache.store key value).entries, ⟨hover, ⟨_, hstored⟩, _, hlive, ?_⟩, ?_⟩
    · have hfits := hlive.perm.length_eq ▸ hle
      exact hlive.perm.symm.trans (.of_eq (List.take_of_length_le hfits).symm)
    · rw [hmakeRoom, Nat.sub_eq_zero_of_le hle]
      rfl
  · obtain ⟨entries, reported, hkept, hmakeRoom⟩ :=
      makeRoom_eq hstored rfl h.room (Nat.lt_of_not_le hover)
    refine ⟨entries, ⟨?_, ⟨_, hkept⟩, _, hlive, ?_⟩, ?_⟩
    · rw [← hkept.perm.length_eq]
      exact List.length_take_le _ _
    · have hall : (entries.filter fun entry => !cache.isExpired entry) = entries := by
        apply List.filter_eq_self.mpr
        intro entry hmem
        have htaken := List.mem_of_mem_take (hkept.perm.mem_iff.mpr hmem)
        exact (List.mem_filter.mp htaken).2
      exact (List.Perm.of_eq hall).trans hkept.perm.symm
    · rw [hmakeRoom]
      rfl

theorem Kept.insert (h : cache.Kept) (key : κ) (value : β) :
    cache.Keeps (cache.insert key value) := by
  obtain ⟨entries, hleft, hinsert⟩ := h.insert_eq key value
  rw [hinsert]
  exact ⟨⟨h.room, hleft.bounded, hleft.ranking⟩, rfl, rfl⟩

theorem Kept.settle (h : cache.Kept) (key : κ) (compute : Except ε β) :
    cache.Keeps (cache.settle key compute).2 := by
  cases hfresh : cache.fresh? key with
  | some value =>
      rw [settle_of_fresh hfresh]
      have htouch := h.touch hfresh
      exact ⟨htouch.kept.of_entries rfl rfl rfl, rfl, rfl⟩
  | none =>
      rw [settle_of_missing hfresh]
      cases compute with
      | ok value => exact h.insert key value
      | error e => exact ⟨h, rfl, rfl⟩

theorem Kept.getOrInsert (h : cache.Kept) (key : κ) (compute : Except ε β) :
    cache.Keeps (cache.getOrInsert key compute).2 := by
  cases hfresh : cache.fresh? key with
  | some value =>
      rw [getOrInsert_of_fresh hfresh]
      exact h.recordHit hfresh
  | none =>
      have hget := h.get key
      rw [h.getOrInsert_of_missing hfresh]
      cases compute with
      | ok value => exact hget.trans (hget.kept.insert key value)
      | error e => exact hget

/-! ## Evictions -/

/-- An entry was evicted for a key that was not there, with every place taken by an entry that
lives. -/
structure EvictsFor (cache after : Cache κ β) (key : κ) : Prop where
  evictions : after.evictions = cache.evictions + 1
  size : after.size = cache.capacity
  full : cache.live.length = cache.capacity
  new : key ∉ cache.keys

theorem Kept.evictions_insert (h : cache.Kept) (key : κ) (value : β) :
    (cache.insert key value).evictions = cache.evictions ∨
      cache.EvictsFor (cache.insert key value) key := by
  obtain ⟨entries, hleft, hinsert⟩ := h.insert_eq key value
  rw [hinsert]
  by_cases hfits : (cache.store key value).live.length ≤ cache.capacity
  · left
    show cache.evictions + _ = _
    rw [Nat.sub_eq_zero_of_le hfits, Nat.add_zero]
  · right
    have hstored : (cache.store key value).live.length = cache.capacity + 1 := by
      have hle := List.length_filter_le (fun entry => !(cache.store key value).isExpired entry)
        (cache.store key value).entries
      have hsize := h.size_store_le key value
      simp only [live, Cache.size] at hle hsize hfits ⊢
      omega
    constructor
    · show cache.evictions + _ = _
      omega
    · obtain ⟨ranked, hranked, hperm⟩ := hleft.live
      have hlength := hperm.length_eq
      have hle := List.length_filter_le (fun entry => !(cache.store key value).isExpired entry)
        entries
      have hbounded := hleft.bounded
      have hcapacity : (cache.store key value).capacity = cache.capacity := rfl
      rw [List.length_take, hranked.perm.length_eq, hstored] at hlength
      show entries.length = cache.capacity
      omega
    · have hnew := List.length_filter_le (fun entry => !cache.isExpired entry)
        [⟨key, value, cache.now, cache.stamp⟩]
      have hothers := List.length_filter_le (fun entry => entry.key ≠ key) cache.live
      have hlength := congrArg List.length (live_store cache key value)
      rw [List.length_append] at hlength
      rw [List.length_singleton] at hnew
      have hle : cache.live.length ≤ cache.size := List.length_filter_le _ _
      have hbounded := h.bounded
      omega
    · intro hmem
      obtain ⟨entry, hentry, rfl⟩ := List.mem_map.mp hmem
      have hsize := h.size_store_of_mem hentry value
      have hle := List.length_filter_le
        (fun entry => !(cache.store entry.key value).isExpired entry)
        (cache.store entry.key value).entries
      exact hfits (Nat.le_trans hle hsize)

theorem Kept.evictions_settle (h : cache.Kept) (key : κ) (compute : Except ε β) :
    (cache.settle key compute).2.evictions = cache.evictions ∨
      ∃ value, (cache.settle key compute).1 = ⟨true, .ok value⟩ ∧
        cache.EvictsFor (cache.settle key compute).2 key := by
  cases hfresh : cache.fresh? key with
  | some value =>
      rw [settle_of_fresh hfresh]
      exact .inl rfl
  | none =>
      rw [settle_of_missing hfresh]
      cases compute with
      | ok value =>
          rcases h.evictions_insert key value with hsame | hevicts
          · exact .inl hsame
          · exact .inr ⟨value, rfl, hevicts⟩
      | error e => exact .inl rfl

/-- With every place taken by an entry that lives, no expired one was removed before. -/
theorem Kept.evictsFor_of_miss (h : cache.Kept)
    (hevicts : (cache.removeExpired key).recordMiss.EvictsFor after key) :
    cache.EvictsFor after key where
  evictions := hevicts.evictions
  size := hevicts.size
  full := by rw [← live_removeExpired cache key]; exact hevicts.full
  new := by
    intro hmem
    obtain ⟨entry, hentry, hkey⟩ := List.mem_map.mp hmem
    have hfull : cache.live.length = cache.capacity := by
      rw [← live_removeExpired cache key]; exact hevicts.full
    have hle : cache.live.length ≤ cache.size := List.length_filter_le _ _
    have hbounded := h.bounded
    have hlive : cache.live.length = cache.entries.length := by
      simp only [Cache.size] at hle hbounded
      omega
    have hfresh := List.length_filter_eq_length_iff.mp hlive entry hentry
    have hstays : entry ∈ (cache.removeExpired key).entries :=
      List.mem_filter.mpr ⟨hentry, by simp [hfresh]⟩
    exact hevicts.new (List.mem_map.mpr ⟨entry, hstays, hkey⟩)

theorem Kept.evictions_getOrInsert (h : cache.Kept) (key : κ) (compute : Except ε β) :
    (cache.getOrInsert key compute).2.evictions = cache.evictions ∨
      ∃ value, (cache.getOrInsert key compute).1 = ⟨true, .ok value⟩ ∧
        cache.EvictsFor (cache.getOrInsert key compute).2 key := by
  rw [getOrInsert_eq]
  cases hfresh : cache.fresh? key with
  | some value =>
      rw [get_of_fresh hfresh]
      exact .inl rfl
  | none =>
      rw [get_of_missing hfresh]
      have hremoved := h.removeExpired key
      have hmissed := hremoved.kept.recordMiss
      rcases hmissed.kept.evictions_settle key compute with hsame | ⟨value, hanswer, hevicts⟩
      · exact .inl hsame
      · exact .inr ⟨value, hanswer, h.evictsFor_of_miss hevicts⟩

/-! ## Events -/

theorem Kept.perform (h : cache.Kept) (call : CacheCall κ β ε) :
    cache.Keeps (cache.perform call).2 := by
  cases call with
  | get key => exact h.get key
  | insert key value => exact h.insert key value
  | getOrInsert key compute => exact h.getOrInsert key compute
  | purge => exact h.purge
  | clear =>
      have hempty : ([] : List (CacheEntry κ β)) = cache.entries.filter fun _ => false := by simp
      exact ⟨h.of_filter (fun _ => false) rfl rfl hempty, rfl, rfl⟩
  | advance milliseconds => exact ⟨h.of_entries rfl rfl rfl, rfl, rfl⟩

theorem Kept.effect (h : cache.Kept) {event : CacheEvent κ β ε} {answer : CacheAnswer β ε}
    (heffect : cache.Effect event answer after) : cache.Keeps after := by
  cases heffect with
  | call call => exact h.perform call
  | nothing => exact ⟨h, rfl, rfl⟩
  | hit task key value hfresh => exact h.recordHit hfresh
  | leftExpired task key =>
      have hremoved := h.removeExpired key
      exact hremoved.trans hremoved.kept.recordMiss
  | leftNothing task key => exact h.recordMiss
  | settled task key compute => exact h.settle key compute

/-- An event evicts nothing, or one entry for the new key that it stored. -/
theorem Kept.evictions_effect (h : cache.Kept) {event : CacheEvent κ β ε}
    {answer : CacheAnswer β ε} (heffect : cache.Effect event answer after) :
    after.evictions = cache.evictions ∨
      ∃ key value, event.stored? answer = some (key, value) ∧ cache.EvictsFor after key := by
  cases heffect with
  | call call =>
      cases call with
      | get key => exact .inl (frame_get cache key).2.2
      | insert key value =>
          rcases h.evictions_insert key value with hsame | hevicts
          · exact .inl hsame
          · exact .inr ⟨key, value, rfl, hevicts⟩
      | getOrInsert key compute =>
          rcases h.evictions_getOrInsert key compute with hsame | ⟨value, hanswer, hevicts⟩
          · exact .inl hsame
          · refine .inr ⟨key, value, ?_, hevicts⟩
            simp [Cache.perform, CacheEvent.stored?, hanswer]
      | purge =>
          obtain ⟨reported, hpurge⟩ := cache.purge_eq
          left
          simp [Cache.perform, hpurge]
      | clear => exact .inl rfl
      | advance milliseconds => exact .inl rfl
  | nothing => exact .inl rfl
  | hit => exact .inl rfl
  | leftExpired => exact .inl rfl
  | leftNothing => exact .inl rfl
  | settled task key compute =>
      rcases h.evictions_settle key compute with hsame | ⟨value, hanswer, hevicts⟩
      · exact .inl hsame
      · refine .inr ⟨key, value, ?_, hevicts⟩
        simp [CacheEvent.stored?, hanswer]

end Cache

namespace SharedCache

variable [DecidableEq κ]

theorem keeps_run (events : List (CacheEvent κ β ε)) {shared : SharedCache κ β}
    (h : shared.cache.Kept) : shared.cache.Keeps (run events shared).2.cache := by
  apply run_invariant (p := fun after => shared.cache.Keeps after.cache)
  · intro after event hkeeps
    exact hkeeps.trans (hkeeps.kept.effect (after.effect_perform event))
  · exact ⟨h, rfl, rfl⟩

/-- However the events of lookups and the calls of other tasks follow each other, the cache is
within its bound after each of them, and no entry is evicted but for a new key that is over it. -/
theorem run_bounded (capacity : Nat) (timeToLive : Option Nat)
    (events : List (CacheEvent κ β ε)) :
    let shared := (run events (ofCapacity capacity timeToLive)).2
    shared.cache.capacity = max capacity 1 ∧ shared.cache.size ≤ max capacity 1 ∧
      ∀ event : CacheEvent κ β ε,
        let (answer, after) := shared.perform event
        after.cache.evictions = shared.cache.evictions ∨
          ∃ key value, event.stored? answer = some (key, value) ∧
            shared.cache.EvictsFor after.cache key := by
  intro shared
  have hstart : (ofCapacity capacity timeToLive : SharedCache κ β).cache.Kept :=
    Cache.kept_ofCapacity capacity timeToLive
  have hkeeps := keeps_run events hstart
  have hcapacity : shared.cache.capacity = max capacity 1 := hkeeps.capacity
  refine ⟨hcapacity, ?_, ?_⟩
  · rw [← hcapacity]
    exact hkeeps.kept.bounded
  · intro event
    exact hkeeps.kept.evictions_effect (shared.effect_perform event)

end SharedCache

end AccessGateway
