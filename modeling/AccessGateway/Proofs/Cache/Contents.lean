import AccessGateway.Cache.Basic

/-!
# What a cache holds

Only storing puts a value under a key.  Hits, purges and evictions leave
entries out or stamp them anew, so whatever a cache holds after an operation it
held before, or that operation stored it.
-/

namespace AccessGateway.Cache

variable {κ β ε : Type}

/-- Some entry has the given key and value; it may have expired. -/
def Holds (cache : Cache κ β) (key : κ) (value : β) : Prop :=
  ∃ entry ∈ cache.entries, entry.key = key ∧ entry.value = value

theorem not_holds_ofCapacity (capacity : Nat) (timeToLive : Option Nat)
    (key : κ) (value : β) : ¬ (ofCapacity capacity timeToLive).Holds key value := by
  rintro ⟨entry, hmem, -⟩
  simp [ofCapacity] at hmem

theorem not_holds_clear (cache : Cache κ β) (key : κ) (value : β) :
    ¬ cache.clear.Holds key value := by
  rintro ⟨entry, hmem, -⟩
  simp [clear, report] at hmem

theorem Holds.of_subset {cache after : Cache κ β} {key : κ} {value : β}
    (hsubset : after.entries ⊆ cache.entries) (h : after.Holds key value) :
    cache.Holds key value := by
  obtain ⟨entry, hmem, hentry⟩ := h
  exact ⟨entry, hsubset hmem, hentry⟩

theorem entries_purge_subset (cache : Cache κ β) :
    cache.purge.2.entries ⊆ cache.entries := by
  unfold purge
  split
  · exact fun _ hmem => hmem
  · exact List.filter_sublist.subset

variable [DecidableEq κ]

theorem Holds.of_touch {cache : Cache κ β} {touched key : κ} {value : β}
    (h : (cache.touch touched).Holds key value) : cache.Holds key value := by
  obtain ⟨entry, hmem, hkey, hvalue⟩ := h
  obtain ⟨before, hbefore, rfl⟩ := List.mem_map.mp hmem
  refine ⟨before, hbefore, ?_, ?_⟩
  · split at hkey <;> exact hkey
  · split at hvalue <;> exact hvalue

theorem Holds.of_store {cache : Cache κ β} {stored key : κ} {new value : β}
    (h : (cache.store stored new).Holds key value) :
    key = stored ∧ value = new ∨ cache.Holds key value := by
  obtain ⟨entry, hmem, hkey, hvalue⟩ := h
  rcases List.mem_cons.mp hmem with rfl | hmem
  · exact .inl ⟨hkey.symm, hvalue.symm⟩
  · exact .inr ⟨entry, (List.mem_filter.mp hmem).1, hkey, hvalue⟩

/-! ## Making room -/

theorem entries_evict_subset (keep : κ) (n : Nat) (cache : Cache κ β) :
    (evict keep n cache).entries ⊆ cache.entries := by
  induction n generalizing cache with
  | zero => exact fun _ hmem => hmem
  | succ n ih =>
      simp only [evict]
      split
      · exact fun _ hmem => hmem
      · exact List.Subset.trans (ih _) (List.filter_sublist.subset)

theorem entries_makeRoom_subset (cache : Cache κ β) (keep : κ) :
    (cache.makeRoom keep).entries ⊆ cache.entries := by
  unfold makeRoom
  split
  · exact fun _ hmem => hmem
  · exact List.Subset.trans (entries_evict_subset keep _ _) cache.entries_purge_subset

/-! ## Lookups -/

theorem holds_of_sight {cache : Cache κ β} {key : κ} {value : β}
    (h : cache.sight key = .hit value) : cache.Holds key value := by
  unfold sight at h
  split at h
  · cases h
  next entry hfind =>
    split at h
    · cases h
    · cases h
      have hkey := List.find?_some hfind
      exact ⟨entry, List.mem_of_find?_eq_some hfind, by simpa using hkey, rfl⟩

theorem sight_eq_absent {cache : Cache κ β} {key : κ}
    (h : ∀ value, ¬ cache.Holds key value) : cache.sight key = .absent := by
  have hfind : cache.find? key = none := by
    apply List.find?_eq_none.mpr
    intro entry hmem hkey
    exact h entry.value ⟨entry, hmem, by simpa using hkey, rfl⟩
  simp [sight, hfind]

theorem holds_of_get {cache after : Cache κ β} {key : κ} {value : β}
    (h : cache.get key = (some value, after)) : cache.Holds key value := by
  unfold get at h
  split at h
  next found hsight =>
    cases h
    exact holds_of_sight hsight
  all_goals cases h

theorem Holds.of_get {cache after : Cache κ β} {asked key : κ} {found : Option β} {value : β}
    (h : after.Holds key value) (hget : cache.get asked = (found, after)) :
    cache.Holds key value := by
  unfold get at hget
  split at hget <;> cases hget
  · exact Holds.of_touch h
  · exact Holds.of_subset List.filter_sublist.subset h
  · exact h

theorem Holds.of_insert {cache : Cache κ β} {stored key : κ} {new value : β}
    (h : (cache.insert stored new).Holds key value) :
    key = stored ∧ value = new ∨ cache.Holds key value := by
  unfold insert at h
  split at h
  · exact Holds.of_store h
  · exact Holds.of_store (Holds.of_subset (entries_makeRoom_subset _ stored) h)

theorem Holds.of_settle {cache : Cache κ β} {asked key : κ} {value : β}
    {compute : Except ε β} (h : (cache.settle asked compute).2.Holds key value) :
    key = asked ∧ compute = .ok value ∨ cache.Holds key value := by
  unfold settle at h
  split at h
  · exact .inr h.of_touch
  · rcases h.of_store with ⟨rfl, rfl⟩ | hbefore
    · exact .inl ⟨rfl, rfl⟩
    · exact .inr hbefore
  · have hstored := Holds.of_subset (entries_makeRoom_subset _ asked) h
    rcases hstored.of_store with ⟨rfl, rfl⟩ | hbefore
    · exact .inl ⟨rfl, rfl⟩
    · exact .inr hbefore
  · exact .inr h

theorem result_settle (cache : Cache κ β) (key : κ) (compute : Except ε β) :
    (cache.settle key compute).1.result = compute ∨
      ∃ value, cache.Holds key value ∧
        (cache.settle key compute).1.result = .ok value := by
  unfold settle
  split
  next value hsight => exact .inr ⟨value, holds_of_sight hsight, rfl⟩
  all_goals exact .inl rfl

/-- After a lookup that computes missing values the cache holds nothing new but
the value that was computed. -/
theorem Holds.of_getOrInsert {cache : Cache κ β} {asked key : κ} {value : β}
    {compute : Except ε β} (h : (cache.getOrInsert asked compute).2.Holds key value) :
    key = asked ∧ compute = .ok value ∨ cache.Holds key value := by
  unfold getOrInsert getOrInsertAround at h
  split at h
  · exact .inr (Holds.of_touch h)
  · rcases h.of_settle with hnew | hbefore
    · exact .inl hnew
    · exact .inr (Holds.of_subset (List.filter_sublist.subset) hbefore)
  · exact h.of_settle

/-- Such a lookup answers with what is computed or with a value that is held. -/
theorem result_getOrInsert (cache : Cache κ β) (key : κ) (compute : Except ε β) :
    (cache.getOrInsert key compute).1.result = compute ∨
      ∃ value, cache.Holds key value ∧
        (cache.getOrInsert key compute).1.result = .ok value := by
  unfold getOrInsert getOrInsertAround
  split
  next value hsight => exact .inr ⟨value, holds_of_sight hsight, rfl⟩
  · rcases result_settle (id ((id cache).removeExpired key).recordMiss) key compute with
      hcomputed | ⟨value, hheld, hresult⟩
    · exact .inl hcomputed
    · exact .inr ⟨value, Holds.of_subset (List.filter_sublist.subset) hheld, hresult⟩
  · exact result_settle (id cache.recordMiss) key compute

/-- A failure for a key that is not held leaves the entries as they are. -/
theorem getOrInsert_error {cache : Cache κ β} {key : κ} (e : ε)
    (h : ∀ value, ¬ cache.Holds key value) :
    cache.getOrInsert key (.error e) = (⟨true, .error e⟩, cache.recordMiss) := by
  have hsight := sight_eq_absent h
  have hagain : cache.recordMiss.sight key = .absent := hsight
  simp [getOrInsert, getOrInsertAround, hsight, settle, hagain]

/-! ## The count of hits -/

theorem hits_get_of_some {cache after : Cache κ β} {key : κ} {value : β}
    (h : cache.get key = (some value, after)) : after.hits = cache.hits + 1 := by
  unfold get at h
  split at h <;> cases h
  rfl

theorem hits_get_of_none {cache after : Cache κ β} {key : κ}
    (h : cache.get key = (none, after)) : after.hits = cache.hits := by
  unfold get at h
  split at h <;> cases h <;> rfl

omit [DecidableEq κ] in
theorem hits_purge (cache : Cache κ β) : cache.purge.2.hits = cache.hits := by
  unfold purge
  split <;> rfl

theorem hits_evict (keep : κ) (n : Nat) (cache : Cache κ β) :
    (evict keep n cache).hits = cache.hits := by
  induction n generalizing cache with
  | zero => rfl
  | succ n ih =>
      simp only [evict]
      split
      · rfl
      · exact ih _

theorem hits_insert (cache : Cache κ β) (key : κ) (value : β) :
    (cache.insert key value).hits = cache.hits := by
  unfold insert makeRoom
  dsimp only [report]
  split
  · rfl
  · split
    · rfl
    · rw [hits_evict, hits_purge]
      rfl

end AccessGateway.Cache
