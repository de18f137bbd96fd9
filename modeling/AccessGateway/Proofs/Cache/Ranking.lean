import AccessGateway.Cache.Basic
import Mathlib.Data.List.Nodup

/-!
# The ranking of a cache

Every stamp is handed out once and each is larger than all before it.  So the
entries of a cache, kept in no order, have exactly one listing from the most to
the least recently used.  Whatever a cache does to its entries is followed here
on that listing: a storing and a hit put an entry in front, removals leave
entries out, and making room cuts the listing off at its end.
-/

namespace AccessGateway.Cache

variable {κ β : Type}

/-- The first list has the entries of the second from the most to the least
recently used. -/
structure Ranked (ranked entries : List (CacheEntry κ β)) (stamp : Nat) : Prop where
  perm : ranked.Perm entries
  descending : ranked.Pairwise fun a b => b.lastUsed < a.lastUsed
  stamped : ∀ entry ∈ ranked, entry.lastUsed < stamp
  distinct : ranked.Pairwise fun a b => a.key ≠ b.key

section

variable {ranked entries : List (CacheEntry κ β)} {stamp : Nat}

theorem Ranked.nil : Ranked ([] : List (CacheEntry κ β)) [] stamp where
  perm := .nil
  descending := .nil
  stamped := by simp
  distinct := .nil

theorem Ranked.filter (h : Ranked ranked entries stamp) (p : CacheEntry κ β → Bool) :
    Ranked (ranked.filter p) (entries.filter p) stamp where
  perm := h.perm.filter p
  descending := h.descending.filter p
  stamped entry hmem := h.stamped entry (List.mem_filter.mp hmem).1
  distinct := h.distinct.filter p

theorem Ranked.push (h : Ranked ranked entries stamp) (entry : CacheEntry κ β)
    (hstamp : entry.lastUsed = stamp) (hnew : ∀ other ∈ ranked, other.key ≠ entry.key) :
    Ranked (entry :: ranked) (entry :: entries) (stamp + 1) where
  perm := h.perm.cons entry
  descending := by
    apply List.Pairwise.cons _ h.descending
    intro other hmem
    have hlt := h.stamped other hmem
    omega
  stamped other hmem := by
    rcases List.mem_cons.mp hmem with rfl | hmem
    · omega
    · have hlt := h.stamped other hmem
      omega
  distinct := List.Pairwise.cons (fun other hmem heq => hnew other hmem heq.symm) h.distinct

theorem Ranked.of_perm {after : List (CacheEntry κ β)} (h : Ranked ranked entries stamp)
    (hperm : entries.Perm after) : Ranked ranked after stamp :=
  { h with perm := h.perm.trans hperm }

theorem Ranked.eq_of_key (h : Ranked ranked entries stamp) {a b : CacheEntry κ β}
    (ha : a ∈ ranked) (hb : b ∈ ranked) (hkey : a.key = b.key) : a = b := by
  have hnodup : (ranked.map CacheEntry.key).Nodup := List.pairwise_map.mpr h.distinct
  exact List.inj_on_of_nodup_map hnodup ha hb hkey

theorem Ranked.eq_of_perm {otherRanked others : List (CacheEntry κ β)} {otherStamp : Nat}
    (h : Ranked ranked entries stamp) (hother : Ranked otherRanked others otherStamp)
    (hperm : entries.Perm others) : ranked = otherRanked := by
  have hsame : ranked.Perm otherRanked := h.perm.trans (hperm.trans hother.perm.symm)
  apply List.Perm.eq_of_pairwise _ h.descending hother.descending hsame
  intro a b _ _ hab hba
  omega

end

/-! ## The least recently used entry -/

theorem leastRecent_spec (entries : List (CacheEntry κ β)) :
    match leastRecent entries with
    | none => entries = []
    | some least => least ∈ entries ∧ ∀ entry ∈ entries, least.lastUsed ≤ entry.lastUsed := by
  induction entries with
  | nil => rfl
  | cons first rest ih =>
      simp only [leastRecent]
      cases hrest : leastRecent rest with
      | none =>
          rw [hrest] at ih
          subst ih
          simp [lessRecent]
      | some least =>
          rw [hrest] at ih
          obtain ⟨hmem, hleast⟩ := ih
          simp only [lessRecent]
          split
          · refine ⟨List.mem_cons_of_mem _ hmem, ?_⟩
            intro entry hentry
            rcases List.mem_cons.mp hentry with rfl | hentry
            · omega
            · exact hleast entry hentry
          · refine ⟨List.mem_cons_self, ?_⟩
            intro entry hentry
            rcases List.mem_cons.mp hentry with rfl | hentry
            · omega
            · have hle := hleast entry hentry
              omega

theorem Ranked.leastRecent_eq {entries : List (CacheEntry κ β)} {stamp : Nat}
    (h : Ranked ranked entries stamp) : leastRecent entries = ranked.getLast? := by
  have hspec := leastRecent_spec entries
  rcases List.eq_nil_or_concat ranked with hnil | ⟨before, last, hlast⟩
  · subst hnil
    have hempty : entries = [] := h.perm.symm.eq_nil
    subst hempty
    rfl
  · subst hlast
    cases hleast : leastRecent entries with
    | none =>
        rw [hleast] at hspec
        subst hspec
        have hlen := h.perm.length_eq
        simp at hlen
    | some least =>
        rw [hleast] at hspec
        obtain ⟨hmem, hall⟩ := hspec
        have hle := hall last (h.perm.mem_iff.mp (by simp))
        have hmem : least ∈ before ++ [last] := by simpa using h.perm.mem_iff.mpr hmem
        have hdescending : (before ++ [last]).Pairwise fun a b => b.lastUsed < a.lastUsed := by
          simpa using h.descending
        -- an entry before the last one has a larger stamp
        rcases List.mem_append.mp hmem with hbefore | hlast
        · have hlt := (List.pairwise_append.mp hdescending).2.2 least hbefore last (by simp)
          omega
        · simpa using hlast

/-! ## Leaving entries out -/

def live (cache : Cache κ β) : List (CacheEntry κ β) :=
  cache.entries.filter fun entry => !cache.isExpired entry

/-- A purge changes nothing but the entries and the size that was reported. -/
theorem purge_eq (cache : Cache κ β) :
    ∃ reported, cache.purge = (cache.entries.countP cache.isExpired,
      { cache with entries := cache.live, reported := reported }) := by
  cases hlife : cache.timeToLive with
  | none =>
      have hfresh : cache.isExpired = fun _ => false := by
        funext entry
        simp [isExpired, hlife]
      have hlive : cache.live = cache.entries :=
        List.filter_eq_self.mpr fun entry _ => by simp [hfresh]
      refine ⟨cache.reported, ?_⟩
      simp only [purge, hlife, hfresh, List.countP_false, hlive]
      rw [← hlife]
      rfl
  | some life =>
      refine ⟨some cache.live.length, ?_⟩
      have hcount : cache.entries.length - cache.live.length =
          cache.entries.countP cache.isExpired := by
        have hall := List.length_eq_countP_add_countP cache.isExpired (l := cache.entries)
        have hlive : cache.live.length = cache.entries.countP fun entry =>
            !cache.isExpired entry := List.countP_eq_length_filter.symm
        simp only [Bool.not_eq_true, Bool.decide_eq_false] at hall
        omega
      simp only [purge, hlife, report, size]
      rw [← hcount, ← hlife]
      rfl

/-- An entry has expired the moment it is stored only if nothing ever lives. -/
theorem isExpired_of_storedAt_now {cache : Cache κ β} {front : CacheEntry κ β}
    (hnew : front.storedAt = cache.now) (hexpired : cache.isExpired front = true) :
    cache.timeToLive = some 0 ∧ ∀ entry, cache.isExpired entry = true := by
  cases hlife : cache.timeToLive with
  | none => simp [isExpired, hlife] at hexpired
  | some life =>
      have hzero : life = 0 := by simpa [isExpired, hlife, hnew] using hexpired
      subst hzero
      exact ⟨rfl, fun entry => by simp [isExpired, hlife]⟩

variable [DecidableEq κ]

/-! ## Looking up a key -/

section

variable {ranked entries : List (CacheEntry κ β)} {stamp : Nat}

theorem Ranked.find?_eq (h : Ranked ranked entries stamp) (key : κ) :
    (entries.find? fun entry => entry.key = key) =
      ranked.find? fun entry => entry.key = key := by
  cases hfind : ranked.find? fun entry => entry.key = key with
  | none =>
      rw [List.find?_eq_none] at hfind ⊢
      intro entry hmem
      exact hfind entry (h.perm.mem_iff.mpr hmem)
  | some entry =>
      have hmem := List.mem_of_find?_eq_some hfind
      have hkey : entry.key = key := by simpa using List.find?_some hfind
      cases hother : entries.find? fun entry => entry.key = key with
      | none =>
          have hnone := List.find?_eq_none.mp hother entry (h.perm.mem_iff.mp hmem)
          simp [hkey] at hnone
      | some other =>
          have hotherMem := h.perm.mem_iff.mpr (List.mem_of_find?_eq_some hother)
          have hotherKey : other.key = key := by simpa using List.find?_some hother
          rw [h.eq_of_key hotherMem hmem (hotherKey.trans hkey.symm)]

theorem filter_key_ne (key : κ) (h : ∀ entry ∈ entries, entry.key ≠ key) :
    (entries.filter fun entry => entry.key ≠ key) = entries := by
  apply List.filter_eq_self.mpr
  intro entry hmem
  simpa using h entry hmem

theorem Ranked.perm_cons_filter (h : Ranked ranked entries stamp) {entry : CacheEntry κ β}
    (hmem : entry ∈ ranked) :
    (entry :: ranked.filter fun other => other.key ≠ entry.key).Perm entries := by
  refine List.Perm.trans ?_ h.perm
  -- along the ranking alone: its tails are rankings of no cache
  have hdistinct := h.distinct
  clear h
  induction ranked with
  | nil => cases hmem
  | cons first rest ih =>
      obtain ⟨hfirst, hrest⟩ := List.pairwise_cons.mp hdistinct
      rcases List.mem_cons.mp hmem with rfl | hmem
      · have hothers := filter_key_ne entry.key fun other hother =>
          Ne.symm (hfirst other hother)
        rw [List.filter_cons_of_neg (by simp), hothers]
      · have hkey : first.key ≠ entry.key := hfirst entry hmem
        rw [List.filter_cons_of_pos (by simpa using hkey)]
        exact (List.Perm.swap first entry _).trans ((ih hmem hrest).cons first)

end

variable {ranked : List (CacheEntry κ β)} {cache : Cache κ β}

theorem Ranked.mem_of_find? (h : Ranked ranked cache.entries cache.stamp) {key : κ}
    {entry : CacheEntry κ β} (hfind : cache.find? key = some entry) :
    entry ∈ ranked ∧ entry.key = key := by
  have hmem := List.mem_of_find?_eq_some hfind
  have hkey := List.find?_some hfind
  exact ⟨h.perm.mem_iff.mpr hmem, by simpa using hkey⟩

/-! ## Stamping -/

theorem Ranked.touch (h : Ranked ranked cache.entries cache.stamp)
    {entry : CacheEntry κ β} (hmem : entry ∈ ranked) :
    Ranked ({ entry with lastUsed := cache.stamp } ::
        ranked.filter fun other => other.key ≠ entry.key)
      (cache.touch entry.key).entries (cache.touch entry.key).stamp := by
  have hothers := h.filter fun other => other.key ≠ entry.key
  have hpushed := hothers.push { entry with lastUsed := cache.stamp } rfl (by simp)
  apply hpushed.of_perm
  have hperm := (h.perm_cons_filter hmem).map fun other =>
    if other.key = entry.key then { other with lastUsed := cache.stamp } else other
  refine List.Perm.trans ?_ hperm
  have hsame : ((ranked.filter fun other => other.key ≠ entry.key).map fun other =>
      if other.key = entry.key then { other with lastUsed := cache.stamp } else other) =
        ranked.filter fun other => other.key ≠ entry.key := by
    rw [← List.map_id (ranked.filter fun other => other.key ≠ entry.key), List.map_map]
    apply List.map_congr_left
    intro other hother
    have hne : other.key ≠ entry.key := by simpa using (List.mem_filter.mp hother).2
    simp [hne]
  simp only [List.map_cons, if_pos, hsame]
  exact (hothers.perm.symm).cons _

theorem Ranked.store (h : Ranked ranked cache.entries cache.stamp) (key : κ) (value : β) :
    Ranked (⟨key, value, cache.now, cache.stamp⟩ ::
        ranked.filter fun other => other.key ≠ key)
      (cache.store key value).entries (cache.store key value).stamp :=
  (h.filter fun other => other.key ≠ key).push _ rfl (by simp)

/-! ## Making room -/

/-- One round: the last entry goes, and it is not the first one. -/
theorem Ranked.remove_last {front last : CacheEntry κ β} {before : List (CacheEntry κ β)}
    (h : Ranked (front :: (before ++ [last])) cache.entries cache.stamp) :
    cache.victim? front.key = some last ∧
      Ranked (front :: before) (cache.remove last.key).entries cache.stamp := by
  obtain ⟨hfront, hdistinct⟩ := List.pairwise_cons.mp h.distinct
  constructor
  · have hothers := h.filter fun entry => entry.key ≠ front.key
    rw [List.filter_cons_of_neg (by simp),
      filter_key_ne front.key fun entry hmem => Ne.symm (hfront entry hmem)] at hothers
    rw [victim?, hothers.leastRecent_eq]
    simp
  · have hbefore : ∀ entry ∈ before, entry.key ≠ last.key := by
      intro entry hmem
      exact (List.pairwise_append.mp hdistinct).2.2 entry hmem last (by simp)
    have hlast : front.key ≠ last.key := hfront last (by simp)
    have hremoved := h.filter fun entry => entry.key ≠ last.key
    rw [List.filter_cons_of_pos (by simpa using hlast), List.filter_append,
      filter_key_ne last.key hbefore, List.filter_cons_of_neg (by simp),
      List.filter_nil, List.append_nil] at hremoved
    exact hremoved

/-- Making room for the most recently used entry drops the others from the end. -/
theorem evict_eq (cache : Cache κ β) {front : CacheEntry κ β} {rest : List (CacheEntry κ β)}
    (n : Nat) (h : Ranked (front :: rest) cache.entries cache.stamp) (hn : n ≤ rest.length) :
    ∃ entries, Ranked (front :: rest.take (rest.length - n)) entries cache.stamp ∧
      evict front.key n cache =
        { cache with entries := entries, evictions := cache.evictions + n } := by
  induction n generalizing cache rest with
  | zero =>
      refine ⟨cache.entries, ?_, rfl⟩
      simpa using h
  | succ n ih =>
      rcases List.eq_nil_or_concat rest with hnil | ⟨before, last, hrest⟩
      · subst hnil
        simp at hn
      · rw [List.concat_eq_append] at hrest
        subst hrest
        have hlen : n ≤ before.length := by simpa using hn
        obtain ⟨hvictim, hremoved⟩ := h.remove_last
        obtain ⟨entries, hranked, hevict⟩ :=
          ih { cache.remove last.key with evictions := cache.evictions + 1 } hremoved hlen
        have htake : (before ++ [last]).take ((before ++ [last]).length - (n + 1)) =
            before.take (before.length - n) := by
          rw [List.length_append, List.length_singleton, Nat.add_sub_add_right]
          exact List.take_append_of_le_length (by omega)
        refine ⟨entries, ?_, ?_⟩
        · rw [htake]
          exact hranked
        · simp only [evict, hvictim]
          refine hevict.trans ?_
          simp only [remove, Nat.add_assoc, Nat.add_comm 1 n]

/-- What is left after a storing that made the cache too large. -/
theorem makeRoom_eq {front : CacheEntry κ β} {rest : List (CacheEntry κ β)}
    (h : Ranked (front :: rest) cache.entries cache.stamp) (hnew : front.storedAt = cache.now)
    (hcapacity : 1 ≤ cache.capacity) (hover : cache.capacity < cache.size) :
    ∃ entries reported,
      Ranked (((front :: rest).filter fun entry => !cache.isExpired entry).take cache.capacity)
        entries cache.stamp ∧
      cache.makeRoom front.key = { cache with
        entries := entries
        reported := reported
        evictions := cache.evictions + (cache.live.length - cache.capacity) } := by
  obtain ⟨reported, hpurge⟩ := cache.purge_eq
  have hlive : Ranked ((front :: rest).filter fun entry => !cache.isExpired entry)
      cache.live cache.stamp := h.filter _
  have hmakeRoom : cache.makeRoom front.key =
      evict front.key (cache.live.length - cache.capacity)
        { cache with entries := cache.live, reported := reported } := by
    rw [makeRoom, if_neg (by omega), hpurge]
    rfl
  rw [hmakeRoom]
  cases hexpired : cache.isExpired front with
  | true =>
      -- nothing lives at all, so the purge leaves nothing to evict
      have hnone : ((front :: rest).filter fun entry => !cache.isExpired entry) = [] := by
        simp [(isExpired_of_storedAt_now hnew hexpired).2]
      rw [hnone] at hlive ⊢
      have hempty : cache.live = [] := hlive.perm.symm.eq_nil
      refine ⟨cache.live, reported, ?_, ?_⟩
      · simpa using hlive
      · simp [hempty, evict]
  | false =>
      rw [List.filter_cons_of_pos (by simp [hexpired])] at hlive ⊢
      have hlen := hlive.perm.length_eq
      rw [List.length_cons] at hlen
      obtain ⟨entries, hranked, hevict⟩ := evict_eq
        { cache with entries := cache.live, reported := reported }
        (cache.live.length - cache.capacity) hlive (by omega)
      refine ⟨entries, reported, ?_, hevict⟩
      obtain ⟨room, hroom⟩ : ∃ room, cache.capacity = room + 1 :=
        ⟨cache.capacity - 1, by omega⟩
      have htake : (rest.filter fun entry => !cache.isExpired entry).take
          ((rest.filter fun entry => !cache.isExpired entry).length -
            (cache.live.length - cache.capacity)) =
          (rest.filter fun entry => !cache.isExpired entry).take room :=
        List.take_eq_take_iff.mpr (by omega)
      rw [htake] at hranked
      rw [hroom, List.take_succ_cons]
      exact hranked

/-! ## Storing a value -/

section

variable {key : κ} {others : List (CacheEntry κ β)}

theorem size_store (value : β) (h : Ranked ranked cache.entries cache.stamp)
    (hothers : others = ranked.filter fun other => other.key ≠ key) :
    (cache.store key value).size = others.length + 1 := by
  have hlen := (h.filter fun other => other.key ≠ key).perm.length_eq
  rw [← hothers] at hlen
  simp only [size, store, List.length_cons]
  omega

theorem insert_eq_of_room (value : β) (h : Ranked ranked cache.entries cache.stamp)
    (hothers : others = ranked.filter fun other => other.key ≠ key)
    (hroom : cache.find? key = none → others.length + 1 ≤ cache.capacity) :
    ∃ entries reported,
      Ranked (⟨key, value, cache.now, cache.stamp⟩ :: others) entries (cache.stamp + 1) ∧
      cache.insert key value = { cache with
        entries := entries
        reported := reported
        stamp := cache.stamp + 1
        insertions := cache.insertions + 1 } := by
  have hstored := h.store key value
  rw [← hothers] at hstored
  have hinsert : cache.insert key value = report (cache.store key value) := by
    cases hfind : cache.find? key with
    | some entry => simp only [insert, hfind, Option.isSome_some, if_true]
    | none =>
        have hsize := size_store value h hothers
        have hmakeRoom : (cache.store key value).makeRoom key = cache.store key value :=
          if_pos (hsize ▸ hroom hfind)
        simp only [insert, hfind, Option.isSome_none, Bool.false_eq_true, if_false, hmakeRoom]
  exact ⟨_, _, hstored, hinsert⟩

theorem insert_eq_of_full (value : β) (h : Ranked ranked cache.entries cache.stamp)
    (hothers : others = ranked.filter fun other => other.key ≠ key)
    (hcapacity : 1 ≤ cache.capacity) (hnew : cache.find? key = none)
    (hfull : cache.capacity < others.length + 1) :
    ∃ entries reported,
      Ranked (((⟨key, value, cache.now, cache.stamp⟩ :: others).filter fun entry =>
        !cache.isExpired entry).take cache.capacity) entries (cache.stamp + 1) ∧
      cache.insert key value = { cache with
        entries := entries
        reported := reported
        stamp := cache.stamp + 1
        insertions := cache.insertions + 1
        evictions := cache.evictions +
          ((cache.store key value).live.length - cache.capacity) } := by
  have hstored := h.store key value
  rw [← hothers] at hstored
  have hsize := size_store value h hothers
  obtain ⟨entries, reported, hranked, hmakeRoom⟩ :=
    makeRoom_eq hstored rfl hcapacity (by rw [hsize]; exact hfull)
  refine ⟨entries, some entries.length, hranked, ?_⟩
  simp only [insert, hnew, Option.isSome_none, Bool.false_eq_true, if_false]
  rw [hmakeRoom]
  rfl

theorem insert_cases (value : β) (h : Ranked ranked cache.entries cache.stamp)
    (hothers : others = ranked.filter fun other => other.key ≠ key)
    (hcapacity : 1 ≤ cache.capacity) :
    ((cache.find? key = none → others.length + 1 ≤ cache.capacity) ∧
      ∃ entries reported,
        Ranked (⟨key, value, cache.now, cache.stamp⟩ :: others) entries (cache.stamp + 1) ∧
        cache.insert key value = { cache with
          entries := entries
          reported := reported
          stamp := cache.stamp + 1
          insertions := cache.insertions + 1 }) ∨
    (cache.find? key = none ∧ cache.capacity < others.length + 1 ∧
      ∃ entries reported,
        Ranked (((⟨key, value, cache.now, cache.stamp⟩ :: others).filter fun entry =>
          !cache.isExpired entry).take cache.capacity) entries (cache.stamp + 1) ∧
        cache.insert key value = { cache with
          entries := entries
          reported := reported
          stamp := cache.stamp + 1
          insertions := cache.insertions + 1
          evictions := cache.evictions +
            ((cache.store key value).live.length - cache.capacity) }) := by
  by_cases hroom : cache.find? key = none → others.length + 1 ≤ cache.capacity
  · exact .inl ⟨hroom, insert_eq_of_room value h hothers hroom⟩
  · obtain ⟨hnew, hover⟩ := Classical.not_imp.mp hroom
    have hfull := Nat.lt_of_not_le hover
    exact .inr ⟨hnew, hfull, insert_eq_of_full value h hothers hcapacity hnew hfull⟩

end

/-! ## Looking for a value -/

theorem get_cases (h : Ranked ranked cache.entries cache.stamp) (key : κ) :
    (cache.find? key = none ∧ cache.get key = (none, cache.recordMiss)) ∨
    ∃ entry, cache.find? key = some entry ∧
      ((cache.isExpired entry = true ∧
        ∃ entries, Ranked (ranked.filter fun other => other.key ≠ key) entries cache.stamp ∧
          cache.get key =
            (none, { cache with entries := entries, misses := cache.misses + 1 })) ∨
      (cache.isExpired entry = false ∧
        ∃ entries,
          Ranked ({ entry with lastUsed := cache.stamp } ::
            ranked.filter fun other => other.key ≠ key) entries (cache.stamp + 1) ∧
          cache.get key = (some entry.value, { cache with
            entries := entries
            stamp := cache.stamp + 1
            hits := cache.hits + 1 }))) := by
  cases hfind : cache.find? key with
  | none =>
      refine .inl ⟨rfl, ?_⟩
      simp only [get, sight, hfind]
  | some entry =>
      obtain ⟨hmem, hkey⟩ := h.mem_of_find? hfind
      refine .inr ⟨entry, rfl, ?_⟩
      cases hexpired : cache.isExpired entry with
      | true =>
          -- the entry that was met is the only one of its key
          have hdropped : (ranked.filter fun other =>
              other.key ≠ key || !cache.isExpired other) =
                ranked.filter fun other => other.key ≠ key := by
            apply List.filter_congr
            intro other hother
            by_cases hotherKey : other.key = key
            · have heq := h.eq_of_key hother hmem (hotherKey.trans hkey.symm)
              simp [heq, hexpired]
            · simp [hotherKey]
          have hremoved := h.filter fun other => other.key ≠ key || !cache.isExpired other
          rw [hdropped] at hremoved
          refine .inl ⟨rfl, _, hremoved, ?_⟩
          simp only [get, sight, hfind, hexpired, if_true]
          rfl
      | false =>
          subst hkey
          refine .inr ⟨rfl, _, h.touch hmem, ?_⟩
          simp only [get, sight, hfind, hexpired, Bool.false_eq_true, if_false]
          rfl

end AccessGateway.Cache
