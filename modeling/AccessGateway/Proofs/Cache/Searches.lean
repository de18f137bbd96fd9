import AccessGateway.Proofs.Cache.Bound
import Mathlib.Algebra.Group.Nat.Defs

/-!
# Searching a map for what goes next

To make room, the whole map is searched for the entry with the smallest stamp, as often
as there are too many entries.  A map lists its entries in any order, in every search in
another one, and a stamp is a word of 64 bits.  While fewer than `2 ^ 64` stamps have been
handed out no two entries have the same one, so every search has one answer.
-/

namespace AccessGateway

variable {κ β ε : Type}

/-- In which order a map lists its entries, in every state in which it may be searched.  What is
stored takes a stamp and an eviction an entry, so a run does not search a state twice. -/
structure MapOrder (κ β : Type) where
  list : Cache κ β → List (CacheEntry κ β)
  perm : ∀ cache, (list cache).Perm cache.entries

/-- The stamp as it is kept. -/
def CacheEntry.tick (entry : CacheEntry κ β) : UInt64 := .ofNat entry.lastUsed

namespace Cache

def nextTick (cache : Cache κ β) : UInt64 := .ofNat cache.stamp

variable [DecidableEq κ]

/-- Of the listed entries other than that of a key the first one with the smallest stamp. -/
def search (keep : κ) (listed : List (CacheEntry κ β)) : Option (CacheEntry κ β) :=
  (listed.filter fun entry => entry.key ≠ keep).minOn? CacheEntry.tick

theorem mem_of_search {keep : κ} {listed : List (CacheEntry κ β)} {entry : CacheEntry κ β}
    (h : search keep listed = some entry) : entry ∈ listed ∧ entry.key ≠ keep := by
  have hmem := List.mem_filter.mp (List.minOn?_mem h)
  exact ⟨hmem.1, by simpa using hmem.2⟩

theorem tick_le_of_search {keep : κ} {listed : List (CacheEntry κ β)}
    {entry other : CacheEntry κ β} (h : search keep listed = some entry)
    (hother : other ∈ listed) (hne : other.key ≠ keep) : entry.tick ≤ other.tick := by
  have hmem : other ∈ listed.filter fun entry => entry.key ≠ keep :=
    List.mem_filter.mpr ⟨hother, by simpa using hne⟩
  have hle := List.apply_get_minOn?_le_of_mem (f := CacheEntry.tick) hmem
  have hget : ((listed.filter fun entry => entry.key ≠ keep).minOn? CacheEntry.tick).get
      (List.isSome_minOn?_of_mem hmem) = entry := Option.get_of_eq_some _ h
  rwa [hget] at hle

def evictOne (cache : Cache κ β) (victim : CacheEntry κ β) : Cache κ β :=
  { cache.remove victim.key with evictions := cache.evictions + 1 }

theorem size_evictOne_lt {cache : Cache κ β} {victim : CacheEntry κ β}
    (h : victim ∈ cache.entries) : (cache.evictOne victim).size < cache.size :=
  List.length_filter_lt_length_iff_exists.mpr ⟨victim, h, by simp⟩

/-- Searches and evicts for as long as there are too many entries.  The states in which the rounds
begin, and the last state. -/
def trim (order : MapOrder κ β) (keep : κ) (cache : Cache κ β) : List (Cache κ β) × Cache κ β :=
  if cache.size ≤ cache.capacity then ([], cache)
  else
    match _ : search keep (order.list cache) with
    | none => ([cache], cache)
    | some victim =>
      let (rounds, last) := trim order keep (cache.evictOne victim)
      (cache :: rounds, last)
  termination_by cache.size
  decreasing_by
    exact size_evictOne_lt ((order.perm cache).mem_iff.mp (mem_of_search ‹_›).1)

/-- The loop ends in time, whatever the state it is entered in. -/
theorem length_trim_le (order : MapOrder κ β) (keep : κ) (cache : Cache κ β) :
    (trim order keep cache).1.length ≤ cache.size - cache.capacity := by
  fun_induction trim order keep cache with
  | case1 cache hfits => exact Nat.zero_le _
  | case2 cache hover hnone =>
      rw [List.length_singleton]
      omega
  | case3 cache hover victim hsearch rounds last htrim ih =>
      have hmem := (order.perm cache).mem_iff.mp (mem_of_search hsearch).1
      have hlt := size_evictOne_lt hmem
      have hcapacity : (cache.evictOne victim).capacity = cache.capacity := rfl
      simp only [htrim] at ih
      rw [List.length_cons]
      omega

theorem stamp_trim (order : MapOrder κ β) (keep : κ) (cache : Cache κ β) :
    (trim order keep cache).2.stamp = cache.stamp := by
  fun_induction trim order keep cache with
  | case1 => rfl
  | case2 => rfl
  | case3 cache hover victim hsearch rounds last htrim ih =>
      rw [htrim] at ih
      exact ih

/-! ## The one victim -/

section

variable {cache : Cache κ β} {ranked : List (CacheEntry κ β)}

omit [DecidableEq κ] in
theorem Ranked.eq_of_lastUsed (h : Ranked ranked cache.entries cache.stamp)
    {a b : CacheEntry κ β} (ha : a ∈ cache.entries) (hb : b ∈ cache.entries)
    (heq : a.lastUsed = b.lastUsed) : a = b := by
  have hdistinct : ranked.Pairwise fun a b => a.lastUsed ≠ b.lastUsed :=
    h.descending.imp fun hlt => Nat.ne_of_gt hlt
  have hnodup : (ranked.map CacheEntry.lastUsed).Nodup := List.pairwise_map.mpr hdistinct
  exact List.inj_on_of_nodup_map hnodup (h.perm.mem_iff.mpr ha) (h.perm.mem_iff.mpr hb) heq

omit [DecidableEq κ] in
theorem Ranked.lastUsed_lt (h : Ranked ranked cache.entries cache.stamp)
    (hstamp : cache.stamp ≤ 2 ^ 64) {entry : CacheEntry κ β} (hmem : entry ∈ cache.entries) :
    entry.lastUsed < UInt64.size :=
  Nat.lt_of_lt_of_le (h.stamped entry (h.perm.mem_iff.mpr hmem)) hstamp

omit [DecidableEq κ] in
/-- Until the counter comes round, the words are ordered as the stamps are. -/
theorem Ranked.tick_le_iff (h : Ranked ranked cache.entries cache.stamp)
    (hstamp : cache.stamp ≤ 2 ^ 64) {a b : CacheEntry κ β} (ha : a ∈ cache.entries)
    (hb : b ∈ cache.entries) : a.tick ≤ b.tick ↔ a.lastUsed ≤ b.lastUsed :=
  UInt64.ofNat_le_iff_le (h.lastUsed_lt hstamp ha) (h.lastUsed_lt hstamp hb)

/-- Whatever order the map is in, the search finds the least recently used entry. -/
theorem Ranked.search_eq (h : Ranked ranked cache.entries cache.stamp)
    (hstamp : cache.stamp ≤ 2 ^ 64) {listed : List (CacheEntry κ β)}
    (hperm : listed.Perm cache.entries) (keep : κ) : search keep listed = cache.victim? keep := by
  have hothers := hperm.filter fun entry => entry.key ≠ keep
  have hspec := leastRecent_spec (cache.entries.filter fun entry => entry.key ≠ keep)
  unfold victim?
  cases hleast : leastRecent (cache.entries.filter fun entry => entry.key ≠ keep) with
  | none =>
      rw [hleast] at hspec
      rw [hspec] at hothers
      rw [search, hothers.eq_nil, List.minOn?_nil]
  | some least =>
      rw [hleast] at hspec
      obtain ⟨hmem, hall⟩ := hspec
      obtain ⟨found, hsearch⟩ : ∃ found, search keep listed = some found :=
        Option.isSome_iff_exists.mp (List.isSome_minOn?_of_mem (hothers.mem_iff.mpr hmem))
      obtain ⟨hlisted, hkey⟩ := mem_of_search hsearch
      have hfound := hperm.mem_iff.mp hlisted
      obtain ⟨hleastMem, hleastKey⟩ := List.mem_filter.mp hmem
      have htick := tick_le_of_search hsearch (hperm.mem_iff.mpr hleastMem)
        (by simpa using hleastKey)
      have hle := (h.tick_le_iff hstamp hfound hleastMem).mp htick
      have hge := hall found (List.mem_filter.mpr ⟨hfound, by simpa using hkey⟩)
      rw [hsearch, h.eq_of_lastUsed hfound hleastMem (Nat.le_antisymm hle hge)]

/-- No two stamps are the same, and the next one is larger than all. -/
structure TicksApart (cache : Cache κ β) : Prop where
  distinct : (cache.entries.map CacheEntry.tick).Nodup
  below : ∀ entry ∈ cache.entries, entry.tick < cache.nextTick

/-- The entry that is used least recently, and that every search finds. -/
structure OneVictim (cache : Cache κ β) (keep : κ) (victim : CacheEntry κ β) : Prop where
  least : ∀ entry ∈ cache.entries, entry.key ≠ keep → entry ≠ victim → victim.tick < entry.tick
  found : ∀ listed, listed.Perm cache.entries → search keep listed = some victim

omit [DecidableEq κ] in
theorem Ranked.ticksApart (h : Ranked ranked cache.entries cache.stamp)
    (hstamp : cache.stamp < 2 ^ 64) : cache.TicksApart where
  distinct := by
    have hranked : (ranked.map CacheEntry.tick).Nodup := by
      refine List.pairwise_map.mpr (h.descending.imp_of_mem ?_)
      intro a b ha hb hlt heq
      have hle := (h.tick_le_iff (Nat.le_of_lt hstamp) (h.perm.mem_iff.mp ha)
        (h.perm.mem_iff.mp hb)).mp (UInt64.le_of_eq heq)
      omega
    exact (h.perm.map CacheEntry.tick).nodup_iff.mp hranked
  below entry hmem :=
    (UInt64.ofNat_lt_iff_lt (h.lastUsed_lt (Nat.le_of_lt hstamp) hmem) hstamp).mpr
      (h.stamped entry (h.perm.mem_iff.mpr hmem))

theorem Ranked.exists_oneVictim (h : Ranked ranked cache.entries cache.stamp)
    (hstamp : cache.stamp ≤ 2 ^ 64) {keep : κ} {entry : CacheEntry κ β}
    (hmem : entry ∈ cache.entries) (hne : entry.key ≠ keep) :
    ∃ victim, cache.OneVictim keep victim := by
  have hother : entry ∈ cache.entries.filter fun entry => entry.key ≠ keep :=
    List.mem_filter.mpr ⟨hmem, by simpa using hne⟩
  obtain ⟨victim, hsearch⟩ : ∃ victim, search keep cache.entries = some victim :=
    Option.isSome_iff_exists.mp (List.isSome_minOn?_of_mem hother)
  obtain ⟨hvictim, -⟩ := mem_of_search hsearch
  refine ⟨victim, ?_, ?_⟩
  · intro other hother hkey hdiffers
    have htick := tick_le_of_search hsearch hother hkey
    refine UInt64.not_le.mp fun hback => hdiffers ?_
    have hle := (h.tick_le_iff hstamp hvictim hother).mp htick
    have hge := (h.tick_le_iff hstamp hother hvictim).mp hback
    exact h.eq_of_lastUsed hother hvictim (Nat.le_antisymm hge hle)
  · intro listed hperm
    rw [h.search_eq hstamp hperm, ← h.search_eq hstamp (List.Perm.refl _), hsearch]

theorem Ranked.size_evictOne (h : Ranked ranked cache.entries cache.stamp)
    {victim : CacheEntry κ β} (hmem : victim ∈ cache.entries) :
    (cache.evictOne victim).size + 1 = cache.size := by
  have hall := (h.perm_cons_filter (h.perm.mem_iff.mpr hmem)).length_eq
  have hothers := (h.filter fun other => other.key ≠ victim.key).perm.length_eq
  rw [List.length_cons, hothers] at hall
  exact hall

theorem Ranked.of_mem_trim (h : Ranked ranked cache.entries cache.stamp) {order : MapOrder κ β}
    {keep : κ} {met : Cache κ β} (hmet : met ∈ (trim order keep cache).1) :
    ∃ ranked, Ranked ranked met.entries met.stamp := by
  fun_induction trim order keep cache generalizing ranked with
  | case1 => cases hmet
  | case2 cache =>
      rw [List.mem_singleton.mp hmet]
      exact ⟨ranked, h⟩
  | case3 cache hover victim hsearch rounds last htrim ih =>
      rcases List.mem_cons.mp hmet with rfl | hrest
      · exact ⟨ranked, h⟩
      · simp only [htrim] at ih
        exact ih (h.filter fun entry => entry.key ≠ victim.key) hrest

/-- However the map is listed, trimming evicts what making room does. -/
theorem Ranked.trim_eq (h : Ranked ranked cache.entries cache.stamp)
    (hstamp : cache.stamp ≤ 2 ^ 64) (order : MapOrder κ β) (keep : κ) :
    (trim order keep cache).2 = evict keep (cache.size - cache.capacity) cache := by
  fun_induction trim order keep cache generalizing ranked with
  | case1 cache hfits => rw [Nat.sub_eq_zero_of_le hfits, evict]
  | case2 cache hover hnone =>
      rw [h.search_eq hstamp (order.perm cache)] at hnone
      obtain ⟨n, hn⟩ : ∃ n, cache.size - cache.capacity = n + 1 :=
        Nat.exists_eq_succ_of_ne_zero (by omega)
      rw [hn, evict, hnone]
  | case3 cache hover victim hsearch rounds last htrim ih =>
      have hmem := (order.perm cache).mem_iff.mp (mem_of_search hsearch).1
      rw [h.search_eq hstamp (order.perm cache)] at hsearch
      have hsize := h.size_evictOne hmem
      have hcapacity : (cache.evictOne victim).capacity = cache.capacity := rfl
      have hn : cache.size - cache.capacity =
          (cache.evictOne victim).size - (cache.evictOne victim).capacity + 1 := by omega
      have hremoved := h.filter fun entry => entry.key ≠ victim.key
      simp only [htrim] at ih
      rw [hn, evict, hsearch]
      exact ih hremoved hstamp

end

end Cache

end AccessGateway
