import AccessGateway.Proofs.Cache.Bound
import AccessGateway.Proofs.Cache.Contents
import Mathlib.Data.Finset.Card

/-!
# Cached values are fresh

What was stored can be read off the events and their answers alone, without the
cache.  A value that a lookup finds is the one stored last under its key since
everything was dropped, and its age, counted from that storing, is below the time
to live.  As long as no more keys were stored than there is room for, every such
value is found.
-/

namespace AccessGateway

variable {κ β ε : Type}

/-- The storings since everything was dropped, the last one first. -/
structure Storings (κ β : Type) where
  now : Nat := 0
  items : List (RecencyItem κ β) := []

namespace Storings

def add (storings : Storings κ β) (key : κ) (value : β) : Storings κ β :=
  { storings with items := ⟨key, value, storings.now⟩ :: storings.items }

def note (storings : Storings κ β) (event : CacheEvent κ β ε) (answer : CacheAnswer β ε) :
    Storings κ β :=
  match event, event.stored? answer with
  | .call (.advance milliseconds), _ => { storings with now := storings.now + milliseconds }
  | .call .clear, _ => { storings with items := [] }
  | _, some (key, value) => storings.add key value
  | _, none => storings

def noteAll (storings : Storings κ β) (log : List (CacheEvent κ β ε × CacheAnswer β ε)) :
    Storings κ β :=
  log.foldl (fun storings entry => storings.note entry.1 entry.2) storings

/-- The value is younger than the time to live. -/
def IsYoung (storings : Storings κ β) (timeToLive : Option Nat) (item : RecencyItem κ β) : Prop :=
  ∀ life ∈ timeToLive, storings.now - item.storedAt < life

variable [DecidableEq κ]

/-- The last storing under a key. -/
def last? (storings : Storings κ β) (key : κ) : Option (RecencyItem κ β) :=
  storings.items.find? fun item => item.key = key

def keys (storings : Storings κ β) : Finset κ := (storings.items.map RecencyItem.key).toFinset

theorem last?_add_self (storings : Storings κ β) (key : κ) (value : β) :
    (storings.add key value).last? key = some ⟨key, value, storings.now⟩ := by
  simp [last?, add]

theorem last?_add_of_ne (storings : Storings κ β) {key other : κ} (value : β) (h : other ≠ key) :
    (storings.add key value).last? other = storings.last? other := by
  simp [last?, add, Ne.symm h]

theorem keys_add (storings : Storings κ β) (key : κ) (value : β) :
    (storings.add key value).keys = insert key storings.keys := by
  simp [keys, add]

theorem mem_keys_of_last? {storings : Storings κ β} {key : κ} {item : RecencyItem κ β}
    (h : storings.last? key = some item) : key ∈ storings.keys := by
  have hkey : item.key = key := by simpa using List.find?_some h
  have hmem := List.mem_of_find?_eq_some h
  rw [keys, List.mem_toFinset]
  exact List.mem_map.mpr ⟨item, hmem, hkey⟩

/-- Whatever is held was stored last under its key; and as long as the keys fit, all that was
stored last and is young is held. -/
structure Covers (storings : Storings κ β) (cache : Cache κ β) : Prop where
  now_eq : storings.now = cache.now
  held : ∀ entry ∈ cache.entries, storings.last? entry.key = some entry.item
  complete : storings.keys.card ≤ cache.capacity →
    ∀ item, storings.last? item.key = some item → storings.IsYoung cache.timeToLive item →
      ∃ entry ∈ cache.entries, entry.item = item

theorem covers_ofCapacity (capacity : Nat) (timeToLive : Option Nat) :
    ({} : Storings κ β).Covers (.ofCapacity capacity timeToLive) where
  now_eq := rfl
  held entry hmem := by simp [Cache.ofCapacity] at hmem
  complete _ item hlast := by simp [last?] at hlast

end Storings

/-! ## One event -/

namespace Cache

variable {cache after : Cache κ β} {storings : Storings κ β}

theorem isExpired_eq_false_iff (h : storings.now = cache.now) (entry : CacheEntry κ β) :
    cache.isExpired entry = false ↔ storings.IsYoung cache.timeToLive entry.item := by
  cases hlife : cache.timeToLive with
  | none => simp [isExpired, Storings.IsYoung, hlife]
  | some life => simp [isExpired, Storings.IsYoung, hlife, h, CacheEntry.item]

end Cache

namespace Storings

variable [DecidableEq κ] {cache after : Cache κ β} {storings : Storings κ β} {key : κ}

/-- Entries may be stamped anew, and expired ones may leave. -/
theorem Covers.of_items (h : storings.Covers cache) (hkeeps : cache.Keeps after)
    (hnow : after.now = cache.now)
    (hsubset : ∀ entry ∈ after.entries, ∃ held ∈ cache.entries, held.item = entry.item)
    (hlive : ∀ entry ∈ cache.entries, cache.isExpired entry = false →
      ∃ held ∈ after.entries, held.item = entry.item) :
    storings.Covers after where
  now_eq := h.now_eq.trans hnow.symm
  held entry hmem := by
    obtain ⟨held, hheld, hitem⟩ := hsubset entry hmem
    have hlast := h.held held hheld
    have hkey : held.key = entry.key := congrArg RecencyItem.key hitem
    rw [← hkey, hlast, hitem]
  complete hroom item hlast hyoung := by
    rw [hkeeps.capacity] at hroom
    rw [hkeeps.timeToLive] at hyoung
    obtain ⟨entry, hmem, rfl⟩ := h.complete hroom item hlast hyoung
    exact hlive entry hmem ((Cache.isExpired_eq_false_iff h.now_eq entry).mpr hyoung)

theorem Covers.of_filter (h : storings.Covers cache) (hkeeps : cache.Keeps after)
    (hnow : after.now = cache.now) (p : CacheEntry κ β → Bool)
    (hentries : after.entries = cache.entries.filter p)
    (hp : ∀ entry, cache.isExpired entry = false → p entry = true) : storings.Covers after := by
  apply h.of_items hkeeps hnow
  · intro entry hmem
    rw [hentries] at hmem
    exact ⟨entry, (List.mem_filter.mp hmem).1, rfl⟩
  · intro entry hmem hfresh
    rw [hentries]
    exact ⟨entry, List.mem_filter.mpr ⟨hmem, hp entry hfresh⟩, rfl⟩

theorem Covers.recordMiss (h : storings.Covers cache) (hkept : cache.Kept) :
    storings.Covers cache.recordMiss :=
  h.of_items hkept.recordMiss rfl (fun entry hmem => ⟨entry, hmem, rfl⟩)
    fun entry hmem _ => ⟨entry, hmem, rfl⟩

theorem Covers.removeExpired (h : storings.Covers cache) (hkept : cache.Kept) (key : κ) :
    storings.Covers (cache.removeExpired key) := by
  apply h.of_filter (hkept.removeExpired key) rfl
    (fun entry => entry.key ≠ key || !cache.isExpired entry) rfl
  intro entry hfresh
  simp [hfresh]

theorem Covers.purge (h : storings.Covers cache) (hkept : cache.Kept) :
    storings.Covers cache.purge.2 := by
  have hkeeps := hkept.purge
  obtain ⟨reported, hpurge⟩ := cache.purge_eq
  rw [hpurge] at hkeeps ⊢
  apply h.of_filter hkeeps rfl (fun entry => !cache.isExpired entry) rfl
  intro entry hfresh
  simp [hfresh]

theorem Covers.touch (h : storings.Covers cache) (hkept : cache.Kept) {value : β}
    (hfresh : cache.fresh? key = some value) : storings.Covers (cache.touch key) := by
  have hitem : ∀ entry : CacheEntry κ β,
      (if entry.key = key then { entry with lastUsed := cache.stamp } else entry).item =
        entry.item := by
    intro entry
    by_cases hkey : entry.key = key <;> simp [hkey, CacheEntry.item]
  apply h.of_items (hkept.touch hfresh) rfl
  · intro entry hmem
    obtain ⟨held, hheld, rfl⟩ := List.mem_map.mp hmem
    exact ⟨held, hheld, (hitem held).symm⟩
  · intro entry hmem _
    exact ⟨_, List.mem_map_of_mem hmem, hitem entry⟩

theorem Covers.recordHit (h : storings.Covers cache) (hkept : cache.Kept) {value : β}
    (hfresh : cache.fresh? key = some value) : storings.Covers (cache.recordHit key) := by
  have htouched := h.touch hkept hfresh
  exact ⟨htouched.now_eq, htouched.held, htouched.complete⟩

theorem Covers.get (h : storings.Covers cache) (hkept : cache.Kept) (key : κ) :
    storings.Covers (cache.get key).2 := by
  cases hfresh : cache.fresh? key with
  | some value =>
      rw [Cache.get_of_fresh hfresh]
      exact h.recordHit hkept hfresh
  | none =>
      rw [Cache.get_of_missing hfresh]
      exact (h.removeExpired hkept key).recordMiss (hkept.removeExpired key).kept

/-! ## Storing -/

theorem Covers.size_store_le (h : storings.Covers cache) (hkept : cache.Kept) (key : κ)
    (value : β) : (cache.store key value).size ≤ (storings.add key value).keys.card := by
  obtain ⟨ranked, hranked⟩ := hkept.ranking
  have hstored := hranked.store key value
  have hnodup : ((cache.store key value).entries.map CacheEntry.key).Nodup := by
    have hranks := List.pairwise_map.mpr hstored.distinct
    exact (hstored.perm.map CacheEntry.key).nodup_iff.mp hranks
  have hsubset : ((cache.store key value).entries.map CacheEntry.key).toFinset ⊆
      (storings.add key value).keys := by
    intro other hmem
    obtain ⟨entry, hentry, rfl⟩ := List.mem_map.mp (List.mem_toFinset.mp hmem)
    rw [keys_add]
    rcases List.mem_cons.mp hentry with rfl | hentry
    · exact Finset.mem_insert_self _ _
    · have hlast := h.held entry (List.mem_filter.mp hentry).1
      exact Finset.mem_insert_of_mem (mem_keys_of_last? hlast)
  calc
    (cache.store key value).size =
        ((cache.store key value).entries.map CacheEntry.key).length :=
      (List.length_map _).symm
    _ = ((cache.store key value).entries.map CacheEntry.key).toFinset.card :=
      (List.toFinset_card_of_nodup hnodup).symm
    _ ≤ (storings.add key value).keys.card := Finset.card_le_card hsubset

theorem Covers.insert (h : storings.Covers cache) (hkept : cache.Kept) (key : κ) (value : β) :
    (storings.add key value).Covers (cache.insert key value) := by
  have hkeeps := hkept.insert key value
  have hstored := hkept.insert_eq_makeRoom key value
  constructor
  · obtain ⟨entries, -, hinsert⟩ := hkept.insert_eq key value
    rw [hinsert]
    exact h.now_eq
  · intro entry hmem
    rw [hstored] at hmem
    have hmem := Cache.entries_makeRoom_subset _ key hmem
    rcases List.mem_cons.mp hmem with rfl | hmem
    · rw [last?_add_self, h.now_eq]
      rfl
    · obtain ⟨hentry, hkey⟩ := List.mem_filter.mp hmem
      rw [last?_add_of_ne _ _ (by simpa using hkey)]
      exact h.held entry hentry
  · intro hroom item hlast hyoung
    rw [hkeeps.capacity] at hroom
    rw [hkeeps.timeToLive] at hyoung
    have hsize := Nat.le_trans (h.size_store_le hkept key value) hroom
    have hall : (cache.store key value).makeRoom key = cache.store key value := if_pos hsize
    rw [hstored, hall]
    by_cases hkey : item.key = key
    · rw [hkey, last?_add_self, h.now_eq] at hlast
      exact ⟨_, List.mem_cons_self, Option.some.inj hlast⟩
    · rw [last?_add_of_ne _ _ hkey] at hlast
      have hfewer : storings.keys.card ≤ cache.capacity := by
        rw [keys_add] at hroom
        exact Nat.le_trans (Finset.card_le_card (Finset.subset_insert _ _)) hroom
      obtain ⟨entry, hmem, hitem⟩ := h.complete hfewer item hlast hyoung
      have hentryKey : entry.key ≠ key := by
        rw [← hitem] at hkey
        exact hkey
      have hother : entry ∈ cache.entries.filter fun other => other.key ≠ key :=
        List.mem_filter.mpr ⟨hmem, by simpa using hentryKey⟩
      exact ⟨entry, List.mem_cons_of_mem _ hother, hitem⟩

theorem Covers.settle (h : storings.Covers cache) (hkept : cache.Kept) (task : Nat) (key : κ)
    (compute : Except ε β) :
    (storings.note (.settle task key compute) (.computed (cache.settle key compute).1)).Covers
      (cache.settle key compute).2 := by
  cases hfresh : cache.fresh? key with
  | some value =>
      rw [Cache.settle_of_fresh hfresh]
      have htouched := h.touch hkept hfresh
      exact ⟨htouched.now_eq, htouched.held, htouched.complete⟩
  | none =>
      rw [Cache.settle_of_missing hfresh]
      cases compute with
      | ok value => exact h.insert hkept key value
      | error e => exact h

theorem Covers.getOrInsert (h : storings.Covers cache) (hkept : cache.Kept) (key : κ)
    (compute : Except ε β) :
    (storings.note (.call (.getOrInsert key compute))
      (.computed (cache.getOrInsert key compute).1)).Covers
        (cache.getOrInsert key compute).2 := by
  cases hfresh : cache.fresh? key with
  | some value =>
      rw [Cache.getOrInsert_of_fresh hfresh]
      exact h.recordHit hkept hfresh
  | none =>
      have hget := h.get hkept key
      rw [hkept.getOrInsert_of_missing hfresh]
      cases compute with
      | ok value => exact hget.insert (hkept.get key).kept key value
      | error e => exact hget

theorem Covers.advance (h : storings.Covers cache) (milliseconds : Nat) :
    ({ storings with now := storings.now + milliseconds } : Storings κ β).Covers
      (cache.advance milliseconds) where
  now_eq := by
    show storings.now + milliseconds = cache.now + milliseconds
    rw [h.now_eq]
  held := h.held
  complete hroom item hlast hyoung := by
    apply h.complete hroom item hlast
    intro life hlife
    have hlt := hyoung life hlife
    simp only at hlt
    omega

theorem Covers.effect (h : storings.Covers cache) (hkept : cache.Kept)
    {event : CacheEvent κ β ε} {answer : CacheAnswer β ε}
    (heffect : cache.Effect event answer after) : (storings.note event answer).Covers after := by
  cases heffect with
  | call call =>
      cases call with
      | get key => exact h.get hkept key
      | insert key value => exact h.insert hkept key value
      | getOrInsert key compute => exact h.getOrInsert hkept key compute
      | purge => exact h.purge hkept
      | clear =>
          refine ⟨h.now_eq, ?_, ?_⟩
          · intro entry hmem
            simp [Cache.perform, Cache.clear, Cache.report] at hmem
          · intro _ item hlast
            simp [note, last?] at hlast
      | advance milliseconds => exact h.advance milliseconds
  | nothing event hevent =>
      cases event with
      | call call => exact absurd rfl (hevent call)
      | look => exact h
      | leave => exact h
      | settle => exact h
  | hit task key value hfresh => exact h.recordHit hkept hfresh
  | leftExpired task key =>
      exact (h.removeExpired hkept key).recordMiss (hkept.removeExpired key).kept
  | leftNothing task key => exact h.recordMiss hkept
  | settled task key compute => exact h.settle hkept task key compute

theorem Covers.run {shared : SharedCache κ β} (h : storings.Covers shared.cache)
    (hkept : shared.cache.Kept) (events : List (CacheEvent κ β ε)) :
    (storings.noteAll (SharedCache.run events shared).1).Covers
      (SharedCache.run events shared).2.cache := by
  induction events generalizing shared storings with
  | nil => exact h
  | cons event events ih =>
      have heffect := shared.effect_perform event
      exact ih (h.effect hkept heffect) (hkept.effect heffect).kept

end Storings

/-! ## Whole runs -/

/-- What an event says it found was there to be found. -/
theorem Cache.Kept.fresh?_of_found [DecidableEq κ] {cache after : Cache κ β} (h : cache.Kept)
    {event : CacheEvent κ β ε} {answer : CacheAnswer β ε}
    (heffect : cache.Effect event answer after) {key : κ} {value : β}
    (hfound : event.found? answer = some (key, value)) : cache.fresh? key = some value := by
  cases heffect with
  | call call =>
      cases call with
      | get asked =>
          cases hfresh : cache.fresh? asked with
          | some held =>
              have hsame : asked = key ∧ held = value := by
                simpa [CacheEvent.found?, Cache.perform, Cache.get_of_fresh hfresh] using hfound
              rw [← hsame.1, ← hsame.2, hfresh]
          | none =>
              simp [CacheEvent.found?, Cache.perform, Cache.get_of_missing hfresh] at hfound
      | getOrInsert asked compute =>
          cases hfresh : cache.fresh? asked with
          | some held =>
              have hsame : asked = key ∧ held = value := by
                simpa [CacheEvent.found?, Cache.perform, Cache.getOrInsert_of_fresh hfresh] using
                  hfound
              rw [← hsame.1, ← hsame.2, hfresh]
          | none =>
              cases compute <;>
                simp [CacheEvent.found?, Cache.perform, h.getOrInsert_of_missing hfresh] at hfound
      | insert => cases hfound
      | purge => cases hfound
      | clear => cases hfound
      | advance => cases hfound
  | nothing event hevent =>
      cases event with
      | call call => exact absurd rfl (hevent call)
      | look => cases hfound
      | leave => cases hfound
      | settle => cases hfound
  | hit task asked held hfresh =>
      have hsame : asked = key ∧ held = value := by simpa [CacheEvent.found?] using hfound
      rw [← hsame.1, ← hsame.2, hfresh]
  | leftExpired => cases hfound
  | leftNothing => cases hfound
  | settled task asked compute =>
      cases hfresh : cache.fresh? asked with
      | some held =>
          have hsame : asked = key ∧ held = value := by
            simpa [CacheEvent.found?, Cache.settle_of_fresh hfresh] using hfound
          rw [← hsame.1, ← hsame.2, hfresh]
      | none =>
          cases compute <;>
            simp [CacheEvent.found?, Cache.settle_of_missing hfresh] at hfound

/-- A value that is found is the one stored last under its key since everything was dropped, and
is younger than the time to live.  If all keys stored since then fit, each such value is found. -/
theorem SharedCache.run_fresh [DecidableEq κ] (capacity : Nat) (timeToLive : Option Nat)
    (events : List (CacheEvent κ β ε)) :
    let (log, shared) := run events (ofCapacity capacity timeToLive)
    let storings := Storings.noteAll {} log
    (∀ (event : CacheEvent κ β ε) key value,
      event.found? (shared.perform event).1 = some (key, value) →
        ∃ item, storings.last? key = some item ∧ item.value = value ∧
          storings.IsYoung timeToLive item) ∧
      (storings.keys.card ≤ max capacity 1 →
        ∀ key item, storings.last? key = some item → storings.IsYoung timeToLive item →
          (shared.cache.get key).1 = some item.value) := by
  have hkept : (ofCapacity capacity timeToLive : SharedCache κ β).cache.Kept :=
    Cache.kept_ofCapacity capacity timeToLive
  have hstart : ({} : Storings κ β).Covers (ofCapacity capacity timeToLive).cache :=
    Storings.covers_ofCapacity capacity timeToLive
  have hkeeps := keeps_run events hkept
  have hcovers := hstart.run hkept events
  generalize run events (ofCapacity capacity timeToLive) = result at hkeeps hcovers ⊢
  obtain ⟨log, shared⟩ := result
  have hlife : shared.cache.timeToLive = timeToLive := hkeeps.timeToLive
  have hcapacity : shared.cache.capacity = max capacity 1 := hkeeps.capacity
  rw [← hlife, ← hcapacity]
  constructor
  · intro event key value hfound
    have hfresh := hkeeps.kept.fresh?_of_found (shared.effect_perform event) hfound
    obtain ⟨entry, hlive, rfl, rfl⟩ := hkeeps.kept.fresh?_eq_some_iff.mp hfresh
    obtain ⟨hmem, hexpired⟩ := List.mem_filter.mp hlive
    have hyoung := (Cache.isExpired_eq_false_iff hcovers.now_eq entry).mp (by simpa using hexpired)
    exact ⟨entry.item, hcovers.held entry hmem, rfl, hyoung⟩
  · intro hroom key item hlast hyoung
    have hkey : item.key = key := by simpa using List.find?_some hlast
    subst hkey
    obtain ⟨entry, hmem, rfl⟩ := hcovers.complete hroom item hlast hyoung
    have hexpired := (Cache.isExpired_eq_false_iff hcovers.now_eq entry).mpr hyoung
    have hlive : entry ∈ shared.cache.live := List.mem_filter.mpr ⟨hmem, by simp [hexpired]⟩
    have hfresh : shared.cache.fresh? entry.key = some entry.value :=
      hkeeps.kept.fresh?_eq_some_iff.mpr ⟨entry, hlive, rfl, rfl⟩
    exact congrArg Prod.fst (Cache.get_of_fresh hfresh)

end AccessGateway
