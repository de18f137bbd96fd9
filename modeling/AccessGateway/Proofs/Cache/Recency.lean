import AccessGateway.Proofs.Cache.Ranking

/-!
# A cache is a recency list

A recency list keeps its items from the most to the least recently used and
needs neither stamps nor a search for what goes next: the item that is dropped
is the last one.  Over any history of calls a cache answers like the recency
list and holds the keys that the list holds.
-/

namespace AccessGateway

variable {κ β ε σ : Type}

/-! ## Recency lists -/

structure RecencyItem (κ β : Type) where
  key : κ
  value : β
  storedAt : Nat

structure RecencyList (κ β : Type) where
  bound : Nat
  timeToLive : Option Nat
  now : Nat := 0
  /-- From the most to the least recently used. -/
  items : List (RecencyItem κ β) := []

namespace RecencyList

def ofCapacity (capacity : Nat) (timeToLive : Option Nat) : RecencyList κ β where
  bound := max capacity 1
  timeToLive := timeToLive

def keys (list : RecencyList κ β) : List κ := list.items.map RecencyItem.key

def hasExpired (list : RecencyList κ β) (item : RecencyItem κ β) : Bool :=
  list.timeToLive.any fun life => life ≤ list.now - item.storedAt

def advance (list : RecencyList κ β) (milliseconds : Nat) : RecencyList κ β :=
  { list with now := list.now + milliseconds }

def clear (list : RecencyList κ β) : RecencyList κ β :=
  { list with items := [] }

/-- Drops all expired items and tells how many there were. -/
def purge (list : RecencyList κ β) : Nat × RecencyList κ β :=
  (list.items.countP list.hasExpired,
    { list with items := list.items.filter fun item => !list.hasExpired item })

variable [DecidableEq κ]

def find? (list : RecencyList κ β) (key : κ) : Option (RecencyItem κ β) :=
  list.items.find? fun item => item.key = key

def others (list : RecencyList κ β) (key : κ) : List (RecencyItem κ β) :=
  list.items.filter fun item => item.key ≠ key

/-- A hit moves its item to the front; an expired item that is met is dropped. -/
def get (list : RecencyList κ β) (key : κ) : Option β × RecencyList κ β :=
  match list.find? key with
  | none => (none, list)
  | some item =>
    if list.hasExpired item then (none, { list with items := list.others key })
    else (some item.value, { list with items := item :: list.others key })

/-- Puts a new item in front.  If that makes the list too long, the expired items are dropped and
then as many from the back as needed. -/
def store (list : RecencyList κ β) (key : κ) (value : β) : RecencyList κ β :=
  let items := ⟨key, value, list.now⟩ :: list.others key
  if (list.find? key).isSome || items.length ≤ list.bound then { list with items := items }
  else
    { list with items := (items.filter fun item => !list.hasExpired item).take list.bound }

def getOrInsert (list : RecencyList κ β) (key : κ) (compute : Except ε β) :
    Cache.Computed ε β × RecencyList κ β :=
  match list.get key, compute with
  | (some value, list), _ => (⟨false, .ok value⟩, list)
  | (none, list), .ok value => (⟨true, .ok value⟩, list.store key value)
  | (none, list), .error e => (⟨true, .error e⟩, list)

theorem find?_of_get_none {list after : RecencyList κ β} {key : κ}
    (hget : list.get key = (none, after)) : after.find? key = none := by
  unfold get at hget
  cases hfind : list.find? key with
  | none =>
      rw [hfind] at hget
      cases hget
      exact hfind
  | some item =>
      rw [hfind] at hget
      cases hexpired : list.hasExpired item with
      | false => simp [hexpired] at hget
      | true =>
          simp only [hexpired, if_true, Prod.mk.injEq, true_and] at hget
          subst hget
          apply List.find?_eq_none.mpr
          intro other hother
          simpa [others] using (List.mem_filter.mp hother).2

theorem timeToLive_get (list : RecencyList κ β) (key : κ) :
    (list.get key).2.timeToLive = list.timeToLive := by
  unfold get
  split
  · rfl
  · split <;> rfl

theorem timeToLive_store (list : RecencyList κ β) (key : κ) (value : β) :
    (list.store key value).timeToLive = list.timeToLive := by
  simp only [store]
  split <;> rfl

theorem timeToLive_getOrInsert (list : RecencyList κ β) (key : κ) (compute : Except ε β) :
    (list.getOrInsert key compute).2.timeToLive = list.timeToLive := by
  have hget := list.timeToLive_get key
  unfold getOrInsert
  cases hlist : list.get key with
  | mk found after =>
      rw [hlist] at hget
      cases found with
      | some value => exact hget
      | none =>
          cases compute with
          | ok value => exact (timeToLive_store after key value).trans hget
          | error e => exact hget

end RecencyList

/-! ## Histories -/

inductive CacheCall (κ β ε : Type) where
  | get (key : κ)
  | insert (key : κ) (value : β)
  | getOrInsert (key : κ) (compute : Except ε β)
  | purge
  | clear
  | advance (milliseconds : Nat)

inductive CacheAnswer (β ε : Type) where
  | found (value : Option β)
  | computed (answer : Cache.Computed ε β)
  | purged (count : Nat)
  | done

/-- The call stored a value under a key. -/
inductive CacheCall.Stores : CacheCall κ β ε → CacheAnswer β ε → κ → β → Prop where
  | insert (key : κ) (value : β) (answer : CacheAnswer β ε) :
      Stores (.insert key value) answer key value
  | computed (key : κ) (compute : Except ε β) (value : β) :
      Stores (.getOrInsert key compute) (.computed ⟨true, .ok value⟩) key value

/-- The answers to some calls, in their order, and the state after them. -/
def answersOf (perform : σ → CacheCall κ β ε → CacheAnswer β ε × σ) :
    List (CacheCall κ β ε) → σ → List (CacheAnswer β ε) × σ
  | [], state => ([], state)
  | call :: calls, state =>
    let (answer, state) := perform state call
    let (answers, state) := answersOf perform calls state
    (answer :: answers, state)

section

variable [DecidableEq κ]

def Cache.perform (cache : Cache κ β) : CacheCall κ β ε → CacheAnswer β ε × Cache κ β
  | .get key => (cache.get key).map .found id
  | .insert key value => (.done, cache.insert key value)
  | .getOrInsert key compute => (cache.getOrInsert key compute).map .computed id
  | .purge => cache.purge.map .purged id
  | .clear => (.done, cache.clear)
  | .advance milliseconds => (.done, cache.advance milliseconds)

def RecencyList.perform (list : RecencyList κ β) :
    CacheCall κ β ε → CacheAnswer β ε × RecencyList κ β
  | .get key => (list.get key).map .found id
  | .insert key value => (.done, list.store key value)
  | .getOrInsert key compute => (list.getOrInsert key compute).map .computed id
  | .purge => list.purge.map .purged id
  | .clear => (.done, list.clear)
  | .advance milliseconds => (.done, list.advance milliseconds)

theorem RecencyList.timeToLive_perform (list : RecencyList κ β) (call : CacheCall κ β ε) :
    (list.perform call).2.timeToLive = list.timeToLive := by
  cases call with
  | get key => exact list.timeToLive_get key
  | insert key value => exact list.timeToLive_store key value
  | getOrInsert key compute => exact list.timeToLive_getOrInsert key compute
  | purge => rfl
  | clear => rfl
  | advance milliseconds => rfl

theorem RecencyList.timeToLive_answersOf (list : RecencyList κ β)
    (calls : List (CacheCall κ β ε)) :
    (answersOf RecencyList.perform calls list).2.timeToLive = list.timeToLive := by
  induction calls generalizing list with
  | nil => rfl
  | cons call calls ih => exact (ih _).trans (list.timeToLive_perform call)

end

/-! ## The list of a ranked cache -/

/-- An entry without its stamp. -/
def CacheEntry.item (entry : CacheEntry κ β) : RecencyItem κ β :=
  ⟨entry.key, entry.value, entry.storedAt⟩

namespace Cache

def keys (cache : Cache κ β) : List κ := cache.entries.map CacheEntry.key

def listing (cache : Cache κ β) (ranked : List (CacheEntry κ β)) : RecencyList κ β :=
  ⟨cache.capacity, cache.timeToLive, cache.now, ranked.map CacheEntry.item⟩

structure Follows (cache : Cache κ β) (list : RecencyList κ β) : Prop where
  room : 1 ≤ cache.capacity
  ranking : ∃ ranked, Ranked ranked cache.entries cache.stamp ∧ list = cache.listing ranked

variable {cache : Cache κ β} {ranked : List (CacheEntry κ β)} {list : RecencyList κ β}

theorem live_listing (cache : Cache κ β) (ranked entries : List (CacheEntry κ β)) :
    (entries.map CacheEntry.item).filter (fun item => !(cache.listing ranked).hasExpired item) =
      (entries.filter fun entry => !cache.isExpired entry).map CacheEntry.item :=
  List.filter_map

theorem follows_ofCapacity (capacity : Nat) (timeToLive : Option Nat) :
    Follows (ofCapacity capacity timeToLive : Cache κ β)
      (RecencyList.ofCapacity capacity timeToLive) where
  room := Nat.le_max_right capacity 1
  ranking := ⟨[], Ranked.nil, rfl⟩

theorem Follows.timeToLive_eq (h : Follows cache list) : list.timeToLive = cache.timeToLive := by
  obtain ⟨ranked, hranked, rfl⟩ := h.ranking
  rfl

theorem Follows.keys_perm (h : Follows cache list) : cache.keys.Perm list.keys := by
  obtain ⟨ranked, hranked, rfl⟩ := h.ranking
  have hkeys : (cache.listing ranked).keys = ranked.map CacheEntry.key := List.map_map
  rw [hkeys]
  exact hranked.perm.symm.map CacheEntry.key

theorem Follows.advance (h : Follows cache list) (milliseconds : Nat) :
    Follows (cache.advance milliseconds) (list.advance milliseconds) := by
  obtain ⟨ranked, hranked, rfl⟩ := h.ranking
  exact ⟨h.room, ranked, hranked, rfl⟩

theorem Follows.clear (h : Follows cache list) : Follows cache.clear list.clear := by
  obtain ⟨ranked, hranked, rfl⟩ := h.ranking
  exact ⟨h.room, [], Ranked.nil, rfl⟩

theorem Follows.purge (h : Follows cache list) :
    cache.purge.1 = list.purge.1 ∧ Follows cache.purge.2 list.purge.2 := by
  obtain ⟨ranked, hranked, rfl⟩ := h.ranking
  obtain ⟨reported, hpurge⟩ := cache.purge_eq
  rw [hpurge]
  constructor
  · have hcount : (cache.listing ranked).purge.1 = ranked.countP cache.isExpired :=
      List.countP_map
    rw [hcount]
    exact hranked.perm.symm.countP_eq cache.isExpired
  · refine ⟨h.room, ranked.filter fun entry => !cache.isExpired entry, hranked.filter _, ?_⟩
    exact congrArg (RecencyList.mk cache.capacity cache.timeToLive cache.now)
      (live_listing cache ranked ranked)

variable [DecidableEq κ]

/-! ## Looking up a key -/

theorem find?_listing (h : Ranked ranked cache.entries cache.stamp) (key : κ) :
    (cache.listing ranked).find? key = (cache.find? key).map CacheEntry.item := by
  rw [Cache.find?, h.find?_eq key]
  exact List.find?_map

theorem others_listing (cache : Cache κ β) (ranked : List (CacheEntry κ β)) (key : κ) :
    (cache.listing ranked).others key =
      (ranked.filter fun entry => entry.key ≠ key).map CacheEntry.item :=
  List.filter_map

theorem Follows.get (h : Follows cache list) (key : κ) :
    (cache.get key).1 = (list.get key).1 ∧ Follows (cache.get key).2 (list.get key).2 := by
  obtain ⟨ranked, hranked, rfl⟩ := h.ranking
  have hlist := find?_listing hranked key
  have hothers := others_listing cache ranked key
  rcases get_cases hranked key with
    ⟨hfind, hget⟩ | ⟨entry, hfind, ⟨hexpired, entries, hkept, hget⟩ | ⟨hfresh, entries, hkept, hget⟩⟩
  · have hgetList : (cache.listing ranked).get key = (none, cache.listing ranked) := by
      simp only [RecencyList.get, hlist, hfind, Option.map_none]
    rw [hget, hgetList]
    exact ⟨rfl, h.room, ranked, hranked, rfl⟩
  · have hsame : (cache.listing ranked).hasExpired entry.item = true := hexpired
    have hgetList : (cache.listing ranked).get key = (none,
        { cache.listing ranked with items := (cache.listing ranked).others key }) := by
      simp only [RecencyList.get, hlist, hfind, Option.map_some, hsame, if_true]
    rw [hget, hgetList, hothers]
    exact ⟨rfl, h.room, _, hkept, rfl⟩
  · have hsame : (cache.listing ranked).hasExpired entry.item = false := hfresh
    have hgetList : (cache.listing ranked).get key = (some entry.value,
        { cache.listing ranked with
          items := entry.item :: (cache.listing ranked).others key }) := by
      simp only [RecencyList.get, hlist, hfind, Option.map_some, hsame, Bool.false_eq_true,
        if_false]
      rfl
    rw [hget, hgetList, hothers]
    exact ⟨rfl, h.room, _, hkept, rfl⟩

/-! ## Storing a value -/

theorem Follows.insert (h : Follows cache list) (key : κ) (value : β) :
    Follows (cache.insert key value) (list.store key value) := by
  obtain ⟨ranked, hranked, rfl⟩ := h.ranking
  have hfindList := find?_listing hranked key
  have hothersList := others_listing cache ranked key
  generalize hothers : ranked.filter (fun other => other.key ≠ key) = others at hothersList
  have hitems : ⟨key, value, (cache.listing ranked).now⟩ :: (cache.listing ranked).others key =
      ((⟨key, value, cache.now, cache.stamp⟩ : CacheEntry κ β) :: others).map
        CacheEntry.item := by
    rw [hothersList]
    rfl
  rcases insert_cases value hranked hothers.symm h.room with
    ⟨hroom, entries, reported, hkept, hinsert⟩ |
      ⟨hnew, hfull, entries, reported, hkept, hinsert⟩
  · have hstore : (cache.listing ranked).store key value = { cache.listing ranked with
        items := ⟨key, value, (cache.listing ranked).now⟩ ::
          (cache.listing ranked).others key } := by
      apply if_pos
      rw [hfindList, hitems, List.length_map, List.length_cons]
      cases hfind : cache.find? key with
      | none =>
          simp only [Option.map_none, Option.isSome_none, Bool.false_or, decide_eq_true_eq]
          exact hroom hfind
      | some entry => simp
    rw [hinsert, hstore, hitems]
    exact ⟨h.room, _, hkept, rfl⟩
  · have hstore : (cache.listing ranked).store key value = { cache.listing ranked with
        items := ((⟨key, value, (cache.listing ranked).now⟩ ::
          (cache.listing ranked).others key).filter fun item =>
            !(cache.listing ranked).hasExpired item).take cache.capacity } := by
      apply if_neg
      rw [hfindList, hnew, hitems, List.length_map, List.length_cons]
      simp only [Option.map_none, Option.isSome_none, Bool.false_or, decide_eq_true_eq]
      exact Nat.not_le_of_lt hfull
    rw [hinsert, hstore, hitems, live_listing, ← List.map_take]
    exact ⟨h.room, _, hkept, rfl⟩

/-- A value that was just stored is there, whatever was evicted for it.  Only when nothing lives
at all it is gone at once, and nothing is evicted then. -/
theorem Follows.insert_keeps (h : Follows cache list) (key : κ) (value : β) :
    (∃ entry ∈ (cache.insert key value).entries, entry.item = ⟨key, value, cache.now⟩) ∨
      cache.timeToLive = some 0 ∧ (cache.insert key value).evictions = cache.evictions := by
  obtain ⟨ranked, hranked, rfl⟩ := h.ranking
  rcases insert_cases value hranked rfl h.room with
    ⟨hroom, entries, reported, hkept, hinsert⟩ |
      ⟨hnew, hfull, entries, reported, hkept, hinsert⟩
  · rw [hinsert]
    exact .inl ⟨_, hkept.perm.mem_iff.mp List.mem_cons_self, rfl⟩
  · rw [hinsert]
    cases hexpired : cache.isExpired ⟨key, value, cache.now, cache.stamp⟩ with
    | true =>
        obtain ⟨hlife, hall⟩ := isExpired_of_storedAt_now rfl hexpired
        have hnone : (cache.store key value).live = [] :=
          List.filter_eq_nil_iff.mpr fun entry _ hfresh => by
            rw [show (cache.store key value).isExpired entry = true from hall entry] at hfresh
            cases hfresh
        exact .inr ⟨hlife, by simp [hnone]⟩
    | false =>
        obtain ⟨room, hcapacity⟩ : ∃ room, cache.capacity = room + 1 :=
          ⟨cache.capacity - 1, by have := h.room; omega⟩
        rw [List.filter_cons_of_pos (by simp [hexpired]), hcapacity,
          List.take_succ_cons] at hkept
        exact .inl ⟨_, hkept.perm.mem_iff.mp List.mem_cons_self, rfl⟩

/-! ## Computing a missing value -/

theorem getOrInsert_eq (cache : Cache κ β) (key : κ) (compute : Except ε β) :
    cache.getOrInsert key compute =
      match cache.get key with
      | (some value, after) => (⟨false, .ok value⟩, after)
      | (none, after) => after.settle key compute := by
  unfold getOrInsert getOrInsertAround Cache.get
  cases cache.sight key <;> rfl

theorem settle_of_absent {key : κ} (hfind : cache.find? key = none) (compute : Except ε β) :
    cache.settle key compute =
      match compute with
      | .ok value => (⟨true, .ok value⟩, cache.insert key value)
      | .error e => (⟨true, .error e⟩, cache) := by
  cases compute <;> simp [settle, sight, hfind, Cache.insert]

theorem Follows.find?_eq_none (h : Follows cache list) {key : κ}
    (hfind : list.find? key = none) : cache.find? key = none := by
  obtain ⟨ranked, hranked, rfl⟩ := h.ranking
  rw [find?_listing hranked] at hfind
  exact Option.map_eq_none_iff.mp hfind

theorem Follows.getOrInsert (h : Follows cache list) (key : κ) (compute : Except ε β) :
    (cache.getOrInsert key compute).1 = (list.getOrInsert key compute).1 ∧
      Follows (cache.getOrInsert key compute).2 (list.getOrInsert key compute).2 := by
  obtain ⟨hanswer, hafter⟩ := h.get key
  rw [getOrInsert_eq]
  unfold RecencyList.getOrInsert
  cases hget : cache.get key with
  | mk found after =>
      cases hgetList : list.get key with
      | mk foundList afterList =>
          rw [hget, hgetList] at hanswer hafter
          cases hanswer
          cases found with
          | some value => exact ⟨rfl, hafter⟩
          | none =>
              -- the first look dropped what had expired, so the second meets nothing
              have hfind := hafter.find?_eq_none (RecencyList.find?_of_get_none hgetList)
              simp only [settle_of_absent hfind]
              cases compute with
              | ok value => exact ⟨rfl, hafter.insert key value⟩
              | error e => exact ⟨rfl, hafter⟩

/-! ## A whole history -/

theorem Follows.perform (h : Follows cache list) (call : CacheCall κ β ε) :
    (cache.perform call).1 = (list.perform call).1 ∧
      Follows (cache.perform call).2 (list.perform call).2 := by
  cases call with
  | get key =>
      obtain ⟨hanswer, hafter⟩ := h.get key
      exact ⟨congrArg CacheAnswer.found hanswer, hafter⟩
  | insert key value => exact ⟨rfl, h.insert key value⟩
  | getOrInsert key compute =>
      obtain ⟨hanswer, hafter⟩ := h.getOrInsert key compute
      exact ⟨congrArg CacheAnswer.computed hanswer, hafter⟩
  | purge =>
      obtain ⟨hanswer, hafter⟩ := h.purge
      exact ⟨congrArg CacheAnswer.purged hanswer, hafter⟩
  | clear => exact ⟨rfl, h.clear⟩
  | advance milliseconds => exact ⟨rfl, h.advance milliseconds⟩

theorem Follows.answersOf (h : Follows cache list) (calls : List (CacheCall κ β ε)) :
    (answersOf Cache.perform calls cache).1 = (answersOf RecencyList.perform calls list).1 ∧
      Follows (answersOf Cache.perform calls cache).2
        (answersOf RecencyList.perform calls list).2 := by
  induction calls generalizing cache list with
  | nil => exact ⟨rfl, h⟩
  | cons call calls ih =>
      obtain ⟨hanswer, hafter⟩ := h.perform call
      obtain ⟨hanswers, hend⟩ := ih hafter
      refine ⟨?_, hend⟩
      simp only [AccessGateway.answersOf]
      rw [hanswer, hanswers]

theorem frame_get (cache : Cache κ β) (key : κ) :
    (cache.get key).2.now = cache.now ∧ (cache.get key).2.timeToLive = cache.timeToLive ∧
      (cache.get key).2.evictions = cache.evictions := by
  unfold Cache.get
  cases cache.sight key <;> exact ⟨rfl, rfl, rfl⟩

theorem Follows.getOrInsert_of_computed (h : Follows cache list) {key : κ} {value : β}
    {compute : Except ε β}
    (hanswer : (cache.getOrInsert key compute).1 = ⟨true, .ok value⟩) :
    (cache.getOrInsert key compute).2 = (cache.get key).2.insert key value := by
  obtain ⟨hfound, hafter⟩ := h.get key
  rw [getOrInsert_eq] at hanswer ⊢
  cases hget : cache.get key with
  | mk found after =>
      rw [hget] at hanswer hfound hafter
      cases found with
      | some other => cases hanswer
      | none =>
          have hfind := hafter.find?_eq_none
            (RecencyList.find?_of_get_none (Prod.ext hfound.symm rfl))
          simp only [settle_of_absent hfind] at hanswer ⊢
          cases compute with
          | ok computed =>
              cases hanswer
              rfl
          | error e => cases hanswer

/-- A value that a call stored is there after the call.  Only when nothing lives at all it is
gone at once, and then nothing was evicted. -/
theorem Follows.perform_keeps (h : Follows cache list) {call : CacheCall κ β ε} {key : κ}
    {value : β} (hstores : call.Stores (cache.perform call).1 key value) :
    (∃ entry ∈ (cache.perform call).2.entries, entry.item = ⟨key, value, cache.now⟩) ∨
      cache.timeToLive = some 0 ∧ (cache.perform call).2.evictions = cache.evictions := by
  generalize hanswer : (cache.perform call).1 = answer at hstores
  cases hstores with
  | insert => exact h.insert_keeps key value
  | computed _ compute =>
      have hcomputed : (cache.getOrInsert key compute).1 = ⟨true, .ok value⟩ :=
        CacheAnswer.computed.inj hanswer
      have hafter : (cache.perform (.getOrInsert key compute)).2 =
          (cache.get key).2.insert key value := h.getOrInsert_of_computed hcomputed
      have hkeeps := (h.get key).2.insert_keeps key value
      obtain ⟨hnow, hlife, hevictions⟩ := frame_get cache key
      rw [hnow, hlife, hevictions] at hkeeps
      rw [hafter]
      exact hkeeps

/-- Over every history a cache answers like the recency list and holds the same keys. -/
theorem answersOf_eq_recencyList (capacity : Nat) (timeToLive : Option Nat)
    (calls : List (CacheCall κ β ε)) :
    let (answers, cache) := answersOf Cache.perform calls (ofCapacity capacity timeToLive)
    let (listAnswers, list) :=
      answersOf RecencyList.perform calls (RecencyList.ofCapacity capacity timeToLive)
    answers = listAnswers ∧ cache.keys.Perm list.keys ∧
      ∀ (call : CacheCall κ β ε) key value, call.Stores (cache.perform call).1 key value →
        (∃ entry ∈ (cache.perform call).2.entries, entry.item = ⟨key, value, cache.now⟩) ∨
          timeToLive = some 0 ∧ (cache.perform call).2.evictions = cache.evictions := by
  obtain ⟨hanswers, hend⟩ := (follows_ofCapacity capacity timeToLive).answersOf calls
  have hlife := RecencyList.timeToLive_answersOf
    (RecencyList.ofCapacity capacity timeToLive) calls
  rw [hend.timeToLive_eq] at hlife
  refine ⟨hanswers, hend.keys_perm, ?_⟩
  intro call key value hstores
  rcases hend.perform_keeps hstores with hheld | ⟨hzero, hevictions⟩
  · exact .inl hheld
  · exact .inr ⟨hlife.symm.trans hzero, hevictions⟩

end Cache

end AccessGateway
