import AccessGateway.Proofs.Cache.Searches

/-!
# Runs in which the map is searched in any order

All that the order of a map can change is what goes when room is made.  So the operations
are stated once more for any way to make room, and two ways that agree until the counter of
stamps comes round give the same runs until then: the search of the map in some order, and
`makeRoom`, which knows neither words nor another order.
-/

namespace AccessGateway

variable {κ β ε : Type}

namespace Cache

variable [DecidableEq κ]

/-! ## Operations that make room in some way -/

/-- A way to make room for a key. -/
abbrev Room (κ β : Type) : Type := Cache κ β → κ → Cache κ β

def makeRoomBy (order : MapOrder κ β) : Room κ β := fun cache keep =>
  if cache.size ≤ cache.capacity then cache else (trim order keep cache.purge.2).2

def insertWith (room : Room κ β) (cache : Cache κ β) (key : κ) (value : β) : Cache κ β :=
  let stored := cache.store key value
  report (if (cache.find? key).isSome then stored else room stored key)

def settleWith (room : Room κ β) (cache : Cache κ β) (key : κ) (compute : Except ε β) :
    Computed ε β × Cache κ β :=
  match cache.sight key, compute with
  | .absent, .ok value => (⟨true, .ok value⟩, report (room (cache.store key value) key))
  | _, _ => cache.settle key compute

def getOrInsertWith (room : Room κ β) (cache : Cache κ β) (key : κ) (compute : Except ε β) :
    Computed ε β × Cache κ β :=
  match cache.get key with
  | (some value, after) => (⟨false, .ok value⟩, after)
  | (none, after) => after.settleWith room key compute

def performWith (room : Room κ β) (cache : Cache κ β) :
    CacheCall κ β ε → CacheAnswer β ε × Cache κ β
  | .insert key value => (.done, cache.insertWith room key value)
  | .getOrInsert key compute => (cache.getOrInsertWith room key compute).map .computed id
  | call => cache.perform call

theorem settleWith_makeRoom (cache : Cache κ β) (key : κ) (compute : Except ε β) :
    cache.settleWith makeRoom key compute = cache.settle key compute := by
  unfold settleWith settle
  cases cache.sight key <;> cases compute <;> rfl

theorem getOrInsertWith_makeRoom (cache : Cache κ β) (key : κ) (compute : Except ε β) :
    cache.getOrInsertWith makeRoom key compute = cache.getOrInsert key compute := by
  rw [getOrInsert_eq]
  unfold getOrInsertWith
  cases cache.get key with
  | mk found after =>
      cases found with
      | some value => rfl
      | none => exact settleWith_makeRoom after key compute

theorem performWith_makeRoom (cache : Cache κ β) (call : CacheCall κ β ε) :
    cache.performWith makeRoom call = cache.perform call := by
  cases call with
  | getOrInsert key compute =>
      exact congrArg (Prod.map CacheAnswer.computed id) (cache.getOrInsertWith_makeRoom key compute)
  | _ => rfl

/-- A way to make room that takes no stamp and, until the counter comes round, does what
`makeRoom` does. -/
structure Trims (room : Room κ β) : Prop where
  stamp : ∀ cache keep, (room cache keep).stamp = cache.stamp
  agrees : ∀ {cache : Cache κ β} {ranked : List (CacheEntry κ β)} (keep : κ),
    Ranked ranked cache.entries cache.stamp → cache.stamp ≤ 2 ^ 64 →
      room cache keep = cache.makeRoom keep

omit [DecidableEq κ] in
theorem stamp_purge (cache : Cache κ β) : cache.purge.2.stamp = cache.stamp := by
  obtain ⟨reported, hpurge⟩ := cache.purge_eq
  rw [hpurge]

omit [DecidableEq κ] in
theorem Ranked.purge {cache : Cache κ β} {ranked : List (CacheEntry κ β)}
    (h : Ranked ranked cache.entries cache.stamp) :
    Ranked (ranked.filter fun entry => !cache.isExpired entry) cache.purge.2.entries
      cache.purge.2.stamp := by
  obtain ⟨reported, hpurge⟩ := cache.purge_eq
  rw [hpurge]
  exact h.filter _

theorem stamp_evict (keep : κ) (n : Nat) (cache : Cache κ β) :
    (evict keep n cache).stamp = cache.stamp := by
  induction n generalizing cache with
  | zero => rfl
  | succ n ih =>
      simp only [evict]
      split
      · rfl
      · exact ih _

theorem Trims.makeRoom : Trims (makeRoom : Room κ β) where
  stamp cache keep := by
    unfold Cache.makeRoom
    split
    · rfl
    · exact (stamp_evict keep _ _).trans (stamp_purge cache)
  agrees _ _ _ := rfl

theorem Trims.makeRoomBy (order : MapOrder κ β) : Trims (makeRoomBy order) where
  stamp cache keep := by
    unfold Cache.makeRoomBy
    split
    · rfl
    · exact (stamp_trim order keep _).trans (stamp_purge cache)
  agrees := by
    intro cache ranked keep h hstamp
    have hpurged : cache.purge.2.stamp ≤ 2 ^ 64 := cache.stamp_purge ▸ hstamp
    simp only [Cache.makeRoomBy, Cache.makeRoom, h.purge.trim_eq hpurged]

/-! ## One call -/

variable {room other : Room κ β}

theorem Trims.stamp_insertWith (hroom : Trims room) (cache : Cache κ β) (key : κ) (value : β) :
    (cache.insertWith room key value).stamp = cache.stamp + 1 := by
  unfold insertWith
  dsimp only [report]
  split
  · rfl
  · exact hroom.stamp _ _

theorem settleWith_of_missing {cache : Cache κ β} {key : κ} (h : cache.fresh? key = none)
    (room : Room κ β) (compute : Except ε β) :
    cache.settleWith room key compute =
      match compute with
      | .ok value => (⟨true, .ok value⟩, cache.insertWith room key value)
      | .error e => (⟨true, .error e⟩, cache) := by
  unfold fresh? at h
  cases hsight : cache.sight key with
  | hit found => simp [hsight] at h
  | expired =>
      obtain ⟨entry, hfind, -⟩ := find?_of_sight_eq_expired hsight
      cases compute <;> simp [settleWith, settle, hsight, insertWith, hfind]
  | absent =>
      have hfind := find?_of_sight_eq_absent hsight
      cases compute <;> simp [settleWith, settle, hsight, insertWith, hfind]

theorem settleWith_of_fresh {cache : Cache κ β} {key : κ} {value : β}
    (h : cache.fresh? key = some value) (room : Room κ β) (compute : Except ε β) :
    cache.settleWith room key compute = (⟨false, .ok value⟩, report (cache.touch key)) := by
  simp only [settleWith, settle, sight_eq_hit h]

theorem stamp_get_le (cache : Cache κ β) (key : κ) : cache.stamp ≤ (cache.get key).2.stamp := by
  unfold get
  split
  · exact Nat.le_succ _
  · exact Nat.le_refl _
  · exact Nat.le_refl _

theorem Trims.stamp_settleWith_le (hroom : Trims room) (cache : Cache κ β) (key : κ)
    (compute : Except ε β) : cache.stamp ≤ (cache.settleWith room key compute).2.stamp := by
  cases hfresh : cache.fresh? key with
  | some value =>
      rw [settleWith_of_fresh hfresh]
      exact Nat.le_succ _
  | none =>
      rw [settleWith_of_missing hfresh]
      cases compute with
      | ok value => exact (hroom.stamp_insertWith cache key value).symm ▸ Nat.le_succ _
      | error e => exact Nat.le_refl _

theorem Trims.stamp_performWith_le (hroom : Trims room) (cache : Cache κ β)
    (call : CacheCall κ β ε) : cache.stamp ≤ (cache.performWith room call).2.stamp := by
  cases call with
  | get key => exact cache.stamp_get_le key
  | insert key value => exact (hroom.stamp_insertWith cache key value).symm ▸ Nat.le_succ _
  | getOrInsert key compute =>
      have hget := cache.stamp_get_le key
      simp only [performWith, getOrInsertWith]
      cases hafter : cache.get key with
      | mk found after =>
          rw [hafter] at hget
          cases found with
          | some value => exact hget
          | none => exact Nat.le_trans hget (hroom.stamp_settleWith_le after key compute)
  | purge => exact Nat.le_of_eq cache.stamp_purge.symm
  | clear => exact Nat.le_refl _
  | advance milliseconds => exact Nat.le_refl _

theorem Trims.insertWith_eq (hroom : Trims room) (hother : Trims other) {cache : Cache κ β}
    (h : cache.Kept) {key : κ} {value : β}
    (hstamp : (cache.insertWith room key value).stamp ≤ 2 ^ 64) :
    cache.insertWith other key value = cache.insertWith room key value := by
  rw [hroom.stamp_insertWith] at hstamp
  obtain ⟨ranked, hranked⟩ := h.ranking
  have hstored := hranked.store key value
  simp only [insertWith, hroom.agrees key hstored hstamp, hother.agrees key hstored hstamp]

theorem Trims.settleWith_eq (hroom : Trims room) (hother : Trims other) {cache : Cache κ β}
    (h : cache.Kept) {key : κ} {compute : Except ε β}
    (hstamp : (cache.settleWith room key compute).2.stamp ≤ 2 ^ 64) :
    cache.settleWith other key compute = cache.settleWith room key compute := by
  cases hfresh : cache.fresh? key with
  | some value => rw [settleWith_of_fresh hfresh, settleWith_of_fresh hfresh]
  | none =>
      rw [settleWith_of_missing hfresh] at hstamp
      rw [settleWith_of_missing hfresh, settleWith_of_missing hfresh]
      cases compute with
      | ok value => exact congrArg (Prod.mk _) (hroom.insertWith_eq hother h hstamp)
      | error e => rfl

theorem Trims.performWith_eq (hroom : Trims room) (hother : Trims other) {cache : Cache κ β}
    (h : cache.Kept) {call : CacheCall κ β ε}
    (hstamp : (cache.performWith room call).2.stamp ≤ 2 ^ 64) :
    cache.performWith other call = cache.performWith room call := by
  cases call with
  | insert key value => exact congrArg _ (hroom.insertWith_eq hother h hstamp)
  | getOrInsert key compute =>
      have hget := h.get key
      simp only [performWith, getOrInsertWith] at hstamp ⊢
      cases hafter : cache.get key with
      | mk found after =>
          rw [hafter] at hget hstamp
          cases found with
          | some value => rfl
          | none => exact congrArg _ (hroom.settleWith_eq hother hget.kept hstamp)
  | _ => rfl

end Cache

/-! ## Runs -/

namespace SharedCache

open Cache (Room Trims makeRoomBy)

variable [DecidableEq κ] {room other : Room κ β} {shared : SharedCache κ β}

def performWith (room : Room κ β) (shared : SharedCache κ β) :
    CacheEvent κ β ε → CacheAnswer β ε × SharedCache κ β
  | .call call =>
    (shared.cache.performWith room call).map id fun cache => { shared with cache := cache }
  | .settle task key compute =>
    match shared.stage task key with
    | some .left =>
      (shared.cache.settleWith room key compute).map .computed (shared.move task key none)
    | _ => (.done, shared)
  | event => shared.perform event

def runWith (room : Room κ β) : List (CacheEvent κ β ε) → SharedCache κ β →
    List (CacheEvent κ β ε × CacheAnswer β ε) × SharedCache κ β
  | [], shared => ([], shared)
  | event :: events, shared =>
    let (answer, shared) := shared.performWith room event
    let (log, shared) := runWith room events shared
    ((event, answer) :: log, shared)

theorem performWith_makeRoom (shared : SharedCache κ β) (event : CacheEvent κ β ε) :
    shared.performWith Cache.makeRoom event = shared.perform event := by
  cases event with
  | call call => simp only [performWith, perform, Cache.performWith_makeRoom]
  | settle task key compute =>
      simp only [performWith, perform]
      cases shared.stage task key with
      | none => rfl
      | some stage =>
          cases stage with
          | left =>
              exact congrArg (Prod.map CacheAnswer.computed (shared.move task key none))
                (shared.cache.settleWith_makeRoom key compute)
          | _ => rfl
  | _ => rfl

theorem runWith_makeRoom (events : List (CacheEvent κ β ε)) (shared : SharedCache κ β) :
    runWith Cache.makeRoom events shared = run events shared := by
  induction events generalizing shared with
  | nil => rfl
  | cons event events ih => simp only [runWith, run, performWith_makeRoom, ih]

theorem stamp_performWith_le (hroom : Trims room) (shared : SharedCache κ β)
    (event : CacheEvent κ β ε) :
    shared.cache.stamp ≤ (shared.performWith room event).2.cache.stamp := by
  cases event with
  | call call => exact hroom.stamp_performWith_le shared.cache call
  | look task key =>
      simp only [performWith, perform]
      split
      · exact Nat.le_succ _
      · exact Nat.le_refl _
      · exact Nat.le_refl _
  | leave task key =>
      simp only [performWith, perform]
      split
      · exact Nat.le_refl _
      · exact Nat.le_refl _
      · exact Nat.le_refl _
  | settle task key compute =>
      simp only [performWith]
      split
      · exact hroom.stamp_settleWith_le shared.cache key compute
      · exact Nat.le_refl _

theorem stamp_runWith_le (hroom : Trims room) (events : List (CacheEvent κ β ε))
    (shared : SharedCache κ β) :
    shared.cache.stamp ≤ (runWith room events shared).2.cache.stamp := by
  induction events generalizing shared with
  | nil => exact Nat.le_refl _
  | cons event events ih => exact Nat.le_trans (stamp_performWith_le hroom shared event) (ih _)

theorem performWith_eq (hroom : Trims room) (hother : Trims other) (h : shared.cache.Kept)
    {event : CacheEvent κ β ε}
    (hstamp : (shared.performWith room event).2.cache.stamp ≤ 2 ^ 64) :
    shared.performWith other event = shared.performWith room event := by
  cases event with
  | call call =>
      exact congrArg (Prod.map id fun cache => { shared with cache := cache })
        (hroom.performWith_eq hother h hstamp)
  | settle task key compute =>
      simp only [performWith] at hstamp ⊢
      cases hstage : shared.stage task key with
      | none => rfl
      | some stage =>
          rw [hstage] at hstamp
          cases stage with
          | left => exact congrArg (Prod.map _ _) (hroom.settleWith_eq hother h hstamp)
          | _ => rfl
  | _ => rfl

/-- Until the counter comes round, a run does not tell in which way room is made. -/
theorem runWith_eq (hroom : Trims room) (hother : Trims other) (h : shared.cache.Kept)
    {events : List (CacheEvent κ β ε)}
    (hstamp : (runWith room events shared).2.cache.stamp ≤ 2 ^ 64) :
    runWith other events shared = runWith room events shared := by
  induction events generalizing shared with
  | nil => rfl
  | cons event events ih =>
      have hevent : (shared.performWith room event).2.cache.stamp ≤ 2 ^ 64 :=
        Nat.le_trans (stamp_runWith_le hroom events _) hstamp
      have hperform : shared.perform event = shared.performWith room event := by
        rw [← performWith_makeRoom]
        exact performWith_eq hroom .makeRoom h hevent
      have hkept : (shared.performWith room event).2.cache.Kept := by
        rw [← hperform]
        exact (h.effect (shared.effect_perform event)).kept
      simp only [runWith, performWith_eq hroom hother h hevent, ih hkept hstamp]

theorem runWith_makeRoomBy_eq (order : MapOrder κ β) (h : shared.cache.Kept)
    {events : List (CacheEvent κ β ε)} (hstamp : (run events shared).2.cache.stamp ≤ 2 ^ 64) :
    runWith (makeRoomBy order) events shared = run events shared := by
  rw [← runWith_makeRoom] at hstamp ⊢
  exact runWith_eq .makeRoom (.makeRoomBy order) h hstamp

end SharedCache

namespace Cache

variable [DecidableEq κ] {cache met : Cache κ β} {order : MapOrder κ β}

/-- The states that a cache is in until the next event is over and some value has been stored. -/
inductive Stage (order : MapOrder κ β) (cache : Cache κ β) : Cache κ β → Prop where
  | between : Stage order cache cache
  | stored (key : κ) (value : β) : Stage order cache (cache.store key value)
  | round (key : κ) (value : β) {met : Cache κ β}
      (h : met ∈ (trim order key (cache.store key value).purge.2).1) : Stage order cache met

theorem Kept.exists_ranked_of_stage (h : cache.Kept) (hstage : cache.Stage order met) :
    ∃ ranked, Ranked ranked met.entries met.stamp := by
  obtain ⟨ranked, hranked⟩ := h.ranking
  cases hstage with
  | between => exact ⟨ranked, hranked⟩
  | stored key value => exact ⟨_, hranked.store key value⟩
  | round key value hmet => exact (hranked.store key value).purge.of_mem_trim hmet

end Cache

namespace SharedCache

open Cache (makeRoomBy)

variable [DecidableEq κ]

/-- While fewer than `2 ^ 64` stamps have been handed out, a run in which the map is searched in
some order answers like a run in any other order and like `run`, and wherever the map is searched
there is one entry to find.  In any state the search is made as often as there are entries too many,
at most. -/
theorem run_in_any_order (capacity : Nat) (timeToLive : Option Nat) (order : MapOrder κ β)
    (events : List (CacheEvent κ β ε)) :
    let start : SharedCache κ β := .ofCapacity capacity timeToLive
    let shared := (runWith (makeRoomBy order) events start).2
    (shared.cache.stamp < 2 ^ 64 →
      (∀ other, runWith (makeRoomBy other) events start = run events start) ∧
        ∀ met, shared.cache.Stage order met → met.stamp < 2 ^ 64 →
          met.TicksApart ∧ ∀ keep, (∃ entry ∈ met.entries, entry.key ≠ keep) →
            ∃ victim, met.OneVictim keep victim) ∧
      ∀ keep (cache : Cache κ β),
        (Cache.trim order keep cache).1.length ≤ cache.size - cache.capacity := by
  intro start shared
  refine ⟨?_, Cache.length_trim_le order⟩
  intro hstamp
  have hkept : start.cache.Kept := Cache.kept_ofCapacity capacity timeToLive
  have hrun : runWith (makeRoomBy order) events start = run events start := by
    rw [← runWith_makeRoom]
    exact (runWith_eq (.makeRoomBy order) .makeRoom hkept (Nat.le_of_lt hstamp)).symm
  have hshared : shared.cache.Kept := by
    simp only [shared, hrun]
    exact (keeps_run events hkept).kept
  constructor
  · intro other
    rw [← hrun]
    exact runWith_eq (.makeRoomBy order) (.makeRoomBy other) hkept (Nat.le_of_lt hstamp)
  · intro met hstage hmet
    obtain ⟨ranked, hranked⟩ := hshared.exists_ranked_of_stage hstage
    refine ⟨hranked.ticksApart hmet, ?_⟩
    rintro keep ⟨entry, hmem, hne⟩
    exact hranked.exists_oneVictim (Nat.le_of_lt hmet) hmem hne

/-- A map that is listed backwards: the key that was used least recently goes for the third one. -/
theorem run_in_any_order_of_reversed :
    let backwards : MapOrder String Nat :=
      ⟨fun cache => cache.entries.reverse, fun _ => List.reverse_perm _⟩
    let events : List (CacheEvent String Nat Unit) :=
      [.call (.insert "a" 1), .call (.insert "b" 2), .call (.get "a"), .call (.insert "c" 3)]
    let start : SharedCache String Nat := .ofCapacity 2 none
    let shared := (runWith (makeRoomBy backwards) events start).2
    shared.cache.stamp < 2 ^ 64 ∧ (∃ entry ∈ shared.cache.entries, entry.key ≠ "c") ∧
      runWith (makeRoomBy backwards) events start = run events start ∧
      shared.cache.keys = ["c", "a"] ∧ shared.cache.TicksApart ∧
      ∃ victim, shared.cache.OneVictim "c" victim := by
  intro backwards events start shared
  have hkept : start.cache.Kept := Cache.kept_ofCapacity 2 none
  have hrun : runWith (makeRoomBy backwards) events start = run events start :=
    runWith_makeRoomBy_eq backwards hkept (by decide)
  have hstamp : shared.cache.stamp < 2 ^ 64 := by
    simp only [shared, hrun]
    decide
  have hentry : ∃ entry ∈ shared.cache.entries, entry.key ≠ "c" := by
    simp only [shared, hrun]
    decide
  have hkeys : shared.cache.keys = ["c", "a"] := by
    simp only [shared, hrun]
    decide
  obtain ⟨hsame, hstages⟩ := (run_in_any_order 2 none backwards events).1 hstamp
  obtain ⟨hapart, hvictim⟩ := hstages shared.cache .between hstamp
  exact ⟨hstamp, hentry, hsame backwards, hkeys, hapart, hvictim "c" hentry⟩

end SharedCache

end AccessGateway
