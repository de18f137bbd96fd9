import AccessGateway.Cache.Janitor
import AccessGateway.Proofs.Cache.Bound

/-!
# Purging goes unnoticed

Two caches are alike if they hold the same entries that live and have counted the
same.  A purge makes of a cache one that is like it, and every other event
answers alike on caches that are alike and leaves them so.  Hence the purges of a
run can be left out: nothing that is answered changes, nor which values are
computed, nor any counter.
-/

namespace AccessGateway

variable {κ β ε : Type}

namespace Cache

/-- The caches that differ from one in expired entries and in the size reported last. -/
inductive Alike (cache : Cache κ β) : Cache κ β → Prop where
  | mk (entries : List (CacheEntry κ β)) (reported : Option Nat)
      (live : cache.live.Perm (entries.filter fun entry => !cache.isExpired entry)) :
      Alike cache { cache with entries := entries, reported := reported }

namespace Alike

variable {cache other last : Cache κ β}

theorem refl (cache : Cache κ β) : cache.Alike cache :=
  .mk cache.entries cache.reported (.refl _)

theorem symm (h : cache.Alike other) : other.Alike cache := by
  obtain ⟨entries, reported, hlive⟩ := h
  exact .mk cache.entries cache.reported hlive.symm

theorem trans (h : cache.Alike other) (hlast : other.Alike last) : cache.Alike last := by
  obtain ⟨entries, reported, hlive⟩ := h
  obtain ⟨lastEntries, lastReported, hlastLive⟩ := hlast
  exact .mk lastEntries lastReported (hlive.trans hlastLive)

theorem live_perm (h : cache.Alike other) : cache.live.Perm other.live := by
  obtain ⟨entries, reported, hlive⟩ := h
  exact hlive

theorem now_eq (h : cache.Alike other) : other.now = cache.now := by
  obtain ⟨entries, reported, hlive⟩ := h
  rfl

theorem stats_eq (h : cache.Alike other) :
    { cache.stats with size := other.size } = other.stats := by
  obtain ⟨entries, reported, hlive⟩ := h
  rfl

theorem recordMiss (h : cache.Alike other) : cache.recordMiss.Alike other.recordMiss := by
  obtain ⟨entries, reported, hlive⟩ := h
  exact .mk entries reported hlive

theorem clear (h : cache.Alike other) : cache.clear.Alike other.clear := by
  obtain ⟨entries, reported, hlive⟩ := h
  exact refl _

end Alike

theorem alike_report (cache : Cache κ β) : cache.Alike cache.report :=
  .mk cache.entries (some cache.size) (.refl _)

theorem alike_purge (cache : Cache κ β) : cache.Alike cache.purge.2 := by
  obtain ⟨reported, hpurge⟩ := cache.purge_eq
  rw [hpurge]
  apply Alike.mk
  have hlive : (cache.live.filter fun entry => !cache.isExpired entry) = cache.live := by
    simp [live]
  rw [hlive]

theorem live_advance (cache : Cache κ β) (milliseconds : Nat) :
    (cache.advance milliseconds).live =
      cache.live.filter fun entry => !(cache.advance milliseconds).isExpired entry := by
  rw [live, live, List.filter_filter]
  apply List.filter_congr
  intro entry _
  cases hlater : (cache.advance milliseconds).isExpired entry with
  | true => simp
  | false =>
      have hnow : cache.isExpired entry = false := by
        cases hlife : cache.timeToLive with
        | none => simp [isExpired, hlife]
        | some life =>
            simp only [isExpired, Cache.advance, hlife, Option.any_some,
              decide_eq_false_iff_not] at hlater ⊢
            omega
      simp [hnow]

theorem Alike.advance {cache other : Cache κ β} (h : cache.Alike other) (milliseconds : Nat) :
    (cache.advance milliseconds).Alike (other.advance milliseconds) := by
  have hlater := h.live_perm.filter fun entry => !(cache.advance milliseconds).isExpired entry
  have hlive : (cache.advance milliseconds).live.Perm (other.advance milliseconds).live := by
    obtain ⟨entries, reported, -⟩ := h
    rw [live_advance, live_advance]
    exact hlater
  obtain ⟨entries, reported, -⟩ := h
  exact .mk entries reported hlive

variable [DecidableEq κ] {cache other : Cache κ β}

theorem alike_removeExpired (cache : Cache κ β) (key : κ) :
    cache.Alike (cache.removeExpired key) :=
  .mk _ cache.reported (.of_eq (live_removeExpired cache key).symm)

/-! ## Lookups -/

theorem live_touch (cache : Cache κ β) (key : κ) :
    (cache.touch key).live = cache.live.map fun entry =>
      if entry.key = key then { entry with lastUsed := cache.stamp } else entry := by
  have hsame : (fun entry => !(cache.touch key).isExpired entry) ∘ (fun entry =>
      if entry.key = key then { entry with lastUsed := cache.stamp } else entry) =
        fun entry => !cache.isExpired entry := by
    funext entry
    by_cases hkey : entry.key = key <;> simp [hkey, isExpired, touch]
  rw [live, touch, List.filter_map]
  exact congrArg _ (congrArg (fun p => cache.entries.filter p) hsame)

theorem Alike.live_touch_perm (h : cache.Alike other) (key : κ) :
    (cache.touch key).live.Perm (other.touch key).live := by
  have hlive := h.live_perm
  obtain ⟨entries, reported, -⟩ := h
  rw [live_touch, live_touch]
  exact hlive.map _

theorem Alike.touch (h : cache.Alike other) (key : κ) :
    (cache.touch key).Alike (other.touch key) := by
  have hlive := h.live_touch_perm key
  obtain ⟨entries, reported, -⟩ := h
  exact .mk _ reported hlive

theorem Alike.recordHit (h : cache.Alike other) (key : κ) :
    (cache.recordHit key).Alike (other.recordHit key) := by
  have hlive := h.live_touch_perm key
  obtain ⟨entries, reported, -⟩ := h
  exact .mk _ reported hlive

theorem Alike.removeExpired (h : cache.Alike other) (key : κ) :
    (cache.removeExpired key).Alike (other.removeExpired key) :=
  (alike_removeExpired cache key).symm.trans (h.trans (alike_removeExpired other key))

theorem Alike.fresh?_eq (h : cache.Alike other) (hkept : cache.Kept) (hother : other.Kept)
    (key : κ) : cache.fresh? key = other.fresh? key := by
  apply Option.ext
  intro value
  rw [hkept.fresh?_eq_some_iff, hother.fresh?_eq_some_iff]
  simp only [h.live_perm.mem_iff]

theorem Alike.get (h : cache.Alike other) (hkept : cache.Kept) (hother : other.Kept) (key : κ) :
    (cache.get key).1 = (other.get key).1 ∧ (cache.get key).2.Alike (other.get key).2 := by
  have hsame := h.fresh?_eq hkept hother key
  cases hfresh : cache.fresh? key with
  | some value =>
      rw [get_of_fresh hfresh, get_of_fresh (hsame.symm.trans hfresh)]
      exact ⟨rfl, h.recordHit key⟩
  | none =>
      rw [get_of_missing hfresh, get_of_missing (hsame.symm.trans hfresh)]
      exact ⟨rfl, (h.removeExpired key).recordMiss⟩

/-! ## Storing -/

theorem Alike.live_store_perm (h : cache.Alike other) (key : κ) (value : β) :
    (cache.store key value).live.Perm (other.store key value).live := by
  have hlive := h.live_perm.filter fun entry => entry.key ≠ key
  obtain ⟨entries, reported, -⟩ := h
  rw [live_store, live_store]
  exact hlive.append_left _

theorem Alike.insert (h : cache.Alike other) (hkept : cache.Kept) (hother : other.Kept) (key : κ)
    (value : β) : (cache.insert key value).Alike (other.insert key value) := by
  have hstored := h.live_store_perm key value
  obtain ⟨entries, hleft, hinsert⟩ := hkept.insert_eq key value
  obtain ⟨otherEntries, hotherLeft, hotherInsert⟩ := hother.insert_eq key value
  obtain ⟨ranked, hranked, hperm⟩ := hleft.live
  obtain ⟨otherRanked, hotherRanked, hotherPerm⟩ := hotherLeft.live
  have hrank : ranked = otherRanked := hranked.eq_of_perm hotherRanked hstored
  rw [hinsert, hotherInsert, hstored.length_eq]
  subst hrank
  obtain ⟨held, reported, -⟩ := h
  exact .mk otherEntries _ (hperm.trans hotherPerm.symm)

theorem Alike.settle (h : cache.Alike other) (hkept : cache.Kept) (hother : other.Kept) (key : κ)
    (compute : Except ε β) :
    (cache.settle key compute).1 = (other.settle key compute).1 ∧
      (cache.settle key compute).2.Alike (other.settle key compute).2 := by
  have hsame := h.fresh?_eq hkept hother key
  cases hfresh : cache.fresh? key with
  | some value =>
      rw [settle_of_fresh hfresh, settle_of_fresh (hsame.symm.trans hfresh)]
      exact ⟨rfl, (alike_report _).symm.trans ((h.touch key).trans (alike_report _))⟩
  | none =>
      rw [settle_of_missing hfresh, settle_of_missing (hsame.symm.trans hfresh)]
      cases compute with
      | ok value => exact ⟨rfl, h.insert hkept hother key value⟩
      | error e => exact ⟨rfl, h⟩

theorem Alike.getOrInsert (h : cache.Alike other) (hkept : cache.Kept) (hother : other.Kept)
    (key : κ) (compute : Except ε β) :
    (cache.getOrInsert key compute).1 = (other.getOrInsert key compute).1 ∧
      (cache.getOrInsert key compute).2.Alike (other.getOrInsert key compute).2 := by
  have hsame := h.fresh?_eq hkept hother key
  cases hfresh : cache.fresh? key with
  | some value =>
      rw [getOrInsert_of_fresh hfresh, getOrInsert_of_fresh (hsame.symm.trans hfresh)]
      exact ⟨rfl, h.recordHit key⟩
  | none =>
      obtain ⟨-, hafter⟩ := h.get hkept hother key
      rw [hkept.getOrInsert_of_missing hfresh,
        hother.getOrInsert_of_missing (hsame.symm.trans hfresh)]
      cases compute with
      | ok value =>
          have hget := hkept.get key
          have hotherGet := hother.get key
          exact ⟨rfl, hafter.insert hget.kept hotherGet.kept key value⟩
      | error e => exact ⟨rfl, hafter⟩

theorem Alike.perform (h : cache.Alike other) (hkept : cache.Kept) (hother : other.Kept)
    {call : CacheCall κ β ε} (hcall : call ≠ .purge) :
    (cache.perform call).1 = (other.perform call).1 ∧
      (cache.perform call).2.Alike (other.perform call).2 := by
  cases call with
  | get key =>
      obtain ⟨hfound, hafter⟩ := h.get hkept hother key
      exact ⟨congrArg CacheAnswer.found hfound, hafter⟩
  | insert key value => exact ⟨rfl, h.insert hkept hother key value⟩
  | getOrInsert key compute =>
      obtain ⟨hanswer, hafter⟩ := h.getOrInsert hkept hother key compute
      exact ⟨congrArg CacheAnswer.computed hanswer, hafter⟩
  | purge => exact absurd rfl hcall
  | clear => exact ⟨rfl, h.clear⟩
  | advance milliseconds => exact ⟨rfl, h.advance milliseconds⟩

end Cache

/-! ## Runs with and without purges -/

/-- The lookup has left, whatever it met. -/
def LookupStage.hasLeft : LookupStage → Bool
  | .left => true
  | _ => false

namespace SharedCache

structure Alike (shared other : SharedCache κ β) : Prop where
  kept : shared.cache.Kept
  otherKept : other.cache.Kept
  cache : shared.cache.Alike other.cache
  stage : ∀ task key,
    (shared.stage task key).map LookupStage.hasLeft = (other.stage task key).map LookupStage.hasLeft

variable [DecidableEq κ] {shared other : SharedCache κ β} {task : Nat} {key : κ}

theorem perform_look_of_fresh {value : β} (h : shared.cache.fresh? key = some value) :
    shared.perform (.look task key : CacheEvent κ β ε) =
      (.found (some value), shared.move task key none (shared.cache.recordHit key)) := by
  simp only [perform, Cache.sight_eq_hit h]

theorem perform_look_of_missing (h : shared.cache.fresh? key = none) (task : Nat) :
    ∃ stage : LookupStage, stage.hasLeft = false ∧
      shared.perform (.look task key : CacheEvent κ β ε) =
        (.done, shared.move task key (some stage) shared.cache) := by
  unfold Cache.fresh? at h
  cases hsight : shared.cache.sight key with
  | hit value => simp [hsight] at h
  | expired => exact ⟨.metExpired, rfl, by simp only [perform, hsight]⟩
  | absent => exact ⟨.metNothing, rfl, by simp only [perform, hsight]⟩

theorem perform_leave_eq (shared : SharedCache κ β) (task : Nat) (key : κ) :
    ∃ after, shared.cache.recordMiss.Alike after ∧
      shared.perform (.leave task key : CacheEvent κ β ε) =
        match (shared.stage task key).map LookupStage.hasLeft with
        | some false => (.found none, shared.move task key (some .left) after)
        | _ => (.done, shared) := by
  cases hstage : shared.stage task key with
  | none => exact ⟨_, .refl _, by simp [perform, hstage]⟩
  | some stage =>
      cases stage with
      | metExpired =>
          refine ⟨_, (Cache.alike_removeExpired shared.cache key).recordMiss, ?_⟩
          simp [perform, hstage, LookupStage.hasLeft]
      | metNothing => exact ⟨_, .refl _, by simp [perform, hstage, LookupStage.hasLeft]⟩
      | left => exact ⟨_, .refl _, by simp [perform, hstage, LookupStage.hasLeft]⟩

theorem perform_settle_eq (shared : SharedCache κ β) (task : Nat) (key : κ)
    (compute : Except ε β) :
    shared.perform (.settle task key compute) =
      match (shared.stage task key).map LookupStage.hasLeft with
      | some true =>
        (.computed (shared.cache.settle key compute).1,
          shared.move task key none (shared.cache.settle key compute).2)
      | _ => (.done, shared) := by
  cases hstage : shared.stage task key with
  | none => simp [perform, hstage]
  | some stage => cases stage <;> simp [perform, hstage, LookupStage.hasLeft, Prod.map]

theorem stage_move {cache otherCache : Cache κ β} {stage otherStage : Option LookupStage}
    (h : ∀ task key, (shared.stage task key).map LookupStage.hasLeft =
      (other.stage task key).map LookupStage.hasLeft)
    (hstage : stage.map LookupStage.hasLeft = otherStage.map LookupStage.hasLeft)
    (moved : Nat) (movedKey : κ) :
    ((shared.move task key stage cache).stage moved movedKey).map LookupStage.hasLeft =
      ((other.move task key otherStage otherCache).stage moved movedKey).map
        LookupStage.hasLeft := by
  by_cases hmoved : moved = task ∧ movedKey = key
  · simp [move, hmoved, hstage]
  · simp [move, hmoved, h moved movedKey]

theorem Alike.perform (h : shared.Alike other) {event : CacheEvent κ β ε}
    (hevent : event.isPurge = false) :
    (shared.perform event).1 = (other.perform event).1 ∧
      (shared.perform event).2.Alike (other.perform event).2 := by
  have hkept := (h.kept.effect (shared.effect_perform event)).kept
  have hotherKept := (h.otherKept.effect (other.effect_perform event)).kept
  suffices hsame : (shared.perform event).1 = (other.perform event).1 ∧
      (shared.perform event).2.cache.Alike (other.perform event).2.cache ∧
      ∀ task key, ((shared.perform event).2.stage task key).map LookupStage.hasLeft =
        ((other.perform event).2.stage task key).map LookupStage.hasLeft by
    exact ⟨hsame.1, hkept, hotherKept, hsame.2.1, hsame.2.2⟩
  clear hkept hotherKept
  cases event with
  | call call =>
      have hcall : call ≠ .purge := by
        rintro rfl
        simp [CacheEvent.isPurge] at hevent
      obtain ⟨hanswer, hafter⟩ := h.cache.perform h.kept h.otherKept hcall
      exact ⟨hanswer, hafter, h.stage⟩
  | look task key =>
      have hfound := h.cache.fresh?_eq h.kept h.otherKept key
      cases hfresh : shared.cache.fresh? key with
      | some value =>
          rw [perform_look_of_fresh hfresh, perform_look_of_fresh (hfound.symm.trans hfresh)]
          exact ⟨rfl, h.cache.recordHit key, stage_move h.stage rfl⟩
      | none =>
          obtain ⟨stage, hstage, hlook⟩ := perform_look_of_missing (ε := ε) hfresh task
          obtain ⟨otherStage, hotherStage, hotherLook⟩ :=
            perform_look_of_missing (ε := ε) (hfound.symm.trans hfresh) task
          rw [hlook, hotherLook]
          refine ⟨rfl, h.cache, stage_move h.stage ?_⟩
          simp [hstage, hotherStage]
  | leave task key =>
      obtain ⟨after, hafter, hperform⟩ := perform_leave_eq (ε := ε) shared task key
      obtain ⟨otherAfter, hotherAfter, hotherPerform⟩ := perform_leave_eq (ε := ε) other task key
      rw [hperform, hotherPerform, ← h.stage]
      have hleft := hafter.symm.trans (h.cache.recordMiss.trans hotherAfter)
      split
      · exact ⟨rfl, hleft, stage_move h.stage rfl⟩
      · exact ⟨rfl, h.cache, h.stage⟩
  | settle task key compute =>
      obtain ⟨hanswer, hafter⟩ := h.cache.settle h.kept h.otherKept key compute
      rw [perform_settle_eq, perform_settle_eq, ← h.stage]
      split
      · exact ⟨congrArg CacheAnswer.computed hanswer, hafter, stage_move h.stage rfl⟩
      · exact ⟨rfl, h.cache, h.stage⟩

theorem Alike.purge (h : shared.Alike other) :
    (shared.perform (.call .purge : CacheEvent κ β ε)).2.Alike other where
  kept := h.kept.purge.kept
  otherKept := h.otherKept
  cache := (Cache.alike_purge shared.cache).symm.trans h.cache
  stage := h.stage

theorem Alike.run (h : shared.Alike other) (events : List (CacheEvent κ β ε)) :
    (SharedCache.run events shared).1.filter (fun entry => !entry.1.isPurge) =
        (SharedCache.run (events.filter fun event => !event.isPurge) other).1 ∧
      (SharedCache.run events shared).2.Alike
        (SharedCache.run (events.filter fun event => !event.isPurge) other).2 := by
  induction events generalizing shared other with
  | nil => exact ⟨rfl, h⟩
  | cons event events ih =>
      cases hevent : event.isPurge with
      | true =>
          have hpurge : event = .call .purge := by
            unfold CacheEvent.isPurge at hevent
            split at hevent <;> simp_all
          subst hpurge
          obtain ⟨hlog, hlast⟩ := ih h.purge
          rw [List.filter_cons_of_neg (by simp [hevent])]
          refine ⟨?_, hlast⟩
          simp only [SharedCache.run]
          rw [List.filter_cons_of_neg (by simp [hevent])]
          exact hlog
      | false =>
          obtain ⟨hanswer, hafter⟩ := h.perform hevent
          obtain ⟨hlog, hlast⟩ := ih hafter
          rw [List.filter_cons_of_pos (by simp [hevent])]
          refine ⟨?_, hlast⟩
          simp only [SharedCache.run]
          rw [List.filter_cons_of_pos (by simp [hevent]), hlog, hanswer]

/-- Wherever purges come into a run, also between the events of lookups, the other events are
answered as without them, and the counters are the same; only the size may differ. -/
theorem run_filter_purge (capacity : Nat) (timeToLive : Option Nat)
    (events : List (CacheEvent κ β ε)) :
    let (log, shared) := run events (ofCapacity capacity timeToLive)
    let (plainLog, plain) :=
      run (events.filter fun event => !event.isPurge) (ofCapacity capacity timeToLive)
    log.filter (fun entry => !entry.1.isPurge) = plainLog ∧
      { shared.cache.stats with size := plain.cache.size } = plain.cache.stats := by
  have hkept := Cache.kept_ofCapacity (κ := κ) (β := β) capacity timeToLive
  have hstart : (ofCapacity capacity timeToLive : SharedCache κ β).Alike
      (ofCapacity capacity timeToLive) := ⟨hkept, hkept, .refl _, fun _ _ => rfl⟩
  obtain ⟨hlog, hlast⟩ := hstart.run events
  exact ⟨hlog, hlast.cache.stats_eq⟩

end SharedCache

/-! ## The janitor -/

namespace Janitor

theorem runUntil_alike (deadline fuel : Nat) (janitor : Janitor) (cache : Cache κ β)
    (h : cache.now ≤ deadline) :
    ∃ milliseconds, cache.now + milliseconds ≤ deadline ∧
      (cache.advance milliseconds).Alike (runUntil deadline fuel janitor cache).2 := by
  induction fuel generalizing janitor cache with
  | zero => exact ⟨0, h, .refl _⟩
  | succ fuel ih =>
      simp only [runUntil]
      split
      · exact ⟨0, h, .refl _⟩
      next hdue =>
        generalize htick : max (janitor.due.getD cache.now) cache.now = tick at hdue ⊢
        have hpurged := Cache.alike_purge (cache.advance (tick - cache.now))
        have hnow := hpurged.now_eq
        have htime : cache.now + (tick - cache.now) = tick := by omega
        rw [show (cache.advance (tick - cache.now)).now = tick from htime] at hnow
        obtain ⟨milliseconds, hend, halike⟩ := ih
          { janitor with due := some (janitor.nextDue (janitor.due.getD cache.now) tick) }
          (cache.advance (tick - cache.now)).purge.2 (by omega)
        refine ⟨tick - cache.now + milliseconds, by omega, ?_⟩
        have hsplit : cache.advance (tick - cache.now + milliseconds) =
            (cache.advance (tick - cache.now)).advance milliseconds := by
          simp [Cache.advance, Nat.add_assoc]
        rw [hsplit]
        exact (hpurged.advance milliseconds).trans halike

/-- While a janitor works a cache is like one that is left alone. -/
theorem sleep_alike (janitor : Janitor) (cache : Cache κ β) (milliseconds : Nat) :
    (cache.advance milliseconds).Alike (janitor.sleep cache milliseconds).2 := by
  by_cases hperiod : janitor.period = 0
  · simp only [sleep, if_pos hperiod]
    exact .refl _
  · simp only [sleep, if_neg hperiod]
    obtain ⟨passed, hend, halike⟩ := runUntil_alike (cache.now + milliseconds)
      (milliseconds / janitor.period + 2) janitor cache (Nat.le_add_right _ _)
    have hnow := halike.now_eq
    generalize runUntil (cache.now + milliseconds) (milliseconds / janitor.period + 2) janitor
      cache = last at halike hnow ⊢
    have hlast : last.2.now = cache.now + passed := hnow
    have hsplit : cache.advance milliseconds =
        (cache.advance passed).advance (cache.now + milliseconds - last.2.now) := by
      simp only [Cache.advance]
      congr 1
      omega
    rw [hsplit]
    exact halike.advance _

end Janitor

end AccessGateway
