import AccessGateway.Proofs.Directory.PoolRuns
import Mathlib.Data.List.Nodup

/-!
# The bound of a pool, between the steps of its calls

A step of the pool takes a permit and a connection at once, and gives both back at
once.  To other calls these are two moments each: a call first takes its permit and
then looks for an idle connection, and it gives its connection back, or drops it,
before its permit.  Others may do anything in between.

With the permits that are on their way counted as free, such a run is a run of the
pool, so what holds of every run of the pool bounds the connections at every moment.
A caller that goes away in the midst of a call leaves the pool as a failure does.
-/

namespace AccessGateway

/-! ## Moments -/

structure PoolMoment where
  pool : DirectoryPool
  /-- The calls that have a permit and have not yet looked for an idle connection. -/
  looking : List Nat := []
  /-- The calls that have ended and still have their permit. -/
  leaving : List Nat := []

inductive MomentEvent where
  | arrival (request : DirectoryRequest)
  | admitted (n : Nat)
  | looked (n : Nat)
  | happens (n : Nat) (event : CallEvent)
  | released (n : Nat)
  deriving DecidableEq, Repr

/-- The event of the pool behind an event of a moment. -/
def MomentEvent.pooled? : MomentEvent → Option PoolEvent
  | .arrival request => some (.arrival request)
  | .looked n => some (.happens n .granted)
  | .happens n event => some (.happens n event)
  | .admitted _ | .released _ => none

namespace DirectoryPool

/-- The pool with more permits that are free. -/
def withFree (pool : DirectoryPool) (count : Nat) : DirectoryPool :=
  { pool with permits := pool.permits + count }

/-- The connections that calls hold. -/
def held (pool : DirectoryPool) : List DirectoryConnection :=
  pool.calls.filterMap (·.phase.connection?)

end DirectoryPool

namespace PoolMoment

def ofSettings (settings : DirectorySettings) : PoolMoment where
  pool := .ofSettings settings

/-- A call that waits takes a free permit. -/
def admit? (moment : PoolMoment) (n : Nat) : Option PoolMoment :=
  match moment.pool.calls[n]? with
  | some { phase := .waiting, .. } =>
    if n ∈ moment.looking ∨ moment.pool.permits = 0 then none
    else
      some { moment with
        pool := { moment.pool with permits := moment.pool.permits - 1 }
        looking := n :: moment.looking }
  | _ => none

/-- A call with a permit takes an idle connection or starts to open one. -/
def look? (moment : PoolMoment) (n : Nat) : Option PoolMoment :=
  if n ∈ moment.looking then
    -- the permit that the step takes is the one the call has
    ((moment.pool.withFree 1).step? n .granted).map fun pool =>
      { moment with pool := pool, looking := moment.looking.erase n }
  else none

/-- Something else happens to a call; if it ends with a permit, it still has it. -/
def proceed? (moment : PoolMoment) (n : Nat) (event : CallEvent) : Option PoolMoment :=
  if n ∈ moment.looking ∨ event = .granted then none
  else
    (moment.pool.step? n event).map fun pool =>
      if moment.pool.permits < pool.permits then
        { moment with
          pool := { pool with permits := moment.pool.permits }
          leaving := n :: moment.leaving }
      else { moment with pool := pool }

/-- A call that has ended gives its permit back. -/
def release? (moment : PoolMoment) (n : Nat) : Option PoolMoment :=
  if n ∈ moment.leaving then
    some { moment with pool := moment.pool.withFree 1, leaving := moment.leaving.erase n }
  else none

def after? (moment : PoolMoment) : MomentEvent → Option PoolMoment
  | .arrival request => some { moment with pool := moment.pool.arrive request }
  | .admitted n => moment.admit? n
  | .looked n => moment.look? n
  | .happens n event => moment.proceed? n event
  | .released n => moment.release? n

def run? (moment : PoolMoment) : List MomentEvent → Option PoolMoment
  | [] => some moment
  | event :: events =>
    match moment.after? event with
    | none => none
    | some after => after.run? events

/-- The pool with the permits that are on their way counted as free. -/
def settled (moment : PoolMoment) : DirectoryPool :=
  moment.pool.withFree (moment.looking.length + moment.leaving.length)

/-- No call has begun that has not ended and given its permit back. -/
structure Quiet (moment : PoolMoment) : Prop where
  ended : ∀ call ∈ moment.pool.calls, call.phase.isRunning = false
  released : moment.leaving = []

end PoolMoment

namespace DirectoryPool

variable {pool after : DirectoryPool} {n : Nat} {call : DirectoryCall} {event : CallEvent}

/-! ## More permits than a step needs -/

theorem withFree_withFree (pool : DirectoryPool) (first second : Nat) :
    (pool.withFree first).withFree second = pool.withFree (first + second) := by
  simp only [withFree, Nat.add_assoc]

theorem finish_withFree (pool : DirectoryPool) (count n : Nat) (call : DirectoryCall)
    (returned : Option DirectoryConnection) (result : Except DirectoryError DirectoryAnswer) :
    (pool.withFree count).finish n call returned result =
      (pool.finish n call returned result).withFree count := by
  simp only [finish, withFree, Nat.add_right_comm]

theorem answered_withFree (pool : DirectoryPool) (count n : Nat) (call : DirectoryCall)
    (connection : DirectoryConnection) (code : Nat) (text : String) (names : List String) :
    (pool.withFree count).answered n call connection code text names =
      (pool.answered n call connection code text names).withFree count := by
  unfold answered
  split
  next base filter _ =>
    split
    · exact finish_withFree ..
    · exact finish_withFree ..
  next name password _ =>
    dsimp only
    split
    · rfl
    · split
      · rfl
      · exact finish_withFree ..

theorem failed_withFree {operation : String} (count : Nat)
    (h : (failure? operation event).map (fun e => pool.finish n call none (.error e)) =
      some after) :
    (failure? operation event).map (fun e => (pool.withFree count).finish n call none (.error e)) =
      some (after.withFree count) := by
  obtain ⟨e, hfailure, rfl⟩ := Option.map_eq_some_iff.mp h
  rw [hfailure, Option.map_some, finish_withFree]

/-- What can happen to a call can happen with more permits that are free, and leaves them. -/
theorem step?_withFree (h : pool.step? n event = some after) (count : Nat) :
    (pool.withFree count).step? n event = some (after.withFree count) := by
  have hcalls : (pool.withFree count).calls = pool.calls := rfl
  unfold step? at h ⊢
  rw [hcalls]
  split at h
  next => cases h
  next call hcall =>
    -- splitting the match of the hypothesis reduces the one of the goal
    split at h
    next hphase =>
      split at h
      next => cases h
      next hpermits =>
        have hmore : (pool.withFree count).permits ≠ 0 := by
          show pool.permits + count ≠ 0
          omega
        have htaken : (pool.withFree count).permits - 1 = pool.permits - 1 + count := by
          show pool.permits + count - 1 = _
          omega
        have hidle : (pool.withFree count).idle = pool.idle := rfl
        simp only [if_neg hmore, htaken, hidle]
        dsimp only at h
        split at h
        next =>
          cases h
          rfl
        next connection rest _ =>
          cases h
          rfl
    next hphase =>
      cases h
      rfl
    next hphase =>
      cases h
      rfl
    next reason hphase =>
      cases h
      exact congrArg some (finish_withFree ..)
    next connection code text names hphase =>
      dsimp only at h ⊢
      split at h
      next hcode =>
        cases h
        rw [if_pos hcode]
        rfl
      next hcode =>
        cases h
        rw [if_neg hcode, finish_withFree]
    next connection code text names hphase =>
      cases h
      exact congrArg some (answered_withFree ..)
    next connection outcome code text names hphase =>
      dsimp only at h ⊢
      split at h
      next hcode =>
        cases h
        rw [if_pos hcode, finish_withFree]
        rfl
      next hcode =>
        cases h
        rw [if_neg hcode, finish_withFree]
    next connection hphase _ => exact failed_withFree count h
    next connection outcome hphase _ => exact failed_withFree count h
    next connection hphase _ => exact failed_withFree count h
    next => cases h

/-! ## What bounds the connections -/

/-- Every permit is free or held by a call, and no more connections are idle than permits are
free to take them. -/
structure Permitted (pool : DirectoryPool) : Prop where
  permits_add_holders : pool.permits + pool.calls.countP (·.phase.holdsPermit) = pool.limit
  idle_le_permits : pool.idle.length ≤ pool.permits

theorem holdsPermit_of_held {phase : CallPhase} (h : phase.connection?.isSome = true) :
    phase.holdsPermit = true := by
  cases phase <;> first | rfl | cases h

/-- A call gets its permit and a connection together, and gives them back together. -/
theorem Change.exists_phase_permits (h : Change pool n call event after) :
    ∃ phase, after.calls = setPhase pool.calls n call phase ∧ after.limit = pool.limit ∧
      after.permits + (if phase.holdsPermit then 1 else 0) =
        pool.permits + (if call.phase.holdsPermit then 1 else 0) ∧
      (pool.idle.length ≤ pool.permits → after.idle.length ≤ after.permits) := by
  cases h with
  | dial hphase hpermits hidle =>
      refine ⟨_, rfl, rfl, ?_, ?_⟩
      · simp only [move, hphase, CallPhase.holdsPermit]
        simp only [if_true, Bool.false_eq_true, if_false]
        omega
      · simp [move, hidle]
  | take hphase hpermits hidle =>
      refine ⟨_, rfl, rfl, ?_, ?_⟩
      · simp only [move, hphase, CallPhase.holdsPermit]
        simp only [if_true, Bool.false_eq_true, if_false]
        omega
      · simp only [move, hidle, List.length_cons]
        omega
  | giveUp hphase | connect hphase | enroll _ _ hphase | bind _ _ _ hphase =>
      exact ⟨_, rfl, rfl, by simp [move, hphase, CallPhase.holdsPermit], id⟩
  | unreachable _ hphase | find _ _ hphase | restore _ _ hphase =>
      refine ⟨_, rfl, rfl, by simp [finish, hphase, CallPhase.holdsPermit], ?_⟩
      simp only [finish, Option.toList_none, Option.toList_some, List.length_append,
        List.length_nil, List.length_singleton]
      omega
  | drop hheld hfails =>
      have hpermit : call.phase.holdsPermit = true :=
        holdsPermit_of_held (by rw [hheld]; rfl)
      rw [hpermit]
      refine ⟨_, rfl, rfl, rfl, ?_⟩
      simp only [finish, Option.toList_none, List.nil_append]
      omega

theorem Permitted.change (hpermitted : Permitted pool) (h : Change pool n call event after)
    (hcall : pool.calls[n]? = some call) : Permitted after := by
  obtain ⟨phase, hcalls, hlimit, hpermits, hidle⟩ := h.exists_phase_permits
  have hcount := countP_setPhase (·.holdsPermit) hcall phase
  have hbalance := hpermitted.permits_add_holders
  refine ⟨?_, hidle hpermitted.idle_le_permits⟩
  rw [hcalls, hlimit]
  omega

theorem permitted_of_run? {settings : DirectorySettings} {events : List PoolEvent}
    (h : (ofSettings settings).run? events = some pool) :
    Permitted pool ∧ pool.limit = max settings.poolSize 1 := by
  refine run?_induction
    (motive := fun _ later => Permitted later ∧ later.limit = max settings.poolSize 1)
    ⟨⟨rfl, Nat.zero_le _⟩, rfl⟩ ?_ ?_ h
  · rintro events later request - ⟨hpermitted, hlimit⟩
    refine ⟨⟨?_, hpermitted.idle_le_permits⟩, hlimit⟩
    have hbalance := hpermitted.permits_add_holders
    simpa [arrive, List.countP_append, CallPhase.holdsPermit] using hbalance
  · rintro events later n call event after - ⟨hpermitted, hlimit⟩ hcall hchange
    obtain ⟨-, -, hsame, -⟩ := hchange.exists_phase_permits
    exact ⟨hpermitted.change hchange hcall, hsame.trans hlimit⟩

theorem Permitted.length_le (h : Permitted pool) :
    pool.idle.length + pool.held.length ≤ pool.limit := by
  have hheld : pool.held.length ≤ pool.calls.countP (·.phase.holdsPermit) := by
    rw [held, List.length_filterMap_eq_countP]
    exact List.countP_mono_left fun call _ hsome => holdsPermit_of_held hsome
  have hbalance := h.permits_add_holders
  have hidle := h.idle_le_permits
  omega

theorem Numbered.nodup (h : Numbered pool) :
    ((pool.idle ++ pool.held).map (·.number)).Nodup := by
  apply List.nodup_iff_count_le_one.mpr
  intro number
  have huses := h.uses_le_one number
  have hheld : (pool.held.map (·.number)).count number =
      pool.calls.countP (·.phase.holds number) := by
    rw [List.count, List.countP_map, held, List.countP_filterMap]
    apply List.countP_congr
    intro call _
    rw [CallPhase.holds]
    cases call.phase.connection? <;> simp
  have hidle : (pool.idle.map (·.number)).count number =
      pool.idle.countP (·.number == number) := by
    rw [List.count, List.countP_map]
    rfl
  rw [List.map_append, List.count_append, hheld, hidle]
  exact huses

/-- Nothing but a grant takes a permit, and no call gives back more than one. -/
theorem permits_of_step? (h : pool.step? n event = some after) (hother : event ≠ .granted) :
    after.permits = pool.permits ∨ after.permits = pool.permits + 1 := by
  obtain ⟨call, -, hchange⟩ := change_of_step? h
  cases hchange with
  | dial | take => exact absurd rfl hother
  | giveUp | connect | enroll | bind => exact .inl rfl
  | unreachable | find | restore | drop => exact .inr rfl

/-- The other calls stay as they are. -/
theorem getElem?_of_step? (h : pool.step? n event = some after) {m : Nat} (hne : m ≠ n) :
    after.calls[m]? = pool.calls[m]? := by
  obtain ⟨call, -, hchange⟩ := change_of_step? h
  obtain ⟨phase, hcalls⟩ := hchange.exists_phase
  rw [hcalls, setPhase, List.getElem?_set_ne hne.symm]

end DirectoryPool

namespace PoolMoment

open DirectoryPool

variable {moment later : PoolMoment} {n : Nat}

/-! ## The run of the pool behind a run of moments -/

theorem settled_of_admit? (h : moment.admit? n = some later) : later.settled = moment.settled := by
  unfold admit? at h
  split at h
  next =>
    split at h
    next => cases h
    next hfree =>
      cases h
      obtain ⟨-, hpermits⟩ := not_or.mp hfree
      simp only [settled, withFree, List.length_cons, DirectoryPool.mk.injEq, true_and, and_true]
      omega
  next => cases h

theorem settled_of_release? (h : moment.release? n = some later) :
    later.settled = moment.settled := by
  unfold release? at h
  split at h
  next hleaving =>
    cases h
    have hpos : 0 < moment.leaving.length := List.length_pos_of_mem hleaving
    simp only [settled, withFree_withFree, List.length_erase_of_mem hleaving]
    congr 1
    omega
  next => cases h

theorem settled_of_look? (h : moment.look? n = some later) :
    moment.settled.step? n .granted = some later.settled := by
  unfold look? at h
  split at h
  next hlooking =>
    obtain ⟨pool, hstep, rfl⟩ := Option.map_eq_some_iff.mp h
    have hpos : 0 < moment.looking.length := List.length_pos_of_mem hlooking
    have hmore := step?_withFree hstep ((moment.looking.erase n).length + moment.leaving.length)
    rw [withFree_withFree, List.length_erase_of_mem hlooking] at hmore
    simp only [settled, List.length_erase_of_mem hlooking]
    rw [← hmore]
    congr 2
    omega
  next => cases h

theorem settled_of_proceed? {event : CallEvent} (h : moment.proceed? n event = some later) :
    moment.settled.step? n event = some later.settled := by
  unfold proceed? at h
  split at h
  next => cases h
  next hcan =>
    obtain ⟨-, hother⟩ := not_or.mp hcan
    obtain ⟨pool, hstep, rfl⟩ := Option.map_eq_some_iff.mp h
    rw [settled, step?_withFree hstep]
    split
    next hmore =>
      -- the permit that the step gave back is counted among those on their way
      have hone : pool.permits = moment.pool.permits + 1 := by
        have hpermits := permits_of_step? hstep hother
        omega
      simp only [settled, withFree, hone, List.length_cons, Option.some.injEq,
        DirectoryPool.mk.injEq, true_and, and_true]
      omega
    next => rfl

/-- What happens in a moment happens to the pool, or only moves a permit. -/
theorem run?_pooled?_of_after? {event : MomentEvent} (h : moment.after? event = some later) :
    moment.settled.run? event.pooled?.toList = some later.settled := by
  cases event with
  | arrival request =>
      cases h
      rfl
  | admitted n => exact congrArg some (settled_of_admit? h).symm
  | looked n =>
      have hstep : moment.settled.after? (.happens n .granted) = some later.settled :=
        settled_of_look? h
      simp [MomentEvent.pooled?, DirectoryPool.run?, hstep]
  | happens n event =>
      have hstep : moment.settled.after? (.happens n event) = some later.settled :=
        settled_of_proceed? h
      simp [MomentEvent.pooled?, DirectoryPool.run?, hstep]
  | released n => exact congrArg some (settled_of_release? h).symm

/-- A run of moments is a run of the pool. -/
theorem run?_pooled?_of_run? {events : List MomentEvent} (h : moment.run? events = some later) :
    moment.settled.run? (events.filterMap (·.pooled?)) = some later.settled := by
  induction events generalizing moment with
  | nil =>
      cases h
      rfl
  | cons event events ih =>
      unfold run? at h
      split at h
      next => cases h
      next after hafter =>
        have hsplit : (event :: events).filterMap (·.pooled?) =
            event.pooled?.toList ++ events.filterMap (·.pooled?) := by
          cases hpooled : event.pooled? <;> simp [hpooled]
        rw [hsplit, DirectoryPool.run?_append, run?_pooled?_of_after? hafter, Option.bind_some]
        exact ih h

/-! ## The calls that have a permit and no connection -/

/-- A call that is about to look for a connection waits, and looks once. -/
structure Orderly (moment : PoolMoment) : Prop where
  nodup : moment.looking.Nodup
  waits : ∀ n ∈ moment.looking, ∃ call, moment.pool.calls[n]? = some call ∧ call.phase = .waiting

theorem Orderly.arrive (h : Orderly moment) (request : DirectoryRequest) :
    Orderly { moment with pool := moment.pool.arrive request } := by
  refine ⟨h.nodup, fun n hn => ?_⟩
  obtain ⟨call, hcall, hwaits⟩ := h.waits n hn
  have hlt : n < moment.pool.calls.length := (List.getElem?_eq_some_iff.mp hcall).1
  refine ⟨call, ?_, hwaits⟩
  rw [DirectoryPool.arrive, List.getElem?_append_left hlt, hcall]

theorem Orderly.admit? (horderly : Orderly moment) (h : moment.admit? n = some later) :
    Orderly later := by
  unfold PoolMoment.admit? at h
  split at h
  next request hcall =>
    split at h
    next => cases h
    next hfree =>
      cases h
      obtain ⟨hnew, -⟩ := not_or.mp hfree
      refine ⟨List.nodup_cons.mpr ⟨hnew, horderly.nodup⟩, ?_⟩
      rintro m (_ | ⟨_, hm⟩)
      · exact ⟨_, hcall, rfl⟩
      · exact horderly.waits m hm
  next => cases h

/-- What happens to one call leaves the others about to look. -/
theorem Orderly.step {pool after : DirectoryPool} {event : CallEvent} {looking leaving : List Nat}
    (h : pool.step? n event = some after) (hnodup : looking.Nodup)
    (hwaits : ∀ m ∈ looking, m ≠ n ∧ ∃ call, pool.calls[m]? = some call ∧ call.phase = .waiting)
    {permits : Nat} : Orderly ⟨{ after with permits := permits }, looking, leaving⟩ := by
  refine ⟨hnodup, fun m hm => ?_⟩
  obtain ⟨hne, call, hcall, hphase⟩ := hwaits m hm
  exact ⟨call, (getElem?_of_step? h hne).trans hcall, hphase⟩

theorem Orderly.look? (horderly : Orderly moment) (h : moment.look? n = some later) :
    Orderly later := by
  unfold PoolMoment.look? at h
  split at h
  next =>
    obtain ⟨pool, hstep, rfl⟩ := Option.map_eq_some_iff.mp h
    refine Orderly.step hstep (horderly.nodup.erase n) fun m hm => ?_
    obtain ⟨hne, hlooking⟩ := horderly.nodup.mem_erase_iff.mp hm
    exact ⟨hne, horderly.waits m hlooking⟩
  next => cases h

theorem Orderly.proceed? {event : CallEvent} (horderly : Orderly moment)
    (h : moment.proceed? n event = some later) : Orderly later := by
  unfold PoolMoment.proceed? at h
  split at h
  next => cases h
  next hcan =>
    obtain ⟨hidle, -⟩ := not_or.mp hcan
    obtain ⟨pool, hstep, rfl⟩ := Option.map_eq_some_iff.mp h
    have hwaits : ∀ m ∈ moment.looking,
        m ≠ n ∧ ∃ call, moment.pool.calls[m]? = some call ∧ call.phase = .waiting := by
      intro m hm
      exact ⟨fun hmn => hidle (hmn ▸ hm), horderly.waits m hm⟩
    split
    · exact Orderly.step hstep horderly.nodup hwaits
    · exact Orderly.step hstep horderly.nodup hwaits

theorem Orderly.after? {event : MomentEvent} (horderly : Orderly moment)
    (h : moment.after? event = some later) : Orderly later := by
  cases event with
  | arrival request =>
      cases h
      exact horderly.arrive request
  | admitted n => exact horderly.admit? h
  | looked n => exact horderly.look? h
  | happens n event => exact horderly.proceed? h
  | released n =>
      simp only [PoolMoment.after?, release?] at h
      split at h
      · cases h
        exact ⟨horderly.nodup, horderly.waits⟩
      · cases h

theorem Orderly.run? {events : List MomentEvent} (horderly : Orderly moment)
    (h : moment.run? events = some later) : Orderly later := by
  induction events generalizing moment with
  | nil =>
      cases h
      exact horderly
  | cons event events ih =>
      unfold PoolMoment.run? at h
      split at h
      next => cases h
      next after hafter => exact ih (horderly.after? hafter) h

theorem Orderly.looking_eq_nil (h : Orderly moment) (hquiet : moment.Quiet) :
    moment.looking = [] := by
  apply List.eq_nil_iff_forall_not_mem.mpr
  intro n hn
  obtain ⟨call, hcall, hwaits⟩ := h.waits n hn
  have hended := hquiet.ended call (List.mem_of_getElem? hcall)
  rw [hwaits] at hended
  cases hended

theorem Quiet.countP_eq_zero (h : moment.Quiet) :
    moment.pool.calls.countP (·.phase.holdsPermit) = 0 := by
  apply List.countP_eq_zero.mpr
  intro call hcall hholds
  have hended := h.ended call hcall
  cases hphase : call.phase <;> simp [hphase, CallPhase.holdsPermit, CallPhase.isRunning] at *

/-! ## The bound -/

/-- However the calls interleave and whatever the server does: idle connections and those that
calls hold are never more than the pool's size, no connection is in two places, and when no call
is in progress every permit is free. -/
theorem run_stays_bounded {settings : DirectorySettings} {events : List MomentEvent}
    (h : (ofSettings settings).run? events = some later) :
    later.pool.idle.length + later.pool.held.length ≤ max settings.poolSize 1 ∧
      ((later.pool.idle ++ later.pool.held).map (·.number)).Nodup ∧
        (later.Quiet → later.pool.permits = max settings.poolSize 1) := by
  have hrun : (DirectoryPool.ofSettings settings).run? (events.filterMap (·.pooled?)) =
      some later.settled := run?_pooled?_of_run? h
  obtain ⟨hpermitted, hlimit⟩ := permitted_of_run? hrun
  refine ⟨hlimit ▸ hpermitted.length_le, (numbered_of_run? hrun).nodup, fun hquiet => ?_⟩
  have hstart : Orderly (ofSettings settings) :=
    ⟨List.nodup_nil, fun _ hn => absurd hn List.not_mem_nil⟩
  have horderly := hstart.run? h
  have hbalance := hpermitted.permits_add_holders
  have hcount : later.settled.calls.countP (·.phase.holdsPermit) = 0 := hquiet.countP_eq_zero
  have hpermits : later.settled.permits = later.pool.permits := by
    rw [settled, horderly.looking_eq_nil hquiet, hquiet.released]
    rfl
  omega

/-- One call waits too long, one is served, one gets its connection and no answer. -/
theorem run_stays_bounded_of_single :
    let settings : DirectorySettings :=
      { url := "ldap://127.0.0.1:1", baseDn := "OU=Users,DC=example,DC=com"
        bindDn := "CN=svc,DC=example,DC=com", bindPassword := "svc-password", poolSize := 0 }
    let events : List MomentEvent :=
      [.arrival (.search "OU=Users,DC=example,DC=com" "(uid=alice)"),
        .arrival (.bind "CN=Bob,OU=Users,DC=example,DC=com" "secret"), .admitted 0, .looked 0,
        .happens 1 .waitedTooLong, .happens 0 .connected, .happens 0 (.replied 0 "" []),
        .happens 0 (.replied 0 "" []), .arrival (.search "OU=Users,DC=example,DC=com" "(uid=bob)"),
        .released 0, .admitted 2, .looked 2, .happens 2 .silent, .released 2]
    ∃ last, (ofSettings settings).run? events = some last ∧ last.pool.permits = 1 := by
  intro settings events
  have hrun : (ofSettings settings).run? events = some _ := rfl
  obtain ⟨-, -, hfree⟩ := run_stays_bounded hrun
  exact ⟨_, hrun, hfree ⟨by decide, rfl⟩⟩

end PoolMoment

end AccessGateway
