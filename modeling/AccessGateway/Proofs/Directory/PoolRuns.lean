import AccessGateway.Directory.Remote

/-!
# What can happen to a pool of directory connections

A step that is possible is one of ten changes, and every change moves one call to
another phase.  Connections are counted by their numbers: a connection is opened
under a number of its own, it is idle or held by one call, and when a call drops
it its number does not come back.
-/

namespace AccessGateway

/-- The code with which a server answers a bind that has this outcome. -/
def BindOutcome.code : BindOutcome → Nat
  | .accepted => ResultCode.success
  | .rejected => ResultCode.invalidCredentials

namespace DirectoryCall

/-- An event is a failed step of a call.  A user's bind with a wrong password has not failed: it
was answered. -/
def fails (call : DirectoryCall) : CallEvent → Bool
  | .granted | .connected => false
  | .replied code _ _ =>
    match call.phase, call.request with
    | .working _, .bind .. => code != ResultCode.success && code != ResultCode.invalidCredentials
    | _, _ => code != ResultCode.success
  | .waitedTooLong | .connectFailed _ | .broken _ | .refused _ | .silent => true

end DirectoryCall

namespace CallPhase

/-- A call in this phase holds the connection with a number. -/
def holds (phase : CallPhase) (number : Nat) : Bool :=
  phase.connection?.any (·.number == number)

theorem holds_eq {phase : CallPhase} {connection : DirectoryConnection}
    (h : phase.connection? = some connection) (number : Nat) :
    phase.holds number = (connection.number == number) := by
  rw [holds, h]
  rfl

variable (number : Nat) (connection : DirectoryConnection)

@[simp] theorem holds_waiting : waiting.holds number = false := rfl

@[simp] theorem holds_connecting : connecting.holds number = false := rfl

@[simp] theorem holds_admitting :
    (admitting connection).holds number = (connection.number == number) := rfl

@[simp] theorem holds_working :
    (working connection).holds number = (connection.number == number) := rfl

@[simp] theorem holds_restoring (outcome : BindOutcome) :
    (restoring connection outcome).holds number = (connection.number == number) := rfl

@[simp] theorem holds_finished (result : Except DirectoryError DirectoryAnswer) :
    (finished result).holds number = false := rfl

end CallPhase

@[simp] theorem DirectoryConnection.number_record (connection : DirectoryConnection)
    (name password : String) (code : Nat) :
    (connection.record name password code).number = connection.number := rfl

namespace DirectoryPool

variable {pool after : DirectoryPool} {n : Nat} {call : DirectoryCall} {event : CallEvent}

/-- The connection after the service account has been bound on it. -/
def admitted (pool : DirectoryPool) (connection : DirectoryConnection) : DirectoryConnection :=
  connection.record pool.serviceName pool.servicePassword ResultCode.success

/-- How one of the calls goes on. -/
inductive Change (pool : DirectoryPool) (n : Nat) (call : DirectoryCall) :
    CallEvent → DirectoryPool → Prop where
  | dial (hphase : call.phase = .waiting) (hpermits : pool.permits ≠ 0) (hidle : pool.idle = []) :
    Change pool n call .granted
      ({ pool with permits := pool.permits - 1 }.move n call .connecting)
  | take {connection : DirectoryConnection} {rest : List DirectoryConnection}
    (hphase : call.phase = .waiting) (hpermits : pool.permits ≠ 0)
    (hidle : pool.idle = connection :: rest) :
    Change pool n call .granted
      ({ pool with permits := pool.permits - 1, idle := rest }.move n call (.working connection))
  | giveUp (hphase : call.phase = .waiting) :
    Change pool n call .waitedTooLong
      (pool.move n call (.finished (.error (.timeout "waiting for a pooled connection"))))
  | connect (hphase : call.phase = .connecting) :
    Change pool n call .connected
      ({ pool with opened := pool.opened + 1 }.move n call
        (.admitting { number := pool.opened + 1 }))
  | unreachable (reason : String) (hphase : call.phase = .connecting) :
    Change pool n call (.connectFailed reason)
      (pool.finish n call none (.error (.unavailable reason)))
  | enroll {connection : DirectoryConnection} (text : String) (names : List String)
    (hphase : call.phase = .admitting connection) :
    Change pool n call (.replied ResultCode.success text names)
      (pool.move n call (.working (pool.admitted connection)))
  | find {connection : DirectoryConnection} {base filter : String} (text : String)
    (names : List String) (hphase : call.phase = .working connection)
    (hrequest : call.request = .search base filter) :
    Change pool n call (.replied ResultCode.success text names)
      (pool.finish n call (some connection) (.ok (.names names)))
  | bind {connection : DirectoryConnection} {name password : String} (outcome : BindOutcome)
    (text : String) (names : List String) (hphase : call.phase = .working connection)
    (hrequest : call.request = .bind name password) :
    Change pool n call (.replied outcome.code text names)
      (pool.move n call (.restoring (connection.record name password outcome.code) outcome))
  | restore {connection : DirectoryConnection} {outcome : BindOutcome} (text : String)
    (names : List String) (hphase : call.phase = .restoring connection outcome) :
    Change pool n call (.replied ResultCode.success text names)
      (pool.finish n call (some (pool.admitted connection)) (.ok (.bound outcome)))
  | drop {event : CallEvent} {connection : DirectoryConnection} {e : DirectoryError}
    (hheld : call.phase.connection? = some connection) (hfails : call.fails event = true) :
    Change pool n call event (pool.finish n call none (.error e))

/-! ## The inversion of a step -/

theorem Change.of_failure? {operation : String} {connection : DirectoryConnection}
    (hheld : call.phase.connection? = some connection)
    (h : (failure? operation event).map (fun e => pool.finish n call none (.error e)) =
      some after) : Change pool n call event after := by
  cases event <;> cases h <;> exact .drop hheld rfl

theorem Change.of_answered {connection : DirectoryConnection} (code : Nat) (text : String)
    (names : List String) (hphase : call.phase = .working connection) :
    Change pool n call (.replied code text names)
      (pool.answered n call connection code text names) := by
  have hheld : call.phase.connection? = some connection := by rw [hphase]; rfl
  unfold answered
  split
  next base filter hrequest =>
    split
    next hcode =>
      subst hcode
      exact .find text names hphase hrequest
    next hcode =>
      exact .drop hheld (by simp [DirectoryCall.fails, hphase, hrequest, hcode])
  next name password hrequest =>
    dsimp only
    split
    next hcode =>
      subst hcode
      exact .bind .accepted text names hphase hrequest
    next hcode =>
      split
      next hrejected =>
        subst hrejected
        exact .bind .rejected text names hphase hrequest
      next hrejected =>
        exact .drop hheld (by simp [DirectoryCall.fails, hphase, hrequest, hcode, hrejected])

theorem change_of_step? (h : pool.step? n event = some after) :
    ∃ call, pool.calls[n]? = some call ∧ Change pool n call event after := by
  unfold step? at h
  split at h
  next => cases h
  next call hcall =>
    refine ⟨call, hcall, ?_⟩
    split at h
    next hphase =>
      split at h
      next => cases h
      next hpermits =>
        dsimp only at h
        split at h
        next hidle =>
          cases h
          exact .dial hphase hpermits hidle
        next connection rest hidle =>
          cases h
          exact .take hphase hpermits hidle
    next hphase =>
      cases h
      exact .giveUp hphase
    next hphase =>
      cases h
      exact .connect hphase
    next reason hphase =>
      cases h
      exact .unreachable reason hphase
    next connection code text names hphase =>
      dsimp only at h
      split at h
      next hcode =>
        cases h
        subst hcode
        exact .enroll text names hphase
      next hcode =>
        cases h
        exact .drop (by rw [hphase]; rfl) (by simp [DirectoryCall.fails, hphase, hcode])
    next connection code text names hphase =>
      cases h
      exact .of_answered code text names hphase
    next connection outcome code text names hphase =>
      dsimp only at h
      split at h
      next hcode =>
        cases h
        subst hcode
        exact .restore text names hphase
      next hcode =>
        cases h
        exact .drop (by rw [hphase]; rfl) (by simp [DirectoryCall.fails, hphase, hcode])
    next connection hphase _ => exact .of_failure? (by rw [hphase]; rfl) h
    next connection outcome hphase _ => exact .of_failure? (by rw [hphase]; rfl) h
    next connection hphase _ => exact .of_failure? (by rw [hphase]; rfl) h
    next => cases h

/-! ## What every change leaves -/

namespace Change

theorem exists_phase (h : Change pool n call event after) :
    ∃ phase, after.calls = setPhase pool.calls n call phase := by
  cases h <;> exact ⟨_, rfl⟩

theorem isRunning (h : Change pool n call event after) : call.phase.isRunning = true := by
  cases h with
  | drop hheld hfails =>
      cases hphase : call.phase with
      | finished result => simp [hphase, CallPhase.connection?] at hheld
      | _ => rfl
  | dial hphase | take hphase | giveUp hphase | connect hphase | unreachable _ hphase
  | enroll _ _ hphase | find _ _ hphase | bind _ _ _ hphase | restore _ _ hphase =>
      rw [hphase]
      rfl

theorem serviceName_eq (h : Change pool n call event after) :
    after.serviceName = pool.serviceName := by
  cases h <;> rfl

theorem servicePassword_eq (h : Change pool n call event after) :
    after.servicePassword = pool.servicePassword := by
  cases h <;> rfl

theorem opened_le (h : Change pool n call event after) : pool.opened ≤ after.opened := by
  cases h with
  | connect => exact Nat.le_succ _
  | _ => exact Nat.le_refl _

/-- A call that has ended stays as it is. -/
theorem getElem?_of_finished (h : Change pool n call event after)
    (hcall : pool.calls[n]? = some call) {m : Nat} {ended : DirectoryCall}
    {result : Except DirectoryError DirectoryAnswer} (hended : pool.calls[m]? = some ended)
    (hphase : ended.phase = .finished result) : after.calls[m]? = some ended := by
  have hne : n ≠ m := by
    rintro rfl
    cases hcall.symm.trans hended
    have hrunning := h.isRunning
    rw [hphase] at hrunning
    cases hrunning
  obtain ⟨phase, hcalls⟩ := h.exists_phase
  rw [hcalls, setPhase, List.getElem?_set_ne hne, hended]

end Change

/-! ## Where a connection is -/

/-- In how many places a connection with a number is: among the idle ones or held by a call. -/
def uses (pool : DirectoryPool) (number : Nat) : Nat :=
  pool.idle.countP (·.number == number) + pool.calls.countP (·.phase.holds number)

/-- A call that comes to another phase is counted in that one. -/
theorem countP_setPhase (p : CallPhase → Bool) {calls : List DirectoryCall}
    (hcall : calls[n]? = some call) (phase : CallPhase) :
    (setPhase calls n call phase).countP (p ·.phase) + (if p call.phase then 1 else 0) =
      calls.countP (p ·.phase) + if p phase then 1 else 0 := by
  obtain ⟨hlt, rfl⟩ := List.getElem?_eq_some_iff.mp hcall
  have hpos : p calls[n].phase = true → 0 < calls.countP (p ·.phase) := by
    intro hp
    exact List.countP_pos_iff.mpr ⟨_, List.getElem_mem hlt, hp⟩
  rw [setPhase, List.countP_set hlt]
  dsimp only
  split <;> rename_i hp
  · have := hpos hp
    omega
  · omega

theorem uses_of_calls (hcall : pool.calls[n]? = some call) {phase : CallPhase}
    (hcalls : after.calls = setPhase pool.calls n call phase) (number : Nat) :
    after.uses number + (pool.idle.countP (·.number == number) +
        if call.phase.holds number then 1 else 0) =
      pool.uses number + (after.idle.countP (·.number == number) +
        if phase.holds number then 1 else 0) := by
  have hcount := countP_setPhase (·.holds number) hcall phase
  simp only [uses, hcalls]
  omega

theorem uses_pos_of_held (hcall : pool.calls[n]? = some call) {connection : DirectoryConnection}
    (hheld : call.phase.connection? = some connection) : 0 < pool.uses connection.number := by
  have hpos : 0 < pool.calls.countP (·.phase.holds connection.number) := by
    refine List.countP_pos_iff.mpr ⟨call, List.mem_of_getElem? hcall, ?_⟩
    rw [CallPhase.holds_eq hheld, BEq.rfl]
  unfold uses
  omega

/-- A change moves connections between a call and the idle ones; it adds none but the one it
opens. -/
theorem Change.exists_phase_le (h : Change pool n call event after) (number : Nat) :
    ∃ phase, after.calls = setPhase pool.calls n call phase ∧
      after.idle.countP (·.number == number) + (if phase.holds number then 1 else 0) ≤
        pool.idle.countP (·.number == number) + (if call.phase.holds number then 1 else 0) +
          if pool.opened < number ∧ number ≤ after.opened then 1 else 0 := by
  cases h with
  | take hphase hpermits hidle =>
      refine ⟨_, rfl, ?_⟩
      simp [move, hphase, hidle, List.countP_cons]
  | connect hphase =>
      refine ⟨_, rfl, ?_⟩
      have hopens : (if pool.opened + 1 == number then 1 else 0) ≤
          if pool.opened < number ∧ number ≤ pool.opened + 1 then 1 else 0 := by
        grind
      rw [hphase]
      exact Nat.add_le_add_left hopens _
  | dial hphase | giveUp hphase | enroll _ _ hphase | bind _ _ _ hphase =>
      refine ⟨_, rfl, ?_⟩
      simp [move, hphase, admitted]
  | unreachable _ hphase | find _ _ hphase | restore _ _ hphase =>
      refine ⟨_, rfl, ?_⟩
      simp [finish, hphase, admitted, List.countP_cons]
  | drop =>
      refine ⟨_, rfl, ?_⟩
      simp only [finish, Option.toList_none, List.nil_append, CallPhase.holds_finished,
        Bool.false_eq_true, if_false, Nat.add_zero]
      omega

/-- Only a connection that is opened adds to the uses of a number. -/
theorem Change.uses_le (h : Change pool n call event after) (hcall : pool.calls[n]? = some call)
    (number : Nat) :
    after.uses number ≤
      pool.uses number + if pool.opened < number ∧ number ≤ after.opened then 1 else 0 := by
  obtain ⟨phase, hcalls, hle⟩ := h.exists_phase_le number
  have huses := uses_of_calls hcall hcalls number
  omega

theorem uses_drop (hcall : pool.calls[n]? = some call) {connection : DirectoryConnection}
    (hheld : call.phase.connection? = some connection)
    (result : Except DirectoryError DirectoryAnswer) :
    (pool.finish n call none result).uses connection.number + 1 =
      pool.uses connection.number := by
  have hends : (pool.finish n call none result).calls =
      setPhase pool.calls n call (.finished result) := rfl
  have huses := uses_of_calls hcall hends connection.number
  simp only [CallPhase.holds_eq hheld, BEq.rfl, if_true, CallPhase.holds_finished,
    Bool.false_eq_true, if_false] at huses
  simp only [finish, Option.toList_none, List.nil_append] at huses ⊢
  omega

theorem uses_arrive (pool : DirectoryPool) (request : DirectoryRequest) (number : Nat) :
    (pool.arrive request).uses number = pool.uses number := by
  simp [uses, arrive, List.countP_append]

/-! ## Runs -/

theorem run?_append (pool : DirectoryPool) (before rest : List PoolEvent) :
    pool.run? (before ++ rest) = (pool.run? before).bind (·.run? rest) := by
  induction before generalizing pool with
  | nil => rfl
  | cons event before ih =>
      simp only [List.cons_append, run?]
      cases pool.after? event with
      | none => rfl
      | some after => exact ih after

theorem of_run?_append {before rest : List PoolEvent} {last : DirectoryPool}
    (h : pool.run? (before ++ rest) = some last) :
    ∃ later, pool.run? before = some later ∧ later.run? rest = some last := by
  rw [run?_append] at h
  exact Option.bind_eq_some_iff.mp h

theorem of_run?_cons {event : PoolEvent} {rest : List PoolEvent} {last : DirectoryPool}
    (h : pool.run? (event :: rest) = some last) :
    ∃ after, pool.after? event = some after ∧ after.run? rest = some last := by
  cases hafter : pool.after? event with
  | none => simp [run?, hafter] at h
  | some after => exact ⟨after, rfl, by simpa [run?, hafter] using h⟩

/-- What holds at the start and is kept by every arrival and every change holds after every
run. -/
theorem run?_induction {motive : List PoolEvent → DirectoryPool → Prop}
    (start : motive [] pool)
    (arrive : ∀ {events later} request, pool.run? events = some later → motive events later →
      motive (events ++ [.arrival request]) (later.arrive request))
    (change : ∀ {events later n call event after}, pool.run? events = some later →
      motive events later → later.calls[n]? = some call → Change later n call event after →
      motive (events ++ [.happens n event]) after)
    {events : List PoolEvent} {last : DirectoryPool} (h : pool.run? events = some last) :
    motive events last := by
  -- The events that are left run from the pool that the earlier ones have led to.
  suffices hsuffix : ∀ (rest before : List PoolEvent) (later : DirectoryPool),
      pool.run? before = some later → motive before later → later.run? rest = some last →
      motive (before ++ rest) last from hsuffix events [] pool rfl start h
  intro rest
  induction rest with
  | nil =>
      intro before later _ hlater hlast
      cases hlast
      rwa [List.append_nil]
  | cons event rest ih =>
      intro before later hbefore hlater hlast
      obtain ⟨after, hafter, hrest⟩ := of_run?_cons hlast
      have hthrough : pool.run? (before ++ [event]) = some after := by
        simp [run?_append, hbefore, run?, hafter]
      have hkept : motive (before ++ [event]) after := by
        cases event with
        | arrival request =>
            cases hafter
            exact arrive request hbefore hlater
        | happens n event =>
            obtain ⟨call, hcall, hchange⟩ := change_of_step? hafter
            exact change hbefore hlater hcall hchange
      have hfinal := ih (before ++ [event]) after hthrough hkept hrest
      rwa [List.append_assoc] at hfinal

/-- Every connection is in one place, and those not yet opened are in none. -/
structure Numbered (pool : DirectoryPool) : Prop where
  uses_le_one : ∀ number, pool.uses number ≤ 1
  uses_unopened : ∀ number, pool.opened < number → pool.uses number = 0

theorem Numbered.change (hnumbered : Numbered pool) (h : Change pool n call event after)
    (hcall : pool.calls[n]? = some call) : Numbered after := by
  have hopened := h.opened_le
  constructor
  · intro number
    have hle := h.uses_le hcall number
    have hone := hnumbered.uses_le_one number
    have hnone := hnumbered.uses_unopened number
    grind
  · intro number hunopened
    have hle := h.uses_le hcall number
    have hnone := hnumbered.uses_unopened number
    grind

theorem numbered_of_run? {settings : DirectorySettings} {events : List PoolEvent}
    (h : (ofSettings settings).run? events = some pool) : Numbered pool := by
  refine run?_induction (motive := fun _ later => Numbered later)
    ⟨fun _ => Nat.zero_le _, fun _ _ => rfl⟩ ?_ ?_ h
  · intro events later request _ hnumbered
    exact ⟨fun number => uses_arrive later request number ▸ hnumbered.uses_le_one number,
      fun number hunopened => uses_arrive later request number ▸
        hnumbered.uses_unopened number hunopened⟩
  · intro events later n call event after _ hnumbered hcall hchange
    exact hnumbered.change hchange hcall

/-- A connection that has gone does not come back. -/
theorem uses_eq_zero_of_run? {number : Nat} (hopened : number ≤ pool.opened)
    (hgone : pool.uses number = 0) {events : List PoolEvent} {last : DirectoryPool}
    (h : pool.run? events = some last) : last.uses number = 0 := by
  have hkept : number ≤ last.opened ∧ last.uses number = 0 := by
    refine run?_induction
      (motive := fun _ later => number ≤ later.opened ∧ later.uses number = 0)
      ⟨hopened, hgone⟩ ?_ ?_ h
    · intro events later request _ hlater
      exact ⟨hlater.1, (uses_arrive later request number).trans hlater.2⟩
    · intro events later n call event after _ hlater hcall hchange
      have hle := hchange.uses_le hcall number
      have hmore := hchange.opened_le
      grind
  exact hkept.2

theorem exists_request_of_run? (hcall : pool.calls[n]? = some call) {events : List PoolEvent}
    {last : DirectoryPool} (h : pool.run? events = some last) :
    ∃ later, last.calls[n]? = some later ∧ later.request = call.request := by
  refine run?_induction
    (motive := fun _ later => ∃ same, later.calls[n]? = some same ∧ same.request = call.request)
    ⟨call, hcall, rfl⟩ ?_ ?_ h
  · rintro events later request - ⟨same, hsame, hrequest⟩
    have hlater : n < later.calls.length := (List.getElem?_eq_some_iff.mp hsame).1
    exact ⟨same, by rw [DirectoryPool.arrive, List.getElem?_append_left hlater, hsame], hrequest⟩
  · rintro events later m moved event after - ⟨same, hsame, hrequest⟩ hmoved hchange
    obtain ⟨phase, hcalls⟩ := hchange.exists_phase
    rw [hcalls, setPhase, List.getElem?_set]
    split
    next hm =>
      subst hm
      cases hmoved.symm.trans hsame
      have hlater : m < later.calls.length := (List.getElem?_eq_some_iff.mp hsame).1
      exact ⟨{ moved with phase := phase }, if_pos hlater, hrequest⟩
    next => exact ⟨same, hsame, hrequest⟩

/-- A call that has ended stays as it is. -/
theorem getElem?_of_finished {ended : DirectoryCall}
    {result : Except DirectoryError DirectoryAnswer} (hended : pool.calls[n]? = some ended)
    (hphase : ended.phase = .finished result) {events : List PoolEvent} {last : DirectoryPool}
    (h : pool.run? events = some last) : last.calls[n]? = some ended := by
  refine run?_induction (motive := fun _ later => later.calls[n]? = some ended) hended ?_ ?_ h
  · intro events later request _ hlater
    have hlt : n < later.calls.length := (List.getElem?_eq_some_iff.mp hlater).1
    rw [DirectoryPool.arrive, List.getElem?_append_left hlt, hlater]
  · intro events later m call event after _ hlater hcall hchange
    exact hchange.getElem?_of_finished hcall hlater hphase

end DirectoryPool

/-! ## Calls made one after another -/

namespace RemoteDirectory

open DirectoryPool

theorem exists_after?_of_advance? {directory later : RemoteDirectory} {n : Nat}
    (h : directory.advance? n = some later) :
    ∃ event, directory.pool.after? event = some later.pool := by
  unfold advance? at h
  split at h
  · cases h
  · split at h
    all_goals
      obtain ⟨pool, hstep, rfl⟩ := Option.map_eq_some_iff.mp h
      exact ⟨.happens n _, hstep⟩

theorem exists_run?_finish (n fuel : Nat) (directory : RemoteDirectory) :
    ∃ events, directory.pool.run? events = some (finish n fuel directory).pool := by
  induction fuel generalizing directory with
  | zero => exact ⟨[], rfl⟩
  | succ fuel ih =>
      unfold finish
      split
      · exact ⟨[], rfl⟩
      next later hadvance =>
        obtain ⟨event, hafter⟩ := exists_after?_of_advance? hadvance
        obtain ⟨events, hrun⟩ := ih later
        exact ⟨event :: events, by rw [run?, hafter]; exact hrun⟩

/-- A call that is made and waited for is a run of the pool. -/
theorem exists_run?_perform (directory : RemoteDirectory) (request : DirectoryRequest) :
    ∃ events, directory.pool.run? (.arrival request :: events) =
      some (directory.perform request).2.pool :=
  exists_run?_finish directory.pool.calls.length phaseCount
    { directory with pool := directory.pool.arrive request }

theorem of_result?_eq_some {directory : RemoteDirectory} {n : Nat}
    {result : Except DirectoryError DirectoryAnswer} (h : directory.result? n = some result) :
    ∃ call, directory.pool.calls[n]? = some call ∧ call.phase = .finished result := by
  unfold result? at h
  split at h
  next hcall =>
    cases h
    exact ⟨_, hcall, rfl⟩
  next => cases h

theorem exists_call_of_perform {directory : RemoteDirectory} {request : DirectoryRequest}
    {answer : DirectoryAnswer} (h : (directory.perform request).1 = .ok answer) :
    ∃ call, (directory.perform request).2.pool.calls[directory.pool.calls.length]? = some call ∧
      call.request = request ∧ call.phase = .finished (.ok answer) := by
  obtain ⟨events, hrun⟩ := exists_run?_perform directory request
  have harrived : (directory.pool.arrive request).calls[directory.pool.calls.length]? =
      some { request := request } := by simp [arrive]
  obtain ⟨later, hlater, hrequest⟩ := exists_request_of_run? harrived hrun
  cases hresult : (directory.perform request).2.result? directory.pool.calls.length with
  | none =>
      have hpending : (directory.perform request).1 =
          .error (.protocol "the call has not ended") := congrArg (Option.getD · _) hresult
      cases h.symm.trans hpending
  | some result =>
      have hended : (directory.perform request).1 = result := congrArg (Option.getD · _) hresult
      obtain ⟨call, hcall, hphase⟩ := of_result?_eq_some hresult
      cases hlater.symm.trans hcall
      exact ⟨later, hlater, hrequest, by rw [hphase, ← hended, h]⟩

end RemoteDirectory

end AccessGateway
