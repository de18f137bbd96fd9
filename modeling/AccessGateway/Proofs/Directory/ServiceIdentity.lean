import AccessGateway.Proofs.Directory.PoolRuns

/-!
# Pooled connections and the service account

A user's bind changes whom a connection speaks for, so the connection is bound as
the service account again before anybody else gets it.  Whatever the server does,
a connection that is idle, or that a search runs on, was last bound as the service
account; a connection on which a step failed is in no pool that comes later; and
the outcome of a bind is the one the server answered.
-/

namespace AccessGateway

/-- The bind of the service account, taken by the server. -/
def serviceBind (settings : DirectorySettings) : CompletedBind :=
  ⟨settings.bindDn, settings.bindPassword, ResultCode.success⟩

/-- The last bind on the connection that the server has answered is the service account's. -/
def DirectoryConnection.Serves (settings : DirectorySettings)
    (connection : DirectoryConnection) : Prop :=
  connection.binds.head? = some (serviceBind settings)

/-- The outcome a call has got for its bind. -/
def CallPhase.outcome? : CallPhase → Option BindOutcome
  | .restoring _ outcome | .finished (.ok (.bound outcome)) => some outcome
  | _ => none

namespace DirectoryPool

open RemoteDirectory

variable {settings : DirectorySettings} {start pool after : DirectoryPool}
  {events : List PoolEvent} {n : Nat} {call : DirectoryCall} {event : CallEvent}

/-! ## Whom connections speak for -/

structure SpeaksAsService (settings : DirectorySettings) (pool : DirectoryPool) : Prop where
  serviceName_eq : pool.serviceName = settings.bindDn
  servicePassword_eq : pool.servicePassword = settings.bindPassword
  idle : ∀ connection ∈ pool.idle, connection.Serves settings
  working : ∀ call ∈ pool.calls, ∀ connection, call.phase = .working connection →
    connection.Serves settings

namespace SpeaksAsService

theorem serves_admitted (h : SpeaksAsService settings pool) (connection : DirectoryConnection) :
    (pool.admitted connection).Serves settings := by
  rw [DirectoryConnection.Serves, admitted, DirectoryConnection.record, h.serviceName_eq,
    h.servicePassword_eq]
  rfl

theorem working_setPhase (h : SpeaksAsService settings pool) {phase : CallPhase}
    (hphase : ∀ connection, phase = .working connection → connection.Serves settings) :
    ∀ other ∈ setPhase pool.calls n call phase, ∀ connection,
      other.phase = .working connection → connection.Serves settings := by
  intro other hother connection hworking
  rcases List.mem_or_eq_of_mem_set hother with hbefore | rfl
  · exact h.working other hbefore connection hworking
  · exact hphase connection hworking

theorem working_setPhase_of_ne (h : SpeaksAsService settings pool) {phase : CallPhase}
    (hphase : ∀ connection, phase ≠ .working connection) :
    ∀ other ∈ setPhase pool.calls n call phase, ∀ connection,
      other.phase = .working connection → connection.Serves settings :=
  h.working_setPhase fun connection hworking => absurd hworking (hphase connection)

theorem change (h : SpeaksAsService settings pool) (hcall : pool.calls[n]? = some call)
    (hchange : Change pool n call event after) : SpeaksAsService settings after := by
  cases hchange with
  | take hphase hpermits hidle =>
      have htaken := h.idle _ (hidle ▸ List.mem_cons_self)
      refine { h with
        idle := fun connection hrest => h.idle connection (hidle ▸ List.mem_cons_of_mem _ hrest)
        working := h.working_setPhase ?_ }
      intro connection hworking
      cases hworking
      exact htaken
  | enroll text names hphase =>
      refine { h with working := h.working_setPhase ?_ }
      intro connection hworking
      cases hworking
      exact h.serves_admitted _
  | find text names hphase hrequest =>
      have hworking := h.working call (List.mem_of_getElem? hcall) _ hphase
      exact { h with
        idle := List.forall_mem_cons.mpr ⟨hworking, h.idle⟩
        working := h.working_setPhase_of_ne (by simp) }
  | restore text names hphase =>
      exact { h with
        idle := List.forall_mem_cons.mpr ⟨h.serves_admitted _, h.idle⟩
        working := h.working_setPhase_of_ne (by simp) }
  | dial | giveUp | connect | unreachable | bind | drop =>
      exact { h with working := h.working_setPhase_of_ne (by simp) }

end SpeaksAsService

theorem speaksAsService_of_run? (h : (ofSettings settings).run? events = some pool) :
    SpeaksAsService settings pool := by
  refine run?_induction (motive := fun _ later => SpeaksAsService settings later)
    ⟨rfl, rfl, by simp [ofSettings], by simp [ofSettings]⟩ ?_ ?_ h
  · intro events later request _ hlater
    refine { hlater with working := ?_ }
    intro call hcall connection hphase
    rcases List.mem_append.mp hcall with hbefore | hnew
    · exact hlater.working call hbefore connection hphase
    · cases List.mem_singleton.mp hnew
      cases hphase
  · intro events later n call event after _ hlater hcall hchange
    exact hlater.change hcall hchange

/-! ## Failed steps -/

theorem Change.of_fails (h : Change pool n call event after) (hcall : pool.calls[n]? = some call)
    (hfails : call.fails event = true) :
    (∃ e, after.calls[n]? = some { call with phase := .finished (.error e) }) ∧
      ∀ connection, call.phase.connection? = some connection →
        after.uses connection.number + 1 = pool.uses connection.number := by
  have hlt : n < pool.calls.length := (List.getElem?_eq_some_iff.mp hcall).1
  cases h with
  | dial | take | connect => cases hfails
  | enroll _ _ hphase | restore _ _ hphase => simp [DirectoryCall.fails, hphase] at hfails
  | find _ _ hphase hrequest => simp [DirectoryCall.fails, hphase, hrequest] at hfails
  | bind outcome _ _ hphase hrequest =>
      cases outcome <;> simp [DirectoryCall.fails, hphase, hrequest, BindOutcome.code] at hfails
  | giveUp hphase =>
      refine ⟨⟨_, List.getElem?_set_self hlt⟩, ?_⟩
      intro connection hheld
      simp [hphase, CallPhase.connection?] at hheld
  | unreachable reason hphase =>
      refine ⟨⟨_, List.getElem?_set_self hlt⟩, ?_⟩
      intro connection hheld
      simp [hphase, CallPhase.connection?] at hheld
  | drop =>
      exact ⟨⟨_, List.getElem?_set_self hlt⟩, fun connection hheld => uses_drop hcall hheld _⟩

/-! ## What the server has answered -/

/-- A call has asked the server for a bind with a name and a password, and the answer was a
code. -/
def Answered (start : DirectoryPool) (events : List PoolEvent) (n : Nat)
    (name password : String) (code : Nat) : Prop :=
  ∃ before text names rest earlier call connection,
    events = before ++ .happens n (.replied code text names) :: rest ∧
      start.run? before = some earlier ∧ earlier.calls[n]? = some call ∧
      call.phase = .working connection ∧
      demand? earlier call = some (.bind connection.number name password)

theorem Answered.append {name password : String} {code : Nat}
    (h : Answered start events n name password code) (later : List PoolEvent) :
    Answered start (events ++ later) n name password code := by
  obtain ⟨before, text, names, rest, earlier, call, connection, rfl, hasked⟩ := h
  exact ⟨before, text, names, rest ++ later, earlier, call, connection, by simp, hasked⟩

/-- The results of calls are what the server has answered. -/
structure Accounted (start : DirectoryPool) (events : List PoolEvent)
    (pool : DirectoryPool) : Prop where
  bound : ∀ {n call outcome}, pool.calls[n]? = some call → call.phase.outcome? = some outcome →
    ∃ name password, call.request = .bind name password ∧
      Answered start events n name password outcome.code
  found : ∀ {n : Nat} {call : DirectoryCall} {names : List String},
    pool.calls[n]? = some call → call.phase = .finished (.ok (.names names)) →
      ∃ base filter, call.request = .search base filter

namespace Accounted

theorem setPhase (h : Accounted start events pool) {happened : PoolEvent} {phase : CallPhase}
    (hcalls : after.calls = setPhase pool.calls n call phase)
    (hbound : ∀ outcome, phase.outcome? = some outcome →
      ∃ name password, call.request = .bind name password ∧
        Answered start (events ++ [happened]) n name password outcome.code)
    (hfound : ∀ names, phase = .finished (.ok (.names names)) →
      ∃ base filter, call.request = .search base filter) :
    Accounted start (events ++ [happened]) after := by
  have hcases : ∀ {m : Nat} {other : DirectoryCall}, after.calls[m]? = some other →
      m = n ∧ other = { call with phase := phase } ∨ pool.calls[m]? = some other := by
    intro m other hother
    rw [hcalls, DirectoryPool.setPhase, List.getElem?_set] at hother
    split at hother
    next hm =>
      split at hother
      · exact .inl ⟨hm.symm, (Option.some.inj hother).symm⟩
      · cases hother
    next => exact .inr hother
  constructor
  · intro m other outcome hother houtcome
    rcases hcases hother with ⟨rfl, rfl⟩ | hbefore
    · exact hbound outcome houtcome
    · obtain ⟨name, password, hrequest, hanswered⟩ := h.bound hbefore houtcome
      exact ⟨name, password, hrequest, hanswered.append _⟩
  · intro m other names hother hnames
    rcases hcases hother with ⟨rfl, rfl⟩ | hbefore
    · exact hfound names hnames
    · exact h.found hbefore hnames

theorem change (h : Accounted start events pool) (hrun : start.run? events = some pool)
    (hcall : pool.calls[n]? = some call) (hchange : Change pool n call event after) :
    Accounted start (events ++ [.happens n event]) after := by
  cases hchange with
  | find text names hphase hrequest =>
      exact h.setPhase rfl (by simp [CallPhase.outcome?]) fun _ _ => ⟨_, _, hrequest⟩
  | bind outcome text names hphase hrequest =>
      refine h.setPhase rfl ?_ (by simp)
      intro other hother
      cases hother
      refine ⟨_, _, hrequest, events, text, names, [], pool, call, _, rfl, hrun, hcall, hphase, ?_⟩
      simp [demand?, hphase, hrequest]
  | restore text names hphase =>
      refine h.setPhase rfl ?_ (by simp)
      intro other hother
      cases hother
      have houtcome := congrArg CallPhase.outcome? hphase
      obtain ⟨name, password, hrequest, hanswered⟩ := h.bound hcall houtcome
      exact ⟨name, password, hrequest, hanswered.append _⟩
  | dial | take | giveUp | connect | unreachable | enroll | drop =>
      exact h.setPhase rfl (by simp [CallPhase.outcome?]) (by simp)

end Accounted

theorem accounted_of_run? (h : start.run? events = some pool) (hstart : start.calls = []) :
    Accounted start events pool := by
  refine run?_induction (motive := fun events later => Accounted start events later)
    ⟨by simp [hstart], by simp [hstart]⟩ ?_ ?_ h
  · intro events later request _ hlater
    have hcases : ∀ {m : Nat} {other : DirectoryCall},
        (later.arrive request).calls[m]? = some other →
          other.phase = .waiting ∨ later.calls[m]? = some other := by
      intro m other hother
      rw [arrive, List.getElem?_append] at hother
      split at hother
      · exact .inr hother
      · cases List.mem_singleton.mp (List.mem_of_getElem? hother)
        exact .inl rfl
    constructor
    · intro m other outcome hother houtcome
      rcases hcases hother with hwaiting | hbefore
      · rw [hwaiting] at houtcome
        cases houtcome
      · obtain ⟨name, password, hrequest, hanswered⟩ := hlater.bound hbefore houtcome
        exact ⟨name, password, hrequest, hanswered.append _⟩
    · intro m other names hother hnames
      rcases hcases hother with hwaiting | hbefore
      · rw [hwaiting] at hnames
        cases hnames
      · exact hlater.found hbefore hnames
  · intro events later n call event after hrun hlater hcall hchange
    exact hlater.change hrun hcall hchange

/-! ## Every run -/

/-- The demand of a search names a connection that was last bound as the service account. -/
theorem SpeaksAsService.of_demand (h : SpeaksAsService settings pool) (hcall : call ∈ pool.calls)
    {number : Nat} {base filter : String}
    (hdemand : demand? pool call = some (.search number base filter)) :
    ∃ connection, call.phase.connection? = some connection ∧ connection.number = number ∧
      connection.Serves settings := by
  cases hphase : call.phase with
  | working connection =>
      have hserves := h.working call hcall connection hphase
      cases hrequest : call.request with
      | search base filter =>
          simp only [demand?, hphase, hrequest, Option.some.injEq,
            ServerDemand.search.injEq] at hdemand
          exact ⟨connection, rfl, hdemand.1, hserves⟩
      | bind name password => simp [demand?, hphase, hrequest] at hdemand
  | _ => simp [demand?, hphase] at hdemand

/-- After a failed step the call has ended with an error, and its connection is nowhere. -/
theorem uses_eq_zero_of_fails {before rest : List PoolEvent} {earlier : DirectoryPool}
    (hbefore : (ofSettings settings).run? before = some earlier)
    (hcall : earlier.calls[n]? = some call) (hfails : call.fails event = true)
    (hrest : earlier.run? (.happens n event :: rest) = some pool) :
    (∃ e, pool.calls[n]? = some { call with phase := .finished (.error e) }) ∧
      ∀ connection, call.phase.connection? = some connection →
        pool.uses connection.number = 0 := by
  obtain ⟨next, hnext, hlast⟩ := of_run?_cons hrest
  obtain ⟨same, hsame, hchange⟩ := change_of_step? hnext
  cases hcall.symm.trans hsame
  have hnumbered := numbered_of_run? hbefore
  obtain ⟨⟨e, hended⟩, hdropped⟩ := hchange.of_fails hcall hfails
  refine ⟨⟨e, getElem?_of_finished hended rfl hlast⟩, ?_⟩
  intro connection hheld
  have hpos := uses_pos_of_held hcall hheld
  have hone := hnumbered.uses_le_one connection.number
  have hgone := hdropped connection hheld
  have hopened : connection.number ≤ earlier.opened := by
    cases Nat.lt_or_ge earlier.opened connection.number with
    | inl hunopened =>
        have hnone := hnumbered.uses_unopened connection.number hunopened
        omega
    | inr hopened => exact hopened
  have hmore := hchange.opened_le
  exact uses_eq_zero_of_run? (by omega) (by omega) hlast

theorem exists_answered (h : (ofSettings settings).run? events = some pool)
    (hcall : pool.calls[n]? = some call) {name password : String} {answer : DirectoryAnswer}
    (hrequest : call.request = .bind name password) (hphase : call.phase = .finished (.ok answer)) :
    ∃ outcome, answer = .bound outcome ∧
      Answered (ofSettings settings) events n name password outcome.code := by
  have haccounted := accounted_of_run? h rfl
  cases answer with
  | names names =>
      obtain ⟨base, filter, hsearch⟩ := haccounted.found hcall hphase
      cases hrequest.symm.trans hsearch
  | bound outcome =>
      have houtcome : call.phase.outcome? = some outcome := by rw [hphase]; rfl
      obtain ⟨_, _, hsame, hanswered⟩ := haccounted.bound hcall houtcome
      cases hrequest.symm.trans hsame
      exact ⟨outcome, rfl, hanswered⟩

/-- Whatever calls are made and whatever the server does: idle connections, and those that searches
run on, were last bound as the service account; a call one of whose steps fails ends with an error,
and its connection is never used again; and a bind that does not end with an error has the outcome
that the server answered to a bind with exactly its name and password. -/
theorem run_serves (h : (ofSettings settings).run? events = some pool) :
    (∀ connection ∈ pool.idle, connection.Serves settings) ∧
      (∀ call ∈ pool.calls, ∀ {number : Nat} {base filter : String},
        demand? pool call = some (.search number base filter) →
          ∃ connection, call.phase.connection? = some connection ∧
            connection.number = number ∧ connection.Serves settings) ∧
      (∀ {before rest : List PoolEvent} {n : Nat} {event : CallEvent} {earlier : DirectoryPool}
        {call : DirectoryCall}, events = before ++ .happens n event :: rest →
          (ofSettings settings).run? before = some earlier → earlier.calls[n]? = some call →
          call.fails event = true →
            (∃ e, pool.calls[n]? = some { call with phase := .finished (.error e) }) ∧
              ∀ connection, call.phase.connection? = some connection →
                pool.uses connection.number = 0) ∧
      ∀ {n : Nat} {call : DirectoryCall} {name password : String} {answer : DirectoryAnswer},
        pool.calls[n]? = some call → call.request = .bind name password →
          call.phase = .finished (.ok answer) →
            ∃ outcome, answer = .bound outcome ∧
              Answered (ofSettings settings) events n name password outcome.code := by
  have hservice := speaksAsService_of_run? h
  refine ⟨hservice.idle, fun call hcall _ _ _ hdemand => hservice.of_demand hcall hdemand, ?_,
    fun hcall => exists_answered h hcall⟩
  intro before rest n event earlier call hevents hbefore hcall hfails
  subst hevents
  obtain ⟨_, hsame, hrest⟩ := of_run?_append h
  cases hbefore.symm.trans hsame
  exact uses_eq_zero_of_fails hbefore hcall hfails hrest

/-- A user is refused; the search that gets the same connection then gets no answer. -/
theorem run_serves_of_refusal :
    let settings : DirectorySettings :=
      { url := "ldap://127.0.0.1:1", baseDn := "OU=Users,DC=example,DC=com"
        bindDn := "CN=svc,DC=example,DC=com", bindPassword := "svc-password" }
    let events : List PoolEvent :=
      [.arrival (.bind "CN=Alice,OU=Users,DC=example,DC=com" "wrong"), .happens 0 .granted,
        .happens 0 .connected, .happens 0 (.replied 0 "" []), .happens 0 (.replied 49 "" []),
        .happens 0 (.replied 0 "" []), .arrival (.search "OU=Users,DC=example,DC=com" "(uid=bob)"),
        .happens 1 .granted, .happens 1 .silent]
    ∃ last, (ofSettings settings).run? events = some last ∧
      Answered (ofSettings settings) events 0 "CN=Alice,OU=Users,DC=example,DC=com" "wrong" 49 ∧
      last.uses 1 = 0 := by
  intro settings events
  have hrun : (ofSettings settings).run? events = some _ := rfl
  obtain ⟨-, -, hfailed, hbound⟩ := run_serves hrun
  obtain ⟨outcome, houtcome, hanswered⟩ :=
    hbound (n := 0) rfl rfl rfl
  cases houtcome
  have hevents : events = events.take 8 ++ .happens 1 .silent :: [] := rfl
  have hgone := (hfailed hevents rfl rfl rfl).2 _ rfl
  exact ⟨_, hrun, hanswered, hgone⟩

end DirectoryPool

namespace RemoteDirectory

open DirectoryPool

/-- The outcome of a bind is what the server answered to it, whatever came before. -/
theorem exists_answered_of_bind {settings : DirectorySettings} {events : List PoolEvent}
    {directory after : RemoteDirectory}
    (hrun : (DirectoryPool.ofSettings settings).run? events = some directory.pool)
    {name password : String} {outcome : BindOutcome}
    (h : connector.bind directory name password = (.ok outcome, after)) :
    ∃ later, (DirectoryPool.ofSettings settings).run? (events ++ later) = some after.pool ∧
      Answered (DirectoryPool.ofSettings settings) (events ++ later)
        directory.pool.calls.length name password outcome.code := by
  obtain ⟨later, hlater⟩ := exists_run?_perform directory (.bind name password)
  have hwhole : (DirectoryPool.ofSettings settings).run?
      (events ++ .arrival (.bind name password) :: later) =
        some (directory.perform (.bind name password)).2.pool := by
    rw [run?_append, hrun]
    exact hlater
  refine ⟨.arrival (.bind name password) :: later, ?_⟩
  rcases hperform : directory.perform (.bind name password) with ⟨_ | answer, last⟩
  · simp [connector, hperform] at h
  · have hanswer := congrArg Prod.fst hperform
    obtain ⟨call, hcall, hrequest, hphase⟩ := exists_call_of_perform hanswer
    obtain ⟨given, rfl, hanswered⟩ := exists_answered hwhole hcall hrequest hphase
    rw [hperform] at hwhole
    simp only [connector, hperform, Prod.mk.injEq, Except.ok.injEq] at h
    obtain ⟨rfl, rfl⟩ := h
    exact ⟨hwhole, hanswered⟩

end RemoteDirectory

end AccessGateway
