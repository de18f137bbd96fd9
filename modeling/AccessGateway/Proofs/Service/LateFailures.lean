import AccessGateway.Proofs.Service.StoreFailures

/-!
# Secrets created behind an error

The details of a secret are asked for after it was created.  Where only they cannot be had, the
caller is told of an error although the store took the secret.  Behind every other error nothing
was created.
-/

namespace AccessGateway

variable {δ : Type}

/-- The store took a new secret. -/
def Taken (passed : List (StoreOperation × FinalReply)) : Prop :=
  ∃ secret status body, (StoreOperation.createSecret secret, Except.ok (status, body)) ∈ passed ∧
    isSuccess status = true

/-- The group was ensured and the secret was taken, and then the question for its details failed
with a status. -/
inductive Untold : List (StoreOperation × FinalReply) → Nat → Prop
  | intro {group description : String} {secret : NewSecret} {ensured taken told : FinalReply}
      {status : Nat}
      (hensured : ∀ other, ¬ (StoreOperation.ensureGroup group description).Fails ensured other)
      (htaken : ∀ other, ¬ (StoreOperation.createSecret secret).Fails taken other)
      (hfails : (StoreOperation.getSecret secret.name).Fails told status) :
      Untold [(.ensureGroup group description, ensured), (.createSecret secret, taken),
        (.getSecret secret.name, told)] status

namespace StoreOperation

theorem Fails.le {operation : StoreOperation} {reply : FinalReply} {status : Nat}
    (h : operation.Fails reply status) : 400 ≤ status := by
  cases h <;> decide

theorem createSecret_holds_iff {secret : NewSecret} {reply : FinalReply} :
    (∀ other, ¬ (createSecret secret).Fails reply other) ↔
      ∃ status body, reply = .ok (status, body) ∧ isSuccess status = true := by
  constructor
  · intro hholds
    rcases reply with cause | ⟨status, body⟩
    · exact absurd (.unanswered cause) (hholds 503)
    · refine ⟨status, body, rfl, ?_⟩
      by_contra hstatus
      have hrefused : isSuccess status = false := eq_false_of_ne_true hstatus
      by_cases hnotFound : status = 404
      · subst hnotFound
        exact hholds 404 (.notFound id body)
      · by_cases hconflict : status = 409
        · subst hconflict
          exact hholds 409 (.conflict id body)
        · exact hholds 502 (.refused hrefused hnotFound hconflict body)
  · rintro ⟨status, body, rfl, hstatus⟩
    exact not_fails_of_readable hstatus trivial

end StoreOperation

theorem not_le_of_isSuccess {status : Nat} (h : isSuccess status = true) : ¬ 400 ≤ status := by
  simp only [isSuccess, Bool.and_eq_true, decide_eq_true_eq] at h
  omega

namespace Taken

variable {operation : StoreOperation} {reply : FinalReply} {secret : NewSecret}
  {passed : List (StoreOperation × FinalReply)}

theorem not_nil : ¬ Taken [] := by
  rintro ⟨secret, status, body, hmem, -⟩
  cases hmem

theorem cons_iff :
    Taken ((operation, reply) :: passed) ↔
      (∃ secret, operation = .createSecret secret ∧
        ∃ status body, reply = .ok (status, body) ∧ isSuccess status = true) ∨ Taken passed := by
  constructor
  · rintro ⟨secret, status, body, hmem, hstatus⟩
    rcases List.mem_cons.mp hmem with heq | hmem
    · cases heq
      exact .inl ⟨secret, rfl, status, body, rfl, hstatus⟩
    · exact .inr ⟨secret, status, body, hmem, hstatus⟩
  · rintro (⟨secret, rfl, status, body, rfl, hstatus⟩ | ⟨secret, status, body, hmem, hstatus⟩)
    · exact ⟨secret, status, body, List.mem_cons_self, hstatus⟩
    · exact ⟨secret, status, body, List.mem_cons_of_mem _ hmem, hstatus⟩

theorem cons_of_other (h : ∀ secret, operation ≠ .createSecret secret) :
    Taken ((operation, reply) :: passed) ↔ Taken passed := by
  rw [cons_iff, or_iff_right]
  rintro ⟨secret, heq, -⟩
  exact h secret heq

theorem cons_of_failure {status : Nat} (h : (StoreOperation.createSecret secret).Fails reply status) :
    Taken ((.createSecret secret, reply) :: passed) ↔ Taken passed := by
  rw [cons_iff, or_iff_right]
  rintro ⟨_, -, htaken⟩
  exact StoreOperation.createSecret_holds_iff.mpr htaken status h

theorem cons_of_success
    (h : ∀ status, ¬ (StoreOperation.createSecret secret).Fails reply status) :
    Taken ((.createSecret secret, reply) :: passed) :=
  cons_iff.mpr (.inl ⟨secret, rfl, StoreOperation.createSecret_holds_iff.mp h⟩)

end Taken

section Course

variable {σ : Type} {store : RemoteStore} {line : Line σ} {start last : σ}
  {group description : String} {secret : NewSecret} {response : Response}
  {passed : List (StoreOperation × FinalReply)}

/-- Of a creation an error is told although the secret was taken exactly if only its details could
not be had. -/
theorem taken_behind_error_iff
    (hcourse : store.Course line start
      [.ensureGroup group description, .createSecret secret, .getSecret secret.name] passed last)
    (hreports : response.Reports passed) :
    400 ≤ response.status ∧ Taken passed ↔ Untold passed response.status := by
  -- One case for each question that may be the first to fail, and one without a failure.
  cases hcourse with
  | stopped hsent hfails =>
      apply iff_of_false
      · rintro ⟨-, htaken⟩
        rw [Taken.cons_of_other (by simp)] at htaken
        exact Taken.not_nil htaken
      · intro huntold
        cases huntold
  | went hsent hensured hrest =>
      cases hrest with
      | stopped hsent hfails =>
          apply iff_of_false
          · rintro ⟨-, htaken⟩
            rw [Taken.cons_of_other (by simp), Taken.cons_of_failure hfails] at htaken
            exact Taken.not_nil htaken
          · intro huntold
            cases huntold
      | went hsent htaken hrest =>
          cases hrest with
          | stopped hsent hfails =>
              have hstatus := hreports.status_of_failure (.getSecret secret.name, _) (by simp) _ hfails
              rw [hstatus, Taken.cons_of_other (by simp)]
              exact iff_of_true ⟨hfails.le, .cons_of_success htaken⟩ (.intro hensured htaken hfails)
          | went hsent htold hrest =>
              cases hrest
              have hsuccess : isSuccess response.status = true := by
                apply hreports.success_iff.mpr
                simp [hensured, htaken, htold]
              apply iff_of_false
              · rintro ⟨hle, -⟩
                exact not_le_of_isSuccess hsuccess hle
              · rintro ⟨_, _, hfails⟩
                exact htold _ hfails

end Course

/-- What a creation of a secret comes to over a line.  Nothing is asked or the three questions,
until one fails; and an error is told although the secret was taken exactly if only its details
could not be had. -/
def RemoteStore.Creates {σ : Type} (store : RemoteStore) (line : Line σ) (start : σ)
    (response : Response) (last : σ) : Prop :=
  ∃ questions passed, store.Course line start questions passed last ∧
    (questions = [] ∨ ∃ group description secret, questions =
      [.ensureGroup group description, .createSecret secret, .getSecret secret.name]) ∧
    (400 ≤ response.status ∧ Taken passed ↔ Untold passed response.status)

theorem RemoteStore.creates_of_refusal {σ : Type} (store : RemoteStore) (line : Line σ) (start : σ)
    (response : Response) : store.Creates line start response start := by
  refine ⟨[], [], .done start, .inl rfl, ?_⟩
  apply iff_of_false
  · rintro ⟨-, htaken⟩
    exact Taken.not_nil htaken
  · intro huntold
    cases huntold

namespace ApplicationRequest

/-- A creation that is not valid is refused before the store is asked. -/
theorem exists_program_of_invalid {short : String} {form : SecretForm}
    (h : ¬ (createSecret short form).Valid) (principal : Principal) (group : Group) :
    ∃ e, (createSecret short form).program principal group = .done (.error e) := by
  by_cases hshort : SecretName.isShortName short = true
  · have hcontent : isContent form.content = false :=
      eq_false_of_ne_true fun hcontent => h ⟨hshort, hcontent⟩
    refine ⟨.invalidFormat "Secret content must be base64 encoded", ?_⟩
    rw [program, named, SecretName.ofShort, if_pos hshort]
    dsimp only
    rw [hcontent]
    rfl
  · refine ⟨.ofName (.badShortName short), ?_⟩
    rw [program, named, SecretName.ofShort, if_neg hshort]

theorem creates_program {σ : Type} (store : RemoteStore) (line : Line σ) (start : σ)
    (principal : Principal) (group : Group) (short : String) (form : SecretForm) :
    let ran := ((createSecret short form).program principal group).run (store.answerOver line) start
    store.Creates line start (.ofResult ran.1) ran.2 := by
  intro ran
  by_cases hvalid : (createSecret short form).Valid
  · obtain ⟨passed, hcourse, hreports⟩ := follows_program hvalid principal group store line start
    exact ⟨_, passed, hcourse, .inr ⟨_, _, _, rfl⟩, taken_behind_error_iff hcourse hreports⟩
  · obtain ⟨e, hprogram⟩ := exists_program_of_invalid hvalid principal group
    show store.Creates line start (.ofResult (StoreProgram.run _ start _).1)
      (StoreProgram.run _ start _).2
    rw [hprogram]
    exact store.creates_of_refusal line start _

end ApplicationRequest

namespace Gateway

variable {state : GatewayState δ} {principal : Principal} {request : Request}
  {names values : List String}

theorem exists_creation_of_authorizedProgram
    {program : StoreProgram (Except GatewayError Response)}
    (h : (authorizedProgram state principal request names values .createSecret).1 =
      .ok program) :
    ∃ group short form,
      program = (ApplicationRequest.createSecret short form).program principal group := by
  unfold authorizedProgram at h
  split at h
  · cases h
  next app short _ =>
    split at h
    · cases h
    next what hread =>
      obtain ⟨form, rfl⟩ := ApplicationRequest.exists_of_map_eq_ok hread
      split at h
      · cases h
      next group _ =>
        dsimp only at h
        split at h
        · cases h
        · cases h
          exact ⟨group, short, form, rfl⟩

theorem network_of_refused {refusal : Response}
    (h : (authorizedProgram state principal request names values .createSecret).1 =
      .error refusal) :
    (serveApplication state principal request names values .createSecret).2.network =
      (authorizedProgram state principal request names values .createSecret).2.network := by
  unfold serveApplication
  generalize authorizedProgram state principal request names values .createSecret = result at h
  obtain ⟨outcome, after⟩ := result
  cases h
  rfl

/-- Whatever the store answers, to a creation of a secret an error is told although the store took
the secret exactly if group and secret were accepted and the question for the details failed, and
then the status is that of this failure. -/
theorem serveApplication_untold (state : GatewayState δ) (principal : Principal)
    (request : Request) (names values : List String) (store : RemoteStore) :
    let before := { state with store := .remote store }
    let network :=
      (authorizedProgram before principal request names values .createSecret).2.network
    let served := serveApplication before principal request names values .createSecret
    store.Creates Network.line network served.1 served.2.network ∧
      ∀ {σ : Type} (line : Line σ) (start : σ) (group : Group) (short : String)
        (form : SecretForm),
        let ran := ((ApplicationRequest.createSecret short form).program principal group).run
          (store.answerOver line) start
        store.Creates line start (.ofResult ran.1) ran.2 := by
  intro before network served
  refine ⟨?_, fun line start => ApplicationRequest.creates_program store line start principal⟩
  cases hprogram : (authorizedProgram before principal request names values .createSecret).1 with
  | error refusal =>
      have hnetwork : served.2.network = network := network_of_refused hprogram
      rw [hnetwork]
      exact store.creates_of_refusal Network.line network served.1
  | ok program =>
      obtain ⟨group, short, form, rfl⟩ := exists_creation_of_authorizedProgram hprogram
      obtain ⟨hresponse, hnetwork⟩ := serveApplication_remote hprogram rfl
      show store.Creates _ _ (serveApplication before _ _ _ _ _).1
        (serveApplication before _ _ _ _ _).2.network
      rw [hresponse, hnetwork]
      exact ApplicationRequest.creates_program store Network.line network principal group short form

/-- The store takes a secret, and the caller is told of an error. -/
theorem serveApplication_untold_of_mute :
    let visit := Visit.muteCreation
    let served := visit.serveRemote ⟨"http://store"⟩
    served.1.status = 502 ∧
      ∃ earlier sent later, served.2.network.carried = earlier ++ sent :: later ∧
        (sent.method, sent.url.toText) = ("POST", "http://store/automation/v2/secrets") ∧
          visit.state.network.deliver earlier sent = .reply 201 [] (some []) := by
  intro visit served
  have hlines : served.2.network.carried.map (fun request => (request.method, request.url.toText)) =
      [("POST", "http://store/automation/v2/groups"),
        ("POST", "http://store/automation/v2/secrets"),
        ("GET", "http://store/automation/v2/secrets/dev_Org_Asm_dev%40key")] := by
    decide +kernel
  obtain ⟨first, rest, hsent, -, hrest⟩ := List.map_eq_cons_iff.mp hlines
  obtain ⟨second, later, rfl, hsecond, -⟩ := List.map_eq_cons_iff.mp hrest
  refine ⟨by decide +kernel, [first], second, later, hsent, hsecond, ?_⟩
  have hmethod : second.method = "POST" := congrArg Prod.fst hsecond
  show Visit.muteNetwork.deliver [first] second = _
  rw [Visit.muteNetwork]
  dsimp only
  rw [hmethod]
  rfl

end Gateway

end AccessGateway
