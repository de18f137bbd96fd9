import AccessGateway.Http.Message
import AccessGateway.Proofs.Store.Exchanges
import AccessGateway.Proofs.Store.Replies

/-!
# Questions one after another

A program that demands one answer after another has a list of questions.  Over every line it asks
them in this order until one fails, and it ends with what tells of the failure, or with a success
if there was none.
-/

namespace AccessGateway

variable {σ : Type}

/-- What passes over a line when questions are asked in order until one fails. -/
inductive RemoteStore.Course (store : RemoteStore) (line : Line σ) :
    σ → List StoreOperation → List (StoreOperation × FinalReply) → σ → Prop
  | done (state : σ) : Course store line state [] [] state
  | stopped {state after : σ} {operation : StoreOperation} {reply : FinalReply} {detail : String}
      {status : Nat} (hsent : line state (store.plan operation) = (reply, detail, after))
      (hfails : operation.Fails reply status) (rest : List StoreOperation) :
      Course store line state (operation :: rest) [(operation, reply)] after
  | went {state after last : σ} {operation : StoreOperation} {reply : FinalReply}
      {detail : String} {rest : List StoreOperation} {passed : List (StoreOperation × FinalReply)}
      (hsent : line state (store.plan operation) = (reply, detail, after))
      (hholds : ∀ status, ¬ operation.Fails reply status)
      (hrest : Course store line after rest passed last) :
      Course store line state (operation :: rest) ((operation, reply) :: passed) last

/-- The answer to the caller tells what came of the questions. -/
structure Response.Reports (response : Response) (passed : List (StoreOperation × FinalReply)) :
    Prop where
  success_iff : isSuccess response.status = true ↔
    ∀ exchange ∈ passed, ∀ status, ¬ exchange.1.Fails exchange.2 status
  status_of_failure : ∀ exchange ∈ passed, ∀ status, exchange.1.Fails exchange.2 status →
    response.status = status
  empty_of_absent : ∀ exchange ∈ passed, exchange.1.Absent exchange.2 →
    response = .ofJson 200 (.array [])

namespace Response.Reports

variable {response : Response} {operation : StoreOperation} {reply : FinalReply}
  {passed : List (StoreOperation × FinalReply)}

theorem of_nothing (h : isSuccess response.status = true) : response.Reports [] where
  success_iff := by simp [h]
  status_of_failure := by simp
  empty_of_absent := by simp

theorem of_failure (h : operation.Fails reply response.status) :
    response.Reports [(operation, reply)] where
  success_iff := by
    simp only [List.forall_mem_singleton, h.isSuccess_eq_false]
    constructor
    · intro habsurd
      cases habsurd
    · intro hholds
      exact absurd h (hholds _)
  status_of_failure := by
    simp only [List.forall_mem_singleton]
    intro status hfails
    exact h.unique hfails
  empty_of_absent := by
    simp only [List.forall_mem_singleton]
    intro habsent
    exact absurd habsent h.not_absent

theorem of_absent (h : operation.Absent reply) :
    (Response.ofJson 200 (.array [])).Reports [(operation, reply)] where
  success_iff := by
    simp only [List.forall_mem_singleton]
    refine iff_of_true rfl ?_
    intro status hfails
    exact hfails.not_absent h
  status_of_failure := by
    simp only [List.forall_mem_singleton]
    intro status hfails
    exact absurd h hfails.not_absent
  empty_of_absent := by simp

theorem cons (hholds : ∀ status, ¬ operation.Fails reply status)
    (hthere : ¬ operation.Absent reply) (h : response.Reports passed) :
    response.Reports ((operation, reply) :: passed) where
  success_iff := by
    rw [List.forall_mem_cons, h.success_iff]
    exact (and_iff_right hholds).symm
  status_of_failure := by
    rw [List.forall_mem_cons]
    refine ⟨?_, h.status_of_failure⟩
    intro status hfails
    exact absurd hfails (hholds status)
  empty_of_absent := by
    rw [List.forall_mem_cons]
    refine ⟨?_, h.empty_of_absent⟩
    intro habsent
    exact absurd habsent hthere

end Response.Reports

/-- What comes back for one question, and what it is read as. -/
theorem RemoteStore.exists_reading (store : RemoteStore) (line : Line σ) (start : σ)
    (operation : StoreOperation) :
    ∃ reply detail result after, line start (store.plan operation) = (reply, detail, after) ∧
      store.answerOver line start operation = (result, after) ∧
        operation.Reading reply result := by
  rcases hsent : line start (store.plan operation) with ⟨reply, detail, after⟩
  refine ⟨reply, detail, read operation detail reply, after, rfl, ?_, ?_⟩
  · rw [answerOver, hsent]
  · exact operation.reading_read detail reply

namespace StoreProgram

/-- Over every line a program asks these questions in order until one fails, and its result tells
what came of them. -/
def Follows (program : StoreProgram (Except GatewayError Response))
    (questions : List StoreOperation) : Prop :=
  ∀ {σ : Type} (store : RemoteStore) (line : Line σ) (start : σ),
    ∃ passed,
      store.Course line start questions passed (program.run (store.answerOver line) start).2 ∧
        (Response.ofResult (program.run (store.answerOver line) start).1).Reports passed

theorem follows_done {response : Response} (h : isSuccess response.status = true) :
    Follows (.done (.ok response)) [] := by
  intro σ store line start
  exact ⟨[], .done start, .of_nothing h⟩

theorem follows_demand {operation : StoreOperation} {rest : List StoreOperation}
    {next : operation.Answer → StoreProgram (Except GatewayError Response)}
    (hlisting : ¬ operation.IsListing) (hnext : ∀ answer, (next answer).Follows rest) :
    (demand operation next).Follows (operation :: rest) := by
  intro σ store line start
  obtain ⟨reply, detail, result, after, hsent, hanswer, hreading⟩ :=
    store.exists_reading line start operation
  cases hreading with
  | answered answer hholds hthere =>
      rw [run_demand_ok hanswer]
      obtain ⟨passed, hcourse, hreports⟩ := hnext answer store line after
      exact ⟨_, .went hsent hholds hcourse, .cons hholds hthere hreports⟩
  | absent what habsent => exact absurd habsent.1 hlisting
  | failed hfails =>
      rw [run_demand_error hanswer]
      exact ⟨_, .stopped hsent hfails rest, .of_failure hfails⟩

theorem follows_listing {operation : StoreOperation} {absent : operation.Answer}
    {respond : operation.Answer → Response} (hlisting : operation.IsListing)
    (hsuccess : ∀ answer, isSuccess (respond answer).status = true)
    (habsent : respond absent = .ofJson 200 (.array [])) :
    (demandOr operation absent fun answer => .done (.ok (respond answer))).Follows
      [operation] := by
  intro σ store line start
  obtain ⟨reply, detail, result, after, hsent, hanswer, hreading⟩ :=
    store.exists_reading line start operation
  cases hreading with
  | answered answer hholds hthere =>
      rw [run_demandOr_ok hanswer]
      exact ⟨_, .went hsent hholds (.done after),
        .cons hholds hthere (.of_nothing (hsuccess answer))⟩
  | absent what hmissing =>
      rw [run_demandOr_notFound hanswer]
      refine ⟨_, .went hsent ?_ (.done after), ?_⟩
      · intro status hfails
        exact hfails.not_absent hmissing
      · show (respond absent).Reports _
        rw [habsent]
        exact .of_absent hmissing
  | failed hfails hthere =>
      rw [run_demandOr_error hanswer (hthere hlisting)]
      exact ⟨_, .stopped hsent hfails [], .of_failure hfails⟩

end StoreProgram

theorem Network.of_line {network after : Network} {plan : RequestPlan} {reply : FinalReply}
    {detail : String} (h : network.line plan = (reply, detail, after)) :
    after.sent = network.sent ++ plan.prepare.toOption.toList := by
  rw [← plan.sent_send network]
  exact (congrArg (·.2.2.sent) h).symm

/-- What is sent to a network: the request of every question that was asked, unless its plan is no
request. -/
theorem RemoteStore.Course.sent {store : RemoteStore} {start last : Network}
    {questions : List StoreOperation} {passed : List (StoreOperation × FinalReply)}
    (h : store.Course Network.line start questions passed last) :
    last.sent = start.sent ++
      passed.flatMap fun exchange => (store.plan exchange.1).prepare.toOption.toList := by
  induction h with
  | done state => simp
  | stopped hsent hfails rest => simpa using Network.of_line hsent
  | went hsent hholds hrest ih =>
      rw [ih, Network.of_line hsent]
      simp

end AccessGateway
