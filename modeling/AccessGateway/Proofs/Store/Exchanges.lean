import AccessGateway.Store.Program

/-!
# What passes between a program and a store

The exchanges of a run are the questions that were asked, each with its answer.
A question that is demanded goes on with its answer or ends the program.
A program whose questions all satisfy a predicate, whatever it is answered, can
be followed through a run: an invariant of the store that such questions keep
holds at every exchange and at the end.
-/

namespace AccessGateway

/-- A question with the answer to it. -/
abbrev StoreExchange := (operation : StoreOperation) × Except StoreError operation.Answer

namespace StoreProgram

variable {σ τ α : Type}

/-- What passes between a program and a store when it is run. -/
def exchanges (answers : StoreAnswers σ) (state : σ) : StoreProgram α → List StoreExchange
  | .done _ => []
  | .ask operation next =>
    ⟨operation, (answers state operation).1⟩ ::
      exchanges answers (answers state operation).2 (next (answers state operation).1)

/-- Whatever it is answered, a program asks only such questions. -/
def Asks (allowed : StoreOperation → Prop) : StoreProgram α → Prop
  | .done _ => True
  | .ask operation next => allowed operation ∧ ∀ answer, Asks allowed (next answer)

/-- Whatever it is answered, a program ends with such a result. -/
def Ends (expected : α → Prop) : StoreProgram α → Prop
  | .done result => expected result
  | .ask _ next => ∀ answer, Ends expected (next answer)

/-- Nothing but the exchanges of a run changes the store. -/
theorem run_snd_eq_foldl (answers : StoreAnswers σ) (state : σ) (program : StoreProgram α) :
    (program.run answers state).2 =
      (program.exchanges answers state).foldl
        (fun state exchange => (answers state exchange.1).2) state := by
  induction program generalizing state with
  | done result => rfl
  | ask operation next ih => exact ih _ _

section Demand

variable {answers : StoreAnswers σ} {state after : σ} {operation : StoreOperation}
  {next : operation.Answer → StoreProgram (Except GatewayError α)}

theorem run_demand_ok {answer : operation.Answer}
    (h : answers state operation = (.ok answer, after)) :
    (demand operation next).run answers state = (next answer).run answers after := by
  simp only [demand, run, h]

theorem run_demand_error {e : StoreError}
    (h : answers state operation = (.error e, after)) :
    (demand operation next).run answers state = (.error e.toGateway, after) := by
  simp only [demand, run, h]

theorem run_demandOr_ok {absent answer : operation.Answer}
    (h : answers state operation = (.ok answer, after)) :
    (demandOr operation absent next).run answers state = (next answer).run answers after := by
  simp only [demandOr, run, h]

theorem run_demandOr_notFound {absent : operation.Answer} {what : String}
    (h : answers state operation = (.error (.notFound what), after)) :
    (demandOr operation absent next).run answers state = (next absent).run answers after := by
  simp only [demandOr, run, h]

theorem run_demandOr_error {absent : operation.Answer} {e : StoreError}
    (h : answers state operation = (.error e, after)) (he : ∀ what, e ≠ .notFound what) :
    (demandOr operation absent next).run answers state = (.error e.toGateway, after) := by
  cases e with
  | notFound what => exact absurd rfl (he what)
  | _ => simp only [demandOr, run, h]

end Demand

section Ends

variable {expected : Except GatewayError α → Prop}

theorem ends_demand {operation : StoreOperation}
    {next : operation.Answer → StoreProgram (Except GatewayError α)}
    (herror : ∀ e, expected (.error e)) (hnext : ∀ answer, (next answer).Ends expected) :
    (demand operation next).Ends expected := by
  intro answer
  cases answer with
  | ok answer => exact hnext answer
  | error e => exact herror e.toGateway

theorem ends_demandOr {operation : StoreOperation} (absent : operation.Answer)
    {next : operation.Answer → StoreProgram (Except GatewayError α)}
    (herror : ∀ e, expected (.error e)) (hnext : ∀ answer, (next answer).Ends expected) :
    (demandOr operation absent next).Ends expected := by
  intro answer
  cases answer with
  | ok answer => exact hnext answer
  | error e =>
      cases e with
      | notFound what => exact hnext absent
      | _ => exact herror _

theorem Ends.run {β : Type} {expected : β → Prop} {program : StoreProgram β}
    (h : program.Ends expected) (answers : StoreAnswers σ) (state : σ) :
    expected (program.run answers state).1 := by
  induction program generalizing state with
  | done result => exact h
  | ask operation next ih => exact ih _ (h _) _

end Ends

section Asks

variable {allowed : StoreOperation → Prop}

theorem asks_demand {operation : StoreOperation}
    {next : operation.Answer → StoreProgram (Except GatewayError α)}
    (hoperation : allowed operation) (hnext : ∀ answer, (next answer).Asks allowed) :
    (demand operation next).Asks allowed := by
  refine ⟨hoperation, ?_⟩
  intro answer
  cases answer with
  | ok answer => exact hnext answer
  | error e => trivial

theorem asks_demandOr {operation : StoreOperation} (absent : operation.Answer)
    {next : operation.Answer → StoreProgram (Except GatewayError α)}
    (hoperation : allowed operation) (hnext : ∀ answer, (next answer).Asks allowed) :
    (demandOr operation absent next).Asks allowed := by
  refine ⟨hoperation, ?_⟩
  intro answer
  cases answer with
  | ok answer => exact hnext answer
  | error e =>
      cases e with
      | notFound what => exact hnext absent
      | _ => trivial

variable {answers : StoreAnswers σ}

theorem invariant_run (invariant : σ → Prop)
    (hkeeps : ∀ state operation, allowed operation → invariant state →
      invariant (answers state operation).2)
    {program : StoreProgram α} (hasks : program.Asks allowed) {state : σ}
    (hstate : invariant state) : invariant (program.run answers state).2 := by
  induction program generalizing state with
  | done result => exact hstate
  | ask operation next ih =>
      exact ih _ (hasks.2 _) (hkeeps state operation hasks.1 hstate)

/-- Every exchange is an allowed question with the answer of a state in which
the invariant holds. -/
theorem of_mem_exchanges (invariant : σ → Prop)
    (hkeeps : ∀ state operation, allowed operation → invariant state →
      invariant (answers state operation).2)
    {program : StoreProgram α} (hasks : program.Asks allowed) {state : σ}
    (hstate : invariant state) {exchange : StoreExchange}
    (hmem : exchange ∈ program.exchanges answers state) :
    allowed exchange.1 ∧
      ∃ state, invariant state ∧ exchange.2 = (answers state exchange.1).1 := by
  induction program generalizing state with
  | done result => simp [exchanges] at hmem
  | ask operation next ih =>
      rcases List.mem_cons.mp hmem with rfl | hlater
      · exact ⟨hasks.1, state, hstate, rfl⟩
      · exact ih _ (hasks.2 _) (hkeeps state operation hasks.1 hstate) hlater

/-- Two stores that answer allowed questions alike, and stay related by them,
give a program the same result. -/
theorem run_eq_of_related {others : StoreAnswers τ} (related : σ → τ → Prop)
    (hstep : ∀ state other operation, allowed operation → related state other →
      (answers state operation).1 = (others other operation).1 ∧
        related (answers state operation).2 (others other operation).2)
    {program : StoreProgram α} (hasks : program.Asks allowed) {state : σ} {other : τ}
    (hrelated : related state other) :
    (program.run answers state).1 = (program.run others other).1 := by
  induction program generalizing state other with
  | done result => rfl
  | ask operation next ih =>
      obtain ⟨hanswer, hafter⟩ := hstep state other operation hasks.1 hrelated
      simp only [run]
      rw [← hanswer]
      exact ih _ (hasks.2 _) hafter

end Asks

end StoreProgram

end AccessGateway
