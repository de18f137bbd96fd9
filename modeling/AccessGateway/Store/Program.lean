import AccessGateway.Store.Operation

/-!
# Programs that use the store

A program asks the store one question after another, each depending on the answers before it, and
ends with a result.  What it does is a value; a store is any way to answer questions from a state.
-/

namespace AccessGateway

/-- Questions to the store, and a result. -/
inductive StoreProgram (α : Type) where
  | done (result : α)
  | ask (operation : StoreOperation)
      (next : Except StoreError operation.Answer → StoreProgram α)

/-- How a store with states of type `σ` answers. -/
abbrev StoreAnswers (σ : Type) :=
  σ → (operation : StoreOperation) → Except StoreError operation.Answer × σ

namespace StoreProgram

variable {σ α : Type}

def run (answers : StoreAnswers σ) (state : σ) : StoreProgram α → α × σ
  | .done result => (result, state)
  | .ask operation next =>
    match answers state operation with
    | (answer, state) => run answers state (next answer)

/-- Asks a question and goes on with its answer; a failure is the result. -/
def demand (operation : StoreOperation)
    (next : operation.Answer → StoreProgram (Except GatewayError α)) :
    StoreProgram (Except GatewayError α) :=
  .ask operation fun
    | .ok answer => next answer
    | .error e => .done (.error e.toGateway)

/-- The same, going on with a substitute where the store does not find what was asked for. -/
def demandOr (operation : StoreOperation) (absent : operation.Answer)
    (next : operation.Answer → StoreProgram (Except GatewayError α)) :
    StoreProgram (Except GatewayError α) :=
  .ask operation fun
    | .ok answer => next answer
    | .error (.notFound _) => next absent
    | .error e => .done (.error e.toGateway)

end StoreProgram

end AccessGateway
