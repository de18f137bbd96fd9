import AccessGateway.Store.Memory
import AccessGateway.Store.Program
import AccessGateway.Store.Remote

/-!
# Where the secrets are

The gateway keeps its secrets in memory or in a remote store, which it reaches over the network.
-/

namespace AccessGateway

inductive SecretStore where
  | memory (content : MemoryStore)
  | remote (access : RemoteStore)

namespace SecretStore

/-- Answers one question; only a remote store uses the network. -/
def answer : StoreAnswers (SecretStore × Network)
  | (.memory content, network), operation =>
    let (result, content) := content.answer operation
    (result, .memory content, network)
  | (.remote access, network), operation =>
    let (result, network) := access.answer network operation
    (result, .remote access, network)

def secretNames : SecretStore → List String
  | .memory content => content.secrets.names
  | .remote _ => []

/-- In memory a program runs as it runs on the content alone. -/
theorem run_memory {α : Type} (program : StoreProgram α) (content : MemoryStore)
    (network : Network) :
    program.run answer (.memory content, network) =
      ((program.run MemoryStore.answer content).1,
        .memory (program.run MemoryStore.answer content).2, network) := by
  induction program generalizing content with
  | done result => rfl
  | ask operation next ih => exact ih _ _

/-- Over the network a program runs as it runs against the remote store alone. -/
theorem run_remote {α : Type} (program : StoreProgram α) (access : RemoteStore)
    (network : Network) :
    program.run answer (.remote access, network) =
      ((program.run access.answer network).1, .remote access,
        (program.run access.answer network).2) := by
  induction program generalizing network with
  | done result => rfl
  | ask operation next ih => exact ih _ _

end SecretStore

end AccessGateway
