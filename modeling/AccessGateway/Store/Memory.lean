import AccessGateway.Store.Operation

/-!
# A store in memory

Groups, secrets and clients under their names.  A listing shows what belongs to a group that was
created; creating under a name that is taken, and getting or deleting what is not there, fails.
-/

namespace AccessGateway

structure MemoryStore where
  /-- The groups with their descriptions. -/
  groups : NameMap String := []
  /-- The secrets with the groups they belong to. -/
  secrets : NameMap (SecretDetail × List String) := []
  clients : NameMap (ClientDetail × List String) := []
  deriving DecidableEq, Repr

namespace MemoryStore

/-- What belongs to a group, in the order of the names. -/
def membersOf {β : Type} (map : NameMap (β × List String)) (group : String) : List β :=
  (map.values.filter fun entry => entry.2.contains group).map Prod.fst

/-- The details of a secret that was created; its owner is among the metadata. -/
def detailOf (secret : NewSecret) : SecretDetail where
  name := secret.name
  description := secret.description
  createdBy := secret.metadata.find? "owner"

def clientDetailOf (client : NewClient) : ClientDetail where
  name := client.name
  description := client.description

def answer (store : MemoryStore) :
    (operation : StoreOperation) → Except StoreError operation.Answer × MemoryStore
  | .ensureGroup group description =>
    (.ok (),
      if store.groups.contains group then store
      else { store with groups := store.groups.insert group description })
  | .listSecrets group =>
    (if store.groups.contains group then .ok (membersOf store.secrets group)
      else .error (.notFound group), store)
  | .listClients group =>
    (if store.groups.contains group then .ok (membersOf store.clients group)
      else .error (.notFound group), store)
  | .getSecret name =>
    (match store.secrets.find? name with
      | some (detail, _) => .ok detail
      | none => .error (.notFound name), store)
  | .createSecret secret =>
    if store.secrets.contains secret.name then (.error (.conflict secret.name), store)
    else
      (.ok (), { store with
        secrets := store.secrets.insert secret.name (detailOf secret, secret.groups) })
  | .createClient client =>
    if store.clients.contains client.name then (.error (.conflict client.name), store)
    else
      (.ok (), { store with
        clients := store.clients.insert client.name (clientDetailOf client, client.groups) })
  | .deleteSecret name =>
    if store.secrets.contains name then
      (.ok (), { store with secrets := store.secrets.erase name })
    else (.error (.notFound name), store)
  | .deleteClient name =>
    if store.clients.contains name then
      (.ok (), { store with clients := store.clients.erase name })
    else (.error (.notFound name), store)

end MemoryStore

end AccessGateway
