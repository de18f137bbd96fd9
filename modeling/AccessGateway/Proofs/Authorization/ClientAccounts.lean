import AccessGateway.Proofs.Authorization.FreshClients
import AccessGateway.Proofs.Cache.Accounting

/-!
# The accounts of the clients that are kept

To its clients a dispatcher does two things: it looks one up and builds it if it is
missing, and it drops all of them.  They do not expire and none takes the place of
another, so each client that was built is there, was evicted or has been dropped.
-/

namespace AccessGateway.Dispatcher

/-- What an event of a run does to the clients. -/
def Event.onClients (settings : AuthorizationSettings) :
    Event → CacheEvent String GroupClient GatewayError
  | .ask group _ _ _ =>
    .call (.getOrInsert group.qualifiedName (GroupClient.build settings group))
  | .clear => .call .clear

theorem isInsert_onClients (settings : AuthorizationSettings) (events : List Event) :
    ∀ event ∈ events.map (·.onClients settings), event.isInsert = false := by
  intro event hmem
  obtain ⟨asked, -, rfl⟩ := List.mem_map.mp hmem
  cases asked <;> rfl

variable {settings : AuthorizationSettings} {dispatcher : Dispatcher}

theorem KeepsBuilt.clients_run (h : KeepsBuilt settings dispatcher) (events : List Event)
    (stage : Nat → String → Option LookupStage) :
    (SharedCache.run (events.map (·.onClients settings)) ⟨dispatcher.clients, stage⟩).2.cache =
      (dispatcher.run events).2.clients := by
  induction events generalizing dispatcher with
  | nil => rfl
  | cons event events ih =>
      cases event with
      | clear => exact ih h.clear
      | ask group principal teams network =>
          obtain ⟨decisions, heq⟩ := h.authorize_eq teams network group principal
          have hrest := ih (h.authorize teams network group principal)
          rw [heq] at hrest
          simp only [Dispatcher.run, heq]
          exact hrest

/-- Whatever is done to a cache, also between the steps of a lookup: each lookup is a hit or a
miss, each insertion is an insert or a computation that succeeded, and each inserted entry is
there, was evicted, has been dropped as expired or by a clear, or was overwritten.  Without a time
to live and without inserts, as the clients are kept, each value that was computed is there, was
evicted or has been cleared; so it is with the clients that a dispatcher has built. -/
theorem run_accounts {κ β ε : Type} [DecidableEq κ] (capacity : Nat) (timeToLive : Option Nat)
    (events : List (CacheEvent κ β ε)) (settings : AuthorizationSettings) (asked : List Event) :
    (let start : SharedCache κ β := .ofCapacity capacity timeToLive
     SharedCache.Accounts (SharedCache.run events start).2.cache (SharedCache.run events start).1
       (SharedCache.departed events start)) ∧
    (let start : SharedCache κ β := .ofCapacity capacity none
     let lookups := events.filter fun event => !event.isInsert
     let cache := (SharedCache.run lookups start).2.cache
     ((SharedCache.run lookups start).1.countP fun entry => entry.1.computes entry.2) =
       cache.size + cache.evictions + (SharedCache.departed lookups start).cleared) ∧
    let start : SharedCache String GroupClient := .ofCapacity settings.clientCacheCapacity none
    let calls := asked.map (·.onClients settings)
    let clients := ((ofSettings settings).run asked).2.clients
    (SharedCache.run calls start).2.cache = clients ∧
      ((SharedCache.run calls start).1.countP fun entry => entry.1.computes entry.2) =
        clients.size + clients.evictions + (SharedCache.departed calls start).cleared := by
  refine ⟨SharedCache.accounts_of_run capacity timeToLive events, ?_, ?_⟩
  · apply SharedCache.computations_of_run capacity
    intro event hmem
    simpa using (List.mem_filter.mp hmem).2
  · intro start calls clients
    have hclients : (SharedCache.run calls start).2.cache = clients :=
      (keepsBuilt_ofSettings settings).clients_run asked start.stage
    have hcomputed := SharedCache.computations_of_run settings.clientCacheCapacity
      (isInsert_onClients settings asked)
    refine ⟨hclients, ?_⟩
    rw [← hclients]
    exact hcomputed

end AccessGateway.Dispatcher
