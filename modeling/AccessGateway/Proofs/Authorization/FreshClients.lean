import AccessGateway.Authorization.Dispatcher
import AccessGateway.Proofs.Cache.Contents
import AccessGateway.Proofs.Names.UniqueName

/-!
# Decisions with and without kept clients

A dispatcher keeps clients under the qualified names of groups.  A qualified
name determines its group, hence the owner and the endpoint of the client, so a
client that is found is the one that would be built now.  This holds whatever
was evicted, cleared or not built before, and every run of a dispatcher decides
and sends what a run does that builds a client for every question.
-/

namespace AccessGateway

/-- The client that is built for a group. -/
def GroupClient.build (settings : AuthorizationSettings) (group : Group) :
    Except GatewayError GroupClient :=
  ofOwner settings group (group.owner settings)

namespace Dispatcher

/-- A question, in the world in which it is asked, or the dropping of all
clients. -/
inductive Event where
  | ask (group : Group) (principal : Principal) (teams : TeamRepository) (network : Network)
  | clear

/-- A decision, the team repository with what was looked up for it, and the network with what was
sent for it. -/
abbrev Outcome := Except GatewayError Bool × TeamRepository × Network

/-- The decisions of a run, and the dispatcher after it. -/
def run (dispatcher : Dispatcher) : List Event → List Outcome × Dispatcher
  | [] => ([], dispatcher)
  | .clear :: events => run { dispatcher with clients := dispatcher.clients.clear } events
  | .ask group principal teams network :: events =>
    let (result, after, world) := dispatcher.authorize teams network group principal
    let (outcomes, last) := run after events
    ((result, world) :: outcomes, last)

/-- The decision with a client that is built for this question only. -/
def authorizeAfresh (settings : AuthorizationSettings) (teams : TeamRepository)
    (network : Network) (group : Group) (principal : Principal) : Outcome :=
  match GroupClient.build settings group with
  | .error e => (.error e, teams, network)
  | .ok client => client.authorize teams network group principal

/-- The decisions of a run in which a client is built for every question. -/
def runAfresh (settings : AuthorizationSettings) : List Event → List Outcome
  | [] => []
  | .clear :: events => runAfresh settings events
  | .ask group principal teams network :: events =>
    authorizeAfresh settings teams network group principal :: runAfresh settings events

/-- Every client that is kept was built for a group of the name it is kept
under. -/
structure KeepsBuilt (settings : AuthorizationSettings) (dispatcher : Dispatcher) : Prop where
  settings_eq : dispatcher.settings = settings
  built :
    ∀ {key : String} {client : GroupClient}, dispatcher.clients.Holds key client →
      ∃ group : Group, key = group.qualifiedName ∧
        GroupClient.build settings group = .ok client

theorem keepsBuilt_ofSettings (settings : AuthorizationSettings) :
    KeepsBuilt settings (ofSettings settings) where
  settings_eq := rfl
  built h := absurd h (Cache.not_holds_ofCapacity _ _ _ _)

namespace KeepsBuilt

variable {settings : AuthorizationSettings} {dispatcher : Dispatcher}

/-- The client under the name of a group is the one to be built for it. -/
theorem build_eq (h : KeepsBuilt settings dispatcher) {group : Group}
    {client : GroupClient} (hheld : dispatcher.clients.Holds group.qualifiedName client) :
    GroupClient.build settings group = .ok client := by
  obtain ⟨maker, hkey, hbuild⟩ := h.built hheld
  rw [Group.qualifiedName_injective hkey]
  exact hbuild

theorem result_getOrInsert (h : KeepsBuilt settings dispatcher) (group : Group) :
    (dispatcher.clients.getOrInsert group.qualifiedName
      (GroupClient.build settings group)).1.result = GroupClient.build settings group := by
  rcases Cache.result_getOrInsert dispatcher.clients group.qualifiedName
      (GroupClient.build settings group) with hcomputed | ⟨client, hheld, hresult⟩
  · exact hcomputed
  · rw [hresult, h.build_eq hheld]

/-- One question: the decision is the one with a fresh client. -/
theorem authorize_eq (h : KeepsBuilt settings dispatcher) (teams : TeamRepository)
    (network : Network) (group : Group) (principal : Principal) :
    ∃ decisions,
      dispatcher.authorize teams network group principal =
        ((authorizeAfresh settings teams network group principal).1,
          ⟨settings,
            (dispatcher.clients.getOrInsert group.qualifiedName
              (GroupClient.build settings group)).2, decisions⟩,
          (authorizeAfresh settings teams network group principal).2) := by
  have hresult := h.result_getOrInsert group
  have hsettings := h.settings_eq
  subst hsettings
  have hbuild :
      GroupClient.ofOwner dispatcher.settings group (group.owner dispatcher.settings) =
        GroupClient.build dispatcher.settings group := rfl
  unfold authorize authorizeAfresh
  simp only [hbuild]
  rcases hlookup : dispatcher.clients.getOrInsert group.qualifiedName
      (GroupClient.build dispatcher.settings group) with ⟨⟨called, result⟩, clients⟩
  rw [hlookup] at hresult
  simp only at hresult
  rw [← hresult]
  dsimp only
  cases result with
  | error e => exact ⟨_, rfl⟩
  | ok client => exact ⟨_, rfl⟩

theorem clear (h : KeepsBuilt settings dispatcher) :
    KeepsBuilt settings { dispatcher with clients := dispatcher.clients.clear } where
  settings_eq := h.settings_eq
  built hheld := absurd hheld (Cache.not_holds_clear _ _ _)

/-- A question keeps nothing but the client that is built for its group. -/
theorem authorize (h : KeepsBuilt settings dispatcher) (teams : TeamRepository)
    (network : Network) (group : Group) (principal : Principal) :
    KeepsBuilt settings (dispatcher.authorize teams network group principal).2.1 := by
  obtain ⟨decisions, heq⟩ := h.authorize_eq teams network group principal
  rw [heq]
  refine ⟨rfl, ?_⟩
  intro key client hheld
  rcases Cache.Holds.of_getOrInsert hheld with ⟨hkey, hbuild⟩ | hbefore
  · exact ⟨group, hkey, hbuild⟩
  · exact h.built hbefore

/-- A client that cannot be built is an error, and changes no entry. -/
theorem entries_authorize_of_error (h : KeepsBuilt settings dispatcher) {group : Group}
    {e : GatewayError} (hbuild : GroupClient.build settings group = .error e)
    (teams : TeamRepository) (network : Network) (principal : Principal) :
    (dispatcher.authorize teams network group principal).2.1.clients.entries =
      dispatcher.clients.entries := by
  have hnone : ∀ client, ¬ dispatcher.clients.Holds group.qualifiedName client := by
    intro client hheld
    have hok := h.build_eq hheld
    rw [hbuild] at hok
    cases hok
  obtain ⟨decisions, heq⟩ := h.authorize_eq teams network group principal
  rw [heq, hbuild, Cache.getOrInsert_error e hnone]
  rfl

theorem run (h : KeepsBuilt settings dispatcher) (events : List Event) :
    (dispatcher.run events).1 = runAfresh settings events ∧
      KeepsBuilt settings (dispatcher.run events).2 := by
  induction events generalizing dispatcher with
  | nil => exact ⟨rfl, h⟩
  | cons event events ih =>
      cases event with
      | clear => exact ih h.clear
      | ask group principal teams network =>
          obtain ⟨decisions, heq⟩ := h.authorize_eq teams network group principal
          have hafter := h.authorize teams network group principal
          obtain ⟨houtcomes, hlast⟩ := ih hafter
          rw [heq] at houtcomes hlast
          simp only [Dispatcher.run, runAfresh, heq]
          exact ⟨by rw [houtcomes], hlast⟩

end KeepsBuilt

/-- Whatever is asked and cleared, a dispatcher decides and sends what it would
with a client built for every question.  A kept client belongs to the one group
of its name, with its domain and owner, and a client that could not be built is
not kept. -/
theorem run_eq_runAfresh (settings : AuthorizationSettings) (events : List Event) :
    ((ofSettings settings).run events).1 = runAfresh settings events ∧
      (∀ {key : String} {client : GroupClient},
        ((ofSettings settings).run events).2.clients.Holds key client →
          ∃ maker : Group, key = maker.qualifiedName ∧
            GroupClient.ofOwner settings maker (maker.owner settings) = .ok client ∧
            ∀ group : Group, group.qualifiedName = key →
              group.domain = maker.domain ∧ group.owner settings = maker.owner settings) ∧
      ∀ (group : Group) (e : GatewayError),
        GroupClient.ofOwner settings group (group.owner settings) = .error e →
          ∀ (teams : TeamRepository) (network : Network) (principal : Principal),
            let last := ((ofSettings settings).run events).2
            let after := (last.authorize teams network group principal).2.1
            after.clients.entries = last.clients.entries ∧
              ∀ client, ¬ after.clients.Holds group.qualifiedName client := by
  obtain ⟨houtcomes, hkeeps⟩ := (keepsBuilt_ofSettings settings).run events
  refine ⟨houtcomes, ?_, ?_⟩
  · intro key client hheld
    obtain ⟨maker, hkey, hbuild⟩ := hkeeps.built hheld
    refine ⟨maker, hkey, hbuild, ?_⟩
    intro group hgroup
    have hsame : group = maker := Group.qualifiedName_injective (hgroup.trans hkey)
    subst hsame
    exact ⟨rfl, rfl⟩
  · intro group e hbuild teams network principal
    refine ⟨hkeeps.entries_authorize_of_error hbuild teams network principal, ?_⟩
    intro client hheld
    have hok := (hkeeps.authorize teams network group principal).build_eq hheld
    rw [GroupClient.build, hbuild] at hok
    cases hok

end Dispatcher

end AccessGateway
