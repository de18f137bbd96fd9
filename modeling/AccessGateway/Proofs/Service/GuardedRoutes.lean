import AccessGateway.Proofs.Routing.Listing
import AccessGateway.Service.Gateway

/-!
# Which requests meet a guarded endpoint

The prefix of the relay is free, so its routes may be joined with others or lie
between them.  Whatever the prefix is, a path and a method of the user or of the
groups lead to a guarded endpoint, and so does every path under the prefix that
no other route has.  An open endpoint is met on its own path and method only.
-/

namespace AccessGateway

open RouteTable

namespace Endpoint

def isGuarded : Endpoint → Bool
  | .free _ => false
  | .guarded _ => true

theorem isGuarded_iff {endpoint : Endpoint} :
    endpoint.isGuarded = true ↔ ∃ e, endpoint = .guarded e := by
  cases endpoint <;> simp [isGuarded]

theorem isGuarded_of_mem_fixedGuarded :
    ∀ entry ∈ fixedGuarded, ∀ handler ∈ entry.2, handler.2.isGuarded = true := by
  decide +kernel

theorem textsApart_fixedOpen (environment : Environment) :
    ∀ entry ∈ fixedGuarded, ∀ other ∈ fixedOpen environment,
      Template.textsApart entry.1 other.1 = true := by
  cases environment <;> decide +kernel

theorem textsApart_fixedGuarded :
    ∀ entry ∈ fixedGuarded, ∀ other ∈ fixedGuarded,
      entry.1 = other.1 ∨ Template.textsApart entry.1 other.1 = true := by
  decide +kernel

theorem textUnslashed_fixedGuarded :
    ∀ entry ∈ fixedGuarded, Template.textUnslashed entry.1 = true := by
  decide +kernel

section

variable {P : Route Endpoint → Prop} {table after : RouteTable Endpoint}
  {entries : List (String × List (String × Endpoint))}

theorem exists_mem_addAll (hP : Additive P) (h : addAll table entries = .ok after) :
    (∃ r ∈ after, P r) ↔ (∃ r ∈ table, P r) ∨
      ∃ entry ∈ entries, ∃ template, Template.parse? entry.1 = some template ∧
        P ⟨template, entry.2, none⟩ := by
  induction entries generalizing table with
  | nil =>
      cases h
      simp
  | cons entry rest ih =>
      simp only [addAll] at h
      split at h
      next larger hadd =>
        rw [ih h, exists_mem_add hP hadd]
        simp only [List.mem_cons, or_and_right, exists_or, exists_eq_left, or_assoc]
      · cases h

theorem wellFormed_addAll (htable : table.WellFormed) (h : addAll table entries = .ok after) :
    after.WellFormed := by
  induction entries generalizing table with
  | nil =>
      cases h
      exact htable
  | cons entry rest ih =>
      simp only [addAll] at h
      split at h
      next larger hadd => exact ih (htable.add hadd) h
      · cases h

end

end Endpoint

namespace Gateway

def relayTexts (settings : ProxySettings) : List String :=
  [relayPrefix settings, relayPrefix settings ++ "/*path"]

section

variable {settings : Settings} {gateway : Gateway} {routes : RouteTable Endpoint}
  {policy : OriginPolicy}

theorem frame_of_ofSettings (h : ofSettings settings = .ok gateway) :
    frame settings = .ok (gateway.routes, gateway.policy) :=
  (parts_of_ofSettings h).2.2.2

/-- What building the table and the policy can come to, and for which reason. -/
inductive FrameOf (settings : Settings) :
    Except StartFailure (RouteTable Endpoint × OriginPolicy) → Prop where
  | unguarded {fault : RouteFault}
      (hguarded : Endpoint.guardedRoutes (relayPrefix settings.proxy) = .error fault) :
      FrameOf settings (.error (.badRoute fault))
  | unnamed {guarded : RouteTable Endpoint}
      (hguarded : Endpoint.guardedRoutes (relayPrefix settings.proxy) = .ok guarded)
      (hname : Headers.name? settings.token.header = none) :
      FrameOf settings (.error (.refused (tokenHeaderError settings.token.header)))
  | unmerged {guarded : RouteTable Endpoint} {tokenHeader : String} {fault : RouteFault}
      (hguarded : Endpoint.guardedRoutes (relayPrefix settings.proxy) = .ok guarded)
      (hname : Headers.name? settings.token.header = some tokenHeader)
      (hmerged : (Endpoint.openRoutes settings.environment).bind (RouteTable.merge · guarded) =
        .error fault) :
      FrameOf settings (.error (.badRoute fault))
  | wildcard {guarded routes : RouteTable Endpoint} {tokenHeader : String}
      (hguarded : Endpoint.guardedRoutes (relayPrefix settings.proxy) = .ok guarded)
      (hname : Headers.name? settings.token.header = some tokenHeader)
      (hmerged : (Endpoint.openRoutes settings.environment).bind (RouteTable.merge · guarded) =
        .ok routes)
      (hpolicy : OriginPolicy.ofOrigins? settings.allowedOrigins tokenHeader = none) :
      FrameOf settings (.error .wildcardOrigin)
  | built {guarded routes : RouteTable Endpoint} {tokenHeader : String} {policy : OriginPolicy}
      (hguarded : Endpoint.guardedRoutes (relayPrefix settings.proxy) = .ok guarded)
      (hname : Headers.name? settings.token.header = some tokenHeader)
      (hmerged : (Endpoint.openRoutes settings.environment).bind (RouteTable.merge · guarded) =
        .ok routes)
      (hpolicy : OriginPolicy.ofOrigins? settings.allowedOrigins tokenHeader = some policy) :
      FrameOf settings (.ok (routes, policy))

theorem frameOf_frame (settings : Settings) : FrameOf settings (frame settings) := by
  unfold frame
  cases hguarded : Endpoint.guardedRoutes (relayPrefix settings.proxy) with
  | error fault => exact .unguarded hguarded
  | ok guarded =>
      cases hname : Headers.name? settings.token.header with
      | none => exact .unnamed hguarded hname
      | some tokenHeader =>
          dsimp only
          cases hmerged :
              (Endpoint.openRoutes settings.environment).bind (RouteTable.merge · guarded) with
          | error fault => exact .unmerged hguarded hname hmerged
          | ok routes =>
              dsimp only
              cases hpolicy : OriginPolicy.ofOrigins? settings.allowedOrigins tokenHeader with
              | none => exact .wildcard hguarded hname hmerged hpolicy
              | some policy => exact .built hguarded hname hmerged hpolicy

theorem of_bind_eq_ok {ε α β : Type} {first : Except ε α} {next : α → Except ε β} {b : β}
    (h : (first >>= next) = .ok b) : ∃ a, first = .ok a ∧ next a = .ok b := by
  cases first with
  | error e => cases h
  | ok a => exact ⟨a, rfl, h⟩

theorem of_frame_eq_ok (h : frame settings = .ok (routes, policy)) :
    ∃ opened guarded,
      Endpoint.openRoutes settings.environment = .ok opened ∧
        Endpoint.guardedRoutes (relayPrefix settings.proxy) = .ok guarded ∧
          RouteTable.merge opened guarded = .ok routes := by
  cases h ▸ frameOf_frame settings with
  | built hguarded _ hmerged _ =>
      obtain ⟨opened, hopened, hmerged⟩ := of_bind_eq_ok hmerged
      exact ⟨opened, _, hopened, hguarded, hmerged⟩

theorem of_guardedRoutes {relayPrefix : String} {guarded : RouteTable Endpoint}
    (h : Endpoint.guardedRoutes relayPrefix = .ok guarded) :
    ∃ fixed larger,
      Endpoint.addAll [] Endpoint.fixedGuarded = .ok fixed ∧
        fixed.add relayPrefix [] (some (.guarded .relay)) = .ok larger ∧
          larger.add (relayPrefix ++ "/*path") [] (some (.guarded .relay)) = .ok guarded := by
  rw [Endpoint.guardedRoutes] at h
  obtain ⟨fixed, hfixed, hrelay⟩ := of_bind_eq_ok h
  obtain ⟨larger, hlarger, hlast⟩ := of_bind_eq_ok hrelay
  exact ⟨fixed, larger, hfixed, hlarger, hlast⟩

/-- The guarded table offers what the fixed guarded routes and the relay do. -/
theorem exists_mem_guardedRoutes {settings : ProxySettings} {guarded : RouteTable Endpoint}
    (h : Endpoint.guardedRoutes (relayPrefix settings) = .ok guarded)
    {P : Route Endpoint → Prop} (hP : Additive P) :
    (∃ r ∈ guarded, P r) ↔
      (∃ entry ∈ Endpoint.fixedGuarded,
        ∃ template, Template.parse? entry.1 = some template ∧ P ⟨template, entry.2, none⟩) ∨
      ∃ text ∈ relayTexts settings,
        ∃ template, Template.parse? text = some template ∧
          P ⟨template, [], some (.guarded .relay)⟩ := by
  obtain ⟨fixed, larger, hfixed, hlarger, hlast⟩ := of_guardedRoutes h
  rw [exists_mem_add hP hlast, exists_mem_add hP hlarger, Endpoint.exists_mem_addAll hP hfixed]
  simp only [relayTexts, List.mem_cons, List.not_mem_nil, or_false, or_and_right, exists_or,
    exists_eq_left, false_and, exists_false, false_or, or_assoc]

theorem wellFormed_guardedRoutes {relayPrefix : String} {guarded : RouteTable Endpoint}
    (h : Endpoint.guardedRoutes relayPrefix = .ok guarded) : guarded.WellFormed := by
  obtain ⟨fixed, larger, hfixed, hlarger, hlast⟩ := of_guardedRoutes h
  exact ((Endpoint.wellFormed_addAll .nil hfixed).add hlarger).add hlast

/-- The table of a gateway offers what the open routes, the fixed guarded ones and the relay do. -/
theorem exists_mem_frame (h : frame settings = .ok (routes, policy))
    {P : Route Endpoint → Prop} (hP : Additive P) :
    (∃ r ∈ routes, P r) ↔
      (∃ entry ∈ Endpoint.fixedOpen settings.environment ++ Endpoint.fixedGuarded,
        ∃ template, Template.parse? entry.1 = some template ∧ P ⟨template, entry.2, none⟩) ∨
      ∃ text ∈ relayTexts settings.proxy,
        ∃ template, Template.parse? text = some template ∧
          P ⟨template, [], some (.guarded .relay)⟩ := by
  obtain ⟨opened, guarded, hopened, hguarded, hmerged⟩ := of_frame_eq_ok h
  rw [exists_mem_merge hP hmerged, Endpoint.exists_mem_addAll hP hopened,
    exists_mem_guardedRoutes hguarded hP]
  simp only [List.mem_append, List.not_mem_nil, or_and_right, exists_or, false_and, exists_false,
    false_or, or_assoc]

theorem wellFormed_frame (h : frame settings = .ok (routes, policy)) : routes.WellFormed := by
  obtain ⟨opened, guarded, hopened, hguarded, hmerged⟩ := of_frame_eq_ok h
  exact (Endpoint.wellFormed_addAll .nil hopened).merge
    (wellFormed_guardedRoutes hguarded).parsed hmerged

theorem wellFormed_routes (h : ofSettings settings = .ok gateway) :
    gateway.routes.WellFormed :=
  wellFormed_frame (frame_of_ofSettings h)

/-! ## What a route of the table stems from -/

variable {route : Route Endpoint}

theorem text_of_mem_routes (h : ofSettings settings = .ok gateway)
    (hmem : route ∈ gateway.routes) :
    (∃ entry ∈ Endpoint.fixedOpen settings.environment ++ Endpoint.fixedGuarded,
        entry.1 = route.template.text) ∨
      route.template.text ∈ relayTexts settings.proxy := by
  rcases (exists_mem_frame (frame_of_ofSettings h) (additive_text route.template.text)).mp
      ⟨route, hmem, rfl⟩ with
    ⟨entry, hentry, template, hparse, htext⟩ | ⟨text, htexts, template, hparse, htext⟩
  · exact .inl ⟨entry, hentry, (Template.text_of_parse? hparse).symm.trans htext⟩
  · rw [← htext, Template.text_of_parse? hparse]
    exact .inr htexts

theorem fixed_of_mem_handlers (h : ofSettings settings = .ok gateway)
    (hmem : route ∈ gateway.routes) {method : String} {endpoint : Endpoint}
    (hhandler : (method, endpoint) ∈ route.handlers) :
    ∃ entry ∈ Endpoint.fixedOpen settings.environment ++ Endpoint.fixedGuarded,
      entry.1 = route.template.text ∧ (method, endpoint) ∈ entry.2 := by
  rcases (exists_mem_frame (frame_of_ofSettings h)
      (additive_handlers route.template.text method endpoint)).mp ⟨route, hmem, rfl, hhandler⟩ with
    ⟨entry, hentry, template, hparse, htext, hin⟩ | ⟨text, -, template, -, -, hin⟩
  · exact ⟨entry, hentry, (Template.text_of_parse? hparse).symm.trans htext, hin⟩
  · cases hin

theorem relay_of_others (h : ofSettings settings = .ok gateway)
    (hmem : route ∈ gateway.routes) {endpoint : Endpoint}
    (hothers : route.others = some endpoint) : endpoint = .guarded .relay := by
  rcases (exists_mem_frame (frame_of_ofSettings h)
      (additive_others route.template.text endpoint)).mp ⟨route, hmem, rfl, hothers⟩ with
    ⟨entry, -, template, -, -, hsome⟩ | ⟨text, -, template, -, -, hsome⟩
  · cases hsome
  · exact (Option.some.inj hsome).symm

theorem others_of_relayText (h : ofSettings settings = .ok gateway)
    (hmem : route ∈ gateway.routes)
    (htext : route.template.text ∈ relayTexts settings.proxy) :
    route.others = some (.guarded .relay) := by
  have hformed := wellFormed_routes h
  obtain ⟨other, hother, hsame, hothers⟩ := (exists_mem_frame (frame_of_ofSettings h)
    (additive_others route.template.text (Endpoint.guarded .relay))).mpr
      (.inr ⟨_, htext, _, hformed.parsed route hmem, rfl, rfl⟩)
  rw [← hformed.eq_of_text hother hmem hsame]
  exact hothers

theorem handlers_of_fixed (h : ofSettings settings = .ok gateway)
    (hmem : route ∈ gateway.routes) {entry : String × List (String × Endpoint)}
    (hentry : entry ∈ Endpoint.fixedOpen settings.environment ++ Endpoint.fixedGuarded)
    (htext : entry.1 = route.template.text) {handler : String × Endpoint}
    (hhandler : handler ∈ entry.2) : handler ∈ route.handlers := by
  have hformed := wellFormed_routes h
  obtain ⟨other, hother, hsame, hin⟩ := (exists_mem_frame (frame_of_ofSettings h)
    (additive_handlers route.template.text handler.1 handler.2)).mpr
      (.inl ⟨entry, hentry, _, htext ▸ hformed.parsed route hmem, rfl, hhandler⟩)
  rw [← hformed.eq_of_text hother hmem hsame]
  exact hin

/-! ## What a request meets -/

/-- A request meets a guarded endpoint on the route of its path. -/
def Guards (gateway : Gateway) (method path : String) (route : Route Endpoint)
    (values : List String) (endpoint : GuardedEndpoint) : Prop :=
  gateway.routes.find? path = some (route, values) ∧
    route.endpoint? method = some (.guarded endpoint)

theorem covers_of_find? (h : ofSettings settings = .ok gateway) {path : String}
    {values : List String} (hfind : gateway.routes.find? path = some (route, values)) :
    route ∈ gateway.routes ∧ Template.Covers route.template.text path := by
  obtain ⟨hmem, hmatch⟩ := of_find?_eq_some hfind
  exact ⟨hmem, route.template, values, (wellFormed_routes h).parsed route hmem, hmatch⟩

theorem exists_find?_of_text (h : ofSettings settings = .ok gateway) {path text : String}
    (hoffered : ∃ r ∈ gateway.routes, r.template.text = text)
    (hcovers : Template.Covers text path) (hgoes : ¬ gateway.routes.Stops path) :
    ∃ found, gateway.routes.find? path = some found := by
  obtain ⟨own, hown, htext⟩ := hoffered
  obtain ⟨template, values, hparse, hmatch⟩ := hcovers
  have hparsed := (wellFormed_routes h).parsed own hown
  rw [htext, hparse] at hparsed
  rw [Option.some.inj hparsed] at hmatch
  exact exists_find?_of_mem hown hmatch hgoes

theorem exists_find?_of_fixedGuarded (h : ofSettings settings = .ok gateway) {path : String}
    {entry : String × List (String × Endpoint)} (hentry : entry ∈ Endpoint.fixedGuarded)
    (hcovers : Template.Covers entry.1 path) :
    ∃ found, gateway.routes.find? path = some found := by
  have hgoes : ¬ gateway.routes.Stops path := fun hstops =>
    hcovers.getLast?_ne (Endpoint.textUnslashed_fixedGuarded entry hentry) hstops.getLast?
  refine exists_find?_of_text h ?_ hcovers hgoes
  obtain ⟨template, -, hparse, -⟩ := hcovers
  exact (exists_mem_frame (frame_of_ofSettings h) (additive_text entry.1)).mpr
    (.inl ⟨entry, List.mem_append_right _ hentry, template, hparse,
      Template.text_of_parse? hparse⟩)

theorem exists_find?_of_relay (h : ofSettings settings = .ok gateway) {path text : String}
    (htext : text ∈ relayTexts settings.proxy) (hcovers : Template.Covers text path)
    (hgoes : ¬ gateway.routes.Stops path) : ∃ found, gateway.routes.find? path = some found := by
  refine exists_find?_of_text h ?_ hcovers hgoes
  obtain ⟨template, -, hparse, -⟩ := hcovers
  exact (exists_mem_frame (frame_of_ofSettings h) (additive_text text)).mpr
    (.inr ⟨text, htext, template, hparse, Template.text_of_parse? hparse⟩)

theorem fixedOpen_of_free (h : ofSettings settings = .ok gateway) {method path : String}
    {values : List String} (hfind : gateway.routes.find? path = some (route, values))
    {endpoint : OpenEndpoint} (hendpoint : route.endpoint? method = some (.free endpoint)) :
    ∃ entry ∈ Endpoint.fixedOpen settings.environment,
      Template.Covers entry.1 path ∧ (Route.methodKey method, .free endpoint) ∈ entry.2 := by
  obtain ⟨hmem, hcovers⟩ := covers_of_find? h hfind
  rcases Route.of_endpoint?_eq_some hendpoint with hhandler | hothers
  · obtain ⟨entry, hentry, htext, hin⟩ := fixed_of_mem_handlers h hmem hhandler
    rcases List.mem_append.mp hentry with hopen | hguarded
    · exact ⟨entry, hopen, htext ▸ hcovers, hin⟩
    · have hfree := Endpoint.isGuarded_of_mem_fixedGuarded entry hguarded _ hin
      cases hfree
  · have hrelay := relay_of_others h hmem hothers
    cases hrelay

theorem guarded_of_handlers (h : ofSettings settings = .ok gateway)
    (hmem : route ∈ gateway.routes) {path : String}
    (hcovers : Template.Covers route.template.text path)
    {entry : String × List (String × Endpoint)} (hentry : entry ∈ Endpoint.fixedGuarded)
    (hentryCovers : Template.Covers entry.1 path) {handler : String × Endpoint}
    (hhandler : handler ∈ route.handlers) : ∃ endpoint, handler.2 = .guarded endpoint := by
  obtain ⟨other, hother, htext, hin⟩ := fixed_of_mem_handlers h hmem hhandler
  rcases List.mem_append.mp hother with hopen | hguarded
  · have hapart := Endpoint.textsApart_fixedOpen settings.environment entry hentry other hopen
    exact absurd (htext ▸ hcovers) (hentryCovers.not_of_textsApart hapart)
  · exact Endpoint.isGuarded_iff.mp
      (Endpoint.isGuarded_of_mem_fixedGuarded other hguarded _ hin)

/-- Whatever the prefix of the relay is, the paths and methods of the user and of the groups are
guarded. -/
theorem guards_of_fixedGuarded (h : ofSettings settings = .ok gateway) {method path : String}
    {entry : String × List (String × Endpoint)} (hentry : entry ∈ Endpoint.fixedGuarded)
    (hcovers : Template.Covers entry.1 path) {endpoint : Endpoint}
    (hhandler : (Route.methodKey method, endpoint) ∈ entry.2) :
    ∃ route values endpoint, gateway.Guards method path route values endpoint := by
  have hfixed : entry ∈ Endpoint.fixedOpen settings.environment ++ Endpoint.fixedGuarded :=
    List.mem_append.mpr (.inr hentry)
  obtain ⟨⟨route, values⟩, hfind⟩ := exists_find?_of_fixedGuarded h hentry hcovers
  obtain ⟨hmem, hroute⟩ := covers_of_find? h hfind
  obtain ⟨found, hfound⟩ : ∃ found, route.endpoint? method = some found := by
    apply Route.exists_endpoint? method (.guarded .relay)
    -- the route that is found need not be the one asked for: it may be the relay's
    rcases text_of_mem_routes h hmem with ⟨other, hother, htext⟩ | hrelay
    · have hsame : entry.1 = other.1 := by
        rcases List.mem_append.mp hother with hopen | hguarded
        · have hapart :=
            Endpoint.textsApart_fixedOpen settings.environment entry hentry other hopen
          exact absurd (htext ▸ hroute) (hcovers.not_of_textsApart hapart)
        · rcases Endpoint.textsApart_fixedGuarded entry hentry other hguarded with heq | hapart
          · exact heq
          · exact absurd (htext ▸ hroute) (hcovers.not_of_textsApart hapart)
      exact .inl ⟨endpoint, handlers_of_fixed h hmem hfixed (hsame.trans htext) hhandler⟩
    · exact .inr (others_of_relayText h hmem hrelay)
  rcases Route.of_endpoint?_eq_some hfound with hin | hothers
  · obtain ⟨guarded, hguarded⟩ := guarded_of_handlers h hmem hroute hentry hcovers hin
    exact ⟨route, values, guarded, hfind, hfound.trans (congrArg some hguarded)⟩
  · have hrelay := relay_of_others h hmem hothers
    exact ⟨route, values, .relay, hfind, hfound.trans (congrArg some hrelay)⟩

/-- Every method and every path under the prefix of the relay that no fixed route has lead to the
relay, unless the search for its route breaks off. -/
theorem guards_of_relayText (h : ofSettings settings = .ok gateway) (method : String)
    {path text : String} (htext : text ∈ relayTexts settings.proxy)
    (hcovers : Template.Covers text path)
    (hfree : ∀ entry ∈ Endpoint.fixedOpen settings.environment ++ Endpoint.fixedGuarded,
      ¬ Template.Covers entry.1 path) (hgoes : ¬ gateway.routes.Stops path) :
    ∃ route values, gateway.Guards method path route values .relay := by
  obtain ⟨⟨route, values⟩, hfind⟩ := exists_find?_of_relay h htext hcovers hgoes
  obtain ⟨hmem, hroute⟩ := covers_of_find? h hfind
  rcases text_of_mem_routes h hmem with ⟨other, hother, hsame⟩ | hrelay
  · exact absurd (hsame ▸ hroute) (hfree other hother)
  · have hothers := others_of_relayText h hmem hrelay
    obtain ⟨found, hfound⟩ := Route.exists_endpoint? method _ (.inr hothers)
    refine ⟨route, values, hfind, ?_⟩
    rcases Route.of_endpoint?_eq_some hfound with hin | hsome
    · obtain ⟨entry, hentry, hentryText, -⟩ := fixed_of_mem_handlers h hmem hin
      exact absurd (hentryText ▸ hroute) (hfree entry hentry)
    · rw [hfound, relay_of_others h hmem hsome]

end

end Gateway

end AccessGateway
