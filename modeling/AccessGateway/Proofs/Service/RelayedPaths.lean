import AccessGateway.Proofs.Proxy.Outbound
import AccessGateway.Proofs.Url.Sites
import AccessGateway.Service.Gateway

/-!
# Where relayed requests lead

The path of a request is appended to the target as it was sent, and the dots in it
are resolved only when the text is read as a URL.  So the request stays below the
base of the target as long as its path never climbs above its own start, and it
reaches everything else on the site when it does.
-/

namespace AccessGateway

/-- The path of a URL is a base or lies below it. -/
def Url.isUnder (base : String) (url : Url) : Bool :=
  url.pathText == base || Text.startsWith (base ++ "/") url.pathText

/-- The base of a site as URLs show it. -/
def Url.Site.baseText (site : Url.Site) : String := String.join (site.segments.map ("/" ++ ·))

namespace Forwarder

open Url

/-- The segments of a path that is relayed. -/
def pathSegments (path : String) : List String :=
  (cutSegments true (Text.dropLeading '/' path).toList).map encodeSegment

theorem exists_toList_targetUrl (forwarder : Forwarder) (path : String) {query : Option String}
    (hquery : ∀ text ∈ query, ∀ c ∈ text.toList, isPlain c = true) :
    ∃ tail, (forwarder.targetUrl path query).toList =
        forwarder.target.toList ++ '/' :: (Text.dropLeading '/' path).toList ++ tail ∧
      (∀ c ∈ tail.head?, c = '?' ∨ c = '#') ∧ ∀ c ∈ tail, isPlain c = true := by
  refine ⟨queryTail query, by rw [toList_targetUrl]; simp, ?_⟩
  rcases queryTail_cases query with ⟨-, hnil⟩ | ⟨text, htext, -, htail⟩
  · rw [hnil]
    exact ⟨by simp, by simp⟩
  · rw [htail]
    refine ⟨by simp, ?_⟩
    intro c hc
    rcases List.mem_cons.mp hc with rfl | hmem
    · decide
    · exact hquery text htext c hmem

/-- What is sent leads to the place that the path leads to from the base of the target. -/
theorem path_of_outbound? {forwarder : Forwarder} {site : Site}
    (hsite : forwarder.target.toList = site.text) {request : RelayedRequest} {path : String}
    (hpath : ∀ c ∈ path.toList, isPathChar c = true)
    (hquery : ∀ text ∈ request.query, ∀ c ∈ text.toList, isPlain c = true)
    {trace : TraceContext} {sent : OutboundRequest}
    (hsent : forwarder.outbound? request path trace = some sent) :
    sent.url.authority.isSome ∧
      sent.url.path = .segments (resolveAfter site.segments.reverse (pathSegments path)) := by
  obtain ⟨given, hdestination⟩ := exists_destination_of_outbound? hsent
  obtain ⟨url, hparse, hbare⟩ := RequestPlan.of_destination_eq_ok hdestination
  obtain ⟨tail, htext, hhead, hplain⟩ := forwarder.exists_toList_targetUrl path hquery
  have hdropped : ∀ c ∈ (Text.dropLeading '/' path).toList, isPathChar c = true := fun c hc =>
    hpath c (Text.mem_of_mem_dropLeading hc)
  rw [hsite] at htext
  rw [site.parse_eq htext hdropped hhead hplain] at hparse
  cases hauthority : parseAuthority site.schemeName site.authority with
  | error e =>
      rw [hauthority] at hparse
      cases hparse
  | ok authority =>
      rw [hauthority] at hparse
      cases hparse
      rw [hbare]
      exact ⟨rfl, rfl⟩

end Forwarder

namespace Url

theorem pathText_of_segments {url : Url} {segments : List String}
    (hauthority : url.authority.isSome) (hpath : url.path = .segments segments) :
    url.pathText = String.join (segments.map ("/" ++ ·)) := by
  unfold pathText
  rw [hpath]
  cases hsome : url.authority with
  | none =>
      rw [hsome] at hauthority
      cases hauthority
  | some authority => simp

theorem isUnder_of_segments {url : Url} {site : Site} {segments : List String}
    (hauthority : url.authority.isSome) (hpath : url.path = .segments (site.segments ++ segments)) :
    url.isUnder site.baseText = true := by
  have htext := pathText_of_segments hauthority hpath
  rw [List.map_append, String.join_append] at htext
  unfold isUnder
  rw [htext]
  cases segments with
  | nil => simp [Site.baseText, String.join]
  | cons segment segments =>
      have hbelow : String.join (site.segments.map ("/" ++ ·)) ++
          String.join ((segment :: segments).map ("/" ++ ·)) =
            site.baseText ++ "/" ++ (segment ++ String.join (segments.map ("/" ++ ·))) := by
        rw [List.map_cons, String.join_cons, Site.baseText]
        simp only [String.append_assoc]
      rw [hbelow, Text.startsWith_append, Bool.or_true]

end Url

namespace Gateway

open Url

variable {δ : Type}

/-- The path of a request that is relayed, without the prefix of the relay. -/
def relayedPath (gateway : Gateway) (path : String) : String :=
  (Text.stripStart? (relayPrefix gateway.settings.proxy) path).getD path

theorem isPathChar_of_mem_relayedPath {gateway : Gateway} {path : String}
    (h : ∀ c ∈ path.toList, isPathChar c = true) :
    ∀ c ∈ (gateway.relayedPath path).toList, isPathChar c = true := by
  intro c hc
  unfold relayedPath Text.stripStart? at hc
  cases hdrop : Text.dropPrefix? (relayPrefix gateway.settings.proxy).toList path.toList with
  | none =>
      rw [hdrop] at hc
      exact h c hc
  | some rest =>
      rw [hdrop] at hc
      have hrest : c ∈ rest := by simpa using hc
      apply h
      rw [Text.dropPrefix?_eq_some_iff.mp hdrop]
      exact List.mem_append_right _ hrest

theorem sent_relay (gateway : Gateway) (state : GatewayState δ) (request : Request) :
    (gateway.relay state request).2.network.sent =
      state.network.sent ++ (gateway.forwarder.outbound?
        ⟨request.method, request.target.query, request.headers, request.body⟩
        (gateway.relayedPath request.target.path) .untraced).toList := by
  rw [← Forwarder.sent_forward gateway.forwarder state.network state.relayed]
  unfold relay
  dsimp only
  split <;> rfl

/-- A relayed request goes where its path leads from the base of the target.  It stays below the
base if the path never climbs above its own start, and any path on the site is reached by one that
begins with as many double dots as the base has segments, or any below the last drive letter in the
base. -/
theorem relay_path {gateway : Gateway} {site : Site}
    (hsite : gateway.forwarder.target.toList = site.text) {request : Request}
    (hpath : ∀ c ∈ request.target.path.toList, isPathChar c = true)
    (hquery : ∀ text ∈ request.target.query, ∀ c ∈ text.toList, isPlain c = true)
    (state : GatewayState δ) :
    let segments := Forwarder.pathSegments (gateway.relayedPath request.target.path)
    ∃ outbound : Option OutboundRequest,
      (gateway.relay state request).2.network.sent = state.network.sent ++ outbound.toList ∧
        ∀ sent ∈ outbound,
          sent.url.path = .segments (resolveAfter site.segments.reverse segments) ∧
            (staysBelow 0 segments = true → sent.url.isUnder site.baseText = true) ∧
            ∀ rest, rest ≠ [] → segments = List.replicate site.segments.length ".." ++ rest →
              sent.url.path =
                  .segments
                    (resolveAfter (site.segments.reverse.dropWhile (!isDriveLetter ·)) rest) ∧
                ((∀ segment ∈ site.segments, isDriveLetter segment = false) →
                  sent.url.path = .segments (resolveDots rest)) := by
  intro segments
  refine ⟨_, gateway.sent_relay state request, ?_⟩
  intro sent hsent
  obtain ⟨hauthority, hplace⟩ := Forwarder.path_of_outbound? hsite
    (isPathChar_of_mem_relayedPath hpath) hquery hsent
  refine ⟨hplace, ?_, ?_⟩
  · intro hstays
    have hkept := @resolveAfter_of_staysBelow site.segments.reverse [] segments hstays
    rw [List.nil_append, List.reverse_reverse] at hkept
    exact isUnder_of_segments hauthority (hplace.trans (congrArg UrlPath.segments hkept))
  · intro rest hrest hsegments
    have hclimbs := resolveAfter_double_dots site.segments.reverse hrest
    rw [List.length_reverse, ← hsegments] at hclimbs
    have hreached := hplace.trans (congrArg UrlPath.segments hclimbs)
    refine ⟨hreached, fun hfree => ?_⟩
    have hdropped : site.segments.reverse.dropWhile (!isDriveLetter ·) = [] :=
      List.dropWhile_eq_nil_iff.mpr fun segment hsegment => by
        simp [hfree segment (List.mem_reverse.mp hsegment)]
    rw [hreached, hdropped]
    rfl

/-- Dots that lead no higher than the start of the path stay below the base. -/
theorem relay_path_of_dots :
    let settings : Settings := {
      token := ⟨"key", "gateway", 60, "Authorization", "Bearer"⟩
      directory :=
        { url := "ldap://directory", baseDn := "dc=org", bindDn := "", bindPassword := "" }
      store := { url := "https://store" }
      proxy := { target := "http://127.0.0.1:1/base/" } }
    let request : Request := ⟨"GET", ⟨"/proxy/ui/../admin", some "page=2"⟩, [], ""⟩
    let state : GatewayState Unit := .initial settings 0 () (.ofTable []) (.memory {}) .unreachable
    ∃ (gateway : Gateway) (outbound : Option OutboundRequest), ofSettings settings = .ok gateway ∧
      (gateway.relay state request).2.network.sent = state.network.sent ++ outbound.toList ∧
        ∀ sent ∈ outbound, sent.url.isUnder "/base" = true := by
  intro settings request state
  let site : Site := {
    scheme := "http".toList
    authority := "127.0.0.1:1".toList
    base := ["base".toList]
    scheme_eq := .inl (by decide +kernel)
    authority_ne := by decide +kernel
    authority_plain := List.all_eq_true.mp (by decide +kernel)
    base_plain := by
      rintro segment hsegment
      cases List.mem_singleton.mp hsegment
      exact List.all_eq_true.mp (by decide +kernel)
    base_ordinary := by decide +kernel }
  have hstart : (match ofSettings settings with
      | .error _ => none
      | .ok gateway => some (gateway.forwarder.target.toList,
          staysBelow 0 (Forwarder.pathSegments (gateway.relayedPath "/proxy/ui/../admin")))) =
        some (site.text, true) := by decide +kernel
  split at hstart
  · cases hstart
  next gateway hgateway =>
    obtain ⟨hsite, hstays⟩ := Prod.mk.inj (Option.some.inj hstart)
    have hpath : ∀ c ∈ request.target.path.toList, isPathChar c = true :=
      List.all_eq_true.mp (by decide +kernel)
    have hquery : ∀ text ∈ request.target.query, ∀ c ∈ text.toList, isPlain c = true := by
      rintro text ⟨⟩
      exact List.all_eq_true.mp (by decide +kernel)
    obtain ⟨outbound, hsent, hplaces⟩ :=
      @relay_path Unit gateway site hsite request hpath hquery state
    have hbase : site.baseText = "/base" := by decide +kernel
    refine ⟨gateway, outbound, hgateway, hsent, ?_⟩
    intro sent hmem
    rw [← hbase]
    exact (hplaces sent hmem).2.1 hstays

/-- A path that climbs above its start leaves the base. -/
theorem relay_leaves_base :
    let settings : Settings := {
      token := ⟨"key", "gateway", 60, "Authorization", "Bearer"⟩
      directory :=
        { url := "ldap://directory", baseDn := "dc=org", bindDn := "", bindPassword := "" }
      store := { url := "https://store" }
      proxy := { target := "http://127.0.0.1:1/base" } }
    let request : Request := ⟨"GET", ⟨"/proxy/../admin", none⟩, [], ""⟩
    let state : GatewayState Unit := .initial settings 0 () (.ofTable []) (.memory {}) .unreachable
    ∃ gateway, ofSettings settings = .ok gateway ∧
      ((gateway.routes.find? "/proxy/../admin").bind fun found => found.1.endpoint? "GET") =
          some (.guarded .relay) ∧
        (gateway.relay state request).2.network.sent.map
            (fun sent => (sent.url.pathText, sent.url.isUnder "/base")) = [("/admin", false)] := by
  intro settings request state
  have hrun : (match ofSettings settings with
      | .error _ => none
      | .ok gateway => some
        (((gateway.routes.find? "/proxy/../admin").bind fun found => found.1.endpoint? "GET"),
          (gateway.relay state request).2.network.sent.map
            fun sent => (sent.url.pathText, sent.url.isUnder "/base"))) =
      some (some (.guarded .relay), [("/admin", false)]) := by decide +kernel
  split at hrun
  · cases hrun
  next gateway hgateway =>
    obtain ⟨hroute, hsent⟩ := Prod.mk.inj (Option.some.inj hrun)
    exact ⟨gateway, hgateway, hroute, hsent⟩

end Gateway

end AccessGateway
