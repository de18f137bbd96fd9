import AccessGateway.Proofs.Proxy.Hops
import AccessGateway.Proofs.Service.RelayedPaths

/-!
# Whom relayed requests reach

The path and the query of a request are written behind the target as they came, and
only then is the text read as a URL.  Nothing in them is read as a part of the
authority, so the settings alone decide which host is asked.
-/

namespace AccessGateway.Gateway

open Url

variable {δ : Type} {settings : Settings} {gateway : Gateway} {site : Url}

/-- A relayed request asks the host and the port of the target in its scheme, whatever its path is,
and asks for what it was asked for.  One whose body is whole and not too long is sent if the
target's text ends where its URL does. -/
theorem relay_site (h : ofSettings settings = .ok gateway)
    (hsite : parse settings.proxy.target = .ok site) (hweb : IsWeb site.scheme)
    (hquery : site.query = none) (hfragment : site.fragment = none) {request : Request}
    (hpath : ∀ c ∈ request.target.path.toList, isPathChar c = true)
    (hasked : ∀ text ∈ request.target.query, ∀ c ∈ text.toList, isQueryChar c = true)
    (state : GatewayState δ) :
    ∃ outbound : Option OutboundRequest,
      (gateway.relay state request).2.network.sent = state.network.sent ++ outbound.toList ∧
        (∀ sent ∈ outbound, sent.url.LeadsTo site request.target.query) ∧
        (IsTarget settings.proxy.target site →
          request.body.fault = none → request.body.bytes.length ≤ settings.proxy.maxBodyBytes →
            outbound.isSome = true) := by
  obtain ⟨-, -, hforwarder, -⟩ := parts_of_ofSettings h
  refine ⟨_, gateway.sent_relay state request, ?_, ?_⟩
  · intro sent hsent
    exact Forwarder.leadsTo_of_outbound? hforwarder hsite hweb hquery hfragment
      (isPathChar_of_mem_relayedPath hpath) hasked hsent
  · intro htarget hwhole hfits
    obtain ⟨sent, hsent, -⟩ := @Forwarder.exists_outbound? _ _ _ _ hforwarder htarget
      ⟨request.method, request.target.query, request.headers, request.body⟩ _
      (RequestBody.read_of_whole hwhole hfits) (gateway.relayedPath request.target.path) .untraced
    rw [hsent]
    rfl

/-- What looks like another authority stays in the path. -/
theorem relay_site_of_slashes :
    let settings : Settings := {
      token := ⟨"key", "gateway", 60, "Authorization", "Bearer"⟩
      directory :=
        { url := "ldap://directory", baseDn := "dc=org", bindDn := "", bindPassword := "" }
      store := { url := "https://store" }
      proxy := { target := "http://127.0.0.1:1/" } }
    let request : Request := ⟨"GET", ⟨"/proxy//@elsewhere:80\\x", some "q='a'"⟩, [], ""⟩
    let state : GatewayState Unit := .initial settings 0 () (.ofTable []) (.memory {}) .unreachable
    ∃ (gateway : Gateway) (sent : OutboundRequest), ofSettings settings = .ok gateway ∧
      (gateway.relay state request).2.network.sent = [sent] ∧ sent.url.scheme = "http" ∧
        sent.url.host? = some (.ipv4 2130706433) ∧ sent.url.port? = some 1 ∧
          sent.url.query = some "q=%27a%27" ∧ sent.url.fragment = none := by
  intro settings request state
  have hlast : settings.proxy.target.toList.getLast? = some '/' := by decide +kernel
  have htarget : IsTarget settings.proxy.target
      ⟨"http", some ⟨"", .ipv4 2130706433, some 1⟩, .segments [""], none, none⟩ := by
    refine ⟨by decide +kernel, .inl rfl, ?_⟩
    rw [hlast]
    rintro c ⟨⟩
    decide
  have hpath : ∀ c ∈ request.target.path.toList, isPathChar c = true :=
    List.all_eq_true.mp (by decide +kernel)
  have hasked : ∀ text ∈ request.target.query, ∀ c ∈ text.toList, isQueryChar c = true := by
    rintro text ⟨⟩
    exact List.all_eq_true.mp (by decide +kernel)
  have hstart : (ofSettings settings).toOption.isSome = true := by decide +kernel
  cases hgateway : ofSettings settings with
  | error e =>
      rw [hgateway] at hstart
      cases hstart
  | ok gateway =>
      obtain ⟨outbound, hsent, hleads, hsends⟩ :=
        @relay_site Unit _ _ _ hgateway htarget.parse_eq htarget.web rfl rfl request hpath hasked
          state
      obtain ⟨sent, rfl⟩ := Option.isSome_iff_exists.mp (hsends htarget rfl (by decide +kernel))
      obtain ⟨hscheme, hhost, hport, hasks, -, hfragment⟩ := hleads sent rfl
      obtain ⟨coded, hquery, hcoded, -⟩ := hasks "q='a'" rfl (by decide +kernel)
      refine ⟨gateway, sent, rfl, hsent, hscheme, hhost, hport, ?_, hfragment⟩
      rw [hquery, hcoded]
      decide +kernel

end AccessGateway.Gateway
