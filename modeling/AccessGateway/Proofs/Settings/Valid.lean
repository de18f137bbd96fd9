import AccessGateway.Settings.Validation

/-!
# What valid settings satisfy

Settings are accepted exactly when they satisfy every rule; the order of the rules
only decides which broken one is reported.
-/

namespace AccessGateway.Settings

/-- The text is an absolute URL. -/
def IsUrl (text : String) : Prop := ∃ url, Url.parse text = .ok url

/-- All rules for settings. -/
structure Valid (s : Settings) : Prop where
  port : s.server.port ≠ 0
  expiry : 0 < s.token.expirySeconds
  signingKey : 64 ≤ Text.Utf8.size s.token.signingKey
  tokenHeader : Text.isBlankText s.token.header = false
  filterTemplate :
    Text.contains usernamePlaceholder.toList s.directory.filterTemplate.toList = true
  baseDn : Text.isBlankText s.directory.baseDn = false
  defaultRole : TokenService.canCarry s.directory.defaultRole = true
  poolSize : s.directory.poolSize ≠ 0
  directoryCache : s.directory.cacheCapacity ≠ 0
  clientCache : s.authorization.clientCacheCapacity ≠ 0
  endpoints : ∀ entry ∈ s.authorization.managedService ++ s.authorization.delegatedTenant,
    IsUrl entry.2.url
  storeUrl : IsUrl s.store.url
  proxyTarget : IsUrl s.proxy.target
  pathPrefix : Text.startsWith "/" s.proxy.pathPrefix = true
  pathPrefixSize : 2 ≤ Text.Utf8.size s.proxy.pathPrefix
  wildcardOrigin : s.environment = .prod → "*" ∉ s.allowedOrigins

theorem Valid.signingKey_ne_empty {s : Settings} (h : s.Valid) : s.token.signingKey ≠ "" := by
  intro hempty
  have hsize := h.signingKey
  rw [hempty] at hsize
  exact absurd hsize (by decide)

theorem require_eq_ok_iff {condition : Bool} {e : SettingsError} :
    require condition e = .ok () ↔ condition = true := by
  unfold require
  split
  next h => simp [h]
  next h => simp [h]

theorem requireUrl_eq_ok_iff {text : String} {e : UrlError → SettingsError} :
    requireUrl text e = .ok () ↔ IsUrl text := by
  unfold requireUrl IsUrl
  split
  next url h => simp [h]
  next cause h => simp [h]

theorem requireEndpoints_eq_ok_iff {endpoints : List (Domain × TenantEndpoint)} :
    requireEndpoints endpoints = .ok () ↔ ∀ entry ∈ endpoints, IsUrl entry.2.url := by
  induction endpoints with
  | nil => simp [requireEndpoints]
  | cons entry rest ih =>
      obtain ⟨domain, endpoint⟩ := entry
      rw [List.forall_mem_cons, ← ih, requireEndpoints]
      rw [← requireUrl_eq_ok_iff (e := SettingsError.tenantUrl domain)]
      split
      next h => simp [h]
      next e h => simp [h]

theorem bind_eq_ok_iff {α : Type} {first : Except SettingsError Unit}
    {next : Unit → Except SettingsError α} {value : α} :
    (first >>= next) = .ok value ↔ first = .ok () ∧ next () = .ok value := by
  cases first with
  | error e => simp [bind, Except.bind]
  | ok u => simp [bind, Except.bind]

theorem validate_eq_ok_iff {s : Settings} : s.validate = .ok () ↔ s.Valid := by
  simp only [validate, bind_eq_ok_iff, require_eq_ok_iff, requireUrl_eq_ok_iff,
    requireEndpoints_eq_ok_iff]
  constructor
  · rintro ⟨hport, hexpiry, hkey, hheader, htemplate, hdn, hrole, hpool, hcaches, hendpoints,
      hstore, htarget, hprefix, horigin⟩
    simp only [Bool.and_eq_true, bne_iff_ne, ne_eq] at hcaches
    simp only [Bool.and_eq_true, decide_eq_true_eq] at hprefix
    refine ⟨by simpa using hport, by simpa using hexpiry, by simpa using hkey,
      by simpa using hheader, htemplate, by simpa using hdn, hrole, by simpa using hpool,
      hcaches.1, hcaches.2, hendpoints, hstore, htarget, hprefix.1, hprefix.2, ?_⟩
    intro hprod
    simpa [hprod] using horigin
  · intro h
    refine ⟨by simpa using h.port, by simpa using h.expiry, by simpa using h.signingKey,
      by simpa using h.tokenHeader, h.filterTemplate, by simpa using h.baseDn, h.defaultRole,
      by simpa using h.poolSize, ?_, h.endpoints, h.storeUrl, h.proxyTarget, ?_, ?_⟩
    · simpa using ⟨h.directoryCache, h.clientCache⟩
    · simpa using ⟨h.pathPrefix, h.pathPrefixSize⟩
    · by_cases hprod : s.environment = .prod
      · simp [h.wildcardOrigin hprod]
      · simp [hprod]

end AccessGateway.Settings
