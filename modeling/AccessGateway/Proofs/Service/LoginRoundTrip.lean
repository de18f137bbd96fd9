import AccessGateway.Proofs.Settings.Valid
import AccessGateway.Proofs.Token.Issuing
import AccessGateway.Proofs.Token.Presenting
import AccessGateway.Service.Gateway

/-!
# From login to request

A principal that the directory accepted gets a token, and until that token expires
a request that presents it comes from exactly that principal.  The one role of a
login is the default one, which valid settings only have if it can be carried.
-/

namespace AccessGateway

namespace Authenticator

variable {σ : Type} {auth : Authenticator} {connector : Connector σ} {directory : σ}

theorem defaultRole_resolve (auth : Authenticator) (connector : Connector σ) (directory : σ)
    (username : String) :
    (auth.resolve connector directory username).2.1.defaultRole = auth.defaultRole := by
  unfold resolve
  dsimp only
  split
  · rfl
  · split <;> rfl

theorem roles_of_decide {username password : String} {domain : Domain}
    {principal : Principal}
    (h : (auth.decide connector directory username password domain).1 = .ok principal) :
    principal.roles = [auth.defaultRole] := by
  have hrole := defaultRole_resolve auth connector directory username
  unfold decide at h
  split at h
  · cases h
  · split at h
    · cases h
    · split at h
      · cases h
      · cases h
      next name after directory heq =>
        rw [heq] at hrole
        split at h
        · cases h
        · cases h
        · cases h
          exact congrArg (fun role => [role]) hrole

theorem roles_of_authenticate {username password : String} {domain : Domain}
    {principal : Principal}
    (h : (auth.authenticate connector directory username password domain).1 =
      .ok principal) :
    principal.roles = [auth.defaultRole] :=
  roles_of_decide h

end Authenticator

namespace Gateway

theorem of_ofSettings {settings : Settings} {gateway : Gateway}
    (h : ofSettings settings = .ok gateway) :
    gateway.settings = settings ∧
      TokenService.ofSettings settings.token = .ok gateway.tokens :=
  ⟨(parts_of_ofSettings h).1, (parts_of_ofSettings h).2.1⟩

theorem tokenOf?_eq_some {gateway : Gateway} {headers : Headers} {value token : String}
    (hvalues : headers.values (Text.Ascii.lower gateway.settings.token.header) = [value])
    (hvisible : Headers.isVisible value = true)
    (htoken : extractToken value gateway.tokens.tokenType = some token) :
    gateway.tokenOf? headers = some token := by
  unfold tokenOf? Headers.firstVisible?
  rw [Headers.first?_of_values hvalues, Option.filter_some, if_pos hvisible]
  exact htoken

/-- A login under valid settings gets a token, and whoever presents it after the
configured word is the principal of the login, until the token expires. -/
theorem authenticate_of_login {settings : Settings} (hvalid : settings.validate = .ok ())
    (hvisible : Headers.isVisible settings.token.tokenType = true)
    (hstart : Text.trimStart settings.token.tokenType = settings.token.tokenType)
    {σ : Type} {connector : Connector σ} {directory : σ} {names : Cache String String}
    {logins : Tally LoginOutcome} {username password : String} {domain : Domain}
    {principal : Principal}
    (hlogin :
      (Authenticator.authenticate
          { Authenticator.ofSettings settings.directory with names := names, logins := logins }
          connector directory username password domain).1 = .ok principal)
    {now expiry : Instant} (hnow : 0 ≤ now)
    (hexpiry : Calendar.add? now (settings.token.expirySeconds * 1000) = some expiry) :
    ∃ service token,
      TokenService.ofSettings settings.token = .ok service ∧
        service.issue now principal =
            .ok ⟨token, settings.token.tokenType, settings.token.expirySeconds⟩ ∧
          extractToken (settings.token.tokenType ++ " " ++ token) service.tokenType =
              some token ∧
            (∀ later,
              (Calendar.seconds later <
                  Calendar.seconds now + settings.token.expirySeconds →
                ∃ claims, service.validate later token = .ok claims ∧
                  ∀ default, claims.toPrincipal default = .ok principal) ∧
                (Calendar.seconds now + settings.token.expirySeconds ≤
                    Calendar.seconds later →
                  service.validate later token = .error .expired)) ∧
              ∀ {gateway : Gateway} {headers : Headers}, ofSettings settings = .ok gateway →
                headers.values (Text.Ascii.lower settings.token.header) =
                    [settings.token.tokenType ++ " " ++ token] →
                  ∀ later,
                    gateway.authenticate later headers =
                      if Calendar.seconds later <
                          Calendar.seconds now + settings.token.expirySeconds then
                        .ok principal
                      else .error GatewayError.tokenExpired.toApi := by
  have hsettings := Settings.validate_eq_ok_iff.mp hvalid
  have hroles : ∀ role ∈ principal.roles, TokenService.canCarry role = true := by
    intro role hrole
    rw [Authenticator.roles_of_authenticate hlogin, List.mem_singleton] at hrole
    rw [hrole]
    exact hsettings.defaultRole
  obtain ⟨service, hservice, htype, hseconds⟩ :=
    TokenService.exists_of_signingKey hsettings.signingKey_ne_empty
  rw [← hseconds] at hexpiry ⊢
  obtain ⟨token, hissue, hne, hword, hissued⟩ :=
    TokenService.exists_issued hnow (hseconds ▸ hsettings.expiry) hroles hexpiry
  rw [← htype] at hvisible hstart ⊢
  have hextract : extractToken (service.tokenType ++ " " ++ token) service.tokenType =
      some token := extractToken_append hstart hne fun c hc => (hword c hc).2
  have hvalue : Headers.isVisible (service.tokenType ++ " " ++ token) = true := by
    refine Headers.isVisible_append (Headers.isVisible_append hvisible (by decide)) ?_
    exact Headers.isVisible_of_printable fun c hc => (hword c hc).1
  refine ⟨service, token, hservice, hissue, hextract, hissued, ?_⟩
  intro gateway headers hgateway hvalues later
  obtain ⟨hsame, htokens⟩ := of_ofSettings hgateway
  have htokens : gateway.tokens = service := by
    rw [hservice] at htokens
    exact (Except.ok.inj htokens).symm
  have htoken : gateway.tokenOf? headers = some token :=
    tokenOf?_eq_some (hsame ▸ hvalues) hvalue (htokens ▸ hextract)
  obtain ⟨hbefore, hafter⟩ := hissued later
  unfold authenticate
  rw [htoken, htokens]
  by_cases hearly : Calendar.seconds later < Calendar.seconds now + service.expirySeconds
  · obtain ⟨claims, hclaims, hprincipal⟩ := hbefore hearly
    simp [hearly, hclaims, hprincipal]
  · simp [hearly, hafter (by omega)]

/-- A login gets a token for a minute. -/
theorem authenticate_of_login_of_minute :
    ∃ (settings : Settings) (service : TokenService) (token : String),
      settings.validate = .ok () ∧ TokenService.ofSettings settings.token = .ok service ∧
        service.issue 500 ⟨"ada", some "Ada", .dev, ["ROLE_USER"]⟩ =
            .ok ⟨token, "Bearer", 60⟩ ∧
          extractToken ("Bearer" ++ " " ++ token) service.tokenType = some token ∧
            (∃ claims, service.validate 59999 token = .ok claims ∧
              claims.toPrincipal .prod = .ok ⟨"ada", some "Ada", .dev, ["ROLE_USER"]⟩) ∧
              service.validate 60000 token = .error .expired := by
  let settings : Settings := {
    token := ⟨"0123456789abcdef0123456789abcdef0123456789abcdef0123456789abcdef", "gateway", 60,
      "Authorization", "Bearer"⟩
    directory :=
      { url := "ldap://directory", baseDn := "dc=org", bindDn := "", bindPassword := "" }
    store := { url := "https://store" }
    proxy := { target := "http://target" } }
  let connector : Connector Unit :=
    ⟨fun _ _ _ => (.ok ["cn=Ada,dc=org"], ()), fun _ _ _ => (.ok .accepted, ())⟩
  have hvalid : settings.validate = .ok () := by
    have hok : settings.validate.isOk = true := by decide +kernel
    cases hresult : settings.validate with
    | ok _ => rfl
    | error e =>
        rw [hresult] at hok
        cases hok
  have hlogin :
      (Authenticator.authenticate
          { Authenticator.ofSettings settings.directory with
            names := .ofCapacity 1 none, logins := [] }
          connector () "ada" "secret" .dev).1 =
        .ok ⟨"ada", DistinguishedName.commonName "cn=Ada,dc=org", .dev, ["ROLE_USER"]⟩ := by rfl
  have hname : DistinguishedName.commonName "cn=Ada,dc=org" = some "Ada" := by decide +kernel
  rw [hname] at hlogin
  have hnow : (0 : Instant) ≤ 500 := by decide
  have hexpiry : Calendar.add? 500 (settings.token.expirySeconds * 1000) = some 60500 := by
    decide
  obtain ⟨service, token, hservice, hissue, hextract, hvalidate, -⟩ :=
    authenticate_of_login hvalid (by decide) (by decide) hlogin hnow hexpiry
  obtain ⟨claims, hclaims, hprincipal⟩ := (hvalidate 59999).1 (by decide)
  exact ⟨settings, service, token, hvalid, hservice, hissue, hextract,
    ⟨claims, hclaims, hprincipal .prod⟩, (hvalidate 60000).2 (by decide)⟩

end Gateway

end AccessGateway
