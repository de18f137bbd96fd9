import AccessGateway.Proofs.Service.Starting
import AccessGateway.Proofs.Token.Issuing
import AccessGateway.Proofs.Token.Verdict

/-!
# How long a token may live

Valid settings may have any positive lifetime, but the calendar ends in the year 262142.
A token is issued exactly if its expiry lies before that end.  At every reading of a clock
up to the year 9999 this goes well as long as the lifetime is under 252000 years.
-/

namespace AccessGateway

namespace Calendar

/-- An instant in the years from 1970 to 9999. -/
structure IsCommon (now : Instant) : Prop where
  first : 0 ≤ now
  last : seconds now ≤ 253402300799

theorem IsCommon.add?_seconds {now : Instant} (h : IsCommon now) {lifetime : Int}
    (hpos : 0 < lifetime) :
    add? now (lifetime * 1000) =
      if seconds now + lifetime ≤ lastSecond then some (now + lifetime * 1000) else none := by
  have hepoch : 0 ≤ seconds now := Int.fdiv_nonneg h.first (by decide)
  have hcontains :
      contains (now + lifetime * 1000) = true ↔ seconds now + lifetime ≤ lastSecond := by
    rw [contains_iff, seconds_add, firstSecond]
    omega
  unfold add?
  by_cases hlast : seconds now + lifetime ≤ lastSecond
  · rw [if_pos hlast, if_pos (hcontains.mpr hlast)]
  · rw [if_neg hlast, if_neg (mt hcontains.mp hlast)]

end Calendar

namespace TokenService

/-- Roles that issuing accepts. -/
def CanCarryAll (principal : Principal) : Prop := ∀ role ∈ principal.roles, canCarry role = true

variable {service : TokenService}

/-- The token that a principal gets at an instant, with claims that last as long as they should. -/
structure IssuesFor (service : TokenService) (now : Instant) (principal : Principal)
    (claims : Claims) : Prop where
  issued : service.issue now principal =
    .ok ⟨service.sign claims, service.tokenType, service.expirySeconds⟩
  honoured : service.Honours (service.sign claims) claims
  iat : claims.iat = Calendar.seconds now
  lifetime : claims.exp - claims.iat = service.expirySeconds
  holder : ∀ default, claims.toPrincipal default = .ok principal

theorem issuesFor_claimsFor {now expiry : Instant} {principal : Principal} (hnow : 0 ≤ now)
    (hpos : 0 < service.expirySeconds) (hroles : CanCarryAll principal)
    (hexpiry : Calendar.add? now (service.expirySeconds * 1000) = some expiry) :
    service.IssuesFor now principal (service.claimsFor now expiry principal) := by
  have hexp := exp_claimsFor principal hexpiry
  refine ⟨issue_eq_ok hroles hexpiry,
    honours_of_ok (readClaims_sign_claimsFor principal hnow hpos hexpiry), rfl, ?_,
    toPrincipal_claimsFor service now expiry hroles⟩
  show _ - Calendar.seconds now = _
  omega

/-- At a common instant a token is issued unless its expiry lies beyond the calendar. -/
theorem issue_at_common {now : Instant} {principal : Principal} (hnow : Calendar.IsCommon now)
    (hpos : 0 < service.expirySeconds) (hroles : CanCarryAll principal) :
    if Calendar.seconds now + service.expirySeconds ≤ Calendar.lastSecond then
      ∃ claims, service.IssuesFor now principal claims
    else service.issue now principal = .error .beyondCalendar := by
  have hexpiry := hnow.add?_seconds hpos
  split
  next hlast =>
    rw [if_pos hlast] at hexpiry
    exact ⟨_, issuesFor_claimsFor hnow.first hpos hroles hexpiry⟩
  next hlast =>
    rw [if_neg hlast] at hexpiry
    exact issue_beyondCalendar hroles hexpiry

theorem issues_at_common_iff (hpos : 0 < service.expirySeconds) :
    (∀ now principal, Calendar.IsCommon now → CanCarryAll principal →
        ∃ claims, service.IssuesFor now principal claims) ↔
      service.expirySeconds ≤ Calendar.lastSecond - 253402300799 := by
  constructor
  · intro h
    -- the last common instant leaves the least room
    have hlast : Calendar.IsCommon 253402300799000 := ⟨by decide, by decide⟩
    have hnone : CanCarryAll ⟨"", none, .prod, []⟩ := by simp [CanCarryAll]
    obtain ⟨claims, hissues⟩ := h _ _ hlast hnone
    have hseconds : Calendar.seconds 253402300799000 = 253402300799 := by decide
    have hissue := issue_at_common hlast hpos hnone
    rw [hseconds] at hissue
    split at hissue
    next hfits => omega
    next =>
      rw [hissues.issued] at hissue
      cases hissue
  · intro h now principal hnow hroles
    have hlast := hnow.last
    have hissue := issue_at_common hnow hpos hroles
    rwa [if_pos (by omega)] at hissue

/-- Valid settings give a service, which issues tokens that last for the set lifetime as long
as the calendar does; that holds of all common instants only below a certain lifetime. -/
theorem issue_of_valid {settings : Settings} (h : settings.validate = .ok ()) :
    ∃ service, ofSettings settings.token = .ok service ∧
      service.expirySeconds = settings.token.expirySeconds ∧
        (∀ now principal, Calendar.IsCommon now → CanCarryAll principal →
          if Calendar.seconds now + settings.token.expirySeconds ≤ Calendar.lastSecond then
            ∃ claims, service.IssuesFor now principal claims
          else service.issue now principal = .error .beyondCalendar) ∧
          ((∀ now principal, Calendar.IsCommon now → CanCarryAll principal →
              ∃ claims, service.IssuesFor now principal claims) ↔
            settings.token.expirySeconds ≤ Calendar.lastSecond - 253402300799) := by
  have hvalid := Settings.validate_eq_ok_iff.mp h
  obtain ⟨service, hservice, -, hseconds⟩ := exists_of_signingKey hvalid.signingKey_ne_empty
  have hpos : 0 < service.expirySeconds := hseconds ▸ hvalid.expiry
  rw [← hseconds]
  exact ⟨service, hservice, rfl, fun now principal hnow => issue_at_common hnow hpos,
    issues_at_common_iff hpos⟩

theorem exists_valid_of_lifetime (lifetime : Int) (hpos : 0 < lifetime) :
    ∃ settings : Settings,
      settings.validate = .ok () ∧ settings.token.expirySeconds = lifetime := by
  obtain ⟨base, hbase, -⟩ := Gateway.exists_valid "/proxy" [] rfl (by decide)
  let settings : Settings := { base with token := { base.token with expirySeconds := lifetime } }
  have hvalid : settings.Valid := { Settings.validate_eq_ok_iff.mp hbase with expiry := hpos }
  exact ⟨settings, Settings.validate_eq_ok_iff.mpr hvalid, rfl⟩

/-- Tokens of an hour are issued at every common instant. -/
theorem issue_of_valid_of_hour :
    ∃ (settings : Settings) (service : TokenService),
      settings.validate = .ok () ∧ settings.token.expirySeconds = 3600 ∧
        ofSettings settings.token = .ok service ∧
          ∃ claims, service.IssuesFor 1893456000000 ⟨"ada", some "Ada", .dev, ["user"]⟩ claims := by
  obtain ⟨settings, hvalid, hlifetime⟩ := exists_valid_of_lifetime 3600 (by decide)
  obtain ⟨service, hservice, -, -, hall⟩ := issue_of_valid hvalid
  have hissues := hall.mpr (by rw [hlifetime]; decide)
  refine ⟨settings, service, hvalid, hlifetime, hservice, ?_⟩
  exact hissues _ _ ⟨by decide, by decide⟩ (by unfold CanCarryAll; decide +kernel)

/-- A lifetime of nine trillion seconds is valid, and at the beginning of the
year 2030 nobody gets a token. -/
theorem issue_breaks_off :
    ∃ (settings : Settings) (service : TokenService),
      settings.validate = .ok () ∧ settings.token.expirySeconds = 9000000000000 ∧
        ofSettings settings.token = .ok service ∧ Calendar.IsCommon 1893456000000 ∧
          ∀ principal, CanCarryAll principal →
            service.issue 1893456000000 principal = .error .beyondCalendar := by
  obtain ⟨settings, hvalid, hlifetime⟩ :=
    exists_valid_of_lifetime 9000000000000 (by decide)
  obtain ⟨service, hservice, -, hseconds⟩ :=
    exists_of_signingKey (Settings.validate_eq_ok_iff.mp hvalid).signingKey_ne_empty
  rw [hlifetime] at hseconds
  refine ⟨settings, service, hvalid, hlifetime, hservice, ⟨by decide, by decide⟩, ?_⟩
  intro principal hroles
  exact issue_beyondCalendar hroles (by rw [hseconds]; decide)

end TokenService

end AccessGateway
