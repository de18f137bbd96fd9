import AccessGateway.Proofs.Token.Signing

/-!
# Issued tokens

A principal whose roles can be carried gets a token as long as the expiry lies in the
calendar, and until then the token gives back the principal.
-/

namespace AccessGateway

theorem Calendar.contains_of_add? {t u : Instant} {d : Int} (ht : 0 ≤ t) (hd : 0 ≤ d)
    (h : add? t d = some u) : contains t = true := by
  obtain ⟨hu, rfl⟩ := add?_eq_some_iff.mp h
  have hfirst : 0 ≤ seconds t := Int.fdiv_nonneg ht (by decide)
  have hlast := (contains_iff.mp hu).2
  have hmono : seconds t ≤ seconds (t + d) := seconds_mono (Int.le_add_of_nonneg_right hd)
  rw [contains_iff, firstSecond]
  omega

namespace TokenService

variable {service : TokenService} {now expiry : Instant} {principal : Principal}

theorem find?_canCarry (hroles : ∀ role ∈ principal.roles, canCarry role = true) :
    (principal.roles.find? fun role => !canCarry role) = none := by
  rw [List.find?_eq_none]
  intro role hrole
  simp [hroles role hrole]

theorem issue_eq_ok (hroles : ∀ role ∈ principal.roles, canCarry role = true)
    (hexpiry : Calendar.add? now (service.expirySeconds * 1000) = some expiry) :
    service.issue now principal =
      .ok ⟨service.sign (service.claimsFor now expiry principal), service.tokenType,
        service.expirySeconds⟩ := by
  rw [issue, find?_canCarry hroles, hexpiry]

theorem issue_beyondCalendar (hroles : ∀ role ∈ principal.roles, canCarry role = true)
    (hexpiry : Calendar.add? now (service.expirySeconds * 1000) = none) :
    service.issue now principal = .error .beyondCalendar := by
  rw [issue, find?_canCarry hroles, hexpiry]

theorem exp_claimsFor (principal : Principal)
    (hexpiry : Calendar.add? now (service.expirySeconds * 1000) = some expiry) :
    (service.claimsFor now expiry principal).exp =
      Calendar.seconds now + service.expirySeconds := by
  obtain ⟨-, rfl⟩ := Calendar.add?_eq_some_iff.mp hexpiry
  exact Calendar.seconds_add now service.expirySeconds

theorem fits_claimsFor (service : TokenService) (principal : Principal)
    (hnow : Calendar.contains now = true) (hexpiry : Calendar.contains expiry = true) :
    (service.claimsFor now expiry principal).Fits := by
  have hissued := Calendar.contains_iff.mp hnow
  have hexpires := Calendar.contains_iff.mp hexpiry
  simp only [Calendar.firstSecond, Calendar.lastSecond] at hissued hexpires
  constructor
  · show _ ≤ Calendar.seconds now ∧ Calendar.seconds now ≤ _
    omega
  · show _ ≤ Calendar.seconds expiry ∧ Calendar.seconds expiry ≤ _
    omega

theorem readClaims_sign_claimsFor (principal : Principal) (hnow : 0 ≤ now)
    (hpos : 0 < service.expirySeconds)
    (hexpiry : Calendar.add? now (service.expirySeconds * 1000) = some expiry) :
    service.readClaims (service.sign (service.claimsFor now expiry principal)) =
      .ok (service.claimsFor now expiry principal) := by
  have hexp := exp_claimsFor principal hexpiry
  have hepoch : 0 ≤ Calendar.seconds now := Int.fdiv_nonneg hnow (by decide)
  have hfits := fits_claimsFor service principal
    (Calendar.contains_of_add? hnow (by omega) hexpiry) (Calendar.add?_eq_some_iff.mp hexpiry).1
  exact readClaims_sign hfits (by omega) rfl

theorem validate_sign_claimsFor (principal : Principal) (hnow : 0 ≤ now)
    (hpos : 0 < service.expirySeconds)
    (hexpiry : Calendar.add? now (service.expirySeconds * 1000) = some expiry)
    (later : Instant) :
    service.validate later (service.sign (service.claimsFor now expiry principal)) =
      if Calendar.seconds now + service.expirySeconds ≤ Calendar.seconds later then
        .error .expired
      else .ok (service.claimsFor now expiry principal) := by
  rw [validate, readClaims_sign_claimsFor principal hnow hpos hexpiry]
  dsimp only
  rw [exp_claimsFor principal hexpiry]

/-- Until it expires, and no longer, an issued token gives back its principal. -/
theorem exists_issued (hnow : 0 ≤ now) (hpos : 0 < service.expirySeconds)
    (hroles : ∀ role ∈ principal.roles, canCarry role = true)
    (hexpiry : Calendar.add? now (service.expirySeconds * 1000) = some expiry) :
    ∃ token,
      service.issue now principal = .ok ⟨token, service.tokenType, service.expirySeconds⟩ ∧
        token.toList ≠ [] ∧
          (∀ c ∈ token.toList,
            Text.Ascii.isPrintable c = true ∧ Text.isBlank c = false) ∧
            ∀ later,
              (Calendar.seconds later < Calendar.seconds now + service.expirySeconds →
                ∃ claims, service.validate later token = .ok claims ∧
                  ∀ default, claims.toPrincipal default = .ok principal) ∧
                (Calendar.seconds now + service.expirySeconds ≤ Calendar.seconds later →
                  service.validate later token = .error .expired) := by
  refine ⟨_, issue_eq_ok hroles hexpiry, sign_ne_nil _ _, fun c hc => of_mem_sign hc, ?_⟩
  intro later
  have hvalidate := validate_sign_claimsFor principal hnow hpos hexpiry later
  constructor
  · intro hbefore
    rw [if_neg (by omega)] at hvalidate
    exact ⟨_, hvalidate, toPrincipal_claimsFor service now expiry hroles⟩
  · intro hafter
    rwa [if_pos hafter] at hvalidate

theorem exists_of_signingKey {settings : TokenSettings} (h : settings.signingKey ≠ "") :
    ∃ service, ofSettings settings = .ok service ∧
      service.tokenType = settings.tokenType ∧
        service.expirySeconds = settings.expirySeconds := by
  have hkey : settings.signingKey.isEmpty = false := by
    simpa using h
  rw [ofSettings, hkey]
  exact ⟨_, rfl, rfl, rfl⟩

end TokenService

end AccessGateway
