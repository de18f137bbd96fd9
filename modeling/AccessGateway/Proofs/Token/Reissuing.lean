import AccessGateway.Proofs.Text.Trimming
import AccessGateway.Proofs.Token.Issuing
import AccessGateway.Proofs.Token.Verdict

/-!
# Tokens for principals that came from tokens

The roles that are read from claims are trimmed, not empty and free of commas, so each
of them can be carried again, wherever the claims were written.  Reading the roles of a
text, joining them and reading them once more changes nothing.
-/

namespace AccessGateway

namespace Claims

open TokenService

theorem canCarry_of_mem_splitRoles {joined role : String} (h : role ∈ splitRoles joined) :
    canCarry role = true := by
  obtain ⟨hmem, hne⟩ := List.mem_filter.mp h
  obtain ⟨piece, hpiece, rfl⟩ := List.mem_map.mp hmem
  have hcomma : ',' ∉ (Text.trim piece).toList := by
    rw [Text.toList_trim]
    intro hc
    exact (Text.of_split_eq rfl).2 piece hpiece (Text.mem_of_mem_trimChars hc)
  unfold canCarry
  rw [hne, Text.trim_trim]
  simpa using hcomma

/-- The test before issuing and the reading of the roles agree on every text. -/
theorem canCarry_iff {role : String} : canCarry role = true ↔ splitRoles role = [role] := by
  constructor
  · intro h
    have hjoined : splitRoles (",".intercalate [role]) = [role] :=
      splitRoles_intercalate (List.cons_ne_nil _ _) (by simpa using h)
    rwa [String.intercalate_singleton] at hjoined
  · intro h
    have hmem : role ∈ splitRoles role := by
      rw [h]
      exact List.mem_singleton_self role
    exact canCarry_of_mem_splitRoles hmem

theorem splitRoles_empty : splitRoles "" = [] := by decide

theorem splitRoles_intercalate_splitRoles (joined : String) :
    splitRoles (",".intercalate (splitRoles joined)) = splitRoles joined := by
  by_cases hnone : splitRoles joined = []
  · rw [hnone, String.intercalate_nil, splitRoles_empty]
  · exact splitRoles_intercalate hnone fun role => canCarry_of_mem_splitRoles

theorem canCarry_of_mem_roleList {claims : Claims} {role : String}
    (h : role ∈ claims.roleList) : canCarry role = true := by
  unfold roleList at h
  split at h
  next joined => exact canCarry_of_mem_splitRoles h
  · cases h

theorem roles_of_toPrincipal {claims : Claims} {default : Domain} {principal : Principal}
    (h : claims.toPrincipal default = .ok principal) : principal.roles = claims.roleList := by
  unfold toPrincipal at h
  split at h
  · cases h
    rfl
  · split at h
    · cases h
      rfl
    · cases h

end Claims

namespace TokenService

/-- The payload of a token reads as the given claims. -/
def Carries (token : String) (claims : Claims) : Prop :=
  ∃ header payload signature, Text.split '.' token = [header, payload, signature] ∧
    decodePart Claims.decoder payload = .ok claims

theorem split_sign (service : TokenService) (claims : Claims) :
    Text.split '.' (service.sign claims) =
      [encodePart headerText, encodePart claims.toJson.print,
        service.signature (encodePart headerText ++ "." ++ encodePart claims.toJson.print)] := by
  have hjoined : service.sign claims =
      (String.singleton '.').intercalate [encodePart headerText, encodePart claims.toJson.print,
        service.signature (encodePart headerText ++ "." ++ encodePart claims.toJson.print)] := by
    rw [← String.toList_inj]
    simp [sign]
  rw [hjoined]
  apply Text.split_intercalate (List.cons_ne_nil _ _)
  intro part hpart
  simp only [List.mem_cons, List.not_mem_nil, or_false] at hpart
  rcases hpart with rfl | rfl | rfl
  · exact dot_not_mem_encodePart _
  · exact dot_not_mem_encodePart _
  · exact dot_not_mem_signature service _

theorem carries_sign (service : TokenService) {claims : Claims} (h : claims.Fits) :
    Carries (service.sign claims) claims :=
  ⟨_, _, _, split_sign service claims, decodePart_of_pair (decodePart_print_toJson h)⟩

/-- Whatever claims a principal was read from, issuing never refuses its roles, and the
token says the same principal under any default domain. -/
theorem issue_of_toPrincipal (service : TokenService) (now : Instant) {claims : Claims}
    {default : Domain} {principal : Principal}
    (h : claims.toPrincipal default = .ok principal) :
    (∀ role, service.issue now principal ≠ .error (.refused (.unsupportedRole role))) ∧
      (Calendar.add? now (service.expirySeconds * 1000) = none ∧
          service.issue now principal = .error .beyondCalendar ∨
        ∃ reissued : Claims,
          service.issue now principal =
              .ok ⟨service.sign reissued, service.tokenType, service.expirySeconds⟩ ∧
            (∀ other, reissued.toPrincipal other = .ok principal) ∧
              (Calendar.contains now = true →
                Carries (service.sign reissued) reissued ∧
                  (0 ≤ reissued.exp → service.Honours (service.sign reissued) reissued))) ∧
        ∀ joined, Claims.splitRoles (",".intercalate (Claims.splitRoles joined)) =
          Claims.splitRoles joined := by
  have hroles : ∀ role ∈ principal.roles, canCarry role = true := by
    rw [Claims.roles_of_toPrincipal h]
    exact fun role => Claims.canCarry_of_mem_roleList
  refine ⟨?_, ?_, Claims.splitRoles_intercalate_splitRoles⟩
  · intro role hrefused
    rw [issue, find?_canCarry hroles] at hrefused
    dsimp only at hrefused
    split at hrefused <;> cases hrefused
  · cases hexpiry : Calendar.add? now (service.expirySeconds * 1000) with
    | none => exact .inl ⟨rfl, issue_beyondCalendar hroles hexpiry⟩
    | some expiry =>
        refine .inr ⟨service.claimsFor now expiry principal, issue_eq_ok hroles hexpiry,
          toPrincipal_claimsFor service now expiry hroles, ?_⟩
        intro hnow
        have hfits := fits_claimsFor service principal hnow (Calendar.add?_eq_some_iff.mp hexpiry).1
        exact ⟨carries_sign service hfits,
          fun hepoch => honours_of_ok (readClaims_sign hfits hepoch rfl)⟩

/-- Roles with stray blanks and commas, under a domain in another spelling. -/
theorem issue_of_toPrincipal_of_stray_blanks :
    ∃ (service : TokenService) (claims reissued : Claims) (principal : Principal),
      claims.roles = some " A,,\u3000B ,\t, A" ∧ claims.domain = some "Tenant_PROD " ∧
        claims.toPrincipal .dev = .ok principal ∧ principal.roles = ["A", "B", "A"] ∧
          service.issue 1000 principal = .ok ⟨service.sign reissued, "Bearer", 60⟩ ∧
            reissued.toPrincipal .dev = .ok principal ∧
              Carries (service.sign reissued) reissued := by
  let service : TokenService := ⟨[1, 2, 3], "gateway", 60, "Bearer"⟩
  let claims : Claims :=
    ⟨"eve", "elsewhere", -1, 5, some " A,,\u3000B ,\t, A", some "Tenant_PROD ", none⟩
  let principal : Principal := ⟨"eve", none, .tenantProd, ["A", "B", "A"]⟩
  have hprincipal : claims.toPrincipal .dev = .ok principal :=
    by decide +kernel
  obtain ⟨-, hbeyond | ⟨reissued, hissue, hsame, hcarries⟩, -⟩ :=
    issue_of_toPrincipal service 1000 hprincipal
  · exact absurd hbeyond.1 (by decide)
  · exact ⟨service, claims, reissued, principal, rfl, rfl, hprincipal, rfl, hissue, hsame .dev,
      (hcarries (by decide)).1⟩

end TokenService

end AccessGateway
