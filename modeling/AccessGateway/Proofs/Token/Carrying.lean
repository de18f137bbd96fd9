import AccessGateway.Proofs.Json.Rereading
import AccessGateway.Proofs.Text.Separators
import AccessGateway.Token.Service

/-!
# What a token carries

Roles that can be carried survive the joining by commas, so the claims that are
made for a principal turn back into that principal.  Claims survive the way through
their JSON text, as long as the seconds in them fit into 64 bits.
-/

namespace AccessGateway

namespace Claims

theorem splitRoles_intercalate {roles : List String} (hne : roles ≠ [])
    (h : ∀ role ∈ roles, TokenService.canCarry role = true) :
    splitRoles (",".intercalate roles) = roles := by
  have hcarried : ∀ role ∈ roles,
      role ≠ "" ∧ ',' ∉ role.toList ∧ Text.trim role = role := by
    intro role hrole
    have hcan := h role hrole
    simp only [TokenService.canCarry, Bool.and_eq_true, Bool.not_eq_true', beq_iff_eq] at hcan
    refine ⟨?_, ?_, hcan.2⟩
    · simpa using hcan.1.1
    · simpa using hcan.1.2
  have hsplit : Text.split ',' (",".intercalate roles) = roles :=
    Text.split_intercalate hne fun role hrole => (hcarried role hrole).2.1
  have htrim : roles.map Text.trim = roles := by
    rw [List.map_congr_left fun role hrole => (hcarried role hrole).2.2, List.map_id']
  rw [splitRoles, hsplit, htrim, List.filter_eq_self]
  intro role hrole
  simpa using (hcarried role hrole).1

open Json

/-- The seconds in claims fit into 64 bits. -/
structure Fits (claims : Claims) : Prop where
  iat : -9223372036854775808 ≤ claims.iat ∧ claims.iat ≤ 9223372036854775807
  exp : -9223372036854775808 ≤ claims.exp ∧ claims.exp ≤ 9223372036854775807

theorem isIntegral_toJson (claims : Claims) : claims.toJson.isIntegral = true := by
  obtain ⟨sub, iss, iat, exp, roles, domain, cn⟩ := claims
  cases roles <;> cases domain <;> cases cn <;> rfl

theorem signed64_integer {i : Int}
    (h : -9223372036854775808 ≤ i ∧ i ≤ 9223372036854775807) :
    Decoder.signed64 (.integer i) = .ok i := by
  rw [Decoder.signed64, Decoder.integer, if_pos h]

/-- Claims are read back from their JSON, whichever of the optional ones are there. -/
theorem decodeValue_toJson {claims : Claims} (h : claims.Fits) :
    decodeValue decoder claims.toJson = .ok claims := by
  have hiat := signed64_integer h.iat
  have hexp := signed64_integer h.exp
  obtain ⟨sub, iss, iat, exp, roles, domain, cn⟩ := claims
  cases roles <;> cases domain <;> cases cn
  all_goals
    simp [decodeValue, decoder, Shape.decoder, shape, toJson, optionalMember, Draft.ofJson,
      Draft.membersOfJson, Record.decode, Record.ofMembers, Record.get, Record.getD,
      Shape.required, Shape.omissible, Shape.defaulted, Field.of, Decoder.string,
      Decoder.option, hiat, hexp, Seq.seq, Functor.map, Except.map, Bind.bind, Except.bind,
      Pure.pure, Except.pure, List.lookup_cons]

/-- No registered rule stands against claims with their own issuer. -/
theorem checkRegistered_toJson {claims : Claims} (hexp : 0 ≤ claims.exp) :
    TokenService.checkRegistered claims.iss claims (Draft.ofJson claims.toJson) = .ok () := by
  have hnot : ¬ claims.exp < 0 := by omega
  obtain ⟨sub, iss, iat, exp, roles, domain, cn⟩ := claims
  cases roles <;> cases domain <;> cases cn
  all_goals
    simp [TokenService.checkRegistered, toJson, optionalMember, Draft.ofJson,
      Draft.membersOfJson, hnot]

end Claims

namespace TokenService

/-- The claims that are made for a principal turn back into it. -/
theorem toPrincipal_claimsFor (service : TokenService) (now expiry : Instant)
    {principal : Principal} (h : ∀ role ∈ principal.roles, canCarry role = true)
    (default : Domain) :
    (service.claimsFor now expiry principal).toPrincipal default = .ok principal := by
  have hroles : (service.claimsFor now expiry principal).roleList = principal.roles := by
    simp only [claimsFor, Claims.roleList]
    by_cases hnone : principal.roles = []
    · simp [hnone]
    · simp [hnone, Claims.splitRoles_intercalate hnone h]
  have hdomain : Domain.parse principal.domain.token = .ok principal.domain := by
    simp [Domain.parse]
  unfold Claims.toPrincipal
  rw [hroles]
  simp [claimsFor, hdomain]

end TokenService

end AccessGateway
