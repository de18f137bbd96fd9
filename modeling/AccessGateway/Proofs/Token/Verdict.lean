import AccessGateway.Proofs.Text.Base64Words
import AccessGateway.Proofs.Text.Separators
import AccessGateway.Proofs.Token.Signing

/-!
# The verdict on a token

Reading a token does not look at the clock.  A text that cannot be read is refused
for the same reason at every instant; one that can be read carries claims, and from
then on nothing but their expiry matters.  Structure, algorithm, signature and
issuer all belong to the reading, so no forged token is ever said to have expired.

Nor does it matter in which order the required claims are looked for, but for one
thing: a signed list of five items lacks all of them, and its refusal names the one
that happens to be the first.
-/

namespace AccessGateway

namespace ClaimOrder

end ClaimOrder

namespace TokenService

variable {service : TokenService} {token : String} {claims : Claims}

/-- A text is refused for one reason, whatever the clock says and in whatever order
the required claims are looked for. -/
def Refuses (service : TokenService) (token : String) : Prop :=
  ∃ fault : TokenFault, ∀ order now,
    service.validate now token order = .error (.invalid (fault.message order))

/-- A text stands for claims, until the clock reaches their expiry. -/
def Honours (service : TokenService) (token : String) (claims : Claims) : Prop :=
  ∀ order now, service.validate now token order =
    if claims.exp ≤ Calendar.seconds now then .error .expired else .ok claims

/-- Three parts make a token of the service: the header names its algorithm, the
signature is its own, and the payload holds claims that break no rule. -/
structure Genuine (service : TokenService) (header payload signature : String)
    (claims : Claims) : Prop where
  algorithm : decodePart Token.headerDecoder header = .ok .hs512
  signed : signature = service.signature (header ++ "." ++ payload)
  registered : ∃ draft,
    decodePart (fun draft => (Claims.decoder draft).map (draft, ·)) payload =
        .ok (draft, claims) ∧
      checkRegistered service.issuer claims draft = .ok ()

theorem issuer_of_checkRegistered {issuer : String} {draft : Json.Draft}
    (h : checkRegistered issuer claims draft = .ok ()) : claims.iss = issuer := by
  unfold checkRegistered at h
  split at h
  next members =>
    dsimp only at h
    split at h
    · cases h
    · split at h
      · cases h
      · split at h
        · cases h
        · split at h
          · cases h
          next hissuer => exact Decidable.not_not.mp hissuer
  next items => split at h <;> cases h
  · cases h

theorem decodeBytes_eq_ok_iff {α : Type} {decoder : Json.Decoder α} {bytes : List UInt8}
    {a : α} :
    Json.decodeBytes decoder bytes = .ok a ↔
      decoder (Json.Draft.parseBytes bytes).1 = .ok a ∧
        (Json.Draft.parseBytes bytes).2.isEmpty = true := by
  unfold Json.decodeBytes
  dsimp only
  constructor
  · intro h
    split at h
    next found hread =>
      split at h
      next hrest =>
        cases h
        exact ⟨hread, hrest⟩
      · cases h
    · cases h
  · rintro ⟨hread, hrest⟩
    rw [hread]
    exact if_pos hrest

theorem of_decodePart_eq_ok {α : Type} {decoder : Json.Decoder α} {part : String} {a : α}
    (h : decodePart decoder part = .ok a) :
    ∃ bytes, Text.Base64.decode? Text.Base64.urlSafe part = some bytes ∧
      Json.decodeBytes decoder bytes = .ok a := by
  unfold decodePart at h
  split at h
  · cases h
  next bytes hbytes =>
    split at h
    next found hread =>
      cases h
      exact ⟨bytes, hbytes, hread⟩
    · cases h

theorem decodePart_of_pair {α : Type} {decoder : Json.Decoder α} {part : String}
    {draft : Json.Draft} {a : α}
    (h : decodePart (fun draft => (decoder draft).map (draft, ·)) part = .ok (draft, a)) :
    decodePart decoder part = .ok a := by
  obtain ⟨bytes, hbytes, hpair⟩ := of_decodePart_eq_ok h
  obtain ⟨hdraft, hrest⟩ := decodeBytes_eq_ok_iff.mp hpair
  have hread : Json.decodeBytes decoder bytes = .ok a := by
    apply decodeBytes_eq_ok_iff.mpr
    refine ⟨?_, hrest⟩
    cases hdecoded : decoder (Json.Draft.parseBytes bytes).1 with
    | error e =>
        rw [hdecoded] at hdraft
        cases hdraft
    | ok found =>
        rw [hdecoded] at hdraft
        cases hdraft
        rfl
  rw [decodePart, hbytes]
  dsimp only
  rw [hread]

namespace Genuine

variable {header payload signature : String}

theorem carried (h : service.Genuine header payload signature claims) :
    decodePart Claims.decoder payload = .ok claims := by
  obtain ⟨draft, hread, -⟩ := h.registered
  exact decodePart_of_pair hread

theorem issuer (h : service.Genuine header payload signature claims) :
    claims.iss = service.issuer := by
  obtain ⟨draft, -, hregistered⟩ := h.registered
  exact issuer_of_checkRegistered hregistered

end Genuine

theorem validate_of_error {fault : TokenFault} (h : service.readClaims token = .error fault)
    (now : Instant) (order : ClaimOrder) :
    service.validate now token order = .error (.invalid (fault.message order)) := by
  rw [validate, h]

theorem refuses_of_error {fault : TokenFault} (h : service.readClaims token = .error fault) :
    service.Refuses token :=
  ⟨fault, fun order now => validate_of_error h now order⟩

theorem honours_of_ok (h : service.readClaims token = .ok claims) :
    service.Honours token claims := by
  intro order now
  rw [validate, h]

theorem Honours.validate_eq_ok (h : service.Honours token claims) :
    service.validate ((claims.exp - 1) * 1000) token = .ok claims := by
  have hseconds : Calendar.seconds ((claims.exp - 1) * 1000) = claims.exp - 1 := by
    simp [Calendar.seconds]
  rw [h, hseconds, if_neg (by omega)]

theorem Honours.not_refuses (h : service.Honours token claims) : ¬ service.Refuses token := by
  rintro ⟨fault, hrefused⟩
  have hok := h.validate_eq_ok
  rw [hrefused] at hok
  cases hok

theorem readClaims_of_honours (h : service.Honours token claims) :
    service.readClaims token = .ok claims := by
  cases hread : service.readClaims token with
  | error fault => exact absurd (refuses_of_error hread) h.not_refuses
  | ok read =>
      have hread' := (honours_of_ok hread).validate_eq_ok
      have hok := h.validate_eq_ok
      rw [validate, hread] at hok hread'
      dsimp only at hok
      split at hok
      · cases hok
      · cases hok
        rfl

theorem Honours.unique {other : Claims} (h : service.Honours token claims)
    (hother : service.Honours token other) : other = claims := by
  have hread := readClaims_of_honours h
  rw [readClaims_of_honours hother] at hread
  exact Except.ok.inj hread

end TokenService

end AccessGateway
