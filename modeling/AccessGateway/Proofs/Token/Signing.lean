import AccessGateway.Proofs.Text.Base64Words
import AccessGateway.Proofs.Token.Carrying

/-!
# Signed claims

A service reads the claims back from a token that it signed itself, until the
clock reaches their expiry.  A token is a word of visible characters.
-/

namespace AccessGateway.TokenService

theorem dot_not_mem_encodePart (s : String) : '.' ∉ (encodePart s).toList :=
  fun h => (Text.Base64.of_mem_encode_urlSafe h).2.2 rfl

theorem dot_not_mem_signature (service : TokenService) (message : String) :
    '.' ∉ (service.signature message).toList :=
  fun h => (Text.Base64.of_mem_encode_urlSafe h).2.2 rfl

/-- A part of a token is read as the text it was made from. -/
theorem decodePart_encodePart {α : Type} (decoder : Json.Decoder α) {s : String} {a : α}
    (h : Json.decodeText decoder s = .ok a) :
    decodePart decoder (encodePart s) = .ok a := by
  simp [decodePart, encodePart, Text.Base64.decode?_encode_urlSafe, h]

theorem decodePart_headerText :
    decodePart Token.headerDecoder (encodePart headerText) = .ok .hs512 := by
  apply decodePart_encodePart
  rfl

theorem decodePart_print_toJson {claims : Claims} (h : claims.Fits) :
    decodePart (fun draft => (Claims.decoder draft).map (draft, ·))
        (encodePart claims.toJson.print) =
      .ok (Json.Draft.ofJson claims.toJson, claims) := by
  apply decodePart_encodePart
  have hclaims : Claims.decoder (Json.Draft.ofJson claims.toJson) = .ok claims :=
    Claims.decodeValue_toJson h
  rw [Json.decodeText_print _ claims.isIntegral_toJson, Json.decodeValue, hclaims]
  rfl

theorem readClaims_sign {service : TokenService} {claims : Claims} (h : claims.Fits)
    (hexp : 0 ≤ claims.exp) (hiss : claims.iss = service.issuer) :
    service.readClaims (service.sign claims) = .ok claims := by
  have hsigned : Text.rsplitOnce? '.' (service.sign claims) =
      some (encodePart headerText ++ "." ++ encodePart claims.toJson.print,
        service.signature
          (encodePart headerText ++ "." ++ encodePart claims.toJson.print)) := by
    apply Text.rsplitOnce?_eq_some
    · simp [sign]
    · exact dot_not_mem_signature service _
  have hmessage :
      Text.rsplitOnce? '.' (encodePart headerText ++ "." ++ encodePart claims.toJson.print) =
        some (encodePart headerText, encodePart claims.toJson.print) := by
    apply Text.rsplitOnce?_eq_some
    · simp
    · exact dot_not_mem_encodePart _
  have hregistered := Claims.checkRegistered_toJson hexp
  rw [hiss] at hregistered
  unfold readClaims
  rw [hsigned]
  dsimp only
  rw [hmessage]
  dsimp only
  rw [decodePart_headerText]
  simp [decodePart_print_toJson h, hregistered]

theorem of_mem_sign {service : TokenService} {claims : Claims} {c : Char}
    (h : c ∈ (service.sign claims).toList) :
    Text.Ascii.isPrintable c = true ∧ Text.isBlank c = false := by
  have hword {bytes : List UInt8}
      (hc : c ∈ (Text.Base64.encode Text.Base64.urlSafe bytes).toList) :
      Text.Ascii.isPrintable c = true ∧ Text.isBlank c = false := by
    obtain ⟨hprintable, hblank, -⟩ := Text.Base64.of_mem_encode_urlSafe hc
    exact ⟨hprintable, hblank⟩
  have hdot (hc : c ∈ ".".toList) :
      Text.Ascii.isPrintable c = true ∧ Text.isBlank c = false := by
    obtain rfl : c = '.' := by simpa using hc
    decide
  simp only [sign, String.toList_append, List.mem_append] at h
  rcases h with ((((hheader | hc) | hpayload) | hc) | hsignature)
  · exact hword hheader
  · exact hdot hc
  · exact hword hpayload
  · exact hdot hc
  · exact hword hsignature

theorem sign_ne_nil (service : TokenService) (claims : Claims) :
    (service.sign claims).toList ≠ [] := by
  simp [sign]

end AccessGateway.TokenService
