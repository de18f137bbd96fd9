import AccessGateway.Text.Ascii
import AccessGateway.Text.Base64
import AccessGateway.Text.Blank

/-!
# Words of the URL alphabet

Bytes that are written in the URL alphabet of base64 are read back.  What is
written is a word: visible characters, and neither blanks nor dots among them.
-/

namespace AccessGateway.Text.Base64

theorem lt_of_mem_sextets {bytes : List UInt8} {n : Nat} (h : n ∈ sextets bytes) :
    n < 64 := by
  induction bytes using sextets.induct with
  | case1 => simp [sextets] at h
  | case2 a =>
      have ha := a.toNat_lt
      simp only [sextets, List.mem_cons, List.not_mem_nil, or_false] at h
      omega
  | case3 a b =>
      have ha := a.toNat_lt
      have hb := b.toNat_lt
      simp only [sextets, List.mem_cons, List.not_mem_nil, or_false] at h
      omega
  | case4 a b c rest ih =>
      have ha := a.toNat_lt
      have hb := b.toNat_lt
      have hc := c.toNat_lt
      simp only [sextets, List.mem_cons] at h
      rcases h with h | h | h | h | h
      · omega
      · omega
      · omega
      · omega
      · exact ih h

/-- The bytes behind the six-bit numbers of bytes are those bytes. -/
theorem octets?_sextets (bytes : List UInt8) : octets? (sextets bytes) = some bytes := by
  induction bytes using sextets.induct with
  | case1 => rfl
  | case2 a =>
      have ha : a.toNat / 4 * 4 + a.toNat % 4 * 16 / 16 = a.toNat := by omega
      have hrest : a.toNat % 4 * 16 % 16 = 0 := by omega
      simp only [sextets, octets?, hrest, if_true, ha, UInt8.ofNat_toNat]
  | case3 a b =>
      have hlt := b.toNat_lt
      have ha : a.toNat / 4 * 4 + (a.toNat % 4 * 16 + b.toNat / 16) / 16 = a.toNat := by omega
      have hb : (a.toNat % 4 * 16 + b.toNat / 16) % 16 * 16 + b.toNat % 16 * 4 / 4 =
          b.toNat := by omega
      have hrest : b.toNat % 16 * 4 % 4 = 0 := by omega
      simp only [sextets, octets?, hrest, if_true, ha, hb, UInt8.ofNat_toNat]
  | case4 a b c rest ih =>
      have hltb := b.toNat_lt
      have hltc := c.toNat_lt
      have ha : a.toNat / 4 * 4 + (a.toNat % 4 * 16 + b.toNat / 16) / 16 = a.toNat := by omega
      have hb : (a.toNat % 4 * 16 + b.toNat / 16) % 16 * 16 +
          (b.toNat % 16 * 4 + c.toNat / 64) / 4 = b.toNat := by omega
      have hc : (b.toNat % 16 * 4 + c.toNat / 64) % 4 * 64 + c.toNat % 64 = c.toNat := by omega
      simp only [sextets, octets?, ih, Option.map_some, ha, hb, hc, UInt8.ofNat_toNat]

theorem valueOf?_charOf_urlSafe {n : Nat} (h : n < 64) :
    valueOf? urlSafe (charOf urlSafe n) = some n := by
  have hall : ∀ m : Fin 64, valueOf? urlSafe (charOf urlSafe m) = some m.val := by decide
  exact hall ⟨n, h⟩

theorem mapM_valueOf?_urlSafe {numbers : List Nat} (h : ∀ n ∈ numbers, n < 64) :
    (numbers.map (charOf urlSafe)).mapM (valueOf? urlSafe) = some numbers := by
  induction numbers with
  | nil => rfl
  | cons n numbers ih =>
      have hn := valueOf?_charOf_urlSafe (h n List.mem_cons_self)
      have hrest := ih fun m hm => h m (List.mem_cons_of_mem n hm)
      simp [hn, hrest]

theorem toList_encode_urlSafe (bytes : List UInt8) :
    (encode urlSafe bytes).toList = (sextets bytes).map (charOf urlSafe) := by
  simp [encode, urlSafe]

theorem decode?_encode_urlSafe (bytes : List UInt8) :
    decode? urlSafe (encode urlSafe bytes) = some bytes := by
  have hnumbers := mapM_valueOf?_urlSafe fun n (hn : n ∈ sextets bytes) => lt_of_mem_sextets hn
  have hpadded : urlSafe.padded = false := rfl
  rw [decode?, toList_encode_urlSafe, hnumbers, hpadded]
  exact octets?_sextets bytes

/-- A character that words are made of. -/
theorem of_mem_encode_urlSafe {bytes : List UInt8} {c : Char}
    (h : c ∈ (encode urlSafe bytes).toList) :
    Ascii.isPrintable c = true ∧ isBlank c = false ∧ c ≠ '.' := by
  rw [toList_encode_urlSafe] at h
  obtain ⟨n, hn, rfl⟩ := List.mem_map.mp h
  have hall : ∀ m : Fin 64, Ascii.isPrintable (charOf urlSafe m) = true ∧
      isBlank (charOf urlSafe m) = false ∧ charOf urlSafe m ≠ '.' := by decide
  exact hall ⟨n, lt_of_mem_sextets hn⟩

end AccessGateway.Text.Base64
