import AccessGateway.Text.Percent

/-!
# Words of the percent code

A text in which every byte but the unreserved ones is coded can be read back.  The
word that codes it is made of unreserved characters and `%`, so it has no
separators in it, and a coding that keeps these characters leaves it as it is.
-/

namespace AccessGateway.Text.Percent

/-! ## Characters of words -/

/-- An unreserved character, or the one that begins a code. -/
def isWordChar (c : Char) : Bool :=
  Ascii.isLetterOrDigit c || ['%', '-', '.', '_', '~'].contains c

theorem isWordChar_of_mem_encode {s : String} {c : Char} (hc : c ∈ (encode s).toList) :
    isWordChar c = true := by
  rw [encode, encodeWith, String.toList_ofList, List.mem_flatMap] at hc
  obtain ⟨b, -, hb⟩ := hc
  unfold encodeByte at hb
  split at hb
  next hkept =>
    rw [List.mem_singleton.mp hb]
    simp only [isUnreserved, Bool.or_eq_true, beq_iff_eq] at hkept
    rcases hkept with (((h | h) | h) | h) | h <;> simp [isWordChar, h]
  next =>
    have hlt := b.toNat_lt
    have hdigit : ∀ n < 16, isWordChar (Ascii.upperHexDigit n) = true := by decide
    simp only [escape, List.mem_cons, List.not_mem_nil, or_false] at hb
    rcases hb with rfl | rfl | rfl
    · decide
    · exact hdigit _ (by omega)
    · exact hdigit _ (by omega)

theorem bounds_of_isWordChar {c : Char} (h : isWordChar c = true) :
    0x24 < c.toNat ∧ c.toNat < 0x7F := by
  simp only [isWordChar, Bool.or_eq_true, List.contains_eq_mem, decide_eq_true_eq] at h
  rcases h with h | h
  · change (decide (c.val ≥ 'A'.val ∧ c.val ≤ 'Z'.val) ||
      c.val ≥ 'a'.val && c.val ≤ 'z'.val || c.val ≥ '0'.val && c.val ≤ '9'.val) = true at h
    simp only [Bool.or_eq_true, Bool.and_eq_true, decide_eq_true_eq, ge_iff_le,
      UInt32.le_iff_toNat_le] at h
    have hcode : c.toNat = c.val.toNat := rfl
    rw [hcode]
    rcases h with (⟨hlow, hhigh⟩ | ⟨hlow, hhigh⟩) | ⟨hlow, hhigh⟩ <;>
      exact ⟨Nat.lt_of_lt_of_le (by decide) hlow, Nat.lt_of_le_of_lt hhigh (by decide)⟩
  · simp only [List.mem_cons, List.not_mem_nil, or_false] at h
    rcases h with rfl | rfl | rfl | rfl | rfl <;> decide

theorem contains_eq_false_of_isWordChar {c : Char} (h : isWordChar c = true) {chars : List Char}
    (hchars : chars.all (!isWordChar ·) = true) : chars.contains c = false := by
  rw [List.contains_eq_mem, decide_eq_false_iff_not]
  intro hc
  have hnot := List.all_eq_true.mp hchars c hc
  rw [h] at hnot
  cases hnot

theorem isAscii_of_isWordChar {c : Char} (h : isWordChar c = true) : Ascii.isAscii c = true :=
  decide_eq_true (Nat.lt_succ_of_lt (bounds_of_isWordChar h).2)

/-! ## Characters of one byte -/

/-- The byte of a character of the ASCII range. -/
def byteOf (c : Char) : UInt8 := UInt8.ofNat c.toNat

theorem toNat_byteOf {c : Char} (h : Ascii.isAscii c = true) : (byteOf c).toNat = c.toNat :=
  UInt8.toNat_ofNat_of_lt' (Nat.lt_trans (of_decide_eq_true h) (by decide))

theorem charOf_byteOf {c : Char} (h : Ascii.isAscii c = true) :
    Char.ofNat (byteOf c).toNat = c := by
  rw [toNat_byteOf h, Char.ofNat_toNat]

theorem utf8EncodeChar_eq {c : Char} (h : Ascii.isAscii c = true) :
    String.utf8EncodeChar c = [byteOf c] := by
  have hle : c.val.toNat ≤ 127 := Nat.le_of_lt_succ (of_decide_eq_true h)
  unfold String.utf8EncodeChar
  rw [if_pos hle]
  rfl

theorem flatMap_utf8EncodeChar {chars : List Char} (h : ∀ c ∈ chars, Ascii.isAscii c = true) :
    chars.flatMap String.utf8EncodeChar = chars.map byteOf := by
  induction chars with
  | nil => rfl
  | cons c chars ih =>
      obtain ⟨hc, hchars⟩ := List.forall_mem_cons.mp h
      rw [List.flatMap_cons, utf8EncodeChar_eq hc, ih hchars]
      rfl

theorem flatMap_encodeByte_eq_self {keep : UInt8 → Bool} {chars : List Char}
    (h : ∀ c ∈ chars, Ascii.isAscii c = true ∧ keep (byteOf c) = true) :
    (chars.map byteOf).flatMap (encodeByte keep) = chars := by
  induction chars with
  | nil => rfl
  | cons c chars ih =>
      obtain ⟨⟨hascii, hkept⟩, hchars⟩ := List.forall_mem_cons.mp h
      rw [List.map_cons, List.flatMap_cons, ih hchars, encodeByte, if_pos hkept,
        charOf_byteOf hascii]
      rfl

/-- A text of ASCII characters that are all kept stays as it is. -/
theorem encodeWith_eq_self {keep : UInt8 → Bool} {s : String}
    (h : ∀ c ∈ s.toList, Ascii.isAscii c = true ∧ keep (byteOf c) = true) :
    encodeWith keep s = s := by
  rw [encodeWith, Utf8.encode, flatMap_utf8EncodeChar fun c hc => (h c hc).1,
    flatMap_encodeByte_eq_self h, String.ofList_toList]

/-! ## Reading back -/

theorem decodeBytes_cons {b : UInt8} (h : b ≠ 0x25) (rest : List UInt8) :
    decodeBytes (b :: rest) = b :: decodeBytes rest := by
  rw [decodeBytes]
  intro high low others hb
  exact absurd hb h

theorem toNat_charOf (b : UInt8) : (Char.ofNat b.toNat).toNat = b.toNat := by
  have hvalid : b.toNat.isValidChar := .inl (Nat.lt_trans b.toNat_lt (by decide))
  rw [Char.ofNat, dif_pos hvalid]
  rfl

theorem byteOf_charOf (b : UInt8) : byteOf (Char.ofNat b.toNat) = b := by
  rw [byteOf, toNat_charOf, UInt8.ofNat_toNat]

theorem decodeBytes_escape (b : UInt8) (rest : List UInt8) :
    decodeBytes ((escape b).map byteOf ++ rest) = b :: decodeBytes rest := by
  have hlt := b.toNat_lt
  have hascii : ∀ n < 16, Ascii.isAscii (Ascii.upperHexDigit n) = true := by decide
  have hdigit : ∀ {n : Nat}, n < 16 →
      Ascii.hexValue? (Char.ofNat (byteOf (Ascii.upperHexDigit n)).toNat) = some n := by
    intro n hn
    rw [charOf_byteOf (hascii n hn), Ascii.hexValue?_upperHexDigit hn]
  have hvalue : b.toNat / 16 * 16 + b.toNat % 16 = b.toNat := by omega
  have hpercent : byteOf '%' = 0x25 := by decide
  simp only [escape, List.map_cons, List.map_nil, List.cons_append, List.nil_append, hpercent]
  rw [decodeBytes, hdigit (by omega), hdigit (by omega)]
  simp only [hvalue, UInt8.ofNat_toNat]

/-- The bytes of the code of a byte. -/
def codeOf (keep : UInt8 → Bool) (b : UInt8) : List UInt8 := (encodeByte keep b).map byteOf

section

variable {keep : UInt8 → Bool} {b : UInt8}

theorem codeOf_of_keep (h : keep b = true) : codeOf keep b = [b] := by
  rw [codeOf, encodeByte, if_pos h, List.map_singleton, byteOf_charOf]

theorem codeOf_of_not_keep (h : keep b = false) : codeOf keep b = (escape b).map byteOf := by
  rw [codeOf, encodeByte, h]
  rfl

theorem decodeBytes_codeOf (h : keep b = true → b ≠ 0x25) (rest : List UInt8) :
    decodeBytes (codeOf keep b ++ rest) = b :: decodeBytes rest := by
  cases hkeep : keep b with
  | true => rw [codeOf_of_keep hkeep, List.singleton_append, decodeBytes_cons (h hkeep)]
  | false => rw [codeOf_of_not_keep hkeep, decodeBytes_escape]

end

@[simp] theorem decode?_encode (s : String) : decode? (encode s) = some s := by
  have hpercent : ∀ b, isUnreserved b = true → b ≠ 0x25 := by
    rintro b hkept rfl
    revert hkept
    decide
  have hbytes : ∀ bytes : List UInt8,
      decodeBytes ((bytes.flatMap (encodeByte isUnreserved)).map byteOf) = bytes := by
    intro bytes
    rw [List.map_flatMap]
    change decodeBytes (bytes.flatMap (codeOf isUnreserved)) = bytes
    induction bytes with
    | nil => rfl
    | cons b bytes ih => rw [List.flatMap_cons, decodeBytes_codeOf (hpercent b), ih]
  have hcoded : Utf8.encode (encode s) = (encode s).toList.map byteOf :=
    flatMap_utf8EncodeChar fun c hc => isAscii_of_isWordChar (isWordChar_of_mem_encode hc)
  rw [decode?, hcoded, encode, encodeWith, String.toList_ofList, hbytes, Utf8.decode?_encode]

/-- Different texts have different codes. -/
theorem encode_injective {s t : String} (h : encode s = encode t) : s = t := by
  have hback := congrArg decode? h
  simpa using hback

/-! ## Characters that are no part of a code -/

/-- A byte that is no part of a code stands in what is read. -/
theorem mem_decodeBytes {b : UInt8} (hpercent : b ≠ 0x25)
    (hdigit : Ascii.hexValue? (Char.ofNat b.toNat) = none) {bytes : List UInt8} (hb : b ∈ bytes) :
    b ∈ decodeBytes bytes := by
  fun_induction decodeBytes bytes with
  | case1 => exact hb
  | case2 high low rest h l hlow hhigh ih =>
      simp only [List.mem_cons] at hb
      rcases hb with rfl | rfl | rfl | hb
      · exact absurd rfl hpercent
      · rw [hdigit] at hhigh
        cases hhigh
      · rw [hdigit] at hlow
        cases hlow
      · exact List.mem_cons_of_mem _ (ih hb)
  | case3 high low rest hplain ih =>
      rcases List.mem_cons.mp hb with rfl | hb
      · exact List.mem_cons_self
      · exact List.mem_cons_of_mem _ (ih hb)
  | case4 other rest hplain ih =>
      rcases List.mem_cons.mp hb with rfl | hb
      · exact List.mem_cons_self
      · exact List.mem_cons_of_mem _ (ih hb)

/-- A character that is no part of a code stands in the text that is read. -/
theorem mem_of_decode? {s decoded : String} (h : decode? s = some decoded) {c : Char}
    (hc : c ∈ s.toList) (hascii : Ascii.isAscii c = true) (hpercent : c ≠ '%')
    (hdigit : Ascii.hexValue? c = none) : c ∈ decoded.toList := by
  have hbyte : byteOf c ∈ Utf8.encode s := by
    refine List.mem_flatMap.mpr ⟨c, hc, ?_⟩
    rw [utf8EncodeChar_eq hascii]
    exact List.mem_singleton_self _
  have hne : byteOf c ≠ 0x25 := by
    intro heq
    have hchar := charOf_byteOf hascii
    rw [heq] at hchar
    exact hpercent hchar.symm
  have hkept : byteOf c ∈ Utf8.encode decoded := by
    rw [Utf8.encode_of_decode? h]
    exact mem_decodeBytes hne (by rwa [charOf_byteOf hascii]) hbyte
  obtain ⟨d, hd, hbyteOf⟩ := List.mem_flatMap.mp hkept
  have hlt : (byteOf c).toNat < 0x80 := by
    rw [toNat_byteOf hascii]
    exact of_decide_eq_true hascii
  have hsame := Utf8.toNat_of_mem_utf8EncodeChar hbyteOf hlt
  rw [toNat_byteOf hascii, Char.toNat_inj] at hsame
  exact hsame ▸ hd

/-! ## Texts that are coded once more -/

/-- Whether a byte is a hexadecimal digit. -/
def isHexByte (b : UInt8) : Bool := (Ascii.hexValue? (Char.ofNat b.toNat)).isSome

/-- A coding by which codes stay as they are. -/
structure KeepsCodes (keep : UInt8 → Bool) : Prop where
  percent : keep 0x25 = true
  digit : ∀ b, isHexByte b = true → keep b = true
  ascii : ∀ b, keep b = true → b.toNat < 0x80

variable {keep : UInt8 → Bool}

theorem decodeBytes_percent {bytes : List UInt8} (h : (bytes.takeWhile isHexByte).length < 2) :
    decodeBytes (0x25 :: bytes) = 0x25 :: decodeBytes bytes := by
  rcases bytes with - | ⟨high, - | ⟨low, rest⟩⟩
  · rfl
  · rw [decodeBytes]
    intro _ _ _ _ hbytes
    simp at hbytes
  · rw [decodeBytes]
    split
    next hhigh hlow =>
      simp only [List.takeWhile_cons, isHexByte, hhigh, hlow, Option.isSome_some] at h
      exact absurd h (by simp)
    next => rfl

/-- A code begins with a digit only if it stands for one. -/
theorem takeWhile_flatMap_codeOf (h : KeepsCodes keep) (bytes : List UInt8) :
    (bytes.flatMap (codeOf keep)).takeWhile isHexByte = bytes.takeWhile isHexByte := by
  induction bytes with
  | nil => rfl
  | cons b bytes ih =>
      rw [List.flatMap_cons]
      cases hkeep : keep b with
      | true =>
          rw [codeOf_of_keep hkeep, List.singleton_append, List.takeWhile_cons, ih,
            List.takeWhile_cons]
      | false =>
          have hplain : isHexByte b = false := by
            rw [← Bool.not_eq_true]
            intro hhex
            simp [h.digit b hhex] at hkeep
          have hpercent : isHexByte (byteOf '%') = false := by decide
          rw [codeOf_of_not_keep hkeep, List.takeWhile_cons, hplain]
          simp [escape, hpercent]

theorem decodeBytes_flatMap_codeOf (h : KeepsCodes keep) (bytes : List UInt8) :
    decodeBytes (bytes.flatMap (codeOf keep)) = decodeBytes bytes := by
  -- a percent sign that begins no code
  have hpercent : ∀ rest : List UInt8, (rest.takeWhile isHexByte).length < 2 →
      decodeBytes (rest.flatMap (codeOf keep)) = decodeBytes rest →
        decodeBytes ((0x25 :: rest).flatMap (codeOf keep)) = decodeBytes (0x25 :: rest) := by
    intro rest hdigits ih
    rw [List.flatMap_cons, codeOf_of_keep h.percent, List.singleton_append,
      decodeBytes_percent (by rwa [takeWhile_flatMap_codeOf h]), ih, decodeBytes_percent hdigits]
  induction bytes using decodeBytes.induct with
  | case1 => rfl
  | case2 high low rest x y hhigh hlow ih =>
      have hkept : ∀ b, isHexByte b = true → codeOf keep b = [b] := fun b hb =>
        codeOf_of_keep (h.digit b hb)
      simp only [List.flatMap_cons, codeOf_of_keep h.percent, hkept high (by simp [isHexByte, *]),
        hkept low (by simp [isHexByte, *]), List.singleton_append]
      rw [decodeBytes, decodeBytes, hhigh, hlow, ih]
  | case3 high low rest hplain ih =>
      refine hpercent _ ?_ ih
      cases hhigh : Ascii.hexValue? (Char.ofNat high.toNat) with
      | none => simp [isHexByte, hhigh]
      | some x =>
          cases hlow : Ascii.hexValue? (Char.ofNat low.toNat) with
          | none => simp [isHexByte, hhigh, hlow]
          | some y => exact (hplain x y hhigh hlow).elim
  | case4 b rest hplain ih =>
      by_cases hb : b = 0x25
      · subst hb
        refine hpercent _ ?_ ih
        rcases rest with - | ⟨high, - | ⟨low, rest⟩⟩
        · simp
        · exact Nat.lt_succ_of_le (List.takeWhile_sublist _).length_le
        · exact absurd rfl (hplain high low rest rfl)
      · rw [List.flatMap_cons, decodeBytes_codeOf fun _ => hb, ih, decodeBytes_cons hb]

theorem isAscii_of_mem_encodeByte (h : KeepsCodes keep) {b : UInt8} {c : Char}
    (hc : c ∈ encodeByte keep b) : Ascii.isAscii c = true := by
  unfold encodeByte at hc
  split at hc
  next hkeep =>
    rw [List.mem_singleton.mp hc, Ascii.isAscii, toNat_charOf]
    exact decide_eq_true (h.ascii b hkeep)
  next =>
    have hlt := b.toNat_lt
    have hdigit : ∀ n < 16, Ascii.isAscii (Ascii.upperHexDigit n) = true := by decide
    simp only [escape, List.mem_cons, List.not_mem_nil, or_false] at hc
    rcases hc with rfl | rfl | rfl
    · decide
    · exact hdigit _ (by omega)
    · exact hdigit _ (by omega)

/-- What is coded once more is read as it was before. -/
theorem decodeBytes_encodeWith (h : KeepsCodes keep) (s : String) :
    decodeBytes (Utf8.encode (encodeWith keep s)) = decodeBytes (Utf8.encode s) := by
  have hascii : ∀ c ∈ (encodeWith keep s).toList, Ascii.isAscii c = true := by
    intro c hc
    rw [encodeWith, String.toList_ofList, List.mem_flatMap] at hc
    obtain ⟨b, -, hb⟩ := hc
    exact isAscii_of_mem_encodeByte h hb
  have hbytes : Utf8.encode (encodeWith keep s) = (Utf8.encode s).flatMap (codeOf keep) := by
    rw [Utf8.encode, flatMap_utf8EncodeChar hascii, encodeWith, String.toList_ofList,
      List.map_flatMap]
    rfl
  rw [hbytes, decodeBytes_flatMap_codeOf h]

end AccessGateway.Text.Percent
