/-!
# Texts as bytes

The UTF-8 bytes of a text as a list, and the reading of bytes as a text.  Reading undoes writing.
Bytes that are not well formed can still be read character by character, with gaps, or with a mark
for each stretch that is the beginning of a character at most.
-/

namespace AccessGateway.Text.Utf8

def encode (s : String) : List UInt8 :=
  s.toList.flatMap String.utf8EncodeChar

/-- The text with the given bytes, if they are well formed. -/
def decode? (bytes : List UInt8) : Option String :=
  String.fromUTF8? bytes.toByteArray

def size (s : String) : Nat :=
  s.utf8ByteSize

/-- The characters of bytes, after some bytes that are passed over. -/
def charactersFrom : (skip : Nat) → List UInt8 → List (Option Char)
  | _, [] => []
  | skip + 1, _ :: rest => charactersFrom skip rest
  | 0, b :: rest =>
    match ((b :: rest).take 4).toByteArray.utf8DecodeChar? 0 with
    | some c => some c :: charactersFrom (c.utf8Size - 1) rest
    | none => none :: charactersFrom 0 rest

/-- The characters that bytes are the code of, with nothing for a byte in the code of none. -/
def characters (bytes : List UInt8) : List (Option Char) := charactersFrom 0 bytes

/-- The bounds of each byte that may follow the first one of a longer code. -/
def continuations (b : UInt8) : List (UInt8 × UInt8) :=
  let any := (0x80, 0xBF)
  if 0xC2 ≤ b ∧ b ≤ 0xDF then [any]
  else if b = 0xE0 then [(0xA0, 0xBF), any]
  else if b = 0xED then [(0x80, 0x9F), any]
  else if 0xE1 ≤ b ∧ b ≤ 0xEF then [any, any]
  else if b = 0xF0 then [(0x90, 0xBF), any, any]
  else if b = 0xF4 then [(0x80, 0x8F), any, any]
  else if 0xF1 ≤ b ∧ b ≤ 0xF3 then [any, any, any]
  else []

/-- How many bytes after the first still fit the code of some character. -/
def fitting (b : UInt8) (rest : List UInt8) : Nat :=
  (((continuations b).zip rest).takeWhile fun ((low, high), c) => low ≤ c && c ≤ high).length

/-- The characters of bytes, after some bytes that are passed over, with a mark for what is no
character. -/
def lossyFrom : (skip : Nat) → List UInt8 → List Char
  | _, [] => []
  | skip + 1, _ :: rest => lossyFrom skip rest
  | 0, b :: rest =>
    match ((b :: rest).take 4).toByteArray.utf8DecodeChar? 0 with
    | some c => c :: lossyFrom (c.utf8Size - 1) rest
    | none => '\uFFFD' :: lossyFrom (fitting b rest) rest

/-- The text of bytes, with marks where they are not well formed. -/
def lossy (bytes : List UInt8) : String := String.ofList (lossyFrom 0 bytes)

theorem toByteArray_encode (s : String) : (encode s).toByteArray = s.toByteArray := by
  rw [encode, ← List.utf8Encode, ← String.toByteArray_ofList, String.ofList_toList]

@[simp] theorem decode?_encode (s : String) : decode? (encode s) = some s := by
  have h : (encode s).toByteArray.IsValidUTF8 := toByteArray_encode s ▸ s.isValidUTF8
  simp only [decode?, String.fromUTF8?]
  rw [dif_pos h]
  congr
  exact toByteArray_encode s

theorem encode_of_decode? {bytes : List UInt8} {s : String} (h : decode? bytes = some s) :
    encode s = bytes := by
  unfold decode? String.fromUTF8? at h
  split at h
  next hvalid =>
    have htext : s.toByteArray = bytes.toByteArray := by
      rw [← Option.some.inj h]
      rfl
    have hbytes := (toByteArray_encode s).trans htext
    simpa using congrArg (fun b : ByteArray => b.data.toList) hbytes
  · cases h

@[simp] theorem encode_append (s t : String) : encode (s ++ t) = encode s ++ encode t := by
  simp [encode]

/-- Different texts have different bytes. -/
theorem encode_injective {s t : String} (h : encode s = encode t) : s = t := by
  have := congrArg decode? h
  simpa using this

theorem charactersFrom_append {skip : Nat} {passed : List UInt8} (h : passed.length = skip)
    (rest : List UInt8) : charactersFrom skip (passed ++ rest) = charactersFrom 0 rest := by
  induction passed generalizing skip with
  | nil =>
      subst h
      rfl
  | cons b passed ih =>
      subst h
      exact ih rfl

theorem characters_append (c : Char) (rest : List UInt8) :
    characters (String.utf8EncodeChar c ++ rest) = some c :: characters rest := by
  have hlength := String.length_utf8EncodeChar c
  have hpos := c.utf8Size_pos
  have hle := c.utf8Size_le_four
  obtain ⟨b, others, hcode⟩ : ∃ b others, String.utf8EncodeChar c = b :: others :=
    List.exists_cons_of_length_pos (hlength ▸ hpos)
  have htake : (b :: (others ++ rest)).take 4 =
      String.utf8EncodeChar c ++ rest.take (4 - c.utf8Size) := by
    rw [← List.cons_append, ← hcode, List.take_append, hlength,
      List.take_of_length_le (hlength ▸ hle)]
  have hothers : others.length = c.utf8Size - 1 := by
    rw [hcode, List.length_cons] at hlength
    omega
  rw [characters, hcode, List.cons_append, charactersFrom, htake, List.toByteArray_append,
    ByteArray.utf8DecodeChar?_utf8EncodeChar_append]
  exact congrArg _ (charactersFrom_append hothers rest)

@[simp] theorem characters_encode (s : String) : characters (encode s) = s.toList.map some := by
  rw [encode]
  induction s.toList with
  | nil => rfl
  | cons c chars ih => rw [List.flatMap_cons, characters_append, ih, List.map_cons]

/-- A byte below 0x80 is the code of a whole character. -/
theorem toNat_of_mem_utf8EncodeChar {c : Char} {b : UInt8} (hb : b ∈ String.utf8EncodeChar c)
    (hlt : b.toNat < 0x80) : b.toNat = c.toNat := by
  have hcode : c.val.toNat = c.toNat := rfl
  have hmarked : ∀ n, 0x80 ≤ n → n < 256 → ¬ (UInt8.ofNat n).toNat < 0x80 := by
    intro n hmark hbyte
    rw [UInt8.toNat_ofNat_of_lt' hbyte]
    omega
  unfold String.utf8EncodeChar at hb
  simp only [hcode] at hb
  split at hb
  · rw [List.mem_singleton] at hb
    rw [hb, UInt8.toNat_ofNat_of_lt' (by simp only [UInt8.size]; omega)]
  · -- every byte of a longer code carries a mark
    exfalso
    split at hb
    · simp only [List.mem_cons, List.not_mem_nil, or_false] at hb
      rcases hb with rfl | rfl <;> refine hmarked _ ?_ ?_ hlt <;> omega
    · split at hb
      · simp only [List.mem_cons, List.not_mem_nil, or_false] at hb
        rcases hb with rfl | rfl | rfl <;> refine hmarked _ ?_ ?_ hlt <;> omega
      · simp only [List.mem_cons, List.not_mem_nil, or_false] at hb
        rcases hb with rfl | rfl | rfl | rfl <;> refine hmarked _ ?_ ?_ hlt <;> omega

end AccessGateway.Text.Utf8
