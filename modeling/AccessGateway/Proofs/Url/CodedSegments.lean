import AccessGateway.Proofs.Text.PercentWords
import AccessGateway.Proofs.Url.Sites

/-!
# Coded texts as segments of a path

A path is appended to a site as texts in percent code, a slash before each.  The
coding leaves no separator in them and is kept by the reading, so the texts are the
segments of the path; but dots are not coded, and a text of one or two dots leads
elsewhere.
-/

namespace AccessGateway.Url

open Text

/-! ## Dots -/

/-- The ways to write one dot. -/
def dotSpellings : List (List Char) := [['.'], ['%', '2', 'e'], ['%', '2', 'E']]

theorem eq_or_eq_toUpper_of_toLower {c d : Char} (h : c.toLower = d) : c = d ∨ c = d.toUpper := by
  have hletters : ∀ n < 26, (Char.ofNat (65 + n)).toLower.toUpper = Char.ofNat (65 + n) := by
    decide
  subst h
  by_cases hupper : c.val ≥ 'A'.val ∧ c.val ≤ 'Z'.val
  · right
    have hlow : 65 ≤ c.toNat := hupper.1
    have hhigh : c.toNat ≤ 90 := hupper.2
    have hletter := hletters (c.toNat - 65) (by omega)
    rw [Nat.add_sub_cancel' hlow, Char.ofNat_toNat] at hletter
    exact hletter.symm
  · left
    delta Char.toLower
    rw [dif_neg hupper]

theorem mem_dotSpellings_of_lower {chars : List Char}
    (h : chars.map Ascii.lowerChar = ['.'] ∨ chars.map Ascii.lowerChar = ['%', '2', 'e']) :
    chars ∈ dotSpellings := by
  have hsame : ∀ {c d : Char}, d.toUpper = d → Ascii.lowerChar c = d → c = d := by
    intro c d hd hc
    rcases eq_or_eq_toUpper_of_toLower hc with heq | heq
    · exact heq
    · rw [heq, hd]
  rcases h with h | h
  · obtain ⟨c, rfl, hc⟩ := List.map_eq_singleton_iff.mp h
    rw [hsame (by decide) hc]
    decide
  · obtain ⟨a, chars, rfl, ha, h⟩ := List.map_eq_cons_iff.mp h
    obtain ⟨b, chars, rfl, hb, h⟩ := List.map_eq_cons_iff.mp h
    obtain ⟨c, rfl, hc⟩ := List.map_eq_singleton_iff.mp h
    rw [hsame (by decide) ha, hsame (by decide) hb]
    rcases eq_or_eq_toUpper_of_toLower hc with rfl | rfl <;> decide

theorem decodeBytes_dot {chars : List Char} (h : chars ∈ dotSpellings) (rest : List UInt8) :
    Percent.decodeBytes (chars.map Percent.byteOf ++ rest) = 0x2e :: Percent.decodeBytes rest := by
  simp only [dotSpellings, List.mem_cons, List.not_mem_nil, or_false] at h
  rcases h with rfl | rfl | rfl
  · exact Percent.decodeBytes_cons (by decide) rest
  · rfl
  · exact Percent.decodeBytes_escape 0x2e rest

theorem decodeBytes_dots {parts : List (List Char)} (h : ∀ part ∈ parts, part ∈ dotSpellings) :
    Percent.decodeBytes (parts.flatten.map Percent.byteOf) =
      List.replicate parts.length 0x2e := by
  induction parts with
  | nil => rfl
  | cons part parts ih =>
      obtain ⟨hpart, hparts⟩ := List.forall_mem_cons.mp h
      rw [List.flatten_cons, List.map_append, decodeBytes_dot hpart, ih hparts,
        List.length_cons, List.replicate_succ]

theorem decode?_of_dots {segment : String} {parts : List (List Char)}
    (hsegment : segment.toList = parts.flatten) (h : ∀ part ∈ parts, part ∈ dotSpellings) :
    Percent.decode? segment = Utf8.decode? (List.replicate parts.length 0x2e) := by
  have hspelling : ∀ part ∈ dotSpellings, part.all Ascii.isAscii = true := by decide
  have hascii : ∀ c ∈ segment.toList, Ascii.isAscii c = true := by
    intro c hc
    rw [hsegment] at hc
    obtain ⟨part, hpart, hmem⟩ := List.mem_flatten.mp hc
    exact List.all_eq_true.mp (hspelling part (h part hpart)) c hmem
  rw [Percent.decode?, Utf8.encode, Percent.flatMap_utf8EncodeChar hascii, hsegment,
    decodeBytes_dots h]

/-- What is read as a dot segment is the code of dots. -/
theorem decode?_of_isSingleDot {segment : String} (h : isSingleDot segment = true) :
    Percent.decode? segment = some "." := by
  have hdot : segment.toList ∈ dotSpellings := by
    apply mem_dotSpellings_of_lower
    simpa [isSingleDot, ← String.toList_inj] using h
  have hparts : segment.toList = [segment.toList].flatten := by simp
  rw [decode?_of_dots hparts (by simpa using hdot)]
  exact Utf8.decode?_encode "."

theorem decode?_of_isDoubleDot {segment : String} (h : isDoubleDot segment = true) :
    Percent.decode? segment = some ".." := by
  obtain ⟨first, second, hlower, hfirst, hsecond⟩ : ∃ first second,
      segment.toList.map Ascii.lowerChar = first ++ second ∧
        (first = ['.'] ∨ first = ['%', '2', 'e']) ∧
          (second = ['.'] ∨ second = ['%', '2', 'e']) := by
    have hspelled : segment.toList.map Ascii.lowerChar ∈
        [['.', '.'], ['.', '%', '2', 'e'], ['%', '2', 'e', '.'],
          ['%', '2', 'e', '%', '2', 'e']] := by
      simpa [isDoubleDot, ← String.toList_inj, or_assoc] using h
    simp only [List.mem_cons, List.not_mem_nil, or_false] at hspelled
    rcases hspelled with heq | heq | heq | heq
    · exact ⟨_, _, heq, .inl rfl, .inl rfl⟩
    · exact ⟨['.'], _, heq, .inl rfl, .inr rfl⟩
    · exact ⟨['%', '2', 'e'], ['.'], heq, .inr rfl, .inl rfl⟩
    · exact ⟨['%', '2', 'e'], ['%', '2', 'e'], heq, .inr rfl, .inr rfl⟩
  obtain ⟨a, b, hsegment, rfl, rfl⟩ := List.map_eq_append_iff.mp hlower
  have hparts : segment.toList = [a, b].flatten := by simp [hsegment]
  have hdots : ∀ part ∈ [a, b], part ∈ dotSpellings := by
    simpa using ⟨mem_dotSpellings_of_lower hfirst, mem_dotSpellings_of_lower hsecond⟩
  rw [decode?_of_dots hparts hdots]
  exact Utf8.decode?_encode ".."

/-- The code of a text names a place below, unless the text itself is one dot or two. -/
theorem isOrdinary_encode {s : String} (h : s ≠ "." ∧ s ≠ "..") :
    isOrdinary (Percent.encode s) = true := by
  have hback := Percent.decode?_encode s
  unfold isOrdinary
  rw [Bool.and_eq_true, Bool.not_eq_true', Bool.not_eq_true', ← Bool.not_eq_true,
    ← Bool.not_eq_true]
  constructor
  · intro hdouble
    rw [decode?_of_isDoubleDot hdouble] at hback
    exact h.2 (Option.some.inj hback).symm
  · intro hsingle
    rw [decode?_of_isSingleDot hsingle] at hback
    exact h.1 (Option.some.inj hback).symm

/-! ## Reading coded segments -/

theorem isSegmentChar_of_isWordChar {c : Char} (h : Percent.isWordChar c = true) :
    isSegmentChar c = true := by
  have hends := Percent.contains_eq_false_of_isWordChar h
    (show ['?', '#', '/', '\\'].all (!Percent.isWordChar ·) = true by decide)
  have hplain : ¬ c.toNat ≤ 0x20 := by
    have hlow := (Percent.bounds_of_isWordChar h).1
    omega
  simp only [List.contains_eq_mem, List.mem_cons, List.not_mem_nil, or_false,
    decide_eq_false_iff_not, not_or] at hends
  simp [isSegmentChar, isPathChar, isPlain, isControlOrSpace, hplain, hends]

theorem keepInPath_of_isWordChar {c : Char} (h : Percent.isWordChar c = true) :
    keepInPath (Percent.byteOf c) = true := by
  have hbounds := Percent.bounds_of_isWordChar h
  have hchar := Percent.charOf_byteOf (Percent.isAscii_of_isWordChar h)
  have hbyte : (Percent.byteOf c).toNat = c.toNat :=
    UInt8.toNat_ofNat_of_lt' (Nat.lt_trans hbounds.2 (by decide))
  have hcontrol : isControl (Percent.byteOf c) = false := by
    simp only [isControl, Bool.or_eq_false_iff, decide_eq_false_iff_not, UInt8.lt_iff_toNat_lt,
      ge_iff_le, UInt8.le_iff_toNat_le, hbyte]
    exact ⟨by show ¬ c.toNat < 0x20; omega, by show ¬ 0x7F ≤ c.toNat; omega⟩
  have hother : ∀ chars : String, chars.toList.all (!Percent.isWordChar ·) = true →
      isOneOf chars (Percent.byteOf c) = false := by
    intro chars hchars
    rw [isOneOf, hchar]
    exact Percent.contains_eq_false_of_isWordChar h hchars
  have hquoted := hother " \"<>\x60" (by decide)
  have hended := hother "#?\x7b\x7d" (by decide)
  simp [keepInPath, keepInFragment, hcontrol, hquoted, hended]

theorem encodeSegment_encode (s : String) :
    encodeSegment (Percent.encode s).toList = Percent.encode s := by
  rw [encodeSegment, String.ofList_toList]
  apply Percent.encodeWith_eq_self
  intro c hc
  have hword := Percent.isWordChar_of_mem_encode hc
  exact ⟨Percent.isAscii_of_isWordChar hword, keepInPath_of_isWordChar hword⟩

theorem resolveAfter_of_ordinary {before segments : List String}
    (h : ∀ segment ∈ segments, isOrdinary segment = true) :
    resolveAfter before segments = before.reverse ++ segments := by
  induction segments generalizing before with
  | nil => simp [resolveAfter]
  | cons segment rest ih =>
      obtain ⟨hsegment, hrest⟩ := List.forall_mem_cons.mp h
      cases rest with
      | nil =>
          obtain ⟨hdouble, hsingle⟩ : isDoubleDot segment = false ∧ isSingleDot segment = false := by
            simpa [isOrdinary] using hsegment
          simp [resolveAfter, hdouble, hsingle]
      | cons next others =>
          rw [resolveAfter_cons_of_ordinary (List.cons_ne_nil next others) hsegment, ih hrest]
          simp

theorem cutSegments_slashed {segment : List Char} {segments : List (List Char)}
    (h : ∀ part ∈ segment :: segments, ∀ c ∈ part, c ≠ '/' ∧ c ≠ '\\') :
    cutSegments true (segment ++ slashed segments) = segment :: segments := by
  induction segments generalizing segment with
  | nil =>
      rw [slashed, List.flatMap_nil, List.append_nil]
      exact cutSegments_eq_singleton (h segment List.mem_cons_self)
  | cons next others ih =>
      obtain ⟨hsegment, hothers⟩ := List.forall_mem_cons.mp h
      rw [slashed, List.flatMap_cons, List.cons_append, cutSegments_append_slash hsegment]
      exact congrArg _ (ih hothers)

/-- The text of a path of coded texts. -/
def codedPath (texts : List String) : List Char :=
  slashed (texts.map fun text => (Percent.encode text).toList)

theorem isSegmentChar_of_mem_codedPath {texts : List String} {segment : List Char}
    (hsegment : segment ∈ texts.map fun text => (Percent.encode text).toList) {c : Char}
    (hc : c ∈ segment) : isSegmentChar c = true := by
  obtain ⟨text, -, rfl⟩ := List.mem_map.mp hsegment
  exact isSegmentChar_of_isWordChar (Percent.isWordChar_of_mem_encode hc)

theorem isPathChar_of_mem_codedPath {first : String} {others : List String} {c : Char}
    (hc : c ∈ (Percent.encode first).toList ++ codedPath others) : isPathChar c = true := by
  rcases List.mem_append.mp hc with hfirst | hothers
  · exact isPathChar_of_isSegmentChar
      (isSegmentChar_of_isWordChar (Percent.isWordChar_of_mem_encode hfirst))
  · exact isPathChar_of_mem_slashed
      (fun segment hsegment c hc => isSegmentChar_of_mem_codedPath hsegment hc) hothers

theorem cutSegments_codedPath (first : String) (others : List String) :
    (cutSegments true ((Percent.encode first).toList ++ codedPath others)).map encodeSegment =
      (first :: others).map Percent.encode := by
  let segments := (first :: others).map fun text => (Percent.encode text).toList
  have hchars : ∀ segment ∈ segments, ∀ c ∈ segment, c ≠ '/' ∧ c ≠ '\\' :=
    fun segment hsegment c hc => ne_of_isSegmentChar (isSegmentChar_of_mem_codedPath hsegment hc)
  have hcut : cutSegments true ((Percent.encode first).toList ++ codedPath others) = segments :=
    cutSegments_slashed hchars
  rw [hcut, List.map_map]
  exact List.map_congr_left fun text _ => encodeSegment_encode text

/-- Coded texts that are appended to a site lead to the place they lead to from its base. -/
theorem Site.parse_coded (site : Site) {s first : String} {others : List String}
    (hs : s.toList = site.text ++ codedPath (first :: others)) :
    parse s = (parseAuthority site.schemeName site.authority).map fun authority =>
      ⟨site.schemeName, some authority,
        .segments (resolveAfter site.segments.reverse ((first :: others).map Percent.encode)),
        none, none⟩ := by
  have htext : s.toList = site.text ++
      '/' :: ((Percent.encode first).toList ++ codedPath others) ++ [] := by
    rw [hs, List.append_nil]
    rfl
  have hpath : ∀ c ∈ (Percent.encode first).toList ++ codedPath others, isPathChar c = true :=
    fun c => isPathChar_of_mem_codedPath
  rw [site.parse_eq htext hpath (by simp) (by simp), cutSegments_codedPath]
  rfl

end AccessGateway.Url
