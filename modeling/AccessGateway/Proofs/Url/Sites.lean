import AccessGateway.Proofs.Url.Segments

/-!
# URLs below a site

A site is named by a scheme of the web and an authority, and has a base: segments
without dots below which everything lies.  Reading a text that appends a path to a
site leads to that site, and to the place the path leads to from its base.
-/

namespace AccessGateway.Url

/-- A character that is neither blank nor a control character. -/
def isPlain (c : Char) : Bool := !isControlOrSpace c

/-- A character that ends no path. -/
def isPathChar (c : Char) : Bool := isPlain c && c != '?' && c != '#'

/-- A character that ends no segment. -/
def isSegmentChar (c : Char) : Bool := isPathChar c && c != '/' && c != '\\'

/-- A site of the web: where requests go, and the segments below which their paths lie. -/
structure Site where
  scheme : List Char
  authority : List Char
  base : List (List Char)
  scheme_eq : Text.Ascii.lower (String.ofList scheme) = "http" ∨
    Text.Ascii.lower (String.ofList scheme) = "https"
  authority_ne : authority ≠ []
  authority_plain : ∀ c ∈ authority, isSegmentChar c = true
  base_plain : ∀ segment ∈ base, ∀ c ∈ segment, isSegmentChar c = true
  base_ordinary : ∀ segment ∈ base, isOrdinary (encodeSegment segment) = true

namespace Site

/-- The text of a site: `scheme://authority/base`. -/
def text (site : Site) : List Char :=
  site.scheme ++ ':' :: '/' :: '/' :: (site.authority ++ slashed site.base)

/-- The segments of the base in coded form. -/
def segments (site : Site) : List String := site.base.map encodeSegment

end Site

/-! ## Texts without blanks -/

theorem dropWhile_of_plain {chars : List Char} (h : ∀ c ∈ chars, isPlain c = true) :
    chars.dropWhile isControlOrSpace = chars := by
  cases chars with
  | nil => rfl
  | cons c rest =>
      have hc : isControlOrSpace c = false := by simpa [isPlain] using h c List.mem_cons_self
      rw [List.dropWhile_cons, hc]
      rfl

theorem cleaned_of_plain {s : String} (h : ∀ c ∈ s.toList, isPlain c = true) :
    cleaned s = s.toList := by
  unfold cleaned
  dsimp only
  rw [dropWhile_of_plain h, dropWhile_of_plain fun c hc => h c (List.mem_reverse.mp hc),
    List.reverse_reverse, List.filter_eq_self]
  intro c hc
  have hplain := h c hc
  cases hlayout : (c = '\t' || c = '\n' || c = '\r') with
  | false => rfl
  | true =>
      simp only [Bool.or_eq_true, decide_eq_true_eq] at hlayout
      rcases hlayout with (rfl | rfl) | rfl <;> cases hplain

theorem isPlain_of_isPathChar {c : Char} (h : isPathChar c = true) : isPlain c = true := by
  simp only [isPathChar, Bool.and_eq_true] at h
  exact h.1.1

theorem isPlain_of_isAlpha {c : Char} (h : c.isAlpha = true) : isPlain c = true := by
  have hblank : ∀ n ≤ 0x20, (Char.ofNat n).isAlpha = false := by decide +kernel
  cases hplain : isPlain c with
  | true => rfl
  | false =>
      have hle : c.toNat ≤ 0x20 := by simpa [isPlain, isControlOrSpace] using hplain
      have hnot := hblank c.toNat hle
      rw [Char.ofNat_toNat, h] at hnot
      cases hnot

theorem isPathChar_of_isSegmentChar {c : Char} (h : isSegmentChar c = true) :
    isPathChar c = true := by
  simp only [isSegmentChar, Bool.and_eq_true] at h
  exact h.1.1

theorem ne_of_isSegmentChar {c : Char} (h : isSegmentChar c = true) : c ≠ '/' ∧ c ≠ '\\' := by
  simp only [isSegmentChar, Bool.and_eq_true, bne_iff_ne, ne_eq] at h
  exact ⟨h.1.2, h.2⟩

theorem isPathChar_of_mem_slashed {segments : List (List Char)}
    (h : ∀ segment ∈ segments, ∀ c ∈ segment, isSegmentChar c = true) {c : Char}
    (hc : c ∈ slashed segments) : isPathChar c = true := by
  simp only [slashed, List.mem_flatMap, List.mem_cons] at hc
  obtain ⟨segment, hsegment, rfl | hc⟩ := hc
  · decide
  · exact isPathChar_of_isSegmentChar (h segment hsegment c hc)

theorem cutBefore_append {stop : Char → Bool} {front back : List Char}
    (hfront : ∀ c ∈ front, stop c = false) (hback : ∀ c ∈ back.head?, stop c = true) :
    cutBefore stop (front ++ back) = (front, back) := by
  have hkeep : ∀ c ∈ front, (!stop c) = true := by
    intro c hc
    rw [hfront c hc]
    rfl
  rw [cutBefore, List.takeWhile_append_of_pos hkeep, List.dropWhile_append_of_pos hkeep]
  cases back with
  | nil => simp
  | cons c back =>
      have hc : stop c = true := hback c rfl
      simp [hc]

/-! ## The scheme -/

theorem isAlpha_of_lowerChar {c : Char} (h : (Text.Ascii.lowerChar c).isAlpha = true) :
    c.isAlpha = true := by
  unfold Text.Ascii.lowerChar Char.toLower at h
  split at h
  next hupper =>
    have hisUpper : c.isUpper = true := decide_eq_true hupper
    show (c.isUpper || c.isLower) = true
    rw [hisUpper]
    rfl
  next => exact h

/-- A scheme by which requests are sent. -/
def IsWeb (scheme : String) : Prop := scheme = "http" ∨ scheme = "https"

theorem IsWeb.isSpecial {scheme : String} (h : IsWeb scheme) : isSpecial scheme = true := by
  rcases h with rfl | rfl <;> decide +kernel

theorem IsWeb.ne_file {scheme : String} (h : IsWeb scheme) : (scheme == "file") = false := by
  rcases h with rfl | rfl <;> decide +kernel

/-- A character that is passed over between scheme and authority. -/
def isSlash (c : Char) : Bool := c = '/' || c = '\\'

theorem parse_of_cutScheme? {s scheme : String} {rest : List Char} (hweb : IsWeb scheme)
    (hcut : cutScheme? (cleaned s) = some (scheme, rest)) :
    parse s = parseWithAuthority scheme (rest.dropWhile isSlash) := by
  unfold parse
  rw [hcut]
  dsimp only
  rw [hweb.ne_file, hweb.isSpecial]
  rfl

namespace Site

theorem isAlpha_of_mem_scheme (site : Site) {c : Char} (hc : c ∈ site.scheme) :
    c.isAlpha = true := by
  have hlower : Text.Ascii.lowerChar c ∈ (Text.Ascii.lower (String.ofList site.scheme)).toList := by
    rw [Text.Ascii.lower, String.toList_map, String.toList_ofList]
    exact List.mem_map_of_mem hc
  have hhttp : ∀ c ∈ "http".toList, c.isAlpha = true := List.all_eq_true.mp (by decide +kernel)
  have hhttps : ∀ c ∈ "https".toList, c.isAlpha = true := List.all_eq_true.mp (by decide +kernel)
  apply isAlpha_of_lowerChar
  rcases site.scheme_eq with heq | heq <;> rw [heq] at hlower
  · exact hhttp _ hlower
  · exact hhttps _ hlower

theorem cutScheme?_eq (site : Site) (rest : List Char) :
    cutScheme? (site.scheme ++ ':' :: rest) =
      some (Text.Ascii.lower (String.ofList site.scheme), rest) := by
  have hcolon : ':' ∉ site.scheme := fun hc => by cases site.isAlpha_of_mem_scheme hc
  have hname : site.scheme.all (fun c => c.isAlphanum || c = '+' || c = '-' || c = '.') = true := by
    rw [List.all_eq_true]
    intro c hc
    simp [Char.isAlphanum, site.isAlpha_of_mem_scheme hc]
  have hne : site.scheme ≠ [] := by
    intro hempty
    have hlower : Text.Ascii.lower (String.ofList []) = "" := by decide +kernel
    have hscheme := site.scheme_eq
    rw [hempty, hlower] at hscheme
    simp at hscheme
  obtain ⟨first, others, hscheme⟩ := List.exists_cons_of_ne_nil hne
  have hfirst : first.isAlpha = true := site.isAlpha_of_mem_scheme (by simp [hscheme])
  have hcut := Text.cutFirst?_append_cons rest hcolon
  unfold cutScheme?
  rw [hscheme] at hcut hname ⊢
  rw [List.cons_append] at hcut ⊢
  dsimp only
  rw [hfirst, hcut]
  dsimp only
  rw [hname]
  rfl

/-! ## Reading -/

/-- The scheme as URLs show it. -/
def schemeName (site : Site) : String := Text.Ascii.lower (String.ofList site.scheme)

theorem isWeb_schemeName (site : Site) : IsWeb site.schemeName := site.scheme_eq

theorem isPlain_of_mem_text (site : Site) {c : Char} (hc : c ∈ site.text) : isPlain c = true := by
  have hofSegment : ∀ {c : Char}, isSegmentChar c = true → isPlain c = true := fun h =>
    isPlain_of_isPathChar (isPathChar_of_isSegmentChar h)
  simp only [text, List.mem_append, List.mem_cons, slashed, List.mem_flatMap] at hc
  rcases hc with hc | rfl | rfl | rfl | hc | ⟨segment, hsegment, rfl | hc⟩
  · exact isPlain_of_isAlpha (site.isAlpha_of_mem_scheme hc)
  · decide
  · decide
  · decide
  · exact hofSegment (site.authority_plain c hc)
  · decide
  · exact hofSegment (site.base_plain segment hsegment c hc)

theorem exists_slashed_eq (site : Site) (path : List Char) :
    ∃ body, slashed site.base ++ '/' :: path = '/' :: body := by
  cases site.base with
  | nil => exact ⟨path, rfl⟩
  | cons segment segments => exact ⟨_, by rw [slashed, List.flatMap_cons]; rfl⟩

theorem parsePath_eq (site : Site) (path : List Char) :
    parsePath true (slashed site.base ++ '/' :: path) =
      resolveAfter site.segments.reverse ((cutSegments true path).map encodeSegment) := by
  refine parsePath_slashed path ?_ site.base_ordinary
  intro segment hsegment c hc
  exact ne_of_isSegmentChar (site.base_plain segment hsegment c hc)

theorem parseWithAuthority_eq (site : Site) {path tail : List Char}
    (hpath : ∀ c ∈ path, isPathChar c = true) (htail : ∀ c ∈ tail.head?, c = '?' ∨ c = '#') :
    parseWithAuthority site.schemeName
        (site.authority ++ (slashed site.base ++ '/' :: path ++ tail)) =
      (parseAuthority site.schemeName site.authority).map fun authority =>
        ⟨site.schemeName, some authority,
          .segments (resolveAfter site.segments.reverse
            ((cutSegments true path).map encodeSegment)),
          (parseTail true tail).1, (parseTail true tail).2⟩ := by
  have hauthority : cutBefore
      (fun c => c = '/' || c = '?' || c = '#' || (true && c = '\\'))
      (site.authority ++ (slashed site.base ++ '/' :: path ++ tail)) =
        (site.authority, slashed site.base ++ '/' :: path ++ tail) := by
    apply cutBefore_append
    · intro c hc
      have hplain := site.authority_plain c hc
      simp only [isSegmentChar, isPathChar, Bool.and_eq_true, bne_iff_ne, ne_eq] at hplain
      simp [hplain]
    · obtain ⟨body, hbody⟩ := site.exists_slashed_eq path
      rw [hbody]
      rintro c ⟨⟩
      rfl
  have hwhole : cutBefore (fun c => c = '?' || c = '#')
      (slashed site.base ++ '/' :: path ++ tail) = (slashed site.base ++ '/' :: path, tail) := by
    apply cutBefore_append
    · intro c hc
      have hchar : isPathChar c = true := by
        rcases List.mem_append.mp hc with hbase | hrest
        · exact isPathChar_of_mem_slashed site.base_plain hbase
        · rcases List.mem_cons.mp hrest with rfl | hmem
          · decide
          · exact hpath c hmem
      simp only [isPathChar, Bool.and_eq_true, bne_iff_ne, ne_eq] at hchar
      simp [hchar]
    · intro c hc
      simpa using htail c hc
  unfold parseWithAuthority
  rw [site.isWeb_schemeName.isSpecial]
  dsimp only
  rw [hauthority]
  dsimp only
  rw [hwhole]
  cases parseAuthority site.schemeName site.authority with
  | error e => rfl
  | ok authority =>
      dsimp only
      rw [site.parsePath_eq path]
      rfl

/-- A text that appends a path to a site is read as the place the path leads to from the base. -/
theorem parse_eq (site : Site) {s : String} {path tail : List Char}
    (hs : s.toList = site.text ++ '/' :: path ++ tail)
    (hpath : ∀ c ∈ path, isPathChar c = true) (htail : ∀ c ∈ tail.head?, c = '?' ∨ c = '#')
    (hplain : ∀ c ∈ tail, isPlain c = true) :
    parse s = (parseAuthority site.schemeName site.authority).map fun authority =>
      ⟨site.schemeName, some authority,
        .segments (resolveAfter site.segments.reverse ((cutSegments true path).map encodeSegment)),
        (parseTail true tail).1, (parseTail true tail).2⟩ := by
  have hclean : cleaned s = s.toList := by
    apply cleaned_of_plain
    intro c hc
    simp only [hs, List.mem_append, List.mem_cons] at hc
    rcases hc with (hc | rfl | hc) | hc
    · exact site.isPlain_of_mem_text hc
    · decide
    · exact isPlain_of_isPathChar (hpath c hc)
    · exact hplain c hc
  have hscheme : cutScheme? (cleaned s) =
      some (site.schemeName,
        '/' :: '/' :: (site.authority ++ (slashed site.base ++ '/' :: path ++ tail))) := by
    rw [hclean, hs, text]
    simpa [schemeName] using site.cutScheme?_eq _
  have hslashes : ('/' :: '/' :: (site.authority ++ (slashed site.base ++ '/' :: path ++ tail))
      ).dropWhile isSlash = site.authority ++ (slashed site.base ++ '/' :: path ++ tail) := by
    obtain ⟨first, others, hfirst⟩ := List.exists_cons_of_ne_nil site.authority_ne
    have hplain := site.authority_plain first (by simp [hfirst])
    simp only [isSegmentChar, Bool.and_eq_true, bne_iff_ne, ne_eq] at hplain
    rw [hfirst]
    simp [isSlash, hplain]
  rw [parse_of_cutScheme? site.isWeb_schemeName hscheme, hslashes]
  exact site.parseWithAuthority_eq hpath htail

end Site

end AccessGateway.Url
