import AccessGateway.Proofs.Url.Hosts
import Mathlib.Data.List.DropRight

/-!
# Texts that append to a target

What is appended to a URL of the web after a slash does not change where it leads:
scheme and authority are read from the same characters as before.  Blanks at the end
of the target, which do not count while it stands alone, come to stand inside of the
longer text; they can make it unreadable, but no other authority comes of them.
-/

namespace AccessGateway.Url

/-! ## Blanks around texts -/

/-- A character that is dropped wherever it stands. -/
def isLayout (c : Char) : Bool := c = '\t' || c = '\n' || c = '\r'

theorem cleaned_eq (s : String) :
    cleaned s = ((s.toList.dropWhile isControlOrSpace).rdropWhile isControlOrSpace).filter
      (!isLayout ·) := rfl

theorem isLayout_of_isPlain {c : Char} (h : isPlain c = true) : isLayout c = false := by
  rw [← Bool.not_eq_true]
  intro hlayout
  simp only [isLayout, Bool.or_eq_true, decide_eq_true_eq] at hlayout
  rcases hlayout with (rfl | rfl) | rfl <;> cases h

theorem dropWhile_append_of_stop {p : Char → Bool} {c : Char} (h : p c = false)
    (front back : List Char) :
    (front ++ c :: back).dropWhile p = front.dropWhile p ++ c :: back := by
  rw [List.dropWhile_append]
  split
  next hempty => rw [List.isEmpty_iff.mp hempty, List.dropWhile_cons, h]; rfl
  next => rfl

theorem rdropWhile_append_cons {p : Char → Bool} {c : Char} (hc : p c = false)
    (front back : List Char) :
    (front ++ c :: back).rdropWhile p = front ++ c :: back.rdropWhile p := by
  unfold List.rdropWhile
  rw [List.reverse_append, List.reverse_cons, List.append_assoc, List.singleton_append,
    dropWhile_append_of_stop hc]
  simp

theorem filter_isLayout_of_plain {chars : List Char} (h : ∀ c ∈ chars, isPlain c = true) :
    chars.filter (!isLayout ·) = chars := by
  rw [List.filter_eq_self]
  intro c hc
  rw [isLayout_of_isPlain (h c hc)]
  rfl

theorem filter_rdropWhile_of_plain {chars : List Char} (h : ∀ c ∈ chars, isPlain c = true) :
    (chars.rdropWhile isControlOrSpace).filter (!isLayout ·) = chars := by
  have hkept : chars.rdropWhile isControlOrSpace = chars := by
    rw [List.rdropWhile_eq_self_iff]
    intro hne
    simpa [isPlain] using h _ (List.getLast_mem hne)
  rw [hkept, filter_isLayout_of_plain h]

theorem rtakeWhile_of_plain_end {s : String} (h : ∀ c ∈ s.toList.getLast?, isPlain c = true) :
    (s.toList.dropWhile isControlOrSpace).rtakeWhile isControlOrSpace = [] := by
  rw [List.rtakeWhile_eq_nil_iff]
  intro hne hblank
  have hlast := congrArg List.getLast?
    (@List.takeWhile_append_dropWhile _ isControlOrSpace s.toList)
  rw [List.getLast?_append, List.getLast?_eq_some_getLast hne] at hlast
  have hplain := h _ hlast.symm
  rw [isPlain, hblank] at hplain
  cases hplain

theorem cleaned_append {s : String} {front more : List Char}
    (hs : s.toList = front ++ '/' :: more) :
    cleaned s = (front.dropWhile isControlOrSpace).filter (!isLayout ·) ++
      '/' :: (more.rdropWhile isControlOrSpace).filter (!isLayout ·) := by
  rw [cleaned_eq, hs, dropWhile_append_of_stop (by decide), rdropWhile_append_cons (by decide),
    List.filter_append, List.filter_cons]
  rfl

theorem exists_blanks (target : String) :
    ∃ blanks, (target.toList.dropWhile isControlOrSpace).filter (!isLayout ·) =
        cleaned target ++ blanks ∧
      (∀ c ∈ blanks, isPlain c = false) ∧
        ((∀ c ∈ target.toList.getLast?, isPlain c = true) → blanks = []) := by
  refine ⟨((target.toList.dropWhile isControlOrSpace).rtakeWhile isControlOrSpace).filter
    (!isLayout ·), ?_, ?_, ?_⟩
  · rw [cleaned_eq, ← List.filter_append, List.rdropWhile_append_rtakeWhile]
  · intro c hc
    have hblank := List.mem_rtakeWhile_imp (List.mem_filter.mp hc).1
    simpa [isPlain] using hblank
  · intro hend
    rw [rtakeWhile_of_plain_end hend, List.filter_nil]

/-- Blanks at the end of a target are kept when something is appended, and nothing else is. -/
theorem exists_cleaned_append {target text : String} {front slashes more : List Char}
    (htarget : target.toList = front ++ slashes) (hslashes : ∀ c ∈ slashes, c = '/')
    (htext : text.toList = front ++ '/' :: more) {first : Char} {rest : List Char}
    (hclean : cleaned target = first :: rest) (hfirst : first ≠ '/') :
    ∃ bare blanks tail, cleaned text = bare ++ '/' :: tail ∧
      bare ++ slashes = cleaned target ++ blanks ∧ (∀ c ∈ blanks, isPlain c = false) ∧
      ((∀ c ∈ target.toList.getLast?, isPlain c = true) → blanks = []) ∧
      ((∀ c ∈ more, isPlain c = true) → tail = more) := by
  have hplain : ∀ c ∈ slashes, isPlain c = true := by
    intro c hc
    rw [hslashes c hc]
    decide
  obtain ⟨blanks, happend, hblank, hnil⟩ := exists_blanks target
  -- the blanks before the target end in front of its slashes
  have hbody : (front.dropWhile isControlOrSpace).isEmpty = false := by
    rw [← Bool.not_eq_true]
    intro hempty
    have hmem : first ∈ cleaned target := by simp [hclean]
    rw [cleaned_eq, htarget, List.dropWhile_append, if_pos hempty] at hmem
    have hfrom := (List.rdropWhile_prefix isControlOrSpace _).subset (List.mem_filter.mp hmem).1
    exact hfirst (hslashes first ((List.dropWhile_sublist _).subset hfrom))
  refine ⟨_, blanks, _, cleaned_append htext, ?_, hblank, hnil, filter_rdropWhile_of_plain⟩
  rw [← happend, htarget, List.dropWhile_append, hbody, if_neg Bool.false_ne_true,
    List.filter_append, filter_isLayout_of_plain hplain]

/-! ## Reading with a scheme of the web -/

/-- A character that ends an authority of the web. -/
def endsAuthority (c : Char) : Bool := c = '/' || c = '?' || c = '#' || c = '\\'

/-- A character that ends a path. -/
def endsPath (c : Char) : Bool := c = '?' || c = '#'

theorem parseWithAuthority_of_web {scheme : String} (h : IsWeb scheme) (chars : List Char) :
    parseWithAuthority scheme chars =
      (parseAuthority scheme (chars.takeWhile (!endsAuthority ·))).map fun authority =>
        let rest := chars.dropWhile (!endsAuthority ·)
        let tail := rest.dropWhile (!endsPath ·)
        ⟨scheme, some authority, .segments (parsePath true (rest.takeWhile (!endsPath ·))),
          (parseTail true tail).1, (parseTail true tail).2⟩ := by
  have hparts : cutBefore
      (fun c => c = '/' || c = '?' || c = '#' || (true && c = '\\')) chars =
        (chars.takeWhile (!endsAuthority ·), chars.dropWhile (!endsAuthority ·)) := rfl
  unfold parseWithAuthority
  rw [h.isSpecial]
  dsimp only
  rw [hparts]
  dsimp only
  cases parseAuthority scheme (chars.takeWhile (!endsAuthority ·)) <;> rfl

theorem of_parseWithAuthority_eq_ok {scheme : String} (hweb : IsWeb scheme) {chars : List Char}
    {url : Url} (h : parseWithAuthority scheme chars = .ok url) :
    ∃ authority, parseAuthority scheme (chars.takeWhile (!endsAuthority ·)) = .ok authority ∧
      url.scheme = scheme ∧ url.authority = some authority ∧
        (url.query, url.fragment) =
          parseTail true ((chars.dropWhile (!endsAuthority ·)).dropWhile (!endsPath ·)) := by
  rw [parseWithAuthority_of_web hweb] at h
  cases hauthority : parseAuthority scheme (chars.takeWhile (!endsAuthority ·)) with
  | error e =>
      rw [hauthority] at h
      cases h
  | ok authority =>
      rw [hauthority] at h
      cases h
      exact ⟨authority, rfl, rfl, rfl, rfl⟩

theorem parseAuthority_nil {scheme : String} (h : isSpecial scheme = true) :
    parseAuthority scheme [] = .error .emptyHost := by
  unfold parseAuthority
  rw [h]
  rfl

theorem ne_nil_of_parseWithAuthority {scheme : String} (hweb : IsWeb scheme) {chars : List Char}
    {url : Url} (h : parseWithAuthority scheme chars = .ok url) : chars ≠ [] := by
  rintro rfl
  rw [parseWithAuthority_of_web hweb, List.takeWhile_nil, parseAuthority_nil hweb.isSpecial] at h
  cases h

theorem scheme_of_parseWithAuthority {scheme : String} {chars : List Char} {url : Url}
    (h : parseWithAuthority scheme chars = .ok url) : url.scheme = scheme := by
  unfold parseWithAuthority at h
  dsimp only at h
  split at h
  · cases h
  · cases h
    rfl

theorem scheme_of_parseFile {chars : List Char} {url : Url} (h : parseFile chars = .ok url) :
    url.scheme = "file" := by
  unfold parseFile at h
  dsimp only at h
  split at h
  · cases h
  · cases h
    rfl

theorem cutScheme?_of_parse {s : String} {site : Url} (h : parse s = .ok site) 
    (hweb : IsWeb site.scheme) : ∃ rest, cutScheme? (cleaned s) = some (site.scheme, rest) := by
  unfold parse at h
  split at h
  · cases h
  next scheme rest hcut => 
    suffices hscheme : site.scheme = scheme by
      exact ⟨rest, hscheme ▸ hcut⟩ 
    split at h
    next hfile => 
      have hname := scheme_of_parseFile h
      have := hweb.ne_file
      rw [hname] at this
      cases this
    next =>
      split at h
      next => exact scheme_of_parseWithAuthority h
      next => 
        split at h
        next => exact scheme_of_parseWithAuthority h
        next => 
          cases h
          rfl

theorem exists_of_cutScheme? {chars rest : List Char} {scheme : String}
    (h : cutScheme? chars = some (scheme, rest)) :
    ∃ letter name, letter.isAlpha = true ∧ chars = letter :: name ++ ':' :: rest ∧
      ∀ other, cutScheme? (letter :: name ++ ':' :: other) = some (scheme, other) := by
  unfold cutScheme? at h
  split at h
  · cases h
  next first chars =>
    split at h
    · cases h
    next halpha =>
      split at h
      · cases h
      next before others hcut =>
        split at h
        next hname =>
          cases h
          obtain ⟨hchars, hcolon⟩ := Text.of_cutFirst?_eq_some hcut
          cases before with
          | nil =>
              obtain ⟨rfl, -⟩ := List.cons.inj hchars
              exact absurd rfl halpha
          | cons letter name =>
              obtain ⟨rfl, -⟩ := List.cons.inj hchars
              refine ⟨first, name, by simpa using halpha, hchars, ?_⟩
              intro other
              unfold cutScheme?
              rw [List.cons_append]
              dsimp only
              rw [if_neg halpha, ← List.cons_append, Text.cutFirst?_append_cons other hcolon]
              dsimp only
              rw [if_pos hname]
        next => cases h

/-! ## What a target and a text that appends to it have in common -/

/-- How a target of the web is read, and a text that appends a slash and more to it.  Slashes at the
end of the target are left out before; blanks there count in the longer text only. -/
structure Extension (target text : String) (site : Url) (more : List Char) where
  /-- What follows scheme and slashes in the target. -/
  place : List Char
  /-- What follows scheme and slashes in the text, before the slash that is appended. -/
  front : List Char
  slashes : List Char
  blanks : List Char
  tail : List Char
  parse_target : parseWithAuthority site.scheme place = .ok site
  parse_text : parse text = parseWithAuthority site.scheme (front ++ '/' :: tail)
  front_append : front ++ slashes = place ++ blanks
  slash : ∀ c ∈ slashes, c = '/'
  blank : ∀ c ∈ blanks, isPlain c = false
  blanks_eq_nil : (∀ c ∈ target.toList.getLast?, isPlain c = true) → blanks = []
  tail_eq : (∀ c ∈ more, isPlain c = true) → tail = more

theorem exists_of_append_eq {front slashes before back : List Char} {c : Char}
    (h : front ++ slashes = before ++ c :: back) (hc : c ∉ slashes) :
    ∃ rest, front = before ++ c :: rest ∧ rest ++ slashes = back := by
  rcases List.append_eq_append_iff.mp h with ⟨middle, -, hslashes⟩ | ⟨middle, hfront, hback⟩
  · exact absurd (by simp [hslashes]) hc
  · cases middle with
    | nil =>
        rw [List.nil_append] at hback
        exact absurd (hback ▸ List.mem_cons_self) hc
    | cons d rest =>
        obtain ⟨rfl, rfl⟩ := List.cons.inj hback
        exact ⟨rest, hfront, rfl⟩

theorem exists_extension {target text : String} {site : Url} (hsite : parse target = .ok site)
    (hweb : IsWeb site.scheme) {more : List Char}
    (htext : text.toList = (Text.dropTrailing '/' target).toList ++ '/' :: more) :
    Nonempty (Extension target text site more) := by
  obtain ⟨slashes, htarget, hslashes⟩ := Text.exists_dropTrailing_append '/' target
  obtain ⟨rest, hcut⟩ := cutScheme?_of_parse hsite hweb
  have hplace := hsite
  rw [parse_of_cutScheme? hweb hcut] at hplace
  obtain ⟨letter, name, halpha, hclean, hscheme⟩ := exists_of_cutScheme? hcut
  have hletter : letter ≠ '/' := by
    rintro rfl
    cases halpha
  obtain ⟨bare, blanks, tail, hbare, happend, hblank, hnil, htail⟩ :=
    exists_cleaned_append htarget hslashes htext hclean hletter
  obtain ⟨first, others, hfirst⟩ :=
    List.exists_cons_of_ne_nil (ne_nil_of_parseWithAuthority hweb hplace)
  have hplain : isSlash first = false := by
    have hhead := List.head?_dropWhile_not isSlash rest
    rwa [hfirst] at hhead
  have hnot : first ∉ slashes := by
    intro hmem
    rw [hslashes first hmem] at hplain
    cases hplain
  have hrest : rest = rest.takeWhile isSlash ++ first :: others := by
    rw [← hfirst, List.takeWhile_append_dropWhile]
  have hparts : bare ++ slashes =
      letter :: name ++ ':' :: rest.takeWhile isSlash ++ first :: (others ++ blanks) := by
    rw [happend, hclean]
    nth_rewrite 1 [hrest]
    simp
  obtain ⟨front, hfront, hback⟩ := exists_of_append_eq hparts hnot
  refine ⟨first :: others, first :: front, slashes, blanks, tail, hfirst ▸ hplace, ?_, ?_,
    hslashes, hblank, hnil, htail⟩
  · have htextCut : cutScheme? (cleaned text) =
        some (site.scheme, rest.takeWhile isSlash ++ first :: (front ++ '/' :: tail)) := by
      rw [hbare, hfront, ← hscheme]
      simp
    have hdrop : (rest.takeWhile isSlash ++ first :: (front ++ '/' :: tail)).dropWhile isSlash =
        first :: (front ++ '/' :: tail) := by
      rw [List.dropWhile_append_of_pos fun c hc => List.mem_takeWhile_imp hc, List.dropWhile_cons,
        hplain]
      rfl
    rw [parse_of_cutScheme? hweb htextCut, hdrop, List.cons_append]
  · rw [List.cons_append, hback, List.cons_append]

/-! ## Authority, query and fragment -/

theorem takeWhile_append_of_stop {p : Char → Bool} {back : List Char}
    (h : ∀ c ∈ back.head?, p c = false) (front : List Char) :
    (front ++ back).takeWhile p = front.takeWhile p := by
  induction front with
  | nil =>
      cases back with
      | nil => rfl
      | cons c back => rw [List.nil_append, List.takeWhile_cons, h c rfl]; rfl
  | cons c front ih => rw [List.cons_append, List.takeWhile_cons, ih, List.takeWhile_cons]

theorem eq_nil_of_parseTail {special : Bool} {chars : List Char}
    (h : parseTail special (chars.dropWhile (!endsPath ·)) = (none, none)) :
    chars.dropWhile (!endsPath ·) = [] := by
  cases hdrop : chars.dropWhile (!endsPath ·) with
  | nil => rfl
  | cons c rest =>
      have hmark : endsPath c = true := by
        have hhead := List.head?_dropWhile_not (!endsPath ·) chars
        rw [hdrop] at hhead
        simpa using hhead
      rw [hdrop] at h
      simp only [endsPath, Bool.or_eq_true, decide_eq_true_eq] at hmark
      rcases hmark with rfl | rfl <;> simp [parseTail, cutBefore] at h

theorem endsPath_of_endsAuthority {c : Char} (h : endsAuthority c = false) :
    endsPath c = false := by
  simp only [endsAuthority, endsPath, Bool.or_eq_false_iff] at h ⊢
  exact ⟨h.1.1.2, h.1.2⟩

theorem endsAuthority_of_blank {c : Char} (h : isPlain c = false) : endsAuthority c = false :=
  of_blank (endsAuthority · = false) (by decide +kernel) h

/-- Blanks behind a place leave its authority as it is, or it cannot be read. -/
theorem parseAuthority_append_blanks {scheme : String} (hweb : IsWeb scheme)
    {place blanks : List Char} (hblank : ∀ c ∈ blanks, isPlain c = false)
    {given reached : Authority}
    (hgiven : parseAuthority scheme (place.takeWhile (!endsAuthority ·)) = .ok given)
    (hreached : parseAuthority scheme ((place ++ blanks).takeWhile (!endsAuthority ·)) =
      .ok reached) : reached = given := by
  rw [List.takeWhile_append] at hreached
  split at hreached
  next hlength =>
    -- nothing ends the authority before the blanks, so it ends in the last of them
    have hpass : ∀ c ∈ blanks, (!endsAuthority c) = true := by
      intro c hc
      rw [endsAuthority_of_blank (hblank c hc)]
      rfl
    rw [(List.takeWhile_sublist _).eq_of_length hlength] at hgiven
    rw [List.takeWhile_eq_self_iff.mpr hpass] at hreached
    rcases List.eq_nil_or_concat blanks with rfl | ⟨front, c, rfl⟩
    · rw [List.append_nil, hgiven] at hreached
      exact (Except.ok.inj hreached).symm
    · rw [List.concat_eq_append, ← List.append_assoc] at hreached
      have hplain := isPlain_of_parseAuthority hweb.isSpecial hreached
      rw [hblank c (by simp)] at hplain
      cases hplain
  next =>
    rw [hgiven] at hreached
    exact (Except.ok.inj hreached).symm

namespace Extension

variable {target text : String} {site url : Url} {more : List Char}

theorem takeWhile_front (e : Extension target text site more) :
    (e.front ++ '/' :: e.tail).takeWhile (!endsAuthority ·) =
      (e.place ++ e.blanks).takeWhile (!endsAuthority ·) := by
  have hslash : ∀ c ∈ e.slashes.head?, (!endsAuthority c) = false := by
    intro c hc
    rw [e.slash c (List.mem_of_mem_head? hc)]
    rfl
  rw [← e.front_append, takeWhile_append_of_stop hslash,
    takeWhile_append_of_stop (by rintro c ⟨⟩; rfl)]

/-- The authority of the longer text is that of the target, unless the blanks become part of it. -/
theorem authority_eq (e : Extension target text site more) (hweb : IsWeb site.scheme)
    (h : parse text = .ok url) : url.scheme = site.scheme ∧ url.authority = site.authority := by
  rw [e.parse_text] at h
  obtain ⟨reached, hreached, hscheme, hauthority, -⟩ := of_parseWithAuthority_eq_ok hweb h
  obtain ⟨given, hgiven, -, hsite, -⟩ := of_parseWithAuthority_eq_ok hweb e.parse_target
  rw [e.takeWhile_front] at hreached
  rw [parseAuthority_append_blanks hweb e.blank hgiven hreached] at hauthority
  exact ⟨hscheme, hauthority.trans hsite.symm⟩

theorem exists_parse (e : Extension target text site more) (hweb : IsWeb site.scheme)
    (hblanks : e.blanks = []) : ∃ url, parse text = .ok url := by
  obtain ⟨given, hgiven, -⟩ := of_parseWithAuthority_eq_ok hweb e.parse_target
  rw [e.parse_text, parseWithAuthority_of_web hweb, e.takeWhile_front, hblanks, List.append_nil,
    hgiven]
  exact ⟨_, rfl⟩

theorem endsPath_of_mem_front (e : Extension target text site more) (hweb : IsWeb site.scheme)
    (hquery : site.query = none) (hfragment : site.fragment = none) {c : Char}
    (hc : c ∈ e.front) : endsPath c = false := by
  obtain ⟨given, -, -, -, htail⟩ := of_parseWithAuthority_eq_ok hweb e.parse_target
  rw [hquery, hfragment] at htail
  have hrest := List.dropWhile_eq_nil_iff.mp (eq_nil_of_parseTail htail.symm)
  have hmem : c ∈ e.place ++ e.blanks := by
    rw [← e.front_append]
    exact List.mem_append_left _ hc
  rcases List.mem_append.mp hmem with hplace | hblank
  · rw [← @List.takeWhile_append_dropWhile _ (!endsAuthority ·) e.place] at hplace
    rcases List.mem_append.mp hplace with hauthority | hpath
    · exact endsPath_of_endsAuthority (by simpa using List.mem_takeWhile_imp hauthority)
    · simpa using hrest c hpath
  · exact endsPath_of_endsAuthority (endsAuthority_of_blank (e.blank c hblank))

theorem parseTail_eq (e : Extension target text site more) (hweb : IsWeb site.scheme)
    (hquery : site.query = none) (hfragment : site.fragment = none) (h : parse text = .ok url) :
    (url.query, url.fragment) = parseTail true (e.tail.dropWhile (!endsPath ·)) := by
  rw [e.parse_text] at h
  obtain ⟨reached, -, -, -, htail⟩ := of_parseWithAuthority_eq_ok hweb h
  have hpass : ∀ c ∈ e.front.dropWhile (!endsAuthority ·), (!endsPath c) = true := by
    intro c hc
    rw [e.endsPath_of_mem_front hweb hquery hfragment ((List.dropWhile_sublist _).subset hc)]
    rfl
  rw [htail, dropWhile_append_of_stop (by rfl), List.dropWhile_append_of_pos hpass,
    List.dropWhile_cons]
  rfl

end Extension

/-! ## Where URLs lead -/

def host? (url : Url) : Option Host := url.authority.map (·.host)

def port? (url : Url) : Option Nat := url.authority.bind (·.port)

/-- A URL leads to a site and asks for what a query asks for, which may be coded once more. -/
structure LeadsTo (url site : Url) (asked : Option String) : Prop where
  scheme : url.scheme = site.scheme
  host : url.host? = site.host?
  port : url.port? = site.port?
  asks : ∀ text ∈ asked, text ≠ "" → ∃ coded, url.query = some coded ∧
    coded = Text.Percent.encodeWith (keepInQuery true) text ∧
      Text.Percent.decodeBytes (Text.Utf8.encode coded) =
        Text.Percent.decodeBytes (Text.Utf8.encode text)
  asks_nothing : asked.getD "" = "" → url.query = none
  fragment : url.fragment = none

/-- A character that ends no query. -/
def isQueryChar (c : Char) : Bool := isPlain c && c != '#'

theorem keepsCodes_query : Text.Percent.KeepsCodes (keepInQuery true) where
  percent := by decide
  digit b := by
    have hall : ∀ n < 256, Text.Percent.isHexByte (UInt8.ofNat n) = true →
        keepInQuery true (UInt8.ofNat n) = true := by decide +kernel
    simpa using hall b.toNat b.toNat_lt
  ascii b := by
    have hall : ∀ n < 256, keepInQuery true (UInt8.ofNat n) = true →
        (UInt8.ofNat n).toNat < 0x80 := by decide +kernel
    simpa using hall b.toNat b.toNat_lt

theorem parseTail_of_query {chars : List Char} (h : ∀ c ∈ chars, c ≠ '#') :
    parseTail true ('?' :: chars) =
      (some (Text.Percent.encodeWith (keepInQuery true) (String.ofList chars)), none) := by
  have hcut : cutBefore (· = '#') ('?' :: chars) = ('?' :: chars, []) := by
    have hfront : ∀ c ∈ '?' :: chars, decide (c = '#') = false := by
      intro c hc
      rcases List.mem_cons.mp hc with rfl | hc
      · rfl
      · exact decide_eq_false (h c hc)
    have happend := @cutBefore_append _ _ [] hfront (by simp)
    rwa [List.append_nil] at happend
  unfold parseTail
  rw [hcut]
  rfl

theorem hasHost_of_parse {s : String} {site : Url} (h : parse s = .ok site)
    (hweb : IsWeb site.scheme) : site.hasHost = true := by
  obtain ⟨rest, hcut⟩ := cutScheme?_of_parse h hweb
  rw [parse_of_cutScheme? hweb hcut] at h
  obtain ⟨authority, hauthority, -, hsite, -⟩ := of_parseWithAuthority_eq_ok hweb h
  obtain ⟨hostChars, -, -, hhost, -⟩ := of_parseAuthority_eq_ok hweb.isSpecial hauthority
  rw [hasHost, hsite]
  simpa using Host.ne_empty_of_parseSpecial hhost

end AccessGateway.Url
