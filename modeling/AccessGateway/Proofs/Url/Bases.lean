import AccessGateway.Proofs.Url.CodedSegments
import AccessGateway.Proofs.Url.Targets

/-!
# Paths below a base

A base is a text as it was configured: there may be blanks around it, dots in it and
slashes of both kinds.  What is appended to it after a slash, and has no dots of its own,
stands below the segments that the base comes to, whatever these are.
-/

namespace AccessGateway.Url

/-- What follows scheme and slashes in a target stays in front of what is appended to it. -/
theorem exists_place {target : String} {given : Url} (h : parse target = .ok given)
    (hweb : IsWeb given.scheme) :
    ∃ place blanks, parseWithAuthority given.scheme place = .ok given ∧
      (∀ c ∈ blanks, isPlain c = false) ∧
        ((∀ c ∈ target.toList.getLast?, isPlain c = true) → blanks = []) ∧
          ∀ {s : String} {more : List Char}, s.toList = target.toList ++ '/' :: more →
            (∀ c ∈ more, isPlain c = true) →
              parse s = parseWithAuthority given.scheme (place ++ blanks ++ '/' :: more) := by
  obtain ⟨rest, hcut⟩ := cutScheme?_of_parse h hweb
  rw [parse_of_cutScheme? hweb hcut] at h
  obtain ⟨letter, name, -, hclean, hscheme⟩ := exists_of_cutScheme? hcut
  obtain ⟨blanks, happend, hblank, hnil⟩ := exists_blanks target
  refine ⟨rest.dropWhile isSlash, blanks, h, hblank, hnil, ?_⟩
  intro s more hs hmore
  have hscheme : cutScheme? (cleaned s) =
      some (given.scheme, rest ++ (blanks ++ '/' :: more)) := by
    rw [cleaned_append hs, happend, hclean, filter_rdropWhile_of_plain hmore, ← hscheme]
    simp
  have hfilled : (rest.dropWhile isSlash).isEmpty = false := by
    simpa using ne_nil_of_parseWithAuthority hweb h
  rw [parse_of_cutScheme? hweb hscheme, List.dropWhile_append, hfilled, List.append_assoc]
  rfl

/-! ## Segments -/

theorem cutSegments_append (front back : List Char) :
    cutSegments true (front ++ '/' :: back) = cutSegments true front ++ cutSegments true back := by
  unfold cutSegments
  simp only [if_true, List.map_append, List.map_cons]
  exact Text.pieces_append '/' _ _

theorem exists_resolveAfter_cons (before : List String) (segment : String) :
    ∃ after, ∀ {rest : List String}, rest ≠ [] →
      resolveAfter before (segment :: rest) = resolveAfter after rest := by
  refine ⟨if isDoubleDot segment then above before
    else if isSingleDot segment then before else segment :: before, ?_⟩
  intro rest h
  rw [resolveAfter_cons h]
  split
  · rfl
  · split <;> rfl

theorem exists_resolveAfter_append (before segments : List String) :
    ∃ kept, ∀ {rest : List String}, rest ≠ [] →
      (∀ segment ∈ rest, isOrdinary segment = true) →
        resolveAfter before (segments ++ rest) = kept ++ rest := by
  induction segments generalizing before with
  | nil => exact ⟨before.reverse, fun _ hrest => resolveAfter_of_ordinary hrest⟩
  | cons segment segments ih =>
      obtain ⟨after, hafter⟩ := exists_resolveAfter_cons before segment
      obtain ⟨kept, hkept⟩ := ih after
      refine ⟨kept, ?_⟩
      intro rest hne hrest
      rw [List.cons_append, hafter (List.append_ne_nil_of_right_ne_nil _ hne)]
      exact hkept hne hrest

theorem exists_parsePath_append {path : List Char} (h : ∀ c ∈ path.head?, isSlash c = true) :
    ∃ base, ∀ {more : List Char},
      (∀ segment ∈ cutSegments true more, isOrdinary (encodeSegment segment) = true) →
        parsePath true (path ++ '/' :: more) =
          base ++ (cutSegments true more).map encodeSegment := by
  have hne (more : List Char) : (cutSegments true more).map encodeSegment ≠ [] := by
    simp [cutSegments_ne_nil]
  cases path with
  | nil =>
      obtain ⟨kept, hkept⟩ := exists_resolveAfter_append [] []
      refine ⟨kept, ?_⟩
      intro more hmore
      rw [List.nil_append, parsePath, if_pos (.inl rfl)]
      exact hkept (hne more) (by simpa using hmore)
  | cons c path =>
      obtain ⟨kept, hkept⟩ :=
        exists_resolveAfter_append [] ((cutSegments true path).map encodeSegment)
      refine ⟨kept, ?_⟩
      intro more hmore
      have hslash : c = '/' ∨ true = true ∧ c = '\\' := by simpa [isSlash] using h c rfl
      rw [List.cons_append, parsePath, if_pos hslash, cutSegments_append, List.map_append]
      exact hkept (hne more) (by simpa using hmore)

/-! ## The whole -/

theorem parseWithAuthority_append {scheme : String} (hweb : IsWeb scheme) {place more : List Char}
    (hplace : ∀ c ∈ place.dropWhile (!endsAuthority ·), endsPath c = false)
    (hmore : ∀ c ∈ more, isPathChar c = true) :
    parseWithAuthority scheme (place ++ '/' :: more) =
      (parseAuthority scheme (place.takeWhile (!endsAuthority ·))).map fun authority =>
        ⟨scheme, some authority,
          .segments (parsePath true (place.dropWhile (!endsAuthority ·) ++ '/' :: more)),
          none, none⟩ := by
  have hall : ∀ c ∈ place.dropWhile (!endsAuthority ·) ++ '/' :: more, (!endsPath c) = true := by
    intro c hc
    rcases List.mem_append.mp hc with hfront | hback
    · rw [hplace c hfront]
      rfl
    · rcases List.mem_cons.mp hback with rfl | hc
      · rfl
      · have hchar := hmore c hc
        simp only [isPathChar, Bool.and_eq_true, bne_iff_ne, ne_eq] at hchar
        simp [endsPath, hchar]
  rw [parseWithAuthority_of_web hweb, takeWhile_append_of_stop (by rintro c ⟨⟩; rfl),
    dropWhile_append_of_stop (by rfl)]
  dsimp only
  rw [List.takeWhile_eq_self_iff.mpr hall, List.dropWhile_eq_nil_iff.mpr hall]
  rfl

theorem isSlash_of_head {place : List Char}
    (h : ∀ c ∈ place.dropWhile (!endsAuthority ·), endsPath c = false) :
    ∀ c ∈ (place.dropWhile (!endsAuthority ·)).head?, isSlash c = true := by
  intro c hc
  have hends : endsAuthority c = true := by
    have hhead := List.head?_dropWhile_not (!endsAuthority ·) place
    rw [Option.mem_def.mp hc] at hhead
    simpa using hhead
  have hnot := h c (List.mem_of_mem_head? hc)
  simp only [endsPath, Bool.or_eq_false_iff, decide_eq_false_iff_not] at hnot
  simpa [endsAuthority, isSlash, hnot] using hends

/-- A URL without query and fragment, as a base: what is appended to it stands below the same
segments each time, under the same scheme and authority. -/
theorem exists_base {target : String} {given : Url} (h : parse target = .ok given)
    (hweb : IsWeb given.scheme) (hquery : given.query = none) (hfragment : given.fragment = none) :
    ∃ base, ∀ {s : String} {more : List Char}, s.toList = target.toList ++ '/' :: more →
      (∀ c ∈ more, isPathChar c = true) →
        (∀ segment ∈ cutSegments true more, isOrdinary (encodeSegment segment) = true) →
          (∀ url, parse s = .ok url → url =
            { given with
              path := .segments (base ++ (cutSegments true more).map encodeSegment) }) ∧
            ((∀ c ∈ target.toList.getLast?, isPlain c = true) → ∃ url, parse s = .ok url) := by
  obtain ⟨place, blanks, hplace, hblank, hnil, hparse⟩ := exists_place h hweb
  obtain ⟨authority, hauthority, -, hgiven, htail⟩ := of_parseWithAuthority_eq_ok hweb hplace
  rw [hquery, hfragment] at htail
  have hpassed : ∀ c ∈ place.dropWhile (!endsAuthority ·), endsPath c = false := by
    intro c hc
    simpa using List.dropWhile_eq_nil_iff.mp (eq_nil_of_parseTail htail.symm) c hc
  have hrest : ∀ c ∈ (place ++ blanks).dropWhile (!endsAuthority ·), endsPath c = false := by
    intro c hc
    rw [List.dropWhile_append] at hc
    split at hc
    · exact endsPath_of_endsAuthority
        (endsAuthority_of_blank (hblank c ((List.dropWhile_sublist _).subset hc)))
    · rcases List.mem_append.mp hc with hfront | hback
      · exact hpassed c hfront
      · exact endsPath_of_endsAuthority (endsAuthority_of_blank (hblank c hback))
  obtain ⟨base, hbase⟩ := exists_parsePath_append (isSlash_of_head hrest)
  refine ⟨base, ?_⟩
  intro s more hs hmore hordinary
  have hread := parseWithAuthority_append hweb hrest hmore
  rw [← hparse hs fun c hc => isPlain_of_isPathChar (hmore c hc), hbase hordinary] at hread
  constructor
  · intro url hurl
    rw [hread] at hurl
    cases hreached : parseAuthority given.scheme
        ((place ++ blanks).takeWhile (!endsAuthority ·)) with
    | error e =>
        rw [hreached] at hurl
        cases hurl
    | ok reached =>
        have hsame := parseAuthority_append_blanks hweb hblank hauthority hreached
        rw [hreached, hsame] at hurl
        cases hurl
        obtain ⟨scheme, authority', path, query, fragment⟩ := given
        cases hgiven
        cases hquery
        cases hfragment
        rfl
  · intro hend
    rw [hread, hnil hend, List.append_nil, hauthority]
    exact ⟨_, rfl⟩

/-- Coded texts below a base are the segments behind those that the base has as a directory. -/
theorem exists_base_of_coded {target : String} {given : Url} (h : parse target = .ok given)
    (hweb : IsWeb given.scheme) (hquery : given.query = none) (hfragment : given.fragment = none) :
    ∃ base,
      (∀ site, parse (target ++ "/") = .ok site → site.path = .segments (base ++ [""])) ∧
        ∀ {s first : String} {others : List String},
          s.toList = target.toList ++ codedPath (first :: others) →
            (∀ text ∈ first :: others, text ≠ "." ∧ text ≠ "..") →
              (∀ url, parse s = .ok url → url =
                { given with
                  path := .segments (base ++ (first :: others).map Text.Percent.encode) }) ∧
                ((∀ c ∈ target.toList.getLast?, isPlain c = true) → ∃ url, parse s = .ok url) := by
  obtain ⟨base, hbase⟩ := exists_base h hweb hquery hfragment
  refine ⟨base, ?_, ?_⟩
  · intro site hsite
    have hslash : (target ++ "/").toList = target.toList ++ '/' :: [] := by simp
    have hempty : cutSegments true [] = [[]] := rfl
    have hordinary : isOrdinary (encodeSegment []) = true := by decide +kernel
    rw [(hbase hslash (by simp) (by simpa [hempty] using hordinary)).1 site hsite, hempty]
    rfl
  · intro s first others hs hdots
    have hread := cutSegments_codedPath first others
    rw [← hread]
    apply hbase hs fun c => isPathChar_of_mem_codedPath
    intro segment hsegment
    have hcoded : encodeSegment segment ∈ (first :: others).map Text.Percent.encode := by
      rw [← hread]
      exact List.mem_map_of_mem hsegment
    obtain ⟨text, htext, hsame⟩ := List.mem_map.mp hcoded
    rw [← hsame]
    exact isOrdinary_encode (hdots text htext)

end AccessGateway.Url
