import AccessGateway.Proofs.Routing.Listing
import AccessGateway.Proofs.Text.Separators
import Mathlib.Data.List.Pairwise
import Mathlib.Data.List.TakeWhile

/-!
# When routes can stand in one table

Templates can stand in one table if each can be read and no two of them, written
differently, are of forms that cannot be told apart.  Routes of one template must not
have two endpoints for the same method, nor two for all others.  These conditions are
what building a table checks, so with them it does not break off.
-/

namespace AccessGateway

namespace Template

/-! ## Forms that cannot be told apart -/

theorem clashes_comm (p q : List TemplatePiece) : clashes p q = clashes q p := by
  fun_induction clashes p q with
  | case1 => rfl
  | case2 a p b q ih => simp [clashes, ih, eq_comm]
  | case3 p q ih => simp [clashes, ih]
  | case4 | case5 | case6 => rfl
  | case7 p q hnil hchar hparameter hrest hmixed hmixed' =>
      symm
      unfold clashes
      split <;> first | rfl | grind

/-- The characters of a form before its first parameter. -/
def stem : List TemplatePiece → List Char
  | .char c :: pieces => c :: stem pieces
  | _ => []

theorem stem_map_char_append (chars : List Char) (pieces : List TemplatePiece) :
    stem (chars.map .char ++ pieces) = chars ++ stem pieces := by
  induction chars with
  | nil => rfl
  | cons c chars ih => simp [stem, ih]

theorem stem_eq_of_clashes {p q : List TemplatePiece} (h : clashes p q = true) :
    stem p = stem q := by
  fun_induction clashes p q with
  | case2 a p b q ih =>
      obtain ⟨rfl, hrest⟩ : a = b ∧ clashes p q = true := by simpa using h
      simp [stem, ih hrest]
  | case7 => cases h
  | case1 | case3 | case4 | case5 | case6 => rfl

theorem eq_of_clashes_chars {chars : List Char} {q : List TemplatePiece}
    (h : clashes q (chars.map .char) = true) : q = chars.map .char := by
  induction chars generalizing q with
  | nil => cases q <;> simp_all [clashes]
  | cons c chars ih =>
      cases q with
      | nil => simp [clashes] at h
      | cons piece q =>
          cases piece with
          | char d =>
              obtain ⟨rfl, hrest⟩ : d = c ∧ clashes q (chars.map .char) = true := by
                simpa [clashes] using h
              rw [ih hrest, List.map_cons]
          | parameter | rest => simp [clashes] at h

/-- The form that a text describes, read from its characters. -/
def form? (chars : List Char) : Option (List TemplatePiece) :=
  match Text.pieces '/' chars with
  | [] :: first :: others => (readForm? (first :: others)).map Prod.fst
  | _ => none

theorem form?_eq (s : String) : form? s.toList = (parse? s).map (·.pieces) := by
  unfold form? parse?
  generalize Text.pieces '/' s.toList = segments
  rcases segments with _ | ⟨_ | _, _ | ⟨first, others⟩⟩
  case cons.nil.cons => simp [Function.comp_def]
  all_goals rfl

/-- No order of trial tells the forms of two texts apart. -/
def textsClash (a b : String) : Bool :=
  (form? a.toList).any fun p => (form? b.toList).any fun q => clashes p q

theorem textsClash_comm (a b : String) : textsClash a b = textsClash b a := by
  unfold textsClash
  cases form? a.toList <;> cases form? b.toList <;> simp [clashes_comm]

theorem textsClash_of_parse? {a b : String} {first second : Template} (ha : parse? a = some first)
    (hb : parse? b = some second) : textsClash a b = clashes first.pieces second.pieces := by
  simp [textsClash, form?_eq, ha, hb]

/-- Texts that can be the templates of one table. -/
structure Compatible (texts : List String) : Prop where
  readable : ∀ text ∈ texts, ∃ template, parse? text = some template
  clear : ∀ a ∈ texts, ∀ b ∈ texts, a ≠ b → textsClash a b = false

theorem Compatible.mono {texts fewer : List String} (h : Compatible texts)
    (hfewer : ∀ text ∈ fewer, text ∈ texts) : Compatible fewer :=
  ⟨fun text htext => h.readable text (hfewer text htext),
    fun a ha b hb => h.clear a (hfewer a ha) b (hfewer b hb)⟩

theorem Compatible.append {texts more : List String} (h : Compatible texts)
    (hmore : Compatible more)
    (hclear : ∀ a ∈ texts, ∀ b ∈ more, a ≠ b → textsClash a b = false) :
    Compatible (texts ++ more) := by
  constructor
  · simp only [List.forall_mem_append]
    exact ⟨h.readable, hmore.readable⟩
  · simp only [List.forall_mem_append]
    refine ⟨fun a ha => ⟨h.clear a ha, hclear a ha⟩, fun a ha => ⟨?_, hmore.clear a ha⟩⟩
    intro b hb hne
    rw [textsClash_comm]
    exact hclear b hb a ha hne.symm

/-! ## Texts without parameters -/

/-- No character of a text begins a parameter. -/
def Plain (chars : List Char) : Prop := ∀ c ∈ chars, isSigil c = false

instance : DecidablePred Plain := fun chars => List.decidableBAll _ chars

theorem readSegment?_of_plain {segment : List Char} (h : Plain segment) (isLast : Bool) :
    readSegment? isLast segment = some (segment.map .char, []) := by
  have htake : segment.takeWhile (!isSigil ·) = segment :=
    List.takeWhile_eq_self_iff.mpr fun c hc => by simp [h c hc]
  have hdrop : segment.dropWhile (!isSigil ·) = [] :=
    List.dropWhile_eq_nil_iff.mpr fun c hc => by simp [h c hc]
  simp [readSegment?, htake, hdrop]

theorem readSegments?_append_of_plain {segments : List (List Char)}
    (h : ∀ segment ∈ segments, Plain segment) (others : List (List Char)) :
    readSegments? (segments ++ others) = (readSegments? others).map fun (pieces, names) =>
      ((segments.flatMap ('/' :: ·)).map .char ++ pieces, names) := by
  induction segments with
  | nil => simp
  | cons segment segments ih =>
      obtain ⟨hsegment, hsegments⟩ := List.forall_mem_cons.mp h
      rw [List.cons_append, readSegments?, readSegment?_of_plain hsegment, ih hsegments]
      cases readSegments? others <;> simp

theorem readSegments?_pieces_append {chars : List Char} (h : Plain ('/' :: chars))
    (others : List (List Char)) :
    readSegments? (Text.pieces '/' chars ++ others) =
      (readSegments? others).map fun (pieces, names) =>
        (('/' :: chars).map .char ++ pieces, names) := by
  have hsegments : ∀ segment ∈ Text.pieces '/' chars, Plain segment := by
    intro segment hsegment c hc
    apply h c
    rw [← Text.flatMap_pieces '/' chars]
    exact List.mem_flatMap.mpr ⟨segment, hsegment, List.mem_cons_of_mem _ hc⟩
  rw [readSegments?_append_of_plain hsegments, Text.flatMap_pieces]

theorem count_parameter_map_char (chars : List Char) :
    (chars.map TemplatePiece.char).count .parameter = 0 := by
  rw [List.count_eq_zero]
  simp

theorem readForm?_pieces_append {chars : List Char} (h : Plain ('/' :: chars))
    (others : List (List Char)) :
    readForm? (Text.pieces '/' chars ++ others) =
      (readForm? others).map fun (pieces, names) =>
        (('/' :: chars).map .char ++ pieces, names) := by
  rw [readForm?, readForm?, readSegments?_pieces_append h, Option.filter_map]
  congr 2
  funext form
  simp only [Function.comp_apply, List.count_append, count_parameter_map_char, Nat.zero_add]

theorem parse?_eq {s : String} {chars : List Char} (hs : s.toList = '/' :: chars) :
    parse? s = (readForm? (Text.pieces '/' chars)).map fun (pieces, names) =>
      ⟨s, pieces, names⟩ := by
  have hpieces : Text.pieces '/' s.toList = [] :: Text.pieces '/' chars := by
    rw [hs]
    simp [Text.pieces]
  obtain ⟨first, others, hfirst⟩ := List.exists_cons_of_ne_nil (Text.pieces_ne_nil '/' chars)
  rw [parse?, hpieces, hfirst]

theorem parse?_of_plain {s : String} {chars : List Char} (hs : s.toList = '/' :: chars)
    (hplain : Plain s.toList) : parse? s = some ⟨s, s.toList.map .char, []⟩ := by
  rw [hs] at hplain
  have hread := readForm?_pieces_append hplain []
  rw [List.append_nil] at hread
  rw [parse?_eq hs, hread, hs]
  simp [readForm?, readSegments?]

theorem parse?_append_of_plain {s : String} {chars : List Char} (hs : s.toList = '/' :: chars)
    (hplain : Plain s.toList) :
    parse? (s ++ "/*path") =
      some ⟨s ++ "/*path", s.toList.map .char ++ [.char '/', .rest], ["path"]⟩ := by
  have hwhole : (s ++ "/*path").toList = '/' :: (chars ++ '/' :: "*path".toList) := by
    simp [hs]
  rw [hs] at hplain
  rw [parse?_eq hwhole, Text.pieces_append, readForm?_pieces_append hplain, hs]
  rfl

end Template

namespace RouteTable

variable {ε : Type} {a b route : Route ε} {table more after : RouteTable ε}

/-! ## Routes that conflict -/

/-- Two routes both have an endpoint for one method, or both for all others. -/
def Doubled (a b : Route ε) : Prop :=
  (∃ method, method ∈ a.handlers.map Prod.fst ∧ method ∈ b.handlers.map Prod.fst) ∨
    (a.others.isSome = true ∧ b.others.isSome = true)

theorem Doubled.symm (h : Doubled a b) : Doubled b a := by
  rcases h with ⟨method, ha, hb⟩ | ⟨ha, hb⟩
  · exact .inl ⟨method, hb, ha⟩
  · exact .inr ⟨hb, ha⟩

theorem isSome_lookup_iff {handlers : List (String × ε)} {method : String} :
    (handlers.lookup method).isSome = true ↔ method ∈ handlers.map Prod.fst := by
  simp only [List.lookup_isSome_iff, List.mem_map, beq_iff_eq]
  exact exists_congr fun handler => and_congr_right fun _ => eq_comm

theorem exists_join (h : ¬ Doubled a b) : ∃ joined, join a b = .ok joined := by
  unfold join
  split
  next hjoin =>
    refine absurd ?_ h
    simp only [Bool.or_eq_true, Bool.and_eq_true, List.any_eq_true, isSome_lookup_iff] at hjoin
    refine hjoin.imp_left ?_
    rintro ⟨handler, hmem, hb⟩
    exact ⟨handler.1, List.mem_map_of_mem hmem, hb⟩
  next => exact ⟨_, rfl⟩

/-- Two routes cannot stand in one table. -/
def Conflicts (a b : Route ε) : Prop :=
  if a.template.text = b.template.text then Doubled a b
  else Template.textsClash a.template.text b.template.text = true

theorem Conflicts.symm (h : Conflicts a b) : Conflicts b a := by
  unfold Conflicts at h ⊢
  split at h
  next hsame =>
    rw [if_pos hsame.symm]
    exact h.symm
  next hother =>
    rw [if_neg (Ne.symm hother), Template.textsClash_comm]
    exact h

theorem additive_conflicts (route : Route ε) : Additive (Conflicts route) := by
  intro a b joined hjoin htext
  obtain ⟨-, rfl⟩ := of_join_eq_ok hjoin
  by_cases hsame : route.template.text = a.template.text
  · have hdoubled : Doubled route ⟨a.template, a.handlers ++ b.handlers, a.others <|> b.others⟩ ↔
        Doubled route a ∨ Doubled route b := by
      simp only [Doubled, List.map_append, List.mem_append]
      cases a.others <;> cases b.others <;> simp <;> grind
    simpa [Conflicts, ← htext, hsame] using hdoubled
  · simp [Conflicts, ← htext, hsame]

theorem not_conflicts_of_compatible {texts : List String} (h : Template.Compatible texts)
    (ha : a.template.text ∈ texts) (hb : b.template.text ∈ texts)
    (hendpoints : a.template.text = b.template.text → ¬ Doubled a b) : ¬ Conflicts a b := by
  unfold Conflicts
  split
  next hsame => exact hendpoints hsame
  next hne =>
    rw [h.clear _ ha _ hb hne]
    exact Bool.false_ne_true

/-! ## Building succeeds -/

theorem exists_insert (htable : table.WellFormed)
    (hroute : Template.parse? route.template.text = some route.template)
    (h : ∀ r ∈ table, ¬ Conflicts route r) : ∃ after, table.insert route = .ok after := by
  obtain ⟨hparsed, -⟩ := htable
  induction table with
  | nil => exact ⟨_, rfl⟩
  | cons other rest ih =>
      obtain ⟨hother, hrest⟩ := List.forall_mem_cons.mp h
      obtain ⟨hparse, hparsed⟩ := List.forall_mem_cons.mp hparsed
      obtain ⟨after, hinsert⟩ := ih hrest hparsed
      simp only [insert]
      split
      next hsame =>
        rw [Conflicts, if_pos hsame.symm] at hother
        obtain ⟨joined, hjoin⟩ := exists_join fun hdoubled => hother hdoubled.symm
        rw [hjoin]
        exact ⟨_, rfl⟩
      next hne =>
        rw [Conflicts, if_neg (Ne.symm hne), Template.textsClash_of_parse? hroute hparse,
          Template.clashes_comm] at hother
        rw [if_neg hother, hinsert]
        exact ⟨_, rfl⟩

theorem exists_add (htable : table.WellFormed) {text : String} {template : Template}
    (hparse : Template.parse? text = some template) {handlers : List (String × ε)}
    {others : Option ε} (h : ∀ r ∈ table, ¬ Conflicts ⟨template, handlers, others⟩ r) :
    ∃ after, table.add text handlers others = .ok after := by
  simp only [add, hparse]
  apply exists_insert htable _ h
  rwa [Template.text_of_parse? hparse]

theorem exists_merge (htable : table.WellFormed) (hmore : more.WellFormed)
    (hpairs : more.Pairwise fun a b => ¬ Conflicts a b)
    (h : ∀ route ∈ more, ∀ r ∈ table, ¬ Conflicts route r) :
    ∃ after, table.merge more = .ok after := by
  obtain ⟨hparsed, -⟩ := hmore
  induction more generalizing table with
  | nil => exact ⟨_, rfl⟩
  | cons route rest ih =>
      obtain ⟨hroute, hrest⟩ := List.forall_mem_cons.mp h
      obtain ⟨hparse, hparsed⟩ := List.forall_mem_cons.mp hparsed
      obtain ⟨hfirst, hpairs⟩ := List.pairwise_cons.mp hpairs
      obtain ⟨larger, hinsert⟩ := exists_insert htable hparse hroute
      have hinserted := inserted_of_insert hinsert
      simp only [merge, hinsert]
      refine ih (hinserted.wellFormed htable hparse) hpairs ?_ hparsed
      intro g hg r hr hconflict
      -- a route of the larger table has only the conflicts that its parts have
      rcases (hinserted.exists_mem_iff (additive_conflicts g)).mp ⟨r, hr, hconflict⟩ with
        ⟨old, hold, hconflict⟩ | hconflict
      · exact hrest g hg old hold hconflict
      · exact hfirst g hg hconflict.symm

/-! ## What building has checked -/

/-- No two routes of a table are of forms that cannot be told apart. -/
def Clear (table : RouteTable ε) : Prop :=
  (table.map (·.template.pieces)).Pairwise fun p q => Template.clashes p q = false

theorem Clear.nil : Clear ([] : RouteTable ε) := List.Pairwise.nil

/-- Adding a route keeps the forms there are, or appends one that clashes with none of them. -/
theorem pieces_of_insert (h : table.insert route = .ok after) :
    after.map (·.template.pieces) = table.map (·.template.pieces) ∨
      after.map (·.template.pieces) = table.map (·.template.pieces) ++ [route.template.pieces] ∧
        ∀ p ∈ table.map (·.template.pieces), Template.clashes p route.template.pieces = false := by
  induction table generalizing after with
  | nil =>
      cases h
      exact .inr ⟨rfl, nofun⟩
  | cons other rest ih =>
      simp only [insert] at h
      split at h
      next =>
        obtain ⟨joined, hjoin, rfl⟩ := of_map_eq_ok h
        obtain ⟨-, rfl⟩ := of_join_eq_ok hjoin
        exact .inl rfl
      next =>
        split at h
        next => cases h
        next hclear =>
          obtain ⟨inserted, hinsert, rfl⟩ := of_map_eq_ok h
          simp only [List.map_cons, List.cons_append, List.cons.injEq, true_and,
            List.forall_mem_cons]
          rcases ih hinsert with hsame | ⟨happended, hrest⟩
          · exact .inl hsame
          · exact .inr ⟨happended, Bool.not_eq_true _ ▸ hclear, hrest⟩

theorem Clear.insert (htable : Clear table) (h : table.insert route = .ok after) :
    Clear after := by
  unfold Clear
  rcases pieces_of_insert h with hsame | ⟨happended, hclear⟩
  · rw [hsame]
    exact htable
  · rw [happended, List.pairwise_append]
    refine ⟨htable, List.pairwise_singleton _ _, fun p hp q hq => ?_⟩
    rw [List.mem_singleton.mp hq]
    exact hclear p hp

theorem Clear.add (htable : Clear table) {text : String} {handlers : List (String × ε)}
    {others : Option ε} (h : table.add text handlers others = .ok after) : Clear after := by
  unfold RouteTable.add at h
  split at h
  · cases h
  · exact htable.insert h

theorem Clear.merge (htable : Clear table) (h : table.merge more = .ok after) :
    Clear after := by
  induction more generalizing table with
  | nil =>
      cases h
      exact htable
  | cons route rest ih =>
      simp only [RouteTable.merge] at h
      split at h
      next larger hinsert => exact ih (htable.insert hinsert) h
      next => cases h

/-- The routes of a table have no conflicts. -/
theorem pairwise_not_conflicts (hclear : Clear table) (htable : table.WellFormed) :
    table.Pairwise fun a b => ¬ Conflicts a b := by
  have hpieces := List.pairwise_map.mp hclear
  refine (hpieces.and htable.distinct).imp_of_mem ?_
  rintro a b ha hb ⟨hclear, htext⟩
  rw [Conflicts, if_neg htext,
    Template.textsClash_of_parse? (htable.parsed a ha) (htable.parsed b hb), hclear]
  exact Bool.false_ne_true

theorem compatible_texts (hclear : Clear table) (htable : table.WellFormed) :
    Template.Compatible (table.map (·.template.text)) := by
  have hpairs := pairwise_not_conflicts hclear htable
  constructor
  · intro text htext
    obtain ⟨route, hroute, rfl⟩ := List.mem_map.mp htext
    exact ⟨_, htable.parsed route hroute⟩
  · intro first hfirst second hsecond hne
    obtain ⟨a, ha, rfl⟩ := List.mem_map.mp hfirst
    obtain ⟨b, hb, rfl⟩ := List.mem_map.mp hsecond
    have hsymm : Std.Symm fun a b : Route ε => ¬ Conflicts a b :=
      ⟨fun _ _ hfree hconflict => hfree hconflict.symm⟩
    have hfree : ¬ Conflicts a b := hpairs.forall ha hb fun hab => hne (hab ▸ rfl)
    rw [Conflicts, if_neg hne] at hfree
    exact Bool.not_eq_true _ ▸ hfree

end RouteTable

end AccessGateway
