import AccessGateway.Proofs.Routing.Search
import Mathlib.Data.List.Nodup

/-!
# What a table of routes holds

A table is built by adding routes one after another, and routes of one template
are joined on the way.  What a joined route offers is what the two offered, so
what a whole table offers can be read off the routes that were added to it,
whatever their order.
-/

namespace AccessGateway

namespace Template

theorem text_of_parse? {s : String} {template : Template} (h : parse? s = some template) :
    template.text = s := by
  unfold parse? at h
  split at h
  · obtain ⟨parts, -, rfl⟩ := Option.map_eq_some_iff.mp h
    rfl
  · cases h

/-- A path is of the form that a template text describes. -/
def Covers (text path : String) : Prop :=
  ∃ template values, parse? text = some template ∧ template.match? path = some values

/-- Forms that differ in a character before anything else sets them apart. -/
def apart : List TemplatePiece → List TemplatePiece → Bool
  | .char a :: p, .char b :: q => a ≠ b || apart p q
  | .parameter :: p, .parameter :: q => apart p q
  | [], _ :: _ => true
  | _ :: _, [] => true
  | _, _ => false

theorem values?_eq_none_of_apart {p q : List TemplatePiece} (h : apart p q = true)
    {path : List Char} {values : List String} (hp : values? p path = some values) :
    values? q path = none := by
  induction p, q using apart.induct generalizing path values with
  | case1 a p b q ih =>
      cases path with
      | nil => rfl
      | cons c path =>
          by_cases ha : a = c
          · subst ha
            simp only [values?, if_true] at hp
            by_cases hb : b = a
            · subst hb
              simp only [apart, ne_eq, not_true_eq_false, decide_false, Bool.false_or] at h
              simp only [values?, if_true]
              exact ih h hp
            · simp [values?, hb]
          · simp [values?, ha] at hp
  | case2 p q ih =>
      cases path with
      | nil => rfl
      | cons c path =>
          obtain ⟨found, hfound, -⟩ := Option.map_eq_some_iff.mp hp
          have hnone := ih h hfound
          simp only [values?]
          rw [hnone]
          rfl
  | case3 piece q =>
      cases path with
      | nil => cases piece <;> rfl
      | cons c path => cases hp
  | case4 piece p =>
      cases path with
      | nil => cases hp
      | cons c path => rfl
  | case5 => simp [apart] at h

/-- No path of the form ends in a slash. -/
def endsUnslashed : List TemplatePiece → Bool
  | [] => true
  | [.char c] => c ≠ '/'
  | .rest :: _ => false
  | _ :: pieces => endsUnslashed pieces

theorem getLast?_ne_of_endsUnslashed {pieces : List TemplatePiece}
    (h : endsUnslashed pieces = true) {path : List Char} {values : List String}
    (hvalues : values? pieces path = some values) : path.getLast? ≠ some '/' := by
  induction pieces generalizing path values with
  | nil =>
      cases path with
      | nil => exact nofun
      | cons => cases hvalues
  | cons piece pieces ih =>
      rcases path with _ | ⟨c, path⟩
      · exact nofun
      · cases piece with
        | rest => cases h
        | char a =>
            obtain ⟨rfl, hrest⟩ := Option.ite_none_right_eq_some.mp hvalues
            rcases path with _ | ⟨d, path⟩
            · cases pieces with
              | nil => simpa [endsUnslashed] using h
              | cons piece => cases piece <;> cases hrest
            · cases pieces with
              | nil => cases hrest
              | cons =>
                  rw [List.getLast?_cons_cons]
                  exact ih h hrest
        | parameter =>
            obtain ⟨others, hrest, -⟩ := Option.map_eq_some_iff.mp hvalues
            intro hlast
            rw [← List.takeWhile_append_dropWhile (p := (· ≠ '/')) (l := c :: path),
              List.getLast?_append, Option.or_eq_some_iff] at hlast
            rcases hlast with hbehind | ⟨-, hwithin⟩
            · refine ih ?_ hrest hbehind
              simpa [endsUnslashed] using h
            · simpa using List.all_eq_true.mp List.all_takeWhile _ (List.mem_of_getLast? hwithin)

/-- No path is of both forms. -/
def textsApart (a b : String) : Bool :=
  match parse? a, parse? b with
  | some first, some second => apart first.pieces second.pieces
  | _, _ => false

/-- No path of the form of a text ends in a slash. -/
def textUnslashed (text : String) : Bool :=
  (parse? text).any fun template => endsUnslashed template.pieces

theorem Covers.getLast?_ne {text path : String} (hcovers : Covers text path)
    (h : textUnslashed text = true) : path.toList.getLast? ≠ some '/' := by
  obtain ⟨template, values, hparse, hmatch⟩ := hcovers
  rw [textUnslashed, hparse, Option.any_some] at h
  exact getLast?_ne_of_endsUnslashed h hmatch

theorem Covers.not_of_textsApart {a b path : String} (ha : Covers a path)
    (h : textsApart a b = true) : ¬ Covers b path := by
  rintro ⟨second, others, hb, hother⟩
  obtain ⟨first, values, ha, hvalues⟩ := ha
  simp only [textsApart, ha, hb] at h
  rw [match?, values?_eq_none_of_apart h hvalues] at hother
  cases hother

end Template

namespace Route

variable {ε : Type} {route : Route ε} {method : String} {endpoint : ε}

/-- The method under which a route keeps the endpoint of a method. -/
def methodKey (method : String) : String := if method = "HEAD" then "GET" else method

theorem of_endpoint?_eq_some (h : route.endpoint? method = some endpoint) :
    (methodKey method, endpoint) ∈ route.handlers ∨ route.others = some endpoint := by
  unfold endpoint? at h
  split at h
  next found hlookup =>
    cases h
    obtain ⟨before, after, hsplit, -⟩ := List.lookup_eq_some_iff.mp hlookup
    refine .inl ?_
    rw [hsplit]
    exact List.mem_append_right before List.mem_cons_self
  · exact .inr h

theorem exists_endpoint? (method : String) (endpoint : ε)
    (h : (∃ found, (methodKey method, found) ∈ route.handlers) ∨
      route.others = some endpoint) :
    ∃ found, route.endpoint? method = some found := by
  unfold endpoint?
  split
  next found hlookup => exact ⟨found, rfl⟩
  next hlookup =>
    rcases h with ⟨found, hmem⟩ | hothers
    · have hne := List.lookup_eq_none_iff.mp hlookup _ hmem
      simp [methodKey] at hne
    · exact ⟨endpoint, hothers⟩

end Route

namespace RouteTable

variable {ε : Type}

/-! ## Building a table -/

/-- Holds of a joined route when it holds of one of the two that were joined. -/
def Additive (P : Route ε → Prop) : Prop :=
  ∀ {a b joined : Route ε}, join a b = .ok joined →
    a.template.text = b.template.text → (P joined ↔ P a ∨ P b)

theorem of_join_eq_ok {a b joined : Route ε} (h : join a b = .ok joined) :
    (a.others = none ∨ b.others = none) ∧
      joined = ⟨a.template, a.handlers ++ b.handlers, a.others <|> b.others⟩ := by
  unfold join at h
  split at h
  · cases h
  next hcond =>
    cases h
    refine ⟨?_, rfl⟩
    simp only [Bool.or_eq_true, Bool.and_eq_true, not_or, not_and, Option.isSome_iff_ne_none,
      ne_eq, Classical.not_not] at hcond
    by_cases ha : a.others = none
    · exact .inl ha
    · exact .inr (hcond.2 ha)

theorem additive_text (text : String) :
    Additive fun route : Route ε => route.template.text = text := by
  intro a b joined hjoin htext
  obtain ⟨-, rfl⟩ := of_join_eq_ok hjoin
  simp [← htext]

theorem additive_handlers (text method : String) (endpoint : ε) :
    Additive fun route : Route ε =>
      route.template.text = text ∧ (method, endpoint) ∈ route.handlers := by
  intro a b joined hjoin htext
  obtain ⟨-, rfl⟩ := of_join_eq_ok hjoin
  simp only [List.mem_append, ← htext]
  constructor
  · rintro ⟨hname, ha | hb⟩
    · exact .inl ⟨hname, ha⟩
    · exact .inr ⟨hname, hb⟩
  · rintro (⟨hname, ha⟩ | ⟨hname, hb⟩)
    · exact ⟨hname, .inl ha⟩
    · exact ⟨hname, .inr hb⟩

theorem additive_others (text : String) (endpoint : ε) :
    Additive fun route : Route ε =>
      route.template.text = text ∧ route.others = some endpoint := by
  intro a b joined hjoin htext
  obtain ⟨hothers, rfl⟩ := of_join_eq_ok hjoin
  rcases hothers with ha | hb
  · simp [ha, ← htext]
  · cases ha : a.others <;> simp [ha, hb, ← htext]

/-- What becomes of a table to which a route is added. -/
inductive Inserted (route : Route ε) : RouteTable ε → RouteTable ε → Prop
  | joined {front back : RouteTable ε} {other joined : Route ε}
      (hfront : ∀ r ∈ front, r.template.text ≠ route.template.text)
      (htext : other.template.text = route.template.text)
      (hjoin : join other route = .ok joined) :
      Inserted route (front ++ other :: back) (front ++ joined :: back)
  | appended {table : RouteTable ε} (hnew : ∀ r ∈ table, r.template.text ≠ route.template.text) :
      Inserted route table (table ++ [route])

theorem of_map_eq_ok {α β φ : Type} {f : α → β} {result : Except φ α} {value : β}
    (h : result.map f = .ok value) : ∃ source, result = .ok source ∧ value = f source := by
  cases result with
  | error e => cases h
  | ok source =>
      cases h
      exact ⟨source, rfl, rfl⟩

variable {P : Route ε → Prop} {route : Route ε} {table more after : RouteTable ε}

theorem Inserted.cons (h : Inserted route table after) {other : Route ε}
    (hother : other.template.text ≠ route.template.text) :
    Inserted route (other :: table) (other :: after) := by
  cases h with
  | joined hfront htext hjoin =>
      rw [← List.cons_append, ← List.cons_append]
      exact .joined (List.forall_mem_cons.mpr ⟨hother, hfront⟩) htext hjoin
  | appended hnew =>
      rw [← List.cons_append]
      exact .appended (List.forall_mem_cons.mpr ⟨hother, hnew⟩)

theorem inserted_of_insert (h : insert route table = .ok after) : Inserted route table after := by
  induction table generalizing after with
  | nil =>
      cases h
      exact (.appended (by simp) : Inserted route [] ([] ++ [route]))
  | cons other rest ih =>
      simp only [insert] at h
      split at h
      next hsame =>
        obtain ⟨joined, hjoin, rfl⟩ := of_map_eq_ok h
        exact (.joined (by simp) hsame hjoin :
          Inserted route ([] ++ other :: rest) ([] ++ joined :: rest))
      next hother =>
        split at h
        · cases h
        · obtain ⟨inserted, hinsert, rfl⟩ := of_map_eq_ok h
          exact (ih hinsert).cons hother

theorem Inserted.exists_mem_iff (h : Inserted route table after) (hP : Additive P) :
    (∃ r ∈ after, P r) ↔ (∃ r ∈ table, P r) ∨ P route := by
  cases h with
  | @joined front back other joined hfront htext hjoin =>
      have hjoined := hP hjoin htext
      constructor
      · rintro ⟨r, hmem, hr⟩
        rcases List.mem_append.mp hmem with hfront | hback
        · exact .inl ⟨r, by simp [hfront], hr⟩
        · rcases List.mem_cons.mp hback with rfl | hback
          · rcases hjoined.mp hr with hother | hroute
            · exact .inl ⟨other, by simp, hother⟩
            · exact .inr hroute
          · exact .inl ⟨r, by simp [hback], hr⟩
      · rintro (⟨r, hmem, hr⟩ | hroute)
        · rcases List.mem_append.mp hmem with hfront | hback
          · exact ⟨r, by simp [hfront], hr⟩
          · rcases List.mem_cons.mp hback with rfl | hback
            · exact ⟨joined, by simp, hjoined.mpr (.inl hr)⟩
            · exact ⟨r, by simp [hback], hr⟩
        · exact ⟨joined, by simp, hjoined.mpr (.inr hroute)⟩
  | appended hnew =>
      simp only [List.mem_append, List.mem_singleton, or_and_right, exists_or, exists_eq_left]

/-- A table of routes of different templates, each read from its text. -/
structure WellFormed (table : RouteTable ε) : Prop where
  parsed : ∀ r ∈ table, Template.parse? r.template.text = some r.template
  distinct : table.Pairwise fun a b => a.template.text ≠ b.template.text

theorem WellFormed.nil : WellFormed ([] : RouteTable ε) := ⟨by simp, .nil⟩

theorem Inserted.wellFormed (h : Inserted route table after) (htable : table.WellFormed)
    (hroute : Template.parse? route.template.text = some route.template) :
    after.WellFormed := by
  cases h with
  | @joined front back other joined hfront htext hjoin =>
      obtain ⟨-, hjoined⟩ := of_join_eq_ok hjoin
      have htemplate : joined.template = other.template := by rw [hjoined]
      refine ⟨?_, ?_⟩
      · intro r hmem
        rcases List.mem_append.mp hmem with hfront | hback
        · exact htable.parsed r (by simp [hfront])
        · rcases List.mem_cons.mp hback with rfl | hback
          · rw [htemplate]
            exact htable.parsed other (by simp)
          · exact htable.parsed r (by simp [hback])
      · have hdistinct := htable.distinct
        simp only [List.pairwise_append, List.pairwise_cons, List.mem_cons, forall_eq_or_imp,
          htemplate] at hdistinct ⊢
        exact hdistinct
  | appended hnew =>
      refine ⟨?_, ?_⟩
      · intro r hmem
        rcases List.mem_append.mp hmem with htableMem | hlast
        · exact htable.parsed r htableMem
        · rw [List.mem_singleton.mp hlast]
          exact hroute
      · apply List.pairwise_append.mpr
        refine ⟨htable.distinct, List.pairwise_singleton _ _, ?_⟩
        intro a ha b hb
        rw [List.mem_singleton.mp hb]
        exact hnew a ha

theorem WellFormed.eq_of_text (h : table.WellFormed) {a b : Route ε} (ha : a ∈ table)
    (hb : b ∈ table) (htext : a.template.text = b.template.text) : a = b := by
  have hnodup : (table.map fun r => r.template.text).Nodup := List.pairwise_map.mpr h.distinct
  exact List.inj_on_of_nodup_map hnodup ha hb htext

theorem of_add_eq_ok {text : String} {handlers : List (String × ε)} {others : Option ε}
    (h : table.add text handlers others = .ok after) :
    ∃ template, Template.parse? text = some template ∧
      Inserted ⟨template, handlers, others⟩ table after := by
  unfold add at h
  split at h
  · cases h
  next template hparse => exact ⟨template, hparse, inserted_of_insert h⟩

theorem exists_mem_add {text : String} {handlers : List (String × ε)} {others : Option ε}
    (hP : Additive P) (h : table.add text handlers others = .ok after) :
    (∃ r ∈ after, P r) ↔ (∃ r ∈ table, P r) ∨
      ∃ template, Template.parse? text = some template ∧ P ⟨template, handlers, others⟩ := by
  obtain ⟨template, hparse, hinserted⟩ := of_add_eq_ok h
  rw [hinserted.exists_mem_iff hP]
  simp [hparse]

theorem WellFormed.add {text : String} {handlers : List (String × ε)} {others : Option ε}
    (htable : table.WellFormed) (h : table.add text handlers others = .ok after) :
    after.WellFormed := by
  obtain ⟨template, hparse, hinserted⟩ := of_add_eq_ok h
  refine hinserted.wellFormed htable ?_
  rw [Template.text_of_parse? hparse]
  exact hparse

theorem exists_mem_merge (hP : Additive P) (h : table.merge more = .ok after) :
    (∃ r ∈ after, P r) ↔ (∃ r ∈ table, P r) ∨ ∃ r ∈ more, P r := by
  induction more generalizing table with
  | nil =>
      cases h
      simp
  | cons route rest ih =>
      simp only [merge] at h
      split at h
      next larger hinsert =>
        rw [ih h, (inserted_of_insert hinsert).exists_mem_iff hP]
        simp only [List.mem_cons, or_and_right, exists_or, exists_eq_left, or_assoc]
      · cases h

theorem WellFormed.merge (htable : table.WellFormed)
    (hmore : ∀ r ∈ more, Template.parse? r.template.text = some r.template)
    (h : table.merge more = .ok after) : after.WellFormed := by
  induction more generalizing table with
  | nil =>
      cases h
      exact htable
  | cons route rest ih =>
      obtain ⟨hroute, hrest⟩ := List.forall_mem_cons.mp hmore
      simp only [RouteTable.merge] at h
      split at h
      next larger hinsert =>
        exact ih ((inserted_of_insert hinsert).wellFormed htable hroute) hrest h
      · cases h

end RouteTable

end AccessGateway
