import AccessGateway.Routing.Table

/-!
# What the search for a route finds

What is found is a template of the table whose form the path has, and when the search
has gone all ways in vain no template has its form.  It breaks off at a slash that ends
the path only.
-/

namespace AccessGateway

open Template

namespace SearchEnd

variable {α : Type} {reached other : SearchEnd α} {final : Bool} {value : α}
  {values : List String} {text : String}

theorem settle_eq_found_iff :
    reached.settle final = .found value values ↔ reached = .found value values := by
  cases reached <;> cases final <;> simp [settle]

theorem settle_eq_missed_iff :
    reached.settle final = .missed ↔ reached = .missed ∧ final = false := by
  cases reached <;> cases final <;> simp [settle]

theorem final_or_stopped_of_settle (h : reached.settle final = .stopped) :
    final = true ∨ reached = .stopped := by
  cases final with
  | true => exact .inl rfl
  | false =>
      refine .inr ?_
      cases reached with
      | missed => cases h
      | stopped | found => exact h

theorem orElse_eq_found_iff :
    reached.orElse other = .found value values ↔
      reached = .found value values ∨ reached = .missed ∧ other = .found value values := by
  cases reached <;> simp [orElse]

theorem orElse_eq_missed_iff :
    reached.orElse other = .missed ↔ reached = .missed ∧ other = .missed := by
  cases reached <;> simp [orElse]

theorem stopped_or_of_orElse (h : reached.orElse other = .stopped) :
    reached = .stopped ∨ other = .stopped := by
  cases reached with
  | missed => exact .inr h
  | stopped => exact .inl rfl
  | found => cases h

theorem withValue_eq_found_iff :
    reached.withValue text = .found value values ↔
      ∃ others, reached = .found value others ∧ values = text :: others := by
  cases reached with
  | missed | stopped => simp [withValue]
  | found other others =>
      simp only [withValue, found.injEq]
      constructor
      · rintro ⟨rfl, rfl⟩
        exact ⟨others, ⟨rfl, rfl⟩, rfl⟩
      · rintro ⟨_, ⟨rfl, rfl⟩, rfl⟩
        exact ⟨rfl, rfl⟩

theorem withValue_eq_missed_iff : reached.withValue text = .missed ↔ reached = .missed := by
  cases reached <;> simp [withValue]

theorem withValue_eq_stopped_iff : reached.withValue text = .stopped ↔ reached = .stopped := by
  cases reached <;> simp [withValue]

end SearchEnd

open SearchEnd

namespace Branch

variable {α : Type} {branch : Branch α} {parted : Bool} {path : List Char} {value : α}
  {values : List String}

theorem mem_behind_iff {piece : TemplatePiece} {pieces : List TemplatePiece} :
    (pieces, value) ∈ branch.behind piece ↔ (piece :: pieces, value) ∈ branch := by
  simp only [behind, List.mem_filterMap]
  constructor
  · rintro ⟨⟨_ | ⟨first, others⟩, held⟩, hmem, hform⟩
    · cases hform
    · obtain ⟨rfl, hrest⟩ := Option.ite_none_right_eq_some.mp hform
      cases hrest
      exact hmem
  · intro hmem
    exact ⟨_, hmem, if_pos rfl⟩

theorem of_atEnd_eq_found (h : branch.atEnd = .found value values) :
    ([], value) ∈ branch ∧ values = [] := by
  fun_induction atEnd branch with
  | case1 => cases h
  | case2 => cases h; exact ⟨List.mem_cons_self, rfl⟩
  | case3 form others _ ih =>
      obtain ⟨hmem, hvalues⟩ := ih h
      exact ⟨List.mem_cons_of_mem _ hmem, hvalues⟩

theorem ne_nil_of_atEnd_eq_missed (h : branch.atEnd = .missed) :
    ∀ form ∈ branch, form.1 ≠ [] := by
  fun_induction atEnd branch with
  | case1 => simp
  | case2 => cases h
  | case3 form others hform ih =>
      refine List.forall_mem_cons.mpr ⟨?_, ih h⟩
      rintro hnil
      exact hform form.2 (Prod.ext hnil rfl)

theorem atEnd_ne_stopped : branch.atEnd ≠ .stopped := by
  fun_induction atEnd branch with
  | case1 | case2 => exact nofun
  | case3 _ _ _ ih => exact ih

theorem of_atRest_eq_found (h : branch.atRest path = .found value values) :
    ∃ pieces, (.rest :: pieces, value) ∈ branch ∧ values = [String.ofList path] := by
  unfold atRest at h
  split at h
  · cases h
  next pieces _ _ hbehind =>
    cases h
    exact ⟨pieces, mem_behind_iff.mp (hbehind ▸ List.mem_cons_self), rfl⟩

theorem not_mem_of_atRest_eq_missed (h : branch.atRest path = .missed)
    (pieces : List TemplatePiece) (value : α) : (.rest :: pieces, value) ∉ branch := by
  unfold atRest at h
  split at h
  next hbehind =>
    intro hmem
    have hin := mem_behind_iff.mpr hmem
    rw [hbehind] at hin
    cases hin
  · cases h

theorem atRest_ne_stopped : branch.atRest path ≠ .stopped := by
  unfold atRest
  split <;> exact nofun

/-- What is found is the value of a template that the path has the form of. -/
theorem of_search_eq_found :
    ∀ {values : List String}, branch.search parted path = .found value values →
      ∃ pieces, (pieces, value) ∈ branch ∧ values? pieces path = some values := by
  fun_induction search branch parted path
  case case1 branch parted =>
      intro values h
      obtain ⟨hmem, rfl⟩ := of_atEnd_eq_found h
      exact ⟨[], hmem, rfl⟩
  case case2 branch parted c path final fixed free ihFixed ihFree =>
      intro values h
      rcases orElse_eq_found_iff.mp h with hfixed | ⟨-, hother⟩
      · simp only [fixed] at hfixed
        split at hfixed
        · cases hfixed
        next hbehind =>
          obtain ⟨pieces, hmem, hvalues⟩ := ihFixed hbehind (settle_eq_found_iff.mp hfixed)
          refine ⟨_, mem_behind_iff.mp hmem, ?_⟩
          rw [values?, if_pos rfl, hvalues]
      · rcases orElse_eq_found_iff.mp (settle_eq_found_iff.mp hother) with hfree | ⟨-, hrest⟩
        · simp only [free] at hfree
          split at hfree
          · cases hfree
          next hbehind =>
            obtain ⟨others, hfound, rfl⟩ := withValue_eq_found_iff.mp hfree
            obtain ⟨pieces, hmem, hvalues⟩ := ihFree hbehind hfound
            refine ⟨_, mem_behind_iff.mp hmem, ?_⟩
            simp only [values?, hvalues, Option.map_some]
        · obtain ⟨pieces, hmem, rfl⟩ := of_atRest_eq_found hrest
          exact ⟨_, hmem, rfl⟩

/-- A path that is missed has the form of no template. -/
theorem values?_eq_none_of_missed (h : branch.search parted path = .missed) :
    ∀ form ∈ branch, values? form.1 path = none := by
  fun_induction search branch parted path with
  | case1 branch parted =>
      rintro ⟨pieces, value⟩ hmem
      cases pieces with
      | nil => exact absurd rfl (ne_nil_of_atEnd_eq_missed h _ hmem)
      | cons piece pieces => cases piece <;> rfl
  | case2 branch parted c path final fixed free ihFixed ihFree =>
      obtain ⟨hfixed, hother⟩ := orElse_eq_missed_iff.mp h
      obtain ⟨hfree, hrest⟩ := orElse_eq_missed_iff.mp (settle_eq_missed_iff.mp hother).1
      rintro ⟨pieces, value⟩ hmem
      rcases pieces with _ | ⟨piece, pieces⟩
      · rfl
      · cases piece with
        | char a =>
            by_cases hsame : a = c
            · subst hsame
              have hin := mem_behind_iff.mpr hmem
              have hbehind : branch.behind (.char a) ≠ [] := List.ne_nil_of_mem hin
              simp only [fixed, dif_neg hbehind] at hfixed
              have hnone := ihFixed hbehind (settle_eq_missed_iff.mp hfixed).1 _ hin
              rwa [values?, if_pos rfl]
            · rw [values?, if_neg hsame]
        | parameter =>
            have hin := mem_behind_iff.mpr hmem
            have hbehind : branch.behind .parameter ≠ [] := List.ne_nil_of_mem hin
            simp only [free, dif_neg hbehind] at hfree
            have hnone := ihFree hbehind (withValue_eq_missed_iff.mp hfree) _ hin
            simp only [values?, hnone, Option.map_none]
        | rest => exact absurd hmem (not_mem_of_atRest_eq_missed hrest pieces value)

/-- The search breaks off at the end of a path only. -/
theorem getLast?_of_stopped (h : branch.search parted path = .stopped) :
    path.getLast? = some '/' := by
  fun_induction search branch parted path with
  | case1 branch parted => exact absurd h atEnd_ne_stopped
  | case2 branch parted c path final fixed free ihFixed ihFree =>
      have hfinal : final = true → (c :: path).getLast? = some '/' := by
        intro hfinal
        simp only [final, Bool.and_eq_true, decide_eq_true_eq, List.isEmpty_iff] at hfinal
        obtain ⟨⟨-, rfl⟩, rfl⟩ := hfinal
        rfl
      rcases stopped_or_of_orElse h with hfixed | hother
      · simp only [fixed] at hfixed
        split at hfixed
        · cases hfixed
        next hbehind =>
          rcases final_or_stopped_of_settle hfixed with hyes | hstopped
          · exact hfinal hyes
          · rw [List.getLast?_cons, ihFixed hbehind hstopped]
            rfl
      · rcases final_or_stopped_of_settle hother with hyes | hstopped
        · exact hfinal hyes
        · rcases stopped_or_of_orElse hstopped with hfree | hrest
          · simp only [free] at hfree
            split at hfree
            · cases hfree
            next hbehind =>
              have hlast := ihFree hbehind (withValue_eq_stopped_iff.mp hfree)
              rw [← List.takeWhile_append_dropWhile (p := (· ≠ '/')) (l := c :: path),
                List.getLast?_append, hlast]
              rfl
          · exact absurd hrest atRest_ne_stopped

end Branch

namespace RouteTable

variable {ε : Type} {table : RouteTable ε} {route : Route ε} {path : String}
  {values : List String}

/-- The search for the route of a path breaks off. -/
def Stops (table : RouteTable ε) (path : String) : Prop := table.search path = .stopped

theorem Stops.getLast? (h : table.Stops path) : path.toList.getLast? = some '/' :=
  Branch.getLast?_of_stopped h

theorem find?_eq_some_iff :
    table.find? path = some (route, values) ↔ table.search path = .found route values := by
  unfold find?
  cases table.search path <;> simp

/-- The route that serves a path is one of the table's, and the path is of its form. -/
theorem of_find?_eq_some (h : table.find? path = some (route, values)) :
    route ∈ table ∧ route.template.match? path = some values := by
  obtain ⟨pieces, hmem, hvalues⟩ := Branch.of_search_eq_found (find?_eq_some_iff.mp h)
  obtain ⟨found, hfound, hform⟩ := List.mem_map.mp hmem
  cases hform
  exact ⟨hfound, hvalues⟩

/-- A path of the form of some template has a route, unless the search breaks off. -/
theorem exists_find?_of_mem (hmem : route ∈ table)
    (hmatch : route.template.match? path = some values) (hgoes : ¬ table.Stops path) :
    ∃ found, table.find? path = some found := by
  cases hsearch : table.search path with
  | found other others => exact ⟨_, find?_eq_some_iff.mpr hsearch⟩
  | stopped => exact absurd hsearch hgoes
  | missed =>
      have hnone := Branch.values?_eq_none_of_missed hsearch _ (List.mem_map_of_mem hmem)
      cases hnone.symm.trans hmatch

end RouteTable

end AccessGateway
