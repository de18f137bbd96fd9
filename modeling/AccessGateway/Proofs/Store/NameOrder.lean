import AccessGateway.NameMap

/-!
# The order of a map from names

Inserting and erasing keep the names of a map strictly ascending.  In such a map
an insertion falls into the same place whether or not other names are left out.
-/

namespace AccessGateway.NameMap

variable {β : Type}

/-- The names of a map ascend, so each stands in it once. -/
def Ascending (map : NameMap β) : Prop :=
  map.Pairwise fun a b => a.1 < b.1

theorem ascending_filter {map : NameMap β} (h : Ascending map)
    (keep : String × β → Bool) : Ascending (map.filter keep) :=
  List.Pairwise.filter keep h

theorem mem_insert {map : NameMap β} {name : String} {value : β}
    {entry : String × β} (h : entry ∈ map.insert name value) :
    entry = (name, value) ∨ entry ∈ map := by
  induction map with
  | nil => exact .inl (by simpa [insert] using h)
  | cons head rest ih =>
      obtain ⟨other, held⟩ := head
      unfold insert at h
      split at h
      · simpa using h
      · split at h
        · rcases List.mem_cons.mp h with heq | hrest
          · exact .inl heq
          · exact .inr (List.mem_cons_of_mem _ hrest)
        · rcases List.mem_cons.mp h with heq | hrest
          · exact .inr (by simp [heq])
          · exact (ih hrest).imp id (List.mem_cons_of_mem _)

theorem ascending_insert {map : NameMap β} (h : Ascending map) (name : String)
    (value : β) : Ascending (map.insert name value) := by
  induction map with
  | nil => simp [insert, Ascending]
  | cons head rest ih =>
      obtain ⟨other, held⟩ := head
      have hrest : Ascending rest := (List.pairwise_cons.mp h).2
      have hother := (List.pairwise_cons.mp h).1
      unfold insert
      split
      next hlt =>
        refine List.pairwise_cons.mpr ⟨?_, h⟩
        intro entry hentry
        rcases List.mem_cons.mp hentry with rfl | hentry
        · exact hlt
        · exact String.lt_trans hlt (hother entry hentry)
      next hnot =>
        split
        next heq =>
          subst heq
          exact List.pairwise_cons.mpr ⟨hother, hrest⟩
        next hne =>
          refine List.pairwise_cons.mpr ⟨?_, ih hrest⟩
          intro entry hentry
          rcases mem_insert hentry with rfl | hentry
          · show other < name
            grind
          · exact hother entry hentry

/-- A name below all others comes first. -/
theorem insert_eq_cons {map : NameMap β} {name : String} (value : β)
    (h : ∀ entry ∈ map, name < entry.1) : map.insert name value = (name, value) :: map := by
  cases map with
  | nil => rfl
  | cons head rest =>
      obtain ⟨other, held⟩ := head
      have hlt : name < other := h (other, held) (by simp)
      simp [insert, hlt]

theorem filter_insert {map : NameMap β} (h : Ascending map) {keep : String → Bool}
    {name : String} (value : β) (hkeep : keep name = true) :
    (map.insert name value).filter (fun entry => keep entry.1) =
      insert (map.filter fun entry => keep entry.1) name value := by
  induction map with
  | nil => simp [insert, hkeep]
  | cons head rest ih =>
      obtain ⟨other, held⟩ := head
      have hrest : Ascending rest := (List.pairwise_cons.mp h).2
      have hother := (List.pairwise_cons.mp h).1
      rw [insert]
      split
      next hlt =>
        -- Everything that is kept lies above the new name.
        rw [List.filter_cons_of_pos (by exact hkeep), insert_eq_cons]
        intro entry hentry
        rcases List.mem_cons.mp (List.mem_filter.mp hentry).1 with rfl | hentry
        · exact hlt
        · exact String.lt_trans hlt (hother entry hentry)
      next hnot =>
        split
        next heq =>
          subst heq
          simp [hkeep, insert]
        next hne =>
          by_cases hkept : keep other = true
          · simp [hkept, insert, hnot, hne, ih hrest]
          · simp [hkept, ih hrest]

theorem filter_erase (map : NameMap β) (keep : String → Bool) (name : String) :
    (map.erase name).filter (fun entry => keep entry.1) =
      erase (map.filter fun entry => keep entry.1) name := by
  simp only [erase, List.filter_filter]
  apply List.filter_congr
  intro entry _
  exact Bool.and_comm _ _

theorem find?_filter {map : NameMap β} {keep : String → Bool} {name : String}
    (hkeep : keep name = true) :
    find? (map.filter fun entry => keep entry.1) name = map.find? name := by
  induction map with
  | nil => rfl
  | cons head rest ih =>
      obtain ⟨other, held⟩ := head
      by_cases heq : other = name
      · subst heq
        simp [hkeep, find?]
      · by_cases hkept : keep other = true <;> simp [hkept, find?, heq, ih]

theorem mem_of_find? {map : NameMap β} {name : String} {value : β}
    (h : map.find? name = some value) : (name, value) ∈ map := by
  induction map with
  | nil => simp at h
  | cons head rest ih =>
      obtain ⟨other, held⟩ := head
      unfold find? at h
      split at h
      next heq =>
        subst heq
        cases h
        exact List.mem_cons_self
      · exact List.mem_cons_of_mem _ (ih h)

theorem find?_of_mem {map : NameMap β} (h : Ascending map) {name : String} {value : β}
    (hmem : (name, value) ∈ map) : map.find? name = some value := by
  induction map with
  | nil => cases hmem
  | cons head rest ih =>
      obtain ⟨other, held⟩ := head
      obtain ⟨hother, hrest⟩ := List.pairwise_cons.mp h
      rcases List.mem_cons.mp hmem with heq | hlater
      · cases heq
        simp [find?]
      · have hne : other ≠ name := fun heq => String.lt_irrefl _ (heq ▸ hother _ hlater)
        rw [find?, if_neg hne]
        exact ih hrest hlater

end AccessGateway.NameMap
