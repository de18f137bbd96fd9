import Mathlib.Data.Set.List
import Mathlib.Logic.Function.Basic
import AccessGateway.Proofs.Store.Isolation

/-!
# Maps from names in groups

A store keeps one map from unique names for all groups.  What it means is a map
from the pairs of a group and a short name: every entry stands under the unique
name of a pair, with what is recorded of it and with its group, and a group that
has entries is known.  Creating and deleting under a unique name change the
meaning at one pair, and a listing of a group tells the pairs of that group in
the order of their short names.
-/

namespace AccessGateway

/-- A name that is found again in its unique name. -/
structure SecretName.Valid (name : SecretName) : Prop where
  short : SecretName.isShortName name.short = true
  group : name.group.name ≠ ""

namespace SecretName

theorem Valid.ofUniqueName_eq {name : SecretName} (h : name.Valid) :
    ofUniqueName name.uniqueName = .ok name :=
  ofUniqueName_of_isShortName h.short h.group

theorem Valid.uniqueName_injective {a b : SecretName} (ha : a.Valid) (hb : b.Valid)
    (h : a.uniqueName = b.uniqueName) : a = b := by
  have hback := ha.ofUniqueName_eq
  rw [h, hb.ofUniqueName_eq] at hback
  exact (Except.ok.inj hback).symm

theorem lt_of_append_lt_append {front a b : List Char} (h : front ++ a < front ++ b) : a < b := by
  induction front with
  | nil => exact h
  | cons c rest ih => exact ih (List.cons_lt_cons_self.mp h)

/-- In one group unique names are in the order of the short names. -/
theorem short_lt_of_uniqueName_lt {group : Group} {a b : String}
    (h : uniqueName ⟨a, group⟩ < uniqueName ⟨b, group⟩) : a < b := by
  change (uniqueName ⟨a, group⟩).toList < (uniqueName ⟨b, group⟩).toList at h
  change a.toList < b.toList
  simp only [uniqueName, String.toList_append] at h
  exact lt_of_append_lt_append h

end SecretName

namespace MemoryStore

variable {β ρ : Type} {detailOf : SecretName → ρ → β} {groups : NameMap String}
  {map : NameMap (β × List String)} {stock : SecretName → Option ρ}

/-- The entries of a map are what a stock records, each with its group, and their groups are
known. -/
structure Stocked (detailOf : SecretName → ρ → β) (groups : NameMap String)
    (map : NameMap (β × List String)) (stock : SecretName → Option ρ) : Prop where
  ascending : map.Ascending
  keys : ∀ entry ∈ map, ∃ name : SecretName, name.Valid ∧ entry.1 = name.uniqueName
  find?_eq : ∀ {name : SecretName}, name.Valid → map.find? name.uniqueName =
    (stock name).map fun record => (detailOf name record, [name.group.qualifiedName])
  known : ∀ {name : SecretName} {record : ρ}, stock name = some record →
    name.Valid ∧ groups.contains name.group.qualifiedName = true

theorem stocked_nil : Stocked detailOf groups [] fun _ => none where
  ascending := List.Pairwise.nil
  keys := by simp
  find?_eq := by simp
  known := by simp

namespace Stocked

theorem contains_eq (h : Stocked detailOf groups map stock) {name : SecretName}
    (hname : name.Valid) : map.contains name.uniqueName = (stock name).isSome := by
  rw [NameMap.contains, h.find?_eq hname, Option.isSome_map]

theorem contains_of_ne_none (h : Stocked detailOf groups map stock) {name : SecretName}
    (hname : name.Valid) (hpresent : stock name ≠ none) :
    map.contains name.uniqueName = true := by
  rw [h.contains_eq hname]
  exact Option.isSome_iff_ne_none.mpr hpresent

theorem contains_of_eq_none (h : Stocked detailOf groups map stock) {name : SecretName}
    (hname : name.Valid) (habsent : stock name = none) :
    map.contains name.uniqueName = false := by
  rw [h.contains_eq hname, habsent]
  rfl

theorem valid_of_ne_none (h : Stocked detailOf groups map stock) {name : SecretName}
    (hpresent : stock name ≠ none) : name.Valid := by
  obtain ⟨record, hstock⟩ := Option.ne_none_iff_exists'.mp hpresent
  exact (h.known hstock).1

theorem eq_none_of_unknown (h : Stocked detailOf groups map stock) {name : SecretName}
    (hgroup : groups.contains name.group.qualifiedName = false) : stock name = none := by
  cases hstock : stock name with
  | none => rfl
  | some record =>
      rw [(h.known hstock).2] at hgroup
      cases hgroup

/-- Another group that becomes known changes nothing. -/
theorem ofGroups (h : Stocked detailOf groups map stock) {after : NameMap String}
    (hkept : ∀ group, groups.contains group = true → after.contains group = true) :
    Stocked detailOf after map stock where
  ascending := h.ascending
  keys := h.keys
  find?_eq := h.find?_eq
  known hstock := ⟨(h.known hstock).1, hkept _ (h.known hstock).2⟩

theorem insert (h : Stocked detailOf groups map stock) {name : SecretName} (hname : name.Valid)
    (hgroup : groups.contains name.group.qualifiedName = true) (record : ρ) :
    Stocked detailOf groups
      (map.insert name.uniqueName (detailOf name record, [name.group.qualifiedName]))
      (Function.update stock name (some record)) where
  ascending := NameMap.ascending_insert h.ascending _ _
  keys := by
    intro entry hentry
    rcases NameMap.mem_insert hentry with rfl | hbefore
    · exact ⟨name, hname, rfl⟩
    · exact h.keys entry hbefore
  find?_eq := by
    intro other hother
    by_cases heq : other = name
    · rw [heq, Function.update_self, NameMap.find?_insert_self]
      rfl
    · have hkey : other.uniqueName ≠ name.uniqueName :=
        fun hsame => heq (hother.uniqueName_injective hname hsame)
      rw [NameMap.find?_insert_of_ne _ hkey, Function.update_of_ne heq, h.find?_eq hother]
  known := by
    intro other found hfound
    by_cases heq : other = name
    · exact heq ▸ ⟨hname, hgroup⟩
    · rw [Function.update_of_ne heq] at hfound
      exact h.known hfound

theorem erase (h : Stocked detailOf groups map stock) {name : SecretName} (hname : name.Valid) :
    Stocked detailOf groups (map.erase name.uniqueName) (Function.update stock name none) where
  ascending := NameMap.ascending_filter h.ascending _
  keys entry hentry := h.keys entry (List.mem_filter.mp hentry).1
  find?_eq := by
    intro other hother
    by_cases heq : other = name
    · rw [heq, Function.update_self, NameMap.find?_erase_self]
      rfl
    · have hkey : other.uniqueName ≠ name.uniqueName :=
        fun hsame => heq (hother.uniqueName_injective hname hsame)
      rw [NameMap.find?_erase_of_ne hkey, Function.update_of_ne heq, h.find?_eq hother]
  known := by
    intro other found hfound
    by_cases heq : other = name
    · rw [heq, Function.update_self] at hfound
      cases hfound
    · rw [Function.update_of_ne heq] at hfound
      exact h.known hfound

/-- What a stock has of a group, in the order of the short names. -/
structure Lists (stock : SecretName → Option ρ) (group : Group) (listed : List (String × ρ)) :
    Prop where
  ascending : listed.Pairwise fun a b => a.1 < b.1
  mem_iff : ∀ short record, (short, record) ∈ listed ↔ stock ⟨short, group⟩ = some record

/-- Of a group that is not known there is nothing. -/
theorem lists_nil (h : Stocked detailOf groups map stock) {group : Group}
    (hgroup : groups.contains group.qualifiedName = false) : Lists stock group [] where
  ascending := List.Pairwise.nil
  mem_iff short record := by
    have hnone : stock ⟨short, group⟩ = none := h.eq_none_of_unknown hgroup
    simp [hnone]

/-- A short name with what a stock records of it in a group. -/
abbrev Item (stock : SecretName → Option ρ) (group : Group) : Type :=
  { item : String × ρ // stock ⟨item.1, group⟩ = some item.2 }

/-- The entry of a short name in a group. -/
def entryOf (detailOf : SecretName → ρ → β) (group : Group) (item : Item stock group) :
    String × (β × List String) :=
  (SecretName.uniqueName ⟨item.1.1, group⟩,
    (detailOf ⟨item.1.1, group⟩ item.1.2, [group.qualifiedName]))

theorem entryOf_mem (h : Stocked detailOf groups map stock) {group : Group}
    (item : Item stock group) : entryOf detailOf group item ∈ map := by
  apply NameMap.mem_of_find?
  rw [h.find?_eq (h.known item.2).1, item.2]
  rfl

theorem exists_entryOf (h : Stocked detailOf groups map stock) {group : Group}
    {entry : String × (β × List String)} (hmem : entry ∈ map)
    (hgroup : entry.2.2.contains group.qualifiedName = true) :
    ∃ item : Item stock group, entryOf detailOf group item = entry := by
  obtain ⟨key, value⟩ := entry
  obtain ⟨⟨short, owner⟩, hname, rfl⟩ := h.keys _ hmem
  have hfound := NameMap.find?_of_mem h.ascending hmem
  rw [h.find?_eq hname] at hfound
  obtain ⟨record, hstock, rfl⟩ := Option.map_eq_some_iff.mp hfound
  have howner : group = owner := by
    apply Group.qualifiedName_injective
    simpa using hgroup
  subst howner
  exact ⟨⟨(short, record), hstock⟩, rfl⟩

theorem entryOf_injective (h : Stocked detailOf groups map stock) {group : Group}
    {a b : Item stock group} (heq : entryOf detailOf group a = entryOf detailOf group b) :
    a = b := by
  have hname : (⟨a.1.1, group⟩ : SecretName) = ⟨b.1.1, group⟩ :=
    (h.known a.2).1.uniqueName_injective (h.known b.2).1 (congrArg Prod.fst heq)
  have hrecord : some a.1.2 = some b.1.2 := by rw [← a.2, ← b.2, hname]
  exact Subtype.ext (Prod.ext (congrArg SecretName.short hname) (Option.some.inj hrecord))

/-- The members of a group are what the stock has of it. -/
theorem exists_lists (h : Stocked detailOf groups map stock) (group : Group) :
    ∃ listed : List (String × ρ), Lists stock group listed ∧
      membersOf map group.qualifiedName =
        listed.map fun item => detailOf ⟨item.1, group⟩ item.2 := by
  let members := map.filter fun entry => entry.2.2.contains group.qualifiedName
  have hrange : members ∈
      Set.range (List.map fun item : Item stock group => entryOf detailOf group item) := by
    rw [Set.range_list_map]
    intro entry hentry
    obtain ⟨hmem, hgroup⟩ := List.mem_filter.mp hentry
    exact h.exists_entryOf hmem hgroup
  obtain ⟨items, hitems⟩ := hrange
  refine ⟨items.map Subtype.val, ⟨?_, ?_⟩, ?_⟩
  · have hascending : members.Pairwise fun a b => a.1 < b.1 :=
      NameMap.ascending_filter h.ascending _
    rw [← hitems, List.pairwise_map] at hascending
    rw [List.pairwise_map]
    exact hascending.imp fun hlt => SecretName.short_lt_of_uniqueName_lt hlt
  · intro short record
    constructor
    · intro hmem
      obtain ⟨item, -, heq⟩ := List.mem_map.mp hmem
      have hstock := item.2
      rwa [heq] at hstock
    · intro hstock
      let item : Item stock group := ⟨(short, record), hstock⟩
      have hmember : entryOf detailOf group item ∈ members :=
        List.mem_filter.mpr ⟨h.entryOf_mem item, by simp [entryOf]⟩
      rw [← hitems] at hmember
      obtain ⟨found, hfound, heq⟩ := List.mem_map.mp hmember
      rw [h.entryOf_injective heq] at hfound
      exact List.mem_map.mpr ⟨item, hfound, rfl⟩
  · rw [membersOf_eq]
    show members.map (·.2.1) = _
    rw [← hitems, List.map_map, List.map_map]
    rfl

end Stocked

end MemoryStore

end AccessGateway
