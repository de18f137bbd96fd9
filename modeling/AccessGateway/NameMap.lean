/-!
# Maps from names

A map from names is a list in strictly ascending order of its names.
-/

namespace AccessGateway

abbrev NameMap (β : Type) := List (String × β)

namespace NameMap

variable {β : Type}

def find? (map : NameMap β) (name : String) : Option β :=
  match map with
  | [] => none
  | (other, value) :: rest => if other = name then some value else find? rest name

def contains (map : NameMap β) (name : String) : Bool := (find? map name).isSome

/-- The map with a value for a name, in place of an earlier one. -/
def insert (map : NameMap β) (name : String) (value : β) : NameMap β :=
  match map with
  | [] => [(name, value)]
  | (other, held) :: rest =>
    if name < other then (name, value) :: (other, held) :: rest
    else if name = other then (name, value) :: rest
    else (other, held) :: insert rest name value

def erase (map : NameMap β) (name : String) : NameMap β :=
  map.filter fun entry => entry.1 ≠ name

def names (map : NameMap β) : List String := map.map Prod.fst

def values (map : NameMap β) : List β := map.map Prod.snd

@[simp] theorem find?_nil (name : String) : find? ([] : NameMap β) name = none := rfl

theorem find?_insert_self (map : NameMap β) (name : String) (value : β) :
    (map.insert name value).find? name = some value := by
  induction map with
  | nil => simp [insert, find?]
  | cons head rest ih =>
    obtain ⟨other, held⟩ := head
    unfold insert
    split
    · simp [find?]
    · split
      · simp [find?]
      · next h => simp [find?, Ne.symm h, ih]

theorem find?_insert_of_ne {map : NameMap β} {name other : String} (value : β)
    (h : other ≠ name) : (map.insert name value).find? other = map.find? other := by
  induction map with
  | nil => simp [insert, find?, Ne.symm h]
  | cons head rest ih =>
    obtain ⟨key, held⟩ := head
    unfold insert
    split
    · simp [find?, Ne.symm h]
    · split
      · next hk => subst hk; simp [find?, Ne.symm h]
      · by_cases hk : key = other <;> simp [find?, hk, ih]

theorem find?_erase_self (map : NameMap β) (name : String) : (map.erase name).find? name = none := by
  induction map with
  | nil => rfl
  | cons head rest ih =>
    obtain ⟨key, held⟩ := head
    by_cases h : key = name
    · simpa [erase, List.filter_cons, h] using ih
    · simpa [erase, List.filter_cons, h, find?] using ih

theorem find?_erase_of_ne {map : NameMap β} {name other : String} (h : other ≠ name) :
    (map.erase name).find? other = map.find? other := by
  induction map with
  | nil => rfl
  | cons head rest ih =>
    obtain ⟨key, held⟩ := head
    by_cases hk : key = name
    · subst hk
      simpa [erase, List.filter_cons, find?, Ne.symm h] using ih
    · by_cases ho : key = other
      · simp [erase, find?, ho, h]
      · simpa [erase, List.filter_cons, hk, find?, ho] using ih

end NameMap

end AccessGateway
