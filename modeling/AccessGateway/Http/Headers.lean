import AccessGateway.Text.Ascii
import AccessGateway.Text.Utf8

/-!
# Header fields

Header fields are a list of names, in lower case, with their values.  A name may stand several
times; the order of its values counts, and the order of different names does not.
-/

namespace AccessGateway

/-- Names in lower case with their values. -/
abbrev Headers := List (String × String)

namespace Headers

def isNameChar (c : Char) : Bool :=
  Text.Ascii.isLetterOrDigit c || "!#$%&'*+-.^_\x60|~".toList.contains c

/-- The name in lower case, if it is one. -/
def name? (s : String) : Option String :=
  if s.isEmpty || !s.toList.all isNameChar then none else some (Text.Ascii.lower s)

/-- A value of visible ASCII characters, spaces and tabs. -/
def isVisible (value : String) : Bool :=
  value.toList.all fun c => Text.Ascii.isPrintable c || c = '\t'

/-- A value that may be sent: without control characters, tabs apart. -/
def isValue (value : String) : Bool :=
  value.toList.all fun c => (0x20 ≤ c.toNat && c.toNat ≠ 0x7F) || c = '\t'

/-- All values of a name, in order. -/
def values (headers : Headers) (name : String) : List String :=
  (headers.filter fun field => field.1 == name).map Prod.snd

def first? (headers : Headers) (name : String) : Option String :=
  (headers.find? fun field => field.1 == name).map Prod.snd

/-- The first value of a name, if it is visible ASCII. -/
def firstVisible? (headers : Headers) (name : String) : Option String :=
  (headers.first? name).filter isVisible

def erase (headers : Headers) (name : String) : Headers :=
  headers.filter fun field => field.1 != name

def set (headers : Headers) (name value : String) : Headers :=
  headers.erase name ++ [(name, value)]

/-- The fields in ascending order of their names; values of one name stay in order. -/
def sorted (headers : Headers) : Headers :=
  headers.mergeSort fun a b => decide (a.1 ≤ b.1)

@[simp] theorem values_nil (name : String) : values [] name = [] := rfl

theorem values_append (front back : Headers) (name : String) :
    values (front ++ back) name = values front name ++ values back name := by
  simp [values]

theorem values_filter (headers : Headers) (keep : String → Bool) (name : String) :
    values (headers.filter fun field => keep field.1) name =
      if keep name then headers.values name else [] := by
  rw [values, List.filter_filter]
  split
  next hkeep =>
    congr 1
    refine List.filter_congr fun field _ => ?_
    by_cases hfield : field.1 = name <;> simp [hfield, hkeep]
  next hdrop =>
    rw [List.map_eq_nil_iff, List.filter_eq_nil_iff]
    intro field _ hfield
    simp only [Bool.and_eq_true, beq_iff_eq] at hfield
    rw [hfield.1] at hfield
    exact hdrop hfield.2

@[simp] theorem values_erase_self (headers : Headers) (name : String) :
    (headers.erase name).values name = [] := by
  rw [erase, values_filter headers (· != name)]
  simp

theorem values_erase_of_ne {headers : Headers} {name other : String} (h : other ≠ name) :
    (headers.erase name).values other = headers.values other := by
  rw [erase, values_filter headers (· != name)]
  simp [h]

theorem values_set_self (headers : Headers) (name value : String) :
    (headers.set name value).values name = [value] := by
  have h := values_erase_self headers name
  simp only [values] at h
  simp [set, values, h]

theorem values_set_of_ne {headers : Headers} {name other : String} (value : String)
    (h : other ≠ name) : (headers.set name value).values other = headers.values other := by
  have hnone : values [(name, value)] other = [] := by
    simp [values, Ne.symm h]
  rw [set, values_append, hnone, List.append_nil, values_erase_of_ne h]

theorem first?_eq_head?_values (headers : Headers) (name : String) :
    headers.first? name = (headers.values name).head? := by
  rw [values, List.head?_map, List.head?_filter]
  rfl

theorem first?_set_self (headers : Headers) (name value : String) :
    (headers.set name value).first? name = some value := by
  rw [first?_eq_head?_values, values_set_self]
  rfl

theorem first?_set_of_ne {headers : Headers} {name other : String} (value : String)
    (h : other ≠ name) : (headers.set name value).first? other = headers.first? other := by
  rw [first?_eq_head?_values, first?_eq_head?_values, values_set_of_ne value h]

theorem first?_of_values {headers : Headers} {name value : String} {others : List String}
    (h : headers.values name = value :: others) : headers.first? name = some value := by
  rw [first?_eq_head?_values, h]
  rfl

end Headers

end AccessGateway
