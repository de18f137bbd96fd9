/-!
# Blank characters

White space in the sense of the Unicode property `White_Space`, and the trimming of texts.
A text is *blank* when it holds nothing else; trimming removes blanks from its ends and from
nowhere else.
-/

namespace AccessGateway.Text

/-- The code points of the Unicode property `White_Space`. -/
def isBlank (c : Char) : Bool :=
  let n := c.toNat
  (9 ≤ n && n ≤ 13) || n == 0x20 || n == 0x85 || n == 0xA0 || n == 0x1680 ||
    (0x2000 ≤ n && n ≤ 0x200A) || n == 0x2028 || n == 0x2029 || n == 0x202F ||
    n == 0x205F || n == 0x3000

def dropBlank (chars : List Char) : List Char :=
  chars.dropWhile isBlank

def trimChars (chars : List Char) : List Char :=
  (dropBlank (dropBlank chars).reverse).reverse

def trimStart (s : String) : String :=
  String.ofList (dropBlank s.toList)

def trim (s : String) : String :=
  String.ofList (trimChars s.toList)

/-- A text of blanks only; the empty text is one. -/
def isBlankText (s : String) : Bool :=
  s.toList.all isBlank

@[simp] theorem toList_trimStart (s : String) : (trimStart s).toList = dropBlank s.toList := by
  simp [trimStart]

@[simp] theorem toList_trim (s : String) : (trim s).toList = trimChars s.toList := by
  simp [trim]

@[simp] theorem dropBlank_nil : dropBlank [] = [] := rfl

@[simp] theorem trimChars_nil : trimChars [] = [] := rfl

/-- A list that does not start with a blank is kept by `dropBlank`. -/
theorem dropBlank_cons_of_not_blank {c : Char} {rest : List Char} (h : isBlank c = false) :
    dropBlank (c :: rest) = c :: rest := by
  simp [dropBlank, h]

theorem dropBlank_cons_of_blank {c : Char} {rest : List Char} (h : isBlank c = true) :
    dropBlank (c :: rest) = dropBlank rest := by
  simp [dropBlank, h]

/-- Nothing is left of a list of blanks, and something of every other list. -/
theorem dropBlank_eq_nil_iff {chars : List Char} : dropBlank chars = [] ↔ chars.all isBlank := by
  induction chars with
  | nil => simp
  | cons c rest ih => cases h : isBlank c <;> simp_all [dropBlank]

theorem dropBlank_eq_self {chars : List Char} (h : ∀ c ∈ chars, isBlank c = false) :
    dropBlank chars = chars := by
  cases chars with
  | nil => rfl
  | cons c rest => exact dropBlank_cons_of_not_blank (h c List.mem_cons_self)

theorem trimChars_eq_self {chars : List Char} (h : ∀ c ∈ chars, isBlank c = false) :
    trimChars chars = chars := by
  rw [trimChars, dropBlank_eq_self h, dropBlank_eq_self, List.reverse_reverse]
  intro c hc
  exact h c (List.mem_reverse.mp hc)

theorem mem_of_mem_trimChars {c : Char} {chars : List Char}
    (h : c ∈ trimChars chars) : c ∈ chars := by
  have hback : c ∈ dropBlank (dropBlank chars).reverse := List.mem_reverse.mp h
  have hfront : c ∈ (dropBlank chars).reverse := (List.dropWhile_sublist _).subset hback
  exact (List.dropWhile_sublist _).subset (List.mem_reverse.mp hfront)

theorem length_dropBlank_le (chars : List Char) : (dropBlank chars).length ≤ chars.length :=
  (List.dropWhile_sublist _).length_le

/-- What `dropBlank` keeps does not begin with a blank. -/
theorem not_blank_of_dropBlank_eq_self {c : Char} {rest : List Char}
    (h : dropBlank (c :: rest) = c :: rest) : isBlank c = false := by
  cases hc : isBlank c with
  | false => rfl
  | true =>
      have hlength := length_dropBlank_le rest
      rw [dropBlank_cons_of_blank hc] at h
      rw [h, List.length_cons] at hlength
      omega

end AccessGateway.Text
