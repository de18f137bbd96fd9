import AccessGateway.Routing.Template

/-!
# The search among templates

Templates are searched like a tree: those that begin alike are followed together, and where they
part, a character is tried before a parameter or the rest of the path.  A way that leads nowhere is
given up for the next one.  But where nothing except a single slash is left of the path, no other
way is tried: a path with one slash too many has no template, even if an earlier parameter or rest
could take it all.
-/

namespace AccessGateway

/-- What is left of templates that have begun alike, with what each one stands for. -/
abbrev Branch (α : Type) := List (List TemplatePiece × α)

inductive SearchEnd (α : Type) where
  | found (value : α) (values : List String)
  /-- No template goes this way. -/
  | missed
  /-- The search breaks off at a slash too many. -/
  | stopped

namespace SearchEnd

variable {α : Type}

/-- Breaks the search off where a miss is final. -/
def settle (final : Bool) : SearchEnd α → SearchEnd α
  | .missed => if final then .stopped else .missed
  | reached => reached

/-- The end of another search, if the first one has missed. -/
def orElse : SearchEnd α → SearchEnd α → SearchEnd α
  | .missed, other => other
  | reached, _ => reached

/-- Puts the value of a parameter before those that were found. -/
def withValue (text : String) : SearchEnd α → SearchEnd α
  | .found value values => .found value (text :: values)
  | reached => reached

end SearchEnd

namespace Branch

variable {α : Type}

/-- The templates that go on with a piece, behind it. -/
def behind (piece : TemplatePiece) (branch : Branch α) : Branch α :=
  branch.filterMap fun
    | ([], _) => none
    | (first :: pieces, value) => if first = piece then some (pieces, value) else none

/-- Whether the templates part here: they do not all go on with one character. -/
def isFork (branch : Branch α) : Bool :=
  branch.any fun
    | (.char c :: _, _) => (branch.behind (.char c)).length < branch.length
    | _ => true

/-- A path of which nothing is left is found where a template ends. -/
def atEnd : Branch α → SearchEnd α
  | [] => .missed
  | ([], value) :: _ => .found value []
  | _ :: others => atEnd others

/-- What is left of a path is found where a template takes all the rest. -/
def atRest (path : List Char) (branch : Branch α) : SearchEnd α :=
  match branch.behind .rest with
  | [] => .missed
  | (_, value) :: _ => .found value [String.ofList path]

theorem behind_cons (piece : TemplatePiece) (form : List TemplatePiece × α)
    (others : Branch α) :
    behind piece (form :: others) =
      (if form.1.head? = some piece then [(form.1.tail, form.2)] else []) ++
        others.behind piece := by
  rcases form with ⟨_ | ⟨first, pieces⟩, value⟩
  · rfl
  · by_cases hsame : first = piece <;> simp [behind, hsame]

def weight (branch : Branch α) : Nat := (branch.flatMap (·.1)).length

theorem weight_cons (form : List TemplatePiece × α) (others : Branch α) :
    weight (form :: others) = form.1.length + weight others := by
  simp [weight]

theorem weight_behind_le (piece : TemplatePiece) (branch : Branch α) :
    (branch.behind piece).weight ≤ branch.weight := by
  induction branch with
  | nil => exact Nat.le_refl _
  | cons form others ih =>
      rw [behind_cons, weight_cons]
      split
      · rw [List.singleton_append, weight_cons, List.length_tail]
        omega
      · exact Nat.le_add_left_of_le ih

theorem weight_behind_lt {piece : TemplatePiece} {branch : Branch α}
    (h : branch.behind piece ≠ []) : (branch.behind piece).weight < branch.weight := by
  induction branch with
  | nil => exact absurd rfl h
  | cons form others ih =>
      rw [behind_cons] at h ⊢
      rw [weight_cons]
      by_cases hhead : form.1.head? = some piece
      · have hle := weight_behind_le piece others
        have hpos : 0 < form.1.length := List.length_pos_of_mem (List.mem_of_head? hhead)
        rw [if_pos hhead, List.singleton_append, weight_cons, List.length_tail]
        omega
      · rw [if_neg hhead] at h ⊢
        exact Nat.lt_add_left _ (ih h)

/-- Searches the rest of a path; behind a parameter templates part in any case. -/
def search (branch : Branch α) (parted : Bool) : List Char → SearchEnd α
  | [] => branch.atEnd
  | c :: path =>
    let final := (parted || branch.isFork) && c = '/' && path.isEmpty
    let fixed :=
      if _h : branch.behind (.char c) = [] then .missed
      else ((branch.behind (.char c)).search false path).settle final
    let free :=
      if _h : branch.behind .parameter = [] then .missed
      else
        ((branch.behind .parameter).search true ((c :: path).dropWhile (· ≠ '/'))).withValue
          (String.ofList ((c :: path).takeWhile (· ≠ '/')))
    fixed.orElse ((free.orElse (branch.atRest (c :: path))).settle final)
termination_by branch.weight
decreasing_by all_goals exact weight_behind_lt _h

end Branch

end AccessGateway
