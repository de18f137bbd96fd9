/-!
# Tallies

How often each of several things has happened.  Only what has happened is listed.
-/

namespace AccessGateway

abbrev Tally (α : Type) := List (α × Nat)

namespace Tally

variable {α : Type} [DecidableEq α]

def count (tally : Tally α) (a : α) : Nat :=
  match tally with
  | [] => 0
  | (b, n) :: rest => if b = a then n else count rest a

def add (tally : Tally α) (a : α) : Tally α :=
  match tally with
  | [] => [(a, 1)]
  | (b, n) :: rest => if b = a then (b, n + 1) :: rest else (b, n) :: add rest a

end Tally

end AccessGateway
