import AccessGateway.Cache.Basic

/-!
# The janitor of a cache

A janitor purges a cache periodically while its owner sleeps.  It starts with a purge at once.  A
tick that comes more than a few milliseconds late moves all later ones.
-/

namespace AccessGateway

structure Janitor where
  period : Nat
  /-- When it ticks next; unknown until it has run. -/
  due : Option Nat := none
  deriving DecidableEq, Repr

namespace Janitor

/-- How late a tick may come without moving the later ones. -/
def tolerance : Nat := 5

/-- The tick after one that was due at an instant and came at another. -/
def nextDue (janitor : Janitor) (due now : Nat) : Nat :=
  if due + tolerance < now then now + janitor.period else due + janitor.period

variable {κ β : Type} [DecidableEq κ]

/-- Ticks until an instant, as often as there is fuel. -/
def runUntil (deadline : Nat) :
    (fuel : Nat) → Janitor → Cache κ β → Janitor × Cache κ β
  | 0, janitor, cache => (janitor, cache)
  | fuel + 1, janitor, cache =>
    let due := janitor.due.getD cache.now
    let tick := max due cache.now
    if deadline < tick then (janitor, cache)
    else
      runUntil deadline fuel { janitor with due := some (janitor.nextDue due tick) }
        (cache.advance (tick - cache.now)).purge.2

/-- Lets a number of milliseconds go by while the janitor works.  A janitor without a period does
nothing. -/
def sleep (janitor : Janitor) (cache : Cache κ β) (milliseconds : Nat) : Janitor × Cache κ β :=
  let deadline := cache.now + milliseconds
  if janitor.period = 0 then (janitor, cache.advance milliseconds)
  else
    let (janitor, cache) := runUntil deadline (milliseconds / janitor.period + 2) janitor cache
    (janitor, cache.advance (deadline - cache.now))

end Janitor

end AccessGateway
