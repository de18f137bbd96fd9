/-!
# Instants

An instant is a number of milliseconds since the beginning of 1970.  The calendar reaches from
the first day of the year -262143 to the last day of the year 262142, and moving an instant
beyond it is not possible.
-/

namespace AccessGateway

/-- Milliseconds since the beginning of 1970. -/
abbrev Instant := Int

namespace Calendar

/-- The first instant, in seconds. -/
def firstSecond : Int := -8334601228800

def lastSecond : Int := 8210266876799

/-- Whether an instant lies in the calendar. -/
def contains (t : Instant) : Bool :=
  firstSecond * 1000 ≤ t && t < (lastSecond + 1) * 1000

def add? (t : Instant) (milliseconds : Int) : Option Instant :=
  if contains (t + milliseconds) then some (t + milliseconds) else none

/-- The whole seconds of an instant, rounded down. -/
def seconds (t : Instant) : Int := Int.fdiv t 1000

theorem add?_eq_some_iff {t u : Instant} {d : Int} :
    add? t d = some u ↔ contains u ∧ u = t + d := by
  unfold add?
  constructor
  · intro h
    split at h
    · next hc => cases h; exact ⟨hc, rfl⟩
    · cases h
  · rintro ⟨hc, rfl⟩
    simp [hc]

/-- Adding whole seconds adds them to the whole seconds. -/
theorem seconds_add (t : Instant) (n : Int) : seconds (t + n * 1000) = seconds t + n := by
  unfold seconds
  rw [Int.fdiv_eq_ediv_of_nonneg _ (by decide), Int.fdiv_eq_ediv_of_nonneg _ (by decide)]
  omega

theorem seconds_mono {t u : Instant} (h : t ≤ u) : seconds t ≤ seconds u := by
  unfold seconds
  rw [Int.fdiv_eq_ediv_of_nonneg _ (by decide), Int.fdiv_eq_ediv_of_nonneg _ (by decide)]
  exact Int.ediv_le_ediv (by decide) h

/-- The calendar is bounded by whole seconds. -/
theorem contains_iff {t : Int} :
    contains t ↔ firstSecond ≤ seconds t ∧ seconds t ≤ lastSecond := by
  unfold contains seconds
  rw [Int.fdiv_eq_ediv_of_nonneg _ (by decide), Bool.and_eq_true, decide_eq_true_eq,
    decide_eq_true_eq]
  constructor
  · rintro ⟨hfirst, hlast⟩
    have hfirst : firstSecond * 1000 ≤ t := hfirst
    have hlast : t < (lastSecond + 1) * 1000 := hlast
    omega
  · rintro ⟨hfirst, hlast⟩
    constructor
    · show firstSecond * 1000 ≤ t
      omega
    · show t < (lastSecond + 1) * 1000
      omega

end Calendar

end AccessGateway
