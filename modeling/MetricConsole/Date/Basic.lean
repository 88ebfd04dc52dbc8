/-!
# Calendar dates

A date of the proleptic Gregorian calendar, with a year from `Date.minYear` to `Date.maxYear`.
Every value of `Date` is a day that exists, and dates are ordered by time.
-/

namespace MetricConsole

namespace Date

/-- The first year. -/
def minYear : Int := -262143

/-- The last year. -/
def maxYear : Int := 262142

/-- The year has a 29 February. -/
def isLeap (year : Int) : Bool :=
  year % 4 == 0 && (year % 100 != 0 || year % 400 == 0)

/-- The number of days of a month; no month has another number than one to twelve. -/
def daysIn (year : Int) (month : Nat) : Nat :=
  match month with
  | 1 | 3 | 5 | 7 | 8 | 10 | 12 => 31
  | 4 | 6 | 9 | 11 => 30
  | 2 => if isLeap year then 29 else 28
  | _ => 0

/-- The day exists and its year is in range. -/
def Exists (year : Int) (month day : Nat) : Prop :=
  minYear ≤ year ∧ year ≤ maxYear ∧ 1 ≤ day ∧ day ≤ daysIn year month

instance (year : Int) (month day : Nat) : Decidable (Exists year month day) :=
  inferInstanceAs (Decidable (_ ∧ _ ∧ _ ∧ _))

end Date

/-- A day of the calendar. -/
structure Date where
  year : Int
  month : Nat
  day : Nat
  valid : Date.Exists year month day
  deriving DecidableEq, Repr

namespace Date

/-- The day with this year, month and day of the month, if it exists. -/
def ofCivil? (year : Int) (month day : Nat) : Option Date :=
  if h : Exists year month day then some ⟨year, month, day, h⟩ else none

/-- The first day is earlier than the second. -/
def Earlier (a b : Date) : Prop :=
  a.year < b.year ∨ a.year = b.year ∧ (a.month < b.month ∨ a.month = b.month ∧ a.day < b.day)

instance : LT Date := ⟨Earlier⟩

instance (a b : Date) : Decidable (a < b) :=
  inferInstanceAs (Decidable (_ ∨ _ ∧ (_ ∨ _ ∧ _)))

/-- A month has a number from one to twelve. -/
theorem month_range (d : Date) : 1 ≤ d.month ∧ d.month ≤ 12 := by
  have h := d.valid.2.2
  have : d.month ≤ 12 := by
    apply Nat.le_of_not_lt
    intro hm
    have : daysIn d.year d.month = 0 := by
      unfold daysIn
      split <;> omega
    omega
  refine ⟨Nat.pos_of_ne_zero fun h₀ => ?_, this⟩
  have : daysIn d.year d.month = 0 := by rw [h₀]; rfl
  omega

/-- Of two days one is the earlier, unless they are the same day. -/
theorem not_lt_iff {a b : Date} : ¬b < a ↔ a < b ∨ a = b := by
  obtain ⟨y, m, d, _⟩ := a
  obtain ⟨y', m', d', _⟩ := b
  rw [mk.injEq]
  change ¬(y' < y ∨ y' = y ∧ (m' < m ∨ m' = m ∧ d' < d)) ↔
    (y < y' ∨ y = y' ∧ (m < m' ∨ m = m' ∧ d < d')) ∨ y = y' ∧ m = m' ∧ d = d'
  omega

end Date

end MetricConsole
