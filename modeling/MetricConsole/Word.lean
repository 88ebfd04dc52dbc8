/-!
# Whole numbers of a fixed width

Ids and counts are signed words of 64 bits, positions are signed words of 32 bits. `int64?` and
`int32?` give the word with a value, if there is one.
-/

namespace MetricConsole.Word

/-- The word of 64 bits with this value. -/
def int64? (n : Int) : Option Int64 :=
  if Int64.minValue.toInt ≤ n ∧ n ≤ Int64.maxValue.toInt then some (Int64.ofInt n) else none

/-- The word of 32 bits with this value. -/
def int32? (n : Int) : Option Int32 :=
  if Int32.minValue.toInt ≤ n ∧ n ≤ Int32.maxValue.toInt then some (Int32.ofInt n) else none

theorem int64?_toInt (n : Int64) : int64? n.toInt = some n := by
  have h₁ := Int64.minValue_le_toInt n
  have h₂ := Int64.toInt_le n
  unfold int64?
  rw [if_pos ⟨by simpa using h₁, by simpa using h₂⟩, Int64.ofInt_toInt]

theorem int32?_toInt (n : Int32) : int32? n.toInt = some n := by
  have h₁ := Int32.minValue_le_toInt n
  have h₂ := Int32.toInt_le n
  unfold int32?
  rw [if_pos ⟨by simpa using h₁, by simpa using h₂⟩, Int32.ofInt_toInt]

theorem int64?_eq_some_iff {n : Int} {w : Int64} : int64? n = some w ↔ n = w.toInt := by
  constructor
  · intro word
    unfold int64? at word
    split at word
    · next range =>
      cases word
      rw [Int64.toInt_minValue, Int64.toInt_maxValue] at range
      exact (Int64.toInt_ofInt_of_le range.1 (Int.lt_of_le_sub_one range.2)).symm
    · cases word
  · rintro rfl
    exact int64?_toInt w

theorem int32?_eq_some_iff {n : Int} {w : Int32} : int32? n = some w ↔ n = w.toInt := by
  constructor
  · intro word
    unfold int32? at word
    split at word
    · next range =>
      cases word
      rw [Int32.toInt_minValue, Int32.toInt_maxValue] at range
      exact (Int32.toInt_ofInt_of_le range.1 (Int.lt_of_le_sub_one range.2)).symm
    · cases word
  · rintro rfl
    exact int32?_toInt w

end MetricConsole.Word
