import Mathlib.Algebra.Ring.Nat
import MetricConsole.Proofs.Date.Grammar

/-!
# Dates read back

The text of a date is read back as that date, in a payload and in a field, whatever its year: four
digits are as many as an unsigned year may have, and a sign lifts that bound.

* `Date.spells_text`, `Date.scan_text`: both forms of the reader read what was written.
* `Date.ofPayload?_text`, `Date.ofField?_surrounded`: the same for payloads and for fields.
-/

namespace MetricConsole.Date

open Text Integer

/-! ## Padded numbers -/

theorem isDigit_padded (width n : Nat) : ∀ c ∈ padded width n, c.isDigit = true := by
  intro c mem
  simp only [padded, Nat.toList_repr, List.mem_append, List.mem_replicate] at mem
  rcases mem with ⟨_, rfl⟩ | digit
  · decide
  · exact isDigit_toDigits n c digit

theorem padded_ne_nil (width n : Nat) : padded width n ≠ [] := by
  simp [padded, Nat.toDigits_ne_nil]

/-- Zeros in front do not change the value. -/
theorem digits?_padded (width n : Nat) : digits? (padded width n) = some n := by
  have value : digitsAfter 0 (padded width n) = some n := by
    rw [digitsAfter_eq_some (isDigit_padded width n)]
    simp [padded, Nat.ofDigitChars_append]
  cases padded : padded width n with
  | nil => exact absurd padded (padded_ne_nil width n)
  | cons c cs => rwa [padded] at value

theorem length_padded {width n : Nat} (positive : 0 < width) (fits : n < 10 ^ width) :
    (padded width n).length = width := by
  have short : (Nat.toDigits 10 n).length ≤ width :=
    (Nat.length_toDigits_le_iff (by decide) positive).mpr fits
  simp only [padded, Nat.toList_repr, List.length_append, List.length_replicate]
  omega

/-! ## The parts of a date -/

/-- A number of a month or a day is written with two digits. -/
theorem shortNumeral_padded {n : Nat} (fits : n < 100) : ShortNumeral (padded 2 n) n where
  nonempty := padded_ne_nil 2 n
  digits := isDigit_padded 2 n
  short := (length_padded (by decide) fits).le
  value := (digits?_eq_some_iff.mp (digits?_padded 2 n)).2.2

/-- A year is written with four digits, or with a sign. -/
theorem yearNumeral_yearText (year : Int) : YearNumeral (yearText year) year := by
  have digits := digits?_eq_some_iff.mp (digits?_padded 4 year.natAbs)
  unfold yearText
  split
  · next small =>
    refine ⟨⟨_, digits.1, digits.2.1, .inr ⟨.inl rfl, ?_⟩⟩, .inr (.inr ?_)⟩
    · rw [← digits.2.2]
      omega
    · exact (length_padded (by decide) (by omega)).le
  · next large =>
    split
    · refine ⟨⟨_, digits.1, digits.2.1, .inl ⟨rfl, ?_⟩⟩, .inl rfl⟩
      rw [← digits.2.2]
      omega
    · refine ⟨⟨_, digits.1, digits.2.1, .inr ⟨.inr rfl, ?_⟩⟩, .inr (.inl rfl)⟩
      rw [← digits.2.2]
      omega

/-- A day of a month has at most two digits. -/
theorem day_lt (d : Date) : d.day < 100 := by
  have last := d.valid.2.2.2
  have : daysIn d.year d.month ≤ 31 := by
    unfold daysIn
    split <;> try split
    all_goals omega
  omega

theorem ofCivil?_self (d : Date) : ofCivil? d.year d.month d.day = some d := by
  simp [ofCivil?, d.valid]

/-! ## The whole date -/

/-- The text of a date spells it. -/
theorem spells_text (loose : Bool) (d : Date) :
    Spells loose d.text.toList d.year d.month d.day := by
  have month := shortNumeral_padded (n := d.month) (by have := d.month_range; omega)
  exact ⟨_, _, _, String.toList_ofList, .of_numeral (yearNumeral_yearText d.year),
    .of_numeral month, .of_numeral (shortNumeral_padded d.day_lt)⟩

/-- The text of a date is read back, with and without the blanks that the loose form allows. -/
theorem scan_text (loose : Bool) (d : Date) : scan loose d.text.toList = some d :=
  (scan_of_spells (d.spells_text loose)).trans d.ofCivil?_self

theorem ofPayload?_text (d : Date) : ofPayload? d.text = some d := scan_text true d

/-- In a field, a date is read back with any blanks around it. -/
theorem ofField?_surrounded {before after : String} (start : IsBlank before)
    (finish : IsBlank after) (d : Date) : ofField? (before ++ d.text ++ after) = some d := by
  have spells := (d.spells_text false).after_blank (isBlank_iff.mp start)
  have field : FieldSpells (before ++ d.text ++ after) d.year d.month d.day :=
    ⟨_, after.toList, by simp, spells, isBlank_iff.mp finish⟩
  exact (ofField?_of_spells field).trans d.ofCivil?_self

theorem ofField?_text (d : Date) : ofField? d.text = some d := by
  have blank : IsBlank "" := by decide
  have read : ofField? ("" ++ d.text ++ "") = some d := ofField?_surrounded blank blank d
  rwa [String.empty_append, String.append_empty] at read

end MetricConsole.Date
