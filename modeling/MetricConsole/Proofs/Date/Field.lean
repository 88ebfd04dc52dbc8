import MetricConsole.Proofs.Date.Order

/-!
# The date field

A date field shows its date as text and reads the text again.  Every date is read back, with any
blanks around it; what is read is a day of the calendar, the one whose numbers are in the text; and
texts of dates without a sign are in the order of the days.

* `Date.IsCivil`, `Date.exists_iff`: the days of the calendar.
* `Date.exists_ofField?_iff`: a text is read if its numbers are those of a day of the calendar.
* `Date.field_lossless`: all of this together.
-/

namespace MetricConsole.Date

open Text

/-! ## Days of the calendar -/

/-- The year is one of those that can be written, and the day exists in the Gregorian calendar: no
month has more than 31 days, April, June, September and November have 30, and February has a 29th
only in leap years, which are the years that 4 divides, but of those that 100 divides only those
that 400 divides. -/
structure IsCivil (year : Int) (month day : Nat) : Prop where
  years : -262143 ≤ year ∧ year ≤ 262142
  months : 1 ≤ month ∧ month ≤ 12
  days : 1 ≤ day ∧ day ≤ 31
  short : month = 4 ∨ month = 6 ∨ month = 9 ∨ month = 11 → day ≤ 30
  february : month = 2 → day ≤ 29
  leap : month = 2 → day = 29 → 4 ∣ year ∧ (100 ∣ year → 400 ∣ year)

theorem isLeap_iff {year : Int} : isLeap year = true ↔ 4 ∣ year ∧ (100 ∣ year → 400 ∣ year) := by
  simp only [isLeap, Bool.and_eq_true, Bool.or_eq_true, beq_iff_eq, bne_iff_ne]
  omega

/-- The days that exist are the days of the calendar. -/
theorem exists_iff {year : Int} {month day : Nat} :
    Exists year month day ↔ IsCivil year month day := by
  have february := @isLeap_iff year
  constructor
  · rintro ⟨first, last, positive, fits⟩
    have months := month_range ⟨year, month, day, first, last, positive, fits⟩
    unfold daysIn at fits
    split at fits <;> try split at fits
    all_goals exact ⟨⟨first, last⟩, months, by omega, by omega, by omega, by grind⟩
  · rintro ⟨⟨first, last⟩, months, ⟨positive, long⟩, short, twentynine, leap⟩
    refine ⟨first, last, positive, ?_⟩
    unfold daysIn
    split <;> try split
    all_goals grind

/-! ## Reading and showing -/

/-- A field whose text spells a date is read exactly if there is a day with these numbers. -/
theorem exists_ofField?_iff {s : String} {year : Int} {month day : Nat}
    (spells : FieldSpells s year month day) :
    (∃ d, ofField? s = some d ∧ d.year = year ∧ d.month = month ∧ d.day = day) ↔
      IsCivil year month day := by
  rw [ofField?_of_spells spells, ← exists_iff]
  constructor
  · rintro ⟨d, -, rfl, rfl, rfl⟩
    exact d.valid
  · intro civil
    exact ⟨⟨year, month, day, civil⟩, dif_pos civil, rfl, rfl, rfl⟩

/-- **A date field loses nothing and reads only days of the calendar.**  It reads back every date
from its text, with any blanks around it.  Whatever it reads is a day of the calendar, spelt by the
text, and is read back from its own text; and of the texts that spell a date it reads exactly those
of a day of the calendar.  From the year 0 to the year 9999 the earlier date has the smaller
text. -/
theorem field_lossless :
    (∀ (d : Date) (before after : String), IsBlank before → IsBlank after →
      ofField? (before ++ fieldText (some d) ++ after) = some d) ∧
    (∀ (s : String) (d : Date), ofField? s = some d →
      IsCivil d.year d.month d.day ∧ FieldSpells s d.year d.month d.day ∧
        ofField? (fieldText (some d)) = some d) ∧
    (∀ (s : String) (year : Int) (month day : Nat), FieldSpells s year month day →
      ((∃ d, ofField? s = some d ∧ d.year = year ∧ d.month = month ∧ d.day = day) ↔
        IsCivil year month day)) ∧
    ∀ a b : Date, 0 ≤ a.year ∧ a.year ≤ 9999 → 0 ≤ b.year ∧ b.year ≤ 9999 →
      (a < b ↔ fieldText (some a) < fieldText (some b)) := by
  refine ⟨fun d before after start finish => ?_, fun s d read => ?_,
    fun s year month day spells => ?_, fun a b left right => ?_⟩
  · exact ofField?_surrounded start finish d
  · exact ⟨exists_iff.mp d.valid, spells_of_ofField? read, d.ofField?_text⟩
  · exact exists_ofField?_iff spells
  · exact (text_lt_iff left right).symm

/-- The first day that can be written is read back between blanks.  A 29 February is read from a
text with a sign, zeros and blanks, and again from its own text; the text of the one of 1900 spells
a date, but there is no such day to read.  The last day of the year 999 has a smaller text than the
next day. -/
theorem field_lossless_leapDay :
    let first : Date := ⟨-262143, 1, 1, by decide⟩
    let leapDay : Date := ⟨2024, 2, 29, by decide⟩
    let older : Date := ⟨999, 12, 31, by decide⟩
    let newer : Date := ⟨1000, 1, 1, by decide⟩
    (IsBlank "\u3000" ∧ IsBlank "\t" ∧
      ofField? ("\u3000" ++ fieldText (some first) ++ "\t") = some first) ∧
    (ofField? " +02024- 2-\u00a029" = some leapDay ∧ IsCivil 2024 2 29 ∧
      ofField? (fieldText (some leapDay)) = some leapDay) ∧
    (FieldSpells "1900-02-29" 1900 2 29 ∧ ¬∃ d, ofField? "1900-02-29" = some d ∧ d.year = 1900 ∧
      d.month = 2 ∧ d.day = 29) ∧
    older < newer ∧ fieldText (some older) < fieldText (some newer) := by
  intro first leapDay older newer
  obtain ⟨surrounded, sound, exact, order⟩ := field_lossless
  have blank : IsBlank "\u3000" ∧ IsBlank "\t" := by decide
  have read : ofField? " +02024- 2-\u00a029" = some leapDay := by decide
  obtain ⟨civil, -, again⟩ := sound _ leapDay read
  have spells : FieldSpells "1900-02-29" 1900 2 29 :=
    ⟨"1900-02-29".toList, [], rfl, ⟨"1900".toList, "02".toList, "29".toList, rfl,
      .of_numeral ⟨⟨"1900".toList, by decide, List.all_eq_true.mp rfl, .inr ⟨.inl rfl, rfl⟩⟩,
        by decide⟩,
      .of_numeral ⟨by decide, List.all_eq_true.mp rfl, by decide, rfl⟩,
      .of_numeral ⟨by decide, List.all_eq_true.mp rfl, by decide, rfl⟩⟩, nofun⟩
  have missing : ¬IsCivil 1900 2 29 := fun civil => absurd (civil.leap rfl rfl) (by decide)
  have earlier : older < newer := by decide
  exact ⟨⟨blank.1, blank.2, surrounded first _ _ blank.1 blank.2⟩, ⟨read, civil, again⟩,
    ⟨spells, fun found => missing ((exact _ _ _ _ spells).mp found)⟩, earlier,
    (order older newer (by decide) (by decide)).mp earlier⟩

end MetricConsole.Date
