import MetricConsole.Date.Text
import MetricConsole.Proofs.Text.Blank
import MetricConsole.Proofs.Text.Integer

/-!
# What a text of a date looks like

A date is read from the numerals of its year, its month and its day with dashes between them.  The
year has up to four digits, or a sign before any number of them; the month and the day have one or
two.  Blanks may stand before each numeral, and in the loose form behind it.  Such a text is read as
the day with these numbers, provided that there is one, and nothing else is read.

* `Date.YearNumeral`, `Date.ShortNumeral`, `Date.Spells`: these texts.
* `Date.Scans`: a scanner reads the numerals of a kind and nothing else.
* `Date.scan_of_spells`, `Date.spells_of_scan`: what is read of them, and that nothing else is.
* `Date.FieldSpells`, `Date.ofField?_of_spells`, `Date.spells_of_ofField?`: the same for a field.
-/

namespace MetricConsole.Date

open Text Integer

/-! ## Texts of dates -/

/-- A numeral of a month or a day has one or two digits. -/
structure ShortNumeral (cs : List Char) (n : Nat) : Prop where
  nonempty : cs ≠ []
  digits : ∀ c ∈ cs, c.isDigit = true
  short : cs.length ≤ 2
  value : n = Nat.ofDigitChars 10 cs 0

/-- A numeral of a year has a sign, or up to four digits. -/
structure YearNumeral (cs : List Char) (year : Int) : Prop where
  numeral : Numeral cs year
  short : cs.head? = some '-' ∨ cs.head? = some '+' ∨ cs.length ≤ 4

/-- A numeral with blanks before it and, in the loose form, behind it. -/
def Spaced (loose : Bool) (numeral : List Char → Prop) (cs : List Char) : Prop :=
  ∃ before digits after, cs = before ++ (digits ++ after) ∧ numeral digits ∧
    (∀ c ∈ before, isBlank c = true) ∧ (∀ c ∈ after, isBlank c = true) ∧
    (loose = false → after = [])

/-- The text is these numbers with dashes between them. -/
def Spells (loose : Bool) (cs : List Char) (year : Int) (month day : Nat) : Prop :=
  ∃ ys ms ds, cs = ys ++ '-' :: (ms ++ '-' :: ds) ∧ Spaced loose (YearNumeral · year) ys ∧
    Spaced loose (ShortNumeral · month) ms ∧ Spaced loose (ShortNumeral · day) ds

theorem Spaced.of_numeral {loose : Bool} {numeral : List Char → Prop} {cs : List Char}
    (plain : numeral cs) : Spaced loose numeral cs :=
  ⟨[], cs, [], by simp, plain, nofun, nofun, fun _ => rfl⟩

/-! ## Scanners -/

/-- The rest does not go on with a digit. -/
def Stops (rest : List Char) : Prop := ∀ c ∈ rest.head?, digit? c = none

theorem digit?_of_isBlank {c : Char} (blank : isBlank c = true) : digit? c = none := by
  cases read : digit? c with
  | none => rfl
  | some d =>
    rw [isBlank_of_isDigit (isDigit_of_digit? read)] at blank
    cases blank

/-- Blanks before a dash, or before the end, stop a numeral. -/
theorem stops_append {after rest : List Char} (blank : ∀ c ∈ after, isBlank c = true)
    (stops : Stops rest) : Stops (after ++ rest) := by
  cases after with
  | nil => exact stops
  | cons c after =>
    rintro _ ⟨⟩
    exact digit?_of_isBlank (blank c List.mem_cons_self)

/-- The scanner reads the numerals of a kind up to where they end, and nothing else; no such numeral
starts with a blank. -/
structure Scans {α : Type} (scan? : List Char → Option (α × List Char))
    (numeral : List Char → α → Prop) : Prop where
  reads : ∀ {cs a rest}, numeral cs a → Stops rest → scan? (cs ++ rest) = some (a, rest)
  sound : ∀ {cs a rest}, scan? cs = some (a, rest) → ∃ ds, cs = ds ++ rest ∧ numeral ds a
  solid : ∀ {cs a}, numeral cs a → ∃ c ds, cs = c :: ds ∧ isBlank c = false

/-- Digits are read up to where they end. -/
theorem scanDigits_append {limit n : Nat} {ds rest : List Char}
    (digits : ∀ c ∈ ds, c.isDigit = true) (value : digits? ds = some n)
    (short : ds.length ≤ limit) (stops : Stops rest) :
    scanDigits limit (ds ++ rest) = some (n, rest) := by
  have taken : ((ds ++ rest).take limit).takeWhile (fun c => (digit? c).isSome) = ds := by
    rw [List.take_append, List.take_of_length_le short, List.takeWhile_append_of_pos]
    · suffices unread :
          (rest.take (limit - ds.length)).takeWhile (fun c => (digit? c).isSome) = [] by
        rw [unread, List.append_nil]
      cases rest with
      | nil => simp
      | cons c rest =>
        cases limit - ds.length with
        | zero => rfl
        | succ k => simp [stops c rfl]
    · intro c mem
      simp [digit?_of_isDigit (digits c mem)]
  unfold scanDigits
  simp only [taken, value, Option.map_some, List.drop_left]

/-- What is read are digits, no more of them than the limit. -/
theorem scanDigits_sound {limit n : Nat} {cs rest : List Char}
    (read : scanDigits limit cs = some (n, rest)) :
    ∃ ds, cs = ds ++ rest ∧ ds.length ≤ limit ∧ digits? ds = some n := by
  obtain ⟨m, value, same⟩ := Option.map_eq_some_iff.mp read
  obtain ⟨rfl, rfl⟩ := Prod.mk.inj same
  have start : (cs.take limit).takeWhile (fun c => (digit? c).isSome) <+: cs :=
    (List.takeWhile_prefix _).trans (List.take_prefix _ _)
  refine ⟨_, (List.prefix_iff_eq_append.mp start).symm, ?_, value⟩
  exact (List.takeWhile_prefix _).length_le.trans (List.length_take_le _ _)

theorem scans_short : Scans (scanDigits 2) ShortNumeral where
  reads := fun ⟨nonempty, digits, short, value⟩ stops =>
    scanDigits_append digits (digits?_eq_some_iff.mpr ⟨nonempty, digits, value⟩) short stops
  sound := by
    intro cs n rest read
    obtain ⟨ds, rfl, short, found⟩ := scanDigits_sound read
    obtain ⟨nonempty, digits, value⟩ := digits?_eq_some_iff.mp found
    exact ⟨ds, rfl, nonempty, digits, short, value⟩
  solid := by
    intro cs n numeral
    obtain ⟨c, ds, rfl⟩ := List.exists_cons_of_ne_nil numeral.nonempty
    exact ⟨c, ds, rfl, isBlank_of_isDigit (numeral.digits c List.mem_cons_self)⟩

/-- A year without a sign is read as up to four digits. -/
theorem scanYear_of_isDigit {c : Char} (digit : c.isDigit = true) (cs : List Char) :
    scanYear (c :: cs) = (scanDigits 4 (c :: cs)).map fun r => ((r.1 : Int), r.2) := by
  unfold scanYear
  split
  · next same => cases same; exact absurd digit (by decide)
  · next same => cases same; exact absurd digit (by decide)
  · rfl

theorem scans_year : Scans scanYear YearNumeral where
  reads := by
    rintro cs year rest ⟨⟨ds, nonempty, digits, which⟩, short⟩ stops
    have value := digits?_eq_some_iff.mpr ⟨nonempty, digits, rfl⟩
    have signed : scanDigits (ds ++ rest).length (ds ++ rest) =
        some (Nat.ofDigitChars 10 ds 0, rest) := scanDigits_append digits value (by simp) stops
    rcases which with ⟨rfl, rfl⟩ | ⟨rfl | rfl, rfl⟩
    · simp only [List.cons_append, scanYear, signed, Option.map_some]
    · obtain ⟨c, more, rfl⟩ := List.exists_cons_of_ne_nil nonempty
      have digit := digits c List.mem_cons_self
      have unsigned : (c :: more).length ≤ 4 := by
        rcases short with minus | plus | short
        · cases minus; exact absurd digit (by decide)
        · cases plus; exact absurd digit (by decide)
        · exact short
      rw [List.cons_append, scanYear_of_isDigit digit, ← List.cons_append,
        scanDigits_append digits value unsigned stops, Option.map_some]
    · simp only [List.cons_append, scanYear, signed, Option.map_some]
  sound := by
    intro cs year rest read
    unfold scanYear at read
    split at read
    all_goals
      obtain ⟨⟨n, rest'⟩, scanned, same⟩ := Option.map_eq_some_iff.mp read
      obtain ⟨rfl, rfl⟩ := Prod.mk.inj same
      obtain ⟨ds, rfl, short, found⟩ := scanDigits_sound scanned
      obtain ⟨nonempty, digits, rfl⟩ := digits?_eq_some_iff.mp found
    · exact ⟨'-' :: ds, rfl, ⟨ds, nonempty, digits, .inl ⟨rfl, rfl⟩⟩, .inl rfl⟩
    · exact ⟨'+' :: ds, rfl, ⟨ds, nonempty, digits, .inr ⟨.inr rfl, rfl⟩⟩, .inr (.inl rfl)⟩
    · exact ⟨ds, rfl, ⟨ds, nonempty, digits, .inr ⟨.inl rfl, rfl⟩⟩, .inr (.inr short)⟩
  solid := by
    rintro cs year ⟨⟨ds, nonempty, digits, ⟨rfl, rfl⟩ | ⟨rfl | rfl, rfl⟩⟩, -⟩
    · exact ⟨'-', ds, rfl, by decide⟩
    · obtain ⟨c, more, rfl⟩ := List.exists_cons_of_ne_nil nonempty
      exact ⟨c, more, rfl, isBlank_of_isDigit (digits c List.mem_cons_self)⟩
    · exact ⟨'+', ds, rfl, by decide⟩

/-! ## Numerals with their blanks -/

theorem skipBlank_append {before rest : List Char} (blank : ∀ c ∈ before, isBlank c = true)
    (solid : ∀ c ∈ rest.head?, isBlank c = false) : skipBlank (before ++ rest) = rest := by
  rw [skipBlank, List.dropWhile_append_of_pos blank]
  cases rest with
  | nil => rfl
  | cons c rest => exact List.dropWhile_cons_of_neg (by simp [solid c rfl])

theorem afterNumber_append {loose : Bool} {after rest : List Char}
    (blank : ∀ c ∈ after, isBlank c = true) (strict : loose = false → after = [])
    (solid : ∀ c ∈ rest.head?, isBlank c = false) : afterNumber loose (after ++ rest) = rest := by
  cases loose with
  | false => simp [afterNumber, strict rfl]
  | true => exact skipBlank_append blank solid

/-- What is passed over after a numeral are blanks, and nothing is unless the form is loose. -/
theorem exists_afterNumber (loose : Bool) (cs : List Char) :
    ∃ after, cs = after ++ afterNumber loose cs ∧ (∀ c ∈ after, isBlank c = true) ∧
      (loose = false → after = []) := by
  cases loose with
  | false => exact ⟨[], rfl, nofun, fun _ => rfl⟩
  | true =>
    exact ⟨cs.takeWhile isBlank, List.takeWhile_append_dropWhile.symm,
      fun c mem => List.mem_takeWhile_imp mem, nofun⟩

namespace Scans

variable {α : Type} {scan? : List Char → Option (α × List Char)} {numeral : List Char → α → Prop}
  {loose : Bool} {a : α} {tail cs : List Char}

/-- A numeral is read with its blanks. -/
theorem spaced_reads (scans : Scans scan? numeral) {part : List Char}
    (spaced : Spaced loose (numeral · a) part) (rest : List Char) (stops : Stops rest)
    (solid : ∀ c ∈ rest.head?, isBlank c = false) :
    ∃ tail, scan? (skipBlank (part ++ rest)) = some (a, tail) ∧ afterNumber loose tail = rest := by
  obtain ⟨before, digits, after, rfl, plain, blank, blank', strict⟩ := spaced
  obtain ⟨c, ds, rfl, first⟩ := scans.solid plain
  refine ⟨after ++ rest, ?_, afterNumber_append blank' strict solid⟩
  rw [List.append_assoc, List.append_assoc, skipBlank_append blank (by simpa using first),
    scans.reads plain (stops_append blank' stops)]

/-- What is read with its blanks is such a numeral. -/
theorem spaced_sound (scans : Scans scan? numeral) (loose : Bool)
    (read : scan? (skipBlank cs) = some (a, tail)) :
    ∃ part, cs = part ++ afterNumber loose tail ∧ Spaced loose (numeral · a) part := by
  obtain ⟨digits, text, plain⟩ := scans.sound read
  obtain ⟨after, passed, blank, strict⟩ := exists_afterNumber loose tail
  refine ⟨cs.takeWhile isBlank ++ (digits ++ after), ?_, cs.takeWhile isBlank, digits, after, rfl,
    plain, fun c mem => List.mem_takeWhile_imp mem, blank, strict⟩
  calc cs = cs.takeWhile isBlank ++ skipBlank cs := List.takeWhile_append_dropWhile.symm
    _ = cs.takeWhile isBlank ++ (digits ++ (after ++ afterNumber loose tail)) := by
      rw [text, ← passed]
    _ = cs.takeWhile isBlank ++ (digits ++ after) ++ afterNumber loose tail := by simp

end Scans

/-! ## Whole dates -/

theorem skipDash_eq_some {cs rest : List Char} (dash : skipDash cs = some rest) :
    cs = '-' :: rest := by
  unfold skipDash at dash
  split at dash
  · cases dash
    rfl
  · cases dash

/-- A text that spells a date is read as the day with its numbers, if there is one. -/
theorem scan_of_spells {loose : Bool} {cs : List Char} {year : Int} {month day : Nat}
    (spells : Spells loose cs year month day) : scan loose cs = ofCivil? year month day := by
  obtain ⟨ys, ms, ds, rfl, inYear, inMonth, inDay⟩ := spells
  have dash {rest : List Char} : Stops ('-' :: rest) := by simp [Stops, digit?]
  have solid {rest : List Char} : ∀ c ∈ ('-' :: rest).head?, isBlank c = false := by
    rintro _ ⟨⟩
    decide
  obtain ⟨tail, yearRead, yearRest⟩ :=
    scans_year.spaced_reads inYear ('-' :: (ms ++ '-' :: ds)) dash solid
  obtain ⟨tail', monthRead, monthRest⟩ := scans_short.spaced_reads inMonth ('-' :: ds) dash solid
  obtain ⟨tail'', dayRead, dayRest⟩ :=
    scans_short.spaced_reads inDay [] (by simp [Stops]) (by simp)
  rw [List.append_nil] at dayRead
  unfold scan
  simp only [yearRead, yearRest, skipDash, monthRead, monthRest, dayRead, dayRest,
    Option.bind_eq_bind, Option.bind_some]

/-- What is read as a date spells it. -/
theorem spells_of_scan {loose : Bool} {cs : List Char} {d : Date} (read : scan loose cs = some d) :
    Spells loose cs d.year d.month d.day := by
  simp only [scan, Option.bind_eq_bind, Option.bind_eq_some_iff, Prod.exists] at read
  obtain ⟨year, tail, yearRead, _, dash, month, tail', monthRead, _, dash', day, tail'', dayRead,
    last⟩ := read
  obtain ⟨ys, text, inYear⟩ := scans_year.spaced_sound loose yearRead
  obtain ⟨ms, text', inMonth⟩ := scans_short.spaced_sound loose monthRead
  obtain ⟨ds, text'', inDay⟩ := scans_short.spaced_sound loose dayRead
  split at last
  · next stop =>
    unfold ofCivil? at last
    split at last
    · cases last
      rw [skipDash_eq_some dash, text', skipDash_eq_some dash', text'', stop,
        List.append_nil] at text
      exact ⟨ys, ms, ds, text, inYear, inMonth, inDay⟩
    · cases last
  · cases last

/-! ## Fields -/

/-- The text of a field spells a date: in a field, blanks may stand around the whole. -/
def FieldSpells (s : String) (year : Int) (month day : Nat) : Prop :=
  ∃ cs after, s.toList = cs ++ after ∧ Spells false cs year month day ∧
    ∀ c ∈ after, isBlank c = true

/-- Blanks before a text that spells a date change nothing. -/
theorem Spells.after_blank {loose : Bool} {before cs : List Char} {year : Int} {month day : Nat}
    (blank : ∀ c ∈ before, isBlank c = true) (spells : Spells loose cs year month day) :
    Spells loose (before ++ cs) year month day := by
  obtain ⟨_, ms, ds, rfl, ⟨before', digits, after, rfl, numeral, blank', rest⟩, parts⟩ := spells
  refine ⟨before ++ (before' ++ (digits ++ after)), ms, ds, by simp, ?_, parts⟩
  exact ⟨before ++ before', digits, after, by simp, numeral,
    List.forall_mem_append.mpr ⟨blank, blank'⟩, rest⟩

/-- Without the blanks before its year, a text that spells a date has no blanks at its ends. -/
theorem Spells.exists_trimmed {cs : List Char} {year : Int} {month day : Nat}
    (spells : Spells false cs year month day) : ∃ before core, cs = before ++ core ∧
      (∀ c ∈ before, isBlank c = true) ∧ Spells false core year month day ∧
      trimList core = core := by
  obtain ⟨_, ms, _, rfl, ⟨before, ys, after, rfl, numeral, blank, -, strict⟩, inMonth,
    ⟨before', ds, after', rfl, numeral', blank', -, strict'⟩⟩ := spells
  obtain rfl := strict rfl
  obtain rfl := strict' rfl
  refine ⟨before, ys ++ '-' :: (ms ++ '-' :: (before' ++ ds)), by simp, blank,
    ⟨ys, ms, before' ++ ds, rfl, .of_numeral numeral, inMonth, before', ds, [], by simp, numeral',
      blank', nofun, fun _ => rfl⟩, trimList_eq_self ?_ ?_⟩
  · obtain ⟨c, more, rfl, solid⟩ := scans_year.solid numeral
    rintro _ ⟨⟩
    exact solid
  · intro c last
    have whole : ys ++ '-' :: (ms ++ '-' :: (before' ++ ds)) =
        ys ++ '-' :: (ms ++ '-' :: before') ++ ds := by simp
    rw [whole, List.getLast?_append_of_ne_nil _ numeral'.nonempty] at last
    exact isBlank_of_isDigit (numeral'.digits c (List.mem_of_getLast? last))

/-- A field that spells a date is read as the day with its numbers, if there is one. -/
theorem ofField?_of_spells {s : String} {year : Int} {month day : Nat}
    (spells : FieldSpells s year month day) : ofField? s = ofCivil? year month day := by
  obtain ⟨cs, after, text, spells, blank⟩ := spells
  obtain ⟨before, core, rfl, blank', spells, trimmed⟩ := spells.exists_trimmed
  rw [ofField?, text, List.append_assoc, trimList_surrounded core blank' blank, trimmed,
    scan_of_spells spells]

/-- What is read from a field spells it. -/
theorem spells_of_ofField? {s : String} {d : Date} (read : ofField? s = some d) :
    FieldSpells s d.year d.month d.day := by
  obtain ⟨before, after, text, blank, blank'⟩ := exists_trimList s.toList
  refine ⟨before ++ trimList s.toList, after, ?_, (spells_of_scan read).after_blank blank, blank'⟩
  rw [List.append_assoc, ← text]

end MetricConsole.Date
