import MetricConsole.Date.Basic
import MetricConsole.Text.Blank
import MetricConsole.Text.Integer

/-!
# Dates as text

A date is written `YYYY-MM-DD`; a year outside `0..9999` has a sign and at least four digits.
Reading wants the two dashes and allows a month and a day of one digit, blanks before each number,
a year of up to four digits, and after a sign a year of any number of digits.  A date field allows
blanks around the whole date; the `loose` form, which payloads use, also allows blanks after each
number.
-/

namespace MetricConsole.Date

/-- A number with leading zeros up to a width. -/
def padded (width n : Nat) : List Char :=
  let ds := (Nat.repr n).toList
  List.replicate (width - ds.length) '0' ++ ds

/-- A year with four digits, or with a sign and at least four digits. -/
def yearText (year : Int) : List Char :=
  if 0 ≤ year ∧ year ≤ 9999 then padded 4 year.natAbs
  else (if year < 0 then '-' else '+') :: padded 4 year.natAbs

/-- The text of a date. -/
def text (d : Date) : String :=
  String.ofList (yearText d.year ++ '-' :: (padded 2 d.month ++ '-' :: padded 2 d.day))

/-- One or more digits at the start, at most `limit` of them, and what follows. -/
def scanDigits (limit : Nat) (cs : List Char) : Option (Nat × List Char) :=
  let ds := (cs.take limit).takeWhile fun c => (Text.Integer.digit? c).isSome
  (Text.Integer.digits? ds).map fun n => (n, cs.drop ds.length)

/-- A year at the start, and what follows. -/
def scanYear (cs : List Char) : Option (Int × List Char) :=
  match cs with
  | '-' :: cs => (scanDigits cs.length cs).map fun r => (-(r.1 : Int), r.2)
  | '+' :: cs => (scanDigits cs.length cs).map fun r => ((r.1 : Int), r.2)
  | cs => (scanDigits 4 cs).map fun r => ((r.1 : Int), r.2)

/-- The rest without the blanks at its start. -/
def skipBlank (cs : List Char) : List Char := cs.dropWhile Text.isBlank

/-- The rest after a number: the loose form allows blanks there. -/
def afterNumber (loose : Bool) (cs : List Char) : List Char :=
  if loose then skipBlank cs else cs

/-- What follows a dash. -/
def skipDash : List Char → Option (List Char)
  | '-' :: cs => some cs
  | _ => none

/-- Reads a date that may have blanks before each number and, in the loose form, after it. -/
def scan (loose : Bool) (cs : List Char) : Option Date := do
  let (year, cs) ← scanYear (skipBlank cs)
  let cs ← skipDash (afterNumber loose cs)
  let (month, cs) ← scanDigits 2 (skipBlank cs)
  let cs ← skipDash (afterNumber loose cs)
  let (day, cs) ← scanDigits 2 (skipBlank cs)
  match afterNumber loose cs with
  | [] => ofCivil? year month day
  | _ => none

/-- The date in a payload. -/
def ofPayload? (s : String) : Option Date := scan true s.toList

/-- The date in a date field. -/
def ofField? (s : String) : Option Date := scan false (Text.trimList s.toList)

/-- The text that shows a date in its field; an absent date shows as the empty text. -/
def fieldText : Option Date → String
  | none => ""
  | some d => d.text

end MetricConsole.Date
