/-!
# Absent values

A dash stands on the page where there is nothing to show.
-/

namespace MetricConsole.Text

/-- The sign for a value that is not there. -/
def absent : String := "—"

/-- A text, or the dash if there is none. -/
def orAbsent (s : Option String) : String := s.getD absent

/-- A text, or the dash if there is none or it is empty. -/
def shownOrAbsent (s : Option String) : String :=
  match s with
  | none => absent
  | some s => if s = "" then absent else s

end MetricConsole.Text
