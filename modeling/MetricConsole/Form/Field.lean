import MetricConsole.Form.Fault
import MetricConsole.Json.Parser
import MetricConsole.Json.Printer
import MetricConsole.Text.Blank
import MetricConsole.Text.Integer

/-!
# Fields of forms

A field holds text.  Blanks around it never count and a blank field holds nothing; what a field
means beyond that depends on its kind.  `dslText` writes what `dsl` reads.
-/

namespace MetricConsole.Form

open Text

/-- The text of a field that must not be blank. -/
def required (field value : String) : Except FormFault String :=
  match nonBlank? value with
  | some s => .ok s
  | none => .error (.missing field)

/-- The JSON value typed into a field, if the field is not blank. -/
def dsl (value : String) : Except FormFault (Option Json) :=
  if IsBlank value then .ok none
  else
    match Json.parse value with
    | .ok j => .ok (some j)
    | .error f => .error (.badDsl value f)

/-- The text that shows a JSON value in its field; an absent value shows as the empty text. -/
def dslText : Option Json → String
  | none => ""
  | some j => j.pretty

/-- A position in a list; a blank field means the first. -/
def order (value : String) : Except FormFault Int32 :=
  match nonBlank? value with
  | none => .ok 0
  | some s =>
    match Integer.parseInt32? s with
    | some n => if 0 ≤ n then .ok n else .error .badOrder
    | none => .error .badOrder

end MetricConsole.Form
