import MetricConsole.Json.Fault

/-!
# Faults of forms

Why the text in the fields of a form is refused.
-/

namespace MetricConsole

/-- Why a form is refused. -/
inductive FormFault where
  | missing (field : String)
  | rangeMissing
  | rangeReversed
  | caliberMissing
  | badOrder
  | badDsl (text : String) (fault : Json.Fault)
  deriving DecidableEq

/-- The text of a notice on the page. -/
def FormFault.message : FormFault → String
  | .missing field => field ++ " is required"
  | .rangeMissing => "Effective range is required"
  | .rangeReversed => "Effective range ends before it starts"
  | .caliberMissing => "Select a caliber"
  | .badOrder => "Order must be a non-negative integer"
  | .badDsl text fault => "DSL JSON is invalid: " ++ fault.message text

end MetricConsole
