import MetricConsole.Catalog.Dimension
import MetricConsole.Catalog.Metric
import MetricConsole.Catalog.Overview

/-!
# Shapes of answers

The shape that a reader of an answer expects.  `Shape.read?` reads a value in that shape and writes
it back, so that members that the shape does not know are gone.
-/

namespace MetricConsole

/-- The shape of an answer. -/
inductive Shape where
  | any
  | nothing
  | metric
  | metrics
  | summary
  | version
  | versions
  | caliber
  | calibers
  | binding
  | bindings
  | companies
  | products
  | channels
  | combos
  | overview
  deriving DecidableEq, Repr

namespace Shape

/-- The values of a shape. -/
def Value : Shape → Type
  | .any => Json
  | .nothing => Unit
  | .metric => Metric
  | .metrics => List Metric
  | .summary => MetricSummary
  | .version => MetricVersion
  | .versions => List MetricVersion
  | .caliber => Caliber
  | .calibers => List Caliber
  | .binding => Binding
  | .bindings => List Binding
  | .companies => List Company
  | .products => List Product
  | .channels => List Channel
  | .combos => List Combo
  | .overview => Overview

/-- How the values of a shape are written and read. -/
abbrev codec : (s : Shape) → Codec s.Value
  | .any => inferInstanceAs (Codec Json)
  | .nothing => inferInstanceAs (Codec Unit)
  | .metric => inferInstanceAs (Codec Metric)
  | .metrics => inferInstanceAs (Codec (List Metric))
  | .summary => inferInstanceAs (Codec MetricSummary)
  | .version => inferInstanceAs (Codec MetricVersion)
  | .versions => inferInstanceAs (Codec (List MetricVersion))
  | .caliber => inferInstanceAs (Codec Caliber)
  | .calibers => inferInstanceAs (Codec (List Caliber))
  | .binding => inferInstanceAs (Codec Binding)
  | .bindings => inferInstanceAs (Codec (List Binding))
  | .companies => inferInstanceAs (Codec (List Company))
  | .products => inferInstanceAs (Codec (List Product))
  | .channels => inferInstanceAs (Codec (List Channel))
  | .combos => inferInstanceAs (Codec (List Combo))
  | .overview => inferInstanceAs (Codec Overview)

/-- The value in the shape, if it has it, written back. -/
def read? (s : Shape) (j : Json) : Option Json :=
  (s.codec.decode? j).map s.codec.encode

end Shape

end MetricConsole
