import MetricConsole.Catalog.Caliber
import MetricConsole.Form.Field

/-!
# The form of a caliber

The code identifies a caliber and never changes.
-/

namespace MetricConsole

open Text

/-- The fields of a caliber, as typed. -/
structure CaliberForm where
  code : String
  name : String
  category : String
  exprSql : String
  exprDsl : String
  valueFormat : String
  unitOverride : String
  notes : String
  deriving DecidableEq, Repr

namespace CaliberForm

/-- A filter without anything else. -/
def empty : CaliberForm where
  code := ""
  name := ""
  category := word CaliberCategory.filter
  exprSql := ""
  exprDsl := ""
  valueFormat := ""
  unitOverride := ""
  notes := ""

/-- The form filled from a caliber. -/
def ofCaliber (c : Caliber) : CaliberForm where
  code := c.code
  name := c.name
  category := c.category
  exprSql := c.exprSql.getD ""
  exprDsl := Form.dslText c.exprDsl
  valueFormat := c.valueFormat.getD ""
  unitOverride := c.unitOverride.getD ""
  notes := c.notes.getD ""

/-- The new caliber that the form asks for. -/
def toCreate (f : CaliberForm) : Except FormFault CaliberCreate := do
  let code ← Form.required "Code" f.code
  let name ← Form.required "Name" f.name
  let category ← Form.required "Category" f.category
  let expr ← Form.dsl f.exprDsl
  return {
    code := code
    name := name
    category := category
    exprDsl := expr
    exprSql := nonBlank? f.exprSql
    valueFormat := nonBlank? f.valueFormat
    unitOverride := nonBlank? f.unitOverride
    notes := nonBlank? f.notes }

/-- The change that the form asks for: the name and the category, which must not be blank, and of
the rest what is not blank.  The code is not looked at. -/
def toUpdate (f : CaliberForm) : Except FormFault CaliberPatch := do
  let name ← Form.required "Name" f.name
  let category ← Form.required "Category" f.category
  let expr ← Form.dsl f.exprDsl
  return {
    name := some name
    category := some category
    exprDsl := expr
    exprSql := nonBlank? f.exprSql
    valueFormat := nonBlank? f.valueFormat
    unitOverride := nonBlank? f.unitOverride
    notes := nonBlank? f.notes }

end CaliberForm

end MetricConsole
