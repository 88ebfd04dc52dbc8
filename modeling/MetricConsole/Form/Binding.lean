import MetricConsole.Catalog.Caliber
import MetricConsole.Form.Field
import MetricConsole.Text.CommaList

/-!
# The form of a binding

A new binding names its caliber by the caliber's id.  A change can only say how the caliber is
applied.
-/

namespace MetricConsole

open Text

/-- The fields of a binding, as typed. -/
structure BindingForm where
  caliberId : String
  status : String
  orderIndex : String
  overrideExprSql : String
  overrideExprDsl : String
  overrideDataSources : String
  notes : String
  deriving DecidableEq, Repr

namespace BindingForm

/-- An active binding in the first place, of no caliber yet. -/
def empty : BindingForm where
  caliberId := ""
  status := word BindingStatus.active
  orderIndex := "0"
  overrideExprSql := ""
  overrideExprDsl := ""
  overrideDataSources := ""
  notes := ""

/-- The form filled from a binding. -/
def ofBinding (b : Binding) : BindingForm where
  caliberId := Integer.render b.caliberId.toInt
  status := b.status
  orderIndex := Integer.render b.orderIndex.toInt
  overrideExprSql := b.overrideExprSql.getD ""
  overrideExprDsl := Form.dslText b.overrideExprDsl
  overrideDataSources := CommaList.render b.overrideDataSources
  notes := b.notes.getD ""

/-- The id of the caliber in the form. -/
def selectedCaliber (f : BindingForm) : Except FormFault Int64 :=
  match Integer.parseInt64? (trim f.caliberId) with
  | some id => .ok id
  | none => .error .caliberMissing

/-- The new binding that the form asks for. -/
def toCreate (f : BindingForm) : Except FormFault BindingCreate := do
  let caliberId ← f.selectedCaliber
  let order ← Form.order f.orderIndex
  let expr ← Form.dsl f.overrideExprDsl
  return {
    caliberId := caliberId
    status := (nonBlank? f.status).getD (BindingCreate.plain caliberId order).status
    orderIndex := order
    overrideExprSql := nonBlank? f.overrideExprSql
    overrideExprDsl := expr
    overrideDataSources := CommaList.parse f.overrideDataSources
    notes := nonBlank? f.notes }

/-- The change that the form asks for: the order always, and of the rest what is not blank.  The
caliber is not looked at. -/
def toUpdate (f : BindingForm) : Except FormFault BindingPatch := do
  let order ← Form.order f.orderIndex
  let expr ← Form.dsl f.overrideExprDsl
  return {
    status := nonBlank? f.status
    orderIndex := some order
    overrideExprSql := nonBlank? f.overrideExprSql
    overrideExprDsl := expr
    overrideDataSources := CommaList.parse f.overrideDataSources
    notes := nonBlank? f.notes }

end BindingForm

end MetricConsole
