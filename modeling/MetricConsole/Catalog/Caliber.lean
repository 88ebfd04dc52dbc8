import MetricConsole.Catalog.Vocabulary
import MetricConsole.Json.Layout
import MetricConsole.Text.Integer

/-!
# Calibers and bindings

A caliber is a reusable rule: a filter, an aggregation or a calculation.  A binding applies a
caliber to one version of a metric, with optional overrides.  The records ending in `Create` and
`Patch` are the bodies of requests; a field left out of a patch stays as it is.
-/

namespace MetricConsole

/-- A reusable rule of the caliber library. -/
structure Caliber where
  id : Int64
  code : String
  name : String
  category : String
  exprDsl : Option Json
  exprSql : Option String
  valueFormat : Option String
  unitOverride : Option String
  notes : Option String
  createdAt : String
  deriving DecidableEq, Repr

namespace Caliber

/-- The fields of a caliber.  What is not set is written as `null` and may be left out by the
server. -/
@[reducible]
def layout : Layout Caliber Caliber :=
  Layout.make Caliber.mk
    |>.required "id" Caliber.id
    |>.required "code" Caliber.code
    |>.required "name" Caliber.name
    |>.required "category" Caliber.category
    |>.defaulted "expr_dsl" Caliber.exprDsl none
    |>.defaulted "expr_sql" Caliber.exprSql none
    |>.defaulted "value_format" Caliber.valueFormat none
    |>.defaulted "unit_override" Caliber.unitOverride none
    |>.defaulted "notes" Caliber.notes none
    |>.required "created_at" Caliber.createdAt

instance : Codec Caliber := layout.codec

/-- Code and name. -/
def label (c : Caliber) : String := c.code ++ " · " ++ c.name

end Caliber

/-- The body of a request for a new caliber. -/
structure CaliberCreate where
  code : String
  name : String
  category : String
  exprDsl : Option Json
  exprSql : Option String
  valueFormat : Option String
  unitOverride : Option String
  notes : Option String
  deriving DecidableEq, Repr

namespace CaliberCreate

/-- The fields of a new caliber; what is not given is left out of the body. -/
@[reducible]
def layout : Layout CaliberCreate CaliberCreate :=
  Layout.make CaliberCreate.mk
    |>.required "code" CaliberCreate.code
    |>.required "name" CaliberCreate.name
    |>.required "category" CaliberCreate.category
    |>.optional "expr_dsl" CaliberCreate.exprDsl
    |>.optional "expr_sql" CaliberCreate.exprSql
    |>.optional "value_format" CaliberCreate.valueFormat
    |>.optional "unit_override" CaliberCreate.unitOverride
    |>.optional "notes" CaliberCreate.notes

instance : Codec CaliberCreate := layout.codec

end CaliberCreate

/-- The body of a change to a caliber; its code never changes. -/
structure CaliberPatch where
  name : Option String
  category : Option String
  exprDsl : Option Json
  exprSql : Option String
  valueFormat : Option String
  unitOverride : Option String
  notes : Option String
  deriving DecidableEq, Repr

namespace CaliberPatch

/-- The fields that a change to a caliber may have; only those that it has are in the body. -/
@[reducible]
def layout : Layout CaliberPatch CaliberPatch :=
  Layout.make CaliberPatch.mk
    |>.optional "name" CaliberPatch.name
    |>.optional "category" CaliberPatch.category
    |>.optional "expr_dsl" CaliberPatch.exprDsl
    |>.optional "expr_sql" CaliberPatch.exprSql
    |>.optional "value_format" CaliberPatch.valueFormat
    |>.optional "unit_override" CaliberPatch.unitOverride
    |>.optional "notes" CaliberPatch.notes

instance : Codec CaliberPatch := layout.codec

end CaliberPatch

/-- A caliber applied to a version of a metric. -/
structure Binding where
  id : Int64
  versionId : Int64
  caliberId : Int64
  status : String
  orderIndex : Int32
  overrideExprSql : Option String
  overrideExprDsl : Option Json
  overrideDataSources : Option (List String)
  notes : Option String
  createdAt : String
  caliber : Option Caliber
  deriving DecidableEq, Repr

namespace Binding

/-- The fields of a binding.  The caliber itself comes along if the server sends it. -/
@[reducible]
def layout : Layout Binding Binding :=
  Layout.make Binding.mk
    |>.required "id" Binding.id
    |>.required "metric_version_id" Binding.versionId
    |>.required "caliber_id" Binding.caliberId
    |>.required "status" Binding.status
    |>.required "order_index" Binding.orderIndex
    |>.defaulted "override_expr_sql" Binding.overrideExprSql none
    |>.defaulted "override_expr_dsl" Binding.overrideExprDsl none
    |>.defaulted "override_data_sources" Binding.overrideDataSources none
    |>.defaulted "notes" Binding.notes none
    |>.required "created_at" Binding.createdAt
    |>.defaulted "caliber" Binding.caliber none

instance : Codec Binding := layout.codec

/-- The label of the caliber, or its id if the caliber is not given. -/
def caliberLabel (b : Binding) : String :=
  match b.caliber with
  | some c => c.label
  | none => "#" ++ Text.Integer.render b.caliberId.toInt ++ " · —"

end Binding

/-- The body of a request for a new binding. -/
structure BindingCreate where
  caliberId : Int64
  status : String
  orderIndex : Int32
  overrideExprSql : Option String
  overrideExprDsl : Option Json
  overrideDataSources : Option (List String)
  notes : Option String
  deriving DecidableEq, Repr

namespace BindingCreate

/-- The fields of a new binding; overrides that are not given are left out of the body. -/
@[reducible]
def layout : Layout BindingCreate BindingCreate :=
  Layout.make BindingCreate.mk
    |>.required "caliber_id" BindingCreate.caliberId
    |>.required "status" BindingCreate.status
    |>.required "order_index" BindingCreate.orderIndex
    |>.optional "override_expr_sql" BindingCreate.overrideExprSql
    |>.optional "override_expr_dsl" BindingCreate.overrideExprDsl
    |>.optional "override_data_sources" BindingCreate.overrideDataSources
    |>.optional "notes" BindingCreate.notes

instance : Codec BindingCreate := layout.codec

/-- An active binding without overrides. -/
def plain (caliberId : Int64) (orderIndex : Int32) : BindingCreate where
  caliberId := caliberId
  status := word BindingStatus.active
  orderIndex := orderIndex
  overrideExprSql := none
  overrideExprDsl := none
  overrideDataSources := none
  notes := none

end BindingCreate

/-- The body of a change to a binding; the caliber of a binding never changes. -/
structure BindingPatch where
  status : Option String
  orderIndex : Option Int32
  overrideExprSql : Option String
  overrideExprDsl : Option Json
  overrideDataSources : Option (List String)
  notes : Option String
  deriving DecidableEq, Repr

namespace BindingPatch

/-- The fields that a change to a binding may have; only those that it has are in the body. -/
@[reducible]
def layout : Layout BindingPatch BindingPatch :=
  Layout.make BindingPatch.mk
    |>.optional "status" BindingPatch.status
    |>.optional "order_index" BindingPatch.orderIndex
    |>.optional "override_expr_sql" BindingPatch.overrideExprSql
    |>.optional "override_expr_dsl" BindingPatch.overrideExprDsl
    |>.optional "override_data_sources" BindingPatch.overrideDataSources
    |>.optional "notes" BindingPatch.notes

instance : Codec BindingPatch := layout.codec

end BindingPatch

end MetricConsole
