import MetricConsole.Catalog.Caliber
import MetricConsole.Text.Absent
import MetricConsole.Text.Blank

/-!
# Metrics and versions

A metric has versions, the latest first; a version has a formula, a grain, data sources, a range of
dates in which it is effective, and bindings of calibers.  `MetricFilters` selects metrics; build it
with `MetricFilters.normalized`, so that two ways of asking for the same metrics are one value.
-/

namespace MetricConsole

/-- A version of a metric. -/
structure MetricVersion where
  id : Int64
  metricId : Int64
  version : Option String
  status : String
  formulaSql : Option String
  formulaDsl : Option Json
  grain : Option (List String)
  dataSources : Option (List String)
  notes : Option String
  effectiveFrom : Option Date
  effectiveTo : Option Date
  subjectArea : Option String
  createdAt : String
  bindings : List Binding
  deriving DecidableEq, Repr

namespace MetricVersion

/-- The fields of a version.  What is not set is written as `null` and may be left out by the
server, as may the bindings. -/
@[reducible]
def layout : Layout MetricVersion MetricVersion :=
  Layout.make MetricVersion.mk
    |>.required "id" MetricVersion.id
    |>.required "metric_id" MetricVersion.metricId
    |>.defaulted "version" MetricVersion.version none
    |>.required "status" MetricVersion.status
    |>.defaulted "formula_sql" MetricVersion.formulaSql none
    |>.defaulted "formula_dsl" MetricVersion.formulaDsl none
    |>.defaulted "grain" MetricVersion.grain none
    |>.defaulted "data_sources" MetricVersion.dataSources none
    |>.defaulted "notes" MetricVersion.notes none
    |>.defaulted "effective_from" MetricVersion.effectiveFrom none
    |>.defaulted "effective_to" MetricVersion.effectiveTo none
    |>.defaulted "subject_area" MetricVersion.subjectArea none
    |>.required "created_at" MetricVersion.createdAt
    |>.defaulted "calibers" MetricVersion.bindings []

instance : Codec MetricVersion := layout.codec

/-- The first and the last day of a version, a dash for one that is not set. -/
def effectiveRangeLabel (v : MetricVersion) : String :=
  Text.orAbsent (v.effectiveFrom.map Date.text) ++ " → " ++
    Text.orAbsent (v.effectiveTo.map Date.text)

/-- The grain, with slashes between its columns, or a dash if it has none. -/
def grainLabel (v : MetricVersion) : String :=
  match v.grain with
  | some (g :: gs) => " / ".intercalate (g :: gs)
  | _ => Text.absent

/-- The name of a version, or its id if it has none. -/
def label (v : MetricVersion) : String :=
  v.version.getD ("#" ++ Text.Integer.render v.id.toInt)

end MetricVersion

/-- A metric with its versions, the latest first. -/
structure Metric where
  id : Int64
  code : String
  name : String
  kind : String
  unit : Option String
  subjectArea : Option String
  owner : Option String
  sensitivity : String
  description : Option String
  createdBy : Option String
  updatedBy : Option String
  createdAt : String
  updatedAt : String
  versions : List MetricVersion
  deriving DecidableEq, Repr

namespace Metric

/-- The fields of a metric.  What is not set is written as `null` and may be left out by the server,
as may the versions. -/
@[reducible]
def layout : Layout Metric Metric :=
  Layout.make Metric.mk
    |>.required "id" Metric.id
    |>.required "code" Metric.code
    |>.required "name" Metric.name
    |>.required "type" Metric.kind
    |>.defaulted "unit" Metric.unit none
    |>.defaulted "subject_area" Metric.subjectArea none
    |>.defaulted "owner" Metric.owner none
    |>.required "sensitivity" Metric.sensitivity
    |>.defaulted "description" Metric.description none
    |>.defaulted "created_by" Metric.createdBy none
    |>.defaulted "updated_by" Metric.updatedBy none
    |>.required "created_at" Metric.createdAt
    |>.required "updated_at" Metric.updatedAt
    |>.defaulted "versions" Metric.versions []

instance : Codec Metric := layout.codec

/-- The name and the status of the latest version, or a dash. -/
def currentVersionLabel (m : Metric) : String :=
  match m.versions with
  | v :: _ => Text.orAbsent v.version ++ " · " ++ v.status
  | [] => Text.absent

/-- The metric counts as sensitive. -/
def isSensitive (m : Metric) : Bool := Sensitivity.isSensitive m.sensitivity

/-- Code and name. -/
def label (m : Metric) : String := m.code ++ " · " ++ m.name

end Metric

/-- Counts over all metrics. -/
structure MetricSummary where
  totalMetrics : Int64
  sensitiveMetrics : Int64
  activeVersions : Int64
  draftVersions : Int64
  deriving DecidableEq, Repr

namespace MetricSummary

/-- The four counts, all of which must be there. -/
@[reducible]
def layout : Layout MetricSummary MetricSummary :=
  Layout.make MetricSummary.mk
    |>.required "total_metrics" MetricSummary.totalMetrics
    |>.required "sensitive_metrics" MetricSummary.sensitiveMetrics
    |>.required "active_versions" MetricSummary.activeVersions
    |>.required "draft_versions" MetricSummary.draftVersions

instance : Codec MetricSummary := layout.codec

/-- The counts of an empty catalog. -/
def zero : MetricSummary := ⟨0, 0, 0, 0⟩

end MetricSummary

/-! ## Filters -/

/-- Which metrics a list shows; an absent field does not restrict it. -/
structure MetricFilters where
  keyword : Option String
  subjectArea : Option String
  sensitivity : Option String
  deriving DecidableEq, Repr

namespace MetricFilters

/-- The parameters of a list of metrics, which are also those of its address. -/
@[reducible]
def layout : Layout MetricFilters MetricFilters :=
  Layout.make MetricFilters.mk
    |>.optional "keyword" MetricFilters.keyword
    |>.optional "subject_area" MetricFilters.subjectArea
    |>.optional "sensitivity" MetricFilters.sensitivity

instance : Codec MetricFilters := layout.codec

/-- The filters that let every metric through. -/
def none : MetricFilters := ⟨.none, .none, .none⟩

/-- The word with which a selector does not restrict. -/
def all : String := "all"

/-- What a selector asks for: nothing if it is blank or the word for all. -/
def selector (s : String) : Option String :=
  (Text.nonBlank? s).filter (· ≠ all)

/-- The filters for the texts of a keyword field and two selectors. -/
def normalized (keyword subjectArea sensitivity : String) : MetricFilters where
  keyword := Text.nonBlank? keyword
  subjectArea := selector subjectArea
  sensitivity := selector sensitivity

/-- No field restricts. -/
def isEmpty (f : MetricFilters) : Bool :=
  f.keyword.isNone && f.subjectArea.isNone && f.sensitivity.isNone

/-- The parameters of the filters, in the order of the fields. -/
def parameters (f : MetricFilters) : List (String × String) :=
  (f.keyword.toList.map ("keyword", ·)) ++ (f.subjectArea.toList.map ("subject_area", ·)) ++
    (f.sensitivity.toList.map ("sensitivity", ·))

end MetricFilters

/-! ## Bodies of requests -/

/-- The body of a request for a new version. -/
structure VersionCreate where
  version : Option String
  status : String
  formulaSql : Option String
  formulaDsl : Option Json
  grain : List String
  dataSources : Option (List String)
  notes : Option String
  effectiveFrom : Date
  effectiveTo : Option Date
  deriving DecidableEq, Repr

namespace VersionCreate

/-- The fields of a new version; what is not given is left out of the body. -/
@[reducible]
def layout : Layout VersionCreate VersionCreate :=
  Layout.make VersionCreate.mk
    |>.optional "version" VersionCreate.version
    |>.required "status" VersionCreate.status
    |>.optional "formula_sql" VersionCreate.formulaSql
    |>.optional "formula_dsl" VersionCreate.formulaDsl
    |>.required "grain" VersionCreate.grain
    |>.optional "data_sources" VersionCreate.dataSources
    |>.optional "notes" VersionCreate.notes
    |>.required "effective_from" VersionCreate.effectiveFrom
    |>.optional "effective_to" VersionCreate.effectiveTo

instance : Codec VersionCreate := layout.codec

/-- A draft with a grain and a first day. -/
def plain (grain : List String) (effectiveFrom : Date) : VersionCreate where
  version := none
  status := word VersionStatus.draft
  formulaSql := none
  formulaDsl := none
  grain := grain
  dataSources := none
  notes := none
  effectiveFrom := effectiveFrom
  effectiveTo := none

end VersionCreate

/-- The body of a request for a new metric with its first version. -/
structure MetricCreate where
  code : String
  name : String
  kind : String
  unit : Option String
  subjectArea : Option String
  owner : Option String
  sensitivity : String
  description : Option String
  createdBy : Option String
  updatedBy : Option String
  initialVersion : VersionCreate
  deriving DecidableEq, Repr

namespace MetricCreate

/-- The fields of a new metric, with its first version as a record of its own. -/
@[reducible]
def layout : Layout MetricCreate MetricCreate :=
  Layout.make MetricCreate.mk
    |>.required "code" MetricCreate.code
    |>.required "name" MetricCreate.name
    |>.required "type" MetricCreate.kind
    |>.optional "unit" MetricCreate.unit
    |>.optional "subject_area" MetricCreate.subjectArea
    |>.optional "owner" MetricCreate.owner
    |>.required "sensitivity" MetricCreate.sensitivity
    |>.optional "description" MetricCreate.description
    |>.optional "created_by" MetricCreate.createdBy
    |>.optional "updated_by" MetricCreate.updatedBy
    |>.required "initial_version" MetricCreate.initialVersion

instance : Codec MetricCreate := layout.codec

end MetricCreate

/-- The body of a change to the basic fields of a metric. -/
structure MetricPatch where
  name : Option String
  kind : Option String
  description : Option String
  unit : Option String
  subjectArea : Option String
  owner : Option String
  sensitivity : Option String
  updatedBy : Option String
  deriving DecidableEq, Repr

namespace MetricPatch

/-- The fields that a change to a metric may have; only those that it has are in the body. -/
@[reducible]
def layout : Layout MetricPatch MetricPatch :=
  Layout.make MetricPatch.mk
    |>.optional "name" MetricPatch.name
    |>.optional "type" MetricPatch.kind
    |>.optional "description" MetricPatch.description
    |>.optional "unit" MetricPatch.unit
    |>.optional "subject_area" MetricPatch.subjectArea
    |>.optional "owner" MetricPatch.owner
    |>.optional "sensitivity" MetricPatch.sensitivity
    |>.optional "updated_by" MetricPatch.updatedBy

instance : Codec MetricPatch := layout.codec

end MetricPatch

/-- The body of a change to a version. -/
structure VersionPatch where
  version : Option String
  status : Option String
  formulaSql : Option String
  formulaDsl : Option Json
  grain : Option (List String)
  dataSources : Option (List String)
  notes : Option String
  effectiveFrom : Option Date
  effectiveTo : Option Date
  deriving DecidableEq, Repr

namespace VersionPatch

/-- The fields that a change to a version may have; only those that it has are in the body. -/
@[reducible]
def layout : Layout VersionPatch VersionPatch :=
  Layout.make VersionPatch.mk
    |>.optional "version" VersionPatch.version
    |>.optional "status" VersionPatch.status
    |>.optional "formula_sql" VersionPatch.formulaSql
    |>.optional "formula_dsl" VersionPatch.formulaDsl
    |>.optional "grain" VersionPatch.grain
    |>.optional "data_sources" VersionPatch.dataSources
    |>.optional "notes" VersionPatch.notes
    |>.optional "effective_from" VersionPatch.effectiveFrom
    |>.optional "effective_to" VersionPatch.effectiveTo

instance : Codec VersionPatch := layout.codec

end VersionPatch

end MetricConsole
