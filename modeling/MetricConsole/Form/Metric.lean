import MetricConsole.Form.Version

/-!
# The form of a metric

The basic fields of a metric.  A new metric also has a first version, with a form of its own.  The
code of a metric is given once and never changes.
-/

namespace MetricConsole

open Text

/-- The basic fields of a metric, as typed. -/
structure MetricForm where
  code : String
  name : String
  kind : String
  unit : String
  subjectArea : String
  owner : String
  sensitivity : String
  description : String
  deriving DecidableEq, Repr

namespace MetricForm

/-- The fields of a metric without anything but the usual sensitivity. -/
def empty : MetricForm where
  code := ""
  name := ""
  kind := ""
  unit := ""
  subjectArea := ""
  owner := ""
  sensitivity := word Sensitivity.normal
  description := ""

/-- The form filled from a metric. -/
def ofMetric (m : Metric) : MetricForm where
  code := m.code
  name := m.name
  kind := m.kind
  unit := m.unit.getD ""
  subjectArea := m.subjectArea.getD ""
  owner := m.owner.getD ""
  sensitivity := m.sensitivity
  description := m.description.getD ""

/-- The new metric that the form and the form of its first version ask for. -/
def toCreate (f : MetricForm) (version : VersionForm) : Except FormFault MetricCreate := do
  let code ← Form.required "Code" f.code
  let name ← Form.required "Name" f.name
  let kind ← Form.required "Type" f.kind
  let version ← version.toCreate
  return {
    code := code
    name := name
    kind := kind
    unit := nonBlank? f.unit
    subjectArea := nonBlank? f.subjectArea
    owner := nonBlank? f.owner
    sensitivity := (nonBlank? f.sensitivity).getD (word Sensitivity.normal)
    description := nonBlank? f.description
    createdBy := none
    updatedBy := none
    initialVersion := version }

/-- The change that the form asks for: the name and the type, which must not be blank, and of the
rest what is not blank.  The code is not looked at. -/
def toUpdate (f : MetricForm) : Except FormFault MetricPatch := do
  let name ← Form.required "Name" f.name
  let kind ← Form.required "Type" f.kind
  return {
    name := some name
    kind := some kind
    description := nonBlank? f.description
    unit := nonBlank? f.unit
    subjectArea := nonBlank? f.subjectArea
    owner := nonBlank? f.owner
    sensitivity := nonBlank? f.sensitivity
    updatedBy := none }

end MetricForm

end MetricConsole
