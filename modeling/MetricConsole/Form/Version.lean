import MetricConsole.Catalog.Metric
import MetricConsole.Form.Field
import MetricConsole.Text.CommaList

/-!
# The form of a version

A new version needs a grain and a range of dates.  A change leaves out every field that is blank or
holds no date.
-/

namespace MetricConsole

open Text

/-- The fields of a version, as typed. -/
structure VersionForm where
  version : String
  status : String
  formulaSql : String
  formulaDsl : String
  grain : String
  dataSources : String
  effectiveFrom : String
  effectiveTo : String
  notes : String
  deriving DecidableEq, Repr

namespace VersionForm

/-- A draft without anything else. -/
def empty : VersionForm where
  version := ""
  status := word VersionStatus.draft
  formulaSql := ""
  formulaDsl := ""
  grain := ""
  dataSources := ""
  effectiveFrom := ""
  effectiveTo := ""
  notes := ""

/-- The form filled from a version. -/
def ofVersion (v : MetricVersion) : VersionForm where
  version := v.version.getD ""
  status := v.status
  formulaSql := v.formulaSql.getD ""
  formulaDsl := Form.dslText v.formulaDsl
  grain := CommaList.render v.grain
  dataSources := CommaList.render v.dataSources
  effectiveFrom := Date.fieldText v.effectiveFrom
  effectiveTo := Date.fieldText v.effectiveTo
  notes := v.notes.getD ""

/-- The range of dates in the form: both days, the first not after the last. -/
def range (f : VersionForm) : Except FormFault (Date × Date) :=
  match Date.ofField? f.effectiveFrom, Date.ofField? f.effectiveTo with
  | some first, some last => if last < first then .error .rangeReversed else .ok (first, last)
  | _, _ => .error .rangeMissing

/-- The columns of the grain, of which there must be one. -/
def grainItems (f : VersionForm) : Except FormFault (List String) :=
  match CommaList.parse f.grain with
  | some items => .ok items
  | none => .error (.missing "Grain")

/-- The new version that the form asks for. -/
def toCreate (f : VersionForm) : Except FormFault VersionCreate := do
  let grain ← f.grainItems
  let (first, last) ← f.range
  let formula ← Form.dsl f.formulaDsl
  return {
    version := nonBlank? f.version
    status := (nonBlank? f.status).getD (VersionCreate.plain grain first).status
    formulaSql := nonBlank? f.formulaSql
    formulaDsl := formula
    grain := grain
    dataSources := CommaList.parse f.dataSources
    notes := nonBlank? f.notes
    effectiveFrom := first
    effectiveTo := some last }

/-- The change that the form asks for: of every field what is not blank.  A date that is none is
left out, and the two days are not compared. -/
def toUpdate (f : VersionForm) : Except FormFault VersionPatch := do
  let formula ← Form.dsl f.formulaDsl
  return {
    version := nonBlank? f.version
    status := nonBlank? f.status
    formulaSql := nonBlank? f.formulaSql
    formulaDsl := formula
    grain := CommaList.parse f.grain
    dataSources := CommaList.parse f.dataSources
    notes := nonBlank? f.notes
    effectiveFrom := Date.ofField? f.effectiveFrom
    effectiveTo := Date.ofField? f.effectiveTo }

end VersionForm

end MetricConsole
