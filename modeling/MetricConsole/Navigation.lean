import MetricConsole.Api.QueryString
import MetricConsole.Catalog.Vocabulary
import MetricConsole.Icon

/-!
# Navigation

One of a closed list of views is active, and a metric and a version of it may be selected.  A
version means nothing without the metric that has it, so every selection of a metric, even of the
same one, drops the selected version.
-/

namespace MetricConsole

/-- A view of the console. -/
inductive ViewKey where
  | dashboard
  | metricList
  | metricDetail
  | caliber
  | dimension
  | version
  | upload
  | jobs
  | system
  deriving DecidableEq, Repr

instance : Vocabulary ViewKey where
  all := [.dashboard, .metricList, .metricDetail, .caliber, .dimension, .version, .upload, .jobs,
    .system]
  word
    | .dashboard => "dashboard"
    | .metricList => "metric-list"
    | .metricDetail => "metric-detail"
    | .caliber => "caliber"
    | .dimension => "dimension"
    | .version => "version"
    | .upload => "upload"
    | .jobs => "jobs"
    | .system => "system"

namespace ViewKey

/-- The view with a word; every other word means the dashboard. -/
def ofWord (w : String) : ViewKey := (Vocabulary.ofWord? ViewKey w).getD .dashboard

/-- The name of a view in the menu. -/
def label : ViewKey → String
  | .dashboard => "Dashboard"
  | .metricList => "Metrics"
  | .metricDetail => "Metric detail"
  | .caliber => "Caliber library"
  | .dimension => "Dimensions"
  | .version => "Versions"
  | .upload => "Data upload"
  | .jobs => "Compute jobs"
  | .system => "System & access"

/-- The icon of a view in the menu. -/
def icon : ViewKey → Icon
  | .dashboard => .dashboard
  | .metricList => .list
  | .metricDetail => .profile
  | .caliber => .database
  | .dimension => .partition
  | .version => .layers
  | .upload => .upload
  | .jobs => .calendar
  | .system => .settings

end ViewKey

/-- What is active and selected, and whether the menu is open. -/
structure Navigation where
  view : ViewKey
  metricId : Option Int64
  versionId : Option Int64
  leftOpen : Bool
  deriving DecidableEq, Repr

/-- A change of navigation. -/
inductive NavAction where
  | show (view : ViewKey)
  | selectMetric (id : Option Int64)
  | selectVersion (id : Option Int64)
  | openMetric (id : Int64)
  | backToList
  | toggleLeft
  | readLocation (search : String)
  deriving DecidableEq, Repr

namespace Navigation

/-- The dashboard, nothing selected, the menu open. -/
def initial : Navigation := ⟨.dashboard, none, none, true⟩

/-- The view that the address of the page asks for. -/
def linkedView? (search : String) : Option ViewKey :=
  (QueryString.parameter? search "view").map ViewKey.ofWord

/-- The navigation after a change. -/
def apply (n : Navigation) : NavAction → Navigation
  | .show view => { n with view := view }
  | .selectMetric id => { n with metricId := id, versionId := none }
  | .selectVersion id => { n with versionId := id }
  | .openMetric id => { n with view := .metricDetail, metricId := some id, versionId := none }
  | .backToList => { n with view := .metricList, metricId := none, versionId := none }
  | .toggleLeft => { n with leftOpen := !n.leftOpen }
  | .readLocation search => { n with view := (linkedView? search).getD n.view }

end Navigation

end MetricConsole
