import MetricConsole.Api.Request
import MetricConsole.Catalog.Dimension
import MetricConsole.Catalog.Metric
import MetricConsole.Text.Quoted

/-!
# Query keys

A key names one answer of the catalog: a resource and the parameters that select from it.  Keys with
equal parameters are one key.  An invalidation names the keys whose answers may have changed.
-/

namespace MetricConsole

open Text

/-- A family of keys. -/
inductive Resource where
  | dashboardOverview
  | metricSummary
  | metricList
  | metricDetail
  | metricVersions
  | calibers
  | versionCalibers
  | dimension
  deriving DecidableEq, Repr

instance : Vocabulary Resource where
  all := [.dashboardOverview, .metricSummary, .metricList, .metricDetail, .metricVersions,
    .calibers, .versionCalibers, .dimension]
  word
    | .dashboardOverview => "dashboard-overview"
    | .metricSummary => "metric-summary"
    | .metricList => "metric-list"
    | .metricDetail => "metric-detail"
    | .metricVersions => "metric-versions"
    | .calibers => "calibers"
    | .versionCalibers => "version-calibers"
    | .dimension => "dimension"

/-- What an answer of the catalog is an answer to. -/
inductive QueryKey where
  | dashboardOverview
  | metricSummary
  | metricList (filters : MetricFilters)
  | metricDetail (id : Int64)
  | metricVersions (id : Int64)
  | calibers
  | versionCalibers (metricId versionId : Int64)
  | dimension (kind : DimensionKind) (filter : DimensionFilter)
  deriving DecidableEq, Repr

/-- The decimal text of an id. -/
def idText (id : Int64) : String := Integer.render id.toInt

/-- The path of the bindings of a version. -/
def bindingsPath (metricId versionId : Int64) : String :=
  "metrics/" ++ idText metricId ++ "/versions/" ++ idText versionId ++ "/calibers"

namespace QueryKey

/-- The family of a key. -/
def resource : QueryKey → Resource
  | .dashboardOverview => .dashboardOverview
  | .metricSummary => .metricSummary
  | .metricList _ => .metricList
  | .metricDetail _ => .metricDetail
  | .metricVersions _ => .metricVersions
  | .calibers => .calibers
  | .versionCalibers _ _ => .versionCalibers
  | .dimension _ _ => .dimension

/-- The request whose answer belongs to a key. -/
def request : QueryKey → Request
  | .dashboardOverview => .get "dashboard/overview"
  | .metricSummary => .get "metrics/summary"
  | .metricList filters => (Request.get "metrics").withParameters filters.parameters
  | .metricDetail id => .get ("metrics/" ++ idText id)
  | .metricVersions id => .get ("metrics/" ++ idText id ++ "/versions")
  | .calibers => .get "calibers"
  | .versionCalibers metricId versionId => .get (bindingsPath metricId versionId)
  | .dimension kind filter =>
    (Request.get ("dimensions/" ++ kind.collection)).withParameters filter.parameters

/-- The text of filters inside the text of a key. -/
def filtersText (f : MetricFilters) : String :=
  "MetricListFilters \x7b keyword: " ++ Quoted.quoteOption f.keyword ++
    ", subject_area: " ++ Quoted.quoteOption f.subjectArea ++
    ", sensitivity: " ++ Quoted.quoteOption f.sensitivity ++ " \x7d"

/-- The text of a key: its family and its parameters. -/
def text (k : QueryKey) : String :=
  match k with
  | .metricList filters => word k.resource ++ filtersText filters
  | .metricDetail id | .metricVersions id => word k.resource ++ "(" ++ idText id ++ ")"
  | .versionCalibers metricId versionId =>
    word k.resource ++ "(" ++ idText metricId ++ ", " ++ idText versionId ++ ")"
  | .dimension kind filter =>
    word k.resource ++ "-" ++ kind.collection ++ "(" ++ Quoted.quoteOption filter.keyword ++ ")"
  | _ => word k.resource

end QueryKey

/-- Which keys may have new answers: all of a family, or one. -/
inductive Invalidation where
  | resource (family : Resource)
  | key (k : QueryKey)
  deriving DecidableEq, Repr

/-- The key is among those that an invalidation names. -/
def Invalidation.matches : Invalidation → QueryKey → Bool
  | .resource family, k => k.resource == family
  | .key k', k => k' == k

end MetricConsole
