import MetricConsole.Catalog.Shape
import MetricConsole.Query.Key

/-!
# Mutations

The writes of the catalog, each with its request and with the keys whose answers it may change.
-/

namespace MetricConsole

/-- A write. -/
inductive Mutation where
  | createMetric
  | updateMetric (id : Int64)
  | deleteMetric (id : Int64)
  | requestPublish (id : Int64)
  | createVersion (metricId : Int64)
  | updateVersion (metricId versionId : Int64)
  | deleteVersion (metricId versionId : Int64)
  | createCaliber
  | updateCaliber (id : Int64)
  | deleteCaliber (id : Int64)
  | createBinding (metricId versionId : Int64)
  | updateBinding (metricId versionId bindingId : Int64)
  | deleteBinding (metricId versionId bindingId : Int64)
  deriving DecidableEq, Repr

namespace Mutation

/-- The method of a write. -/
def method : Mutation → Method
  | .createMetric | .requestPublish _ | .createVersion _ | .createCaliber | .createBinding _ _ =>
    .post
  | .updateMetric _ | .updateVersion _ _ | .updateCaliber _ | .updateBinding _ _ _ => .patch
  | .deleteMetric _ | .deleteVersion _ _ | .deleteCaliber _ | .deleteBinding _ _ _ => .delete

/-- The path of a write. -/
def path : Mutation → String
  | .createMetric => "metrics"
  | .updateMetric id | .deleteMetric id => "metrics/" ++ idText id
  | .requestPublish id => "metrics/" ++ idText id ++ "/publish"
  | .createVersion metricId => "metrics/" ++ idText metricId ++ "/versions"
  | .updateVersion metricId versionId | .deleteVersion metricId versionId =>
    "metrics/" ++ idText metricId ++ "/versions/" ++ idText versionId
  | .createCaliber => "calibers"
  | .updateCaliber id | .deleteCaliber id => "calibers/" ++ idText id
  | .createBinding metricId versionId => bindingsPath metricId versionId
  | .updateBinding metricId versionId bindingId | .deleteBinding metricId versionId bindingId =>
    bindingsPath metricId versionId ++ "/" ++ idText bindingId

/-- The request of a write with a body. -/
def request (m : Mutation) (body : Option Json) : Request := ⟨m.method, m.path, none, body⟩

/-- The shape of the value with which the catalog confirms a write. -/
def shape : Mutation → Shape
  | .createMetric | .updateMetric _ | .requestPublish _ => .metric
  | .createVersion _ | .updateVersion _ _ => .version
  | .createCaliber | .updateCaliber _ => .caliber
  | .createBinding _ _ | .updateBinding _ _ _ => .binding
  | .deleteMetric _ | .deleteVersion _ _ | .deleteCaliber _ | .deleteBinding _ _ _ => .nothing

/-- What a write makes stale once the catalog has confirmed it. -/
def invalidations : Mutation → List Invalidation
  | .createMetric | .deleteMetric _ => [.resource .metricList, .resource .metricSummary]
  | .updateMetric id => [.resource .metricList, .key (.metricDetail id)]
  | .requestPublish id =>
    [.key (.metricDetail id), .key (.metricVersions id), .resource .metricList,
      .resource .metricSummary]
  | .createVersion metricId => [.key (.metricVersions metricId), .resource .metricList]
  | .updateVersion metricId _ => [.key (.metricVersions metricId), .key (.metricDetail metricId)]
  | .deleteVersion metricId _ =>
    [.key (.metricVersions metricId), .key (.metricDetail metricId), .resource .metricList,
      .resource .metricSummary]
  | .createCaliber | .updateCaliber _ | .deleteCaliber _ => [.resource .calibers]
  | .createBinding metricId versionId | .updateBinding metricId versionId _
  | .deleteBinding metricId versionId _ =>
    [.key (.versionCalibers metricId versionId), .key (.metricDetail metricId)]

/-- The key is stale after the write. -/
def invalidates (m : Mutation) (k : QueryKey) : Bool := m.invalidations.any (·.matches k)

end Mutation

end MetricConsole
