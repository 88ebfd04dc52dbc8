import MetricConsole.Page.CaliberLibrary
import MetricConsole.Page.Dashboard
import MetricConsole.Page.Dimensions
import MetricConsole.Page.MetricDetail
import MetricConsole.Page.MetricList
import MetricConsole.Page.Placeholder
import MetricConsole.Page.Versions

/-!
# Pages

Every view has a page.  A page looks at keys, follows what it sees there and in the navigation,
shows tokens, and answers to the messages of its controls and to the results of its writes.
-/

namespace MetricConsole

/-- The page of a view, with its state. -/
inductive Page where
  | dashboard (s : Page.Dashboard.State)
  | metricList (s : Page.MetricList.State)
  | metricDetail (s : Page.MetricDetail.State)
  | caliberLibrary (s : Page.CaliberLibrary.State)
  | dimensions (s : Page.Dimensions.State)
  | versions (s : Page.Versions.State)
  | placeholder (view : ViewKey)
  deriving DecidableEq, Repr

namespace Page

/-- What the controls of the pages send. -/
inductive Msg where
  | dashboard (m : Dashboard.Msg)
  | metricList (m : MetricList.Msg)
  | metricDetail (m : MetricDetail.Msg)
  | caliberLibrary (m : CaliberLibrary.Msg)
  | dimensions (m : Dimensions.Msg)
  | versions (m : Versions.Msg)
  deriving DecidableEq, Repr

/-- What the writes of the pages are for. -/
inductive Job where
  | metricList (j : MetricList.Job)
  | metricDetail (j : MetricDetail.Job)
  | caliberLibrary (j : CaliberLibrary.Job)
  | versions (j : Versions.Job)
  deriving DecidableEq, Repr

/-- The page of a view when it is first shown. -/
def ofView : ViewKey → Page
  | .dashboard => .dashboard Dashboard.initial
  | .metricList => .metricList MetricList.initial
  | .metricDetail => .metricDetail MetricDetail.initial
  | .caliber => .caliberLibrary CaliberLibrary.initial
  | .dimension => .dimensions Dimensions.initial
  | .version => .versions Versions.initial
  | .upload => .placeholder .upload
  | .jobs => .placeholder .jobs
  | .system => .placeholder .system

/-- The view that a page belongs to. -/
def viewKey : Page → ViewKey
  | .dashboard _ => .dashboard
  | .metricList _ => .metricList
  | .metricDetail _ => .metricDetail
  | .caliberLibrary _ => .caliber
  | .dimensions _ => .dimension
  | .versions _ => .version
  | .placeholder view => view

/-- The keys that a page looks at, one for each of its hooks. -/
def keys (scene : Scene) : Page → List (Option QueryKey)
  | .dashboard _ => Dashboard.keys
  | .metricList s => MetricList.keys s
  | .metricDetail _ => MetricDetail.keys scene
  | .caliberLibrary _ => CaliberLibrary.keys
  | .dimensions s => Dimensions.keys s
  | .versions _ => Versions.keys scene
  | .placeholder _ => []

/-- The page after the scene has changed, and the change of navigation that follows from it. -/
def sync (navigated : Bool) (scene : Scene) : Page → Page × Option NavAction
  | .dashboard s => (.dashboard (Dashboard.sync scene s), none)
  | .metricList s => (.metricList (MetricList.sync scene s), none)
  | .metricDetail s => (.metricDetail (MetricDetail.sync scene s), none)
  | .caliberLibrary s => (.caliberLibrary (CaliberLibrary.sync scene s), none)
  | .dimensions s => (.dimensions (Dimensions.sync scene s), none)
  | .versions s => let (s, action) := Versions.sync navigated scene s; (.versions s, action)
  | .placeholder view => (.placeholder view, none)

/-- What a page shows. -/
def view (scene : Scene) : Page → Tokens Msg
  | .dashboard s => (Dashboard.view scene s).map (Token.map .dashboard)
  | .metricList s => (MetricList.view scene s).map (Token.map .metricList)
  | .metricDetail s => (MetricDetail.view scene s).map (Token.map .metricDetail)
  | .caliberLibrary s => (CaliberLibrary.view scene s).map (Token.map .caliberLibrary)
  | .dimensions s => (Dimensions.view scene s).map (Token.map .dimensions)
  | .versions s => (Versions.view scene s).map (Token.map .versions)
  | .placeholder view => Placeholder.view view.label

/-- What a message does; a page passes over the messages of another. -/
def update (scene : Scene) : Page → Msg → Page × List (Command Job)
  | .dashboard s, .dashboard m => (.dashboard s, Dashboard.update m)
  | .metricList s, .metricList m =>
    let (s, cs) := MetricList.update s m
    (.metricList s, cs.map (Command.map .metricList))
  | .metricDetail s, .metricDetail m =>
    let (s, cs) := MetricDetail.update scene s m
    (.metricDetail s, cs.map (Command.map .metricDetail))
  | .caliberLibrary s, .caliberLibrary m =>
    let (s, cs) := CaliberLibrary.update s m
    (.caliberLibrary s, cs.map (Command.map .caliberLibrary))
  | .dimensions s, .dimensions m => (.dimensions (Dimensions.update s m), [])
  | .versions s, .versions m =>
    let (s, cs) := Versions.update scene s m
    (.versions s, cs.map (Command.map .versions))
  | page, _ => (page, [])

/-- What the result of a write does; a page passes over the writes of another. -/
def finish (result : Except ApiError Json) : Page → Job → Page
  | .metricList s, .metricList j => .metricList (MetricList.finish s j result)
  | .metricDetail s, .metricDetail j => .metricDetail (MetricDetail.finish s j result)
  | .caliberLibrary s, .caliberLibrary j => .caliberLibrary (CaliberLibrary.finish s j result)
  | .versions s, .versions j => .versions (Versions.finish s j result)
  | page, _ => page

end Page

end MetricConsole
