import MetricConsole.Catalog.Overview
import MetricConsole.Page.Component
import MetricConsole.Page.Scene

/-!
# The dashboard

The counts of the catalog, a summary of the tasks and the latest uploads.
-/

namespace MetricConsole.Page.Dashboard

/-- The table of the uploads, whose rows stay as they are. -/
structure State where
  uploads : Option (Listing UploadBatch String)
  deriving DecidableEq, Repr

/-- What the two buttons send. -/
inductive Msg where
  | openMetrics
  | openUpload
  deriving DecidableEq, Repr

/-- No table of uploads yet. -/
def initial : State := ⟨none⟩

/-- The page looks at the overview. -/
def keys : List (Option QueryKey) := [some .dashboardOverview]

/-- The overview. -/
def overview? (scene : Scene) : Option Overview := scene.value? Overview (some .dashboardOverview)

/-- The page after the scene has changed. -/
def sync (scene : Scene) (s : State) : State :=
  let uploads := ((overview? scene).map Overview.uploads).getD []
  { s with uploads := Listing.follow UploadBatch.batchId (!uploads.isEmpty) uploads s.uploads }

/-- Both messages lead to another view, and the page itself does not change. -/
def update {κ : Type} : Msg → List (Command κ)
  | .openMetrics => [.navigate (.show .metricList)]
  | .openUpload => [.navigate (.show .upload)]

/-- A number before a word. -/
def counted (n : Int64) (s : String) : String := Text.Integer.render n.toInt ++ " " ++ s

/-- A text unless it is empty or not there. -/
def textOr (absent : String) (s : Option String) : String :=
  (s.filter (· ≠ "")).getD absent

/-- The cards with the counts. -/
def statCards {μ : Type} (stats : Option OverviewStats) : Tokens μ :=
  let count (f : OverviewStats → Int64) : Option Int64 := stats.map f
  let note (f : OverviewStats → Int64) (s : String) : Option String :=
    stats.map fun o => counted (f o) s
  let alarm (f : OverviewStats → Int64) (tone : Tone) : Tone :=
    if 0 < (count f).getD 0 then tone else .neutral
  statCard "Registered metrics" (some .database) (count (·.registeredMetrics.total))
      (note (·.registeredMetrics.sensitive) "sensitive") .neutral ++
    statCard "Active versions" (some .layers) (count (·.activeVersions.total))
      (note (·.activeVersions.releasedThisWeek) "released this week") .success ++
    statCard "Yesterday's jobs" (some .calendar) (count (·.yesterdayJobs.total))
      (note (·.yesterdayJobs.failed) "failed") (alarm (·.yesterdayJobs.failed) .error) ++
    statCard "Recent uploads" (some .upload) (count (·.recentUploads.total))
      (note (·.recentUploads.processing) "queued for processing")
      (alarm (·.recentUploads.processing) .warning)

/-- The row of an uploaded file. -/
def uploadRow {μ : Type} (u : UploadBatch) : Tokens μ :=
  tableRow false [say u.batchId, say u.source, say u.filename, [statusBadge u.status]]

/-- The heading, the counts, the summary of the tasks and the uploads. -/
def view (scene : Scene) (s : State) : Tokens Msg :=
  let snapshot := scene.see (some .dashboardOverview)
  let overview := overview? scene
  pageHeader "Overview" (some "Metric catalogue health at a glance.")
      [button .primary true "Open metric list" .openMetrics] ++
    queryStatus snapshot.isLoading snapshot.error loading ++
    statCards (overview.map Overview.stats) ++
    say (textOr "Task overview" (overview.map (·.taskSummary.title))) ++
    say (textOr "Job statistics will appear here." (overview.map (·.taskSummary.description))) ++
    say "Recent uploads" ++ [button .secondary true "New upload" .openUpload] ++
    table "No uploads yet" ["Batch", "Source", "File", "Status"] uploadRow s.uploads

end MetricConsole.Page.Dashboard
