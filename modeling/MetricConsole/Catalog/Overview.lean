import MetricConsole.Json.Layout

/-!
# The overview

The counts, the task summary and the latest uploads of the first page.
-/

namespace MetricConsole

/-- The number of metrics, and of sensitive ones among them. -/
structure RegisteredMetrics where
  total : Int64
  sensitive : Int64
  deriving DecidableEq, Repr

/-- The number of active versions, and of those released this week. -/
structure ActiveVersions where
  total : Int64
  releasedThisWeek : Int64
  deriving DecidableEq, Repr

/-- The number of jobs of yesterday, and of failed ones among them. -/
structure YesterdayJobs where
  total : Int64
  failed : Int64
  deriving DecidableEq, Repr

/-- The number of recent uploads, and of those not yet processed. -/
structure RecentUploads where
  total : Int64
  processing : Int64
  deriving DecidableEq, Repr

/-- The counts of the overview. -/
structure OverviewStats where
  registeredMetrics : RegisteredMetrics
  activeVersions : ActiveVersions
  yesterdayJobs : YesterdayJobs
  recentUploads : RecentUploads
  deriving DecidableEq, Repr

/-- A heading and a text on the tasks. -/
structure TaskSummary where
  title : String
  description : String
  deriving DecidableEq, Repr

/-- An uploaded file. -/
structure UploadBatch where
  batchId : String
  source : String
  filename : String
  status : String
  deriving DecidableEq, Repr

/-- What the first page shows. -/
structure Overview where
  stats : OverviewStats
  taskSummary : TaskSummary
  uploads : List UploadBatch
  deriving DecidableEq, Repr

/-- The two counts of metrics under their names; neither has a default. -/
@[reducible]
def RegisteredMetrics.layout : Layout RegisteredMetrics RegisteredMetrics :=
  Layout.make RegisteredMetrics.mk
    |>.required "total" RegisteredMetrics.total
    |>.required "sensitive" RegisteredMetrics.sensitive

instance : Codec RegisteredMetrics := RegisteredMetrics.layout.codec

/-- The two counts of active versions. -/
@[reducible]
def ActiveVersions.layout : Layout ActiveVersions ActiveVersions :=
  Layout.make ActiveVersions.mk
    |>.required "total" ActiveVersions.total
    |>.required "releasedThisWeek" ActiveVersions.releasedThisWeek

instance : Codec ActiveVersions := ActiveVersions.layout.codec

/-- The two counts of jobs. -/
@[reducible]
def YesterdayJobs.layout : Layout YesterdayJobs YesterdayJobs :=
  Layout.make YesterdayJobs.mk
    |>.required "total" YesterdayJobs.total
    |>.required "failed" YesterdayJobs.failed

instance : Codec YesterdayJobs := YesterdayJobs.layout.codec

/-- The two counts of uploads. -/
@[reducible]
def RecentUploads.layout : Layout RecentUploads RecentUploads :=
  Layout.make RecentUploads.mk
    |>.required "total" RecentUploads.total
    |>.required "processing" RecentUploads.processing

instance : Codec RecentUploads := RecentUploads.layout.codec

/-- The four pairs of counts, each a record of its own. -/
@[reducible]
def OverviewStats.layout : Layout OverviewStats OverviewStats :=
  Layout.make OverviewStats.mk
    |>.required "registeredMetrics" OverviewStats.registeredMetrics
    |>.required "activeVersions" OverviewStats.activeVersions
    |>.required "yesterdayJobs" OverviewStats.yesterdayJobs
    |>.required "recentUploads" OverviewStats.recentUploads

instance : Codec OverviewStats := OverviewStats.layout.codec

/-- The heading and the text. -/
@[reducible]
def TaskSummary.layout : Layout TaskSummary TaskSummary :=
  Layout.make TaskSummary.mk
    |>.required "title" TaskSummary.title
    |>.required "description" TaskSummary.description

instance : Codec TaskSummary := TaskSummary.layout.codec

/-- The fields of a file; its status is a text like any other. -/
@[reducible]
def UploadBatch.layout : Layout UploadBatch UploadBatch :=
  Layout.make UploadBatch.mk
    |>.required "batchId" UploadBatch.batchId
    |>.required "source" UploadBatch.source
    |>.required "filename" UploadBatch.filename
    |>.required "status" UploadBatch.status

instance : Codec UploadBatch := UploadBatch.layout.codec

/-- The counts, the summary and the uploads; without a list of uploads there are none. -/
@[reducible]
def Overview.layout : Layout Overview Overview :=
  Layout.make Overview.mk
    |>.required "stats" Overview.stats
    |>.required "taskSummary" Overview.taskSummary
    |>.defaulted "uploads" Overview.uploads []

instance : Codec Overview := Overview.layout.codec

end MetricConsole
