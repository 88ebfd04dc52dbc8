import MetricConsole.Form.Metric
import MetricConsole.Page.Component
import MetricConsole.Page.Scene

/-!
# The list of metrics

The metrics that the filters let through, with dialogs to make a new metric and to delete one.
-/

namespace MetricConsole.Page.MetricList

/-- What a row is kept by: it stays as it is for as long as a metric has these. -/
structure RowKey where
  id : Int64
  updatedAt : String
  versionCount : Nat
  deriving DecidableEq, Repr

/-- The filters, the dialogs, the entries for the subject area, and the table. -/
structure State where
  keyword : String
  subjectArea : String
  sensitivity : String
  createOpen : Bool
  metricForm : MetricForm
  versionForm : VersionForm
  createError : Option String
  creating : Bool
  doomed : Option (Int64 × String)
  confirmOpen : Bool
  deleting : Bool
  deleteError : Option String
  areas : Option (Listing Offer String)
  table : Option (Listing Metric RowKey)
  deriving DecidableEq, Repr

/-- What the controls send: those of the filters, of the dialog for a new metric, of a row, and of
the question before a removal. -/
inductive Msg where
  | setKeyword (s : String)
  | setSubjectArea (s : String)
  | setSensitivity (s : String)
  | resetFilters
  | openCreate
  | editMetric (f : MetricForm)
  | editVersion (f : VersionForm)
  | cancelCreate
  | submitCreate
  | openMetric (id : Int64)
  | askDelete (id : Int64) (name : String)
  | cancelDelete
  | confirmDelete
  deriving DecidableEq, Repr

/-- What the writes of the page are for. -/
inductive Job where
  | create
  | delete
  deriving DecidableEq, Repr

/-- Filters that let everything through, no table yet, and both dialogs closed. -/
def initial : State where
  keyword := ""
  subjectArea := MetricFilters.all
  sensitivity := MetricFilters.all
  createOpen := false
  metricForm := .empty
  versionForm := .empty
  createError := none
  creating := false
  doomed := none
  confirmOpen := false
  deleting := false
  deleteError := none
  areas := none
  table := none

/-- The key of the metrics that the filters let through. -/
def listKey (s : State) : QueryKey :=
  .metricList (.normalized s.keyword s.subjectArea s.sensitivity)

/-- The page looks at the metrics that the filters let through and at the summary. -/
def keys (s : State) : List (Option QueryKey) := [some (listKey s), some .metricSummary]

/-- The metrics that the filters let through. -/
def metrics (scene : Scene) (s : State) : List Metric := scene.list Metric (some (listKey s))

/-- What the row of a metric is kept by; of its fields only the time of the last change is part of
it. -/
def rowKey (m : Metric) : RowKey := ⟨m.id, m.updatedAt, m.versions.length⟩

/-- The entries for the subject area. -/
def areaChoices (scene : Scene) (s : State) : List Choice :=
  filterChoices "All subject areas" (subjectAreas (metrics scene s) s.subjectArea)

/-- The page after the scene has changed.  The table is there while it loads. -/
def sync (scene : Scene) (s : State) : State :=
  let ms := metrics scene s
  let present := !ms.isEmpty || (scene.see (some (listKey s))).isLoading
  { s with
    areas := Offer.follow s.subjectArea true (areaChoices scene s) s.areas
    table := Listing.follow rowKey present ms s.table }

/-- What a message does.  A new metric without valid forms shows why; a removal without a metric
does nothing. -/
def update (s : State) : Msg → State × List (Command Job)
  | .setKeyword v => ({ s with keyword := v }, [])
  | .setSubjectArea v => ({ s with subjectArea := v }, [])
  | .setSensitivity v => ({ s with sensitivity := v }, [])
  | .resetFilters =>
    ({ s with keyword := "", subjectArea := MetricFilters.all, sensitivity := MetricFilters.all },
      [])
  | .openCreate =>
    ({ s with
        metricForm := .empty
        versionForm := .empty
        createError := none
        createOpen := true },
      [])
  | .editMetric f => ({ s with metricForm := f }, [])
  | .editVersion f => ({ s with versionForm := f }, [])
  | .cancelCreate => ({ s with createOpen := false }, [])
  | .submitCreate =>
    match s.metricForm.toCreate s.versionForm with
    | .error f => ({ s with createError := some f.message }, [])
    | .ok body =>
      ({ s with creating := true, createError := none },
        [.write .createMetric (some (encode body)) .create])
  | .openMetric id => (s, [.navigate (.openMetric id)])
  | .askDelete id name => ({ s with doomed := some (id, name), confirmOpen := true }, [])
  | .cancelDelete => ({ s with confirmOpen := false }, [])
  | .confirmDelete =>
    match s.doomed with
    | none => (s, [])
    | some (id, _) => ({ s with deleting := true }, [.write (.deleteMetric id) none .delete])

/-- What the result of a write does.  A creation that failed leaves its dialog open; a removal
closes its question either way. -/
def finish (s : State) : Job → Except ApiError Json → State
  | .create, .ok _ => { s with createOpen := false, creating := false }
  | .create, .error e =>
    { s with createError := some ("Failed to create metric: " ++ e.userMessage), creating := false }
  | .delete, result =>
    let error := match result with
      | .ok _ => none
      | .error e => some ("Failed to delete metric: " ++ e.userMessage)
    { s with deleteError := error, deleting := false, confirmOpen := false, doomed := none }

/-! ## View -/

/-- The entries of a selector for the sensitivity. -/
def sensitivities : List String := Vocabulary.words Sensitivity

/-- The entries of a selector for the status of a version. -/
def statuses : List Choice := choices (Vocabulary.words VersionStatus)

/-- The row of a metric, with a button to open it and one to delete it. -/
def metricRow (m : Metric) : Tokens Msg :=
  tableRow false [say m.code, say m.name, say (Text.orAbsent m.subjectArea), say m.kind,
    say (Text.orAbsent m.unit), say (Text.orAbsent m.owner), [sensitivityBadge m.sensitivity],
    say m.currentVersionLabel,
    [button .subtle true "View" (.openMetric m.id),
      button .subtle true (iconLabel .delete "") (.askDelete m.id m.name)]]

/-- The basic fields of a new metric. -/
def metricFields (f : MetricForm) : Tokens Msg :=
  [textField "Code" true "e.g. M_GMV" f.code fun v => .editMetric { f with code := v },
    textField "Name" true "e.g. Gross merchandise value" f.name
      fun v => .editMetric { f with name := v },
    textField "Type" true "e.g. finance / KPI" f.kind fun v => .editMetric { f with kind := v },
    textField "Unit" false "e.g. CNY / %" f.unit fun v => .editMetric { f with unit := v },
    textField "Subject area" false "e.g. trade / user" f.subjectArea
      fun v => .editMetric { f with subjectArea := v },
    textField "Owner" false "" f.owner fun v => .editMetric { f with owner := v },
    selectField "Sensitivity" f.sensitivity (choices sensitivities)
      fun v => .editMetric { f with sensitivity := v },
    textArea "Description" "" f.description fun v => .editMetric { f with description := v }]

/-- The fields of the first version of a new metric; there is none for a formula in JSON. -/
def versionFields (f : VersionForm) : Tokens Msg :=
  [textField "Version" false "e.g. v1" f.version fun v => .editVersion { f with version := v },
    selectField "Status" f.status statuses fun v => .editVersion { f with status := v },
    textField "Grain" true "company, product, channel" f.grain
      fun v => .editVersion { f with grain := v },
    textField "Data sources" false "dwd_trade_order, dwd_user_profile" f.dataSources
      fun v => .editVersion { f with dataSources := v },
    dateField "Effective from" true f.effectiveFrom
      fun v => .editVersion { f with effectiveFrom := v },
    dateField "Effective to" true f.effectiveTo fun v => .editVersion { f with effectiveTo := v },
    textArea "Notes" "" f.notes fun v => .editVersion { f with notes := v },
    textArea "SQL formula" "optional" f.formulaSql fun v => .editVersion { f with formulaSql := v }]

/-- The dialog for a new metric. -/
def createDialog (s : State) : Tokens Msg :=
  dialog s.createOpen (say "New metric" ++ errorBox? s.createError ++ say "Basic info" ++
    metricFields s.metricForm ++ say "Initial version" ++ versionFields s.versionForm ++
    [button .secondary true "Cancel" .cancelCreate,
      button .primary (!s.creating) "Create metric" .submitCreate])

/-- The heading with the counts. -/
def heading (scene : Scene) : Tokens Msg :=
  let summary := (scene.value? MetricSummary (some .metricSummary)).getD .zero
  let count (n : Int64) := Text.Integer.render n.toInt
  pageHeader "Metrics"
    (some (count summary.totalMetrics ++ " metrics in total, " ++ count summary.sensitiveMetrics ++
      " sensitive."))
    [badge .tint .brand ("Active versions " ++ count summary.activeVersions),
      badge .tint .subtle ("Drafts " ++ count summary.draftVersions),
      button .primary true (iconLabel .plus "New metric") .openCreate]

/-- The filters. -/
def filterBar (s : State) : Tokens Msg :=
  [textField "Search" false "Name / code / owner" s.keyword .setKeyword,
    offerField "Subject area" (Offer.shown s.areas) .setSubjectArea,
    selectField "Sensitivity" s.sensitivity (filterChoices "All sensitivity" sensitivities)
      .setSensitivity,
    button .secondary true "Reset" .resetFilters]

/-- The heading, the filters, the table, and below it the two dialogs. -/
def view (scene : Scene) (s : State) : Tokens Msg :=
  let snapshot := scene.see (some (listKey s))
  heading scene ++ filterBar s ++ errorBox? s.deleteError ++
    queryStatus snapshot.isLoading snapshot.error loading ++
    table "No metrics match the filters"
      ["Code", "Name", "Subject area", "Type", "Unit", "Owner", "Sensitivity", "Current version",
        ""]
      metricRow s.table ++
    confirmDialog s.confirmOpen
      ((s.doomed.map fun d => "Delete metric " ++ d.2 ++ "?").getD "")
      "Versions and caliber bindings of the metric are removed as well. This cannot be undone."
      s.deleting .cancelDelete .confirmDelete ++
    createDialog s

end MetricConsole.Page.MetricList
