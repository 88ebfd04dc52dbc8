import MetricConsole.Form.Version
import MetricConsole.Page.Component
import MetricConsole.Page.Scene
import MetricConsole.Text.Timestamp

/-!
# The management of versions

The versions of one metric, which a picker selects, with dialogs to change a version and to delete
one.  The picker shows the selected metric, or else the first of the list; it is set back whenever
the list or the navigation changes, and a choice of another metric selects that metric.
-/

namespace MetricConsole.Page.Versions

/-- What a row is kept by: it stays as it is for as long as a version has these. -/
structure RowKey where
  id : Int64
  status : String
  version : Option String
  effectiveTo : Option Date
  deriving DecidableEq, Repr

/-- The picker, the dialogs and the table.  `seen` is the list of metrics as the picker last saw
it. -/
structure State where
  picker : String
  seen : Option Snapshot
  offers : Option (Listing Offer String)
  form : VersionForm
  editing : Option Int64
  editOpen : Bool
  doomed : Option MetricVersion
  confirmOpen : Bool
  busy : Bool
  error : Option String
  table : Option (Listing MetricVersion RowKey)
  deriving DecidableEq, Repr

/-- What the controls send: the picker, the button to publish, and those of the rows and the two
dialogs. -/
inductive Msg where
  | pick (s : String)
  | publish
  | startEdit (v : MetricVersion)
  | edit (f : VersionForm)
  | cancelEdit
  | saveEdit
  | askDelete (v : MetricVersion)
  | cancelDelete
  | confirmDelete
  deriving DecidableEq, Repr

/-- What the writes of the page are for. -/
inductive Job where
  | publish
  | save
  | delete
  deriving DecidableEq, Repr

/-- An empty picker, no table yet, both dialogs closed, and nothing under way. -/
def initial : State where
  picker := ""
  seen := none
  offers := none
  form := .empty
  editing := none
  editOpen := false
  doomed := none
  confirmOpen := false
  busy := false
  error := none
  table := none

/-- The key of the list of all metrics. -/
def listKey : QueryKey := .metricList .none

/-- All metrics. -/
def metrics (scene : Scene) : List Metric := scene.list Metric (some listKey)

/-- The metric whose versions are shown. -/
def metricId (scene : Scene) : Option Int64 := shownMetric (metrics scene) scene.nav.metricId

/-- The key of its versions. -/
def versionsKey (scene : Scene) : Option QueryKey := (metricId scene).map .metricVersions

/-- The page looks at all metrics and at the versions of the one that is shown. -/
def keys (scene : Scene) : List (Option QueryKey) := [some listKey, versionsKey scene]

/-- What the row of a version is kept by; its first day, its grain and its formula are not part of
it. -/
def rowKey (v : MetricVersion) : RowKey := ⟨v.id, v.status, v.version, v.effectiveTo⟩

/-- The text of the picker for a metric. -/
def pickerText (id : Option Int64) : String := (id.map idText).getD ""

/-- The text of the picker after the scene has changed. -/
def syncPicker (navigated : Bool) (scene : Scene) (s : State) : String :=
  if navigated ∨ s.seen ≠ some (scene.see (some listKey)) then pickerText (metricId scene)
  else s.picker

/-- The metric that the picker asks for, if that is another than the one that is shown. -/
def picked? (scene : Scene) (picker : String) : Option Int64 :=
  (Text.Integer.parseInt64? picker).filter fun id => some id ≠ metricId scene

/-- The page after the scene has changed; another metric in the picker is selected. -/
def sync (navigated : Bool) (scene : Scene) (s : State) : State × Option NavAction :=
  let picker := syncPicker navigated scene s
  let entries := (metrics scene).map fun m => (idText m.id, m.label)
  let versions := scene.list MetricVersion (versionsKey scene)
  ({ s with
      picker := picker
      seen := some (scene.see (some listKey))
      offers := Offer.follow picker true entries s.offers
      table := Listing.follow rowKey (!versions.isEmpty) versions s.table },
    (picked? scene picker).map fun id => .selectMetric (some id))

/-- What a message does.  The metric that a write is for is the one shown when the write is sent. -/
def update (scene : Scene) (s : State) : Msg → State × List (Command Job)
  | .pick v => ({ s with picker := v }, [])
  | .publish =>
    match metricId scene with
    | none => (s, [])
    | some id => ({ s with busy := true }, [.write (.requestPublish id) none .publish])
  | .startEdit v =>
    ({ s with form := .ofVersion v, editing := some v.id, error := none, editOpen := true }, [])
  | .edit f => ({ s with form := f }, [])
  | .cancelEdit => ({ s with editOpen := false }, [])
  | .saveEdit =>
    match metricId scene, s.editing with
    | some id, some versionId =>
      match s.form.toUpdate with
      | .error f => ({ s with error := some f.message }, [])
      | .ok body =>
        ({ s with busy := true }, [.write (.updateVersion id versionId) (some (encode body)) .save])
    | _, _ => (s, [])
  | .askDelete v => ({ s with doomed := some v, confirmOpen := true }, [])
  | .cancelDelete => ({ s with confirmOpen := false }, [])
  | .confirmDelete =>
    match metricId scene, s.doomed with
    | some id, some v => ({ s with busy := true }, [.write (.deleteVersion id v.id) none .delete])
    | _, _ => (s, [])

/-- The error of a write that failed, after what it was for. -/
def failure (what : String) : Except ApiError Json → Option String
  | .ok _ => none
  | .error e => some (what ++ e.userMessage)

/-- What the result of a write does.  A save that failed leaves its dialog open; a removal closes
its question either way. -/
def finish (s : State) : Job → Except ApiError Json → State
  | .publish, result => { s with error := failure "Publish request failed: " result, busy := false }
  | .save, result =>
    { s with
      error := failure "Failed to update version: " result
      editOpen := s.editOpen && !result.isOk
      busy := false }
  | .delete, result =>
    { s with
      error := failure "Failed to delete version: " result
      busy := false
      confirmOpen := false
      doomed := none }

/-! ## View -/

/-- The row of a version, with a button to change it and one to delete it. -/
def versionRow (v : MetricVersion) : Tokens Msg :=
  tableRow false [say v.label, [statusBadge v.status], say v.grainLabel,
    say v.effectiveRangeLabel, say (Nat.repr v.bindings.length),
    say (Text.formatTimestamp v.createdAt),
    [button .subtle true (iconLabel .edit "") (.startEdit v),
      button .subtle true (iconLabel .delete "") (.askDelete v)]]

/-- The fields of a version. -/
def fields (f : VersionForm) : Tokens Msg :=
  [textField "Version" false "" f.version fun v => .edit { f with version := v },
    selectField "Status" f.status (choices (Vocabulary.words VersionStatus))
      fun v => .edit { f with status := v },
    textField "Grain" false "" f.grain fun v => .edit { f with grain := v },
    textField "Data sources" false "" f.dataSources fun v => .edit { f with dataSources := v },
    dateField "Effective from" false f.effectiveFrom fun v => .edit { f with effectiveFrom := v },
    dateField "Effective to" false f.effectiveTo fun v => .edit { f with effectiveTo := v },
    textArea "SQL formula" "" f.formulaSql fun v => .edit { f with formulaSql := v },
    textArea "DSL (JSON)" "" f.formulaDsl fun v => .edit { f with formulaDsl := v },
    textArea "Notes" "" f.notes fun v => .edit { f with notes := v }]

/-- The heading, the picker, the table, and below it the two dialogs. -/
def view (scene : Scene) (s : State) : Tokens Msg :=
  let list := scene.see (some listKey)
  let versions := scene.see (versionsKey scene)
  pageHeader "Version management" (some "Review, edit and publish metric versions.")
      [button .primary (!s.busy && (metricId scene).isSome) (iconLabel .upload "Request publish")
        .publish] ++
    [offerField "Metric" (Offer.shown s.offers) .pick] ++
    errorBox? s.error ++ queryStatus list.isLoading list.error loading ++
    queryStatus versions.isLoading versions.error "Loading versions..." ++
    table "No versions for this metric"
      ["Version", "Status", "Grain", "Effective", "Bindings", "Created", ""] versionRow s.table ++
    dialog s.editOpen (say "Edit version" ++ fields s.form ++
      [button .secondary true "Cancel" .cancelEdit, button .primary (!s.busy) "Save" .saveEdit]) ++
    confirmDialog s.confirmOpen
      ((s.doomed.map fun v => "Delete version " ++ v.label ++ "?").getD "")
      "Caliber bindings of this version are removed as well." s.busy .cancelDelete .confirmDelete

end MetricConsole.Page.Versions
