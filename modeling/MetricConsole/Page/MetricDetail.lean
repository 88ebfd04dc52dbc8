import MetricConsole.Form.Binding
import MetricConsole.Form.Metric
import MetricConsole.Page.Component
import MetricConsole.Page.Scene
import MetricConsole.Text.Timestamp

/-!
# The detail of a metric

The selected metric with its basic fields, its versions, and the bindings of one of the versions.
Writes run one at a time: while one is under way the page is busy, and its result is either a notice
or an error.

The basic fields are filled from the metric whenever what is seen of it has changed.  When the
metric cannot be loaded the cards below it are taken away, and with them the tables and the question
whether to remove a binding.
-/

namespace MetricConsole.Page.MetricDetail

/-- What the row of a version is kept by: it stays as it is for as long as the version has these. -/
structure VersionRowKey where
  id : Int64
  status : String
  version : Option String
  effectiveTo : Option Date
  deriving DecidableEq, Repr

/-- What the row of a binding is kept by: it stays as it is for as long as the binding has these. -/
structure BindingRowKey where
  id : Int64
  orderIndex : Int32
  status : String
  notes : Option String
  deriving DecidableEq, Repr

/-- What the row of a version shows: it may be the current version, and the one that is edited. -/
structure VersionLine where
  version : MetricVersion
  isCurrent : Bool
  isEdited : Bool
  deriving DecidableEq, Repr

/-- The forms, the dialogs and the tables.  `seen` is the metric as the basic fields last saw it. -/
structure State where
  basic : MetricForm
  seen : Option Snapshot
  newVersion : VersionForm
  editVersion : VersionForm
  editingVersion : Option Int64
  newBinding : BindingForm
  bindingOpen : Bool
  editBinding : BindingForm
  editingBinding : Option Binding
  bindingEditOpen : Bool
  doomed : Option Binding
  confirmOpen : Bool
  busy : Bool
  error : Option String
  notice : Option String
  versionTable : Option (Listing VersionLine VersionRowKey)
  bindingTable : Option (Listing Binding BindingRowKey)
  calibers : Option (Listing Offer String)
  deriving DecidableEq, Repr

/-- What the controls send: those of the metric, of its basic fields, of the versions and of the
bindings, in this order. -/
inductive Msg where
  | backToList
  | publish
  | editBasic (f : MetricForm)
  | saveBasic
  | selectVersion (id : Int64)
  | toggleEditVersion (v : MetricVersion)
  | changeVersion (f : VersionForm)
  | saveVersion
  | cancelEditVersion
  | changeNewVersion (f : VersionForm)
  | createVersion
  | openNewBinding
  | changeNewBinding (f : BindingForm)
  | cancelNewBinding
  | saveNewBinding
  | startEditBinding (b : Binding)
  | changeBinding (f : BindingForm)
  | cancelEditBinding
  | saveBinding
  | askRemove (b : Binding)
  | cancelRemove
  | confirmRemove
  deriving DecidableEq, Repr

/-- What the writes of the page are for. -/
inductive Job where
  | saveBasic
  | createVersion
  | saveVersion
  | publish
  | createBinding
  | saveBinding
  | removeBinding
  deriving DecidableEq, Repr

/-- Empty forms, no tables, every dialog closed, and nothing under way. -/
def initial : State where
  basic := .empty
  seen := none
  newVersion := .empty
  editVersion := .empty
  editingVersion := none
  newBinding := .empty
  bindingOpen := false
  editBinding := .empty
  editingBinding := none
  bindingEditOpen := false
  doomed := none
  confirmOpen := false
  busy := false
  error := none
  notice := none
  versionTable := none
  bindingTable := none
  calibers := none

/-! ## What is seen -/

/-- The key of the metric. -/
def metricKey (scene : Scene) : Option QueryKey := scene.nav.metricId.map .metricDetail

/-- The key of its versions. -/
def versionsKey (scene : Scene) : Option QueryKey := scene.nav.metricId.map .metricVersions

/-- The versions of the metric, the latest first. -/
def versions (scene : Scene) : List MetricVersion := scene.list MetricVersion (versionsKey scene)

/-- The version whose bindings are shown. -/
def currentId (scene : Scene) : Option Int64 := shownVersion (versions scene) scene.nav.versionId

/-- The key of the bindings: there is one as soon as the metric and the version are known. -/
def bindingsKey (scene : Scene) : Option QueryKey :=
  match scene.nav.metricId, currentId scene with
  | some id, some versionId => some (.versionCalibers id versionId)
  | _, _ => none

/-- The page looks at the metric, its versions, all calibers and the bindings; only the calibers are
looked at without a metric. -/
def keys (scene : Scene) : List (Option QueryKey) :=
  [metricKey scene, versionsKey scene, some .calibers, bindingsKey scene]

/-- The bindings of the version, in their order. -/
def bindings (scene : Scene) : List Binding :=
  (scene.list Binding (bindingsKey scene)).mergeSort fun a b =>
    decide (a.orderIndex < b.orderIndex) || (a.orderIndex == b.orderIndex && decide (a.id ≤ b.id))

/-- The metric. -/
def metric? (scene : Scene) : Option Metric := scene.value? Metric (metricKey scene)

/-- Why the metric cannot be shown. -/
def loadFailure? (scene : Scene) : Option String :=
  match metric? scene with
  | some _ => none
  | none =>
    (scene.see (metricKey scene)).error.map fun e =>
      if e.isNotFound then "Metric not found. It may have been deleted."
      else "Failed to load metric: " ++ e.userMessage

/-- The cards with the fields and the tables are there. -/
def cardsShown (scene : Scene) : Bool :=
  scene.nav.metricId.isSome && (loadFailure? scene).isNone

/-- The entries of the selector for a caliber. -/
def caliberChoices (scene : Scene) : List Choice :=
  ("", "Select a caliber") ::
    (scene.list Caliber (some .calibers)).map fun c => (idText c.id, c.label)

/-! ## Changes -/

/-- What the row of a version is kept by; its first day, its grain and its formula are not part of
it. -/
def versionRowKey (v : MetricVersion) : VersionRowKey := ⟨v.id, v.status, v.version, v.effectiveTo⟩

/-- What the row of a binding is kept by; its caliber is not part of it. -/
def bindingRowKey (b : Binding) : BindingRowKey := ⟨b.id, b.orderIndex, b.status, b.notes⟩

/-- The basic fields after the scene has changed. -/
def syncBasic (scene : Scene) (s : State) : State :=
  let seen := scene.see (metricKey scene)
  if s.seen = some seen then s
  else
    match metric? scene with
    | some m => { s with seen := some seen, basic := .ofMetric m }
    | none => { s with seen := some seen }

/-- What the row of a version shows now. -/
def versionLine (scene : Scene) (s : State) (v : MetricVersion) : VersionLine :=
  ⟨v, currentId scene == some v.id, s.editingVersion == some v.id⟩

/-- The table of the versions after the scene has changed. -/
def syncVersions (scene : Scene) (s : State) : Option (Listing VersionLine VersionRowKey) :=
  let lines := (versions scene).map (versionLine scene s)
  (Listing.follow (fun l => versionRowKey l.version) (!lines.isEmpty) lines s.versionTable).map
    (Listing.refresh fun l => versionLine scene s l.version)

/-- The cards after the scene has changed. -/
def syncCards (scene : Scene) (s : State) : State :=
  if cardsShown scene then
    let bs := bindings scene
    { s with
      versionTable := syncVersions scene s
      bindingTable := Listing.follow bindingRowKey (!bs.isEmpty) bs s.bindingTable
      calibers := Offer.follow s.newBinding.caliberId true (caliberChoices scene) s.calibers }
  else
    { s with
      versionTable := none
      bindingTable := none
      calibers := none
      doomed := none
      confirmOpen := false }

/-- The page after the scene has changed. -/
def sync (scene : Scene) (s : State) : State := syncCards scene (syncBasic scene s)

/-- Starts a write. -/
def run (s : State) (m : Mutation) (body : Option Json) (job : Job) : State × List (Command Job) :=
  ({ s with busy := true, error := none, notice := none }, [.write m body job])

/-- Starts a write with a body, or shows why there is none. -/
def submit {α : Type} [Codec α] (s : State) (m : Mutation) (body : Except FormFault α) (job : Job) :
    State × List (Command Job) :=
  match body with
  | .ok b => run s m (some (encode b)) job
  | .error f => ({ s with error := some f.message }, [])

/-- What a message does.  The metric and the version that a write is for are those shown when the
write is sent. -/
def update (scene : Scene) (s : State) : Msg → State × List (Command Job)
  | .backToList => (s, [.navigate .backToList])
  | .publish =>
    match scene.nav.metricId with
    | some id => run s (.requestPublish id) none .publish
    | none => (s, [])
  | .editBasic f => ({ s with basic := f }, [])
  | .saveBasic =>
    match scene.nav.metricId with
    | some id => submit s (.updateMetric id) s.basic.toUpdate .saveBasic
    | none => (s, [])
  | .selectVersion id => (s, [.navigate (.selectVersion (some id))])
  | .toggleEditVersion v =>
    if s.editingVersion = some v.id then ({ s with editingVersion := none }, [])
    else ({ s with editVersion := .ofVersion v, editingVersion := some v.id }, [])
  | .changeVersion f => ({ s with editVersion := f }, [])
  | .saveVersion =>
    match scene.nav.metricId, s.editingVersion with
    | some id, some versionId =>
      submit s (.updateVersion id versionId) s.editVersion.toUpdate .saveVersion
    | _, _ => (s, [])
  | .cancelEditVersion => ({ s with editingVersion := none }, [])
  | .changeNewVersion f => ({ s with newVersion := f }, [])
  | .createVersion =>
    match scene.nav.metricId with
    | some id => submit s (.createVersion id) s.newVersion.toCreate .createVersion
    | none => (s, [])
  | .openNewBinding => ({ s with newBinding := .empty, bindingOpen := true }, [])
  | .changeNewBinding f => ({ s with newBinding := f }, [])
  | .cancelNewBinding => ({ s with bindingOpen := false }, [])
  | .saveNewBinding =>
    match scene.nav.metricId, currentId scene with
    | some id, some versionId =>
      submit s (.createBinding id versionId) s.newBinding.toCreate .createBinding
    | _, _ => (s, [])
  | .startEditBinding b =>
    ({ s with editBinding := .ofBinding b, editingBinding := some b, bindingEditOpen := true }, [])
  | .changeBinding f => ({ s with editBinding := f }, [])
  | .cancelEditBinding => ({ s with bindingEditOpen := false }, [])
  | .saveBinding =>
    match scene.nav.metricId, currentId scene, s.editingBinding with
    | some id, some versionId, some b =>
      submit s (.updateBinding id versionId b.id) s.editBinding.toUpdate .saveBinding
    | _, _, _ => (s, [])
  | .askRemove b => ({ s with doomed := some b, confirmOpen := true }, [])
  | .cancelRemove => ({ s with confirmOpen := false }, [])
  | .confirmRemove =>
    let closed := { s with confirmOpen := false, doomed := none }
    match scene.nav.metricId, currentId scene, s.doomed with
    | some id, some versionId, some b =>
      run closed (.deleteBinding id versionId b.id) none .removeBinding
    | _, _, _ => (closed, [])

/-- The notice of a write that succeeded. -/
def Job.notice : Job → String
  | .saveBasic => "Basic info saved"
  | .createVersion => "New version created"
  | .saveVersion => "Version updated"
  | .publish => "Publish requested"
  | .createBinding => "Caliber bound"
  | .saveBinding => "Binding updated"
  | .removeBinding => "Caliber removed"

/-- What a write that succeeded leaves behind: its form is cleared or closed. -/
def complete (s : State) : Job → State
  | .createVersion => { s with newVersion := .empty }
  | .saveVersion => { s with editingVersion := none }
  | .createBinding => { s with bindingOpen := false }
  | .saveBinding => { s with bindingEditOpen := false }
  | .saveBasic | .publish | .removeBinding => s

/-- What the result of a write does: a notice and what the write leaves behind, or an error. -/
def finish (s : State) (job : Job) : Except ApiError Json → State
  | .ok _ => { complete s job with notice := some job.notice, busy := false }
  | .error e => { s with error := some e.userMessage, busy := false }

/-! ## View -/

/-- The fields of a version, for a new one or a change. -/
def versionFields (required : Bool) (f : VersionForm) (change : VersionForm → Msg) : Tokens Msg :=
  [textField "Version" false "e.g. v2" f.version fun v => change { f with version := v },
    selectField "Status" f.status (choices (Vocabulary.words VersionStatus))
      fun v => change { f with status := v },
    textField "Grain" required "company, product, channel" f.grain
      fun v => change { f with grain := v },
    textField "Data sources" false "" f.dataSources fun v => change { f with dataSources := v },
    dateField "Effective from" required f.effectiveFrom
      fun v => change { f with effectiveFrom := v },
    dateField "Effective to" required f.effectiveTo fun v => change { f with effectiveTo := v },
    textArea "SQL formula" "" f.formulaSql fun v => change { f with formulaSql := v },
    textArea "DSL (JSON)" "\x7b\"op\": \"sum\"\x7d" f.formulaDsl
      fun v => change { f with formulaDsl := v },
    textArea "Notes" "" f.notes fun v => change { f with notes := v }]

/-- The fields of a binding; a caliber can be chosen only for a new one. -/
def bindingFields (calibers : Option (List Offer)) (f : BindingForm)
    (change : BindingForm → Msg) : Tokens Msg :=
  ((calibers.map fun os =>
      [offerField "Caliber" os fun v => change { f with caliberId := v }]).getD []) ++
  [selectField "Status" f.status (choices (Vocabulary.words BindingStatus))
      fun v => change { f with status := v },
    textField "Order" false "0" f.orderIndex fun v => change { f with orderIndex := v },
    textField "Override data sources" false "" f.overrideDataSources
      fun v => change { f with overrideDataSources := v },
    textArea "Override SQL" "" f.overrideExprSql fun v => change { f with overrideExprSql := v },
    textArea "Override DSL (JSON)" "" f.overrideExprDsl
      fun v => change { f with overrideExprDsl := v },
    textArea "Notes" "" f.notes fun v => change { f with notes := v }]

/-- The card with the metric as it is. -/
def metricCard (s : State) (m : Metric) : Tokens Msg :=
  say (m.name ++ " · " ++ m.code) ++ say (m.description.getD "No description") ++
    [button .secondary (!s.busy) (iconLabel .upload "Request publish") .publish,
      button .secondary true (iconLabel .arrowLeft "Back to list") .backToList] ++
    say "Subject area" ++ say (Text.shownOrAbsent m.subjectArea) ++
    say "Type" ++ say m.kind ++
    say "Unit" ++ say (Text.shownOrAbsent m.unit) ++
    say "Sensitivity" ++ [sensitivityBadge m.sensitivity] ++
    say "Owner" ++ say (Text.shownOrAbsent m.owner) ++
    say "Created" ++ say (Text.formatTimestamp m.createdAt)

/-- The card with the basic fields. -/
def basicCard (s : State) : Tokens Msg :=
  let f := s.basic
  say "Basic info" ++
  [textField "Name" true "" f.name fun v => .editBasic { f with name := v },
    textField "Type" true "" f.kind fun v => .editBasic { f with kind := v },
    textField "Unit" false "" f.unit fun v => .editBasic { f with unit := v },
    textField "Subject area" false "" f.subjectArea fun v => .editBasic { f with subjectArea := v },
    textField "Owner" false "" f.owner fun v => .editBasic { f with owner := v },
    selectField "Sensitivity" f.sensitivity (choices (Vocabulary.words Sensitivity))
      fun v => .editBasic { f with sensitivity := v },
    textArea "Description" "" f.description fun v => .editBasic { f with description := v },
    button .primary (!s.busy) "Save basic info" .saveBasic]

/-- The row of a version, with a button to make it the current one and one to edit it. -/
def versionRow (l : VersionLine) : Tokens Msg :=
  let v := l.version
  tableRow l.isCurrent [say v.label, [statusBadge v.status], say v.grainLabel,
    say v.effectiveRangeLabel, say (Text.formatTimestamp v.createdAt),
    [button .subtle (!l.isCurrent) (if l.isCurrent then "Current" else "Set current")
        (.selectVersion v.id),
      button .subtle true (if l.isEdited then "Collapse" else "Edit")
        (.toggleEditVersion v)]]

/-- The card with the versions. -/
def versionsCard (s : State) : Tokens Msg :=
  say "Versions" ++
    table "No versions yet" ["Version", "Status", "Grain", "Effective", "Created", ""]
      versionRow s.versionTable ++
    (if s.editingVersion.isSome then
      say "Edit version" ++ versionFields false s.editVersion .changeVersion ++
        [button .primary (!s.busy) "Save version" .saveVersion,
          button .secondary true "Cancel" .cancelEditVersion]
    else []) ++
    say "New version" ++ versionFields true s.newVersion .changeNewVersion ++
    [button .primary (!s.busy) "Create version" .createVersion]

/-- The row of a binding, with a button to change it and one to remove it. -/
def bindingRow (b : Binding) : Tokens Msg :=
  tableRow false [say (Text.Integer.render b.orderIndex.toInt), say b.caliberLabel,
    say (Text.orAbsent (b.caliber.map Caliber.category)), [statusBadge b.status],
    [button .subtle true (iconLabel .edit "") (.startEditBinding b),
      button .subtle true (iconLabel .delete "") (.askRemove b)]]

/-- Which version the bindings belong to. -/
def currentLabel (scene : Scene) : String :=
  match (currentId scene).bind fun id => (versions scene).find? fun v => v.id == id with
  | some v => "Current version: " ++ v.label ++ " · " ++ v.status
  | none => "No version selected"

/-- The card with the bindings. -/
def bindingsCard (scene : Scene) (s : State) : Tokens Msg :=
  let snapshot := scene.see (bindingsKey scene)
  say "Caliber bindings" ++ say (currentLabel scene) ++
    [button .primary (currentId scene).isSome (iconLabel .plus "Add binding") .openNewBinding] ++
    queryStatus snapshot.isLoading snapshot.error loading ++
    table "No calibers bound to this version" ["Order", "Caliber", "Category", "Status", ""]
      bindingRow s.bindingTable ++
    dialog s.bindingOpen
      (say "Bind caliber" ++
        bindingFields (some (Offer.shown s.calibers)) s.newBinding .changeNewBinding ++
        [button .secondary true "Cancel" .cancelNewBinding,
          button .primary (!s.busy) "Bind" .saveNewBinding]) ++
    dialog s.bindingEditOpen
      (say ((s.editingBinding.map fun b => "Edit binding " ++ b.caliberLabel).getD "") ++
        bindingFields none s.editBinding .changeBinding ++
        [button .secondary true "Cancel" .cancelEditBinding,
          button .primary (!s.busy) "Save" .saveBinding]) ++
    confirmDialog s.confirmOpen ((s.doomed.map fun b => "Remove " ++ b.caliberLabel ++ "?").getD "")
      "The caliber stays in the library; only this binding is removed." s.busy .cancelRemove
      .confirmRemove

/-- Without a metric a way back; if the metric cannot be shown the reason; or else the cards. -/
def view (scene : Scene) (s : State) : Tokens Msg :=
  match scene.nav.metricId, loadFailure? scene with
  | none, _ =>
    say "No metric selected. Pick one in the metric list." ++
      [button .primary true "Go to metric list" .backToList]
  | some _, some failure =>
    errorBox failure ++
      [button .secondary true (iconLabel .arrowLeft "Back to list") .backToList]
  | some _, none =>
    queryStatus (scene.see (metricKey scene)).isLoading (scene.see (versionsKey scene)).error
        loading ++
      errorBox? s.error ++ (s.notice.map say).getD [] ++
      ((metric? scene).map (metricCard s)).getD [] ++
      basicCard s ++ versionsCard s ++ bindingsCard scene s

end MetricConsole.Page.MetricDetail
