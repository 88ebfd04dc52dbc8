import MetricConsole.Form.Caliber
import MetricConsole.Page.Component
import MetricConsole.Page.Scene

/-!
# The library of calibers

All calibers, with one dialog to make a new one or change one, and one to delete one.
-/

namespace MetricConsole.Page.CaliberLibrary

/-- What a row is kept by: it stays as it is for as long as a caliber has these. -/
structure RowKey where
  id : Int64
  name : String
  category : String
  valueFormat : Option String
  notes : Option String
  deriving DecidableEq, Repr

/-- The dialogs and the table. -/
structure State where
  form : CaliberForm
  editing : Option Int64
  dialogOpen : Bool
  saving : Bool
  formError : Option String
  doomed : Option Caliber
  confirmOpen : Bool
  deleting : Bool
  deleteError : Option String
  table : Option (Listing Caliber RowKey)
  deriving DecidableEq, Repr

/-- What the controls send: those of the heading, of a row, and of the two dialogs. -/
inductive Msg where
  | openCreate
  | openEdit (c : Caliber)
  | edit (f : CaliberForm)
  | cancel
  | save
  | askDelete (c : Caliber)
  | cancelDelete
  | confirmDelete
  deriving DecidableEq, Repr

/-- What the writes of the page are for; a removal remembers the code of its caliber. -/
inductive Job where
  | save
  | delete (code : String)
  deriving DecidableEq, Repr

/-- No table yet, and both dialogs closed. -/
def initial : State where
  form := .empty
  editing := none
  dialogOpen := false
  saving := false
  formError := none
  doomed := none
  confirmOpen := false
  deleting := false
  deleteError := none
  table := none

/-- The page looks at the list of all calibers. -/
def keys : List (Option QueryKey) := [some .calibers]

/-- What the row of a caliber is kept by; its unit and its expressions are not part of it. -/
def rowKey (c : Caliber) : RowKey := ⟨c.id, c.name, c.category, c.valueFormat, c.notes⟩

/-- The page after the scene has changed.  The table is there while it loads. -/
def sync (scene : Scene) (s : State) : State :=
  let cs := scene.list Caliber (some .calibers)
  let present := !cs.isEmpty || (scene.see (some .calibers)).isLoading
  { s with table := Listing.follow rowKey present cs s.table }

/-- The write that the form asks for: a new caliber, or a change to the one that is edited. -/
def submission (s : State) : Except FormFault (Mutation × Json) :=
  match s.editing with
  | none => s.form.toCreate.map fun body => (.createCaliber, encode body)
  | some id => s.form.toUpdate.map fun body => (.updateCaliber id, encode body)

/-- What a message does.  A save without a valid form shows why; a removal without a caliber does
nothing. -/
def update (s : State) : Msg → State × List (Command Job)
  | .openCreate =>
    ({ s with form := .empty, editing := none, formError := none, dialogOpen := true }, [])
  | .openEdit c =>
    ({ s with form := .ofCaliber c, editing := some c.id, formError := none, dialogOpen := true },
      [])
  | .edit f => ({ s with form := f }, [])
  | .cancel => ({ s with dialogOpen := false }, [])
  | .save =>
    match submission s with
    | .error f => ({ s with formError := some f.message, saving := false }, [])
    | .ok (m, body) => ({ s with formError := none, saving := true }, [.write m (some body) .save])
  | .askDelete c => ({ s with doomed := some c, confirmOpen := true }, [])
  | .cancelDelete => ({ s with confirmOpen := false }, [])
  | .confirmDelete =>
    match s.doomed with
    | none => (s, [])
    | some c =>
      ({ s with deleting := true }, [.write (.deleteCaliber c.id) none (.delete c.code)])

/-- What the result of a write does.  A save that failed leaves its dialog open; a removal closes
its question either way. -/
def finish (s : State) : Job → Except ApiError Json → State
  | .save, .ok _ => { s with dialogOpen := false, saving := false }
  | .save, .error e => { s with formError := some e.userMessage, saving := false }
  | .delete code, result =>
    let error := match result with
      | .ok _ => none
      | .error e => some ("Failed to delete " ++ code ++ ": " ++ e.userMessage)
    { s with deleteError := error, deleting := false, confirmOpen := false, doomed := none }

/-! ## View -/

/-- The row of a caliber, with a button to change it and one to delete it. -/
def caliberRow (c : Caliber) : Tokens Msg :=
  tableRow false [say c.code, say c.name, [badge .outline .brand c.category],
    say (Text.orAbsent c.valueFormat), say (Text.orAbsent c.unitOverride),
    [button .subtle true (iconLabel .edit "") (.openEdit c),
      button .subtle true (iconLabel .delete "") (.askDelete c)]]

/-- The fields of a caliber; the code only while the caliber is new. -/
def fields (isNew : Bool) (f : CaliberForm) : Tokens Msg :=
  (if isNew then
    [textField "Code" true "e.g. CALC_ORDER_FILTER" f.code fun v => .edit { f with code := v }]
  else []) ++
  [textField "Name" true "" f.name fun v => .edit { f with name := v },
    selectField "Category" f.category (choices (Vocabulary.words CaliberCategory))
      fun v => .edit { f with category := v },
    textField "Value format" false "e.g. 0.00%" f.valueFormat
      fun v => .edit { f with valueFormat := v },
    textField "Unit override" false "" f.unitOverride fun v => .edit { f with unitOverride := v },
    textArea "SQL expression" "" f.exprSql fun v => .edit { f with exprSql := v },
    textArea "DSL (JSON)" "" f.exprDsl fun v => .edit { f with exprDsl := v },
    textArea "Notes" "" f.notes fun v => .edit { f with notes := v }]

/-- The dialog for a new caliber or a change to one. -/
def editDialog (s : State) : Tokens Msg :=
  dialog s.dialogOpen
    (say (if s.editing.isSome then "Edit caliber" else "New caliber") ++ errorBox? s.formError ++
      fields s.editing.isNone s.form ++
      [button .secondary true "Cancel" .cancel, button .primary (!s.saving) "Save" .save])

/-- The heading, the table, and below it the two dialogs. -/
def view (scene : Scene) (s : State) : Tokens Msg :=
  let snapshot := scene.see (some .calibers)
  pageHeader "Caliber library" (some "Shared filter, aggregation and calculation rules")
      [button .primary true (iconLabel .plus "New caliber") .openCreate] ++
    errorBox? s.deleteError ++ queryStatus snapshot.isLoading snapshot.error loading ++
    table "No calibers yet" ["Code", "Name", "Category", "Value format", "Unit override", ""]
      caliberRow s.table ++
    confirmDialog s.confirmOpen
      ((s.doomed.map fun c => "Delete caliber " ++ c.code ++ "?").getD "")
      "Versions bound to this caliber lose the binding." s.deleting .cancelDelete .confirmDelete ++
    editDialog s

end MetricConsole.Page.CaliberLibrary
