import Mathlib.Data.Set.Defs
import MetricConsole.Form.Binding
import MetricConsole.Form.Caliber
import MetricConsole.Form.Metric
import MetricConsole.Proofs.Catalog.Payload
import MetricConsole.Proofs.Form.Field

/-!
# Submitting a form that was only partly edited

Four forms change a record: the forms of a metric, a version, a caliber and a binding.  Each is
filled from the record and submitted as a patch, in which a field that is left out stays as it is.
So the fields that were not edited should not change, and they do not exactly if their values are
clean: the form shows every other value in a way that is read as another one.

* `EditForm`, `EditForm.Faithful`: a form for changing records, and how it shows and reads fields.
* `Editor`: the four forms.
* `Editor.untouched_iff_clean`: which untouched fields a submitted form leaves as they are.
-/

namespace MetricConsole

open Text

/-! ## Patches -/

/-- The metric behind a change. -/
def MetricPatch.apply (d : MetricPatch) (m : Metric) : Metric :=
  { m with
    name := d.name.getD m.name
    kind := d.kind.getD m.kind
    description := d.description.or m.description
    unit := d.unit.or m.unit
    subjectArea := d.subjectArea.or m.subjectArea
    owner := d.owner.or m.owner
    sensitivity := d.sensitivity.getD m.sensitivity
    updatedBy := d.updatedBy.or m.updatedBy }

/-- The version behind a change. -/
def VersionPatch.apply (d : VersionPatch) (v : MetricVersion) : MetricVersion :=
  { v with
    version := d.version.or v.version
    status := d.status.getD v.status
    formulaSql := d.formulaSql.or v.formulaSql
    formulaDsl := d.formulaDsl.or v.formulaDsl
    grain := d.grain.or v.grain
    dataSources := d.dataSources.or v.dataSources
    notes := d.notes.or v.notes
    effectiveFrom := d.effectiveFrom.or v.effectiveFrom
    effectiveTo := d.effectiveTo.or v.effectiveTo }

/-- The caliber behind a change. -/
def CaliberPatch.apply (d : CaliberPatch) (c : Caliber) : Caliber :=
  { c with
    name := d.name.getD c.name
    category := d.category.getD c.category
    exprDsl := d.exprDsl.or c.exprDsl
    exprSql := d.exprSql.or c.exprSql
    valueFormat := d.valueFormat.or c.valueFormat
    unitOverride := d.unitOverride.or c.unitOverride
    notes := d.notes.or c.notes }

/-- The binding behind a change. -/
def BindingPatch.apply (d : BindingPatch) (b : Binding) : Binding :=
  { b with
    status := d.status.getD b.status
    orderIndex := d.orderIndex.getD b.orderIndex
    overrideExprSql := d.overrideExprSql.or b.overrideExprSql
    overrideExprDsl := d.overrideExprDsl.or b.overrideExprDsl
    overrideDataSources := d.overrideDataSources.or b.overrideDataSources
    notes := d.notes.or b.notes }

/-! ## Forms for changing records -/

/-- A form that is filled from a record and submitted as a patch. -/
structure EditForm where
  /-- The records, as they come in payloads. -/
  Record : Type
  decode? : Json → Option Record
  /-- The form and the record that fills it. -/
  Form : Type
  fill : Record → Form
  /-- What is sent, and what comes of it. -/
  Patch : Type
  submit : Form → Except FormFault Patch
  encode : Patch → Json
  apply : Patch → Record → Record
  /-- The fields that can be changed, with their names in payloads, their texts and values. -/
  Field : Type
  name : Field → String
  typed : Form → Field → String
  value : Record → Field → FieldValue

namespace EditForm

/-- The form shows the values of the record, and what is submitted is what the fields say.  A patch
replaces the fields that it names, and leaves the others. -/
structure Faithful (e : EditForm) : Prop where
  shown : ∀ r x, e.typed (e.fill r) x = (e.value r x).shown
  after : ∀ {f d} r x, e.submit f = .ok d →
    e.value (e.apply d r) x = (e.value r x).after (e.typed f x)
  patched : ∀ d r x, (e.value (e.apply d r) x).payload =
    ((e.encode d).member? (e.name x)).or (e.value r x).payload
  part : ∀ {j r x dsl}, e.decode? j = some r → e.value r x = .dsl (some dsl) → j.Part dsl
  code : ∀ d, (e.encode d).member? "code" = none
  caliber : ∀ d, (e.encode d).member? "caliber_id" = none

end EditForm

/-! ## The four forms -/

/-- The fields of a metric that can be changed. -/
inductive MetricForm.Field where
  | name
  | kind
  | unit
  | subjectArea
  | owner
  | sensitivity
  | description
  deriving DecidableEq, Repr

/-- The form of a metric. -/
def MetricForm.edit : EditForm where
  Record := Metric
  decode? := decode?
  Form := MetricForm
  fill := ofMetric
  Patch := MetricPatch
  submit := toUpdate
  encode := encode
  apply := MetricPatch.apply
  Field := Field
  name
    | .name => "name"
    | .kind => "type"
    | .unit => "unit"
    | .subjectArea => "subject_area"
    | .owner => "owner"
    | .sensitivity => "sensitivity"
    | .description => "description"
  typed f
    | .name => f.name
    | .kind => f.kind
    | .unit => f.unit
    | .subjectArea => f.subjectArea
    | .owner => f.owner
    | .sensitivity => f.sensitivity
    | .description => f.description
  value m
    | .name => .word m.name
    | .kind => .word m.kind
    | .unit => .text m.unit
    | .subjectArea => .text m.subjectArea
    | .owner => .text m.owner
    | .sensitivity => .word m.sensitivity
    | .description => .text m.description

/-- The fields of a version that can be changed. -/
inductive VersionForm.Field where
  | version
  | status
  | formulaSql
  | formulaDsl
  | grain
  | dataSources
  | effectiveFrom
  | effectiveTo
  | notes
  deriving DecidableEq, Repr

/-- The form of a version. -/
def VersionForm.edit : EditForm where
  Record := MetricVersion
  decode? := decode?
  Form := VersionForm
  fill := ofVersion
  Patch := VersionPatch
  submit := toUpdate
  encode := encode
  apply := VersionPatch.apply
  Field := Field
  name
    | .version => "version"
    | .status => "status"
    | .formulaSql => "formula_sql"
    | .formulaDsl => "formula_dsl"
    | .grain => "grain"
    | .dataSources => "data_sources"
    | .effectiveFrom => "effective_from"
    | .effectiveTo => "effective_to"
    | .notes => "notes"
  typed f
    | .version => f.version
    | .status => f.status
    | .formulaSql => f.formulaSql
    | .formulaDsl => f.formulaDsl
    | .grain => f.grain
    | .dataSources => f.dataSources
    | .effectiveFrom => f.effectiveFrom
    | .effectiveTo => f.effectiveTo
    | .notes => f.notes
  value v
    | .version => .text v.version
    | .status => .word v.status
    | .formulaSql => .text v.formulaSql
    | .formulaDsl => .dsl v.formulaDsl
    | .grain => .list v.grain
    | .dataSources => .list v.dataSources
    | .effectiveFrom => .date v.effectiveFrom
    | .effectiveTo => .date v.effectiveTo
    | .notes => .text v.notes

/-- The fields of a caliber that can be changed. -/
inductive CaliberForm.Field where
  | name
  | category
  | exprSql
  | exprDsl
  | valueFormat
  | unitOverride
  | notes
  deriving DecidableEq, Repr

/-- The form of a caliber. -/
def CaliberForm.edit : EditForm where
  Record := Caliber
  decode? := decode?
  Form := CaliberForm
  fill := ofCaliber
  Patch := CaliberPatch
  submit := toUpdate
  encode := encode
  apply := CaliberPatch.apply
  Field := Field
  name
    | .name => "name"
    | .category => "category"
    | .exprSql => "expr_sql"
    | .exprDsl => "expr_dsl"
    | .valueFormat => "value_format"
    | .unitOverride => "unit_override"
    | .notes => "notes"
  typed f
    | .name => f.name
    | .category => f.category
    | .exprSql => f.exprSql
    | .exprDsl => f.exprDsl
    | .valueFormat => f.valueFormat
    | .unitOverride => f.unitOverride
    | .notes => f.notes
  value c
    | .name => .word c.name
    | .category => .word c.category
    | .exprSql => .text c.exprSql
    | .exprDsl => .dsl c.exprDsl
    | .valueFormat => .text c.valueFormat
    | .unitOverride => .text c.unitOverride
    | .notes => .text c.notes

/-- The fields of a binding that can be changed. -/
inductive BindingForm.Field where
  | status
  | orderIndex
  | overrideExprSql
  | overrideExprDsl
  | overrideDataSources
  | notes
  deriving DecidableEq, Repr

/-- The form of a binding. -/
def BindingForm.edit : EditForm where
  Record := Binding
  decode? := decode?
  Form := BindingForm
  fill := ofBinding
  Patch := BindingPatch
  submit := toUpdate
  encode := encode
  apply := BindingPatch.apply
  Field := Field
  name
    | .status => "status"
    | .orderIndex => "order_index"
    | .overrideExprSql => "override_expr_sql"
    | .overrideExprDsl => "override_expr_dsl"
    | .overrideDataSources => "override_data_sources"
    | .notes => "notes"
  typed f
    | .status => f.status
    | .orderIndex => f.orderIndex
    | .overrideExprSql => f.overrideExprSql
    | .overrideExprDsl => f.overrideExprDsl
    | .overrideDataSources => f.overrideDataSources
    | .notes => f.notes
  value b
    | .status => .word b.status
    | .orderIndex => .order b.orderIndex
    | .overrideExprSql => .text b.overrideExprSql
    | .overrideExprDsl => .dsl b.overrideExprDsl
    | .overrideDataSources => .list b.overrideDataSources
    | .notes => .text b.notes

/-! ## How fields are read -/

/-- The form of a metric sends what its fields say. -/
theorem MetricForm.toUpdate_eq_ok {f : MetricForm} {d : MetricPatch} (ok : f.toUpdate = .ok d) :
    ∃ name kind, nonBlank? f.name = some name ∧ nonBlank? f.kind = some kind ∧
      d = ⟨some name, some kind, nonBlank? f.description, nonBlank? f.unit,
        nonBlank? f.subjectArea, nonBlank? f.owner, nonBlank? f.sensitivity, none⟩ := by
  simp only [toUpdate, Except.bind_eq_ok, Form.required_eq_ok] at ok
  obtain ⟨name, first, kind, second, ok⟩ := ok
  exact ⟨name, kind, first, second, (Except.ok.inj ok).symm⟩

theorem MetricForm.faithful : MetricForm.edit.Faithful where
  shown r x := by cases x <;> rfl
  after {f d} r x ok := by
    obtain ⟨name, kind, first, second, rfl⟩ := toUpdate_eq_ok ok
    cases x with
    | name => simp only [edit, MetricPatch.apply, FieldValue.after, first]
    | kind => simp only [edit, MetricPatch.apply, FieldValue.after, second]
    | _ => simp only [edit, MetricPatch.apply, FieldValue.after]
  patched d r x := by
    have sent (name : String) : (edit.encode d).member? name = MetricPatch.layout.sent d name :=
      Layout.member?_toJson (by decide) d name
    rw [sent]
    cases x <;> simp [edit, MetricPatch.layout, MetricPatch.apply, Layout.optional, Layout.sent,
      FieldValue.payload, Option.map_or]
  part {j r x dsl} _ same := by cases x <;> cases same
  code d := MetricPatch.layout.member?_toJson_eq_none (by decide) (by decide) d
  caliber d := MetricPatch.layout.member?_toJson_eq_none (by decide) (by decide) d

/-- The form of a version sends what its fields say. -/
theorem VersionForm.toUpdate_eq_ok {f : VersionForm} {d : VersionPatch} (ok : f.toUpdate = .ok d) :
    ∃ formula, Form.dsl f.formulaDsl = .ok formula ∧
      d = ⟨nonBlank? f.version, nonBlank? f.status, nonBlank? f.formulaSql, formula,
        CommaList.parse f.grain, CommaList.parse f.dataSources, nonBlank? f.notes,
        Date.ofField? f.effectiveFrom, Date.ofField? f.effectiveTo⟩ := by
  simp only [toUpdate, Except.bind_eq_ok] at ok
  obtain ⟨formula, first, ok⟩ := ok
  exact ⟨formula, first, (Except.ok.inj ok).symm⟩

/-- The formula of a version is a part of its payload. -/
theorem MetricVersion.part_formulaDsl {j dsl : Json} {v : MetricVersion} (read : decode? j = some v)
    (formula : v.formulaDsl = some dsl) : j.Part dsl := by
  obtain ⟨source, rfl, args, reads, rfl⟩ := Layout.reads_of_ofJson? (l := layout) read
  exact Layout.part_of_fieldValue? (reads.1.1.1.1.1.1.1.1.2.trans (congrArg some formula))

theorem VersionForm.faithful : VersionForm.edit.Faithful where
  shown r x := by cases x <;> rfl
  after {f d} r x ok := by
    obtain ⟨formula, first, rfl⟩ := toUpdate_eq_ok ok
    cases x with
    | formulaDsl => simp only [edit, VersionPatch.apply, FieldValue.after, first, Except.toOption,
        Option.join_some]
    | _ => simp only [edit, VersionPatch.apply, FieldValue.after]
  patched d r x := by
    have sent (name : String) : (edit.encode d).member? name = VersionPatch.layout.sent d name :=
      Layout.member?_toJson (by decide) d name
    rw [sent]
    cases x <;> simp [edit, VersionPatch.layout, VersionPatch.apply, Layout.optional, Layout.sent,
      FieldValue.payload, Option.map_or]
  part {j r x dsl} read same := by
    cases x with
    | formulaDsl => exact MetricVersion.part_formulaDsl read (FieldValue.dsl.inj same)
    | _ => cases same
  code d := VersionPatch.layout.member?_toJson_eq_none (by decide) (by decide) d
  caliber d := VersionPatch.layout.member?_toJson_eq_none (by decide) (by decide) d

/-- The form of a caliber sends what its fields say. -/
theorem CaliberForm.toUpdate_eq_ok {f : CaliberForm} {d : CaliberPatch} (ok : f.toUpdate = .ok d) :
    ∃ name category expr, nonBlank? f.name = some name ∧ nonBlank? f.category = some category ∧
      Form.dsl f.exprDsl = .ok expr ∧
      d = ⟨some name, some category, expr, nonBlank? f.exprSql, nonBlank? f.valueFormat,
        nonBlank? f.unitOverride, nonBlank? f.notes⟩ := by
  simp only [toUpdate, Except.bind_eq_ok, Form.required_eq_ok] at ok
  obtain ⟨name, first, category, second, expr, third, ok⟩ := ok
  exact ⟨name, category, expr, first, second, third, (Except.ok.inj ok).symm⟩

/-- The expression of a caliber is a part of its payload. -/
theorem Caliber.part_exprDsl {j dsl : Json} {c : Caliber} (read : decode? j = some c)
    (expr : c.exprDsl = some dsl) : j.Part dsl := by
  obtain ⟨source, rfl, args, reads, rfl⟩ := Layout.reads_of_ofJson? (l := layout) read
  exact Layout.part_of_fieldValue? (reads.1.1.1.1.1.2.trans (congrArg some expr))

theorem CaliberForm.faithful : CaliberForm.edit.Faithful where
  shown r x := by cases x <;> rfl
  after {f d} r x ok := by
    obtain ⟨name, category, expr, first, second, third, rfl⟩ := toUpdate_eq_ok ok
    cases x with
    | name => simp only [edit, CaliberPatch.apply, FieldValue.after, first]
    | category => simp only [edit, CaliberPatch.apply, FieldValue.after, second]
    | exprDsl => simp only [edit, CaliberPatch.apply, FieldValue.after, third, Except.toOption,
        Option.join_some]
    | _ => simp only [edit, CaliberPatch.apply, FieldValue.after]
  patched d r x := by
    have sent (name : String) : (edit.encode d).member? name = CaliberPatch.layout.sent d name :=
      Layout.member?_toJson (by decide) d name
    rw [sent]
    cases x <;> simp [edit, CaliberPatch.layout, CaliberPatch.apply, Layout.optional, Layout.sent,
      FieldValue.payload, Option.map_or]
  part {j r x dsl} read same := by
    cases x with
    | exprDsl => exact Caliber.part_exprDsl read (FieldValue.dsl.inj same)
    | _ => cases same
  code d := CaliberPatch.layout.member?_toJson_eq_none (by decide) (by decide) d
  caliber d := CaliberPatch.layout.member?_toJson_eq_none (by decide) (by decide) d

/-- The form of a binding sends what its fields say. -/
theorem BindingForm.toUpdate_eq_ok {f : BindingForm} {d : BindingPatch} (ok : f.toUpdate = .ok d) :
    ∃ order expr, Form.order f.orderIndex = .ok order ∧ Form.dsl f.overrideExprDsl = .ok expr ∧
      d = ⟨nonBlank? f.status, some order, nonBlank? f.overrideExprSql, expr,
        CommaList.parse f.overrideDataSources, nonBlank? f.notes⟩ := by
  simp only [toUpdate, Except.bind_eq_ok] at ok
  obtain ⟨order, first, expr, second, ok⟩ := ok
  exact ⟨order, expr, first, second, (Except.ok.inj ok).symm⟩

/-- The expression of a binding is a part of its payload. -/
theorem Binding.part_overrideExprDsl {j dsl : Json} {b : Binding} (read : decode? j = some b)
    (expr : b.overrideExprDsl = some dsl) : j.Part dsl := by
  obtain ⟨source, rfl, args, reads, rfl⟩ := Layout.reads_of_ofJson? (l := layout) read
  exact Layout.part_of_fieldValue? (reads.1.1.1.1.2.trans (congrArg some expr))

theorem BindingForm.faithful : BindingForm.edit.Faithful where
  shown r x := by cases x <;> rfl
  after {f d} r x ok := by
    obtain ⟨order, expr, first, second, rfl⟩ := toUpdate_eq_ok ok
    cases x with
    | orderIndex => simp only [edit, BindingPatch.apply, FieldValue.after, first, Except.toOption,
        Option.getD_some]
    | overrideExprDsl => simp only [edit, BindingPatch.apply, FieldValue.after, second,
        Except.toOption, Option.join_some]
    | _ => simp only [edit, BindingPatch.apply, FieldValue.after]
  patched d r x := by
    have sent (name : String) : (edit.encode d).member? name = BindingPatch.layout.sent d name :=
      Layout.member?_toJson (by decide) d name
    rw [sent]
    cases x <;> simp [edit, BindingPatch.layout, BindingPatch.apply, Layout.optional, Layout.sent,
      FieldValue.payload, Option.map_or]
  part {j r x dsl} read same := by
    cases x with
    | overrideExprDsl => exact Binding.part_overrideExprDsl read (FieldValue.dsl.inj same)
    | _ => cases same
  code d := BindingPatch.layout.member?_toJson_eq_none (by decide) (by decide) d
  caliber d := BindingPatch.layout.member?_toJson_eq_none (by decide) (by decide) d

/-! ## Untouched fields -/

/-- The fields of a record that was received hold JSON values that are read back. -/
theorem EditForm.Faithful.readable {e : EditForm} (faithful : e.Faithful) {s : String}
    {whole j : Json} {r : e.Record} (received : Json.parse s = .ok whole) (part : whole.Part j)
    (read : e.decode? j = some r)
    (numbers : ∀ x dsl, e.value r x = .dsl (some dsl) → dsl.Whole) (x : e.Field) :
    (e.value r x).Readable := by
  have fits := (Json.fits_of_parse received).part part
  cases value : e.value r x with
  | dsl found =>
    rintro dsl rfl
    exact ⟨fits.part (faithful.part read value), numbers x dsl value⟩
  | _ => trivial

/-- The forms that change records. -/
inductive Editor where
  | metric
  | version
  | caliber
  | binding
  deriving DecidableEq, Repr

namespace Editor

/-- How a form is filled and submitted. -/
def form : Editor → EditForm
  | .metric => MetricForm.edit
  | .version => VersionForm.edit
  | .caliber => CaliberForm.edit
  | .binding => BindingForm.edit

theorem faithful (e : Editor) : e.form.Faithful := by
  cases e with
  | metric => exact MetricForm.faithful
  | version => exact VersionForm.faithful
  | caliber => exact CaliberForm.faithful
  | binding => exact BindingForm.faithful

/-- A record is read from a part of a text that was received, and its form is edited in some fields
and submitted.  The change that is sent leaves another field as it is exactly if its value is clean,
and names neither the code nor the caliber.  Behind the change every field that is named has the
value that was sent for it, and every other field stays. -/
theorem untouched_iff_clean (e : Editor) {s : String} {whole j : Json} {r : e.form.Record}
    (received : Json.parse s = .ok whole) (part : whole.Part j) (read : e.form.decode? j = some r)
    (numbers : ∀ x dsl, e.form.value r x = .dsl (some dsl) → dsl.Whole)
    (edited : Set e.form.Field) {f : e.form.Form}
    (untouched : ∀ x ∉ edited, e.form.typed f x = e.form.typed (e.form.fill r) x)
    {d : e.form.Patch} (submitted : e.form.submit f = .ok d) :
    (∀ x ∉ edited,
      (e.form.value (e.form.apply d r) x = e.form.value r x ↔ (e.form.value r x).Clean)) ∧
    (∀ x, (e.form.value (e.form.apply d r) x).payload =
      ((e.form.encode d).member? (e.form.name x)).or (e.form.value r x).payload) ∧
    (e.form.encode d).member? "code" = none ∧
    (e.form.encode d).member? "caliber_id" = none := by
  refine ⟨fun x outside => ?_, e.faithful.patched d r, e.faithful.code d, e.faithful.caliber d⟩
  rw [e.faithful.after r x submitted, untouched x outside, e.faithful.shown r x]
  exact FieldValue.after_shown (e.faithful.readable received part read numbers x)

/-- A version with a formula, and with a comma in the name of a column. -/
def commaVersion : Json :=
  .obj [("created_at", .str "now"),
    ("formula_dsl", .obj [("args", .arr [.ofInt 1, .ofInt (-2)]), ("op", .str "sum")]),
    ("grain", .arr [.str "a,b"]), ("id", .ofInt 5), ("metric_id", .ofInt 3),
    ("status", .str "draft")]

theorem fits_commaVersion : commaVersion.Fits Json.maxDepth := by
  refine .obj (by decide) ?_
  simp only [List.forall_mem_cons]
  have formula : (Json.obj [("args", .arr [.ofInt 1, .ofInt (-2)]), ("op", .str "sum")]).Fits 126 :=
    .obj (by decide) (by simp [Json.Fits.num, Json.Fits.str, Json.Fits.arr, Json.ofInt])
  exact ⟨.str _, formula, .arr (by simp [Json.Fits.str]), .num _, .num _, .str _, nofun⟩

theorem whole_commaVersion : commaVersion.Whole := by
  refine .obj ?_
  simp only [List.forall_mem_cons]
  have formula : (Json.obj [("args", .arr [.ofInt 1, .ofInt (-2)]), ("op", .str "sum")]).Whole :=
    .obj (by simp [Json.Whole.num, Json.Whole.str, Json.Whole.arr, Json.ofInt])
  exact ⟨.str _, formula, .arr (by simp [Json.Whole.str]), .num (by decide) (by decide),
    .num (by decide) (by decide), .str _, nofun⟩

/-- Typing a note into the form of that version splits the column, and leaves the formula alone. -/
theorem untouched_iff_clean_commaVersion :
    ∃ v d, decode? commaVersion = some v ∧
      ({ VersionForm.ofVersion v with notes := "new" } : VersionForm).toUpdate = .ok d ∧
      (d.apply v).grain ≠ v.grain ∧ (d.apply v).formulaDsl = v.formulaDsl := by
  obtain ⟨v, read, grain, formula⟩ : ∃ v : MetricVersion, decode? commaVersion = some v ∧
      v.grain = some ["a,b"] ∧ v.formulaDsl =
        some (.obj [("args", .arr [.ofInt 1, .ofInt (-2)]), ("op", .str "sum")]) :=
    ⟨_, rfl, rfl, rfl⟩
  have received := Json.parse_pretty fits_commaVersion whole_commaVersion
  have numbers : ∀ x dsl, VersionForm.edit.value v x = .dsl (some dsl) → dsl.Whole :=
    fun x dsl same => whole_commaVersion.part (VersionForm.faithful.part read same)
  have part := MetricVersion.part_formulaDsl read formula
  obtain ⟨d, submitted⟩ : ∃ d,
      ({ VersionForm.ofVersion v with notes := "new" } : VersionForm).toUpdate = .ok d := by
    have shown := Form.dsl_pretty (fits_commaVersion.part part) (whole_commaVersion.part part)
    simp only [VersionForm.toUpdate, VersionForm.ofVersion, formula, Form.dslText, shown]
    exact ⟨_, rfl⟩
  have typed : ∀ x ∉ ({ x | x = .notes } : Set VersionForm.Field),
      VersionForm.edit.typed { VersionForm.ofVersion v with notes := "new" } x =
        VersionForm.edit.typed (VersionForm.ofVersion v) x := by
    intro x outside
    cases x with
    | notes => exact absurd rfl outside
    | _ => rfl
  have otherGrain : VersionForm.Field.grain ≠ .notes := by decide
  have otherFormula : VersionForm.Field.formulaDsl ≠ .notes := by decide
  have untouched :=
    (untouched_iff_clean .version received .self read numbers _ typed submitted).1
  refine ⟨v, d, read, submitted, fun same => ?_, ?_⟩
  · have clean := (untouched .grain otherGrain).mp (congrArg FieldValue.list same)
    rcases clean _ grain with void | items
    · exact absurd (void "a,b" (by decide) 'a' (by decide)) (by decide)
    · exact absurd (items "a,b" (by decide)) (by decide)
  · exact FieldValue.dsl.inj ((untouched .formulaDsl otherFormula).mpr trivial)

end Editor

end MetricConsole
