import MetricConsole.Proofs.Catalog.Settled
import MetricConsole.Proofs.Form.Created

/-!
# Opening a new record again

What the form of a new record sends is in normal form, and every field of a form reads a value in
normal form back from the text that shows it.  So the form for changing the record, filled from what
the server stored and returned, submits the values with which the record was made.

The JSON fields limit this in two ways.  A typed `null` is sent as a value and received as nothing,
and a number with a fraction need not be read as the number that was printed.

* `CaliberCreate.StoredIn`, `BindingCreate.StoredIn`, `VersionCreate.StoredIn`,
  `MetricCreate.StoredIn`: the records that hold what a body says.  There are always such records:
  `CaliberCreate.record`, `BindingCreate.record`, `VersionCreate.record`, `MetricCreate.record`.
* `CaliberCreate.unchanged`, `BindingCreate.unchanged`, `VersionCreate.unchanged`,
  `MetricCreate.unchanged`: the patches that say the same as a body.
* `Form.toCreate_reopens`: the four forms.
-/

namespace MetricConsole

open Text

/-- The field is blank, or holds a JSON value of whole numbers that is not `null`. -/
def Form.Storable (text : String) : Prop :=
  IsBlank text ∨ ∃ j, Json.parse text = .ok j ∧ j ≠ .null ∧ j.Whole

/-- The value in such a field. -/
theorem Form.Storable.value {text : String} {value : Option Json} (storable : Storable text)
    (read : dsl text = .ok value) : value ≠ some .null ∧ ∀ j ∈ value, j.Whole := by
  unfold dsl at read
  rcases storable with blank | ⟨j, parsed, present, whole⟩
  · rw [if_pos blank] at read
    cases read
    exact ⟨nofun, nofun⟩
  · split at read
    · cases read
      exact ⟨nofun, nofun⟩
    · rw [parsed] at read
      cases read
      refine ⟨fun null => present (Option.some.inj null), ?_⟩
      rintro _ ⟨⟩
      exact whole

/-- The body is read as it was sent.  Every record that stores it is read from its own payload as a
record that stores it too, and the form that is filled from any such record submits the patch. -/
structure Reopens {β ρ φ π : Type} [Codec β] [Codec ρ] (body : β) (Stores : ρ → Prop)
    (fill : ρ → φ) (submit : φ → Except FormFault π) (patch : π) : Prop where
  received : decode? (encode body) = some body
  returned : ∀ r, Stores r → ∃ r', decode? (encode r) = some r' ∧ Stores r'
  resubmitted : ∀ r, Stores r → submit (fill r) = .ok patch

/-- The form that is filled from what comes back of a stored record submits the patch. -/
theorem Reopens.reopened {β ρ φ π : Type} [Codec β] [Codec ρ] {body : β} {Stores : ρ → Prop}
    {fill : ρ → φ} {submit : φ → Except FormFault π} {patch : π}
    (reopens : Reopens body Stores fill submit patch) {r : ρ} (stored : Stores r) :
    ∃ r', decode? (encode r) = some r' ∧ submit (fill r') = .ok patch := by
  obtain ⟨r', read, kept⟩ := reopens.returned r stored
  exact ⟨r', read, reopens.resubmitted r' kept⟩

/-! ## Calibers -/

namespace CaliberCreate

/-- The caliber holds what the body says. -/
structure StoredIn (d : CaliberCreate) (c : Caliber) : Prop where
  code : c.code = d.code
  name : c.name = d.name
  category : c.category = d.category
  exprDsl : c.exprDsl = d.exprDsl
  exprSql : c.exprSql = d.exprSql
  valueFormat : c.valueFormat = d.valueFormat
  unitOverride : c.unitOverride = d.unitOverride
  notes : c.notes = d.notes

/-- The caliber that a server makes of the body. -/
def record (d : CaliberCreate) (id : Int64) (createdAt : String) : Caliber where
  id := id
  code := d.code
  name := d.name
  category := d.category
  exprDsl := d.exprDsl
  exprSql := d.exprSql
  valueFormat := d.valueFormat
  unitOverride := d.unitOverride
  notes := d.notes
  createdAt := createdAt

theorem storedIn_record (d : CaliberCreate) (id : Int64) (createdAt : String) :
    d.StoredIn (d.record id createdAt) :=
  ⟨rfl, rfl, rfl, rfl, rfl, rfl, rfl, rfl⟩

/-- The patch that says what the body says. -/
def unchanged (d : CaliberCreate) : CaliberPatch where
  name := some d.name
  category := some d.category
  exprDsl := d.exprDsl
  exprSql := d.exprSql
  valueFormat := d.valueFormat
  unitOverride := d.unitOverride
  notes := d.notes

variable {d : CaliberCreate} {c : Caliber}

theorem StoredIn.settled (stored : d.StoredIn c) (present : d.exprDsl ≠ some .null) :
    d.StoredIn c.settled :=
  { stored with
    exprDsl := (Json.settled_of_ne_null (stored.exprDsl ▸ present)).trans stored.exprDsl }

theorem StoredIn.resubmitted (stored : d.StoredIn c) (normal : d.Normal)
    (whole : ∀ j ∈ d.exprDsl, j.Whole) : (CaliberForm.ofCaliber c).toUpdate = .ok d.unchanged := by
  have name : Form.required "Name" d.name = .ok d.name :=
    Form.required_eq_ok.mpr (nonBlank?_eq_self_iff.mpr normal.name)
  have category : Form.required "Category" d.category = .ok d.category :=
    Form.required_eq_ok.mpr (nonBlank?_eq_self_iff.mpr normal.category)
  simp only [CaliberForm.toUpdate, CaliberForm.ofCaliber, stored.name, stored.category,
    stored.exprDsl, stored.exprSql, stored.valueFormat, stored.unitOverride, stored.notes, name,
    category, Form.dsl_dslText normal.exprDsl whole, nonBlank?_getD normal.exprSql,
    nonBlank?_getD normal.valueFormat, nonBlank?_getD normal.unitOverride,
    nonBlank?_getD normal.notes]
  rfl

end CaliberCreate

theorem CaliberForm.reopens_of_toCreate {f : CaliberForm} {d : CaliberCreate}
    (accepted : f.toCreate = .ok d) (storable : Form.Storable f.exprDsl) :
    Reopens d d.StoredIn CaliberForm.ofCaliber CaliberForm.toUpdate d.unchanged := by
  obtain ⟨present, whole⟩ : d.exprDsl ≠ some .null ∧ ∀ j ∈ d.exprDsl, j.Whole := by
    obtain ⟨_, _, _, expr, -, -, -, read, rfl⟩ := toCreate_eq_ok accepted
    exact storable.value read
  exact {
    received := CaliberCreate.keeps present
    returned := fun c stored => ⟨c.settled, c.decode?_encode, stored.settled present⟩
    resubmitted := fun _ stored => stored.resubmitted (normal_of_toCreate accepted) whole }

/-! ## Bindings -/

namespace BindingCreate

/-- The binding holds what the body says. -/
structure StoredIn (d : BindingCreate) (b : Binding) : Prop where
  caliberId : b.caliberId = d.caliberId
  status : b.status = d.status
  orderIndex : b.orderIndex = d.orderIndex
  overrideExprSql : b.overrideExprSql = d.overrideExprSql
  overrideExprDsl : b.overrideExprDsl = d.overrideExprDsl
  overrideDataSources : b.overrideDataSources = d.overrideDataSources
  notes : b.notes = d.notes

/-- The binding that a server makes of the body, with or without its caliber. -/
def record (d : BindingCreate) (id versionId : Int64) (createdAt : String)
    (caliber : Option Caliber) : Binding where
  id := id
  versionId := versionId
  caliberId := d.caliberId
  status := d.status
  orderIndex := d.orderIndex
  overrideExprSql := d.overrideExprSql
  overrideExprDsl := d.overrideExprDsl
  overrideDataSources := d.overrideDataSources
  notes := d.notes
  createdAt := createdAt
  caliber := caliber

theorem storedIn_record (d : BindingCreate) (id versionId : Int64) (createdAt : String)
    (caliber : Option Caliber) : d.StoredIn (d.record id versionId createdAt caliber) :=
  ⟨rfl, rfl, rfl, rfl, rfl, rfl, rfl⟩

/-- The patch that says what the body says. -/
def unchanged (d : BindingCreate) : BindingPatch where
  status := some d.status
  orderIndex := some d.orderIndex
  overrideExprSql := d.overrideExprSql
  overrideExprDsl := d.overrideExprDsl
  overrideDataSources := d.overrideDataSources
  notes := d.notes

variable {d : BindingCreate} {b : Binding}

theorem StoredIn.settled (stored : d.StoredIn b) (present : d.overrideExprDsl ≠ some .null) :
    d.StoredIn b.settled :=
  { stored with
    overrideExprDsl :=
      (Json.settled_of_ne_null (stored.overrideExprDsl ▸ present)).trans stored.overrideExprDsl }

theorem StoredIn.resubmitted (stored : d.StoredIn b) (normal : d.Normal)
    (whole : ∀ j ∈ d.overrideExprDsl, j.Whole) :
    (BindingForm.ofBinding b).toUpdate = .ok d.unchanged := by
  simp only [BindingForm.toUpdate, BindingForm.ofBinding, stored.status, stored.orderIndex,
    stored.overrideExprSql, stored.overrideExprDsl, stored.overrideDataSources, stored.notes,
    Form.order_render_of_nonneg normal.orderIndex, Form.dsl_dslText normal.overrideExprDsl whole,
    nonBlank?_eq_self_iff.mpr normal.status, nonBlank?_getD normal.overrideExprSql,
    Form.parse_render normal.overrideDataSources, nonBlank?_getD normal.notes]
  rfl

end BindingCreate

theorem BindingForm.reopens_of_toCreate {f : BindingForm} {d : BindingCreate}
    (accepted : f.toCreate = .ok d) (storable : Form.Storable f.overrideExprDsl) :
    Reopens d d.StoredIn BindingForm.ofBinding BindingForm.toUpdate d.unchanged := by
  obtain ⟨present, whole⟩ : d.overrideExprDsl ≠ some .null ∧ ∀ j ∈ d.overrideExprDsl, j.Whole := by
    obtain ⟨_, _, expr, -, -, read, rfl⟩ := toCreate_eq_ok accepted
    exact storable.value read
  exact {
    received := BindingCreate.keeps present
    returned := fun b stored => ⟨b.settled, b.decode?_encode, stored.settled present⟩
    resubmitted := fun _ stored => stored.resubmitted (normal_of_toCreate accepted) whole }

/-! ## Versions -/

namespace VersionCreate

/-- The version holds what the body says. -/
structure StoredIn (d : VersionCreate) (v : MetricVersion) : Prop where
  version : v.version = d.version
  status : v.status = d.status
  formulaSql : v.formulaSql = d.formulaSql
  formulaDsl : v.formulaDsl = d.formulaDsl
  grain : v.grain = some d.grain
  dataSources : v.dataSources = d.dataSources
  notes : v.notes = d.notes
  effectiveFrom : v.effectiveFrom = some d.effectiveFrom
  effectiveTo : v.effectiveTo = d.effectiveTo

/-- The version that a server makes of the body. -/
def record (d : VersionCreate) (id metricId : Int64) (createdAt : String) : MetricVersion where
  id := id
  metricId := metricId
  version := d.version
  status := d.status
  formulaSql := d.formulaSql
  formulaDsl := d.formulaDsl
  grain := some d.grain
  dataSources := d.dataSources
  notes := d.notes
  effectiveFrom := some d.effectiveFrom
  effectiveTo := d.effectiveTo
  subjectArea := none
  createdAt := createdAt
  bindings := []

theorem storedIn_record (d : VersionCreate) (id metricId : Int64) (createdAt : String) :
    d.StoredIn (d.record id metricId createdAt) :=
  ⟨rfl, rfl, rfl, rfl, rfl, rfl, rfl, rfl, rfl⟩

/-- The patch that says what the body says. -/
def unchanged (d : VersionCreate) : VersionPatch where
  version := d.version
  status := some d.status
  formulaSql := d.formulaSql
  formulaDsl := d.formulaDsl
  grain := some d.grain
  dataSources := d.dataSources
  notes := d.notes
  effectiveFrom := some d.effectiveFrom
  effectiveTo := d.effectiveTo

variable {d : VersionCreate} {v : MetricVersion}

theorem StoredIn.settled (stored : d.StoredIn v) (present : d.formulaDsl ≠ some .null) :
    d.StoredIn v.settled :=
  { stored with
    formulaDsl := (Json.settled_of_ne_null (stored.formulaDsl ▸ present)).trans stored.formulaDsl }

theorem StoredIn.resubmitted (stored : d.StoredIn v) (normal : d.Normal)
    (whole : ∀ j ∈ d.formulaDsl, j.Whole) :
    (VersionForm.ofVersion v).toUpdate = .ok d.unchanged := by
  have grain : CommaList.parse (CommaList.render (some d.grain)) = some d.grain :=
    (CommaList.parse_render_eq_some_iff d.grain).mpr normal.grain
  simp only [VersionForm.toUpdate, VersionForm.ofVersion, stored.version, stored.status,
    stored.formulaSql, stored.formulaDsl, stored.grain, stored.dataSources, stored.notes,
    stored.effectiveFrom, stored.effectiveTo, grain, Form.dsl_dslText normal.formulaDsl whole,
    nonBlank?_getD normal.version, nonBlank?_eq_self_iff.mpr normal.status,
    nonBlank?_getD normal.formulaSql, Form.parse_render normal.dataSources,
    nonBlank?_getD normal.notes, Form.ofField?_fieldText]
  rfl

end VersionCreate

/-- The JSON value of a version is one that is stored and shown. -/
theorem VersionForm.storable_of_toCreate {f : VersionForm} {d : VersionCreate}
    (accepted : f.toCreate = .ok d) (storable : Form.Storable f.formulaDsl) :
    d.formulaDsl ≠ some .null ∧ ∀ j ∈ d.formulaDsl, j.Whole := by
  obtain ⟨_, _, _, formula, -, -, -, -, read, rfl⟩ := toCreate_eq_ok accepted
  exact storable.value read

theorem VersionForm.reopens_of_toCreate {f : VersionForm} {d : VersionCreate}
    (accepted : f.toCreate = .ok d) (storable : Form.Storable f.formulaDsl) :
    Reopens d d.StoredIn VersionForm.ofVersion VersionForm.toUpdate d.unchanged := by
  obtain ⟨present, whole⟩ := storable_of_toCreate accepted storable
  exact {
    received := VersionCreate.keeps present
    returned := fun v stored => ⟨v.settled, v.decode?_encode, stored.settled present⟩
    resubmitted := fun _ stored => stored.resubmitted (normal_of_toCreate accepted) whole }

/-! ## Metrics -/

namespace MetricCreate

/-- The metric holds what the body says, and one of its versions what the body says of the first. -/
structure StoredIn (d : MetricCreate) (m : Metric) : Prop where
  code : m.code = d.code
  name : m.name = d.name
  kind : m.kind = d.kind
  unit : m.unit = d.unit
  subjectArea : m.subjectArea = d.subjectArea
  owner : m.owner = d.owner
  sensitivity : m.sensitivity = d.sensitivity
  description : m.description = d.description
  initialVersion : ∃ v ∈ m.versions, d.initialVersion.StoredIn v

/-- The metric that a server makes of the body. -/
def record (d : MetricCreate) (id versionId : Int64) (createdAt : String) : Metric where
  id := id
  code := d.code
  name := d.name
  kind := d.kind
  unit := d.unit
  subjectArea := d.subjectArea
  owner := d.owner
  sensitivity := d.sensitivity
  description := d.description
  createdBy := d.createdBy
  updatedBy := d.updatedBy
  createdAt := createdAt
  updatedAt := createdAt
  versions := [d.initialVersion.record versionId id createdAt]

theorem storedIn_record (d : MetricCreate) (id versionId : Int64) (createdAt : String) :
    d.StoredIn (d.record id versionId createdAt) :=
  ⟨rfl, rfl, rfl, rfl, rfl, rfl, rfl, rfl, _, List.mem_singleton_self _,
    d.initialVersion.storedIn_record versionId id createdAt⟩

/-- The patch that says what the body says. -/
def unchanged (d : MetricCreate) : MetricPatch where
  name := some d.name
  kind := some d.kind
  description := d.description
  unit := d.unit
  subjectArea := d.subjectArea
  owner := d.owner
  sensitivity := some d.sensitivity
  updatedBy := d.updatedBy

variable {d : MetricCreate} {m : Metric}

theorem StoredIn.settled (stored : d.StoredIn m)
    (present : d.initialVersion.formulaDsl ≠ some .null) : d.StoredIn m.settled := by
  obtain ⟨v, mem, first⟩ := stored.initialVersion
  exact { stored with
    initialVersion := ⟨v.settled, List.mem_map_of_mem mem, first.settled present⟩ }

theorem StoredIn.resubmitted (stored : d.StoredIn m) (normal : d.Normal)
    (nobody : d.updatedBy = none) : (MetricForm.ofMetric m).toUpdate = .ok d.unchanged := by
  have name : Form.required "Name" d.name = .ok d.name :=
    Form.required_eq_ok.mpr (nonBlank?_eq_self_iff.mpr normal.name)
  have kind : Form.required "Type" d.kind = .ok d.kind :=
    Form.required_eq_ok.mpr (nonBlank?_eq_self_iff.mpr normal.kind)
  simp only [MetricForm.toUpdate, MetricForm.ofMetric, stored.name, stored.kind, stored.unit,
    stored.subjectArea, stored.owner, stored.sensitivity, stored.description, name, kind,
    nonBlank?_getD normal.unit, nonBlank?_getD normal.subjectArea,
    nonBlank?_getD normal.owner, nonBlank?_eq_self_iff.mpr normal.sensitivity,
    nonBlank?_getD normal.description, unchanged, nobody]
  rfl

end MetricCreate

theorem MetricForm.reopens_of_toCreate {f : MetricForm} {version : VersionForm} {d : MetricCreate}
    (accepted : f.toCreate version = .ok d) (storable : Form.Storable version.formulaDsl) :
    Reopens d d.StoredIn MetricForm.ofMetric MetricForm.toUpdate d.unchanged ∧
      Reopens d.initialVersion d.initialVersion.StoredIn VersionForm.ofVersion
        VersionForm.toUpdate d.initialVersion.unchanged := by
  have normal := normal_of_toCreate accepted
  obtain ⟨code, name, kind, first, -, -, -, made, rfl⟩ := toCreate_eq_ok accepted
  obtain ⟨present, -⟩ := VersionForm.storable_of_toCreate made storable
  refine ⟨?_, VersionForm.reopens_of_toCreate made storable⟩
  exact {
    received := MetricCreate.keeps present
    returned := fun m stored => ⟨m.settled, m.decode?_encode, stored.settled present⟩
    resubmitted := fun _ stored => stored.resubmitted normal rfl }

/-! ## The four forms -/

/-- What a form for new records sends is stored, returned and shown so that the form for changing
the record, submitted as it is, names every value that was sent and no other. -/
theorem Form.toCreate_reopens :
    (∀ (f : MetricForm) (version : VersionForm) (d : MetricCreate),
      f.toCreate version = .ok d → Storable version.formulaDsl →
        Reopens d d.StoredIn MetricForm.ofMetric MetricForm.toUpdate d.unchanged ∧
        Reopens d.initialVersion d.initialVersion.StoredIn VersionForm.ofVersion
          VersionForm.toUpdate d.initialVersion.unchanged) ∧
    (∀ (f : VersionForm) (d : VersionCreate), f.toCreate = .ok d → Storable f.formulaDsl →
      Reopens d d.StoredIn VersionForm.ofVersion VersionForm.toUpdate d.unchanged) ∧
    (∀ (f : CaliberForm) (d : CaliberCreate), f.toCreate = .ok d → Storable f.exprDsl →
      Reopens d d.StoredIn CaliberForm.ofCaliber CaliberForm.toUpdate d.unchanged) ∧
    ∀ (f : BindingForm) (d : BindingCreate), f.toCreate = .ok d → Storable f.overrideExprDsl →
      Reopens d d.StoredIn BindingForm.ofBinding BindingForm.toUpdate d.unchanged :=
  ⟨fun _ _ _ => MetricForm.reopens_of_toCreate, fun _ _ => VersionForm.reopens_of_toCreate,
    fun _ _ => CaliberForm.reopens_of_toCreate, fun _ _ => BindingForm.reopens_of_toCreate⟩

/-! ## Four records -/

/-- A metric with blanks around its code and its name, and an owner that is all blank. -/
def MetricForm.padded : MetricForm :=
  { empty with code := " GWP ", name := "Gross\n", kind := "atomic", owner := "\t" }

/-- A version with a formula, blanks around its columns and dates in two forms. -/
def VersionForm.padded : VersionForm :=
  { empty with
    grain := " day,, company ", formulaDsl := "\t\x7b\"op\": [\"sum\", -1, null]\x7d"
    effectiveFrom := "2024-1-5", effectiveTo := " +2024-12-31" }

/-- A caliber with a blank behind its name and nothing else but its code. -/
def CaliberForm.padded : CaliberForm :=
  { empty with code := "C", name := "n " }

/-- A binding with a sign before the id of its caliber and a list with a blank in it. -/
def BindingForm.padded : BindingForm :=
  { empty with caliberId := " +7", overrideDataSources := "a ,b" }

theorem VersionForm.storable_padded : Form.Storable padded.formulaDsl := by
  refine .inr ⟨.obj [("op", .arr [.str "sum", .ofInt (-1), .null])], rfl, nofun, .obj ?_⟩
  simp [Json.Whole.arr, Json.Whole.str, Json.Whole.num, Json.Whole.null, Json.ofInt]

/-- These four records are made, returned and opened again. -/
theorem Form.toCreate_reopens_padded :
    (∃ d m, MetricForm.padded.toCreate .padded = .ok d ∧
      decode? (encode (d.record 3 5 "now")) = some m ∧
      (MetricForm.ofMetric m).toUpdate = .ok d.unchanged) ∧
    (∃ d v, VersionForm.padded.toCreate = .ok d ∧
      decode? (encode (d.record 5 3 "now")) = some v ∧
      (VersionForm.ofVersion v).toUpdate = .ok d.unchanged) ∧
    (∃ d c, CaliberForm.padded.toCreate = .ok d ∧
      decode? (encode (d.record 7 "now")) = some c ∧
      (CaliberForm.ofCaliber c).toUpdate = .ok d.unchanged) ∧
    ∃ d b, BindingForm.padded.toCreate = .ok d ∧
      decode? (encode (d.record 9 5 "now" none)) = some b ∧
      (BindingForm.ofBinding b).toUpdate = .ok d.unchanged := by
  refine ⟨?metric, ?version, ?caliber, ?binding⟩
  case metric =>
    obtain ⟨d, accepted⟩ : ∃ d, MetricForm.padded.toCreate .padded = .ok d := ⟨_, rfl⟩
    have reopens := Form.toCreate_reopens.1 _ _ d accepted VersionForm.storable_padded
    obtain ⟨m, read, submitted⟩ := reopens.1.reopened (d.storedIn_record 3 5 "now")
    exact ⟨d, m, accepted, read, submitted⟩
  case version =>
    obtain ⟨d, accepted⟩ : ∃ d, VersionForm.padded.toCreate = .ok d := ⟨_, rfl⟩
    have reopens := Form.toCreate_reopens.2.1 _ d accepted VersionForm.storable_padded
    obtain ⟨v, read, submitted⟩ := reopens.reopened (d.storedIn_record 5 3 "now")
    exact ⟨d, v, accepted, read, submitted⟩
  case caliber =>
    obtain ⟨d, accepted⟩ : ∃ d, CaliberForm.padded.toCreate = .ok d := ⟨_, rfl⟩
    have reopens := Form.toCreate_reopens.2.2.1 _ d accepted (.inl (by decide))
    obtain ⟨c, read, submitted⟩ := reopens.reopened (d.storedIn_record 7 "now")
    exact ⟨d, c, accepted, read, submitted⟩
  case binding =>
    obtain ⟨d, accepted⟩ : ∃ d, BindingForm.padded.toCreate = .ok d := ⟨_, rfl⟩
    have reopens := Form.toCreate_reopens.2.2.2 _ d accepted (.inl (by decide))
    obtain ⟨b, read, submitted⟩ := reopens.reopened (d.storedIn_record 9 5 "now" none)
    exact ⟨d, b, accepted, read, submitted⟩

end MetricConsole
