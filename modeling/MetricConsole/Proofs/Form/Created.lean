import MetricConsole.Form.Binding
import MetricConsole.Form.Caliber
import MetricConsole.Form.Metric
import MetricConsole.Proofs.Form.Field

/-!
# What the form of a new record asks for

A form for a new record has requirements, in an order of its own.  It is accepted if what was typed
meets them all, and otherwise it is refused for the first one that is not met.  The body of the
request is then in a normal form: no text has blanks at its ends or is empty, no list is empty or
has an item that the text of a list cannot hold, and no range of dates ends before it starts.

* `Checks`: accepting a form, and refusing it, for the requirements in a list.
* `MetricForm.requirements`, `VersionForm.requirements`, `CaliberForm.requirements`,
  `BindingForm.requirements`: the requirements of the four forms.
* `MetricCreate.Normal`, `VersionCreate.Normal`, `CaliberCreate.Normal`, `BindingCreate.Normal`: the
  normal forms.
* `Form.toCreate_exact`: the four forms check exactly their requirements.
-/

namespace MetricConsole

open Text

/-! ## Requirements -/

/-- Something that a form asks of what is typed into it. -/
structure Requirement where
  Met : Prop
  /-- The faults that say that it is not met. -/
  Named : FormFault → Prop

/-- All requirements before some one are met, and the fault says that this one is not. -/
def FirstUnmet (fault : FormFault) (rs : List Requirement) : Prop :=
  ∃ before r after, rs = before ++ r :: after ∧ (∀ b ∈ before, b.Met) ∧ ¬r.Met ∧ r.Named fault

theorem not_firstUnmet_nil {fault : FormFault} : ¬FirstUnmet fault [] := by
  rintro ⟨before, r, after, split, -⟩
  simp at split

theorem firstUnmet_cons_iff {fault : FormFault} {r : Requirement} {rs : List Requirement} :
    FirstUnmet fault (r :: rs) ↔
      ¬r.Met ∧ r.Named fault ∨ r.Met ∧ FirstUnmet fault rs := by
  constructor
  · rintro ⟨_ | ⟨b, before⟩, s, after, split, met, unmet, named⟩
    · obtain ⟨rfl, rfl⟩ := List.cons.inj split
      exact .inl ⟨unmet, named⟩
    · obtain ⟨rfl, rfl⟩ := List.cons.inj split
      obtain ⟨here, met⟩ := List.forall_mem_cons.mp met
      exact .inr ⟨here, before, s, after, rfl, met, unmet, named⟩
  · rintro (⟨unmet, named⟩ | ⟨here, before, s, after, rfl, met, unmet, named⟩)
    · exact ⟨[], r, rs, rfl, nofun, unmet, named⟩
    · exact ⟨r :: before, s, after, rfl, List.forall_mem_cons.mpr ⟨here, met⟩, unmet, named⟩

theorem firstUnmet_append_iff {fault : FormFault} {rs ss : List Requirement} :
    FirstUnmet fault (rs ++ ss) ↔
      FirstUnmet fault rs ∨ (∀ r ∈ rs, r.Met) ∧ FirstUnmet fault ss := by
  induction rs with
  | nil => simp [not_firstUnmet_nil]
  | cons r rs ih =>
    rw [List.cons_append, firstUnmet_cons_iff, firstUnmet_cons_iff, ih, List.forall_mem_cons]
    tauto

/-- The result is a value if all requirements are met, and else a fault that says which is the first
that is not. -/
structure Checks {α : Type} (result : Except FormFault α) (rs : List Requirement) : Prop where
  ok_iff : (∃ a, result = .ok a) ↔ ∀ r ∈ rs, r.Met
  error_iff : ∀ fault, result = .error fault ↔ FirstUnmet fault rs

namespace Checks

variable {α β : Type}

/-- Nothing is asked for where there is a value. -/
theorem ok (a : α) : Checks (.ok a) [] where
  ok_iff := by simp
  error_iff fault := by simp [not_firstUnmet_nil]

/-- A requirement that is met is passed over. -/
theorem met {r : Requirement} {rs : List Requirement} {result : Except FormFault α} (here : r.Met)
    (rest : Checks result rs) : Checks result (r :: rs) where
  ok_iff := by rw [rest.ok_iff, List.forall_mem_cons, and_iff_right here]
  error_iff fault := by
    rw [rest.error_iff, firstUnmet_cons_iff]
    simp [here]

/-- A requirement that is not met is refused with its one fault. -/
theorem refused {r : Requirement} {rs : List Requirement} {fault : FormFault} (unmet : ¬r.Met)
    (named : ∀ other, r.Named other ↔ other = fault) :
    Checks (.error fault : Except FormFault α) (r :: rs) where
  ok_iff := by simp [unmet]
  error_iff other := by
    rw [firstUnmet_cons_iff, named]
    simp [unmet, eq_comm]

/-- What comes after is checked once everything before is met. -/
theorem bind {x : Except FormFault α} {next : α → Except FormFault β} {rs ss : List Requirement}
    (before : Checks x rs) (after : ∀ a, x = .ok a → Checks (next a) ss) :
    Checks (x >>= next) (rs ++ ss) := by
  cases x with
  | error fault =>
    -- the fault is one of the first part, so nothing is asked of the second
    have missed : ¬∀ r ∈ rs, r.Met := fun met => by
      obtain ⟨a, accepted⟩ := before.ok_iff.mpr met
      cases accepted
    constructor
    · simp only [List.forall_mem_append, missed, false_and, iff_false]
      rintro ⟨b, ⟨⟩⟩
    · intro other
      rw [firstUnmet_append_iff, ← before.error_iff other]
      simp [missed, Bind.bind, Except.bind]
  | ok a =>
    have met := before.ok_iff.mp ⟨a, rfl⟩
    have rest := after a rfl
    constructor
    · rw [List.forall_mem_append, ← rest.ok_iff]
      exact (and_iff_right met).symm
    · intro fault
      rw [firstUnmet_append_iff, ← before.error_iff fault, ← rest.error_iff fault]
      simp only [reduceCtorEq, false_or, and_iff_right met]
      rfl

end Checks

/-! ## Fields -/

namespace Requirement

/-- The field is not blank. -/
def filled (field text : String) : Requirement where
  Met := ¬IsBlank text
  Named fault := fault = .missing field

/-- One of the pieces between the commas is not blank. -/
def listed (field text : String) : Requirement where
  Met := ∃ piece ∈ splitOn ',' text.toList, ¬IsBlank (String.ofList piece)
  Named fault := fault = .missing field

/-- Both fields hold dates. -/
def dated (first last : String) : Requirement where
  Met := (∃ d, Date.ofField? first = some d) ∧ ∃ d, Date.ofField? last = some d
  Named fault := fault = .rangeMissing

/-- The first of the two dates is not after the last. -/
def ordered (first last : String) : Requirement where
  Met := ∃ d e, Date.ofField? first = some d ∧ Date.ofField? last = some e ∧ (d < e ∨ d = e)
  Named fault := fault = .rangeReversed

/-- The field is blank or holds a JSON value. -/
def json (text : String) : Requirement where
  Met := IsBlank text ∨ ∃ j, Json.parse text = .ok j
  Named fault := ∃ reason, Json.parse text = .error reason ∧ fault = .badDsl text reason

/-- The field holds the numeral of a word of 64 bits, with or without blanks around it. -/
def caliber (text : String) : Requirement where
  Met := ∃ n : Int64, Integer.Numeral (trim text).toList n.toInt
  Named fault := fault = .caliberMissing

/-- The field is blank or holds the numeral of a word of 32 bits that is not negative. -/
def position (text : String) : Requirement where
  Met := IsBlank text ∨ ∃ n : Int32, 0 ≤ n ∧ Integer.Numeral (trim text).toList n.toInt
  Named fault := fault = .badOrder

section Named

variable {fault : FormFault} {field text first last : String}

@[simp]
theorem named_filled : (filled field text).Named fault ↔ fault = .missing field := .rfl

@[simp]
theorem named_listed : (listed field text).Named fault ↔ fault = .missing field := .rfl

@[simp]
theorem named_dated : (dated first last).Named fault ↔ fault = .rangeMissing := .rfl

@[simp]
theorem named_ordered : (ordered first last).Named fault ↔ fault = .rangeReversed := .rfl

@[simp]
theorem named_json : (json text).Named fault ↔
    ∃ reason, Json.parse text = .error reason ∧ fault = .badDsl text reason := .rfl

@[simp]
theorem named_caliber : (caliber text).Named fault ↔ fault = .caliberMissing := .rfl

@[simp]
theorem named_position : (position text).Named fault ↔ fault = .badOrder := .rfl

end Named

end Requirement

namespace Form

theorem checks_required (field text : String) :
    Checks (required field text) [.filled field text] := by
  unfold required
  by_cases blank : IsBlank text
  · rw [nonBlank?_eq_none_iff.mpr blank]
    exact .refused (not_not.mpr blank) fun _ => Requirement.named_filled
  · rw [nonBlank?_eq_some_iff.mpr ⟨rfl, blank⟩]
    exact .met blank (.ok _)

theorem checks_dsl (text : String) : Checks (dsl text) [.json text] := by
  unfold dsl
  by_cases blank : IsBlank text
  · rw [if_pos blank]
    exact .met (.inl blank) (.ok _)
  · rw [if_neg blank]
    cases parsed : Json.parse text with
    | ok j => exact .met (.inr ⟨j, parsed⟩) (.ok _)
    | error reason =>
      refine .refused ?_ fun other => ?_
      · simp [Requirement.json, blank, parsed]
      · simp [parsed]

theorem checks_order (text : String) : Checks (order text) [.position text] := by
  have met : (∃ n, order text = .ok n) ↔ (Requirement.position text).Met := by
    simp [order_eq_ok_iff, Requirement.position, exists_or, and_comm]
  refine ⟨by rw [met, List.forall_mem_singleton], fun fault => ?_⟩
  rw [order_eq_error_iff, met, firstUnmet_cons_iff, Requirement.named_position]
  simp [not_firstUnmet_nil, and_comm]

end Form

/-! ## Versions -/

namespace VersionForm

theorem checks_grainItems (f : VersionForm) : Checks f.grainItems [.listed "Grain" f.grain] := by
  have blank : CommaList.parse f.grain = none ↔ ¬(Requirement.listed "Grain" f.grain).Met := by
    simp [CommaList.parse_eq_none_iff, CommaList.items, nonBlank?_eq_none_iff, Requirement.listed]
  unfold grainItems
  cases read : CommaList.parse f.grain with
  | none => exact .refused (blank.mp read) fun _ => Requirement.named_listed
  | some items => exact .met (not_not.mp (mt blank.mpr (by simp [read]))) (.ok items)

theorem checks_range (f : VersionForm) :
    Checks f.range
      [.dated f.effectiveFrom f.effectiveTo, .ordered f.effectiveFrom f.effectiveTo] := by
  unfold range
  split
  · next d e first last =>
    refine .met ⟨⟨d, first⟩, e, last⟩ ?_
    by_cases reversed : e < d
    · rw [if_pos reversed]
      refine .refused ?_ fun _ => Requirement.named_ordered
      simp [Requirement.ordered, first, last, ← Date.not_lt_iff, reversed]
    · rw [if_neg reversed]
      exact .met ⟨d, e, first, last, Date.not_lt_iff.mp reversed⟩ (.ok _)
  · next undated =>
    exact .refused (fun ⟨⟨d, first⟩, e, last⟩ => undated d e first last) fun _ =>
      Requirement.named_dated

/-- What a new version needs. -/
def requirements (f : VersionForm) : List Requirement :=
  [.listed "Grain" f.grain, .dated f.effectiveFrom f.effectiveTo,
    .ordered f.effectiveFrom f.effectiveTo, .json f.formulaDsl]

theorem checks_toCreate (f : VersionForm) : Checks f.toCreate f.requirements :=
  f.checks_grainItems.bind fun _ _ => f.checks_range.bind fun _ _ =>
    (Form.checks_dsl f.formulaDsl).bind fun _ _ => .ok _

end VersionForm

/-! ## Metrics -/

namespace MetricForm

/-- What a new metric needs, its first version included. -/
def requirements (f : MetricForm) (version : VersionForm) : List Requirement :=
  [.filled "Code" f.code, .filled "Name" f.name, .filled "Type" f.kind] ++ version.requirements

theorem checks_toCreate (f : MetricForm) (version : VersionForm) :
    Checks (f.toCreate version) (f.requirements version) :=
  (Form.checks_required "Code" f.code).bind fun _ _ =>
    (Form.checks_required "Name" f.name).bind fun _ _ =>
      (Form.checks_required "Type" f.kind).bind fun _ _ =>
        List.append_nil version.requirements ▸ version.checks_toCreate.bind fun _ _ => .ok _

end MetricForm

/-! ## Calibers -/

namespace CaliberForm

/-- What a new caliber needs. -/
def requirements (f : CaliberForm) : List Requirement :=
  [.filled "Code" f.code, .filled "Name" f.name, .filled "Category" f.category, .json f.exprDsl]

theorem checks_toCreate (f : CaliberForm) : Checks f.toCreate f.requirements :=
  (Form.checks_required "Code" f.code).bind fun _ _ =>
    (Form.checks_required "Name" f.name).bind fun _ _ =>
      (Form.checks_required "Category" f.category).bind fun _ _ =>
        (Form.checks_dsl f.exprDsl).bind fun _ _ => .ok _

end CaliberForm

/-! ## Bindings -/

namespace BindingForm

theorem checks_selectedCaliber (f : BindingForm) :
    Checks f.selectedCaliber [.caliber f.caliberId] := by
  unfold selectedCaliber
  cases parsed : Integer.parseInt64? (trim f.caliberId) with
  | none =>
    refine .refused (fun ⟨n, numeral⟩ => ?_) fun _ => Requirement.named_caliber
    simp [Integer.parseInt64?_eq_some_iff.mpr numeral] at parsed
  | some n => exact .met ⟨n, Integer.parseInt64?_eq_some_iff.mp parsed⟩ (.ok n)

/-- What a new binding needs. -/
def requirements (f : BindingForm) : List Requirement :=
  [.caliber f.caliberId, .position f.orderIndex, .json f.overrideExprDsl]

theorem checks_toCreate (f : BindingForm) : Checks f.toCreate f.requirements :=
  f.checks_selectedCaliber.bind fun _ _ => (Form.checks_order f.orderIndex).bind fun _ _ =>
    (Form.checks_dsl f.overrideExprDsl).bind fun _ _ => .ok _

end BindingForm

/-! ## What is sent -/

/-- The body for a new version, as forms send it. -/
structure VersionCreate.Normal (d : VersionCreate) : Prop where
  version : ∀ s ∈ d.version, IsSolid s
  status : IsSolid d.status
  formulaSql : ∀ s ∈ d.formulaSql, IsSolid s
  formulaDsl : ∀ j ∈ d.formulaDsl, j.Fits Json.maxDepth
  grain : d.grain ≠ [] ∧ ∀ x ∈ d.grain, CommaList.IsClean x
  dataSources : ∀ xs ∈ d.dataSources, xs ≠ [] ∧ ∀ x ∈ xs, CommaList.IsClean x
  notes : ∀ s ∈ d.notes, IsSolid s
  range : ∃ last, d.effectiveTo = some last ∧ (d.effectiveFrom < last ∨ d.effectiveFrom = last)

/-- The body for a new metric, as forms send it. -/
structure MetricCreate.Normal (d : MetricCreate) : Prop where
  code : IsSolid d.code
  name : IsSolid d.name
  kind : IsSolid d.kind
  unit : ∀ s ∈ d.unit, IsSolid s
  subjectArea : ∀ s ∈ d.subjectArea, IsSolid s
  owner : ∀ s ∈ d.owner, IsSolid s
  sensitivity : IsSolid d.sensitivity
  description : ∀ s ∈ d.description, IsSolid s
  createdBy : ∀ s ∈ d.createdBy, IsSolid s
  updatedBy : ∀ s ∈ d.updatedBy, IsSolid s
  initialVersion : d.initialVersion.Normal

/-- The body for a new caliber, as forms send it. -/
structure CaliberCreate.Normal (d : CaliberCreate) : Prop where
  code : IsSolid d.code
  name : IsSolid d.name
  category : IsSolid d.category
  exprDsl : ∀ j ∈ d.exprDsl, j.Fits Json.maxDepth
  exprSql : ∀ s ∈ d.exprSql, IsSolid s
  valueFormat : ∀ s ∈ d.valueFormat, IsSolid s
  unitOverride : ∀ s ∈ d.unitOverride, IsSolid s
  notes : ∀ s ∈ d.notes, IsSolid s

/-- The body for a new binding, as forms send it. -/
structure BindingCreate.Normal (d : BindingCreate) : Prop where
  status : IsSolid d.status
  orderIndex : 0 ≤ d.orderIndex
  overrideExprSql : ∀ s ∈ d.overrideExprSql, IsSolid s
  overrideExprDsl : ∀ j ∈ d.overrideExprDsl, j.Fits Json.maxDepth
  overrideDataSources : ∀ xs ∈ d.overrideDataSources, xs ≠ [] ∧ ∀ x ∈ xs, CommaList.IsClean x
  notes : ∀ s ∈ d.notes, IsSolid s

/-- A text that is left out gives way to a usual one. -/
theorem isSolid_getD_nonBlank? {typed usual : String} (solid : IsSolid usual) :
    IsSolid ((nonBlank? typed).getD usual) := by
  cases left : nonBlank? typed with
  | none => exact solid
  | some s => exact isSolid_nonBlank? typed s left

theorem Form.nonneg_of_order {text : String} {n : Int32} (read : order text = .ok n) : 0 ≤ n := by
  rcases order_eq_ok_iff.mp read with ⟨-, rfl⟩ | ⟨-, nonneg⟩
  · decide
  · exact nonneg

theorem VersionForm.grainItems_eq_ok {f : VersionForm} {items : List String} :
    f.grainItems = .ok items ↔ CommaList.parse f.grain = some items := by
  unfold grainItems
  cases CommaList.parse f.grain <;> simp

theorem VersionForm.range_eq_ok {f : VersionForm} {first last : Date} :
    f.range = .ok (first, last) ↔ Date.ofField? f.effectiveFrom = some first ∧
      Date.ofField? f.effectiveTo = some last ∧ (first < last ∨ first = last) := by
  unfold range
  cases Date.ofField? f.effectiveFrom with
  | none => simp
  | some d =>
    cases Date.ofField? f.effectiveTo with
    | none => simp
    | some e =>
      rw [← Date.not_lt_iff]
      by_cases reversed : e < d
      · simp only [reversed, if_true, reduceCtorEq, Option.some.injEq, false_iff]
        rintro ⟨rfl, rfl, forward⟩
        exact forward reversed
      · simp only [reversed, if_false, Except.ok.injEq, Prod.mk.injEq, Option.some.injEq]
        constructor
        · rintro ⟨rfl, rfl⟩
          exact ⟨rfl, rfl, reversed⟩
        · exact fun ⟨isFirst, isLast, _⟩ => ⟨isFirst, isLast⟩

/-- The form of a new version sends what its fields say. -/
theorem VersionForm.toCreate_eq_ok {f : VersionForm} {d : VersionCreate} (ok : f.toCreate = .ok d) :
    ∃ grain first last formula, CommaList.parse f.grain = some grain ∧
      Date.ofField? f.effectiveFrom = some first ∧ Date.ofField? f.effectiveTo = some last ∧
      (first < last ∨ first = last) ∧ Form.dsl f.formulaDsl = .ok formula ∧
      d = ⟨nonBlank? f.version, (nonBlank? f.status).getD (word VersionStatus.draft),
        nonBlank? f.formulaSql, formula, grain, CommaList.parse f.dataSources, nonBlank? f.notes,
        first, some last⟩ := by
  simp only [toCreate, Except.bind_eq_ok, grainItems_eq_ok, Prod.exists, range_eq_ok] at ok
  obtain ⟨grain, items, first, last, ⟨isFirst, isLast, ordered⟩, formula, read, ok⟩ := ok
  exact ⟨grain, first, last, formula, items, isFirst, isLast, ordered, read,
    (Except.ok.inj ok).symm⟩

theorem VersionForm.normal_of_toCreate {f : VersionForm} {d : VersionCreate}
    (ok : f.toCreate = .ok d) : d.Normal := by
  obtain ⟨grain, first, last, formula, items, -, -, ordered, read, rfl⟩ := toCreate_eq_ok ok
  constructor
  -- fields are reduced first: comparing them as they are would unfold how texts are trimmed
  all_goals dsimp only
  case status => exact isSolid_getD_nonBlank? (by decide)
  case formulaDsl => exact Form.fits_of_dsl read
  case grain => exact CommaList.isClean_parse f.grain grain items
  case dataSources => exact CommaList.isClean_parse f.dataSources
  case range => exact ⟨last, rfl, ordered⟩
  all_goals exact isSolid_nonBlank? _

/-- The form of a new metric sends what its fields say. -/
theorem MetricForm.toCreate_eq_ok {f : MetricForm} {version : VersionForm} {d : MetricCreate}
    (ok : f.toCreate version = .ok d) :
    ∃ code name kind first, nonBlank? f.code = some code ∧ nonBlank? f.name = some name ∧
      nonBlank? f.kind = some kind ∧ version.toCreate = .ok first ∧
      d = ⟨code, name, kind, nonBlank? f.unit, nonBlank? f.subjectArea, nonBlank? f.owner,
        (nonBlank? f.sensitivity).getD (word Sensitivity.normal), nonBlank? f.description, none,
        none, first⟩ := by
  simp only [toCreate, Except.bind_eq_ok, Form.required_eq_ok] at ok
  obtain ⟨code, isCode, name, isName, kind, isKind, first, accepted, ok⟩ := ok
  exact ⟨code, name, kind, first, isCode, isName, isKind, accepted, (Except.ok.inj ok).symm⟩

theorem MetricForm.normal_of_toCreate {f : MetricForm} {version : VersionForm} {d : MetricCreate}
    (ok : f.toCreate version = .ok d) : d.Normal := by
  obtain ⟨code, name, kind, first, isCode, isName, isKind, accepted, rfl⟩ := toCreate_eq_ok ok
  constructor
  all_goals dsimp only
  case code => exact isSolid_nonBlank? f.code code isCode
  case name => exact isSolid_nonBlank? f.name name isName
  case kind => exact isSolid_nonBlank? f.kind kind isKind
  case sensitivity => exact isSolid_getD_nonBlank? (by decide)
  case createdBy => nofun
  case updatedBy => nofun
  case initialVersion => exact VersionForm.normal_of_toCreate accepted
  all_goals exact isSolid_nonBlank? _

/-- The form of a new caliber sends what its fields say. -/
theorem CaliberForm.toCreate_eq_ok {f : CaliberForm} {d : CaliberCreate} (ok : f.toCreate = .ok d) :
    ∃ code name category expr, nonBlank? f.code = some code ∧ nonBlank? f.name = some name ∧
      nonBlank? f.category = some category ∧ Form.dsl f.exprDsl = .ok expr ∧
      d = ⟨code, name, category, expr, nonBlank? f.exprSql, nonBlank? f.valueFormat,
        nonBlank? f.unitOverride, nonBlank? f.notes⟩ := by
  simp only [toCreate, Except.bind_eq_ok, Form.required_eq_ok] at ok
  obtain ⟨code, isCode, name, isName, category, isCategory, expr, read, ok⟩ := ok
  exact ⟨code, name, category, expr, isCode, isName, isCategory, read, (Except.ok.inj ok).symm⟩

theorem CaliberForm.normal_of_toCreate {f : CaliberForm} {d : CaliberCreate}
    (ok : f.toCreate = .ok d) : d.Normal := by
  obtain ⟨code, name, category, expr, isCode, isName, isCategory, read, rfl⟩ := toCreate_eq_ok ok
  constructor
  all_goals dsimp only
  case code => exact isSolid_nonBlank? f.code code isCode
  case name => exact isSolid_nonBlank? f.name name isName
  case category => exact isSolid_nonBlank? f.category category isCategory
  case exprDsl => exact Form.fits_of_dsl read
  all_goals exact isSolid_nonBlank? _

theorem BindingForm.selectedCaliber_eq_ok {f : BindingForm} {n : Int64} :
    f.selectedCaliber = .ok n ↔ Integer.parseInt64? (trim f.caliberId) = some n := by
  unfold selectedCaliber
  cases Integer.parseInt64? (trim f.caliberId) <;> simp

/-- The form of a new binding sends what its fields say. -/
theorem BindingForm.toCreate_eq_ok {f : BindingForm} {d : BindingCreate} (ok : f.toCreate = .ok d) :
    ∃ caliber order expr, Integer.parseInt64? (trim f.caliberId) = some caliber ∧
      Form.order f.orderIndex = .ok order ∧ Form.dsl f.overrideExprDsl = .ok expr ∧
      d = ⟨caliber, (nonBlank? f.status).getD (word BindingStatus.active), order,
        nonBlank? f.overrideExprSql, expr, CommaList.parse f.overrideDataSources,
        nonBlank? f.notes⟩ := by
  simp only [toCreate, Except.bind_eq_ok, selectedCaliber_eq_ok] at ok
  obtain ⟨caliber, selected, order, placed, expr, read, ok⟩ := ok
  exact ⟨caliber, order, expr, selected, placed, read, (Except.ok.inj ok).symm⟩

theorem BindingForm.normal_of_toCreate {f : BindingForm} {d : BindingCreate}
    (ok : f.toCreate = .ok d) : d.Normal := by
  obtain ⟨caliber, order, expr, -, placed, read, rfl⟩ := toCreate_eq_ok ok
  constructor
  all_goals dsimp only
  case status => exact isSolid_getD_nonBlank? (by decide)
  case orderIndex => exact Form.nonneg_of_order placed
  case overrideExprDsl => exact Form.fits_of_dsl read
  case overrideDataSources => exact CommaList.isClean_parse f.overrideDataSources
  all_goals exact isSolid_nonBlank? _

/-! ## The four forms -/

/-- A form checks its requirements, and what it sends is in normal form. -/
structure Validates {α : Type} (result : Except FormFault α) (rs : List Requirement)
    (Normal : α → Prop) : Prop extends Checks result rs where
  normal : ∀ a, result = .ok a → Normal a

/-- Each of the four forms for new records is accepted exactly if its requirements are met, is
refused for the first one that is not, and sends a body in normal form. -/
theorem Form.toCreate_exact :
    (∀ (f : MetricForm) (version : VersionForm),
      Validates (f.toCreate version) (f.requirements version) MetricCreate.Normal) ∧
    (∀ f : VersionForm, Validates f.toCreate f.requirements VersionCreate.Normal) ∧
    (∀ f : CaliberForm, Validates f.toCreate f.requirements CaliberCreate.Normal) ∧
    ∀ f : BindingForm, Validates f.toCreate f.requirements BindingCreate.Normal :=
  ⟨fun f version => ⟨f.checks_toCreate version, fun _ => f.normal_of_toCreate⟩,
    fun f => ⟨f.checks_toCreate, fun _ => f.normal_of_toCreate⟩,
    fun f => ⟨f.checks_toCreate, fun _ => f.normal_of_toCreate⟩,
    fun f => ⟨f.checks_toCreate, fun _ => f.normal_of_toCreate⟩⟩

/-- Blanks alone are not a name, a minus sign is no part of a position, and a year can be long. -/
example :
    ({ MetricForm.empty with code := "c", name := "\t" }.toCreate .empty matches
      .error (.missing "Name")) ∧
    ({ BindingForm.empty with caliberId := " +007 ", orderIndex := "-1" }.toCreate matches
      .error .badOrder) ∧
    ({ VersionForm.empty with
        grain := " , a", effectiveFrom := "9999-12-31", effectiveTo := "+10000-1-1" }.toCreate
      matches .ok _) := by
  decide +kernel

end MetricConsole
