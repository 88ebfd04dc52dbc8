import MetricConsole.Catalog.Metric
import MetricConsole.Proofs.Json.Layout

/-!
# What is left of a record that is sent and received

A JSON value in a record may be `null`, and the payload of the record is then the same as if it had
no such value.  Everything else in a record is read back from its payload as it was.

* `Caliber.decode?_encode`, `Binding.decode?_encode`, `MetricVersion.decode?_encode`,
  `Metric.decode?_encode`: what is read from the payload of a record.
* `CaliberCreate.keeps`, `BindingCreate.keeps`, `VersionCreate.keeps`, `MetricCreate.keeps`: the
  bodies of requests that are read back as they were.
-/

namespace MetricConsole

/-! ## Values that may be `null` -/

namespace Json

/-- The value that is read back; `null` is taken for nothing. -/
def settled : Option Json → Option Json
  | some .null => none
  | value => value

theorem encode_settled (value : Option Json) : encode (settled value) = encode value := by
  unfold settled
  split <;> rfl

theorem settled_of_ne_null {value : Option Json} (present : value ≠ some .null) :
    settled value = value := by
  unfold settled
  split
  · exact absurd rfl present
  · rfl

theorem settled_ne_null (value : Option Json) : settled value ≠ some .null := by
  unfold settled
  split
  · nofun
  · assumption

theorem keeps_of_ne_null {value : Option Json} (present : value ≠ some .null) :
    ∀ j ∈ value, (inferInstance : Codec Json).Keeps j ∧ encode j ≠ .null :=
  fun _ found => ⟨rfl, fun null => present (found.trans (congrArg some null))⟩

theorem keeps_settled (value : Option Json) :
    (inferInstance : Codec (Option Json)).Keeps (settled value) :=
  Codec.keeps_option (keeps_of_ne_null (settled_ne_null value))

end Json

section Parts

variable {α : Type} [codec : Codec α] {f : α → α}

theorem encode_map_option (same : ∀ a, encode (f a) = encode a) (o : Option α) :
    encode (o.map f) = encode o := by
  cases o with
  | none => rfl
  | some a => exact same a

theorem encode_map_list (same : ∀ a, encode (f a) = encode a) (xs : List α) :
    encode (xs.map f) = encode xs := by
  have items : xs.map (encode ∘ f) = xs.map encode := List.map_congr_left fun a _ => same a
  exact congrArg Json.arr ((List.map_map).trans items)

theorem keeps_map_list (kept : ∀ a, codec.Keeps (f a)) (xs : List α) :
    (inferInstance : Codec (List α)).Keeps (xs.map f) := by
  refine Codec.keeps_list fun x mem => ?_
  obtain ⟨a, -, rfl⟩ := List.mem_map.mp mem
  exact kept a

end Parts

/-! ## Calibers -/

namespace Caliber

/-- The caliber that is read from the payload of a caliber. -/
def settled (c : Caliber) : Caliber := { c with exprDsl := Json.settled c.exprDsl }

theorem encode_settled (c : Caliber) : encode c.settled = encode c := by
  change Json.ofMembers (layout.write c.settled) = Json.ofMembers (layout.write c)
  simp only [layout, Layout.write, Layout.required, Layout.defaulted, settled, Json.encode_settled]

theorem keeps_settled (c : Caliber) : (inferInstance : Codec Caliber).Keeps c.settled := by
  refine Layout.keeps_codec (l := layout) rfl (by decide) ?_
  simp [layout, Layout.Keeps, Layout.required, Layout.defaulted, Layout.fields, settled,
    Json.keeps_settled]

theorem decode?_encode (c : Caliber) : decode? (encode c) = some c.settled :=
  c.encode_settled ▸ c.keeps_settled

end Caliber

/-! ## Bindings -/

namespace Binding

/-- The binding that is read from the payload of a binding. -/
def settled (b : Binding) : Binding :=
  { b with
    overrideExprDsl := Json.settled b.overrideExprDsl
    caliber := b.caliber.map Caliber.settled }

theorem encode_settled (b : Binding) : encode b.settled = encode b := by
  change Json.ofMembers (layout.write b.settled) = Json.ofMembers (layout.write b)
  simp only [layout, Layout.write, Layout.required, Layout.defaulted, settled, Json.encode_settled,
    encode_map_option Caliber.encode_settled]

theorem keeps_caliber (o : Option Caliber) :
    (inferInstance : Codec (Option Caliber)).Keeps (o.map Caliber.settled) := by
  refine Codec.keeps_option fun c found => ?_
  obtain ⟨c, -, rfl⟩ := Option.map_eq_some_iff.mp found
  exact ⟨c.keeps_settled, nofun⟩

theorem keeps_settled (b : Binding) : (inferInstance : Codec Binding).Keeps b.settled := by
  refine Layout.keeps_codec (l := layout) rfl (by decide) ?_
  simp [layout, Layout.Keeps, Layout.required, Layout.defaulted, Layout.fields, settled,
    Json.keeps_settled, keeps_caliber]

theorem decode?_encode (b : Binding) : decode? (encode b) = some b.settled :=
  b.encode_settled ▸ b.keeps_settled

end Binding

/-! ## Versions -/

namespace MetricVersion

/-- The version that is read from the payload of a version. -/
def settled (v : MetricVersion) : MetricVersion :=
  { v with
    formulaDsl := Json.settled v.formulaDsl
    bindings := v.bindings.map Binding.settled }

theorem encode_settled (v : MetricVersion) : encode v.settled = encode v := by
  change Json.ofMembers (layout.write v.settled) = Json.ofMembers (layout.write v)
  simp only [layout, Layout.write, Layout.required, Layout.defaulted, settled, Json.encode_settled,
    encode_map_list Binding.encode_settled]

theorem keeps_settled (v : MetricVersion) :
    (inferInstance : Codec MetricVersion).Keeps v.settled := by
  refine Layout.keeps_codec (l := layout) rfl (by decide) ?_
  simp [layout, Layout.Keeps, Layout.required, Layout.defaulted, Layout.fields, settled,
    Json.keeps_settled, keeps_map_list Binding.keeps_settled]

theorem decode?_encode (v : MetricVersion) : decode? (encode v) = some v.settled :=
  v.encode_settled ▸ v.keeps_settled

end MetricVersion

/-! ## Metrics -/

namespace Metric

/-- The metric that is read from the payload of a metric. -/
def settled (m : Metric) : Metric := { m with versions := m.versions.map MetricVersion.settled }

theorem encode_settled (m : Metric) : encode m.settled = encode m := by
  change Json.ofMembers (layout.write m.settled) = Json.ofMembers (layout.write m)
  simp only [layout, Layout.write, Layout.required, Layout.defaulted, settled,
    encode_map_list MetricVersion.encode_settled]

theorem keeps_settled (m : Metric) : (inferInstance : Codec Metric).Keeps m.settled := by
  refine Layout.keeps_codec (l := layout) rfl (by decide) ?_
  simp [layout, Layout.Keeps, Layout.required, Layout.defaulted, Layout.fields, settled,
    keeps_map_list MetricVersion.keeps_settled]

theorem decode?_encode (m : Metric) : decode? (encode m) = some m.settled :=
  m.encode_settled ▸ m.keeps_settled

end Metric

/-! ## Bodies of requests -/

theorem CaliberCreate.keeps {d : CaliberCreate} (present : d.exprDsl ≠ some .null) :
    (inferInstance : Codec CaliberCreate).Keeps d := by
  refine Layout.keeps_codec (l := layout) rfl (by decide) ?_
  simpa [layout, Layout.Keeps, Layout.required, Layout.optional, Layout.fields]
    using Json.keeps_of_ne_null present

theorem BindingCreate.keeps {d : BindingCreate} (present : d.overrideExprDsl ≠ some .null) :
    (inferInstance : Codec BindingCreate).Keeps d := by
  refine Layout.keeps_codec (l := layout) rfl (by decide) ?_
  simpa [layout, Layout.Keeps, Layout.required, Layout.optional, Layout.fields]
    using Json.keeps_of_ne_null present

theorem VersionCreate.keeps {d : VersionCreate} (present : d.formulaDsl ≠ some .null) :
    (inferInstance : Codec VersionCreate).Keeps d := by
  refine Layout.keeps_codec (l := layout) rfl (by decide) ?_
  simpa [layout, Layout.Keeps, Layout.required, Layout.optional, Layout.fields]
    using Json.keeps_of_ne_null present

theorem MetricCreate.keeps {d : MetricCreate} (present : d.initialVersion.formulaDsl ≠ some .null) :
    (inferInstance : Codec MetricCreate).Keeps d := by
  refine Layout.keeps_codec (l := layout) rfl (by decide) ?_
  simpa [layout, Layout.Keeps, Layout.required, Layout.optional, Layout.fields]
    using VersionCreate.keeps present

end MetricConsole
