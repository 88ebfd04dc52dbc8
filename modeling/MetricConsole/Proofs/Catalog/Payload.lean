import MetricConsole.Catalog.Dimension
import MetricConsole.Catalog.Metric
import MetricConsole.Catalog.Overview
import MetricConsole.Proofs.Json.Layout

/-!
# The contract types read back

Every type that is exchanged with the server has a lawful codec: what was read from a payload is
written so that it is read again, whatever form the payload had.

* `Contract`: the types, each with its codec.
* `Contract.encode_reads_back`: a value that was read is read again from what is written for it.
-/

namespace MetricConsole

/-! ## Words -/

instance : LawfulCodec Sensitivity :=
  Vocabulary.lawful Sensitivity (by rintro ⟨⟩ <;> rfl)

instance : LawfulCodec VersionStatus :=
  Vocabulary.lawful VersionStatus (by rintro ⟨⟩ <;> rfl)

instance : LawfulCodec CaliberCategory :=
  Vocabulary.lawful CaliberCategory (by rintro ⟨⟩ <;> rfl)

instance : LawfulCodec BindingStatus :=
  Vocabulary.lawful BindingStatus (by rintro ⟨⟩ <;> rfl)

instance : LawfulCodec DimensionKind :=
  Vocabulary.lawful DimensionKind (by rintro ⟨⟩ <;> rfl)

/-! ## Records -/

instance : LawfulCodec Caliber := Caliber.layout.lawful
instance : LawfulCodec CaliberCreate := CaliberCreate.layout.lawful
instance : LawfulCodec CaliberPatch := CaliberPatch.layout.lawful
instance : LawfulCodec Binding := Binding.layout.lawful
instance : LawfulCodec BindingCreate := BindingCreate.layout.lawful
instance : LawfulCodec BindingPatch := BindingPatch.layout.lawful
instance : LawfulCodec MetricVersion := MetricVersion.layout.lawful
instance : LawfulCodec Metric := Metric.layout.lawful
instance : LawfulCodec MetricSummary := MetricSummary.layout.lawful
instance : LawfulCodec MetricFilters := MetricFilters.layout.lawful
instance : LawfulCodec VersionCreate := VersionCreate.layout.lawful
instance : LawfulCodec VersionPatch := VersionPatch.layout.lawful
instance : LawfulCodec MetricCreate := MetricCreate.layout.lawful
instance : LawfulCodec MetricPatch := MetricPatch.layout.lawful
instance : LawfulCodec DimensionFilter := DimensionFilter.layout.lawful
instance : LawfulCodec Company := Company.layout.lawful
instance : LawfulCodec Product := Product.layout.lawful
instance : LawfulCodec Channel := Channel.layout.lawful
instance : LawfulCodec Combo := Combo.layout.lawful
instance : LawfulCodec RegisteredMetrics := RegisteredMetrics.layout.lawful
instance : LawfulCodec ActiveVersions := ActiveVersions.layout.lawful
instance : LawfulCodec YesterdayJobs := YesterdayJobs.layout.lawful
instance : LawfulCodec RecentUploads := RecentUploads.layout.lawful
instance : LawfulCodec OverviewStats := OverviewStats.layout.lawful
instance : LawfulCodec TaskSummary := TaskSummary.layout.lawful
instance : LawfulCodec UploadBatch := UploadBatch.layout.lawful
instance : LawfulCodec Overview := Overview.layout.lawful

/-! ## The types of the contract -/

/-- The types that are exchanged with the server. -/
inductive Contract where
  | metric
  | version
  | summary
  | filters
  | metricCreate
  | metricPatch
  | versionCreate
  | versionPatch
  | caliber
  | caliberCreate
  | caliberPatch
  | binding
  | bindingCreate
  | bindingPatch
  | dimensionFilter
  | company
  | product
  | channel
  | combo
  | overview
  | overviewStats
  | registeredMetrics
  | activeVersions
  | yesterdayJobs
  | recentUploads
  | taskSummary
  | uploadBatch
  | sensitivity
  | versionStatus
  | caliberCategory
  | bindingStatus
  | dimensionKind
  deriving DecidableEq, Repr

namespace Contract

/-- The values of a type. -/
def Value : Contract → Type
  | .metric => Metric
  | .version => MetricVersion
  | .summary => MetricSummary
  | .filters => MetricFilters
  | .metricCreate => MetricCreate
  | .metricPatch => MetricPatch
  | .versionCreate => VersionCreate
  | .versionPatch => VersionPatch
  | .caliber => Caliber
  | .caliberCreate => CaliberCreate
  | .caliberPatch => CaliberPatch
  | .binding => Binding
  | .bindingCreate => BindingCreate
  | .bindingPatch => BindingPatch
  | .dimensionFilter => DimensionFilter
  | .company => Company
  | .product => Product
  | .channel => Channel
  | .combo => Combo
  | .overview => Overview
  | .overviewStats => OverviewStats
  | .registeredMetrics => RegisteredMetrics
  | .activeVersions => ActiveVersions
  | .yesterdayJobs => YesterdayJobs
  | .recentUploads => RecentUploads
  | .taskSummary => TaskSummary
  | .uploadBatch => UploadBatch
  | .sensitivity => Sensitivity
  | .versionStatus => VersionStatus
  | .caliberCategory => CaliberCategory
  | .bindingStatus => BindingStatus
  | .dimensionKind => DimensionKind

/-- How the values of a type are written and read. -/
abbrev codec : (c : Contract) → Codec c.Value
  | .metric => inferInstanceAs (Codec Metric)
  | .version => inferInstanceAs (Codec MetricVersion)
  | .summary => inferInstanceAs (Codec MetricSummary)
  | .filters => inferInstanceAs (Codec MetricFilters)
  | .metricCreate => inferInstanceAs (Codec MetricCreate)
  | .metricPatch => inferInstanceAs (Codec MetricPatch)
  | .versionCreate => inferInstanceAs (Codec VersionCreate)
  | .versionPatch => inferInstanceAs (Codec VersionPatch)
  | .caliber => inferInstanceAs (Codec Caliber)
  | .caliberCreate => inferInstanceAs (Codec CaliberCreate)
  | .caliberPatch => inferInstanceAs (Codec CaliberPatch)
  | .binding => inferInstanceAs (Codec Binding)
  | .bindingCreate => inferInstanceAs (Codec BindingCreate)
  | .bindingPatch => inferInstanceAs (Codec BindingPatch)
  | .dimensionFilter => inferInstanceAs (Codec DimensionFilter)
  | .company => inferInstanceAs (Codec Company)
  | .product => inferInstanceAs (Codec Product)
  | .channel => inferInstanceAs (Codec Channel)
  | .combo => inferInstanceAs (Codec Combo)
  | .overview => inferInstanceAs (Codec Overview)
  | .overviewStats => inferInstanceAs (Codec OverviewStats)
  | .registeredMetrics => inferInstanceAs (Codec RegisteredMetrics)
  | .activeVersions => inferInstanceAs (Codec ActiveVersions)
  | .yesterdayJobs => inferInstanceAs (Codec YesterdayJobs)
  | .recentUploads => inferInstanceAs (Codec RecentUploads)
  | .taskSummary => inferInstanceAs (Codec TaskSummary)
  | .uploadBatch => inferInstanceAs (Codec UploadBatch)
  | .sensitivity => inferInstanceAs (Codec Sensitivity)
  | .versionStatus => inferInstanceAs (Codec VersionStatus)
  | .caliberCategory => inferInstanceAs (Codec CaliberCategory)
  | .bindingStatus => inferInstanceAs (Codec BindingStatus)
  | .dimensionKind => inferInstanceAs (Codec DimensionKind)

theorem lawful (c : Contract) : @LawfulCodec c.Value c.codec := by
  cases c with
  | metric => exact inferInstanceAs (LawfulCodec Metric)
  | version => exact inferInstanceAs (LawfulCodec MetricVersion)
  | summary => exact inferInstanceAs (LawfulCodec MetricSummary)
  | filters => exact inferInstanceAs (LawfulCodec MetricFilters)
  | metricCreate => exact inferInstanceAs (LawfulCodec MetricCreate)
  | metricPatch => exact inferInstanceAs (LawfulCodec MetricPatch)
  | versionCreate => exact inferInstanceAs (LawfulCodec VersionCreate)
  | versionPatch => exact inferInstanceAs (LawfulCodec VersionPatch)
  | caliber => exact inferInstanceAs (LawfulCodec Caliber)
  | caliberCreate => exact inferInstanceAs (LawfulCodec CaliberCreate)
  | caliberPatch => exact inferInstanceAs (LawfulCodec CaliberPatch)
  | binding => exact inferInstanceAs (LawfulCodec Binding)
  | bindingCreate => exact inferInstanceAs (LawfulCodec BindingCreate)
  | bindingPatch => exact inferInstanceAs (LawfulCodec BindingPatch)
  | dimensionFilter => exact inferInstanceAs (LawfulCodec DimensionFilter)
  | company => exact inferInstanceAs (LawfulCodec Company)
  | product => exact inferInstanceAs (LawfulCodec Product)
  | channel => exact inferInstanceAs (LawfulCodec Channel)
  | combo => exact inferInstanceAs (LawfulCodec Combo)
  | overview => exact inferInstanceAs (LawfulCodec Overview)
  | overviewStats => exact inferInstanceAs (LawfulCodec OverviewStats)
  | registeredMetrics => exact inferInstanceAs (LawfulCodec RegisteredMetrics)
  | activeVersions => exact inferInstanceAs (LawfulCodec ActiveVersions)
  | yesterdayJobs => exact inferInstanceAs (LawfulCodec YesterdayJobs)
  | recentUploads => exact inferInstanceAs (LawfulCodec RecentUploads)
  | taskSummary => exact inferInstanceAs (LawfulCodec TaskSummary)
  | uploadBatch => exact inferInstanceAs (LawfulCodec UploadBatch)
  | sensitivity => exact inferInstanceAs (LawfulCodec Sensitivity)
  | versionStatus => exact inferInstanceAs (LawfulCodec VersionStatus)
  | caliberCategory => exact inferInstanceAs (LawfulCodec CaliberCategory)
  | bindingStatus => exact inferInstanceAs (LawfulCodec BindingStatus)
  | dimensionKind => exact inferInstanceAs (LawfulCodec DimensionKind)

/-- A value that was read from any payload of its type is read again from what is written for it. -/
theorem encode_reads_back (c : Contract) (j : Json) (v : c.Value)
    (read : c.codec.decode? j = some v) : c.codec.decode? (c.codec.encode v) = some v :=
  c.lawful.keeps read

/-- A metric as the list of its fields; its version is an object with a member that is not known, a
year with a sign and a formula that holds `null`. -/
def listed : Json :=
  .arr [.ofInt 3, .str "GWP", .str "Gross written premium", .str "atomic", .null, .null, .null,
    .str "secret", .str "", .null, .null, .str "2024-01-01", .str "2024-01-02",
    .arr [.obj [("id", .ofInt 5), ("metric_id", .ofInt 3), ("status", .str "active"),
      ("formula_dsl", .obj [("args", .arr [.null, .num (.int (-1))]), ("op", .str "sum")]),
      ("effective_from", .str " -12344 - 2 - 29 "), ("unknown", .bool true),
      ("created_at", .str "now"),
      ("calibers", .arr [.obj [("id", .ofInt 7), ("metric_version_id", .ofInt 5),
        ("caliber_id", .ofInt 9), ("status", .str "inactive"), ("order_index", .ofInt (-2)),
        ("created_at", .str "now"),
        ("caliber", .arr [.ofInt 9, .str "C", .str "n", .str "filter", .null, .null, .null, .null,
          .null, .str "now"])]])]]]

theorem encode_reads_back_listed :
    ∃ m : Metric, decode? listed = some m ∧ decode? (encode m) = some m ∧ encode m ≠ listed := by
  obtain ⟨m, read⟩ := Option.isSome_iff_exists.mp (show (decode? listed : Option Metric).isSome by
    decide +kernel)
  exact ⟨m, read, encode_reads_back .metric listed m read, nofun⟩

end Contract

end MetricConsole
