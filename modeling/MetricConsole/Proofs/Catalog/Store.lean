import MetricConsole.Query.Mutation

/-!
# A catalog behind the console

What a catalog stores, how it answers the queries of the console from it, and what it may do to it
when it carries out a write.  The calibers of bindings are not stored with the bindings: they are
looked up in the library when a query is answered, so an answer about metrics shows calibers too.

* `Store.answer`: the answer to the request of a key.
* `Carries`: one write, with every effect that it may have.  A write keeps the ids of what it
  changes and gives what it creates an id of its own.
* `Store.answer_congr`: what an answer depends on.
* `Store.answer_of_join`: the answers that a change of the library leaves as they are.
-/

namespace MetricConsole

/-- The list with one more element at a place, or at its end if it is too short. -/
def insertAt {α : Type} (n : Nat) (a : α) (xs : List α) : List α := xs.take n ++ a :: xs.drop n

/-- The metrics with their versions and bindings, and the library of calibers.  The caliber inside a
stored binding says nothing. -/
structure Store where
  metrics : List Metric
  calibers : List Caliber
  deriving DecidableEq, Repr

/-- How a catalog selects the metrics of a list, and in which order it gives the bindings of a
version. -/
structure Presentation where
  selects : MetricFilters → Metric → Bool
  order : List Binding → List Binding

/-- What a catalog answers. -/
inductive Answer where
  | metrics (ms : List Metric)
  | metric (m : Metric)
  | versions (vs : List MetricVersion)
  | bindings (bs : List Binding)
  | calibers (cs : List Caliber)
  | summary (counts : MetricSummary)
  deriving DecidableEq, Repr

/-! ## Answers -/

/-- The binding with the caliber of a library that it applies. -/
def Binding.join (library : List Caliber) (b : Binding) : Binding :=
  { b with caliber := library.find? fun c => c.id = b.caliberId }

/-- The version with the calibers of a library that it applies. -/
def MetricVersion.join (library : List Caliber) (v : MetricVersion) : MetricVersion :=
  { v with bindings := v.bindings.map (Binding.join library) }

/-- The metric with the calibers of a library that its versions apply. -/
def Metric.join (library : List Caliber) (m : Metric) : Metric :=
  { m with versions := m.versions.map (MetricVersion.join library) }

namespace Store

/-- The stored metric of an id. -/
def metric? (s : Store) (id : Int64) : Option Metric := s.metrics.find? fun m => m.id = id

/-- The stored versions of a metric. -/
def versions? (s : Store) (id : Int64) : Option (List MetricVersion) :=
  (s.metric? id).map Metric.versions

/-- The stored bindings of a version. -/
def bindings? (s : Store) (id versionId : Int64) : Option (List Binding) :=
  ((s.versions? id).bind fun vs => vs.find? fun v => v.id = versionId).map MetricVersion.bindings

/-- The number of versions with a status. -/
def countVersions (s : Store) (status : VersionStatus) : Nat :=
  (s.metrics.flatMap Metric.versions).countP fun v => v.status = word status

/-- The counts over all that is stored. -/
def summary (s : Store) : MetricSummary where
  totalMetrics := .ofNat s.metrics.length
  sensitiveMetrics := .ofNat (s.metrics.countP Metric.isSensitive)
  activeVersions := .ofNat (s.countVersions .active)
  draftVersions := .ofNat (s.countVersions .draft)

/-- The answer to the request of a key, nothing if there is nothing of that id.  The overview and
the dimensions are kept elsewhere. -/
def answer (p : Presentation) (s : Store) : QueryKey → Option Answer
  | .metricList filters =>
    some (.metrics ((s.metrics.map (Metric.join s.calibers)).filter (p.selects filters)))
  | .metricDetail id => (s.metric? id).map fun m => .metric (m.join s.calibers)
  | .metricVersions id =>
    (s.versions? id).map fun vs => .versions (vs.map (MetricVersion.join s.calibers))
  | .versionCalibers id versionId =>
    (s.bindings? id versionId).map fun bs =>
      .bindings (p.order (bs.map (Binding.join s.calibers)))
  | .calibers => some (.calibers s.calibers)
  | .metricSummary => some (.summary s.summary)
  | .dashboardOverview | .dimension _ _ => none

/-! ## Changes -/

/-- The metric with its versions changed; the time that it notes may change with them. -/
def metricWith (stamp : String → String) (f : List MetricVersion → List MetricVersion)
    (m : Metric) : Metric :=
  { m with updatedAt := stamp m.updatedAt, versions := f m.versions }

/-- The store with one metric changed. -/
def editMetric (s : Store) (id : Int64) (f : Metric → Metric) : Store :=
  { s with metrics := s.metrics.map fun m => if m.id = id then f m else m }

/-- The store with the versions of one metric changed. -/
def editVersions (s : Store) (id : Int64) (stamp : String → String)
    (f : List MetricVersion → List MetricVersion) : Store :=
  s.editMetric id (metricWith stamp f)

/-- The store with one version of a metric changed. -/
def editVersion (s : Store) (id versionId : Int64) (stamp : String → String)
    (f : MetricVersion → MetricVersion) : Store :=
  s.editVersions id stamp fun vs => vs.map fun v => if v.id = versionId then f v else v

/-- The store with the bindings of one version changed. -/
def editBindings (s : Store) (id versionId : Int64) (stamp : String → String)
    (f : List Binding → List Binding) : Store :=
  s.editVersion id versionId stamp fun v => { v with bindings := f v.bindings }

/-- All bindings that are stored. -/
def allBindings (s : Store) : List Binding :=
  (s.metrics.flatMap Metric.versions).flatMap MetricVersion.bindings

/-- The store with some bindings only. -/
def filterBindings (s : Store) (keep : Binding → Bool) : Store :=
  { s with
    metrics := s.metrics.map fun m => { m with
      versions := m.versions.map fun v => { v with bindings := v.bindings.filter keep } } }

end Store

/-- One write that a catalog carries out.  The body of the write decides what is written; whatever
it is, an id is never changed, and what is created has an id that nothing has or refers to. -/
inductive Carries : Store → Mutation → Store → Prop
  | createMetric {s : Store} (n : Nat) (m : Metric) : (∀ x ∈ s.metrics, x.id ≠ m.id) →
    Carries s .createMetric { s with metrics := insertAt n m s.metrics }
  | updateMetric {s : Store} (id : Int64) (f : Metric → Metric) :
    (∀ m, (f m).id = m.id ∧ (f m).versions = m.versions) →
    Carries s (.updateMetric id) (s.editMetric id f)
  | deleteMetric {s : Store} (id : Int64) :
    Carries s (.deleteMetric id) { s with metrics := s.metrics.filter fun m => m.id ≠ id }
  | requestPublish {s : Store} (id : Int64) (stamp : String → String)
      (f : MetricVersion → MetricVersion) : (∀ v, (f v).id = v.id ∧ (f v).bindings = v.bindings) →
    Carries s (.requestPublish id) (s.editVersions id stamp (List.map f))
  | createVersion {s : Store} (id : Int64) (stamp : String → String) (n : Nat)
      (v : MetricVersion) : (∀ m ∈ s.metrics, ∀ x ∈ m.versions, x.id ≠ v.id) →
    Carries s (.createVersion id) (s.editVersions id stamp (insertAt n v))
  | updateVersion {s : Store} (id versionId : Int64) (stamp : String → String)
      (f : MetricVersion → MetricVersion) : (∀ v, (f v).id = v.id ∧ (f v).bindings = v.bindings) →
    Carries s (.updateVersion id versionId) (s.editVersion id versionId stamp f)
  | deleteVersion {s : Store} (id versionId : Int64) (stamp : String → String) :
    Carries s (.deleteVersion id versionId)
      (s.editVersions id stamp (List.filter fun v => v.id ≠ versionId))
  | createCaliber {s : Store} (n : Nat) (c : Caliber) : (∀ x ∈ s.calibers, x.id ≠ c.id) →
    (∀ b ∈ s.allBindings, b.caliberId ≠ c.id) →
    Carries s .createCaliber { s with calibers := insertAt n c s.calibers }
  | updateCaliber {s : Store} (id : Int64) (f : Caliber → Caliber) : (∀ c, (f c).id = c.id) →
    Carries s (.updateCaliber id)
      { s with calibers := s.calibers.map fun c => if c.id = id then f c else c }
  | deleteCaliber {s : Store} (id : Int64) (keep : Binding → Bool) :
    (∀ b, b.caliberId ≠ id → keep b = true) →
    Carries s (.deleteCaliber id)
      { s.filterBindings keep with calibers := s.calibers.filter fun c => c.id ≠ id }
  | createBinding {s : Store} (id versionId : Int64) (stamp : String → String) (n : Nat)
      (b : Binding) : (∀ x ∈ s.allBindings, x.id ≠ b.id) →
    Carries s (.createBinding id versionId) (s.editBindings id versionId stamp (insertAt n b))
  | updateBinding {s : Store} (id versionId bindingId : Int64) (stamp : String → String)
      (f : Binding → Binding) : (∀ b, (f b).id = b.id) →
    Carries s (.updateBinding id versionId bindingId)
      (s.editBindings id versionId stamp
        (List.map fun b => if b.id = bindingId then f b else b))
  | deleteBinding {s : Store} (id versionId bindingId : Int64) (stamp : String → String) :
    Carries s (.deleteBinding id versionId bindingId)
      (s.editBindings id versionId stamp (List.filter fun b => b.id ≠ bindingId))

/-! ## Elements by their ids -/

section Ids

variable {α : Type} {key : α → Int64} {xs : List α}

theorem find?_insertAt {a : α} {j : Int64} (other : key a ≠ j) (n : Nat) :
    (insertAt n a xs).find? (fun x => key x = j) = xs.find? fun x => key x = j := by
  calc (insertAt n a xs).find? (fun x => key x = j)
      = (xs.take n ++ xs.drop n).find? fun x => key x = j := by
        simp only [insertAt, List.find?_append]
        rw [List.find?_cons_of_neg (by simpa using other)]
    _ = xs.find? fun x => key x = j := by rw [List.take_append_drop]

theorem find?_edit {f : α → α} (keeps : ∀ x, key (f x) = key x) (i j : Int64) :
    (xs.map fun x => if key x = i then f x else x).find? (fun x => key x = j) =
      (xs.find? fun x => key x = j).map fun x => if key x = i then f x else x := by
  rw [List.find?_map]
  congr 2
  funext x
  simp only [Function.comp_apply]
  split
  · rw [keeps]
  · rfl

theorem find?_filter_ne (i j : Int64) :
    (xs.filter fun x => key x ≠ i).find? (fun x => key x = j) =
      if j = i then none else xs.find? fun x => key x = j := by
  rw [List.find?_filter]
  split
  · next same => simp [same]
  · next other =>
    congr 1
    funext x
    by_cases hit : key x = j
    · simp [hit, other]
    · simp [hit]

end Ids

namespace Store

variable {p : Presentation} {s s' : Store} {k : QueryKey} {id : Int64}

/-! ## What an answer depends on -/

/-- An answer depends on the calibers and on the part of the store that its key names. -/
theorem answer_congr (calibers : s'.calibers = s.calibers)
    (list : ∀ filters, k = .metricList filters → s'.metrics = s.metrics)
    (detail : ∀ id, k = .metricDetail id → s'.metric? id = s.metric? id)
    (versions : ∀ id, k = .metricVersions id → s'.versions? id = s.versions? id)
    (bindings : ∀ id v, k = .versionCalibers id v → s'.bindings? id v = s.bindings? id v)
    (summary : k = .metricSummary → s'.summary = s.summary) : s'.answer p k = s.answer p k := by
  cases k with
  | metricList filters => simp only [answer, calibers, list filters rfl]
  | metricDetail id => simp only [answer, calibers, detail id rfl]
  | metricVersions id => simp only [answer, calibers, versions id rfl]
  | versionCalibers id v => simp only [answer, calibers, bindings id v rfl]
  | calibers => simp only [answer, calibers]
  | metricSummary => simp only [answer, summary rfl]
  | dashboardOverview => rfl
  | dimension kind filter => rfl

theorem versions?_congr (same : s'.metric? id = s.metric? id) :
    s'.versions? id = s.versions? id := by
  rw [versions?, same, versions?]

theorem bindings?_congr (same : s'.versions? id = s.versions? id) (v : Int64) :
    s'.bindings? id v = s.bindings? id v := by
  rw [bindings?, same, bindings?]

/-- What the summary counts of a metric. -/
def profile (m : Metric) : Bool × List String :=
  (m.isSensitive, m.versions.map MetricVersion.status)

/-- The summary depends on nothing else. -/
theorem summary_congr (same : s'.metrics.map profile = s.metrics.map profile) :
    s'.summary = s.summary := by
  have length : s'.metrics.length = s.metrics.length := by
    simpa using congrArg List.length same
  have sensitive : s'.metrics.countP Metric.isSensitive = s.metrics.countP Metric.isSensitive := by
    simpa [List.countP_map, Function.comp_def, profile] using
      congrArg (List.countP Prod.fst) same
  have versions (status : VersionStatus) : s'.countVersions status = s.countVersions status := by
    have statuses := congrArg (fun ps => (ps.flatMap Prod.snd).countP (· = word status)) same
    simpa [countVersions, List.flatMap_map, profile, ← List.map_flatMap, List.countP_map,
      Function.comp_def] using statuses
  simp only [summary, length, sensitive, versions]

/-! ## A change of one metric -/

theorem metric?_editMetric {f : Metric → Metric} (keeps : ∀ m, (f m).id = m.id) (id j : Int64) :
    (s.editMetric id f).metric? j = (s.metric? j).map fun m => if m.id = id then f m else m :=
  find?_edit keeps id j

theorem metric?_editMetric_self {f : Metric → Metric} (keeps : ∀ m, (f m).id = m.id) (id : Int64) :
    (s.editMetric id f).metric? id = (s.metric? id).map f := by
  rw [metric?_editMetric keeps]
  refine Option.map_congr fun m found => if_pos ?_
  simpa using List.find?_some found

theorem metric?_editMetric_of_ne {f : Metric → Metric} (keeps : ∀ m, (f m).id = m.id)
    {id j : Int64} (other : j ≠ id) : (s.editMetric id f).metric? j = s.metric? j := by
  rw [metric?_editMetric keeps]
  refine (Option.map_congr fun m found => if_neg ?_).trans Option.map_id'
  have same : m.id = j := by simpa using List.find?_some found
  rwa [same]

theorem versions?_editVersions_self (id : Int64) (stamp : String → String)
    (f : List MetricVersion → List MetricVersion) :
    (s.editVersions id stamp f).versions? id = (s.versions? id).map f := by
  have keeps : ∀ m, (metricWith stamp f m).id = m.id := fun _ => rfl
  rw [editVersions, versions?, metric?_editMetric_self keeps, versions?, Option.map_map,
    Option.map_map]
  rfl

theorem metric?_editVersions_of_ne {id j : Int64} (other : j ≠ id) (stamp : String → String)
    (f : List MetricVersion → List MetricVersion) :
    (s.editVersions id stamp f).metric? j = s.metric? j :=
  metric?_editMetric_of_ne (f := metricWith stamp f) (fun _ => rfl) other

/-- The bindings of a version stay as they are when a change of the versions of a metric does not
reach them. -/
theorem bindings?_editVersions {stamp : String → String}
    {f : List MetricVersion → List MetricVersion} {id v : Int64}
    (same : ∀ vs, s.versions? id = some vs →
      ((f vs).find? fun x => x.id = v).map MetricVersion.bindings =
        (vs.find? fun x => x.id = v).map MetricVersion.bindings) (j : Int64) :
    (s.editVersions id stamp f).bindings? j v = s.bindings? j v := by
  by_cases here : j = id
  · subst here
    rw [bindings?, versions?_editVersions_self, bindings?]
    cases found : s.versions? j with
    | none => rfl
    | some vs => exact same vs found
  · exact bindings?_congr (versions?_congr (metric?_editVersions_of_ne here stamp f)) v

/-- A change of versions that keeps their ids and bindings does not reach any bindings. -/
theorem bindings?_editVersions_map {stamp : String → String} {f : MetricVersion → MetricVersion}
    (keeps : ∀ v, (f v).id = v.id ∧ (f v).bindings = v.bindings) (id j v : Int64) :
    (s.editVersions id stamp (List.map f)).bindings? j v = s.bindings? j v := by
  refine bindings?_editVersions (fun vs _ => ?_) j
  rw [List.find?_map, Option.map_map]
  have ids : ((fun x : MetricVersion => decide (x.id = v)) ∘ f) = fun x => decide (x.id = v) := by
    funext x
    simp only [Function.comp_apply, (keeps x).1]
  have bindings : MetricVersion.bindings ∘ f = MetricVersion.bindings :=
    funext fun x => (keeps x).2
  rw [ids, bindings]

/-- A change of one version does not reach the bindings of another one. -/
theorem bindings?_editVersion_of_ne {stamp : String → String} {f : MetricVersion → MetricVersion}
    (keeps : ∀ v, (f v).id = v.id) {id versionId v : Int64} (other : v ≠ versionId) (j : Int64) :
    (s.editVersion id versionId stamp f).bindings? j v = s.bindings? j v := by
  refine bindings?_editVersions (fun vs _ => ?_) j
  rw [find?_edit keeps]
  refine congrArg _ ((Option.map_congr fun x found => if_neg ?_).trans Option.map_id')
  have same : x.id = v := by simpa using List.find?_some found
  rwa [same]

/-- A change of one metric that keeps what the summary counts of it does not change the summary. -/
theorem summary_editMetric {f : Metric → Metric} (keeps : ∀ m, profile (f m) = profile m)
    (id : Int64) : (s.editMetric id f).summary = s.summary := by
  refine summary_congr ?_
  simp only [editMetric, List.map_map]
  refine List.map_congr_left fun m _ => ?_
  simp only [Function.comp_apply]
  split
  · exact keeps m
  · rfl

theorem summary_editBindings (id versionId : Int64) (stamp : String → String)
    (f : List Binding → List Binding) :
    (s.editBindings id versionId stamp f).summary = s.summary := by
  refine summary_editMetric (fun m => ?_) id
  simp only [profile, metricWith, List.map_map, Prod.mk.injEq]
  refine ⟨rfl, List.map_congr_left fun v _ => ?_⟩
  simp only [Function.comp_apply]
  split <;> rfl

theorem summary_filterBindings (keep : Binding → Bool) :
    (s.filterBindings keep).summary = s.summary := by
  refine summary_congr ?_
  simp [filterBindings, profile, Function.comp_def, Metric.isSensitive]

/-! ## A change of the library -/

theorem exists_of_versions? {vs : List MetricVersion} (found : s.versions? id = some vs) :
    ∃ m ∈ s.metrics, m.versions = vs := by
  obtain ⟨m, first, rfl⟩ := Option.map_eq_some_iff.mp found
  exact ⟨m, List.mem_of_find?_eq_some first, rfl⟩

theorem exists_of_bindings? {v : Int64} {bs : List Binding} (found : s.bindings? id v = some bs) :
    ∃ m ∈ s.metrics, ∃ x ∈ m.versions, x.id = v ∧ x.bindings = bs := by
  obtain ⟨x, inside, rfl⟩ := Option.map_eq_some_iff.mp found
  obtain ⟨vs, versions, first⟩ := Option.bind_eq_some_iff.mp inside
  obtain ⟨m, stored, rfl⟩ := exists_of_versions? versions
  exact ⟨m, stored, x, List.mem_of_find?_eq_some first, by simpa using List.find?_some first, rfl⟩

/-- Where no stored binding applies a caliber that differs, only the answer with the library itself
differs. -/
theorem answer_of_join {library : List Caliber}
    (same : ∀ b ∈ s.allBindings, b.join library = b.join s.calibers) (other : k ≠ .calibers) :
    Store.answer p { s with calibers := library } k = s.answer p k := by
  have bindings : ∀ m ∈ s.metrics, ∀ v ∈ m.versions,
      v.bindings.map (Binding.join library) = v.bindings.map (Binding.join s.calibers) := by
    intro m stored v mem
    refine List.map_congr_left fun b bound => same b ?_
    exact List.mem_flatMap.mpr ⟨v, List.mem_flatMap.mpr ⟨m, stored, mem⟩, bound⟩
  have versions : ∀ m ∈ s.metrics,
      m.versions.map (MetricVersion.join library) =
        m.versions.map (MetricVersion.join s.calibers) := fun m stored =>
    List.map_congr_left fun v mem => by simp only [MetricVersion.join, bindings m stored v mem]
  have metrics : ∀ m ∈ s.metrics, m.join library = m.join s.calibers := fun m stored => by
    simp only [Metric.join, versions m stored]
  cases k with
  | metricList filters => simp only [answer, List.map_congr_left metrics]
  | metricDetail id =>
    refine Option.map_congr fun m found => ?_
    rw [metrics m (List.mem_of_find?_eq_some found)]
  | metricVersions id =>
    refine Option.map_congr fun vs found => ?_
    obtain ⟨m, stored, rfl⟩ := exists_of_versions? found
    rw [versions m stored]
  | versionCalibers id v =>
    refine Option.map_congr fun bs found => ?_
    obtain ⟨m, stored, x, mem, -, rfl⟩ := exists_of_bindings? found
    rw [bindings m stored x mem]
  | calibers => exact absurd rfl other
  | metricSummary => rfl
  | dashboardOverview => rfl
  | dimension kind filter => rfl

end Store

end MetricConsole
