import MetricConsole.Proofs.Catalog.Invalidation

/-!
# Answers that a write leaves out of date

The keys that a write overlooks are all out of date in some catalog: its answer changes and nothing
makes the key stale.  So the list of overlooked keys is as short as it can be, and each of its
entries is a screen that keeps showing what it showed before the write.

* `Mutation.LeavesOutOfDate`: a write may change the answer to a key and does not make it stale.
* `Mutation.leavesOutOfDate_of_overlooks`: every overlooked key is left out of date.
* `Carries.summary_out_of_date`: a change of one metric that the summary misses.
-/

namespace MetricConsole

/-- A metric with these versions and nothing else to say. -/
def Metric.plain (id : Int64) (versions : List MetricVersion) : Metric :=
  ⟨id, "", "", "", none, none, none, word Sensitivity.normal, none, none, none, "", "", versions⟩

/-- A draft with these bindings and nothing else to say. -/
def MetricVersion.plain (id metricId : Int64) (bindings : List Binding) : MetricVersion :=
  ⟨id, metricId, none, word VersionStatus.draft, none, none, none, none, none, none, none, none, "",
    bindings⟩

/-- A binding without overrides. -/
def Binding.plain (id versionId caliberId : Int64) : Binding :=
  ⟨id, versionId, caliberId, word BindingStatus.active, 0, none, none, none, none, "", none⟩

/-- A caliber without a rule. -/
def Caliber.plain (id : Int64) : Caliber := ⟨id, "", "", "", none, none, none, none, none, ""⟩

/-- A count of the summary, nought if the answer is none. -/
def Answer.count (read : MetricSummary → Int64) : Answer → Int64
  | .summary counts => read counts
  | _ => 0

/-- The presentation that leaves everything in and in its order. -/
def Presentation.plain : Presentation := ⟨fun _ _ => true, id⟩

/-- A metric becomes sensitive, the summary counts one more, and its key is not stale. -/
theorem Carries.summary_out_of_date :
    let metric : Metric := .plain 7 []
    let before : Store := ⟨[metric], []⟩
    let after : Store := ⟨[{ metric with sensitivity := "secret" }], []⟩
    Carries before (.updateMetric 7) after ∧
      after.answer .plain .metricSummary ≠ before.answer .plain .metricSummary ∧
      (Mutation.updateMetric 7).invalidates .metricSummary = false := by
  intro metric before after
  have carries : Carries before (.updateMetric 7) (before.editMetric 7 _) :=
    .updateMetric 7 (fun m => { m with sensitivity := "secret" }) fun m => ⟨rfl, rfl⟩
  exact ⟨carries, by decide, by decide⟩

/-- A store of one metric with one version that has these bindings. -/
def Store.single (id versionId : Int64) (bindings : List Binding) (library : List Caliber) :
    Store :=
  ⟨[.plain id [.plain versionId id bindings]], library⟩

namespace Store

variable {id versionId : Int64} {bs bs' : List Binding} {library library' : List Caliber}

@[simp]
theorem calibers_single : (single id versionId bs library).calibers = library := rfl

@[simp]
theorem metric?_single : (single id versionId bs library).metric? id =
    some (.plain id [.plain versionId id bs]) := by
  simp [single, metric?, Metric.plain]

theorem editBindings_single (f : List Binding → List Binding) :
    (single id versionId bs library).editBindings id versionId (fun time => time) f =
      single id versionId (f bs) library := by
  simp [single, editBindings, editVersion, editVersions, editMetric, metricWith, Metric.plain,
    MetricVersion.plain]

/-- Each answer that shows bindings shows that they differ. -/
theorem answer_single_ne (differs : bs'.map (Binding.join library') ≠ bs.map (Binding.join library))
    {k : QueryKey} (shows : k.resource = .metricList ∨ k = .metricDetail id ∨
      k = .metricVersions id ∨ k = .versionCalibers id versionId) :
    (single id versionId bs' library').answer .plain k ≠
      (single id versionId bs library).answer .plain k := by
  have versions : (MetricVersion.plain versionId id bs').join library' ≠
      (MetricVersion.plain versionId id bs).join library := fun same =>
    differs (congrArg MetricVersion.bindings same)
  have metrics : (Metric.plain id [.plain versionId id bs']).join library' ≠
      (Metric.plain id [.plain versionId id bs]).join library := fun same =>
    versions (List.head_eq_of_cons_eq (congrArg Metric.versions same))
  obtain list | rfl | rfl | rfl := shows
  · cases k <;> simp only [QueryKey.resource, reduceCtorEq] at list
    simpa [answer, single, Presentation.plain] using metrics
  · simpa [answer] using metrics
  · simpa [answer, versions?, Metric.plain] using versions
  · simpa [answer, bindings?, versions?, Metric.plain, MetricVersion.plain,
      Presentation.plain] using differs

/-- There is an answer about the metric that is stored. -/
theorem answer_single_ne_none {k : QueryKey} (shows : k = .metricDetail id ∨
    k = .metricVersions id ∨ k = .versionCalibers id versionId) :
    (single id versionId bs library).answer .plain k ≠ none := by
  obtain rfl | rfl | rfl := shows <;>
    simp [answer, bindings?, versions?, Metric.plain, MetricVersion.plain]

end Store

namespace Mutation

/-- The key is not stale after the write, and yet the write changes the answer to its request in
some catalog. -/
def LeavesOutOfDate (m : Mutation) (k : QueryKey) : Prop :=
  m.invalidates k = false ∧
    ∃ p s s', Carries s m s' ∧ Store.answer p s' k ≠ Store.answer p s k

variable {k : QueryKey} {id versionId : Int64}

/-- No key is both overlooked and made stale. -/
theorem not_invalidates_of_overlooks {m : Mutation} (overlooks : m.overlooks k = true) :
    m.invalidates k = false := by
  cases m <;> cases k <;>
    simp [Mutation.overlooks, overlooked, invalidates, invalidations, QueryKey.resource]
      at overlooks ⊢

theorem LeavesOutOfDate.updateMetric (counts : k.resource = .metricSummary) :
    (updateMetric id).LeavesOutOfDate k := by
  cases k <;> simp only [QueryKey.resource, reduceCtorEq] at counts
  refine ⟨rfl, .plain, ⟨[.plain id []], []⟩, _,
    .updateMetric id (fun m => { m with sensitivity := word Sensitivity.secret })
      fun m => ⟨rfl, rfl⟩, fun same => ?_⟩
  have counted := congrArg (Option.map (Answer.count (·.sensitiveMetrics))) same
  have secret : Sensitivity.isSensitive (word Sensitivity.secret) = true := by decide
  have normal : Sensitivity.isSensitive (word Sensitivity.normal) = false := by decide
  simp [Answer.count, Store.answer, Store.summary, Store.editMetric, Metric.plain,
    Metric.isSensitive, secret, normal] at counted

theorem LeavesOutOfDate.createVersion
    (shows : k = .metricDetail id ∨ k.resource = .metricSummary) :
    (createVersion id).LeavesOutOfDate k := by
  have carries := Carries.createVersion (s := ⟨[.plain id []], []⟩) id (fun time => time) 0
    (.plain 0 id []) (by simp [Metric.plain])
  obtain rfl | counts := shows
  · refine ⟨by simp [invalidates, invalidations, QueryKey.resource], .plain, _, _, carries, ?_⟩
    simp [Store.answer, Store.metric?, Store.editVersions, Store.editMetric, Store.metricWith,
      Metric.plain, insertAt, Metric.join]
  · cases k <;> simp only [QueryKey.resource, reduceCtorEq] at counts
    refine ⟨by simp [invalidates, invalidations, QueryKey.resource], .plain, _, _, carries,
      fun same => ?_⟩
    have counted := congrArg (Option.map (Answer.count (·.draftVersions))) same
    simp [Answer.count, Store.answer, Store.summary, Store.countVersions, Store.editVersions,
      Store.editMetric, Store.metricWith, Metric.plain, MetricVersion.plain, insertAt] at counted

theorem LeavesOutOfDate.updateVersion
    (shows : k.resource = .metricList ∨ k.resource = .metricSummary) :
    (updateVersion id versionId).LeavesOutOfDate k := by
  have carries := Carries.updateVersion (s := .single id versionId [] []) id versionId
    (fun time => time) (fun v => { v with status := word VersionStatus.active })
    fun v => ⟨rfl, rfl⟩
  simp only [Store.editVersion, Store.editVersions, Store.editMetric, Store.metricWith,
    Store.single, Metric.plain, MetricVersion.plain, List.map_cons, List.map_nil, if_pos] at carries
  have moved : word VersionStatus.active ≠ word VersionStatus.draft := by decide
  obtain list | counts := shows
  · cases k <;> simp only [QueryKey.resource, reduceCtorEq] at list
    refine ⟨by simp [invalidates, invalidations], .plain, _, _, carries, ?_⟩
    simp [Store.answer, Presentation.plain, Metric.join, MetricVersion.join, moved]
  · cases k <;> simp only [QueryKey.resource, reduceCtorEq] at counts
    refine ⟨by simp [invalidates, invalidations], .plain, _, _, carries, fun same => ?_⟩
    have counted := congrArg (Option.map (Answer.count (·.draftVersions))) same
    simp [Answer.count, Store.answer, Store.summary, Store.countVersions, moved] at counted

/-- A change of the bindings of a version changes the answers in which the version is inside of
something else. -/
theorem LeavesOutOfDate.of_bindings {m : Mutation} (bs : List Binding)
    {f : List Binding → List Binding} (kept : m.invalidates k = false)
    (carries : Carries (.single id versionId bs []) m
      (Store.editBindings (.single id versionId bs []) id versionId (fun time => time) f))
    (differs : (f bs).map (Binding.join []) ≠ bs.map (Binding.join []))
    (shows : k.resource = .metricList ∨ k = .metricVersions id) : m.LeavesOutOfDate k := by
  rw [Store.editBindings_single] at carries
  exact ⟨kept, .plain, _, _, carries,
    Store.answer_single_ne differs (shows.imp_right fun same => .inr (.inl same))⟩

/-- A change of a caliber changes the answers in which the caliber is inside of a binding. -/
theorem LeavesOutOfDate.of_caliber (id : Int64) {m : Mutation} {library : List Caliber}
    (kept : m.invalidates k = false)
    (carries : ∀ metricId versionId,
      Carries (.single metricId versionId [.plain 0 versionId id] [.plain id]) m
        (.single metricId versionId [.plain 0 versionId id] library))
    (differs : library.find? (fun c => c.id = id) ≠ some (.plain id))
    (shows : k.resource ∈ [Resource.metricList, .metricDetail, .metricVersions,
      .versionCalibers]) : m.LeavesOutOfDate k := by
  have joined (versionId : Int64) : [Binding.plain 0 versionId id].map (Binding.join library) ≠
      [Binding.plain 0 versionId id].map (Binding.join [.plain id]) := fun same => by
    have caliber := congrArg Binding.caliber (List.head_eq_of_cons_eq same)
    simp [Binding.join, Binding.plain, Caliber.plain] at caliber
    exact differs caliber
  have out (metricId versionId : Int64) (inside : k.resource = .metricList ∨
      k = .metricDetail metricId ∨ k = .metricVersions metricId ∨
      k = .versionCalibers metricId versionId) : m.LeavesOutOfDate k :=
    ⟨kept, .plain, _, _, carries metricId versionId,
      Store.answer_single_ne (joined versionId) inside⟩
  cases k with
  | metricList filters => exact out 0 0 (.inl rfl)
  | metricDetail id => exact out id 0 (.inr (.inl rfl))
  | metricVersions id => exact out id 0 (.inr (.inr (.inl rfl)))
  | versionCalibers id versionId => exact out id versionId (.inr (.inr (.inr rfl)))
  | _ => simp [QueryKey.resource] at shows

/-- The first answer to a key comes with what is created, and the key is not stale. -/
theorem leavesOutOfDate_of_begins {m : Mutation} (begins : m.Begins k) : m.LeavesOutOfDate k := by
  cases begins with
  | @createMetric k id about =>
    have empty : Store.answer .plain ⟨[], []⟩ k = none := Store.answer_of_absent rfl about
    have out (versionId : Int64) (shows : k = .metricDetail id ∨ k = .metricVersions id ∨
        k = .versionCalibers id versionId) :
        ∃ p s s', Carries s .createMetric s' ∧ Store.answer p s' k ≠ Store.answer p s k := by
      refine ⟨.plain, ⟨[], []⟩, .single id versionId [] [],
        .createMetric 0 (.plain id [.plain versionId id []]) (by simp), ?_⟩
      rw [empty]
      exact Store.answer_single_ne_none shows
    obtain rfl | rfl | ⟨versionId, rfl⟩ := about
    · exact ⟨rfl, out 0 (.inl rfl)⟩
    · exact ⟨rfl, out 0 (.inr (.inl rfl))⟩
    · exact ⟨rfl, out versionId (.inr (.inr rfl))⟩
  | createVersion id versionId =>
    have carries := Carries.createVersion (s := ⟨[.plain id []], []⟩) id (fun time => time) 0
      (.plain versionId id []) (by simp [Metric.plain])
    have created : Store.editVersions ⟨[.plain id []], []⟩ id (fun time => time)
        (insertAt 0 (.plain versionId id [])) = .single id versionId [] [] := by
      simp [Store.single, Store.editVersions, Store.editMetric, Store.metricWith, Metric.plain,
        insertAt]
    have before :
        Store.answer .plain ⟨[.plain id []], []⟩ (.versionCalibers id versionId) = none := by
      simp [Store.answer, Store.bindings?, Store.versions?, Store.metric?, Metric.plain]
    rw [created] at carries
    refine ⟨by simp [invalidates, invalidations, QueryKey.resource], .plain, _, _, carries, ?_⟩
    rw [before]
    exact Store.answer_single_ne_none (.inr (.inr rfl))

/-- The last answer to a key goes with what is deleted, and the key is not stale. -/
theorem leavesOutOfDate_of_ends {m : Mutation} (ends : m.Ends k) : m.LeavesOutOfDate k := by
  cases ends with
  | @deleteMetric k id about =>
    have out (versionId : Int64) (shows : k = .metricDetail id ∨ k = .metricVersions id ∨
        k = .versionCalibers id versionId) :
        ∃ p s s', Carries s (.deleteMetric id) s' ∧ Store.answer p s' k ≠ Store.answer p s k := by
      refine ⟨.plain, .single id versionId [] [], _, .deleteMetric id, ?_⟩
      rw [Store.answer_of_absent (by simp [Store.metric?]) about]
      exact (Store.answer_single_ne_none shows).symm
    obtain rfl | rfl | ⟨versionId, rfl⟩ := about
    · exact ⟨rfl, out 0 (.inl rfl)⟩
    · exact ⟨rfl, out 0 (.inr (.inl rfl))⟩
    · exact ⟨rfl, out versionId (.inr (.inr rfl))⟩
  | deleteVersion id versionId =>
    refine ⟨by simp [invalidates, invalidations, QueryKey.resource], .plain,
      .single id versionId [] [], _, .deleteVersion id versionId fun time => time, ?_⟩
    rw [Store.answer, Store.bindings?_of_deleted]
    exact (Store.answer_single_ne_none (.inr (.inr rfl))).symm

/-- **Whatever a write overlooks can be out of date after it.** -/
theorem leavesOutOfDate_of_overlooks {m : Mutation} (overlooks : m.overlooks k = true) :
    m.LeavesOutOfDate k := by
  have kept : m.invalidates k = false := not_invalidates_of_overlooks overlooks
  cases m with
  | createMetric | deleteMetric | requestPublish | deleteVersion | createCaliber => cases overlooks
  | updateMetric id =>
    exact .updateMetric (by simpa [Mutation.overlooks, overlooked] using overlooks)
  | createVersion id =>
    exact .createVersion (by simpa [Mutation.overlooks, overlooked] using overlooks)
  | updateVersion id versionId =>
    exact .updateVersion (by simpa [Mutation.overlooks, overlooked] using overlooks)
  | updateCaliber id =>
    have shows : k.resource ∈ [Resource.metricList, .metricDetail, .metricVersions,
        .versionCalibers] := by simpa [Mutation.overlooks, overlooked] using overlooks
    exact .of_caliber id kept
      (fun metricId versionId => .updateCaliber id (fun c => { c with name := "new" }) fun _ => rfl)
      (by simp [Caliber.plain]) shows
  | deleteCaliber id =>
    have shows : k.resource ∈ [Resource.metricList, .metricDetail, .metricVersions,
        .versionCalibers] := by simpa [Mutation.overlooks, overlooked] using overlooks
    exact .of_caliber id kept
      (fun metricId versionId => .deleteCaliber id (fun _ => true) fun _ _ => rfl)
      (by simp [Caliber.plain]) shows
  | createBinding id versionId =>
    have shows : k.resource = .metricList ∨ k = .metricVersions id := by
      simpa [Mutation.overlooks, overlooked] using overlooks
    have unbound : Store.allBindings (.single id versionId [] []) = [] := by
      simp [Store.single, Store.allBindings, Metric.plain, MetricVersion.plain]
    exact .of_bindings [] kept
      (.createBinding id versionId _ 0 (.plain 0 versionId 0) (by simp [unbound]))
      (by simp [insertAt]) shows
  | updateBinding id versionId bindingId =>
    have shows : k.resource = .metricList ∨ k = .metricVersions id := by
      simpa [Mutation.overlooks, overlooked] using overlooks
    exact .of_bindings [.plain bindingId versionId 0] kept
      (.updateBinding id versionId bindingId _ (fun b => { b with notes := some "new" })
        fun _ => rfl)
      (by simp [Binding.plain, Binding.join]) shows
  | deleteBinding id versionId bindingId =>
    have shows : k.resource = .metricList ∨ k = .metricVersions id := by
      simpa [Mutation.overlooks, overlooked] using overlooks
    exact .of_bindings [.plain bindingId versionId 0] kept
      (.deleteBinding id versionId bindingId _) (by simp [Binding.plain]) shows

end Mutation

end MetricConsole
