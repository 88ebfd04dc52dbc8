import MetricConsole.Proofs.Catalog.Store

/-!
# Invalidations cover what a write changes

When a catalog carries out a write, the keys whose answers change are stale after it, save for those
that `Mutation.overlooks` lists and for answers that only come into being with what is created or
end with what is deleted.

* `Mutation.overlooked`: the keys that a write does not make stale although it may change their
  answers.
* `Store.answer_of_others`, `Store.answer_of_calibers`: what stays of the answers when one metric or
  the library changes.
* `Carries.answer_eq`: what stays of the answers when the catalog carries out a write.
* `Carries.answer_invalidated`: every answer that changes is one whose key is stale or overlooked.
-/

namespace MetricConsole

namespace Mutation

/-- The keys whose answers a write may change without making them stale: counts of the summary, and
metrics inside of which a version, a binding or a caliber changes. -/
def overlooked : Mutation → List Invalidation
  | .updateMetric _ => [.resource .metricSummary]
  | .createVersion metricId => [.key (.metricDetail metricId), .resource .metricSummary]
  | .updateVersion _ _ => [.resource .metricList, .resource .metricSummary]
  | .updateCaliber _ | .deleteCaliber _ =>
    [.resource .metricList, .resource .metricDetail, .resource .metricVersions,
      .resource .versionCalibers]
  | .createBinding metricId _ | .updateBinding metricId _ _ | .deleteBinding metricId _ _ =>
    [.resource .metricList, .key (.metricVersions metricId)]
  | _ => []

/-- The key is among those that a write overlooks. -/
def overlooks (m : Mutation) (k : QueryKey) : Bool := m.overlooked.any (·.matches k)

end Mutation

namespace Invalidation

@[simp]
theorem matches_resource (r : Resource) (k : QueryKey) :
    (Invalidation.resource r).matches k = decide (k.resource = r) := by
  rw [Bool.eq_iff_iff, Invalidation.matches, beq_iff_eq, decide_eq_true_iff]

@[simp]
theorem matches_key (k' k : QueryKey) : (Invalidation.key k').matches k = decide (k = k') := by
  rw [Bool.eq_iff_iff, Invalidation.matches, beq_iff_eq, decide_eq_true_iff]
  exact eq_comm

end Invalidation

/-- The key asks for something of one metric. -/
def QueryKey.About (k : QueryKey) (id : Int64) : Prop :=
  k = .metricDetail id ∨ k = .metricVersions id ∨ ∃ v, k = .versionCalibers id v

/-- A write may give the first answer to the key, with what it creates. -/
inductive Mutation.Begins : Mutation → QueryKey → Prop
  | createMetric {k : QueryKey} {id : Int64} : k.About id → Begins .createMetric k
  | createVersion (id versionId : Int64) :
    Begins (.createVersion id) (.versionCalibers id versionId)

/-- A write may end the answers to the key, with what it deletes. -/
inductive Mutation.Ends : Mutation → QueryKey → Prop
  | deleteMetric {k : QueryKey} {id : Int64} : k.About id → Ends (.deleteMetric id) k
  | deleteVersion (id versionId : Int64) :
    Ends (.deleteVersion id versionId) (.versionCalibers id versionId)

namespace Store

variable {p : Presentation} {s s' : Store} {k : QueryKey}

/-- Nothing is answered about a metric that is not stored. -/
theorem answer_of_absent {id : Int64} (absent : s.metric? id = none) (about : k.About id) :
    s.answer p k = none := by
  obtain rfl | rfl | ⟨v, rfl⟩ := about <;> simp [answer, bindings?, versions?, absent]

/-- What stays of the answers when only one metric comes, goes or changes. -/
theorem answer_of_others {id : Int64} (calibers : s'.calibers = s.calibers)
    (others : ∀ j, j ≠ id → s'.metric? j = s.metric? j)
    (list : k.resource ≠ .metricList) (detail : k ≠ .metricDetail id)
    (versions : k = .metricVersions id → s'.versions? id = s.versions? id)
    (bindings : ∀ v, k = .versionCalibers id v → s'.bindings? id v = s.bindings? id v)
    (summary : k.resource = .metricSummary → s'.summary = s.summary) :
    s'.answer p k = s.answer p k := by
  have versions' (j : Int64) (same : k = .metricVersions j) :
      s'.versions? j = s.versions? j := by
    by_cases here : j = id
    · exact here ▸ versions (here ▸ same)
    · exact versions?_congr (others j here)
  have bindings' (j v : Int64) (same : k = .versionCalibers j v) :
      s'.bindings? j v = s.bindings? j v := by
    by_cases here : j = id
    · exact here ▸ bindings v (here ▸ same)
    · exact bindings?_congr (versions?_congr (others j here)) v
  refine answer_congr calibers (fun filters same => ?_) (fun j same => others j ?_) versions'
    bindings' fun same => summary (congrArg QueryKey.resource same)
  · exact absurd (congrArg QueryKey.resource same) list
  · rintro rfl
    exact detail same

/-- A metric that comes or goes changes the answers about itself, the lists and the summary. -/
theorem answer_of_not_about {id : Int64} (calibers : s'.calibers = s.calibers)
    (others : ∀ j, j ≠ id → s'.metric? j = s.metric? j)
    (list : k.resource ≠ .metricList) (summary : k.resource ≠ .metricSummary)
    (elsewhere : ¬ k.About id) : s'.answer p k = s.answer p k :=
  answer_of_others calibers others list (fun same => elsewhere (.inl same))
    (fun same => absurd (.inr (.inl same)) elsewhere)
    (fun v same => absurd (.inr (.inr ⟨v, same⟩)) elsewhere) fun same => absurd same summary

/-- A write to the versions of a metric changes the answers that show them or count them. -/
theorem answer_editVersions {id : Int64} {stamp : String → String}
    {f : List MetricVersion → List MetricVersion} (list : k.resource ≠ .metricList)
    (detail : k ≠ .metricDetail id) (versions : k ≠ .metricVersions id)
    (summary : k.resource ≠ .metricSummary)
    (bindings : ∀ v, k = .versionCalibers id v →
      (s.editVersions id stamp f).bindings? id v = s.bindings? id v) :
    (s.editVersions id stamp f).answer p k = s.answer p k :=
  answer_of_others rfl (fun _ other => metric?_editVersions_of_ne other stamp f) list detail
    (fun same => absurd same versions) bindings fun same => absurd same summary

/-- A write to the bindings of a version changes the answers that show them. -/
theorem answer_editBindings {id versionId : Int64} {stamp : String → String}
    {f : List Binding → List Binding} (list : k.resource ≠ .metricList)
    (detail : k ≠ .metricDetail id) (versions : k ≠ .metricVersions id)
    (bindings : k ≠ .versionCalibers id versionId) :
    (s.editBindings id versionId stamp f).answer p k = s.answer p k := by
  refine answer_of_others rfl (fun j other => metric?_editVersions_of_ne other stamp _) list detail
    (fun same => absurd same versions) (fun v same => ?_)
    (fun _ => summary_editBindings id versionId stamp f)
  refine bindings?_editVersion_of_ne (f := fun v => { v with bindings := f v.bindings })
    (fun _ => rfl) ?_ id
  rintro rfl
  exact bindings same

/-- A write to the calibers changes no answers but those that show calibers. -/
theorem answer_of_calibers (summary : s'.summary = s.summary)
    (unseen : k.resource ∉ [Resource.calibers, .metricList, .metricDetail, .metricVersions,
      .versionCalibers]) : s'.answer p k = s.answer p k := by
  cases k with
  | metricSummary => simp only [answer, summary]
  | dashboardOverview => rfl
  | dimension kind filter => rfl
  | _ => exact absurd (by simp [QueryKey.resource]) unseen

/-- A version that is not stored has no bindings that could be asked for. -/
theorem bindings?_of_fresh {v : Int64} (fresh : ∀ m ∈ s.metrics, ∀ x ∈ m.versions, x.id ≠ v)
    (id : Int64) : s.bindings? id v = none := by
  cases found : s.bindings? id v with
  | none => rfl
  | some bs =>
    obtain ⟨m, stored, x, mem, same, -⟩ := exists_of_bindings? found
    exact absurd same (fresh m stored x mem)

/-- A version that was deleted has no bindings any more that could be asked for. -/
theorem bindings?_of_deleted (id v : Int64) (stamp : String → String) :
    (s.editVersions id stamp (List.filter fun x => x.id ≠ v)).bindings? id v = none := by
  rw [bindings?, versions?_editVersions_self]
  cases s.versions? id with
  | none => rfl
  | some vs =>
    change Option.map _ (List.find? _ _) = none
    rw [find?_filter_ne, if_pos rfl]
    rfl

end Store

namespace Carries

variable {p : Presentation} {s s' : Store} {m : Mutation} {k : QueryKey}

/-- The answer to a key stays when the write neither makes it stale nor overlooks it, and neither
begins nor ends it. -/
theorem answer_eq (carries : Carries s m s') (kept : m.invalidates k = false)
    (known : m.overlooks k = false) (old : s.answer p k = none → ¬ m.Begins k)
    (stays : s'.answer p k = none → ¬ m.Ends k) : s'.answer p k = s.answer p k := by
  cases carries with
  | createMetric n x fresh =>
    obtain ⟨list, summary⟩ : k.resource ≠ .metricList ∧ k.resource ≠ .metricSummary := by
      simpa [Mutation.invalidates, Mutation.invalidations] using kept
    have absent : s.metric? x.id = none := by simpa [Store.metric?] using fresh
    exact Store.answer_of_not_about rfl (fun j other => find?_insertAt other.symm n) list summary
      fun about => old (Store.answer_of_absent absent about) (.createMetric about)
  | updateMetric id f keeps =>
    obtain ⟨list, detail⟩ : k.resource ≠ .metricList ∧ k ≠ .metricDetail id := by
      simpa [Mutation.invalidates, Mutation.invalidations] using kept
    have summary : k.resource ≠ .metricSummary := by
      simpa [Mutation.overlooks, Mutation.overlooked] using known
    have versions : (s.editMetric id f).versions? id = s.versions? id := by
      rw [Store.versions?, Store.metric?_editMetric_self fun x => (keeps x).1, Option.map_map]
      exact Option.map_congr fun x _ => (keeps x).2
    exact Store.answer_of_others rfl
      (fun j other => Store.metric?_editMetric_of_ne (fun x => (keeps x).1) other) list detail
      (fun _ => versions) (fun v _ => Store.bindings?_congr versions v)
      fun same => absurd same summary
  | deleteMetric id =>
    obtain ⟨list, summary⟩ : k.resource ≠ .metricList ∧ k.resource ≠ .metricSummary := by
      simpa [Mutation.invalidates, Mutation.invalidations] using kept
    have found (j : Int64) :
        (s.metrics.filter fun x => x.id ≠ id).find? (fun x => x.id = j) =
          if j = id then none else s.metric? j := find?_filter_ne id j
    exact Store.answer_of_not_about rfl (fun j other => (found j).trans (if_neg other)) list summary
      fun about => stays (Store.answer_of_absent ((found id).trans (if_pos rfl)) about)
        (.deleteMetric about)
  | requestPublish id stamp f keeps =>
    obtain ⟨detail, versions, list, summary⟩ : k ≠ .metricDetail id ∧ k ≠ .metricVersions id ∧
        k.resource ≠ .metricList ∧ k.resource ≠ .metricSummary := by
      simpa [Mutation.invalidates, Mutation.invalidations] using kept
    exact Store.answer_editVersions list detail versions summary
      fun v _ => Store.bindings?_editVersions_map keeps id id v
  | createVersion id stamp n x fresh =>
    obtain ⟨versions, list⟩ : k ≠ .metricVersions id ∧ k.resource ≠ .metricList := by
      simpa [Mutation.invalidates, Mutation.invalidations] using kept
    obtain ⟨detail, summary⟩ : k ≠ .metricDetail id ∧ k.resource ≠ .metricSummary := by
      simpa [Mutation.overlooks, Mutation.overlooked] using known
    refine Store.answer_editVersions list detail versions summary fun v same => ?_
    subst same
    have other : x.id ≠ v := by
      rintro rfl
      refine old ?_ (.createVersion id _)
      rw [Store.answer, Store.bindings?_of_fresh fresh]
      rfl
    exact Store.bindings?_editVersions (fun vs _ => by rw [find?_insertAt other]) id
  | updateVersion id versionId stamp f keeps =>
    obtain ⟨versions, detail⟩ : k ≠ .metricVersions id ∧ k ≠ .metricDetail id := by
      simpa [Mutation.invalidates, Mutation.invalidations] using kept
    obtain ⟨list, summary⟩ : k.resource ≠ .metricList ∧ k.resource ≠ .metricSummary := by
      simpa [Mutation.overlooks, Mutation.overlooked] using known
    refine Store.answer_editVersions list detail versions summary fun v _ =>
      Store.bindings?_editVersions_map (fun x => ?_) id id v
    split
    · exact keeps x
    · exact ⟨rfl, rfl⟩
  | deleteVersion id versionId stamp =>
    obtain ⟨versions, detail, list, summary⟩ : k ≠ .metricVersions id ∧ k ≠ .metricDetail id ∧
        k.resource ≠ .metricList ∧ k.resource ≠ .metricSummary := by
      simpa [Mutation.invalidates, Mutation.invalidations] using kept
    refine Store.answer_editVersions list detail versions summary fun v same => ?_
    subst same
    have other : v ≠ versionId := by
      rintro rfl
      refine stays ?_ (.deleteVersion id _)
      rw [Store.answer, Store.bindings?_of_deleted]
      rfl
    exact Store.bindings?_editVersions (fun vs _ => by rw [find?_filter_ne, if_neg other]) id
  | createCaliber n c fresh unbound =>
    have library : k.resource ≠ .calibers := by
      simpa [Mutation.invalidates, Mutation.invalidations] using kept
    refine Store.answer_of_join (fun b bound => ?_) fun same => library (congrArg _ same)
    rw [Binding.join, Binding.join, find?_insertAt (unbound b bound).symm]
  | updateCaliber id f keeps =>
    refine Store.answer_of_calibers rfl ?_
    simp_all [Mutation.invalidates, Mutation.invalidations, Mutation.overlooks, Mutation.overlooked]
  | deleteCaliber id keep keeps =>
    refine Store.answer_of_calibers (Store.summary_filterBindings keep) ?_
    simp_all [Mutation.invalidates, Mutation.invalidations, Mutation.overlooks, Mutation.overlooked]
  | createBinding id versionId stamp | updateBinding id versionId bindingId stamp
  | deleteBinding id versionId bindingId stamp =>
    obtain ⟨bindings, detail⟩ : k ≠ .versionCalibers id versionId ∧ k ≠ .metricDetail id := by
      simpa [Mutation.invalidates, Mutation.invalidations] using kept
    obtain ⟨list, versions⟩ : k.resource ≠ .metricList ∧ k ≠ .metricVersions id := by
      simpa [Mutation.overlooks, Mutation.overlooked] using known
    exact Store.answer_editBindings list detail versions bindings

/-- **Invalidations cover what a write changes.**  When a catalog carries out a write and its answer
to the request of a key is another one than before, the key is stale after the write, unless it is
among the keys that the write overlooks, or its first answer comes with what the write created, or
its last one went with what the write deleted. -/
theorem answer_invalidated (carries : Carries s m s') (differs : s'.answer p k ≠ s.answer p k) :
    m.invalidates k = true ∨ m.overlooks k = true ∨
      (s.answer p k = none ∧ m.Begins k) ∨ (s'.answer p k = none ∧ m.Ends k) := by
  refine Classical.byContradiction fun missed => ?_
  simp only [not_or, not_and, Bool.not_eq_true] at missed
  obtain ⟨kept, known, old, stays⟩ := missed
  exact differs (carries.answer_eq kept known old stays)

end Carries

/-- A binding of a caliber is created: the detail of its metric shows it, and its key is stale. -/
theorem Carries.answer_invalidated_binding :
    let version (bindings : List Binding) : MetricVersion :=
      ⟨11, 7, some "v1", "draft", none, none, none, none, none, none, none, none, "", bindings⟩
    let metric (bindings : List Binding) : Metric :=
      ⟨7, "M_GMV", "GMV", "finance", none, none, none, "normal", none, none, none, "", "",
        [version bindings]⟩
    let caliber : Caliber := ⟨3, "C_NET", "Net", "filter", none, none, none, none, none, ""⟩
    let binding : Binding := ⟨5, 11, 3, "active", 0, none, none, none, none, "", none⟩
    let p : Presentation := ⟨fun _ _ => true, id⟩
    let before : Store := ⟨[metric []], [caliber]⟩
    let after : Store := ⟨[metric [binding]], [caliber]⟩
    Carries before (.createBinding 7 11) after ∧
      after.answer p (.metricDetail 7) =
        some (.metric (metric [{ binding with caliber := some caliber }])) ∧
      after.answer p (.metricDetail 7) ≠ before.answer p (.metricDetail 7) ∧
      (Mutation.createBinding 7 11).invalidates (.metricDetail 7) = true := by
  intro version metric caliber binding p before after
  have carries : Carries before (.createBinding 7 11)
      (before.editBindings 7 11 (fun time => time) (insertAt 0 binding)) :=
    .createBinding 7 11 _ 0 binding (by decide)
  have differs : after.answer p (.metricDetail 7) ≠ before.answer p (.metricDetail 7) := by decide
  refine ⟨carries, by decide, differs, ?_⟩
  obtain stale | overlooked | ⟨-, created⟩ | ⟨-, removed⟩ :=
    carries.answer_invalidated (p := p) (k := .metricDetail 7) differs
  · exact stale
  · cases overlooked
  · cases created
  · cases removed

end MetricConsole
