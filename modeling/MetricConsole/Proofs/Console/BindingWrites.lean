import MetricConsole.Proofs.Console.Dialog

/-!
# The version of a binding that is written

In the detail of a metric a dialog is opened for a binding of the version that is current, and the
page remembers the binding.  The metric and the version are looked up again when the dialog is
confirmed: the version is the selected one if the metric has it, or else the first of the list.  So
the write is for the binding that the dialog was opened for, below the version that is current at
the end; that is the version of the binding as long as the selection stays and either the selected
version stays in the list or the list stays.

* `bindingEditing_faithful`, `bindingRemoval_faithful`: the two dialogs remember their bindings.
* `Console.Run.binding_write_current`: which version and which binding a write is for.
* `Console.Run.binding_write_astray`: a write for a binding of another version.
-/

namespace MetricConsole

open Page

/-! ## What the page remembers -/

namespace Page.MetricDetail

theorem write_of_submit {α : Type} [Codec α] {s : State} {m mutation : Mutation}
    {body : Except FormFault α} {payload : Option Json} {job job' : Job}
    (written : .write mutation payload job' ∈ (submit s m body job).2) : mutation = m := by
  cases body with
  | ok b =>
    cases List.mem_singleton.mp written
    rfl
  | error f => cases written

theorem submit_kept {α : Type} [Codec α] (s : State) (m : Mutation) (body : Except FormFault α)
    (job : Job) : (submit s m body job).1.editingBinding = s.editingBinding ∧
      (submit s m body job).1.doomed = s.doomed := by
  cases body <;> exact ⟨rfl, rfl⟩

/-- Only the message that opens the form changes the binding that is edited. -/
theorem editingBinding_update (scene : Scene) (s : State) (m : Msg) :
    (update scene s m).1.editingBinding =
      match m with
      | .startEditBinding b => some b
      | _ => s.editingBinding := by
  cases m with
  | saveBasic | saveVersion | createVersion | saveNewBinding | saveBinding =>
    simp only [update]
    split
    · exact (submit_kept _ _ _ _).1
    · rfl
  | publish | toggleEditVersion | confirmRemove =>
    simp only [update]
    split <;> rfl
  | _ => rfl

/-- Only the message that asks whether to remove a binding changes which one it is; the confirmation
forgets it. -/
theorem doomed_update (scene : Scene) (s : State) (m : Msg) :
    (update scene s m).1.doomed =
      match m with
      | .askRemove b => some b
      | .confirmRemove => none
      | _ => s.doomed := by
  cases m with
  | saveBasic | saveVersion | createVersion | saveNewBinding | saveBinding =>
    simp only [update]
    split
    · exact (submit_kept _ _ _ _).2
    · rfl
  | publish | toggleEditVersion | confirmRemove =>
    simp only [update]
    split <;> rfl
  | _ => rfl

theorem editingBinding_sync (scene : Scene) (s : State) :
    (sync scene s).editingBinding = s.editingBinding := by
  unfold sync syncCards
  have basic : (syncBasic scene s).editingBinding = s.editingBinding := by
    unfold syncBasic
    simp only
    split
    · rfl
    · split <;> rfl
  split <;> exact basic

/-- A page that follows a scene keeps the binding that it asked about, or asks no longer. -/
theorem doomed_sync {scene : Scene} {s : State} {b : Binding}
    (asked : (sync scene s).doomed = some b) : s.doomed = some b := by
  unfold sync syncCards at asked
  have basic : (syncBasic scene s).doomed = s.doomed := by
    unfold syncBasic
    simp only
    split
    · rfl
    · split <;> rfl
  split at asked
  · exact basic.symm.trans asked
  · cases asked

theorem kept_finish (s : State) (j : Job) (result : Except ApiError Json) :
    (finish s j result).editingBinding = s.editingBinding ∧
      (finish s j result).doomed = s.doomed := by
  cases result <;> cases j <;> exact ⟨rfl, rfl⟩

/-- The page writes below the selected metric, and bindings below its current version: the binding
that is edited is changed, and the one that it asked about is deleted. -/
theorem write_cases {scene : Scene} {s : State} {m : Msg} {mutation : Mutation}
    {body : Option Json} {job : Job} (written : .write mutation body job ∈ (update scene s m).2) :
    ∃ id, scene.nav.metricId = some id ∧
      (mutation = .requestPublish id ∨ mutation = .updateMetric id ∨ mutation = .createVersion id ∨
        (∃ v, s.editingVersion = some v ∧ mutation = .updateVersion id v) ∨
        ∃ v, currentId scene = some v ∧
          (mutation = .createBinding id v ∨
            (∃ b, s.editingBinding = some b ∧ mutation = .updateBinding id v b.id) ∨
              ∃ b, s.doomed = some b ∧ mutation = .deleteBinding id v b.id)) := by
  cases m with
  | publish =>
    simp only [update] at written
    split at written
    · next id selected =>
      cases List.mem_singleton.mp written
      exact ⟨id, selected, .inl rfl⟩
    · cases written
  | saveBasic =>
    simp only [update] at written
    split at written
    · next id selected =>
      exact ⟨id, selected, .inr (.inl (write_of_submit written))⟩
    · cases written
  | createVersion =>
    simp only [update] at written
    split at written
    · next id selected =>
      exact ⟨id, selected, .inr (.inr (.inl (write_of_submit written)))⟩
    · cases written
  | saveVersion =>
    simp only [update] at written
    split at written
    · next id v selected edited =>
      exact ⟨id, selected, .inr (.inr (.inr (.inl ⟨v, edited, write_of_submit written⟩)))⟩
    · cases written
  | saveNewBinding =>
    simp only [update] at written
    split at written
    · next id v selected current =>
      refine ⟨id, selected, .inr (.inr (.inr (.inr ⟨v, current, ?_⟩)))⟩
      exact .inl (write_of_submit written)
    · cases written
  | saveBinding =>
    simp only [update] at written
    split at written
    · next id v b selected current edited =>
      refine ⟨id, selected, .inr (.inr (.inr (.inr ⟨v, current, ?_⟩)))⟩
      exact .inr (.inl ⟨b, edited, write_of_submit written⟩)
    · cases written
  | confirmRemove =>
    simp only [update] at written
    split at written
    · next id v b selected current asked =>
      cases List.mem_singleton.mp written
      refine ⟨id, selected, .inr (.inr (.inr (.inr ⟨v, current, ?_⟩)))⟩
      exact .inr (.inr ⟨b, asked, rfl⟩)
    · cases written
  | toggleEditVersion v =>
    simp only [update] at written
    split at written <;> cases written
  | backToList | selectVersion => cases List.mem_singleton.mp written
  | _ => cases written

end Page.MetricDetail

/-! ## The two dialogs -/

section Detailed

variable (opens : MetricDetail.Msg → Option Int64) (subject : MetricDetail.State → Option Int64)
  (ends : Mutation → Prop) (target : Scene → Int64 → Option Mutation)

/-- A dialog of the detail of a metric. -/
def detailed : Dialog where
  view := .metricDetail
  opens
    | .metricDetail m => opens m
    | _ => none
  subject
    | .metricDetail s => subject s
    | _ => none
  ends := ends
  target := target

variable {opens subject ends target}

/-- What holds of the states of the detail of a metric holds of the page. -/
theorem detailed_faithful (fresh : subject MetricDetail.initial = none)
    (sync : ∀ {scene s id}, subject (MetricDetail.sync scene s) = some id → subject s = some id)
    (update : ∀ {scene s m id}, subject (MetricDetail.update scene s m).1 = some id →
      opens m = some id ∨ opens m = none ∧ subject s = some id)
    (finish : ∀ s j result, subject (MetricDetail.finish s j result) = subject s)
    (writes : ∀ {scene s m mutation body job}, ends mutation →
      .write mutation body job ∈ (MetricDetail.update scene s m).2 →
      ∃ id, subject s = some id ∧ target scene id = some mutation) :
    (detailed opens subject ends target).Faithful where
  fresh v := by
    cases v with
    | metricDetail => exact fresh
    | _ => rfl
  sync {navigated scene p id} remembered := by
    cases p with
    | metricDetail s => exact sync remembered
    | _ => cases remembered
  update {scene m p id} remembered := by
    cases p with
    | metricDetail s =>
      cases m with
      | metricDetail m => exact update remembered
      | _ => exact .inr ⟨rfl, remembered⟩
    | _ => cases m <;> cases remembered
  finish {result job p id} remembered := by
    cases p with
    | metricDetail s =>
      cases job with
      | metricDetail j => exact (finish s j result).symm.trans remembered
      | _ => exact remembered
    | _ => cases job <;> cases remembered
  writes {scene m p mutation body job} shown ends written := by
    cases p with
    | metricDetail s =>
      cases m with
      | metricDetail m =>
        obtain ⟨job', commanded⟩ := Command.write_of_map written
        exact writes ends commanded
      | _ => cases written
    | placeholder v => cases m <;> cases written
    | _ => cases shown

end Detailed

/-- The write of a binding below the selected metric and its current version. -/
def belowCurrent (write : Int64 → Int64 → Int64 → Mutation) (scene : Scene) (b : Int64) :
    Option Mutation := do
  return write (← scene.nav.metricId) (← MetricDetail.currentId scene) b

theorem of_belowCurrent {write : Int64 → Int64 → Int64 → Mutation} {scene : Scene}
    {b : Int64} {mutation : Mutation} (target : belowCurrent write scene b = some mutation) :
    ∃ id v, scene.nav.metricId = some id ∧ MetricDetail.currentId scene = some v ∧
      mutation = write id v b := by
  obtain ⟨id, selected, rest⟩ := Option.bind_eq_some_iff.mp target
  obtain ⟨v, current, same⟩ := Option.bind_eq_some_iff.mp rest
  exact ⟨id, v, selected, current, (Option.some.inj same).symm⟩

/-- The form in which a binding is edited. -/
def bindingEditing : Dialog :=
  detailed (fun | .startEditBinding b => some b.id | _ => none)
    (fun s => s.editingBinding.map Binding.id) (fun m => ∃ id v b, m = .updateBinding id v b)
    (belowCurrent .updateBinding)

/-- The question whether to remove a binding. -/
def bindingRemoval : Dialog :=
  detailed (fun | .askRemove b => some b.id | _ => none) (fun s => s.doomed.map Binding.id)
    (fun m => ∃ id v b, m = .deleteBinding id v b) (belowCurrent .deleteBinding)

theorem bindingEditing_faithful : bindingEditing.Faithful := by
  refine detailed_faithful rfl ?sync ?update ?finish ?writes
  case sync =>
    intro scene s id remembered
    rwa [MetricDetail.editingBinding_sync] at remembered
  case update =>
    intro scene s m id remembered
    rw [MetricDetail.editingBinding_update] at remembered
    cases m with
    | startEditBinding b => exact .inl remembered
    | _ => exact .inr ⟨rfl, remembered⟩
  case finish =>
    intro s j result
    rw [(MetricDetail.kept_finish s j result).1]
  case writes =>
    rintro scene s m _ body job ⟨id, v, b, rfl⟩ written
    obtain ⟨id', selected, which⟩ := MetricDetail.write_cases written
    obtain ⟨v', current, b', edited, rfl, rfl, rfl⟩ : ∃ v', MetricDetail.currentId scene = some v' ∧
        ∃ b', s.editingBinding = some b' ∧ id = id' ∧ v = v' ∧ b = b'.id := by simpa using which
    exact ⟨b'.id, by simp [edited], by simp [belowCurrent, selected, current]⟩

theorem bindingRemoval_faithful : bindingRemoval.Faithful := by
  refine detailed_faithful rfl ?sync ?update ?finish ?writes
  case sync =>
    intro scene s id remembered
    obtain ⟨b, asked, rfl⟩ := Option.map_eq_some_iff.mp remembered
    simp [MetricDetail.doomed_sync asked]
  case update =>
    intro scene s m id remembered
    rw [MetricDetail.doomed_update] at remembered
    cases m with
    | askRemove b => exact .inl remembered
    | confirmRemove => cases remembered
    | _ => exact .inr ⟨rfl, remembered⟩
  case finish =>
    intro s j result
    rw [(MetricDetail.kept_finish s j result).2]
  case writes =>
    rintro scene s m _ body job ⟨id, v, b, rfl⟩ written
    obtain ⟨id', selected, which⟩ := MetricDetail.write_cases written
    obtain ⟨v', current, b', asked, rfl, rfl, rfl⟩ : ∃ v', MetricDetail.currentId scene = some v' ∧
        ∃ b', s.doomed = some b' ∧ id = id' ∧ v = v' ∧ b = b'.id := by simpa using which
    exact ⟨b'.id, by simp [asked], by simp [belowCurrent, selected, current]⟩

/-- The dialog that ends in a write with a method. -/
def bindingDialog : Method → Dialog
  | .delete => bindingRemoval
  | _ => bindingEditing

/-! ## The version of a binding -/

/-- A version is selected, and the metric has it. -/
def VersionSelected (scene : Scene) : Prop :=
  ∃ v, scene.nav.versionId = some v ∧ v ∈ (MetricDetail.versions scene).map MetricVersion.id

/-- A version that is selected and listed is the current one. -/
theorem currentId_of_mem {scene : Scene} {v : Int64} (selected : scene.nav.versionId = some v)
    (listed : v ∈ (MetricDetail.versions scene).map MetricVersion.id) :
    MetricDetail.currentId scene = some v := by
  have found : (MetricDetail.versions scene).any (fun w => w.id == v) = true := by
    simpa using listed
  unfold MetricDetail.currentId shownVersion
  simp [selected, found]

/-- What is current depends on the selection and the ids of the list only. -/
theorem currentId_congr {scene scene' : Scene}
    (selection : scene.nav.versionId = scene'.nav.versionId)
    (ids : (MetricDetail.versions scene).map MetricVersion.id =
      (MetricDetail.versions scene').map MetricVersion.id) :
    MetricDetail.currentId scene = MetricDetail.currentId scene' := by
  have heads : (MetricDetail.versions scene).head?.map MetricVersion.id =
      (MetricDetail.versions scene').head?.map MetricVersion.id := by
    rw [← List.head?_map, ← List.head?_map, ids]
  have found (v : Int64) : (MetricDetail.versions scene).any (fun w => w.id == v) =
      (MetricDetail.versions scene').any (fun w => w.id == v) := by
    have mapped (vs : List MetricVersion) :
        vs.any (fun w => w.id == v) = (vs.map MetricVersion.id).any (· == v) := by
      rw [List.any_map]
      rfl
    rw [mapped, mapped, ids]
  unfold MetricDetail.currentId shownVersion
  simp only [selection, heads, found]

/-- Another version is current only if the selection has changed, or the list has changed and the
selection is not on both lists. -/
theorem currentId_moved {scene scene' : Scene}
    (moved : MetricDetail.currentId scene ≠ MetricDetail.currentId scene') :
    scene.nav.versionId ≠ scene'.nav.versionId ∨
      (MetricDetail.versions scene).map MetricVersion.id ≠
          (MetricDetail.versions scene').map MetricVersion.id ∧
        ¬(VersionSelected scene ∧ VersionSelected scene') := by
  by_cases selection : scene.nav.versionId = scene'.nav.versionId
  · refine .inr ⟨fun ids => moved (currentId_congr selection ids), ?_⟩
    rintro ⟨⟨v, selected, listed⟩, ⟨v', selected', listed'⟩⟩
    obtain rfl : v = v' := Option.some.inj (selected.symm.trans (selection.trans selected'))
    apply moved
    rw [currentId_of_mem selected listed, currentId_of_mem selected' listed']
  · exact .inl selection

namespace Console.Run

variable {log : List (Console × Event)} {c : Console}

/-- **Writes of bindings.**  Whenever the detail of a metric changes or removes a binding, the
binding is the one that the dialog was last opened for since the page is shown, and the metric and
the version are the ones that are selected and current at that moment; the version is the one that
was current when the dialog was opened, unless the selection has changed since, or the list of the
versions has and the selected version, if any, is not on both lists. -/
theorem binding_write_current (run : Run log c) (shown : c.page.viewKey = .metricDetail) {e : Event}
    {x : Exchange Errand} (sent : x ∈ c.sends e) {id v b : Int64}
    (method : x.request.method = .patch ∨ x.request.method = .delete)
    (path : x.request.path = bindingsPath id v ++ "/" ++ idText b) :
    ∃ c₀, (bindingDialog x.request.method).lastOpened? c.showing log = some (c₀, b) ∧
      c.nav.metricId = some id ∧ MetricDetail.currentId c.scene = some v ∧
      (MetricDetail.currentId c₀.scene = some v ∨ c₀.nav.versionId ≠ c.nav.versionId ∨
        (MetricDetail.versions c₀.scene).map MetricVersion.id ≠
            (MetricDetail.versions c.scene).map MetricVersion.id ∧
          ¬(VersionSelected c₀.scene ∧ VersionSelected c.scene)) := by
  have opened : ∃ c₀, (bindingDialog x.request.method).lastOpened? c.showing log = some (c₀, b) ∧
      c.nav.metricId = some id ∧ MetricDetail.currentId c.scene = some v := by
    rcases method with patch | delete
    · have patched : x.request.method = (Mutation.updateBinding id v b).method := patch
      obtain ⟨c₀, b', opened, target⟩ :=
        run.write_opened bindingEditing_faithful shown sent ⟨id, v, b, rfl⟩ patched path
      obtain ⟨_, _, selected, current, same⟩ := of_belowCurrent target
      cases same
      exact ⟨c₀, by rw [patch]; exact opened, selected, current⟩
    · have deleted : x.request.method = (Mutation.deleteBinding id v b).method := delete
      obtain ⟨c₀, b', opened, target⟩ :=
        run.write_opened bindingRemoval_faithful shown sent ⟨id, v, b, rfl⟩ deleted path
      obtain ⟨_, _, selected, current, same⟩ := of_belowCurrent target
      cases same
      exact ⟨c₀, by rw [delete]; exact opened, selected, current⟩
  obtain ⟨c₀, opened, selected, current⟩ := opened
  refine ⟨c₀, opened, selected, current, ?_⟩
  by_cases same : MetricDetail.currentId c₀.scene = MetricDetail.currentId c.scene
  · exact .inl (same.trans current)
  · exact .inr (currentId_moved same)

/-- Metric 7 has the version 11, which has the binding 5; nothing else is selected, so 11 is
current. A new version is being created when the form of the binding is opened; it is confirmed, and
the list is loaded again with 12 before 11. -/
def versionCreated : List (Console × Event) × Console :=
  (Console.start "?view=caliber" []).replay
    [.answer 0 (.answered 200 "[]"), .choose "Versions",
      .answer 0 (.answered 200
        "[[7,\"\",\"\",\"\",null,null,null,\"\",null,null,null,\"\",\"\"]]"),
      .navigate (.openMetric 7),
      .answer 0 (.answered 200
        "[[11,7,null,\"draft\",null,null,null,null,null,null,null,null,\"\",[]]]"),
      .answer 1 (.answered 200 "[[5,11,3,\"active\",0,null,null,null,null,\"\",null]]"),
      .fill "Grain *" "day" 0, .fill "Effective from *" "2024-01-01" 0,
      .fill "Effective to *" "2025-01-01" 0, .press "Create version" 0, .press "icon:edit" 0,
      .answer 1 (.answered 200 ""),
      .answer 1 (.answered 200
        ("[[12,7,null,\"draft\",null,null,null,null,null,null,null,null,\"\",[]]," ++
          "[11,7,null,\"draft\",null,null,null,null,null,null,null,null,\"\",[]]]"))]

theorem versionCreated_run : Run versionCreated.1 versionCreated.2 :=
  Run.replay "?view=caliber" [] _

/-- The form is still open on binding 5, opened below 11, and saving it writes below 12. -/
theorem versionCreated_sends : versionCreated.2.page.viewKey = .metricDetail ∧
    (versionCreated.2.sends (.press "Save" 0)).map (fun x => (x.request.method, x.request.path)) =
      [(.patch, bindingsPath 7 12 ++ "/" ++ idText 5)] ∧
    (bindingEditing.lastOpened? versionCreated.2.showing versionCreated.1).map
      (fun o => (MetricDetail.currentId o.1.scene, o.2)) = some (some 11, 5) := by
  decide +kernel

/-- The binding is the one that the form was opened for, and the version is the current one. -/
theorem binding_write_current_created :
    ∃ x ∈ versionCreated.2.sends (.press "Save" 0),
      Run versionCreated.1 versionCreated.2 ∧ versionCreated.2.page.viewKey = .metricDetail ∧
        x.request.method = .patch ∧ x.request.path = bindingsPath 7 12 ++ "/" ++ idText 5 ∧
        MetricDetail.currentId versionCreated.2.scene = some 12 ∧
        ∃ c₀, bindingEditing.lastOpened? versionCreated.2.showing versionCreated.1 =
          some (c₀, 5) := by
  obtain ⟨shown, sends, -⟩ := versionCreated_sends
  obtain ⟨x, sent, method, path⟩ := exists_sent sends
  obtain ⟨c₀, opened, -, current, -⟩ :=
    versionCreated_run.binding_write_current shown sent (.inl method) path
  rw [method] at opened
  exact ⟨x, sent, versionCreated_run, shown, method, path, current, c₀, opened⟩

/-- Not every write of a binding is below the version that was current when the dialog was opened:
the binding belongs to 11, and it is written below 12. -/
theorem binding_write_astray :
    ¬ ∀ (log : List (Console × Event)) (c : Console) (e : Event) (x : Exchange Errand)
      (id v b : Int64), Run log c → c.page.viewKey = .metricDetail → x ∈ c.sends e →
      x.request.method = .patch ∨ x.request.method = .delete →
      x.request.path = bindingsPath id v ++ "/" ++ idText b →
      ∃ c₀, (bindingDialog x.request.method).lastOpened? c.showing log = some (c₀, b) ∧
        MetricDetail.currentId c₀.scene = some v := by
  intro faithful
  obtain ⟨shown, sends, opened⟩ := versionCreated_sends
  obtain ⟨x, sent, method, path⟩ := exists_sent sends
  obtain ⟨c₀, last, current⟩ :=
    faithful _ _ _ x 7 12 5 versionCreated_run shown sent (.inl method) path
  rw [method] at last
  rw [show bindingDialog .patch = bindingEditing from rfl] at last
  rw [last, Option.map_some, current] at opened
  simp at opened

end Console.Run

end MetricConsole
