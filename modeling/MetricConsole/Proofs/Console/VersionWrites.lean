import MetricConsole.Proofs.Console.Dialog

/-!
# The metric of a version that is written

In the management of versions a dialog is opened for a version of the metric that is shown, and the
page remembers the id of the version.  The metric is looked up again when the dialog is confirmed:
it is the selected one, or else the first of the list.  So the write is for the version that the
dialog was opened for, below the metric that is shown at the end; that is the metric of the version
unless another one was selected, or nothing was selected and the list begins with another one.

* `versionEditing_faithful`, `versionDeletion_faithful`: the two dialogs remember their versions.
* `Console.Run.version_write_shown`: which metric and which version a write is for.
* `Console.Run.version_write_astray`: a write for a version of another metric.
-/

namespace MetricConsole

open Page

/-! ## What the page remembers -/

namespace Page.Versions

/-- Only the message that opens the form changes the version that is edited. -/
theorem editing_update (scene : Scene) (s : State) (m : Msg) :
    (update scene s m).1.editing =
      match m with
      | .startEdit v => some v.id
      | _ => s.editing := by
  cases m <;> simp only [update] <;> (try split) <;> (try split) <;> rfl

/-- Only the message that asks whether to delete a version changes which one it is. -/
theorem doomed_update (scene : Scene) (s : State) (m : Msg) :
    (update scene s m).1.doomed =
      match m with
      | .askDelete v => some v
      | _ => s.doomed := by
  cases m <;> simp only [update] <;> (try split) <;> (try split) <;> rfl

/-- The page writes below the metric that it shows: it asks to publish the metric, or changes the
version that is edited, or deletes the one that it asked about. -/
theorem write_cases {scene : Scene} {s : State} {m : Msg} {mutation : Mutation}
    {body : Option Json} {job : Job} (written : .write mutation body job ∈ (update scene s m).2) :
    ∃ id, metricId scene = some id ∧
      (mutation = .requestPublish id ∨
        (∃ v, s.editing = some v ∧ mutation = .updateVersion id v) ∨
          ∃ v, s.doomed = some v ∧ mutation = .deleteVersion id v.id) := by
  cases m with
  | publish =>
    simp only [update] at written
    split at written
    · cases written
    · next id shown =>
      cases List.mem_singleton.mp written
      exact ⟨id, shown, .inl rfl⟩
  | saveEdit =>
    simp only [update] at written
    split at written
    · next id v shown edited =>
      split at written
      · cases written
      · cases List.mem_singleton.mp written
        exact ⟨id, shown, .inr (.inl ⟨v, edited, rfl⟩)⟩
    · cases written
  | confirmDelete =>
    simp only [update] at written
    split at written
    · next id v shown doomed =>
      cases List.mem_singleton.mp written
      exact ⟨id, shown, .inr (.inr ⟨v, doomed, rfl⟩)⟩
    · cases written
  | _ => cases written

end Page.Versions

/-! ## The two dialogs -/

section Managed

variable (opens : Versions.Msg → Option Int64) (subject : Versions.State → Option Int64)
  (ends : Mutation → Prop) (target : Scene → Int64 → Option Mutation)

/-- A dialog of the management of versions. -/
def managed : Dialog where
  view := .version
  opens
    | .versions m => opens m
    | _ => none
  subject
    | .versions s => subject s
    | _ => none
  ends := ends
  target := target

variable {opens subject ends target}

/-- What holds of the states of the management of versions holds of the page. -/
theorem managed_faithful (fresh : subject Versions.initial = none)
    (sync : ∀ navigated scene s, subject (Versions.sync navigated scene s).1 = subject s)
    (update : ∀ {scene s m id}, subject (Versions.update scene s m).1 = some id →
      opens m = some id ∨ opens m = none ∧ subject s = some id)
    (finish : ∀ {s j result id}, subject (Versions.finish s j result) = some id →
      subject s = some id)
    (writes : ∀ {scene s m mutation body job}, ends mutation →
      .write mutation body job ∈ (Versions.update scene s m).2 →
      ∃ id, subject s = some id ∧ target scene id = some mutation) :
    (managed opens subject ends target).Faithful where
  fresh v := by
    cases v with
    | version => exact fresh
    | _ => rfl
  sync {navigated scene p id} remembered := by
    cases p with
    | versions s => exact (sync navigated scene s).symm.trans remembered
    | _ => cases remembered
  update {scene m p id} remembered := by
    cases p with
    | versions s =>
      cases m with
      | versions m => exact update remembered
      | _ => exact .inr ⟨rfl, remembered⟩
    | _ => cases m <;> cases remembered
  finish {result job p id} remembered := by
    cases p with
    | versions s =>
      cases job with
      | versions j => exact finish remembered
      | _ => exact remembered
    | _ => cases job <;> cases remembered
  writes {scene m p mutation body job} shown ends written := by
    cases p with
    | versions s =>
      cases m with
      | versions m =>
        obtain ⟨job', commanded⟩ := Command.write_of_map written
        exact writes ends commanded
      | _ => cases written
    | placeholder v => cases m <;> cases written
    | _ => cases shown

end Managed

/-- The form in which a version is edited. -/
def versionEditing : Dialog :=
  managed (fun | .startEdit v => some v.id | _ => none) Versions.State.editing
    (fun m => ∃ id v, m = .updateVersion id v)
    (fun scene v => (Versions.metricId scene).map fun id => .updateVersion id v)

/-- The question whether to delete a version. -/
def versionDeletion : Dialog :=
  managed (fun | .askDelete v => some v.id | _ => none) (fun s => s.doomed.map MetricVersion.id)
    (fun m => ∃ id v, m = .deleteVersion id v)
    (fun scene v => (Versions.metricId scene).map fun id => .deleteVersion id v)

theorem versionEditing_faithful : versionEditing.Faithful := by
  refine managed_faithful rfl (fun _ _ _ => rfl) ?update ?finish ?writes
  case update =>
    intro scene s m id remembered
    rw [Versions.editing_update] at remembered
    cases m with
    | startEdit v => exact .inl remembered
    | _ => exact .inr ⟨rfl, remembered⟩
  case finish =>
    intro s j result id remembered
    cases j <;> exact remembered
  case writes =>
    rintro scene s m _ body job ⟨id, v, rfl⟩ written
    obtain ⟨id', metric, other | ⟨w, edited, same⟩ | ⟨w, -, other⟩⟩ := Versions.write_cases written
    · cases other
    · cases same
      exact ⟨v, edited, by simp [metric]⟩
    · cases other

theorem versionDeletion_faithful : versionDeletion.Faithful := by
  refine managed_faithful rfl (fun _ _ _ => rfl) ?update ?finish ?writes
  case update =>
    intro scene s m id remembered
    rw [Versions.doomed_update] at remembered
    cases m with
    | askDelete v => exact .inl remembered
    | _ => exact .inr ⟨rfl, remembered⟩
  case finish =>
    intro s j result id remembered
    cases j with
    | delete => cases remembered
    | _ => exact remembered
  case writes =>
    rintro scene s m _ body job ⟨id, v, rfl⟩ written
    obtain ⟨id', metric, other | ⟨w, -, other⟩ | ⟨w, doomed, same⟩⟩ := Versions.write_cases written
    · cases other
    · cases other
    · cases same
      exact ⟨w.id, by simp [doomed], by simp [metric]⟩

/-- The dialog that ends in a write with a method. -/
def versionDialog : Method → Dialog
  | .delete => versionDeletion
  | _ => versionEditing

/-! ## The metric of a version -/

/-- Another metric is shown only if the selection has changed, or nothing is selected and the list
begins with another metric. -/
theorem metricId_moved {scene scene' : Scene}
    (moved : Versions.metricId scene ≠ Versions.metricId scene') :
    scene.nav.metricId ≠ scene'.nav.metricId ∨
      scene.nav.metricId = none ∧
        (Versions.metrics scene).head?.map Metric.id ≠
          (Versions.metrics scene').head?.map Metric.id := by
  by_cases selection : scene.nav.metricId = scene'.nav.metricId
  · refine .inr ?_
    unfold Versions.metricId shownMetric at moved
    rw [← selection] at moved
    cases selected : scene.nav.metricId with
    | none =>
      rw [selected] at moved
      exact ⟨rfl, moved⟩
    | some id =>
      rw [selected] at moved
      exact absurd rfl moved
  · exact .inl selection

namespace Console.Run

variable {log : List (Console × Event)} {c : Console}

/-- **Writes of versions.**  Whenever the management of versions changes or deletes a version, the
version is the one that the dialog was last opened for since the page is shown, and the metric is
the one that is shown at that moment; it is the metric that was shown when the dialog was opened,
unless the selection has changed since, or nothing was selected and the list begins with another
metric. -/
theorem version_write_shown (run : Run log c) (shown : c.page.viewKey = .version) {e : Event}
    {x : Exchange Errand} (sent : x ∈ c.sends e) {id v : Int64}
    (method : x.request.method = .patch ∨ x.request.method = .delete)
    (path : x.request.path = "metrics/" ++ idText id ++ "/versions/" ++ idText v) :
    ∃ c₀, (versionDialog x.request.method).lastOpened? c.showing log = some (c₀, v) ∧
      Versions.metricId c.scene = some id ∧
      (Versions.metricId c₀.scene = some id ∨ c₀.nav.metricId ≠ c.nav.metricId ∨
        c₀.nav.metricId = none ∧ (Versions.metrics c₀.scene).head?.map Metric.id ≠
          (Versions.metrics c.scene).head?.map Metric.id) := by
  have opened : ∃ c₀, (versionDialog x.request.method).lastOpened? c.showing log = some (c₀, v) ∧
      Versions.metricId c.scene = some id := by
    rcases method with patch | delete
    · have patched : x.request.method = (Mutation.updateVersion id v).method := patch
      obtain ⟨c₀, v', opened, target⟩ :=
        run.write_opened versionEditing_faithful shown sent ⟨id, v, rfl⟩ patched path
      obtain ⟨metric, same⟩ : Versions.metricId c.scene = some id ∧ v' = v := by
        simpa [versionEditing, managed] using target
      exact ⟨c₀, by rw [patch, ← same]; exact opened, metric⟩
    · have deleted : x.request.method = (Mutation.deleteVersion id v).method := delete
      obtain ⟨c₀, v', opened, target⟩ :=
        run.write_opened versionDeletion_faithful shown sent ⟨id, v, rfl⟩ deleted path
      obtain ⟨metric, same⟩ : Versions.metricId c.scene = some id ∧ v' = v := by
        simpa [versionDeletion, managed] using target
      exact ⟨c₀, by rw [delete, ← same]; exact opened, metric⟩
  obtain ⟨c₀, opened, metric⟩ := opened
  refine ⟨c₀, opened, metric, ?_⟩
  by_cases same : Versions.metricId c₀.scene = Versions.metricId c.scene
  · exact .inl (same.trans metric)
  · exact .inr (metricId_moved same)

/-- The catalog has the metrics 7 and 8, and 7 has the version 11.  Nothing is selected, so the
versions of 7 are shown.  The deletion of 7 is under way when the form of version 11 is opened; it
is confirmed, and the list is loaded again without 7. -/
def metricDeleted : List (Console × Event) × Console :=
  (Console.start "?view=version" []).replay
    [.answer 0 (.answered 200
        ("[[7,\"\",\"\",\"\",null,null,null,\"\",null,null,null,\"\",\"\"]," ++
          "[8,\"\",\"\",\"\",null,null,null,\"\",null,null,null,\"\",\"\"]]")),
      .answer 0 (.answered 200
        "[[11,7,null,\"draft\",null,null,null,null,null,null,null,null,\"\",[]]]"),
      .choose "Metrics", .press "icon:delete" 0, .press "Delete" 0, .choose "Versions",
      .press "icon:edit" 0, .answer 1 (.answered 200 ""),
      .answer 1 (.answered 200 "[[8,\"\",\"\",\"\",null,null,null,\"\",null,null,null,\"\",\"\"]]")]

theorem metricDeleted_run : Run metricDeleted.1 metricDeleted.2 :=
  Run.replay "?view=version" [] _

/-- The form is still open on version 11, opened below 7, and saving it writes below 8. -/
theorem metricDeleted_sends : metricDeleted.2.page.viewKey = .version ∧
    (metricDeleted.2.sends (.press "Save" 0)).map (fun x => (x.request.method, x.request.path)) =
      [(.patch, "metrics/" ++ idText 8 ++ "/versions/" ++ idText 11)] ∧
    (versionEditing.lastOpened? metricDeleted.2.showing metricDeleted.1).map
      (fun o => (Versions.metricId o.1.scene, o.2)) = some (some 7, 11) := by
  decide +kernel

/-- The version is the one that the form was opened for, and the metric is the one that is shown. -/
theorem version_write_shown_deleted :
    ∃ x ∈ metricDeleted.2.sends (.press "Save" 0),
      Run metricDeleted.1 metricDeleted.2 ∧ metricDeleted.2.page.viewKey = .version ∧
        x.request.method = .patch ∧
        x.request.path = "metrics/" ++ idText 8 ++ "/versions/" ++ idText 11 ∧
        Versions.metricId metricDeleted.2.scene = some 8 ∧
        ∃ c₀, versionEditing.lastOpened? metricDeleted.2.showing metricDeleted.1 =
          some (c₀, 11) := by
  obtain ⟨shown, sends, -⟩ := metricDeleted_sends
  obtain ⟨x, sent, method, path⟩ := exists_sent sends
  obtain ⟨c₀, opened, metric, -⟩ :=
    metricDeleted_run.version_write_shown shown sent (.inl method) path
  rw [method] at opened
  exact ⟨x, sent, metricDeleted_run, shown, method, path, metric, c₀, opened⟩

/-- Not every write of a version is below the metric that was shown when the dialog was opened. -/
theorem version_write_astray :
    ¬ ∀ (log : List (Console × Event)) (c : Console) (e : Event) (x : Exchange Errand)
      (id v : Int64), Run log c → c.page.viewKey = .version → x ∈ c.sends e →
      x.request.method = .patch ∨ x.request.method = .delete →
      x.request.path = "metrics/" ++ idText id ++ "/versions/" ++ idText v →
      ∃ c₀, (versionDialog x.request.method).lastOpened? c.showing log = some (c₀, v) ∧
        Versions.metricId c₀.scene = some id := by
  intro faithful
  obtain ⟨shown, sends, opened⟩ := metricDeleted_sends
  obtain ⟨x, sent, method, path⟩ := exists_sent sends
  obtain ⟨c₀, last, metric⟩ := faithful _ _ _ x 8 11 metricDeleted_run shown sent (.inl method) path
  rw [method] at last
  rw [show versionDialog .patch = versionEditing from rfl] at last
  rw [last, Option.map_some, metric] at opened
  simp at opened

end Console.Run

end MetricConsole
