import Mathlib.Data.List.DropRight
import MetricConsole.Navigation

/-!
# Navigation after a history

What is active and selected is what the last action that sets it has set: the view by the last
action that shows one, the metric by the last one that selects or drops a metric, and the version by
the last one that selects or drops a version after that.  So a version that was selected while some
metric was is selected only as long as that metric is.

* `NavAction.metric?`, `NavAction.version?`, `NavAction.view?`: what each action sets.
* `Navigation.metricId_run`, `Navigation.versionId_run`, `Navigation.view_run`: what is set after a
  history.
* `Navigation.SelectsUnderMetric`, `Navigation.exists_selected`: the metric that a selected version
  was selected under is still selected.
-/

namespace MetricConsole

/-! ## What actions set -/

namespace NavAction

/-- The selection of a metric that an action makes, if it makes one. -/
def metric? : NavAction → Option (Option Int64)
  | .selectMetric id => some id
  | .openMetric id => some (some id)
  | .backToList => some none
  | .show _ | .selectVersion _ | .toggleLeft | .readLocation _ => none

/-- The selection of a version that an action makes, if it makes one. -/
def version? : NavAction → Option (Option Int64)
  | .selectVersion id => some id
  | .show _ | .selectMetric _ | .openMetric _ | .backToList | .toggleLeft | .readLocation _ => none

/-- The view that an action shows, if it shows one. -/
def view? : NavAction → Option ViewKey
  | .show view => some view
  | .openMetric _ => some .metricDetail
  | .backToList => some .metricList
  | .readLocation search => Navigation.linkedView? search
  | .selectMetric _ | .selectVersion _ | .toggleLeft => none

end NavAction

namespace Navigation

/-! ## One action -/

/-- An action sets the metric that it selects, and leaves the metric alone otherwise. -/
theorem metricId_apply (n : Navigation) (a : NavAction) :
    (n.apply a).metricId = a.metric?.getD n.metricId := by
  cases a <;> rfl

/-- An action that selects a metric drops the version. -/
theorem versionId_apply_of_metric (n : Navigation) {a : NavAction} (sets : a.metric? ≠ none) :
    (n.apply a).versionId = none := by
  cases a with
  | selectMetric | openMetric | backToList => rfl
  | «show» | selectVersion | toggleLeft | readLocation => exact absurd rfl sets

/-- Any other action sets the version that it selects, and leaves the version alone otherwise. -/
theorem versionId_apply (n : Navigation) {a : NavAction} (keeps : a.metric? = none) :
    (n.apply a).versionId = a.version?.getD n.versionId := by
  cases a with
  | selectMetric | openMetric | backToList => cases keeps
  | «show» | selectVersion | toggleLeft | readLocation => rfl

/-- An action sets the view that it shows, and leaves the view alone otherwise. -/
theorem view_apply (n : Navigation) (a : NavAction) :
    (n.apply a).view = a.view?.getD n.view := by
  cases a <;> rfl

/-! ## Histories -/

/-- The navigation after actions, one after the other. -/
def run (n : Navigation) (as : List NavAction) : Navigation := as.foldl apply n

@[simp]
theorem run_append (n : Navigation) (as bs : List NavAction) :
    n.run (as ++ bs) = (n.run as).run bs := List.foldl_append

theorem run_concat (n : Navigation) (as : List NavAction) (a : NavAction) :
    n.run (as ++ [a]) = (n.run as).apply a := List.foldl_concat ..

/-- What the last action that sets something has set. -/
def lastSet {α : Type} (sets? : NavAction → Option α) (as : List NavAction) : Option α :=
  (as.filterMap sets?).getLast?

theorem lastSet_concat {α : Type} (sets? : NavAction → Option α) (as : List NavAction)
    (a : NavAction) : lastSet sets? (as ++ [a]) = (sets? a).or (lastSet sets? as) := by
  unfold lastSet
  rw [List.filterMap_append, List.getLast?_append]
  cases set : sets? a <;> simp [set]

/-- The actions after the last one that selects or drops a metric. -/
def sinceMetric (as : List NavAction) : List NavAction :=
  as.rtakeWhile fun a => a.metric?.isNone

/-- The selected metric is the one that was selected last. -/
theorem metricId_run (as : List NavAction) :
    (initial.run as).metricId = (lastSet NavAction.metric? as).join := by
  induction as using List.reverseRecOn with
  | nil => rfl
  | append_singleton as a ih =>
    rw [run_concat, metricId_apply, lastSet_concat, ih]
    cases a.metric? <;> rfl

/-- The selected version is the one that was selected last since a metric was. -/
theorem versionId_run (as : List NavAction) :
    (initial.run as).versionId = (lastSet NavAction.version? (sinceMetric as)).join := by
  induction as using List.reverseRecOn with
  | nil => rfl
  | append_singleton as a ih =>
    rw [run_concat, sinceMetric]
    cases sets : a.metric? with
    | some id =>
      rw [versionId_apply_of_metric _ (by simp [sets]),
        List.rtakeWhile_concat_neg _ _ _ (by simp [sets])]
      rfl
    | none =>
      rw [versionId_apply _ sets, List.rtakeWhile_concat_pos _ _ _ (by simp [sets]),
        lastSet_concat, ih, sinceMetric]
      cases a.version? <;> rfl

/-- The active view is the one that was shown last. -/
theorem view_run (as : List NavAction) :
    (initial.run as).view = (lastSet NavAction.view? as).getD .dashboard := by
  induction as using List.reverseRecOn with
  | nil => rfl
  | append_singleton as a ih =>
    rw [run_concat, view_apply, lastSet_concat, ih]
    cases a.view? <;> rfl

/-! ## Versions under their metric -/

/-- A version is only ever selected while a metric is. -/
def SelectsUnderMetric (as : List NavAction) : Prop :=
  ∀ before v after, as = before ++ .selectVersion (some v) :: after →
    (initial.run before).metricId ≠ none

theorem selectsUnderMetric_concat_iff {as : List NavAction} {a : NavAction} :
    SelectsUnderMetric (as ++ [a]) ↔ SelectsUnderMetric as ∧
      ∀ v, a = .selectVersion (some v) → (initial.run as).metricId ≠ none := by
  constructor
  · intro under
    refine ⟨fun before v after text => under before v (after ++ [a]) (by simp [text]), ?_⟩
    rintro v rfl
    exact under as v [] rfl
  · rintro ⟨earlier, last⟩ before v after text
    obtain rfl | ⟨after, b, rfl⟩ := List.eq_nil_or_concat after
    · obtain ⟨rfl, same⟩ := List.append_inj' text rfl
      exact last v (List.singleton_inj.mp same)
    · rw [List.concat_eq_append, ← List.cons_append, ← List.append_assoc] at text
      exact earlier before v after (List.append_inj' text rfl).1

theorem SelectsUnderMetric.nil : SelectsUnderMetric [] := fun _ _ _ text => by simp at text

/-- Actions that select no version can come after. -/
theorem SelectsUnderMetric.append {as bs : List NavAction} (under : SelectsUnderMetric as)
    (other : ∀ b ∈ bs, b.version? = none) : SelectsUnderMetric (as ++ bs) := by
  induction bs using List.reverseRecOn with
  | nil => simpa using under
  | append_singleton bs b ih =>
    obtain ⟨earlier, last⟩ := List.forall_mem_append.mp other
    rw [← List.append_assoc]
    refine selectsUnderMetric_concat_iff.mpr ⟨ih earlier, ?_⟩
    rintro v rfl
    cases last _ (List.mem_singleton_self _)

/-- If versions are only selected while a metric is, then a selected version was selected while the
metric was that is selected now, and since then no metric and no other version was. -/
theorem exists_selected {as : List NavAction} (under : SelectsUnderMetric as) {v : Int64}
    (selected : (initial.run as).versionId = some v) :
    ∃ id before after, as = before ++ .selectVersion (some v) :: after ∧
      (∀ a ∈ after, a.metric? = none ∧ a.version? = none) ∧
      (initial.run before).metricId = some id ∧ (initial.run as).metricId = some id := by
  induction as using List.reverseRecOn with
  | nil => cases selected
  | append_singleton as a ih =>
    obtain ⟨earlier, last⟩ := selectsUnderMetric_concat_iff.mp under
    rw [run_concat] at selected ⊢
    rw [metricId_apply]
    cases sets : a.metric? with
    | some id =>
      rw [versionId_apply_of_metric _ (by simp [sets])] at selected
      cases selected
    | none =>
      rw [versionId_apply _ sets] at selected
      cases version : a.version? with
      | none =>
        -- the action changes neither, so the history before it is the one to look at
        rw [version] at selected
        obtain ⟨id, before, after, rfl, since, metric, still⟩ := ih earlier selected
        refine ⟨id, before, after ++ [a], by simp, ?_, metric, still⟩
        exact List.forall_mem_append.mpr ⟨since, List.forall_mem_singleton.mpr ⟨sets, version⟩⟩
      | some id =>
        obtain rfl : a = .selectVersion id := by
          cases a <;> cases version
          rfl
        rw [version] at selected
        obtain rfl : id = some v := selected
        obtain ⟨metric, found⟩ := Option.ne_none_iff_exists'.mp (last v rfl)
        exact ⟨metric, as, [], rfl, nofun, found, found⟩

end Navigation

end MetricConsole
