import Mathlib.Data.List.Sort
import MetricConsole.Page.Choice
import MetricConsole.Proofs.Text.ByteOrder

/-!
# The entries of the selector for subject areas

The selector offers the subject areas of the metrics that are listed, and the selected one even if
no metric has it.  They are put into a list one after the other, each in its place unless it is
there.  So the list is strictly increasing, and a strictly increasing list is known by its members:
neither the order of the metrics nor how often a subject area occurs makes a difference.

* `insertText_increasing`, `mem_insertText`: one text put in its place.
* `sortTexts_congr`: the list depends on its members alone.
* `mem_subjectAreas`: what the selector offers.
* `subjectAreas_sorted_set`: the entries are a sorted set with the selection among them.
-/

namespace MetricConsole

/-! ## Texts in increasing order -/

section Texts

variable {s a : String} {ts us : List String}

theorem mem_insertText : a ∈ insertText s ts ↔ a = s ∨ a ∈ ts := by
  induction ts with
  | nil => simp [insertText]
  | cons t ts ih =>
    simp only [insertText]
    split
    · next same => simp [same]
    · split
      · simp
      · rw [List.mem_cons, ih, List.mem_cons]
        exact or_left_comm

/-- A text put in its place leaves the list strictly increasing. -/
theorem insertText_increasing (increasing : ts.Pairwise (· < ·)) :
    (insertText s ts).Pairwise (· < ·) := by
  induction ts with
  | nil => exact List.pairwise_singleton _ _
  | cons t ts ih =>
    rcases List.pairwise_cons.mp increasing with ⟨below, tail⟩
    simp only [insertText]
    split
    · exact increasing
    · next other =>
      split
      · next before =>
        refine List.pairwise_cons.mpr ⟨fun a mem => ?_, increasing⟩
        rcases List.mem_cons.mp mem with rfl | later
        · exact before
        · exact before.trans (below a later)
      · next behind =>
        have after : t < s := lt_of_le_of_ne (not_lt.mp behind) (Ne.symm other)
        refine List.pairwise_cons.mpr ⟨fun a mem => ?_, ih tail⟩
        rcases mem_insertText.mp mem with rfl | later
        · exact after
        · exact below a later

theorem mem_sortTexts : a ∈ sortTexts ts ↔ a ∈ ts := by
  induction ts with
  | nil => rfl
  | cons t ts ih =>
    change a ∈ insertText t (sortTexts ts) ↔ _
    rw [mem_insertText, ih, List.mem_cons]

theorem sortTexts_increasing (ts : List String) : (sortTexts ts).Pairwise (· < ·) := by
  induction ts with
  | nil => exact .nil
  | cons t ts ih => exact insertText_increasing ih

/-- Texts in increasing order depend on which there are, and on nothing else. -/
theorem sortTexts_congr (same : ∀ a, a ∈ ts ↔ a ∈ us) : sortTexts ts = sortTexts us := by
  refine (sortTexts_increasing ts).eq_of_mem_iff (sortTexts_increasing us) fun a => ?_
  rw [mem_sortTexts, mem_sortTexts, same]

end Texts

/-! ## Subject areas -/

section SubjectAreas

variable {ms : List Metric} {selected a : String}

/-- The selector offers the subject areas of the metrics and the selected one, but not the
empty one, nor a selection of all. -/
theorem mem_subjectAreas :
    a ∈ subjectAreas ms selected ↔
      (a ≠ "" ∧ ∃ m ∈ ms, m.subjectArea = some a) ∨
        (a = selected ∧ selected ≠ "" ∧ selected ≠ MetricFilters.all) := by
  have listed : a ∈ (ms.filterMap Metric.subjectArea).filter (· ≠ "") ↔
      a ≠ "" ∧ ∃ m ∈ ms, m.subjectArea = some a := by
    rw [List.mem_filter, List.mem_filterMap, decide_eq_true_eq, and_comm]
  have kept : (a ∈ if selected ≠ MetricFilters.all ∧ selected ≠ "" then [selected] else []) ↔
      a = selected ∧ selected ≠ "" ∧ selected ≠ MetricFilters.all := by
    split
    · next chosen => simp [chosen]
    · next unchosen => simpa [and_comm] using fun _ => unchosen
  rw [subjectAreas, mem_sortTexts, List.mem_append, listed, kept]

/-- The entries depend on which there are, and on nothing else. -/
theorem subjectAreas_congr {ms' : List Metric} {selected' : String}
    (same : ∀ a, a ∈ subjectAreas ms selected ↔ a ∈ subjectAreas ms' selected') :
    subjectAreas ms selected = subjectAreas ms' selected' :=
  sortTexts_congr fun a => mem_sortTexts.symm.trans ((same a).trans mem_sortTexts)

/-- To select what a metric has is to select nothing. -/
theorem subjectAreas_of_listed (listed : ∃ m ∈ ms, m.subjectArea = some selected) {cleared : String}
    (nothing : cleared = "" ∨ cleared = MetricFilters.all) :
    subjectAreas ms selected = subjectAreas ms cleared := by
  refine subjectAreas_congr fun a => ?_
  rw [mem_subjectAreas, mem_subjectAreas]
  constructor
  · rintro (found | ⟨rfl, nonempty, -⟩)
    · exact .inl found
    · exact .inl ⟨nonempty, listed⟩
  · rintro (found | ⟨-, nonempty, restricts⟩)
    · exact .inl found
    · exact absurd nothing (not_or.mpr ⟨nonempty, restricts⟩)

/-- **The entries are a sorted set.**  The entries of the selector for subject areas are strictly
increasing in the order of their bytes, so none is there twice.  They are the subject areas of the
metrics that are not empty, and the selected one if it is one.  Neither the order of the metrics nor
how often one occurs makes a difference; nor does it to select what a metric has. -/
theorem subjectAreas_sorted_set (ms : List Metric) (selected : String) :
    ((subjectAreas ms selected).map Text.bytes).Pairwise (· < ·) ∧
      (subjectAreas ms selected).Nodup ∧
      (∀ a, a ∈ subjectAreas ms selected ↔
        (a ≠ "" ∧ ∃ m ∈ ms, m.subjectArea = some a) ∨
          (a = selected ∧ selected ≠ "" ∧ selected ≠ MetricFilters.all)) ∧
      (∀ ms' : List Metric, (∀ m, m ∈ ms' ↔ m ∈ ms) →
        subjectAreas ms' selected = subjectAreas ms selected) ∧
      ((∃ m ∈ ms, m.subjectArea = some selected) →
        subjectAreas ms selected = subjectAreas ms MetricFilters.all ∧
          subjectAreas ms selected = subjectAreas ms "") := by
  have increasing : (subjectAreas ms selected).Pairwise (· < ·) := sortTexts_increasing _
  refine ⟨List.pairwise_map.mpr (increasing.imp Text.bytes_lt_iff.mpr), increasing.imp ne_of_lt,
    fun a => mem_subjectAreas, fun ms' same => ?_, fun listed => ?_⟩
  · refine subjectAreas_congr fun a => ?_
    rw [mem_subjectAreas, mem_subjectAreas]
    simp only [same]
  · exact ⟨subjectAreas_of_listed listed (.inr rfl), subjectAreas_of_listed listed (.inl rfl)⟩

/-- Two metrics have the same subject area, and it is selected. -/
theorem subjectAreas_sorted_set_selected :
    let m : Metric := ⟨1, "", "x", "kpi", none, some "trade", none, "normal", none, none, none, "x",
      "x", []⟩
    subjectAreas [m, m] "trade" = subjectAreas [m] "" ∧ "trade" ∈ subjectAreas [m, m] "trade" := by
  intro m
  rcases subjectAreas_sorted_set [m, m] "trade" with ⟨-, -, members, unordered, -⟩
  have single := (subjectAreas_sorted_set [m] "trade").2.2.2.2 ⟨m, List.mem_singleton_self m, rfl⟩
  refine ⟨?_, (members "trade").mpr (.inl ⟨by decide, m, List.mem_cons_self, rfl⟩)⟩
  rw [← unordered [m] (fun _ => by simp), single.2]

end SubjectAreas

end MetricConsole
