import MetricConsole.Proofs.Form.Created
import MetricConsole.Proofs.Form.Untouched

/-!
# The range of dates in a change of a version

The form of a new version wants two dates of which the first is not after the last.  The form of a
change asks nothing of its dates: a field that holds no date is left out of the patch, whether it is
blank or not, and two dates are sent in any order.  So the patch shows why the form of a new version
would have been refused for its range.

* `VersionForm.toUpdate_dates_unchecked`: what a change checks, and what a new version would be
  refused for.
* `VersionForm.exists_unchecked_dates`: two forms whose dates only a change accepts.
-/

namespace MetricConsole

open Text

namespace VersionForm

theorem checks_toUpdate (f : VersionForm) : Checks f.toUpdate [.json f.formulaDsl] :=
  (Form.checks_dsl f.formulaDsl).bind fun _ _ => .ok _

/-- A new version has a grain exactly if the change names one. -/
theorem met_listed_iff {f : VersionForm} {d : VersionPatch} (sent : f.toUpdate = .ok d) :
    (Requirement.listed "Grain" f.grain).Met ↔ d.grain ≠ none := by
  obtain ⟨formula, -, rfl⟩ := toUpdate_eq_ok sent
  rw [← List.forall_mem_singleton (p := Requirement.Met), ← f.checks_grainItems.ok_iff]
  simp [grainItems_eq_ok, Option.ne_none_iff_exists']

/-- Both dates of a new version are there exactly if the change names both. -/
theorem met_dated_iff {f : VersionForm} {d : VersionPatch} (sent : f.toUpdate = .ok d) :
    (Requirement.dated f.effectiveFrom f.effectiveTo).Met ↔
      d.effectiveFrom ≠ none ∧ d.effectiveTo ≠ none := by
  obtain ⟨formula, -, rfl⟩ := toUpdate_eq_ok sent
  simp [Requirement.dated, Option.ne_none_iff_exists']

/-- The range of a new version is in order exactly if the change names both dates in order. -/
theorem met_ordered_iff {f : VersionForm} {d : VersionPatch} (sent : f.toUpdate = .ok d) :
    (Requirement.ordered f.effectiveFrom f.effectiveTo).Met ↔
      ∃ first ∈ d.effectiveFrom, ∃ last ∈ d.effectiveTo, ¬last < first := by
  obtain ⟨formula, -, rfl⟩ := toUpdate_eq_ok sent
  simp [Requirement.ordered, Date.not_lt_iff]

theorem firstUnmet_rangeMissing_iff {f : VersionForm} :
    FirstUnmet .rangeMissing f.requirements ↔
      (Requirement.listed "Grain" f.grain).Met ∧
        ¬(Requirement.dated f.effectiveFrom f.effectiveTo).Met := by
  simp [requirements, firstUnmet_cons_iff, not_firstUnmet_nil]

theorem firstUnmet_rangeReversed_iff {f : VersionForm} :
    FirstUnmet .rangeReversed f.requirements ↔
      (Requirement.listed "Grain" f.grain).Met ∧
        (Requirement.dated f.effectiveFrom f.effectiveTo).Met ∧
        ¬(Requirement.ordered f.effectiveFrom f.effectiveTo).Met := by
  simp [requirements, firstUnmet_cons_iff, not_firstUnmet_nil]

/-- A change of a version is refused for its formula only, and names the dates that its fields hold.
The form of a new version is refused for its range exactly if the change names a grain and lacks one
of the dates, or names them in the wrong order. -/
theorem toUpdate_dates_unchecked (f : VersionForm) :
    Checks f.toUpdate [.json f.formulaDsl] ∧
    ∀ d, f.toUpdate = .ok d →
      d.effectiveFrom = Date.ofField? f.effectiveFrom ∧
      d.effectiveTo = Date.ofField? f.effectiveTo ∧
      (f.toCreate = .error .rangeMissing ↔
        d.grain ≠ none ∧ (d.effectiveFrom = none ∨ d.effectiveTo = none)) ∧
      (f.toCreate = .error .rangeReversed ↔
        d.grain ≠ none ∧ ∃ first ∈ d.effectiveFrom, ∃ last ∈ d.effectiveTo, last < first) := by
  refine ⟨f.checks_toUpdate, fun d sent => ?_⟩
  have grain := met_listed_iff sent
  have dated := met_dated_iff sent
  have ordered := met_ordered_iff sent
  obtain ⟨formula, -, rfl⟩ := toUpdate_eq_ok sent
  refine ⟨rfl, rfl, ?_, ?_⟩
  · rw [f.checks_toCreate.error_iff, firstUnmet_rangeMissing_iff, grain, dated]
    simp only [ne_eq, not_and_or, not_not]
  · rw [f.checks_toCreate.error_iff, firstUnmet_rangeReversed_iff, grain, dated, ordered]
    cases Date.ofField? f.effectiveFrom <;> cases Date.ofField? f.effectiveTo <;> simp

/-- A change that sends a range that ends before it starts. -/
def reversed : VersionForm :=
  { empty with grain := "company", effectiveFrom := "2025-01-01", effectiveTo := "2024-12-31" }

/-- The form of a new version is refused for that range, and the change is sent. -/
theorem toUpdate_dates_unchecked_reversed :
    ∃ d, reversed.toUpdate = .ok d ∧ reversed.toCreate = .error .rangeReversed := by
  have dates := reversed.toUpdate_dates_unchecked
  have blank : (Requirement.json reversed.formulaDsl).Met := .inl (by decide)
  obtain ⟨d, sent⟩ := dates.1.ok_iff.mpr (List.forall_mem_singleton.mpr blank)
  refine ⟨d, sent, (dates.2 d sent).2.2.2.mpr ?_⟩
  obtain ⟨formula, -, rfl⟩ := toUpdate_eq_ok sent
  exact ⟨Option.some_ne_none ["company"], _, rfl, _, rfl, by decide⟩

/-- With both dates typed, a change can be accepted that the form of a new version would refuse.  It
then sends a range that ends before it starts, or leaves out a date that was typed. -/
theorem exists_unchecked_dates :
    (∃ f : VersionForm, ¬IsBlank f.effectiveFrom ∧ ¬IsBlank f.effectiveTo ∧
      f.toCreate = .error .rangeReversed ∧ ∃ d first last, f.toUpdate = .ok d ∧
        d.effectiveFrom = some first ∧ d.effectiveTo = some last ∧ last < first) ∧
    ∃ f : VersionForm, ¬IsBlank f.effectiveFrom ∧ ¬IsBlank f.effectiveTo ∧
      f.toCreate = .error .rangeMissing ∧ ∃ d, f.toUpdate = .ok d ∧ d.effectiveTo = none := by
  refine ⟨⟨reversed, by decide, by decide, rfl, _, _, _, rfl, rfl, rfl, by decide⟩,
    ⟨{ reversed with effectiveTo := "31.12.2025" }, by decide, by decide, rfl, _, rfl, rfl⟩⟩

end VersionForm

end MetricConsole
