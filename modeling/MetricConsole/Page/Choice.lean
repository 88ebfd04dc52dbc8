import MetricConsole.Catalog.Metric

/-!
# Choices

What a page shows when nothing, or something that is gone, is selected, and what its selectors
offer.
-/

namespace MetricConsole

/-- The metric whose versions are shown: the selected one, or else the first of the list. -/
def shownMetric (metrics : List Metric) (selected : Option Int64) : Option Int64 :=
  match selected with
  | some id => some id
  | none => metrics.head?.map Metric.id

/-- The version whose bindings are shown: the selected one if the metric has it, or else the
latest. -/
def shownVersion (versions : List MetricVersion) (selected : Option Int64) : Option Int64 :=
  match selected with
  | some id =>
    if versions.any fun v => v.id == id then some id else versions.head?.map MetricVersion.id
  | none => versions.head?.map MetricVersion.id

/-- Puts a text in its place in a list of texts in increasing order, unless it is there. -/
def insertText (s : String) : List String → List String
  | [] => [s]
  | t :: ts => if s = t then t :: ts else if s < t then s :: t :: ts else t :: insertText s ts

/-- The texts of a list in increasing order, each once. -/
def sortTexts (ts : List String) : List String := ts.foldr insertText []

/-- The subject areas of the metrics, and the selected one, so that it never leaves its selector. -/
def subjectAreas (metrics : List Metric) (selected : String) : List String :=
  let listed := (metrics.filterMap Metric.subjectArea).filter (· ≠ "")
  let kept := if selected ≠ MetricFilters.all ∧ selected ≠ "" then [selected] else []
  sortTexts (listed ++ kept)

/-- An entry of a selector: its value and its text. -/
abbrev Choice := String × String

/-- The entries whose texts are their values. -/
def choices (values : List String) : List Choice := values.map fun v => (v, v)

/-- The entries of a filter; the first one lets everything through. -/
def filterChoices (allLabel : String) (values : List String) : List Choice :=
  (MetricFilters.all, allLabel) :: choices values

end MetricConsole
