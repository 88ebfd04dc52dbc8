import MetricConsole.Proofs.Api.Address
import MetricConsole.Proofs.Cache.Entry
import MetricConsole.Proofs.Text.Blank

/-!
# Filters in canonical form

The filters of a list of metrics are built from the texts of a keyword field and of two selectors.
Blanks at the ends of a text do not count.  A blank keyword does not restrict, and neither does a
selector that is blank or says the word for all; as a keyword that word is looked for like any
other.  So there is one value for each way of asking, and with it one entry of the cache and one
request.

* `MetricFilters.Canonical`, `MetricFilters.canonical_normalized`: the filters that are built.
* `MetricFilters.normalized_eq_iff`: the texts that are built into the same filters.
* `MetricFilters.normalized_of_canonical`: filters that are written back into the fields.
* `MetricFilters.normalized_canonical`: all of it, with entries and requests.
-/

namespace MetricConsole

open Text

/-- What is stored under a key is found under that key and under no other. -/
theorem Cache.get_put_eq_iff {k k' : QueryKey} :
    (∀ (c : Cache) (e : CacheEntry), (c.put k e).get k' = e) ↔ k = k' := by
  constructor
  · intro shared
    by_contra other
    have found := shared .empty { CacheEntry.blank with observers := 1 }
    rw [get_put_of_ne _ _ (Ne.symm other), get_empty] at found
    simp [CacheEntry.blank] at found
  · rintro rfl c e
    exact c.get_put_self k e

namespace MetricFilters

variable {s t blank : String} {f g : MetricFilters}

/-! ## Selectors -/

/-- What a selector says; a blank one says the word for all. -/
def chosen (s : String) : String := if IsBlank s then all else trim s

theorem selector_eq (s : String) :
    selector s = if chosen s = all then .none else some (chosen s) := by
  unfold selector chosen
  by_cases void : IsBlank s
  · simp [nonBlank?_eq_none_iff.mpr void, void]
  · rw [nonBlank?_eq_some_iff.mpr ⟨rfl, void⟩, if_neg void, Option.filter_some]
    by_cases same : trim s = all <;> simp [same]

theorem selector_eq_iff : selector s = selector t ↔ chosen s = chosen t := by
  have said (s : String) : (selector s).getD all = chosen s := by
    rw [selector_eq]
    by_cases same : chosen s = all <;> simp [same]
  constructor
  · intro same
    rw [← said s, same, said t]
  · intro same
    rw [selector_eq, same, selector_eq]

/-- What a selector asks for is solid and not the word for all. -/
theorem isSolid_selector (s : String) : ∀ t ∈ selector s, IsSolid t ∧ t ≠ all := by
  intro t asked
  obtain ⟨left, other⟩ := Option.filter_eq_some_iff.mp asked
  exact ⟨isSolid_nonBlank? s t left, by simpa using other⟩

/-- A selector that shows what is asked for, or else does not restrict, is read back. -/
theorem selector_getD {value : Option String} (solid : ∀ t ∈ value, IsSolid t ∧ t ≠ all)
    (free : blank = "" ∨ blank = all) : selector (value.getD blank) = value := by
  cases value with
  | none =>
    rcases free with rfl | rfl
    · decide
    · decide
  | some t =>
    obtain ⟨kept, other⟩ := solid t rfl
    simp [selector, nonBlank?_eq_self_iff.mpr kept, other]

/-! ## Filters -/

/-- No field is empty or has blanks at its ends, and no selector holds the word for all. -/
structure Canonical (f : MetricFilters) : Prop where
  keyword : ∀ t ∈ f.keyword, IsSolid t
  subjectArea : ∀ t ∈ f.subjectArea, IsSolid t ∧ t ≠ all
  sensitivity : ∀ t ∈ f.sensitivity, IsSolid t ∧ t ≠ all

theorem canonical_normalized (keyword area sensitivity : String) :
    (normalized keyword area sensitivity).Canonical := by
  constructor
  -- the fields are reduced first: comparing them as they are would unfold how texts are trimmed
  all_goals dsimp only [normalized]
  case keyword => exact isSolid_nonBlank? keyword
  case subjectArea => exact isSolid_selector area
  case sensitivity => exact isSolid_selector sensitivity

/-- Canonical filters are read back from fields that show them, however a selector says that it does
not restrict. -/
theorem normalized_of_canonical (canonical : f.Canonical) {area sensitivity : String}
    (freeArea : area = "" ∨ area = all) (freeSensitivity : sensitivity = "" ∨ sensitivity = all) :
    normalized (f.keyword.getD "") (f.subjectArea.getD area) (f.sensitivity.getD sensitivity) =
      f := by
  rw [normalized, nonBlank?_getD canonical.keyword, selector_getD canonical.subjectArea freeArea,
    selector_getD canonical.sensitivity freeSensitivity]

/-- Texts are built into the same filters if they differ only in blanks at their ends and in how a
selector says that it does not restrict. -/
theorem normalized_eq_iff {keyword keyword' area area' sensitivity sensitivity' : String} :
    normalized keyword area sensitivity = normalized keyword' area' sensitivity' ↔
      trim keyword = trim keyword' ∧ chosen area = chosen area' ∧
        chosen sensitivity = chosen sensitivity' := by
  rw [normalized, normalized, mk.injEq, nonBlank?_eq_iff, selector_eq_iff, selector_eq_iff]

/-! ## Requests -/

/-- Lists of metrics are told apart by their addresses. -/
theorem url_eq_iff (config : ApiConfig) :
    (QueryKey.metricList f).request.url config = (QueryKey.metricList g).request.url config ↔
      f = g := by
  rw [(QueryKey.metricList f).request_at.url_eq_iff (QueryKey.metricList g).request_at]
  constructor
  · rintro ⟨segments, parameters⟩
    exact QueryKey.metricList.inj (QueryKey.address_injective (Prod.ext segments parameters))
  · rintro rfl
    exact ⟨rfl, rfl⟩

/-- So they are by their requests. -/
theorem request_eq_iff :
    (QueryKey.metricList f).request = (QueryKey.metricList g).request ↔ f = g := by
  constructor
  · intro same
    exact (url_eq_iff .console).mp (congrArg (Request.url · .console) same)
  · rintro rfl
    rfl

/-- **Filters are canonical.**  No field of the filters built from texts is empty or has blanks at
its ends, and no selector among them holds the word for all.  Two triples of texts are built into
the same filters, find the same entry of every cache and send the same request, exactly if the
keywords have equal trims and so have the selectors, of which a blank one stands for all.  Filters
that are written back into the fields are built again, whether a selector without restriction is
left empty or says the word for all. -/
theorem normalized_canonical (k a s : String) :
    (normalized k a s).Canonical ∧
    (∀ k' a' s' : String,
      let f := normalized k a s
      let g := normalized k' a' s'
      let alike := trim k = trim k' ∧ chosen a = chosen a' ∧ chosen s = chosen s'
      (f = g ↔ alike) ∧
      ((∀ (c : Cache) (e : CacheEntry), (c.put (.metricList f) e).get (.metricList g) = e) ↔
        alike) ∧
      ((QueryKey.metricList f).request = (QueryKey.metricList g).request ↔ alike) ∧
      ∀ config : ApiConfig, (QueryKey.metricList f).request.url config =
        (QueryKey.metricList g).request.url config ↔ alike) ∧
    ∀ area ∈ ["", all], ∀ sensitivity ∈ ["", all],
      let f := normalized k a s
      normalized (f.keyword.getD "") (f.subjectArea.getD area) (f.sensitivity.getD sensitivity) =
        f := by
  refine ⟨canonical_normalized k a s, fun k' a' s' => ?_, fun area free sensitivity free' => ?_⟩
  · intro f g alike
    have same : f = g ↔ alike := normalized_eq_iff
    refine ⟨same, ?_, request_eq_iff.trans same, fun config => (url_eq_iff config).trans same⟩
    rw [Cache.get_put_eq_iff, QueryKey.metricList.injEq, same]
  · exact normalized_of_canonical (canonical_normalized k a s) (by simpa using free)
      (by simpa using free')

/-- Blanks of several kinds are around the texts, one selector is blank, and the keyword is the word
that a selector would not restrict by. -/
theorem normalized_canonical_padded :
    let f := normalized "\u3000all\u00a0" "\u2003\t" " secret\n"
    f = ⟨some "all", .none, some "secret"⟩ ∧ f = normalized "all" " all" "secret" ∧
      (QueryKey.metricList f).request.url .console =
        (QueryKey.metricList (normalized "all" " all" "secret")).request.url .console ∧
      f ≠ normalized "" "" "secret" ∧ normalized "all" all "secret" = f := by
  intro f
  have value : f = ⟨some "all", .none, some "secret"⟩ := rfl
  obtain ⟨-, alike, back⟩ := normalized_canonical "\u3000all\u00a0" "\u2003\t" " secret\n"
  obtain ⟨same, -, -, address⟩ := alike "all" " all" "secret"
  obtain ⟨other, -⟩ := alike "" "" "secret"
  have texts : trim "\u3000all\u00a0" = trim "all" ∧ chosen "\u2003\t" = chosen " all" ∧
      chosen " secret\n" = chosen "secret" := by decide
  refine ⟨value, same.mpr texts, (address .console).mpr texts, fun equal => ?_, ?_⟩
  · exact absurd (other.mp equal).1 (by decide)
  · have shown := back all (by simp) "" (by simp)
    rwa [show normalized "\u3000all\u00a0" "\u2003\t" " secret\n" = _ from value] at shown

end MetricFilters

end MetricConsole
