import MetricConsole.Proofs.Text.FormEncoding
import MetricConsole.Proofs.Text.Integer
import MetricConsole.Query.Mutation

/-!
# Addresses

The address of a request says what it asks for.  A path is a list of segments between slashes, each
a fixed word or an id; no word reads as an id, and neither holds a slash or a question mark.  The
query lists the filters that are set.  So the segments and the parameters can be read off the
address, and from them the key or, with the method, the write.

* `Request.At.url_eq_iff`: addresses are equal when the segments and the parameters are.
* `QueryKey.ofAddress?_address`, `Mutation.ofAddress?_address`: keys and writes read back.
* `addresses_told_apart`: distinct keys, and distinct writes, have distinct addresses.
-/

namespace MetricConsole

open Text

/-! ## Segments of paths -/

/-- The fixed words of paths. -/
inductive PathWord where
  | dashboard
  | overview
  | metrics
  | summary
  | versions
  | publish
  | calibers
  | dimensions
  | collection (kind : DimensionKind)

namespace PathWord

/-- The text of a word. -/
def text : PathWord → String
  | dashboard => "dashboard"
  | overview => "overview"
  | metrics => "metrics"
  | summary => "summary"
  | versions => "versions"
  | publish => "publish"
  | calibers => "calibers"
  | dimensions => "dimensions"
  | collection kind => kind.collection

/-- The word with a text. -/
def ofText? : String → Option PathWord
  | "dashboard" => some dashboard
  | "overview" => some overview
  | "metrics" => some metrics
  | "summary" => some summary
  | "versions" => some versions
  | "publish" => some publish
  | "calibers" => some calibers
  | "dimensions" => some dimensions
  | "companies" => some (collection .company)
  | "products" => some (collection .product)
  | "channels" => some (collection .channel)
  | "combos" => some (collection .combo)
  | _ => none

theorem ofText?_text (w : PathWord) : ofText? w.text = some w := by
  rcases w with _ | _ | _ | _ | _ | _ | _ | _ | kind
  case collection => cases kind <;> rfl
  all_goals rfl

/-- Words are made of letters. -/
theorem isAlpha_text (w : PathWord) : w.text.toList.all Char.isAlpha = true := by
  rcases w with _ | _ | _ | _ | _ | _ | _ | _ | kind
  case collection => cases kind <;> decide
  all_goals decide

theorem text_ne_empty (w : PathWord) : w.text ≠ "" := by
  rcases w with _ | _ | _ | _ | _ | _ | _ | _ | kind
  case collection => cases kind <;> decide
  all_goals decide

/-- No word reads as a number. -/
theorem parseInt64?_text (w : PathWord) : Integer.parseInt64? w.text = none := by
  rcases w with _ | _ | _ | _ | _ | _ | _ | _ | kind
  case collection => cases kind <;> decide
  all_goals decide

end PathWord

/-- What stands between two slashes of a path. -/
inductive PathSegment where
  | word (w : PathWord)
  | id (n : Int64)

namespace PathSegment

/-- The text of a segment. -/
def text : PathSegment → String
  | word w => w.text
  | id n => idText n

/-- The path with these segments. -/
def path (segments : List PathSegment) : String := "/".intercalate (segments.map text)

theorem text_ne_empty (s : PathSegment) : s.text ≠ "" := by
  cases s with
  | word w => exact w.text_ne_empty
  | id n => exact Integer.render_ne_empty n.toInt

/-- No id has the text of a word. -/
theorem text_word_ne_id (w : PathWord) (n : Int64) : w.text ≠ idText n := by
  intro same
  have number : Integer.parseInt64? (idText n) = some n := Integer.parseInt64?_render n
  rw [← same, w.parseInt64?_text] at number
  cases number

theorem idText_injective : Function.Injective idText :=
  injective_of_read Integer.parseInt64? Integer.parseInt64?_render

/-- Segments are told apart by their texts. -/
theorem text_injective : Function.Injective text := by
  intro s s' same
  cases s with
  | word w =>
    cases s' with
    | word w' => rw [injective_of_read PathWord.ofText? PathWord.ofText?_text same]
    | id n => exact absurd same (text_word_ne_id w n)
  | id n =>
    cases s' with
    | word w => exact absurd same.symm (text_word_ne_id w n)
    | id n' => rw [idText_injective same]

/-- A character that encoded texts do not hold is in no segment either. -/
theorem notMem_text {sep : Char} (special : FormEncoding.isPlain sep = false) (s : PathSegment) :
    sep ∉ s.text.toList := by
  intro mem
  cases s with
  | word w =>
    have letter := List.all_eq_true.mp w.isAlpha_text sep mem
    simp [FormEncoding.isPlain, FormEncoding.isLiteral, Char.isAlphanum, letter] at special
  | id n =>
    rcases Integer.mem_render mem with digit | rfl
    · simp [FormEncoding.isPlain, FormEncoding.isLiteral, Char.isAlphanum, digit] at special
    · exact absurd special (by decide)

theorem toList_path (segments : List PathSegment) :
    (path segments).toList = ['/'].intercalate (segments.map fun s => s.text.toList) := by
  rw [path, String.toList_intercalate, List.map_map]
  rfl

/-- A path has no question mark. -/
theorem notMem_path (segments : List PathSegment) : '?' ∉ (path segments).toList := by
  rw [toList_path]
  apply notMem_intercalate (by decide)
  intro piece mem
  obtain ⟨s, -, rfl⟩ := List.mem_map.mp mem
  exact notMem_text (by decide) s

/-- Paths are told apart by their segments. -/
theorem path_inj {ss ss' : List PathSegment} (nonempty : ss ≠ []) (nonempty' : ss' ≠ [])
    (same : path ss = path ss') : ss = ss' := by
  have free (ts : List PathSegment) : ∀ piece ∈ ts.map fun s => s.text.toList, '/' ∉ piece := by
    intro piece mem
    obtain ⟨s, -, rfl⟩ := List.mem_map.mp mem
    exact notMem_text (by decide) s
  have chars := congrArg String.toList same
  rw [toList_path, toList_path] at chars
  have texts := intercalate_inj (by simpa using nonempty) (by simpa using nonempty')
    (free ss) (free ss') chars
  refine (List.map_inj_right ?_).mp texts
  exact fun s s' alike => text_injective (String.toList_inj.mp alike)

/-- No slash leads a path. -/
theorem dropWhile_path {ss : List PathSegment} (nonempty : ss ≠ []) :
    (path ss).toList.dropWhile (· == '/') = (path ss).toList := by
  obtain ⟨s, ss, rfl⟩ := List.exists_cons_of_ne_nil nonempty
  obtain ⟨c, cs, chars⟩ := List.exists_cons_of_ne_nil fun empty =>
    s.text_ne_empty (String.toList_eq_nil_iff.mp empty)
  have slash : '/' ∉ s.text.toList := notMem_text (by decide) s
  rw [chars] at slash
  have first : c ≠ '/' := fun same => slash (same ▸ List.mem_cons_self)
  rw [toList_path, List.map_cons, chars]
  cases ss with
  | nil => simp [first]
  | cons s' ss => simp [List.intercalate_cons_cons, first]

end PathSegment

/-! ## Addresses of requests -/

/-- A request for a path with these segments and a query with these parameters. -/
structure Request.At (r : Request) (segments : List PathSegment)
    (parameters : List (String × String)) : Prop where
  nonempty : segments ≠ []
  path : r.path = PathSegment.path segments
  query : r.query =
    if parameters = [] then none else some (FormEncoding.encodePairs parameters)

namespace Request.At

variable {r r' : Request} {segments segments' : List PathSegment}
  {parameters parameters' : List (String × String)} {config : ApiConfig}

/-- What follows the slash after the base address: the path, and a query if there are parameters. -/
def below (segments : List PathSegment) (parameters : List (String × String)) : List (List Char) :=
  (PathSegment.path segments).toList ::
    if parameters = [] then [] else [(FormEncoding.encodePairs parameters).toList]

theorem toList_url (lies : r.At segments parameters) : (r.url config).toList =
    config.baseUrl.toList ++ '/' :: ['?'].intercalate (below segments parameters) := by
  have path := PathSegment.dropWhile_path lies.nonempty
  unfold Request.url ApiConfig.url
  rw [lies.path, lies.query, path, below]
  by_cases bare : parameters = []
  · simp [bare]
  · have query : FormEncoding.encodePairs parameters ≠ "" :=
      fun empty => bare (FormEncoding.encodePairs_eq_empty_iff.mp empty)
    simp [bare, query, List.intercalate_cons_cons]

/-- The question mark parts the path from the query and occurs in neither. -/
theorem notMem_below : ∀ piece ∈ below segments parameters, '?' ∉ piece := by
  intro piece mem
  rcases List.mem_cons.mp mem with rfl | query
  · exact PathSegment.notMem_path segments
  · split at query
    · exact absurd query List.not_mem_nil
    · rw [List.mem_singleton.mp query]
      exact FormEncoding.notMem_encodePairs (by decide) (by decide) (by decide) parameters

/-- Below one base address, requests have one address when they have the same segments and the same
parameters. -/
theorem url_eq_iff (lies : r.At segments parameters) (lies' : r'.At segments' parameters') :
    r.url config = r'.url config ↔ segments = segments' ∧ parameters = parameters' := by
  rw [← String.toList_inj, lies.toList_url, lies'.toList_url]
  constructor
  · intro same
    have joined := List.cons.inj (List.append_cancel_left same)
    have pieces := intercalate_inj (List.cons_ne_nil _ _) (List.cons_ne_nil _ _)
      notMem_below notMem_below joined.2
    obtain ⟨path, query⟩ := List.cons.inj pieces
    refine ⟨PathSegment.path_inj lies.nonempty lies'.nonempty (String.toList_inj.mp path), ?_⟩
    by_cases bare : parameters = [] <;> by_cases bare' : parameters' = []
    · rw [bare, bare']
    · simp [bare, bare'] at query
    · simp [bare, bare'] at query
    · rw [if_neg bare, if_neg bare'] at query
      exact FormEncoding.encodePairs_inj (String.toList_inj.mp (List.singleton_inj.mp query))
  · rintro ⟨rfl, rfl⟩
    rfl

end Request.At

/-! ## Keys -/

namespace QueryKey

/-- The segments of the path of a key. -/
def segments : QueryKey → List PathSegment
  | .dashboardOverview => [.word .dashboard, .word .overview]
  | .metricSummary => [.word .metrics, .word .summary]
  | .metricList _ => [.word .metrics]
  | .metricDetail id => [.word .metrics, .id id]
  | .metricVersions id => [.word .metrics, .id id, .word .versions]
  | .calibers => [.word .calibers]
  | .versionCalibers metricId versionId =>
    [.word .metrics, .id metricId, .word .versions, .id versionId, .word .calibers]
  | .dimension kind _ => [.word .dimensions, .word (.collection kind)]

/-- The parameters in the query of a key. -/
def parameters : QueryKey → List (String × String)
  | .metricList filters => filters.parameters
  | .dimension _ filter => filter.parameters
  | _ => []

/-- The key with these segments and parameters. -/
def ofAddress? : List PathSegment → List (String × String) → Option QueryKey
  | [.word .dashboard, .word .overview], _ => some .dashboardOverview
  | [.word .metrics, .word .summary], _ => some .metricSummary
  | [.word .metrics], ps =>
    some (.metricList ⟨ps.lookup "keyword", ps.lookup "subject_area", ps.lookup "sensitivity"⟩)
  | [.word .metrics, .id id], _ => some (.metricDetail id)
  | [.word .metrics, .id id, .word .versions], _ => some (.metricVersions id)
  | [.word .calibers], _ => some .calibers
  | [.word .metrics, .id metricId, .word .versions, .id versionId, .word .calibers], _ =>
    some (.versionCalibers metricId versionId)
  | [.word .dimensions, .word (.collection kind)], ps =>
    some (.dimension kind ⟨ps.lookup "keyword"⟩)
  | _, _ => none

/-- A key is read back from its segments and its parameters: of a filter, an absent parameter is an
absent field. -/
theorem ofAddress?_address (k : QueryKey) : ofAddress? k.segments k.parameters = some k := by
  cases k with
  | metricList filters =>
    obtain ⟨_ | keyword, _ | area, _ | sensitivity⟩ := filters
    all_goals rfl
  | dimension kind filter =>
    obtain ⟨_ | keyword⟩ := filter
    all_goals rfl
  | _ => rfl

theorem path_request (k : QueryKey) : k.request.path = PathSegment.path k.segments := by
  cases k with
  | metricVersions id =>
    apply String.toList_inj.mp
    simp [request, Request.get, segments, PathSegment.path, PathSegment.text, PathWord.text]
  | versionCalibers metricId versionId =>
    apply String.toList_inj.mp
    simp [request, Request.get, bindingsPath, segments, PathSegment.path, PathSegment.text,
      PathWord.text]
  | _ =>
    simp [request, Request.get, Request.withParameters, Request.withEncoded, segments,
      PathSegment.path, PathSegment.text, PathWord.text]

theorem query_request (k : QueryKey) : k.request.query =
    if k.parameters = [] then none else some (FormEncoding.encodePairs k.parameters) := by
  have queried (r : Request) (ps : List (String × String)) : (r.withParameters ps).query =
      if ps = [] then none else some (FormEncoding.encodePairs ps) := by
    simp [Request.withParameters, Request.withEncoded, FormEncoding.encodePairs_eq_empty_iff]
  cases k with
  | metricList filters => exact queried _ _
  | dimension kind filter => exact queried _ _
  | _ => rfl

/-- The request of a key is for its segments and its parameters. -/
theorem request_at (k : QueryKey) : k.request.At k.segments k.parameters where
  nonempty := by cases k <;> exact List.cons_ne_nil _ _
  path := path_request k
  query := query_request k

/-- Keys are told apart by their segments and their parameters. -/
theorem address_injective : Function.Injective fun k : QueryKey => (k.segments, k.parameters) :=
  injective_of_read (fun a => ofAddress? a.1 a.2) ofAddress?_address

/-- A query determines the parameters in it. -/
theorem parameters_eq_of_query {k k' : QueryKey} (same : k.request.query = k'.request.query) :
    k.parameters = k'.parameters := by
  rw [query_request, query_request] at same
  split at same <;> split at same
  · simp_all
  · exact absurd same.symm (Option.some_ne_none _)
  · exact absurd same (Option.some_ne_none _)
  · exact FormEncoding.encodePairs_inj (Option.some.inj same)

end QueryKey

/-! ## Writes -/

namespace Mutation

/-- The segments of the path of a write. -/
def segments : Mutation → List PathSegment
  | .createMetric => [.word .metrics]
  | .updateMetric id | .deleteMetric id => [.word .metrics, .id id]
  | .requestPublish id => [.word .metrics, .id id, .word .publish]
  | .createVersion metricId => [.word .metrics, .id metricId, .word .versions]
  | .updateVersion metricId versionId | .deleteVersion metricId versionId =>
    [.word .metrics, .id metricId, .word .versions, .id versionId]
  | .createCaliber => [.word .calibers]
  | .updateCaliber id | .deleteCaliber id => [.word .calibers, .id id]
  | .createBinding metricId versionId =>
    [.word .metrics, .id metricId, .word .versions, .id versionId, .word .calibers]
  | .updateBinding metricId versionId bindingId | .deleteBinding metricId versionId bindingId =>
    [.word .metrics, .id metricId, .word .versions, .id versionId, .word .calibers, .id bindingId]

/-- The write with this method and these segments. -/
def ofAddress? : Method → List PathSegment → Option Mutation
  | .post, [.word .metrics] => some .createMetric
  | .patch, [.word .metrics, .id id] => some (.updateMetric id)
  | .delete, [.word .metrics, .id id] => some (.deleteMetric id)
  | .post, [.word .metrics, .id id, .word .publish] => some (.requestPublish id)
  | .post, [.word .metrics, .id metricId, .word .versions] => some (.createVersion metricId)
  | .patch, [.word .metrics, .id metricId, .word .versions, .id versionId] =>
    some (.updateVersion metricId versionId)
  | .delete, [.word .metrics, .id metricId, .word .versions, .id versionId] =>
    some (.deleteVersion metricId versionId)
  | .post, [.word .calibers] => some .createCaliber
  | .patch, [.word .calibers, .id id] => some (.updateCaliber id)
  | .delete, [.word .calibers, .id id] => some (.deleteCaliber id)
  | .post, [.word .metrics, .id metricId, .word .versions, .id versionId, .word .calibers] =>
    some (.createBinding metricId versionId)
  | .patch, [.word .metrics, .id metricId, .word .versions, .id versionId, .word .calibers,
      .id bindingId] => some (.updateBinding metricId versionId bindingId)
  | .delete, [.word .metrics, .id metricId, .word .versions, .id versionId, .word .calibers,
      .id bindingId] => some (.deleteBinding metricId versionId bindingId)
  | _, _ => none

/-- A write is read back from its method and its segments. -/
theorem ofAddress?_address (m : Mutation) : ofAddress? m.method m.segments = some m := by
  cases m <;> rfl

theorem path_eq (m : Mutation) : m.path = PathSegment.path m.segments := by
  apply String.toList_inj.mp
  cases m
  all_goals simp [path, bindingsPath, segments, PathSegment.path, PathSegment.text, PathWord.text]

theorem segments_ne_nil (m : Mutation) : m.segments ≠ [] := by
  cases m <;> exact List.cons_ne_nil _ _

/-- The request of a write is for its segments, without parameters. -/
theorem request_at (m : Mutation) (body : Option Json) : (m.request body).At m.segments [] where
  nonempty := segments_ne_nil m
  path := path_eq m
  query := rfl

/-- Writes are told apart by their methods and their segments. -/
theorem address_injective : Function.Injective fun m : Mutation => (m.method, m.segments) :=
  injective_of_read (fun a => ofAddress? a.1 a.2) ofAddress?_address

/-- Writes are told apart by their methods and their paths. -/
theorem eq_of_path {m m' : Mutation} (method : m.method = m'.method) (path : m.path = m'.path) :
    m = m' := by
  rw [path_eq, path_eq] at path
  have segments := PathSegment.path_inj m.segments_ne_nil m'.segments_ne_nil path
  exact address_injective (Prod.ext method segments)

end Mutation

/-- Below any base address, distinct keys have distinct addresses, and so have distinct writes of
one method; the query alone determines every field of the filters in it, absent ones included. -/
theorem addresses_told_apart (baseUrl : String) (timeoutMs : Nat) :
    (∀ k k' : QueryKey,
      k.request.url (.make baseUrl timeoutMs) = k'.request.url (.make baseUrl timeoutMs) ↔
        k = k') ∧
    (∀ (m m' : Mutation) (body body' : Option Json),
      (m.request body).method = (m'.request body').method ∧
          (m.request body).url (.make baseUrl timeoutMs) =
            (m'.request body').url (.make baseUrl timeoutMs) ↔
        m = m') ∧
    (∀ f f' : MetricFilters,
      (QueryKey.metricList f).request.query = (QueryKey.metricList f').request.query ↔ f = f') ∧
    (∀ (kind : DimensionKind) (f f' : DimensionFilter),
      (QueryKey.dimension kind f).request.query = (QueryKey.dimension kind f').request.query ↔
        f = f') := by
  refine ⟨?keys, ?writes, ?filters, ?searches⟩
  case keys =>
    intro k k'
    rw [k.request_at.url_eq_iff k'.request_at]
    constructor
    · rintro ⟨segments, parameters⟩
      exact QueryKey.address_injective (Prod.ext segments parameters)
    · rintro rfl
      exact ⟨rfl, rfl⟩
  case writes =>
    intro m m' body body'
    rw [(m.request_at body).url_eq_iff (m'.request_at body')]
    constructor
    · rintro ⟨method, segments, -⟩
      exact Mutation.address_injective (Prod.ext method segments)
    · rintro rfl
      exact ⟨rfl, rfl, rfl⟩
  case filters =>
    intro f f'
    refine ⟨fun same => ?_, fun same => same ▸ rfl⟩
    have parameters := QueryKey.parameters_eq_of_query same
    exact QueryKey.metricList.inj (QueryKey.address_injective (Prod.ext rfl parameters))
  case searches =>
    intro kind f f'
    refine ⟨fun same => ?_, fun same => same ▸ rfl⟩
    have parameters := QueryKey.parameters_eq_of_query same
    have keys : QueryKey.dimension kind f = .dimension kind f' :=
      QueryKey.address_injective (Prod.ext rfl parameters)
    exact (QueryKey.dimension.inj keys).2

end MetricConsole
