import MetricConsole.Console
import MetricConsole.Proofs.Text.Count

/-!
# Where the console stops

The program stops where it shows a count whose magnitude overflows.  Counts in groups of digits are
shown on the cards of the dashboard alone, which show the four totals of the overview.  A step of
the console does not ask whether its page stops, so what holds in every run holds in particular in
those that end at such a page.

* `Page.stops_sayCount`: the count at which the program stops.
* `Page.Dashboard.stops_view_iff`: the overviews at which it stops.
* `Console.stops_iff`: it stops at no other page.
-/

namespace MetricConsole

variable {μ ν : Type}

/-! ## Tokens -/

namespace Tokens

@[simp]
theorem stops_nil : stops ([] : Tokens μ) = false := rfl

@[simp]
theorem stops_cons (t : Token μ) (ts : Tokens μ) : stops (t :: ts) = (t.stops || stops ts) := rfl

@[simp]
theorem stops_append (ts us : Tokens μ) : stops (ts ++ us) = (stops ts || stops us) :=
  List.any_append

@[simp]
theorem stops_flatMap {α : Type} (as : List α) (f : α → Tokens μ) :
    stops (as.flatMap f) = as.any fun a => stops (f a) :=
  List.any_flatMap

theorem stops_map_of_same {f : Token μ → Token ν} (same : ∀ t, (f t).stops = t.stops)
    (ts : Tokens μ) : stops (ts.map f) = stops ts := by
  simp [stops, List.any_map, Function.comp_def, same]

/-- Passing the messages on to another page does not change where the program stops. -/
@[simp]
theorem stops_map (f : μ → ν) (ts : Tokens μ) : stops (ts.map (Token.map f)) = stops ts :=
  stops_map_of_same (fun t => by cases t <;> rfl) ts

/-- Neither does leaving a row behind. -/
@[simp]
theorem stops_mute (ts : Tokens μ) : stops (ts.map Token.mute) = stops ts :=
  stops_map_of_same (fun t => by cases t <;> rfl) ts

end Tokens

/-! ## Pieces of a page -/

namespace Page

@[simp]
theorem stops_say (s : String) : Tokens.stops (say s : Tokens μ) = false := by
  unfold say
  split <;> rfl

/-- The program stops at the least count and at no other. -/
theorem stops_sayCount (count : Option Int64) :
    Tokens.stops (sayCount count : Tokens μ) = decide (count = some Int64.minValue) := by
  cases count with
  | none => simp [sayCount]
  | some n =>
    simp only [Option.some.injEq, ← Text.formatCount_overflows_iff]
    cases shown : Text.formatCount n with
    | ok text => simp [sayCount, shown]
    | error fault => cases fault; simp [sayCount, shown, Token.stops]

@[simp]
theorem stops_statCard (label : String) (icon : Option Icon) (count : Option Int64)
    (subtitle : Option String) (tone : Tone) :
    Tokens.stops (statCard label icon count subtitle tone : Tokens μ) =
      decide (count = some Int64.minValue) := by
  cases subtitle <;> simp [statCard, stops_sayCount, Token.stops]

@[simp]
theorem stops_errorBox (message : String) :
    Tokens.stops (errorBox message : Tokens μ) = false := by
  simp [errorBox]

@[simp]
theorem stops_errorBox? (message : Option String) :
    Tokens.stops (errorBox? message : Tokens μ) = false := by
  cases message <;> simp [errorBox?]

@[simp]
theorem stops_queryStatus (isLoading : Bool) (error : Option ApiError) (loadingText : String) :
    Tokens.stops (queryStatus isLoading error loadingText : Tokens μ) = false := by
  cases isLoading <;> simp [queryStatus, Token.stops]

@[simp]
theorem stops_pageHeader (title : String) (subtitle : Option String) (controls : Tokens μ) :
    Tokens.stops (pageHeader title subtitle controls) = controls.stops := by
  cases subtitle <;> simp [pageHeader]

@[simp]
theorem stops_dialog (isOpen : Bool) (content : Tokens μ) :
    Tokens.stops (dialog isOpen content) = (isOpen && content.stops) := by
  cases isOpen <;> simp [dialog, Token.stops]

@[simp]
theorem stops_confirmDialog (isOpen : Bool) (title message : String) (busy : Bool)
    (cancel confirm : μ) :
    Tokens.stops (confirmDialog isOpen title message busy cancel confirm) = false := by
  simp [confirmDialog, button, Token.stops]

@[simp]
theorem stops_tableRow (selected : Bool) (cells : List (Tokens μ)) :
    Tokens.stops (tableRow selected cells) = cells.any Tokens.stops := by
  simp [tableRow, Token.stops]

/-- The program stops in no table if it stops in no row. -/
theorem stops_table {α κ : Type} {row : α → Tokens μ} (rows : ∀ a, (row a).stops = false)
    (remark : String) (names : List String) (t : Option (Listing α κ)) :
    Tokens.stops (table remark names row t) = false := by
  cases t with
  | none => exact stops_say remark
  | some t =>
    have head : Tokens.stops (tableHead names : Tokens μ) = false := by
      simp [tableHead, Token.stops]
    have lines : Tokens.stops (tableRows row t) = false := by
      rw [tableRows, Tokens.stops_flatMap]
      refine List.any_eq_false.mpr fun line _ => ?_
      split <;> simp [rows line.item]
    simp [table, head, lines]

/-! ## Pages -/

theorem Dimensions.stops_view (scene : Scene) (s : Dimensions.State) :
    Tokens.stops (Dimensions.view scene s) = false := by
  have cells : Tokens.stops (tableTokens s.table) = false := by
    unfold tableTokens
    split
    all_goals
      refine stops_table (fun a => ?_) _ _ _
      simp [companyRow, productRow, channelRow, comboRow, idCell]
    split <;> rfl
  have tabs : Tokens.stops (tabs s) = false := rfl
  simp [view, cells, tabs, Token.stops]

theorem CaliberLibrary.stops_view (scene : Scene) (s : CaliberLibrary.State) :
    Tokens.stops (CaliberLibrary.view scene s) = false := by
  have rows : ∀ c, (caliberRow c).stops = false := fun c => by
    simp [caliberRow, badge, button, Token.stops]
  have fields (isNew : Bool) : (fields isNew s.form).stops = false := by
    cases isNew <;> rfl
  simp [view, editDialog, stops_table rows, fields, button, Token.stops]

theorem MetricList.stops_view (scene : Scene) (s : MetricList.State) :
    Tokens.stops (MetricList.view scene s) = false := by
  have rows : ∀ m, (metricRow m).stops = false := fun m => by
    simp [metricRow, sensitivityBadge, badge, button, Token.stops]
  have fields : (metricFields s.metricForm).stops = false := rfl
  have fields' : (versionFields s.versionForm).stops = false := rfl
  have filters : (filterBar s).stops = false := rfl
  simp [view, heading, createDialog, stops_table rows, fields, fields', filters, badge, button,
    Token.stops]

theorem Versions.stops_view (scene : Scene) (s : Versions.State) :
    Tokens.stops (Versions.view scene s) = false := by
  have rows : ∀ v, (versionRow v).stops = false := fun v => by
    simp [versionRow, statusBadge, badge, button, Token.stops]
  have fields : (fields s.form).stops = false := rfl
  simp [view, stops_table rows, fields, offerField, button, Token.stops]

theorem MetricDetail.stops_view (scene : Scene) (s : MetricDetail.State) :
    Tokens.stops (MetricDetail.view scene s) = false := by
  have versions : ∀ l, (versionRow l).stops = false := fun l => by
    simp [versionRow, statusBadge, badge, button, Token.stops]
  have bindings : ∀ b, (bindingRow b).stops = false := fun b => by
    simp [bindingRow, statusBadge, badge, button, Token.stops]
  have versionFields (required : Bool) (f : VersionForm) (change : VersionForm → Msg) :
      (versionFields required f change).stops = false := rfl
  have bindingFields (calibers : Option (List Offer)) (f : BindingForm)
      (change : BindingForm → Msg) : (bindingFields calibers f change).stops = false := by
    cases calibers <;> rfl
  have metric (m : Metric) : (metricCard s m).stops = false := by
    simp [metricCard, sensitivityBadge, badge, button, Token.stops]
  have basic : (basicCard s).stops = false := by
    simp [basicCard, textField, selectField, offerField, textArea, button, Token.stops]
  have versionsCard : (versionsCard s).stops = false := by
    cases editing : s.editingVersion <;>
      simp [MetricDetail.versionsCard, stops_table versions, versionFields, editing, button,
        Token.stops]
  have bindingsCard : (bindingsCard scene s).stops = false := by
    simp [MetricDetail.bindingsCard, stops_table bindings, bindingFields, button, Token.stops]
  unfold view
  split
  · simp [button, Token.stops]
  · simp [button, Token.stops]
  · have said (notice : Option String) :
        Tokens.stops ((notice.map say).getD [] : Tokens Msg) = false := by
      cases notice <;> simp
    have card (m : Option Metric) : ((m.map (metricCard s)).getD []).stops = false := by
      cases m <;> simp [metric]
    simp [said, card, basic, versionsCard, bindingsCard]

/-- The totals that the cards of the dashboard show. -/
def Dashboard.totals (o : OverviewStats) : List Int64 :=
  [o.registeredMetrics.total, o.activeVersions.total, o.yesterdayJobs.total, o.recentUploads.total]

theorem Dashboard.stops_view_iff (scene : Scene) (s : Dashboard.State) :
    Tokens.stops (Dashboard.view scene s) = true ↔
      ∃ o ∈ overview? scene, Int64.minValue ∈ totals o.stats := by
  have rows : ∀ u, Tokens.stops (uploadRow u : Tokens Msg) = false := fun u => by
    simp [uploadRow, statusBadge, badge, Token.stops]
  cases found : overview? scene <;>
    simp [view, found, statCards, stops_statCard, totals, stops_table rows, button, Token.stops,
      @eq_comm _ Int64.minValue]

end Page

/-- **Where the console stops.**  The program stops at the page that is shown exactly if that is the
dashboard and one of the four totals of the overview is the least count. -/
theorem Console.stops_iff (c : Console) :
    c.pageTokens.stops = true ↔ (∃ s, c.page = .dashboard s) ∧
      ∃ o ∈ Page.Dashboard.overview? c.scene, Int64.minValue ∈ Page.Dashboard.totals o.stats := by
  unfold pageTokens Page.view
  cases c.page with
  | dashboard s => simpa using Page.Dashboard.stops_view_iff c.scene s
  | metricList s => simp [Page.MetricList.stops_view]
  | metricDetail s => simp [Page.MetricDetail.stops_view]
  | caliberLibrary s => simp [Page.CaliberLibrary.stops_view]
  | dimensions s => simp [Page.Dimensions.stops_view]
  | versions s => simp [Page.Versions.stops_view]
  | placeholder view => simp [Page.Placeholder.view]

end MetricConsole
