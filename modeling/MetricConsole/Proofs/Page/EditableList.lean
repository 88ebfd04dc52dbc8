import MetricConsole.Page.Basic
import MetricConsole.Proofs.Page.Listing

/-!
# Editable lists

Four pages show a list whose rows can be edited: the versions in the management of versions, the
versions and the bindings in the detail of a metric, and the calibers in their library.  An editable
list says which list of the scene the page follows, how a row looks, and what its button for editing
loads.  `EditableList.Faithful` says that the page does so; it holds of each of the four.
-/

namespace MetricConsole.Page

open Listing

/-! ## Runs -/

/-- A run of the page of a view: the scenes that it followed, with the page after each, and the page
in the end. -/
inductive Run (view : ViewKey) : List (Scene × Page) → Page → Prop
  | start : Run view [] (.ofView view)
  | sync {record : List (Scene × Page)} {p : Page} (run : Run view record p) (navigated : Bool)
      (scene : Scene) :
      Run view (record ++ [(scene, (p.sync navigated scene).1)]) (p.sync navigated scene).1
  | update {record : List (Scene × Page)} {p : Page} (run : Run view record p) (scene : Scene)
      (m : Msg) : Run view record (p.update scene m).1
  | finish {record : List (Scene × Page)} {p : Page} (run : Run view record p)
      (result : Except ApiError Json) (job : Job) : Run view record (p.finish result job)

/-- The page is the one that a view has, and not a placeholder that bears its name. -/
structure IsPageOf (view : ViewKey) (p : Page) : Prop where
  viewKey_eq : p.viewKey = view
  proper : ∀ v, p = .placeholder v → ofView v = p

/-- A page stays the page of its view. -/
theorem Run.isPageOf {view : ViewKey} {record : List (Scene × Page)} {p : Page}
    (run : Run view record p) : IsPageOf view p := by
  induction run with
  | start => cases view <;> exact ⟨rfl, fun v same => by cases same <;> rfl⟩
  | @sync _ p run navigated scene ih =>
    cases p with
    | placeholder v => exact ih
    | _ => exact ⟨ih.viewKey_eq, fun _ same => nomatch same⟩
  | @update _ p run scene m ih =>
    cases p with
    | placeholder v => exact ih
    | _ => cases m <;> exact ⟨ih.viewKey_eq, fun _ same => nomatch same⟩
  | @finish _ p run result job ih =>
    cases p with
    | placeholder v => exact ih
    | _ => cases job <;> exact ⟨ih.viewKey_eq, fun _ same => nomatch same⟩

namespace IsPageOf

variable {p : Page}

/-- The page of a view that has one of its own is no placeholder. -/
theorem ne_placeholder {view : ViewKey} (isPage : IsPageOf view p)
    (own : ofView view ≠ .placeholder view) (v : ViewKey) : p ≠ .placeholder v := fun same => by
  obtain rfl : v = view := by simpa [same, viewKey] using isPage.viewKey_eq
  exact own ((isPage.proper v same).trans same)

theorem versions (isPage : IsPageOf .version p) : ∃ s, p = .versions s := by
  cases p with
  | versions s => exact ⟨s, rfl⟩
  | placeholder v => exact absurd rfl (isPage.ne_placeholder nofun v)
  | _ => cases isPage.viewKey_eq

theorem metricDetail (isPage : IsPageOf .metricDetail p) : ∃ s, p = .metricDetail s := by
  cases p with
  | metricDetail s => exact ⟨s, rfl⟩
  | placeholder v => exact absurd rfl (isPage.ne_placeholder nofun v)
  | _ => cases isPage.viewKey_eq

theorem caliberLibrary (isPage : IsPageOf .caliber p) : ∃ s, p = .caliberLibrary s := by
  cases p with
  | caliberLibrary s => exact ⟨s, rfl⟩
  | placeholder v => exact absurd rfl (isPage.ne_placeholder nofun v)
  | _ => cases isPage.viewKey_eq

end IsPageOf

/-! ## Lists -/

/-- A list of a page whose rows can be edited. -/
structure EditableList where
  /-- The view of the page. -/
  view : ViewKey
  /-- The items of the list. -/
  Item : Type
  /-- What the lines of the table are made for: an item, with what marks its row. -/
  Line : Type
  /-- What a row is kept by. -/
  Key : Type
  /-- The form that an item is edited in. -/
  Form : Type
  [decidableKey : DecidableEq Key]
  /-- The list that the page follows. -/
  listed : Scene → List Item
  /-- What the row of an item is made for. -/
  line : Scene → Page → Item → Line
  item : Line → Item
  id : Item → Int64
  key : Item → Key
  table : Page → Option (Listing Line Key)
  row : Line → Tokens Msg
  /-- What the button for editing sends. -/
  edit : Item → Msg
  /-- The button closes the editor, which is open on the item. -/
  closes : Page → Item → Prop
  /-- The form of the editor. -/
  editor : Page → Option Form
  /-- The form filled from an item. -/
  fill : Item → Form

namespace EditableList

attribute [instance] EditableList.decidableKey

variable (l : EditableList)

/-- The items on the screen. -/
def rows (p : Page) : List l.Item := (itemsOf (l.table p)).map l.item

/-- The table of a page, without its heading. -/
def tableTokens (p : Page) : Tokens Msg := ((l.table p).map (tableRows l.row)).getD []

/-- All that a user can see of an item: its cells, whatever marks its row, and the form that it is
edited in. -/
def look (a : l.Item) : (Scene → Page → Tokens Msg) × l.Form :=
  (fun scene p => (l.row (l.line scene p a)).map Token.mute, l.fill a)

/-- The page follows the list, shows it, and edits the items of its rows. -/
structure Faithful : Prop where
  tells : ∀ a b, l.key a = l.key b → l.id a = l.id b
  item_line : ∀ scene p a, l.item (l.line scene p a) = a
  start : l.table (.ofView l.view) = none
  follow : ∀ (navigated : Bool) (scene : Scene) (p : Page), IsPageOf l.view p →
    ∃ present : Bool, (present = false → l.listed scene = []) ∧
      l.table (p.sync navigated scene).1 =
        (Listing.follow (fun x => l.key (l.item x)) present
          ((l.listed scene).map (l.line scene (p.sync navigated scene).1)) (l.table p)).map
        (Listing.refresh fun x => l.line scene (p.sync navigated scene).1 (l.item x))
  update : ∀ (scene : Scene) (m : Msg) (p : Page), l.table (p.update scene m).1 = l.table p
  finish : ∀ (result : Except ApiError Json) (job : Job) (p : Page),
    l.table (p.finish result job) = l.table p
  onScreen : ∀ (navigated : Bool) (scene : Scene) (p : Page), IsPageOf l.view p →
    l.tableTokens (p.sync navigated scene).1 <:+: (p.sync navigated scene).1.view scene
  button : ∀ x, ∃ label, Token.button .subtle true label none (some (l.edit (l.item x))) ∈ l.row x
  loads : ∀ (scene : Scene) (p : Page) a, IsPageOf l.view p → ¬l.closes p a →
    l.editor (p.update scene (l.edit a)).1 = some (l.fill a)

/-! ## The four lists -/

/-- The versions in the management of versions. -/
def managedVersions : EditableList where
  view := .version
  Item := MetricVersion
  Line := MetricVersion
  Key := Versions.RowKey
  Form := VersionForm
  listed scene := scene.list MetricVersion (Versions.versionsKey scene)
  line _ _ v := v
  item v := v
  id := MetricVersion.id
  key := Versions.rowKey
  table
    | .versions s => s.table
    | _ => none
  row v := (Versions.versionRow v).map (Token.map .versions)
  edit v := .versions (.startEdit v)
  closes _ _ := False
  editor
    | .versions s => some s.form
    | _ => none
  fill := .ofVersion

/-- The versions in the detail of a metric. -/
def detailVersions : EditableList where
  view := .metricDetail
  Item := MetricVersion
  Line := MetricDetail.VersionLine
  Key := MetricDetail.VersionRowKey
  Form := VersionForm
  listed scene := if MetricDetail.cardsShown scene then MetricDetail.versions scene else []
  line
    | scene, .metricDetail s, v => MetricDetail.versionLine scene s v
    | scene, _, v => MetricDetail.versionLine scene MetricDetail.initial v
  item := MetricDetail.VersionLine.version
  id := MetricVersion.id
  key := MetricDetail.versionRowKey
  table
    | .metricDetail s => s.versionTable
    | _ => none
  row x := (MetricDetail.versionRow x).map (Token.map .metricDetail)
  edit v := .metricDetail (.toggleEditVersion v)
  closes
    | .metricDetail s, v => s.editingVersion = some v.id
    | _, _ => False
  editor
    | .metricDetail s => some s.editVersion
    | _ => none
  fill := .ofVersion

/-- The bindings in the detail of a metric. -/
def detailBindings : EditableList where
  view := .metricDetail
  Item := Binding
  Line := Binding
  Key := MetricDetail.BindingRowKey
  Form := BindingForm
  listed scene := if MetricDetail.cardsShown scene then MetricDetail.bindings scene else []
  line _ _ b := b
  item b := b
  id := Binding.id
  key := MetricDetail.bindingRowKey
  table
    | .metricDetail s => s.bindingTable
    | _ => none
  row b := (MetricDetail.bindingRow b).map (Token.map .metricDetail)
  edit b := .metricDetail (.startEditBinding b)
  closes _ _ := False
  editor
    | .metricDetail s => some s.editBinding
    | _ => none
  fill := .ofBinding

/-- The calibers in their library. -/
def libraryCalibers : EditableList where
  view := .caliber
  Item := Caliber
  Line := Caliber
  Key := CaliberLibrary.RowKey
  Form := CaliberForm
  listed scene := scene.list Caliber (some .calibers)
  line _ _ c := c
  item c := c
  id := Caliber.id
  key := CaliberLibrary.rowKey
  table
    | .caliberLibrary s => s.table
    | _ => none
  row c := (CaliberLibrary.caliberRow c).map (Token.map .caliberLibrary)
  edit c := .caliberLibrary (.openEdit c)
  closes _ _ := False
  editor
    | .caliberLibrary s => some s.form
    | _ => none
  fill := .ofCaliber

/-- The lists whose rows can be edited. -/
def all : List EditableList := [managedVersions, detailVersions, detailBindings, libraryCalibers]

/-! ## They are faithful -/

/-- A table whose lines are the items themselves has nothing to bring up to date. -/
theorem follow_plain {α κ : Type} [DecidableEq κ] (key : α → κ) (present : Bool) (items : List α)
    (t : Option (Listing α κ)) : Listing.follow key present items t =
      (Listing.follow key present (items.map fun a => a) t).map (Listing.refresh fun a => a) := by
  rw [List.map_id']
  cases Listing.follow key present items t <;> simp [Listing.refresh]

theorem mute_map {μ ν : Type} (f : μ → ν) (x : Token μ) :
    (x.map f).mute = x.mute.map f := by
  cases x <;> rfl

/-- A table shows its rows below its heading. -/
theorem rows_infix_table {α κ μ ν : Type} (f : μ → ν) (remark : String) (names : List String)
    (row : α → Tokens μ) (t : Option (Listing α κ)) :
    (t.map (tableRows fun x => (row x).map (Token.map f))).getD [] <:+:
      (Page.table remark names row t).map (Token.map f) := by
  cases t with
  | none => exact List.nil_infix
  | some t =>
    have mapped : tableRows (fun x => (row x).map (Token.map f)) t =
        (tableRows row t).map (Token.map f) := by
      rw [tableRows, tableRows, List.map_flatMap]
      refine List.flatMap_congr fun l _ => ?_
      split
      · rfl
      · simp [Function.comp_def, mute_map]
    rw [Page.table, List.map_append]
    exact mapped ▸ (List.suffix_append _ _).isInfix

theorem mem_tableRow {μ : Type} {selected : Bool} {cells : List (Tokens μ)} {cell : Tokens μ}
    {x : Token μ} (mem : cell ∈ cells) (inside : x ∈ cell) : x ∈ tableRow selected cells :=
  List.mem_cons_of_mem _ (List.mem_flatMap.mpr ⟨cell, mem, List.mem_cons_of_mem _ inside⟩)

/-! ### Versions, managed -/

theorem table_update_versions (scene : Scene) (m : Versions.Msg) (s : Versions.State) :
    (Versions.update scene s m).1.table = s.table := by
  cases m <;> simp only [Versions.update] <;> (try split) <;> (try split) <;> rfl

theorem table_finish_versions (result : Except ApiError Json) (j : Versions.Job)
    (s : Versions.State) : (Versions.finish s j result).table = s.table := by
  cases j <;> rfl

theorem managedVersions_faithful : managedVersions.Faithful where
  tells a b same := congrArg Versions.RowKey.id same
  item_line _ _ _ := rfl
  start := rfl
  follow navigated scene p isPage := by
    obtain ⟨s, rfl⟩ := isPage.versions
    refine ⟨!(managedVersions.listed scene).isEmpty, by simp, ?_⟩
    exact follow_plain _ _ _ _
  update scene m p := by
    cases p with
    | versions s =>
      cases m with
      | versions m => exact table_update_versions scene m s
      | _ => rfl
    | _ => cases m <;> rfl
  finish result job p := by
    cases p with
    | versions s =>
      cases job with
      | versions j => exact table_finish_versions result j s
      | _ => rfl
    | _ => cases job <;> rfl
  onScreen navigated scene p isPage := by
    obtain ⟨s, rfl⟩ := isPage.versions
    have shown := rows_infix_table Msg.versions "No versions for this metric"
      ["Version", "Status", "Grain", "Effective", "Bindings", "Created", ""] Versions.versionRow
      (Versions.sync navigated scene s).1.table
    refine shown.trans (List.IsInfix.map (Token.map Msg.versions) ?_)
    exact (List.infix_append _ _ _).trans (List.prefix_append _ _).isInfix
  button v := ⟨_, List.mem_map_of_mem (mem_tableRow (.tail _ (.tail _ (.tail _ (.tail _
    (.tail _ (.tail _ (.head _))))))) (.head _))⟩
  loads scene p v isPage _ := by
    obtain ⟨s, rfl⟩ := isPage.versions
    rfl

/-! ### Versions and bindings of one metric -/

/-- The tables of the page are as they were. -/
def SameTables (s s' : MetricDetail.State) : Prop :=
  s'.versionTable = s.versionTable ∧ s'.bindingTable = s.bindingTable

theorem submit_sameTables {α : Type} [Codec α] (s : MetricDetail.State) (m : Mutation)
    (body : Except FormFault α) (job : MetricDetail.Job) :
    SameTables s (MetricDetail.submit s m body job).1 := by
  cases body <;> exact ⟨rfl, rfl⟩

theorem update_sameTables (scene : Scene) (m : MetricDetail.Msg) (s : MetricDetail.State) :
    SameTables s (MetricDetail.update scene s m).1 := by
  cases m with
  | saveBasic | saveVersion | createVersion | saveNewBinding | saveBinding =>
    simp only [MetricDetail.update]
    split
    · exact submit_sameTables _ _ _ _
    · exact ⟨rfl, rfl⟩
  | publish | toggleEditVersion | confirmRemove =>
    simp only [MetricDetail.update]
    split <;> exact ⟨rfl, rfl⟩
  | _ => exact ⟨rfl, rfl⟩

theorem finish_sameTables (result : Except ApiError Json) (j : MetricDetail.Job)
    (s : MetricDetail.State) : SameTables s (MetricDetail.finish s j result) := by
  cases result <;> cases j <;> exact ⟨rfl, rfl⟩

theorem syncBasic_sameTables (scene : Scene) (s : MetricDetail.State) :
    SameTables s (MetricDetail.syncBasic scene s) := by
  simp only [MetricDetail.syncBasic]
  split
  · exact ⟨rfl, rfl⟩
  · split <;> exact ⟨rfl, rfl⟩

theorem syncCards_shown {scene : Scene} (shown : MetricDetail.cardsShown scene = true)
    (s : MetricDetail.State) :
    (MetricDetail.syncCards scene s).versionTable = MetricDetail.syncVersions scene s ∧
      (MetricDetail.syncCards scene s).bindingTable =
        Listing.follow MetricDetail.bindingRowKey (!(MetricDetail.bindings scene).isEmpty)
          (MetricDetail.bindings scene) s.bindingTable ∧
      (MetricDetail.syncCards scene s).editingVersion = s.editingVersion := by
  simp [MetricDetail.syncCards, shown]

theorem syncCards_hidden {scene : Scene} (hidden : MetricDetail.cardsShown scene = false)
    (s : MetricDetail.State) :
    (MetricDetail.syncCards scene s).versionTable = none ∧
      (MetricDetail.syncCards scene s).bindingTable = none := by
  simp [MetricDetail.syncCards, hidden]

/-- As long as the cards are there, the page shows what the writes and the loads came to, and then
the cards. -/
theorem view_of_shown {scene : Scene} (shown : MetricDetail.cardsShown scene = true)
    (s : MetricDetail.State) :
    MetricDetail.view scene s =
      queryStatus (scene.see (MetricDetail.metricKey scene)).isLoading
          (scene.see (MetricDetail.versionsKey scene)).error loading ++
        errorBox? s.error ++ (s.notice.map say).getD [] ++
        ((MetricDetail.metric? scene).map (MetricDetail.metricCard s)).getD [] ++
        MetricDetail.basicCard s ++ MetricDetail.versionsCard s ++
        MetricDetail.bindingsCard scene s := by
  obtain ⟨selected, loaded⟩ := Bool.and_eq_true_iff.mp shown
  obtain ⟨id, selected⟩ := Option.isSome_iff_exists.mp selected
  simp only [MetricDetail.view, selected, Option.isNone_iff_eq_none.mp loaded]

/-- The cards show both tables. -/
theorem view_shows_cards {scene : Scene} (shown : MetricDetail.cardsShown scene = true)
    (s : MetricDetail.State) :
    MetricDetail.versionsCard s <:+: MetricDetail.view scene s ∧
      MetricDetail.bindingsCard scene s <:+: MetricDetail.view scene s := by
  rw [view_of_shown shown]
  exact ⟨List.infix_append _ _ _, (List.suffix_append _ _).isInfix⟩

theorem detailVersions_faithful : detailVersions.Faithful where
  tells a b same := congrArg MetricDetail.VersionRowKey.id same
  item_line scene p v := by cases p <;> rfl
  start := rfl
  follow navigated scene p isPage := by
    obtain ⟨s, rfl⟩ := isPage.metricDetail
    cases shown : MetricDetail.cardsShown scene with
    | false =>
      have gone := (syncCards_hidden shown (MetricDetail.syncBasic scene s)).1
      exact ⟨false, fun _ => by simp [detailVersions, shown], gone⟩
    | true =>
      have basic := (syncBasic_sameTables scene s).1
      obtain ⟨table, -, stillEditing⟩ := syncCards_shown shown (MetricDetail.syncBasic scene s)
      have lines : detailVersions.line scene (Page.sync navigated scene (.metricDetail s)).1 =
          MetricDetail.versionLine scene (MetricDetail.syncBasic scene s) := by
        funext v
        exact congrArg (fun e => MetricDetail.VersionLine.mk v _ (e == some v.id)) stillEditing
      refine ⟨!(MetricDetail.versions scene).isEmpty, fun empty => ?_, ?_⟩
      · simpa [detailVersions, shown] using empty
      · rw [lines]
        refine table.trans ?_
        simp only [MetricDetail.syncVersions, detailVersions, shown, basic, if_true,
          List.isEmpty_map]
        rfl
  update scene m p := by
    cases p with
    | metricDetail s =>
      cases m with
      | metricDetail m => exact (update_sameTables scene m s).1
      | _ => rfl
    | _ => cases m <;> rfl
  finish result job p := by
    cases p with
    | metricDetail s =>
      cases job with
      | metricDetail j => exact (finish_sameTables result j s).1
      | _ => rfl
    | _ => cases job <;> rfl
  onScreen navigated scene p isPage := by
    obtain ⟨s, rfl⟩ := isPage.metricDetail
    cases shown : MetricDetail.cardsShown scene with
    | false =>
      have gone := (syncCards_hidden shown (MetricDetail.syncBasic scene s)).1
      have none_shown : detailVersions.tableTokens (Page.sync navigated scene (.metricDetail s)).1 =
          [] := congrArg (fun t => (Option.map (tableRows detailVersions.row) t).getD []) gone
      exact none_shown ▸ List.nil_infix
    | true =>
      have rows := rows_infix_table Msg.metricDetail "No versions yet"
        ["Version", "Status", "Grain", "Effective", "Created", ""] MetricDetail.versionRow
        (MetricDetail.sync scene s).versionTable
      refine rows.trans (List.IsInfix.map (Token.map Msg.metricDetail) ?_)
      refine List.IsInfix.trans ?_ (view_shows_cards shown (MetricDetail.sync scene s)).1
      simp only [MetricDetail.versionsCard, List.append_assoc]
      exact ((List.prefix_append _ _).isInfix).trans (List.suffix_append _ _).isInfix
  button x := ⟨_, List.mem_map_of_mem (mem_tableRow (.tail _ (.tail _ (.tail _ (.tail _
    (.tail _ (.head _)))))) (.tail _ (.head _)))⟩
  loads scene p v isPage opens := by
    obtain ⟨s, rfl⟩ := isPage.metricDetail
    have other : s.editingVersion ≠ some v.id := opens
    simp [detailVersions, Page.update, MetricDetail.update, other]

theorem detailBindings_faithful : detailBindings.Faithful where
  tells a b same := congrArg MetricDetail.BindingRowKey.id same
  item_line _ _ _ := rfl
  start := rfl
  follow navigated scene p isPage := by
    obtain ⟨s, rfl⟩ := isPage.metricDetail
    cases shown : MetricDetail.cardsShown scene with
    | false =>
      have gone := (syncCards_hidden shown (MetricDetail.syncBasic scene s)).2
      exact ⟨false, fun _ => by simp [detailBindings, shown], gone⟩
    | true =>
      have basic := (syncBasic_sameTables scene s).2
      have table := (syncCards_shown shown (MetricDetail.syncBasic scene s)).2.1
      refine ⟨!(MetricDetail.bindings scene).isEmpty, fun empty => ?_, ?_⟩
      · simpa [detailBindings, shown] using empty
      · have listed : detailBindings.listed scene = MetricDetail.bindings scene := if_pos shown
        rw [listed]
        exact (table.trans (basic ▸ rfl)).trans (follow_plain _ _ _ _)
  update scene m p := by
    cases p with
    | metricDetail s =>
      cases m with
      | metricDetail m => exact (update_sameTables scene m s).2
      | _ => rfl
    | _ => cases m <;> rfl
  finish result job p := by
    cases p with
    | metricDetail s =>
      cases job with
      | metricDetail j => exact (finish_sameTables result j s).2
      | _ => rfl
    | _ => cases job <;> rfl
  onScreen navigated scene p isPage := by
    obtain ⟨s, rfl⟩ := isPage.metricDetail
    cases shown : MetricDetail.cardsShown scene with
    | false =>
      have gone := (syncCards_hidden shown (MetricDetail.syncBasic scene s)).2
      have none_shown : detailBindings.tableTokens (Page.sync navigated scene (.metricDetail s)).1 =
          [] := congrArg (fun t => (Option.map (tableRows detailBindings.row) t).getD []) gone
      exact none_shown ▸ List.nil_infix
    | true =>
      have rows := rows_infix_table Msg.metricDetail "No calibers bound to this version"
        ["Order", "Caliber", "Category", "Status", ""] MetricDetail.bindingRow
        (MetricDetail.sync scene s).bindingTable
      refine rows.trans (List.IsInfix.map (Token.map Msg.metricDetail) ?_)
      refine List.IsInfix.trans ?_ (view_shows_cards shown (MetricDetail.sync scene s)).2
      exact (List.infix_append _ _ _).trans
        ((List.prefix_append _ _).trans (List.prefix_append _ _)).isInfix
  button b := ⟨_, List.mem_map_of_mem (mem_tableRow (.tail _ (.tail _ (.tail _ (.tail _
    (.head _))))) (.head _))⟩
  loads scene p b isPage _ := by
    obtain ⟨s, rfl⟩ := isPage.metricDetail
    rfl

/-! ### Calibers -/

theorem table_update_calibers (m : CaliberLibrary.Msg) (s : CaliberLibrary.State) :
    (CaliberLibrary.update s m).1.table = s.table := by
  cases m with
  | save | confirmDelete =>
    simp only [CaliberLibrary.update]
    split <;> rfl
  | _ => rfl

theorem table_finish_calibers (result : Except ApiError Json) (j : CaliberLibrary.Job)
    (s : CaliberLibrary.State) : (CaliberLibrary.finish s j result).table = s.table := by
  cases j <;> cases result <;> rfl

theorem libraryCalibers_faithful : libraryCalibers.Faithful where
  tells a b same := congrArg CaliberLibrary.RowKey.id same
  item_line _ _ _ := rfl
  start := rfl
  follow navigated scene p isPage := by
    obtain ⟨s, rfl⟩ := isPage.caliberLibrary
    refine ⟨!(libraryCalibers.listed scene).isEmpty || (scene.see (some .calibers)).isLoading,
      fun absent => ?_, follow_plain _ _ _ _⟩
    simpa using (Bool.or_eq_false_iff.mp absent).1
  update scene m p := by
    cases p with
    | caliberLibrary s =>
      cases m with
      | caliberLibrary m => exact table_update_calibers m s
      | _ => rfl
    | _ => cases m <;> rfl
  finish result job p := by
    cases p with
    | caliberLibrary s =>
      cases job with
      | caliberLibrary j => exact table_finish_calibers result j s
      | _ => rfl
    | _ => cases job <;> rfl
  onScreen navigated scene p isPage := by
    obtain ⟨s, rfl⟩ := isPage.caliberLibrary
    have rows := rows_infix_table Msg.caliberLibrary "No calibers yet"
      ["Code", "Name", "Category", "Value format", "Unit override", ""] CaliberLibrary.caliberRow
      (CaliberLibrary.sync scene s).table
    refine rows.trans (List.IsInfix.map (Token.map Msg.caliberLibrary) ?_)
    exact (List.infix_append _ _ _).trans (List.prefix_append _ _).isInfix
  button c := ⟨_, List.mem_map_of_mem (mem_tableRow (.tail _ (.tail _ (.tail _ (.tail _ (.tail _
    (.head _)))))) (.head _))⟩
  loads scene p c isPage _ := by
    obtain ⟨s, rfl⟩ := isPage.caliberLibrary
    rfl

/-- Each of the four lists is followed, shown and edited. -/
theorem faithful_of_mem {l : EditableList} (mem : l ∈ all) : l.Faithful := by
  obtain rfl | rfl | rfl | rfl : l = managedVersions ∨ l = detailVersions ∨ l = detailBindings ∨
      l = libraryCalibers := by simpa [all] using mem
  · exact managedVersions_faithful
  · exact detailVersions_faithful
  · exact detailBindings_faithful
  · exact libraryCalibers_faithful

end EditableList

end MetricConsole.Page
