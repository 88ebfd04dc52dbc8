import Mathlib.Data.List.Chain
import MetricConsole.Proofs.Page.EditableList

/-!
# Rows that are kept

A row of an editable list is kept by its key, and the key leaves out fields that the row or the form
shows.  So a row is as old as its key: whatever the page follows, it shows one row for each item,
but the row shows the item as it was when the key came into the list.

* `Run.rows_up_to_date_iff`: the rows show the list that the page follows exactly as long as no two
  lists, one after the other, have items of one key that look different.
* `Run.row_out_of_date`: the library of calibers shows, loads and sends back a unit that has
  changed.
-/

namespace MetricConsole.Page

open Listing

variable {record : List (Scene × Page)} {p : Page}

namespace EditableList

variable {l : EditableList}

theorem Faithful.nodup_keys (faithful : l.Faithful) {items : List l.Item}
    (distinct : (items.map l.id).Nodup) : (items.map l.key).Nodup :=
  List.pairwise_map.mpr <| (List.pairwise_map.mp distinct).imp fun apart same =>
    apart (faithful.tells _ _ same)

/-- The table is there for the lines of the list, each once. -/
def TidyTable (l : EditableList) (p : Page) : Prop :=
  ∀ t ∈ l.table p, Tidy (fun x => l.key (l.item x)) t

/-- The list that the page followed last. -/
def previous (l : EditableList) (record : List (Scene × Page)) : List l.Item :=
  ((record.map fun r => l.listed r.1).getLast?).getD []

theorem previous_cases (l : EditableList) (record : List (Scene × Page)) :
    l.previous record = [] ∨
      ∃ r ∈ record, r ∈ record.getLast? ∧ l.previous record = l.listed r.1 := by
  cases last : record.getLast? with
  | none => exact .inl (by simp [previous, List.getLast?_map, last])
  | some r =>
    refine .inr ⟨r, List.mem_of_getLast? last, rfl, ?_⟩
    simp [previous, List.getLast?_map, last]

/-! ## One scene -/

/-- What a page does to its rows when it follows a scene. -/
structure Follows (l : EditableList) (scene : Scene) (p p' : Page) : Prop where
  tidy : l.TidyTable p'
  rows : Reconciles l.key (l.rows p) (l.listed scene) (l.rows p')
  tokens : l.tableTokens p' = (l.rows p').flatMap fun a => l.row (l.line scene p' a)

theorem Faithful.follows (faithful : l.Faithful) (isPage : IsPageOf l.view p)
    (tidy : l.TidyTable p) (navigated : Bool) {scene : Scene}
    (distinct : ((l.listed scene).map l.id).Nodup) :
    Follows l scene p (p.sync navigated scene).1 := by
  obtain ⟨present, there, table⟩ := faithful.follow navigated scene p isPage
  generalize (p.sync navigated scene).1 = p' at table ⊢
  have items : ((l.listed scene).map (l.line scene p')).map l.item = l.listed scene := by
    rw [List.map_map]
    exact (List.map_congr_left fun a _ => faithful.item_line scene p' a).trans (List.map_id _)
  have nodup : (((l.listed scene).map (l.line scene p')).map
      fun x => l.key (l.item x)).Nodup := by
    have keys := faithful.nodup_keys distinct
    rwa [← items, List.map_map] at keys
  obtain ⟨followed, reconciles⟩ := Tidy.follow tidy nodup fun gone => by rw [there gone]; rfl
  have rows := reconciles.map
  rw [items] at rows
  have same : ∀ x, l.item (l.line scene p' (l.item x)) = l.item x :=
    fun x => faithful.item_line scene p' (l.item x)
  generalize Listing.follow (fun x => l.key (l.item x)) present
    ((l.listed scene).map (l.line scene p')) (l.table p) = t at table followed rows
  cases t with
  | none =>
    have rowsNow : l.rows p' = [] := by simp [EditableList.rows, table, itemsOf]
    refine ⟨by simp [TidyTable, table], ?_, by simp [tableTokens, table, rowsNow]⟩
    rw [rowsNow]
    exact rows
  | some t =>
    obtain ⟨tidyNow, shown⟩ := (followed t rfl).refresh fun x => congrArg l.key (same x)
    have rowsNow : l.rows p' = t.items.map l.item := by
      simp [EditableList.rows, table, itemsOf, shown, Function.comp_def, same]
    refine ⟨?_, ?_, ?_⟩
    · simpa [TidyTable, table] using tidyNow
    · rw [rowsNow]
      exact rows
    · rw [rowsNow, tableTokens, table, List.flatMap_map]
      refine (tidyNow.tableRows_eq l.row).trans ?_
      rw [shown, List.flatMap_map]

/-! ## Runs -/

/-- After a run the table is tidy and has the keys of the list that the page followed last. -/
structure Held (l : EditableList) (record : List (Scene × Page)) (p : Page) : Prop where
  tidy : l.TidyTable p
  keys : ((l.rows p).map l.key).Perm ((l.previous record).map l.key)
  rows : ∀ r ∈ record.getLast?, l.rows r.2 = l.rows p

theorem Faithful.held (faithful : l.Faithful) (run : Run l.view record p)
    (distinct : ∀ r ∈ record, ((l.listed r.1).map l.id).Nodup) : Held l record p := by
  induction run with
  | start =>
    refine ⟨?_, ?_, fun _ mem => nomatch mem⟩
    · simp [TidyTable, faithful.start]
    · simp [EditableList.rows, previous, faithful.start, itemsOf]
  | sync run navigated scene ih =>
    obtain ⟨before, now⟩ := List.forall_mem_append.mp distinct
    have follows := faithful.follows run.isPageOf (ih before).tidy navigated
      (now _ List.mem_cons_self)
    refine ⟨follows.tidy, ?_, ?_⟩
    · simpa [previous] using follows.rows.keys
    · simp
  | @update _ p run scene m ih =>
    obtain ⟨tidy, keys, rows⟩ := ih distinct
    have table := faithful.update scene m p
    refine ⟨?_, ?_, ?_⟩
    · rwa [TidyTable, table]
    · rwa [EditableList.rows, table]
    · rwa [EditableList.rows, table]
  | @finish _ p run result job ih =>
    obtain ⟨tidy, keys, rows⟩ := ih distinct
    have table := faithful.finish result job p
    refine ⟨?_, ?_, ?_⟩
    · rwa [TidyTable, table]
    · rwa [EditableList.rows, table]
    · rwa [EditableList.rows, table]

/-- After every scene of a run the page showed one row for each item. -/
theorem Faithful.shown (faithful : l.Faithful) (run : Run l.view record p)
    (distinct : ∀ r ∈ record, ((l.listed r.1).map l.id).Nodup) :
    ∀ r ∈ record, ((l.rows r.2).map l.key).Perm ((l.listed r.1).map l.key) ∧
      ((l.rows r.2).flatMap fun a => l.row (l.line r.1 r.2 a)) <:+: r.2.view r.1 := by
  induction run with
  | start => exact fun _ mem => nomatch mem
  | @sync record p run navigated scene ih =>
    obtain ⟨before, now⟩ := List.forall_mem_append.mp distinct
    have follows := faithful.follows run.isPageOf (faithful.held run before).tidy navigated
      (now _ List.mem_cons_self)
    have onScreen := faithful.onScreen navigated scene p run.isPageOf
    rw [follows.tokens] at onScreen
    exact List.forall_mem_append.mpr
      ⟨ih before, List.forall_mem_singleton.mpr ⟨follows.rows.keys, onScreen⟩⟩
  | update run scene m ih => exact ih distinct
  | finish run result job ih => exact ih distinct

/-- The rows agreed with every list of a run exactly if the lists agreed with one another. -/
theorem Faithful.agree_iff (faithful : l.Faithful) (run : Run l.view record p)
    (distinct : ∀ r ∈ record, ((l.listed r.1).map l.id).Nodup) :
    (∀ r ∈ record, Agree l.id l.look (l.rows r.2) (l.listed r.1)) ↔
      (record.map fun r => l.listed r.1).IsChain (Agree l.key l.look) := by
  induction run with
  | start => exact ⟨fun _ => .nil, fun _ _ mem => nomatch mem⟩
  | @sync record p run navigated scene ih =>
    obtain ⟨before, now⟩ := List.forall_mem_append.mp distinct
    have held := faithful.held run before
    have follows := faithful.follows run.isPageOf held.tidy navigated (now _ List.mem_cons_self)
    have agreeIff : Agree l.id l.look (l.rows (p.sync navigated scene).1) (l.listed scene) ↔
        Agree l.key l.look (l.rows (p.sync navigated scene).1) (l.listed scene) :=
      agree_id_iff faithful.tells follows.rows.keys (now _ List.mem_cons_self)
    -- the chain grows by the list that the page followed last and the one that it follows now
    have link : (∀ before ∈ (record.map fun r => l.listed r.1).getLast?,
        Agree l.key l.look before (l.listed scene)) ↔
          Agree l.key l.look (l.previous record) (l.listed scene) := by
      unfold previous
      cases (record.map fun r => l.listed r.1).getLast? <;> simp [Agree]
    simp only [List.forall_mem_append, List.forall_mem_singleton, List.map_append, List.map_cons,
      List.map_nil, List.isChain_append, List.isChain_singleton, List.head?_cons,
      Option.mem_some_iff, forall_eq', true_and, link, agreeIff, ih before]
    refine and_congr_right fun chain => ?_
    have agreed := (ih before).mpr chain
    refine follows.rows.agree_iff held.keys ?_ (faithful.nodup_keys (now _ List.mem_cons_self)) ?_
    · obtain none_yet | ⟨r, mem, -, previous⟩ := previous_cases l record
      · simp [none_yet]
      · exact previous ▸ faithful.nodup_keys (before r mem)
    · obtain none_yet | ⟨r, mem, last, previous⟩ := previous_cases l record
      · exact none_yet ▸ fun _ _ _ mem => nomatch mem
      · have keys := held.keys
        rw [previous, ← held.rows r last] at keys ⊢
        exact (agree_id_iff faithful.tells keys (before r mem)).mp (agreed r mem)
  | update run scene m ih => exact ih distinct
  | finish run result job ih => exact ih distinct

end EditableList

/-! ## One caliber that changes -/

/-- A caliber with a name and a unit. -/
def namedCaliber (name unit : String) : Caliber where
  id := 3
  code := "CALC_NET"
  name := name
  category := "calculate"
  exprDsl := none
  exprSql := none
  valueFormat := none
  unitOverride := some unit
  notes := none
  createdAt := "2024-01-01T00:00:00Z"

/-- A scene with the given calibers. -/
def libraryScene (cs : List Caliber) : Scene :=
  ⟨.initial, ⟨[(.calibers, { CacheEntry.blank with data := some (encode cs) })], 0⟩⟩

/-- The library after the button of a caliber has been used and the form filled and saved. -/
def librarySaved (scene : Scene) (c : Caliber) (f : CaliberForm) (p : Page) : Page :=
  let p := (p.update scene (.caliberLibrary (.openEdit c))).1
  let p := (p.update scene (.caliberLibrary (.edit f))).1
  let p := (p.update scene (.caliberLibrary .save)).1
  p.finish (.ok .null) (.caliberLibrary .save)

/-- The library that follows one caliber, saves it as another, and follows that. -/
def libraryChanged (c c' : Caliber) : List (Scene × Page) :=
  let p := ((Page.ofView .caliber).sync false (libraryScene [c])).1
  let p' := librarySaved (libraryScene [c]) c (.ofCaliber c') p
  [(libraryScene [c], p), (libraryScene [c'], (p'.sync false (libraryScene [c'])).1)]

theorem run_libraryChanged (c c' : Caliber) : ∃ p, Run .caliber (libraryChanged c c') p ∧
    (libraryChanged c c').getLast? = some (libraryScene [c'], p) := by
  have opened : Run .caliber [] (.ofView .caliber) := .start
  have shown := opened.sync false (libraryScene [c])
  have saved := ((((shown.update (libraryScene [c]) (.caliberLibrary (.openEdit c))).update
    (libraryScene [c]) (.caliberLibrary (.edit (.ofCaliber c')))).update
    (libraryScene [c]) (.caliberLibrary .save)).finish (.ok .null) (.caliberLibrary .save))
  exact ⟨_, saved.sync false (libraryScene [c']), rfl⟩

/-! ## Rows and their keys -/

/-- A text with something added is another text. -/
theorem append_x_ne (s : String) : s ++ "x" ≠ s := fun same => by
  have longer := congrArg String.length same
  simp at longer

/-- No key tells all that a user can see: another item of the same key has another formula. -/
theorem EditableList.exists_other_of_key {l : EditableList} (mem : l ∈ EditableList.all)
    (a : l.Item) : ∃ b, l.key b = l.key a ∧ l.look b ≠ l.look a := by
  have version (v : MetricVersion) : ∃ w : MetricVersion, Versions.rowKey w = Versions.rowKey v ∧
      MetricDetail.versionRowKey w = MetricDetail.versionRowKey v ∧
      VersionForm.ofVersion w ≠ .ofVersion v :=
    ⟨{ v with formulaSql := some (v.formulaSql.getD "" ++ "x") }, rfl, rfl,
      fun same => append_x_ne _ (congrArg VersionForm.formulaSql same)⟩
  have binding (b : Binding) : ∃ c : Binding,
      MetricDetail.bindingRowKey c = MetricDetail.bindingRowKey b ∧
      BindingForm.ofBinding c ≠ .ofBinding b :=
    ⟨{ b with overrideExprSql := some (b.overrideExprSql.getD "" ++ "x") }, rfl,
      fun same => append_x_ne _ (congrArg BindingForm.overrideExprSql same)⟩
  have caliber (c : Caliber) : ∃ d : Caliber, CaliberLibrary.rowKey d = CaliberLibrary.rowKey c ∧
      CaliberForm.ofCaliber d ≠ .ofCaliber c :=
    ⟨{ c with exprSql := some (c.exprSql.getD "" ++ "x") }, rfl,
      fun same => append_x_ne _ (congrArg CaliberForm.exprSql same)⟩
  obtain rfl | rfl | rfl | rfl : l = managedVersions ∨ l = detailVersions ∨ l = detailBindings ∨
      l = libraryCalibers := by simpa [EditableList.all] using mem
  · obtain ⟨b, sameKey, -, other⟩ := version a
    exact ⟨b, sameKey, fun same => other (congrArg Prod.snd same)⟩
  · obtain ⟨b, -, sameKey, other⟩ := version a
    exact ⟨b, sameKey, fun same => other (congrArg Prod.snd same)⟩
  · obtain ⟨b, sameKey, other⟩ := binding a
    exact ⟨b, sameKey, fun same => other (congrArg Prod.snd same)⟩
  · obtain ⟨b, sameKey, other⟩ := caliber a
    exact ⟨b, sameKey, fun same => other (congrArg Prod.snd same)⟩

/-- **A row is as old as its key.**  Whatever a page follows, its list has one row for each item of
the scene, which stays as it is until the next scene, and the button of a row edits the item of the
row.  The rows show and edit the items of the scene they follow exactly as long as no two scenes,
one after the other, have items of one key that look different; and no key rules such items out. -/
theorem Run.rows_up_to_date_iff {l : EditableList} (mem : l ∈ EditableList.all)
    (run : Run l.view record p) (distinct : ∀ r ∈ record, ((l.listed r.1).map l.id).Nodup) :
    (∀ r ∈ record, ((l.rows r.2).map l.key).Perm ((l.listed r.1).map l.key) ∧
        ((l.rows r.2).flatMap fun a => l.row (l.line r.1 r.2 a)) <:+: r.2.view r.1) ∧
      (∀ r ∈ record.getLast?, l.rows r.2 = l.rows p) ∧
      (∀ scene, ∀ a ∈ l.rows p,
        (∃ label, .button .subtle true label none (some (l.edit a)) ∈ l.row (l.line scene p a)) ∧
          (¬l.closes p a → l.editor (p.update scene (l.edit a)).1 = some (l.fill a))) ∧
      ((∀ r ∈ record, Agree l.id l.look (l.rows r.2) (l.listed r.1)) ↔
        (record.map fun r => l.listed r.1).IsChain (Agree l.key l.look)) ∧
      ∀ a, ∃ b, l.key b = l.key a ∧ l.look b ≠ l.look a := by
  have faithful := EditableList.faithful_of_mem mem
  refine ⟨faithful.shown run distinct, (faithful.held run distinct).rows, fun scene a _ => ⟨?_, ?_⟩,
    faithful.agree_iff run distinct, EditableList.exists_other_of_key mem⟩
  · obtain ⟨label, button⟩ := faithful.button (l.line scene p a)
    rw [faithful.item_line] at button
    exact ⟨label, button⟩
  · exact faithful.loads scene p a run.isPageOf

/-- A new name is in the key, and the row is made again with the new unit. -/
theorem Run.rows_up_to_date_iff_renamed :
    EditableList.libraryCalibers ∈ EditableList.all ∧
      (∃ p, Run .caliber (libraryChanged (namedCaliber "Net" "%") (namedCaliber "Gross" "bp")) p) ∧
      (∀ r ∈ libraryChanged (namedCaliber "Net" "%") (namedCaliber "Gross" "bp"),
        ((EditableList.libraryCalibers.listed r.1).map Caliber.id).Nodup) ∧
      ∀ r ∈ libraryChanged (namedCaliber "Net" "%") (namedCaliber "Gross" "bp"),
        Agree Caliber.id EditableList.libraryCalibers.look (EditableList.libraryCalibers.rows r.2)
          (EditableList.libraryCalibers.listed r.1) := by
  obtain ⟨p, run, -⟩ := run_libraryChanged (namedCaliber "Net" "%") (namedCaliber "Gross" "bp")
  have listed : (libraryChanged (namedCaliber "Net" "%") (namedCaliber "Gross" "bp")).map
      (fun r => EditableList.libraryCalibers.listed r.1) =
        [[namedCaliber "Net" "%"], [namedCaliber "Gross" "bp"]] := rfl
  have mem : EditableList.libraryCalibers ∈ EditableList.all := by simp [EditableList.all]
  have distinct : ∀ r ∈ libraryChanged (namedCaliber "Net" "%") (namedCaliber "Gross" "bp"),
      ((EditableList.libraryCalibers.listed r.1).map Caliber.id).Nodup := fun r mem => by
    have once : ∀ cs ∈ [[namedCaliber "Net" "%"], [namedCaliber "Gross" "bp"]],
        (cs.map Caliber.id).Nodup := by simp
    exact once _ (listed ▸ List.mem_map_of_mem mem)
  have chain : List.IsChain
      (Agree CaliberLibrary.rowKey EditableList.libraryCalibers.look)
      [[namedCaliber "Net" "%"], [namedCaliber "Gross" "bp"]] :=
    List.isChain_pair.mpr fun a before b after same => by
      obtain rfl := List.mem_singleton.mp before
      obtain rfl := List.mem_singleton.mp after
      exact absurd same (by decide)
  exact ⟨mem, ⟨p, run⟩, distinct, (Run.rows_up_to_date_iff mem run distinct).2.2.2.1.mpr chain⟩

/-- A unit is not in the key: the row goes on to show the old one, its button loads the old one, and
saving that sends the old one back. -/
theorem Run.row_out_of_date : ∃ scene p,
    Run .caliber (libraryChanged (namedCaliber "Net" "%") (namedCaliber "Net" "bp")) p ∧
      (libraryChanged (namedCaliber "Net" "%") (namedCaliber "Net" "bp")).getLast? =
        some (scene, p) ∧
      EditableList.libraryCalibers.listed scene = [namedCaliber "Net" "bp"] ∧
      EditableList.libraryCalibers.rows p = [namedCaliber "Net" "%"] ∧
      (CaliberLibrary.caliberRow (namedCaliber "Net" "%")).map Token.mute ≠
        (CaliberLibrary.caliberRow (namedCaliber "Net" "bp")).map Token.mute ∧
      CaliberForm.ofCaliber (namedCaliber "Net" "%") ≠ .ofCaliber (namedCaliber "Net" "bp") ∧
      ∃ body, (((p.update scene (.caliberLibrary (.openEdit (namedCaliber "Net" "%")))).1.update
          scene (.caliberLibrary .save)).2 =
        [.write (.updateCaliber 3) (some body) (.caliberLibrary .save)]) ∧
        body.member? "unit_override" = some (.str "%") := by
  obtain ⟨p, run, last⟩ := run_libraryChanged (namedCaliber "Net" "%") (namedCaliber "Net" "bp")
  refine ⟨_, p, run, last, rfl, ?_, ?_, by decide, ?_⟩
  · cases last
    rfl
  · have old : Text.nonBlank? "%" = some "%" := rfl
    have new : Text.nonBlank? "bp" = some "bp" := rfl
    simp [CaliberLibrary.caliberRow, tableRow, namedCaliber, say, Text.orAbsent, old, new,
      Token.mute]
  · cases last
    exact ⟨_, rfl, rfl⟩

end MetricConsole.Page
