import MetricConsole.Proofs.Console.Busy

/-!
# Answers that come late

The form of a version, the dialog for a caliber, and the questions whether to delete a metric or a
caliber are panels: each is for one record and ends in a write.  While that write is under way a
panel can be left and opened for another record.  The answer asks nothing of this: a result of its
kind closes whatever the panel shows, and a refusal is put into the dialog for a caliber.

* `Panel.look?`: what a panel shows while it is open.
* `Panel.look?_finish`: what the result of a write does to a panel.
* `Console.Run.look_answered`: in every run, what an answer does to an open panel, and when it
  leaves the panel as it is.
* `Console.Run.later_dialog_closed`: a dialog that was opened later for another record is closed.
-/

namespace MetricConsole

open Page

/-! ## Panels -/

/-- A part of a page that is opened for one record and ends in a write. -/
inductive Panel where
  | versionEditor
  | caliberEditor
  | metricDeletion
  | caliberDeletion
  deriving DecidableEq, Repr

/-- What is typed into a panel. -/
inductive Typed where
  | nothing
  | version (f : VersionForm)
  | caliber (f : CaliberForm)
  deriving DecidableEq, Repr

/-- What an open panel shows: the record that it is for, the text in its fields, and the error above
them. -/
structure Look where
  record : Option Int64
  typed : Typed
  error : Option String
  deriving DecidableEq, Repr

namespace Panel

/-- What the panel of a page shows while it is open. -/
def look? : Panel → Page → Option Look
  | .versionEditor, .metricDetail s =>
    s.editingVersion.map fun id => ⟨some id, .version s.editVersion, none⟩
  | .caliberEditor, .caliberLibrary s =>
    if s.dialogOpen then some ⟨s.editing, .caliber s.form, s.formError⟩ else none
  | .metricDeletion, .metricList s =>
    if s.confirmOpen then some ⟨s.doomed.map Prod.fst, .nothing, none⟩ else none
  | .caliberDeletion, .caliberLibrary s =>
    if s.confirmOpen then some ⟨s.doomed.map Caliber.id, .nothing, none⟩ else none
  | _, _ => none

/-- The jobs of the writes that a panel ends in. -/
def ends : Panel → Page.Job → Bool
  | .versionEditor, .metricDetail .saveVersion => true
  | .caliberEditor, .caliberLibrary .save => true
  | .metricDeletion, .metricList .delete => true
  | .caliberDeletion, .caliberLibrary (.delete _) => true
  | _, _ => false

/-- What an open panel shows after the result of such a write. -/
def after : Panel → Except ApiError Json → Look → Option Look
  | .versionEditor, .error _, look => some look
  | .caliberEditor, .error e, look => some { look with error := some e.userMessage }
  | _, _, _ => none

/-- A page that follows a scene leaves its panels as they are. -/
theorem look?_sync (l : Panel) (navigated : Bool) (scene : Scene) (p : Page) :
    l.look? (p.sync navigated scene).1 = l.look? p := by
  cases l <;> cases p <;> try rfl
  case versionEditor.metricDetail s =>
    simp only [Page.sync, MetricDetail.sync, MetricDetail.syncCards, MetricDetail.syncBasic, look?]
    split <;> split <;> (try split) <;> rfl

theorem look?_followed {l : Panel} {p p' : Page} (followed : p.Followed p') :
    l.look? p' = l.look? p := by
  induction followed with
  | refl => rfl
  | tail _ step ih =>
    obtain ⟨navigated, scene, rfl⟩ := step
    rw [look?_sync, ih]

/-- The result of a write of its kind is for whatever a panel shows; any other leaves it alone. -/
theorem look?_finish (l : Panel) (result : Except ApiError Json) {p : Page} {job : Page.Job}
    (own : job.viewKey = p.viewKey) :
    l.look? (p.finish result job) =
      if l.ends job then (l.look? p).bind (l.after result) else l.look? p := by
  cases p <;> cases job <;> try cases own
  case metricList.metricList.refl s j =>
    cases l <;> cases j <;> try rfl
    case metricDeletion.delete =>
      cases shown : s.confirmOpen <;>
        simp [look?, Page.finish, MetricList.finish, ends, after, shown]
    case metricDeletion.create => cases result <;> rfl
  case metricDetail.metricDetail.refl s j =>
    cases l <;> try rfl
    cases shown : s.editingVersion <;> cases result <;> cases j <;>
      simp [look?, Page.finish, MetricDetail.finish, MetricDetail.complete, ends, after, shown]
  case caliberLibrary.caliberLibrary.refl s j =>
    cases l <;> cases j <;> try rfl
    case caliberEditor.save =>
      cases shown : s.dialogOpen <;> cases result <;>
        simp [look?, Page.finish, CaliberLibrary.finish, ends, after, shown]
    case caliberDeletion.save => cases result <;> rfl
    case caliberDeletion.delete =>
      cases shown : s.confirmOpen <;>
        simp [look?, Page.finish, CaliberLibrary.finish, ends, after, shown]
  case versions.versions.refl => cases l <;> rfl
  all_goals cases l <;> simp [look?, Page.finish]

end Panel

/-! ## Saving a caliber -/

namespace Page.CaliberLibrary

/-- While a caliber is saved, no control of the page asks to save one. -/
theorem guarded_view (scene : Scene) (s : State) :
    (view scene s).Guarded fun m => m = .save → s.saving = false := by
  have rows (c : Caliber) : (caliberRow c).Guarded fun m : Msg => m = .save → s.saving = false := by
    simp [caliberRow]
  simp only [view, editDialog, fields]
  cases s.editing.isNone <;>
    simp +contextual [confirmDialog, guarded_table rows]

/-- While a caliber is saved, its dialog shows no error. -/
def SavesClean (s : State) : Prop := s.saving = true → s.formError = none

theorem savesClean_update {s : State} (clean : SavesClean s) (m : Msg) :
    SavesClean (update s m).1 := by
  cases m with
  | save =>
    simp only [update]
    split
    · exact fun saving => by cases saving
    · exact fun _ => rfl
  | confirmDelete =>
    simp only [update]
    split <;> exact clean
  | openCreate | openEdit => exact fun _ => rfl
  | _ => exact clean

theorem savesClean_finish {s : State} (clean : SavesClean s) (job : Job)
    (result : Except ApiError Json) : SavesClean (finish s job result) := by
  cases job with
  | save => cases result <;> exact nofun
  | delete => exact clean

end Page.CaliberLibrary

/-- If the page is the library of calibers, its dialog shows no error while a caliber is saved. -/
def Page.SavesClean : Page → Prop
  | .caliberLibrary s => CaliberLibrary.SavesClean s
  | _ => True

/-- The flag that is up while a caliber is saved. -/
def savingGate : Gate where
  isUp
    | .caliberLibrary s => some s.saving
    | _ => none
  guards := Panel.caliberEditor.ends

theorem savingGate_sound : savingGate.Sound where
  fresh v := by cases v <;> nofun
  sync _ _ p := by cases p <;> rfl
  update scene p := by
    cases p with
    | caliberLibrary s =>
      refine Tokens.guarded_map.mpr ((CaliberLibrary.guarded_view scene s).mono fun m idle => ?_)
      cases m with
      | save =>
        simp only [savingGate, Page.update, CaliberLibrary.update, idle rfl]
        split <;> rfl
      | confirmDelete =>
        simp only [savingGate, Page.update, CaliberLibrary.update]
        split <;> simp [Command.map, Gate.starts, Panel.ends]
      | _ => simp [savingGate, Page.update, CaliberLibrary.update]
    | _ => exact .of_forall fun m => by cases m <;> rfl
  finish result p job own := by
    cases p <;> cases job <;> try cases own
    case caliberLibrary.caliberLibrary.refl s j =>
      cases j with
      | save => cases result <;> simp [savingGate, Page.finish, CaliberLibrary.finish, Panel.ends]
      | delete => simp [savingGate, Page.finish, CaliberLibrary.finish, Panel.ends]
    all_goals rfl

/-! ## Answers -/

namespace Console.Run

variable {log : List (Console × Event)} {c : Console} {l : Panel} {look : Look}

theorem savesClean (run : Run log c) : c.page.SavesClean := by
  refine run.page_keeps ?fresh ?sync ?update ?finish
  case fresh =>
    intro v
    cases v <;> first | trivial | exact nofun
  case sync =>
    intro navigated scene p clean
    cases p <;> exact clean
  case update =>
    intro scene p m clean
    cases p <;> cases m <;> try exact clean
    case caliberLibrary.caliberLibrary s m => exact CaliberLibrary.savesClean_update clean m
  case finish =>
    intro result p job clean
    cases p <;> cases job <;> try exact clean
    case caliberLibrary.caliberLibrary s j => exact CaliberLibrary.savesClean_finish clean j result

/-- The dialog for a caliber shows no error while a write that it ended in is under way. -/
theorem error_eq_none_of_saving (run : Run log c) {x : Exchange Errand}
    (under : x ∈ c.client.pending) {errand : Errand} (written : x.errand? = some errand)
    (own : errand.showing = c.showing) (ends : Panel.caliberEditor.ends errand.job = true)
    (shown : Panel.caliberEditor.look? c.page = some look) : look.error = none := by
  have clean := run.savesClean
  have count {up : Bool} (flag : savingGate.isUp c.page = some up) :=
    run.gate_eq savingGate_sound flag
  cases page : c.page with
  | caliberLibrary s =>
    rw [page] at clean shown
    have counted : savingGate.counts c.showing x = true := by
      simp only [Gate.counts, written, Option.any_some, own, beq_self_eq_true, Bool.true_and]
      exact ends
    have positive := List.countP_pos_iff.mpr ⟨x, under, counted⟩
    have saving : s.saving = true := by
      rw [count (congrArg savingGate.isUp page)] at positive
      cases up : s.saving with
      | true => rfl
      | false => simp [up] at positive
    simp only [Panel.look?] at shown
    split at shown
    · rw [← Option.some.inj shown]
      exact clean saving
    · cases shown
  | _ => rw [page] at shown; cases shown

/-- **What an answer does to an open panel.**  In every run the answer to a write of its kind that
the present showing sent is for whatever the panel shows, whichever record that is and whenever it
was opened.  The panel is closed; only a refusal leaves it open, as it was in the form of a version,
and with the error in the dialog for a caliber.  Any other answer leaves the panel as it is. -/
theorem look_answered (run : Run log c) {before after : List (Exchange Errand)}
    {x : Exchange Errand} (pending : c.client.pending = before ++ x :: after) (outcome : Outcome)
    (l : Panel) {look : Look} (shown : l.look? c.page = some look) :
    (c.step (.answer before.length outcome)).showing = c.showing ∧
      (∀ mutation shape errand, x.purpose = .write mutation shape errand →
        errand.showing = c.showing → l.ends errand.job = true →
        l.look? (c.step (.answer before.length outcome)).page =
            l.after (outcomeOf shape outcome) look ∧
          (l.look? (c.step (.answer before.length outcome)).page = some look ↔
            l = .versionEditor ∧ ∃ e, outcomeOf shape outcome = .error e)) ∧
      ((∀ errand, x.errand? = some errand → errand.showing = c.showing →
          l.ends errand.job = false) →
        l.look? (c.step (.answer before.length outcome)).page = some look) := by
  obtain ⟨showing, followed⟩ := run.stays (e := .answer before.length outcome) rfl
  have found : c.client.pending[before.length]? = some x := by simp [pending]
  have told : c.told (.answer before.length outcome) = c.answered x outcome := by
    simp only [Console.told, found]
  have under : x ∈ c.client.pending := by simp [pending]
  rw [told] at followed
  rw [Panel.look?_followed followed]
  refine ⟨showing, fun mutation shape errand purpose own ends => ?_, fun other => ?_⟩
  · have written : x.errand? = some errand := by simp [Exchange.errand?, purpose]
    have kind := (run.homed x under errand written).2 own
    have result : l.look? (c.answered x outcome) = l.after (outcomeOf shape outcome) look := by
      simp only [answered, purpose, own, if_true]
      rw [l.look?_finish _ kind, ends, shown]
      rfl
    refine ⟨result, result ▸ ?_⟩
    cases outcomeOf shape outcome with
    | ok v => cases l <;> simp [Panel.after]
    | error e =>
      cases l with
      | versionEditor => simp [Panel.after]
      | caliberEditor =>
        have silent := run.error_eq_none_of_saving under written own ends shown
        refine ⟨fun same => ?_, fun kept => by cases kept.1⟩
        have error := congrArg Look.error (Option.some.inj same)
        rw [silent] at error
        cases error
      | metricDeletion | caliberDeletion => simp [Panel.after]
  · cases purpose : x.purpose with
    | read t =>
      simp only [answered, purpose]
      exact shown
    | write mutation shape errand =>
      have written : x.errand? = some errand := by simp [Exchange.errand?, purpose]
      simp only [answered, purpose]
      split
      · next own =>
        rw [l.look?_finish _ ((run.homed x under errand written).2 own), other errand written own]
        exact shown
      · exact shown

/-- The library has the calibers 3 and 4, and 3 is saved as it is.  While the answer is awaited the
dialog is left, opened for 4, and a name is typed. -/
def dialogReopened : List (Console × Event) × Console :=
  (Console.start "?view=caliber" []).replay
    [.answer 0 (.answered 200
        ("[[3,\"\",\"a\",\"filter\",null,null,null,null,null,\"\"]," ++
          "[4,\"\",\"b\",\"filter\",null,null,null,null,null,\"\"]]")),
      .press "icon:edit" 0, .press "Save" 0, .press "Cancel" 0, .press "icon:edit" 1,
      .fill "Name *" "c" 0]

/-- The answer to that write. -/
def caliberSaved : Outcome :=
  .answered 200 "[3,\"\",\"a\",\"filter\",null,null,null,null,null,\"\"]"

/-- The dialog is open on 4 with what was typed, and the write of 3, sent when the dialog was open
on 3, is under way alone. -/
theorem dialogReopened_facts :
    Panel.caliberEditor.look? dialogReopened.2.page =
        some ⟨some 4, .caliber ⟨"", "c", "filter", "", "", "", "", ""⟩, none⟩ ∧
      dialogReopened.2.client.pending.map Exchange.errand? =
        [some ⟨dialogReopened.2.showing, .caliberLibrary .save⟩] ∧
      dialogReopened.1[2]?.map (fun p =>
          (p.1.sends p.2, (Panel.caliberEditor.look? p.1.page).map Look.record)) =
        some (dialogReopened.2.client.pending, some (some 3)) ∧
      Panel.caliberEditor.look? (dialogReopened.2.step (.answer 0 caliberSaved)).page = none := by
  decide +kernel

theorem dialogReopened_run : Run dialogReopened.1 dialogReopened.2 :=
  Run.replay "?view=caliber" [] _

/-- What was typed for 4 is not kept by the answer for 3. -/
theorem look_answered_reopened :
    ∃ x look, dialogReopened.2.client.pending = [] ++ x :: [] ∧
      x.errand? = some ⟨dialogReopened.2.showing, .caliberLibrary .save⟩ ∧
      Panel.caliberEditor.look? dialogReopened.2.page = some look ∧ look.record = some 4 ∧
      ∀ outcome, Panel.caliberEditor.look?
        (dialogReopened.2.step (.answer 0 outcome)).page ≠ some look := by
  obtain ⟨shown, errands, -, -⟩ := dialogReopened_facts
  have run := dialogReopened_run
  generalize dialogReopened = reopened at *
  obtain ⟨x, pending, written⟩ := List.map_eq_singleton_iff.mp errands
  obtain ⟨mutation, shape, purpose⟩ := Exchange.purpose_of_errand? written
  refine ⟨x, _, pending, written, shown, rfl, fun outcome kept => ?_⟩
  obtain ⟨-, own, -⟩ := @look_answered _ _ run [] [] x pending outcome .caliberEditor _ shown
  obtain ⟨other, -⟩ := (own mutation shape _ purpose rfl rfl).2.mp kept
  cases other

/-- Not every panel that was opened for another record since a write was sent is left alone by the
answer to the write. -/
theorem later_dialog_closed :
    ¬ ∀ (log : List (Console × Event)) (c c₁ : Console) (e₁ : Event) (l : Panel) (look : Look)
      (before after : List (Exchange Errand)) (x : Exchange Errand) (job : Page.Job)
      (outcome : Outcome), Run log c → (c₁, e₁) ∈ log → x ∈ c₁.sends e₁ →
      c.client.pending = before ++ x :: after → x.errand? = some ⟨c.showing, job⟩ →
      l.ends job = true → l.look? c.page = some look →
      (l.look? c₁.page).map Look.record ≠ some look.record →
      l.look? (c.step (.answer before.length outcome)).page = some look := by
  intro kept
  obtain ⟨shown, errands, sending, closed⟩ := dialogReopened_facts
  have run := dialogReopened_run
  generalize dialogReopened = reopened at *
  obtain ⟨x, pending, written⟩ := List.map_eq_singleton_iff.mp errands
  obtain ⟨⟨c₁, e₁⟩, logged, sent⟩ := Option.map_eq_some_iff.mp sending
  obtain ⟨sends, record⟩ := Prod.mk.inj sent
  have open₄ := kept _ _ c₁ e₁ .caliberEditor _ [] [] x _ caliberSaved run
    (List.mem_of_getElem? logged) (sends ▸ pending ▸ List.mem_singleton_self x) pending written rfl
    shown (by rw [record]; decide)
  rw [List.length_nil, closed] at open₄
  cases open₄

end Console.Run

end MetricConsole
