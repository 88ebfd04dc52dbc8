import MetricConsole.Page.Basic
import MetricConsole.Proofs.Page.Controls

/-!
# Writes that a page is told to start

The detail of a metric and the management of versions write one thing at a time.  A message for a
write starts one if everything that it is about is selected and its form is in order; otherwise the
page writes nothing and stays as busy as it was.  While it is busy, none of its controls sends such
a message.

* `Attempts`: a page starts one write and is busy, or does neither.
* `Page.requisites`: what the messages for writes need.
* `Page.MetricDetail.Attempted`: what comes of a message to the detail of a metric.
* `Page.attempts_update`: a message starts a write exactly if nothing is missing.
* `Page.guarded_view`: what the controls send while the page is busy.
-/

namespace MetricConsole

open Page

/-! ## What a write needs -/

/-- What is wrong with a form. -/
def fault? {α : Type} : Except FormFault α → Option FormFault
  | .ok _ => none
  | .error f => some f

/-- What a message for a write needs: everything that the write is about is selected, and nothing is
wrong with its form. -/
structure Requisites where
  selected : Bool
  fault : Option FormFault

/-- Nothing is missing. -/
def Requisites.met (r : Requisites) : Bool := r.selected && r.fault.isNone

/-- If a condition is met, the page starts one write and is busy; otherwise it writes nothing, and
is as busy as it was. -/
def Attempts {σ κ : Type} (busy : σ → Bool) (met : Bool) (s : σ) (next : σ × List (Command κ)) :
    Prop :=
  if met then (∃ mutation body job, next.2 = [.write mutation body job]) ∧ busy next.1 = true
  else (∀ command ∈ next.2, ∃ action, command = .navigate action) ∧ busy next.1 = busy s

namespace Attempts

variable {σ κ : Type} {busy : σ → Bool} {s s' : σ}

theorem start {mutation : Mutation} {body : Option Json} {job : κ} (up : busy s' = true) :
    Attempts busy true s (s', [.write mutation body job]) :=
  ⟨⟨mutation, body, job, rfl⟩, up⟩

theorem refrain (same : busy s' = busy s) : Attempts busy false s (s', ([] : List (Command κ))) :=
  ⟨nofun, same⟩

/-- A page attempts what its state does. -/
theorem map {σ' κ' : Type} {busy' : σ' → Bool} {met : Bool} {commands : List (Command κ)}
    (attempts : Attempts busy met s (s', commands)) (page : σ → σ') (job : κ → κ')
    (same : ∀ s, busy' (page s) = busy s) :
    Attempts busy' met (page s) (page s', commands.map (Command.map job)) := by
  cases met with
  | true =>
    obtain ⟨⟨mutation, body, j, rfl⟩, up⟩ := attempts
    exact .start ((same s').trans up)
  | false =>
    obtain ⟨moves, kept⟩ := attempts
    refine ⟨List.forall_mem_map.mpr fun command mem => ?_,
      (same s').trans (kept.trans (same s).symm)⟩
    obtain ⟨action, rfl⟩ := moves command mem
    exact ⟨action, rfl⟩

end Attempts

namespace Page.MetricDetail

/-- What the messages for writes need. -/
def requisites (scene : Scene) (s : State) : Msg → Option Requisites
  | .publish => some ⟨scene.nav.metricId.isSome, none⟩
  | .saveBasic => some ⟨scene.nav.metricId.isSome, fault? s.basic.toUpdate⟩
  | .saveVersion =>
    some ⟨scene.nav.metricId.isSome && s.editingVersion.isSome, fault? s.editVersion.toUpdate⟩
  | .createVersion => some ⟨scene.nav.metricId.isSome, fault? s.newVersion.toCreate⟩
  | .saveNewBinding =>
    some ⟨scene.nav.metricId.isSome && (currentId scene).isSome, fault? s.newBinding.toCreate⟩
  | .saveBinding =>
    some ⟨scene.nav.metricId.isSome && (currentId scene).isSome && s.editingBinding.isSome,
      fault? s.editBinding.toUpdate⟩
  | .confirmRemove =>
    some ⟨scene.nav.metricId.isSome && (currentId scene).isSome && s.doomed.isSome, none⟩
  | _ => none

/-- What the page says about its writes: an error, a notice, and whether it waits for an answer. -/
structure Verdict where
  error : Option String
  notice : Option String
  busy : Bool

/-- What a state of the page says about its writes. -/
def State.verdict (s : State) : Verdict := ⟨s.error, s.notice, s.busy⟩

/-- What comes of a message, by what it needs: a write starts and nothing is said of earlier ones;
or the form is turned down; or nothing is written and nothing is said, because something is not
selected or the message is not for a write. -/
inductive Attempted (s : State) : Option Requisites → State × List (Command Job) → Prop where
  | started {s' : State} (mutation : Mutation) (body : Option Json) (job : Job)
      (said : s'.verdict = ⟨none, none, true⟩) :
    Attempted s (some ⟨true, none⟩) (s', [.write mutation body job])
  | refused (f : FormFault) :
    Attempted s (some ⟨true, some f⟩) ({ s with error := some f.message }, [])
  | passed {r : Option Requisites} {next : State × List (Command Job)}
      (unselected : ∀ needed ∈ r, needed.selected = false)
      (moves : ∀ command ∈ next.2, ∃ action, command = .navigate action)
      (same : next.1.verdict = s.verdict) : Attempted s r next

namespace Attempted

variable {s s' : State}

theorem missing {fault : Option FormFault} (same : s'.verdict = s.verdict) :
    Attempted s (some ⟨false, fault⟩) (s', []) :=
  .passed (fun _ needed => Option.some.inj needed ▸ rfl) nofun same

theorem idle (same : s'.verdict = s.verdict) : Attempted s none (s', []) :=
  .passed nofun nofun same

theorem move (action : NavAction) : Attempted s none (s, [.navigate action]) :=
  .passed nofun (List.forall_mem_singleton.mpr ⟨action, rfl⟩) rfl

/-- A form that is in order is written, and any other is turned down. -/
theorem submit {α : Type} [Codec α] (s : State) (mutation : Mutation) (body : Except FormFault α)
    (job : Job) : Attempted s (some ⟨true, fault? body⟩) (submit s mutation body job) := by
  cases body with
  | ok b => exact .started mutation _ job rfl
  | error f => exact .refused f

theorem attempts {r : Option Requisites} {next : State × List (Command Job)}
    (attempted : Attempted s r next) :
    Attempts State.busy (r.any Requisites.met) s next := by
  cases attempted with
  | started mutation body job said => exact .start (congrArg Verdict.busy said)
  | refused f => exact .refrain rfl
  | passed unselected moves same =>
    have unmet : r.any Requisites.met = false := by
      cases r with
      | none => rfl
      | some needed => simp [Requisites.met, unselected needed rfl]
    rw [unmet]
    exact ⟨moves, congrArg Verdict.busy same⟩

end Attempted

/-- What comes of each message. -/
theorem attempted_update (scene : Scene) (s : State) (m : Msg) :
    Attempted s (requisites scene s m) (update scene s m) := by
  cases m with
  | publish =>
    simp only [update, requisites]
    cases scene.nav.metricId with
    | none => exact .missing rfl
    | some id => exact .started _ _ _ rfl
  | saveBasic | createVersion =>
    simp only [update, requisites]
    cases scene.nav.metricId with
    | none => exact .missing rfl
    | some id => exact .submit s _ _ _
  | saveVersion =>
    simp only [update, requisites]
    cases scene.nav.metricId with
    | none => exact .missing rfl
    | some id =>
      cases s.editingVersion with
      | none => exact .missing rfl
      | some versionId => exact .submit s _ _ _
  | saveNewBinding =>
    simp only [update, requisites]
    cases scene.nav.metricId with
    | none => exact .missing rfl
    | some id =>
      cases currentId scene with
      | none => exact .missing rfl
      | some versionId => exact .submit s _ _ _
  | saveBinding =>
    simp only [update, requisites]
    cases scene.nav.metricId with
    | none => exact .missing rfl
    | some id =>
      cases currentId scene with
      | none => exact .missing rfl
      | some versionId =>
        cases s.editingBinding with
        | none => exact .missing rfl
        | some b => exact .submit s _ _ _
  | confirmRemove =>
    simp only [update, requisites]
    cases scene.nav.metricId with
    | none => exact .missing rfl
    | some id =>
      cases currentId scene with
      | none => exact .missing rfl
      | some versionId =>
        cases s.doomed with
        | none => exact .missing rfl
        | some b => exact .started _ _ _ rfl
  | toggleEditVersion v =>
    simp only [update]
    split <;> exact .idle rfl
  | backToList | selectVersion id => exact .move _
  | _ => exact .idle rfl

/-- A message starts a write exactly if it is for one and nothing is missing. -/
theorem attempts_update (scene : Scene) (s : State) (m : Msg) :
    Attempts State.busy ((requisites scene s m).any Requisites.met) s (update scene s m) :=
  (attempted_update scene s m).attempts

/-- While the page is busy, only messages that are not for a write are allowed. -/
def Allows (scene : Scene) (s : State) (m : Msg) : Prop :=
  (requisites scene s m).isSome = true → s.busy = false

section View

variable (scene : Scene) (s : State)

theorem guarded_metricCard (m : Metric) : (metricCard s m).Guarded (Allows scene s) := by
  cases description : m.description <;> simp +contextual [metricCard, Allows, requisites]

theorem guarded_basicCard : (basicCard s).Guarded (Allows scene s) := by
  simp +contextual [basicCard, Allows, requisites]

theorem guarded_versionFields (required : Bool) (f : VersionForm) (change : VersionForm → Msg)
    (other : ∀ f, Allows scene s (change f)) :
    (versionFields required f change).Guarded (Allows scene s) := by
  simp [versionFields, other]

theorem guarded_versionsCard : (versionsCard s).Guarded (Allows scene s) := by
  have rows (l : VersionLine) : (versionRow l).Guarded (Allows scene s) := by
    simp [versionRow, Allows, requisites]
  have edited := guarded_versionFields scene s false s.editVersion .changeVersion nofun
  have new := guarded_versionFields scene s true s.newVersion .changeNewVersion nofun
  simp only [versionsCard, Tokens.guarded_append, guarded_say, guarded_table rows, new]
  split <;> simp +contextual [edited, Allows, requisites]

theorem guarded_bindingFields (calibers : Option (List Offer)) (f : BindingForm)
    (change : BindingForm → Msg) (other : ∀ f, Allows scene s (change f)) :
    (bindingFields calibers f change).Guarded (Allows scene s) := by
  cases calibers <;> simp [bindingFields, other]

theorem guarded_bindingsCard : (bindingsCard scene s).Guarded (Allows scene s) := by
  have rows (b : Binding) : (bindingRow b).Guarded (Allows scene s) := by
    simp [bindingRow, Allows, requisites]
  have new := guarded_bindingFields scene s (some (Offer.shown s.calibers)) s.newBinding
    .changeNewBinding nofun
  have edited := guarded_bindingFields scene s none s.editBinding .changeBinding nofun
  simp +contextual [bindingsCard, confirmDialog, guarded_table rows, new, edited, Allows,
    requisites]

/-- While the page is busy its controls send nothing that is for a write. -/
theorem guarded_view : (view scene s).Guarded (Allows scene s) := by
  unfold view
  split
  · simp [Allows, requisites]
  · simp [Allows, requisites]
  · cases metric? scene <;> cases s.notice <;>
      simp [guarded_metricCard, guarded_basicCard, guarded_versionsCard, guarded_bindingsCard]

end View

end Page.MetricDetail

namespace Page.Versions

/-- What the messages for writes need. -/
def requisites (scene : Scene) (s : State) : Msg → Option Requisites
  | .publish => some ⟨(metricId scene).isSome, none⟩
  | .saveEdit => some ⟨(metricId scene).isSome && s.editing.isSome, fault? s.form.toUpdate⟩
  | .confirmDelete => some ⟨(metricId scene).isSome && s.doomed.isSome, none⟩
  | _ => none

/-- A message starts a write exactly if it is for one and nothing is missing. -/
theorem attempts_update (scene : Scene) (s : State) (m : Msg) :
    Attempts State.busy ((requisites scene s m).any Requisites.met) s (update scene s m) := by
  cases m with
  | publish =>
    simp only [update, requisites]
    cases metricId scene with
    | some id => exact .start rfl
    | none => exact .refrain rfl
  | saveEdit =>
    simp only [update, requisites]
    cases metricId scene with
    | none => exact .refrain rfl
    | some id =>
      cases s.editing with
      | none => exact .refrain rfl
      | some versionId =>
        cases s.form.toUpdate with
        | ok body => exact .start rfl
        | error f => exact .refrain rfl
  | confirmDelete =>
    simp only [update, requisites]
    cases metricId scene with
    | none => exact .refrain rfl
    | some id =>
      cases s.doomed with
      | some v => exact .start rfl
      | none => exact .refrain rfl
  | _ => exact .refrain rfl

/-- While the page is busy, only messages that are not for a write are allowed. -/
def Allows (scene : Scene) (s : State) (m : Msg) : Prop :=
  (requisites scene s m).isSome = true → s.busy = false

/-- While the page is busy its controls send nothing that is for a write. -/
theorem guarded_view (scene : Scene) (s : State) : (view scene s).Guarded (Allows scene s) := by
  have rows (v : MetricVersion) : (versionRow v).Guarded (Allows scene s) := by
    simp [versionRow, Allows, requisites]
  simp +contextual [view, fields, confirmDialog, guarded_table rows, Allows, requisites]

end Page.Versions

/-! ## The two pages -/

namespace Page

/-- Whether the page is busy, if it is one of the two. -/
def busy? : Page → Option Bool
  | .metricDetail s => some s.busy
  | .versions s => some s.busy
  | _ => none

/-- What the messages for writes of the two pages need. -/
def requisites (scene : Scene) : Page → Msg → Option Requisites
  | .metricDetail s, .metricDetail m => MetricDetail.requisites scene s m
  | .versions s, .versions m => Versions.requisites scene s m
  | _, _ => none

/-- The page is one of the two, and busy. -/
def isBusy (p : Page) : Bool := p.busy?.getD false

/-- A message starts a write exactly if it is for one and nothing is missing. -/
theorem attempts_update (scene : Scene) {p : Page} (one : p.busy?.isSome = true) (m : Msg) :
    Attempts isBusy ((p.requisites scene m).any Requisites.met) p (p.update scene m) := by
  cases p with
  | metricDetail s =>
    cases m with
    | metricDetail m =>
      exact (MetricDetail.attempts_update scene s m).map Page.metricDetail Job.metricDetail
        fun _ => rfl
    | _ => exact .refrain rfl
  | versions s =>
    cases m with
    | versions m =>
      exact (Versions.attempts_update scene s m).map Page.versions Job.versions fun _ => rfl
    | _ => exact .refrain rfl
  | _ => cases one

/-- While one of the two pages is busy its controls send nothing that is for a write. -/
theorem guarded_view (scene : Scene) (p : Page) :
    (p.view scene).Guarded fun m => (p.requisites scene m).isSome = true → p.isBusy = false := by
  cases p with
  | metricDetail s => exact Tokens.guarded_map.mpr (MetricDetail.guarded_view scene s)
  | versions s => exact Tokens.guarded_map.mpr (Versions.guarded_view scene s)
  | _ => exact .of_forall fun _ _ => rfl

end Page

end MetricConsole
