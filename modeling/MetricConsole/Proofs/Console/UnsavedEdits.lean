import MetricConsole.Proofs.Client.WriteEffect
import MetricConsole.Proofs.Console.Hooks
import MetricConsole.Proofs.Console.Traffic

/-!
# What was typed into the basic fields

The detail of a metric fills its basic fields from the metric whenever what is seen of it has
changed.  Seen are its value, whether it is being loaded, and the error of the last load; so the
fields are filled again when a load starts and when it ends, whatever value it brings, and what was
typed and not saved is lost.

* `Page.MetricDetail.basic_sync`: what following a scene does to the basic fields.
* `Console.Run.seen_eq`: between two events the page has followed the metric that is there.
* `Console.Run.basic_step`: the basic fields after an event.
* `Console.Run.reload_of_write`: a confirmed write has the metric loaded again.
* `Console.Run.basic_kept_iff`: when what was typed is kept.
* `Console.Run.edits_lost`: a load that has the metric as it was takes what was typed.
-/

namespace MetricConsole

open Page

/-! ## The basic fields in a step -/

namespace Page.MetricDetail

/-- The basic fields after a message: only typing into them changes them. -/
def State.typed (s : State) : Option Page.Msg → MetricForm
  | some (.metricDetail (.editBasic f)) => f
  | _ => s.basic

theorem basic_submit {α : Type} [Codec α] (s : State) (mutation : Mutation)
    (body : Except FormFault α) (job : Job) :
    (submit s mutation body job).1.basic = s.basic ∧
      (submit s mutation body job).1.seen = s.seen := by
  cases body <;> exact ⟨rfl, rfl⟩

/-- Only typing changes the basic fields, and what is seen stays as it was. -/
theorem basic_update (scene : Scene) (s : State) (m : Msg) :
    (update scene s m).1.basic = s.typed (some (.metricDetail m)) ∧
      (update scene s m).1.seen = s.seen := by
  cases m with
  | publish | confirmRemove | toggleEditVersion =>
    simp only [update]
    split <;> exact ⟨rfl, rfl⟩
  | saveBasic | saveVersion | createVersion | saveNewBinding | saveBinding =>
    simp only [update]
    split
    · exact basic_submit _ _ _ _
    · exact ⟨rfl, rfl⟩
  | _ => exact ⟨rfl, rfl⟩

/-- The result of a write changes neither the basic fields nor what is seen. -/
theorem basic_finish (s : State) (job : Job) (result : Except ApiError Json) :
    (finish s job result).basic = s.basic ∧ (finish s job result).seen = s.seen := by
  cases result <;> cases job <;> exact ⟨rfl, rfl⟩

theorem basic_syncCards (scene : Scene) (s : State) :
    (syncCards scene s).basic = s.basic ∧ (syncCards scene s).seen = s.seen := by
  unfold syncCards
  split <;> exact ⟨rfl, rfl⟩

/-- A page that follows a scene sees the metric as it is there. -/
theorem seen_sync (scene : Scene) (s : State) :
    (sync scene s).seen = some (scene.see (metricKey scene)) := by
  refine (basic_syncCards scene _).2.trans ?_
  simp only [syncBasic]
  split
  · assumption
  · split <;> rfl

/-- The basic fields are filled again if what is seen of the metric is not what was seen of it. -/
theorem basic_sync (scene : Scene) (s : State) :
    (sync scene s).basic =
      if s.seen = some (scene.see (metricKey scene)) then s.basic
      else ((metric? scene).map MetricForm.ofMetric).getD s.basic := by
  refine (basic_syncCards scene _).1.trans ?_
  simp only [syncBasic]
  split
  · rfl
  · cases metric? scene <;> rfl

end Page.MetricDetail

namespace Console

/-! ## The basic fields in a run -/

/-- The detail of a metric that was carried through has followed the scene that is there. -/
theorem refresh_metricDetail {c : Console} {navigated : Bool} {s : MetricDetail.State}
    (page : (c.refresh navigated).page = .metricDetail s) :
    ∃ s₀, c.enter.page = .metricDetail s₀ ∧
      s = MetricDetail.sync (c.refresh navigated).scene s₀ := by
  cases moved : (c.enter.page.sync navigated c.enter.swapHooks.scene).2 with
  | none =>
    rw [(refresh_of_none moved).1] at page
    cases entered : c.enter.page <;> rw [entered] at page <;> cases page
    exact ⟨_, rfl, rfl⟩
  | some action =>
    rw [(refresh_of_some moved).1] at page
    cases entered : c.enter.page <;> rw [entered] at page moved <;> cases page
    cases moved

/-- A page that is in place, looks at what its hooks hold and makes no change of its own, leaves the
scene as it is. -/
theorem InPlace.scene_refresh {c : Console} (inPlace : c.InPlace) (holds : c.Holds)
    {navigated : Bool} (still : (c.page.sync navigated c.scene).2 = none) :
    (c.refresh navigated).scene = c.scene := by
  have same : c.enter.swapHooks = c := by rw [inPlace.enter, holds.swapHooks_eq]
  have kept : (c.enter.page.sync navigated c.enter.swapHooks.scene).2 = none := by
    rw [same, inPlace.enter]
    exact still
  rw [(refresh_of_none kept).2.2, same]

/-- What is seen of the selected metric. -/
def metricSeen (c : Console) : Snapshot := c.scene.see (MetricDetail.metricKey c.scene)

namespace Run

variable {log : List (Console × Event)} {c : Console}

/-- Between two events the detail of a metric has seen the metric as it is. -/
theorem seen_eq (run : Run log c) {s : MetricDetail.State} (page : c.page = .metricDetail s) :
    s.seen = some c.metricSeen := by
  have followed {c : Console} {navigated : Bool} {s : MetricDetail.State}
      (page : (c.refresh navigated).page = .metricDetail s) :
      s.seen = some (c.refresh navigated).metricSeen := by
    obtain ⟨s₀, -, rfl⟩ := refresh_metricDetail page
    exact MetricDetail.seen_sync _ s₀
  induction run generalizing s with
  | start search routes => exact followed page
  | @step _ c _ e ih =>
    obtain ⟨navigated, c', -, ⟨-, idle⟩ | refreshed⟩ := c.step_acted e
    · rw [idle] at page ⊢
      exact ih page
    · rw [refreshed] at page ⊢
      exact followed page

/-- What the page is told leaves the basic fields alone, except that typing changes them. -/
theorem told_metricDetail {c : Console} {e : Event} {s s₁ : MetricDetail.State}
    (page : c.page = .metricDetail s) (told : c.told e = .metricDetail s₁) :
    s₁.basic = s.typed (c.message? e) ∧ s₁.seen = s.seen := by
  obtain ⟨m, message, taken⟩ | ⟨silent, same | ⟨result, job, taken⟩⟩ := c.told_page e
  · rw [taken, page] at told
    rw [message]
    cases m with
    | metricDetail m =>
      cases told
      exact MetricDetail.basic_update c.scene s m
    | _ => cases told; exact ⟨rfl, rfl⟩
  · rw [same, page] at told
    cases told
    rw [silent]
    exact ⟨rfl, rfl⟩
  · rw [taken, page] at told
    rw [silent]
    cases job with
    | metricDetail job =>
      cases told
      exact MetricDetail.basic_finish s job result
    | _ => cases told; exact ⟨rfl, rfl⟩

/-- The basic fields after an event, as long as the showing of the page lasts: what was typed, or
what the metric has if anything that is seen of it has changed. -/
theorem basic_step (run : Run log c) (e : Event) {s s' : MetricDetail.State}
    (page : c.page = .metricDetail s) (page' : (c.step e).page = .metricDetail s')
    (same : (c.step e).showing = c.showing) :
    s'.basic =
      if c.metricSeen = (c.step e).metricSeen then s.typed (c.message? e)
      else
        ((MetricDetail.metric? (c.step e).scene).map MetricForm.ofMetric).getD
          (s.typed (c.message? e)) := by
  have seen := run.seen_eq page
  obtain ⟨navigated, c', acted, ⟨rfl, idle⟩ | refreshed⟩ := c.step_acted e
  · rw [idle, page] at page'
    cases page'
    rw [idle, if_pos rfl]
    exact (told_metricDetail page (acted.page ▸ page)).1
  · rw [refreshed] at page' same ⊢
    obtain ⟨s₁, entered, rfl⟩ := refresh_metricDetail page'
    -- the page stays, so what it follows the scene with is what it was told
    have stays : c'.enter = c' := enter_of_showing (same.trans acted.showing.symm)
    rw [stays, acted.page] at entered
    obtain ⟨typed, still⟩ := told_metricDetail page entered
    rw [MetricDetail.basic_sync, typed, still, seen]
    change (if some c.metricSeen = some (c'.refresh navigated).metricSeen then _ else _) = _
    by_cases unchanged : c.metricSeen = (c'.refresh navigated).metricSeen
    · rw [if_pos unchanged, if_pos (congrArg some unchanged)]
    · rw [if_neg unchanged, if_neg fun same => unchanged (Option.some.inj same)]

/-- A write that is confirmed expires what it invalidates, and reads again what the page looks at of
it; then the page takes the result. -/
theorem refetched_of_write (run : Run log c) {before after : List (Exchange Errand)}
    {x : Exchange Errand} (pending : c.client.pending = before ++ x :: after) {mutation : Mutation}
    {shape : Shape} {errand : Errand} (purpose : x.purpose = .write mutation shape errand)
    {outcome : Outcome} {v : Json} (confirms : outcome.Confirms v) :
    ∃ c' : Console, c.step (.answer before.length outcome) = c'.refresh false ∧ c'.nav = c.nav ∧
      (c'.page = c.page ∨ ∃ result job, c'.page = c.page.finish result job) ∧
      Client.Refetched mutation.invalidates { c.client with pending := before ++ after }
        c'.client := by
  obtain ⟨c', refreshed, nav, -, -, client, taken⟩ := c.arrive_eq x (before ++ after) outcome
  refine ⟨c', (step_answer pending outcome).trans refreshed, nav, taken, ?_⟩
  let remaining : Client Nat Errand := { c.client with pending := before ++ after }
  have tracked : remaining.Tracked :=
    run.reachable.tracked.without_write pending (by simp [Exchange.ticket?, purpose])
  have keyed : remaining.cache.Keyed := run.reachable.keyed
  rw [client]
  simp only [Client.receive, purpose, confirms.result]
  exact Client.invalidate_refetched keyed tracked mutation.invalidations

/-- A write on which the metric depends is confirmed.  Then the metric is loaded again, and until
that load ends its value stays as it was. -/
theorem reload_of_write (run : Run log c) {before after : List (Exchange Errand)}
    {x : Exchange Errand} (pending : c.client.pending = before ++ x :: after) {mutation : Mutation}
    {shape : Shape} {errand : Errand} (purpose : x.purpose = .write mutation shape errand)
    {outcome : Outcome} {v : Json} (confirms : outcome.Confirms v) {s : MetricDetail.State}
    (page : c.page = .metricDetail s) {id : Int64} (selected : c.nav.metricId = some id)
    (depends : mutation.invalidates (.metricDetail id) = true) :
    (c.step (.answer before.length outcome)).metricSeen.isFetching = true ∧
      (c.step (.answer before.length outcome)).metricSeen.data = c.metricSeen.data := by
  obtain ⟨c', refreshed, nav, taken, refetched⟩ := run.refetched_of_write pending purpose confirms
  have alike : c'.scene.Alike c.scene := ⟨nav, refetched.data_eq⟩
  obtain ⟨s₁, detail⟩ : ∃ s₁, c'.page = .metricDetail s₁ := by
    obtain same | ⟨result, job, finished⟩ := taken
    · exact ⟨s, same.trans page⟩
    · rw [finished, page]
      cases job <;> exact ⟨_, rfl⟩
  -- nothing is swapped, so the scene stays the one that the answer made
  have unswapped : (c'.refresh false).scene = c'.scene := by
    have holds : c'.Holds := fun i => by
      rw [refetched.hooks, detail, Page.keys_congr alike]
      exact (run.lookup_hooks i).trans (by rw [page]; rfl)
    have inPlace : c'.InPlace := by
      have placed := run.inPlace
      rw [InPlace, page] at placed
      rw [InPlace, detail, nav, ← placed]
      rfl
    exact inPlace.scene_refresh holds (by rw [detail]; rfl)
  have key : MetricDetail.metricKey c.scene = some (.metricDetail id) :=
    congrArg (Option.map _) selected
  have key' : MetricDetail.metricKey c'.scene = some (.metricDetail id) := by
    rw [← key]
    exact congrArg (fun nav => nav.metricId.map QueryKey.metricDetail) nav
  have held : c.client.held 0 = some (.metricDetail id) := by
    rw [Client.held_eq_some_iff, run.lookup_hooks, page]
    exact congrArg some key
  rw [refreshed, metricSeen, metricSeen, unswapped, key, key']
  exact ⟨refetched.isSome_inFlight depends (run.reachable.counted.observed held),
    refetched.data_eq (.metricDetail id)⟩

/-- **When what was typed into the basic fields is kept.**  As long as the showing of the page
lasts, an event keeps what was typed exactly if nothing that is seen of the metric changes or the
metric has what was typed.  A load that starts or ends fills the fields from the metric, whatever
value it brings.  So does the confirmation of a write on which the metric depends, unless a load is
under way already: it leaves the value of the metric as it was and starts a load. -/
theorem basic_kept_iff (run : Run log c) (e : Event) {s s' : MetricDetail.State}
    (page : c.page = .metricDetail s) (page' : (c.step e).page = .metricDetail s')
    (same : (c.step e).showing = c.showing) :
    (s'.basic = s.typed (c.message? e) ↔
      (c.step e).metricSeen = c.metricSeen ∨
        ∀ m, MetricDetail.metric? (c.step e).scene = some m →
          .ofMetric m = s.typed (c.message? e)) ∧
      (∀ m, MetricDetail.metric? (c.step e).scene = some m →
        (c.step e).metricSeen.isFetching ≠ c.metricSeen.isFetching → s'.basic = .ofMetric m) ∧
      ∀ before x after mutation shape errand outcome v id m,
        e = .answer before.length outcome → c.client.pending = before ++ x :: after →
        x.purpose = .write mutation shape errand → outcome.Confirms v →
        c.nav.metricId = some id → mutation.invalidates (.metricDetail id) = true →
        c.metricSeen.isFetching = false → MetricDetail.metric? c.scene = some m →
          (c.step e).metricSeen.data = c.metricSeen.data ∧
            (c.step e).metricSeen.isFetching = true ∧ s'.basic = .ofMetric m := by
  have filled := run.basic_step e page page' same
  have loaded (m : Metric) (there : MetricDetail.metric? (c.step e).scene = some m)
      (flipped : (c.step e).metricSeen.isFetching ≠ c.metricSeen.isFetching) :
      s'.basic = .ofMetric m := by
    rw [filled, if_neg fun unchanged => flipped (by rw [← unchanged]), there]
    rfl
  refine ⟨?_, loaded, ?_⟩
  · rw [filled]
    by_cases unchanged : c.metricSeen = (c.step e).metricSeen
    · simp [unchanged]
    · rw [if_neg unchanged]
      cases MetricDetail.metric? (c.step e).scene with
      | none => simp
      | some m => simp [Ne.symm unchanged]
  · rintro before x after mutation shape errand outcome v id m rfl pending purpose confirms selected
      depends idle there
    obtain ⟨fetching, value⟩ := run.reload_of_write pending purpose confirms page selected depends
    refine ⟨value, fetching, loaded m ?_ (by simp [fetching, idle])⟩
    exact (congrArg (·.bind (decode? (α := Metric))) value).trans there

/-- Metric 7 with the name `a`. -/
def metricSeven : String :=
  "[7,\"\",\"a\",\"t\",null,null,null,\"\",null,null,null,\"\",\"\"]"

/-- Metric 7 is shown and saved as it is.  While the answer is awaited, another name is typed. -/
def nameTyped : List (Console × Event) × Console :=
  (Console.start "?view=caliber" []).replay
    [.answer 0 (.answered 200 "[]"), .choose "Versions",
      .answer 0 (.answered 200 ("[" ++ metricSeven ++ "]")), .navigate (.openMetric 7),
      .answer 1 (.answered 200 metricSeven), .press "Save basic info" 0, .fill "Name *" "b" 0]

/-- The answer to that write. -/
def metricSaved : Outcome := .answered 200 metricSeven

/-- The name in the basic fields of the detail of a metric. -/
def basicName? : Page → Option String
  | .metricDetail s => some s.basic.name
  | _ => none

theorem basic_of_basicName? {p : Page} {name : String} (shown : basicName? p = some name) :
    ∃ s, p = .metricDetail s ∧ s.basic.name = name := by
  cases p with
  | metricDetail s => exact ⟨s, rfl, Option.some.inj shown⟩
  | _ => cases shown

/-- The write is under way, the metric is not, and its name is not what was typed.  After the answer
the metric is under way, its value is the one that it had, and the fields have its name. -/
theorem nameTyped_facts :
    basicName? nameTyped.2.page = some "b" ∧
      basicName? (nameTyped.2.step (.answer 1 metricSaved)).page = some "a" ∧
      (nameTyped.2.step (.answer 1 metricSaved)).showing = nameTyped.2.showing ∧
      (nameTyped.2.step (.answer 1 metricSaved)).metricSeen.isFetching = true ∧
      (nameTyped.2.step (.answer 1 metricSaved)).metricSeen.data = nameTyped.2.metricSeen.data ∧
      nameTyped.2.metricSeen.isFetching = false ∧
      nameTyped.2.client.pending[1]?.map Exchange.purpose =
        some (.write (.updateMetric 7) .metric ⟨nameTyped.2.showing, .metricDetail .saveBasic⟩) ∧
      nameTyped.2.nav.metricId = some 7 ∧
      (MetricDetail.metric? nameTyped.2.scene).map Metric.name = some "a" := by
  decide +kernel

theorem nameTyped_run : Run nameTyped.1 nameTyped.2 := Run.replay "?view=caliber" [] _

theorem metricSaved_confirms : ∃ v, metricSaved.Confirms v := by
  have parsed : ∃ v, Json.parse metricSeven = .ok v := by
    cases parsed : Json.parse metricSeven with
    | ok v => exact ⟨v, rfl⟩
    | error e =>
      have ok : (Json.parse metricSeven).isOk = true := by decide +kernel
      rw [parsed] at ok
      cases ok
  obtain ⟨v, parsed⟩ := parsed
  exact ⟨v, .value (by decide) (by decide) (by decide +kernel) parsed⟩

/-- The metric is loaded again after the answer, its value is still the one that it had, and the
name that was typed is gone. -/
theorem basic_kept_iff_saved :
    ∃ s s', nameTyped.2.page = .metricDetail s ∧
      (nameTyped.2.step (.answer 1 metricSaved)).page = .metricDetail s' ∧
      s.basic.name = "b" ∧ s'.basic.name = "a" ∧
      (nameTyped.2.step (.answer 1 metricSaved)).metricSeen.data = nameTyped.2.metricSeen.data ∧
      (nameTyped.2.step (.answer 1 metricSaved)).metricSeen ≠ nameTyped.2.metricSeen := by
  obtain ⟨typed, gone, same, -, -, idle, sending, selected, there⟩ := nameTyped_facts
  obtain ⟨v, confirms⟩ := metricSaved_confirms
  have run := nameTyped_run
  generalize nameTyped = typing at *
  obtain ⟨s, page, name⟩ := basic_of_basicName? typed
  obtain ⟨s', page', name'⟩ := basic_of_basicName? gone
  obtain ⟨x, found, purpose⟩ := Option.map_eq_some_iff.mp sending
  obtain ⟨m, metric, -⟩ := Option.map_eq_some_iff.mp there
  obtain ⟨inside, rfl⟩ := List.getElem?_eq_some_iff.mp found
  obtain ⟨kept, -, written⟩ := run.basic_kept_iff (.answer 1 metricSaved) page page' same
  have pending : typing.2.client.pending = typing.2.client.pending.take 1 ++
      typing.2.client.pending[1] :: typing.2.client.pending.drop 2 := by
    rw [List.getElem_cons_drop, List.take_append_drop]
  have one : (typing.2.client.pending.take 1).length = 1 :=
    List.length_take_of_le (Nat.le_of_lt inside)
  obtain ⟨value, -, -⟩ := written _ _ _ _ _ _ _ v 7 m (by rw [one]) pending purpose confirms
    selected (by decide) idle metric
  refine ⟨s, s', page, page', name, name', value, fun unchanged => ?_⟩
  have still := kept.mpr (.inl unchanged)
  have renamed : s'.basic.name = s.basic.name := congrArg MetricForm.name still
  rw [name, name'] at renamed
  exact absurd renamed (by decide)

/-- Not every load that starts or ends, and has the metric as it was, keeps what was typed. -/
theorem edits_lost :
    ¬ ∀ (log : List (Console × Event)) (c : Console) (e : Event) (s s' : MetricDetail.State),
      Run log c → c.page = .metricDetail s → (c.step e).page = .metricDetail s' →
      (c.step e).showing = c.showing → c.message? e = none →
      (c.step e).metricSeen.isFetching ≠ c.metricSeen.isFetching →
      (c.step e).metricSeen.data = c.metricSeen.data → s'.basic = s.basic := by
  intro kept
  obtain ⟨typed, gone, same, fetching, value, idle, -⟩ := nameTyped_facts
  have run := nameTyped_run
  generalize nameTyped = typing at *
  obtain ⟨s, page, name⟩ := basic_of_basicName? typed
  obtain ⟨s', page', name'⟩ := basic_of_basicName? gone
  have still := kept _ _ _ s s' run page page' same rfl (by simp [fetching, idle]) value
  have renamed := congrArg MetricForm.name still
  rw [name, name'] at renamed
  exact absurd renamed (by decide)

end Run

end Console

end MetricConsole
