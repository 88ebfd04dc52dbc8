import MetricConsole.Proofs.Console.Hooks
import MetricConsole.Proofs.Console.Traffic
import MetricConsole.Proofs.Page.Membership

/-!
# The picker of a metric

The picker on the page of versions shows the metric whose versions are shown, and selects a metric
when another one is picked.  Each of the two follows the other: a selection sets the picker, and a
picker that was set is read again.  What the picker is set to is never another metric than the one
that is shown, so they come to rest, and only a pick writes the selection.

* `Page.Versions.syncPicker_cases`: when the picker is set and when it stays.
* `Console.Run.shows`: between two events the picker shows the metric that is shown.
* `Console.Run.picker_settles`: when the two are at rest, and what is written until then.
-/

namespace MetricConsole

open Page

namespace Page.Versions

/-- The metric that is shown depends on the list and on the selected metric. -/
theorem metricId_congr {scene scene' : Scene} (nav : scene'.nav.metricId = scene.nav.metricId)
    (list : scene'.see (some listKey) = scene.see (some listKey)) :
    metricId scene' = metricId scene := by
  simp only [metricId, metrics, Scene.list, Scene.value?, nav, list]

/-- A selected metric is shown. -/
theorem metricId_of_selected {scene : Scene} {id : Int64}
    (selected : scene.nav.metricId = some id) : metricId scene = some id := by
  simp [metricId, shownMetric, selected]

/-- Every entry that is offered stands for a metric. -/
def State.OffersIds (s : State) : Prop :=
  ∀ t ∈ s.offers, t.All fun o => ∃ id : Int64, o.choice.1 = idText id

theorem State.OffersIds.of_eq {s s' : State} (ids : s.OffersIds) (same : s'.offers = s.offers) :
    s'.OffersIds := fun t mem => ids t (same ▸ mem)

theorem offersIds_sync (navigated : Bool) (scene : Scene) {s : State} (ids : s.OffersIds) :
    (sync navigated scene s).1.OffersIds := by
  refine Offer.all_follow (P := fun value => ∃ id : Int64, value = idText id) ids _ true
    fun c mem => ?_
  obtain ⟨m, -, rfl⟩ := List.mem_map.mp mem
  exact ⟨m.id, rfl⟩

/-- The picker is set to the metric that is shown, or nothing has changed and it stays. -/
theorem syncPicker_cases (navigated : Bool) (scene : Scene) (s : State) :
    syncPicker navigated scene s = pickerText (metricId scene) ∨
      navigated = false ∧ s.seen = some (scene.see (some listKey)) ∧
        syncPicker navigated scene s = s.picker := by
  unfold syncPicker
  split
  · exact .inl rfl
  · next quiet =>
    obtain ⟨quiet, known⟩ := not_or.mp quiet
    exact .inr ⟨by simpa using quiet, not_not.mp known, rfl⟩

/-- The picker after a message: only picking changes it. -/
def State.chosen (s : State) : Option Page.Msg → String
  | some (.versions (.pick v)) => v
  | _ => s.picker

/-- A message other than a pick leaves the picker, and every message the offers and what was seen of
the list. -/
theorem picker_update (scene : Scene) (s : State) (m : Msg) :
    (update scene s m).1.picker = s.chosen (some (.versions m)) ∧
      (update scene s m).1.offers = s.offers ∧ (update scene s m).1.seen = s.seen := by
  cases m with
  | publish | confirmDelete =>
    simp only [update]
    split <;> exact ⟨rfl, rfl, rfl⟩
  | saveEdit =>
    simp only [update]
    split
    · split <;> exact ⟨rfl, rfl, rfl⟩
    · exact ⟨rfl, rfl, rfl⟩
  | _ => exact ⟨rfl, rfl, rfl⟩

/-- The result of a write leaves the picker, the offers and what was seen of the list. -/
theorem picker_finish (s : State) (job : Job) (result : Except ApiError Json) :
    (finish s job result).picker = s.picker ∧ (finish s job result).offers = s.offers ∧
      (finish s job result).seen = s.seen := by
  cases job <;> exact ⟨rfl, rfl, rfl⟩

end Page.Versions

/-- The page of versions commands no change of the navigation. -/
theorem Page.moves_versions (scene : Scene) (s : Versions.State) (m : Msg) :
    (Page.versions s).moves scene m = [] := by
  cases m with
  | versions m => exact (filterMap_action?_map _ _).trans (Versions.moves_eq_nil scene s m)
  | _ => rfl

namespace Console

open Page.Versions

/-! ## The picker while an event is carried through -/

/-- The picker is set to the metric that is shown, or stays as it was and asks for nothing. -/
theorem refresh_versions {c : Console} {navigated : Bool} {s : Versions.State}
    (page : (c.refresh navigated).page = .versions s) :
    s.seen = some ((c.refresh navigated).scene.see (some listKey)) ∧
      (s.picker = pickerText (metricId (c.refresh navigated).scene) ∨
        ∃ s₀, c.enter.page = .versions s₀ ∧ navigated = false ∧
          s₀.seen = some ((c.refresh navigated).scene.see (some listKey)) ∧
          s.picker = s₀.picker ∧ picked? (c.refresh navigated).scene s₀.picker = none ∧
          (c.refresh navigated).nav = c.nav) := by
  cases moved : (c.enter.page.sync navigated c.enter.swapHooks.scene).2 with
  | none =>
    obtain ⟨after, nav, scene⟩ := refresh_of_none moved
    rw [after] at page
    rw [← scene] at moved
    cases entered : c.enter.page <;> rw [entered] at page moved <;> cases page
    next s₀ =>
    refine ⟨rfl, ?_⟩
    obtain set | ⟨quiet, known, stays⟩ := syncPicker_cases navigated (c.refresh navigated).scene s₀
    · exact .inl set
    · have unasked := Option.map_eq_none_iff.mp moved
      rw [stays] at unasked
      exact .inr ⟨s₀, rfl, quiet, known, stays, unasked, nav⟩
  | some action =>
    rw [(refresh_of_some moved).1] at page
    cases entered : c.enter.page <;> rw [entered] at page <;> cases page
    exact ⟨rfl, .inl rfl⟩

/-- The navigation is written only if nothing has changed and the picker asks for another metric. -/
theorem nav_refresh (navigated : Bool) (c : Console) :
    (c.refresh navigated).nav = c.nav ∨
      ∃ s₀ id, c.enter.page = .versions s₀ ∧ navigated = false ∧
        s₀.seen = some (c.enter.swapHooks.scene.see (some listKey)) ∧
        picked? c.enter.swapHooks.scene s₀.picker = some id ∧
        (c.refresh navigated).nav = c.nav.apply (.selectMetric (some id)) := by
  cases moved : (c.enter.page.sync navigated c.enter.swapHooks.scene).2 with
  | none => exact .inl (refresh_of_none moved).2.1
  | some action =>
    refine .inr ?_
    cases entered : c.enter.page with
    | versions s₀ =>
      have asked := moved
      rw [entered] at asked
      obtain ⟨id, other, rfl⟩ := Option.map_eq_some_iff.mp asked
      obtain set | ⟨quiet, known, stays⟩ :=
        syncPicker_cases navigated c.enter.swapHooks.scene s₀
      · rw [set, picked?_pickerText] at other
        cases other
      · rw [stays] at other
        exact ⟨s₀, id, rfl, quiet, known, other, (refresh_of_some moved).2⟩
    | _ => rw [entered] at moved; cases moved

/-- Nothing is written by opening the console. -/
theorem nav_start (search : String) (routes : Routes) :
    (start search routes).nav = Navigation.initial.apply (.readLocation search) := by
  unfold start
  obtain kept | ⟨_, _, _, quiet, _⟩ := nav_refresh true (mountHooks _)
  · exact kept
  · cases quiet

/-! ## The picker in a run -/

/-- A pick, if the event is one, is of an entry that is offered. -/
def PicksOffered (c : Console) (e : Event) : Prop :=
  ∀ s v, c.page = .versions s → c.message? e = some (.versions (.pick v)) →
    ∃ o ∈ Offer.shown s.offers, o.choice.1 = v

/-- What the picker of the page stands for after an event: the metric that is shown, or one that is
picked. -/
def Stands (c : Console) (e : Event) (id? : Option Int64) : Prop :=
  id? = metricId c.scene ∨
    ∃ id, id? = some id ∧ c.message? e = some (.versions (.pick (idText id)))

/-- The picker shows the metric that is shown, and has seen the list as it is. -/
def Shows (c : Console) : Prop :=
  ∀ s, c.page = .versions s →
    s.seen = some (c.scene.see (some listKey)) ∧ s.picker = pickerText (metricId c.scene)

/-- What the page is told leaves the picker and what was seen of the list, except that a pick sets
the picker. -/
theorem told_versions {c : Console} {e : Event} {s₁ : Versions.State}
    (told : c.told e = .versions s₁) :
    ∃ s, c.page = .versions s ∧ s₁.picker = s.chosen (c.message? e) ∧ s₁.seen = s.seen := by
  obtain ⟨m, message, taken⟩ | ⟨silent, same | ⟨result, job, taken⟩⟩ := c.told_page e
  · rw [taken] at told
    rw [message]
    cases page : c.page with
    | versions s =>
      rw [page] at told
      cases m with
      | versions m =>
        cases told
        obtain ⟨picker, -, seen⟩ := picker_update c.scene s m
        exact ⟨s, rfl, picker, seen⟩
      | _ => cases told; exact ⟨_, rfl, rfl, rfl⟩
    | _ => rw [page] at told; cases m <;> cases told
  · rw [silent]
    exact ⟨s₁, same.symm.trans told, rfl, rfl⟩
  · rw [taken] at told
    rw [silent]
    cases page : c.page with
    | versions s =>
      rw [page] at told
      cases job with
      | versions job =>
        cases told
        obtain ⟨picker, -, seen⟩ := picker_finish s job result
        exact ⟨s, rfl, picker, seen⟩
      | _ => cases told; exact ⟨_, rfl, rfl, rfl⟩
    | _ => rw [page] at told; cases job <;> cases told

/-- A page that has seen the list as it is when it follows an event is the one that was there.  Then
the metric that is shown is the one that was shown, and the picker asks for another one only if it
is picked. -/
theorem picker_of_known {c c' : Console} {e : Event} (shows : c.Shows) (acted : Acted c e false c')
    (stands : ∀ s, c.page = .versions s →
      ∃ id?, s.chosen (c.message? e) = pickerText id? ∧ c.Stands e id?)
    {s₀ : Versions.State} (entered : c'.enter.page = .versions s₀) {scene : Scene}
    (nav : scene.nav = c'.nav) (known : s₀.seen = some (scene.see (some listKey))) :
    (picked? scene s₀.picker = none → s₀.picker = pickerText (metricId scene)) ∧
      ∀ id, picked? scene s₀.picker = some id →
        c.message? e = some (.versions (.pick (idText id))) ∧ some id ≠ metricId c.scene := by
  obtain ⟨stays | ⟨-, v, fresh⟩, -⟩ := c'.enter_cases
  · rw [stays, acted.page] at entered
    obtain ⟨s, page, picker, seen⟩ := told_versions entered
    have shown : metricId scene = metricId c.scene := by
      refine metricId_congr ?_ (Option.some.inj (known.symm.trans (seen.trans (shows s page).1)))
      rw [nav]
      exact acted.still rfl
    obtain ⟨id?, text, stands⟩ := stands s page
    rw [picker, text, picked?_pickerText_eq, shown]
    obtain rfl | ⟨id, rfl, message⟩ := stands
    · simp
    · by_cases same : some id = metricId c.scene
      · simp [same]
      · rw [if_neg same]
        refine ⟨nofun, fun id' picked => ?_⟩
        obtain rfl := Option.some.inj picked
        exact ⟨message, same⟩
  · rw [fresh] at entered
    cases v <;> cases entered
    cases known

namespace Run

variable {log : List (Console × Event)} {c : Console}

/-- Every entry that the picker offers stands for a metric. -/
theorem offersIds (run : Run log c) {s : Versions.State} (page : c.page = .versions s) :
    s.OffersIds := by
  refine run.page_keeps (I := fun p => ∀ s, p = .versions s → s.OffersIds) ?_ ?_ ?_ ?_ s page
  · rintro v s fresh
    cases v <;> cases fresh
    exact nofun
  · rintro navigated scene p ids s after
    cases p <;> cases after
    exact offersIds_sync navigated scene (ids _ rfl)
  · rintro scene p m ids s after
    cases p <;> cases m <;> cases after
    case versions.versions.refl s m =>
      exact (ids s rfl).of_eq (picker_update scene s m).2.1
    all_goals exact ids _ rfl
  · rintro result p job ids s after
    cases p <;> cases job <;> cases after
    case versions.versions.refl s job =>
      exact (ids s rfl).of_eq (picker_finish s job result).2.1
    all_goals exact ids _ rfl

/-- What is offered is the text of a metric, so a picker that is set by a pick shows one. -/
theorem stands (run : Run log c) (shows : c.Shows) {e : Event} (offered : c.PicksOffered e)
    (s : Versions.State) (page : c.page = .versions s) :
    ∃ id?, s.chosen (c.message? e) = pickerText id? ∧ c.Stands e id? := by
  unfold State.chosen
  split
  · next v message =>
    obtain ⟨o, shown, rfl⟩ := offered s v page message
    obtain ⟨t, there, mem⟩ : ∃ t ∈ s.offers, o ∈ t.items := by
      cases offers : s.offers with
      | none => rw [offers] at shown; cases shown
      | some t => rw [offers] at shown; exact ⟨t, rfl, shown⟩
    obtain ⟨id, text⟩ := (run.offersIds page t there).of_mem_items mem
    exact ⟨some id, text, .inr ⟨id, rfl, text ▸ message⟩⟩
  · exact ⟨_, (shows s page).2, .inl rfl⟩

/-- **The picker shows the metric that is shown.**  It does so between two events of every run in
which only what is offered is picked. -/
theorem shows (run : Run log c) (offered : ∀ p ∈ log, p.1.PicksOffered p.2) : c.Shows := by
  induction run with
  | start search routes =>
    intro s page
    obtain ⟨seen, set | ⟨s₀, -, quiet, -⟩⟩ := refresh_versions page
    · exact ⟨seen, set⟩
    · cases quiet
  | @step log c run e ih =>
    have before := ih fun p mem => offered p (List.mem_append_left _ mem)
    have pick := offered (c, e) (List.mem_append_right _ (List.mem_singleton_self _))
    obtain ⟨navigated, c', acted, ⟨-, idle⟩ | refreshed⟩ := c.step_acted e
    · rwa [idle]
    · rw [refreshed]
      intro s page
      obtain ⟨seen, set | ⟨s₀, entered, rfl, known, stays, unasked, nav⟩⟩ := refresh_versions page
      · exact ⟨seen, set⟩
      · obtain ⟨same, -⟩ := picker_of_known before acted (run.stands before pick) entered nav known
        exact ⟨seen, stays.trans (same unasked)⟩

/-- A pick of another metric selects it. -/
theorem nav_of_pick (run : Run log c) (shows : c.Shows) {e : Event} {s : Versions.State}
    {id : Int64} (page : c.page = .versions s)
    (message : c.message? e = some (.versions (.pick (idText id))))
    (other : some id ≠ metricId c.scene) :
    (c.step e).nav = c.nav.apply (.selectMetric (some id)) := by
  let set : Console := { c with page := .versions { s with picker := idText id } }
  have stepped : c.step e = set.refresh false := by
    rw [step_of_message? message, send, page]
    rfl
  have same : set.enter = set ∧ set.enter.swapHooks = set := by
    have inPlace : set.InPlace := by
      have placed := run.inPlace
      rw [InPlace, page] at placed
      exact placed
    have holds : set.Holds := fun i => by
      have held := run.lookup_hooks i
      rw [page] at held
      exact held
    exact ⟨inPlace.enter, by rw [inPlace.enter, holds.swapHooks_eq]⟩
  have text : syncPicker false c.scene { s with picker := idText id } = pickerText (some id) :=
    if_neg (by simp [(shows s page).1])
  have asked : picked? c.scene (pickerText (some id)) = some id := by
    rw [picked?_pickerText_eq, if_neg other]
  have moved : (set.enter.page.sync false set.enter.swapHooks.scene).2 =
      some (.selectMetric (some id)) := by
    rw [same.2, same.1]
    change (picked? c.scene (syncPicker false c.scene _)).map _ = _
    rw [text, asked]
    rfl
  rw [stepped, (refresh_of_some moved).2]

/-- Nothing but a pick of another metric writes the navigation on its own. -/
theorem nav_of_no_pick (run : Run log c) (shows : c.Shows) {e : Event} (offered : c.PicksOffered e)
    (unpicked : ∀ id, c.message? e = some (.versions (.pick (idText id))) →
      some id = metricId c.scene) : (c.step e).nav = c.nav.run (c.asked e) := by
  obtain ⟨navigated, c', acted, ⟨rfl, idle⟩ | refreshed⟩ := c.step_acted e
  · rw [idle]
    exact acted.nav
  · rw [refreshed, ← acted.nav]
    obtain kept | ⟨s₀, id, entered, rfl, known, asked, -⟩ := nav_refresh navigated c'
    · exact kept
    · obtain ⟨-, picks⟩ := picker_of_known shows acted (run.stands shows offered) entered
        c'.nav_enter known
      obtain ⟨message, other⟩ := picks id asked
      exact absurd (unpicked id message) other

/-- A page whose picker shows the metric that is shown is at rest: following once more changes
neither the picker nor the navigation. -/
theorem follow_at_rest (run : Run log c) (shows : c.Shows) {s : Versions.State}
    (page : c.page = .versions s) (navigated : Bool) :
    (c.follow navigated).1 = false ∧ (c.follow navigated).2.nav = c.nav ∧
      ∃ s', (c.follow navigated).2.page = .versions s' ∧ s'.picker = s.picker := by
  have same : c.swapHooks = c := Holds.swapHooks_eq run.lookup_hooks
  have text : syncPicker navigated c.scene s = s.picker := by
    obtain set | ⟨-, -, stays⟩ := syncPicker_cases navigated c.scene s
    · exact set.trans (shows s page).2.symm
    · exact stays
  have still : (c.page.sync navigated c.swapHooks.scene).2 = none := by
    rw [same, page]
    change (picked? c.scene (syncPicker navigated c.scene s)).map _ = _
    rw [text, (shows s page).2, picked?_pickerText]
    rfl
  rw [follow_of_none still, same, page]
  exact ⟨rfl, rfl, _, rfl, text⟩

/-- **The picker never writes by itself.**  In every run in which only what is offered is picked,
the picker of the page shows the metric that is shown between two events, and is at rest.  The
console opens with what its address selects.  A pick of another metric selects that metric and no
version, and shows it; every other event leaves the navigation with what the event itself asks of
it. -/
theorem picker_settles (run : Run log c) (offered : ∀ p ∈ log, p.1.PicksOffered p.2) :
    (∀ s, c.page = .versions s → s.picker = pickerText (metricId c.scene) ∧
        ∀ navigated, (c.follow navigated).1 = false ∧ (c.follow navigated).2.nav = c.nav ∧
          ∃ s', (c.follow navigated).2.page = .versions s' ∧ s'.picker = s.picker) ∧
      (log = [] → ∃ search, c.nav = Navigation.initial.apply (.readLocation search)) ∧
      ∀ e, c.PicksOffered e →
        (∀ s id, c.page = .versions s →
          c.message? e = some (.versions (.pick (idText id))) → some id ≠ metricId c.scene →
            (c.step e).nav = c.nav.apply (.selectMetric (some id)) ∧
              (c.step e).nav.metricId = some id ∧ (c.step e).nav.versionId = none ∧
              metricId (c.step e).scene = some id) ∧
          ((∀ id, c.message? e = some (.versions (.pick (idText id))) →
              some id = metricId c.scene) →
            (c.step e).nav = c.nav.run (c.asked e) ∧
              ((∃ position outcome, e = .answer position outcome) ∨
                  (∃ s m, c.page = .versions s ∧ c.message? e = some m) →
                (c.step e).nav = c.nav)) := by
  have shows := run.shows offered
  refine ⟨fun s page => ⟨(shows s page).2, run.follow_at_rest shows page⟩, fun opened => ?_,
    fun e pick => ⟨fun s id page message other => ?_, fun unpicked => ?_⟩⟩
  · cases run with
    | start search routes => exact ⟨search, nav_start search routes⟩
    | step => exact absurd opened (by simp)
  · have nav := run.nav_of_pick shows page message other
    have selected : (c.step e).nav.metricId = some id := by rw [nav]; rfl
    exact ⟨nav, selected, by rw [nav]; rfl, metricId_of_selected selected⟩
  · have nav := run.nav_of_no_pick shows pick unpicked
    refine ⟨nav, ?_⟩
    rintro (⟨position, outcome, rfl⟩ | ⟨s, m, page, message⟩)
    · exact nav
    · have unasked : c.asked e = [] := by
        simp only [asked, message, page, Page.moves_versions]
      rw [nav, unasked]
      rfl

/-- The metrics 7 and 8 are listed, and nothing is selected. -/
def metricsListed : List (Console × Event) × Console :=
  (Console.start "?view=version" []).replay
    [.answer 0 (.answered 200
      ("[[7,\"\",\"\",\"\",null,null,null,\"\",null,null,null,\"\",\"\"]," ++
        "[8,\"\",\"\",\"\",null,null,null,\"\",null,null,null,\"\",\"\"]]"))]

/-- The page shows 7 and offers both. -/
theorem metricsListed_facts :
    metricsListed.1.map (fun p => p.1.message? p.2) = [none] ∧
      (match metricsListed.2.page with
        | .versions s => (Offer.shown s.offers).map fun o => o.choice.1
        | _ => []) = [idText 7, idText 8] ∧
      metricsListed.2.message? (.fill "Metric" (idText 8) 0) =
        some (.versions (.pick (idText 8))) ∧
      metricId metricsListed.2.scene = some 7 := by
  decide +kernel

/-- The page shows 7 although 7 was never selected, and picking 8 selects 8. -/
theorem picker_settles_picked :
    ∃ s, metricsListed.2.page = .versions s ∧ s.picker = idText 7 ∧
      (metricsListed.2.step (.fill "Metric" (idText 8) 0)).nav =
        metricsListed.2.nav.apply (.selectMetric (some 8)) ∧
      (metricsListed.2.step (.fill "Metric" (idText 8) 0)).nav.metricId = some 8 := by
  obtain ⟨silent, entries, message, shown⟩ := metricsListed_facts
  have run : Run metricsListed.1 metricsListed.2 := Run.replay "?view=version" [] _
  generalize metricsListed = listed at *
  obtain ⟨s, page⟩ : ∃ s, listed.2.page = .versions s := by
    cases page : listed.2.page with
    | versions s => exact ⟨s, rfl⟩
    | _ => rw [page] at entries; cases entries
  replace entries : (Offer.shown s.offers).map (fun o => o.choice.1) = [idText 7, idText 8] := by
    rwa [page] at entries
  have offered : ∀ p ∈ listed.1, p.1.PicksOffered p.2 := by
    intro p mem s v _ picked
    have unpicked := List.mem_map_of_mem (f := fun p : Console × Event => p.1.message? p.2) mem
    rw [silent, List.mem_singleton] at unpicked
    rw [unpicked] at picked
    cases picked
  have pick : listed.2.PicksOffered (.fill "Metric" (idText 8) 0) := by
    intro s' v page' picked
    rw [page] at page'
    cases page'
    rw [message] at picked
    cases picked
    refine List.mem_map.mp ?_
    rw [entries]
    exact List.mem_cons_of_mem _ (List.mem_singleton_self _)
  obtain ⟨rest, -, writes⟩ := run.picker_settles offered
  obtain ⟨nav, selected, -, -⟩ := (writes _ pick).1 s 8 page message (by rw [shown]; decide)
  exact ⟨s, page, by rw [(rest s page).1, shown]; rfl, nav, selected⟩

end Run

end Console

end MetricConsole
