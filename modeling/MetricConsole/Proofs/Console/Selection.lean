import MetricConsole.Proofs.Console.Run
import MetricConsole.Proofs.Navigation.History

/-!
# Selections of the console

The navigation of the console changes by actions only, and of its pages only the detail of a metric
selects a version.  Without a metric that page shows one button, which goes back to the list.  So no
page selects a version unless a metric is selected.

* `Token.Sends`, `Console.sends_of_message?`: what is sent to a page stands on it.
* `Page.moves_cases`, `Page.MetricDetail.sends_of_none`: which page selects a version, and what it
  shows without a metric.
* `Console.Strays`: the navigation changes, but no version is selected.
* `Console.UnderMetric`: a version is only ever selected while a metric is; every event keeps this.
* `Navigation.selections_last_set`: navigation after any history, and what that means for a run.
-/

namespace MetricConsole

open Page

/-! ## What is sent to a page -/

namespace Token

variable {μ : Type}

/-- The control can send the message. -/
def Sends : Token μ → μ → Prop
  | .button _ _ _ _ sends, m => sends = some m
  | .field _ _ _ _ sends, m | .select _ _ _ sends, m => ∃ value, sends value = m
  | .tab _ _ _ sends, m => sends = m
  | _, _ => False

theorem sends_of_asButton? {label : String} {t : Token μ} {m : μ}
    (pressed : t.asButton? label = some (some m)) : t.Sends m := by
  cases t with
  | button look enabled l title sends =>
    simp only [asButton?] at pressed
    split at pressed
    · cases enabled with
      | true => exact Option.some.inj pressed
      | false => cases Option.some.inj pressed
    · cases pressed
  | _ => cases pressed

theorem sends_of_asField? {name value : String} {t : Token μ} {m : μ}
    (filled : t.asField? name value = some m) : t.Sends m := by
  cases t with
  | field | select =>
    simp only [asField?] at filled
    split at filled
    · exact ⟨value, Option.some.inj filled⟩
    · cases filled
  | _ => cases filled

theorem sends_of_asTab? {value : String} {t : Token μ} {m : μ} (opened : t.asTab? value = some m) :
    t.Sends m := by
  cases t with
  | tab =>
    simp only [asTab?] at opened
    split at opened
    · exact Option.some.inj opened
    · cases opened
  | _ => cases opened

end Token

namespace Tokens

variable {μ : Type} {ts : Tokens μ} {m : μ}

theorem sends_of_press? {label : String} {nth : Nat}
    (pressed : ts.press? label nth = some (some m)) : ∃ t ∈ ts, t.Sends m := by
  obtain ⟨t, mem, button⟩ := List.mem_filterMap.mp (List.mem_of_getElem? pressed)
  exact ⟨t, mem, Token.sends_of_asButton? button⟩

theorem sends_of_fill? {name value : String} {nth : Nat}
    (filled : ts.fill? name value nth = some m) : ∃ t ∈ ts, t.Sends m := by
  obtain ⟨t, mem, field⟩ := List.mem_filterMap.mp (List.mem_of_getElem? filled)
  exact ⟨t, mem, Token.sends_of_asField? field⟩

theorem sends_of_openTab? {value : String} (opened : ts.openTab? value = some m) :
    ∃ t ∈ ts, t.Sends m := by
  obtain ⟨t, mem, tab⟩ := List.mem_filterMap.mp (List.mem_of_head? opened)
  exact ⟨t, mem, Token.sends_of_asTab? tab⟩

end Tokens

/-- Whatever an event sends to the page, a control on the page can send. -/
theorem Console.sends_of_message? {c : Console} {e : Event} {m : Page.Msg}
    (message : c.message? e = some m) : ∃ t ∈ c.pageTokens, t.Sends m := by
  cases e with
  | press label nth =>
    simp only [message?] at message
    split at message
    · cases message
    · exact Tokens.sends_of_press? (Option.join_eq_some_iff.mp message)
  | fill name value nth => exact Tokens.sends_of_fill? message
  | openTab value => exact Tokens.sends_of_openTab? message
  | choose | navigate | answer => cases message

/-! ## Pages and versions -/

/-- What a command does to the navigation. -/
def Command.action? {κ : Type} : Command κ → Option NavAction
  | .navigate action => some action
  | .write _ _ _ => none

theorem Command.action?_map {κ κ' : Type} (f : κ → κ') (command : Command κ) :
    (command.map f).action? = command.action? := by
  cases command <;> rfl

namespace Page

/-- The changes of the navigation that a page wants. -/
def moves (scene : Scene) (p : Page) (m : Msg) : List NavAction :=
  (p.update scene m).2.filterMap Command.action?

/-- Without a metric the detail of a metric has one control, which goes back to the list. -/
theorem MetricDetail.sends_of_none {scene : Scene} (missing : scene.nav.metricId = none)
    {s : MetricDetail.State} {m : Page.Msg} {t : Token Page.Msg}
    (mem : t ∈ (Page.metricDetail s).view scene) (sends : t.Sends m) :
    m = .metricDetail .backToList := by
  have shown : (Page.metricDetail s).view scene =
      [.text "No metric selected. Pick one in the metric list.",
        .button .primary true "Go to metric list" none (some (.metricDetail .backToList))] := by
    simp only [Page.view, MetricDetail.view, missing]
    rfl
  rw [shown, List.mem_cons, List.mem_singleton] at mem
  obtain rfl | rfl := mem
  · exact sends.elim
  · exact (Option.some.inj sends).symm

/-- The job of a command has nothing to do with the navigation. -/
theorem filterMap_action?_map {κ κ' : Type} (f : κ → κ') (commands : List (Command κ)) :
    (commands.map (Command.map f)).filterMap Command.action? =
      commands.filterMap Command.action? := by
  rw [List.filterMap_map]
  exact congrArg (commands.filterMap ·) (funext (Command.action?_map f))

theorem MetricList.moves_cases (s : MetricList.State) (m : MetricList.Msg) :
    (MetricList.update s m).2.filterMap Command.action? = [] ∨
      ∃ id, (MetricList.update s m).2.filterMap Command.action? = [.openMetric id] := by
  cases m with
  | openMetric id => exact .inr ⟨id, rfl⟩
  | submitCreate | confirmDelete =>
    refine .inl ?_
    simp only [MetricList.update]
    split <;> rfl
  | _ => exact .inl rfl

theorem CaliberLibrary.moves_eq_nil (s : CaliberLibrary.State) (m : CaliberLibrary.Msg) :
    (CaliberLibrary.update s m).2.filterMap Command.action? = [] := by
  cases m with
  | save | confirmDelete =>
    simp only [CaliberLibrary.update]
    split <;> rfl
  | _ => rfl

theorem Versions.moves_eq_nil (scene : Scene) (s : Versions.State) (m : Versions.Msg) :
    (Versions.update scene s m).2.filterMap Command.action? = [] := by
  cases m with
  | publish | confirmDelete =>
    simp only [Versions.update]
    split <;> rfl
  | saveEdit =>
    simp only [Versions.update]
    split
    · split <;> rfl
    · rfl
  | _ => rfl

theorem MetricDetail.moves_submit {α : Type} [Codec α] (s : MetricDetail.State)
    (mutation : Mutation) (body : Except FormFault α) (job : MetricDetail.Job) :
    (MetricDetail.submit s mutation body job).2.filterMap Command.action? = [] := by
  cases body <;> rfl

/-- The detail of a metric goes back to the list or selects a version, and writes otherwise. -/
theorem MetricDetail.moves_cases (scene : Scene) (s : MetricDetail.State) (m : MetricDetail.Msg) :
    (MetricDetail.update scene s m).2.filterMap Command.action? = [] ∨
      (MetricDetail.update scene s m).2.filterMap Command.action? = [.backToList] ∨
      ∃ v, m = .selectVersion v ∧ (MetricDetail.update scene s m).2.filterMap Command.action? =
        [.selectVersion (some v)] := by
  cases m with
  | selectVersion v => exact .inr (.inr ⟨v, rfl, rfl⟩)
  | backToList => exact .inr (.inl rfl)
  | publish | toggleEditVersion | confirmRemove =>
    refine .inl ?_
    simp only [MetricDetail.update]
    split <;> rfl
  | saveBasic | saveVersion | createVersion | saveNewBinding | saveBinding =>
    refine .inl ?_
    simp only [MetricDetail.update]
    split
    · exact MetricDetail.moves_submit _ _ _ _
    · rfl
  | _ => exact .inl rfl

/-- A page changes the navigation at most once for a message, and only the detail of a metric
selects a version, when it is told to. -/
theorem moves_cases (scene : Scene) (p : Page) (m : Msg) :
    p.moves scene m = [] ∨ ∃ a, p.moves scene m = [a] ∧ (a.version? = none ∨
      ∃ s v, p = .metricDetail s ∧ m = .metricDetail (.selectVersion v) ∧
        a = .selectVersion (some v)) := by
  cases p with
  | placeholder view => cases m <;> exact .inl rfl
  | dashboard s =>
    cases m with
    | dashboard m => cases m <;> exact .inr ⟨_, rfl, .inl rfl⟩
    | _ => exact .inl rfl
  | dimensions s => cases m <;> exact .inl rfl
  | metricList s =>
    cases m with
    | metricList m =>
      obtain still | ⟨id, moved⟩ := MetricList.moves_cases s m
      · exact .inl ((filterMap_action?_map _ _).trans still)
      · exact .inr ⟨_, (filterMap_action?_map _ _).trans moved, .inl rfl⟩
    | _ => exact .inl rfl
  | caliberLibrary s =>
    cases m with
    | caliberLibrary m =>
      exact .inl ((filterMap_action?_map _ _).trans (CaliberLibrary.moves_eq_nil s m))
    | _ => exact .inl rfl
  | versions s =>
    cases m with
    | versions m =>
      exact .inl ((filterMap_action?_map _ _).trans (Versions.moves_eq_nil scene s m))
    | _ => exact .inl rfl
  | metricDetail s =>
    cases m with
    | metricDetail m =>
      obtain still | back | ⟨v, rfl, moved⟩ := MetricDetail.moves_cases scene s m
      · exact .inl ((filterMap_action?_map _ _).trans still)
      · exact .inr ⟨_, (filterMap_action?_map _ _).trans back, .inl rfl⟩
      · exact .inr ⟨_, (filterMap_action?_map _ _).trans moved, .inr ⟨s, v, rfl, rfl, rfl⟩⟩
    | _ => exact .inl rfl

/-- A page that follows what it sees selects a metric, if it changes the navigation at all. -/
theorem sync_cases (navigated : Bool) (scene : Scene) (p : Page) :
    (p.sync navigated scene).2 = none ∨
      ∃ id, (p.sync navigated scene).2 = some (.selectMetric (some id)) := by
  cases p with
  | versions s =>
    simp only [sync, Versions.sync]
    cases Versions.picked? scene (Versions.syncPicker navigated scene s) with
    | none => exact .inl rfl
    | some id => exact .inr ⟨id, rfl⟩
  | _ => exact .inl rfl

end Page

namespace Console

/-! ## The navigation of the console -/

theorem nav_foldl_execute (commands : List (Command Page.Job)) (c : Console) :
    (commands.foldl execute c).nav = c.nav.run (commands.filterMap Command.action?) := by
  induction commands generalizing c with
  | nil => rfl
  | cons command commands ih =>
    rw [List.foldl_cons, ih]
    cases command <;> rfl

/-- The navigation of the second console comes of that of the first by actions that select no
version. -/
def Strays (c c' : Console) : Prop :=
  ∃ as, c'.nav = c.nav.run as ∧ ∀ a ∈ as, a.version? = none

theorem Strays.of_nav {c c' : Console} (same : c'.nav = c.nav) : Strays c c' := ⟨[], same, nofun⟩

theorem Strays.of_action {c c' : Console} (a : NavAction) (other : a.version? = none)
    (moved : c'.nav = c.nav.apply a) : Strays c c' :=
  ⟨[a], moved, List.forall_mem_singleton.mpr other⟩

theorem Strays.trans {c c' c'' : Console} (first : Strays c c') (second : Strays c' c'') :
    Strays c c'' := by
  obtain ⟨as, moved, other⟩ := first
  obtain ⟨bs, moved', other'⟩ := second
  refine ⟨as ++ bs, ?_, List.forall_mem_append.mpr ⟨other, other'⟩⟩
  rw [moved', moved, Navigation.run_append]

theorem strays_follow (navigated : Bool) (c : Console) : Strays c (c.follow navigated).2 := by
  unfold follow
  simp only
  obtain still | ⟨id, moved⟩ := c.page.sync_cases navigated c.swapHooks.scene
  · simp only [swapHooks] at still ⊢
    rw [still]
    exact .of_nav rfl
  · simp only [swapHooks] at moved ⊢
    rw [moved]
    exact .of_action (.selectMetric (some id)) rfl rfl

theorem strays_refresh (navigated : Bool) (c : Console) : Strays c (c.refresh navigated) := by
  have entered : c.enter.nav = c.nav := by
    unfold enter
    split <;> rfl
  have once := (Strays.of_nav entered).trans (strays_follow navigated c.enter)
  unfold refresh
  simp only
  split
  · exact (once.trans (strays_follow true _)).trans (.of_nav rfl)
  · exact once.trans (.of_nav rfl)

theorem not_sends_say {μ : Type} {text : String} {t : Token μ} {m : μ} (mem : t ∈ say text) :
    ¬t.Sends m := by
  unfold say at mem
  split at mem
  · rw [List.mem_singleton.mp mem]
    exact id
  · cases mem

/-- The one control above the page opens and closes the menu. -/
theorem sends_headerTokens {c : Console} {t : Token NavAction} {a : NavAction}
    (mem : t ∈ c.headerTokens) (sends : t.Sends a) : a = .toggleLeft := by
  simp only [headerTokens, List.mem_append, List.mem_singleton] at mem
  obtain (((rfl | said) | said) | said) | said := mem
  · exact (Option.some.inj sends).symm
  all_goals exact absurd sends (not_sends_say said)

/-- An event that sends the page no message is an action itself, or selects no version. -/
theorem strays_step {c : Console} {e : Event} (silent : c.message? e = none) :
    (∃ action, e = .navigate action ∧ Strays (c.navigate action) (c.step e)) ∨
      Strays c (c.step e) := by
  cases e with
  | press label nth =>
    refine .inr ?_
    simp only [step, press]
    simp only [message?] at silent
    cases above : c.headerTokens.press? label nth with
    | some sends =>
      cases sends with
      | some action =>
        obtain ⟨t, mem, sends⟩ := Tokens.sends_of_press? above
        obtain rfl := sends_headerTokens mem sends
        have moved : Strays c (c.navigate .toggleLeft) := .of_action .toggleLeft rfl rfl
        exact moved.trans (strays_refresh false _)
      | none => exact .of_nav rfl
    | none =>
      rw [above] at silent
      simp only at silent ⊢
      split
      · next m pressed =>
        rw [pressed] at silent
        cases silent
      · exact .of_nav rfl
      · exact .of_nav rfl
  | fill name value nth =>
    simp only [message?] at silent
    simp only [step, fill, silent]
    exact .inr (.of_nav rfl)
  | openTab value =>
    simp only [message?] at silent
    simp only [step, openTab, silent]
    exact .inr (.of_nav rfl)
  | choose label =>
    refine .inr ?_
    simp only [step, choose]
    split
    · next view _ =>
      have moved : Strays c (c.navigate (.show view)) := .of_action (.show view) rfl rfl
      exact moved.trans (strays_refresh true _)
    · exact .of_nav rfl
  | navigate action => exact .inl ⟨action, rfl, strays_refresh _ _⟩
  | answer position outcome =>
    refine .inr ?_
    simp only [step]
    split
    · next x _ =>
      obtain ⟨c', refreshed, nav, -⟩ := c.arrive_eq x (c.client.pending.eraseIdx position) outcome
      rw [refreshed]
      exact (Strays.of_nav nav).trans (strays_refresh false c')
    · exact .of_nav rfl

/-- A message changes the navigation as the page wants. -/
theorem strays_send (c : Console) (m : Page.Msg) :
    ∃ c', c'.nav = c.nav.run (c.page.moves c.scene m) ∧ Strays c' (c.send m) :=
  ⟨_, nav_foldl_execute _ { c with page := (c.page.update c.scene m).1 }, strays_refresh _ _⟩

/-- A page that selects a version is shown while a metric is selected. -/
theorem metric_of_selectVersion {c : Console} {e : Event} {s : MetricDetail.State} {v : Int64}
    (page : c.page = .metricDetail s)
    (message : c.message? e = some (.metricDetail (.selectVersion v))) : c.nav.metricId ≠ none := by
  intro missing
  obtain ⟨t, mem, sends⟩ := sends_of_message? message
  rw [pageTokens, page] at mem
  have gone : c.scene.nav.metricId = none := missing
  cases MetricDetail.sends_of_none gone mem sends

/-! ## Versions under their metric -/

/-- The navigation comes of a history in which a version is only selected while a metric is. -/
def UnderMetric (c : Console) : Prop :=
  ∃ as, c.nav = Navigation.initial.run as ∧ Navigation.SelectsUnderMetric as

namespace UnderMetric

variable {c c' : Console}

theorem strays (under : c.UnderMetric) (strays : Strays c c') : c'.UnderMetric := by
  obtain ⟨as, nav, under⟩ := under
  obtain ⟨bs, moved, other⟩ := strays
  exact ⟨as ++ bs, by rw [moved, nav, Navigation.run_append], under.append other⟩

theorem action (under : c.UnderMetric) {a : NavAction} (moved : c'.nav = c.nav.apply a)
    (guard : ∀ v, a = .selectVersion (some v) → c.nav.metricId ≠ none) : c'.UnderMetric := by
  obtain ⟨as, nav, under⟩ := under
  refine ⟨as ++ [a], by rw [moved, nav, Navigation.run_concat], ?_⟩
  exact Navigation.selectsUnderMetric_concat_iff.mpr ⟨under, nav ▸ guard⟩

theorem start (search : String) (routes : Routes) : (start search routes).UnderMetric := by
  have opened : Navigation.SelectsUnderMetric [.readLocation search] :=
    Navigation.SelectsUnderMetric.nil.append (List.forall_mem_singleton.mpr rfl)
  exact UnderMetric.strays ⟨_, rfl, opened⟩ (strays_refresh true _)

/-- An event keeps the version under a metric, if it is not itself the selection of a version. -/
theorem step (under : c.UnderMetric) (e : Event)
    (inside : ∀ v, e ≠ .navigate (.selectVersion (some v))) : (c.step e).UnderMetric := by
  cases message : c.message? e with
  | none =>
    obtain ⟨action, rfl, strays⟩ | strays := strays_step message
    · have moved : (c.navigate action).UnderMetric :=
        under.action rfl fun v same => absurd (congrArg Event.navigate same) (inside v)
      exact moved.strays strays
    · exact under.strays strays
  | some m =>
    obtain ⟨c', moved, strays⟩ := c.strays_send m
    have sent : c.step e = c.send m := by
      obtain ⟨m', message', sent⟩ | ⟨silent, -⟩ := step_cases c e
      · rw [message, Option.some.injEq] at message'
        rw [sent, message']
      · rw [message] at silent
        cases silent
    rw [sent]
    refine UnderMetric.strays ?_ strays
    -- the page moves before it is refreshed, and only there a version can be selected
    obtain still | ⟨a, one, guarded⟩ := Page.moves_cases c.scene c.page m
    · rw [still] at moved
      exact under.strays (.of_nav moved)
    · rw [one] at moved
      refine under.action moved ?_
      rintro v rfl
      obtain cleared | ⟨s, w, page, rfl, -⟩ := guarded
      · cases cleared
      · exact metric_of_selectVersion page message

end UnderMetric

namespace Run

variable {log : List (Console × Event)} {c : Console}

/-- **The page selects versions under their metric.**  In a run in which versions are selected by
the page alone, the navigation comes of a history in which a version is only selected while a metric
is. -/
theorem underMetric (run : Run log c)
    (inside : ∀ x ∈ log, ∀ v, x.2 ≠ .navigate (.selectVersion (some v))) : c.UnderMetric := by
  induction run with
  | start search routes => exact .start search routes
  | step _ e ih =>
    obtain ⟨earlier, last⟩ := List.forall_mem_append.mp inside
    exact (ih earlier).step e (last _ (List.mem_singleton_self _))

end Run

end Console

namespace Navigation

/-- **Navigation state over whole histories.**  After any actions the selected metric is the one
that the last action on it has set, the selected version the one that was set last since then, and
the active view the one that was shown last; other actions change none of the three.  So if versions
are selected only while a metric is, a selected version was selected under the metric that is
selected still; and this is so in every run of the console in which versions are selected by the
page alone. -/
theorem selections_last_set :
    (∀ as, (initial.run as).metricId = (lastSet NavAction.metric? as).join ∧
      (initial.run as).versionId = (lastSet NavAction.version? (sinceMetric as)).join ∧
      (initial.run as).view = (lastSet NavAction.view? as).getD .dashboard) ∧
    (∀ (n : Navigation) (a : NavAction),
      (a.metric? = none → (n.apply a).metricId = n.metricId) ∧
      (a.metric? = none → a.version? = none → (n.apply a).versionId = n.versionId) ∧
      (a.view? = none → (n.apply a).view = n.view)) ∧
    (∀ as, SelectsUnderMetric as → ∀ v, (initial.run as).versionId = some v →
      ∃ id before after, as = before ++ .selectVersion (some v) :: after ∧
        (∀ a ∈ after, a.metric? = none ∧ a.version? = none) ∧
        (initial.run before).metricId = some id ∧ (initial.run as).metricId = some id) ∧
    ∀ log c, Console.Run log c →
      (∀ x ∈ log, ∀ v, x.2 ≠ .navigate (.selectVersion (some v))) →
      ∃ as, c.nav = initial.run as ∧ SelectsUnderMetric as := by
  refine ⟨fun as => ⟨metricId_run as, versionId_run as, view_run as⟩, fun n a => ⟨?_, ?_, ?_⟩,
    fun _ under _ selected => exists_selected under selected, fun _ _ run => run.underMetric⟩
  · intro keeps
    rw [metricId_apply, keeps]
    rfl
  · intro metric version
    rw [versionId_apply n metric, version]
    rfl
  · intro keeps
    rw [view_apply, keeps]
    rfl

open Console in
/-- The versions 12 and 11 of metric 7 are listed on its detail, and the button of 11 is pressed. -/
def versionPressed : List (Console × Event) × Console :=
  (Console.start "?view=caliber" []).replay
    [.answer 0 (.answered 200 "[]"), .choose "Versions",
      .answer 0 (.answered 200
        "[[7,\"\",\"\",\"\",null,null,null,\"\",null,null,null,\"\",\"\"]]"),
      .navigate (.openMetric 7),
      .answer 0 (.answered 200
        ("[[12,7,null,\"draft\",null,null,null,null,null,null,null,null,\"\",[]]," ++
          "[11,7,null,\"draft\",null,null,null,null,null,null,null,null,\"\",[]]]")),
      .press "Set current" 0]

theorem selections_last_set_pressed :
    versionPressed.2.nav = ⟨.metricDetail, some 7, some 11, true⟩ ∧
      ∃ as before after, versionPressed.2.nav = initial.run as ∧ SelectsUnderMetric as ∧
        as = before ++ .selectVersion (some 11) :: after ∧
        (initial.run before).metricId = some 7 := by
  have nav : versionPressed.2.nav = ⟨.metricDetail, some 7, some 11, true⟩ := by decide +kernel
  have run : Console.Run versionPressed.1 versionPressed.2 := .replay "?view=caliber" [] _
  have inside : ∀ x ∈ versionPressed.1, ∀ v, x.2 ≠ .navigate (.selectVersion (some v)) := by
    intro x mem v same
    simp only [versionPressed, Console.replay, List.mem_cons, List.not_mem_nil, or_false] at mem
    obtain rfl | rfl | rfl | rfl | rfl | rfl := mem <;> cases same
  obtain ⟨-, -, selected, kept⟩ := selections_last_set
  obtain ⟨as, history, under⟩ := kept _ _ run inside
  have version : (initial.run as).versionId = some 11 := by rw [← history, nav]
  obtain ⟨id, before, after, text, -, metric, still⟩ := selected as under 11 version
  rw [← history, nav] at still
  obtain rfl : 7 = id := Option.some.inj still
  exact ⟨nav, as, before, after, history, under, text, metric⟩

end Navigation

end MetricConsole
