import MetricConsole.Proofs.Api.Address
import MetricConsole.Proofs.Client.Tracking
import MetricConsole.Proofs.Client.World
import MetricConsole.Proofs.Console.BindingWrites
import MetricConsole.Proofs.Console.Hooks
import MetricConsole.Proofs.Console.VersionWrites

/-!
# The version whose bindings are asked for

The detail of a metric asks for the bindings of a metric and a version.  The metric is the selected
one; the version comes from the list of versions in the cache, with the selection as a wish.  The
list stands under a key of its metric, so a selection that is left over and a list of another metric
have no part in it.

* `Console.Accepted`, `Console.Listed`: what the answers of a run have said.
* `Page.MetricDetail.bindingsKey_eq_some`: the key of the bindings comes from the list in the cache.
* `Console.Grounded`: values come from accepted answers, and the bindings of a version are asked for
  only if it was listed; every step of a run keeps this.
* `Console.Run.bindings_of_listed`: the theorem on all runs.
-/

namespace MetricConsole

open Page

/-! ## Requests for bindings -/

theorem bindingsPath_eq (metricId versionId : Int64) : bindingsPath metricId versionId =
    PathSegment.path [.word .metrics, .id metricId, .word .versions, .id versionId,
      .word .calibers] :=
  (Mutation.createBinding metricId versionId).path_eq

/-- Only the key of bindings is read at their path. -/
theorem QueryKey.eq_of_bindingsPath {k : QueryKey} {metricId versionId : Int64}
    (path : k.request.path = bindingsPath metricId versionId) :
    k = .versionCalibers metricId versionId := by
  rw [path_request, bindingsPath_eq] at path
  have segments := PathSegment.path_inj k.request_at.nonempty (by simp) path
  cases k with
  | versionCalibers id v => simpa [QueryKey.segments] using segments
  | _ => simp [QueryKey.segments] at segments

/-- Only the creation of a binding is written at that path. -/
theorem Mutation.eq_of_bindingsPath {m : Mutation} {metricId versionId : Int64}
    (path : m.path = bindingsPath metricId versionId) : m = .createBinding metricId versionId := by
  rw [path_eq, bindingsPath_eq] at path
  have segments := PathSegment.path_inj m.segments_ne_nil (by simp) path
  cases m with
  | createBinding id v => simpa [Mutation.segments] using segments
  | _ => simp [Mutation.segments] at segments

/-! ## The current version -/

/-- The version is on the list: the selected one if the list has it, and the first one otherwise. -/
structure CurrentOf (ids : List Int64) (selection : Option Int64) (v : Int64) : Prop where
  listed : v ∈ ids
  selected : ∀ s, selection = some s → s ∈ ids → v = s
  first : (∀ s, selection = some s → s ∉ ids) → ids.head? = some v

theorem currentOf_shownVersion {vs : List MetricVersion} {selection : Option Int64} {v : Int64}
    (shown : shownVersion vs selection = some v) :
    CurrentOf (vs.map MetricVersion.id) selection v := by
  have first (head : vs.head?.map MetricVersion.id = some v) :
      (vs.map MetricVersion.id).head? = some v := List.head?_map.trans head
  unfold shownVersion at shown
  split at shown
  · next s =>
    have any : (vs.any fun w => w.id == s) = true ↔ s ∈ vs.map MetricVersion.id := by simp
    split at shown
    · next found =>
      obtain rfl := Option.some.inj shown
      have listed := any.mp found
      exact ⟨listed, fun _ same _ => Option.some.inj same, fun other => absurd listed (other s rfl)⟩
    · next missing =>
      have unlisted := fun listed => missing (any.mpr listed)
      refine ⟨List.mem_of_head? (first shown), fun s' same listed => ?_, fun _ => first shown⟩
      obtain rfl := Option.some.inj same
      exact absurd listed unlisted
  · refine ⟨List.mem_of_head? (first shown), fun s same => ?_, fun _ => first shown⟩
    cases same

namespace Page

namespace MetricDetail

/-- The key of the bindings is for the selected metric, and for the version that is current on the
list of versions in the cache. -/
theorem bindingsKey_eq_some {scene : Scene} {id v : Int64}
    (key : bindingsKey scene = some (.versionCalibers id v)) :
    scene.nav.metricId = some id ∧ currentId scene = some v := by
  unfold bindingsKey at key
  split at key
  · next selected current =>
    simp only [Option.some.injEq, QueryKey.versionCalibers.injEq] at key
    obtain ⟨rfl, rfl⟩ := key
    exact ⟨selected, current⟩
  · cases key

/-- The current version is on the list of the selected metric in the cache. -/
theorem currentOf_currentId (scene : Scene) {id v : Int64} (selected : scene.nav.metricId = some id)
    (current : currentId scene = some v) :
    ∃ value vs, (scene.cache.get (.metricVersions id)).data = some value ∧
      (decode? value : Option (List MetricVersion)) = some vs ∧
      CurrentOf (vs.map MetricVersion.id) scene.nav.versionId v := by
  have shown := currentOf_shownVersion current
  have key : versionsKey scene = some (.metricVersions id) := by simp [versionsKey, selected]
  have seen : scene.value? (List MetricVersion) (versionsKey scene) =
      (scene.cache.get (.metricVersions id)).data.bind decode? := by
    rw [key]
    rfl
  unfold versions Scene.list at shown
  rw [seen] at shown
  cases data : (scene.cache.get (.metricVersions id)).data with
  | none => simpa [data] using shown.listed
  | some value =>
    cases read : (decode? value : Option (List MetricVersion)) with
    | none => simpa [data, read] using shown.listed
    | some vs => exact ⟨value, vs, rfl, read, by simpa [data, read] using shown⟩

end MetricDetail

/-- Only the detail of a metric looks at bindings. -/
theorem bindingsKey_of_mem_keys {p : Page} {scene : Scene} {id v : Int64}
    (looks : some (.versionCalibers id v) ∈ p.keys scene) :
    MetricDetail.bindingsKey scene = some (.versionCalibers id v) := by
  cases p with
  | metricDetail s =>
    simp only [keys, MetricDetail.keys, MetricDetail.metricKey, MetricDetail.versionsKey,
      List.mem_cons, List.not_mem_nil, or_false] at looks
    obtain metric | versions | calibers | bindings := looks
    · cases selected : scene.nav.metricId <;> simp [selected] at metric
    · cases selected : scene.nav.metricId <;> simp [selected] at versions
    · cases calibers
    · exact bindings.symm
  | metricList s => simp [keys, MetricList.keys, MetricList.listKey] at looks
  | versions s =>
    simp only [keys, Versions.keys, Versions.listKey, Versions.versionsKey, List.mem_cons,
      List.not_mem_nil, or_false] at looks
    obtain list | versions := looks
    · cases list
    · cases shown : Versions.metricId scene <;> simp [shown] at versions
  | dimensions s => simp [keys, Dimensions.keys, Dimensions.tableKey] at looks
  | _ => simp [keys, Dashboard.keys, CaliberLibrary.keys] at looks

/-- The list of metrics creates and deletes metrics. -/
theorem MetricList.write_cases {s : State} {m : Msg} {mutation : Mutation} {body : Option Json}
    {job : Job} (written : .write mutation body job ∈ (update s m).2) :
    mutation = .createMetric ∨ ∃ id, mutation = .deleteMetric id := by
  cases m with
  | submitCreate =>
    simp only [update] at written
    split at written
    · cases written
    · cases List.mem_singleton.mp written
      exact .inl rfl
  | confirmDelete =>
    simp only [update] at written
    split at written
    · cases written
    · cases List.mem_singleton.mp written
      exact .inr ⟨_, rfl⟩
  | openMetric => cases List.mem_singleton.mp written
  | _ => cases written

/-- The caliber library creates, changes and deletes calibers. -/
theorem CaliberLibrary.write_cases {s : State} {m : Msg} {mutation : Mutation} {body : Option Json}
    {job : Job} (written : .write mutation body job ∈ (update s m).2) :
    mutation = .createCaliber ∨
      ∃ id, mutation = .updateCaliber id ∨ mutation = .deleteCaliber id := by
  cases m with
  | save =>
    simp only [update] at written
    split at written
    · cases written
    · next m body submitted =>
      cases List.mem_singleton.mp written
      unfold submission at submitted
      split at submitted
      · cases form : s.form.toCreate <;> rw [form] at submitted <;> cases submitted
        exact .inl rfl
      · cases form : s.form.toUpdate <;> rw [form] at submitted <;> cases submitted
        exact .inr ⟨_, .inl rfl⟩
  | confirmDelete =>
    simp only [update] at written
    split at written
    · cases written
    · cases List.mem_singleton.mp written
      exact .inr ⟨_, .inr rfl⟩
  | _ => cases written

/-- Only the detail of a metric creates bindings, below the selected metric and its current
version. -/
theorem currentId_of_createBinding {p : Page} {scene : Scene} {m : Msg} {id v : Int64}
    {body : Option Json} {job : Job}
    (written : .write (.createBinding id v) body job ∈ (p.update scene m).2) :
    scene.nav.metricId = some id ∧ MetricDetail.currentId scene = some v := by
  cases p with
  | placeholder view => cases m <;> cases written
  | dashboard s =>
    cases m with
    | dashboard m => cases m <;> cases List.mem_singleton.mp written
    | _ => cases written
  | dimensions s => cases m <;> cases written
  | metricList s =>
    cases m with
    | metricList m =>
      obtain ⟨job', written⟩ := Command.write_of_map written
      simpa using MetricList.write_cases written
    | _ => cases written
  | caliberLibrary s =>
    cases m with
    | caliberLibrary m =>
      obtain ⟨job', written⟩ := Command.write_of_map written
      simpa using CaliberLibrary.write_cases written
    | _ => cases written
  | versions s =>
    cases m with
    | versions m =>
      obtain ⟨job', written⟩ := Command.write_of_map written
      simpa using Versions.write_cases written
    | _ => cases written
  | metricDetail s =>
    cases m with
    | metricDetail m =>
      obtain ⟨job', written⟩ := Command.write_of_map written
      obtain ⟨id', selected, which⟩ := MetricDetail.write_cases written
      obtain ⟨v', current, rfl, rfl⟩ : ∃ v', MetricDetail.currentId scene = some v' ∧
          id = id' ∧ v = v' := by simpa using which
      exact ⟨selected, current⟩
    | _ => cases written

end Page

namespace Console

/-! ## What the answers of a run have said -/

/-- An event of the log was the answer with this value to the read that the key waited for. -/
def Accepted (log : List (Console × Event)) (k : QueryKey) (v : Json) : Prop :=
  ∃ c₀ position outcome id, (c₀, .answer position outcome) ∈ log ∧
    c₀.client.pending[position]? = some (Ticket.exchange ⟨k, id⟩) ∧
    (c₀.client.cache.get k).inFlight = some id ∧ outcome.received = .ok v

/-- An accepted answer for the versions of the metric listed the version. -/
def Listed (log : List (Console × Event)) (metricId versionId : Int64) : Prop :=
  ∃ value vs, Accepted log (.metricVersions metricId) value ∧
    (decode? value : Option (List MetricVersion)) = some vs ∧ versionId ∈ vs.map MetricVersion.id

/-- A request for the bindings of a version may be sent once the version was listed. -/
def Permitted (log : List (Console × Event)) (r : Request) : Prop :=
  ∀ metricId versionId, r.path = bindingsPath metricId versionId → Listed log metricId versionId

variable {log log' : List (Console × Event)} {c c' : Console}

theorem Accepted.mono (later : log ⊆ log') {k : QueryKey} {v : Json} (accepted : Accepted log k v) :
    Accepted log' k v := by
  obtain ⟨c₀, position, outcome, id, mem, rest⟩ := accepted
  exact ⟨c₀, position, outcome, id, later mem, rest⟩

theorem Permitted.mono (later : log ⊆ log') {r : Request} (permitted : Permitted log r) :
    Permitted log' r := by
  intro metricId versionId path
  obtain ⟨value, vs, accepted, listed⟩ := permitted metricId versionId path
  exact ⟨value, vs, accepted.mono later, listed⟩

/-! ## Grounded consoles -/

/-- The values in the cache come from accepted answers, and bindings are asked for only of versions
that were listed: that holds of what was sent, of what waits, and of what may be read again. -/
structure Grounded (log : List (Console × Event)) (c : Console) : Prop where
  values : ∀ k v, (c.client.cache.get k).data = some v → Accepted log k v
  guarded : c.client.Guarded (Permitted log)
  sent : ∀ x ∈ c.sent, Permitted log x.request

namespace Grounded

theorem mono (later : log ⊆ log') (grounded : Grounded log c) : Grounded log' c where
  values k v value := (grounded.values k v value).mono later
  guarded := grounded.guarded.mono fun _ => .mono later
  sent x mem := (grounded.sent x mem).mono later

/-- Neither the page nor the navigation matters. -/
theorem congr (grounded : Grounded log c) (client : c'.client = c.client)
    (sent : c'.sent = c.sent) :
    Grounded log c' :=
  ⟨client ▸ grounded.values, client ▸ grounded.guarded, sent ▸ grounded.sent⟩

/-- A version that is current was listed. -/
theorem listed (grounded : Grounded log c) {id v : Int64} (selected : c.nav.metricId = some id)
    (current : MetricDetail.currentId c.scene = some v) : Listed log id v := by
  obtain ⟨value, vs, data, read, shown⟩ :=
    MetricDetail.currentOf_currentId c.scene selected current
  exact ⟨value, vs, grounded.values _ value data, read, shown.listed⟩

/-- Whatever the page looks at may be read. -/
theorem permitted_keys (grounded : Grounded log c) {k : QueryKey}
    (looks : some k ∈ c.page.keys c.scene) : Permitted log k.request := by
  intro id v path
  obtain rfl := QueryKey.eq_of_bindingsPath path
  obtain ⟨selected, current⟩ :=
    MetricDetail.bindingsKey_eq_some (bindingsKey_of_mem_keys looks)
  exact grounded.listed selected current

/-- Whatever the page commands may be written. -/
theorem permitted_command (grounded : Grounded log c) {m : Page.Msg} {mutation : Mutation}
    {body : Option Json} {job : Page.Job}
    (written : .write mutation body job ∈ (c.page.update c.scene m).2) :
    Permitted log (mutation.request body) := by
  intro id v path
  obtain rfl := Mutation.eq_of_bindingsPath path
  obtain ⟨selected, current⟩ := currentId_of_createBinding written
  exact grounded.listed selected current

/-! ### Carrying through -/

/-- Moves of hooks that read only what may be read keep the console grounded. -/
theorem of_moves (grounded : Grounded log c)
    (data : ∀ k, (c'.client.cache.get k).data = (c.client.cache.get k).data)
    (guarded : c'.client.Guarded (Permitted log)) (sent : c'.sent = c.sent) : Grounded log c' :=
  ⟨fun k v value => grounded.values k v ((data k).symm.trans value), guarded, sent ▸ grounded.sent⟩

theorem mountHooks (grounded : Grounded log c) : Grounded log c.mountHooks := by
  refine grounded.of_moves (quiet_mountHooks (Client.data_closed _).quiet fun _ => rfl) ?_ rfl
  exact quiet_foldl (fun i guarded => guarded.mount i) _ grounded.guarded

theorem unmountHooks (grounded : Grounded log c) : Grounded log c.unmountHooks := by
  refine grounded.of_moves (quiet_unmountHooks (Client.data_closed _).quiet fun _ => rfl) ?_ rfl
  exact quiet_foldl (fun i guarded => guarded.unmount i) _ grounded.guarded

theorem enter (grounded : Grounded log c) : Grounded log c.enter := by
  unfold Console.enter
  split
  · exact grounded
  · have fresh : Grounded log { c.unmountHooks with
        page := .ofView c.nav.view, showing := c.showing + 1 } :=
      grounded.unmountHooks.congr rfl rfl
    exact fresh.mountHooks

theorem swapHooks (grounded : Grounded log c) : Grounded log c.swapHooks := by
  refine grounded.of_moves (fun k => (c.scene_swapHooks.data k).symm) ?_ rfl
  have permitted (ks : List (Option QueryKey × Nat))
      (looks : ∀ h ∈ ks, h.1 ∈ c.page.keys c.scene) {cl : Client Nat Errand}
      (guarded : cl.Guarded (Permitted log)) :
      (ks.foldl (fun cl h => cl.swap h.2 h.1) cl).Guarded (Permitted log) := by
    induction ks generalizing cl with
    | nil => exact guarded
    | cons h ks ih =>
      obtain ⟨first, others⟩ := List.forall_mem_cons.mp looks
      refine ih others (guarded.swap h.2 fun k same => ?_)
      exact grounded.permitted_keys (same ▸ first)
  exact permitted _ (fun h mem => List.fst_mem_of_mem_zipIdx mem) grounded.guarded

theorem follow (grounded : Grounded log c) (navigated : Bool) :
    Grounded log (c.follow navigated).2 := by
  have swapped := grounded.swapHooks
  unfold Console.follow
  simp only
  split
  · exact swapped.congr rfl rfl
  · exact swapped.congr rfl rfl

theorem depart (grounded : Grounded log c) : Grounded log c.depart where
  values := grounded.values
  guarded := grounded.guarded.depart
  sent x mem := by
    rcases List.mem_append.mp mem with old | left
    · exact grounded.sent x old
    · exact grounded.guarded.departing x left

theorem refresh (grounded : Grounded log c) (navigated : Bool) :
    Grounded log (c.refresh navigated) := by
  have once := grounded.enter.follow navigated
  unfold Console.refresh
  simp only
  split
  · exact (once.follow true).depart
  · exact once.depart

/-! ### Events -/

theorem foldl_execute (grounded : Grounded log c) {commands : List (Command Page.Job)}
    (permitted : ∀ m body job, .write m body job ∈ commands → Permitted log (m.request body)) :
    Grounded log (commands.foldl execute c) := by
  induction commands generalizing c with
  | nil => exact grounded
  | cons command commands ih =>
    refine ih ?_ fun m body job mem => permitted m body job (List.mem_cons_of_mem _ mem)
    cases command with
    | navigate action => exact grounded.congr rfl rfl
    | write m body job =>
      have may := permitted m body job List.mem_cons_self
      exact ⟨grounded.values, grounded.guarded.write may _ _, grounded.sent⟩

theorem step (grounded : Grounded log c) (tracked : c.client.Tracked) (e : Event) :
    Grounded (log ++ [(c, e)]) (c.step e) := by
  have later : Grounded (log ++ [(c, e)]) c := grounded.mono (List.subset_append_left _ _)
  obtain ⟨m, -, taken⟩ | ⟨-, ⟨action, navigated, moved⟩ |
    ⟨before, x, after, outcome, rfl, pending, arrived⟩ | same⟩ := c.step_cases e
  · rw [taken]
    have told : Grounded (log ++ [(c, e)]) { c with page := (c.page.update c.scene m).1 } :=
      later.congr rfl rfl
    exact (told.foldl_execute fun _ _ _ written => later.permitted_command written).refresh _
  · rw [moved]
    exact Grounded.refresh (c := c.navigate action) (later.congr rfl rfl) navigated
  · obtain ⟨c', refreshed, -, -, sent, client, -⟩ := c.arrive_eq x (before ++ after) outcome
    rw [arrived, refreshed]
    refine Grounded.refresh ⟨fun k v value => ?_, ?_, sent ▸ later.sent⟩ false
    · rw [client] at value
      obtain old | ⟨id, read, awaited, ok⟩ := Client.data_receive value
      · exact later.values k v old
      · have under : x ∈ c.client.underWay := by simp [Client.underWay, pending]
        have asked : x = Ticket.exchange ⟨k, id⟩ :=
          tracked.addressed x under _ (by simp [Exchange.ticket?, read])
        refine ⟨c, before.length, outcome, id, by simp, ?_, awaited, ok⟩
        simp [pending, asked]
    · rw [client]
      exact (later.guarded.withPending _).receive x outcome
  · rw [same]
    exact later

theorem start (search : String) (routes : Routes) : Grounded [] (start search routes) := by
  refine Grounded.refresh
    (Grounded.mountHooks ⟨fun k v value => ?_, .initial, fun x mem => ?_⟩) true
  · cases value
  · cases mem

end Grounded

namespace Run

theorem tracked (run : Run log c) : c.client.Tracked :=
  run.keeps Client.Tracked.closed (Client.Reachable.tracked .refl) .depart fun outcome tracked =>
    tracked.answer outcome

theorem grounded (run : Run log c) : Grounded log c := by
  induction run with
  | start search routes => exact .start search routes
  | step run e ih => exact ih.step run.tracked e

/-- **Bindings belong to the metric and to a version of its list.**  In every run a request for the
bindings of a version, a read or the creation of one, is sent only after an accepted answer for the
versions of that metric has listed the version; the event that sends it may be that answer.  While a
hook looks at the bindings of a version, the metric is the selected one, and the version is on the
list of the metric in the cache: it is the selected version if the list has that, and the first of
the list otherwise. -/
theorem bindings_of_listed (run : Run log c) :
    (∀ x ∈ c.sent, ∀ id v, x.request.path = bindingsPath id v → Listed log id v) ∧
      (∀ e, ∀ x ∈ c.sends e, ∀ id v, x.request.path = bindingsPath id v →
        Listed (log ++ [(c, e)]) id v) ∧
      ∀ i id v, c.client.held i = some (.versionCalibers id v) →
        c.nav.metricId = some id ∧
          ∃ value vs, (c.client.cache.get (.metricVersions id)).data = some value ∧
            (decode? value : Option (List MetricVersion)) = some vs ∧
            CurrentOf (vs.map MetricVersion.id) c.nav.versionId v := by
  refine ⟨run.grounded.sent, fun e x sent => ?_, fun i id v held => ?_⟩
  · exact (run.step e).grounded.sent x (List.mem_of_mem_drop sent)
  · have looks := run.mem_keys held
    obtain ⟨selected, current⟩ := MetricDetail.bindingsKey_eq_some (bindingsKey_of_mem_keys looks)
    exact ⟨selected, MetricDetail.currentOf_currentId c.scene selected current⟩

/-- Of metric 7 the version 12 is listed before 11, and 11 is selected; a new version is created. -/
def versionSelected : List (Console × Event) × Console :=
  (Console.start "?view=caliber" []).replay
    [.answer 0 (.answered 200 "[]"), .choose "Versions",
      .answer 0 (.answered 200
        "[[7,\"\",\"\",\"\",null,null,null,\"\",null,null,null,\"\",\"\"]]"),
      .navigate (.openMetric 7),
      .answer 0 (.answered 200
        ("[[12,7,null,\"draft\",null,null,null,null,null,null,null,null,\"\",[]]," ++
          "[11,7,null,\"draft\",null,null,null,null,null,null,null,null,\"\",[]]]")),
      .navigate (.selectVersion (some 11)), .fill "Grain *" "day" 0,
      .fill "Effective from *" "2024-01-01" 0, .fill "Effective to *" "2025-01-01" 0,
      .press "Create version" 0, .answer 3 (.answered 201 "")]

/-- The list is loaded again with 13 in place of 11. -/
def versionDropped : Event :=
  .answer 3 (.answered 200
    ("[[13,7,null,\"draft\",null,null,null,null,null,null,null,null,\"\",[]]," ++
      "[12,7,null,\"draft\",null,null,null,null,null,null,null,null,\"\",[]]]"))

theorem versionDropped_sends :
    (versionSelected.2.sends versionDropped).map (fun x => (x.request.method, x.request.path)) =
        [(.get, bindingsPath 7 13)] ∧
      versionSelected.2.client.held 3 = some (.versionCalibers 7 11) ∧
      (versionSelected.2.step versionDropped).client.held 3 = some (.versionCalibers 7 13) ∧
      (versionSelected.2.step versionDropped).nav.versionId = some 11 := by
  decide +kernel

theorem versionSelected_run : Run versionSelected.1 versionSelected.2 :=
  Run.replay "?view=caliber" [] _

/-- The bindings of 11 are shown while it is selected and listed.  Once the list does not have it,
the bindings of 13 are asked for, which the answer has just listed. -/
theorem bindings_of_listed_dropped :
    Run versionSelected.1 versionSelected.2 ∧
      (∃ x ∈ versionSelected.2.sends versionDropped, x.request.path = bindingsPath 7 13) ∧
      Listed (versionSelected.1 ++ [(versionSelected.2, versionDropped)]) 7 13 ∧
      (∃ ids, 11 ∈ ids ∧ CurrentOf ids versionSelected.2.nav.versionId 11) ∧
      ∃ ids, 11 ∉ ids ∧ CurrentOf ids (some 11) 13 := by
  obtain ⟨sends, before, after, selection⟩ := versionDropped_sends
  obtain ⟨x, sent, -, path⟩ := exists_sent sends
  obtain ⟨-, asked, shown⟩ := bindings_of_listed versionSelected_run
  have listed := asked versionDropped x sent 7 13 path
  obtain ⟨-, value, vs, -, -, current⟩ := shown 3 7 11 before
  obtain ⟨-, -, shown'⟩ := bindings_of_listed (versionSelected_run.step versionDropped)
  obtain ⟨-, value', vs', -, -, current'⟩ := shown' 3 7 13 after
  rw [selection] at current'
  refine ⟨versionSelected_run, ⟨x, sent, path⟩, listed, ⟨_, current.listed, current⟩, _, ?_,
    current'⟩
  intro still
  exact absurd (current'.selected 11 rfl still) (by decide)

end Run

end Console

end MetricConsole
