import MetricConsole.Proofs.Client.Guarded
import MetricConsole.Proofs.Console.Run
import MetricConsole.Proofs.Text.Integer

/-!
# The hooks of the page

Every page has a number of hooks of its own, whatever it sees.  Between two events each of them
holds the key that the page looks at: the keys depend on the navigation, on the state of the page
and on the values in the cache, and nothing of this changes after the last swap of an event.

* `Page.length_keys`: how many hooks a page has.
* `Page.keys_congr`: the keys depend on the navigation and the values.
* `Page.sync_navigated`: a page that follows a change of the navigation makes none of its own.
* `Console.refresh_of_none`, `Console.refresh_of_some`: which scene the page has followed last.
* `Console.Run.lookup_hooks`: which key each hook holds.
* `Console.Run.reachable`: the client of a run comes about by the steps of a client.
-/

namespace MetricConsole

/-! ## The keys of a page -/

/-- Two scenes have one navigation and the same values. -/
structure Scene.Alike (scene scene' : Scene) : Prop where
  nav : scene.nav = scene'.nav
  data : ∀ k, (scene.cache.get k).data = (scene'.cache.get k).data

theorem Scene.value?_congr {scene scene' : Scene} (alike : scene.Alike scene') (α : Type) [Codec α]
    (k : Option QueryKey) : scene.value? α k = scene'.value? α k := by
  cases k with
  | none => rfl
  | some k => exact congrArg (fun data => data.bind (decode? (α := α))) (alike.data k)

theorem Scene.list_congr {scene scene' : Scene} (alike : scene.Alike scene') (α : Type) [Codec α]
    (k : Option QueryKey) : scene.list α k = scene'.list α k :=
  congrArg (·.getD []) (value?_congr alike (List α) k)

namespace Page

/-- How many hooks a page has. -/
def width : Page → Nat
  | .placeholder _ => 0
  | .dashboard _ | .caliberLibrary _ | .dimensions _ => 1
  | .metricList _ | .versions _ => 2
  | .metricDetail _ => 4

@[simp]
theorem length_keys (p : Page) (scene : Scene) : (p.keys scene).length = p.width := by
  cases p <;> rfl

@[simp]
theorem isSome_keys (p : Page) (scene : Scene) (i : Nat) :
    ((p.keys scene)[i]?).isSome = decide (i < p.width) := by
  rw [← p.length_keys scene, Bool.eq_iff_iff]
  simp

@[simp]
theorem width_sync (navigated : Bool) (scene : Scene) (p : Page) :
    (p.sync navigated scene).1.width = p.width := by
  cases p <;> rfl

@[simp]
theorem width_update (scene : Scene) (p : Page) (m : Msg) :
    (p.update scene m).1.width = p.width := by
  cases p <;> cases m <;> rfl

@[simp]
theorem width_finish (result : Except ApiError Json) (p : Page) (job : Job) :
    (p.finish result job).width = p.width := by
  cases p <;> cases job <;> rfl

/-- A page that follows a scene looks at the keys that it looked at before. -/
theorem keys_sync (navigated : Bool) (scene scene' : Scene) (p : Page) :
    (p.sync navigated scene).1.keys scene' = p.keys scene' := by
  cases p <;> rfl

/-- The keys depend on the navigation and the values. -/
theorem keys_congr {scene scene' : Scene} (alike : scene.Alike scene') (p : Page) :
    p.keys scene = p.keys scene' := by
  cases p with
  | metricDetail s =>
    simp only [keys, MetricDetail.keys, MetricDetail.metricKey, MetricDetail.bindingsKey,
      MetricDetail.currentId, MetricDetail.versions, MetricDetail.versionsKey, alike.nav,
      Scene.list_congr alike]
  | versions s =>
    simp only [keys, Versions.keys, Versions.versionsKey, Versions.metricId, Versions.metrics,
      alike.nav, Scene.list_congr alike]
  | _ => rfl

/-- A picker that shows a metric asks for it if another one is shown. -/
theorem Versions.picked?_pickerText_eq (scene : Scene) (id? : Option Int64) :
    picked? scene (pickerText id?) = if id? = metricId scene then none else id? := by
  cases id? with
  | none =>
    have unread : picked? scene (pickerText none) = none := rfl
    rw [unread, ite_self]
  | some id =>
    have read : Text.Integer.parseInt64? (pickerText (some id)) = some id :=
      Text.Integer.parseInt64?_render id
    simp [picked?, read, Option.filter]

/-- The picker does not ask for another metric than the one that its text stands for. -/
theorem Versions.picked?_pickerText (scene : Scene) :
    picked? scene (pickerText (metricId scene)) = none := by
  rw [picked?_pickerText_eq, if_pos rfl]

/-- A page that follows a change of the navigation makes none of its own. -/
theorem sync_navigated (scene : Scene) (p : Page) : (p.sync true scene).2 = none := by
  cases p with
  | versions s => simp [sync, Versions.sync, Versions.syncPicker, Versions.picked?_pickerText]
  | _ => rfl

end Page

namespace Console

/-! ## Hooks one after the other -/

theorem lookup_foldl_mount (names : List Nat) (cl : Client Nat Errand) (i : Nat) :
    (names.foldl (fun cl i => cl.mount i) cl).hooks.lookup i =
      if i ∈ names then some none else cl.hooks.lookup i := by
  induction names generalizing cl with
  | nil => simp
  | cons name names ih =>
    rw [List.foldl_cons, ih, Client.lookup_mount]
    by_cases later : i ∈ names <;> simp [later]

theorem lookup_foldl_unmount (names : List Nat) (cl : Client Nat Errand) (i : Nat) :
    (names.foldl (fun cl i => cl.unmount i) cl).hooks.lookup i =
      if i ∈ names then none else cl.hooks.lookup i := by
  induction names generalizing cl with
  | nil => simp
  | cons name names ih =>
    rw [List.foldl_cons, ih, Client.lookup_unmount]
    by_cases later : i ∈ names <;> simp [later]

/-- Hooks with numbers from `n` on are swapped to the keys of a list, as far as they are mounted. -/
theorem lookup_foldl_swap (ks : List (Option QueryKey)) (n : Nat) (cl : Client Nat Errand)
    (i : Nat) : ((ks.zipIdx n).foldl (fun cl h => cl.swap h.2 h.1) cl).hooks.lookup i =
      (cl.hooks.lookup i).map fun last => if n ≤ i then ks[i - n]?.getD last else last := by
  induction ks generalizing n cl with
  | nil => simp
  | cons k ks ih =>
    rw [List.zipIdx_cons, List.foldl_cons, ih, Client.lookup_swap]
    obtain before | rfl | after := Nat.lt_trichotomy i n
    · have later : ¬ n + 1 ≤ i := by omega
      simp [Nat.ne_of_lt before, Nat.not_le_of_lt before, later]
    · have earlier : ¬ i + 1 ≤ i := by omega
      simp [Function.comp_def, earlier]
    · have place : i - n = i - (n + 1) + 1 := by omega
      simp [Nat.ne_of_gt after, Nat.le_of_lt after, place, Nat.succ_le_of_lt after]

/-! ## Hooks in place -/

/-- The hooks of the page are mounted, and no others. -/
def Mounted (c : Console) : Prop :=
  ∀ i, (c.client.hooks.lookup i).isSome = decide (i < c.page.width)

/-- Every hook holds the key that the page looks at. -/
def Holds (c : Console) : Prop := ∀ i, c.client.hooks.lookup i = (c.page.keys c.scene)[i]?

variable {c : Console}

theorem Holds.mounted (holds : c.Holds) : c.Mounted := fun i => by
  simp [holds i]

theorem mounted_mountHooks (bare : ∀ i, c.client.hooks.lookup i = none) :
    c.mountHooks.Mounted := by
  intro i
  change (((List.range (c.page.keys c.scene).length).foldl _ c.client).hooks.lookup i).isSome = _
  rw [lookup_foldl_mount, bare, Page.length_keys]
  by_cases inside : i < c.page.width <;> simp [mountHooks, inside]

theorem lookup_unmountHooks (c : Console) (i : Nat) :
    c.unmountHooks.client.hooks.lookup i = none := by
  change ((c.client.hooks.map Prod.fst).foldl _ c.client).hooks.lookup i = _
  rw [lookup_foldl_unmount]
  split
  · rfl
  · next other =>
    refine List.lookup_eq_none_iff.mpr fun h mem => bne_iff_ne.mpr ?_
    rintro rfl
    exact other (List.mem_map_of_mem mem)

theorem Mounted.enter (mounted : c.Mounted) : c.enter.Mounted := by
  unfold Console.enter
  split
  · exact mounted
  · exact mounted_mountHooks fun i => c.lookup_unmountHooks i

/-- Swapping makes the hooks hold what the page looked at. -/
theorem Mounted.lookup_swapHooks (mounted : c.Mounted) (i : Nat) :
    c.swapHooks.client.hooks.lookup i = (c.page.keys c.scene)[i]? := by
  have swapped := lookup_foldl_swap (c.page.keys c.scene) 0 c.client i
  have there := mounted i
  refine swapped.trans ?_
  by_cases inside : i < c.page.width
  · obtain ⟨last, found⟩ := Option.isSome_iff_exists.mp (there.trans (decide_eq_true inside))
    rw [← Page.length_keys c.page c.scene] at inside
    simp [found, List.getElem?_eq_getElem inside]
  · have missing : c.client.hooks.lookup i = none := by simpa [inside] using there
    rw [← Page.length_keys c.page c.scene] at inside
    simp [missing, List.getElem?_eq_none (Nat.not_lt.mp inside)]

/-- Swapping changes neither the navigation nor a value. -/
theorem scene_swapHooks (c : Console) : c.scene.Alike c.swapHooks.scene where
  nav := rfl
  data k := (quiet_swapHooks (Client.data_closed _).quiet (fun _ => rfl) k).symm

theorem Mounted.follow (mounted : c.Mounted) (navigated : Bool) :
    (c.follow navigated).2.Mounted := by
  have swapped (i : Nat) :
      (c.swapHooks.client.hooks.lookup i).isSome = decide (i < c.page.width) := by
    simp [mounted.lookup_swapHooks]
  unfold Console.follow
  simp only
  split
  · exact fun i => (swapped i).trans (by rw [Page.width_sync]; rfl)
  · exact fun i => (swapped i).trans (by simp [Console.navigate, Page.width_sync]; rfl)

/-- A page that follows without a change of its own holds what it looks at. -/
theorem Mounted.holds_follow (mounted : c.Mounted) {navigated : Bool}
    (quiet : (c.follow navigated).1 = false) : (c.follow navigated).2.Holds := by
  intro i
  unfold Console.follow at quiet ⊢
  simp only at quiet ⊢
  split at quiet
  · next still =>
    change c.swapHooks.client.hooks.lookup i =
      ((c.page.sync navigated c.swapHooks.scene).1.keys c.swapHooks.scene)[i]?
    rw [mounted.lookup_swapHooks, Page.keys_sync, Page.keys_congr c.scene_swapHooks]
  · cases quiet

theorem follow_navigated (c : Console) : (c.follow true).1 = false := by
  unfold Console.follow
  simp only [Page.sync_navigated]

theorem Mounted.holds_refresh (mounted : c.Mounted) (navigated : Bool) :
    (c.refresh navigated).Holds := by
  have followed := mounted.enter.follow navigated
  unfold Console.refresh
  simp only
  split
  · exact (followed.holds_follow (follow_navigated _) : (Console.follow true _).2.Holds)
  · next quiet => exact mounted.enter.holds_follow (Bool.not_eq_true _ ▸ quiet)

/-- Hooks that hold what they are swapped to stay as they are. -/
theorem foldl_swap_eq (ks : List (Option QueryKey)) (n : Nat) (cl : Client Nat Errand)
    (held : ∀ i k, ks[i]? = some k → cl.hooks.lookup (n + i) = some k) :
    (ks.zipIdx n).foldl (fun cl h => cl.swap h.2 h.1) cl = cl := by
  induction ks generalizing n with
  | nil => rfl
  | cons k ks ih =>
    have first : cl.swap n k = cl := by
      have own := held 0 k rfl
      rw [Nat.add_zero] at own
      simp [Client.swap, own]
    rw [List.zipIdx_cons, List.foldl_cons, first]
    refine ih (n + 1) fun i k' found => ?_
    rw [Nat.add_assoc, Nat.add_comm 1]
    exact held (i + 1) k' found

/-- Nothing is swapped if every hook holds the key that the page looks at. -/
theorem Holds.swapHooks_eq (holds : c.Holds) : c.swapHooks = c := by
  have same := foldl_swap_eq (c.page.keys c.scene) 0 c.client fun i k found => by
    rw [Nat.zero_add, holds i, found]
  unfold Console.swapHooks
  rw [same]

/-! ## What the page has followed -/

theorem nav_enter (c : Console) : c.enter.nav = c.nav := by
  unfold Console.enter
  split <;> rfl

theorem follow_of_none {navigated : Bool}
    (still : (c.page.sync navigated c.swapHooks.scene).2 = none) :
    c.follow navigated =
      (false, { c.swapHooks with page := (c.page.sync navigated c.swapHooks.scene).1 }) := by
  unfold Console.follow
  simp only [swapHooks] at still ⊢
  rw [still]

theorem follow_of_some {navigated : Bool} {action : NavAction}
    (moved : (c.page.sync navigated c.swapHooks.scene).2 = some action) :
    c.follow navigated = (true, { c.swapHooks with
      page := (c.page.sync navigated c.swapHooks.scene).1
      nav := c.nav.apply action }) := by
  unfold Console.follow
  simp only [swapHooks] at moved ⊢
  rw [moved]
  rfl

/-- A page that makes no change of its own has followed the scene that is there in the end. -/
theorem refresh_of_none {navigated : Bool}
    (still : (c.enter.page.sync navigated c.enter.swapHooks.scene).2 = none) :
    (c.refresh navigated).page =
        (c.enter.page.sync navigated (c.refresh navigated).scene).1 ∧
      (c.refresh navigated).nav = c.nav ∧
      (c.refresh navigated).scene = c.enter.swapHooks.scene := by
  unfold Console.refresh
  simp only [follow_of_none still]
  exact ⟨rfl, c.nav_enter, rfl⟩

/-- A page that makes a change of its own has followed what is there in the end once more. -/
theorem refresh_of_some {navigated : Bool} {action : NavAction}
    (moved : (c.enter.page.sync navigated c.enter.swapHooks.scene).2 = some action) :
    (c.refresh navigated).page =
        ((c.enter.page.sync navigated c.enter.swapHooks.scene).1.sync true
          (c.refresh navigated).scene).1 ∧
      (c.refresh navigated).nav = c.nav.apply action := by
  unfold Console.refresh
  simp only [follow_of_some moved, if_true]
  rw [follow_of_none (Page.sync_navigated _ _), ← c.nav_enter]
  exact ⟨rfl, rfl⟩

/-! ## Hooks after an event -/

theorem hooks_foldl_execute (commands : List (Command Page.Job)) (c : Console) :
    (commands.foldl execute c).client.hooks = c.client.hooks := by
  induction commands generalizing c with
  | nil => rfl
  | cons command commands ih =>
    rw [List.foldl_cons, ih]
    cases command <;> rfl

/-- Every event leaves the hooks with the keys that the page looks at. -/
theorem Holds.step (holds : c.Holds) (e : Event) : (c.step e).Holds := by
  obtain ⟨m, -, sent⟩ | ⟨-, ⟨action, navigated, moved⟩ |
    ⟨before, x, after, outcome, -, -, arrived⟩ | same⟩ := c.step_cases e
  · let taken : Console := { c with page := (c.page.update c.scene m).1 }
    let commands := (c.page.update c.scene m).2
    have mounted : (commands.foldl execute taken).Mounted := fun i => by
      rw [hooks_foldl_execute, (foldl_execute commands taken).1]
      exact (holds.mounted i).trans (by rw [Page.width_update])
    rw [sent]
    exact mounted.holds_refresh _
  · rw [moved]
    exact Mounted.holds_refresh (c := c.navigate action) holds.mounted navigated
  · obtain ⟨c', refreshed, -, -, -, client, page⟩ := c.arrive_eq x (before ++ after) outcome
    have width : c'.page.width = c.page.width := by
      obtain page | ⟨result, job, page⟩ := page <;> rw [page]
      exact Page.width_finish result c.page job
    have mounted : c'.Mounted := fun i => by
      rw [client, Client.hooks_receive, width]
      exact holds.mounted i
    rw [arrived, refreshed]
    exact mounted.holds_refresh false
  · rwa [same]

theorem holds_start (search : String) (routes : Routes) : (start search routes).Holds :=
  (mounted_mountHooks fun _ => rfl).holds_refresh true

namespace Run

variable {log : List (Console × Event)}

/-- **Hooks hold the keys of the page.**  Between two events every hook of the page holds the key
that the page looks at there, and there are no other hooks. -/
theorem lookup_hooks (run : Run log c) (i : Nat) :
    c.client.hooks.lookup i = (c.page.keys c.scene)[i]? := by
  have holds : c.Holds := by
    induction run with
    | start search routes => exact holds_start search routes
    | step _ e ih => exact ih.step e
  exact holds i

/-- The client of a run can come about by the steps of a client. -/
theorem reachable (run : Run log c) : c.client.Reachable := by
  have refresh {c : Console} (navigated : Bool) (reach : c.client.Reachable) :
      (c.refresh navigated).client.Reachable := by
    have swapped {c : Console} (reach : c.client.Reachable) : c.swapHooks.client.Reachable :=
      quiet_foldl (fun h reach => reach.tail (.perform _ (.swap h.2 h.1))) _ reach
    have followed {c : Console} (navigated : Bool) (reach : c.client.Reachable) :
        (c.follow navigated).2.client.Reachable := by
      unfold Console.follow
      simp only
      split <;> exact swapped reach
    have entered : c.enter.client.Reachable := by
      unfold Console.enter
      split
      · exact reach
      · exact quiet_foldl (fun i reach => reach.tail (.perform _ (.mount i))) _
          (quiet_foldl (fun i reach => reach.tail (.perform _ (.unmount i))) _ reach)
    have once := followed navigated entered
    unfold Console.refresh
    simp only
    split
    · exact (followed true once).tail (.depart _)
    · exact once.tail (.depart _)
  induction run with
  | start search routes =>
    exact refresh true (quiet_foldl (fun i reach => reach.tail (.perform _ (.mount i))) _ .refl)
  | @step _ c _ e ih =>
    obtain ⟨m, -, sent⟩ | ⟨-, ⟨action, navigated, moved⟩ | ⟨before, x, after, outcome, -, pending,
      arrived⟩ | same⟩ := c.step_cases e
    · have written (commands : List (Command Page.Job)) {c : Console}
          (reach : c.client.Reachable) : (commands.foldl execute c).client.Reachable := by
        induction commands generalizing c with
        | nil => exact reach
        | cons command commands ih =>
          apply ih
          cases command with
          | navigate action => exact reach
          | write m body job => exact reach.tail (.perform _ (.write m body _ _))
      rw [sent]
      exact refresh _ (written _ (c := { c with page := _ }) ih)
    · rw [moved]
      exact refresh (c := c.navigate action) navigated ih
    · obtain ⟨c', refreshed, -, -, -, client, -⟩ := c.arrive_eq x (before ++ after) outcome
      rw [arrived, refreshed]
      exact refresh false (client ▸ ih.tail (.answer outcome pending))
    · rwa [same]

/-- What a hook holds is among the keys that the page looks at. -/
theorem mem_keys (run : Run log c) {i : Nat} {k : QueryKey} (held : c.client.held i = some k) :
    some k ∈ c.page.keys c.scene := by
  rw [Client.held_eq_some_iff, run.lookup_hooks i] at held
  exact List.mem_of_getElem? held

end Run

end Console

end MetricConsole
