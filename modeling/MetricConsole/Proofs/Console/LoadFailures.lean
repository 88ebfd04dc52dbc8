import MetricConsole.Proofs.Console.UnsavedEdits
import MetricConsole.Proofs.Page.EditableList
import MetricConsole.Proofs.Page.Warnings

/-!
# Loads of the detail of a metric that fail

The page loads the metric, its versions, the calibers, and the bindings of one of the versions.  If
the metric cannot be loaded and no value of it is there, the page has nothing to show: a warning
takes the place of everything else, the errors of the other loads included.  Otherwise the page
warns of the errors of the versions and of the bindings, and shows what was loaded before.

* `Client.Fetched`: every error in the cache is the result of a request.
* `ApiError.isSolid_userMessage`: the text of such an error is not blank.
* `Page.MetricDetail.Load`: what the page loads.
* `Console.Run.load_errors_shown`: which errors the page warns of.
* `Console.Run.error_hidden`: it does not warn of all.
-/

namespace MetricConsole

open Page

/-! ## Errors that requests end in -/

namespace ApiError

/-- A request can end in the error. -/
def IsResult (e : ApiError) : Prop :=
  ∃ (timeoutMs : Nat) (outcome : Outcome), outcome.result timeoutMs = .error e

theorem IsResult.ne_invalidInput {e : ApiError} (result : e.IsResult) (text : String) :
    e ≠ .invalidInput text := by
  rintro rfl
  rcases result with ⟨timeoutMs, outcome, ended⟩
  cases outcome with
  | failed | timedOut => cases ended
  | answered status body =>
    simp only [Outcome.result, Outcome.decodeBody] at ended
    split at ended
    · split at ended
      · cases ended
      · split at ended <;> cases ended
    · cases ended

/-- Such an error has a text that is not blank. -/
theorem isSolid_userMessage {e : ApiError} (result : e.IsResult) : Text.IsSolid e.userMessage := by
  cases e with
  | network | timeout | decode =>
    simp only [userMessage]
    decide
  | status code body =>
    simp only [userMessage]
    split
    · decide
    · refine Text.isSolid_of_ends (c := 'R') (d := ')') (by simp) ?_ (by decide) (by decide)
      rw [String.toList_append, List.getLast?_append]
      rfl
  | invalidInput text => exact absurd rfl (result.ne_invalidInput text)

end ApiError

namespace Client

variable {ι ω : Type}

/-- Every error in the cache is one that a request ended in. -/
def Fetched (c : Client ι ω) : Prop := ∀ k, ∀ e ∈ (c.cache.get k).error, e.IsResult

theorem fetched_closed : Closed (Fetched : Client ι ω → Prop) :=
  entries_closed (P := fun _ entry => ∀ e ∈ entry.error, e.IsResult) fun _ _ _ _ _ holds => holds

theorem Fetched.receive {c : Client ι ω} (fetched : c.Fetched) (x : Exchange ω)
    (outcome : Outcome) : (c.receive x outcome).2.Fetched := by
  rcases c.receive_cases x outcome with ⟨t, -, done⟩ | ⟨m, _, _, _, -, -, done⟩ |
    ⟨_, _, _, _, -, -, done⟩
  · rw [done]
    intro k e error
    rcases c.cache.complete_cases t (outcome.result ApiConfig.console.timeoutMs) with
      ⟨-, settled⟩ | ⟨-, dropped⟩
    · simp only [settled, Cache.get_put] at error
      split at error
      · cases result : outcome.result ApiConfig.console.timeoutMs with
        | ok value =>
          rw [result] at error
          cases error
        | error err =>
          rw [result] at error
          cases error
          exact ⟨_, outcome, result⟩
      · exact fetched k e error
    · rw [dropped] at error
      exact fetched k e error
  · rw [done]
    exact fetched_closed.invalidate m.invalidations fetched
  · rwa [done]

end Client

/-! ## The page -/

namespace Page.MetricDetail

/-- What the page loads, one for each of its hooks. -/
inductive Load where
  | metric
  | versions
  | calibers
  | bindings
  deriving DecidableEq

/-- The hook of a load. -/
def Load.hook : Load → Nat
  | .metric => 0
  | .versions => 1
  | .calibers => 2
  | .bindings => 3

/-- The key of a load. -/
def Load.key (scene : Scene) : Load → Option QueryKey
  | .metric => metricKey scene
  | .versions => versionsKey scene
  | .calibers => some .calibers
  | .bindings => bindingsKey scene

theorem Load.getElem?_keys (scene : Scene) (l : Load) :
    (keys scene)[l.hook]? = some (l.key scene) := by
  cases l <;> rfl

/-- What a metric that is gone is shown by. -/
def goneText : String := "Metric not found. It may have been deleted."

/-- Why the metric cannot be shown, by the error of its load. -/
def failureText (e : ApiError) : String :=
  if e.isNotFound then goneText else "Failed to load metric: " ++ e.userMessage

/-- The text of the error stands in it, unless the metric is gone. -/
theorem mentions_failureText {μ : Type} {ts : Tokens μ} {e : ApiError} (result : e.IsResult)
    (warns : ts.Warns (failureText e)) :
    ts.mentions (if e.isNotFound then goneText else e.userMessage) = true := by
  unfold failureText at warns
  split
  · next gone =>
    rw [if_pos gone] at warns
    exact warns.mentions (by decide)
  · next other =>
    rw [if_neg other] at warns
    have solid : Text.IsSolid ("Failed to load metric: " ++ e.userMessage) :=
      (ApiError.isSolid_userMessage result).append (c := 'F') rfl (by decide)
    refine Tokens.mentions_of_infix (warns.mentions solid) ?_
    rw [String.toList_append]
    exact (List.suffix_append _ _).isInfix

section View

variable {scene : Scene} {s : State} {e : ApiError}

theorem loadFailure?_of_missing (missing : metric? scene = none)
    (error : (scene.see (metricKey scene)).error = some e) :
    loadFailure? scene = some (failureText e) := by
  simp only [loadFailure?, missing, error]
  rfl

/-- Without a value of the metric, its error is all that the page shows. -/
theorem view_of_missing (selected : scene.nav.metricId.isSome = true)
    (missing : metric? scene = none) (error : (scene.see (metricKey scene)).error = some e) :
    view scene s =
      errorBox (failureText e) ++
        [button .secondary true (iconLabel .arrowLeft "Back to list") .backToList] := by
  rcases Option.isSome_iff_exists.mp selected with ⟨id, selected⟩
  simp only [view, selected, loadFailure?_of_missing missing error]

/-- Otherwise the cards are there. -/
theorem cardsShown_of_found (selected : scene.nav.metricId.isSome = true)
    (found : metric? scene = none → (scene.see (metricKey scene)).error = none) :
    cardsShown scene = true := by
  have loaded : loadFailure? scene = none := by
    unfold loadFailure?
    split
    · rfl
    · next missing => rw [found missing, Option.map_none]
  simp [cardsShown, selected, loaded]

/-- The page warns of the error of the versions. -/
theorem warns_versions (shown : cardsShown scene = true)
    (error : (scene.see (versionsKey scene)).error = some e) :
    (view scene s).Warns e.userMessage := by
  refine (warns_queryStatus (scene.see (metricKey scene)).isLoading e loading).mono ?_
  simp only [EditableList.view_of_shown shown, error, List.append_assoc]
  exact (List.prefix_append _ _).isInfix

/-- The page warns of the error of the bindings. -/
theorem warns_bindings (shown : cardsShown scene = true)
    (error : (scene.see (bindingsKey scene)).error = some e) :
    (view scene s).Warns e.userMessage := by
  refine Tokens.Warns.mono ?_ (EditableList.view_shows_cards shown s).2
  refine (warns_queryStatus (scene.see (bindingsKey scene)).isLoading e loading).mono ?_
  simp only [bindingsCard, error, List.append_assoc]
  exact ⟨_ ++ (_ ++ _), _, by simp only [List.append_assoc]; rfl⟩

/-- The page shows the metric. -/
theorem view_shows_metric (shown : cardsShown scene = true) {m : Metric}
    (found : metric? scene = some m) : metricCard s m <:+: view scene s := by
  simp only [EditableList.view_of_shown shown, found, List.append_assoc]
  exact ⟨_ ++ (_ ++ _), _, by simp only [List.append_assoc]; rfl⟩

end View

end Page.MetricDetail

/-! ## Runs -/

namespace Console

open Page.MetricDetail (Load failureText goneText)

/-- The error that a hook of the detail of a metric sees. -/
def loadError? (c : Console) (l : Load) : Option ApiError := (c.client.snapshot l.hook).error

namespace Run

variable {log : List (Console × Event)} {c : Console}

/-- In every run the errors in the cache are results of requests. -/
theorem fetched (run : Run log c) : c.client.Fetched :=
  run.keeps Client.fetched_closed (fun _ _ => nofun) (fun fetched => fetched)
    fun {cl before x after} outcome fetched _ =>
      Client.Fetched.receive (c := { cl with pending := before ++ after }) fetched x outcome

theorem loadError?_eq (run : Run log c) {s : MetricDetail.State} (page : c.page = .metricDetail s)
    (l : Load) : c.loadError? l = (c.scene.see (l.key c.scene)).error := by
  have held : c.client.held l.hook = l.key c.scene := by
    rw [Client.held, run.lookup_hooks, page]
    exact congrArg Option.join (l.getElem?_keys c.scene)
  rw [loadError?, Client.snapshot, held]
  rfl

theorem isResult_of_loadError? (run : Run log c) {l : Load} {e : ApiError}
    (error : c.loadError? l = some e) : e.IsResult := by
  rw [loadError?, Client.snapshot, Cache.view] at error
  cases held : c.client.held l.hook with
  | none =>
    rw [held] at error
    cases error
  | some k =>
    rw [held] at error
    exact run.fetched k e error

/-- **Which errors of loads are shown.**  In every run with a metric selected: if the metric has no
value and the load of it ended in an error, a warning of that error and the way back to the list are
all that the page shows.  Otherwise the page warns of the errors of the versions and of the bindings
and shows the metric, its versions and the bindings as it has them. -/
theorem load_errors_shown (run : Run log c) {s : MetricDetail.State}
    (page : c.page = .metricDetail s) (selected : c.nav.metricId.isSome = true) :
    (∀ e, MetricDetail.metric? c.scene = none → c.loadError? .metric = some e →
      c.pageTokens =
          errorBox (failureText e) ++
            [button .secondary true (iconLabel .arrowLeft "Back to list")
              (.metricDetail .backToList)] ∧
        c.pageTokens.mentions (if e.isNotFound then goneText else e.userMessage) = true) ∧
      ((MetricDetail.metric? c.scene = none → c.loadError? .metric = none) →
        (∀ l e, l = .versions ∨ l = .bindings → c.loadError? l = some e →
          c.pageTokens.Warns e.userMessage ∧ c.pageTokens.mentions e.userMessage = true) ∧
        (∀ m, MetricDetail.metric? c.scene = some m →
          (MetricDetail.metricCard s m).map (Token.map .metricDetail) <:+: c.pageTokens) ∧
        (MetricDetail.versionsCard s).map (Token.map .metricDetail) <:+: c.pageTokens ∧
        (MetricDetail.bindingsCard c.scene s).map (Token.map .metricDetail) <:+: c.pageTokens) := by
  have tokens : c.pageTokens = (MetricDetail.view c.scene s).map (Token.map .metricDetail) := by
    rw [pageTokens, page]
    rfl
  constructor
  · intro e missing error
    have result := run.isResult_of_loadError? error
    rw [run.loadError?_eq page] at error
    have all : c.pageTokens =
        errorBox (failureText e) ++
          [button .secondary true (iconLabel .arrowLeft "Back to list")
            (.metricDetail .backToList)] := by
      rw [tokens, MetricDetail.view_of_missing selected missing error, List.map_append,
        map_errorBox]
      rfl
    refine ⟨all, MetricDetail.mentions_failureText result ?_⟩
    rw [all]
    exact (List.prefix_append _ _).isInfix
  · intro found
    rw [run.loadError?_eq page] at found
    have shown : MetricDetail.cardsShown c.scene = true :=
      MetricDetail.cardsShown_of_found selected found
    rw [tokens]
    refine ⟨fun l e one error => ?_, fun m there => ?_, ?_, ?_⟩
    · have solid := ApiError.isSolid_userMessage (run.isResult_of_loadError? error)
      rw [run.loadError?_eq page] at error
      have warns : (MetricDetail.view c.scene s).Warns e.userMessage := by
        rcases one with rfl | rfl
        · exact MetricDetail.warns_versions shown error
        · exact MetricDetail.warns_bindings shown error
      exact ⟨warns.map _, (warns.map _).mentions solid⟩
    · exact (MetricDetail.view_shows_metric shown there).map _
    · exact (EditableList.view_shows_cards shown s).1.map _
    · exact (EditableList.view_shows_cards shown s).2.map _

/-- Metric 7 is opened; the load of it ends in some way, and the load of its versions in an error of
the catalog. -/
def versionsFailed (metric : Outcome) : List (Console × Event) × Console :=
  (Console.start "?view=caliber" []).replay
    [.answer 0 (.answered 200 "[]"), .choose "Versions",
      .answer 0 (.answered 200 ("[" ++ metricSeven ++ "]")), .navigate (.openMetric 7),
      .answer 1 metric, .answer 0 (.answered 500 "")]

theorem versionsFailed_run (metric : Outcome) :
    Run (versionsFailed metric).1 (versionsFailed metric).2 :=
  Run.replay "?view=caliber" [] _

/-- If the metric is loaded, the error of its versions is there. -/
theorem versionsFailed_loaded :
    basicName? (versionsFailed (.answered 200 metricSeven)).2.page = some "a" ∧
      (versionsFailed (.answered 200 metricSeven)).2.nav.metricId.isSome = true ∧
      (MetricDetail.metric? (versionsFailed (.answered 200 metricSeven)).2.scene).isSome = true ∧
      (versionsFailed (.answered 200 metricSeven)).2.loadError? .versions =
        some (.status 500 "") := by
  decide +kernel

/-- If the metric is not loaded, both errors are there, and the second is not on the page. -/
theorem versionsFailed_lost :
    basicName? (versionsFailed (.failed "")).2.page = some "" ∧
      (versionsFailed (.failed "")).2.nav.metricId.isSome = true ∧
      (MetricDetail.metric? (versionsFailed (.failed "")).2.scene).isNone = true ∧
      (versionsFailed (.failed "")).2.loadError? .metric = some (.network "") ∧
      (versionsFailed (.failed "")).2.loadError? .versions = some (.status 500 "") ∧
      (versionsFailed (.failed "")).2.pageTokens.mentions "Request failed (HTTP 500)" = false := by
  decide +kernel

/-- The error of the versions is shown if the metric is there, and that of the metric if not. -/
theorem load_errors_shown_failed :
    (versionsFailed (.answered 200 metricSeven)).2.pageTokens.Warns "Request failed (HTTP 500)" ∧
      (versionsFailed (.failed "")).2.pageTokens.mentions "Network error, please try again" =
        true := by
  constructor
  · rcases versionsFailed_loaded with ⟨detail, selected, there, error⟩
    have run := versionsFailed_run (.answered 200 metricSeven)
    generalize versionsFailed (.answered 200 metricSeven) = loaded at *
    rcases basic_of_basicName? detail with ⟨s, page, -⟩
    rcases run.load_errors_shown page selected with ⟨-, otherwise⟩
    rcases otherwise fun missing => absurd there (by simp [missing]) with ⟨warned, -⟩
    exact (warned .versions _ (.inl rfl) error).1
  · rcases versionsFailed_lost with ⟨detail, selected, missing, error, -⟩
    have run := versionsFailed_run (.failed "")
    generalize versionsFailed (.failed "") = lost at *
    rcases basic_of_basicName? detail with ⟨s, page, -⟩
    rcases run.load_errors_shown page selected with ⟨failure, -⟩
    exact (failure _ (Option.isNone_iff_eq_none.mp missing) error).2

/-- Not every error that a hook of the page sees is on the page. -/
theorem error_hidden :
    ¬ ∀ (log : List (Console × Event)) (c : Console) (s : MetricDetail.State) (l : Load)
      (e : ApiError), Run log c → c.page = .metricDetail s → c.nav.metricId.isSome = true →
      c.loadError? l = some e →
      c.pageTokens.mentions e.userMessage = true ∨
        l = .metric ∧ c.pageTokens.mentions goneText = true := by
  intro surfaced
  rcases versionsFailed_lost with ⟨detail, selected, -, -, error, hidden⟩
  have run := versionsFailed_run (.failed "")
  generalize versionsFailed (.failed "") = lost at *
  rcases basic_of_basicName? detail with ⟨s, page, -⟩
  rcases surfaced _ _ s .versions _ run page selected error with shown | ⟨metric, -⟩
  · exact absurd (hidden.symm.trans shown) Bool.false_ne_true
  · cases metric

end Run

end Console

end MetricConsole
