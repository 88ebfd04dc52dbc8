import Mathlib.Data.List.DropRight
import MetricConsole.Proofs.Console.Busy
import MetricConsole.Proofs.Console.UnsavedEdits
import MetricConsole.Proofs.Page.EditableList
import MetricConsole.Proofs.Page.Warnings

/-!
# What the detail of a metric says about its writes

The page says in an error or in a notice what became of the last thing that it was told to write.
A write that is sent clears both, and its result sets one of them.  A form that is turned down sets
the error and leaves the notice alone, so the notice of an earlier write can stand beside the error.

* `Page.MetricDetail.Report`: what can become of something that the page is told to write.
* `Page.MetricDetail.Attempted.verdict_eq`, `Page.MetricDetail.verdict_finish`: what a message and
  the result of a write say.
* `Page.MetricDetail.Told.after`: what one more report leaves of what was said.
* `Console.Run.told_reports`: in every run the page says what its reports come to.
* `Console.Run.outcome_reported`: when the page speaks of the last report alone.
* `Console.Run.notice_left_over`: it does not always.
-/

namespace MetricConsole

open Page

/-! ## Reports -/

namespace Page.MetricDetail

/-- What becomes of something that the page is told to write: it is sent, and later it succeeds or
fails; or its form is turned down. -/
inductive Report where
  | submitted
  | succeeded (job : Job)
  | failed (e : ApiError)
  | rejected (f : FormFault)
  deriving DecidableEq

namespace Report

/-- The report of the result of a write. -/
def ofResult (job : Job) : Except ApiError Json → Report
  | .ok _ => .succeeded job
  | .error e => .failed e

/-- What becomes of something that is to be written, by what is wrong with its form. -/
def ofFault : Option FormFault → Report
  | none => .submitted
  | some f => .rejected f

/-- The error that a report is shown by. -/
def error? : Report → Option String
  | .failed e => some e.userMessage
  | .rejected f => some f.message
  | .submitted | .succeeded _ => none

/-- The notice that a report is shown by. -/
def notice? : Report → Option String
  | .succeeded job => some job.notice
  | .submitted | .failed _ | .rejected _ => none

/-- The report is the end of a write that was sent. -/
def isEnd : Report → Bool
  | .succeeded _ | .failed _ => true
  | .submitted | .rejected _ => false

theorem isEnd_ofFault (fault : Option FormFault) : (ofFault fault).isEnd = false := by
  cases fault <;> rfl

theorem isEnd_ofResult (job : Job) (result : Except ApiError Json) :
    (ofResult job result).isEnd = true := by
  cases result <;> rfl

/-- The report is of a form that was turned down. -/
def isRejection : Report → Bool
  | .rejected _ => true
  | .submitted | .succeeded _ | .failed _ => false

/-- The reports end with a success and the rejections that came after it. -/
def LeftOver (rs : List Report) : Prop :=
  ∃ earlier job faults, faults ≠ [] ∧ rs = earlier ++ .succeeded job :: faults.map .rejected

theorem rdropWhile_rejections (rs : List Report) (faults : List FormFault) :
    (rs ++ faults.map Report.rejected).rdropWhile isRejection =
      rs.rdropWhile isRejection := by
  induction faults using List.reverseRecOn with
  | nil => rw [List.map_nil, List.append_nil]
  | append_singleton faults f ih =>
    rw [List.map_append, List.map_singleton, ← List.append_assoc,
      List.rdropWhile_concat_pos _ _ _ rfl, ih]

/-- Reports are the ones up to the last that is no rejection, and then rejections. -/
theorem exists_rejections (rs : List Report) :
    ∃ faults : List FormFault, rs = rs.rdropWhile isRejection ++ faults.map .rejected := by
  induction rs using List.reverseRecOn with
  | nil => exact ⟨[], rfl⟩
  | append_singleton rs r ih =>
    cases r with
    | rejected f =>
      rcases ih with ⟨faults, split⟩
      refine ⟨faults ++ [f], ?_⟩
      rw [List.rdropWhile_concat_pos _ _ _ rfl, List.map_append, List.map_singleton,
        ← List.append_assoc, ← split]
    | submitted | succeeded | failed =>
      refine ⟨[], ?_⟩
      rw [List.rdropWhile_concat_neg _ _ _ Bool.false_ne_true, List.map_nil, List.append_nil]

theorem rdropWhile_success (earlier : List Report) (job : Job) (faults : List FormFault) :
    (earlier ++ succeeded job :: faults.map rejected).rdropWhile isRejection =
      earlier ++ [succeeded job] := by
  rw [← List.singleton_append, ← List.append_assoc, rdropWhile_rejections,
    List.rdropWhile_concat_neg _ _ _ Bool.false_ne_true]

/-- A success is left over exactly if the last report is a rejection and the last one that is none
is a success. -/
theorem leftOver_iff {rs : List Report} :
    LeftOver rs ↔ (∃ f, rs.getLast? = some (.rejected f)) ∧
      ∃ job, (rs.rdropWhile isRejection).getLast? = some (.succeeded job) := by
  constructor
  · rintro ⟨earlier, job, faults, nonempty, rfl⟩
    rcases List.eq_nil_or_concat' faults with rfl | ⟨faults, f, rfl⟩
    · exact absurd rfl nonempty
    · refine ⟨⟨f, by simp [List.getLast?_cons]⟩, job, ?_⟩
      rw [rdropWhile_success, List.getLast?_concat]
  · rintro ⟨⟨f, last⟩, job, standing⟩
    rcases exists_rejections rs with ⟨faults, split⟩
    rcases List.getLast?_eq_some_iff.mp standing with ⟨earlier, success⟩
    rw [success, List.append_assoc, List.singleton_append] at split
    refine ⟨earlier, job, faults, ?_, split⟩
    rintro rfl
    simp [split] at last

end Report

/-- What the page says after a report.  Only a write that is sent clears what was said before. -/
def Verdict.after (v : Verdict) : Report → Verdict
  | .submitted => ⟨none, none, true⟩
  | .succeeded job => ⟨v.error, some job.notice, false⟩
  | .failed e => ⟨some e.userMessage, v.notice, false⟩
  | .rejected f => ⟨some f.message, v.notice, v.busy⟩

/-- What the page says after something that may be reported. -/
def Verdict.afterAny (v : Verdict) (r : Option Report) : Verdict := (r.map v.after).getD v

/-! ## The verdict in a step -/

/-- What becomes of something that the page is told to write when the message arrives.  Nothing does
unless everything that it is about is selected. -/
def attempt? (r : Requisites) : Option Report :=
  if r.selected then some (.ofFault r.fault) else none

theorem isEnd_attempt? {needed : Requisites} {r : Report} (attempted : r ∈ attempt? needed) :
    r.isEnd = false := by
  unfold attempt? at attempted
  split at attempted
  · rw [← Option.some.inj attempted]
    exact Report.isEnd_ofFault _
  · cases attempted

/-- A message for a write is reported if everything that it is about is selected; no other message
says anything. -/
theorem Attempted.verdict_eq {s : State} {r : Option Requisites}
    {next : State × List (Command Job)} (attempted : Attempted s r next) :
    next.1.verdict = s.verdict.afterAny (r.bind attempt?) := by
  cases attempted with
  | started mutation body job said => exact said
  | refused f => rfl
  | passed unselected moves same =>
    have silent : r.bind attempt? = none := by
      cases r with
      | none => rfl
      | some needed => simp [attempt?, unselected needed rfl]
    rw [silent]
    exact same

/-- The result of a write is reported. -/
theorem verdict_finish (s : State) (job : Job) (result : Except ApiError Json) :
    (finish s job result).verdict = s.verdict.after (.ofResult job result) := by
  cases result <;> cases job <;> rfl

/-- Following a scene says nothing. -/
theorem verdict_sync (scene : Scene) (s : State) : (sync scene s).verdict = s.verdict := by
  simp only [sync, syncCards, syncBasic]
  split <;> split <;> (try split) <;> rfl

/-! ## The verdict after reports -/

/-- What is said after reports.  The error is for the last one; the notice is for the last one that
is no rejection.  The page is busy exactly if the last one has no end yet. -/
structure Told (rs : List Report) (v : Verdict) : Prop where
  error : v.error = rs.getLast?.bind Report.error?
  notice : v.notice = (rs.rdropWhile Report.isRejection).getLast?.bind Report.notice?
  busy : v.busy = true ↔ rs.getLast? = some .submitted

namespace Told

variable {rs : List Report} {v : Verdict}

/-- Nothing is said at first. -/
theorem initial : Told [] (State.verdict MetricDetail.initial) where
  error := rfl
  notice := rfl
  busy := ⟨nofun, nofun⟩

/-- While the page is busy neither an error nor a notice is there. -/
theorem silent (told : Told rs v) (busy : v.busy = true) : v.error = none ∧ v.notice = none := by
  have last := told.busy.mp busy
  rcases List.getLast?_eq_some_iff.mp last with ⟨earlier, rfl⟩
  refine ⟨by rw [told.error, last]; rfl, ?_⟩
  rw [told.notice, List.rdropWhile_concat_neg _ _ _ (by decide), last]
  rfl

/-- One more report.  An end comes while the page is busy, and everything else while it is not. -/
theorem after (told : Told rs v) {r : Report} (turn : r.isEnd = v.busy) :
    Told (rs ++ [r]) (v.after r) := by
  have last : (rs ++ [r]).getLast? = some r := List.getLast?_concat
  have kept (other : r.isRejection = false) :
      (rs ++ [r]).rdropWhile Report.isRejection = rs ++ [r] :=
    List.rdropWhile_concat_neg _ _ _ (by simp [other])
  cases r with
  | submitted =>
    exact
      { error := by rw [last]; rfl
        notice := by rw [kept rfl, last]; rfl
        busy := by simp [last, Verdict.after] }
  | succeeded job =>
    exact
      { error := by rw [last]; exact (told.silent turn.symm).1
        notice := by rw [kept rfl, last]; rfl
        busy := by simp [last, Verdict.after] }
  | failed e =>
    exact
      { error := by rw [last]; rfl
        notice := by rw [kept rfl, last]; exact (told.silent turn.symm).2
        busy := by simp [last, Verdict.after] }
  | rejected f =>
    have dropped : (rs ++ [Report.rejected f]).rdropWhile Report.isRejection =
        rs.rdropWhile Report.isRejection := List.rdropWhile_concat_pos _ _ _ rfl
    exact
      { error := by rw [last]; rfl
        notice := by rw [dropped]; exact told.notice
        busy := by simp [last, Verdict.after, ← turn, Report.isEnd] }

/-- The same for something that may be reported. -/
theorem afterAny (told : Told rs v) {r : Option Report}
    (turn : ∀ report ∈ r, report.isEnd = v.busy) : Told (rs ++ r.toList) (v.afterAny r) := by
  cases r with
  | none =>
    rw [Option.toList_none, List.append_nil]
    exact told
  | some report => exact told.after (turn report rfl)

/-- Either the error or the notice is missing, and both are for the last report, exactly if no
success is left over. -/
theorem exclusive_iff (told : Told rs v) :
    (v.error = none ∨ v.notice = none) ∧ v.notice = rs.getLast?.bind Report.notice? ↔
      ¬ Report.LeftOver rs := by
  rw [told.error, told.notice, Report.leftOver_iff]
  rcases List.eq_nil_or_concat' rs with rfl | ⟨earlier, r, rfl⟩
  · simp
  · cases r with
    | rejected f =>
      have dropped := List.rdropWhile_concat_pos Report.isRejection earlier (.rejected f) rfl
      rw [dropped, List.getLast?_concat]
      cases (earlier.rdropWhile Report.isRejection).getLast? with
      | none => simp [Report.error?, Report.notice?]
      | some r => cases r <;> simp [Report.error?, Report.notice?]
    | _ =>
      rw [List.rdropWhile_concat_neg _ _ _ Bool.false_ne_true, List.getLast?_concat]
      simp [Report.error?, Report.notice?]

/-- If rejections came after a success, the error is for the last of them and the notice for the
success. -/
theorem left_over (told : Told rs v) {earlier : List Report} {job : Job} {faults : List FormFault}
    {f : FormFault} (split : rs = earlier ++ .succeeded job :: (faults ++ [f]).map .rejected) :
    v.error = some f.message ∧ v.notice = some job.notice := by
  rw [told.error, told.notice, split, Report.rdropWhile_success, List.getLast?_concat]
  exact ⟨by simp [List.getLast?_cons, Report.error?], rfl⟩

end Told

/-- As long as the cards are there, the page shows the error as a warning, and then the notice. -/
theorem view_shows_verdict {scene : Scene} (shown : cardsShown scene = true) (s : State) :
    errorBox? s.error ++ (s.notice.map say).getD [] <:+: view scene s := by
  rw [EditableList.view_of_shown shown]
  exact ⟨_, _ ++ (_ ++ (_ ++ _)), by simp only [List.append_assoc]; rfl⟩

end Page.MetricDetail

open Page.MetricDetail (Report Told Verdict)

/-- What the detail of a metric says about its writes; other pages are left out. -/
def Page.verdict? : Page → Option Verdict
  | .metricDetail s => some s.verdict
  | _ => none

/-- The job of a write of the detail of a metric. -/
def Page.Job.detail? : Page.Job → Option MetricDetail.Job
  | .metricDetail job => some job
  | _ => none

namespace Page

theorem verdict?_sync (navigated : Bool) (scene : Scene) (p : Page) :
    (p.sync navigated scene).1.verdict? = p.verdict? := by
  cases p with
  | metricDetail s => exact congrArg some (MetricDetail.verdict_sync scene s)
  | _ => rfl

theorem Followed.verdict? {p p' : Page} (followed : p.Followed p') : p'.verdict? = p.verdict? := by
  induction followed with
  | refl => rfl
  | tail _ step ih =>
    obtain ⟨navigated, scene, rfl⟩ := step
    rw [verdict?_sync, ih]

/-- A page that was just put in place says nothing. -/
theorem verdict?_ofView {v : ViewKey} {said : Verdict} (shown : (ofView v).verdict? = some said) :
    said = MetricDetail.State.verdict MetricDetail.initial := by
  cases v with
  | metricDetail => exact (Option.some.inj shown).symm
  | _ => cases shown

theorem verdict?_update (scene : Scene) (s : MetricDetail.State) (m : Msg) :
    (update scene (.metricDetail s) m).1.verdict? =
      some (s.verdict.afterAny
        ((requisites scene (.metricDetail s) m).bind MetricDetail.attempt?)) := by
  cases m with
  | metricDetail m => exact congrArg some (MetricDetail.attempted_update scene s m).verdict_eq
  | _ => rfl

theorem verdict?_finish (s : MetricDetail.State) {job : Job} (own : job.viewKey = .metricDetail)
    (result : Except ApiError Json) :
    (finish result (.metricDetail s) job).verdict? =
      some (s.verdict.afterAny (job.detail?.map (Report.ofResult · result))) := by
  cases job with
  | metricDetail j => exact congrArg some (MetricDetail.verdict_finish s j result)
  | _ => cases own

theorem isSome_verdict?_update (scene : Scene) (p : Page) (m : Msg) :
    (p.update scene m).1.verdict?.isSome = p.verdict?.isSome := by
  cases p <;> cases m <;> rfl

theorem isSome_verdict?_finish (result : Except ApiError Json) (p : Page) (job : Job) :
    (p.finish result job).verdict?.isSome = p.verdict?.isSome := by
  cases p <;> cases job <;> rfl

theorem metricDetail_of_verdict? {p : Page} (speaks : p.verdict?.isSome = true) :
    ∃ s, p = .metricDetail s := by
  cases p with
  | metricDetail s => exact ⟨s, rfl⟩
  | _ => cases speaks

end Page

/-! ## Reports in a run -/

namespace Console

/-- What the answer to an exchange reports to the detail of a metric.  Only a write that the present
showing sent has to do with it. -/
def ended? (c : Console) (x : Exchange Errand) (outcome : Outcome) : Option Report :=
  match x.purpose with
  | .read _ => none
  | .write _ shape errand =>
    if errand.showing = c.showing then
      errand.job.detail?.map (Report.ofResult · (outcomeOf shape outcome))
    else none

/-- What an event reports to the page. -/
def report? (c : Console) (e : Event) : Option Report :=
  match c.message? e with
  | some m => (c.page.requisites c.scene m).bind MetricDetail.attempt?
  | none =>
    match e with
    | .answer position outcome => (c.client.pending[position]?).bind fun x => c.ended? x outcome
    | _ => none

/-- What the events of a run have reported to the showing of a page. -/
def reports (showing : Nat) (log : List (Console × Event)) : List Report :=
  log.filterMap fun p => if p.1.showing = showing then p.1.report? p.2 else none

theorem reports_concat (log : List (Console × Event)) (c : Console) (e : Event) :
    reports c.showing (log ++ [(c, e)]) = reports c.showing log ++ (c.report? e).toList := by
  cases report : c.report? e <;> simp [reports, report]

theorem reports_concat_of_ne {showing : Nat} (log : List (Console × Event)) {c : Console}
    (e : Event) (other : c.showing ≠ showing) :
    reports showing (log ++ [(c, e)]) = reports showing log := by
  simp [reports, other]

namespace Run

variable {log : List (Console × Event)} {c : Console}

/-- Events were met by this showing or an earlier one. -/
theorem showing_le (run : Run log c) : ∀ p ∈ log, p.1.showing ≤ c.showing := by
  induction run with
  | start => exact fun p mem => absurd mem List.not_mem_nil
  | @step log c run e ih =>
    have next : c.showing ≤ (c.step e).showing := by
      rcases c.page_told e with ⟨same, -⟩ | ⟨next, -⟩ <;> omega
    intro p mem
    rcases List.mem_append.mp mem with earlier | last
    · exact Nat.le_trans (ih p earlier) next
    · rw [List.mem_singleton.mp last]
      exact next

/-- Nothing was reported to a showing that is still to come. -/
theorem reports_eq_nil (run : Run log c) {showing : Nat} (later : c.showing < showing) :
    reports showing log = [] := by
  refine List.filterMap_eq_nil_iff.mpr fun p mem => if_neg ?_
  have := run.showing_le p mem
  omega

/-- A page that has a write of its own under way is busy. -/
theorem busy_of_write (run : Run log c) {busy : Bool} (flag : c.page.busy? = some busy)
    {x : Exchange Errand} (under : x ∈ c.client.pending) {errand : Errand}
    (written : x.errand? = some errand) (own : errand.showing = c.showing) : busy = true := by
  have waited : x ∈ c.writing := List.mem_filter.mpr ⟨under, by simp [written, own]⟩
  have length := run.length_writing flag
  cases busy with
  | true => rfl
  | false => exact absurd (List.length_eq_zero_iff.mp length ▸ waited) List.not_mem_nil

theorem isSome_verdict?_told (c : Console) (e : Event) :
    (c.told e).verdict?.isSome = c.page.verdict?.isSome := by
  rcases c.told_page e with ⟨m, -, told⟩ | ⟨-, told | ⟨result, job, told⟩⟩
  · rw [told, Page.isSome_verdict?_update]
  · rw [told]
  · rw [told, Page.isSome_verdict?_finish]

/-- The answer to an exchange tells the detail of a metric what it reports, and nothing else.  It
reports an end, and only to a page that waits for one. -/
theorem verdict_answered (run : Run log c) {s : MetricDetail.State}
    (page : c.page = .metricDetail s) {x : Exchange Errand} (under : x ∈ c.client.pending)
    (outcome : Outcome) :
    (c.answered x outcome).verdict? = some (s.verdict.afterAny (c.ended? x outcome)) ∧
      ∀ r ∈ c.ended? x outcome, r.isEnd = s.busy := by
  cases purpose : x.purpose with
  | read ticket =>
    have unended : c.ended? x outcome = none := by simp only [ended?, purpose]
    have same : c.answered x outcome = c.page := by simp only [answered, purpose]
    rw [unended, same, page]
    exact ⟨rfl, fun r ended => absurd ended (Option.not_mem_none r)⟩
  | write mutation shape errand =>
    have written : x.errand? = some errand := by simp [Exchange.errand?, purpose]
    simp only [ended?, answered, purpose]
    by_cases own : errand.showing = c.showing
    · have kind := (run.homed x under errand written).2 own
      have busy := run.busy_of_write (congrArg Page.busy? page) under written own
      rw [page] at kind
      rw [if_pos own, if_pos own, page]
      refine ⟨Page.verdict?_finish s kind _, fun r ended => ?_⟩
      rcases Option.map_eq_some_iff.mp ended with ⟨job, -, rfl⟩
      rw [Report.isEnd_ofResult, busy]
    · rw [if_neg own, if_neg own, page]
      exact ⟨rfl, fun r ended => absurd ended (Option.not_mem_none r)⟩

/-- An event tells the detail of a metric what it reports, and nothing else.  An end comes while the
page is busy, and everything else while it is not. -/
theorem verdict_told (run : Run log c) {s : MetricDetail.State} (page : c.page = .metricDetail s)
    (e : Event) :
    (c.told e).verdict? = some (s.verdict.afterAny (c.report? e)) ∧
      ∀ r ∈ c.report? e, r.isEnd = s.busy := by
  rcases c.told_cases e with ⟨m, message, told, -⟩ |
    ⟨silent, -, ⟨before, x, after, outcome, rfl, pending, -, told⟩ | ⟨told, unanswered⟩⟩
  · have allowed := meets_of_message? (c.page.guarded_view c.scene) message
    have report : c.report? e = (c.page.requisites c.scene m).bind MetricDetail.attempt? := by
      simp only [report?, message]
    rw [page] at allowed report
    rw [told, report, page]
    refine ⟨Page.verdict?_update c.scene s m, fun r reported => ?_⟩
    rcases Option.bind_eq_some_iff.mp reported with ⟨needed, asked, attempted⟩
    rw [MetricDetail.isEnd_attempt? attempted]
    exact (allowed (Option.isSome_iff_exists.mpr ⟨needed, asked⟩)).symm
  · have found : c.client.pending[before.length]? = some x := by simp [pending]
    have report : c.report? (.answer before.length outcome) = c.ended? x outcome := by
      simp only [report?, silent, found]
      rfl
    rw [report, told]
    exact run.verdict_answered page (by simp [pending]) outcome
  · have unreported : c.report? e = none := by
      simp only [report?, silent]
      cases e with
      | answer position outcome =>
        have beyond := List.eraseIdx_eq_self.mp unanswered
        simp [List.getElem?_eq_none beyond]
      | _ => rfl
    rw [told, unreported, page]
    exact ⟨rfl, nofun⟩

/-- **What the page says of its writes.**  In every run the detail of a metric says what the events
of its present showing have reported. -/
theorem told_reports (run : Run log c) {s : MetricDetail.State} (page : c.page = .metricDetail s) :
    Told (reports c.showing log) s.verdict := by
  induction run generalizing s with
  | start search routes =>
    rcases start_page search routes with ⟨v, followed⟩
    have said := followed.verdict?
    rw [page] at said
    rw [Page.verdict?_ofView said.symm]
    exact .initial
  | @step log c run e ih =>
    rcases c.page_told e with ⟨same, followed⟩ | ⟨next, v, followed⟩
    · have said := followed.verdict?
      rw [page] at said
      rcases Page.metricDetail_of_verdict? (p := c.page)
        (by rw [← isSome_verdict?_told c e, ← said]; rfl) with ⟨s₀, page₀⟩
      rw [same, reports_concat]
      rcases run.verdict_told page₀ e with ⟨told, turn⟩
      rw [told] at said
      rw [Option.some.inj said]
      exact (ih page₀).afterAny turn
    · have said := followed.verdict?
      rw [page] at said
      rw [Page.verdict?_ofView said.symm, reports_concat_of_ne _ _ (by omega),
        run.reports_eq_nil (by omega)]
      exact .initial

/-- **When the page speaks of the last report alone.**  In every run the error is that of the last
report, if it has one.  Either the error or the notice is missing, and the notice too is that of the
last report, exactly if the reports do not end with a success that only rejections came after.  If
they do, the notice of the success stands beside the error of the last rejection.  The page shows
both. -/
theorem outcome_reported (run : Run log c) {s : MetricDetail.State}
    (page : c.page = .metricDetail s) :
    s.error = (reports c.showing log).getLast?.bind Report.error? ∧
      ((s.error = none ∨ s.notice = none) ∧
          s.notice = (reports c.showing log).getLast?.bind Report.notice? ↔
        ¬ Report.LeftOver (reports c.showing log)) ∧
      (∀ earlier job faults f,
        reports c.showing log =
            earlier ++ .succeeded job :: (faults ++ [f]).map .rejected →
          s.error = some f.message ∧ s.notice = some job.notice) ∧
      (MetricDetail.cardsShown c.scene = true →
        errorBox? s.error ++ (s.notice.map say).getD [] <:+: c.pageTokens) := by
  have told := run.told_reports page
  refine ⟨told.error, told.exclusive_iff, fun _ _ _ _ split => told.left_over split, ?_⟩
  intro shown
  have there := (MetricDetail.view_shows_verdict shown s).map (Token.map Page.Msg.metricDetail)
  rw [List.map_append, map_errorBox?, map_say?] at there
  rw [pageTokens, page]
  exact there

/-- Metric 7 is shown and saved as it is, and then an empty form for a version is turned down. -/
def versionRejected : List (Console × Event) × Console :=
  (Console.start "?view=caliber" []).replay
    [.answer 0 (.answered 200 "[]"), .choose "Versions",
      .answer 0 (.answered 200 ("[" ++ metricSeven ++ "]")), .navigate (.openMetric 7),
      .answer 1 (.answered 200 metricSeven), .press "Save basic info" 0, .answer 1 metricSaved,
      .press "Create version" 0]

/-- The write was sent and succeeded, and then the form was turned down. -/
theorem versionRejected_facts :
    versionRejected.2.page.verdict?.isSome = true ∧
      MetricDetail.cardsShown versionRejected.2.scene = true ∧
      reports versionRejected.2.showing versionRejected.1 =
        [.submitted, .succeeded .saveBasic, .rejected (.missing "Grain")] := by
  decide +kernel

theorem versionRejected_run : Run versionRejected.1 versionRejected.2 :=
  Run.replay "?view=caliber" [] _

/-- The notice of the write stands beside the error of the form. -/
theorem outcome_reported_rejected :
    ∃ s, versionRejected.2.page = .metricDetail s ∧ s.error = some "Grain is required" ∧
      s.notice = some "Basic info saved" ∧
      errorBox "Grain is required" ++ say "Basic info saved" <:+: versionRejected.2.pageTokens := by
  rcases versionRejected_facts with ⟨detail, cards, reported⟩
  have run := versionRejected_run
  generalize versionRejected = rejected at *
  rcases Page.metricDetail_of_verdict? detail with ⟨s, page⟩
  rcases run.outcome_reported page with ⟨-, -, leftover, shown⟩
  rcases leftover [.submitted] .saveBasic [] (.missing "Grain") reported with ⟨error, notice⟩
  have there := shown cards
  rw [error, notice] at there
  exact ⟨s, page, error, notice, there⟩

/-- Not in every run is the error or the notice missing. -/
theorem notice_left_over :
    ¬ ∀ (log : List (Console × Event)) (c : Console) (s : MetricDetail.State), Run log c →
      c.page = .metricDetail s → s.error = none ∨ s.notice = none := by
  intro exclusive
  rcases versionRejected_facts with ⟨detail, -, reported⟩
  have run := versionRejected_run
  generalize versionRejected = rejected at *
  rcases Page.metricDetail_of_verdict? detail with ⟨s, page⟩
  have told := run.told_reports page
  have split : reports rejected.2.showing rejected.1 =
      [.submitted] ++ .succeeded .saveBasic :: ([] ++ [FormFault.missing "Grain"]).map .rejected :=
    reported
  rcases told.left_over split with ⟨error, notice⟩
  rcases exclusive _ _ s run page with unsaid | unsaid
  · exact absurd (error.symm.trans unsaid) nofun
  · exact absurd (notice.symm.trans unsaid) nofun

end Run

end Console

end MetricConsole
