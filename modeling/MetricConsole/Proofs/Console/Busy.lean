import MetricConsole.Proofs.Console.Traffic
import MetricConsole.Proofs.Page.Attempt

/-!
# One write at a time

The detail of a metric and the management of versions have one flag each that all their writes
share: a write puts it up, its answer puts it down, and the buttons for writes are disabled while it
is up.  So of one showing of these pages there is never more than one write under way.

* `Gate.Sound`: a flag of a page counts the writes of some jobs, in every step by itself.
* `Console.Run.gate_eq`: in every run the flag counts the writes of the showing under way.
* `Console.Run.one_write_at_a_time`: what that means for the two pages, and what each event sends.
-/

namespace MetricConsole

open Page

/-! ## Flags -/

/-- A flag that a page may have, and the jobs that it stands for. -/
structure Gate where
  isUp : Page → Option Bool
  guards : Page.Job → Bool

namespace Gate

/-- The command starts a write for one of the jobs. -/
def starts (g : Gate) : Command Page.Job → Bool
  | .navigate _ => false
  | .write _ _ job => g.guards job

/-- The exchange is a write for one of the jobs, sent by a showing. -/
def counts (g : Gate) (showing : Nat) (x : Exchange Errand) : Bool :=
  x.errand?.any fun errand => errand.showing == showing && g.guards errand.job

/-- The flag is down at first, follows scenes without a change, goes up with each write for one of
the jobs and down with its result.  The page sends no message for a write while it is up. -/
structure Sound (g : Gate) : Prop where
  fresh : ∀ v, g.isUp (.ofView v) ≠ some true
  sync : ∀ navigated scene (p : Page), g.isUp (p.sync navigated scene).1 = g.isUp p
  update : ∀ scene (p : Page), (p.view scene).Guarded fun m =>
    (g.isUp (p.update scene m).1).map Bool.toNat =
      (g.isUp p).map fun up => (p.update scene m).2.countP g.starts + up.toNat
  finish : ∀ result (p : Page) (job : Page.Job), job.viewKey = p.viewKey →
    g.isUp (p.finish result job) = (g.isUp p).map fun up => up && !g.guards job

theorem Sound.followed {g : Gate} (sound : g.Sound) {p p' : Page} (followed : p.Followed p') :
    g.isUp p' = g.isUp p := by
  induction followed with
  | refl => rfl
  | tail _ step ih =>
    obtain ⟨navigated, scene, rfl⟩ := step
    rw [sound.sync, ih]

theorem countP_write? (g : Gate) (showing : Nat) (commands : List (Command Page.Job)) :
    (commands.filterMap (Command.write? showing)).countP (g.counts showing) =
      commands.countP g.starts := by
  rw [List.countP_filterMap]
  refine List.countP_congr fun command _ => ?_
  cases command <;> simp [Command.write?, counts, starts, Exchange.errand?]

/-- Only writes of the showing count. -/
theorem errand_of_counts {g : Gate} {showing : Nat} {x : Exchange Errand}
    (counted : g.counts showing x = true) :
    ∃ errand, x.errand? = some errand ∧ errand.showing = showing := by
  unfold counts at counted
  cases written : x.errand? with
  | none => simp [written] at counted
  | some errand =>
    simp only [written, Option.any_some, Bool.and_eq_true, beq_iff_eq] at counted
    exact ⟨errand, rfl, counted.1⟩

theorem isWrite_of_counts {g : Gate} {showing : Nat} {x : Exchange Errand}
    (counted : g.counts showing x = true) : x.isWrite = true := by
  obtain ⟨errand, written, -⟩ := errand_of_counts counted
  simp [Exchange.isWrite, written]

end Gate

namespace Console

/-- Whatever an event sends to a guarded page meets the condition. -/
theorem meets_of_message? {c : Console} {e : Event} {m : Page.Msg} {meets : Page.Msg → Prop}
    (guarded : c.pageTokens.Guarded meets) (message : c.message? e = some m) : meets m := by
  cases e with
  | press label nth =>
    simp only [message?] at message
    split at message
    · cases message
    · exact guarded.press (Option.join_eq_some_iff.mp message)
  | fill name value nth => exact guarded.fill message
  | openTab value => exact guarded.openTab message
  | choose | navigate | answer => cases message

namespace Run

variable {log : List (Console × Event)} {c : Console} {g : Gate}

/-- An event by itself keeps the count: a command puts the flag up, and the answer to a write puts
it down. -/
theorem gate_told (run : Run log c) (sound : g.Sound)
    (counted : ∀ up, g.isUp c.page = some up →
      c.client.pending.countP (g.counts c.showing) = up.toNat) (e : Event) {up : Bool}
    (flag : g.isUp (c.told e) = some up) :
    (c.unanswered e ++ c.commanded e).countP (g.counts c.showing) = up.toNat := by
  obtain ⟨m, message, told, same, commanded⟩ | ⟨-, silent, ⟨before, x, after, outcome, -, pending,
    others, told⟩ | ⟨told, same⟩⟩ := c.told_cases e
  · have step := meets_of_message? (sound.update c.scene c.page) message
    rw [← told, flag, Option.map_some, eq_comm, Option.map_eq_some_iff] at step
    obtain ⟨was, flag', count⟩ := step
    rw [same, commanded, List.countP_append, counted was flag', g.countP_write?, Nat.add_comm]
    exact count
  · rw [silent, List.append_nil, others]
    rw [told] at flag
    have whole (was : Bool) (flag' : g.isUp c.page = some was) :
        (before ++ after).countP (g.counts c.showing) +
          (if g.counts c.showing x then 1 else 0) = was.toNat := by
      rw [← counted was flag', pending, List.countP_append, List.countP_append, List.countP_cons,
        Nat.add_assoc]
    cases purpose : x.purpose with
    | read t =>
      simp only [answered, purpose] at flag
      have read : g.counts c.showing x = false := by simp [Gate.counts, Exchange.errand?, purpose]
      simpa [read] using whole up flag
    | write mutation shape errand =>
      have written : x.errand? = some errand := by simp [Exchange.errand?, purpose]
      simp only [answered, purpose] at flag
      split at flag
      · next here =>
        have inside : x ∈ c.client.pending := by simp [pending]
        have view := (run.homed x inside errand written).2 here
        rw [sound.finish _ _ _ view, Option.map_eq_some_iff] at flag
        obtain ⟨was, flag', down⟩ := flag
        have count := whole was flag'
        have own : g.counts c.showing x = g.guards errand.job := by
          simp [Gate.counts, written, here]
        rw [own] at count
        cases guarded : g.guards errand.job with
        | false => simpa [guarded, ← down] using count
        | true =>
          -- the answered write was the one that the flag counted
          have one := was.toNat_le
          simp only [guarded, if_true] at count
          simp only [← down, guarded, Bool.not_true, Bool.and_false, Bool.toNat_false]
          omega
      · next other =>
        have foreign : g.counts c.showing x = false := by simp [Gate.counts, written, other]
        simpa [foreign] using whole up flag
  · rw [silent, List.append_nil, same]
    exact counted up (told ▸ flag)

/-- **A flag counts the writes under way.**  In every run the flag of the page is up exactly while
a write for its jobs that the present showing sent is under way, and there are never two. -/
theorem gate_eq (run : Run log c) (sound : g.Sound) {up : Bool} (flag : g.isUp c.page = some up) :
    c.client.pending.countP (g.counts c.showing) = up.toNat := by
  -- a page that was just put in place has its flag down, and has sent nothing
  have fresh {v : ViewKey} {p : Page} (followed : (Page.ofView v).Followed p) {up : Bool}
      (flag : g.isUp p = some up) : up = false := by
    rw [sound.followed followed] at flag
    cases up with
    | false => rfl
    | true => exact absurd flag (sound.fresh v)
  induction run generalizing up with
  | start search routes =>
    obtain ⟨v, followed⟩ := start_page search routes
    rw [fresh followed flag]
    refine List.countP_eq_zero.mpr fun x mem counts => ?_
    have written := List.mem_filter.mpr ⟨mem, Gate.isWrite_of_counts counts⟩
    rw [start_writes] at written
    cases written
  | @step log c run e ih =>
    obtain ⟨showing, followed⟩ | ⟨showing, v, followed⟩ := c.page_told e
    · rw [sound.followed followed] at flag
      rw [showing, ← run.gate_told sound (fun up => ih) e flag, pending_step, List.countP_append,
        List.countP_append, ← (run.writes_sends e).countP_eq, List.countP_filter]
      congr 1
      refine List.countP_congr fun x _ => ?_
      simpa using Gate.isWrite_of_counts
    · rw [fresh followed flag, showing]
      refine List.countP_eq_zero.mpr fun x mem counts => ?_
      obtain ⟨errand, written, here⟩ := Gate.errand_of_counts counts
      have earlier := (run.homed_of_step run.homed mem errand written).1
      omega

end Run

end Console

/-! ## The flag of the two pages -/

namespace Page

theorem busy?_sync (navigated : Bool) (scene : Scene) (p : Page) :
    (p.sync navigated scene).1.busy? = p.busy? := by
  cases p with
  | metricDetail s =>
    refine congrArg some ?_
    simp only [MetricDetail.sync, MetricDetail.syncCards, MetricDetail.syncBasic]
    split <;> split <;> (try split) <;> rfl
  | _ => rfl

theorem isSome_busy?_update (scene : Scene) (p : Page) (m : Msg) :
    (p.update scene m).1.busy?.isSome = p.busy?.isSome := by
  cases p <;> cases m <;> rfl

/-- A message that a page of the two allows starts one write, and then the page was not busy and is
now; or it writes nothing, because something that it needs is missing or it needs nothing. -/
theorem update_cases {scene : Scene} {p : Page} {busy : Bool} (flag : p.busy? = some busy) {m : Msg}
    (allowed : (p.requisites scene m).isSome = true → p.isBusy = false) :
    ((∃ mutation body job, (p.update scene m).2 = [.write mutation body job]) ∧ busy = false ∧
        (p.update scene m).1.busy? = some true) ∨
      ((∀ command ∈ (p.update scene m).2, ∃ action, command = .navigate action) ∧
        (p.update scene m).1.busy? = some busy ∧
        ∀ r, p.requisites scene m = some r → r.met = false) := by
  have one : p.busy?.isSome = true := by rw [flag]; rfl
  obtain ⟨up, flag'⟩ := Option.isSome_iff_exists.mp ((p.isSome_busy?_update scene m).trans one)
  have attempts := attempts_update scene one m
  simp only [isBusy, flag, flag', Option.getD_some, Attempts] at attempts allowed
  split at attempts
  · next met =>
    obtain ⟨r, needed, -⟩ := (Option.any_eq_true ..).mp met
    obtain ⟨writes, rfl⟩ := attempts
    exact .inl ⟨writes, allowed (Option.isSome_iff_exists.mpr ⟨r, needed⟩), flag'⟩
  · next unmet =>
    obtain ⟨moves, rfl⟩ := attempts
    exact .inr ⟨moves, flag', fun r needed => by simpa [needed] using unmet⟩

/-- A page is not busy after the result of one of its writes. -/
theorem busy?_finish (result : Except ApiError Json) {p : Page} {job : Job}
    (own : job.viewKey = p.viewKey) :
    (p.finish result job).busy? = p.busy?.map fun _ => false := by
  cases p <;> cases job <;> try cases own
  case metricDetail.metricDetail.refl s j => cases result <;> cases j <;> rfl
  case versions.versions.refl s j => cases j <;> rfl
  all_goals rfl

end Page

/-- The flag that all writes of a page share. -/
def busyGate : Gate := ⟨Page.busy?, fun _ => true⟩

theorem busyGate_sound : busyGate.Sound where
  fresh v := by cases v <;> nofun
  sync := Page.busy?_sync
  update scene p := by
    refine (p.guarded_view scene).mono fun m allowed => ?_
    change (p.update scene m).1.busy?.map Bool.toNat = p.busy?.map _
    cases flag : p.busy? with
    | none =>
      have still := p.isSome_busy?_update scene m
      rw [flag, Option.isSome_none, Option.isSome_eq_false_iff, Option.isNone_iff_eq_none] at still
      rw [still]
      rfl
    | some up =>
      obtain ⟨⟨mutation, body, job, commands⟩, rfl, flag'⟩ | ⟨moves, flag', -⟩ :=
        Page.update_cases flag allowed
      · rw [flag', commands]
        rfl
      · have idle : (p.update scene m).2.countP busyGate.starts = 0 := by
          refine List.countP_eq_zero.mpr fun command mem => ?_
          obtain ⟨action, rfl⟩ := moves command mem
          exact Bool.false_ne_true
        simp [flag', idle]
  finish result p job own := (Page.busy?_finish result own).trans (by simp [busyGate])

/-! ## Writes of the two pages -/

namespace Console

/-- The writes of the present showing that have no answer yet. -/
def writing (c : Console) : List (Exchange Errand) :=
  c.client.pending.filter fun x => x.errand?.any fun errand => errand.showing == c.showing

namespace Run

variable {log : List (Console × Event)} {c : Console}

theorem length_writing (run : Run log c) {busy : Bool} (flag : c.page.busy? = some busy) :
    c.writing.length = busy.toNat := by
  rw [← run.gate_eq busyGate_sound flag, writing, ← List.countP_eq_length_filter]
  exact List.countP_congr fun x _ => by simp [Gate.counts, busyGate]

/-- A write that a busy page has sent is the one that it waits for. -/
theorem writing_step (run : Run log c) {e : Event} {x : Exchange Errand} {job : Page.Job}
    (sent : (c.sends e).filter Exchange.isWrite = [x])
    (own : x.errand? = some ⟨c.showing, job⟩) (showing : (c.step e).showing = c.showing)
    (flag : (c.step e).page.busy? = some true) : (c.step e).writing = [x] := by
  obtain ⟨y, only⟩ := List.length_eq_one_iff.mp ((run.step e).length_writing flag)
  have leaves : x ∈ c.sends e :=
    (List.mem_filter.mp (sent ▸ List.mem_singleton_self x)).1
  have under : x ∈ (c.step e).client.pending := by
    rw [pending_step]
    exact List.mem_append_right _ leaves
  have counted : x ∈ (c.step e).writing := List.mem_filter.mpr ⟨under, by simp [own, showing]⟩
  rw [only] at counted ⊢
  rw [List.mem_singleton.mp counted]

/-- **One write at a time.**  In every run, whatever was pressed and in whichever order answers
came, the showing of one of the two pages has at most one write without an answer, and the page is
busy exactly while there is one.  Any event that is not itself an answer sends exactly one write,
and then the page was not busy and is now; or it sends none and leaves the page as busy as it was,
unless the page goes.  A message for a write sends none only if something is not selected or its
form is turned down. -/
theorem one_write_at_a_time (run : Run log c) {busy : Bool} (flag : c.page.busy? = some busy) :
    c.writing.length ≤ 1 ∧ (busy = true ↔ c.writing.length = 1) ∧
      ∀ e, (∀ position outcome, e ≠ .answer position outcome) →
        (∃ x, (c.sends e).filter Exchange.isWrite = [x] ∧ busy = false ∧
          (c.step e).showing = c.showing ∧ (c.step e).page.busy? = some true ∧
          (c.step e).writing = [x]) ∨
        ((c.sends e).filter Exchange.isWrite = [] ∧
          ((c.step e).showing = c.showing → (c.step e).page.busy? = some busy) ∧
          ∀ m r, c.message? e = some m → c.page.requisites c.scene m = some r →
            r.selected = false ∨ ∃ f, r.fault = some f) := by
  have length := run.length_writing flag
  refine ⟨length ▸ busy.toNat_le, ?_, fun e other => ?_⟩
  · rw [length]
    cases busy <;> decide
  have writes := run.writes_sends e
  -- the page is as busy after the event as it was told
  have kept {up : Bool} (told : (c.told e).busy? = some up)
      (same : (c.step e).showing = c.showing) : (c.step e).page.busy? = some up := by
    obtain ⟨-, followed⟩ | ⟨next, -⟩ := c.page_told e
    · exact (busyGate_sound.followed followed).trans told
    · omega
  obtain ⟨m, message, told, -, commanded⟩ | ⟨silent, idle, ⟨_, _, _, _, rfl, -⟩ | ⟨told, -⟩⟩ :=
    c.told_cases e
  · have allowed := meets_of_message? (c.page.guarded_view c.scene) message
    obtain ⟨⟨mutation, body, job, commands⟩, idle, flag'⟩ | ⟨moves, flag', unmet⟩ :=
      Page.update_cases flag allowed
    · have still : c.asked e = [] := by
        simp only [asked, message, moves, commands]
        rfl
      obtain ⟨showing, -⟩ := run.stays (e := e) (by rw [still]; rfl)
      have busy := kept (told ▸ flag') showing
      rw [commanded, commands] at writes
      have single := List.perm_singleton.mp writes
      exact .inl ⟨_, single, idle, showing, busy, run.writing_step single rfl showing busy⟩
    · have idle : c.commanded e = [] := by
        rw [commanded]
        refine List.filterMap_eq_nil_iff.mpr fun command mem => ?_
        obtain ⟨action, rfl⟩ := moves command mem
        rfl
      rw [idle] at writes
      refine .inr ⟨writes.eq_nil, kept (told ▸ flag'), fun m' r message' needed => ?_⟩
      obtain rfl : m = m' := Option.some.inj (message.symm.trans message')
      have missing := unmet r needed
      simpa [Requisites.met, Option.isSome_iff_exists, or_iff_not_imp_left] using missing
  · exact absurd rfl (other _ _)
  · rw [idle] at writes
    refine .inr ⟨writes.eq_nil, kept (told ▸ flag), fun m r message => ?_⟩
    rw [silent] at message
    cases message

/-- The versions of metric 7 are shown, and its publication is requested. -/
def publishPressed : List (Console × Event) × Console :=
  (Console.start "?view=version" []).replay
    [.answer 0 (.answered 200 "[[7,\"\",\"\",\"\",null,null,null,\"\",null,null,null,\"\",\"\"]]"),
      .press "icon:upload Request publish" 0]

/-- While the request waits for its answer the page is busy, and pressing again sends no write. -/
theorem one_write_at_a_time_pressed :
    publishPressed.2.page.busy? = some true ∧ publishPressed.2.writing.length = 1 ∧
      (publishPressed.2.sends (.press "icon:upload Request publish" 0)).filter Exchange.isWrite =
        [] := by
  have flag : publishPressed.2.page.busy? = some true := by decide +kernel
  have run : Run publishPressed.1 publishPressed.2 := .replay "?view=version" [] _
  obtain ⟨-, one, sends⟩ := run.one_write_at_a_time flag
  refine ⟨flag, one.mp rfl, ?_⟩
  obtain ⟨x, -, idle, -⟩ | ⟨unsent, -⟩ := sends (.press "icon:upload Request publish" 0) nofun
  · cases idle
  · exact unsent

end Run

end Console

end MetricConsole
