import MetricConsole.Proofs.Console.Selection

/-!
# What an event sends and what it answers

An event is taken by the page, or by the navigation, or it answers an exchange; then it is carried
through.  The exchanges under way are afterwards those that it did not answer and those that it
sent, and the writes among the latter are the ones that the page commands.

* `Console.step_acted`: what an event does before it is carried through.
* `Console.pending_step`: the exchanges under way after an event.
* `Console.Run.writes_sends`: which writes an event sends.
* `Console.Run.inPlace`: the page is the one of the active view.
* `Console.Run.homed`: a write was sent by a showing that there was; one that the present showing
  sent is for the page that is there.
-/

namespace MetricConsole

open Page

/-! ## Writes and the pages they are for -/

/-- The errand of a write; a read has none. -/
def Exchange.errand? (x : Exchange Errand) : Option Errand :=
  match x.purpose with
  | .read _ => none
  | .write _ _ errand => some errand

theorem Exchange.purpose_of_errand? {x : Exchange Errand} {errand : Errand}
    (written : x.errand? = some errand) :
    ∃ mutation shape, x.purpose = .write mutation shape errand := by
  unfold errand? at written
  split at written
  · cases written
  · next mutation shape errand' purpose =>
    exact ⟨mutation, shape, Option.some.inj written ▸ purpose⟩

/-- The exchange is a write. -/
def Exchange.isWrite (x : Exchange Errand) : Bool := x.errand?.isSome

/-- The write that a command starts in a showing. -/
def Command.write? (showing : Nat) : Command Page.Job → Option (Exchange Errand)
  | .navigate _ => none
  | .write m body job => some ⟨m.request body, .write m m.shape ⟨showing, job⟩⟩

/-- The view of the page that a job belongs to. -/
def Page.Job.viewKey : Page.Job → ViewKey
  | .metricList _ => .metricList
  | .metricDetail _ => .metricDetail
  | .caliberLibrary _ => .caliber
  | .versions _ => .version

namespace Page

@[simp]
theorem viewKey_ofView (v : ViewKey) : (ofView v).viewKey = v := by
  cases v <;> rfl

@[simp]
theorem viewKey_sync (navigated : Bool) (scene : Scene) (p : Page) :
    (p.sync navigated scene).1.viewKey = p.viewKey := by
  cases p <;> rfl

@[simp]
theorem viewKey_update (scene : Scene) (p : Page) (m : Msg) :
    (p.update scene m).1.viewKey = p.viewKey := by
  cases p <;> cases m <;> rfl

@[simp]
theorem viewKey_finish (result : Except ApiError Json) (p : Page) (job : Job) :
    (p.finish result job).viewKey = p.viewKey := by
  cases p <;> cases job <;> rfl

theorem Followed.viewKey {p p' : Page} (followed : p.Followed p') : p'.viewKey = p.viewKey := by
  induction followed with
  | refl => rfl
  | tail _ step ih =>
    obtain ⟨navigated, scene, rfl⟩ := step
    rw [viewKey_sync, ih]

/-- A page commands writes of its own. -/
theorem viewKey_of_write {scene : Scene} {p : Page} {m : Msg} {mutation : Mutation}
    {body : Option Json} {job : Job} (written : .write mutation body job ∈ (p.update scene m).2) :
    job.viewKey = p.viewKey := by
  cases p <;> cases m
  case metricList.metricList | metricDetail.metricDetail | caliberLibrary.caliberLibrary |
      versions.versions =>
    obtain ⟨command, -, same⟩ := List.mem_map.mp written
    cases command with
    | navigate action => cases same
    | write => cases same; rfl
  case dashboard.dashboard m => cases m <;> cases List.mem_singleton.mp written
  all_goals cases written

end Page

namespace Console

/-! ## Before an event is carried through -/

/-- What the sender of a write gets of the answer to it. -/
def outcomeOf (shape : Shape) (outcome : Outcome) : Except ApiError Json :=
  (outcome.result ApiConfig.console.timeoutMs).bind (Client.shaped shape)

/-- The page after the answer to an exchange.  Only a write that it sent itself has to do with
it. -/
def answered (c : Console) (x : Exchange Errand) (outcome : Outcome) : Page :=
  match x.purpose with
  | .read _ => c.page
  | .write _ shape errand =>
    if errand.showing = c.showing then c.page.finish (outcomeOf shape outcome) errand.job
    else c.page

/-- The page as an event leaves it, before it follows what it sees. -/
def told (c : Console) : Event → Page
  | .answer position outcome =>
    match c.client.pending[position]? with
    | some x => c.answered x outcome
    | none => c.page
  | e =>
    match c.message? e with
    | some m => (c.page.update c.scene m).1
    | none => c.page

/-- The event is the answer to an exchange. -/
def Event.isAnswer : Event → Bool
  | .answer _ _ => true
  | _ => false

/-- The exchanges under way that an event leaves unanswered. -/
def unanswered (c : Console) : Event → List (Exchange Errand)
  | .answer position _ => c.client.pending.eraseIdx position
  | _ => c.client.pending

/-- The writes that the page commands at an event. -/
def commanded (c : Console) (e : Event) : List (Exchange Errand) :=
  match c.message? e with
  | some m => (c.page.update c.scene m).2.filterMap (Command.write? c.showing)
  | none => []

/-- What an event itself asks of the navigation. -/
def asked (c : Console) (e : Event) : List NavAction :=
  match c.message? e with
  | some m => c.page.moves c.scene m
  | none =>
    match e with
    | .press label nth => ((c.headerTokens.press? label nth).join).toList
    | .choose label =>
      (((Vocabulary.all (α := ViewKey)).find? fun v =>
        label.toList.isSuffixOf (menuLabel v).toList).map .show).toList
    | .navigate action => [action]
    | _ => []

/-- An event is taken by the page, or it answers an exchange, or the page is not told. -/
theorem told_cases (c : Console) (e : Event) :
    (∃ m, c.message? e = some m ∧ c.told e = (c.page.update c.scene m).1 ∧
        c.unanswered e = c.client.pending ∧
        c.commanded e = (c.page.update c.scene m).2.filterMap (Command.write? c.showing)) ∨
      c.message? e = none ∧ c.commanded e = [] ∧
        ((∃ before x after outcome, e = .answer before.length outcome ∧
            c.client.pending = before ++ x :: after ∧ c.unanswered e = before ++ after ∧
            c.told e = c.answered x outcome) ∨
          c.told e = c.page ∧ c.unanswered e = c.client.pending) := by
  cases message : c.message? e with
  | some m =>
    refine .inl ⟨m, rfl, ?_, ?_, by simp only [commanded, message]⟩
    all_goals cases e with
      | answer => cases message
      | _ => simp only [told, unanswered, message]
  | none =>
    refine .inr ⟨rfl, by simp only [commanded, message], ?_⟩
    cases e with
    | answer position outcome =>
      cases found : c.client.pending[position]? with
      | some x =>
        obtain ⟨inside, rfl⟩ := List.getElem?_eq_some_iff.mp found
        refine .inl ⟨c.client.pending.take position, c.client.pending[position],
          c.client.pending.drop (position + 1), outcome, ?_, ?_, ?_, ?_⟩
        · rw [List.length_take_of_le (Nat.le_of_lt inside)]
        · rw [List.getElem_cons_drop, List.take_append_drop]
        · exact List.eraseIdx_eq_take_drop_succ _ _
        · simp only [told, found]
      | none =>
        refine .inr ⟨by simp only [told, found], ?_⟩
        exact List.eraseIdx_of_length_le (List.getElem?_eq_none_iff.mp found)
    | _ => exact .inr ⟨by simp only [told, message], rfl⟩

/-- An event tells the page a message, or the result of a write, or nothing. -/
theorem told_page (c : Console) (e : Event) :
    (∃ m, c.message? e = some m ∧ c.told e = (c.page.update c.scene m).1) ∨
      c.message? e = none ∧
        (c.told e = c.page ∨ ∃ result job, c.told e = c.page.finish result job) := by
  obtain ⟨m, message, taken, -⟩ | ⟨silent, -, ⟨_, x, _, outcome, -, -, -, taken⟩ | ⟨same, -⟩⟩ :=
    c.told_cases e
  · exact .inl ⟨m, message, taken⟩
  · refine .inr ⟨silent, ?_⟩
    rw [taken]
    unfold answered
    split
    · exact .inl rfl
    · split
      · exact .inr ⟨_, _, rfl⟩
      · exact .inl rfl
  · exact .inr ⟨silent, .inl same⟩

/-- What an event does to the console before it is carried through. -/
structure Acted (c : Console) (e : Event) (navigated : Bool) (c' : Console) : Prop where
  page : c'.page = c.told e
  showing : c'.showing = c.showing
  sent : c'.sent = c.sent
  pending : c'.client.pending = c.unanswered e
  writes : c'.client.outbox.filter Exchange.isWrite =
    c.client.outbox.filter Exchange.isWrite ++ c.commanded e
  nav : c'.nav = c.nav.run (c.asked e)
  still : navigated = false → c'.nav.metricId = c.nav.metricId

theorem isWrite_of_write? {showing : Nat} {command : Command Page.Job} {x : Exchange Errand}
    (written : command.write? showing = some x) : x.isWrite = true := by
  cases command with
  | navigate action => cases written
  | write m body job => cases written; rfl

/-- Commands start their writes, one after the other. -/
theorem client_foldl_execute (commands : List (Command Page.Job)) (c : Console) :
    (commands.foldl execute c).client =
      { c.client with
        outbox := c.client.outbox ++ commands.filterMap (Command.write? c.showing) } := by
  induction commands generalizing c with
  | nil => simp
  | cons command commands ih =>
    rw [List.foldl_cons, ih]
    cases command with
    | navigate action => rfl
    | write m body job => simp [execute, Client.write, Client.send, Command.write?]

/-- A message is taken by the page. -/
theorem send_acted {c : Console} {e : Event} {m : Page.Msg} (message : c.message? e = some m) :
    ∃ navigated c', Acted c e navigated c' ∧ c.send m = c'.refresh navigated := by
  let taken : Console := { c with page := (c.page.update c.scene m).1 }
  let commands := (c.page.update c.scene m).2
  obtain ⟨page, showing, sent⟩ := foldl_execute commands taken
  have client := client_foldl_execute commands taken
  have nav := nav_foldl_execute commands taken
  refine ⟨commands.any navigates, commands.foldl execute taken, ⟨?_, showing, sent, ?_, ?_, ?_, ?_⟩,
    rfl⟩
  · rw [page]
    cases e with
    | answer => cases message
    | _ => simp only [told, message, taken]
  · rw [client]
    cases e with
    | answer => cases message
    | _ => rfl
  · have all : ∀ x ∈ commands.filterMap (Command.write? c.showing), x.isWrite = true := by
      intro x mem
      obtain ⟨command, -, written⟩ := List.mem_filterMap.mp mem
      exact isWrite_of_write? written
    rw [client]
    simp only [commanded, message, List.filter_append]
    rw [List.filter_eq_self.mpr all]
  · rw [nav]
    simp only [asked, message]
    rfl
  · intro quiet
    have still : commands.filterMap Command.action? = [] := by
      refine List.filterMap_eq_nil_iff.mpr fun command mem => ?_
      cases command with
      | navigate action => exact absurd rfl (List.any_eq_false.mp quiet _ mem)
      | write => rfl
    rw [nav, still]
    rfl

/-- The second client has the exchanges of the first under way, and no other writes wait. -/
def ReadsOnly (cl cl' : Client Nat Errand) : Prop :=
  cl'.pending = cl.pending ∧
    cl'.outbox.filter Exchange.isWrite = cl.outbox.filter Exchange.isWrite

theorem readsOnly_quiet (cl : Client Nat Errand) : Client.Quiet (ReadsOnly cl) where
  fetch := by
    rintro cl' k ⟨same, writes⟩
    obtain ⟨-, unasked⟩ | ⟨-, -, started⟩ := cl'.fetch_cases k
    · rw [unasked]
      exact ⟨same, writes⟩
    · rw [started]
      exact ⟨same, by simp [writes, Ticket.exchange, Exchange.isWrite, Exchange.errand?]⟩
  expire _ holds := holds
  observe _ holds := holds
  unobserve _ holds := holds
  hooks _ holds := holds

/-- An answer goes to the client, and the result of a write to the page that sent it. -/
theorem arrive_acted {c : Console} {before after : List (Exchange Errand)} {x : Exchange Errand}
    (pending : c.client.pending = before ++ x :: after) (outcome : Outcome) :
    ∃ c', Acted c (.answer before.length outcome) false c' ∧
      c.arrive x (before ++ after) outcome = c'.refresh false := by
  let remaining : Client Nat Errand := { c.client with pending := before ++ after }
  let received : Console := { c with client := (remaining.receive x outcome).2 }
  have found : c.client.pending[before.length]? = some x := by simp [pending]
  have others : c.client.pending.eraseIdx before.length = before ++ after := by
    rw [pending, List.eraseIdx_append_of_length_le (Nat.le_refl _)]
    simp
  -- the client starts reads at most, and takes nothing more from those under way
  have client : ReadsOnly remaining (remaining.receive x outcome).2 :=
    Client.receive_keeps (I := ReadsOnly remaining) ⟨rfl, rfl⟩ (fun _ _ => ⟨rfl, rfl⟩)
      (fun is => (readsOnly_quiet remaining).invalidate is ⟨rfl, rfl⟩) x outcome
  refine ⟨{ received with page := c.answered x outcome }, ⟨?_, rfl, rfl, ?_, ?_, rfl, fun _ => rfl⟩,
    ?_⟩
  · simp only [told, found]
  · exact client.1.trans others.symm
  · exact client.2.trans (by simp [commanded, message?, remaining])
  · simp only [arrive, Client.receive, answered, outcomeOf, received, remaining]
    cases purpose : x.purpose with
    | read t => rfl
    | write m shape errand =>
      cases outcome.result ApiConfig.console.timeoutMs <;>
        · simp only [deliver, Except.bind]
          split <;> rfl

/-- An event that sends the page a message is the sending of it. -/
theorem step_of_message? {c : Console} {e : Event} {m : Page.Msg}
    (message : c.message? e = some m) : c.step e = c.send m := by
  obtain ⟨m', message', sent⟩ | ⟨silent, -⟩ := c.step_cases e
  · rw [message, Option.some.injEq] at message'
    rw [sent, message']
  · rw [message] at silent
    cases silent

/-- A change of the navigation that sends the page nothing. -/
theorem navigate_acted {c : Console} {e : Event} {action : NavAction} (navigated : Bool)
    (silent : c.message? e = none) (asked : c.asked e = [action])
    (other : e.isAnswer = false)
    (still : navigated = false → (c.nav.apply action).metricId = c.nav.metricId) :
    Acted c e navigated (c.navigate action) where
  page := by
    cases e with
    | answer => cases other
    | _ => simp only [told, silent, navigate]
  showing := rfl
  sent := rfl
  pending := by
    cases e with
    | answer => cases other
    | _ => rfl
  writes := by simp [commanded, silent, navigate]
  nav := by rw [asked]; rfl
  still := still

/-- An event that does nothing. -/
theorem idle_acted {c : Console} {e : Event} (silent : c.message? e = none)
    (asked : c.asked e = []) (other : e.isAnswer = false) :
    Acted c e false c where
  page := by
    cases e with
    | answer => cases other
    | _ => simp only [told, silent]
  showing := rfl
  sent := rfl
  pending := by
    cases e with
    | answer => cases other
    | _ => rfl
  writes := by simp [commanded, silent]
  nav := by rw [asked]; rfl
  still _ := rfl

/-- **What an event does.**  Apart from the carrying through, the page takes a message or the result
of a write, the navigation takes an action, or nothing happens. -/
theorem step_acted (c : Console) (e : Event) :
    ∃ navigated c', Acted c e navigated c' ∧
      (c' = c ∧ c.step e = c ∨ c.step e = c'.refresh navigated) := by
  cases message : c.message? e with
  | some m =>
    obtain ⟨navigated, c', acted, sent⟩ := send_acted message
    exact ⟨navigated, c', acted, .inr ((step_of_message? message).trans sent)⟩
  | none =>
    cases e with
    | press label nth =>
      have asked :
          c.asked (.press label nth) = ((c.headerTokens.press? label nth).join).toList := by
        simp only [Console.asked, message]
      cases above : c.headerTokens.press? label nth with
      | some sends =>
        rw [above] at asked
        cases sends with
        | some action =>
          obtain ⟨t, mem, sends⟩ := Tokens.sends_of_press? above
          obtain rfl := sends_headerTokens mem sends
          refine ⟨false, _, navigate_acted false message asked rfl fun _ => rfl, .inr ?_⟩
          simp only [step, press, above]
        | none =>
          refine ⟨false, c, idle_acted message asked rfl, .inl ⟨rfl, ?_⟩⟩
          simp only [step, press, above]
      | none =>
        rw [above] at asked
        refine ⟨false, c, idle_acted message asked rfl, .inl ⟨rfl, ?_⟩⟩
        simp only [message?, above] at message
        simp only [step, press, above]
        split
        · next m pressed =>
          rw [pressed] at message
          cases message
        · rfl
        · rfl
    | fill name value nth =>
      refine ⟨false, c, idle_acted message (by simp only [asked, message]) rfl, .inl ⟨rfl, ?_⟩⟩
      simp only [message?] at message
      simp only [step, fill, message]
    | openTab value =>
      refine ⟨false, c, idle_acted message (by simp only [asked, message]) rfl, .inl ⟨rfl, ?_⟩⟩
      simp only [message?] at message
      simp only [step, openTab, message]
    | choose label =>
      simp only [step, choose]
      split
      · next v found =>
        have asked : c.asked (.choose label) = [.show v] := by
          simp [Console.asked, message?, found]
        refine ⟨true, _, navigate_acted true message asked rfl fun loud => ?_, .inr rfl⟩
        cases loud
      · next unknown =>
        have asked : c.asked (.choose label) = [] := by
          simp only [Console.asked, message?, unknown]
          rfl
        exact ⟨false, c, idle_acted message asked rfl, .inl ⟨rfl, rfl⟩⟩
    | navigate action =>
      refine ⟨_, _, navigate_acted (decide (action ≠ .toggleLeft)) message rfl rfl fun quiet => ?_,
        .inr rfl⟩
      obtain rfl : action = .toggleLeft := by simpa using quiet
      rfl
    | answer position outcome =>
      cases found : c.client.pending[position]? with
      | some x =>
        obtain ⟨inside, rfl⟩ := List.getElem?_eq_some_iff.mp found
        have pending : c.client.pending = c.client.pending.take position ++
            c.client.pending[position] :: c.client.pending.drop (position + 1) := by
          rw [List.getElem_cons_drop, List.take_append_drop]
        obtain ⟨c', acted, arrived⟩ := arrive_acted pending outcome
        rw [List.length_take_of_le (Nat.le_of_lt inside)] at acted
        refine ⟨false, c', acted, .inr ?_⟩
        simp only [step, found]
        rw [List.eraseIdx_eq_take_drop_succ, arrived]
      | none =>
        have beyond : c.client.pending.length ≤ position := List.getElem?_eq_none_iff.mp found
        refine ⟨false, c, ⟨?_, rfl, rfl, ?_, ?_, rfl, fun _ => rfl⟩, .inl ⟨rfl, ?_⟩⟩
        · simp only [told, found]
        · exact (List.eraseIdx_of_length_le beyond).symm
        · simp [commanded, message?]
        · simp only [step, found]

/-! ## Carrying an event through -/

/-- The page is the one of the active view. -/
def InPlace (c : Console) : Prop := c.page.viewKey = c.nav.view

theorem InPlace.enter {c : Console} (inPlace : c.InPlace) : c.enter = c := if_pos inPlace

/-- A showing that lasts through a refresh was in place before. -/
theorem enter_of_showing {c : Console} {navigated : Bool}
    (same : (c.refresh navigated).showing = c.showing) : c.enter = c := by
  obtain ⟨c', carried, refreshed⟩ := c.refresh_eq navigated
  have showing : (c.refresh navigated).showing = c.enter.showing := by
    rw [refreshed]
    exact carried.showing
  obtain ⟨stays | ⟨next, -⟩, -⟩ := c.enter_cases
  · exact stays
  · omega

theorem inPlace_enter (c : Console) : c.enter.InPlace := by
  unfold Console.enter
  split
  · next inPlace => exact inPlace
  · exact Page.viewKey_ofView c.nav.view

theorem InPlace.follow {c : Console} (inPlace : c.InPlace) (navigated : Bool) :
    (c.follow navigated).2.InPlace := by
  have kept : (c.page.sync navigated c.swapHooks.scene).1.viewKey = c.nav.view := by
    rw [Page.viewKey_sync]
    exact inPlace
  unfold Console.follow
  simp only
  obtain still | ⟨id, moved⟩ := c.page.sync_cases navigated c.swapHooks.scene
  · simp only [swapHooks] at still ⊢
    rw [still]
    exact kept
  · simp only [swapHooks] at moved ⊢
    rw [moved]
    exact kept

theorem inPlace_refresh (navigated : Bool) (c : Console) : (c.refresh navigated).InPlace := by
  have once := c.inPlace_enter.follow navigated
  unfold Console.refresh
  simp only
  split
  · exact (once.follow true : _)
  · exact once

/-- A page that is in place is not put in place again. -/
theorem InPlace.refresh_page {c : Console} (inPlace : c.InPlace) (navigated : Bool) :
    (c.refresh navigated).showing = c.showing ∧ c.page.Followed (c.refresh navigated).page := by
  obtain ⟨c', carried, refreshed⟩ := c.refresh_eq navigated
  rw [inPlace.enter] at carried
  rw [refreshed]
  exact ⟨carried.showing, carried.page⟩

/-- Whatever waits leaves, and is under way from then on; carrying through adds no write. -/
theorem refresh_departs (navigated : Bool) (c : Console) :
    ∃ left, (c.refresh navigated).sent = c.sent ++ left ∧
      (c.refresh navigated).client.pending = c.client.pending ++ left ∧
      (left.filter Exchange.isWrite).Perm (c.client.outbox.filter Exchange.isWrite) := by
  obtain ⟨c', carried, refreshed⟩ := c.refresh_eq navigated
  obtain ⟨-, sent, entered⟩ := c.enter_cases
  have quiet := readsOnly_quiet c.client
  obtain ⟨pending, writes⟩ := carried.client _ quiet (entered _ quiet ⟨rfl, rfl⟩)
  refine ⟨c'.client.depart.1, ?_, ?_, ?_⟩
  · rw [refreshed, ← sent, ← carried.sent]
    rfl
  · rw [refreshed, ← pending]
    rfl
  · rw [← writes]
    exact (List.mergeSort_perm _ _).filter _

/-- After an event the exchanges under way are those that it did not answer and those that it
sent. -/
theorem pending_step (c : Console) (e : Event) :
    (c.step e).client.pending = c.unanswered e ++ c.sends e := by
  obtain ⟨navigated, c', acted, ⟨rfl, idle⟩ | refreshed⟩ := c.step_acted e
  · simp [sends, idle, ← acted.pending]
  · obtain ⟨left, sent, pending, -⟩ := c'.refresh_departs navigated
    rw [sends, refreshed, sent, acted.sent, List.drop_left, pending, acted.pending]

theorem viewKey_answered (c : Console) (x : Exchange Errand) (outcome : Outcome) :
    (c.answered x outcome).viewKey = c.page.viewKey := by
  unfold answered
  split
  · rfl
  · split
    · exact Page.viewKey_finish _ _ _
    · rfl

@[simp]
theorem viewKey_told (c : Console) (e : Event) : (c.told e).viewKey = c.page.viewKey := by
  unfold told
  split
  · split
    · exact c.viewKey_answered _ _
    · rfl
  · split
    · exact Page.viewKey_update _ _ _
    · rfl

/-- An event leaves the page with what it was told, or another one is put in place. -/
theorem page_told (c : Console) (e : Event) :
    (c.step e).showing = c.showing ∧ (c.told e).Followed (c.step e).page ∨
      (c.step e).showing = c.showing + 1 ∧ ∃ v, (Page.ofView v).Followed (c.step e).page := by
  obtain ⟨navigated, c', acted, ⟨rfl, idle⟩ | refreshed⟩ := c.step_acted e
  · rw [idle, ← acted.page]
    exact .inl ⟨rfl, .refl⟩
  · rw [refreshed, ← acted.page, ← acted.showing]
    exact c'.refresh_page navigated

/-- No write is under way at the start. -/
theorem start_writes (search : String) (routes : Routes) :
    (start search routes).client.pending.filter Exchange.isWrite = [] := by
  unfold start
  generalize Navigation.initial.apply (.readLocation search) = nav
  let c : Console := ⟨nav, .initial, .ofView nav.view, 0, routes, []⟩
  obtain ⟨pending, writes⟩ : ReadsOnly c.client c.mountHooks.client :=
    quiet_mountHooks (readsOnly_quiet c.client) ⟨rfl, rfl⟩
  obtain ⟨left, -, under, left_writes⟩ := c.mountHooks.refresh_departs true
  rw [writes] at left_writes
  rw [under, pending]
  exact left_writes.eq_nil

/-- What the page commands at an event, the present showing sends for the page. -/
theorem errand_of_commanded {c : Console} {e : Event} {x : Exchange Errand}
    (mem : x ∈ c.commanded e) :
    ∃ job, x.errand? = some ⟨c.showing, job⟩ ∧ job.viewKey = c.page.viewKey := by
  unfold commanded at mem
  split at mem
  · next m _ =>
    obtain ⟨command, commanded, written⟩ := List.mem_filterMap.mp mem
    cases command with
    | navigate action => cases written
    | write mutation body job =>
      cases written
      exact ⟨job, rfl, Page.viewKey_of_write commanded⟩
  · cases mem

/-- If the exchange is a write, it was sent by this showing or an earlier one, and in the first case
for the page that is there. -/
def Homed (c : Console) (x : Exchange Errand) : Prop :=
  ∀ errand, x.errand? = some errand → errand.showing ≤ c.showing ∧
    (errand.showing = c.showing → errand.job.viewKey = c.page.viewKey)

theorem mem_of_unanswered {c : Console} {e : Event} {x : Exchange Errand}
    (mem : x ∈ c.unanswered e) : x ∈ c.client.pending := by
  cases e with
  | answer position outcome => exact List.mem_of_mem_eraseIdx mem
  | _ => exact mem

namespace Run

variable {log : List (Console × Event)} {c : Console}

/-- Between two events the page is the one of the active view. -/
theorem inPlace (run : Run log c) : c.InPlace := by
  induction run with
  | start search routes => exact inPlace_refresh true _
  | @step _ c _ e ih =>
    obtain ⟨navigated, c', -, ⟨-, idle⟩ | refreshed⟩ := c.step_acted e
    · rwa [idle]
    · rw [refreshed]
      exact inPlace_refresh navigated c'

/-- The writes that an event sends are those that the page commands. -/
theorem writes_sends (run : Run log c) (e : Event) :
    ((c.sends e).filter Exchange.isWrite).Perm (c.commanded e) := by
  obtain ⟨navigated, c', acted, ⟨rfl, idle⟩ | refreshed⟩ := c.step_acted e
  · have uncommanded : c'.commanded e = [] := by simpa using acted.writes
    simp [sends, idle, uncommanded]
  · obtain ⟨left, sent, -, writes⟩ := c'.refresh_departs navigated
    rw [acted.writes, run.outbox_eq_nil] at writes
    rw [sends, refreshed, sent, acted.sent, List.drop_left]
    exact writes

/-- What every page keeps in all that it does holds of the page of a run. -/
theorem page_keeps {I : Page → Prop} (fresh : ∀ v, I (.ofView v))
    (sync : ∀ {navigated scene p}, I p → I (p.sync navigated scene).1)
    (update : ∀ {scene p m}, I p → I (p.update scene m).1)
    (finish : ∀ {result p job}, I p → I (p.finish result job)) (run : Run log c) : I c.page := by
  have followed {p p' : Page} (followed : p.Followed p') (holds : I p) : I p' := by
    induction followed with
    | refl => exact holds
    | tail _ step ih =>
      obtain ⟨navigated, scene, rfl⟩ := step
      exact sync ih
  induction run with
  | start search routes =>
    obtain ⟨v, after⟩ := start_page search routes
    exact followed after (fresh v)
  | @step _ c _ e ih =>
    obtain ⟨-, v, after⟩ | ⟨-, ⟨m, -, after⟩ | ⟨-, after | ⟨result, job, after⟩⟩⟩ := c.page_step e
    · exact followed after (fresh v)
    · exact followed after (update ih)
    · exact followed after ih
    · exact followed after (finish ih)

/-- An event that asks for no other view leaves the page in place. -/
theorem stays (run : Run log c) {e : Event} (still : (c.nav.run (c.asked e)).view = c.nav.view) :
    (c.step e).showing = c.showing ∧ (c.told e).Followed (c.step e).page := by
  obtain ⟨navigated, c', acted, ⟨rfl, idle⟩ | refreshed⟩ := c.step_acted e
  · rw [idle, ← acted.page]
    exact ⟨rfl, .refl⟩
  · have inPlace : c'.InPlace := by
      rw [InPlace, acted.page, viewKey_told, acted.nav, still]
      exact run.inPlace
    rw [refreshed, ← acted.page, ← acted.showing]
    exact inPlace.refresh_page navigated

/-- What an event leaves under way it found there, or the present showing sends it now. -/
theorem homed_of_step (run : Run log c) (homed : ∀ x ∈ c.client.pending, c.Homed x) {e : Event}
    {x : Exchange Errand} (mem : x ∈ (c.step e).client.pending) : c.Homed x := by
  rw [pending_step] at mem
  intro errand written
  obtain old | new := List.mem_append.mp mem
  · exact homed x (mem_of_unanswered old) errand written
  · have isWrite : x.isWrite = true := by simp [Exchange.isWrite, written]
    have commanded := (run.writes_sends e).mem_iff.mp (List.mem_filter.mpr ⟨new, isWrite⟩)
    obtain ⟨job, sent, view⟩ := errand_of_commanded commanded
    rw [written, Option.some.injEq] at sent
    exact sent ▸ ⟨Nat.le_refl _, fun _ => view⟩

/-- A write under way was sent by a showing that there was, and one that the present showing sent is
for the page that is there. -/
theorem homed (run : Run log c) : ∀ x ∈ c.client.pending, c.Homed x := by
  induction run with
  | start search routes =>
    intro x mem errand written
    have isWrite : x.isWrite = true := by simp [Exchange.isWrite, written]
    have unsent := start_writes search routes ▸ List.mem_filter.mpr ⟨mem, isWrite⟩
    cases unsent
  | @step log c run e ih =>
    intro x mem errand written
    have before := run.homed_of_step ih mem errand written
    obtain ⟨showing, followed⟩ | ⟨showing, -⟩ := c.page_told e
    · rw [showing, followed.viewKey, viewKey_told]
      exact before
    · rw [showing]
      exact ⟨Nat.le_succ_of_le before.1, fun same => absurd before.1 (by omega)⟩

end Run

end Console

end MetricConsole
