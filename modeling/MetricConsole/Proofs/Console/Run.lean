import MetricConsole.Console
import MetricConsole.Proofs.Client.Reach

/-!
# Runs of the console

`Console.Run` is a run of the console from its start: controls are used, the navigation is changed,
and the answer to any request under way arrives, in any order and with any outcome.  It records
every event with the console that it met.

* `Console.Run.replay`: any events from the start make a run.
* `Console.Carried`: how the console carries an event through; it reads, but it writes nothing.
* `Console.step_prompted`: an event does nothing, or what it does by itself is carried through.
* `Console.page_step`: how an event changes the page.
* `Console.mem_sends`: an event sends reads, and the writes that the page commands; nothing else.
* `Console.Run.answer`: an answer to a named request is a step of a run.
-/

namespace MetricConsole

/-- The second page comes of the first by following scenes. -/
abbrev Page.Followed : Page → Page → Prop :=
  Relation.ReflTransGen fun p p' => ∃ navigated scene, p' = (p.sync navigated scene).1

namespace Console

/-! ## Events -/

/-- What can happen to the console.  An answer is for the exchange at a position among those under
way. -/
inductive Event where
  | press (label : String) (nth : Nat)
  | fill (name value : String) (nth : Nat)
  | openTab (value : String)
  | choose (label : String)
  | navigate (action : NavAction)
  | answer (position : Nat) (outcome : Outcome)

/-- The message that an event sends to the page.  A button above the page comes first. -/
def message? (c : Console) : Event → Option Page.Msg
  | .press label nth =>
    match c.headerTokens.press? label nth with
    | some _ => none
    | none =>
      let above := (c.headerTokens.filterMap (Token.asButton? label)).length
      (c.pageTokens.press? label (nth - above)).join
  | .fill name value nth => c.pageTokens.fill? name value nth
  | .openTab value => c.pageTokens.openTab? value
  | .choose _ | .navigate _ | .answer _ _ => none

/-- The answer to an exchange arrives, and the others stay under way. -/
def arrive (x : Exchange Errand) (others : List (Exchange Errand)) (outcome : Outcome)
    (c : Console) : Console :=
  let (result, client) :=
    ({ c.client with pending := others } : Client Nat Errand).receive x outcome
  let c := { c with client := client }
  let c := match result with
    | some (errand, r) => c.deliver errand r
    | none => c
  c.refresh false

/-- The console after an event.  Nothing looks at the menu, so opening it counts as no change of the
navigation. -/
def step (c : Console) : Event → Console
  | .press label nth => (c.press label nth).2
  | .fill name value nth => (c.fill name value nth).2
  | .openTab value => (c.openTab value).2
  | .choose label => (c.choose label).2
  | .navigate action => (c.navigate action).refresh (action ≠ .toggleLeft)
  | .answer position outcome =>
    match c.client.pending[position]? with
    | some x => c.arrive x (c.client.pending.eraseIdx position) outcome
    | none => c

/-- What an event sends. -/
def sends (c : Console) (e : Event) : List (Exchange Errand) :=
  (c.step e).sent.drop c.sent.length

/-- A run of the console: the events with the consoles that they met, and the console in the end. -/
inductive Run : List (Console × Event) → Console → Prop
  | start (search : String) (routes : Routes) : Run [] (.start search routes)
  | step {log : List (Console × Event)} {c : Console} (run : Run log c) (e : Event) :
    Run (log ++ [(c, e)]) (c.step e)

/-- Events one after the other, with the consoles that they meet, and the console in the end. -/
def replay (c : Console) : List Event → List (Console × Event) × Console
  | [] => ([], c)
  | e :: es => ((c, e) :: ((c.step e).replay es).1, ((c.step e).replay es).2)

/-- Any events from the start make a run. -/
theorem Run.replay (search : String) (routes : Routes) (es : List Event) :
    Run ((Console.start search routes).replay es).1
      ((Console.start search routes).replay es).2 := by
  have goes {log : List (Console × Event)} {c : Console} (run : Run log c) :
      Run (log ++ (c.replay es).1) (c.replay es).2 := by
    induction es generalizing log c with
    | nil => simpa [Console.replay] using run
    | cons e es ih => simpa [Console.replay] using ih (run.step e)
  exact goes (.start search routes)

/-- An event sends the page a message, or it changes the navigation, or it is the answer to an
exchange under way, or it does nothing.  The position of the exchange is how many come before it. -/
theorem step_cases (c : Console) (e : Event) :
    (∃ m, c.message? e = some m ∧ c.step e = c.send m) ∨
      (c.message? e = none ∧
        ((∃ action navigated, c.step e = (c.navigate action).refresh navigated) ∨
          (∃ before x after outcome, e = .answer before.length outcome ∧
            c.client.pending = before ++ x :: after ∧
            c.step e = c.arrive x (before ++ after) outcome) ∨
          c.step e = c)) := by
  cases e with
  | press label nth =>
    simp only [step, press, message?]
    cases c.headerTokens.press? label nth with
    | some sends =>
      cases sends with
      | some action => exact .inr ⟨rfl, .inl ⟨action, false, rfl⟩⟩
      | none => exact .inr ⟨rfl, .inr (.inr rfl)⟩
    | none =>
      generalize nth - (c.headerTokens.filterMap (Token.asButton? label)).length = place
      cases c.pageTokens.press? label place with
      | none => exact .inr ⟨rfl, .inr (.inr rfl)⟩
      | some sends =>
        cases sends with
        | some m => exact .inl ⟨m, rfl, rfl⟩
        | none => exact .inr ⟨rfl, .inr (.inr rfl)⟩
  | fill name value nth =>
    simp only [step, fill, message?]
    cases c.pageTokens.fill? name value nth with
    | some m => exact .inl ⟨m, rfl, rfl⟩
    | none => exact .inr ⟨rfl, .inr (.inr rfl)⟩
  | openTab value =>
    simp only [step, openTab, message?]
    cases c.pageTokens.openTab? value with
    | some m => exact .inl ⟨m, rfl, rfl⟩
    | none => exact .inr ⟨rfl, .inr (.inr rfl)⟩
  | choose label =>
    refine .inr ⟨rfl, ?_⟩
    simp only [step, choose]
    split
    · next v _ => exact .inl ⟨.show v, true, rfl⟩
    · exact .inr (.inr rfl)
  | navigate action => exact .inr ⟨rfl, .inl ⟨action, _, rfl⟩⟩
  | answer position outcome =>
    refine .inr ⟨rfl, .inr ?_⟩
    simp only [step]
    cases found : c.client.pending[position]? with
    | none => exact .inr rfl
    | some x =>
      obtain ⟨inside, rfl⟩ := List.getElem?_eq_some_iff.mp found
      refine .inl ⟨c.client.pending.take position, c.client.pending[position],
        c.client.pending.drop (position + 1), outcome, ?_, ?_, ?_⟩
      · rw [List.length_take_of_le (Nat.le_of_lt inside)]
      · rw [List.getElem_cons_drop, List.take_append_drop]
      · rw [List.eraseIdx_eq_take_drop_succ]

/-! ## Carrying through -/

/-- The second console comes of the first by moves of hooks and reads, and its page by following
scenes; only the navigation may change besides. -/
structure Carried (c c' : Console) : Prop where
  page : c.page.Followed c'.page
  showing : c'.showing = c.showing
  sent : c'.sent = c.sent
  client : ∀ I, Client.Quiet I → I c.client → I c'.client

theorem Carried.trans {c c' c'' : Console} (first : Carried c c') (second : Carried c' c'') :
    Carried c c'' where
  page := first.page.trans second.page
  showing := second.showing.trans first.showing
  sent := second.sent.trans first.sent
  client I quiet holds := second.client I quiet (first.client I quiet holds)

theorem quiet_foldl {α : Type} {I : Client Nat Errand → Prop}
    {f : Client Nat Errand → α → Client Nat Errand} (keeps : ∀ {cl} a, I cl → I (f cl a))
    (as : List α) {cl : Client Nat Errand} (holds : I cl) : I (as.foldl f cl) := by
  induction as generalizing cl with
  | nil => exact holds
  | cons a as ih => exact ih (keeps a holds)

/-- Taking hooks away, mounting and swapping them are moves of the client. -/
theorem quiet_unmountHooks {c : Console} {I : Client Nat Errand → Prop} (quiet : Client.Quiet I)
    (holds : I c.client) : I c.unmountHooks.client :=
  quiet_foldl (fun i => quiet.unmount i) _ holds

theorem quiet_mountHooks {c : Console} {I : Client Nat Errand → Prop} (quiet : Client.Quiet I)
    (holds : I c.client) : I c.mountHooks.client :=
  quiet_foldl (fun i => quiet.mount i) _ holds

theorem quiet_swapHooks {c : Console} {I : Client Nat Errand → Prop} (quiet : Client.Quiet I)
    (holds : I c.client) : I c.swapHooks.client :=
  quiet_foldl (fun h => quiet.swap h.2 h.1) _ holds

theorem Carried.follow (navigated : Bool) (c : Console) : Carried c (c.follow navigated).2 := by
  have swapped (I) (quiet : Client.Quiet I) (holds : I c.client) : I c.swapHooks.client :=
    quiet_swapHooks quiet holds
  have synced : c.page.Followed (c.page.sync navigated c.swapHooks.scene).1 :=
    .single ⟨navigated, _, rfl⟩
  unfold Console.follow
  simp only
  split
  · exact ⟨synced, rfl, rfl, swapped⟩
  · exact ⟨synced, rfl, rfl, swapped⟩

/-- A page that is in place stays; another one is put in place in a showing of its own. -/
theorem enter_cases (c : Console) :
    (c.enter = c ∨ c.enter.showing = c.showing + 1 ∧ ∃ v, c.enter.page = .ofView v) ∧
      c.enter.sent = c.sent ∧ ∀ I, Client.Quiet I → I c.client → I c.enter.client := by
  unfold enter
  split
  · exact ⟨.inl rfl, rfl, fun _ _ holds => holds⟩
  · exact ⟨.inr ⟨rfl, _, rfl⟩, rfl, fun I quiet holds =>
      quiet_mountHooks quiet (c := { c.unmountHooks with page := _, showing := _ })
        (quiet_unmountHooks quiet holds)⟩

/-- What is carried through leaves. -/
theorem refresh_eq (navigated : Bool) (c : Console) :
    ∃ c', Carried c.enter c' ∧ c.refresh navigated = c'.depart := by
  have once := Carried.follow navigated c.enter
  unfold refresh
  simp only
  split
  · exact ⟨_, once.trans (.follow true _), rfl⟩
  · exact ⟨_, once, rfl⟩

/-- The page of a refreshed console has followed, or another one was put in place and has. -/
theorem refresh_page (navigated : Bool) (c : Console) :
    (c.refresh navigated).showing = c.showing ∧ c.page.Followed (c.refresh navigated).page ∨
      (c.refresh navigated).showing = c.showing + 1 ∧
        ∃ v, (Page.ofView v).Followed (c.refresh navigated).page := by
  obtain ⟨c', carried, refreshed⟩ := c.refresh_eq navigated
  have showing : (c.refresh navigated).showing = c.enter.showing := by
    rw [refreshed]
    exact carried.showing
  have page : c.enter.page.Followed (c.refresh navigated).page := by
    rw [refreshed]
    exact carried.page
  obtain ⟨stays | ⟨next, v, fresh⟩, -, -⟩ := c.enter_cases
  · rw [stays] at showing page
    exact .inl ⟨showing, page⟩
  · rw [fresh] at page
    exact .inr ⟨showing.trans next, v, page⟩

/-- Nothing waits to leave but the exchanges of a list, and reads. -/
def AddsReads (xs : List (Exchange Errand)) (cl : Client Nat Errand) : Prop :=
  ∀ x ∈ cl.outbox, x ∈ xs ∨ ∃ t, x = Ticket.exchange t

theorem addsReads_quiet (xs : List (Exchange Errand)) : Client.Quiet (AddsReads xs) where
  fetch := by
    intro cl k holds
    obtain ⟨-, same⟩ | ⟨-, -, started⟩ := cl.fetch_cases k
    · rwa [same]
    · rw [started]
      intro x mem
      rcases List.mem_append.mp mem with old | new
      · exact holds x old
      · exact .inr ⟨_, List.mem_singleton.mp new⟩
  expire _ holds := holds
  observe _ holds := holds
  unobserve _ holds := holds
  hooks _ holds := holds

/-- Everything that waits leaves, with reads. -/
theorem refresh_sent (navigated : Bool) (c : Console) :
    (c.refresh navigated).client.outbox = [] ∧
      ∃ left, (c.refresh navigated).sent = c.sent ++ left ∧
        ∀ x ∈ left, x ∈ c.client.outbox ∨ ∃ t, x = Ticket.exchange t := by
  obtain ⟨c', carried, refreshed⟩ := c.refresh_eq navigated
  obtain ⟨-, sent, entered⟩ := c.enter_cases
  have quiet := addsReads_quiet c.client.outbox
  have waiting := carried.client _ quiet (entered _ quiet fun x mem => .inl mem)
  rw [refreshed]
  refine ⟨rfl, c'.client.depart.1, ?_, fun x mem => waiting x (List.mem_mergeSort.mp mem)⟩
  rw [← sent, ← carried.sent]
  rfl

/-! ## What an event does by itself -/

/-- What the page commands changes neither the page nor its showing nor what was sent. -/
theorem foldl_execute (commands : List (Command Page.Job)) (c : Console) :
    (commands.foldl execute c).page = c.page ∧ (commands.foldl execute c).showing = c.showing ∧
      (commands.foldl execute c).sent = c.sent := by
  induction commands generalizing c with
  | nil => exact ⟨rfl, rfl, rfl⟩
  | cons command commands ih =>
    obtain ⟨page, showing, sent⟩ := ih (c.execute command)
    cases command <;> exact ⟨page, showing, sent⟩

/-- Commands only write, as far as the client is concerned. -/
theorem closed_foldl_execute {I : Client Nat Errand → Prop} (closed : Client.Closed I)
    (commands : List (Command Page.Job)) {c : Console} (holds : I c.client) :
    I (commands.foldl execute c).client := by
  induction commands generalizing c with
  | nil => exact holds
  | cons command commands ih =>
    apply ih
    cases command with
    | navigate action => exact holds
    | write m body job => exact closed.write m body _ _ holds

/-- What waits after commands waited before, or is a write that was commanded. -/
theorem mem_outbox_foldl_execute {commands : List (Command Page.Job)} {c : Console}
    {x : Exchange Errand} (mem : x ∈ (commands.foldl execute c).client.outbox) :
    x ∈ c.client.outbox ∨ ∃ m body job, .write m body job ∈ commands ∧
      x = ⟨m.request body, .write m m.shape ⟨c.showing, job⟩⟩ := by
  induction commands generalizing c with
  | nil => exact .inl mem
  | cons command commands ih =>
    obtain waits | ⟨m, body, job, written, rfl⟩ := ih mem
    · cases command with
      | navigate action => exact .inl waits
      | write m body job =>
        rcases List.mem_append.mp waits with old | new
        · exact .inl old
        · exact .inr ⟨m, body, job, List.mem_cons_self, List.mem_singleton.mp new⟩
    · refine .inr ⟨m, body, job, List.mem_cons_of_mem _ written, ?_⟩
      cases command <;> rfl

/-- What an event does to the console before it is carried through: the page takes a message, the
result of a write, or nothing, and what waits are reads and the writes that the page commands. -/
structure Prompted (c : Console) (e : Event) (c' : Console) : Prop where
  showing : c'.showing = c.showing
  sent : c'.sent = c.sent
  page : (∃ m, c.message? e = some m ∧ c'.page = (c.page.update c.scene m).1) ∨
    c.message? e = none ∧ (c'.page = c.page ∨ ∃ result job, c'.page = c.page.finish result job)
  outbox : ∀ x ∈ c'.client.outbox,
    (x ∈ c.client.outbox ∨ ∃ t, x = Ticket.exchange t) ∨ ∃ m mutation body job,
      c.message? e = some m ∧ .write mutation body job ∈ (c.page.update c.scene m).2 ∧
        x = ⟨mutation.request body, .write mutation mutation.shape ⟨c.showing, job⟩⟩

/-- A message is taken by the page, which may write. -/
theorem send_prompted {c : Console} {e : Event} {m : Page.Msg} (message : c.message? e = some m) :
    ∃ c' navigated, Prompted c e c' ∧ c.send m = c'.refresh navigated := by
  obtain ⟨page, showing, sent⟩ := foldl_execute (c.page.update c.scene m).2
    { c with page := (c.page.update c.scene m).1 }
  refine ⟨_, _, ⟨showing, sent, .inl ⟨m, message, page⟩, fun x mem => ?_⟩, rfl⟩
  obtain old | ⟨mutation, body, job, written, rfl⟩ := mem_outbox_foldl_execute mem
  · exact .inl (.inl old)
  · exact .inr ⟨m, mutation, body, job, message, written, rfl⟩

/-- An answer goes to the client, and the result of a write to the page that sent it; then it is
carried through. -/
theorem arrive_eq (c : Console) (x : Exchange Errand) (others : List (Exchange Errand))
    (outcome : Outcome) :
    ∃ c' : Console, c.arrive x others outcome = c'.refresh false ∧ c'.nav = c.nav ∧
      c'.showing = c.showing ∧ c'.sent = c.sent ∧
      c'.client = (({ c.client with pending := others } : Client Nat Errand).receive x outcome).2 ∧
      (c'.page = c.page ∨ ∃ result job, c'.page = c.page.finish result job) := by
  let remaining : Client Nat Errand := { c.client with pending := others }
  let received : Console := { c with client := (remaining.receive x outcome).2 }
  have unfolded : c.arrive x others outcome = (match (remaining.receive x outcome).1 with
    | some (errand, r) => received.deliver errand r
    | none => received).refresh false := rfl
  rw [unfolded]
  split
  · next errand r _ =>
    refine ⟨received.deliver errand r, rfl, ?_⟩
    unfold deliver
    split
    · exact ⟨rfl, rfl, rfl, rfl, .inr ⟨r, errand.job, rfl⟩⟩
    · exact ⟨rfl, rfl, rfl, rfl, .inl rfl⟩
  · exact ⟨received, rfl, rfl, rfl, rfl, rfl, .inl rfl⟩

/-- Every exchange under way can be answered. -/
theorem step_answer {c : Console} {before after : List (Exchange Errand)} {x : Exchange Errand}
    (pending : c.client.pending = before ++ x :: after) (outcome : Outcome) :
    c.step (.answer before.length outcome) = c.arrive x (before ++ after) outcome := by
  have found : c.client.pending[before.length]? = some x := by simp [pending]
  have others : c.client.pending.eraseIdx before.length = before ++ after := by
    rw [pending, List.eraseIdx_append_of_length_le (Nat.le_refl _)]
    simp
  simp only [step, found, others]

/-- An answer gives the page the result of a write, or nothing, and it commands no write. -/
theorem arrive_prompted {c : Console} {e : Event} (silent : c.message? e = none)
    (x : Exchange Errand) (others : List (Exchange Errand)) (outcome : Outcome) :
    ∃ c', Prompted c e c' ∧ c.arrive x others outcome = c'.refresh false := by
  obtain ⟨c', refreshed, -, showing, sent, client, page⟩ := c.arrive_eq x others outcome
  have waiting : AddsReads c.client.outbox c'.client := by
    have before : AddsReads c.client.outbox { c.client with pending := others } :=
      fun y mem => .inl mem
    rw [client]
    exact Client.receive_keeps before (fun _ _ => before)
      (fun is => (addsReads_quiet _).invalidate is before) x outcome
  exact ⟨c', ⟨showing, sent, .inr ⟨silent, page⟩, fun y mem => .inl (waiting y mem)⟩, refreshed⟩

/-- An event does nothing, or what it does is carried through. -/
theorem step_prompted (c : Console) (e : Event) :
    c.step e = c ∧ c.message? e = none ∨
      ∃ c' navigated, Prompted c e c' ∧ c.step e = c'.refresh navigated := by
  obtain ⟨m, message, sent⟩ | ⟨silent, ⟨action, navigated, moved⟩ |
    ⟨before, x, after, outcome, -, -, arrived⟩ | same⟩ := c.step_cases e
  · rw [sent]
    exact .inr (send_prompted message)
  · have prompted : Prompted c e (c.navigate action) :=
      ⟨rfl, rfl, .inr ⟨silent, .inl rfl⟩, fun x mem => .inl (.inl mem)⟩
    exact .inr ⟨_, navigated, prompted, moved⟩
  · obtain ⟨c', prompted, refreshed⟩ := arrive_prompted silent x (before ++ after) outcome
    exact .inr ⟨c', false, prompted, arrived.trans refreshed⟩
  · exact .inl ⟨same, silent⟩

/-! ## What an event does -/

/-- The console is opened by carrying through that the page of a view is there. -/
theorem start_eq (search : String) (routes : Routes) :
    ∃ c v, start search routes = refresh true c ∧ c.page = .ofView v := by
  unfold start
  generalize Navigation.initial.apply (.readLocation search) = nav
  exact ⟨mountHooks ⟨nav, .initial, .ofView nav.view, 0, routes, []⟩, nav.view, rfl, rfl⟩

/-- At the start the page of a view has followed scenes. -/
theorem start_page (search : String) (routes : Routes) :
    ∃ v, (Page.ofView v).Followed (start search routes).page := by
  obtain ⟨c, v, refreshed, page⟩ := start_eq search routes
  rw [refreshed]
  obtain ⟨-, followed⟩ | ⟨-, fresh⟩ := c.refresh_page true
  · exact ⟨v, page ▸ followed⟩
  · exact fresh

/-- An event puts another page in place, or the page follows scenes after it has taken a message,
the result of a write, or nothing. -/
theorem page_step (c : Console) (e : Event) :
    (c.step e).showing = c.showing + 1 ∧ (∃ v, (Page.ofView v).Followed (c.step e).page) ∨
      (c.step e).showing = c.showing ∧
        ((∃ m, c.message? e = some m ∧
            (c.page.update c.scene m).1.Followed (c.step e).page) ∨
          c.message? e = none ∧
            (c.page.Followed (c.step e).page ∨
              ∃ result job, (c.page.finish result job).Followed (c.step e).page)) := by
  obtain ⟨same, silent⟩ | ⟨c', navigated, prompted, refreshed⟩ := c.step_prompted e
  · rw [same]
    exact .inr ⟨rfl, .inr ⟨silent, .inl .refl⟩⟩
  rw [refreshed]
  obtain ⟨showing, page⟩ | ⟨showing, fresh⟩ := c'.refresh_page navigated
  · rw [prompted.showing] at showing
    refine .inr ⟨showing, ?_⟩
    obtain ⟨m, message, taken⟩ | ⟨silent, same | ⟨result, job, finished⟩⟩ := prompted.page
    · exact .inl ⟨m, message, taken ▸ page⟩
    · exact .inr ⟨silent, .inl (same ▸ page)⟩
    · exact .inr ⟨silent, .inr ⟨result, job, finished ▸ page⟩⟩
  · rw [prompted.showing] at showing
    exact .inl ⟨showing, fresh⟩

/-- An event sends reads, and the writes that the page commands. -/
theorem mem_sends {c : Console} (idle : c.client.outbox = []) {e : Event} {x : Exchange Errand}
    (sent : x ∈ c.sends e) : (∃ t, x = Ticket.exchange t) ∨ ∃ m mutation body job,
      c.message? e = some m ∧ .write mutation body job ∈ (c.page.update c.scene m).2 ∧
        x = ⟨mutation.request body, .write mutation mutation.shape ⟨c.showing, job⟩⟩ := by
  unfold sends at sent
  obtain ⟨same, -⟩ | ⟨c', navigated, prompted, refreshed⟩ := c.step_prompted e
  · rw [same, List.drop_length] at sent
    exact absurd sent List.not_mem_nil
  obtain ⟨-, left, record, waited⟩ := c'.refresh_sent navigated
  rw [refreshed, record, prompted.sent, List.drop_left] at sent
  obtain waits | read := waited x sent
  · obtain (waits | read) | written := prompted.outbox x waits
    · rw [idle] at waits
      exact absurd waits List.not_mem_nil
    · exact .inl read
    · exact .inr written
  · exact .inl read

/-- An event that sends one request sends an exchange with its method and its path. -/
theorem exists_sent {c : Console} {e : Event} {method : Method} {path : String}
    (single : (c.sends e).map (fun x => (x.request.method, x.request.path)) = [(method, path)]) :
    ∃ x ∈ c.sends e, x.request.method = method ∧ x.request.path = path := by
  obtain ⟨x, sends, same⟩ := List.map_eq_singleton_iff.mp single
  obtain ⟨rfl, rfl⟩ := Prod.mk.inj same
  exact ⟨x, sends ▸ List.mem_singleton_self x, rfl, rfl⟩

namespace Run

variable {log : List (Console × Event)} {c : Console}

/-- Nothing waits between two events. -/
theorem outbox_eq_nil (run : Run log c) : c.client.outbox = [] := by
  induction run with
  | start search routes =>
    obtain ⟨c, v, refreshed, -⟩ := start_eq search routes
    rw [refreshed]
    exact (c.refresh_sent true).1
  | @step _ c run e ih =>
    obtain ⟨same, -⟩ | ⟨c', navigated, -, refreshed⟩ := c.step_prompted e
    · rw [same, ih]
    · rw [refreshed]
      exact (c'.refresh_sent navigated).1

/-- What a client keeps in everything that it does holds of the client of a run. -/
theorem keeps {I : Client Nat Errand → Prop} (closed : Client.Closed I) (fresh : I .initial)
    (depart : ∀ {cl}, I cl → I cl.depart.2)
    (answer : ∀ {cl before x after} (outcome : Outcome), I cl → cl.pending = before ++ x :: after →
      I (({ cl with pending := before ++ after } : Client Nat Errand).receive x outcome).2)
    (run : Run log c) : I c.client := by
  have refresh {c : Console} (navigated : Bool) (holds : I c.client) :
      I (c.refresh navigated).client := by
    obtain ⟨c', carried, refreshed⟩ := c.refresh_eq navigated
    obtain ⟨-, -, entered⟩ := c.enter_cases
    rw [refreshed]
    exact depart (carried.client I closed.quiet (entered I closed.quiet holds))
  induction run with
  | start search routes =>
    exact refresh true (quiet_mountHooks (c := ⟨_, _, _, _, _, _⟩) closed.quiet fresh)
  | @step _ c run e ih =>
    obtain ⟨m, -, taken⟩ | ⟨-, ⟨action, navigated, moved⟩ |
      ⟨before, x, after, outcome, -, pending, arrived⟩ | same⟩ := c.step_cases e
    · rw [taken]
      exact refresh _ (closed_foldl_execute closed _ (c := { c with page := _ }) ih)
    · rw [moved]
      exact refresh (c := c.navigate action) navigated ih
    · obtain ⟨c', refreshed, -, -, -, client, -⟩ := c.arrive_eq x (before ++ after) outcome
      rw [arrived, refreshed]
      exact refresh false (client ▸ answer outcome ih pending)
    · rwa [same]

/-- An answer to a named request is a step, or there is no such request. -/
theorem answer (run : Run log c) (name : String) (newest : Bool) (outcome : Outcome) :
    ∃ log', Run log' (c.answer name newest outcome).2 := by
  unfold Console.answer
  split
  · exact ⟨log, run⟩
  · next x client taken =>
    obtain ⟨before, after, pending, rfl⟩ := Client.take?_eq_some taken
    exact ⟨_, step_answer pending outcome ▸ run.step (.answer before.length outcome)⟩

end Run

end Console

end MetricConsole
