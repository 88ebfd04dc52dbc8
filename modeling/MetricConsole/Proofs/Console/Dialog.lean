import MetricConsole.Proofs.Api.Address
import MetricConsole.Proofs.Console.Run

/-!
# Dialogs about a record

A dialog is opened for a record of a list and ends in a write about that record.  The page remembers
the id of the record; where the record belongs is looked up again when the dialog is confirmed.

* `Dialog.Faithful`: the page remembers the record that the dialog was last opened for, and what it
  writes is about that record.
* `Dialog.lastOpened?`: where the dialog was last opened, and the record it was opened for.
* `Console.Run.subject_opened`: in every run the record is the one that the dialog was last opened
  for, in the same showing of the page.
* `Console.Run.write_opened`: so is the record of every write that the dialog ends in.
-/

namespace MetricConsole

/-- A write among commands whose jobs were passed through a function is one of them. -/
theorem Command.write_of_map {κ κ' : Type} {f : κ → κ'} {commands : List (Command κ)}
    {mutation : Mutation} {body : Option Json} {job : κ'}
    (written : .write mutation body job ∈ commands.map (Command.map f)) :
    ∃ job', .write mutation body job' ∈ commands := by
  obtain ⟨command, commanded, same⟩ := List.mem_map.mp written
  cases command with
  | navigate action => cases same
  | write mutation' body' job' =>
    cases same
    exact ⟨job', commanded⟩

/-- A dialog that is opened for a record and ends in a write about it. -/
structure Dialog where
  /-- The view of the page. -/
  view : ViewKey
  /-- The id of the record that a message opens the dialog for. -/
  opens : Page.Msg → Option Int64
  /-- The id of the record that the page remembers. -/
  subject : Page → Option Int64
  /-- The writes that the dialog ends in. -/
  ends : Mutation → Prop
  /-- The write about the record with an id, as a scene has it. -/
  target : Scene → Int64 → Option Mutation

namespace Dialog

/-- The page remembers the record that the dialog was last opened for, or forgets it, and a write
that the dialog ends in is about that record. -/
structure Faithful (d : Dialog) : Prop where
  fresh : ∀ v, d.subject (.ofView v) = none
  sync : ∀ {navigated scene p id}, d.subject (p.sync navigated scene).1 = some id →
    d.subject p = some id
  update : ∀ {scene m p id}, d.subject (p.update scene m).1 = some id →
    d.opens m = some id ∨ d.opens m = none ∧ d.subject p = some id
  finish : ∀ {result job p id}, d.subject (p.finish result job) = some id → d.subject p = some id
  writes : ∀ {scene m p mutation body job}, p.viewKey = d.view → d.ends mutation →
    .write mutation body job ∈ (p.update scene m).2 →
    ∃ id, d.subject p = some id ∧ d.target scene id = some mutation

/-- What a page remembers after following scenes it remembered before. -/
theorem Faithful.followed {d : Dialog} (faithful : d.Faithful) {p p' : Page} {id : Int64}
    (followed : p.Followed p') (remembered : d.subject p' = some id) : d.subject p = some id := by
  induction followed with
  | refl => exact remembered
  | tail _ step ih =>
    obtain ⟨navigated, scene, rfl⟩ := step
    exact ih (faithful.sync remembered)

/-- The console at which the dialog was last opened in a showing of the page, and the id of the
record that it was opened for. -/
def lastOpened? (d : Dialog) (showing : Nat) (log : List (Console × Console.Event)) :
    Option (Console × Int64) :=
  log.reverse.findSome? fun p =>
    if p.1.showing = showing then ((p.1.message? p.2).bind d.opens).map fun id => (p.1, id)
    else none

variable {d : Dialog} {showing : Nat} {log : List (Console × Console.Event)} {c : Console}
  {e : Console.Event}

/-- An event that opens the dialog is the last one that does. -/
theorem lastOpened?_concat_of_opens {m : Page.Msg} {id : Int64} (message : c.message? e = some m)
    (opened : d.opens m = some id) : d.lastOpened? c.showing (log ++ [(c, e)]) = some (c, id) := by
  simp [lastOpened?, message, opened]

/-- An event that does not open the dialog leaves the last opening as it is. -/
theorem lastOpened?_concat (other : ∀ m, c.message? e = some m → d.opens m = none) :
    d.lastOpened? showing (log ++ [(c, e)]) = d.lastOpened? showing log := by
  have unopened : (c.message? e).bind d.opens = none := Option.bind_eq_none_iff.mpr other
  rw [lastOpened?, List.reverse_append, List.reverse_singleton, List.singleton_append,
    List.findSome?_cons]
  simp only [unopened, Option.map_none, ite_self]
  rfl

end Dialog

namespace Console.Run

variable {log : List (Console × Event)} {c : Console} {d : Dialog}

/-- In every run the page remembers the record that the dialog was last opened for in this showing
of the page. -/
theorem subject_opened (run : Run log c) (faithful : d.Faithful) {id : Int64}
    (remembered : d.subject c.page = some id) :
    ∃ c₀, d.lastOpened? c.showing log = some (c₀, id) := by
  have notFresh {v : ViewKey} {p : Page} (followed : (Page.ofView v).Followed p)
      (remembered : d.subject p = some id) : False := by
    have fresh := faithful.followed followed remembered
    rw [faithful.fresh] at fresh
    cases fresh
  induction run with
  | start search routes =>
    obtain ⟨v, followed⟩ := start_page search routes
    exact (notFresh followed remembered).elim
  | @step log c run e ih =>
    obtain ⟨-, v, followed⟩ | ⟨showing, taken⟩ := c.page_step e
    · exact (notFresh followed remembered).elim
    rw [showing]
    obtain ⟨m, message, followed⟩ | ⟨silent, followed | ⟨result, job, followed⟩⟩ := taken
    · obtain opened | ⟨other, before⟩ := faithful.update (faithful.followed followed remembered)
      · exact ⟨c, Dialog.lastOpened?_concat_of_opens message opened⟩
      · obtain ⟨c₀, opened⟩ := ih before
        refine ⟨c₀, (Dialog.lastOpened?_concat fun m' message' => ?_).trans opened⟩
        rw [message] at message'
        exact Option.some.inj message' ▸ other
    all_goals
      have quiet : ∀ m, c.message? e = some m → d.opens m = none := fun m message => by
        rw [silent] at message
        cases message
      have before := faithful.followed followed remembered
    · obtain ⟨c₀, opened⟩ := ih before
      exact ⟨c₀, (Dialog.lastOpened?_concat quiet).trans opened⟩
    · obtain ⟨c₀, opened⟩ := ih (faithful.finish before)
      exact ⟨c₀, (Dialog.lastOpened?_concat quiet).trans opened⟩

/-- A write that a dialog ends in is about the record that the dialog was last opened for in this
showing of the page; where the record belongs is taken from the scene at the end. -/
theorem write_opened (run : Run log c) (faithful : d.Faithful) (shown : c.page.viewKey = d.view)
    {e : Event} {x : Exchange Errand} (sent : x ∈ c.sends e) {mutation : Mutation}
    (ends : d.ends mutation) (method : x.request.method = mutation.method)
    (path : x.request.path = mutation.path) :
    ∃ c₀ id, d.lastOpened? c.showing log = some (c₀, id) ∧
      d.target c.scene id = some mutation := by
  obtain ⟨t, rfl⟩ | ⟨m, written, body, job, -, commanded, rfl⟩ := mem_sends run.outbox_eq_nil sent
  · -- a read gets, and no write does
    have get : mutation.method = .get := method.symm.trans t.key.request_method
    cases mutation <;> cases get
  · obtain rfl : written = mutation := Mutation.eq_of_path method path
    obtain ⟨id, remembered, target⟩ := faithful.writes shown ends commanded
    obtain ⟨c₀, opened⟩ := run.subject_opened faithful remembered
    exact ⟨c₀, id, opened, target⟩

end Console.Run

end MetricConsole
