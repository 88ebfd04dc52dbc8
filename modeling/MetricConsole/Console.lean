import MetricConsole.Page.Basic
import MetricConsole.Query.Client
import MetricConsole.Query.Routes

/-!
# The console

The frame with the menu, the page of the active view, and the client.  A step is one thing that a
user or the network does; `refresh` then carries it through: the page of the active view is put in
place, its hooks hold the keys that it looks at, and it follows what it sees.  Everything that a
step sends leaves together at its end.

A write remembers which showing of a page sent it.  Its result reaches that page only as long as the
page is still there; the cache takes notice of it in any case.
-/

namespace MetricConsole

/-- The showing of a page that sent a write, and what the write is for. -/
structure Errand where
  showing : Nat
  job : Page.Job
  deriving DecidableEq, Repr

/-- The state of the console.  The hooks of the page are numbered; `showing` counts the pages that
were put in place, and `sent` holds what was sent since the record was cleared. -/
structure Console where
  nav : Navigation
  client : Client Nat Errand
  page : Page
  showing : Nat
  routes : Routes
  sent : List (Exchange Errand)

namespace Console

/-- What the page sees. -/
def scene (c : Console) : Scene := ⟨c.nav, c.client.cache⟩

/-- Changes the navigation. -/
def navigate (action : NavAction) (c : Console) : Console := { c with nav := c.nav.apply action }

/-! ## Carrying through -/

/-- Mounts the hooks of the page, which hold nothing yet. -/
def mountHooks (c : Console) : Console :=
  let hooks := List.range (c.page.keys c.scene).length
  { c with client := hooks.foldl (fun cl i => cl.mount i) c.client }

/-- Takes all hooks away. -/
def unmountHooks (c : Console) : Console :=
  { c with client := (c.client.hooks.map Prod.fst).foldl (fun cl i => cl.unmount i) c.client }

/-- Puts the page of the active view in place. -/
def enter (c : Console) : Console :=
  if c.page.viewKey = c.nav.view then c
  else
    { c.unmountHooks with page := .ofView c.nav.view, showing := c.showing + 1 }.mountHooks

/-- Makes the hooks hold the keys that the page looks at. -/
def swapHooks (c : Console) : Console :=
  { c with client := ((c.page.keys c.scene).zipIdx).foldl (fun cl h => cl.swap h.2 h.1) c.client }

/-- The page follows what it sees.  `navigated` tells that the navigation was written since it last
did, and so does the first part of the result. -/
def follow (navigated : Bool) (c : Console) : Bool × Console :=
  let c := c.swapHooks
  let (page, action) := c.page.sync navigated c.scene
  let c := { c with page := page }
  match action with
  | none => (false, c)
  | some action => (true, c.navigate action)

/-- What a step sent leaves. -/
def depart (c : Console) : Console :=
  let (left, client) := c.client.depart
  { c with client := client, sent := c.sent ++ left }

/-- Carries a step through.  A selection that the page makes itself is followed once more; the page
makes none of its own after that. -/
def refresh (navigated : Bool) (c : Console) : Console :=
  let (again, c) := c.enter.follow navigated
  let c := if again then (c.follow true).2 else c
  c.depart

/-- The console when it is opened with the search part of an address. -/
def start (search : String) (routes : Routes) : Console :=
  let nav := Navigation.initial.apply (.readLocation search)
  let c : Console := ⟨nav, .initial, .ofView nav.view, 0, routes, []⟩
  c.mountHooks.refresh true

/-! ## Steps of the user -/

/-- Does what a page wants. -/
def execute (c : Console) : Command Page.Job → Console
  | .navigate action => c.navigate action
  | .write m body job => { c with client := c.client.write m body m.shape ⟨c.showing, job⟩ }

/-- The command writes the navigation. -/
def navigates : Command Page.Job → Bool
  | .navigate _ => true
  | .write _ _ _ => false

/-- Uses a control of the page. -/
def send (m : Page.Msg) (c : Console) : Console :=
  let (page, commands) := c.page.update c.scene m
  (commands.foldl execute { c with page := page }).refresh (commands.any navigates)

/-- What the page below the header shows. -/
def pageTokens (c : Console) : Tokens Page.Msg := c.page.view c.scene

/-- What the frame shows above the page; its control opens and closes the menu. -/
def headerTokens (c : Console) : Tokens NavAction :=
  [.button .native true (Page.iconLabel .menu "")
      (some (if c.nav.leftOpen then "Hide navigation" else "Show navigation"))
      (some .toggleLeft)] ++
    Page.say "Metric Management Center" ++ Page.say ("/ " ++ c.nav.view.label) ++
    Page.say "ENV: DEV" ++ Page.say "QX"

/-- The entries of the menu, and which of them is active. -/
def menu (c : Console) : List (ViewKey × Bool) :=
  (Vocabulary.all (α := ViewKey)).map fun v => (v, c.nav.view == v)

/-- The text of an entry of the menu. -/
def menuLabel (v : ViewKey) : String := Page.iconLabel v.icon v.label

/-- Chooses the first entry of the menu whose text ends with a label, and tells whether there is
one. -/
def choose (label : String) (c : Console) : Bool × Console :=
  match (Vocabulary.all (α := ViewKey)).find? fun v =>
      label.toList.isSuffixOf (menuLabel v).toList with
  | some v => (true, (c.navigate (.show v)).refresh true)
  | none => (false, c)

/-- Presses a button, and tells whether there is one; a button that sends nothing does nothing. -/
def press (label : String) (nth : Nat) (c : Console) : Bool × Console :=
  match c.headerTokens.press? label nth with
  | some (some action) => (true, (c.navigate action).refresh false)
  | some none => (true, c)
  | none =>
    let above := (c.headerTokens.filterMap (Token.asButton? label)).length
    match c.pageTokens.press? label (nth - above) with
    | some (some m) => (true, c.send m)
    | some none => (true, c)
    | none => (false, c)

/-- Gives a field a value, and tells whether there is one. -/
def fill (name value : String) (nth : Nat) (c : Console) : Bool × Console :=
  match c.pageTokens.fill? name value nth with
  | some m => (true, c.send m)
  | none => (false, c)

/-- Opens a tab, and tells whether there is one. -/
def openTab (value : String) (c : Console) : Bool × Console :=
  match c.pageTokens.openTab? value with
  | some m => (true, c.send m)
  | none => (false, c)

/-! ## Steps of the network -/

/-- Brings the result of a write to the page that sent it. -/
def deliver (e : Errand) (result : Except ApiError Json) (c : Console) : Console :=
  if e.showing = c.showing then { c with page := c.page.finish result e.job } else c

/-- Answers the oldest or the newest request of a name, and tells whether there was one. -/
def answer (name : String) (newest : Bool) (outcome : Outcome) (c : Console) : Bool × Console :=
  match c.client.take? name newest with
  | none => (false, c)
  | some (e, client) =>
    let (result, client) := client.receive e outcome
    let c := { c with client := client }
    let c := match result with
      | some (errand, r) => c.deliver errand r
      | none => c
    (true, c.refresh false)

/-- Sets what comes of the requests of a name. -/
def setRoute (name : String) (outcome : Outcome) (c : Console) : Console :=
  { c with routes := c.routes.set name outcome }

/-- The name of the oldest request under way. -/
def oldest? (c : Console) : Option String := c.client.pending.head?.map (·.request.name)

/-- Answers everything from the routes. -/
def settle (c : Console) : Console :=
  c.routes.settle oldest? (fun name outcome c => (c.answer name false outcome).2)
    Routes.settleLimit c

/-- The console with an empty record of what was sent. -/
def clear (c : Console) : Console := { c with sent := [] }

end Console

end MetricConsole
