import MetricConsole.Navigation
import MetricConsole.Query.Cache
import MetricConsole.Query.Mutation

/-!
# Scenes and commands

A page sees a scene: the navigation and the cache.  When a control is used it changes its own state
and gives commands, which move the navigation or send a write.  The job of a write tells the page
what the write was for when its result arrives.
-/

namespace MetricConsole

/-- What a page sees. -/
structure Scene where
  nav : Navigation
  cache : Cache

namespace Scene

/-- What can be seen of a key. -/
def see (scene : Scene) (k : Option QueryKey) : Snapshot := scene.cache.view k

/-- The value of a key, if there is one that can be read as `α`. -/
def value? (α : Type) [Codec α] (scene : Scene) (k : Option QueryKey) : Option α :=
  (scene.see k).decode? α

/-- The list of a key, empty if there is none. -/
def list (α : Type) [Codec α] (scene : Scene) (k : Option QueryKey) : List α :=
  (scene.value? (List α) k).getD []

end Scene

/-- What a page wants done. -/
inductive Command (κ : Type) where
  | navigate (action : NavAction)
  | write (mutation : Mutation) (body : Option Json) (job : κ)

/-- The command with its job passed through a function. -/
def Command.map {κ κ' : Type} (f : κ → κ') : Command κ → Command κ'
  | .navigate action => .navigate action
  | .write mutation body job => .write mutation body (f job)

end MetricConsole
