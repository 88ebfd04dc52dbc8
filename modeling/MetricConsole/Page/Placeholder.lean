import MetricConsole.Page.Component

/-!
# Views without a page

A view that has no page of its own yet says so.
-/

namespace MetricConsole.Page.Placeholder

/-- What is shown in place of a page. -/
def view {μ : Type} (title : String) : Tokens μ :=
  pageHeader title none [] ++ say (title ++ " is under construction.")

end MetricConsole.Page.Placeholder
