import MetricConsole.Text.Blank

/-!
# Lists written with commas

A list field holds its items with commas between them. Reading trims each item and drops the
empty ones; a field without any item is no list at all.
-/

namespace MetricConsole.Text

/-- The pieces of `cs` between the occurrences of `sep`; there is always at least one. -/
def splitOn (sep : Char) : List Char → List (List Char)
  | [] => [[]]
  | c :: cs =>
    if c = sep then [] :: splitOn sep cs
    else
      match splitOn sep cs with
      | [] => [[c]]
      | piece :: pieces => (c :: piece) :: pieces

namespace CommaList

/-- The items of a list field: trimmed, none of them empty. -/
def items (s : String) : List String :=
  (splitOn ',' s.toList).filterMap fun piece => nonBlank? (String.ofList piece)

/-- The list in a list field, if it names any item. -/
def parse (s : String) : Option (List String) :=
  match items s with
  | [] => none
  | xs => some xs

/-- The text that shows a list in its field; an absent list shows as the empty text. -/
def render : Option (List String) → String
  | none => ""
  | some xs => ", ".intercalate xs

/-- An item that a list field can hold unchanged. -/
def IsClean (item : String) : Prop :=
  item ≠ "" ∧ trim item = item ∧ ',' ∉ item.toList

instance (item : String) : Decidable (IsClean item) :=
  inferInstanceAs (Decidable (_ ∧ _ ∧ _))

end CommaList

end MetricConsole.Text
