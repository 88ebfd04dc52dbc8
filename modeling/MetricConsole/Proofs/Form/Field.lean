import MetricConsole.Json.Codec
import MetricConsole.Proofs.Date.Text
import MetricConsole.Proofs.Form.Order
import MetricConsole.Proofs.Json.Printer
import MetricConsole.Proofs.Text.CommaList
import MetricConsole.Text.CommaList

/-!
# What an untouched field does to its value

A form shows each value of a record as text and reads the text when it is submitted.  A field that
reads nothing leaves the value as it is.  So does a field that reads back what it shows, and this it
does for all but two kinds of values: a text with blanks around it, and a list with an item that the
text of a list cannot hold.

* `Text.nonBlank?_getD`, `Form.parse_render`, `Form.ofField?_fieldText`, `Form.dsl_dslText`,
  `Form.order_render_of_nonneg`: the values that each kind of field reads back.
* `FieldValue.after`: the value that a text leaves behind.
* `FieldValue.after_shown`: an untouched field leaves exactly the clean values as they are.
-/

namespace MetricConsole

open Text

/-! ## JSON values in their fields -/

namespace Form

/-- The text of a value is not blank. -/
theorem not_isBlank_pretty {j : Json} (whole : j.Whole) : ¬IsBlank j.pretty := by
  obtain ⟨c, rest, text, solid, _⟩ := Json.opens_pretty 0 whole
  intro blank
  have all := isBlank_iff.mp blank c (by simp [Json.pretty, text])
  simp [all] at solid

/-- A value that fits is read back from its field. -/
theorem dsl_pretty {j : Json} (fits : j.Fits Json.maxDepth) (whole : j.Whole) :
    dsl j.pretty = .ok (some j) := by
  rw [dsl, if_neg (not_isBlank_pretty whole), Json.parse_pretty fits whole]

/-- A value that a field reads nests no deeper than the reader goes. -/
theorem fits_of_dsl {text : String} {value : Option Json} (read : dsl text = .ok value) :
    ∀ j ∈ value, j.Fits Json.maxDepth := by
  rintro j rfl
  unfold dsl at read
  split at read
  · cases read
  · cases parsed : Json.parse text with
    | error fault => simp [parsed] at read
    | ok k =>
      simp only [parsed, Except.ok.injEq, Option.some.injEq] at read
      exact read ▸ Json.fits_of_parse parsed

/-! ## Values that their fields read back -/

theorem parse_render {value : Option (List String)}
    (clean : ∀ xs ∈ value, xs ≠ [] ∧ ∀ x ∈ xs, CommaList.IsClean x) :
    CommaList.parse (CommaList.render value) = value := by
  cases value with
  | none => rfl
  | some xs => exact (CommaList.parse_render_eq_some_iff xs).mpr (clean xs rfl)

theorem ofField?_fieldText (value : Option Date) :
    Date.ofField? (Date.fieldText value) = value := by
  cases value with
  | none => rfl
  | some d => exact d.ofField?_text

theorem dsl_dslText {value : Option Json} (fits : ∀ j ∈ value, j.Fits Json.maxDepth)
    (whole : ∀ j ∈ value, j.Whole) : dsl (dslText value) = .ok value := by
  cases value with
  | none => rfl
  | some j => exact dsl_pretty (fits j rfl) (whole j rfl)

end Form

/-! ## How fields are read -/

theorem Except.bind_eq_ok {ε α β : Type} {x : Except ε α} {next : α → Except ε β} {b : β} :
    (x >>= next) = .ok b ↔ ∃ a, x = .ok a ∧ next a = .ok b := by
  cases x <;> simp [bind, Except.bind]

theorem Form.required_eq_ok {field typed s : String} :
    Form.required field typed = .ok s ↔ nonBlank? typed = some s := by
  unfold Form.required
  cases nonBlank? typed <;> simp

/-! ## Values of fields -/

/-- The value of a record that a field shows. -/
inductive FieldValue where
  | text (value : Option String)
  | word (value : String)
  | list (value : Option (List String))
  | date (value : Option Date)
  | dsl (value : Option Json)
  | order (value : Int32)

namespace FieldValue

/-- The text that shows the value. -/
def shown : FieldValue → String
  | .text value => value.getD ""
  | .word value => value
  | .list value => CommaList.render value
  | .date value => Date.fieldText value
  | .dsl value => Form.dslText value
  | .order value => Integer.render value.toInt

/-- The value behind a change that holds what the text says; what the text does not say stays. -/
def after (old : FieldValue) (typed : String) : FieldValue :=
  match old with
  | .text value => .text ((nonBlank? typed).or value)
  | .word value => .word ((nonBlank? typed).getD value)
  | .list value => .list ((CommaList.parse typed).or value)
  | .date value => .date ((Date.ofField? typed).or value)
  | .dsl value => .dsl ((Form.dsl typed).toOption.join.or value)
  | .order value => .order ((Form.order typed).toOption.getD value)

/-- What the value is in a payload, if it is there. -/
def payload : FieldValue → Option Json
  | .text value => value.map encode
  | .word value => some (encode value)
  | .list value => value.map encode
  | .date value => value.map encode
  | .dsl value => value.map encode
  | .order value => some (encode value)

/-- The text has no blanks at its ends, unless it has nothing else. -/
def CleanText (s : String) : Prop := IsBlank s ∨ trim s = s

/-- A value that an untouched field leaves as it is. -/
def Clean : FieldValue → Prop
  | .text value => ∀ s ∈ value, CleanText s
  | .word value => CleanText value
  | .list value => ∀ xs ∈ value, (∀ x ∈ xs, CommaList.IsVoid x) ∨ ∀ x ∈ xs, CommaList.IsClean x
  | .date _ => True
  | .dsl _ => True
  | .order _ => True

/-- A JSON value is one that a text can hold, with whole numbers only. -/
def Readable : FieldValue → Prop
  | .dsl value => ∀ j ∈ value, j.Fits Json.maxDepth ∧ j.Whole
  | _ => True

/-- A text field leaves a text as it is exactly if the text is clean. -/
theorem getD_nonBlank?_eq_self_iff {s : String} : (nonBlank? s).getD s = s ↔ CleanText s := by
  by_cases blank : IsBlank s
  · rw [nonBlank?_eq_none_iff.mpr blank]
    exact iff_of_true rfl (.inl blank)
  · have read : nonBlank? s = some (trim s) := nonBlank?_eq_some_iff.mpr ⟨rfl, blank⟩
    rw [read]
    exact ⟨.inr, fun clean => clean.resolve_left blank⟩

/-- A list field leaves a list as it is exactly if none of its items says anything, or all do. -/
theorem getD_parse_render_eq_self_iff {xs : List String} :
    (CommaList.parse (CommaList.render (some xs))).getD xs = xs ↔
      (∀ x ∈ xs, CommaList.IsVoid x) ∨ ∀ x ∈ xs, CommaList.IsClean x := by
  rw [← CommaList.parse_render_eq_none_iff]
  have same := CommaList.parse_render_eq_some_iff xs
  cases read : CommaList.parse (CommaList.render (some xs)) with
  | none => exact iff_of_true rfl (.inl rfl)
  | some ys =>
    have nonempty : xs ≠ [] := by
      rintro rfl
      have : CommaList.parse (CommaList.render (some [])) = none := by decide
      rw [this] at read
      cases read
    rw [read, Option.some.injEq] at same
    simp [same, nonempty]

/-- A field of a position leaves the position as it is. -/
theorem order_after_shown (n : Int32) :
    (Form.order (Integer.render n.toInt)).toOption.getD n = n := by
  rw [Form.order_render]
  split
  · exact Int32.ofInt_toInt n
  · rfl

/-- An untouched field leaves its value as it is exactly if the value is clean. -/
theorem after_shown {v : FieldValue} (readable : v.Readable) : v.after v.shown = v ↔ v.Clean := by
  cases v with
  | text value =>
    cases value with
    | none => exact iff_of_true rfl nofun
    | some s => simp [after, shown, Clean, getD_nonBlank?_eq_self_iff]
  | word s => simp [after, shown, Clean, getD_nonBlank?_eq_self_iff]
  | list value =>
    cases value with
    | none => exact iff_of_true rfl nofun
    | some xs => simp [after, shown, Clean, getD_parse_render_eq_self_iff]
  | date value =>
    cases value with
    | none => exact iff_of_true rfl trivial
    | some d => simp [after, shown, Clean, Date.fieldText, Date.ofField?_text]
  | dsl value =>
    cases value with
    | none => exact iff_of_true rfl trivial
    | some j =>
      obtain ⟨fits, whole⟩ := readable j rfl
      simp [after, shown, Clean, Form.dslText, Form.dsl_pretty fits whole, Except.toOption]
  | order n => exact iff_of_true (congrArg order (order_after_shown n)) trivial

end FieldValue

end MetricConsole
