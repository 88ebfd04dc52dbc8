import Mathlib.Data.List.Infix
import MetricConsole.Page.Component
import MetricConsole.Proofs.Text.Blank

/-!
# Warnings on a page

A warning is a sign and a message.  Passing the messages of the controls on to another page leaves
texts and warnings as they are.

* `Tokens.Warns`: a page has a warning with a message.
* `Tokens.mentions`: some text of a page has a message in it.
* `Tokens.Warns.mentions`: a warning is such a text.
-/

namespace MetricConsole

open Page

variable {μ ν : Type}

namespace Page

theorem map_say (f : μ → ν) (s : String) : (say s).map (Token.map f) = say s := by
  unfold say
  split <;> rfl

theorem map_say? (f : μ → ν) (s : Option String) :
    ((s.map say).getD []).map (Token.map f) = (s.map say).getD [] := by
  cases s with
  | none => rfl
  | some s => exact map_say f s

theorem map_errorBox (f : μ → ν) (message : String) :
    (errorBox message).map (Token.map f) = errorBox message := by
  rw [errorBox, List.map_append, map_say, map_say, errorBox]

theorem map_errorBox? (f : μ → ν) (message : Option String) :
    (errorBox? message).map (Token.map f) = errorBox? message := by
  cases message with
  | none => rfl
  | some m => exact map_errorBox f m

/-- A solid text is shown as it is. -/
theorem say_eq {s : String} (solid : Text.IsSolid s) : (say s : Tokens μ) = [.text s] := by
  rw [say, Text.nonBlank?_eq_self_iff.mpr solid]

end Page

namespace Tokens

/-- The page has a warning with a message. -/
def Warns (message : String) (ts : Tokens μ) : Prop := errorBox message <:+: ts

/-- Some text of the page has a message in it. -/
def mentions (message : String) (ts : Tokens μ) : Bool :=
  ts.any fun
    | .text s => decide (message.toList <:+: s.toList)
    | _ => false

/-- A text that has a message in it has every part of the message. -/
theorem mentions_of_infix {message part : String} {ts : Tokens μ}
    (mentioned : ts.mentions message = true) (shorter : part.toList <:+: message.toList) :
    ts.mentions part = true := by
  rcases List.any_eq_true.mp mentioned with ⟨t, mem, has⟩
  refine List.any_eq_true.mpr ⟨t, mem, ?_⟩
  cases t with
  | text s => exact decide_eq_true (shorter.trans (of_decide_eq_true has))
  | _ => cases has

namespace Warns

variable {message : String} {ts us : Tokens μ}

theorem mono (warns : ts.Warns message) (shown : ts <:+: us) : us.Warns message :=
  List.IsInfix.trans warns shown

theorem map (f : μ → ν) (warns : ts.Warns message) :
    Tokens.Warns message (ts.map (Token.map f)) := by
  have shown := List.IsInfix.map (Token.map f) warns
  rwa [map_errorBox] at shown

/-- A warning with a solid message is a text that has it. -/
theorem mentions (warns : ts.Warns message) (solid : Text.IsSolid message) :
    ts.mentions message = true := by
  refine List.any_eq_true.mpr ⟨.text message, warns.subset ?_, decide_eq_true (List.infix_refl _)⟩
  rw [errorBox, say_eq solid]
  exact List.mem_append_right _ (List.mem_singleton_self _)

end Warns

end Tokens

theorem Page.warns_queryStatus (isLoading : Bool) (e : ApiError) (loadingText : String) :
    Tokens.Warns (μ := μ) e.userMessage (queryStatus isLoading (some e) loadingText) :=
  (List.suffix_append _ _).isInfix

end MetricConsole
