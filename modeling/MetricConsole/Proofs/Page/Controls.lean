import MetricConsole.Page.Component

/-!
# What the controls of a page send

A page is guarded by a condition on messages if every message that one of its controls sends meets
the condition; a button sends nothing while it is disabled.  Whether a page is guarded is read off
the pieces that it is put together from.

* `Tokens.Guarded`: everything that the controls send meets a condition.
* `Tokens.Guarded.press`, `Tokens.Guarded.fill`, `Tokens.Guarded.openTab`: so does what a user
  makes them send.
* `Page.guarded_dialog`, `Page.guarded_table`: the pieces of a page.
-/

namespace MetricConsole

variable {μ ν : Type}

/-! ## Guarded controls -/

/-- Every message that the control sends meets the condition. -/
def Token.Guarded (meets : μ → Prop) : Token μ → Prop
  | .button _ enabled _ _ sends => enabled = true → ∀ m ∈ sends, meets m
  | .field _ _ _ _ sends | .select _ _ _ sends => ∀ value, meets (sends value)
  | .tab _ _ _ sends => meets sends
  | _ => True

/-- Every message that one of the controls sends meets the condition. -/
def Tokens.Guarded (meets : μ → Prop) (ts : Tokens μ) : Prop := ∀ t ∈ ts, t.Guarded meets

namespace Tokens.Guarded

variable {meets meets' : μ → Prop} {ts : Tokens μ} {m : μ}

/-- A weaker condition guards the same controls. -/
theorem mono (guarded : ts.Guarded meets) (weaker : ∀ m, meets m → meets' m) :
    ts.Guarded meets' := by
  intro t mem
  have own := guarded t mem
  cases t with
  | button look enabled label title sends => exact fun live m sent => weaker m (own live m sent)
  | field | select => exact fun value => weaker _ (own value)
  | tab value selected label sends => exact weaker sends own
  | _ => trivial

/-- A condition that every message meets guards all controls. -/
theorem of_forall (all : ∀ m, meets m) : ts.Guarded meets := by
  intro t _
  cases t with
  | button => exact fun _ m _ => all m
  | field | select => exact fun value => all _
  | tab => exact all _
  | _ => trivial

theorem press (guarded : ts.Guarded meets) {label : String} {nth : Nat}
    (pressed : ts.press? label nth = some (some m)) : meets m := by
  obtain ⟨t, mem, button⟩ := List.mem_filterMap.mp (List.mem_of_getElem? pressed)
  have own := guarded t mem
  cases t with
  | button look enabled l title sends =>
    simp only [Token.asButton?] at button
    split at button
    · cases enabled with
      | true => exact own rfl m (Option.some.inj button)
      | false => cases Option.some.inj button
    · cases button
  | _ => cases button

theorem fill (guarded : ts.Guarded meets) {name value : String} {nth : Nat}
    (filled : ts.fill? name value nth = some m) : meets m := by
  obtain ⟨t, mem, field⟩ := List.mem_filterMap.mp (List.mem_of_getElem? filled)
  have own := guarded t mem
  cases t with
  | field | select =>
    simp only [Token.asField?] at field
    split at field
    · exact Option.some.inj field ▸ own value
    · cases field
  | _ => cases field

theorem openTab (guarded : ts.Guarded meets) {value : String}
    (opened : ts.openTab? value = some m) : meets m := by
  obtain ⟨t, mem, tab⟩ := List.mem_filterMap.mp (List.mem_of_head? opened)
  have own := guarded t mem
  cases t with
  | tab =>
    simp only [Token.asTab?] at tab
    split at tab
    · exact Option.some.inj tab ▸ own
    · cases tab
  | _ => cases tab

end Tokens.Guarded

/-! ## The pieces of a page -/

section Pieces

variable {meets : μ → Prop}

@[simp]
theorem Tokens.guarded_nil : Tokens.Guarded meets [] := nofun

@[simp]
theorem Tokens.guarded_cons {t : Token μ} {ts : Tokens μ} :
    Tokens.Guarded meets (t :: ts) ↔ t.Guarded meets ∧ Tokens.Guarded meets ts :=
  List.forall_mem_cons

@[simp]
theorem Tokens.guarded_append {ts us : Tokens μ} :
    Tokens.Guarded meets (ts ++ us) ↔ Tokens.Guarded meets ts ∧ Tokens.Guarded meets us :=
  List.forall_mem_append

/-- Passing the messages on to a page passes the condition back. -/
theorem Tokens.guarded_map {f : ν → μ} {ts : Tokens ν} :
    Tokens.Guarded meets (ts.map (Token.map f)) ↔ Tokens.Guarded (fun m => meets (f m)) ts := by
  refine List.forall_mem_map.trans (forall₂_congr fun t _ => ?_)
  cases t with
  | button => simp [Token.Guarded, Token.map]
  | _ => rfl

namespace Page

@[simp]
theorem guarded_say (s : String) : Tokens.Guarded meets (say s) := by
  unfold say
  split
  · exact List.forall_mem_singleton.mpr trivial
  · exact Tokens.guarded_nil

@[simp]
theorem guarded_button {look : ButtonLook} {enabled : Bool} {label : String} {m : μ} :
    (button look enabled label m).Guarded meets ↔ (enabled = true → meets m) := by
  simp [button, Token.Guarded]

@[simp]
theorem guarded_badge {look : BadgeLook} {color : BadgeColor} {s : String} :
    (badge look color s : Token μ).Guarded meets := trivial

@[simp]
theorem guarded_statusBadge {status : String} : (statusBadge status : Token μ).Guarded meets :=
  trivial

@[simp]
theorem guarded_sensitivityBadge {level : String} :
    (sensitivityBadge level : Token μ).Guarded meets := trivial

@[simp]
theorem guarded_textField {label hint value : String} {required : Bool} {sends : String → μ} :
    (textField label required hint value sends).Guarded meets ↔ ∀ s, meets (sends s) := Iff.rfl

@[simp]
theorem guarded_textArea {label hint value : String} {sends : String → μ} :
    (textArea label hint value sends).Guarded meets ↔ ∀ s, meets (sends s) := Iff.rfl

@[simp]
theorem guarded_dateField {label value : String} {required : Bool} {sends : String → μ} :
    (dateField label required value sends).Guarded meets ↔ ∀ s, meets (sends s) := Iff.rfl

@[simp]
theorem guarded_offerField {label : String} {offers : List Offer} {sends : String → μ} :
    (offerField label offers sends).Guarded meets ↔ ∀ s, meets (sends s) := Iff.rfl

@[simp]
theorem guarded_selectField {label value : String} {choices : List Choice} {sends : String → μ} :
    (selectField label value choices sends).Guarded meets ↔ ∀ s, meets (sends s) := Iff.rfl

@[simp]
theorem guarded_errorBox (message : String) : Tokens.Guarded meets (errorBox message) := by
  simp [errorBox]

@[simp]
theorem guarded_errorBox? (message : Option String) :
    Tokens.Guarded meets (errorBox? message) := by
  cases message <;> simp [errorBox?]

@[simp]
theorem guarded_queryStatus (isLoading : Bool) (error : Option ApiError) (loadingText : String) :
    Tokens.Guarded meets (queryStatus isLoading error loadingText) := by
  cases isLoading <;> simp [queryStatus, Token.Guarded]

@[simp]
theorem guarded_pageHeader {title : String} {subtitle : Option String} {controls : Tokens μ} :
    Tokens.Guarded meets (pageHeader title subtitle controls) ↔ Tokens.Guarded meets controls := by
  cases subtitle <;> simp [pageHeader]

@[simp]
theorem guarded_dialog {isOpen : Bool} {content : Tokens μ} :
    Tokens.Guarded meets (dialog isOpen content) ↔
      (isOpen = true → Tokens.Guarded meets content) := by
  cases isOpen <;> simp [dialog, Token.Guarded]

@[simp]
theorem guarded_tableRow {selected : Bool} {cells : List (Tokens μ)} :
    Tokens.Guarded meets (tableRow selected cells) ↔
      ∀ cell ∈ cells, Tokens.Guarded meets cell := by
  have row : (Token.row selected : Token μ).Guarded meets := trivial
  refine (Tokens.guarded_cons.trans (and_iff_right row)).trans ?_
  constructor
  · intro guarded cell mem t inside
    exact guarded t (List.mem_flatMap.mpr ⟨cell, mem, List.mem_cons_of_mem _ inside⟩)
  · intro guarded t mem
    obtain ⟨cell, inside, here⟩ := List.mem_flatMap.mp mem
    obtain rfl | here := List.mem_cons.mp here
    · exact trivial
    · exact guarded cell inside t here

theorem guarded_mute {t : Token μ} (guarded : t.Guarded meets) : t.mute.Guarded meets := by
  cases t with
  | button => exact fun _ _ => nofun
  | _ => exact guarded

theorem guarded_tableHead (names : List String) : Tokens.Guarded meets (tableHead names) := by
  refine Tokens.guarded_cons.mpr ⟨trivial, fun t mem => ?_⟩
  obtain ⟨name, -, here⟩ := List.mem_flatMap.mp mem
  obtain rfl | here := List.mem_cons.mp here
  · exact trivial
  · exact guarded_say name t here

/-- A table is guarded if its rows are; the buttons of a row that is left behind send nothing. -/
theorem guarded_table {α κ : Type} {remark : String} {names : List String} {row : α → Tokens μ}
    (rows : ∀ a, Tokens.Guarded meets (row a)) (t : Option (Listing α κ)) :
    Tokens.Guarded meets (table remark names row t) := by
  cases t with
  | none => exact guarded_say remark
  | some t =>
    refine Tokens.guarded_append.mpr ⟨guarded_tableHead names, fun token mem => ?_⟩
    obtain ⟨line, -, here⟩ := List.mem_flatMap.mp mem
    split at here
    · exact rows line.item token here
    · obtain ⟨token, inside, rfl⟩ := List.mem_map.mp here
      exact guarded_mute (rows line.item token inside)

end Page

end Pieces

end MetricConsole
