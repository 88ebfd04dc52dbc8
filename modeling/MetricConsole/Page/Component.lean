import MetricConsole.Api.Error
import MetricConsole.Page.Offer
import MetricConsole.Page.Token
import MetricConsole.Text.Absent
import MetricConsole.Text.Blank
import MetricConsole.Text.Count

/-!
# Components

The pieces that pages have in common.  Text shows without the blanks around it, and blank text does
not show at all.
-/

namespace MetricConsole.Page

variable {μ : Type}

/-- A text. -/
def say (s : String) : Tokens μ :=
  match Text.nonBlank? s with
  | some t => [.text t]
  | none => []

/-- The pieces of a label, with one space between those that are not blank. -/
def labelOf (pieces : List String) : String :=
  " ".intercalate (pieces.filterMap Text.nonBlank?)

/-- A label that starts with an icon. -/
def iconLabel (i : Icon) (s : String) : String := labelOf ["icon:" ++ word i, s]

/-- A button. -/
def button (look : ButtonLook) (enabled : Bool) (label : String) (sends : μ) : Token μ :=
  .button look enabled (labelOf [label]) none (some sends)

/-- A badge. -/
def badge (look : BadgeLook) (color : BadgeColor) (s : String) : Token μ :=
  .badge look color (labelOf [s])

/-! ## Messages -/

/-- A warning. -/
def errorBox (message : String) : Tokens μ := say "⚠" ++ say message

/-- A warning, if there is anything to warn of. -/
def errorBox? (message : Option String) : Tokens μ :=
  match message with
  | some m => errorBox m
  | none => []

/-- A spinner while something is loading, and a warning if that failed. -/
def queryStatus (isLoading : Bool) (error : Option ApiError) (loadingText : String) : Tokens μ :=
  (if isLoading then .spinner :: say loadingText else []) ++
    errorBox? (error.map ApiError.userMessage)

/-- What a spinner says unless something else is given. -/
def loading : String := "Loading..."

/-- The heading of a page, with its controls. -/
def pageHeader (title : String) (subtitle : Option String) (controls : Tokens μ) : Tokens μ :=
  say title ++ (subtitle.map say).getD [] ++ controls

/-- A count, or a dash if there is none. -/
def sayCount (count : Option Int64) : Tokens μ :=
  match count.map Text.formatCount with
  | none => say Text.absent
  | some (.ok text) => say text
  | some (.error .overflow) => [.overflow]

/-- A card with a count; without one it shows a dash. -/
def statCard (label : String) (icon : Option Icon) (count : Option Int64)
    (subtitle : Option String) (tone : Tone) : Tokens μ :=
  .card tone :: .icon icon :: (say label ++ sayCount count ++ (subtitle.map say).getD [])

/-- The badge for a status. -/
def statusBadge (status : String) : Token μ :=
  let color : BadgeColor :=
    match status with
    | "active" => .success
    | "draft" => .warning
    | "pending_review" => .brand
    | "deprecated" | "inactive" => .subtle
    | "failed" | "error" => .danger
    | _ => .informative
  badge .tint color status

/-- The badge for a sensitivity. -/
def sensitivityBadge (level : String) : Token μ :=
  let color : BadgeColor :=
    match level with
    | "secret" => .danger
    | "confidential" => .warning
    | _ => .success
  badge .tint color level

/-! ## Fields -/

/-- The name of a field; a star marks one that must not be blank. -/
def fieldName (label : String) (required : Bool) : String :=
  labelOf (if required then [label, "*"] else [label])

/-- A line of text. -/
def textField (label : String) (required : Bool) (hint value : String) (sends : String → μ) :
    Token μ :=
  .field (fieldName label required) .text value hint sends

/-- Lines of text. -/
def textArea (label hint value : String) (sends : String → μ) : Token μ :=
  .field (fieldName label false) .textarea value hint sends

/-- A date. -/
def dateField (label : String) (required : Bool) (value : String) (sends : String → μ) : Token μ :=
  .field (fieldName label required) .date value "" sends

/-- A choice of one offer; the texts of the entries show without the blanks around them. -/
def offerField (label : String) (offers : List Offer) (sends : String → μ) : Token μ :=
  .select (fieldName label false) (Offer.selected? offers)
    (offers.map fun o => (o.choice.1, Text.trim o.choice.2)) sends

/-- A choice of one entry. -/
def selectField (label value : String) (choices : List Choice) (sends : String → μ) : Token μ :=
  offerField label (choices.map (.of value)) sends

/-! ## Tables and dialogs -/

/-- The heading of a table. -/
def tableHead (names : List String) : Tokens μ :=
  .row false :: names.flatMap fun name => .head :: say name

/-- A row of a table. -/
def tableRow (selected : Bool) (cells : List (Tokens μ)) : Tokens μ :=
  .row selected :: cells.flatMap fun c => .cell :: c

/-- A dialog, which shows only while it is open. -/
def dialog (isOpen : Bool) (content : Tokens μ) : Tokens μ :=
  if isOpen then .dialog :: (content ++ [.endDialog]) else []

/-- A question before something is removed. -/
def confirmDialog (isOpen : Bool) (title message : String) (busy : Bool) (cancel confirm : μ) :
    Tokens μ :=
  dialog isOpen (say title ++ say message ++
    [button .secondary true "Cancel" cancel, button .primary (!busy) "Delete" confirm])

/-- The rows of a listing.  The buttons of a row that is left behind send nothing. -/
def tableRows {α κ : Type} (row : α → Tokens μ) (t : Listing α κ) : Tokens μ :=
  t.shown.flatMap fun l => if t.holds l then row l.item else (row l.item).map Token.mute

/-- A table, or a remark while there is none. -/
def table {α κ : Type} (remark : String) (names : List String) (row : α → Tokens μ)
    (t : Option (Listing α κ)) : Tokens μ :=
  match t with
  | some t => tableHead names ++ tableRows row t
  | none => say remark

end MetricConsole.Page
