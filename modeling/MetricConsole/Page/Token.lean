import MetricConsole.Catalog.Vocabulary
import MetricConsole.Icon
import MetricConsole.Page.Choice

/-!
# Tokens

A page shows a sequence of tokens, in reading order.  A control carries the message that it sends
when it is used; a button that is left over from a line that is gone sends none.  `press?`, `fill?`
and `openTab?` find a control the way a user names it.  A page that `stops` has a piece at which the
program fails.
-/

namespace MetricConsole

/-- How a button looks. -/
inductive ButtonLook where
  | native
  | primary
  | secondary
  | subtle
  deriving DecidableEq, Repr

instance : Vocabulary ButtonLook where
  all := [.native, .primary, .secondary, .subtle]
  word
    | .native => "native"
    | .primary => "primary"
    | .secondary => "secondary"
    | .subtle => "subtle"

/-- How a badge looks. -/
inductive BadgeLook where
  | tint
  | outline
  deriving DecidableEq, Repr

instance : Vocabulary BadgeLook where
  all := [.tint, .outline]
  word
    | .tint => "tint"
    | .outline => "outline"

/-- The color of a badge. -/
inductive BadgeColor where
  | brand
  | success
  | warning
  | danger
  | subtle
  | informative
  deriving DecidableEq, Repr

instance : Vocabulary BadgeColor where
  all := [.brand, .success, .warning, .danger, .subtle, .informative]
  word
    | .brand => "brand"
    | .success => "success"
    | .warning => "warning"
    | .danger => "danger"
    | .subtle => "subtle"
    | .informative => "informative"

/-- What a field is for. -/
inductive FieldKind where
  | text
  | date
  | textarea
  deriving DecidableEq, Repr

instance : Vocabulary FieldKind where
  all := [.text, .date, .textarea]
  word
    | .text => "text"
    | .date => "date"
    | .textarea => "textarea"

/-- The mood of a card with a count. -/
inductive Tone where
  | neutral
  | success
  | warning
  | error
  deriving DecidableEq, Repr

/-- A piece of a page whose controls send messages of type `μ`. -/
inductive Token (μ : Type) where
  | text (s : String)
  | button (look : ButtonLook) (enabled : Bool) (label : String) (title : Option String)
    (sends : Option μ)
  | badge (look : BadgeLook) (color : BadgeColor) (label : String)
  | field (name : String) (kind : FieldKind) (value hint : String) (sends : String → μ)
  | select (name : String) (selected : Option String) (choices : List Choice) (sends : String → μ)
  | dialog
  | endDialog
  | spinner
  | tab (value : String) (selected : Bool) (label : String) (sends : μ)
  | row (selected : Bool)
  | head
  | cell
  | icon (i : Option Icon)
  | card (tone : Tone)
  /-- A count whose text overflows. -/
  | overflow

namespace Token

variable {μ ν : Type}

/-- The token with its messages passed through a function. -/
def map (f : μ → ν) : Token μ → Token ν
  | .text s => .text s
  | .button look enabled label title sends => .button look enabled label title (sends.map f)
  | .badge look color label => .badge look color label
  | .field name kind value hint sends => .field name kind value hint fun s => f (sends s)
  | .select name selected choices sends => .select name selected choices fun s => f (sends s)
  | .dialog => .dialog
  | .endDialog => .endDialog
  | .spinner => .spinner
  | .tab value selected label sends => .tab value selected label (f sends)
  | .row selected => .row selected
  | .head => .head
  | .cell => .cell
  | .icon i => .icon i
  | .card tone => .card tone
  | .overflow => .overflow

/-- The token with a button that sends nothing any more. -/
def mute : Token μ → Token μ
  | .button look enabled label title _ => .button look enabled label title none
  | t => t

/-- What the button with a label sends; a disabled one sends nothing. -/
def asButton? (label : String) : Token μ → Option (Option μ)
  | .button _ enabled l _ sends =>
    if l = label then some (if enabled then sends else none) else none
  | _ => none

/-- The message of a field or a selector with a name when it gets a value. -/
def asField? (name value : String) : Token μ → Option μ
  | .field n _ _ _ sends => if n = name then some (sends value) else none
  | .select n _ _ sends => if n = name then some (sends value) else none
  | _ => none

/-- The message of the tab with a value. -/
def asTab? (value : String) : Token μ → Option μ
  | .tab v _ _ sends => if v = value then some sends else none
  | _ => none

/-- The program stops where it shows the token. -/
def stops : Token μ → Bool
  | .overflow => true
  | _ => false

end Token

/-- The tokens of a page. -/
abbrev Tokens (μ : Type) := List (Token μ)

namespace Tokens

variable {μ : Type}

/-- What a button sends, by its label and its place among those with that label. -/
def press? (label : String) (nth : Nat) (ts : Tokens μ) : Option (Option μ) :=
  (ts.filterMap (Token.asButton? label))[nth]?

/-- What a field sends when it gets a value, by its name and its place among those with that
name. -/
def fill? (name value : String) (nth : Nat) (ts : Tokens μ) : Option μ :=
  (ts.filterMap (Token.asField? name value))[nth]?

/-- What a tab sends. -/
def openTab? (value : String) (ts : Tokens μ) : Option μ :=
  (ts.filterMap (Token.asTab? value)).head?

/-- The program stops where it shows the page, of which there is nothing to see then. -/
def stops (ts : Tokens μ) : Bool := ts.any Token.stops

end Tokens

end MetricConsole
