import MetricConsole.Json.Codec

/-!
# Vocabularies

The closed lists of words of the catalog.  A payload holds the word, or an object whose only member
has the word as its name and `null` as its value.
-/

namespace MetricConsole

/-- A finite type whose values have words. -/
class Vocabulary (α : Type) where
  all : List α
  word : α → String

export Vocabulary (word)

/-- The value with a word. -/
def Vocabulary.ofWord? (α : Type) [Vocabulary α] (w : String) : Option α :=
  (Vocabulary.all (α := α)).find? fun a => word a == w

/-- The words of a vocabulary, in their order. -/
def Vocabulary.words (α : Type) [Vocabulary α] : List String :=
  (Vocabulary.all (α := α)).map word

/-- The codec of a vocabulary. -/
abbrev Vocabulary.codec (α : Type) [Vocabulary α] : Codec α where
  encode a := .str (word a)
  decode?
    | .str w => ofWord? α w
    | .obj [(w, .null)] => ofWord? α w
    | _ => none

/-- How sensitive a metric is. -/
inductive Sensitivity where
  | normal
  | confidential
  | secret
  deriving DecidableEq, Repr

instance : Vocabulary Sensitivity where
  all := [.normal, .confidential, .secret]
  word
    | .normal => "normal"
    | .confidential => "confidential"
    | .secret => "secret"

instance : Codec Sensitivity := Vocabulary.codec Sensitivity

/-- A level counts as sensitive unless it is the word for normal. -/
def Sensitivity.isSensitive (level : String) : Bool := level != word Sensitivity.normal

/-- Where a version of a metric stands. -/
inductive VersionStatus where
  | draft
  | active
  | deprecated
  deriving DecidableEq, Repr

instance : Vocabulary VersionStatus where
  all := [.draft, .active, .deprecated]
  word
    | .draft => "draft"
    | .active => "active"
    | .deprecated => "deprecated"

instance : Codec VersionStatus := Vocabulary.codec VersionStatus

/-- The name of a status on the page. -/
def VersionStatus.label : VersionStatus → String
  | .draft => "Draft"
  | .active => "Active"
  | .deprecated => "Deprecated"

/-- What a caliber does to a metric. -/
inductive CaliberCategory where
  | filter
  | aggregate
  | calculate
  | others
  deriving DecidableEq, Repr

instance : Vocabulary CaliberCategory where
  all := [.filter, .aggregate, .calculate, .others]
  word
    | .filter => "filter"
    | .aggregate => "aggregate"
    | .calculate => "calculate"
    | .others => "others"

instance : Codec CaliberCategory := Vocabulary.codec CaliberCategory

/-- The name of a category on the page. -/
def CaliberCategory.label : CaliberCategory → String
  | .filter => "Filter"
  | .aggregate => "Aggregate"
  | .calculate => "Calculate"
  | .others => "Others"

/-- Whether a binding is in force. -/
inductive BindingStatus where
  | active
  | inactive
  deriving DecidableEq, Repr

instance : Vocabulary BindingStatus where
  all := [.active, .inactive]
  word
    | .active => "active"
    | .inactive => "inactive"

instance : Codec BindingStatus := Vocabulary.codec BindingStatus

/-- The reference tables by which metric values are sliced. -/
inductive DimensionKind where
  | company
  | product
  | channel
  | combo
  deriving DecidableEq, Repr

instance : Vocabulary DimensionKind where
  all := [.company, .product, .channel, .combo]
  word
    | .company => "company"
    | .product => "product"
    | .channel => "channel"
    | .combo => "combo"

instance : Codec DimensionKind := Vocabulary.codec DimensionKind

/-- The name of the collection of a kind, in paths and on tabs. -/
def DimensionKind.collection : DimensionKind → String
  | .company => "companies"
  | .product => "products"
  | .channel => "channels"
  | .combo => "combos"

/-- The name of a kind on the page. -/
def DimensionKind.label : DimensionKind → String
  | .company => "Companies"
  | .product => "Products"
  | .channel => "Channels"
  | .combo => "Combos"

end MetricConsole
