import MetricConsole.Page.Component
import MetricConsole.Page.Scene

/-!
# The dimensions

Four tables, one at a time, searched by one keyword.
-/

namespace MetricConsole.Page.Dimensions

/-- The table that is open; a row stays as it is as long as its id is the same. -/
inductive OpenTable where
  | companies (t : Option (Listing Company Int64))
  | products (t : Option (Listing Product Int64))
  | channels (t : Option (Listing Channel Int64))
  | combos (t : Option (Listing Combo Int64))
  deriving DecidableEq, Repr

/-- The keyword, the open tab and its table. -/
structure State where
  keyword : String
  tab : String
  table : OpenTable
  deriving DecidableEq, Repr

/-- What the keyword field and the tabs send. -/
inductive Msg where
  | setKeyword (s : String)
  | openTab (value : String)
  deriving DecidableEq, Repr

/-- The tab of the companies, without a keyword. -/
def initial : State := ⟨"", DimensionKind.company.collection, .companies none⟩

/-- The table of a tab; an unknown tab has the companies. -/
def kindOfTab (tab : String) : DimensionKind :=
  ((Vocabulary.all (α := DimensionKind)).find? fun k => k.collection == tab).getD .company

/-- The key of the table that is open. -/
def tableKey (s : State) : QueryKey := .dimension (kindOfTab s.tab) (.ofKeyword s.keyword)

/-- The page looks at the table that is open, searched by the keyword. -/
def keys (s : State) : List (Option QueryKey) := [some (tableKey s)]

/-- A table of dimension members after the scene has changed. -/
def follow {α : Type} [Codec α] (scene : Scene) (s : State) (key : α → Int64)
    (t : Option (Listing α Int64)) : Option (Listing α Int64) :=
  let members := scene.list α (some (tableKey s))
  Listing.follow key (!members.isEmpty) members t

/-- The page after the scene has changed.  A tab of another kind opens a table of its own. -/
def sync (scene : Scene) (s : State) : State :=
  let table : OpenTable :=
    match kindOfTab s.tab, s.table with
    | .company, .companies t => .companies (follow scene s Company.id t)
    | .company, _ => .companies (follow scene s Company.id none)
    | .product, .products t => .products (follow scene s Product.id t)
    | .product, _ => .products (follow scene s Product.id none)
    | .channel, .channels t => .channels (follow scene s Channel.id t)
    | .channel, _ => .channels (follow scene s Channel.id none)
    | .combo, .combos t => .combos (follow scene s Combo.id t)
    | .combo, _ => .combos (follow scene s Combo.id none)
  { s with table := table }

/-- What a message does; the table follows when the scene is looked at again. -/
def update (s : State) : Msg → State
  | .setKeyword v => { s with keyword := v }
  | .openTab value => { s with tab := value }

/-! ## View -/

/-- A number, or a dash. -/
def number (n : Option Int) : String := Text.orAbsent (n.map Text.Integer.render)

/-- The cell of an id. -/
def idCell (id : Int64) : Tokens Msg := say (Text.Integer.render id.toInt)

/-- The row of a company; one that is not known to be active counts as disabled. -/
def companyRow (c : Company) : Tokens Msg :=
  let status := if c.isActive.getD false then badge .tint .success "enabled"
    else badge .tint .subtle "disabled"
  tableRow false [idCell c.id, say (Text.shownOrAbsent c.code), say (Text.shownOrAbsent c.name),
    say (number (c.level.map Int32.toInt)), say (number (c.parentId.map Int64.toInt)), [status]]

/-- The row of a product. -/
def productRow (p : Product) : Tokens Msg :=
  tableRow false [idCell p.id, say (Text.shownOrAbsent p.code), say (Text.shownOrAbsent p.name),
    say (Text.shownOrAbsent p.kind)]

/-- The row of a channel. -/
def channelRow (c : Channel) : Tokens Msg :=
  tableRow false [idCell c.id, say (Text.shownOrAbsent c.code), say (Text.shownOrAbsent c.name),
    say (Text.shownOrAbsent c.kind)]

/-- The row of a combination, by the names of its parts. -/
def comboRow (c : Combo) : Tokens Msg :=
  tableRow false [idCell c.id, say (Text.shownOrAbsent c.companyName),
    say (Text.shownOrAbsent c.coreCompanyName), say (Text.shownOrAbsent c.productName),
    say (Text.shownOrAbsent c.channelName)]

/-- What the table shows. -/
def tableTokens : OpenTable → Tokens Msg
  | .companies t =>
    table "No companies" ["ID", "Code", "Name", "Level", "Parent", "Status"] companyRow t
  | .products t => table "No products" ["ID", "Code", "Name", "Type"] productRow t
  | .channels t => table "No channels" ["ID", "Code", "Name", "Type"] channelRow t
  | .combos t =>
    table "No combinations" ["ID", "Company", "Core company", "Product", "Channel"] comboRow t

/-- The tabs. -/
def tabs (s : State) : Tokens Msg :=
  (Vocabulary.all (α := DimensionKind)).map fun k =>
    .tab k.collection (k.collection == s.tab) k.label (.openTab k.collection)

/-- What the keyword field is for. -/
def keywordHint : String := "Keyword (name / code)"

/-- The heading with the keyword, the tabs and the table. -/
def view (scene : Scene) (s : State) : Tokens Msg :=
  let snapshot := scene.see (some (tableKey s))
  pageHeader "Dimensions" (some "Companies, products, channels and their combinations.")
      [.field keywordHint .text s.keyword keywordHint .setKeyword] ++
    tabs s ++ queryStatus snapshot.isLoading snapshot.error loading ++ tableTokens s.table

end MetricConsole.Page.Dimensions
