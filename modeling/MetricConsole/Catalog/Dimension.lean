import MetricConsole.Catalog.Vocabulary
import MetricConsole.Json.Layout
import MetricConsole.Text.Blank

/-!
# Dimensions

The rows of the reference tables, and the keyword by which they are searched.
-/

namespace MetricConsole

/-- The keyword of a search; without one every row is shown. -/
structure DimensionFilter where
  keyword : Option String
  deriving DecidableEq, Repr

namespace DimensionFilter

/-- The keyword, left out if there is none. -/
@[reducible]
def layout : Layout DimensionFilter DimensionFilter :=
  Layout.make DimensionFilter.mk
    |>.optional "keyword" DimensionFilter.keyword

instance : Codec DimensionFilter := layout.codec

/-- The search for the text of a keyword field. -/
def ofKeyword (keyword : String) : DimensionFilter := ⟨Text.nonBlank? keyword⟩

/-- The parameters of the search. -/
def parameters (f : DimensionFilter) : List (String × String) :=
  f.keyword.toList.map ("keyword", ·)

end DimensionFilter

/-- A company. -/
structure Company where
  id : Int64
  code : Option String
  name : Option String
  level : Option Int32
  parentId : Option Int64
  isActive : Option Bool
  deriving DecidableEq, Repr

namespace Company

/-- The columns of the table of companies; all but the id may be missing. -/
@[reducible]
def layout : Layout Company Company :=
  Layout.make Company.mk
    |>.required "company_id" Company.id
    |>.defaulted "company_code" Company.code none
    |>.defaulted "company_name" Company.name none
    |>.defaulted "level" Company.level none
    |>.defaulted "parent_company_id" Company.parentId none
    |>.defaulted "is_active" Company.isActive none

instance : Codec Company := layout.codec

end Company

/-- A product. -/
structure Product where
  id : Int64
  code : Option String
  name : Option String
  kind : Option String
  deriving DecidableEq, Repr

namespace Product

/-- The columns of the table of products; all but the id may be missing. -/
@[reducible]
def layout : Layout Product Product :=
  Layout.make Product.mk
    |>.required "product_id" Product.id
    |>.defaulted "product_code" Product.code none
    |>.defaulted "product_name" Product.name none
    |>.defaulted "product_type" Product.kind none

instance : Codec Product := layout.codec

end Product

/-- A channel. -/
structure Channel where
  id : Int64
  code : Option String
  name : Option String
  kind : Option String
  deriving DecidableEq, Repr

namespace Channel

/-- The columns of the table of channels; all but the id may be missing. -/
@[reducible]
def layout : Layout Channel Channel :=
  Layout.make Channel.mk
    |>.required "channel_id" Channel.id
    |>.defaulted "channel_code" Channel.code none
    |>.defaulted "channel_name" Channel.name none
    |>.defaulted "channel_type" Channel.kind none

instance : Codec Channel := layout.codec

end Channel

/-- A combination of companies, a product and a channel. -/
structure Combo where
  id : Int64
  companyId : Option Int64
  coreCompanyId : Option Int64
  productId : Option Int64
  channelId : Option Int64
  companyName : Option String
  coreCompanyName : Option String
  productName : Option String
  channelName : Option String
  deriving DecidableEq, Repr

namespace Combo

/-- The columns of the table of combinations: the ids and the names of the parts may be missing. -/
@[reducible]
def layout : Layout Combo Combo :=
  Layout.make Combo.mk
    |>.required "combo_id" Combo.id
    |>.defaulted "company_id" Combo.companyId none
    |>.defaulted "core_company_id" Combo.coreCompanyId none
    |>.defaulted "product_id" Combo.productId none
    |>.defaulted "channel_id" Combo.channelId none
    |>.defaulted "company_name" Combo.companyName none
    |>.defaulted "core_company_name" Combo.coreCompanyName none
    |>.defaulted "product_name" Combo.productName none
    |>.defaulted "channel_name" Combo.channelName none

instance : Codec Combo := layout.codec

end Combo

end MetricConsole
