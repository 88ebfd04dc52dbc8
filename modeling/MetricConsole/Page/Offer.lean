import MetricConsole.Page.Choice
import MetricConsole.Page.Listing

/-!
# Offers

The entries of a selector as the screen shows them.  The offers of a list that changes make up a
listing, in which an entry is kept by its value.
-/

namespace MetricConsole.Page

/-- An entry of a selector on the screen, and whether it is marked as selected. -/
structure Offer where
  choice : Choice
  marked : Bool
  deriving DecidableEq, Repr

namespace Offer

/-- The entry in a selector that has a value. -/
def of (value : String) (c : Choice) : Offer := ⟨c, c.1 == value⟩

/-- The value of the first entry that is marked. -/
def selected? (os : List Offer) : Option String :=
  (os.find? Offer.marked).map fun o => o.choice.1

/-- The entries of a selector after its list or its value has changed. -/
def follow (value : String) (present : Bool) (cs : List Choice)
    (t : Option (Listing Offer String)) : Option (Listing Offer String) :=
  (Listing.follow (fun o => o.choice.1) present (cs.map (of value)) t).map
    (Listing.refresh fun o => of value o.choice)

/-- The entries that a selector shows. -/
def shown (t : Option (Listing Offer String)) : List Offer := (t.map Listing.items).getD []

end Offer

end MetricConsole.Page
