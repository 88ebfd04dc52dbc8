/-!
# Listings

A listing is what a page shows of a list: the rows of a table, or the entries of a selector.  Every
item has a key, and a line of the listing stays as it was made for as long as the list has the key
that the line was made for.

A listing holds its lines twice: in slots, which follow the order of the list, and in the order of
the screen.  When the list changes, `Plan.between` compares the keys slot by slot.  Lines whose keys
are gone are removed, keys that are new get lines, and a line whose key comes elsewhere moves to
another slot.  On the screen a line stays in place if the removals and the additions before it
account for its move; any other line, like a new one, goes before the line of the first slot, from
its own on, that is filled at that moment.  So the screen need not show the order of the list.

Keys count once, although a list may have them more often.  A line that loses its slot to another
one is left behind on the screen, and shows from then on what it showed last.
-/

namespace MetricConsole.Page

/-- A line of a listing: its number, and the item that it was made for. -/
structure Line (α : Type) where
  number : Nat
  item : α
  deriving DecidableEq, Repr

/-- The keys of the list, the lines in their slots, the lines on the screen, and how many lines were
made so far. -/
structure Listing (α κ : Type) where
  keys : List κ
  slots : List (Line α)
  shown : List (Line α)
  made : Nat
  deriving DecidableEq, Repr

namespace Listing

/-! ## Plans -/

/-- A line goes from one slot to another, and to another place on the screen or not. -/
structure Move where
  source : Nat
  target : Nat
  onScreen : Bool
  deriving DecidableEq, Repr

/-- Which slots lose their lines for good, which lines move, and which slots get new lines. -/
structure Plan where
  removed : List Nat
  moved : List Move
  added : List Nat
  deriving DecidableEq, Repr

namespace Plan

/-- The change of place that the removals and the additions so far account for. -/
def shift (p : Plan) : Int := (p.added.length : Int) - (p.removed.length : Int)

/-- The plan with one more move.  A move right beside the one before it goes with that one. -/
def move (source target : Nat) (p : Plan) : Plan :=
  let own := (target : Int) - (source : Int) != p.shift
  let onScreen :=
    match p.moved.getLast? with
    | some m => if m.source + 1 = source ∧ m.target + 1 = target then m.onScreen else own
    | none => own
  { p with moved := p.moved ++ [⟨source, target, onScreen⟩] }

variable {κ : Type} [DecidableEq κ]

/-- The plan with what the keys of one slot ask for. -/
def compare (old new : List κ) (p : Plan) (i : Nat) : Plan :=
  if old[i]? = new[i]? then p
  else
    let p := if old[i]?.any (· ∉ new) then { p with removed := p.removed ++ [i] } else p
    let p := if new[i]?.any (· ∉ old) then { p with added := p.added ++ [i] } else p
    match old[i]?.bind new.idxOf? with
    | some j => p.move i j
    | none => p

/-- The plan that leads from one list of keys to another. -/
def between (old new : List κ) : Plan :=
  (List.range (max old.length new.length)).foldl (compare old new) ⟨[], [], []⟩

end Plan

/-! ## Carrying a plan out -/

variable {α : Type}

/-- A listing while a plan is carried out: some slots are empty. -/
structure Draft (α : Type) where
  slots : List (Option (Line α))
  shown : List (Line α)
  made : Nat

namespace Draft

/-- The line of a slot. -/
def line? (i : Nat) (d : Draft α) : Option (Line α) := d.slots[i]?.join

/-- Takes the line of a slot away. -/
def remove (d : Draft α) (i : Nat) : Draft α :=
  { d with
    slots := d.slots.set i none
    shown := d.shown.filter fun l => (d.line? i).map Line.number ≠ some l.number }

/-- Empties the slots of the lines that move, and puts empty slots for the new ones at the end. -/
def clear (sources : List Nat) (more : Nat) (d : Draft α) : Draft α :=
  { d with
    slots := sources.foldl (fun ls i => ls.set i none) d.slots ++ List.replicate more none }

/-- Puts a line in a slot. -/
def fill (i : Nat) (l : Line α) (d : Draft α) : Draft α :=
  { d with slots := d.slots.set i (some l) }

/-- The number of the line in the first slot that is filled, from a slot on. -/
def next? (i : Nat) (d : Draft α) : Option Nat :=
  ((d.slots.drop i).findSome? id).map Line.number

/-- Puts a line in a slot, and on the screen before the line of the first slot that is filled, from
that slot on, or at the end. -/
def place (i : Nat) (l : Line α) (d : Draft α) : Draft α :=
  let others := d.shown.filter fun o => o.number ≠ l.number
  let ahead (o : Line α) : Bool := d.next? i != some o.number
  { d.fill i l with shown := others.takeWhile ahead ++ l :: others.dropWhile ahead }

/-- Makes a line for an item and places it. -/
def add (i : Nat) (a : α) (d : Draft α) : Draft α :=
  { d.place i ⟨d.made, a⟩ with made := d.made + 1 }

/-- Carries a plan out.  The lines that stay in place on the screen get their slots first. -/
def carryOut (p : Plan) (items : List α) (d : Draft α) : Draft α :=
  let d := p.removed.foldl remove d
  let moves := p.moved.filterMap fun m => (d.line? m.source).map fun l => (m, l)
  let (placed, filled) := moves.partition fun m => m.1.onScreen
  let d := d.clear (p.moved.map Move.source) p.added.length
  let d := filled.foldl (fun d m => d.fill m.1.target m.2) d
  let d := placed.foldl (fun d m => d.place m.1.target m.2) d
  p.added.foldl (fun d i => (items[i]?.map fun a => d.add i a).getD d) d

end Draft

/-! ## Listings of lists -/

variable {κ : Type} [DecidableEq κ]

/-- The keys of a list, each once. -/
def keysOf (key : α → κ) (items : List α) : List κ := (items.map key).eraseDups

/-- The listing of a list that was not shown before: a line for every item. -/
def build (key : α → κ) (items : List α) : Listing α κ :=
  let lines := items.zipIdx.map fun a => ⟨a.2, a.1⟩
  ⟨keysOf key items, lines, lines, items.length⟩

/-- The line has a slot, and is not left behind. -/
def holds (t : Listing α κ) (l : Line α) : Bool := t.slots.any fun s => s.number == l.number

/-- The listing after the list has changed.  The line of a new key is made for the item that stands
in the list where the key stands among the keys. -/
def rebuild (key : α → κ) (items : List α) (t : Listing α κ) : Listing α κ :=
  let keys := keysOf key items
  if keys.isEmpty then
    { t with keys := [], slots := [], shown := t.shown.filter fun l => !t.holds l }
  else
    let d := Draft.carryOut (.between t.keys keys) items ⟨t.slots.map some, t.shown, t.made⟩
    ⟨keys, d.slots.filterMap id, d.shown, d.made⟩

/-- The listing on a page where it comes and goes.  One that comes again is made afresh. -/
def follow (key : α → κ) (present : Bool) (items : List α) (t : Option (Listing α κ)) :
    Option (Listing α κ) :=
  if present then some ((t.map (rebuild key items)).getD (build key items)) else none

/-- The listing with its items brought up to date.  A line that is left behind stays as it is. -/
def refresh (f : α → α) (t : Listing α κ) : Listing α κ :=
  let renew (l : Line α) : Line α := { l with item := f l.item }
  { t with
    slots := t.slots.map renew
    shown := t.shown.map fun l => if t.holds l then renew l else l }

/-- The items that the screen shows, in its order. -/
def items (t : Listing α κ) : List α := t.shown.map Line.item

end Listing

end MetricConsole.Page
