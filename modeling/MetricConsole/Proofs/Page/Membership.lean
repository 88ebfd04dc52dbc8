import MetricConsole.Page.Offer
import MetricConsole.Proofs.Page.CarryOut

/-!
# What a listing was made of

Whatever lists a listing has followed, and whichever keys came twice in them, it shows nothing that
no list had.  So what holds of every item of every list holds of all that is shown.

* `Listing.All.follow`: a property of the items is kept by following a list of such items.
* `Offer.all_follow`: a property of the values is kept by following a list of such entries.
-/

namespace MetricConsole.Page

namespace Listing

variable {α κ : Type} {P : α → Prop} {d : Draft α}

theorem mem_of_mem_set_none {os : List (Option (Line α))} {l : Line α} {i : Nat}
    (mem : some l ∈ os.set i none) : some l ∈ os := by
  obtain old | new := List.mem_or_eq_of_mem_set mem
  · exact old
  · cases new

theorem mem_of_mem_emptied {is : List Nat} {os : List (Option (Line α))} {l : Line α}
    (mem : some l ∈ emptied is os) : some l ∈ os := by
  induction is generalizing os with
  | nil => exact mem
  | cons i is ih => exact mem_of_mem_set_none (ih mem)

/-- A property of all items in the slots and on the screen of a draft. -/
structure Draft.All (P : α → Prop) (d : Draft α) : Prop where
  slots : ∀ l, some l ∈ d.slots → P l.item
  shown : ∀ l ∈ d.shown, P l.item

namespace Draft.All

theorem line? (all : d.All P) {i : Nat} {l : Line α} (found : d.line? i = some l) : P l.item :=
  all.slots l (List.mem_of_getElem? (line?_eq_some_iff.mp found))

theorem remove (all : d.All P) (i : Nat) : (d.remove i).All P where
  slots l mem := all.slots l (mem_of_mem_set_none mem)
  shown l mem := all.shown l (List.mem_filter.mp mem).1

theorem clear (all : d.All P) (sources : List Nat) (more : Nat) : (d.clear sources more).All P where
  slots l mem := by
    obtain old | fresh := List.mem_append.mp mem
    · exact all.slots l (mem_of_mem_emptied old)
    · cases (List.mem_replicate.mp fresh).2
  shown := all.shown

theorem fill (all : d.All P) {l : Line α} (own : P l.item) (i : Nat) : (d.fill i l).All P where
  slots o mem := by
    obtain old | new := List.mem_or_eq_of_mem_set mem
    · exact all.slots o old
    · exact Option.some.inj new ▸ own
  shown := all.shown

theorem place (all : d.All P) {l : Line α} (own : P l.item) (i : Nat) : (d.place i l).All P where
  slots := (all.fill own i).slots
  shown o mem := by
    obtain rfl | old := List.mem_cons.mp ((shown_place i l d).mem_iff.mp mem)
    · exact own
    · exact all.shown o (List.mem_filter.mp old).1

theorem add (all : d.All P) {a : α} (own : P a) (i : Nat) : (d.add i a).All P where
  slots := (all.place (l := ⟨d.made, a⟩) own i).slots
  shown := (all.place (l := ⟨d.made, a⟩) own i).shown

/-- Carrying a plan out shows only what was shown or comes from the items. -/
theorem carryOut (all : d.All P) {items : List α} (own : ∀ a ∈ items, P a) (p : Plan) :
    (d.carryOut p items).All P := by
  have pruned : (p.removed.foldl Draft.remove d).All P :=
    List.foldlRecOn _ _ all fun _ all i _ => all.remove i
  have moving : ∀ m ∈ p.moved.filterMap fun m =>
      ((p.removed.foldl Draft.remove d).line? m.source).map fun l => (m, l), P m.2.item := by
    intro m mem
    obtain ⟨m, -, moved⟩ := List.mem_filterMap.mp mem
    obtain ⟨l, found, rfl⟩ := Option.map_eq_some_iff.mp moved
    exact pruned.line? found
  unfold Draft.carryOut
  simp only [List.partition_eq_filter_filter]
  -- lines are put into slots, then into slots and onto the screen, and the new ones come last
  refine List.foldlRecOn _ _ ?_ fun _ all i _ => ?_
  · refine List.foldlRecOn _ _ ?_ fun _ all m mem => all.place (moving m ?_) _
    · refine List.foldlRecOn _ _ (pruned.clear _ _) fun _ all m mem => all.fill (moving m ?_) _
      exact (List.mem_filter.mp mem).1
    · exact (List.mem_filter.mp mem).1
  · cases found : items[i]? with
    | none => exact all
    | some a => exact all.add (own a (List.mem_of_getElem? found)) i

end Draft.All

/-- A property of all items of a listing, those of lines left behind among them. -/
structure All (P : α → Prop) (t : Listing α κ) : Prop where
  slots : ∀ l ∈ t.slots, P l.item
  shown : ∀ l ∈ t.shown, P l.item

namespace All

variable {t : Listing α κ} {items : List α}

theorem of_mem_items (all : t.All P) {a : α} (mem : a ∈ t.items) : P a := by
  obtain ⟨l, shown, rfl⟩ := List.mem_map.mp mem
  exact all.shown l shown

theorem refresh (all : t.All P) {f : α → α} (kept : ∀ a, P a → P (f a)) : (t.refresh f).All P where
  slots l mem := by
    obtain ⟨o, old, rfl⟩ := List.mem_map.mp mem
    exact kept _ (all.slots o old)
  shown l mem := by
    obtain ⟨o, old, rfl⟩ := List.mem_map.mp mem
    split
    · exact kept _ (all.shown o old)
    · exact all.shown o old

variable [DecidableEq κ]

theorem build (key : α → κ) (own : ∀ a ∈ items, P a) : (Listing.build key items).All P := by
  have lines (l : Line α) (mem : l ∈ items.zipIdx.map fun a => ⟨a.2, a.1⟩) : P l.item := by
    obtain ⟨a, listed, rfl⟩ := List.mem_map.mp mem
    exact own a.1 (List.fst_mem_of_mem_zipIdx listed)
  exact ⟨lines, lines⟩

theorem rebuild (all : t.All P) (key : α → κ) (own : ∀ a ∈ items, P a) :
    (t.rebuild key items).All P := by
  unfold Listing.rebuild
  simp only
  split
  · refine ⟨fun l mem => ?_, fun l mem => all.shown l (List.mem_filter.mp mem).1⟩
    cases mem
  · have start : Draft.All P ⟨t.slots.map some, t.shown, t.made⟩ := by
      refine ⟨fun l mem => ?_, all.shown⟩
      obtain ⟨o, old, same⟩ := List.mem_map.mp mem
      exact Option.some.inj same ▸ all.slots o old
    have carried := start.carryOut own (.between t.keys (keysOf key items))
    refine ⟨fun l mem => carried.slots l ?_, carried.shown⟩
    simpa using mem

/-- A listing that follows a list shows only what it showed and what the list has. -/
theorem follow {t : Option (Listing α κ)} (all : ∀ u ∈ t, u.All P) (key : α → κ) (present : Bool)
    (own : ∀ a ∈ items, P a) : ∀ u ∈ Listing.follow key present items t, u.All P := by
  intro u mem
  cases present with
  | false => cases mem
  | true =>
    obtain rfl := Option.some.inj mem
    cases t with
    | none => exact build key own
    | some t => exact (all t rfl).rebuild key own

end All

end Listing

/-- The values of offers are those of entries that were followed. -/
theorem Offer.all_follow {P : String → Prop} {t : Option (Listing Offer String)}
    (all : ∀ u ∈ t, u.All fun o => P o.choice.1) (value : String) (present : Bool)
    {cs : List Choice} (own : ∀ c ∈ cs, P c.1) :
    ∀ u ∈ Offer.follow value present cs t, u.All fun o => P o.choice.1 := by
  intro u mem
  obtain ⟨v, followed, rfl⟩ := Option.map_eq_some_iff.mp mem
  refine Listing.All.refresh (Listing.All.follow all _ present (fun o mem => ?_) v followed)
    fun o holds => holds
  obtain ⟨c, listed, rfl⟩ := List.mem_map.mp mem
  exact own c listed

end MetricConsole.Page
