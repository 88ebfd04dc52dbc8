import MetricConsole.Page.Component
import MetricConsole.Proofs.Page.CarryOut

/-!
# Listings of lists without repeated keys

A listing is tidy if it has one line for each of its keys, in the order of the keys, and shows these
lines and no others.  A list in which no key comes twice keeps its listing tidy.  What the screen
shows then is settled by the keys alone: a key that was shown keeps its line, and a key that was not
gets a line for its item.

* `Tidy.follow`: a listing that follows such a list stays tidy and reconciles what it showed with
  the list.
* `Reconciles.agree_iff`: what is shown agrees with the list exactly if the items whose keys stay
  agree with the items that they were before.
* `Tidy.tableRows_eq`: a tidy table shows the rows of its items, and their buttons work.
-/

namespace MetricConsole.Page.Listing

variable {α κ : Type} {key : α → κ} {t : Listing α κ} {items : List α}

/-- Each key has a line in its slot, and the screen shows the lines in slots. -/
structure Tidy (key : α → κ) (t : Listing α κ) : Prop where
  keys_eq : t.slots.map (fun l => key l.item) = t.keys
  nodup : t.keys.Nodup
  shown : t.shown.Perm t.slots
  distinct : (t.shown.map Line.number).Nodup
  below : ∀ l ∈ t.shown, l.number < t.made

/-- What the screen shows after the list has changed: a row for each key of the list, which is a row
from before if there was one. -/
structure Reconciles (key : α → κ) (before listed after : List α) : Prop where
  keys : (after.map key).Perm (listed.map key)
  known : ∀ a ∈ after, a ∈ before ∨ a ∈ listed ∧ key a ∉ before.map key

/-- Items of one key look alike. -/
def Agree {β : Type} (key : α → κ) (look : α → β) (xs ys : List α) : Prop :=
  ∀ a ∈ xs, ∀ b ∈ ys, key a = key b → look a = look b

/-- Items of one id look alike as soon as those of one key do, if the key tells the id and an id
comes once. -/
theorem agree_id_iff {β ι : Type} {id : α → ι} {look : α → β} {rows listed : List α}
    (tells : ∀ a b, key a = key b → id a = id b)
    (keys : (rows.map key).Perm (listed.map key)) (nodup : (listed.map id).Nodup) :
    Agree id look rows listed ↔ Agree key look rows listed := by
  refine ⟨fun agree a shown b mem same => agree a shown b mem (tells a b same),
    fun agree a shown b mem same => agree a shown b mem ?_⟩
  obtain ⟨c, listed, sameKey⟩ := List.mem_map.mp (keys.mem_iff.mp (List.mem_map_of_mem shown))
  obtain rfl : c = b :=
    List.inj_on_of_nodup_map nodup listed mem ((tells c a sameKey).trans same)
  exact sameKey.symm

/-- Rows that agreed with the previous list agree with the next one exactly if the two lists do. -/
theorem Reconciles.agree_iff {β : Type} {look : α → β} {previous before listed after : List α}
    (reconciles : Reconciles key before listed after)
    (shown : (before.map key).Perm (previous.map key)) (nodupPrevious : (previous.map key).Nodup)
    (nodup : (listed.map key).Nodup) (current : Agree key look before previous) :
    Agree key look after listed ↔ Agree key look previous listed := by
  constructor
  · intro agree a was b mem same
    obtain ⟨a', before_a', sameKey⟩ :=
      List.mem_map.mp (shown.mem_iff.mpr (List.mem_map_of_mem was))
    obtain ⟨b', after_b', key_b'⟩ :=
      List.mem_map.mp (reconciles.keys.mem_iff.mpr (List.mem_map_of_mem mem))
    have samePlace : key b' = key a' := (key_b'.trans same.symm).trans sameKey.symm
    obtain before_b' | ⟨-, fresh⟩ := reconciles.known b' after_b'
    · obtain rfl : b' = a' :=
        List.inj_on_of_nodup_map (shown.nodup_iff.mpr nodupPrevious) before_b' before_a' samePlace
      exact (current b' before_b' a was sameKey).symm.trans (agree b' after_b' b mem key_b')
    · exact absurd (samePlace ▸ List.mem_map_of_mem before_a') fresh
  · intro agree a shown_a b mem same
    obtain was | ⟨listed_a, -⟩ := reconciles.known a shown_a
    · obtain ⟨p, previous_p, sameKey⟩ :=
        List.mem_map.mp (shown.mem_iff.mp (List.mem_map_of_mem was))
      exact (current a was p previous_p sameKey.symm).trans
        (agree p previous_p b mem (sameKey.trans same))
    · exact congrArg look (List.inj_on_of_nodup_map nodup listed_a mem same)

/-- Rows of items that come with more are rows of these items. -/
theorem Reconciles.map {β : Type} {item : β → α} {before listed after : List β}
    (reconciles : Reconciles (fun x => key (item x)) before listed after) :
    Reconciles key (before.map item) (listed.map item) (after.map item) where
  keys := by simpa [Function.comp_def] using reconciles.keys
  known a mem := by
    obtain ⟨x, shown, rfl⟩ := List.mem_map.mp mem
    obtain was | ⟨isListed, fresh⟩ := reconciles.known x shown
    · exact .inl (List.mem_map_of_mem was)
    · exact .inr ⟨List.mem_map_of_mem isListed, by simpa using fresh⟩

/-- The items on the screen, none while there is no listing. -/
def itemsOf (t : Option (Listing α κ)) : List α := (t.map Listing.items).getD []

namespace Tidy

theorem map_items (tidy : Tidy key t) : (t.items.map key).Perm t.keys := by
  rw [← tidy.keys_eq, Listing.items, List.map_map]
  exact tidy.shown.map _

theorem holds (tidy : Tidy key t) {l : Line α} (mem : l ∈ t.shown) : t.holds l = true :=
  List.any_eq_true.mpr ⟨l, tidy.shown.mem_iff.mp mem, beq_self_eq_true _⟩

/-- No line is left behind. -/
theorem tableRows_eq {μ : Type} (tidy : Tidy key t) (row : α → Tokens μ) :
    tableRows row t = t.items.flatMap row := by
  rw [tableRows, Listing.items, List.flatMap_map]
  exact List.flatMap_congr fun l mem => by rw [if_pos (tidy.holds mem)]

/-- Bringing the items up to date keeps the listing tidy as long as their keys stay. -/
theorem refresh {f : α → α} (tidy : Tidy key t) (same : ∀ a, key (f a) = key a) :
    Tidy key (t.refresh f) ∧ (t.refresh f).items = t.items.map f := by
  have shown : (t.refresh f).shown = t.shown.map fun l => { l with item := f l.item } :=
    List.map_congr_left fun l mem => by rw [if_pos (tidy.holds mem)]
  have slots : (t.refresh f).slots = t.slots.map fun l => { l with item := f l.item } := rfl
  refine ⟨⟨?_, tidy.nodup, ?_, ?_, ?_⟩, ?_⟩
  · have keys : (t.refresh f).keys = t.keys := rfl
    rw [slots, keys, List.map_map, ← tidy.keys_eq]
    exact List.map_congr_left fun l _ => same l.item
  · rw [shown, slots]
    exact tidy.shown.map _
  · rw [shown, List.map_map]
    exact tidy.distinct
  · rw [shown]
    exact List.forall_mem_map.mpr tidy.below
  · rw [Listing.items, shown, List.map_map, Listing.items, List.map_map]
    rfl

end Tidy

/-! ## Building and rebuilding -/

/-- Slots that hold lines of their keys, with a line for every key, hold the keys in order. -/
theorem map_filterMap_slots {os : List (Option (Line α))} {keys : List κ}
    (right : ∀ (i : Nat) (l : Line α), os[i]? = some (some l) → keys[i]? = some (key l.item))
    (full : ∀ j < keys.length, ∃ l, os[j]? = some (some l)) :
    (os.filterMap id).map (fun l : Line α => key l.item) = keys := by
  induction os generalizing keys with
  | nil =>
    cases keys with
    | nil => rfl
    | cons k keys => simpa using full 0 (Nat.succ_pos _)
  | cons o os ih =>
    cases keys with
    | nil =>
      have none_filled : ∀ (i : Nat) (l : Line α), os[i]? = some (some l) →
          ([] : List κ)[i]? = some (key l.item) :=
        fun i l at_i => by simpa using right (i + 1) l (by simpa using at_i)
      cases o with
      | none => exact ih none_filled fun j inside => absurd inside (Nat.not_lt_zero j)
      | some l => simpa using right 0 l rfl
    | cons k keys =>
      obtain ⟨l, first⟩ := full 0 (Nat.succ_pos _)
      obtain rfl : o = some l := by simpa using first
      obtain rfl : k = key l.item := by simpa using right 0 l rfl
      have rest := ih (fun i l at_i => by simpa using right (i + 1) l (by simpa using at_i))
        fun j inside => by simpa using full (j + 1) (Nat.succ_lt_succ inside)
      simpa using rest

variable [DecidableEq κ]

theorem keysOf_eq (nodup : (items.map key).Nodup) : keysOf key items = items.map key := by
  unfold keysOf
  generalize items.map key = ks at nodup
  induction ks with
  | nil => rfl
  | cons k ks ih =>
    obtain ⟨apart, nodup⟩ := List.nodup_cons.mp nodup
    have others : (ks.filter fun b => !b == k) = ks :=
      List.filter_eq_self.mpr fun b mem => by
        simpa using fun same : b = k => apart (same ▸ mem)
    rw [List.eraseDups_cons, others, ih nodup]

/-- A new listing shows the list. -/
theorem tidy_build (nodup : (items.map key).Nodup) :
    Tidy key (build key items) ∧ (build key items).items = items := by
  have shown : (build key items).items = items := by
    simp [build, Listing.items, Function.comp_def]
  have numbers : (build key items).shown.map Line.number = List.range items.length := by
    simp [build, Function.comp_def, List.range_eq_range']
  refine ⟨⟨?_, ?_, .refl _, ?_, fun l mem => ?_⟩, shown⟩
  · have keys : (build key items).keys = items.map key := keysOf_eq nodup
    rw [keys, ← congrArg (List.map key) shown, Listing.items, List.map_map]
    rfl
  · rwa [build, keysOf_eq nodup]
  · rw [numbers]
    exact List.nodup_range
  · have number : l.number ∈ List.range items.length := numbers ▸ List.mem_map_of_mem mem
    exact List.mem_range.mp number

namespace Tidy

/-- A list in which no key comes twice keeps its listing tidy, and each key that was shown keeps its
row. -/
theorem rebuild (tidy : Tidy key t) (nodup : (items.map key).Nodup) :
    Tidy key (t.rebuild key items) ∧
      Reconciles key t.items items (t.rebuild key items).items := by
  unfold Listing.rebuild
  rw [keysOf_eq nodup]
  dsimp only
  split
  · next gone =>
    have none_left : items = [] := by simpa using gone
    have cleared : (t.shown.filter fun l => !t.holds l) = [] :=
      List.filter_eq_nil_iff.mpr fun l mem => by simp [tidy.holds mem]
    subst none_left
    rw [cleared]
    exact ⟨⟨rfl, List.nodup_nil, .refl _, List.nodup_nil, List.forall_mem_nil _⟩,
      ⟨.refl _, List.forall_mem_nil _⟩⟩
  · next some_left =>
    have start : Draft.Sound key t.keys
        (fun a => a ∈ t.items ∨ a ∈ items ∧ key a ∉ t.items.map key) []
        ⟨t.slots.map some, t.shown, t.made⟩ := by
      refine ⟨fun i l at_i => ?_, ?_, tidy.distinct, tidy.below, fun l mem => ?_⟩
      · obtain ⟨o, found, same⟩ : ∃ o, t.slots[i]? = some o ∧ some o = some l := by
          simpa using at_i
        cases same
        rw [← tidy.keys_eq, List.getElem?_map, found]
        rfl
      · simpa [Draft.placed] using tidy.shown
      · exact .inl (List.mem_map_of_mem mem)
    have size : (t.slots.map some).length = t.keys.length := by simp [← tidy.keys_eq]
    obtain ⟨sound, full⟩ := start.carryOut tidy.nodup nodup rfl
      (fun a mem apart => .inr ⟨mem, fun shown => apart (tidy.map_items.mem_iff.mp shown)⟩)
      size fun i inside => by
        have inside : i < t.slots.length := by simpa [← tidy.keys_eq] using inside
        exact ⟨t.slots[i], by simp [inside]⟩
    generalize Draft.carryOut (.between t.keys (items.map key)) items
      ⟨t.slots.map some, t.shown, t.made⟩ = d at sound full ⊢
    have keys : (d.slots.filterMap id).map (fun l => key l.item) = items.map key :=
      map_filterMap_slots sound.right full
    have shown : d.shown.Perm (d.slots.filterMap id) := sound.balanced
    refine ⟨⟨keys, nodup, shown, sound.distinct, sound.below⟩, ⟨?_, fun a mem => ?_⟩⟩
    · rw [← keys, Listing.items, List.map_map]
      exact shown.map _
    · obtain ⟨l, onScreen, rfl⟩ := List.mem_map.mp mem
      exact sound.known l onScreen

/-- A listing that comes and goes with such a list is tidy whenever it is there. -/
theorem follow {t : Option (Listing α κ)} {present : Bool} (tidy : ∀ u ∈ t, Tidy key u)
    (nodup : (items.map key).Nodup) (there : present = false → items = []) :
    (∀ u ∈ Listing.follow key present items t, Tidy key u) ∧
      Reconciles key (itemsOf t) items (itemsOf (Listing.follow key present items t)) := by
  cases present with
  | false =>
    obtain rfl := there rfl
    exact ⟨fun _ mem => (nomatch mem), ⟨.refl _, fun _ mem => (nomatch mem)⟩⟩
  | true =>
    cases t with
    | none =>
      obtain ⟨built, shown⟩ := tidy_build nodup
      refine ⟨fun u mem => ?_, ⟨?_, fun a mem => ?_⟩⟩
      · cases mem
        exact built
      · exact .of_eq (congrArg (List.map key) shown)
      · exact .inr ⟨shown ▸ mem, (List.not_mem_nil ·)⟩
    | some u =>
      obtain ⟨rebuilt, reconciles⟩ := (tidy u rfl).rebuild nodup
      refine ⟨fun v mem => ?_, reconciles⟩
      cases mem
      exact rebuilt

end Tidy

end MetricConsole.Page.Listing
