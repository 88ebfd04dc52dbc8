import MetricConsole.Proofs.Page.Plan

/-!
# Carrying a plan out

A draft is sound for a list of keys if every filled slot holds a line of the key that the list has
there, and the lines on the screen are those in the slots and those in hand.  A plan is carried out
in three parts: lines are removed and taken into hand, which keeps the draft sound for the old keys;
what is left agrees with the new keys; and lines are put into empty slots, which keeps it sound for
the new keys.

* `Draft.Sound.carryOut`: between lists in which no key comes twice the draft ends sound for the new
  keys, with nothing in hand and a line in every slot of a new key.
-/

namespace MetricConsole.Page.Listing

variable {α κ : Type}

/-! ## Slots -/

theorem filterMap_cons_eq {β γ : Type} (f : β → Option γ) (x : β) (xs : List β) :
    (x :: xs).filterMap f = (f x).toList ++ xs.filterMap f := by
  rw [List.filterMap_cons]
  cases f x <;> rfl

/-- What a slot held and what it holds now account for the change of one slot. -/
theorem perm_set {β : Type} {os : List (Option β)} {i : Nat} {o : Option β}
    (found : os[i]? = some o) (o' : Option β) :
    (o.toList ++ (os.set i o').filterMap id).Perm (o'.toList ++ os.filterMap id) := by
  induction os generalizing i with
  | nil => simp at found
  | cons x os ih =>
    cases i with
    | zero =>
      obtain rfl : x = o := by simpa using found
      rw [List.set_cons_zero, filterMap_cons_eq, filterMap_cons_eq]
      exact List.perm_append_comm_assoc _ _ _
    | succ i =>
      rw [List.set_cons_succ, filterMap_cons_eq, filterMap_cons_eq]
      refine (List.perm_append_comm_assoc _ _ _).trans ?_
      refine List.Perm.trans ?_ (List.perm_append_comm_assoc _ _ _)
      exact (ih (by simpa using found)).append_left x.toList

/-- The slots after some have been emptied. -/
def emptied {β : Type} (is : List Nat) (os : List (Option β)) : List (Option β) :=
  is.foldl (fun os i => os.set i none) os

theorem getElem?_emptied {β : Type} (is : List Nat) (os : List (Option β)) (j : Nat) :
    (emptied is os)[j]? = if j ∈ is then os[j]?.map fun _ => none else os[j]? := by
  induction is generalizing os with
  | nil => rfl
  | cons i is ih =>
    have next : emptied (i :: is) os = emptied is (os.set i none) := rfl
    rw [next, ih, List.getElem?_set']
    by_cases at_i : i = j
    · subst at_i
      cases os[i]? <;> simp
    · simp [at_i, Ne.symm at_i]

theorem length_emptied {β : Type} (is : List Nat) (os : List (Option β)) :
    (emptied is os).length = os.length := by
  induction is generalizing os with
  | nil => rfl
  | cons i is ih => exact (ih _).trans (List.length_set)

/-- What the slots held and what they hold now account for emptying them. -/
theorem perm_emptied {β : Type} {is : List Nat} (distinct : is.Nodup) (os : List (Option β)) :
    (os.filterMap id).Perm
      ((is.filterMap fun i => os[i]?.join) ++ (emptied is os).filterMap id) := by
  induction is generalizing os with
  | nil => exact .refl _
  | cons i is ih =>
    obtain ⟨apart, distinct⟩ := List.nodup_cons.mp distinct
    have first : (os.filterMap id).Perm (os[i]?.join.toList ++ (os.set i none).filterMap id) := by
      cases found : os[i]? with
      | none => simp [List.set_eq_of_length_le (List.getElem?_eq_none_iff.mp found)]
      | some o => exact (perm_set found none).symm
    have later : (is.filterMap fun j => (os.set i none)[j]?.join) =
        is.filterMap fun j => os[j]?.join :=
      List.filterMap_congr fun j mem => by
        have other : i ≠ j := fun same => apart (same ▸ mem)
        rw [List.getElem?_set_ne other]
    have rest := ih distinct (os.set i none)
    rw [later] at rest
    rw [filterMap_cons_eq, List.append_assoc]
    exact first.trans (rest.append_left _)

/-! ## Sound drafts -/

/-- A line and the lines with other numbers are all lines. -/
theorem perm_others {ls : List (Line α)} {l : Line α} (distinct : (ls.map Line.number).Nodup)
    (mem : l ∈ ls) : ls.Perm (l :: ls.filter fun o => o.number ≠ l.number) := by
  induction ls with
  | nil => cases mem
  | cons o ls ih =>
    obtain ⟨apart, distinct⟩ := List.nodup_cons.mp distinct
    obtain rfl | mem := List.mem_cons.mp mem
    · have others : ls.filter (fun o => o.number ≠ l.number) = ls :=
        List.filter_eq_self.mpr fun o mem => by
          simpa using fun same => apart (List.mem_map.mpr ⟨o, mem, same⟩)
      rw [List.filter_cons_of_neg (by simp), others]
    · have other : o.number ≠ l.number := fun same =>
        apart (same ▸ List.mem_map_of_mem mem)
      rw [List.filter_cons_of_pos (by simpa using other)]
      exact ((ih distinct mem).cons o).trans (.swap l o _)

namespace Draft

/-- The lines in the slots. -/
def placed (d : Draft α) : List (Line α) := d.slots.filterMap id

/-- The slot holds a line. -/
def Filled (d : Draft α) (i : Nat) : Prop := ∃ l, d.slots[i]? = some (some l)

/-- The filled slots hold lines of their keys, the lines on the screen are those in hand and those
in slots, and every line has a number of its own and an item of a known origin. -/
structure Sound (key : α → κ) (keys : List κ) (origin : α → Prop) (hand : List (Line α))
    (d : Draft α) : Prop where
  right : ∀ (i : Nat) (l : Line α), d.slots[i]? = some (some l) → keys[i]? = some (key l.item)
  balanced : d.shown.Perm (hand ++ d.placed)
  distinct : (d.shown.map Line.number).Nodup
  below : ∀ l ∈ d.shown, l.number < d.made
  known : ∀ l ∈ d.shown, origin l.item

variable {key : α → κ} {keys : List κ} {origin : α → Prop} {hand : List (Line α)}
  {d d' : Draft α} {l : Line α} {i j : Nat}

theorem line?_eq_some_iff : d.line? i = some l ↔ d.slots[i]? = some (some l) := by
  simp [line?, Option.join_eq_some_iff]

theorem remove_of_line?_eq_none (none_at : d.line? i = none) : d.remove i = d := by
  have slots : d.slots.set i none = d.slots := by
    refine List.ext_getElem? fun j => ?_
    rw [List.getElem?_set']
    by_cases at_i : i = j
    · subst at_i
      cases found : d.slots[i]? with
      | none => simp
      | some o =>
        obtain rfl : o = none := by simpa [line?, found] using none_at
        simp
    · simp [at_i]
  simp [remove, slots, none_at]

namespace Sound

/-- Removing a line keeps the rest sound. -/
theorem remove (sound : Sound key keys origin [] d) (i : Nat) :
    Sound key keys origin [] (d.remove i) := by
  cases found : d.line? i with
  | none => rwa [remove_of_line?_eq_none found]
  | some l =>
    have slot := line?_eq_some_iff.mp found
    have gone : (l :: (d.remove i).placed).Perm d.placed := perm_set slot none
    have shown : (d.remove i).shown = d.shown.filter fun o => o.number ≠ l.number := by
      simp only [Draft.remove, found, Option.map_some, ne_eq, Option.some.injEq]
      exact List.filter_congr fun o _ => by simp [eq_comm]
    have sub : ∀ o ∈ (d.remove i).shown, o ∈ d.shown := fun o mem =>
      (List.mem_filter.mp (shown ▸ mem)).1
    refine ⟨fun j o at_j => ?_, ?_, ?_, fun o mem => sound.below o (sub o mem),
      fun o mem => sound.known o (sub o mem)⟩
    · refine sound.right j o ?_
      by_cases at_i : i = j
      · subst at_i
        simp [Draft.remove, List.getElem?_set', slot] at at_j
      · simpa [Draft.remove, List.getElem?_set', at_i] using at_j
    · have mem : l ∈ d.shown := sound.balanced.mem_iff.mpr (gone.mem_iff.mp (by simp))
      have split := perm_others sound.distinct mem
      rw [← shown] at split
      exact (split.symm.trans (sound.balanced.trans gone.symm)).cons_inv
    · rw [shown]
      exact (List.filter_sublist.map _).nodup sound.distinct

/-- Taking lines into hand keeps the draft sound, for other keys if the lines left agree with
them. -/
theorem clear {old new : List κ} (sound : Sound key old origin [] d) {sources : List Nat}
    (distinct : sources.Nodup) (more : Nat)
    (agree : ∀ i, (d.clear sources more).Filled i → new[i]? = old[i]?) :
    Sound key new origin (sources.filterMap d.line?) (d.clear sources more) := by
  have slots : (d.clear sources more).slots =
      emptied sources d.slots ++ List.replicate more none := rfl
  refine ⟨fun i l at_i => ?_, ?_, sound.distinct, sound.below, sound.known⟩
  · rw [agree i ⟨l, at_i⟩]
    refine sound.right i l ?_
    rw [slots, List.getElem?_append, List.getElem?_replicate, getElem?_emptied] at at_i
    split at at_i
    · split at at_i
      · cases found : d.slots[i]? <;> simp [found] at at_i
      · exact at_i
    · split at at_i <;> cases at_i
  · have placed : (d.clear sources more).placed = (emptied sources d.slots).filterMap id := by
      rw [Draft.placed, slots, List.filterMap_append]
      simp
    rw [placed]
    exact sound.balanced.trans (perm_emptied distinct d.slots)

/-- Putting a line in an empty slot of its key. -/
theorem fill (sound : Sound key keys origin (l :: hand) d) (empty : d.slots[j]? = some none)
    (goal : keys[j]? = some (key l.item)) : Sound key keys origin hand (d.fill j l) := by
  refine ⟨fun i o at_i => ?_, ?_, sound.distinct, sound.below, sound.known⟩
  · by_cases at_j : j = i
    · subst at_j
      obtain rfl : l = o := by simpa [Draft.fill, List.getElem?_set', empty] using at_i
      exact goal
    · exact sound.right i o (by simpa [Draft.fill, List.getElem?_set', at_j] using at_i)
  · have gained : (d.fill j l).placed.Perm (l :: d.placed) := perm_set empty (some l)
    exact sound.balanced.trans ((List.perm_middle.symm).trans (gained.symm.append_left hand))

/-- What the screen shows does not matter to soundness beyond its lines. -/
theorem of_shown {shown : List (Line α)} (sound : Sound key keys origin hand d)
    (same : shown.Perm d.shown) : Sound key keys origin hand { d with shown := shown } where
  right := sound.right
  balanced := same.trans sound.balanced
  distinct := (same.map _).nodup_iff.mpr sound.distinct
  below l mem := sound.below l (same.mem_iff.mp mem)
  known l mem := sound.known l (same.mem_iff.mp mem)

/-- The order of the lines in hand does not matter. -/
theorem of_hand {hand' : List (Line α)} (sound : Sound key keys origin hand d)
    (same : hand.Perm hand') : Sound key keys origin hand' d :=
  { sound with balanced := sound.balanced.trans (same.append_right _) }

end Sound

theorem shown_place (j : Nat) (l : Line α) (d : Draft α) :
    (d.place j l).shown.Perm (l :: d.shown.filter fun o => o.number ≠ l.number) := by
  refine List.perm_middle.trans ?_
  rw [List.takeWhile_append_dropWhile]

namespace Sound

theorem place (sound : Sound key keys origin (l :: hand) d) (empty : d.slots[j]? = some none)
    (goal : keys[j]? = some (key l.item)) : Sound key keys origin hand (d.place j l) := by
  have mem : l ∈ d.shown := sound.balanced.mem_iff.mpr (by simp)
  exact (sound.fill empty goal).of_shown
    ((shown_place j l d).trans (perm_others sound.distinct mem).symm)

/-- Making a line for an item in an empty slot of its key. -/
theorem add {a : α} (sound : Sound key keys origin hand d) (empty : d.slots[j]? = some none)
    (goal : keys[j]? = some (key a)) (fresh : origin a) :
    Sound key keys origin hand (d.add j a) := by
  -- the line is first brought into hand and onto the screen, and then placed
  have others : d.shown.filter (fun o => o.number ≠ d.made) = d.shown :=
    List.filter_eq_self.mpr fun o mem => by simpa using Nat.ne_of_lt (sound.below o mem)
  have made : Sound key keys origin (⟨d.made, a⟩ :: hand)
      { d with shown := ⟨d.made, a⟩ :: d.shown, made := d.made + 1 } := by
    refine ⟨sound.right, sound.balanced.cons _, ?_, ?_, ?_⟩
    · refine List.nodup_cons.mpr ⟨fun mem => ?_, sound.distinct⟩
      obtain ⟨o, mem, same⟩ := List.mem_map.mp mem
      exact Nat.ne_of_lt (sound.below o mem) same
    · refine List.forall_mem_cons.mpr ⟨Nat.lt_succ_self _, fun o mem => ?_⟩
      exact Nat.lt_succ_of_lt (sound.below o mem)
    · exact List.forall_mem_cons.mpr ⟨fresh, sound.known⟩
  refine (made.fill empty goal).of_shown ((shown_place j ⟨d.made, a⟩ d).trans ?_)
  rw [others]
  exact .refl _

end Sound

/-! ## Many slots -/

/-- The slots `js` are full afterwards, and the others as they were. -/
structure Fills (js : List Nat) (d d' : Draft α) : Prop where
  full : ∀ j ∈ js, d'.Filled j
  same : ∀ j, j ∉ js → d'.slots[j]? = d.slots[j]?

namespace Fills

theorem trans {js ks : List Nat} {d'' : Draft α} (first : Fills js d d')
    (second : Fills ks d' d'') : Fills (js ++ ks) d d'' where
  full j mem := by
    by_cases later : j ∈ ks
    · exact second.full j later
    · rw [Filled, second.same j later]
      exact first.full j ((List.mem_append.mp mem).resolve_right later)
  same j apart := by
    simp only [List.mem_append, not_or] at apart
    rw [second.same j apart.2, first.same j apart.1]

theorem perm {js ks : List Nat} (fills : Fills js d d') (same : js.Perm ks) : Fills ks d d' where
  full j mem := fills.full j (same.mem_iff.mpr mem)
  same j apart := fills.same j fun mem => apart (same.mem_iff.mp mem)

/-- A slot that was full stays full. -/
theorem filled {js : List Nat} (fills : Fills js d d') (was : d.Filled j) : d'.Filled j := by
  by_cases mem : j ∈ js
  · exact fills.full j mem
  · rwa [Filled, fills.same j mem]

end Fills

/-- An operation that puts a line into one slot, if it is empty, keeps the draft sound over a list
without two of one slot. -/
theorem Sound.foldl {β : Type} {op : Draft α → β → Draft α} {slot : β → Nat}
    {lines : β → List (Line α)} {xs : List β}
    (puts : ∀ x ∈ xs, ∀ (d : Draft α) (hand : List (Line α)),
      Sound key keys origin (lines x ++ hand) d → d.slots[slot x]? = some none →
        Sound key keys origin hand (op d x) ∧
          ∃ l, (op d x).slots = d.slots.set (slot x) (some l))
    (apart : (xs.map slot).Nodup) (empty : ∀ x ∈ xs, d.slots[slot x]? = some none)
    (sound : Sound key keys origin (xs.flatMap lines ++ hand) d) :
    Sound key keys origin hand (xs.foldl op d) ∧ Fills (xs.map slot) d (xs.foldl op d) := by
  induction xs generalizing d with
  | nil => exact ⟨sound, ⟨fun j mem => (List.not_mem_nil mem).elim, fun _ _ => rfl⟩⟩
  | cons x xs ih =>
    obtain ⟨first, apart⟩ := List.nodup_cons.mp apart
    obtain ⟨emptyFirst, empty⟩ := List.forall_mem_cons.mp empty
    rw [List.flatMap_cons, List.append_assoc] at sound
    obtain ⟨sound, l, slots⟩ := puts x List.mem_cons_self d _ sound emptyFirst
    have one : Fills [slot x] d (op d x) := by
      refine ⟨fun j mem => ⟨l, ?_⟩, fun j other => ?_⟩
      · obtain rfl := List.mem_singleton.mp mem
        simp [slots, List.getElem?_set', emptyFirst]
      · rw [slots, List.getElem?_set_ne fun same => other (List.mem_singleton.mpr same.symm)]
    have stillEmpty : ∀ y ∈ xs, (op d x).slots[slot y]? = some none := fun y mem => by
      rw [one.same (slot y) fun same => first ?_]
      · exact empty y mem
      · exact List.mem_singleton.mp same ▸ List.mem_map_of_mem mem
    obtain ⟨sound, rest⟩ :=
      ih (fun y mem => puts y (List.mem_cons_of_mem x mem)) apart stillEmpty sound
    exact ⟨sound, one.trans rest⟩

/-! ## A whole plan -/

theorem slots_foldl_remove (is : List Nat) (d : Draft α) :
    (is.foldl remove d).slots = emptied is d.slots := by
  induction is generalizing d with
  | nil => rfl
  | cons i is ih => exact ih (d.remove i)

theorem Sound.foldl_remove (sound : Sound key keys origin [] d) (is : List Nat) :
    Sound key keys origin [] (is.foldl Draft.remove d) := by
  induction is generalizing d with
  | nil => exact sound
  | cons i is ih => exact ih (sound.remove i)

section Between

variable [DecidableEq κ] {old new : List κ} {lines : List (Line α)}

/-- The draft of lines without those whose keys are gone. -/
def pruned (old new : List κ) (d : Draft α) : Draft α :=
  (Plan.between old new).removed.foldl remove d

/-- The draft with the lines that move in hand. -/
def opened (old new : List κ) (d : Draft α) : Draft α :=
  (pruned old new d).clear ((Plan.between old new).moved.map Move.source)
    (Plan.between old new).added.length

/-- The lines that move, with their moves. -/
def moves (old new : List κ) (d : Draft α) : List (Move × Line α) :=
  (Plan.between old new).moved.filterMap fun m =>
    ((pruned old new d).line? m.source).map fun l => (m, l)

/-- The draft with the lines that move in their new slots. -/
def settled (old new : List κ) (d : Draft α) : Draft α :=
  ((moves old new d).filter fun m => m.1.onScreen).foldl (fun d m => d.place m.1.target m.2)
    (((moves old new d).filter fun m => !m.1.onScreen).foldl
      (fun d m => d.fill m.1.target m.2) (opened old new d))

theorem carryOut_between (old new : List κ) (items : List α) (d : Draft α) :
    d.carryOut (.between old new) items =
      (Plan.between old new).added.foldl (fun d i => (items[i]?.map fun a => d.add i a).getD d)
        (settled old new d) := by
  simp only [carryOut, List.partition_eq_filter_filter]
  rfl

theorem mem_sources (nodup : new.Nodup) : i ∈ (Plan.between old new).moved.map Move.source ↔
    ∃ k j, old[i]? = some k ∧ new[j]? = some k ∧ i ≠ j := by
  rw [Plan.map_source, List.mem_map]
  constructor
  · rintro ⟨⟨i, j⟩, mem, rfl⟩
    obtain ⟨k, found⟩ := (Plan.mem_steps nodup).mp mem
    exact ⟨k, j, found⟩
  · rintro ⟨k, j, found⟩
    exact ⟨(i, j), (Plan.mem_steps nodup).mpr ⟨k, found⟩, rfl⟩

/-- A line goes, or moves, as soon as the two lists differ in its slot. -/
theorem removed_or_moved_iff (nodup : new.Nodup) (inside : i < old.length) :
    (i ∈ (Plan.between old new).removed ∨
        i ∈ (Plan.between old new).moved.map Move.source) ↔ old[i]? ≠ new[i]? := by
  have found : old[i]? = some old[i] := List.getElem?_eq_getElem inside
  simp only [Plan.mem_removed, mem_sources nodup, found, Option.some.injEq]
  constructor
  · rintro (⟨k, rfl, gone⟩ | ⟨k, j, rfl, elsewhere, apart⟩) same
    · exact gone (List.mem_of_getElem? same.symm)
    · have inside : j < new.length := (List.getElem?_eq_some_iff.mp elsewhere).1
      exact apart ((List.getElem?_inj inside nodup).mp (elsewhere.trans same)).symm
  · intro differ
    by_cases kept : old[i] ∈ new
    · obtain ⟨j, elsewhere⟩ := List.getElem?_of_mem kept
      exact .inr ⟨_, j, rfl, elsewhere, fun same => differ (same ▸ elsewhere.symm)⟩
    · exact .inl ⟨_, rfl, kept⟩

theorem slots_opened (old new : List κ) (d : Draft α) : (opened old new d).slots =
    emptied ((Plan.between old new).moved.map Move.source)
        (emptied (Plan.between old new).removed d.slots) ++
      List.replicate (Plan.between old new).added.length none := by
  rw [← slots_foldl_remove]
  rfl

/-- A slot keeps its line as long as the two lists have the same key there. -/
theorem slots_opened_kept (nodup : new.Nodup) (size : d.slots.length = old.length)
    (inside : i < old.length) (same : old[i]? = new[i]?) :
    (opened old new d).slots[i]? = d.slots[i]? := by
  obtain ⟨stays, rests⟩ :=
    not_or.mp fun leaves => (removed_or_moved_iff nodup inside).mp leaves same
  rw [slots_opened, List.getElem?_append_left (by simpa [length_emptied, size] using inside),
    getElem?_emptied, if_neg rests, getElem?_emptied, if_neg stays]

/-- All other slots are empty, the added ones included. -/
theorem slots_opened_empty (nodup : new.Nodup) (size : d.slots.length = old.length)
    (inside : i < old.length + (Plan.between old new).added.length)
    (differ : i < old.length → old[i]? ≠ new[i]?) :
    (opened old new d).slots[i]? = some none := by
  rw [slots_opened]
  by_cases first : i < old.length
  · have found : d.slots[i]? = some d.slots[i] := List.getElem?_eq_getElem (size ▸ first)
    rw [List.getElem?_append_left (by simpa [length_emptied, size] using first),
      getElem?_emptied, getElem?_emptied, found]
    obtain gone | moves := (removed_or_moved_iff nodup first).mpr (differ first)
    · rw [if_pos gone]
      split <;> rfl
    · rw [if_pos moves]
      split <;> rfl
  · rw [List.getElem?_append_right (by simpa [length_emptied, size] using first),
      List.getElem?_replicate, length_emptied, length_emptied, size, if_pos (by omega)]

theorem length_opened (old new : List κ) (d : Draft α) :
    (opened old new d).slots.length = d.slots.length + (Plan.between old new).added.length := by
  simp [slots_opened, length_emptied]

/-- The lines that stay in their slots are lines of the new keys; those that move are in hand. -/
theorem Sound.opened (nodupOld : old.Nodup) (nodupNew : new.Nodup)
    (size : d.slots.length = old.length) (sound : Sound key old origin [] d) :
    Sound key new origin ((moves old new d).flatMap fun m => [m.2]) (opened old new d) := by
  have lines : ((moves old new d).flatMap fun m => [m.2]) =
      ((Plan.between old new).moved.map Move.source).filterMap (pruned old new d).line? := by
    rw [← List.map_eq_flatMap, moves, List.map_filterMap, List.filterMap_map]
    simp [Function.comp_def]
  have sources : ((Plan.between old new).moved.map Move.source).Nodup :=
    Plan.map_source _ ▸ (Plan.nodup_steps nodupOld nodupNew).1
  rw [lines]
  refine (sound.foldl_remove _).clear sources _ fun i ⟨l, filled⟩ => ?_
  have inside : i < old.length + (Plan.between old new).added.length := by
    rw [← size, ← length_opened]
    exact (List.getElem?_eq_some_iff.mp filled).1
  refine Classical.byContradiction fun differ => ?_
  have empty := slots_opened_empty (d := d) nodupNew size inside fun _ => Ne.symm differ
  cases filled.symm.trans empty

/-- A line that moves goes to an empty slot of its key. -/
theorem Sound.target (nodupOld : old.Nodup) (nodupNew : new.Nodup)
    (size : d.slots.length = old.length) (sound : Sound key old origin [] d) {m : Move × Line α}
    (mem : m ∈ moves old new d) : (∃ k ∈ old, new[m.1.target]? = some k ∧ k = key m.2.item) ∧
      (Draft.opened old new d).slots[m.1.target]? = some none := by
  obtain ⟨m, moved, made⟩ := List.mem_filterMap.mp mem
  obtain ⟨l, found, rfl⟩ := Option.map_eq_some_iff.mp made
  have step : (m.source, m.target) ∈ (Plan.between old new).steps := List.mem_map_of_mem moved
  obtain ⟨k, source, target, apart⟩ := (Plan.mem_steps nodupNew).mp step
  have right := (sound.foldl_remove _).right _ _ (line?_eq_some_iff.mp found)
  have own : k = key l.item := Option.some.inj (source.symm.trans right)
  refine ⟨⟨k, List.mem_of_getElem? source, target, own⟩, ?_⟩
  refine slots_opened_empty nodupNew size ?_ fun first same => ?_
  · exact Nat.lt_of_lt_of_le (List.getElem?_eq_some_iff.mp target).1 (Plan.length_le nodupNew)
  · have again : old[m.target]? = old[m.source]? := (same.trans target).trans source.symm
    exact apart ((List.getElem?_inj first nodupOld).mp again).symm

/-- An added slot is empty until its turn. -/
theorem slots_opened_added (nodup : new.Nodup) (size : d.slots.length = old.length)
    (added : i ∈ (Plan.between old new).added) :
    (opened old new d).slots[i]? = some none := by
  obtain ⟨k, found, isNew⟩ := Plan.mem_added.mp added
  refine slots_opened_empty nodup size ?_ fun _ same => isNew ?_
  · exact Nat.lt_of_lt_of_le (List.getElem?_eq_some_iff.mp found).1 (Plan.length_le nodup)
  · exact List.mem_of_getElem? (same.trans found)

/-- The line of a key that comes elsewhere is among those that move. -/
theorem moves_complete {k : κ} (nodup : new.Nodup) (full : d.Filled i) (source : old[i]? = some k)
    (target : new[j]? = some k) (apart : i ≠ j) : ∃ m ∈ moves old new d, m.1.target = j := by
  obtain ⟨l, line⟩ := full
  have step : (i, j) ∈ (Plan.between old new).steps :=
    (Plan.mem_steps nodup).mpr ⟨k, source, target, apart⟩
  obtain ⟨m, moved, same⟩ := List.mem_map.mp step
  obtain ⟨rfl, rfl⟩ := Prod.mk.inj same
  have stays : m.source ∉ (Plan.between old new).removed := fun gone => by
    obtain ⟨k', found, gone⟩ := Plan.mem_removed.mp gone
    exact gone (Option.some.inj (source.symm.trans found) ▸ List.mem_of_getElem? target)
  have held : (pruned old new d).line? m.source = some l := by
    rw [line?_eq_some_iff, pruned, slots_foldl_remove, getElem?_emptied, if_neg stays, line]
  refine ⟨(m, l), List.mem_filterMap.mpr ⟨m, moved, ?_⟩, rfl⟩
  rw [held, Option.map_some]

/-- No two lines move to one slot. -/
theorem nodup_targets (nodupOld : old.Nodup) (nodupNew : new.Nodup) (d : Draft α) :
    ((moves old new d).map fun m => m.1.target).Nodup := by
  have moved : (moves old new d).map Prod.fst = (Plan.between old new).moved.filter fun m =>
      ((pruned old new d).line? m.source).isSome := by
    rw [moves, List.map_filterMap, ← List.filterMap_eq_filter]
    congr 1
    funext m
    cases found : (pruned old new d).line? m.source <;> simp [Option.guard, found]
  have targets : ((Plan.between old new).moved.map Move.target).Nodup :=
    Plan.map_target _ ▸ (Plan.nodup_steps nodupOld nodupNew).2
  have sub : (((moves old new d).map Prod.fst).map Move.target).Sublist
      ((Plan.between old new).moved.map Move.target) := moved ▸ List.filter_sublist.map _
  exact List.map_map ▸ sub.nodup targets

/-- Every line in hand finds its slot. -/
theorem Sound.settled (nodupOld : old.Nodup) (nodupNew : new.Nodup)
    (size : d.slots.length = old.length) (sound : Sound key old origin [] d) :
    Sound key new origin [] (Draft.settled old new d) ∧
      Fills ((moves old new d).map fun m => m.1.target) (Draft.opened old new d)
        (Draft.settled old new d) := by
  unfold Draft.settled
  generalize staysEq : ((moves old new d).filter fun m => !m.1.onScreen) = stays
  generalize goesEq : ((moves old new d).filter fun m => m.1.onScreen) = goes
  -- what stays in place on the screen is filled in before what moves there
  have every : (stays ++ goes).Perm (moves old new d) := by
    rw [← goesEq, ← staysEq]
    exact List.perm_append_comm.trans (List.filter_append_perm _ _)
  have known : ∀ m ∈ stays ++ goes, new[m.1.target]? = some (key m.2.item) ∧
      (Draft.opened old new d).slots[m.1.target]? = some none := fun m mem => by
    obtain ⟨⟨k, -, found, rfl⟩, empty⟩ :=
      sound.target nodupOld nodupNew size (every.mem_iff.mp mem)
    exact ⟨found, empty⟩
  have apart := ((every.map fun m => m.1.target).nodup_iff).mpr
    (nodup_targets nodupOld nodupNew d)
  rw [List.map_append, List.nodup_append] at apart
  obtain ⟨apartStays, apartGoes, across⟩ := apart
  have start : Sound key new origin ((stays.flatMap fun m => [m.2]) ++ goes.flatMap fun m => [m.2])
      (Draft.opened old new d) := by
    rw [← List.flatMap_append]
    exact (sound.opened nodupOld nodupNew size).of_hand (every.symm.flatMap_right _)
  obtain ⟨soundStays, fillsStays⟩ : Sound key new origin (goes.flatMap fun m => [m.2])
      (stays.foldl (fun d m => d.fill m.1.target m.2) (Draft.opened old new d)) ∧
      Fills (stays.map fun m => m.1.target) (Draft.opened old new d)
        (stays.foldl (fun d m => d.fill m.1.target m.2) (Draft.opened old new d)) :=
    Sound.foldl
      (fun m mem d hand sound empty =>
        ⟨sound.fill empty (known m (List.mem_append_left _ mem)).1, m.2, rfl⟩)
      apartStays (fun m mem => (known m (List.mem_append_left _ mem)).2) start
  generalize stays.foldl (fun d m => d.fill m.1.target m.2) (Draft.opened old new d) = mid at *
  have stillEmpty : ∀ m ∈ goes, mid.slots[m.1.target]? = some none := fun m mem => by
    rw [fillsStays.same _ fun taken => across _ taken _ (List.mem_map_of_mem mem) rfl]
    exact (known m (List.mem_append_right _ mem)).2
  obtain ⟨soundGoes, fillsGoes⟩ : Sound key new origin []
      (goes.foldl (fun d m => d.place m.1.target m.2) mid) ∧
      Fills (goes.map fun m => m.1.target) mid
        (goes.foldl (fun d m => d.place m.1.target m.2) mid) :=
    Sound.foldl
      (fun m mem d hand sound empty =>
        ⟨sound.place empty (known m (List.mem_append_right _ mem)).1, m.2, rfl⟩)
      apartGoes stillEmpty (by simpa using soundStays)
  refine ⟨soundGoes, (fillsStays.trans fillsGoes).perm ?_⟩
  rw [← List.map_append]
  exact every.map _

/-- Carrying a plan out ends with a line of each new key in its slot: one that there was, or one
made for the item of a key that there was not. -/
theorem Sound.carryOut {items : List α} (nodupOld : old.Nodup) (nodupNew : new.Nodup)
    (same : new = items.map key) (fresh : ∀ a ∈ items, key a ∉ old → origin a)
    (size : d.slots.length = old.length) (full : ∀ i < old.length, d.Filled i)
    (sound : Sound key old origin [] d) :
    Sound key new origin [] (d.carryOut (.between old new) items) ∧
      ∀ j < new.length, (d.carryOut (.between old new) items).Filled j := by
  rw [carryOut_between]
  have isNew : ∀ i ∈ (Plan.between old new).added,
      ∃ a ∈ items, items[i]? = some a ∧ new[i]? = some (key a) ∧ key a ∉ old := fun i mem => by
    obtain ⟨k, found, apart⟩ := Plan.mem_added.mp mem
    rw [same, List.getElem?_map, Option.map_eq_some_iff] at found
    obtain ⟨a, found, rfl⟩ := found
    exact ⟨a, List.mem_of_getElem? found, found, by simp [same, found], apart⟩
  obtain ⟨soundMoved, fillsMoved⟩ := sound.settled nodupOld nodupNew size
  -- no line moves to an added slot, since the key of such a slot is new
  have stillEmpty : ∀ i ∈ (Plan.between old new).added,
      (Draft.settled old new d).slots[i]? = some none := fun i mem => by
    rw [fillsMoved.same i fun taken => ?_]
    · exact slots_opened_added nodupNew size mem
    · obtain ⟨m, moves, rfl⟩ := List.mem_map.mp taken
      obtain ⟨⟨k, old, found, -⟩, -⟩ := sound.target nodupOld nodupNew size moves
      obtain ⟨a, -, -, again, apart⟩ := isNew _ mem
      exact apart (Option.some.inj (again.symm.trans found) ▸ old)
  have nothing : (Plan.between old new).added.flatMap (fun _ => ([] : List (Line α))) = [] :=
    List.flatMap_eq_nil_iff.mpr fun _ _ => rfl
  have start : Sound key new origin
      ((Plan.between old new).added.flatMap (fun _ => []) ++ []) (Draft.settled old new d) := by
    rwa [nothing]
  obtain ⟨soundAdded, fillsAdded⟩ : Sound key new origin []
      ((Plan.between old new).added.foldl (fun d i => (items[i]?.map fun a => d.add i a).getD d)
        (Draft.settled old new d)) ∧ Fills ((Plan.between old new).added.map id)
      (Draft.settled old new d) ((Plan.between old new).added.foldl
        (fun d i => (items[i]?.map fun a => d.add i a).getD d) (Draft.settled old new d)) := by
    refine Sound.foldl (fun i mem d hand sound empty => ?_) ?_ stillEmpty start
    · obtain ⟨a, mem, found, goal, apart⟩ := isNew i mem
      simp only [found, Option.map_some, Option.getD_some]
      exact ⟨sound.add empty goal (fresh a mem apart), _, rfl⟩
    · simpa using Plan.nodup_added old new
  refine ⟨soundAdded, fun j inside => ?_⟩
  -- a key that was there stays in its slot or moves to it, and any other is added
  have found : new[j]? = some new[j] := List.getElem?_eq_getElem inside
  by_cases known : new[j] ∈ old
  · obtain ⟨i, source⟩ := List.getElem?_of_mem known
    have first : i < old.length := (List.getElem?_eq_some_iff.mp source).1
    refine fillsAdded.filled ?_
    by_cases stays : i = j
    · subst stays
      refine fillsMoved.filled ?_
      rw [Filled, slots_opened_kept nodupNew size first (source.trans found.symm)]
      exact full i first
    · obtain ⟨m, mem, rfl⟩ := moves_complete nodupNew (full i first) source found stays
      exact fillsMoved.full _ (List.mem_map_of_mem mem)
  · refine fillsAdded.full j ?_
    simpa using Plan.mem_added.mpr ⟨_, found, known⟩

end Between

end Draft

end MetricConsole.Page.Listing
