import Mathlib.Data.List.Nodup
import Mathlib.Data.List.Perm.Subperm
import MetricConsole.Page.Listing

/-!
# Plans between lists of different keys

What a plan between two lists of keys asks for when no key comes twice: the slots whose keys are
gone are removed, those with new keys are added, and a slot whose key comes elsewhere moves there.
The order on the screen is left to the plan and not described here.

* `Plan.mem_removed`, `Plan.mem_added` and `Plan.mem_steps`: which slots a plan removes, adds and
  moves.
* `Plan.nodup_steps`: no two lines move from one slot, or to one.
* `Plan.length_le`: the slots that there are and those that are added are enough for the new keys.
-/

namespace MetricConsole.Page.Listing.Plan

variable {κ : Type} [DecidableEq κ] {old new : List κ} {p : Plan} {i j : Nat}

/-! ## One slot -/

/-- The key of the slot is gone. -/
def Leaves (old new : List κ) (i : Nat) : Bool := old[i]?.any (· ∉ new)

/-- The key of the slot is new. -/
def Enters (old new : List κ) (i : Nat) : Bool := new[i]?.any (· ∉ old)

/-- The slot to which the line of a slot moves. -/
def goes? (old new : List κ) (i : Nat) : Option Nat :=
  if old[i]? = new[i]? then none else old[i]?.bind new.idxOf?

/-- The moves of a plan, from slot to slot. -/
def steps (p : Plan) : List (Nat × Nat) := p.moved.map fun m => (m.source, m.target)

theorem map_source (p : Plan) : p.moved.map Move.source = p.steps.map Prod.fst := by
  simp [steps, Function.comp_def]

theorem map_target (p : Plan) : p.moved.map Move.target = p.steps.map Prod.snd := by
  simp [steps, Function.comp_def]

/-- A slot that keeps its key neither loses nor gains one. -/
theorem leaves_of_eq (same : old[i]? = new[i]?) : Leaves old new i = false := by
  cases found : old[i]? with
  | none => simp [Leaves, found]
  | some k =>
    have mem : k ∈ new := List.mem_of_getElem? (same ▸ found)
    simp [Leaves, found, mem]

theorem compare_eq (old new : List κ) (p : Plan) (i : Nat) :
    (compare old new p i).removed = p.removed ++ (if Leaves old new i then [i] else []) ∧
      (compare old new p i).added = p.added ++ (if Enters old new i then [i] else []) ∧
      (compare old new p i).steps = p.steps ++ ((goes? old new i).map (i, ·)).toList := by
  unfold compare
  by_cases same : old[i]? = new[i]?
  · have enters : Enters old new i = false := leaves_of_eq same.symm
    simp [same, leaves_of_eq same, enters, goes?]
  · have leaves : old[i]?.any (· ∉ new) = Leaves old new i := rfl
    have enters : new[i]?.any (· ∉ old) = Enters old new i := rfl
    simp only [if_neg same, goes?, leaves, enters]
    cases Leaves old new i <;> cases Enters old new i <;> cases old[i]?.bind new.idxOf? <;>
      simp [steps, move]

/-! ## All slots -/

theorem foldl_compare (old new : List κ) (is : List Nat) (p : Plan) :
    (is.foldl (compare old new) p).removed = p.removed ++ is.filter (Leaves old new) ∧
      (is.foldl (compare old new) p).added = p.added ++ is.filter (Enters old new) ∧
      (is.foldl (compare old new) p).steps =
        p.steps ++ is.filterMap fun i => (goes? old new i).map (i, ·) := by
  induction is generalizing p with
  | nil => simp
  | cons i is ih =>
    obtain ⟨removed, added, steps⟩ := compare_eq old new p i
    obtain ⟨ihRemoved, ihAdded, ihSteps⟩ := ih (compare old new p i)
    rw [List.foldl_cons, ihRemoved, ihAdded, ihSteps, removed, added, steps]
    refine ⟨?_, ?_, ?_⟩
    · rw [List.filter_cons]
      split <;> simp
    · rw [List.filter_cons]
      split <;> simp
    · rw [List.filterMap_cons]
      cases goes? old new i <;> simp

theorem between_eq (old new : List κ) :
    (between old new).removed =
        (List.range (max old.length new.length)).filter (Leaves old new) ∧
      (between old new).added =
        (List.range (max old.length new.length)).filter (Enters old new) ∧
      (between old new).steps = (List.range (max old.length new.length)).filterMap
        fun i => (goes? old new i).map (i, ·) := by
  simpa [between, steps] using
    foldl_compare old new (List.range (max old.length new.length)) ⟨[], [], []⟩

theorem leaves_iff : Leaves old new i = true ↔ ∃ k, old[i]? = some k ∧ k ∉ new := by
  cases found : old[i]? <;> simp [Leaves, found]

theorem enters_iff : Enters old new i = true ↔ ∃ k, new[i]? = some k ∧ k ∉ old := leaves_iff

theorem mem_removed : i ∈ (between old new).removed ↔ ∃ k, old[i]? = some k ∧ k ∉ new := by
  rw [(between_eq old new).1, List.mem_filter, leaves_iff, List.mem_range]
  refine and_iff_right_of_imp fun ⟨k, found, _⟩ => ?_
  exact Nat.lt_of_lt_of_le (List.getElem?_eq_some_iff.mp found).1 (Nat.le_max_left _ _)

theorem mem_added : i ∈ (between old new).added ↔ ∃ k, new[i]? = some k ∧ k ∉ old := by
  rw [(between_eq old new).2.1, List.mem_filter, enters_iff, List.mem_range]
  refine and_iff_right_of_imp fun ⟨k, found, _⟩ => ?_
  exact Nat.lt_of_lt_of_le (List.getElem?_eq_some_iff.mp found).1 (Nat.le_max_right _ _)

theorem nodup_added (old new : List κ) : (between old new).added.Nodup := by
  rw [(between_eq old new).2.1]
  exact List.nodup_range.filter _

theorem idxOf?_eq_some_iff (nodup : new.Nodup) {k : κ} :
    new.idxOf? k = some j ↔ new[j]? = some k := by
  rw [List.idxOf?_eq_some_iff, List.getElem?_eq_some_iff]
  refine exists_congr fun inside => and_iff_left_of_imp fun found i earlier same => ?_
  exact Nat.ne_of_lt earlier ((nodup.getElem_inj_iff).mp (same.trans found.symm))

/-- A line moves from the slot of its key to another slot that has the key. -/
theorem goes?_eq_some_iff (nodup : new.Nodup) :
    goes? old new i = some j ↔ ∃ k, old[i]? = some k ∧ new[j]? = some k ∧ i ≠ j := by
  unfold goes?
  split
  · next same =>
    simp only [reduceCtorEq, false_iff, not_exists, not_and, not_not]
    intro k found target
    have inside : j < new.length := (List.getElem?_eq_some_iff.mp target).1
    exact ((List.getElem?_inj inside nodup).mp (target.trans (same ▸ found).symm)).symm
  · next apart =>
    simp only [Option.bind_eq_some_iff, idxOf?_eq_some_iff nodup]
    refine exists_congr fun k => and_congr_right fun found => (and_iff_left_of_imp ?_).symm
    rintro target rfl
    exact apart (found.trans target.symm)

theorem mem_steps (nodup : new.Nodup) : (i, j) ∈ (between old new).steps ↔
    ∃ k, old[i]? = some k ∧ new[j]? = some k ∧ i ≠ j := by
  rw [(between_eq old new).2.2, List.mem_filterMap, ← goes?_eq_some_iff nodup]
  constructor
  · rintro ⟨i', -, found⟩
    obtain ⟨j', target, same⟩ := Option.map_eq_some_iff.mp found
    cases same
    exact target
  · intro target
    obtain ⟨k, found, -⟩ := (goes?_eq_some_iff nodup).mp target
    refine ⟨i, List.mem_range.mpr ?_, by rw [target]; rfl⟩
    exact Nat.lt_of_lt_of_le (List.getElem?_eq_some_iff.mp found).1 (Nat.le_max_left _ _)

/-- No two lines move from one slot, and no two lines move to one. -/
theorem nodup_steps (nodupOld : old.Nodup) (nodupNew : new.Nodup) :
    ((between old new).steps.map Prod.fst).Nodup ∧
      ((between old new).steps.map Prod.snd).Nodup := by
  have distinct : (between old new).steps.Nodup := by
    rw [(between_eq old new).2.2]
    refine List.Nodup.filterMap (fun i i' s from_i from_i' => ?_) List.nodup_range
    obtain ⟨j, -, rfl⟩ := Option.map_eq_some_iff.mp from_i
    obtain ⟨j', -, same⟩ := Option.map_eq_some_iff.mp from_i'
    exact (congrArg Prod.fst same).symm
  constructor
  · refine List.Nodup.map_on (fun s mem s' mem' same => ?_) distinct
    obtain ⟨k, found, target, -⟩ := (mem_steps nodupNew).mp mem
    obtain ⟨k', found', target', -⟩ := (mem_steps nodupNew).mp mem'
    rw [← same, found] at found'
    cases found'
    have inside : s.2 < new.length := (List.getElem?_eq_some_iff.mp target).1
    exact Prod.ext same ((List.getElem?_inj inside nodupNew).mp (target.trans target'.symm))
  · refine List.Nodup.map_on (fun s mem s' mem' same => ?_) distinct
    obtain ⟨k, found, target, -⟩ := (mem_steps nodupNew).mp mem
    obtain ⟨k', found', target', -⟩ := (mem_steps nodupNew).mp mem'
    rw [← same, target] at target'
    cases target'
    have inside : s.1 < old.length := (List.getElem?_eq_some_iff.mp found).1
    exact Prod.ext ((List.getElem?_inj inside nodupOld).mp (found.trans found'.symm)) same

/-- The slots of the keys that pass a test are as many as these keys. -/
theorem length_filter_slots {α : Type} (test : α → Bool) (ks : List α) :
    ((List.range ks.length).filter fun i => ks[i]?.any test).length = (ks.filter test).length := by
  induction ks with
  | nil => rfl
  | cons k ks ih =>
    rw [List.length_cons, List.range_succ_eq_map, List.filter_cons, List.filter_cons,
      List.filter_map]
    have later : ((fun i => (k :: ks)[i]?.any test) ∘ Nat.succ) = fun i => ks[i]?.any test := rfl
    rw [later, List.getElem?_cons_zero, Option.any_some]
    split <;> simp [ih]

/-- The slots that there are and those that are added are enough for the new keys. -/
theorem length_le (nodup : new.Nodup) :
    new.length ≤ old.length + (between old new).added.length := by
  have known : (new.filter (· ∈ old)).length ≤ old.length :=
    (List.subperm_of_subset (nodup.filter _) fun k mem => by
      simpa using (List.mem_filter.mp mem).2).length_le
  have fresh : (new.filter (· ∉ old)).length ≤ (between old new).added.length := by
    rw [← length_filter_slots, (between_eq old new).2.1]
    exact ((List.range_sublist.mpr (Nat.le_max_right _ _)).filter _).length_le
  have split := List.length_eq_length_filter_add (l := new) (· ∈ old)
  simp only [← decide_not] at split
  omega

end MetricConsole.Page.Listing.Plan
