import Mathlib.Data.String.Basic
import MetricConsole.Json.Parser

/-!
# What a text can hold

A value that was read from a text nests only so deep, and the members of its objects stand in the
order of their names, one for each name.  This goes for its parts as well.

* `Json.Fits`: what a text can hold within a number of levels.
* `Json.fits_of_parse`: every value that is read fits, and so do its parts.
* `Json.ofMembers_eq_obj`: members that stand in their order already are kept as they are.
-/

namespace MetricConsole.Json

/-! ## Ordered members -/

/-- Each member has a name of its own and stands behind those of lesser names. -/
abbrev Sorted (members : List (String × Json)) : Prop := members.Pairwise fun m n => m.1 < n.1

/-- A member whose name is the greatest comes last. -/
theorem insert_eq_append {name : String} {value : Json} {members : List (String × Json)}
    (greatest : ∀ m ∈ members, m.1 < name) :
    insert name value members = members ++ [(name, value)] := by
  induction members with
  | nil => rfl
  | cons m members ih =>
    obtain ⟨below, later⟩ := List.forall_mem_cons.mp greatest
    simp [insert, below.ne, below.not_gt, ih later]

/-- Sorted members stay as they are. -/
theorem ofMembers_eq_obj {members : List (String × Json)} (sorted : Sorted members) :
    ofMembers members = .obj members := by
  suffices after : ∀ before : List (String × Json), Sorted (before ++ members) →
      members.foldl (fun ms m => insert m.1 m.2 ms) before = before ++ members by
    rw [ofMembers, sortMembers, after [] sorted, List.nil_append]
  clear sorted
  induction members with
  | nil => simp
  | cons m members ih =>
    intro before sorted
    have greatest : ∀ n ∈ before, n.1 < m.1 := fun n mem =>
      (List.pairwise_append.mp sorted).2.2 n mem m (by simp)
    rw [List.foldl_cons, insert_eq_append greatest, ih _ (by simpa using sorted)]
    simp

theorem mem_insert {name : String} {value : Json} {members : List (String × Json)}
    {m : String × Json} (mem : m ∈ insert name value members) :
    m = (name, value) ∨ m ∈ members := by
  induction members with
  | nil => simpa [insert] using mem
  | cons n members ih =>
    unfold insert at mem
    split at mem
    · simp only [List.mem_cons] at mem ⊢
      tauto
    · split at mem
      · simpa using mem
      · simp only [List.mem_cons] at mem ⊢
        rcases mem with rfl | later
        · exact .inr (.inl rfl)
        · exact (ih later).imp_right .inr

theorem sorted_insert {name : String} (value : Json) {members : List (String × Json)}
    (sorted : Sorted members) : Sorted (insert name value members) := by
  induction members with
  | nil => simp [insert]
  | cons n members ih =>
    obtain ⟨least, later⟩ := List.pairwise_cons.mp sorted
    unfold insert
    split
    · next same => exact List.pairwise_cons.mpr ⟨fun m mem => same ▸ least m mem, later⟩
    · next other =>
      split
      · next below =>
        refine List.pairwise_cons.mpr ⟨?_, sorted⟩
        exact List.forall_mem_cons.mpr ⟨below, fun m mem => below.trans (least m mem)⟩
      · next above =>
        refine List.pairwise_cons.mpr ⟨fun m mem => ?_, ih later⟩
        rcases mem_insert mem with rfl | mem
        · exact lt_of_le_of_ne (not_lt.mp above) other
        · exact least m mem

/-- Sorting orders the members by their names and adds none. -/
theorem sortMembers_spec (members : List (String × Json)) :
    Sorted (sortMembers members) ∧ ∀ m ∈ sortMembers members, m ∈ members := by
  suffices after : ∀ before : List (String × Json), Sorted before →
      Sorted (members.foldl (fun ms m => insert m.1 m.2 ms) before) ∧
        ∀ m ∈ members.foldl (fun ms m => insert m.1 m.2 ms) before, m ∈ before ∨ m ∈ members by
    obtain ⟨sorted, all⟩ := after [] .nil
    exact ⟨sorted, fun m mem => by simpa using all m mem⟩
  induction members with
  | nil => exact fun before sorted => ⟨sorted, fun m mem => .inl mem⟩
  | cons n members ih =>
    intro before sorted
    obtain ⟨ordered, all⟩ := ih (insert n.1 n.2 before) (sorted_insert n.2 sorted)
    refine ⟨ordered, fun m mem => ?_⟩
    rcases all m mem with earlier | later
    · rcases mem_insert earlier with rfl | earlier
      · exact .inr (by simp)
      · exact .inl earlier
    · exact .inr (List.mem_cons_of_mem n later)

/-! ## Values that fit -/

/-- A value whose objects are sorted and that nests at most so many levels deep. -/
inductive Fits : Nat → Json → Prop where
  | null {depth : Nat} : Fits depth .null
  | bool {depth : Nat} (value : Bool) : Fits depth (.bool value)
  | num {depth : Nat} (value : Number) : Fits depth (.num value)
  | str {depth : Nat} (value : String) : Fits depth (.str value)
  | arr {depth : Nat} {items : List Json} (inner : ∀ j ∈ items, Fits depth j) :
    Fits (depth + 1) (.arr items)
  | obj {depth : Nat} {members : List (String × Json)} (sorted : Sorted members)
    (inner : ∀ m ∈ members, Fits depth m.2) : Fits (depth + 1) (.obj members)

/-- A value that fits within some levels fits within more. -/
theorem Fits.succ {depth : Nat} {j : Json} (fits : Fits depth j) : Fits (depth + 1) j := by
  induction fits with
  | null => exact .null
  | bool b => exact .bool b
  | num n => exact .num n
  | str s => exact .str s
  | arr inner ih => exact .arr ih
  | obj sorted inner ih => exact .obj sorted ih

/-- A value, its items and members, and the parts of those. -/
inductive Part (whole : Json) : Json → Prop where
  | self : Part whole whole
  | item {items : List Json} {j : Json} (outer : Part whole (.arr items)) (mem : j ∈ items) :
    Part whole j
  | member {members : List (String × Json)} {name : String} {j : Json}
    (outer : Part whole (.obj members)) (mem : (name, j) ∈ members) : Part whole j

/-- The parts of a value that fits fit. -/
theorem Fits.part {depth : Nat} {whole j : Json} (fits : Fits depth whole) (part : Part whole j) :
    Fits depth j := by
  induction part with
  | self => exact fits
  | item outer mem ih =>
    cases ih with
    | arr inner => exact (inner _ mem).succ
  | member outer mem ih =>
    cases ih with
    | obj sorted inner => exact (inner _ mem).succ

/-! ## What is read fits -/

/-- Whatever the reader gives has a property. -/
def Read.Ensures {α : Type} (r : Read α) (P : α → Prop) : Prop :=
  ∀ a rest, r = .ok (a, rest) → P a

section Ensures

variable {α β : Type} {P : α → Prop} {Q : β → Prop}

theorem Read.ensures_ok {a : α} {rest : List Char} (holds : P a) :
    Read.Ensures (.ok (a, rest)) P := by
  rintro _ _ ⟨⟩
  exact holds

theorem Read.ensures_error (fault : Fault) : Read.Ensures (.error fault : Read α) P := nofun

theorem Read.Ensures.andThen {r : Read α} {next : α → List Char → Read β} (first : r.Ensures P)
    (later : ∀ a rest, P a → (next a rest).Ensures Q) : (r.andThen next).Ensures Q := by
  cases r with
  | error fault => exact Read.ensures_error fault
  | ok x => exact later x.1 x.2 (first x.1 x.2 rfl)

theorem Read.ensures_true (r : Read α) : r.Ensures fun _ => True := fun _ _ _ => trivial

end Ensures

section Containers

variable {P : Json → Prop} {item : List Char → Read Json} (each : ∀ cs, (item cs).Ensures P)
include each

/-- What holds of every value that is read holds of the items of a list. -/
theorem readItems_ensures (fuel : Nat) (cs : List Char) :
    (readItems item fuel cs).Ensures fun xs => ∀ x ∈ xs, P x := by
  induction fuel generalizing cs with
  | zero => exact Read.ensures_error _
  | succ fuel ih =>
    refine (each cs).andThen fun x cs first => ?_
    split
    · exact Read.ensures_error _
    · exact Read.ensures_ok (by simpa using first)
    · split
      · exact Read.ensures_error _
      · exact Read.ensures_error _
      · exact (ih _).andThen fun xs cs later =>
          Read.ensures_ok (List.forall_mem_cons.mpr ⟨first, later⟩)
    · exact Read.ensures_error _

theorem readMember_ensures (cs : List Char) : (readMember item cs).Ensures fun m => P m.2 := by
  refine (Read.ensures_true _).andThen fun name cs _ => ?_
  split
  · exact Read.ensures_error _
  · exact (each _).andThen fun value cs holds => Read.ensures_ok holds
  · exact Read.ensures_error _

/-- What holds of every value that is read holds of the members of an object. -/
theorem readMembers_ensures (fuel : Nat) (cs : List Char) :
    (readMembers item fuel cs).Ensures fun ms => ∀ m ∈ ms, P m.2 := by
  induction fuel generalizing cs with
  | zero => exact Read.ensures_error _
  | succ fuel ih =>
    refine (readMember_ensures each cs).andThen fun m cs first => ?_
    split
    · exact Read.ensures_error _
    · exact Read.ensures_ok (by simpa using first)
    · split
      · exact Read.ensures_error _
      · exact (ih _).andThen fun ms cs later =>
          Read.ensures_ok (List.forall_mem_cons.mpr ⟨first, later⟩)
      · exact Read.ensures_error _
      · exact Read.ensures_error _
    · exact Read.ensures_error _

end Containers

theorem readList_ensures {depth : Nat} {item : List Char → Read Json}
    (each : ∀ cs, (item cs).Ensures (Fits depth)) (cs : List Char) :
    (readList item cs).Ensures (Fits (depth + 1)) := by
  unfold readList
  split
  · exact Read.ensures_error _
  · exact Read.ensures_ok (.arr nofun)
  · exact (readItems_ensures each _ _).andThen fun xs cs inner => Read.ensures_ok (.arr inner)

theorem readObject_ensures {depth : Nat} {item : List Char → Read Json}
    (each : ∀ cs, (item cs).Ensures (Fits depth)) (cs : List Char) :
    (readObject item cs).Ensures (Fits (depth + 1)) := by
  unfold readObject
  split
  · exact Read.ensures_error _
  · exact Read.ensures_ok (.obj .nil nofun)
  · refine (readMembers_ensures each _ _).andThen fun ms cs inner => Read.ensures_ok ?_
    obtain ⟨sorted, all⟩ := sortMembers_spec ms
    exact .obj sorted fun m mem => inner m (all m mem)
  · exact Read.ensures_error _

/-- A value that is read with some levels left fits within them. -/
theorem readValue_ensures (depth : Nat) (cs : List Char) :
    (readValue depth cs).Ensures (Fits depth) := by
  -- only a list or an object needs a level, and its items or members are read with one less
  suffices step : ∀ depth cs,
      (∀ inner, depth = inner + 1 → ∀ cs, (readValue inner cs).Ensures (Fits inner)) →
        (readValue depth cs).Ensures (Fits depth) by
    induction depth generalizing cs with
    | zero => exact step 0 cs nofun
    | succ depth ih => exact step (depth + 1) cs (by rintro _ ⟨⟩; exact ih)
  intro depth cs inner
  unfold readValue
  split
  · exact Read.ensures_error _
  · exact (Read.ensures_true _).andThen fun _ _ _ => Read.ensures_ok .null
  · exact (Read.ensures_true _).andThen fun _ _ _ => Read.ensures_ok (.bool true)
  · exact (Read.ensures_true _).andThen fun _ _ _ => Read.ensures_ok (.bool false)
  · exact (Read.ensures_true _).andThen fun s _ _ => Read.ensures_ok (.str s)
  · split
    · exact Read.ensures_error _
    · exact readList_ensures (inner _ rfl) _
  · split
    · exact Read.ensures_error _
    · exact readObject_ensures (inner _ rfl) _
  · exact (Read.ensures_true _).andThen fun n _ _ => Read.ensures_ok (.num n)
  · split
    · exact (Read.ensures_true _).andThen fun n _ _ => Read.ensures_ok (.num n)
    · exact Read.ensures_error _

/-- Every value that is read from a text fits. -/
theorem fits_of_parse {s : String} {j : Json} (read : parse s = .ok j) : Fits maxDepth j := by
  unfold parse parseList at read
  cases value : readValue maxDepth s.toList with
  | error fault => simp [value] at read
  | ok x =>
    obtain ⟨v, rest⟩ := x
    have fits := readValue_ensures maxDepth s.toList v rest value
    simp only [value] at read
    split at read
    · cases read
      exact fits
    · cases read

end MetricConsole.Json
