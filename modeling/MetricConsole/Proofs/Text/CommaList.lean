import MetricConsole.Proofs.Text.Blank
import MetricConsole.Text.CommaList

/-!
# List fields read back

What is read from the text of a list is what is read from its items, one after the other.  So a list
is read back as it was exactly if its items are clean, and nothing is read exactly if there is
nothing but commas and blanks in them.

* `splitOn_intercalate`: pieces that a separator joins are found again.
* `CommaList.items_intercalate`: the items of a list's text.
* `CommaList.parse_render_eq_some_iff`, `CommaList.parse_render_eq_none_iff`: the two ways in which
  an untouched field leaves its list as it is.
* `CommaList.clean_exactly_kept`: showing and reading are inverse exactly on clean lists.
-/

namespace MetricConsole.Text

/-! ## Pieces -/

theorem splitOn_ne_nil (sep : Char) (cs : List Char) : splitOn sep cs ≠ [] := by
  cases cs with
  | nil => nofun
  | cons c cs =>
    unfold splitOn
    split
    · nofun
    · split <;> nofun

/-- A character that does not separate belongs to the first piece. -/
theorem splitOn_cons_of_ne {sep c : Char} (other : c ≠ sep) {cs piece : List Char}
    {pieces : List (List Char)} (split : splitOn sep cs = piece :: pieces) :
    splitOn sep (c :: cs) = (c :: piece) :: pieces := by
  simp [splitOn, other, split]

theorem splitOn_append (sep : Char) (cs ds : List Char) :
    splitOn sep (cs ++ sep :: ds) = splitOn sep cs ++ splitOn sep ds := by
  induction cs with
  | nil => simp [splitOn]
  | cons c cs ih =>
    by_cases here : c = sep
    · simp [splitOn, here, ih]
    · obtain ⟨piece, pieces, split⟩ := List.exists_cons_of_ne_nil (splitOn_ne_nil sep cs)
      have joined : splitOn sep (cs ++ sep :: ds) = piece :: (pieces ++ splitOn sep ds) := by
        rw [ih, split, List.cons_append]
      rw [List.cons_append, splitOn_cons_of_ne here split, splitOn_cons_of_ne here joined,
        List.cons_append]

/-- The characters are those of the pieces and the separators. -/
theorem mem_iff_splitOn {sep c : Char} (other : c ≠ sep) (cs : List Char) :
    c ∈ cs ↔ ∃ piece ∈ splitOn sep cs, c ∈ piece := by
  induction cs with
  | nil => simp [splitOn]
  | cons d cs ih =>
    by_cases here : d = sep
    · subst here
      simp [splitOn, ih, other]
    · obtain ⟨piece, pieces, split⟩ := List.exists_cons_of_ne_nil (splitOn_ne_nil sep cs)
      rw [split] at ih
      simp [splitOn_cons_of_ne here split, ih, or_assoc]

theorem notMem_of_mem_splitOn {sep : Char} {cs piece : List Char} (mem : piece ∈ splitOn sep cs) :
    sep ∉ piece := by
  induction cs generalizing piece with
  | nil => simp_all [splitOn]
  | cons c cs ih =>
    by_cases here : c = sep
    · subst here
      simp only [splitOn, if_true, List.mem_cons] at mem
      rcases mem with rfl | later
      · nofun
      · exact ih later
    · obtain ⟨first, pieces, split⟩ := List.exists_cons_of_ne_nil (splitOn_ne_nil sep cs)
      rw [splitOn_cons_of_ne here split, List.mem_cons] at mem
      rcases mem with rfl | later
      · simp [Ne.symm here, ih (split ▸ List.mem_cons_self)]
      · exact ih (split ▸ List.mem_cons_of_mem first later)

theorem splitOn_eq_singleton {sep : Char} {cs : List Char} (free : sep ∉ cs) :
    splitOn sep cs = [cs] := by
  induction cs with
  | nil => rfl
  | cons c cs ih =>
    simp only [List.mem_cons, not_or] at free
    exact splitOn_cons_of_ne (Ne.symm free.1) (ih free.2)

/-- Pieces that a separator joins are found again. -/
theorem splitOn_intercalate {sep : Char} {pieces : List (List Char)} (nonempty : pieces ≠ [])
    (free : ∀ piece ∈ pieces, sep ∉ piece) : splitOn sep ([sep].intercalate pieces) = pieces := by
  induction pieces with
  | nil => exact absurd rfl nonempty
  | cons piece pieces ih =>
    obtain ⟨here, later⟩ := List.forall_mem_cons.mp free
    cases pieces with
    | nil => rw [List.intercalate_singleton, splitOn_eq_singleton here]
    | cons next pieces =>
      rw [List.intercalate_cons_cons, List.append_assoc, List.singleton_append, splitOn_append,
        splitOn_eq_singleton here, ih (List.cons_ne_nil _ _) later, List.singleton_append]

namespace CommaList

/-! ## Items -/

/-- The items among characters. -/
def itemsOf (cs : List Char) : List String :=
  (splitOn ',' cs).filterMap fun piece => nonBlank? (String.ofList piece)

theorem items_eq (s : String) : items s = itemsOf s.toList := rfl

theorem itemsOf_append (cs ds : List Char) :
    itemsOf (cs ++ ',' :: ds) = itemsOf cs ++ itemsOf ds := by
  rw [itemsOf, splitOn_append, List.filterMap_append]
  rfl

/-- A blank in front does not count. -/
theorem itemsOf_cons_of_blank {c : Char} (blank : isBlank c = true) (cs : List Char) :
    itemsOf (c :: cs) = itemsOf cs := by
  have other : c ≠ ',' := by rintro rfl; exact absurd blank (by decide)
  obtain ⟨piece, pieces, split⟩ := List.exists_cons_of_ne_nil (splitOn_ne_nil ',' cs)
  have same : nonBlank? (String.ofList (c :: piece)) = nonBlank? (String.ofList piece) := by
    simp [nonBlank?, trim, trimList_cons_of_blank blank]
  rw [itemsOf, itemsOf, splitOn_cons_of_ne other split, split]
  simp only [List.filterMap_cons, same]

/-- What is read from the text of a list is what is read from its items. -/
theorem items_intercalate (xs : List String) : items (", ".intercalate xs) = xs.flatMap items := by
  induction xs with
  | nil => decide
  | cons x xs ih =>
    cases xs with
    | nil => simp
    | cons y ys =>
      rw [String.intercalate_cons_cons, items_eq, List.flatMap_cons, ← ih]
      simp only [String.toList_append, List.append_assoc]
      change itemsOf (x.toList ++ ',' :: ' ' :: (", ".intercalate (y :: ys)).toList) = _
      rw [itemsOf_append, itemsOf_cons_of_blank (by decide)]
      rfl

/-- Every item that is read is clean. -/
theorem isClean_of_mem_items {item s : String} (mem : item ∈ items s) : IsClean item := by
  obtain ⟨piece, inSplit, read⟩ := List.mem_filterMap.mp mem
  obtain ⟨rfl, nonempty⟩ := nonBlank?_eq_some_iff.mp read
  refine ⟨nonempty, trim_trim _, fun comma => ?_⟩
  simp only [trim, String.toList_ofList] at comma
  exact notMem_of_mem_splitOn inSplit (mem_of_mem_trimList comma)

/-- A clean item is all that is read from it. -/
theorem items_of_isClean {item : String} (clean : IsClean item) : items item = [item] := by
  obtain ⟨nonempty, trimmed, plain⟩ := clean
  have read : nonBlank? item = some item := nonBlank?_eq_some_iff.mpr ⟨trimmed.symm, nonempty⟩
  simp [items, splitOn_eq_singleton plain, read]

/-- Nothing but commas and blanks. -/
def IsVoid (s : String) : Prop := ∀ c ∈ s.toList, c = ',' ∨ isBlank c = true

/-- Nothing is read from a text exactly if it has nothing but commas and blanks. -/
theorem items_eq_nil_iff {s : String} : items s = [] ↔ IsVoid s := by
  simp only [items, List.filterMap_eq_nil_iff, nonBlank?_eq_none_iff, isBlank_iff,
    String.toList_ofList]
  constructor
  · intro blank c mem
    by_cases comma : c = ','
    · exact .inl comma
    · obtain ⟨piece, inSplit, inPiece⟩ := (mem_iff_splitOn comma _).mp mem
      exact .inr (blank piece inSplit c inPiece)
  · intro void piece inSplit c inPiece
    have plain : c ≠ ',' := by rintro rfl; exact notMem_of_mem_splitOn inSplit inPiece
    exact (void c ((mem_iff_splitOn plain _).mpr ⟨piece, inSplit, inPiece⟩)).resolve_left plain

/-! ## Lists -/

theorem parse_eq_none_iff {s : String} : parse s = none ↔ items s = [] := by
  unfold parse
  split <;> simp_all

theorem parse_eq_some_iff {s : String} {xs : List String} :
    parse s = some xs ↔ items s = xs ∧ xs ≠ [] := by
  unfold parse
  split
  · next empty =>
    rw [empty]
    exact ⟨nofun, fun ⟨same, nonempty⟩ => absurd same.symm nonempty⟩
  · next nonempty =>
    rw [Option.some.injEq]
    exact ⟨fun same => ⟨same, same ▸ nonempty⟩, And.left⟩

/-- A list that is read has items, and they are clean. -/
theorem isClean_parse (s : String) : ∀ xs ∈ parse s, xs ≠ [] ∧ ∀ x ∈ xs, IsClean x := by
  intro xs read
  obtain ⟨rfl, nonempty⟩ := parse_eq_some_iff.mp read
  exact ⟨nonempty, fun x mem => isClean_of_mem_items mem⟩

theorem flatMap_items_eq_self_iff {xs : List String} :
    xs.flatMap items = xs ↔ ∀ x ∈ xs, IsClean x := by
  constructor
  · intro same x mem
    rw [← same] at mem
    obtain ⟨y, -, read⟩ := List.mem_flatMap.mp mem
    exact isClean_of_mem_items read
  · intro clean
    calc
      xs.flatMap items = xs.flatMap fun x => [x] :=
        List.flatMap_congr fun x mem => items_of_isClean (clean x mem)
      _ = xs := List.flatMap_singleton' xs

/-- The text of a list is read back as that list exactly if there are items and they are clean. -/
theorem parse_render_eq_some_iff (xs : List String) :
    parse (render (some xs)) = some xs ↔ xs ≠ [] ∧ ∀ x ∈ xs, IsClean x := by
  rw [parse_eq_some_iff, render, items_intercalate, flatMap_items_eq_self_iff, and_comm]

/-- Nothing is read from the text of a list exactly if its items hold nothing. -/
theorem parse_render_eq_none_iff {xs : List String} :
    parse (render (some xs)) = none ↔ ∀ x ∈ xs, IsVoid x := by
  simp only [parse_eq_none_iff, render, items_intercalate, List.flatMap_eq_nil_iff,
    items_eq_nil_iff]

/-- What is read from a text is read from the text that it is shown by. -/
theorem parse_render_parse (s : String) : parse (render (parse s)) = parse s := by
  cases read : parse s with
  | none => rfl
  | some xs => exact (parse_render_eq_some_iff xs).mpr (isClean_parse s xs read)

/-- **Exactly the clean lists are read back.**  The text of a list is read back as that list exactly
if it has items, and every item is not empty, has no blanks at its ends and no comma.  What is read
from a text is such a list, so that showing it and reading it once more changes nothing.  Nothing is
read exactly if the text has nothing but commas and blanks. -/
theorem clean_exactly_kept :
    (∀ xs, parse (render (some xs)) = some xs ↔
        xs ≠ [] ∧ ∀ x ∈ xs, x ≠ "" ∧ trim x = x ∧ ',' ∉ x.toList) ∧
      (∀ s, ∀ xs ∈ parse s, xs ≠ [] ∧ ∀ x ∈ xs, x ≠ "" ∧ trim x = x ∧ ',' ∉ x.toList) ∧
      (∀ s, parse (render (parse s)) = parse s) ∧
      ∀ s, parse s = none ↔ ∀ c ∈ s.toList, c = ',' ∨ isBlank c = true :=
  ⟨parse_render_eq_some_iff, isClean_parse, parse_render_parse, fun _ =>
    parse_eq_none_iff.trans items_eq_nil_iff⟩

/-- The list that is read from a padded text is read back; one that has a comma in an item is not,
and from commas and blanks nothing is read. -/
theorem clean_exactly_kept_padded :
    parse (render (some ["a", "b c"])) = some ["a", "b c"] ∧
      (∀ x ∈ ["a", "b c"], x ≠ "" ∧ trim x = x ∧ ',' ∉ x.toList) ∧
      parse (render (some ["a,b"])) ≠ some ["a,b"] ∧ parse " , ," = none := by
  rcases clean_exactly_kept with ⟨kept, clean, again, void⟩
  have read : parse " a, ,b c," = some ["a", "b c"] := by decide
  refine ⟨by simpa only [read] using again " a, ,b c,", (clean " a, ,b c," _ read).2,
    fun same => ?_, (void " , ,").mpr (by simp [isBlank])⟩
  rcases ((kept ["a,b"]).mp same).2 "a,b" List.mem_cons_self with ⟨-, -, plain⟩
  exact plain (by decide)

end CommaList

end MetricConsole.Text
