import MetricConsole.Api.QueryString
import MetricConsole.Proofs.Text.CommaList
import MetricConsole.Proofs.Text.FormEncoding

/-!
# Queries read back

A query of encoded pairs is read as these pairs, unless a name comes twice: then nothing is read.  A
pair without a name is the exception, since its equals sign is read as the start of a name.

* `QueryString.parsePair?_pairText`: one pair.
* `QueryString.parse?_encodePairs`: a query.
* `QueryString.parameter?_encodePairs`: a parameter in the query of an address.
-/

namespace MetricConsole.QueryString

open Text

/-! ## One pair -/

/-- The pair that is read from the encoded form of a pair. -/
def readBack (p : String × String) : String × String :=
  if p.1 = "" then ("=" ++ p.2, "") else p

theorem readBack_of_named {p : String × String} (named : p.1 ≠ "") : readBack p = p := if_neg named

/-- Characters between which no name ends. -/
def IsInName (cs : List Char) : Prop := ∀ c ∈ cs, (c != '=' && c != '[') = true

theorem isInName_encode (s : String) : IsInName (FormEncoding.encode s).toList := by
  intro c mem
  simp only [Bool.and_eq_true, bne_iff_ne]
  constructor
  all_goals rintro rfl
  all_goals exact FormEncoding.notMem_encode (by decide) s mem

/-- A name goes to its end. -/
theorem plainPair?_of_isInName (c : Char) {name : List Char} (inside : IsInName name) :
    plainPair? c name = some (c :: name, []) := by
  simp only [plainPair?, List.takeWhile_eq_self_iff.mpr inside,
    List.dropWhile_eq_nil_iff.mpr inside]

/-- A name goes to the first equals sign. -/
theorem plainPair?_append (c : Char) {name : List Char} (inside : IsInName name)
    (value : List Char) : plainPair? c (name ++ '=' :: value) = some (c :: name, value) := by
  simp [plainPair?, List.takeWhile_append_of_pos inside, List.dropWhile_append_of_pos inside]

/-- The encoded form of a pair. -/
def pairText (p : String × String) : List Char :=
  (FormEncoding.encode p.1 ++ "=" ++ FormEncoding.encode p.2).toList

theorem pairText_eq (p : String × String) :
    pairText p = (FormEncoding.encode p.1).toList ++ '=' :: (FormEncoding.encode p.2).toList := by
  simp [pairText]

/-- An encoded pair is read back. -/
theorem parsePair?_pairText (p : String × String) :
    parsePair? (pairText p) = some (readBack p) := by
  have inside := isInName_encode p.1
  rw [pairText_eq]
  cases name : (FormEncoding.encode p.1).toList with
  | nil =>
    -- the equals sign comes first, so it is the first character of a name
    have unnamed : p.1 = "" :=
      FormEncoding.encode_eq_empty_iff.mp (String.toList_eq_nil_iff.mp name)
    rw [List.nil_append, parsePair?, plainPair?_of_isInName '=' (isInName_encode p.2)]
    · have nothing : FormEncoding.decode? [] = some "" := FormEncoding.decode?_encode ""
      simp [FormEncoding.decode?_equals_encode, nothing, readBack, unnamed]
    · decide
  | cons c cs =>
    have named : p.1 ≠ "" := by
      rintro empty
      rw [empty] at name
      cases name
    rw [name] at inside
    obtain ⟨first, rest⟩ := List.forall_mem_cons.mp inside
    rw [List.cons_append, parsePair?, plainPair?_append c rest, ← name]
    · simp [FormEncoding.decode?_encode, readBack_of_named named]
    · rintro rfl
      cases first

/-! ## Queries -/

theorem equals_mem_pairText (p : String × String) : '=' ∈ pairText p := by simp [pairText_eq]

/-- The parts of a query are its encoded pairs. -/
theorem splitOn_encodePairs {ps : List (String × String)} (nonempty : ps ≠ []) :
    splitOn '&' (FormEncoding.encodePairs ps).toList = ps.map pairText := by
  have free : ∀ piece ∈ ps.map pairText, '&' ∉ piece := by
    intro piece mem
    obtain ⟨p, -, rfl⟩ := List.mem_map.mp mem
    exact FormEncoding.notMem_pair (by decide) (by decide) p
  rw [FormEncoding.toList_encodePairs]
  exact splitOn_intercalate (mt List.map_eq_nil_iff.mp nonempty) free

/-- **Queries are read back.**  From encoded pairs the pairs are read, unless two have one name. -/
theorem parse?_encodePairs (ps : List (String × String)) :
    parse? (FormEncoding.encodePairs ps) =
      if ((ps.map readBack).map Prod.fst).Nodup then some (ps.map readBack) else none := by
  by_cases empty : ps = []
  · subst empty
    rfl
  have closed : (ps.map pairText).getLast? ≠ some ['['] := by
    intro last
    obtain ⟨p, -, opens⟩ := List.mem_map.mp (List.mem_of_getLast? last)
    exact absurd (opens ▸ equals_mem_pairText p) (by decide)
  have nonempty : (ps.map pairText).filter (· ≠ []) = ps.map pairText := by
    refine List.filter_eq_self.mpr fun piece mem => ?_
    obtain ⟨p, -, rfl⟩ := List.mem_map.mp mem
    exact decide_eq_true (List.ne_nil_of_mem (equals_mem_pairText p))
  have read : (ps.map pairText).mapM parsePair? = some (ps.map readBack) := by
    have each : parsePair? ∘ pairText = fun p => pure (readBack p) := funext parsePair?_pairText
    rw [List.mapM_map, each, List.mapM_pure]
    rfl
  simp only [parse?, splitOn_encodePairs empty, if_neg closed, nonempty, read]
  rfl

/-- Question marks in front of a query do not count. -/
theorem parameter?_encodePairs (marks : Nat) (ps : List (String × String)) (name : String) :
    parameter? (String.ofList (List.replicate marks '?') ++ FormEncoding.encodePairs ps) name =
      if ((ps.map readBack).map Prod.fst).Nodup then (ps.map readBack).lookup name else none := by
  have query : (String.ofList (List.replicate marks '?') ++
      FormEncoding.encodePairs ps).toList.dropWhile (· == '?') =
        (FormEncoding.encodePairs ps).toList := by
    have marked : ∀ c ∈ List.replicate marks '?', (c == '?') = true := by simp
    have unmarked : '?' ∉ (FormEncoding.encodePairs ps).toList :=
      FormEncoding.notMem_encodePairs (by decide) (by decide) (by decide) ps
    rw [String.toList_append, String.toList_ofList, List.dropWhile_append_of_pos marked]
    refine List.dropWhile_eq_self_iff.mpr fun _ first => unmarked ?_
    exact beq_iff_eq.mp first ▸ List.getElem_mem _
  rw [parameter?, query, String.ofList_toList, parse?_encodePairs]
  split <;> rfl

end MetricConsole.QueryString
