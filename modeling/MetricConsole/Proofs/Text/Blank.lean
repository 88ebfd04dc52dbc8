import Mathlib.Data.List.DropRight
import MetricConsole.Text.Blank

/-!
# Texts without blanks at their ends

Trimming takes off what is blank at both ends and nothing else, so a text whose ends are not blank
is its own trim, and a trimmed text is such a text.

* `Text.trimList_eq_self`: trimming leaves a text without blank ends alone.
* `Text.trimList_trimList`: so does trimming a second time.
* `Text.trimList_eq_nil_iff`: nothing is left of a text exactly if it is made of blanks.
* `Text.trimList_surrounded`, `Text.exists_trimList`: what is taken off are blanks at both ends.
* `Text.IsSolid`, `Text.nonBlank?_eq_self_iff`: the texts that are left.
-/

namespace MetricConsole.Text

theorem toNat_of_isDigit {c : Char} (digit : c.isDigit = true) : 48 ≤ c.toNat ∧ c.toNat ≤ 57 := by
  simpa [Char.isDigit, UInt32.le_iff_toNat_le] using digit

/-- No digit is blank. -/
theorem isBlank_of_isDigit {c : Char} (digit : c.isDigit = true) : isBlank c = false := by
  have range := toNat_of_isDigit digit
  simp only [isBlank, Bool.or_eq_false_iff, Bool.and_eq_false_iff, decide_eq_false_iff_not,
    beq_eq_false_iff_ne]
  omega

theorem dropEndWhile_eq_rdropWhile (p : Char → Bool) (cs : List Char) :
    dropEndWhile p cs = cs.rdropWhile p := rfl

/-- Trimming leaves a text alone whose ends are not blank. -/
theorem trimList_eq_self {cs : List Char} (first : ∀ c ∈ cs.head?, isBlank c = false)
    (last : ∀ c ∈ cs.getLast?, isBlank c = false) : trimList cs = cs := by
  have start : cs.dropWhile isBlank = cs := by
    cases cs with
    | nil => rfl
    | cons c cs => exact List.dropWhile_cons_of_neg (by simp [first c rfl])
  rw [trimList, start, dropEndWhile_eq_rdropWhile, List.rdropWhile_eq_self_iff]
  intro nonempty
  simp [last _ (List.getLast?_eq_some_getLast nonempty)]

/-- A text without blanks is its own trim. -/
theorem trim_eq_self {s : String} (solid : ∀ c ∈ s.toList, isBlank c = false) : trim s = s := by
  rw [trim, trimList_eq_self (fun c first => solid c (List.mem_of_head? first))
    (fun c last => solid c (List.mem_of_getLast? last)), String.ofList_toList]

/-- A blank in front does not count. -/
theorem trimList_cons_of_blank {c : Char} (blank : isBlank c = true) (cs : List Char) :
    trimList (c :: cs) = trimList cs := by
  simp [trimList, blank]

/-- Nothing is left of a text exactly if it is made of blanks. -/
theorem trimList_eq_nil_iff {cs : List Char} :
    trimList cs = [] ↔ ∀ c ∈ cs, isBlank c = true := by
  rw [trimList, dropEndWhile_eq_rdropWhile, List.rdropWhile_eq_nil_iff]
  constructor
  · intro blank c mem
    rw [← List.takeWhile_append_dropWhile (p := isBlank) (l := cs), List.mem_append] at mem
    exact mem.elim (fun early => List.mem_takeWhile_imp early) (blank c)
  · intro blank c mem
    exact blank c ((List.dropWhile_sublist _).mem mem)

/-- Blanks around a text do not count. -/
theorem trimList_surrounded {before after : List Char} (cs : List Char)
    (start : ∀ c ∈ before, isBlank c = true) (finish : ∀ c ∈ after, isBlank c = true) :
    trimList (before ++ (cs ++ after)) = trimList cs := by
  have front : trimList (before ++ (cs ++ after)) = trimList (cs ++ after) := by
    rw [trimList, List.dropWhile_append_of_pos start, trimList]
  rw [front]
  by_cases blank : ∀ c ∈ cs, isBlank c = true
  · rw [trimList_eq_nil_iff.mpr blank, trimList_eq_nil_iff]
    exact List.forall_mem_append.mpr ⟨blank, finish⟩
  · have left : cs.dropWhile isBlank ≠ [] := fun empty =>
      blank fun c mem => List.dropWhile_eq_nil_iff.mp empty c mem
    have back : ∀ c ∈ after.reverse, isBlank c = true := fun c mem =>
      finish c (List.mem_reverse.mp mem)
    rw [trimList, List.dropWhile_append, if_neg (by simpa using left), trimList, dropEndWhile,
      List.reverse_append, List.dropWhile_append_of_pos back, dropEndWhile]

/-- Trimming takes blanks off both ends and nothing else. -/
theorem exists_trimList (cs : List Char) :
    ∃ before after, cs = before ++ (trimList cs ++ after) ∧
      (∀ c ∈ before, isBlank c = true) ∧ ∀ c ∈ after, isBlank c = true := by
  refine ⟨cs.takeWhile isBlank, (cs.dropWhile isBlank).rtakeWhile isBlank, ?_,
    fun c mem => List.mem_takeWhile_imp mem, fun c mem => List.mem_rtakeWhile_imp mem⟩
  rw [trimList, dropEndWhile_eq_rdropWhile, List.rdropWhile_append_rtakeWhile,
    List.takeWhile_append_dropWhile]

/-- Every character of a trimmed text was there before. -/
theorem mem_of_mem_trimList {c : Char} {cs : List Char} (mem : c ∈ trimList cs) : c ∈ cs := by
  rw [trimList, dropEndWhile_eq_rdropWhile] at mem
  exact (List.dropWhile_sublist _).mem ((List.rdropWhile_prefix _ _).sublist.mem mem)

/-- What is left of a text after its first blanks starts with no blank; trimming keeps a start. -/
theorem dropWhile_trimList (cs : List Char) : (trimList cs).dropWhile isBlank = trimList cs := by
  cases trimmed : trimList cs with
  | nil => rfl
  | cons c rest =>
    have kept : c :: rest <+: cs.dropWhile isBlank := by
      rw [← trimmed, trimList, dropEndWhile_eq_rdropWhile]
      exact List.rdropWhile_prefix _ _
    obtain ⟨after, whole⟩ := kept
    have first := List.head_dropWhile_not isBlank (l := cs) (by simp [← whole])
    simp only [← whole, List.cons_append, List.head_cons] at first
    exact List.dropWhile_cons_of_neg (by simp [first])

/-- Trimming a second time changes nothing. -/
theorem trimList_trimList (cs : List Char) : trimList (trimList cs) = trimList cs := by
  conv_lhs => rw [trimList, dropWhile_trimList]
  rw [trimList, dropEndWhile_eq_rdropWhile, dropEndWhile_eq_rdropWhile, List.rdropWhile_idempotent]

theorem trim_trim (s : String) : trim (trim s) = trim s := by
  simp [trim, trimList_trimList]

theorem isBlank_iff {s : String} : IsBlank s ↔ ∀ c ∈ s.toList, isBlank c = true := by
  rw [IsBlank, ← String.toList_inj, trim, String.toList_ofList]
  exact trimList_eq_nil_iff

/-- The text has no blanks at its ends, and is not empty. -/
def IsSolid (s : String) : Prop := s ≠ "" ∧ trim s = s

instance (s : String) : Decidable (IsSolid s) := inferInstanceAs (Decidable (_ ∧ _))

/-- What is left of a text is solid. -/
theorem isSolid_nonBlank? (s : String) : ∀ t ∈ nonBlank? s, IsSolid t := by
  intro t left
  obtain ⟨rfl, nonempty⟩ := nonBlank?_eq_some_iff.mp left
  exact ⟨nonempty, trim_trim s⟩

/-- The solid texts are left as they are. -/
theorem nonBlank?_eq_self_iff {s : String} : nonBlank? s = some s ↔ IsSolid s := by
  rw [nonBlank?_eq_some_iff, IsSolid, and_comm, eq_comm (a := s)]

/-- A field that shows a solid text, or nothing, is read back. -/
theorem nonBlank?_getD {value : Option String} (solid : ∀ s ∈ value, IsSolid s) :
    nonBlank? (value.getD "") = value := by
  cases value with
  | none => rfl
  | some s => exact nonBlank?_eq_self_iff.mpr (solid s rfl)

/-- Two texts leave the same behind exactly if their trims are equal. -/
theorem nonBlank?_eq_iff {s t : String} : nonBlank? s = nonBlank? t ↔ trim s = trim t := by
  have shown (u : String) : (nonBlank? u).getD "" = trim u := by
    unfold nonBlank?
    by_cases blank : trim u = "" <;> simp [blank]
  constructor
  · intro same
    rw [← shown s, same, shown t]
  · intro same
    simp only [nonBlank?, same]

/-- A text whose ends are not blank is solid. -/
theorem isSolid_of_ends {s : String} {c d : Char} (first : s.toList.head? = some c)
    (last : s.toList.getLast? = some d) (start : isBlank c = false) (finish : isBlank d = false) :
    IsSolid s := by
  constructor
  · rintro rfl
    cases first
  · rw [trim, trimList_eq_self (by simpa [first] using start) (by simpa [last] using finish),
      String.ofList_toList]

/-- The last character of a solid text is not blank. -/
theorem IsSolid.last {s : String} (solid : IsSolid s) :
    ∃ d, s.toList.getLast? = some d ∧ isBlank d = false := by
  have kept : trimList s.toList = s.toList := by
    rw [← String.toList_ofList (l := trimList s.toList)]
    exact congrArg String.toList solid.2
  have nonempty : s.toList ≠ [] := fun empty => solid.1 (String.toList_eq_nil_iff.mp empty)
  rw [trimList, dropEndWhile_eq_rdropWhile] at kept
  have left : (s.toList.dropWhile isBlank).rdropWhile isBlank ≠ [] := kept.symm ▸ nonempty
  have bare := List.rdropWhile_last_not isBlank _ left
  simp only [kept] at bare
  exact ⟨_, List.getLast?_eq_some_getLast nonempty, by simpa using bare⟩

/-- A solid text stays solid behind a text that does not start with a blank. -/
theorem IsSolid.append {s t : String} {c : Char} (first : s.toList.head? = some c)
    (start : isBlank c = false) (solid : IsSolid t) : IsSolid (s ++ t) := by
  rcases solid.last with ⟨d, last, finish⟩
  refine isSolid_of_ends (c := c) (d := d) ?_ ?_ start finish
  · rw [String.toList_append, List.head?_append, first]
    rfl
  · rw [String.toList_append, List.getLast?_append, last]
    rfl

end MetricConsole.Text
