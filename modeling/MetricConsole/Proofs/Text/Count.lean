import MetricConsole.Proofs.Text.Integer
import MetricConsole.Text.Count

/-!
# Counts in groups of three

A count is written as its decimal text, in groups of three digits counted from the right.  Every
word of 64 bits is written so except the least one, whose magnitude is no word of 64 bits: the
computation overflows and there is no text at all.

* `Text.groupReversed_group`: the pass from the right puts a group space before the fourth character
  and then starts again.
* `Text.Grouped`, `Text.grouped_groupReversed`: what the pass makes of digits.
* `Text.magnitude_eq_ok_iff`, `Text.magnitude_overflows_iff`: when there is a magnitude.
* `Text.writes_of_formatCount`: what a text is like if there is one.
* `Text.formatCount_faithful_iff`: the counts that are written as they should be; the other one
  overflows.
* `Text.formatCount_least_unfaithful`: the other one.
-/

namespace MetricConsole.Text

/-! ## Groups -/

/-- The text is these digits in groups: three in each but the first, which has one, two or three,
and a group space before each but the first. -/
def Grouped (digits text : List Char) : Prop :=
  ∃ (first : List Char) (groups : List (List Char)), digits = first ++ groups.flatten ∧
    text = first ++ groups.flatMap (groupSpace :: ·) ∧
    first ≠ [] ∧ first.length ≤ 3 ∧ ∀ group ∈ groups, group.length = 3

/-- Without its group spaces the text is the digits again. -/
theorem Grouped.filter {digits text : List Char} (grouped : Grouped digits text)
    (solid : groupSpace ∉ digits) : text.filter (· ≠ groupSpace) = digits := by
  obtain ⟨first, groups, rfl, rfl, -⟩ := grouped
  rw [List.mem_append, not_or] at solid
  have keeps {cs : List Char} (free : groupSpace ∉ cs) : cs.filter (· ≠ groupSpace) = cs :=
    List.filter_eq_self.mpr fun c mem => decide_eq_true fun same => free (same ▸ mem)
  have inside : ∀ group ∈ groups, (groupSpace :: group).filter (· ≠ groupSpace) = group := by
    intro group mem
    rw [List.filter_cons_of_neg (by simp),
      keeps fun space => solid.2 (List.mem_flatten_of_mem mem space)]
  rw [List.filter_append, keeps solid.1, List.filter_flatMap, List.flatMap_congr inside,
    List.flatMap_id']

/-- A group on the right goes on the digits and, behind a group space, on the text. -/
theorem Grouped.append {digits text group : List Char} (grouped : Grouped digits text)
    (three : group.length = 3) :
    Grouped (digits ++ group) (text ++ groupSpace :: group) := by
  obtain ⟨first, groups, rfl, rfl, nonempty, short, full⟩ := grouped
  refine ⟨first, groups ++ [group], by simp, by simp, nonempty, short, ?_⟩
  intro g mem
  rcases List.mem_append.mp mem with before | last
  · exact full g before
  · rwa [List.mem_singleton.mp last]

/-! ## The pass from the right -/

/-- Once a character was seen, only its place in the group matters. -/
theorem groupReversed_add_three (seen : Nat) (cs : List Char) :
    groupReversed (seen + 1 + 3) cs = groupReversed (seen + 1) cs := by
  induction cs generalizing seen with
  | nil => rfl
  | cons c cs ih =>
    have place : (seen + 1 + 3) % 3 = (seen + 1) % 3 := Nat.add_mod_right _ _
    have later := ih (seen + 1)
    rw [Nat.add_right_comm _ 1 3] at later
    simp only [groupReversed, place, later, Nat.succ_pos]

/-- The fourth character starts a group of its own. -/
theorem groupReversed_group (a b c d : Char) (cs : List Char) :
    groupReversed 0 (a :: b :: c :: d :: cs) =
      a :: b :: c :: groupSpace :: groupReversed 0 (d :: cs) := by
  simp [groupReversed, groupReversed_add_three 0 cs]

/-- The pass puts digits in groups; it goes through them, and gives them back, from the right. -/
theorem grouped_groupReversed : ∀ cs : List Char, cs ≠ [] →
    Grouped cs.reverse (groupReversed 0 cs).reverse
  | [a], _ => ⟨[a], [], rfl, rfl, by simp, by simp, nofun⟩
  | [a, b], _ => ⟨[b, a], [], rfl, rfl, by simp, by simp, nofun⟩
  | [a, b, c], _ => ⟨[c, b, a], [], rfl, rfl, by simp, by simp, nofun⟩
  | a :: b :: c :: d :: cs, _ => by
    have rest := grouped_groupReversed (d :: cs) (List.cons_ne_nil d cs)
    have three : [c, b, a].length = 3 := rfl
    have more := rest.append three
    rw [groupReversed_group]
    simpa using more

/-! ## Counts -/

/-- There is a magnitude if it fits a word, and it is no other number. -/
theorem magnitude_eq_ok_iff {n m : Int64} :
    magnitude n = .ok m ↔ (n.toInt.natAbs : Int) = m.toInt := by
  rw [← Word.int64?_eq_some_iff]
  unfold magnitude
  cases Word.int64? n.toInt.natAbs <;> simp

/-- Only the least count has a magnitude that fits no word. -/
theorem magnitude_overflows_iff {n : Int64} :
    magnitude n = .error .overflow ↔ n = Int64.minValue := by
  constructor
  · intro overflows
    by_contra greater
    have fits : magnitude n = .ok n.abs := by
      refine magnitude_eq_ok_iff.mpr (Eq.symm ?_)
      change n.toBitVec.abs.toInt = n.toBitVec.toInt.natAbs
      rw [BitVec.toInt_abs_eq_natAbs, if_neg]
      exact fun least => greater (Int64.toBitVec_inj.mp least)
    cases overflows.symm.trans fits
  · rintro rfl
    rfl

/-- A count without a magnitude has no text. -/
theorem formatCount_eq_error_iff {n : Int64} {fault : CountFault} :
    formatCount n = .error fault ↔ magnitude n = .error fault := by
  unfold formatCount
  cases magnitude n <;> simp [bind, Except.bind, pure, Except.pure]

theorem formatCount_overflows_iff {n : Int64} :
    formatCount n = .error .overflow ↔ n = Int64.minValue :=
  formatCount_eq_error_iff.trans magnitude_overflows_iff

/-- A count is written after a minus sign if it is negative, its magnitude in groups. -/
theorem formatCount_eq_ok_iff {n : Int64} {text : String} :
    formatCount n = .ok text ↔ ∃ m, magnitude n = .ok m ∧
      text.toList = (if n < 0 then ['-'] else []) ++
        (groupReversed 0 (Integer.render m.toInt).toList.reverse).reverse := by
  unfold formatCount
  cases magnitude n with
  | error fault => simp [bind, Except.bind]
  | ok m =>
    simp only [bind, Except.bind, pure, Except.pure, Except.ok.injEq, exists_eq_left',
      ← String.toList_inj, String.toList_ofList]
    split <;> simp [eq_comm]

/-- The decimal text of a word is a sign, if it is negative, and the digits of its magnitude. -/
theorem toList_render (n : Int64) : (Integer.render n.toInt).toList =
    (if n < 0 then ['-'] else []) ++ Nat.toDigits 10 n.toInt.natAbs := by
  have negative : n < 0 ↔ n.toInt < 0 := Int64.lt_iff_toInt_lt
  simp only [negative, Integer.render]
  split <;> simp

/-- The text writes the count: without its group spaces it is the decimal text, and behind the sign
there are the digits of the magnitude in groups. -/
structure Writes (n : Int64) (text : String) : Prop where
  plain : String.ofList (text.toList.filter (· ≠ groupSpace)) = Integer.render n.toInt
  grouped : ∃ digits, text.toList = (if n < 0 then ['-'] else []) ++ digits ∧
    Grouped (Nat.toDigits 10 n.toInt.natAbs) digits

/-- Every text that there is writes its count. -/
theorem writes_of_formatCount {n : Int64} {text : String} (written : formatCount n = .ok text) :
    Writes n text := by
  obtain ⟨m, magnitude, written⟩ := formatCount_eq_ok_iff.mp written
  have digits : (Integer.render m.toInt).toList = Nat.toDigits 10 n.toInt.natAbs := by
    have positive : ¬(n.toInt.natAbs : Int) < 0 := Int.not_lt.mpr (Int.natCast_nonneg _)
    rw [← magnitude_eq_ok_iff.mp magnitude, Integer.render, if_neg positive, Int.natAbs_natCast,
      Nat.toList_repr]
  have grouped := grouped_groupReversed (Nat.toDigits 10 n.toInt.natAbs).reverse
    (List.reverse_ne_nil_iff.mpr Nat.toDigits_ne_nil)
  rw [List.reverse_reverse, ← digits] at grouped
  refine ⟨?_, _, written, digits ▸ grouped⟩
  have solid : groupSpace ∉ (Integer.render m.toInt).toList := fun space =>
    absurd (Integer.isDigit_toDigits _ _ (digits ▸ space)) (by decide)
  have sign : (if n < 0 then ['-'] else []).filter (· ≠ groupSpace) =
      (if n < 0 then ['-'] else []) := by
    split <;> rfl
  rw [← String.toList_inj, String.toList_ofList, written, List.filter_append, sign,
    grouped.filter solid, digits, toList_render]

/-- The count is written as it should be: its text is computed without an overflow and writes it. -/
def FaithfulCount (n : Int64) : Prop := ∃ text, formatCount n = .ok text ∧ Writes n text

/-- Every count but the least one is written as it should be; the least one overflows. -/
theorem formatCount_faithful_iff (n : Int64) :
    (FaithfulCount n ↔ n ≠ Int64.minValue) ∧
      (formatCount n = .error .overflow ↔ n = Int64.minValue) := by
  refine ⟨?_, formatCount_overflows_iff⟩
  rw [ne_eq, ← formatCount_overflows_iff]
  constructor
  · rintro ⟨text, written, -⟩ fault
    cases written.symm.trans fault
  · intro succeeds
    cases written : formatCount n with
    | error fault =>
      cases fault
      exact absurd written succeeds
    | ok text => exact ⟨text, written, writes_of_formatCount written⟩

example : formatCount (-1234567) = .ok "-1\u00a0234\u00a0567" := rfl

/-- The least count is not written as it should be: it has a decimal text, of a minus sign and
nineteen digits, but the computation of the text in groups overflows. -/
theorem formatCount_least_unfaithful :
    ¬FaithfulCount Int64.minValue ∧ formatCount Int64.minValue = .error .overflow ∧
      Integer.render Int64.minValue.toInt = "-9223372036854775808" := by
  have overflows : formatCount Int64.minValue = .error .overflow := rfl
  refine ⟨?_, overflows, rfl⟩
  rintro ⟨text, written, -⟩
  cases overflows.symm.trans written

end MetricConsole.Text
