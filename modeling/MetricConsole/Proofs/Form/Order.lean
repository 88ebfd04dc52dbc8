import MetricConsole.Form.Field
import MetricConsole.Proofs.Text.Blank
import MetricConsole.Proofs.Text.Integer

/-!
# What the field of a position accepts

A position is typed as a numeral, and blanks around it do not count; a field of blanks stands for
the first position.  Digits are read to their end before their value is compared with the limit, so
a numeral that is too great is refused, however long it is, and never stands for another number.

* `Form.order_eq_ok_iff`, `Form.order_eq_error_iff`: when a field is accepted, and when refused.
* `Form.order_of_numeral`, `Form.order_render`: what becomes of a numeral, of whatever number.
* `Form.order_accepts_numerals`: the texts that are accepted, and the decimal texts among them.
-/

namespace MetricConsole

open Text

/-- No character of a numeral is blank. -/
theorem Text.Integer.Numeral.isBlank_eq_false {cs : List Char} {n : Int} (numeral : Numeral cs n) :
    ∀ c ∈ cs, isBlank c = false := by
  obtain ⟨ds, -, digits, ⟨rfl, -⟩ | ⟨rfl | rfl, -⟩⟩ := numeral
  · exact List.forall_mem_cons.mpr ⟨by decide, fun c mem => isBlank_of_isDigit (digits c mem)⟩
  · exact fun c mem => isBlank_of_isDigit (digits c mem)
  · exact List.forall_mem_cons.mpr ⟨by decide, fun c mem => isBlank_of_isDigit (digits c mem)⟩

namespace Form

section

variable {text : String} {n : Int32} {v : Int}

/-- A field is accepted if it is blank, for the first position, or holds a numeral of a word of 32
bits that is not negative. -/
theorem order_eq_ok_iff :
    order text = .ok n ↔
      IsBlank text ∧ n = 0 ∨ Integer.Numeral (trim text).toList n.toInt ∧ 0 ≤ n := by
  unfold order
  by_cases blank : IsBlank text
  · have void : ¬Integer.Numeral (trim text).toList n.toInt := fun numeral =>
      numeral.ne_nil (String.toList_eq_nil_iff.mpr blank)
    simp [nonBlank?_eq_none_iff.mpr blank, blank, void, eq_comm]
  · rw [nonBlank?_eq_some_iff.mpr ⟨rfl, blank⟩, ← Integer.parseInt32?_eq_some_iff]
    simp only [blank, false_and, false_or]
    cases Integer.parseInt32? (trim text) with
    | none => simp
    | some m =>
      by_cases nonneg : 0 ≤ m
      · simp only [nonneg, if_true, Except.ok.injEq, Option.some.injEq, iff_self_and]
        rintro rfl
        exact nonneg
      · simp only [nonneg, if_false, reduceCtorEq, Option.some.injEq, false_iff, not_and]
        rintro rfl
        exact nonneg

/-- A field is refused with the one fault for positions, and only if no position is accepted. -/
theorem order_eq_error_iff {fault : FormFault} :
    order text = .error fault ↔ fault = .badOrder ∧ ¬∃ n, order text = .ok n := by
  have refused : (Except.error .badOrder : Except FormFault Int32) = .error fault ↔
      fault = .badOrder ∧ ¬∃ n : Int32, Except.error FormFault.badOrder = .ok n := by
    simp [eq_comm]
  unfold order
  split
  · simp
  · split
    · split
      · simp
      · exact refused
    · exact refused

/-- A word of 32 bits that is not negative is a number up to the greatest one. -/
theorem nonneg_int32_iff : 0 ≤ n ↔ 0 ≤ n.toInt ∧ n.toInt ≤ 2147483647 := by
  have limit := Int32.toInt_lt n
  rw [Int32.le_iff_toInt_le, Int32.toInt_zero]
  omega

theorem toInt_ofInt_of_range (range : 0 ≤ v ∧ v ≤ 2147483647) : (Int32.ofInt v).toInt = v :=
  Int32.toInt_ofInt_of_le (by omega) (by omega)

/-- The positions are the numbers up to the greatest one. -/
theorem exists_order_iff :
    (∃ n, order text = .ok n) ↔
      IsBlank text ∨ ∃ v, Integer.Numeral (trim text).toList v ∧ 0 ≤ v ∧ v ≤ 2147483647 := by
  simp only [order_eq_ok_iff, exists_or, exists_and_left, exists_eq, and_true]
  refine or_congr_right ⟨?_, ?_⟩
  · rintro ⟨n, numeral, nonneg⟩
    exact ⟨n.toInt, numeral, nonneg_int32_iff.mp nonneg⟩
  · rintro ⟨v, numeral, range⟩
    have value := toInt_ofInt_of_range range
    exact ⟨Int32.ofInt v, by rwa [value], nonneg_int32_iff.mpr (by rwa [value])⟩

/-- A numeral is accepted for its number exactly if the number is a position. -/
theorem order_of_numeral (numeral : Integer.Numeral (trim text).toList v) :
    order text =
      if 0 ≤ v ∧ v ≤ 2147483647 then .ok (Int32.ofInt v) else .error .badOrder := by
  split
  · next range =>
    have value := toInt_ofInt_of_range range
    exact order_eq_ok_iff.mpr (.inr ⟨by rwa [value], nonneg_int32_iff.mpr (by rwa [value])⟩)
  · next beyond =>
    refine order_eq_error_iff.mpr ⟨rfl, fun accepted => ?_⟩
    rcases exists_order_iff.mp accepted with blank | ⟨w, other, range⟩
    · exact numeral.ne_nil (String.toList_eq_nil_iff.mpr blank)
    · exact beyond (numeral.unique other ▸ range)

/-- So is a numeral without blanks around it. -/
theorem order_ofList {cs : List Char} (numeral : Integer.Numeral cs v) :
    order (String.ofList cs) =
      if 0 ≤ v ∧ v ≤ 2147483647 then .ok (Int32.ofInt v) else .error .badOrder := by
  apply order_of_numeral
  have solid : trim (String.ofList cs) = String.ofList cs :=
    trim_eq_self (by simpa using numeral.isBlank_eq_false)
  rwa [solid, String.toList_ofList]

/-- The decimal text of a number is accepted for the number exactly if it is a position. -/
theorem order_render (v : Int) : order (Integer.render v) =
    if 0 ≤ v ∧ v ≤ 2147483647 then .ok (Int32.ofInt v) else .error .badOrder := by
  have numeral := Integer.parse?_eq_some_iff.mp (Integer.parse?_render v)
  rw [← order_ofList numeral, String.ofList_toList]

/-- A position is read back from its decimal text. -/
theorem order_render_of_nonneg (nonneg : 0 ≤ n) : order (Integer.render n.toInt) = .ok n := by
  rw [order_render, if_pos (nonneg_int32_iff.mp nonneg), Int32.ofInt_toInt]

end

/-- **Exactly the numerals of positions are accepted.**  A field is accepted for the first position
if nothing is left of it without the blanks at its ends, and for a number from 0 to 2147483647 if a
numeral of the number is left: one or more digits, perhaps behind a sign.  Every other field is
refused.  Of the decimal texts, those of numbers in the range are accepted for these numbers; zeros
in front do not count, and behind a minus sign nothing but zeros is accepted. -/
theorem order_accepts_numerals :
    (∀ (text : String) (n : Int32), order text = .ok n ↔
      trim text = "" ∧ n = 0 ∨
        ∃ v, Integer.Numeral (trim text).toList v ∧ 0 ≤ v ∧ v ≤ 2147483647 ∧ n.toInt = v) ∧
    (∀ text : String, order text = .error .badOrder ↔
      ¬(trim text = "" ∨
        ∃ v, Integer.Numeral (trim text).toList v ∧ 0 ≤ v ∧ v ≤ 2147483647)) ∧
    (∀ v : Int, order (Integer.render v) =
      if 0 ≤ v ∧ v ≤ 2147483647 then .ok (Int32.ofInt v) else .error .badOrder) ∧
    ∀ zeros n : Nat,
      order (String.ofList (Integer.padded zeros n)) =
        (if n ≤ 2147483647 then .ok (Int32.ofInt n) else .error .badOrder) ∧
      order (String.ofList ('-' :: Integer.padded zeros n)) =
        if n = 0 then .ok 0 else .error .badOrder := by
  refine ⟨fun text n => ?accepted, fun text => ?refused, order_render,
    fun zeros n => ⟨?padded, ?negative⟩⟩
  case accepted =>
    rw [order_eq_ok_iff, nonneg_int32_iff]
    refine or_congr_right ⟨fun ⟨numeral, least, greatest⟩ => ⟨_, numeral, least, greatest, rfl⟩, ?_⟩
    rintro ⟨v, numeral, least, greatest, rfl⟩
    exact ⟨numeral, least, greatest⟩
  case refused =>
    rw [order_eq_error_iff, exists_order_iff, and_iff_right rfl]
    rfl
  case padded =>
    have range : (0 ≤ (n : Int) ∧ (n : Int) ≤ 2147483647) ↔ n ≤ 2147483647 := by omega
    rw [order_ofList (Integer.numeral_padded zeros n), if_congr range rfl rfl]
  case negative =>
    have range : (0 ≤ -(n : Int) ∧ -(n : Int) ≤ 2147483647) ↔ n = 0 := by omega
    rw [order_ofList (Integer.numeral_minus_padded zeros n), if_congr range rfl rfl]
    split
    · next zero => simp [zero]
    · rfl

/-- Blanks, a sign and zeros may stand in front, and neither one too many nor digits that would wrap
around to a position are accepted. -/
example :
    (order "\u2003+0002147483647\t" matches .ok 2147483647) ∧ (order "-0" matches .ok 0) ∧
      (order "2147483648" matches .error .badOrder) ∧
      (order "4294967297" matches .error .badOrder) ∧ (order "+ 1" matches .error .badOrder) := by
  decide

end Form

end MetricConsole
