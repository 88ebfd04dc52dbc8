import MetricConsole.Proofs.Date.Text

/-!
# The order of dates and of their texts

Between the years 0 and 9999 every date is written with as many digits, the year first, so texts
are in the order of the days.  Outside there are signs and longer years, and the order of the texts
means nothing.

* `Text.append_lt_append_iff`, `Text.ofDigitChars_lt_iff`: texts and numerals of one length.
* `Date.text_lt_iff`: the earlier date has the smaller text.
-/

namespace MetricConsole

namespace Text

/-- Of two texts that start with as many characters, the starts decide, and the rests if the starts
are the same. -/
theorem append_lt_append_iff {as bs cs ds : List Char} (length : as.length = bs.length) :
    as ++ cs < bs ++ ds ↔ as < bs ∨ as = bs ∧ cs < ds := by
  induction as generalizing bs with
  | nil =>
    obtain rfl := List.eq_nil_of_length_eq_zero length.symm
    simp
  | cons a as ih =>
    cases bs with
    | nil => cases length
    | cons b bs =>
      simp only [List.cons_append, List.cons_lt_cons_iff, ih (Nat.succ.inj length), List.cons.injEq]
      tauto

/-- As many digits behind two numbers: the numbers decide, and the digits if the numbers are the
same. -/
theorem ofDigitChars_lt_iff {as bs : List Char} (m n : Nat) (left : ∀ c ∈ as, c.isDigit = true)
    (right : ∀ c ∈ bs, c.isDigit = true) (length : as.length = bs.length) :
    Nat.ofDigitChars 10 as m < Nat.ofDigitChars 10 bs n ↔ m < n ∨ m = n ∧ as < bs := by
  induction as generalizing bs m n with
  | nil =>
    obtain rfl := List.eq_nil_of_length_eq_zero length.symm
    simp
  | cons a as ih =>
    cases bs with
    | nil => cases length
    | cons b bs =>
      obtain ⟨digit, left⟩ := List.forall_mem_cons.mp left
      obtain ⟨digit', right⟩ := List.forall_mem_cons.mp right
      rw [Nat.ofDigitChars_cons, Nat.ofDigitChars_cons, ih _ _ left right (Nat.succ.inj length)]
      have range : 48 ≤ a.toNat ∧ a.toNat ≤ 57 := toNat_of_isDigit digit
      have range' : 48 ≤ b.toNat ∧ b.toNat ≤ 57 := toNat_of_isDigit digit'
      have first : a < b ↔ a.toNat < b.toNat := UInt32.lt_iff_toNat_lt
      have same : a = b ↔ a.toNat = b.toNat := Char.toNat_inj.symm
      have zero : '0'.toNat = 48 := rfl
      rw [List.cons_lt_cons_iff, first, same, zero]
      by_cases later : as < bs
      · simp only [later, and_true]
        omega
      · simp only [later, and_false, or_false]
        omega

end Text

namespace Date

open Text

/-- Numbers that fit a width are in the order of their padded texts. -/
theorem padded_lt_iff {width m n : Nat} (positive : 0 < width) (left : m < 10 ^ width)
    (right : n < 10 ^ width) : padded width m < padded width n ↔ m < n := by
  have value (k : Nat) : Nat.ofDigitChars 10 (padded width k) 0 = k :=
    (Integer.digits?_eq_some_iff.mp (digits?_padded width k)).2.2.symm
  have length := (length_padded positive left).trans (length_padded positive right).symm
  have order := ofDigitChars_lt_iff 0 0 (isDigit_padded width m) (isDigit_padded width n) length
  simpa [value] using order.symm

theorem padded_inj {width m n : Nat} : padded width m = padded width n ↔ m = n := by
  refine ⟨fun same => ?_, congrArg _⟩
  have read := digits?_padded width m
  rw [same, digits?_padded] at read
  exact (Option.some.inj read).symm

/-- The text of a date whose year has no sign. -/
theorem toList_text {d : Date} (range : 0 ≤ d.year ∧ d.year ≤ 9999) : d.text.toList =
    padded 4 d.year.natAbs ++ ('-' :: (padded 2 d.month ++ ('-' :: padded 2 d.day))) := by
  rw [text, yearText, if_pos range, String.toList_ofList]

/-- Between the years 0 and 9999 the earlier date has the smaller text. -/
theorem text_lt_iff {a b : Date} (left : 0 ≤ a.year ∧ a.year ≤ 9999)
    (right : 0 ≤ b.year ∧ b.year ≤ 9999) : a.text < b.text ↔ a < b := by
  have year : padded 4 a.year.natAbs < padded 4 b.year.natAbs ↔ a.year < b.year := by
    rw [padded_lt_iff (by decide) (by omega) (by omega)]
    omega
  have sameYear : padded 4 a.year.natAbs = padded 4 b.year.natAbs ↔ a.year = b.year := by
    rw [padded_inj]
    omega
  have lengths {m n : Nat} (width : Nat) (positive : 0 < width) (left : m < 10 ^ width)
      (right : n < 10 ^ width) : (padded width m).length = (padded width n).length :=
    (length_padded positive left).trans (length_padded positive right).symm
  have months := And.intro a.month_range b.month_range
  have days := And.intro a.day_lt b.day_lt
  calc a.text < b.text
    _ ↔ a.text.toList < b.text.toList := Iff.rfl
    _ ↔ a.year < b.year ∨ a.year = b.year ∧
          (a.month < b.month ∨ a.month = b.month ∧ a.day < b.day) := by
      rw [toList_text left, toList_text right,
        append_lt_append_iff (lengths 4 (by decide) (by omega) (by omega)), year, sameYear,
        List.cons_lt_cons_self,
        append_lt_append_iff (lengths 2 (by decide) (by omega) (by omega)),
        padded_lt_iff (by decide) (by omega) (by omega), padded_inj, List.cons_lt_cons_self,
        padded_lt_iff (by decide) (by omega) (by omega)]

end Date

end MetricConsole
