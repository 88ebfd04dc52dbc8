import Mathlib.Data.List.Basic
import MetricConsole.Text.Integer

/-!
# Decimal texts read back

The decimal text of a number is read back as that number, so two numbers with one text are the same
number.  Nothing but digits and a minus sign occurs in it.  The texts that are read as a number are
the numerals of that number.

* `Integer.parse?_render`: reading what was rendered.
* `Integer.parseInt64?_render`: the same for words of 64 bits.
* `Integer.mem_render`: the characters of a decimal text.
* `Integer.Numeral`, `Integer.parse?_eq_some_iff`: what a text of a number looks like.
* `Integer.numeral_padded`: zeros in front of a decimal text do not count.
-/

namespace MetricConsole.Text.Integer

theorem digit?_of_isDigit {c : Char} (digit : c.isDigit = true) :
    digit? c = some (c.toNat - '0'.toNat) := by
  have range : '0' ≤ c ∧ c ≤ '9' := by simpa [Char.isDigit, Char.le_def] using digit
  simp [digit?, range]

/-- The value of digits is what they make of the value before them. -/
theorem digitsAfter_eq_some {cs : List Char} (digits : ∀ c ∈ cs, c.isDigit = true) (value : Nat) :
    digitsAfter value cs = some (Nat.ofDigitChars 10 cs value) := by
  induction cs generalizing value with
  | nil => simp [digitsAfter]
  | cons c cs ih =>
    obtain ⟨digit, later⟩ := List.forall_mem_cons.mp digits
    simp [digitsAfter, digit?_of_isDigit digit, ih later, Nat.ofDigitChars_cons]

theorem isDigit_toDigits (n : Nat) : ∀ c ∈ Nat.toDigits 10 n, c.isDigit = true := fun _ mem =>
  Nat.isDigit_of_mem_toDigits (by decide) (by decide) mem

theorem digits?_toDigits (n : Nat) : digits? (Nat.toDigits 10 n) = some n := by
  have value := digitsAfter_eq_some (isDigit_toDigits n) 0
  rw [Nat.ofDigitChars_ten_toDigits] at value
  cases digits : Nat.toDigits 10 n with
  | nil => exact absurd digits Nat.toDigits_ne_nil
  | cons c cs => rwa [digits] at value

/-- The decimal text of a number is read back. -/
theorem parse?_render (n : Int) : parse? (render n) = some n := by
  by_cases negative : n < 0
  · have text : (render n).toList = '-' :: Nat.toDigits 10 n.natAbs := by simp [render, negative]
    unfold parse?
    rw [text]
    simp only [digits?_toDigits]
    change some (-(n.natAbs : Int)) = some n
    rw [Int.ofNat_natAbs_of_nonpos (Int.le_of_lt negative), Int.neg_neg]
  · have text : (render n).toList = Nat.toDigits 10 n.natAbs := by simp [render, negative]
    have read := digits?_toDigits n.natAbs
    have digits := isDigit_toDigits n.natAbs
    unfold parse?
    rw [text]
    -- a text that starts with a digit starts with no sign
    split
    · next cs first => exact absurd (digits '-' (by simp [first])) (by decide)
    · next cs first => exact absurd (digits '+' (by simp [first])) (by decide)
    · rw [read]
      change some (n.natAbs : Int) = some n
      rw [Int.natAbs_of_nonneg (Int.not_lt.mp negative)]

theorem parseInt64?_render (n : Int64) : parseInt64? (render n.toInt) = some n := by
  simp [parseInt64?, parse?_render, Word.int64?_toInt]

/-- A decimal text is made of digits and a minus sign. -/
theorem mem_render {n : Int} {c : Char} (mem : c ∈ (render n).toList) :
    c.isDigit = true ∨ c = '-' := by
  unfold render at mem
  split at mem
  · simp only [String.toList_append, Nat.toList_repr, List.mem_append] at mem
    rcases mem with sign | digit
    · exact .inr (by simpa using sign)
    · exact .inl (isDigit_toDigits _ c digit)
  · rw [Nat.toList_repr] at mem
    exact .inl (isDigit_toDigits _ c mem)

theorem render_ne_empty (n : Int) : render n ≠ "" := by
  unfold render
  split <;> simp [← String.toList_inj, Nat.toDigits_ne_nil]

/-! ## Numerals -/

/-- A numeral of the number: an optional sign before one or more digits, whose first ones may be
zeros. -/
def Numeral (cs : List Char) (n : Int) : Prop :=
  ∃ ds, ds ≠ [] ∧ (∀ c ∈ ds, c.isDigit = true) ∧
    (cs = '-' :: ds ∧ n = -(Nat.ofDigitChars 10 ds 0 : Int) ∨
      (cs = ds ∨ cs = '+' :: ds) ∧ n = (Nat.ofDigitChars 10 ds 0 : Int))

theorem isDigit_of_digit? {c : Char} {d : Nat} (read : digit? c = some d) : c.isDigit = true := by
  unfold digit? at read
  split at read
  · next range => simpa [Char.isDigit, Char.le_def] using range
  · cases read

theorem isDigit_of_digitsAfter {cs : List Char} {value n : Nat}
    (read : digitsAfter value cs = some n) : ∀ c ∈ cs, c.isDigit = true := by
  induction cs generalizing value with
  | nil => nofun
  | cons c cs ih =>
    obtain ⟨d, digit, later⟩ := Option.bind_eq_some_iff.mp read
    exact List.forall_mem_cons.mpr ⟨isDigit_of_digit? digit, ih later⟩

/-- Digits are read as their value, and nothing else is read. -/
theorem digits?_eq_some_iff {cs : List Char} {n : Nat} :
    digits? cs = some n ↔
      cs ≠ [] ∧ (∀ c ∈ cs, c.isDigit = true) ∧ n = Nat.ofDigitChars 10 cs 0 := by
  cases cs with
  | nil => simp [digits?]
  | cons c cs =>
    change digitsAfter 0 (c :: cs) = some n ↔ _
    constructor
    · intro read
      have digits := isDigit_of_digitsAfter read
      rw [digitsAfter_eq_some digits, Option.some.injEq] at read
      exact ⟨List.cons_ne_nil c cs, digits, read.symm⟩
    · rintro ⟨-, digits, rfl⟩
      exact digitsAfter_eq_some digits 0

/-- Numerals are read as their numbers, and nothing else is read. -/
theorem parse?_eq_some_iff {s : String} {n : Int} : parse? s = some n ↔ Numeral s.toList n := by
  unfold parse?
  constructor
  · intro read
    split at read
    all_goals
      obtain ⟨v, value, rfl⟩ := Option.map_eq_some_iff.mp read
      obtain ⟨m, found, ⟨⟩⟩ := Option.bind_eq_some_iff.mp value
      obtain ⟨nonempty, digits, rfl⟩ := digits?_eq_some_iff.mp found
    · next cs text => exact ⟨cs, nonempty, digits, .inl ⟨text, rfl⟩⟩
    · next cs text => exact ⟨cs, nonempty, digits, .inr ⟨.inr text, rfl⟩⟩
    · exact ⟨s.toList, nonempty, digits, .inr ⟨.inl rfl, rfl⟩⟩
  · rintro ⟨ds, nonempty, digits, ⟨text, rfl⟩ | ⟨text | text, rfl⟩⟩
    all_goals
      have read := digits?_eq_some_iff.mpr ⟨nonempty, digits, rfl⟩
      rw [text]
    · simp only [read]
      rfl
    · -- digits have no sign before them
      split
      · exact absurd (digits '-' (by simp)) (by decide)
      · exact absurd (digits '+' (by simp)) (by decide)
      · rw [read]
        rfl
    · simp only [read]
      rfl

/-- A text is a numeral of one number at most. -/
theorem Numeral.unique {cs : List Char} {n m : Int} (one : Numeral cs n) (other : Numeral cs m) :
    n = m := by
  have read {v : Int} (numeral : Numeral cs v) : parse? (String.ofList cs) = some v :=
    parse?_eq_some_iff.mpr (by rwa [String.toList_ofList])
  exact Option.some.inj ((read one).symm.trans (read other))

theorem Numeral.ne_nil {cs : List Char} {n : Int} (numeral : Numeral cs n) : cs ≠ [] := by
  obtain ⟨ds, nonempty, -, ⟨rfl, -⟩ | ⟨rfl | rfl, -⟩⟩ := numeral
  · exact List.cons_ne_nil _ _
  · exact nonempty
  · exact List.cons_ne_nil _ _

/-! ## Zeros in front -/

/-- The decimal digits of a number behind so many zeros. -/
def padded (zeros n : Nat) : List Char := List.replicate zeros '0' ++ Nat.toDigits 10 n

theorem isDigit_padded (zeros n : Nat) : ∀ c ∈ padded zeros n, c.isDigit = true := by
  intro c mem
  rcases List.mem_append.mp mem with zero | digit
  · rw [List.eq_of_mem_replicate zero]
    rfl
  · exact isDigit_toDigits n c digit

theorem padded_ne_nil (zeros n : Nat) : padded zeros n ≠ [] := by
  simp [padded, Nat.toDigits_ne_nil]

/-- Zeros in front do not change the value of digits. -/
theorem ofDigitChars_padded (zeros n : Nat) : Nat.ofDigitChars 10 (padded zeros n) 0 = n := by
  simp [padded, Nat.ofDigitChars_append, Nat.ofDigitChars_replicate_zero]

theorem numeral_padded (zeros n : Nat) : Numeral (padded zeros n) n :=
  ⟨padded zeros n, padded_ne_nil zeros n, isDigit_padded zeros n, .inr
    ⟨.inl rfl, by rw [ofDigitChars_padded]⟩⟩

theorem numeral_minus_padded (zeros n : Nat) : Numeral ('-' :: padded zeros n) (-n) :=
  ⟨padded zeros n, padded_ne_nil zeros n, isDigit_padded zeros n, .inl
    ⟨rfl, by rw [ofDigitChars_padded]⟩⟩

/-! ## Numerals of words -/

theorem parseInt64?_eq_some_iff {s : String} {n : Int64} :
    parseInt64? s = some n ↔ Numeral s.toList n.toInt := by
  simp only [parseInt64?, Option.bind_eq_bind, Option.bind_eq_some_iff, parse?_eq_some_iff,
    Word.int64?_eq_some_iff, exists_eq_right]

theorem parseInt32?_eq_some_iff {s : String} {n : Int32} :
    parseInt32? s = some n ↔ Numeral s.toList n.toInt := by
  simp only [parseInt32?, Option.bind_eq_bind, Option.bind_eq_some_iff, parse?_eq_some_iff,
    Word.int32?_eq_some_iff, exists_eq_right]

end MetricConsole.Text.Integer
