import Mathlib.Algebra.Order.Ring.Int
import Mathlib.Data.List.DropRight
import MetricConsole.Json.Printer
import MetricConsole.Proofs.Json.WellFormed
import MetricConsole.Proofs.Text.Blank
import MetricConsole.Proofs.Text.Integer

/-!
# JSON texts read back

The text of a value with one item or member a line is read back as that value, if its numbers are
whole numbers that fit a word of 64 bits and it nests no deeper than the reader goes.

A number ends where no character follows that could belong to it, so the lemmas on readers ask that
of the text behind a value; brackets, braces, commas and new lines are no such characters.

* `Json.readValue_pretty`: a value before other text.
* `Json.parse_pretty`: a value on its own.
-/

namespace MetricConsole.Json

open Text Integer

/-- Every number is a whole number that fits a word of 64 bits, signed or not. -/
inductive Whole : Json → Prop where
  | null : Whole .null
  | bool (value : Bool) : Whole (.bool value)
  | num {n : Int} (low : -2 ^ 63 ≤ n) (high : n < 2 ^ 64) : Whole (.num (.int n))
  | str (value : String) : Whole (.str value)
  | arr {items : List Json} (inner : ∀ j ∈ items, Whole j) : Whole (.arr items)
  | obj {members : List (String × Json)} (inner : ∀ m ∈ members, Whole m.2) : Whole (.obj members)

/-- The numbers of a part are numbers of the whole. -/
theorem Whole.part {whole j : Json} (numbers : Whole whole) (part : Part whole j) : Whole j := by
  induction part with
  | self => exact numbers
  | item outer mem ih =>
    cases ih with
    | arr inner => exact inner _ mem
  | member outer mem ih =>
    cases ih with
    | obj inner => exact inner _ mem

/-! ## Blanks -/

/-- The blanks of a JSON text are blank in any text. -/
theorem isSpace_of_not_isBlank {c : Char} (solid : isBlank c = false) : isSpace c = false := by
  have other : ∀ d, isBlank d = true → (c == d) = false := by
    intro d blank
    rw [beq_eq_false_iff_ne]
    rintro rfl
    simp [blank] at solid
  simp [isSpace, other ' ' (by decide), other '\n' (by decide), other '\t' (by decide),
    other '\r' (by decide)]

theorem skipSpace_cons {c : Char} (solid : isSpace c = false) (rest : List Char) :
    skipSpace (c :: rest) = c :: rest :=
  List.dropWhile_cons_of_neg (by simp [solid])

/-- A new line and its indentation are blank. -/
theorem skipSpace_newline (level : Nat) (rest : List Char) :
    skipSpace (newline level ++ rest) = skipSpace rest := by
  apply List.dropWhile_append_of_pos
  intro c mem
  simp only [newline, List.mem_cons, List.mem_replicate] at mem
  rcases mem with rfl | ⟨_, rfl⟩ <;> rfl

/-- Blanks before a value do not count. -/
theorem readValue_skipSpace (depth : Nat) (cs : List Char) :
    readValue depth (skipSpace cs) = readValue depth cs := by
  have once : skipSpace (skipSpace cs) = skipSpace cs := List.dropWhile_idempotent _ _
  conv_lhs => unfold readValue
  conv_rhs => unfold readValue
  rw [once]

/-! ## Numbers -/

/-- No number goes on with the rest. -/
def Ends (rest : List Char) : Prop :=
  ∀ c ∈ rest.head?, c.isDigit = false ∧ c ≠ '.' ∧ c ≠ 'e' ∧ c ≠ 'E'

theorem ends_newline (level : Nat) (rest : List Char) : Ends (newline level ++ rest) := by
  simp [Ends, newline, Char.isDigit]

theorem digit?_of_not_isDigit {c : Char} (other : c.isDigit = false) : digit? c = none := by
  have range : ¬('0' ≤ c ∧ c ≤ '9') := by simpa [Char.isDigit, Char.le_def] using other
  simp [digit?, range]

/-- Further digits only make a number greater. -/
theorem le_ofDigitChars (ds : List Char) (value : Nat) : value ≤ Nat.ofDigitChars 10 ds value := by
  rw [Nat.ofDigitChars_eq_ofDigitChars_zero]
  exact (Nat.le_mul_of_pos_left value (Nat.pow_pos (by decide))).trans (Nat.le_add_right _ _)

theorem afterInteger_eq (negative : Bool) (value : Nat) {rest : List Char} (ends : Ends rest) :
    afterInteger negative value rest = wholeNumber negative value rest := by
  unfold afterInteger
  split
  · exact absurd rfl (ends _ rfl).2.1
  · exact absurd rfl (ends _ rfl).2.2.1
  · exact absurd rfl (ends _ rfl).2.2.2
  · rfl

/-- The digits of a number that is kept whole are read to their end. -/
theorem readInteger_append (negative : Bool) {ds rest : List Char} {value : Nat}
    (digits : ∀ c ∈ ds, c.isDigit = true) (fits : Nat.ofDigitChars 10 ds value ≤ maxSignificand)
    (ends : Ends rest) :
    readInteger negative value (ds ++ rest) =
      wholeNumber negative (Nat.ofDigitChars 10 ds value) rest := by
  induction ds generalizing value with
  | nil =>
    cases rest with
    | nil => rfl
    | cons c rest =>
      simp only [List.nil_append, readInteger, digit?_of_not_isDigit (ends c rfl).1,
        Nat.ofDigitChars_nil]
      exact afterInteger_eq negative value ends
  | cons c ds ih =>
    obtain ⟨digit, later⟩ := List.forall_mem_cons.mp digits
    rw [Nat.ofDigitChars_cons] at fits ⊢
    have small : ¬maxSignificand < 10 * value + (c.toNat - '0'.toNat) :=
      not_lt.mpr ((le_ofDigitChars ds _).trans fits)
    simp only [List.cons_append, readInteger, digit?_of_isDigit digit, small, if_false]
    exact ih later fits

theorem head_digitChar : ∀ n < 10, 0 < n → [Nat.digitChar n].head? ≠ some '0' := by decide

/-- A positive number does not start with a zero. -/
theorem head_toDigits {n : Nat} (positive : 0 < n) : (Nat.toDigits 10 n).head? ≠ some '0' := by
  induction n using Nat.strongRecOn with
  | ind n ih =>
    by_cases small : n < 10
    · rw [Nat.toDigits_of_lt_base small]
      exact head_digitChar n small positive
    · rw [Nat.toDigits_of_base_le (by decide) (by omega),
        List.head?_append_of_ne_nil _ Nat.toDigits_ne_nil]
      exact ih (n / 10) (by omega) (by omega)

/-- A number is read to the end of its digits. -/
theorem readNumber_toDigits (negative : Bool) {n : Nat} (fits : n ≤ maxSignificand)
    {rest : List Char} (ends : Ends rest) :
    readNumber negative (Nat.toDigits 10 n ++ rest) = wholeNumber negative n rest := by
  rcases Nat.eq_zero_or_pos n with rfl | positive
  · rw [Nat.toDigits_zero, List.singleton_append]
    cases rest with
    | nil => rfl
    | cons c rest =>
      simp only [readNumber, digit?_of_not_isDigit (ends c rfl).1, Option.isSome_none,
        Bool.false_eq_true, if_false]
      exact afterInteger_eq negative 0 ends
  · have digits := isDigit_toDigits n
    have value : Nat.ofDigitChars 10 (Nat.toDigits 10 n) 0 = n := Nat.ofDigitChars_ten_toDigits
    have first := head_toDigits positive
    obtain ⟨c, ds, text⟩ := List.exists_cons_of_ne_nil (Nat.toDigits_ne_nil (n := n) (b := 10))
    rw [text] at digits value first ⊢
    obtain ⟨digit, later⟩ := List.forall_mem_cons.mp digits
    rw [Nat.ofDigitChars_cons, Nat.mul_zero, Nat.zero_add] at value
    have nonzero : c ≠ '0' := by simpa using first
    rw [List.cons_append]
    unfold readNumber
    split
    · contradiction
    · next same => cases same; contradiction
    · next same =>
      cases same
      rw [digit?_of_isDigit digit]
      simp only
      rw [readInteger_append negative later (value ▸ fits) ends, value]

/-- A value that starts with a digit is a number. -/
theorem readValue_digit (depth : Nat) {c : Char} (digit : c.isDigit = true) (cs : List Char) :
    readValue depth (c :: cs) =
      (readNumber false (c :: cs)).andThen fun n cs => .ok (.num n, cs) := by
  unfold readValue
  rw [skipSpace_cons (isSpace_of_not_isBlank (isBlank_of_isDigit digit))]
  split
  · contradiction
  -- no other value starts with a digit
  case h_9 same =>
    cases same
    rw [digit?_of_isDigit digit]
    rfl
  all_goals
    next same =>
      cases same
      exact absurd digit (by decide)

theorem wholeNumber_false (n : Nat) (rest : List Char) :
    wholeNumber false n rest = .ok (.int n, rest) := rfl

theorem wholeNumber_true {n : Nat} (positive : 0 < n) (fits : n ≤ maxNegative)
    (rest : List Char) : wholeNumber true n rest = .ok (.int (-n), rest) := by
  have whole : ¬(n = 0 ∨ maxNegative < n) := by omega
  simp [wholeNumber, whole]

/-- A whole number before other text is read back. -/
theorem readValue_render (depth : Nat) {n : Int} (low : -2 ^ 63 ≤ n) (high : n < 2 ^ 64)
    {rest : List Char} (ends : Ends rest) :
    readValue depth ((render n).toList ++ rest) = .ok (.num (.int n), rest) := by
  by_cases negative : n < 0
  · have text : (render n).toList = '-' :: Nat.toDigits 10 n.natAbs := by simp [render, negative]
    have read := readNumber_toDigits true (n := n.natAbs)
      (by simp only [maxSignificand]; omega) ends
    rw [wholeNumber_true (by omega) (by simp only [maxNegative]; omega),
      Int.ofNat_natAbs_of_nonpos negative.le, Int.neg_neg] at read
    rw [text, List.cons_append]
    unfold readValue
    rw [skipSpace_cons (by decide)]
    simp only [read]
    rfl
  · have text : (render n).toList = Nat.toDigits 10 n.natAbs := by simp [render, negative]
    have read := readNumber_toDigits false (n := n.natAbs)
      (by simp only [maxSignificand]; omega) ends
    rw [wholeNumber_false, Int.natAbs_of_nonneg (not_lt.mp negative)] at read
    have digits := isDigit_toDigits n.natAbs
    obtain ⟨c, ds, first⟩ :=
      List.exists_cons_of_ne_nil (Nat.toDigits_ne_nil (n := n.natAbs) (b := 10))
    rw [text]
    rw [first] at read digits ⊢
    rw [List.cons_append] at read ⊢
    rw [readValue_digit depth (digits c (by simp)), read]
    rfl

/-! ## Strings -/

/-- The code of a control character is read back as that character. -/
theorem readUnicodeEscape_control {n : Nat} (control : n < 0x20) (rest : List Char) :
    readUnicodeEscape ('0' :: '0' :: Hex.lower (n / 16) :: Hex.lower (n % 16) :: rest) =
      .ok (Char.ofNat n, rest) := by
  have zero : Hex.value? '0' = some 0 := rfl
  have hex : readHex ('0' :: '0' :: Hex.lower (n / 16) :: Hex.lower (n % 16) :: rest) =
      .ok (n, rest) := by
    simp only [readHex, zero, Hex.value?_lower (n / 16) (by omega),
      Hex.value?_lower (n % 16) (by omega), Except.ok.injEq, Prod.mk.injEq, and_true]
    omega
  have plain : ¬(0xDC00 ≤ n ∧ n ≤ 0xDFFF) := by omega
  have single : n < 0xD800 ∨ 0xDBFF < n := by omega
  simp only [readUnicodeEscape, hex, Read.andThen, plain, single, if_false, if_true]

/-- The escape of a character is read back as that character. -/
theorem readChars_escape (fuel : Nat) (c : Char) (rest : List Char) :
    readChars (fuel + 1) (escape c ++ rest) =
      (readChars fuel rest).andThen fun xs cs => .ok (c :: xs, cs) := by
  unfold escape
  split
  · next same => subst same; rfl
  split
  · next same => subst same; rfl
  split
  · next same => subst same; rfl
  split
  · next same => subst same; rfl
  split
  · next same => subst same; rfl
  split
  · next same => subst same; rfl
  split
  · next same => subst same; rfl
  split
  · next control =>
    have read := readUnicodeEscape_control control rest
    rw [Char.ofNat_toNat] at read
    simp only [List.cons_append, List.nil_append, readChars, readEscape, read, Read.andThen]
    rfl
  · next quote backslash _ _ _ _ _ control =>
    simp [readChars, quote, backslash, control]

theorem length_escape (c : Char) : 1 ≤ (escape c).length := by
  unfold escape
  repeat' split
  all_goals simp

theorem length_le_flatMap_escape (cs : List Char) : cs.length ≤ (cs.flatMap escape).length := by
  induction cs with
  | nil => simp
  | cons c cs ih =>
    have := length_escape c
    simp only [List.flatMap_cons, List.length_append, List.length_cons]
    omega

theorem readChars_flatMap_escape {cs : List Char} {fuel : Nat} (enough : cs.length < fuel)
    (rest : List Char) : readChars fuel (cs.flatMap escape ++ '"' :: rest) = .ok (cs, rest) := by
  induction cs generalizing fuel with
  | nil =>
    obtain ⟨fuel, rfl⟩ := Nat.exists_eq_succ_of_ne_zero (Nat.ne_of_gt enough)
    rfl
  | cons c cs ih =>
    obtain ⟨fuel, rfl⟩ := Nat.exists_eq_succ_of_ne_zero (Nat.ne_of_gt (Nat.zero_lt_of_lt enough))
    rw [List.flatMap_cons, List.append_assoc, readChars_escape, ih (by simpa using enough)]
    rfl

/-- A string is read back from what follows its first quote. -/
theorem readString_quoted (s : String) (rest : List Char) :
    readString (s.toList.flatMap escape ++ '"' :: rest) = .ok (s, rest) := by
  have enough : s.toList.length < (s.toList.flatMap escape ++ '"' :: rest).length := by
    have := length_le_flatMap_escape s.toList
    simp only [List.length_append, List.length_cons]
    omega
  rw [readString, readChars_flatMap_escape enough]
  simp [Read.andThen]

/-! ## Lists and objects -/

/-- The text starts a value: with no blank, and with no bracket that ends a list. -/
def Opens (cs : List Char) : Prop :=
  ∃ c rest, cs = c :: rest ∧ isBlank c = false ∧ c ≠ ']'

theorem opens_render (n : Int) : Opens (render n).toList := by
  obtain ⟨c, rest, text⟩ := List.exists_cons_of_ne_nil
    (show (render n).toList ≠ [] by simpa using render_ne_empty n)
  refine ⟨c, rest, text, ?_⟩
  rcases mem_render (n := n) (c := c) (by simp [text]) with digit | rfl
  · refine ⟨isBlank_of_isDigit digit, ?_⟩
    rintro rfl
    exact absurd digit (by decide)
  · decide

theorem opens_pretty (level : Nat) {j : Json} (whole : Whole j) : Opens (prettyList level j) := by
  cases whole with
  | null => exact ⟨'n', _, rfl, by decide⟩
  | bool b => cases b <;> exact ⟨_, _, rfl, by decide⟩
  | num low high => exact opens_render _
  | str s => exact ⟨'"', _, rfl, by decide⟩
  | @arr items inner => cases items <;> exact ⟨'[', _, rfl, by decide⟩
  | @obj members inner => cases members <;> exact ⟨'\x7b', _, rfl, by decide⟩

theorem Opens.append {cs : List Char} (opens : Opens cs) (rest : List Char) :
    Opens (cs ++ rest) := by
  obtain ⟨c, first, rfl, solid, other⟩ := opens
  exact ⟨c, first ++ rest, rfl, solid, other⟩

theorem Opens.skipSpace {cs : List Char} (opens : Opens cs) : Json.skipSpace cs = cs := by
  obtain ⟨c, rest, rfl, solid, _⟩ := opens
  exact skipSpace_cons (isSpace_of_not_isBlank solid) rest

theorem ends_comma (rest : List Char) : Ends (',' :: rest) := by
  simp [Ends, Char.isDigit]

/-- The value is read back from its text before other text. -/
def ReadsBack (depth level : Nat) (j : Json) : Prop :=
  ∀ rest, Ends rest → readValue depth (prettyList level j ++ rest) = .ok (j, rest)

section Readers

variable {item : List Char → Read Json} {fuel : Nat} {cs more next rest : List Char} {x : Json}

theorem readItems_last (first : item cs = .ok (x, more)) (close : skipSpace more = ']' :: rest) :
    readItems item (fuel + 1) cs = .ok ([x], rest) := by
  simp only [readItems, first, Read.andThen, close]

theorem readItems_more (first : item cs = .ok (x, ',' :: more)) (opens : Opens next)
    (skip : skipSpace more = next) :
    readItems item (fuel + 1) cs =
      (readItems item fuel next).andThen fun xs cs => .ok (x :: xs, cs) := by
  obtain ⟨c, rest, rfl, solid, other⟩ := opens
  simp only [readItems, first, Read.andThen, skipSpace_cons (show isSpace ',' = false by decide),
    skip]
  split
  · contradiction
  · next same => cases same; contradiction
  · rfl

end Readers

section Containers

variable {depth level : Nat}

/-- The items of a list are read back from their lines. -/
theorem readItems_pretty {x : Json} {xs : List Json} (whole : ∀ y ∈ x :: xs, Whole y)
    (each : ∀ y ∈ x :: xs, ReadsBack depth level y) {fuel : Nat} (enough : xs.length < fuel)
    (outer : Nat) (rest : List Char) :
    readItems (readValue depth) fuel
        (prettyList level x ++ (prettyItems level xs ++ (newline outer ++ ']' :: rest))) =
      .ok (x :: xs, rest) := by
  induction xs generalizing x fuel with
  | nil =>
    cases fuel with
    | zero => exact absurd enough (Nat.not_lt_zero _)
    | succ fuel =>
      refine readItems_last (each x (by simp) _ (ends_newline outer (']' :: rest))) ?_
      rw [prettyItems, List.nil_append, skipSpace_newline, skipSpace_cons (by decide)]
  | cons y ys ih =>
    cases fuel with
    | zero => exact absurd enough (Nat.not_lt_zero _)
    | succ fuel =>
      have opens := (opens_pretty level (whole y (by simp))).append
        (prettyItems level ys ++ (newline outer ++ ']' :: rest))
      have shorter : ys.length < fuel := by simpa using enough
      have later := ih (fun z mem => whole z (List.mem_cons_of_mem x mem))
        (fun z mem => each z (List.mem_cons_of_mem x mem)) shorter
      rw [prettyItems, List.cons_append, List.append_assoc, List.append_assoc,
        readItems_more (each x (by simp) _ (ends_comma _)) opens, later]
      · rfl
      · rw [skipSpace_newline, opens.skipSpace]

theorem length_le_prettyItems (xs : List Json) : xs.length ≤ (prettyItems level xs).length := by
  induction xs with
  | nil => simp
  | cons x xs ih =>
    simp only [prettyItems, List.length_cons, List.length_append]
    omega

/-- A list is read back from what follows its bracket. -/
theorem readList_pretty {x : Json} {xs : List Json} (whole : ∀ y ∈ x :: xs, Whole y)
    (each : ∀ y ∈ x :: xs, ReadsBack depth level y) (outer : Nat) (rest : List Char) :
    readList (readValue depth) (newline level ++
        (prettyList level x ++ (prettyItems level xs ++ (newline outer ++ ']' :: rest)))) =
      .ok (.arr (x :: xs), rest) := by
  have opens := (opens_pretty level (whole x (by simp))).append
    (prettyItems level xs ++ (newline outer ++ ']' :: rest))
  have read (fuel : Nat) (enough : xs.length < fuel) :=
    readItems_pretty whole each enough outer rest
  unfold readList
  rw [skipSpace_newline, opens.skipSpace]
  obtain ⟨c, cs, first, _, other⟩ := opens
  have enough : xs.length < (c :: cs).length := by
    have : xs.length ≤ (prettyItems level xs).length := length_le_prettyItems xs
    simp only [← first, List.length_append, List.length_cons]
    omega
  rw [first] at read ⊢
  split
  · contradiction
  · next same => cases same; contradiction
  · rw [read _ enough]
    rfl

/-- A member is read back from what follows the first quote of its name. -/
theorem readMember_pretty {name : String} {value : Json} (read : ReadsBack depth level value)
    {rest : List Char} (ends : Ends rest) :
    readMember (readValue depth) (name.toList.flatMap escape ++
        '"' :: ':' :: ' ' :: (prettyList level value ++ rest)) = .ok ((name, value), rest) := by
  have blank : readValue depth (' ' :: (prettyList level value ++ rest)) =
      readValue depth (prettyList level value ++ rest) := by
    rw [← readValue_skipSpace, ← readValue_skipSpace depth (prettyList level value ++ rest)]
    rfl
  simp only [readMember, readString_quoted, Read.andThen, skipSpace_cons
    (show isSpace ':' = false by decide), blank, read rest ends]

/-- The members of an object are read back from their lines. -/
theorem readMembers_pretty (name : String) {value : Json} {members : List (String × Json)}
    (first : ReadsBack depth level value) (later : ∀ m ∈ members, ReadsBack depth level m.2)
    {fuel : Nat} (enough : members.length < fuel) (outer : Nat) (rest : List Char) :
    readMembers (readValue depth) fuel (name.toList.flatMap escape ++ '"' :: ':' :: ' ' ::
        (prettyList level value ++ (prettyMembers level members ++
          (newline outer ++ '\x7d' :: rest)))) = .ok ((name, value) :: members, rest) := by
  induction members generalizing name value fuel with
  | nil =>
    cases fuel with
    | zero => exact absurd enough (Nat.not_lt_zero _)
    | succ fuel =>
      have close : skipSpace (newline outer ++ '\x7d' :: rest) = '\x7d' :: rest := by
        rw [skipSpace_newline, skipSpace_cons (by decide)]
      rw [prettyMembers, List.nil_append]
      simp only [readMembers, readMember_pretty first (ends_newline outer ('\x7d' :: rest)),
        Read.andThen, close]
  | cons m members ih =>
    obtain ⟨n, v⟩ := m
    cases fuel with
    | zero => exact absurd enough (Nat.not_lt_zero _)
    | succ fuel =>
      obtain ⟨second, others⟩ := List.forall_mem_cons.mp later
      have shorter : members.length < fuel := by simpa using enough
      have read := ih n second others shorter
      rw [prettyMembers]
      simp only [List.cons_append, List.append_assoc, readMembers,
        readMember_pretty first (ends_comma _), Read.andThen, quoted,
        skipSpace_cons (show isSpace ',' = false by decide), skipSpace_newline,
        skipSpace_cons (show isSpace '"' = false by decide), List.nil_append, read]

theorem length_le_prettyMembers (members : List (String × Json)) :
    members.length ≤ (prettyMembers level members).length := by
  induction members with
  | nil => simp
  | cons m members ih =>
    obtain ⟨n, v⟩ := m
    simp only [prettyMembers, List.length_cons, List.length_append]
    omega

/-- An object is read back from what follows its brace. -/
theorem readObject_pretty {name : String} {value : Json} {members : List (String × Json)}
    (sorted : Sorted ((name, value) :: members)) (first : ReadsBack depth level value)
    (later : ∀ m ∈ members, ReadsBack depth level m.2) (outer : Nat) (rest : List Char) :
    readObject (readValue depth) (newline level ++ (quoted name ++ ':' :: ' ' ::
        (prettyList level value ++ (prettyMembers level members ++
          (newline outer ++ '\x7d' :: rest))))) = .ok (.obj ((name, value) :: members), rest) := by
  have read (fuel : Nat) (enough : members.length < fuel) :=
    readMembers_pretty name first later enough outer rest
  unfold readObject
  rw [skipSpace_newline]
  simp only [quoted, List.cons_append, List.append_assoc, List.nil_append,
    skipSpace_cons (show isSpace '"' = false by decide)]
  rw [read]
  · simp only [Read.andThen, ofMembers_eq_obj sorted]
  · have : members.length ≤ (prettyMembers level members).length := length_le_prettyMembers members
    simp only [List.length_append, List.length_cons]
    omega

end Containers

/-! ## Values -/

theorem readsBack_null (depth level : Nat) : ReadsBack depth level .null := by
  intro rest _
  change readValue depth ('n' :: 'u' :: 'l' :: 'l' :: rest) = _
  unfold readValue
  rw [skipSpace_cons (by decide)]
  rfl

theorem readsBack_bool (depth level : Nat) (value : Bool) :
    ReadsBack depth level (.bool value) := by
  intro rest _
  cases value with
  | true =>
    change readValue depth ('t' :: 'r' :: 'u' :: 'e' :: rest) = _
    unfold readValue
    rw [skipSpace_cons (by decide)]
    rfl
  | false =>
    change readValue depth ('f' :: 'a' :: 'l' :: 's' :: 'e' :: rest) = _
    unfold readValue
    rw [skipSpace_cons (by decide)]
    rfl

theorem readsBack_str (depth level : Nat) (value : String) :
    ReadsBack depth level (.str value) := by
  intro rest _
  change readValue depth (quoted value ++ rest) = _
  unfold readValue
  simp only [quoted, List.cons_append, List.append_assoc, List.nil_append,
    skipSpace_cons (show isSpace '"' = false by decide), readString_quoted]
  rfl

/-- A list is read back if its items are. -/
theorem readsBack_arr {depth level : Nat} {items : List Json} (whole : ∀ j ∈ items, Whole j)
    (each : ∀ j ∈ items, ReadsBack depth (level + 1) j) :
    ReadsBack (depth + 1) level (.arr items) := by
  intro rest _
  cases items with
  | nil =>
    change readValue (depth + 1) ('[' :: ']' :: rest) = _
    unfold readValue
    rw [skipSpace_cons (by decide)]
    rfl
  | cons x xs =>
    have read := readList_pretty whole each level rest
    unfold readValue
    simp only [prettyList, List.cons_append, List.append_assoc, List.nil_append,
      skipSpace_cons (show isSpace '[' = false by decide), read]

/-- An object is read back if its members are. -/
theorem readsBack_obj {depth level : Nat} {members : List (String × Json)} (sorted : Sorted members)
    (each : ∀ m ∈ members, ReadsBack depth (level + 1) m.2) :
    ReadsBack (depth + 1) level (.obj members) := by
  intro rest _
  cases members with
  | nil =>
    change readValue (depth + 1) ('\x7b' :: '\x7d' :: rest) = _
    unfold readValue
    rw [skipSpace_cons (by decide)]
    rfl
  | cons m members =>
    obtain ⟨first, later⟩ := List.forall_mem_cons.mp each
    have read := readObject_pretty sorted first later level rest
    unfold readValue
    simp only [prettyList, List.cons_append, List.append_assoc, List.nil_append,
      skipSpace_cons (show isSpace '\x7b' = false by decide), read]

/-- A value that fits is read back from its text before other text. -/
theorem readValue_pretty {depth : Nat} {j : Json} (fits : Fits depth j) (whole : Whole j)
    (level : Nat) : ReadsBack depth level j := by
  induction fits generalizing level with
  | null => exact readsBack_null _ level
  | bool value => exact readsBack_bool _ level value
  | num n =>
    cases whole with
    | num low high => exact fun rest ends => readValue_render _ low high ends
  | str s => exact readsBack_str _ level s
  | arr inner ih =>
    cases whole with
    | arr wholes => exact readsBack_arr wholes fun j mem => ih j mem (wholes j mem) (level + 1)
  | obj sorted inner ih =>
    cases whole with
    | obj wholes => exact readsBack_obj sorted fun m mem => ih m mem (wholes m mem) (level + 1)

/-- A value that fits is read back from its text. -/
theorem parse_pretty {j : Json} (fits : Fits maxDepth j) (whole : Whole j) :
    parse j.pretty = .ok j := by
  have read := readValue_pretty fits whole 0 [] nofun
  rw [List.append_nil] at read
  simp only [parse, parseList, pretty, String.toList_ofList, read]
  rfl

end MetricConsole.Json
