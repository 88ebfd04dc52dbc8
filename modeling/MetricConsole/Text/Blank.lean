/-!
# Blank characters

`isBlank` is the Unicode property White_Space. `trim` takes blanks off both ends of a text and
`nonBlank?` gives the trimmed text when anything is left of it.
-/

namespace MetricConsole.Text

/-- The characters with the Unicode property White_Space. -/
def isBlank (c : Char) : Bool :=
  let n := c.toNat
  (0x9 ≤ n && n ≤ 0xD) || n == 0x20 || n == 0x85 || n == 0xA0 || n == 0x1680 ||
    (0x2000 ≤ n && n ≤ 0x200A) || n == 0x2028 || n == 0x2029 || n == 0x202F || n == 0x205F ||
    n == 0x3000

/-- Drops the longest end of `cs` all of whose characters satisfy `p`. -/
def dropEndWhile (p : Char → Bool) (cs : List Char) : List Char :=
  (cs.reverse.dropWhile p).reverse

/-- Blanks at both ends removed, as characters. -/
def trimList (cs : List Char) : List Char :=
  dropEndWhile isBlank (cs.dropWhile isBlank)

/-- The text without the blanks at its ends. -/
def trim (s : String) : String :=
  String.ofList (trimList s.toList)

/-- The trimmed text, or nothing for a text of blanks only. -/
def nonBlank? (s : String) : Option String :=
  let t := trim s
  if t = "" then none else some t

/-- The text is empty or made of blanks. -/
def IsBlank (s : String) : Prop := trim s = ""

instance (s : String) : Decidable (IsBlank s) := inferInstanceAs (Decidable (trim s = ""))

theorem nonBlank?_eq_none_iff {s : String} : nonBlank? s = none ↔ IsBlank s := by
  unfold nonBlank? IsBlank
  by_cases h : trim s = "" <;> simp [h]

theorem nonBlank?_eq_some_iff {s t : String} : nonBlank? s = some t ↔ t = trim s ∧ t ≠ "" := by
  unfold nonBlank?
  by_cases h : trim s = ""
  · simp only [h, if_true, reduceCtorEq, false_iff, not_and]
    exact fun ht => by simp [ht]
  · simp only [h, if_false, Option.some.injEq]
    exact ⟨fun e => ⟨e.symm, e ▸ h⟩, fun e => e.1.symm⟩

end MetricConsole.Text
