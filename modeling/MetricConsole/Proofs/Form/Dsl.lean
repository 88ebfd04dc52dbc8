import MetricConsole.Proofs.Form.Field

/-!
# The JSON field loses nothing

A JSON field shows its value as text, with one item or member a line, and reads the text again when
the form is submitted.  Of the values whose numbers are whole it keeps exactly those that nest no
deeper than the reader goes, with the members of their objects in order.  A value that was typed is
always such a value, so opening a form and submitting it again does not change it.

* `Form.dsl_dslText_iff`: the values that are read back from the text that shows them.
* `Form.dsl_lossless`: these, and what becomes of a text that was typed.
-/

namespace MetricConsole.Form

/-- A value of whole numbers is read back exactly if a text can hold it. -/
theorem dsl_dslText_iff {j : Json} (whole : j.Whole) :
    dsl (dslText (some j)) = .ok (some j) ↔ j.Fits Json.maxDepth :=
  ⟨fun read => fits_of_dsl read j rfl, fun fits => dsl_pretty fits whole⟩

/-- Every value of whole numbers is read back from its text as long as it nests at most 127 levels
deep and its objects are sorted, and no other value is.  The value of a text that was typed is read
back from the text that shows it. -/
theorem dsl_lossless :
    (∀ j : Json, j.Whole → (dsl (dslText (some j)) = .ok (some j) ↔ j.Fits 127)) ∧
    ∀ (text : String) (value : Option Json), dsl text = .ok value → (∀ j ∈ value, j.Whole) →
      dsl (dslText value) = .ok value := by
  refine ⟨fun j whole => dsl_dslText_iff whole, fun text value read whole => ?_⟩
  exact dsl_dslText (fits_of_dsl read) whole

/-! ## At the limit -/

/-- So many lists, each but the last the only item of the one before. -/
def nested : Nat → Json
  | 0 => .arr []
  | n + 1 => .arr [nested n]

theorem whole_nested (n : Nat) : (nested n).Whole := by
  induction n with
  | zero => exact .arr nofun
  | succ n ih => exact .arr (by simpa using ih)

theorem fits_nested_iff {n depth : Nat} : (nested n).Fits depth ↔ n < depth := by
  induction n generalizing depth with
  | zero =>
    constructor
    · rintro ⟨⟩
      exact Nat.succ_pos _
    · intro positive
      obtain ⟨depth, rfl⟩ := Nat.exists_eq_succ_of_ne_zero positive.ne'
      exact .arr nofun
  | succ n ih =>
    constructor
    · intro fits
      cases fits with
      | arr inner => exact Nat.succ_lt_succ (ih.mp (inner _ (by simp)))
    · intro deep
      obtain ⟨depth, rfl⟩ := Nat.exists_eq_succ_of_ne_zero (Nat.ne_zero_of_lt deep)
      exact .arr (by simpa using ih.mpr (Nat.lt_of_succ_lt_succ deep))

/-- 127 lists are read back and 128 are not.  A text with a member out of order, escapes and an
empty list is read once, and then again from what the field shows for it. -/
theorem dsl_lossless_limit :
    dsl (dslText (some (nested 126))) = .ok (some (nested 126)) ∧
    dsl (dslText (some (nested 127))) ≠ .ok (some (nested 127)) ∧
    ∃ j : Json,
      dsl " \x7b\"b\": [], \"a\": [\"\\u0000\\\"\\\\\", -9223372036854775808]\x7d " = .ok (some j) ∧
      dsl (dslText (some j)) = .ok (some j) := by
  have read : dsl " \x7b\"b\": [], \"a\": [\"\\u0000\\\"\\\\\", -9223372036854775808]\x7d " =
      .ok (some (.obj [("a", .arr [.str "\x00\"\\", .ofInt (-9223372036854775808)]),
        ("b", .arr [])])) := rfl
  refine ⟨?_, ?_, _, read, ?_⟩
  · exact (dsl_lossless.1 (nested 126) (whole_nested 126)).mpr (fits_nested_iff.mpr (by decide))
  · intro same
    have fits := (dsl_lossless.1 (nested 127) (whole_nested 127)).mp same
    exact absurd (fits_nested_iff.mp fits) (by decide)
  · refine dsl_lossless.2 _ _ read ?_
    rintro j ⟨⟩
    refine .obj ?_
    simp only [List.forall_mem_cons]
    exact ⟨.arr (by simp [Json.Whole.str, Json.Whole.num, Json.ofInt]), .arr nofun, nofun⟩

end MetricConsole.Form
