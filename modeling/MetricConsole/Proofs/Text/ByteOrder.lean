import Mathlib.Data.String.Basic

/-!
# The order of texts by their bytes

Texts are compared character by character, and their encodings byte by byte.  Both come out the
same: the encodings of two characters differ in some byte, and at the first one the smaller
character has the smaller byte.

* `Text.bytes`: the encoding of a text.
* `Text.encodeChar_lt`: the encoding of the smaller character is smaller, whatever follows.
* `Text.bytes_lt_iff`: the order of the encodings is the order of the texts.
-/

namespace MetricConsole.Text

/-- The bytes of a text in its encoding. -/
def bytes (s : String) : List UInt8 := s.toByteArray.data.toList

theorem bytes_eq (s : String) : bytes s = s.toList.flatMap String.utf8EncodeChar := by
  rw [bytes, ← String.utf8Encode_toList, List.utf8Encode, List.toList_data_toByteArray]

/-- Lists of bytes are compared at their first bytes, and where these agree by what follows. -/
theorem ofNat_cons_lt {a b : Nat} {us vs : List UInt8} (byte : b < 256) (le : a ≤ b)
    (rest : a = b → us < vs) : UInt8.ofNat a :: us < UInt8.ofNat b :: vs := by
  refine List.cons_lt_cons_iff.mpr ?_
  rcases Nat.lt_or_eq_of_le le with lt | rfl
  · refine .inl (UInt8.lt_iff_toNat_lt.mpr ?_)
    rw [UInt8.toNat_ofNat', UInt8.toNat_ofNat']
    omega
  · exact .inr ⟨rfl, rest rfl⟩

theorem ofNat_cons_lt_of_lt {a b : Nat} {us vs : List UInt8} (byte : b < 256) (lt : a < b) :
    UInt8.ofNat a :: us < UInt8.ofNat b :: vs :=
  ofNat_cons_lt byte (Nat.le_of_lt lt) fun same => absurd same (Nat.ne_of_lt lt)

/-- The encoding of the smaller character is smaller, whatever follows. -/
theorem encodeChar_lt {c d : Char} (smaller : c < d) (us vs : List UInt8) :
    String.utf8EncodeChar c ++ us < String.utf8EncodeChar d ++ vs := by
  have lt : c.val.toNat < d.val.toNat := smaller
  have bound : d.val.toNat < 1114112 := by
    have valid := d.valid
    simp only [UInt32.isValidChar, Nat.isValidChar] at valid
    omega
  simp only [String.utf8EncodeChar]
  generalize c.val.toNat = v at *
  generalize d.val.toNat = w at *
  -- the first byte tells the length, so encodings of different lengths differ in it
  split
  · split
    · exact ofNat_cons_lt_of_lt (by omega) lt
    · split
      · exact ofNat_cons_lt_of_lt (by omega) (by omega)
      · split <;> exact ofNat_cons_lt_of_lt (by omega) (by omega)
  · split
    · split
      · omega
      · split
        · refine ofNat_cons_lt (by omega) (by omega) fun first => ?_
          exact ofNat_cons_lt_of_lt (by omega) (by omega)
        · split <;> exact ofNat_cons_lt_of_lt (by omega) (by omega)
    · split
      · split
        · omega
        · split
          · omega
          · split
            · refine ofNat_cons_lt (by omega) (by omega) fun first => ?_
              refine ofNat_cons_lt (by omega) (by omega) fun second => ?_
              exact ofNat_cons_lt_of_lt (by omega) (by omega)
            · exact ofNat_cons_lt_of_lt (by omega) (by omega)
      · split
        · omega
        · split
          · omega
          · split
            · omega
            · refine ofNat_cons_lt (by omega) (by omega) fun first => ?_
              refine ofNat_cons_lt (by omega) (by omega) fun second => ?_
              refine ofNat_cons_lt (by omega) (by omega) fun third => ?_
              exact ofNat_cons_lt_of_lt (by omega) (by omega)

/-- The smaller list of characters has the smaller encoding. -/
theorem flatMap_encodeChar_lt {cs ds : List Char} (smaller : cs < ds) :
    cs.flatMap String.utf8EncodeChar < ds.flatMap String.utf8EncodeChar := by
  induction smaller with
  | @nil d ds =>
    rcases List.exists_cons_of_ne_nil (String.utf8EncodeChar_ne_nil (c := d)) with ⟨b, bs, encoded⟩
    rw [List.flatMap_nil, List.flatMap_cons, encoded, List.cons_append]
    exact List.nil_lt_cons _ _
  | cons tail ih => exact List.append_left_lt ih
  | rel head => exact encodeChar_lt head _ _

theorem bytes_lt_of_lt {s t : String} (smaller : s < t) : bytes s < bytes t := by
  rw [bytes_eq, bytes_eq]
  exact flatMap_encodeChar_lt (String.lt_iff_toList_lt.mp smaller)

/-- The order of the encodings is the order of the texts. -/
theorem bytes_lt_iff {s t : String} : bytes s < bytes t ↔ s < t := by
  refine ⟨fun smaller => ?_, bytes_lt_of_lt⟩
  rcases lt_trichotomy s t with lt | rfl | gt
  · exact lt
  · exact absurd smaller (List.lt_irrefl _)
  · exact absurd smaller (List.lt_asymm (bytes_lt_of_lt gt))

end MetricConsole.Text
