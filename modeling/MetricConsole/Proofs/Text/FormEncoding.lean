import MetricConsole.Text.FormEncoding

/-!
# Encoded texts read back

Form encoding keeps every text apart from every other: the encoded form of a text is read back as
that text, and it contains none of the characters that part the pairs of a query, the query from the
path, and the segments of the path.  So a list of pairs is told from any other by its encoded form.

* `FormEncoding.decode?_encode`: reading what was encoded.
* `FormEncoding.encode_injective`, `FormEncoding.encodePairs_inj`: texts, and lists of pairs, with
  one encoded form are the same.
-/

namespace MetricConsole.Text

/-- What can be read back is told apart by what was written. -/
theorem injective_of_read {α β : Type} {write : α → β} (read? : β → Option α)
    (reads : ∀ a, read? (write a) = some a) : Function.Injective write := by
  intro a b same
  have read := reads a
  rw [same, reads b] at read
  exact (Option.some.inj read).symm

/-- Pieces free of a separator are told from any other such pieces by what joins them. -/
theorem intercalate_inj {sep : Char} {pieces pieces' : List (List Char)} (nonempty : pieces ≠ [])
    (nonempty' : pieces' ≠ []) (free : ∀ piece ∈ pieces, sep ∉ piece)
    (free' : ∀ piece ∈ pieces', sep ∉ piece)
    (same : [sep].intercalate pieces = [sep].intercalate pieces') : pieces = pieces' := by
  rw [← List.splitOn_intercalate sep free nonempty, same,
    List.splitOn_intercalate sep free' nonempty']

/-- A character that is neither the separator nor in a piece is not in what joins the pieces. -/
theorem notMem_intercalate {c sep : Char} {pieces : List (List Char)} (other : c ≠ sep)
    (free : ∀ piece ∈ pieces, c ∉ piece) : c ∉ [sep].intercalate pieces := by
  induction pieces with
  | nil => simp
  | cons piece pieces ih =>
    obtain ⟨here, later⟩ := List.forall_mem_cons.mp free
    cases pieces with
    | nil => simpa using here
    | cons next pieces =>
      rw [List.intercalate_cons_cons]
      simp only [List.mem_append, List.mem_singleton, not_or]
      exact ⟨⟨here, other⟩, ih later⟩

namespace FormEncoding

/-! ## Characters -/

/-- A character that an encoded text is made of. -/
def isPlain (c : Char) : Bool := isLiteral c || c == '%' || c == '+'

theorem isLiteral_upper : ∀ n < 16, isLiteral (Hex.upper n) = true := by decide

/-- A byte is written with plain characters. -/
theorem isPlain_encodeByte (b : UInt8) : ∀ c ∈ encodeByte b, isPlain c = true := by
  have small : b.toNat < 256 := b.toNat_lt
  have high := isLiteral_upper (b.toNat / 16) (by omega)
  have low := isLiteral_upper (b.toNat % 16) (by omega)
  simp [encodeByte, isPlain, high, low]

/-- Every character is written with plain characters. -/
theorem isPlain_encodeChar (c : Char) : ∀ x ∈ encodeChar c, isPlain x = true := by
  unfold encodeChar
  split
  · next literal => simp [isPlain, literal]
  · split
    · simp [isPlain]
    · intro x mem
      obtain ⟨b, -, inside⟩ := List.mem_flatMap.mp mem
      exact isPlain_encodeByte b x inside

/-- An encoded text is made of plain characters. -/
theorem isPlain_encode (s : String) : ∀ c ∈ (encode s).toList, isPlain c = true := by
  intro c mem
  simp only [encode, String.toList_ofList] at mem
  obtain ⟨x, -, inside⟩ := List.mem_flatMap.mp mem
  exact isPlain_encodeChar x c inside

/-- A character that is not plain is in no encoded text. -/
theorem notMem_encode {sep : Char} (special : isPlain sep = false) (s : String) :
    sep ∉ (encode s).toList := by
  intro mem
  have plain := isPlain_encode s sep mem
  rw [special] at plain
  exact absurd plain (by decide)

/-! ## Reading back -/

/-- An encoded byte is read back. -/
theorem decodeBytes_encodeByte (b : UInt8) (rest : List Char) :
    decodeBytes (encodeByte b ++ rest) = b :: decodeBytes rest := by
  have small : b.toNat < 256 := b.toNat_lt
  have high := Hex.value?_upper (b.toNat / 16) (by omega)
  have low := Hex.value?_upper (b.toNat % 16) (by omega)
  have whole : 16 * (b.toNat / 16) + b.toNat % 16 = b.toNat := by omega
  simp [encodeByte, decodeBytes, high, low, whole]

theorem decodeBytes_encodeBytes (bs : List UInt8) (rest : List Char) :
    decodeBytes (bs.flatMap encodeByte ++ rest) = bs ++ decodeBytes rest := by
  induction bs with
  | nil => rfl
  | cons b bs ih =>
    rw [List.flatMap_cons, List.append_assoc, decodeBytes_encodeByte, ih, List.cons_append]

/-- An encoded character is read back as the bytes of the character. -/
theorem decodeBytes_encodeChar (c : Char) (rest : List Char) :
    decodeBytes (encodeChar c ++ rest) = String.utf8EncodeChar c ++ decodeBytes rest := by
  unfold encodeChar
  split
  · next literal =>
    have percent : c ≠ '%' := by rintro rfl; exact absurd literal (by decide)
    have plus : c ≠ '+' := by rintro rfl; exact absurd literal (by decide)
    rw [List.singleton_append, decodeBytes]
    · exact fun _ _ _ same _ => percent same
    · exact plus
  · split
    · next space =>
      subst space
      have blank : String.utf8EncodeChar ' ' = [' '.toUInt8] := rfl
      simp [decodeBytes, blank]
    · exact decodeBytes_encodeBytes _ _

theorem decodeBytes_encodeChars (cs : List Char) :
    decodeBytes (cs.flatMap encodeChar) = cs.flatMap String.utf8EncodeChar := by
  induction cs with
  | nil => simp [decodeBytes]
  | cons c cs ih => rw [List.flatMap_cons, decodeBytes_encodeChar, ih, List.flatMap_cons]

/-- A text is read where its bytes are found. -/
theorem decode?_of_decodeBytes {cs : List Char} {s : String}
    (bytes : decodeBytes cs = s.toList.flatMap String.utf8EncodeChar) : decode? cs = some s := by
  have whole : (⟨(decodeBytes cs).toArray⟩ : ByteArray) = s.toByteArray := by
    rw [bytes, ← String.utf8Encode_toList, List.utf8Encode]
    exact ByteArray.ext List.data_toByteArray.symm
  rw [decode?, whole, String.fromUTF8?, dif_pos s.isValidUTF8]
  rfl

/-- An encoded text is read back. -/
theorem decode?_encode (s : String) : decode? (encode s).toList = some s := by
  apply decode?_of_decodeBytes
  rw [encode, String.toList_ofList, decodeBytes_encodeChars]

/-- An equals sign in front of an encoded text is read as part of the text. -/
theorem decode?_equals_encode (s : String) :
    decode? ('=' :: (encode s).toList) = some ("=" ++ s) := by
  apply decode?_of_decodeBytes
  rw [encode, String.toList_ofList, decodeBytes, decodeBytes_encodeChars, String.toList_append]
  · rfl
  · exact fun _ _ _ percent _ => absurd percent (by decide)
  · decide

/-- Texts are told apart by their encoded forms. -/
theorem encode_injective : Function.Injective encode :=
  injective_of_read (fun t => decode? t.toList) decode?_encode

theorem encode_eq_empty_iff {s : String} : encode s = "" ↔ s = "" :=
  encode_injective.eq_iff' rfl

/-! ## Pairs -/

/-- The encoded form of one pair. -/
theorem toList_pair (p : String × String) :
    (encode p.1 ++ "=" ++ encode p.2).toList =
      ['='].intercalate [(encode p.1).toList, (encode p.2).toList] := by
  simp [List.intercalate_cons_cons, List.intercalate_singleton]

/-- A pair is told from any other by its encoded form. -/
theorem pair_inj {p q : String × String}
    (same : encode p.1 ++ "=" ++ encode p.2 = encode q.1 ++ "=" ++ encode q.2) : p = q := by
  have free (r : String × String) :
      ∀ piece ∈ [(encode r.1).toList, (encode r.2).toList], '=' ∉ piece := by
    intro piece mem
    simp only [List.mem_cons, List.not_mem_nil, or_false] at mem
    rcases mem with rfl | rfl
    all_goals exact notMem_encode (by decide) _
  have chars := congrArg String.toList same
  rw [toList_pair, toList_pair] at chars
  have pieces := intercalate_inj (by simp) (by simp) (free p) (free q) chars
  obtain ⟨name, value⟩ : (encode p.1).toList = (encode q.1).toList ∧
      (encode p.2).toList = (encode q.2).toList := by simpa using pieces
  exact Prod.ext (encode_injective (String.toList_inj.mp name))
    (encode_injective (String.toList_inj.mp value))

/-- A character that is not plain is in no encoded pair, the equals sign apart. -/
theorem notMem_pair {sep : Char} (special : isPlain sep = false) (other : sep ≠ '=')
    (p : String × String) : sep ∉ (encode p.1 ++ "=" ++ encode p.2).toList := by
  simp [notMem_encode special, other]

/-- The pairs of a query are its pieces between ampersands. -/
theorem toList_encodePairs (ps : List (String × String)) :
    (encodePairs ps).toList =
      ['&'].intercalate (ps.map fun p => (encode p.1 ++ "=" ++ encode p.2).toList) := by
  rw [encodePairs, String.toList_intercalate, List.map_map]
  rfl

/-- No pairs are told from some pairs by the equals signs. -/
theorem encodePairs_eq_empty_iff {ps : List (String × String)} : encodePairs ps = "" ↔ ps = [] := by
  constructor
  · intro empty
    cases ps with
    | nil => rfl
    | cons p ps =>
      have chars := congrArg String.toList empty
      rw [toList_encodePairs] at chars
      cases ps with
      | nil => simp at chars
      | cons q ps => simp [List.intercalate_cons_cons] at chars
  · rintro rfl
    rfl

/-- Pairs are told from any other pairs by their encoded form. -/
theorem encodePairs_inj {ps qs : List (String × String)}
    (same : encodePairs ps = encodePairs qs) : ps = qs := by
  by_cases empty : ps = []
  · subst empty
    exact (encodePairs_eq_empty_iff.mp same.symm).symm
  by_cases empty' : qs = []
  · subst empty'
    exact encodePairs_eq_empty_iff.mp same
  have free (rs : List (String × String)) :
      ∀ piece ∈ rs.map fun p => (encode p.1 ++ "=" ++ encode p.2).toList, '&' ∉ piece := by
    intro piece mem
    obtain ⟨p, -, rfl⟩ := List.mem_map.mp mem
    exact notMem_pair (by decide) (by decide) p
  have chars := congrArg String.toList same
  rw [toList_encodePairs, toList_encodePairs] at chars
  refine (List.map_inj_right ?_).mp
    (intercalate_inj (by simpa using empty) (by simpa using empty') (free ps) (free qs) chars)
  exact fun p q alike => pair_inj (String.toList_inj.mp alike)

/-- A character that is not plain is in no query, the signs around names and values apart. -/
theorem notMem_encodePairs {sep : Char} (special : isPlain sep = false) (equals : sep ≠ '=')
    (ampersand : sep ≠ '&') (ps : List (String × String)) : sep ∉ (encodePairs ps).toList := by
  rw [toList_encodePairs]
  apply notMem_intercalate ampersand
  intro piece mem
  obtain ⟨p, -, rfl⟩ := List.mem_map.mp mem
  exact notMem_pair special equals p

end FormEncoding

end MetricConsole.Text
