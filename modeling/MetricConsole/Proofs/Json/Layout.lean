import Mathlib.Data.List.Nodup
import MetricConsole.Catalog.Vocabulary
import MetricConsole.Json.Layout
import MetricConsole.Proofs.Date.Text
import MetricConsole.Proofs.Json.WellFormed

/-!
# Payloads read back

A codec is lawful if every value that it reads is read again from what it writes.  Lawful codecs are
closed under options, lists and records, so a payload of any depth is read back once the codecs of
its leaves are lawful.

An optional field is written as `null` if it is absent.  Reading it back needs that no value which
is there is written as `null` too, and this is the second law.

* `LawfulCodec`: the two laws; `TotalCodec`: the same for all values.
* `Layout.lawful`: a record is lawful if its fields are, its fields are what it was made of, and no
  two of them have one name.
* `Layout.member?_toJson`: the fields of a record are written under their names, and nothing else.
* `Layout.reads_of_ofJson?`: where the values of the fields come from.
-/

namespace MetricConsole

open Json

/-! ## Members by name -/

namespace Json

theorem lookup_insert (name n : String) (v : Json) (ms : List (String × Json)) :
    lookup name (insert n v ms) = if n = name then some v else lookup name ms := by
  induction ms with
  | nil => rfl
  | cons m ms ih =>
    unfold insert
    split
    · next same =>
      by_cases found : n = name
      · simp [lookup, found]
      · simp [lookup, found, same ▸ found]
    · next other =>
      split
      · rfl
      · by_cases here : m.1 = name
        · have : n ≠ name := fun same => other (here.trans same.symm)
          simp [lookup, here, this]
        · simp [lookup, here, ih]

theorem lookup_append (name : String) (ms ns : List (String × Json)) :
    lookup name (ms ++ ns) = (lookup name ms).or (lookup name ns) := by
  induction ms with
  | nil => simp [lookup]
  | cons m ms ih =>
    by_cases here : m.1 = name
    · simp [lookup, here]
    · simp [lookup, here, ih]

theorem lookup_eq_none {name : String} {ms : List (String × Json)}
    (other : name ∉ ms.map Prod.fst) : lookup name ms = none := by
  induction ms with
  | nil => rfl
  | cons m ms ih =>
    simp only [List.map_cons, List.mem_cons, not_or] at other
    simp [lookup, Ne.symm other.1, ih other.2]

/-- Members that have names of their own are found after sorting as before. -/
theorem lookup_sortMembers {ms : List (String × Json)} (distinct : (ms.map Prod.fst).Nodup)
    (name : String) : lookup name (sortMembers ms) = lookup name ms := by
  suffices after : ∀ sorted : List (String × Json),
      lookup name (ms.foldl (fun ms m => insert m.1 m.2 ms) sorted) =
        (lookup name ms).or (lookup name sorted) by
    rw [sortMembers, after]
    simp [lookup]
  induction ms with
  | nil => simp [lookup]
  | cons m ms ih =>
    intro sorted
    simp only [List.map_cons, List.nodup_cons] at distinct
    rw [List.foldl_cons, ih distinct.2, lookup_insert]
    by_cases here : m.1 = name
    · simp [lookup, here, lookup_eq_none (here ▸ distinct.1)]
    · simp [lookup, here]

end Json

/-- What a record is read from, as one value. -/
def Json.Source.json : Source → Json
  | .members ms => .obj ms
  | .items js => .arr js

theorem Json.mem_of_lookup {name : String} {ms : List (String × Json)} {j : Json}
    (found : lookup name ms = some j) : (name, j) ∈ ms := by
  induction ms with
  | nil => cases found
  | cons m ms ih =>
    unfold lookup at found
    split at found
    · next same => cases found; exact same ▸ List.mem_cons_self
    · exact List.mem_cons_of_mem m (ih found)

/-- The value of a field is a part of the payload. -/
theorem Json.Source.part_of_get? (source : Source) {position : Nat} {name : String} {j : Json}
    (found : source.get? position name = some j) : Part source.json j := by
  cases source with
  | members ms => exact .member .self (mem_of_lookup found)
  | items js => exact .item .self (List.mem_of_getElem? found)

/-! ## Lawful codecs -/

/-- The value is read from what is written for it. -/
def Codec.Keeps {α : Type} (codec : Codec α) (a : α) : Prop :=
  codec.decode? (codec.encode a) = some a

/-- A codec that reads back what it writes for the values that it has read; only `null` is read as a
value that is written as `null`. -/
class LawfulCodec (α : Type) [codec : Codec α] : Prop where
  keeps : ∀ {j : Json} {a : α}, decode? j = some a → codec.Keeps a
  encode_ne_null : ∀ {j : Json} {a : α}, decode? j = some a → j ≠ .null → encode a ≠ .null

instance : LawfulCodec Json where
  keeps _ := rfl
  encode_ne_null read present := by
    cases read
    exact present

/-- A codec that reads back every value, none of which is written as `null`. -/
class TotalCodec (α : Type) [codec : Codec α] : Prop where
  keeps (a : α) : codec.Keeps a
  encode_ne_null (a : α) : encode a ≠ .null

attribute [simp] TotalCodec.keeps TotalCodec.encode_ne_null

instance {α : Type} [Codec α] [TotalCodec α] : LawfulCodec α where
  keeps {_ a} _ := TotalCodec.keeps a
  encode_ne_null {_ a} _ _ := TotalCodec.encode_ne_null a

instance : TotalCodec Bool where
  keeps _ := rfl
  encode_ne_null _ := nofun

instance : TotalCodec String where
  keeps _ := rfl
  encode_ne_null _ := nofun

instance : TotalCodec Int64 where
  keeps n := Word.int64?_toInt n
  encode_ne_null _ := nofun

instance : TotalCodec Int32 where
  keeps n := Word.int32?_toInt n
  encode_ne_null _ := nofun

instance : TotalCodec Date where
  keeps d := d.ofPayload?_text
  encode_ne_null _ := nofun

/-- What is read item by item has what each item has. -/
theorem forall_mem_of_mapM {α β : Type} {P : α → Prop} {f : β → Option α}
    (each : ∀ y x, f y = some x → P x) {ys : List β} {xs : List α} (all : ys.mapM f = some xs) :
    ∀ x ∈ xs, P x := by
  induction ys generalizing xs with
  | nil => simp_all
  | cons y ys ih =>
    simp only [List.mapM_cons, Option.bind_eq_bind, Option.bind_eq_some_iff, Option.pure_def,
      Option.some.injEq] at all
    obtain ⟨x, first, xs, later, rfl⟩ := all
    exact List.forall_mem_cons.mpr ⟨each y x first, ih later⟩

section Containers

variable {α : Type} [codec : Codec α]

/-- What is not `null` is read as a value that is there. -/
theorem decode?_option {j : Json} (present : j ≠ .null) :
    (decode? j : Option (Option α)) = (decode? j : Option α).map some := by
  cases j with
  | null => exact absurd rfl present
  | _ => rfl

/-- A value that is there is read back as one if it is not written as `null`. -/
theorem Codec.keeps_option {o : Option α} (there : ∀ a ∈ o, codec.Keeps a ∧ encode a ≠ .null) :
    (inferInstance : Codec (Option α)).Keeps o := by
  cases o with
  | none => rfl
  | some a =>
    obtain ⟨kept, present⟩ := there a rfl
    have kept : (decode? (encode a) : Option α) = some a := kept
    change (decode? (encode a) : Option (Option α)) = some (some a)
    rw [decode?_option present, kept]
    rfl

@[simp]
theorem TotalCodec.keeps_option [TotalCodec α] (o : Option α) :
    (inferInstance : Codec (Option α)).Keeps o :=
  Codec.keeps_option fun a _ => ⟨keeps a, encode_ne_null a⟩

instance [LawfulCodec α] : LawfulCodec (Option α) where
  keeps {j o} read := by
    refine Codec.keeps_option ?_
    rintro a rfl
    have present : j ≠ .null := by
      rintro rfl
      cases read
    rw [decode?_option present, Option.map_eq_some_iff] at read
    obtain ⟨b, read, ⟨⟩⟩ := read
    exact ⟨LawfulCodec.keeps read, LawfulCodec.encode_ne_null read present⟩
  encode_ne_null {j o} read present := by
    rw [decode?_option present, Option.map_eq_some_iff] at read
    obtain ⟨a, read, rfl⟩ := read
    change encode a ≠ .null
    exact LawfulCodec.encode_ne_null read present

/-- Items that are read back one by one are read back as a list. -/
theorem Codec.keeps_list {xs : List α} (items : ∀ x ∈ xs, codec.Keeps x) :
    (inferInstance : Codec (List α)).Keeps xs := by
  change (xs.map encode).mapM decode? = some xs
  induction xs with
  | nil => rfl
  | cons x xs ih =>
    obtain ⟨first, later⟩ := List.forall_mem_cons.mp items
    have first : (decode? (encode x) : Option α) = some x := first
    simp [first, ih later]

instance [TotalCodec α] : TotalCodec (List α) where
  keeps _ := Codec.keeps_list fun x _ => TotalCodec.keeps x
  encode_ne_null _ := nofun

instance [LawfulCodec α] : LawfulCodec (List α) where
  keeps {j xs} read := by
    cases j with
    | arr js => exact Codec.keeps_list (forall_mem_of_mapM (fun _ _ => LawfulCodec.keeps) read)
    | _ => cases read
  encode_ne_null _ _ := nofun

end Containers

/-- The words of a vocabulary are read back if they differ. -/
theorem Vocabulary.lawful (α : Type) [Vocabulary α]
    (known : ∀ a : α, ofWord? α (word a) = some a) : @LawfulCodec α (codec α) :=
  letI := codec α
  { keeps := fun {_ a} _ => known a
    encode_ne_null := fun _ _ => nofun }

/-! ## Records -/

namespace Layout

variable {ρ α β : Type}

/-- The values of the fields, the last one first. -/
def Args {β : Type} : Layout ρ β → Type
  | .make _ => Unit
  | @field _ α _ _ _ before _ _ => before.Args × α
  | @option _ α _ _ before _ _ => before.Args × Option α

/-- What is made of the values of the fields. -/
def apply {β : Type} : (l : Layout ρ β) → l.Args → β
  | .make b, _ => b
  | .field _ _ before _ _, args => before.apply args.1 args.2
  | .option _ before _ _, args => before.apply args.1 args.2

/-- The values of the fields of a record. -/
def fields {β : Type} (r : ρ) : (l : Layout ρ β) → l.Args
  | .make _ => ()
  | .field _ _ before _ get => (before.fields r, get r)
  | .option _ before _ get => (before.fields r, get r)

/-- The value of a field, from what is found under its name. -/
def fieldValue? (codec : Codec α) (absent : Option α) : Option Json → Option α
  | some j => codec.decode? j
  | none => absent

/-- The value of an optional field, from what is found under its name. -/
def optionValue? (codec : Codec α) : Source → Option Json → Option (Option α)
  | _, some .null => some none
  | _, some j => (codec.decode? j).map some
  | .members _, none => some none
  | .items _, none => none

/-- Reads the fields. -/
def readArgs {β : Type} (source : Source) : (l : Layout ρ β) → Option l.Args
  | .make _ => some ()
  | .field codec absent before name _ =>
    (before.readArgs source).bind fun args =>
      (fieldValue? codec absent (source.get? before.size name)).map fun a => (args, a)
  | .option codec before name _ =>
    (before.readArgs source).bind fun args =>
      (optionValue? codec source (source.get? before.size name)).map fun a => (args, a)

/-- Each value is read from what is written for it. -/
def Keeps {β : Type} : (l : Layout ρ β) → l.Args → Prop
  | .make _, _ => True
  | .field codec _ before _ _, args => before.Keeps args.1 ∧ codec.Keeps args.2
  | .option codec before _ _, args =>
    before.Keeps args.1 ∧ ∀ a ∈ args.2, codec.Keeps a ∧ codec.encode a ≠ .null

/-- The value of an optional field that is there was read from what is not `null`. -/
theorem optionValue?_eq_some {codec : Codec α} {source : Source} {found : Option Json} {a : α}
    (value : optionValue? codec source found = some (some a)) :
    ∃ j, j ≠ .null ∧ codec.decode? j = some a := by
  unfold optionValue? at value
  split at value
  · cases value
  · next j present =>
    obtain ⟨a, read, same⟩ := Option.map_eq_some_iff.mp value
    cases same
    exact ⟨j, present, read⟩
  · cases value
  · cases value

theorem optionValue?_of_ne_null (codec : Codec α) (source : Source) {j : Json}
    (present : j ≠ .null) : optionValue? codec source (some j) = (codec.decode? j).map some := by
  cases j with
  | null => exact absurd rfl present
  | _ => rfl

/-- What is read is what the values of the fields make. -/
theorem read_eq (source : Source) (l : Layout ρ β) :
    l.read source = (l.readArgs source).map l.apply := by
  induction l with
  | make b => rfl
  | field codec absent before name get ih =>
    simp only [read, readArgs, ih, Option.bind_eq_bind]
    cases before.readArgs source with
    | none => rfl
    | some args =>
      cases source.get? before.size name with
      | none => cases absent <;> rfl
      | some j =>
        change Option.bind (codec.decode? j) _ = Option.map _ (Option.map _ (codec.decode? j))
        generalize codec.decode? j = value
        cases value <;> rfl
  | option codec before name get ih =>
    simp only [read, readArgs, ih, Option.bind_eq_bind]
    cases before.readArgs source with
    | none => rfl
    | some args =>
      cases source.get? before.size name with
      | none => cases source <;> rfl
      | some j =>
        cases j with
        | null => rfl
        | _ =>
          change Option.bind (codec.decode? _) _ =
            Option.map _ (Option.map _ (Option.map some (codec.decode? _)))
          generalize codec.decode? _ = value
          cases value <;> rfl

/-- Every field reads back the values that it reads or takes when it is absent. -/
class LawfulFields (l : Layout ρ β) : Prop where
  keeps : ∀ {source : Source} {args : l.Args}, l.readArgs source = some args → l.Keeps args

instance (b : β) : LawfulFields (Layout.make b : Layout ρ β) where
  keeps _ := trivial

/-- A field of a lawful codec whose default is read back. -/
theorem LawfulFields.field [codec : Codec α] [LawfulCodec α] {absent : Option α}
    (kept : ∀ a ∈ absent, codec.Keeps a) (before : Layout ρ (α → β)) [LawfulFields before]
    (name : String) (get : ρ → α) : LawfulFields (.field codec absent before name get) where
  keeps {source args} read := by
    obtain ⟨args, earlier, read⟩ := Option.bind_eq_some_iff.mp read
    obtain ⟨a, value, rfl⟩ := Option.map_eq_some_iff.mp read
    refine ⟨keeps earlier, ?_⟩
    cases found : source.get? before.size name with
    | none =>
      rw [found] at value
      exact kept a value
    | some j =>
      rw [found] at value
      exact LawfulCodec.keeps value

instance [Codec α] [LawfulCodec α] (before : Layout ρ (α → β)) [LawfulFields before]
    (name : String) (get : ρ → α) : LawfulFields (before.required name get) :=
  LawfulFields.field nofun before name get

instance [Codec α] [LawfulCodec α] (before : Layout ρ (Option α → β)) [LawfulFields before]
    (name : String) (get : ρ → Option α) : LawfulFields (before.defaulted name get none) :=
  LawfulFields.field (by rintro _ ⟨⟩; rfl) before name get

instance [Codec α] [LawfulCodec α] (before : Layout ρ (List α → β)) [LawfulFields before]
    (name : String) (get : ρ → List α) : LawfulFields (before.defaulted name get []) :=
  LawfulFields.field (by rintro _ ⟨⟩; rfl) before name get

/-- An optional field of a lawful codec; its value is there only if it was not read from `null`. -/
instance [codec : Codec α] [LawfulCodec α] (before : Layout ρ (Option α → β))
    [LawfulFields before] (name : String) (get : ρ → Option α) :
    LawfulFields (before.optional name get) where
  keeps {source args} read := by
    obtain ⟨args, earlier, read⟩ := Option.bind_eq_some_iff.mp read
    obtain ⟨o, value, rfl⟩ := Option.map_eq_some_iff.mp read
    refine ⟨LawfulFields.keeps earlier, ?_⟩
    rintro a rfl
    obtain ⟨j, present, read⟩ : ∃ j, j ≠ .null ∧ codec.decode? j = some a :=
      optionValue?_eq_some value
    exact ⟨LawfulCodec.keeps read, LawfulCodec.encode_ne_null read present⟩

/-- The members of a record have the names of its fields. -/
theorem write_sublist (r : ρ) (l : Layout ρ β) :
    List.Sublist ((l.write r).map Prod.fst) l.names := by
  induction l with
  | make b => exact .slnil
  | field codec absent before name get ih =>
    simpa [write, names] using ih
  | option codec before name get ih =>
    unfold write names
    cases get r with
    | none => exact ih.trans (List.sublist_append_left _ _)
    | some a => simpa using ih

/-- A field of a new name is found behind the fields before it, and hides none of them. -/
theorem lookup_write_append {r : ρ} {l : Layout ρ β} {name : String} (unused : name ∉ l.names)
    (last : List (String × Json)) (named : ∀ m ∈ last, m.1 = name) :
    lookup name (l.write r ++ last) = lookup name last ∧
      ∀ n ∈ l.names, lookup n (l.write r ++ last) = lookup n (l.write r) := by
  constructor
  · have earlier : lookup name (l.write r) = none :=
      lookup_eq_none fun mem => unused ((l.write_sublist r).mem mem)
    rw [lookup_append, earlier, Option.none_or]
  · intro n mem
    have later : lookup n last = none := by
      apply lookup_eq_none
      simp only [List.mem_map, not_exists, not_and]
      intro m inLast same
      exact unused (by rw [← named m inLast, same]; exact mem)
    rw [lookup_append, later, Option.or_none]

theorem write_option (r : ρ) (codec : Codec α) (before : Layout ρ (Option α → β)) (name : String)
    (get : ρ → Option α) :
    (Layout.option codec before name get).write r =
      before.write r ++ ((get r).map fun a => (name, codec.encode a)).toList := by
  rw [write]
  cases get r <;> simp

/-- What is written under a name. -/
def sent {β : Type} (r : ρ) (name : String) : Layout ρ β → Option Json
  | .make _ => none
  | .field codec _ before n get =>
    (before.sent r name).or (if n = name then some (codec.encode (get r)) else none)
  | .option codec before n get =>
    (before.sent r name).or (if n = name then (get r).map codec.encode else none)

theorem lookup_write (r : ρ) (l : Layout ρ β) (name : String) :
    lookup name (l.write r) = l.sent r name := by
  induction l with
  | make b => rfl
  | field codec absent before n get ih => rw [write, lookup_append, ih, sent, lookup, lookup]
  | option codec before n get ih =>
    rw [write_option, lookup_append, ih, sent]
    cases get r <;> simp [lookup]

/-- The fields are read back from any members among which each of them is found as it was
written. -/
theorem readArgs_members {r : ρ} {ms : List (String × Json)} (l : Layout ρ β)
    (distinct : l.names.Nodup) (kept : l.Keeps (l.fields r))
    (found : ∀ name ∈ l.names, lookup name ms = lookup name (l.write r)) :
    l.readArgs (.members ms) = some (l.fields r) := by
  induction l with
  | make b => rfl
  | field codec absent before name get ih =>
    obtain ⟨earlier, -, apart⟩ := List.nodup_append.mp distinct
    have unused : name ∉ before.names := fun mem => apart name mem name (by simp) rfl
    obtain ⟨here, others⟩ := lookup_write_append (r := r) unused
      [(name, codec.encode (get r))] (by simp)
    have value : lookup name ms = some (codec.encode (get r)) := by
      rw [found name (by simp [names]), write, here]
      simp [lookup]
    have read := ih earlier kept.1 fun n mem =>
      (found n (by simp [names, mem])).trans (others n mem)
    have keeps : codec.decode? (codec.encode (get r)) = some (get r) := kept.2
    simp only [readArgs, read, Source.get?, value, fieldValue?, keeps, Option.bind_some]
    rfl
  | option codec before name get ih =>
    obtain ⟨earlier, -, apart⟩ := List.nodup_append.mp distinct
    have unused : name ∉ before.names := fun mem => apart name mem name (by simp) rfl
    obtain ⟨here, others⟩ := lookup_write_append (r := r) unused
      ((get r).map fun a => (name, codec.encode a)).toList (by simp)
    have value : lookup name ms = (get r).map codec.encode := by
      rw [found name (by simp [names]), write_option, here]
      cases get r <;> simp [lookup]
    have read := ih earlier kept.1 fun n mem => by
      rw [found n (by simp [names, mem]), write_option, others n mem]
    have read? : optionValue? codec (.members ms) (lookup name ms) = some (get r) := by
      rw [value]
      cases there : get r with
      | none => rfl
      | some a =>
        obtain ⟨keeps, present⟩ := kept.2 a there
        have keeps : codec.decode? (codec.encode a) = some a := keeps
        rw [Option.map_some, optionValue?_of_ne_null codec _ present, keeps, Option.map_some]
    simp only [readArgs, read, Source.get?, read?, Option.bind_some]
    rfl

/-- A record is read back if the values of its fields are, the record is made of them, and no two
fields have one name. -/
theorem keeps_codec {l : Layout ρ ρ} {r : ρ} (apply_fields : l.apply (l.fields r) = r)
    (distinct : l.names.Nodup) (kept : l.Keeps (l.fields r)) : l.codec.Keeps r := by
  change l.read (.members (sortMembers (l.write r))) = some r
  rw [read_eq, readArgs_members l distinct kept fun name _ =>
    lookup_sortMembers (distinct.sublist (l.write_sublist _)) name, Option.map_some, apply_fields]

/-- The codec of a record is lawful if those of its fields are, the record has the fields of which
it was made, and no two fields have one name.  For a given layout all but the first are seen by
computing, so that only the codecs of the fields are looked for. -/
theorem lawful (l : Layout ρ ρ) [LawfulFields l]
    (apply_fields : ∀ r, l.apply (l.fields r) = r := by exact fun _ => rfl)
    (fields_apply : ∀ args, l.fields (l.apply args) = args := by exact fun _ => rfl)
    (distinct : l.names.Nodup := by decide) : @LawfulCodec ρ l.codec := by
  let := l.codec
  have keeps : ∀ {source : Source} {r : ρ}, l.read source = some r → l.codec.Keeps r := by
    intro source r read
    rw [read_eq] at read
    obtain ⟨args, values, rfl⟩ := Option.map_eq_some_iff.mp read
    refine keeps_codec (apply_fields _) distinct ?_
    rw [fields_apply]
    exact LawfulFields.keeps values
  refine ⟨fun {j r} read => ?_, fun _ _ => nofun⟩
  cases j with
  | obj ms => exact keeps read
  | arr js =>
    change (if js.length ≤ l.size then l.read (.items js) else none) = some r at read
    split at read
    · exact keeps read
    · cases read
  | _ => cases read

/-- The members of a record are what is written under their names. -/
theorem member?_toJson {l : Layout ρ ρ} (distinct : l.names.Nodup) (r : ρ) (name : String) :
    (l.toJson r).member? name = l.sent r name := by
  change lookup name (sortMembers (l.write r)) = _
  rw [lookup_sortMembers (distinct.sublist (l.write_sublist r)), lookup_write]

/-- A member that is no field of a record is not written. -/
theorem member?_toJson_eq_none {l : Layout ρ ρ} (distinct : l.names.Nodup) {name : String}
    (unknown : name ∉ l.names) (r : ρ) : (l.toJson r).member? name = none := by
  rw [member?_toJson distinct, ← lookup_write]
  exact lookup_eq_none fun mem => unknown ((l.write_sublist r).mem mem)

/-! ## Where values come from -/

/-- Each value is what its field reads. -/
def Reads {β : Type} (source : Source) : (l : Layout ρ β) → l.Args → Prop
  | .make _, _ => True
  | .field codec absent before name _, args =>
    before.Reads source args.1 ∧
      fieldValue? codec absent (source.get? before.size name) = some args.2
  | .option codec before name _, args =>
    before.Reads source args.1 ∧
      optionValue? codec source (source.get? before.size name) = some args.2

theorem reads_of_readArgs {source : Source} {l : Layout ρ β} {args : l.Args}
    (read : l.readArgs source = some args) : l.Reads source args := by
  induction l with
  | make b => trivial
  | field codec absent before name get ih =>
    obtain ⟨earlier, first, read⟩ := Option.bind_eq_some_iff.mp read
    obtain ⟨a, value, rfl⟩ := Option.map_eq_some_iff.mp read
    exact ⟨ih first, value⟩
  | option codec before name get ih =>
    obtain ⟨earlier, first, read⟩ := Option.bind_eq_some_iff.mp read
    obtain ⟨o, value, rfl⟩ := Option.map_eq_some_iff.mp read
    exact ⟨ih first, value⟩

/-- A record is made of what its fields read from a payload. -/
theorem reads_of_ofJson? {l : Layout ρ ρ} {j : Json} {r : ρ} (read : l.ofJson? j = some r) :
    ∃ source : Source, source.json = j ∧ ∃ args, l.Reads source args ∧ l.apply args = r := by
  have made : ∀ source : Source, l.read source = some r →
      ∃ args, l.Reads source args ∧ l.apply args = r := by
    intro source read
    rw [read_eq] at read
    obtain ⟨args, values, made⟩ := Option.map_eq_some_iff.mp read
    exact ⟨args, reads_of_readArgs values, made⟩
  cases j with
  | obj ms => exact ⟨.members ms, rfl, made _ read⟩
  | arr js =>
    change (if js.length ≤ l.size then l.read (.items js) else none) = some r at read
    split at read
    · exact ⟨.items js, rfl, made _ read⟩
    · cases read
  | _ => cases read

/-- A JSON value in a field is a part of the payload. -/
theorem part_of_fieldValue? {source : Source} {position : Nat} {name : String} {j : Json}
    (read : fieldValue? (inferInstance : Codec (Option Json)) (some none)
      (source.get? position name) = some (some j)) : Part source.json j := by
  cases found : source.get? position name with
  | none =>
    rw [found] at read
    cases read
  | some k =>
    rw [found] at read
    have same : k = j := by
      cases k with
      | null => cases read
      | _ => exact Option.some.inj (Option.some.inj read)
    exact same ▸ source.part_of_get? found

end Layout

end MetricConsole
