import MetricConsole.Navigation
import MetricConsole.Proofs.Api.QueryString

/-!
# Deep links

The address of the page may name a view among other parameters.  It shows the view whose word its
parameter says, and the dashboard for any other word; whatever the address is, it changes nothing
but the view.

* `ViewKey.ofWord_word`, `ViewKey.ofWord_eq_dashboard`: the view of a word.
* `QueryString.parameter?_of_mem`: the parameter with a name among others.
* `Navigation.readLocation_link`: navigation after the address was read.
-/

namespace MetricConsole

/-! ## Views and words -/

namespace ViewKey

theorem ofWord_word (view : ViewKey) : ofWord (word view) = view := by
  cases view <;> decide

theorem ofWord_eq_dashboard {w : String} (unknown : ∀ view : ViewKey, word view ≠ w) :
    ofWord w = .dashboard := by
  have missing : Vocabulary.ofWord? ViewKey w = none :=
    List.find?_eq_none.mpr fun view _ => by simpa using unknown view
  rw [ofWord, missing, Option.getD_none]

end ViewKey

/-! ## Parameters with names of letters -/

namespace QueryString

/-- Every character of the name is a letter. -/
def IsLettered (name : String) : Prop := ∀ c ∈ name.toList, c.isAlpha = true

instance (name : String) : Decidable (IsLettered name) :=
  decidable_of_iff (name.toList.all Char.isAlpha = true) List.all_eq_true

/-- A name that is read is the name that was written, or it starts with an equals sign. -/
theorem name_readBack (p : String × String) :
    (readBack p).1 = p.1 ∨ p.1 = "" ∧ '=' ∈ (readBack p).1.toList := by
  by_cases named : p.1 = ""
  · exact .inr ⟨named, by simp [readBack, named]⟩
  · exact .inl (congrArg Prod.fst (readBack_of_named named))

theorem IsLettered.notMem {name : String} (lettered : IsLettered name) : '=' ∉ name.toList :=
  fun mem => absurd (lettered '=' mem) (by decide)

/-- Names of letters are told apart by what is read. -/
theorem name_inj_of_isLettered {p q : String × String} (left : IsLettered p.1)
    (right : IsLettered q.1) (same : (readBack p).1 = (readBack q).1) : p.1 = q.1 := by
  -- the name that is read for an empty one has an equals sign, so it is not made of letters
  obtain kept | ⟨unnamed, equals⟩ := name_readBack p
  · obtain kept' | ⟨-, equals'⟩ := name_readBack q
    · rw [← kept, same, kept']
    · rw [← same, kept] at equals'
      exact absurd equals' left.notMem
  · obtain kept' | ⟨unnamed', -⟩ := name_readBack q
    · rw [same, kept'] at equals
      exact absurd equals right.notMem
    · rw [unnamed, unnamed']

/-- **Parameters are found.**  A parameter is found at any place among others, if their names are
letters and none comes twice. -/
theorem parameter?_of_mem (marks : Nat) {ps : List (String × String)} {name value : String}
    (distinct : (ps.map Prod.fst).Nodup) (lettered : ∀ p ∈ ps, IsLettered p.1) (named : name ≠ "")
    (mem : (name, value) ∈ ps) :
    parameter? (String.ofList (List.replicate marks '?') ++ Text.FormEncoding.encodePairs ps) name =
      some value := by
  have apart : ((ps.map readBack).map Prod.fst).Nodup := by
    rw [List.map_map]
    refine List.pairwise_map.mpr ((List.pairwise_map.mp distinct).imp_of_mem ?_)
    exact fun left right other same =>
      other (name_inj_of_isLettered (lettered _ left) (lettered _ right) same)
  have read : (name, value) ∈ ps.map readBack :=
    List.mem_map.mpr ⟨_, mem, readBack_of_named named⟩
  rw [parameter?_encodePairs, if_pos apart, List.lookup_eq_some_iff]
  obtain ⟨before, after, split⟩ := List.append_of_mem read
  refine ⟨before, after, split, fun p earlier => bne_iff_ne.mpr fun same => ?_⟩
  rw [split, List.map_append, List.nodup_append] at apart
  exact apart.2.2 _ (List.mem_map_of_mem earlier) name (by simp) same.symm

end QueryString

namespace Navigation

/-- **Deep links are read back.**  An address of encoded parameters, with any number of question
marks in front, whose names are letters and distinct, shows the view whose word the parameter for
the view says, or else the dashboard.  No address changes anything but the view. -/
theorem readLocation_link :
    (∀ (n : Navigation) (marks : Nat) (ps : List (String × String)) (s : String),
      (ps.map Prod.fst).Nodup → (∀ p ∈ ps, QueryString.IsLettered p.1) →
      ("view", s) ∈ ps →
      ∃ view, n.apply (.readLocation (String.ofList (List.replicate marks '?') ++
          Text.FormEncoding.encodePairs ps)) = { n with view := view } ∧
        (∀ known : ViewKey, word known = s → view = known) ∧
        ((∀ known : ViewKey, word known ≠ s) → view = .dashboard)) ∧
    ∀ (n : Navigation) (search : String), n.apply (.readLocation search) = n ∨
      ∃ w, n.apply (.readLocation search) = { n with view := ViewKey.ofWord w } := by
  constructor
  · intro n marks ps s distinct lettered mem
    have found := QueryString.parameter?_of_mem marks distinct lettered (by decide) mem
    refine ⟨ViewKey.ofWord s, ?_, ?_, ViewKey.ofWord_eq_dashboard⟩
    · rw [apply, linkedView?, found, Option.map_some, Option.getD_some]
    · rintro known rfl
      exact ViewKey.ofWord_word known
  · intro n search
    rw [apply, linkedView?]
    cases QueryString.parameter? search "view" with
    | none => exact .inl rfl
    | some w => exact .inr ⟨w, rfl⟩

theorem readLocation_link_metricList :
    apply ⟨.caliber, some 7, some 11, false⟩
        (.readLocation "??q=%C3%A9+%E2%82%AC%26%3D&view=metric-list&lang=%F0%9F%98%80%5B%3F") =
      ⟨.metricList, some 7, some 11, false⟩ := by
  let ps : List (String × String) := [("q", "é €&="), ("view", "metric-list"), ("lang", "😀[?")]
  have search : String.ofList (List.replicate 2 '?') ++ Text.FormEncoding.encodePairs ps =
      "??q=%C3%A9+%E2%82%AC%26%3D&view=metric-list&lang=%F0%9F%98%80%5B%3F" := by decide +kernel
  have lettered : ∀ p ∈ ps, QueryString.IsLettered p.1 := by
    intro p mem
    simp only [ps, List.mem_cons, List.not_mem_nil, or_false] at mem
    obtain rfl | rfl | rfl := mem
    all_goals decide
  obtain ⟨view, moved, known, -⟩ := readLocation_link.1 ⟨.caliber, some 7, some 11, false⟩ 2 ps
    "metric-list" (by decide) lettered (by decide)
  rw [← search, moved, known .metricList rfl]

end Navigation

end MetricConsole
