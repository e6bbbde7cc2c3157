import DocCheck.Proofs.Dependence
import DocCheck.Proofs.RecordHistory
import Mathlib.Data.List.Dedup

/-!
# Construction of instances

A constructor pairs the parameters of its class with the arguments by their
places, whatever their numbers are.  Where a parameter stands at several
places the last one counts, even when no argument stands there.  A directive
that gives a case has an argument for every parameter, so where the
parameters are distinct nothing is lost and nothing is left undefined.
-/

namespace DocCheck

/-! ## Last places -/

/-- A name stands at a place of a list and nowhere behind it. -/
structure IsLastPlace (names : List String) (name : String)
    (place : Nat) : Prop where
  here : names[place]? = some name
  notBehind : ∀ later, place < later → names[later]? ≠ some name

section LastPlaces

variable {names : List String} {name : String} {place : Nat}

theorem getElem?_concat_eq_some_iff {last : String} :
    (names ++ [last])[place]? = some name ↔
      names[place]? = some name ∨ place = names.length ∧ last = name := by
  rcases Nat.lt_trichotomy place names.length with inside | rfl | beyond
  · rw [List.getElem?_append_left inside]
    simp [Nat.ne_of_lt inside]
  · simp
  · rw [List.getElem?_eq_none (by simpa [Nat.add_one_le_iff] using beyond),
      List.getElem?_eq_none (Nat.le_of_lt beyond)]
    simp [Nat.ne_of_gt beyond]

theorem isLastPlace_concat_iff {last : String} :
    IsLastPlace (names ++ [last]) name place ↔
      last = name ∧ place = names.length ∨
        last ≠ name ∧ IsLastPlace names name place := by
  constructor
  · rintro ⟨here, notBehind⟩
    simp only [ne_eq, getElem?_concat_eq_some_iff, not_or,
      not_and] at notBehind
    rcases getElem?_concat_eq_some_iff.mp here with inside | ⟨atEnd, same⟩
    · have before := (List.getElem?_eq_some_iff.mp inside).1
      exact .inr ⟨(notBehind _ before).2 rfl, inside,
        fun later behind => (notBehind later behind).1⟩
    · exact .inl ⟨same, atEnd⟩
  · rintro (⟨same, rfl⟩ | ⟨different, here, notBehind⟩)
    · refine ⟨getElem?_concat_eq_some_iff.mpr (.inr ⟨rfl, same⟩), ?_⟩
      intro later behind found
      have inside := (List.getElem?_eq_some_iff.mp found).1
      rw [List.length_append, List.length_singleton] at inside
      omega
    · refine ⟨getElem?_concat_eq_some_iff.mpr (.inl here), ?_⟩
      intro later behind found
      rcases getElem?_concat_eq_some_iff.mp found with inside | ⟨-, same⟩
      · exact notBehind later behind inside
      · exact different same

theorem exists_isLastPlace (member : name ∈ names) :
    ∃ place, IsLastPlace names name place := by
  induction names using List.reverseRecOn with
  | nil => cases member
  | append_singleton names last inductionHypothesis =>
      by_cases same : last = name
      · exact ⟨names.length, isLastPlace_concat_iff.mpr (.inl ⟨same, rfl⟩)⟩
      · have before : name ∈ names := by
          simpa [Ne.symm same] using member
        obtain ⟨place, isLast⟩ := inductionHypothesis before
        exact ⟨place, isLastPlace_concat_iff.mpr (.inr ⟨same, isLast⟩)⟩

/-- Where every name stands once, its only place is the last one. -/
theorem isLastPlace_of_nodup (distinct : names.Nodup)
    (here : names[place]? = some name) : IsLastPlace names name place := by
  refine ⟨here, fun later behind found => ?_⟩
  have inside := (List.getElem?_eq_some_iff.mp here).1
  have same : place = later :=
    (List.getElem?_inj inside distinct).mp (here.trans found.symm)
  omega

/-- When every name writes what is at its place, the last place counts. -/
theorem IsLastPlace.lastWritten? {α : Type} (itemAt : Nat → α)
    (isLast : IsLastPlace names name place) :
    lastWritten? name (names.zipIdx.map fun given =>
      (given.1, itemAt given.2)) = some (itemAt place) := by
  -- From the end, where the last writer stands.
  induction names using List.reverseRecOn with
  | nil => cases isLast.here
  | append_singleton names last inductionHypothesis =>
      rw [List.zipIdx_append, List.map_append, List.zipIdx_singleton,
        List.map_singleton, lastWritten?_concat]
      rcases isLastPlace_concat_iff.mp isLast with
        ⟨same, rfl⟩ | ⟨different, before⟩
      · rw [if_pos same, Nat.zero_add]
      · rw [if_neg different, inductionHypothesis before]

end LastPlaces

namespace ClassShape

/-! ## Fields of an instance -/

/-- The fields of an instance: each parameter once, with the argument at its
last place, or undefined when there is no argument at this place. -/
structure Keeps (shape : ClassShape) (arguments : List Value)
    (fields : Table Value) : Prop where
  keys : fields.keys.Perm shape.parameters.dedup
  given :
    ∀ parameter place argument,
      IsLastPlace shape.parameters parameter place →
      arguments[place]? = some argument →
      fields.get? parameter = some argument
  missing :
    ∀ parameter place,
      IsLastPlace shape.parameters parameter place →
      arguments.length ≤ place →
      fields.get? parameter = some .undefined

/-- What the constructor writes to the fields, from the first parameter to
the last. -/
def writes (shape : ClassShape) (arguments : List Value) :
    List (String × Value) :=
  shape.parameters.zipIdx.map fun place =>
    (place.1, arguments[place.2]?.getD .undefined)

variable {shape : ClassShape} {arguments : List Value}

theorem instantiate_eq (shape : ClassShape) (arguments : List Value) :
    shape.instantiate arguments =
      .instanceOf shape.name (Table.ofList (shape.writes arguments)) :=
  rfl

theorem map_fst_writes (shape : ClassShape) (arguments : List Value) :
    (shape.writes arguments).map Prod.fst = shape.parameters := by
  simp [writes, Function.comp_def]

theorem get?_ofList_writes {parameter : String} {place : Nat}
    (isLast : IsLastPlace shape.parameters parameter place) :
    (Table.ofList (shape.writes arguments)).get? parameter =
      some (arguments[place]?.getD .undefined) := by
  rw [Table.get?_ofList]
  exact isLast.lastWritten? fun place => arguments[place]?.getD .undefined

theorem keeps_ofList_writes (shape : ClassShape) (arguments : List Value) :
    shape.Keeps arguments (Table.ofList (shape.writes arguments)) where
  keys := by
    rw [List.perm_ext_iff_of_nodup (Table.nodup_keys _)
      (List.nodup_dedup _)]
    intro name
    rw [Table.mem_keys_ofList, map_fst_writes, List.mem_dedup]
  given parameter place argument isLast found := by
    rw [get?_ofList_writes isLast, found, Option.getD_some]
  missing parameter place isLast beyond := by
    rw [get?_ofList_writes isLast, List.getElem?_eq_none beyond,
      Option.getD_none]

theorem Keeps.isSome_get?_iff {fields : Table Value}
    (keeps : shape.Keeps arguments fields) {name : String} :
    (fields.get? name).isSome ↔ name ∈ shape.parameters :=
  Table.isSome_get?.trans (keeps.keys.mem_iff.trans List.mem_dedup)

/-- The arguments settle the fields. -/
theorem Keeps.unique {fields other : Table Value}
    (keeps : shape.Keeps arguments fields)
    (otherKeeps : shape.Keeps arguments other) : fields = other := by
  apply Table.ext_get?
  intro name
  -- A parameter has a last place, with or without an argument there, and any
  -- other name has no field.
  by_cases isParameter : name ∈ shape.parameters
  · obtain ⟨place, isLast⟩ := exists_isLastPlace isParameter
    rcases Nat.lt_or_ge place arguments.length with inside | beyond
    · have found := List.getElem?_eq_getElem inside
      rw [keeps.given name place _ isLast found,
        otherKeeps.given name place _ isLast found]
    · rw [keeps.missing name place isLast beyond,
        otherKeeps.missing name place isLast beyond]
  · have absent := mt keeps.isSome_get?_iff.mp isParameter
    have otherAbsent := mt otherKeeps.isSome_get?_iff.mp isParameter
    rw [Option.not_isSome_iff_eq_none.mp absent,
      Option.not_isSome_iff_eq_none.mp otherAbsent]

theorem instantiate_eq_iff {value : Value} :
    shape.instantiate arguments = value ↔
      ∃ fields, shape.Keeps arguments fields ∧
        value = .instanceOf shape.name fields := by
  have kept := shape.keeps_ofList_writes arguments
  constructor
  · rintro rfl
    exact ⟨_, kept, rfl⟩
  · rintro ⟨fields, keeps, rfl⟩
    rw [instantiate_eq, kept.unique keeps]

/-- Arguments behind the last parameter are not written. -/
theorem writes_take (shape : ClassShape) (arguments : List Value) :
    shape.writes (arguments.take shape.arity) = shape.writes arguments := by
  apply List.map_congr_left
  rintro ⟨parameter, place⟩ member
  have inside : place < shape.arity := List.snd_lt_of_mem_zipIdx member
  rw [List.getElem?_take_of_lt inside]

/-! ## One argument for each parameter -/

/-- With an argument for every parameter no field is left without one. -/
theorem Keeps.exists_place {fields : Table Value}
    (keeps : shape.Keeps arguments fields)
    (sameLength : arguments.length = shape.arity) {parameter : String}
    {value : Value} (found : fields.get? parameter = some value) :
    ∃ place : Nat, shape.parameters[place]? = some parameter ∧
      arguments[place]? = some value := by
  have isParameter : parameter ∈ shape.parameters :=
    keeps.isSome_get?_iff.mp (Option.isSome_of_eq_some found)
  obtain ⟨place, isLast⟩ := exists_isLastPlace isParameter
  have inside : place < arguments.length := by
    rw [sameLength]
    exact (List.getElem?_eq_some_iff.mp isLast.here).1
  have standing := List.getElem?_eq_getElem inside
  have kept := keeps.given parameter place _ isLast standing
  rw [kept] at found
  exact ⟨place, isLast.here, standing.trans found⟩

/-- With distinct parameters besides, every argument is kept, and under its
own parameter. -/
theorem Keeps.get?_eq_some_iff {fields : Table Value}
    (keeps : shape.Keeps arguments fields)
    (sameLength : arguments.length = shape.arity)
    (distinct : shape.parameters.Nodup) {parameter : String}
    {value : Value} :
    fields.get? parameter = some value ↔
      ∃ place : Nat, shape.parameters[place]? = some parameter ∧
        arguments[place]? = some value := by
  constructor
  · exact keeps.exists_place sameLength
  · rintro ⟨place, here, standing⟩
    exact keeps.given parameter place value
      (isLastPlace_of_nodup distinct here) standing

end ClassShape

/-- A constructor gives an instance of its class whatever the numbers of
parameters and arguments are: every parameter keeps the argument at its last
place, and arguments behind the last parameter have no influence.  A case of
a class with distinct parameters has an argument for each of them, and it
constructs an instance whose fields are just the resolved arguments, each
under its own parameter; so only an undefined argument leaves a field
undefined. -/
theorem constructor_pairs_parameters_with_arguments :
    (∀ (shape : ClassShape) (arguments : List Value) (value : Value),
      shape.instantiate arguments = value ↔
        ∃ fields, shape.Keeps arguments fields ∧
          value = .instanceOf shape.name fields) ∧
    (∀ (shape : ClassShape) (arguments others : List Value),
      arguments.take shape.arity = others.take shape.arity →
      shape.instantiate arguments = shape.instantiate others) ∧
    ∀ (shape : ClassShape) (name comment : String) (resolver : Resolver)
      (documentation : Documentation) (directive : Directive)
      (assertion : Assertion) (case : Case),
      shape.parameters.Nodup →
      Case.build resolver ⟨name, comment, shape.arity, shape.target⟩
        documentation directive assertion = .ok case →
      assertion.Resolved resolver documentation case.arguments
        case.expected ∧
      case.arguments.length = shape.arity ∧
      ∃ fields : Table Value,
        case.run.actual = .ok (.instanceOf shape.name fields) ∧
        fields.keys.Perm shape.parameters ∧
        ∀ parameter value, fields.get? parameter = some value ↔
          ∃ place : Nat, shape.parameters[place]? = some parameter ∧
            case.arguments[place]? = some value := by
  refine ⟨fun shape arguments value => ClassShape.instantiate_eq_iff,
    ?_, ?_⟩
  · intro shape arguments others same
    rw [ClassShape.instantiate_eq, ← shape.writes_take, same,
      shape.writes_take, ← ClassShape.instantiate_eq]
  · intro shape name comment resolver documentation directive assertion case
      distinct built
    obtain ⟨agree, arguments, expected, resolved, rfl⟩ :=
      Case.build_eq_ok_iff.mp built
    have sameLength : arguments.length = shape.arity :=
      (Assertion.Resolved.length_arguments resolved).trans agree
    have keeps := shape.keeps_ofList_writes arguments
    have keys := keeps.keys
    rw [distinct.dedup] at keys
    exact ⟨resolved, sameLength, _, rfl, keys, fun parameter value =>
      keeps.get?_eq_some_iff sameLength distinct⟩

/-- A parameter that stands twice, with no argument at its second place; an
argument too many; and a directive with an argument for each parameter. -/
theorem repeated_parameter_is_left_undefined :
    let point : ClassShape := ⟨"Point", ["x", "y", "x"]⟩
    let pair : ClassShape := ⟨"Pair", ["left", "right"]⟩
    let text := Value.string
    let resolver : Resolver := ⟨Registry.standard, Tag.string⟩
    let assertion : Assertion :=
      ⟨none, none, [⟨"1", none⟩, ⟨"2", none⟩], ⟨"3", none⟩⟩
    let directive : Directive := ⟨1, 1, "@assert - 1,2=>3", .ok assertion⟩
    (∃ fields, point.instantiate [text "1", text "2"] =
        .instanceOf "Point" fields ∧
      fields.get? "x" = some .undefined ∧
      fields.get? "y" = some (text "2")) ∧
    pair.instantiate [text "1", text "2", text "3"] =
      pair.instantiate [text "1", text "2"] ∧
    pair.parameters.Nodup ∧
    ∃ case fields,
      Case.build resolver ⟨"Pair", "", pair.arity, pair.target⟩
        ⟨[], none, []⟩ directive assertion = .ok case ∧
      case.run.actual = .ok (.instanceOf "Pair" fields) ∧
      fields.get? "left" = some (text "1") ∧
      fields.get? "right" = some (text "2") := by
  intro point pair text resolver assertion directive
  obtain ⟨fieldsOf, noInfluence, ofCase⟩ :=
    constructor_pairs_parameters_with_arguments
  obtain ⟨fields, keeps, made⟩ :=
    (fieldsOf point [text "1", text "2"] _).mp rfl
  have lastX : IsLastPlace (["x", "y"] ++ ["x"]) "x" 2 :=
    isLastPlace_concat_iff.mpr (.inl ⟨rfl, rfl⟩)
  have lastY : IsLastPlace ((["x"] ++ ["y"]) ++ ["x"]) "y" 1 :=
    isLastPlace_concat_iff.mpr (.inr ⟨by decide,
      isLastPlace_concat_iff.mpr (.inl ⟨rfl, rfl⟩)⟩)
  have distinct : pair.parameters.Nodup := by decide
  let case : Case :=
    { identity := .positional "Pair" 1
      kind := none
      target := pair.target
      arguments := [text "1", text "2"]
      expected := text "3"
      line := 1 }
  have built : Case.build resolver ⟨"Pair", "", pair.arity, pair.target⟩
      ⟨[], none, []⟩ directive assertion = .ok case := rfl
  obtain ⟨-, -, kept, actual, -, keptIff⟩ :=
    ofCase pair _ _ _ _ _ _ case distinct built
  exact ⟨⟨fields, made, keeps.missing "x" 2 lastX (by decide),
      keeps.given "y" 1 _ lastY rfl⟩,
    noInfluence pair _ _ rfl, distinct, case, kept, built, actual,
    (keptIff "left" _).mpr ⟨0, rfl, rfl⟩,
    (keptIff "right" _).mpr ⟨1, rfl, rfl⟩⟩

end DocCheck
