import DocCheck.Proofs.Grammar
import DocCheck.Proofs.TokenTypes
import DocCheck.Proofs.Tokens
import Mathlib.Tactic.Choose

/-!
# Blank arguments

An argument may be left blank.  Then it stands for the empty value of its
type: the empty text, zero, false or the empty record.  So where nothing but
blanks and commas stands between the dash and the arrow, and the commas make
room for as many arguments as the symbol takes, every argument has a value,
whatever the comment documents; and only the expected token can keep the
directive from being run.
-/

namespace DocCheck

/-! ## Blank sections -/

/-- Blanks with a comma between every two arguments of a symbol.  A symbol
without arguments has no comma either. -/
structure IsBlankSection (arity : Nat) (text : List Char) : Prop where
  characters : ∀ c ∈ text, isBlank c = true ∨ c = ','
  commas : text.count ',' = arity - 1

theorem isBlankSection_iff {arity : Nat} {text : List Char} :
    IsBlankSection arity text ↔
      text.all (fun c => isBlank c || c = ',') = true ∧
        text.count ',' = arity - 1 := by
  simp only [List.all_eq_true, Bool.or_eq_true, decide_eq_true_eq]
  exact ⟨fun formed => ⟨formed.characters, formed.commas⟩,
    fun given => ⟨given.1, given.2⟩⟩

-- It is decided along the text and not by going through all characters.
instance (arity : Nat) (text : List Char) :
    Decidable (IsBlankSection arity text) :=
  decidable_of_iff' _ isBlankSection_iff

namespace IsBlankSection

variable {arity : Nat} {text : List Char}

theorem isBlankText_of_mem_splitOn (formed : IsBlankSection arity text)
    {piece : List Char} (member : piece ∈ text.splitOn ',') :
    IsBlankText piece := by
  intro c inPiece
  have inText := (isInfix_of_mem_splitOn member).subset inPiece
  rcases formed.characters c inText with blank | rfl
  · exact blank
  · exact absurd inPiece (notMem_of_mem_splitOn member)

theorem isBlankText (formed : IsBlankSection arity text)
    (single : arity - 1 = 0) : IsBlankText text := by
  have commaFree : ',' ∉ text := by
    rw [← List.count_eq_zero, formed.commas, single]
  intro c member
  rcases formed.characters c member with blank | rfl
  · exact blank
  · exact absurd member commaFree

/-- A blank section reads as blank tokens, one for each argument. -/
theorem argumentTokens {layout : Layout}
    (formed : IsBlankSection arity layout.arguments) :
    layout.argumentTokens arity = List.replicate arity Token.blank := by
  rw [Layout.argumentTokens]
  by_cases blank : IsBlankText layout.arguments
  · have noComma : layout.arguments.count ',' = 0 := by
      rw [List.count_eq_zero]
      exact fun member => absurd (blank ',' member) (by decide)
    have atMostOne : arity - 1 = 0 := formed.commas.symm.trans noComma
    rw [if_pos blank]
    by_cases none : arity = 0
    · rw [if_pos none, none, List.replicate_zero]
    · have one : arity = 1 := by omega
      rw [if_neg none, one, List.replicate_one, Token.blank]
  · have several : arity - 1 ≠ 0 := fun single =>
      blank (formed.isBlankText single)
    rw [if_neg blank, List.eq_replicate_iff, List.length_map,
      length_splitOn, formed.commas]
    refine ⟨by omega, ?_⟩
    intro token member
    obtain ⟨piece, inPieces, rfl⟩ := List.mem_map.mp member
    exact Token.parse_of_isBlankText
      (formed.isBlankText_of_mem_splitOn inPieces)

end IsBlankSection

/-! ## Empty values -/

/-- The empty value of a built-in tag. -/
inductive Tag.EmptyValue : Tag → Value → Prop
  | string : EmptyValue Tag.string (.string "")
  | number : EmptyValue Tag.number (.number .zero)
  | bool : EmptyValue Tag.bool (.bool false)
  | object : EmptyValue Tag.object Value.emptyRecord

/-- The value of a blank token at a position: the empty value of the tag for
its documented type, and the empty text where no type is documented. -/
inductive Position.BlankValue (comment : String) (position : Position) :
    Value → Prop
  | documented {type : String} {value : Value} :
      position.HasType comment type →
      (Registry.standard.tagFor type).EmptyValue value →
      BlankValue comment position value
  | undocumented :
      (∀ type, ¬ position.HasType comment type) →
      BlankValue comment position (.string "")

theorem Tag.exists_emptyValue {tag : Tag} (builtin : tag ∈ Tag.builtins) :
    ∃ value, tag.EmptyValue value := by
  simp only [builtins, List.mem_cons, List.not_mem_nil, or_false] at builtin
  rcases builtin with rfl | rfl | rfl | rfl
  · exact ⟨_, .string⟩
  · exact ⟨_, .number⟩
  · exact ⟨_, .bool⟩
  · exact ⟨_, .object⟩

theorem Tag.EmptyValue.resolve {tag : Tag} {value : Value}
    (empty : tag.EmptyValue value) :
    Registry.standard.resolve tag "" = .ok value := by
  cases empty <;> rfl

theorem Registry.mem_builtins_of_contains_standard {tag : Tag}
    (contained : standard.contains tag = true) : tag ∈ Tag.builtins := by
  by_contra custom
  simp only [Tag.builtins, List.mem_cons, List.not_mem_nil, or_false,
    not_or] at custom
  obtain ⟨notString, notNumber, notBool, notObject⟩ := custom
  simp only [contains_iff, standard, coercion?_withCoercion, notString,
    notNumber, notBool, notObject, if_false] at contained
  cases contained

namespace Position

theorem exists_blankValue (comment : String) (position : Position) :
    ∃ value, position.BlankValue comment value := by
  by_cases typed : ∃ type, position.HasType comment type
  · obtain ⟨type, typed⟩ := typed
    have contained :=
      Registry.complete_standard.contains_tagFor type
    obtain ⟨value, empty⟩ := Tag.exists_emptyValue
      (Registry.mem_builtins_of_contains_standard contained)
    exact ⟨value, .documented typed empty⟩
  · exact ⟨_, .undocumented (not_exists.mp typed)⟩

theorem BlankValue.reads {comment : String} {position : Position}
    {value : Value} (blank : position.BlankValue comment value) :
    Checker.standard.Reads comment (position, Token.blank) (.ok value) := by
  cases blank with
  | documented typed empty =>
      exact ⟨_, .documented rfl typed, empty.resolve⟩
  | undocumented untyped =>
      exact ⟨_, .byDefault rfl untyped, rfl⟩

theorem BlankValue.unique {comment : String} {position : Position}
    {value other : Value} (blank : position.BlankValue comment value)
    (otherBlank : position.BlankValue comment other) : value = other := by
  have result := (Checker.reads_iff 0).mp blank.reads
  have otherResult := (Checker.reads_iff 0).mp otherBlank.reads
  exact Except.ok.inj (result.symm.trans otherResult)

end Position

/-! ## Directives with blank arguments -/

/-- What is found for a directive whose arguments have values: it is refused
for its expected token, or run with these arguments. -/
inductive Checker.FindsByExpected (checker : Checker) (symbol : Symbol)
    (directive : Directive) (assertion : Assertion)
    (arguments : List Value) : Finding → Prop
  | refused {cause : TokenError} :
      checker.Reads symbol.comment (.expected, assertion.expected)
        (.error cause) →
      FindsByExpected checker symbol directive assertion arguments
        (.rejected (directive.identity symbol.name)
          ((Rejection.token .expected cause).diagnostic.located
            directive.location))
  | ran {expected : Value} :
      checker.Reads symbol.comment (.expected, assertion.expected)
        (.ok expected) →
      FindsByExpected checker symbol directive assertion arguments
        (.ran (Case.run {
          identity := directive.identity symbol.name
          kind := assertion.kind
          target := symbol.target
          arguments := arguments
          expected := expected
          line := directive.line }))

namespace Checker

variable {checker : Checker} {symbol : Symbol} {assertion : Assertion}
  {valueAt : Position × Token → Value}

theorem forall₂_reads
    (readable : ∀ place ∈ assertion.argumentPlaces,
      checker.Reads symbol.comment place (.ok (valueAt place))) :
    List.Forall₂
      (fun place value => checker.Reads symbol.comment place (.ok value))
      assertion.argumentPlaces (assertion.argumentPlaces.map valueAt) :=
  List.forall₂_map_right_iff.mpr (List.forall₂_same.mpr readable)

/-- Where every argument has a value, nothing but the expected token decides
what is found. -/
theorem exists_findsByExpected (directive : Directive)
    (readable : ∀ place ∈ assertion.argumentPlaces,
      checker.Reads symbol.comment place (.ok (valueAt place))) :
    ∃ finding,
      checker.FindsByExpected symbol directive assertion
        (assertion.argumentPlaces.map valueAt) finding ∧
      checker.Finds symbol directive assertion finding := by
  have result : ∃ result, checker.Reads symbol.comment
      (.expected, assertion.expected) result :=
    ⟨_, (reads_iff symbol.arity).mpr rfl⟩
  obtain ⟨⟨cause⟩ | ⟨expected⟩, readExpected⟩ := result
  · have first : checker.FirstFailure symbol.comment assertion
        (.expected, assertion.expected) cause := by
      refine ⟨assertion.argumentPlaces, [], rfl, ?_, readExpected⟩
      exact fun earlier member => ⟨_, readable earlier member⟩
    have finds : checker.Finds symbol directive assertion _ :=
      .refused first
    exact ⟨_, .refused readExpected, finds⟩
  · exact ⟨_, .ran readExpected,
      .ran (forall₂_reads readable) readExpected⟩

end Checker

theorem Assertion.getElem?_argumentPlaces (assertion : Assertion)
    (index : Nat) :
    assertion.argumentPlaces[index]? =
      assertion.arguments[index]?.map fun token =>
        (.argument index, token) := by
  simp [argumentPlaces, Function.comp_def]

section BlankTokens

variable {comment : String} {assertion : Assertion} {arity : Nat}
  {valueAt : Position → Value}

theorem Assertion.reads_argumentPlaces_of_blank
    (tokens : assertion.arguments = List.replicate arity Token.blank)
    (blankValue :
      ∀ position : Position,
        position.BlankValue comment (valueAt position)) :
    ∀ place ∈ assertion.argumentPlaces,
      Checker.standard.Reads comment place (.ok (valueAt place.1)) := by
  intro place inPlaces
  obtain ⟨index, found⟩ := List.mem_iff_getElem?.mp inPlaces
  rw [getElem?_argumentPlaces, tokens, Option.map_eq_some_iff] at found
  obtain ⟨token, inTokens, rfl⟩ := found
  obtain rfl := List.eq_of_mem_replicate (List.mem_of_getElem? inTokens)
  exact (blankValue (.argument index)).reads

/-- The values of blank arguments are told by their positions alone. -/
theorem Assertion.getElem?_values_of_blank
    (tokens : assertion.arguments = List.replicate arity Token.blank)
    (blankValue :
      ∀ position : Position,
        position.BlankValue comment (valueAt position))
    (index : Nat) (value : Value) :
    (assertion.argumentPlaces.map fun place =>
        valueAt place.1)[index]? = some value ↔
      index < arity ∧
        (Position.argument index).BlankValue comment value := by
  rw [List.getElem?_map, getElem?_argumentPlaces, tokens,
    List.getElem?_replicate]
  by_cases inside : index < arity
  · rw [if_pos inside, Option.map_some, Option.map_some,
      Option.some.injEq, and_iff_right inside]
    constructor
    · rintro rfl
      exact blankValue (.argument index)
    · exact (blankValue (.argument index)).unique
  · simp [inside]

end BlankTokens

theorem Directive.reading_of_layout {arity : Nat} {comment : String}
    {directive : Directive} (member : directive ∈ ofComment arity comment)
    {layout : Layout} (formed : layout.WellFormed)
    (shape : directive.source.toList = marker ++ layout.text) :
    directive.reading = .ok (layout.assertion arity) := by
  obtain ⟨line, body, ordinal, _, content, _, rfl⟩ :=
    exists_line_of_mem_ofComment member
  rw [ofLine, String.toList_ofList, content] at shape
  exact Assertion.read_eq_ok_iff.mpr
    ⟨layout, formed, List.append_cancel_left shape, rfl⟩

/-- A directive of any comment with a blank section for its arguments has a
blank token for each of them.  Each of these tokens has a value: the empty
one of the tag for its documented type, or the empty text where no type is
documented.  What is found for the directive is what its expected token
makes of it. -/
theorem blank_arguments_have_empty_values {symbol : Symbol}
    {directive : Directive}
    (member :
      directive ∈ Directive.ofComment symbol.arity symbol.comment)
    {layout : Layout} (formed : layout.WellFormed)
    (shape :
      directive.source.toList = Directive.marker ++ layout.text)
    (blank : IsBlankSection symbol.arity layout.arguments) :
    ∃ (assertion : Assertion) (arguments : List Value) (finding : Finding),
      directive.reading = .ok assertion ∧
      assertion.arguments = List.replicate symbol.arity Token.blank ∧
      List.Forall₂
        (fun place value =>
          Checker.standard.Reads symbol.comment place (.ok value))
        assertion.argumentPlaces arguments ∧
      (∀ index value, arguments[index]? = some value ↔
        index < symbol.arity ∧
          (Position.argument index).BlankValue symbol.comment value) ∧
      Checker.standard.FindsByExpected symbol directive assertion arguments
        finding ∧
      ∀ other,
        other ∈ (Checker.standard.check symbol).findings ∧
            other.line? = some directive.line ↔
          other = finding := by
  have reading := Directive.reading_of_layout member formed shape
  let assertion := layout.assertion symbol.arity
  have tokens : assertion.arguments =
      List.replicate symbol.arity Token.blank := blank.argumentTokens
  choose valueAt blankValue using
    Position.exists_blankValue symbol.comment
  have readable :=
    Assertion.reads_argumentPlaces_of_blank tokens blankValue
  obtain ⟨finding, byExpected, finds⟩ :=
    Checker.exists_findsByExpected directive readable
  have agree : assertion.arguments.length = symbol.arity := by
    rw [tokens, List.length_replicate]
  refine ⟨assertion, _, finding, reading, tokens,
    Checker.forall₂_reads readable,
    Assertion.getElem?_values_of_blank tokens blankValue, byExpected, ?_⟩
  intro other
  have selected : Checker.standard.selects symbol directive = true :=
    Checker.selects_of_unfiltered rfl symbol directive
  rw [Checker.standard.mem_findings_at_line_iff symbol member,
    (Checker.finds_iff reading agree).mp finds, and_iff_right selected]

/-- Two of the types are documented behind the directive, and one of them is
that of no tag. -/
theorem four_blank_arguments_have_empty_values :
    let comment := "@param \x7bNumber\x7d count\n" ++
      "@param \x7b BOOLEAN \x7d flag\n@assert All -\t, ,, =>x\n" ++
      "@param \x7bobject\x7d box\n@param \x7bDate\x7d day"
    let symbol : Symbol := ⟨"four", comment, 4, Demo.greet⟩
    ∃ directive ∈ Directive.ofComment 4 comment, ∃ layout : Layout,
      layout.WellFormed ∧
      directive.source.toList = Directive.marker ++ layout.text ∧
      IsBlankSection 4 layout.arguments ∧
      ∃ (assertion : Assertion) (arguments : List Value)
        (finding : Finding),
        directive.reading = .ok assertion ∧
        arguments[0]? = some (.number .zero) ∧
        arguments[1]? = some (.bool false) ∧
        arguments[2]? = some Value.emptyRecord ∧
        arguments[3]? = some (.string "") ∧
        Checker.standard.FindsByExpected symbol directive assertion
          arguments finding ∧
        finding ∈ (Checker.standard.check symbol).findings := by
  intro comment symbol
  let line : Line := ⟨3, "@assert All -\t, ,, =>x".toList⟩
  let body := " All -\t, ,, =>x".toList
  have lineMember : line ∈ Line.ofComment comment := by decide +kernel
  have ends : WordEnds body := endsWord_iff.mp (by decide)
  obtain ⟨ordinal, member⟩ :=
    Directive.exists_mem_ofComment 4 lineMember (by decide) ends
  let directive := Directive.ofLine 4 line body ordinal
  let layout : Layout :=
    ⟨⟨[' '], none, some ⟨['A', 'l', 'l'], [' ']⟩⟩,
      ['\t', ',', ' ', ',', ',', ' '], ['x']⟩
  have formed : layout.WellFormed := by
    refine ⟨⟨by decide, by simp [layout], ?_, ?_⟩, by decide, by decide⟩
    · intro part given
      cases given
      refine ⟨by decide, ?_, by decide, by decide, by decide⟩
      simp
      decide
    · intro _ part given
      cases given
      decide
  have shape :
      directive.source.toList = Directive.marker ++ layout.text :=
    String.toList_ofList
  have blank : IsBlankSection 4 layout.arguments := by decide
  obtain ⟨assertion, arguments, finding, reading, _, _, values, byExpected,
    found⟩ := @blank_arguments_have_empty_values symbol directive member
      layout formed shape blank
  have argument {index : Nat} {type : String} {tag : Tag} {value : Value}
      (declared : (Documentation.ofComment 4 comment).declared?
        (.argument index) = some type)
      (tagged : Registry.standard.tagFor type = tag)
      (empty : tag.EmptyValue value) (inside : index < 4) :
      arguments[index]? = some value := by
    have typed := (Documentation.declared?_eq_some_iff 4).mp declared
    exact (values index value).mpr
      ⟨inside, .documented typed (tagged ▸ empty)⟩
  have number : Registry.standard.tagFor "Number" = Tag.number := by decide
  have bool : Registry.standard.tagFor "BOOLEAN" = Tag.bool := by decide
  have object : Registry.standard.tagFor "object" = Tag.object := by decide
  have string : Registry.standard.tagFor "Date" = Tag.string := by decide
  exact ⟨directive, member, layout, formed, shape, blank, assertion,
    arguments, finding, reading,
    argument (by decide +kernel) number .number (by decide),
    argument (by decide +kernel) bool .bool (by decide),
    argument (by decide +kernel) object .object (by decide),
    argument (by decide +kernel) string .string (by decide),
    byExpected, ((found finding).mpr rfl).1⟩

end DocCheck
