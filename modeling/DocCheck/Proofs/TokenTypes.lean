import DocCheck.Proofs.Dependence
import DocCheck.Proofs.FindingOrder
import DocCheck.Proofs.LineKinds

/-!
# The tag of a token

A token is read under its own tag; without one under the tag for the type
that the comment documents for its position; and without such a type under
the default tag.  The type of an argument stands on the parameter line at the
same place among the parameter lines, wherever these lines stand, and the
type of the expected result on the last result line.  Since a registry in use
is complete, the tag for a documented type is always registered.
-/

namespace DocCheck

/-! ## Documented types -/

/-- A content of a kind documents a type by a text in braces behind the
marker word.  A blank text is no type. -/
def LineKind.Documents (kind : LineKind) (content : List Char)
    (type : String) : Prop :=
  ∃ word ∈ kind.words, ∃ gap inner after,
    content = word ++ (gap ++ '{' :: (inner ++ '}' :: after)) ∧
    IsBlankText gap ∧ '}' ∉ inner ∧ ¬ IsBlankText inner ∧
    type = String.ofList (trim inner)

namespace Position

/-- The kind of the lines that document a position. -/
def kind : Position → LineKind
  | argument _ => .parameter
  | expected => .result

/-- The content that documents a position: for an argument the parameter
line at its index, and for the expected result the last result line. -/
def content? (comment : String) : Position → Option (List Char)
  | argument index => (LineKind.parameter.contents comment)[index]?
  | expected => (LineKind.result.contents comment).getLast?

/-- The type that a comment documents for a position. -/
def HasType (comment : String) (position : Position)
    (type : String) : Prop :=
  ∃ content, position.content? comment = some content ∧
    position.kind.Documents content type

end Position

theorem splitType_eq_some_iff {text : List Char} {type : String} :
    (splitType text).1 = some type ↔
      ∃ inner after, text = '{' :: (inner ++ '}' :: after) ∧
        '}' ∉ inner ∧ ¬ IsBlankText inner ∧
        type = String.ofList (trim inner) := by
  constructor
  · intro given
    unfold splitType at given
    split at given
    · next rest =>
        split at given
        · next inner after cut =>
            obtain ⟨rfl, unclosed⟩ := cutAtFirst?_eq_some_iff.mp cut
            by_cases blank : IsBlankText inner
            · simp [trim_eq_nil_iff.mpr blank] at given
            · have notEmpty := mt trim_eq_nil_iff.mp blank
              simp only [List.isEmpty_iff, notEmpty, if_false,
                Option.some.injEq] at given
              exact ⟨inner, after, rfl, unclosed, blank, given.symm⟩
        · cases given
    · cases given
  · intro given
    obtain ⟨inner, after, rfl, unclosed, notBlank, rfl⟩ := given
    have notEmpty := mt trim_eq_nil_iff.mp notBlank
    simp [splitType, cutAtFirst?_append unclosed, notEmpty]

theorem leadingType?_eq_some_iff {text : List Char} {type : String} :
    leadingType? text = some type ↔
      ∃ gap inner after, text = gap ++ '{' :: (inner ++ '}' :: after) ∧
        IsBlankText gap ∧ '}' ∉ inner ∧ ¬ IsBlankText inner ∧
        type = String.ofList (trim inner) := by
  rw [leadingType?, splitType_eq_some_iff]
  constructor
  · intro given
    obtain ⟨inner, after, started, rest⟩ := given
    obtain ⟨gap, blank, split⟩ := exists_blank_append_trimStart text
    exact ⟨gap, inner, after, split.trans (by rw [started]), blank, rest⟩
  · intro given
    obtain ⟨gap, inner, after, rfl, blank, rest⟩ := given
    refine ⟨inner, after, ?_, rest⟩
    rw [trimStart_blank_append blank]
    exact trimStart_of_head (by simp; decide)

/-- A blank text and an opening brace end a word. -/
theorem wordEnds_blank_append {gap rest : List Char}
    (blank : IsBlankText gap) : WordEnds (gap ++ '{' :: rest) := by
  intro c atHead
  cases gap with
  | nil => exact .inr (Option.some.inj atHead).symm
  | cons first others =>
      obtain rfl := Option.some.inj atHead
      exact .inl (blank _ List.mem_cons_self)

namespace LineKind

theorem marks_of_mem_contents {kind : LineKind} {comment : String}
    {content : List Char} (member : content ∈ kind.contents comment) :
    kind.Marks content := by
  simpa using (List.mem_filter.mp member).2

theorem documents_iff {kind : LineKind} {content : List Char}
    {type : String} (marks : kind.Marks content) :
    kind.Documents content type ↔
      leadingType? (kind.body content) = some type := by
  rw [leadingType?_eq_some_iff]
  constructor
  · intro given
    obtain ⟨word, member, gap, inner, after, rfl, blank, rest⟩ := given
    exact ⟨gap, inner, after,
      body_append member (wordEnds_blank_append blank), blank, rest⟩
  · intro given
    obtain ⟨gap, inner, after, shape, rest⟩ := given
    obtain ⟨word, member, whole, _⟩ := exists_word_append_body marks
    rw [shape] at whole
    exact ⟨word, member, gap, inner, after, whole, rest⟩

end LineKind

theorem Position.mem_contents {comment : String} {position : Position}
    {content : List Char}
    (found : position.content? comment = some content) :
    content ∈ position.kind.contents comment := by
  cases position with
  | argument index => exact List.mem_of_getElem? found
  | expected => exact List.mem_of_getLast? found

namespace Documentation

/-- The type documented for a position. -/
def declared? (documentation : Documentation) :
    Position → Option String
  | .argument index => documentation.parameterType? index
  | .expected => documentation.returns

theorem declared?_ofComment (arity : Nat) (comment : String)
    (position : Position) :
    (ofComment arity comment).declared? position =
      (position.content? comment).bind fun content =>
        leadingType? (position.kind.body content) := by
  cases position with
  | argument index =>
      rw [declared?, parameterType?, parameters_ofComment,
        List.getElem?_map, Option.bind_map]
      rfl
  | expected =>
      rw [declared?, returns_ofComment, List.getLast?_map,
        Position.content?]
      cases (LineKind.result.contents comment).getLast? <;> rfl

/-- The type that is read for a position is the one that its line
documents. -/
theorem declared?_eq_some_iff (arity : Nat) {comment : String}
    {position : Position} {type : String} :
    (ofComment arity comment).declared? position = some type ↔
      position.HasType comment type := by
  rw [declared?_ofComment, Option.bind_eq_some_iff]
  refine exists_congr fun content => and_congr_right fun found => ?_
  have marks :=
    LineKind.marks_of_mem_contents (Position.mem_contents found)
  exact (LineKind.documents_iff marks).symm

theorem declared?_eq_none_iff (arity : Nat) {comment : String}
    {position : Position} :
    (ofComment arity comment).declared? position = none ↔
      ∀ type, ¬ position.HasType comment type := by
  rw [Option.eq_none_iff_forall_ne_some]
  exact forall_congr' fun type => not_congr (declared?_eq_some_iff arity)

end Documentation

/-! ## Tags -/

/-- The tag under which a token at a position is read. -/
inductive Checker.Tags (checker : Checker) (comment : String)
    (position : Position) (token : Token) : Tag → Prop
  | own {tag : Tag} :
      token.tag = some tag → Tags checker comment position token tag
  | documented {type : String} :
      token.tag = none → position.HasType comment type →
      Tags checker comment position token (checker.registry.tagFor type)
  | byDefault :
      token.tag = none → (∀ type, ¬ position.HasType comment type) →
      Tags checker comment position token checker.settings.defaultTag

theorem Registry.Complete.contains_tagFor {registry : Registry}
    (complete : registry.Complete) (type : String) :
    registry.contains (registry.tagFor type) = true := by
  rw [Registry.tagFor]
  split
  · next registered => exact registered
  · exact complete Tag.string (by decide)

namespace Checker

variable {checker : Checker} {comment : String}

theorem tags_iff (arity : Nat) {position : Position} {token : Token}
    {tag : Tag} :
    checker.Tags comment position token tag ↔
      tag = checker.resolver.tagOf
        ((Documentation.ofComment arity comment).declared? position)
        token := by
  constructor
  · intro given
    cases given with
    | own own => simp [Resolver.tagOf, own]
    | documented untagged typed =>
        have declared :=
          (Documentation.declared?_eq_some_iff arity).mpr typed
        simp [Resolver.tagOf, untagged, declared, resolver]
    | byDefault untagged untyped =>
        have undeclared :=
          (Documentation.declared?_eq_none_iff arity).mpr untyped
        simp [Resolver.tagOf, untagged, undeclared, resolver]
  · rintro rfl
    unfold Resolver.tagOf
    split
    · next own => exact .own own
    · next untagged declared =>
        exact .documented untagged
          ((Documentation.declared?_eq_some_iff arity).mp declared)
    · next untagged undeclared =>
        exact .byDefault untagged
          ((Documentation.declared?_eq_none_iff arity).mp undeclared)

theorem existsUnique_tags (position : Position) (token : Token) :
    ∃! tag, checker.Tags comment position token tag :=
  ⟨_, (tags_iff 0).mpr rfl, fun _ tags => (tags_iff 0).mp tags⟩

end Checker

/-! ## Readings -/

/-- The arguments of an assertion from left to right, each behind its
position. -/
def Assertion.argumentPlaces (assertion : Assertion) :
    List (Position × Token) :=
  assertion.arguments.zipIdx.map fun place => (.argument place.2, place.1)

/-- The arguments of an assertion and then its expected result, each behind
its position. -/
def Assertion.places (assertion : Assertion) : List (Position × Token) :=
  assertion.argumentPlaces ++ [(.expected, assertion.expected)]

/-- The operand that a documentation makes of a token at its position. -/
def Documentation.operand (documentation : Documentation)
    (place : Position × Token) : Operand :=
  ⟨place.1, documentation.declared? place.1, place.2⟩

theorem Assertion.map_operand_argumentPlaces
    (documentation : Documentation) (assertion : Assertion) :
    assertion.argumentPlaces.map documentation.operand =
      argumentOperands documentation 0 assertion.arguments := by
  rw [argumentPlaces, List.map_map]
  rfl

theorem Assertion.map_operand_places (documentation : Documentation)
    (assertion : Assertion) :
    assertion.places.map documentation.operand =
      assertion.operands documentation := by
  rw [places, List.map_append, map_operand_argumentPlaces]
  rfl

namespace Checker

/-- What comes of reading a token at its position under its tag. -/
def Reads (checker : Checker) (comment : String)
    (place : Position × Token) (result : Except TokenError Value) : Prop :=
  ∃ tag, checker.Tags comment place.1 place.2 tag ∧
    checker.registry.resolve tag place.2.text = result

/-- The leftmost token of an assertion that cannot be read. -/
def FirstFailure (checker : Checker) (comment : String)
    (assertion : Assertion) (place : Position × Token)
    (cause : TokenError) : Prop :=
  ∃ before after, assertion.places = before ++ place :: after ∧
    (∀ earlier ∈ before, ∃ value,
      checker.Reads comment earlier (.ok value)) ∧
    checker.Reads comment place (.error cause)

/-- What is found for a directive with the right number of arguments: the
cause for which its leftmost unreadable token fails, or a run with the values
of all its tokens. -/
inductive Finds (checker : Checker) (symbol : Symbol)
    (directive : Directive) (assertion : Assertion) : Finding → Prop
  | refused {place : Position × Token} {cause : TokenError} :
      checker.FirstFailure symbol.comment assertion place cause →
      Finds checker symbol directive assertion
        (.rejected (directive.identity symbol.name)
          ((Rejection.token place.1 cause).diagnostic.located
            directive.location))
  | ran {arguments : List Value} {expected : Value} :
      List.Forall₂
        (fun place value => checker.Reads symbol.comment place (.ok value))
        assertion.argumentPlaces arguments →
      checker.Reads symbol.comment (.expected, assertion.expected)
        (.ok expected) →
      Finds checker symbol directive assertion
        (.ran (Case.run {
          identity := directive.identity symbol.name
          kind := assertion.kind
          target := symbol.target
          arguments := arguments
          expected := expected
          line := directive.line }))

variable {checker : Checker} {comment : String} {assertion : Assertion}

theorem reads_iff (arity : Nat) {place : Position × Token}
    {result : Except TokenError Value} :
    checker.Reads comment place result ↔
      checker.resolver.valueOf
        ((Documentation.ofComment arity comment).operand place) =
          result := by
  simp only [Reads, tags_iff arity, exists_eq_left]
  rfl

theorem reads_ok_iff (arity : Nat) {place : Position × Token}
    {value : Value} :
    checker.Reads comment place (.ok value) ↔
      checker.resolver.Resolves
        ((Documentation.ofComment arity comment).operand place) value :=
  (reads_iff arity).trans Resolver.resolves_iff.symm

theorem reads_error_iff (arity : Nat) {place : Position × Token}
    {cause : TokenError} :
    checker.Reads comment place (.error cause) ↔
      checker.resolver.Refuses
        ((Documentation.ofComment arity comment).operand place) cause :=
  (reads_iff arity).trans Resolver.refuses_iff.symm

theorem firstRefusal_iff (arity : Nat) {operand : Operand}
    {cause : TokenError} :
    checker.resolver.FirstRefusal
        (assertion.operands (Documentation.ofComment arity comment))
        operand cause ↔
      ∃ place,
        operand = (Documentation.ofComment arity comment).operand place ∧
        checker.FirstFailure comment assertion place cause := by
  rw [← Assertion.map_operand_places]
  constructor
  · intro given
    obtain ⟨before, after, shape, resolved, refused⟩ := given
    obtain ⟨front, rest, placed, rfl, shapeRest⟩ :=
      List.map_eq_append_iff.mp shape
    obtain ⟨place, back, rfl, rfl, rfl⟩ :=
      List.map_eq_cons_iff.mp shapeRest
    refine ⟨place, rfl, front, back, placed, ?_,
      (reads_error_iff arity).mpr refused⟩
    intro earlier member
    obtain ⟨value, resolvedHere⟩ :=
      resolved _ (List.mem_map_of_mem member)
    exact ⟨value, (reads_ok_iff arity).mpr resolvedHere⟩
  · intro given
    obtain ⟨place, rfl, before, after, placed, readable, failed⟩ := given
    rw [placed, List.map_append, List.map_cons]
    refine ⟨_, _, rfl, ?_, (reads_error_iff arity).mp failed⟩
    intro operand member
    obtain ⟨earlier, inBefore, rfl⟩ := List.mem_map.mp member
    obtain ⟨value, readHere⟩ := readable earlier inBefore
    exact ⟨value, (reads_ok_iff arity).mp readHere⟩

theorem resolved_iff (arity : Nat) {arguments : List Value}
    {expected : Value} :
    assertion.Resolved checker.resolver
        (Documentation.ofComment arity comment) arguments expected ↔
      List.Forall₂
          (fun place value => checker.Reads comment place (.ok value))
          assertion.argumentPlaces arguments ∧
        checker.Reads comment (.expected, assertion.expected)
          (.ok expected) := by
  simp only [reads_ok_iff arity]
  rw [Assertion.Resolved, ← Assertion.map_operand_argumentPlaces,
    List.forall₂_map_left_iff]
  rfl

variable {symbol : Symbol} {directive : Directive}

/-- What is found is what the directive is judged to. -/
theorem finds_iff (reading : directive.reading = .ok assertion)
    (agree : assertion.arguments.length = symbol.arity)
    {finding : Finding} :
    checker.Finds symbol directive assertion finding ↔
      finding = checker.judge symbol
        (Documentation.ofComment symbol.arity symbol.comment)
        directive := by
  constructor
  · intro finds
    cases finds with
    | refused first =>
        have refused := (firstRefusal_iff symbol.arity).mpr ⟨_, rfl, first⟩
        exact (judge_eq_of_judged
          (.of_firstRefusal reading agree refused)).symm
    | ran readArguments readExpected =>
        have resolved := (resolved_iff symbol.arity).mpr
          ⟨readArguments, readExpected⟩
        exact (judge_eq_of_judged (.run reading agree resolved
          (Verdict.ofCall_run _) rfl rfl rfl)).symm
  · rintro rfl
    simp only [judge, reading]
    cases built : Case.build checker.resolver symbol
        (Documentation.ofComment symbol.arity symbol.comment) directive
        assertion with
    | ok case =>
        obtain ⟨_, arguments, expected, resolved, rfl⟩ :=
          Case.build_eq_ok_iff.mp built
        obtain ⟨readArguments, readExpected⟩ :=
          (resolved_iff symbol.arity).mp resolved
        exact .ran readArguments readExpected
    | error error =>
        rcases Case.rejection_of_build_eq_error built with
          ⟨different, _⟩ | ⟨_, operand, cause, refused, rfl⟩
        · exact absurd agree different
        · obtain ⟨place, rfl, first⟩ :=
            (firstRefusal_iff symbol.arity).mp refused
          exact .refused first

/-! ## Unknown tags -/

/-- A token is read under an unregistered tag only when it carries one, or
when nothing but an unregistered default tag is left for it. -/
theorem Reads.of_unknownTag {position : Position} {token : Token}
    {tag : Tag}
    (failed :
      checker.Reads comment (position, token) (.error (.unknownTag tag))) :
    (∃ own, token.tag = some own ∧
      checker.registry.contains own = false) ∨
    (token.tag = none ∧ (∀ type, ¬ position.HasType comment type) ∧
      checker.registry.contains checker.settings.defaultTag = false) := by
  obtain ⟨used, tags, resolved⟩ := failed
  have unregistered : checker.registry.contains used = false := by
    cases Registry.resolve_eq_error_iff.mp resolved with
    | unknownTag missing =>
        rw [← Bool.not_eq_true, Registry.contains_iff, missing]
        exact Bool.false_ne_true
  cases tags with
  | own own => exact .inl ⟨used, own, unregistered⟩
  | documented _ _ =>
      rw [checker.complete.contains_tagFor] at unregistered
      cases unregistered
  | byDefault untagged untyped =>
      exact .inr ⟨untagged, untyped, unregistered⟩

theorem firstFailure_of_unknownTag {identity : Identity}
    {diagnostic : Diagnostic}
    (rejected :
      checker.judge symbol
        (Documentation.ofComment symbol.arity symbol.comment) directive =
          .rejected identity diagnostic)
    (code : diagnostic.code = .unknownTag) :
    ∃ assertion position token tag,
      directive.reading = .ok assertion ∧
      assertion.arguments.length = symbol.arity ∧
      checker.FirstFailure symbol.comment assertion (position, token)
        (.unknownTag tag) := by
  obtain ⟨rule, judged⟩ := Judged.exists_rule checker symbol
    (Documentation.ofComment symbol.arity symbol.comment) directive
  rw [rejected] at judged
  cases judged with
  | @malformedLine fault _ => cases fault <;> cases code
  | argumentCount _ _ => cases code
  | @refusedToken assertion operand cause reading agree refused =>
      obtain ⟨⟨position, token⟩, rfl, first⟩ :=
        (firstRefusal_iff symbol.arity).mp refused
      cases cause with
      | unknownTag tag =>
          exact ⟨assertion, position, token, tag, reading, agree, first⟩
      | _ => cases code

end Checker

/-- Every token has one tag: its own, else that of the type documented for
its position, which is always registered, else the default one.  A directive
with the right number of arguments is judged by what comes of its tokens
under these tags; and an unknown tag is reported only for a leftmost
unreadable token that carries it, or that has neither a tag nor a documented
type while the default tag is unregistered. -/
theorem tokens_read_by_own_documented_or_default_tag (checker : Checker)
    (symbol : Symbol) {directive : Directive}
    (member :
      directive ∈ Directive.ofComment symbol.arity symbol.comment) :
    (∀ position token,
      ∃! tag, checker.Tags symbol.comment position token tag) ∧
    (∀ type,
      checker.registry.contains (checker.registry.tagFor type) = true) ∧
    (∀ assertion, directive.reading = .ok assertion →
      assertion.arguments.length = symbol.arity →
      (∃! finding, checker.Finds symbol directive assertion finding) ∧
      ∀ finding,
        finding ∈ (checker.check symbol).findings ∧
            finding.line? = some directive.line ↔
          checker.selects symbol directive = true ∧
            checker.Finds symbol directive assertion finding) ∧
    ∀ identity diagnostic,
      .rejected identity diagnostic ∈ (checker.check symbol).findings →
      diagnostic.location.map Location.line = some directive.line →
      diagnostic.code = .unknownTag →
      ∃ assertion position token tag,
        directive.reading = .ok assertion ∧
        assertion.arguments.length = symbol.arity ∧
        checker.FirstFailure symbol.comment assertion (position, token)
          (.unknownTag tag) ∧
        ((∃ own, token.tag = some own ∧
            checker.registry.contains own = false) ∨
          (token.tag = none ∧
            (∀ type, ¬ position.HasType symbol.comment type) ∧
            checker.registry.contains checker.settings.defaultTag =
              false)) := by
  refine ⟨Checker.existsUnique_tags, checker.complete.contains_tagFor,
    ?_, ?_⟩
  · intro assertion reading agree
    refine ⟨⟨_, (Checker.finds_iff reading agree).mpr rfl, fun _ finds =>
      (Checker.finds_iff reading agree).mp finds⟩, fun finding => ?_⟩
    rw [checker.mem_findings_at_line_iff symbol member,
      Checker.finds_iff reading agree]
  · intro identity diagnostic found atLine code
    have rejected := ((checker.mem_findings_at_line_iff symbol member _).mp
      ⟨found, atLine⟩).2
    obtain ⟨assertion, position, token, tag, reading, agree, first⟩ :=
      Checker.firstFailure_of_unknownTag rejected.symm code
    have ⟨_, _, _, _, failed⟩ := first
    exact ⟨assertion, position, token, tag, reading, agree, first,
      failed.of_unknownTag⟩

/-- An argument whose parameter line has no type, one whose parameter line
stands behind the directive, and one with an unregistered tag. -/
theorem unregistered_tag_reported_behind_typed_tokens :
    let comment := "@assert - 1,true,2:date=>3\n@param first\n" ++
      "@return \x7bNumber\x7d\n@param \x7b Boolean \x7d second"
    let symbol : Symbol := ⟨"pick", comment, 3, Demo.greet⟩
    let tags := Checker.standard.Tags comment
    tags (.argument 0) ⟨"1", none⟩ Tag.string ∧
    tags (.argument 1) ⟨"true", none⟩ Tag.bool ∧
    tags (.argument 2) ⟨"2", some ⟨"date"⟩⟩ ⟨"date"⟩ ∧
    tags .expected ⟨"3", none⟩ Tag.number ∧
    ∃ directive ∈ Directive.ofComment 3 comment,
      ∃ diagnostic,
        .rejected (directive.identity "pick") diagnostic ∈
          (Checker.standard.check symbol).findings ∧
        diagnostic.code = .unknownTag ∧
        ∃ assertion position token tag,
          directive.reading = .ok assertion ∧
          assertion.arguments.length = 3 ∧
          Checker.standard.FirstFailure comment assertion (position, token)
            (.unknownTag tag) := by
  intro comment symbol tags
  have first : tags (.argument 0) ⟨"1", none⟩ Tag.string :=
    (Checker.tags_iff 3).mpr (by decide)
  have second : tags (.argument 1) ⟨"true", none⟩ Tag.bool :=
    (Checker.tags_iff 3).mpr (by decide)
  have third : tags (.argument 2) ⟨"2", some ⟨"date"⟩⟩ ⟨"date"⟩ :=
    .own rfl
  have last : tags .expected ⟨"3", none⟩ Tag.number :=
    (Checker.tags_iff 3).mpr (by decide)
  let line : Line := ⟨1, "@assert - 1,true,2:date=>3".toList⟩
  let body := " - 1,true,2:date=>3".toList
  have lineMember : line ∈ Line.ofComment comment := by decide
  have ends : WordEnds body := endsWord_iff.mp (by decide)
  obtain ⟨ordinal, member⟩ :=
    Directive.exists_mem_ofComment 3 lineMember (by decide) ends
  let directive := Directive.ofLine 3 line body ordinal
  obtain ⟨_, _, found, unknown⟩ :=
    tokens_read_by_own_documented_or_default_tag Checker.standard symbol
      member
  let assertion : Assertion :=
    ⟨none, none,
      [⟨"1", none⟩, ⟨"true", none⟩, ⟨"2", some ⟨"date"⟩⟩], ⟨"3", none⟩⟩
  have reading : Assertion.read 3 body = .ok assertion := by decide
  have failure : Checker.standard.FirstFailure comment assertion
      (.argument 2, ⟨"2", some ⟨"date"⟩⟩) (.unknownTag ⟨"date"⟩) := by
    refine ⟨[(.argument 0, ⟨"1", none⟩), (.argument 1, ⟨"true", none⟩)],
      _, rfl, ?_, ⟨"date"⟩, third, rfl⟩
    simp only [List.forall_mem_cons, List.not_mem_nil, false_implies,
      implies_true, and_true]
    exact ⟨⟨_, Tag.string, first, rfl⟩, ⟨_, Tag.bool, second, rfl⟩⟩
  have rejected := ((found assertion reading rfl).2 _).mpr
    ⟨rfl, .refused failure⟩
  obtain ⟨read, position, token, tag, isRead, threeArguments, isFirst, _⟩ :=
    unknown _ _ rejected.1 rfl rfl
  exact ⟨first, second, third, last, directive, member, _, rejected.1, rfl,
    read, position, token, tag, isRead, threeArguments, isFirst⟩

end DocCheck
