import DocCheck.Proofs.Grammar
import DocCheck.Proofs.Tokens

/-!
# Written directives

An assertion is written as a directive in a block on one line.  What reading
gives is well formed, and a well-formed assertion is read back from its
written form, so writing and reading again changes nothing.
-/

namespace DocCheck

/-- The kinds that reading can give. -/
structure IsKind (kind : String) : Prop where
  trimmed : IsTrimmed kind.toList
  nonempty : kind.toList ≠ []
  unclosed : '}' ∉ kind.toList
  newlineFree : '\n' ∉ kind.toList

/-- The names that reading can give. -/
structure IsName (name : String) : Prop where
  nonempty : name.toList ≠ []
  noBlank : ∀ c ∈ name.toList, isBlank c = false
  noDash : name.toList.head? ≠ some '-'

namespace Assertion

/-- The assertions that reading can give, for a symbol of an arity.  Without
a kind no name begins with a brace. -/
structure WellFormed (arity : Nat) (assertion : Assertion) : Prop where
  kind : ∀ kind ∈ assertion.kind, IsKind kind
  name : ∀ name ∈ assertion.name, IsName name
  noBrace :
    assertion.kind = none →
      ∀ name ∈ assertion.name, name.toList.head? ≠ some '{'
  arguments : ∀ token ∈ assertion.arguments, token.WellFormed
  commaFree : ∀ token ∈ assertion.arguments, ',' ∉ token.text.toList
  expected : assertion.expected.WellFormed
  noArgument : assertion.arguments = [] → arity = 0
  blankArgument : assertion.arguments = [Token.blank] → 0 < arity

def writtenArguments (assertion : Assertion) : List Char :=
  [','].intercalate (assertion.arguments.map fun token =>
    token.written.toList)

/-- The layout in which an assertion is written. -/
def layout (assertion : Assertion) : Layout where
  head :=
    { lead := [' ']
      kind := assertion.kind.map fun kind => ⟨kind.toList, [' ']⟩
      name := assertion.name.map fun name => ⟨name.toList, [' ']⟩ }
  arguments := ' ' :: assertion.writtenArguments
  expected := assertion.expected.written.toList

/-- The comment with the directive of an assertion. -/
def written (assertion : Assertion) : String :=
  "/** @assert " ++
    assertion.kind.elim "" (fun kind => "\x7b" ++ kind ++ "\x7d ") ++
    assertion.name.elim "" (fun name => name ++ " ") ++
    "- " ++ ",".intercalate (assertion.arguments.map Token.written) ++
    "=>" ++ assertion.expected.written ++ " */"

theorem toList_writtenArguments (assertion : Assertion) :
    (",".intercalate (assertion.arguments.map Token.written)).toList =
      assertion.writtenArguments := by
  have comma : ",".toList = [','] := by decide
  rw [String.toList_intercalate, List.map_map, comma]
  rfl

theorem toList_written (assertion : Assertion) :
    assertion.written.toList =
      '/' :: '*' :: '*' :: ' ' ::
        (Directive.marker ++ assertion.layout.text ++ [' ', '*', '/']) := by
  have opener : "/** @assert ".toList =
      '/' :: '*' :: '*' :: ' ' :: (Directive.marker ++ [' ']) := by decide
  have openBrace : "\x7b".toList = ['{'] := by decide
  have closeBrace : "\x7d ".toList = ['}', ' '] := by decide
  have blank : " ".toList = [' '] := by decide
  have dash : "- ".toList = ['-', ' '] := by decide
  have arrowText : "=>".toList = ['=', '>'] := by decide
  have closing : " */".toList = [' ', '*', '/'] := by decide
  have kindText :
      (assertion.kind.elim ""
        (fun kind => "\x7b" ++ kind ++ "\x7d ")).toList =
        (assertion.layout.head.kind.elim [] KindPart.text) := by
    cases hasKind : assertion.kind with
    | none => simp [layout, hasKind]
    | some kind =>
        simp [layout, hasKind, KindPart.text, openBrace, closeBrace]
  have nameText :
      (assertion.name.elim "" (fun name => name ++ " ")).toList =
        (assertion.layout.head.name.elim [] NamePart.text) := by
    cases hasName : assertion.name with
    | none => simp [layout, hasName]
    | some name => simp [layout, hasName, NamePart.text, blank]
  unfold written
  simp only [String.toList_append, toList_writtenArguments,
    opener, kindText, nameText, dash, arrowText, closing]
  simp only [Layout.text, Head.text, layout, List.append_assoc,
    List.cons_append, List.nil_append]

end Assertion

/-! ## What reading gives is well formed -/

theorem KindPart.WellFormed.isKind_value {part : KindPart}
    (formed : part.WellFormed) (newlineFree : '\n' ∉ part.inner) :
    IsKind part.value where
  trimmed := by
    rw [value, String.toList_ofList]
    exact isTrimmed_trim part.inner
  nonempty := by
    rw [value, String.toList_ofList, ne_eq, trim_eq_nil_iff]
    exact formed.notBlank
  unclosed := by
    rw [value, String.toList_ofList]
    exact fun member => formed.unclosed (mem_of_mem_trim member)
  newlineFree := by
    rw [value, String.toList_ofList]
    exact fun member => newlineFree (mem_of_mem_trim member)

theorem NamePart.WellFormed.isName_value {part : NamePart}
    (formed : part.WellFormed) : IsName part.value where
  nonempty := by
    rw [value, String.toList_ofList]
    exact formed.nonempty
  noBlank := by
    rw [value, String.toList_ofList]
    exact formed.noBlank
  noDash := by
    rw [value, String.toList_ofList]
    exact formed.noDash

namespace Layout

variable {layout : Layout} {arity : Nat}

theorem exists_piece_of_mem {token : Token}
    (member : token ∈ layout.argumentTokens arity) :
    ∃ piece, piece <:+: layout.arguments ∧ ',' ∉ piece ∧
      token = Token.parse piece := by
  unfold argumentTokens at member
  split at member
  · split at member
    · cases member
    · refine ⟨[], List.nil_infix, by simp, ?_⟩
      rw [Token.parse_nil]
      exact List.mem_singleton.mp member
  · obtain ⟨piece, inPieces, reading⟩ := List.mem_map.mp member
    exact ⟨piece, isInfix_of_mem_splitOn inPieces,
      notMem_of_mem_splitOn inPieces, reading.symm⟩

theorem arity_eq_zero_of_no_argument
    (noArgument : layout.argumentTokens arity = []) : arity = 0 := by
  unfold argumentTokens at noArgument
  split at noArgument
  · split at noArgument
    · assumption
    · cases noArgument
  · exact absurd (List.map_eq_nil_iff.mp noArgument)
      (List.splitOn_ne_nil ',' _)

theorem arity_pos_of_blank_argument
    (blankArgument : layout.argumentTokens arity = [Token.blank]) :
    0 < arity := by
  unfold argumentTokens at blankArgument
  split at blankArgument
  · split at blankArgument
    · cases blankArgument
    · exact Nat.pos_of_ne_zero ‹_›
  · next notBlank =>
      -- A single piece is the whole text of the arguments.
      obtain ⟨piece, others, pieces, reading, noOthers⟩ :=
        List.map_eq_cons_iff.mp blankArgument
      rw [List.map_eq_nil_iff.mp noOthers] at pieces
      have whole : [','].intercalate (layout.arguments.splitOn ',') =
          layout.arguments := List.intercalate_splitOn ','
      rw [pieces, List.intercalate_singleton] at whole
      rw [whole] at reading
      exact absurd (Token.isBlankText_of_parse_eq_blank reading) notBlank

theorem inner_subset_text {part : KindPart}
    (hasKind : layout.head.kind = some part) : part.inner ⊆ layout.text := by
  intro c member
  simp [text, Head.text, hasKind, KindPart.text, member]

theorem arguments_subset_text : layout.arguments ⊆ layout.text := by
  intro c member
  simp [text, member]

theorem expected_subset_text : layout.expected ⊆ layout.text := by
  intro c member
  simp [text, member]

theorem WellFormed.wellFormed_of_mem (formed : layout.WellFormed)
    (newlineFree : '\n' ∉ layout.text) {token : Token}
    (member : token ∈ layout.argumentTokens arity) :
    token.WellFormed ∧ ',' ∉ token.text.toList := by
  obtain ⟨piece, inText, commaFree, rfl⟩ := exists_piece_of_mem member
  have arrowFree : ¬ arrow <:+: piece :=
    fun present => formed.arguments (present.trans inText)
  have pieceNewlineFree : '\n' ∉ piece := fun inPiece =>
    newlineFree (arguments_subset_text (inText.subset inPiece))
  refine ⟨Token.wellFormed_parse arrowFree pieceNewlineFree, ?_⟩
  intro inToken
  exact commaFree ((Token.text_parse_isInfix piece).subset inToken)

/-- A layout on one line gives a well-formed assertion. -/
theorem WellFormed.wellFormed_assertion (formed : layout.WellFormed)
    (newlineFree : '\n' ∉ layout.text) :
    (layout.assertion arity).WellFormed arity := by
  constructor
  case kind =>
    intro kind hasKind
    obtain ⟨part, hasPart, rfl⟩ := Option.map_eq_some_iff.mp hasKind
    exact (formed.head.kind part hasPart).isKind_value
      fun member => newlineFree (inner_subset_text hasPart member)
  case name =>
    intro name hasName
    obtain ⟨part, hasPart, rfl⟩ := Option.map_eq_some_iff.mp hasName
    exact (formed.head.name part hasPart).isName_value
  case noBrace =>
    intro noKind name hasName
    obtain ⟨part, hasPart, rfl⟩ := Option.map_eq_some_iff.mp hasName
    rw [NamePart.value, String.toList_ofList]
    exact formed.head.noBrace (Option.map_eq_none_iff.mp noKind) part
      hasPart
  case arguments =>
    intro token member
    exact (formed.wellFormed_of_mem newlineFree member).1
  case commaFree =>
    intro token member
    exact (formed.wellFormed_of_mem newlineFree member).2
  case expected =>
    exact Token.wellFormed_parse formed.expected
      fun member => newlineFree (expected_subset_text member)
  case noArgument => exact arity_eq_zero_of_no_argument
  case blankArgument => exact arity_pos_of_blank_argument

end Layout

theorem Directive.wellFormed_of_mem_ofComment {arity : Nat}
    {comment : String} {directive : Directive} {assertion : Assertion}
    (member : directive ∈ ofComment arity comment)
    (reading : directive.reading = .ok assertion) :
    assertion.WellFormed arity := by
  obtain ⟨line, body, ordinal, inComment, shape, _, rfl⟩ :=
    exists_line_of_mem_ofComment member
  obtain ⟨layout, formed, rfl, rfl⟩ :=
    Assertion.read_eq_ok_iff.mp reading
  apply formed.wellFormed_assertion
  intro inText
  apply Line.newline_notMem_content inComment
  rw [shape]
  exact List.mem_append_right marker inText

/-! ## Well-formed assertions are read back -/

theorem IsKind.kindPart {kind : String} (isKind : IsKind kind) :
    KindPart.WellFormed ⟨kind.toList, [' ']⟩ where
  unclosed := isKind.unclosed
  notBlank blank :=
    isKind.nonempty (eq_nil_of_blank_of_trimmed blank isKind.trimmed)
  gap := isBlankText_space

theorem IsName.namePart {name : String} (isName : IsName name) :
    NamePart.WellFormed ⟨name.toList, [' ']⟩ where
  nonempty := isName.nonempty
  noBlank := isName.noBlank
  noDash := isName.noDash
  gapNonempty := List.cons_ne_nil _ _
  gap := isBlankText_space

namespace Assertion

variable {arity : Nat} {assertion : Assertion}

theorem WellFormed.layout_wellFormed
    (formed : assertion.WellFormed arity) : assertion.layout.WellFormed where
  head := {
    lead := isBlankText_space
    kind := by
      intro part hasPart
      obtain ⟨kind, hasKind, rfl⟩ := Option.map_eq_some_iff.mp hasPart
      exact (formed.kind kind hasKind).kindPart
    name := by
      intro part hasPart
      obtain ⟨name, hasName, rfl⟩ := Option.map_eq_some_iff.mp hasPart
      exact (formed.name name hasName).namePart
    noBrace := by
      intro noKind part hasPart
      obtain ⟨name, hasName, rfl⟩ := Option.map_eq_some_iff.mp hasPart
      exact formed.noBrace (Option.map_eq_none_iff.mp noKind) name hasName }
  arguments := by
    have free : ¬ arrow <:+: assertion.writtenArguments := by
      apply arrowFree_intercalate (by decide) (by decide)
      intro text member
      obtain ⟨token, inArguments, rfl⟩ := List.mem_map.mp member
      exact (formed.arguments token inArguments).arrowFree_written
    rw [layout, arrow_infix_cons_iff, not_or]
    exact ⟨by simp, free⟩
  expected := formed.expected.arrowFree_written

theorem WellFormed.commaFree_written (formed : assertion.WellFormed arity)
    {token : Token} (member : token ∈ assertion.arguments) :
    ',' ∉ token.written.toList :=
  (formed.arguments token member).notMem_written (by decide) (by decide)
    (formed.commaFree token member)

/-- The pieces between the written commas are the written arguments, of which
the first has the blank behind the dash. -/
theorem WellFormed.splitOn_layout_arguments
    (formed : assertion.WellFormed arity) {token : Token}
    {tokens : List Token}
    (atArguments : assertion.arguments = token :: tokens) :
    assertion.layout.arguments.splitOn ',' =
      (' ' :: token.written.toList) ::
        tokens.map fun other => other.written.toList := by
  have shape : assertion.layout.arguments =
      [','].intercalate ((' ' :: token.written.toList) ::
        tokens.map fun other => other.written.toList) := by
    rw [layout, writtenArguments, atArguments, List.map_cons]
    cases tokens with
    | nil => simp
    | cons next others => simp
  rw [shape]
  apply List.splitOn_intercalate
  · intro piece member
    rcases List.mem_cons.mp member with rfl | inOthers
    · have absent : ',' ∉ token.written.toList :=
        formed.commaFree_written (by simp [atArguments])
      simpa using absent
    · obtain ⟨other, inTokens, rfl⟩ := List.mem_map.mp inOthers
      exact formed.commaFree_written (by simp [atArguments, inTokens])
  · exact List.cons_ne_nil _ _

/-- Only a single blank argument is written as blanks. -/
theorem WellFormed.eq_blank_of_isBlankText
    (formed : assertion.WellFormed arity) {token : Token}
    {tokens : List Token}
    (atArguments : assertion.arguments = token :: tokens)
    (blank : IsBlankText assertion.layout.arguments) :
    token = Token.blank ∧ tokens = [] := by
  have pieces := formed.splitOn_layout_arguments atArguments
  constructor
  · have firstPiece : ' ' :: token.written.toList ∈
        assertion.layout.arguments.splitOn ',' := by
      rw [pieces]
      exact List.mem_cons_self
    have inText : ' ' :: token.written.toList <:+:
        assertion.layout.arguments := isInfix_of_mem_splitOn firstPiece
    have blankWritten : IsBlankText token.written.toList :=
      fun c member => blank c (inText.subset (List.mem_cons_of_mem _ member))
    have tokenFormed := formed.arguments token (by simp [atArguments])
    exact Token.written_eq_nil_iff.mp <|
      eq_nil_of_blank_of_trimmed blankWritten
        tokenFormed.toCanonical.isTrimmed_written
  · have commaFree : ',' ∉ assertion.layout.arguments :=
      fun member => absurd (blank ',' member) (by decide)
    rw [List.splitOn_eq_singleton commaFree, List.cons.injEq] at pieces
    exact List.map_eq_nil_iff.mp pieces.2.symm

theorem WellFormed.argumentTokens_layout
    (formed : assertion.WellFormed arity) :
    assertion.layout.argumentTokens arity = assertion.arguments := by
  cases atArguments : assertion.arguments with
  | nil =>
      have shape : assertion.layout.arguments = [' '] := by
        simp [layout, writtenArguments, atArguments]
      rw [Layout.argumentTokens, shape, if_pos isBlankText_space,
        if_pos (formed.noArgument atArguments)]
  | cons token tokens =>
      rw [Layout.argumentTokens]
      by_cases blank : IsBlankText assertion.layout.arguments
      · obtain ⟨rfl, rfl⟩ :=
          formed.eq_blank_of_isBlankText atArguments blank
        have positive := formed.blankArgument atArguments
        rw [if_pos blank, if_neg (Nat.ne_of_gt positive)]
        rfl
      · have readBack : ∀ other ∈ token :: tokens,
            Token.parse other.written.toList = other := by
          intro other member
          rw [← atArguments] at member
          exact (formed.arguments other member).toCanonical.parse_written
        have first :
            Token.parse (' ' :: token.written.toList) = token :=
          (Token.parse_blank_append isBlankText_space _).trans
            (readBack token List.mem_cons_self)
        have others :
            (tokens.map fun other => other.written.toList).map Token.parse =
              tokens := by
          rw [List.map_map]
          exact (List.map_congr_left (g := id) fun other member =>
            readBack other (List.mem_cons_of_mem token member)).trans
              (List.map_id tokens)
        rw [if_neg blank, formed.splitOn_layout_arguments atArguments,
          List.map_cons, first, others]

/-- The layout in which a well-formed assertion is written asserts it. -/
theorem WellFormed.assertion_layout (formed : assertion.WellFormed arity) :
    assertion.layout.assertion arity = assertion := by
  have kind :
      assertion.layout.head.kind.map KindPart.value = assertion.kind := by
    cases hasKind : assertion.kind with
    | none => simp [layout, hasKind]
    | some kind =>
        have isKind := formed.kind kind hasKind
        simp [layout, hasKind, KindPart.value,
          trim_of_trimmed isKind.trimmed]
  have name :
      assertion.layout.head.name.map NamePart.value = assertion.name := by
    cases hasName : assertion.name with
    | none => simp [layout, hasName]
    | some name => simp [layout, hasName, NamePart.value]
  have expected :
      Token.parse assertion.layout.expected = assertion.expected :=
    formed.expected.toCanonical.parse_written
  rw [Layout.assertion, kind, name, formed.argumentTokens_layout, expected]

theorem WellFormed.newline_notMem_head
    (formed : assertion.WellFormed arity) :
    '\n' ∉ assertion.layout.head.text := by
  have kind :
      '\n' ∉ assertion.layout.head.kind.elim [] KindPart.text := by
    cases hasKind : assertion.kind with
    | none => simp [layout, hasKind]
    | some kind =>
        have absent := (formed.kind kind hasKind).newlineFree
        simp [layout, hasKind, KindPart.text, absent]
  have name :
      '\n' ∉ assertion.layout.head.name.elim [] NamePart.text := by
    cases hasName : assertion.name with
    | none => simp [layout, hasName]
    | some name =>
        have absent : '\n' ∉ name.toList := by
          intro member
          have notBlank := (formed.name name hasName).noBlank _ member
          rw [isBlank_newline] at notBlank
          cases notBlank
        simp [layout, hasName, NamePart.text, absent]
  have lead : '\n' ∉ assertion.layout.head.lead := by simp [layout]
  simp only [Head.text, List.mem_append, not_or]
  exact ⟨⟨lead, kind⟩, name⟩

theorem WellFormed.newline_notMem_layout
    (formed : assertion.WellFormed arity) :
    '\n' ∉ assertion.layout.text := by
  have token : ∀ token : Token, token.WellFormed →
      '\n' ∉ token.written.toList := fun token tokenFormed =>
    tokenFormed.notMem_written (by decide) (by decide)
      tokenFormed.newlineFree
  have arguments : '\n' ∉ assertion.writtenArguments := by
    intro member
    rcases mem_intercalate member with atComma | ⟨text, inTexts, inText⟩
    · exact absurd atComma (by decide)
    · obtain ⟨argument, inArguments, rfl⟩ := List.mem_map.mp inTexts
      exact token argument (formed.arguments argument inArguments) inText
  have head := formed.newline_notMem_head
  have expected := token assertion.expected formed.expected
  simp only [Layout.text, List.mem_append, List.mem_cons, not_or]
  refine ⟨head, by decide, ?_, by decide, by decide, expected⟩
  rw [layout, List.mem_cons, not_or]
  exact ⟨by decide, arguments⟩

theorem WellFormed.isTrimmed_content
    (formed : assertion.WellFormed arity) :
    IsTrimmed (Directive.marker ++ assertion.layout.text) := by
  -- The text ends in its expected result, or in the arrow.
  have shape : Directive.marker ++ assertion.layout.text =
      (Directive.marker ++ assertion.layout.head.text ++
        '-' :: (assertion.layout.arguments ++ ['='])) ++
        '>' :: assertion.layout.expected := by
    simp [Layout.text]
  have ending : IsTrimmed ('>' :: assertion.layout.expected) :=
    isTrimmed_cons (by decide) formed.expected.toCanonical.isTrimmed_written.2
  rw [shape]
  refine ending.append_left (List.cons_ne_nil _ _) ?_
  intro c atHead
  cases atHead
  decide

/-- A well-formed assertion is read back from its written form. -/
theorem WellFormed.ofComment_written (formed : assertion.WellFormed arity) :
    ∃ directive,
      Directive.ofComment arity assertion.written = [directive] ∧
      directive.reading = .ok assertion := by
  have newlineFree : '\n' ∉ assertion.written.toList := by
    have absent := formed.newline_notMem_layout
    rw [toList_written]
    simp [Directive.marker, absent]
  have content : undecorated assertion.written.toList =
      Directive.marker ++ assertion.layout.text := by
    rw [toList_written]
    exact undecorated_block formed.isTrimmed_content rfl
  have single : Line.ofComment assertion.written =
      [⟨1, Directive.marker ++ assertion.layout.text⟩] := by
    rw [Line.ofComment_of_newline_notMem _ newlineFree, content]
    rw [toList_written]
    exact List.cons_ne_nil _ _
  have ends : WordEnds assertion.layout.text := by
    intro c given
    cases given
    exact Or.inl (by decide)
  refine ⟨_, Directive.ofComment_of_line arity single rfl ends, ?_⟩
  exact read_eq_ok_iff.mpr ⟨assertion.layout, formed.layout_wellFormed, rfl,
    formed.assertion_layout.symm⟩

end Assertion

/-- What directives read as is well formed, and every well-formed assertion
is read back, as the only directive, from the comment in which it is
written. -/
theorem reading_undoes_writing (arity : Nat) :
    (∀ comment, ∀ directive ∈ Directive.ofComment arity comment,
      ∀ assertion, directive.reading = .ok assertion →
        assertion.WellFormed arity ∧
        ∃ again, Directive.ofComment arity assertion.written = [again] ∧
          again.reading = .ok assertion) ∧
    ∀ assertion : Assertion, assertion.WellFormed arity →
      ∃ directive,
        Directive.ofComment arity assertion.written = [directive] ∧
        directive.reading = .ok assertion := by
  constructor
  · intro comment directive member assertion reading
    have formed :=
      Directive.wellFormed_of_mem_ofComment member reading
    exact ⟨formed, formed.ofComment_written⟩
  · intro assertion formed
    exact formed.ofComment_written

/-- A directive with separators at the ends of its tokens. -/
theorem reading_undoes_writing_beside_separators :
    ∃ assertion : Assertion,
      assertion.arguments = [⟨"x=", none⟩, ⟨"", some Tag.number⟩] ∧
      assertion.expected = ⟨">*/", none⟩ ∧
      assertion.WellFormed 2 ∧
      ∃ directive,
        Directive.ofComment 2 assertion.written = [directive] ∧
        directive.reading = .ok assertion := by
  let comment := "/** @assert - x= , :number=>>*/ */"
  let line : Line := ⟨1, "@assert - x= , :number=>>*/".toList⟩
  let assertion : Assertion :=
    ⟨none, none, [⟨"x=", none⟩, ⟨"", some Tag.number⟩], ⟨">*/", none⟩⟩
  have single : Line.ofComment comment = [line] := by decide
  have ends : WordEnds " - x= , :number=>>*/".toList := by
    intro c given
    cases given
    exact Or.inl (by decide)
  have member : Directive.ofLine 2 line " - x= , :number=>>*/".toList 1 ∈
      Directive.ofComment 2 comment := by
    rw [Directive.ofComment_of_line 2 single (by decide) ends]
    exact List.mem_singleton_self _
  have reading :
      Assertion.read 2 " - x= , :number=>>*/".toList = .ok assertion := by
    decide
  obtain ⟨formed, again⟩ :=
    (reading_undoes_writing 2).1 comment _ member assertion reading
  exact ⟨assertion, rfl, rfl, formed, again⟩

end DocCheck
