import DocCheck.Proofs.Decoration
import DocCheck.Proofs.Joining
import DocCheck.Proofs.RoundTrip

/-!
# Written documentation

A parameter is written as a block on one line, and so is the type of the
result.  Such lines are read back from among any other lines: the parameters
in their order, and of the types of the result the last one.  The other lines
add nothing to them as long as no marker word of a parameter or of the result
ends in their contents.
-/

namespace DocCheck

/-! ## Written lines -/

/-- The types that fit into braces.  They are the texts that fit there as
the kind of a directive. -/
abbrev IsTypeName (type : String) : Prop :=
  IsKind type

namespace Parameter

/-- The parameters that can be read back: the name is a word, perhaps an
empty one, and without a type it is not taken for one. -/
structure WellFormed (parameter : Parameter) : Prop where
  type : ∀ type ∈ parameter.type, IsTypeName type
  noBlank : ∀ c ∈ parameter.name.toList, isBlank c = false
  noBrace : parameter.type = none → parameter.name.toList.head? ≠ some '{'

/-- A parameter as a line of a comment. -/
def written (parameter : Parameter) : String :=
  "/** @param " ++
    parameter.type.elim "" (fun type => "\x7b" ++ type ++ "\x7d ") ++
    parameter.name ++ " */"

end Parameter

/-- A line of a comment that documents a parameter, or the type of the
result behind one of its words, or neither of them. -/
inductive WrittenLine where
  | parameter (documented : Parameter)
  | result (word type : String)
  | other (raw : String)

namespace WrittenLine

def text : WrittenLine → String
  | parameter documented => documented.written
  | result word type => "/** " ++ word ++ " \x7b" ++ type ++ "\x7d */"
  | other raw => raw

def parameter? : WrittenLine → Option Parameter
  | parameter documented => some documented
  | _ => none

/-- The type of the result on a line. -/
def result? : WrittenLine → Option String
  | result _ type => some type
  | _ => none

/-- The lines that can be read back.  Another line may be of any content that
is not one of a parameter or of the result, so it may be a directive. -/
inductive WellFormed : WrittenLine → Prop
  | parameter {documented : Parameter} :
      documented.WellFormed → WellFormed (.parameter documented)
  | result {word type : String} :
      word = "@returns" ∨ word = "@return" → IsTypeName type →
      WellFormed (.result word type)
  | other {raw : String} :
      '\n' ∉ raw.toList →
      ¬ LineKind.parameter.Marks (undecorated raw.toList) →
      ¬ LineKind.result.Marks (undecorated raw.toList) →
      WellFormed (.other raw)

end WrittenLine

/-- A comment with the given lines, each with a line end of its own; the last
line may go without one. -/
inductive WrittenAs : List WrittenLine → String → Prop
  | empty : WrittenAs [] ""
  | last (line : WrittenLine) : WrittenAs [line] line.text
  | line {lines : List WrittenLine} {lineEnd rest : String}
      (line : WrittenLine) :
      lineEnd.toList ∈ lineEnds → WrittenAs lines rest →
      WrittenAs (line :: lines) (line.text ++ lineEnd ++ rest)

/-! ## Contents of lines -/

namespace LineKind

variable {raw : String}

/-- A text on one line has its content, when it is of the kind. -/
theorem contents_of_line (kind : LineKind) (newlineFree : '\n' ∉ raw.toList) :
    kind.contents raw =
      [undecorated raw.toList].filter fun content => kind.Marks content := by
  by_cases empty : raw.toList = []
  · have unmarked : ¬ kind.Marks (undecorated []) := by
      cases kind <;> decide
    simp [contents, Line.ofComment, empty, linesOf, unmarked]
  · rw [contents, Line.ofComment_of_newline_notMem empty newlineFree,
      List.map_singleton]

/-- Blanks behind a line have no part in its content. -/
theorem contents_append_spacing (kind : LineKind) {spacing : List Char}
    (newlineFree : '\n' ∉ raw.toList) (isSpacing : IsSpacing spacing) :
    kind.contents (raw ++ String.ofList spacing) = kind.contents raw := by
  have text : (raw ++ String.ofList spacing).toList =
      raw.toList ++ spacing := by
    rw [String.toList_append, String.toList_ofList]
  have wholeFree : '\n' ∉ (raw ++ String.ofList spacing).toList := by
    rw [text, List.mem_append, not_or]
    exact ⟨newlineFree, isSpacing.2⟩
  rw [kind.contents_of_line wholeFree, kind.contents_of_line newlineFree,
    text, undecorated_append_blank _ isSpacing.1]

end LineKind

/-! ## Blocks behind marker words -/

theorem wordEnds_trimEnd_cons (rest : List Char) :
    WordEnds (trimEnd (' ' :: rest)) := by
  obtain ⟨back, shape⟩ := trimEnd_isPrefix (' ' :: rest)
  intro c atHead
  obtain ⟨others, front⟩ := List.head?_eq_some_iff.mp atHead
  rw [front, List.cons_append] at shape
  rw [(List.cons.inj shape).1]
  exact .inl (by decide)

/-- A block on one line that begins with a marker word of a kind. -/
structure IsBlock (kind : LineKind) (word rest : List Char) (raw : String) :
    Prop where
  member : word ∈ kind.words
  newlineFree : '\n' ∉ rest
  shape :
    raw.toList =
      '/' :: '*' :: '*' :: ' ' ::
        ((word ++ ' ' :: rest) ++ [' ', '*', '/'])

namespace IsBlock

variable {kind : LineKind} {word rest : List Char} {raw : String}

/-- Only blanks before the closer are lost. -/
theorem undecorated_eq (block : IsBlock kind word rest raw) :
    undecorated raw.toList = word ++ trimEnd (' ' :: rest) := by
  have marker : word.head? = some '@' ∧
      word.getLast?.any isBlank = false := by
    have member := block.member
    clear block
    revert word
    cases kind <;> decide
  have atLast := (Option.any_eq_false _ _).mp marker.2
  have atHead : (word ++ ' ' :: rest).head? = some '@' := by
    rw [List.head?_append, marker.1, Option.some_or]
  have notBlank : ∀ c ∈ (word ++ ' ' :: rest).head?, isBlank c = false := by
    rw [atHead]
    exact (Option.any_eq_false _ _).mp (by decide)
  rw [block.shape, undecorated_block_eq_trim atHead, trim,
    trimStart_of_head notBlank, trimEnd_append atLast]

theorem newline_notMem (block : IsBlock kind word rest raw) :
    '\n' ∉ raw.toList := by
  have inWord : '\n' ∉ word := by
    intro member
    have unbroken := LineKind.unbroken_of_mem_words block.member _ member
    exact absurd isBlank_newline (by simp [unbroken.1])
  rw [block.shape]
  simp [inWord, block.newlineFree]

theorem marks (block : IsBlock kind word rest raw) :
    kind.Marks (undecorated raw.toList) :=
  ⟨word, block.member, _, block.undecorated_eq, wordEnds_trimEnd_cons rest⟩

theorem map_body_contents (block : IsBlock kind word rest raw) :
    (kind.contents raw).map kind.body = [trimEnd (' ' :: rest)] := by
  have marks := block.marks
  rw [kind.contents_of_line block.newline_notMem,
    List.filter_cons_of_pos (by simpa using marks), List.filter_nil,
    List.map_singleton, block.undecorated_eq,
    LineKind.body_append block.member (wordEnds_trimEnd_cons rest)]

/-- The line of a block has no content of another kind. -/
theorem contents_of_other_kind (block : IsBlock kind word rest raw)
    {other : LineKind} (different : other ≠ kind) :
    other.contents raw = [] := by
  have unmarked : ¬ other.Marks (undecorated raw.toList) :=
    fun otherMarks => different (otherMarks.unique block.marks)
  rw [other.contents_of_line block.newline_notMem]
  exact List.filter_cons_of_neg (by simpa using unmarked)

end IsBlock

/-! ## Types and names behind marker words -/

theorem splitType_of_ne_brace {text : List Char}
    (noBrace : text.head? ≠ some '{') : splitType text = (none, text) := by
  unfold splitType
  split
  · exact absurd rfl noBrace
  · rfl

/-- A type in braces is split off with the blanks behind it. -/
theorem IsKind.splitType_eq {type : String} (isKind : IsKind type)
    (after : List Char) :
    splitType ('{' :: (type.toList ++ '}' :: after)) =
      (some type, trimStart after) := by
  have nonempty := isKind.nonempty
  simp [splitType, cutAtFirst?_append isKind.unclosed,
    trim_of_trimmed isKind.trimmed, nonempty]

/-- A type in braces, with or without a word behind it, is read as the type
and the text behind it. -/
theorem IsKind.splitType_trimEnd {type : String} (isKind : IsKind type)
    (back : List Char) :
    splitType (trimStart
      (trimEnd (' ' :: '{' :: (type.toList ++ '}' :: back)))) =
        (some type, trimStart (trimEnd back)) := by
  have shape : ' ' :: '{' :: (type.toList ++ '}' :: back) =
      (' ' :: '{' :: type.toList ++ ['}']) ++ back := by simp
  have atLast : ∀ c ∈ (' ' :: '{' :: type.toList ++ ['}']).getLast?,
      isBlank c = false := by
    rw [List.getLast?_concat]
    exact (Option.any_eq_false _ _).mp (by decide)
  have started : trimStart
      ((' ' :: '{' :: type.toList ++ ['}']) ++ trimEnd back) =
        '{' :: (type.toList ++ '}' :: trimEnd back) := by
    rw [List.append_assoc, List.cons_append, trimStart_cons,
      if_pos (by decide), List.cons_append, List.singleton_append]
    exact trimStart_of_head (by simp; decide)
  rw [shape, trimEnd_append atLast, started, isKind.splitType_eq]

/-- A word behind a blank is what is left when the blanks at both sides are
taken off. -/
theorem trimStart_trimEnd_of_word {word : List Char}
    (noBlank : ∀ c ∈ word, isBlank c = false) :
    trimStart (trimEnd (' ' :: word)) = word := by
  cases word with
  | nil => decide
  | cons c others =>
      have atLast : ∀ last ∈ (' ' :: c :: others).getLast?,
          isBlank last = false := by
        intro last given
        rw [List.getLast?_cons_cons] at given
        exact noBlank last (List.mem_of_getLast? given)
      rw [trimEnd_of_last atLast, trimStart_cons, if_pos (by decide)]
      exact trimStart_of_head fun first atHead =>
        noBlank first (List.mem_of_mem_head? atHead)

namespace Parameter

variable {parameter : Parameter}

/-- What is written between the blank behind the marker word and the blank
before the closer. -/
def rest (parameter : Parameter) : List Char :=
  parameter.type.elim [] (fun type =>
    '{' :: (type.toList ++ ['}', ' '])) ++ parameter.name.toList

theorem WellFormed.isBlock (formed : parameter.WellFormed) :
    IsBlock .parameter ['@', 'p', 'a', 'r', 'a', 'm'] parameter.rest
      parameter.written where
  member := by decide
  newlineFree := by
    have inName : '\n' ∉ parameter.name.toList := by
      intro member
      have notBlank := formed.noBlank '\n' member
      rw [isBlank_newline] at notBlank
      cases notBlank
    rw [rest]
    cases hasType : parameter.type with
    | none => simpa using inName
    | some type =>
        simpa using ⟨(formed.type type hasType).newlineFree, inName⟩
  shape := by
    have opener : "/** @param ".toList =
        '/' :: '*' :: '*' :: ' ' ::
          (['@', 'p', 'a', 'r', 'a', 'm'] ++ [' ']) := by decide
    have openBrace : "\x7b".toList = ['{'] := by decide
    have closeBrace : "\x7d ".toList = ['}', ' '] := by decide
    have closing : " */".toList = [' ', '*', '/'] := by decide
    rw [written, rest]
    cases parameter.type with
    | none => simp [opener, closing]
    | some type => simp [opener, openBrace, closeBrace, closing]

/-- What is left of a written parameter behind its marker word is read as the
parameter. -/
theorem WellFormed.ofBody_rest (formed : parameter.WellFormed) :
    ofBody (trimEnd (' ' :: parameter.rest)) = parameter := by
  have nameLeft := trimStart_trimEnd_of_word formed.noBlank
  have nameRead : String.ofList (firstWord parameter.name.toList) =
      parameter.name := by
    have whole : firstWord parameter.name.toList =
        parameter.name.toList := by
      apply List.takeWhile_eq_self_iff.mpr
      intro c member
      rw [formed.noBlank c member, Bool.not_false]
    rw [whole, String.ofList_toList]
  have split : splitType (trimStart (trimEnd (' ' :: parameter.rest))) =
      (parameter.type, parameter.name.toList) := by
    rw [rest]
    cases hasType : parameter.type with
    | none =>
        rw [Option.elim_none, List.nil_append, nameLeft,
          splitType_of_ne_brace (formed.noBrace hasType)]
    | some type =>
        have behind := (formed.type type hasType).splitType_trimEnd
          (' ' :: parameter.name.toList)
        rw [nameLeft] at behind
        simpa using behind
  rw [ofBody, leadingType?, split, nameRead]

end Parameter

/-! ## Lines by their kinds -/

namespace WrittenLine

theorem isBlock_result {word type : String}
    (known : word = "@returns" ∨ word = "@return")
    (isTypeName : IsTypeName type) :
    IsBlock .result word.toList ('{' :: (type.toList ++ ['}']))
      (result word type).text where
  member := by
    rcases known with rfl | rfl <;> decide
  newlineFree := by simpa using isTypeName.newlineFree
  shape := by
    have opener : "/** ".toList = ['/', '*', '*', ' '] := by decide
    have openBrace : " \x7b".toList = [' ', '{'] := by decide
    have closing : "\x7d */".toList = ['}', ' ', '*', '/'] := by decide
    simp [text, opener, openBrace, closing]

namespace WellFormed

variable {line : WrittenLine}

theorem newline_notMem_text (formed : line.WellFormed) :
    '\n' ∉ line.text.toList := by
  cases formed with
  | parameter formed => exact formed.isBlock.newline_notMem
  | result known isTypeName =>
      exact (isBlock_result known isTypeName).newline_notMem
  | other newlineFree _ _ => exact newlineFree

theorem parameters_text (formed : line.WellFormed) :
    ((LineKind.parameter.contents line.text).map
        LineKind.parameter.body).map Parameter.ofBody =
      line.parameter?.toList := by
  cases formed with
  | parameter formed =>
      rw [text, formed.isBlock.map_body_contents, List.map_singleton,
        formed.ofBody_rest]
      rfl
  | result known isTypeName =>
      rw [(isBlock_result known isTypeName).contents_of_other_kind
        (by decide)]
      rfl
  | other newlineFree noParameter _ =>
      rw [text, LineKind.contents_of_line _ newlineFree,
        List.filter_cons_of_neg (by simpa using noParameter)]
      rfl

theorem results_text (formed : line.WellFormed) :
    ((LineKind.result.contents line.text).map
        LineKind.result.body).map leadingType? =
      (line.result?.map some).toList := by
  cases formed with
  | parameter formed =>
      rw [text, formed.isBlock.contents_of_other_kind (by decide)]
      rfl
  | result known isTypeName =>
      rw [(isBlock_result known isTypeName).map_body_contents,
        List.map_singleton, leadingType?, isTypeName.splitType_trimEnd]
      rfl
  | other newlineFree _ noResult =>
      rw [text, LineKind.contents_of_line _ newlineFree,
        List.filter_cons_of_neg (by simpa using noResult)]
      rfl

/-- Only another line can be a directive. -/
theorem directives_text_eq_nil_iff (formed : line.WellFormed) :
    LineKind.directive.contents line.text = [] ↔
      ∀ raw, line = .other raw →
        ¬ LineKind.directive.Marks (undecorated raw.toList) := by
  cases formed with
  | parameter formed =>
      rw [text, formed.isBlock.contents_of_other_kind (by decide)]
      simp
  | result known isTypeName =>
      rw [(isBlock_result known isTypeName).contents_of_other_kind
        (by decide)]
      simp
  | other newlineFree _ _ =>
      rw [text, LineKind.contents_of_line _ newlineFree]
      simp [List.filter_eq_nil_iff]

end WellFormed

end WrittenLine

/-! ## Written comments -/

namespace WrittenAs

variable {lines : List WrittenLine} {comment : String}

/-- The contents of a comment are those of its lines, one after the other. -/
theorem contents_eq (written : WrittenAs lines comment)
    (formed : ∀ line ∈ lines, line.WellFormed) (kind : LineKind) :
    kind.contents comment = lines.flatMap fun line =>
      kind.contents line.text := by
  induction written with
  | empty => cases kind <;> rfl
  | last line => simp
  | @line lines lineEnd rest line known _ inductionHypothesis =>
      obtain ⟨formedLine, formedOthers⟩ := List.forall_mem_cons.mp formed
      obtain ⟨spacing, isSpacing, shape⟩ := exists_blank_of_mem_lineEnds known
      have ended : lineEnd = String.ofList spacing ++ "\n" := by
        rw [← String.toList_inj, shape, String.toList_append,
          String.toList_ofList]
        rfl
      rw [ended, ← String.append_assoc, LineKind.contents_joined,
        kind.contents_append_spacing formedLine.newline_notMem_text isSpacing,
        inductionHypothesis formedOthers, List.flatMap_cons]

/-- Where every line is read as what it gives, so is the comment. -/
theorem map_contents {β : Type} (written : WrittenAs lines comment)
    (formed : ∀ line ∈ lines, line.WellFormed) {kind : LineKind}
    {read : List Char → β} {given : WrittenLine → Option β}
    (readLine : ∀ line : WrittenLine, line.WellFormed →
      ((kind.contents line.text).map kind.body).map read =
        (given line).toList) :
    (kind.contents comment).map (fun content => read (kind.body content)) =
      lines.filterMap given := by
  rw [List.filterMap_eq_flatMap_toList, written.contents_eq formed,
    List.map_flatMap]
  apply List.flatMap_congr
  intro line member
  rw [← readLine line (formed line member), List.map_map]
  rfl

end WrittenAs

theorem Directive.ofComment_eq_nil_iff {arity : Nat} {comment : String} :
    ofComment arity comment = [] ↔
      LineKind.directive.contents comment = [] := by
  have lengths := congrArg List.length (map_marked_ofComment comment)
  rw [List.length_map, List.length_map, ← length_ofLines arity] at lengths
  rw [← List.length_eq_zero_iff, ← List.length_eq_zero_iff, ← lengths,
    ofComment]

/-- However lines are written one after the other, the parameters are read
back in their order, and the type of the result is the last one written.
Directives are read only when one of the other lines is a directive. -/
theorem written_documentation_is_read_back {lines : List WrittenLine}
    {comment : String} (formed : ∀ line ∈ lines, line.WellFormed)
    (written : WrittenAs lines comment) (arity : Nat) :
    let documentation := Documentation.ofComment arity comment
    documentation.parameters = lines.filterMap WrittenLine.parameter? ∧
    documentation.returns = (lines.filterMap WrittenLine.result?).getLast? ∧
    (documentation.directives = [] ↔
      ∀ raw, .other raw ∈ lines →
        ¬ LineKind.directive.Marks (undecorated raw.toList)) := by
  intro documentation
  refine ⟨?_, ?_, ?_⟩
  · rw [Documentation.parameters_ofComment]
    exact written.map_contents formed fun _ => (·.parameters_text)
  · have results := written.map_contents formed fun _ => (·.results_text)
    rw [Documentation.returns_ofComment, results, ← List.map_filterMap,
      List.getLast?_map]
    cases (lines.filterMap WrittenLine.result?).getLast? <;> rfl
  · show Directive.ofComment arity comment = [] ↔ _
    rw [Directive.ofComment_eq_nil_iff, written.contents_eq formed,
      List.flatMap_eq_nil_iff]
    constructor
    · intro none raw member
      exact (formed _ member).directives_text_eq_nil_iff.mp
        (none _ member) raw rfl
    · intro unmarked line member
      rw [(formed line member).directives_text_eq_nil_iff]
      rintro raw rfl
      exact unmarked raw member

/-- A name that looks like a closer, a parameter without a name, a type with
a brace, and words that go on behind a marker word. -/
theorem parameters_between_longer_words_are_read_back :
    let lines : List WrittenLine :=
      [.other "@parameter \x7bText\x7d m", .parameter ⟨"*/", none⟩,
        .parameter ⟨"", some "Map<K, \x7bV"⟩, .result "@return" "*",
        .other " * @returnsX \x7bText\x7d"]
    let comment := "@parameter \x7bText\x7d m\n/** @param */ */\r\n" ++
      "/** @param \x7bMap<K, \x7bV\x7d  */\n/** @return \x7b*\x7d */\n" ++
      " * @returnsX \x7bText\x7d"
    (∀ line ∈ lines, line.WellFormed) ∧
    WrittenAs lines comment ∧
    (Documentation.ofComment 2 comment).parameters =
      [⟨"*/", none⟩, ⟨"", some "Map<K, \x7bV"⟩] ∧
    (Documentation.ofComment 2 comment).returns = some "*" ∧
    (Documentation.ofComment 2 comment).directives = [] := by
  intro lines comment
  have map : IsTypeName "Map<K, \x7bV" := by constructor <;> decide
  have star : IsTypeName "*" := by constructor <;> decide
  have named : Parameter.WellFormed ⟨"*/", none⟩ :=
    ⟨by simp, by simp; decide, by decide⟩
  have unnamed : Parameter.WellFormed ⟨"", some "Map<K, \x7bV"⟩ :=
    ⟨by simpa using map, by simp, by decide⟩
  have formed : ∀ line ∈ lines, line.WellFormed := by
    simp only [lines, List.forall_mem_cons, List.not_mem_nil,
      false_implies, implies_true, and_true]
    exact ⟨.other (by decide) (by decide) (by decide), .parameter named,
      .parameter unnamed, .result (.inr rfl) star,
      .other (by decide) (by decide) (by decide)⟩
  have shape : comment =
      (WrittenLine.other "@parameter \x7bText\x7d m").text ++ "\n" ++
        ((WrittenLine.parameter ⟨"*/", none⟩).text ++ "\r\n" ++
          ((WrittenLine.parameter ⟨"", some "Map<K, \x7bV"⟩).text ++ "\n" ++
            ((WrittenLine.result "@return" "*").text ++ "\n" ++
              (WrittenLine.other " * @returnsX \x7bText\x7d").text))) := by
    decide
  have written : WrittenAs lines comment := by
    rw [shape]
    exact .line _ (by decide) <| .line _ (by decide) <|
      .line _ (by decide) <| .line _ (by decide) <| .last _
  have unmarked : ∀ raw, .other raw ∈ lines →
      ¬ LineKind.directive.Marks (undecorated raw.toList) := by
    intro raw member
    simp only [lines, List.mem_cons, WrittenLine.other.injEq, reduceCtorEq,
      List.not_mem_nil, or_false, false_or] at member
    rcases member with rfl | rfl <;> decide
  obtain ⟨parameters, returns, directives⟩ :=
    written_documentation_is_read_back formed written 2
  exact ⟨formed, written, parameters, returns, directives.mpr unmarked⟩

end DocCheck
