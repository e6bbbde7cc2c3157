import DocCheck.Comment.Documentation
import DocCheck.Proofs.CommentLines

/-!
# Kinds of lines

Three kinds of lines are read from a comment: those of parameters, those of
the result, and directives.  A line is of a kind when its content begins with
a marker word of the kind, and it is of one kind at most.  Each part of the
documentation is read from the contents of its own kind, one after the other,
and from nothing else; the number of a line only names its directive.
-/

namespace DocCheck

/-! ## Marker words -/

/-- A content that begins with a word. -/
def BeginsWith (word content : List Char) : Prop :=
  ∃ rest, content = word ++ rest ∧ WordEnds rest

theorem afterWord?_isSome_iff {word content : List Char} :
    (afterWord? word content).isSome = true ↔ BeginsWith word content := by
  rw [Option.isSome_iff_exists]
  exact exists_congr fun _ => afterWord?_eq_some_iff

instance (word content : List Char) : Decidable (BeginsWith word content) :=
  decidable_of_iff _ afterWord?_isSome_iff

/-- A word without blanks and opening braces is all that stands before the
first of these. -/
theorem BeginsWith.takeWhile_eq {word content : List Char}
    (begins : BeginsWith word content)
    (unbroken : ∀ c ∈ word, isBlank c = false ∧ c ≠ '{') :
    content.takeWhile (fun c => !isBlank c && c != '{') = word := by
  obtain ⟨rest, rfl, ends⟩ := begins
  apply takeWhile_append_of_boundary
  · intro c member
    simp [unbroken c member]
  · intro c atHead
    rcases ends c atHead with blank | rfl
    · simp [blank]
    · simp

/-- The kinds of lines that are read from a comment. -/
inductive LineKind where
  | parameter
  | result
  | directive
deriving DecidableEq, Repr

namespace LineKind

/-- The words that mark the lines of a kind. -/
def words : LineKind → List (List Char)
  | parameter => [['@', 'p', 'a', 'r', 'a', 'm']]
  | result =>
      [['@', 'r', 'e', 't', 'u', 'r', 'n', 's'],
        ['@', 'r', 'e', 't', 'u', 'r', 'n']]
  | directive => [Directive.marker]

/-- The contents of a kind begin with one of its words. -/
def Marks (kind : LineKind) (content : List Char) : Prop :=
  ∃ word ∈ kind.words, BeginsWith word content

instance (kind : LineKind) (content : List Char) :
    Decidable (kind.Marks content) :=
  inferInstanceAs (Decidable (∃ word ∈ kind.words, _))

/-- The contents of the lines of a kind, in the order of the comment. -/
def contents (kind : LineKind) (comment : String) : List (List Char) :=
  ((Line.ofComment comment).map Line.content).filter fun content =>
    kind.Marks content

theorem unbroken_of_mem_words {kind : LineKind} {word : List Char}
    (member : word ∈ kind.words) :
    ∀ c ∈ word, isBlank c = false ∧ c ≠ '{' := by
  have unbroken : (kind.words.all fun word =>
      word.all fun c => !isBlank c && c != '{') = true := by
    cases kind <;> decide
  intro c inWord
  simpa using
    List.all_eq_true.mp (List.all_eq_true.mp unbroken word member) c inWord

theorem eq_of_mem_words {kind other : LineKind} {word : List Char}
    (member : word ∈ kind.words) (otherMember : word ∈ other.words) :
    kind = other := by
  revert member otherMember word
  cases kind <;> cases other <;> decide

/-- A content is of one kind at most. -/
theorem Marks.unique {kind other : LineKind} {content : List Char}
    (marks : kind.Marks content) (otherMarks : other.Marks content) :
    kind = other := by
  obtain ⟨word, member, begins⟩ := marks
  obtain ⟨otherWord, otherMember, otherBegins⟩ := otherMarks
  have same : word = otherWord := by
    rw [← begins.takeWhile_eq (unbroken_of_mem_words member),
      otherBegins.takeWhile_eq (unbroken_of_mem_words otherMember)]
  exact eq_of_mem_words member (same ▸ otherMember)

/-! ## What follows the marker -/

variable {kind : LineKind} {content : List Char}

/-- What follows the marker word of a content, when it is of the kind. -/
def body? (kind : LineKind) (content : List Char) : Option (List Char) :=
  kind.words.findSome? fun word => afterWord? word content

/-- What follows the marker word of a content of the kind. -/
def body (kind : LineKind) (content : List Char) : List Char :=
  (kind.body? content).getD []

theorem body?_isSome_iff :
    (kind.body? content).isSome = true ↔ kind.Marks content := by
  simp only [body?, List.findSome?_isSome_iff, afterWord?_isSome_iff, Marks]

theorem body?_eq_none (unmarked : ¬ kind.Marks content) :
    kind.body? content = none := by
  rwa [← body?_isSome_iff, Bool.not_eq_true, Option.isSome_eq_false_iff,
    Option.isNone_iff_eq_none] at unmarked

/-- What is of one kind is not read as another. -/
theorem body?_of_other_kind {other : LineKind} (marks : kind.Marks content)
    (different : kind ≠ other) : other.body? content = none :=
  body?_eq_none fun otherMarks => different (marks.unique otherMarks)

theorem body?_of_marks (marks : kind.Marks content) :
    kind.body? content = some (kind.body content) := by
  obtain ⟨rest, found⟩ :=
    Option.isSome_iff_exists.mp (body?_isSome_iff.mpr marks)
  rw [body, found, Option.getD_some]

theorem exists_word_append_body (marks : kind.Marks content) :
    ∃ word ∈ kind.words, content = word ++ kind.body content ∧
      WordEnds (kind.body content) := by
  obtain ⟨word, member, found⟩ :=
    List.exists_of_findSome?_eq_some (body?_of_marks marks)
  exact ⟨word, member, afterWord?_eq_some_iff.mp found⟩

/-- No other word of the kind fits a content. -/
theorem body_append {word rest : List Char} (member : word ∈ kind.words)
    (ends : WordEnds rest) : kind.body (word ++ rest) = rest := by
  have begins : BeginsWith word (word ++ rest) := ⟨rest, rfl, ends⟩
  obtain ⟨other, otherMember, shape, otherEnds⟩ :=
    exists_word_append_body ⟨word, member, begins⟩
  have otherBegins : BeginsWith other (word ++ rest) :=
    ⟨_, shape, otherEnds⟩
  have same : other = word := by
    rw [← otherBegins.takeWhile_eq (unbroken_of_mem_words otherMember),
      begins.takeWhile_eq (unbroken_of_mem_words member)]
  rw [same] at shape
  exact (List.append_cancel_left shape).symm

/-- Whatever is read line by line is read from the contents of its kind. -/
theorem filterMap_ofComment {β : Type} (kind : LineKind) (comment : String)
    (read : List Char → List Char → β) :
    (Line.ofComment comment).filterMap (fun line =>
        (kind.body? line.content).map (read line.content)) =
      (kind.contents comment).map fun content =>
        read content (kind.body content) := by
  unfold contents
  generalize Line.ofComment comment = lines
  induction lines with
  | nil => rfl
  | cons line others inductionHypothesis =>
      rw [List.map_cons]
      by_cases marks : kind.Marks line.content
      · rw [List.filterMap_cons_some (by rw [body?_of_marks marks]; rfl),
          List.filter_cons_of_pos (by simpa using marks), List.map_cons,
          inductionHypothesis]
      · rw [List.filterMap_cons_none (by rw [body?_eq_none marks]; rfl),
          List.filter_cons_of_neg (by simpa using marks),
          inductionHypothesis]

end LineKind

/-! ## Documentation by kinds of lines -/

/-- The type at the front of a text. -/
def leadingType? (text : List Char) : Option String :=
  (splitType (trimStart text)).1

/-- The parameter that the text after the marker documents. -/
def Parameter.ofBody (body : List Char) : Parameter :=
  ⟨String.ofList (firstWord (splitType (trimStart body)).2),
    leadingType? body⟩

theorem Parameter.ofLine?_eq (line : Line) :
    ofLine? line =
      (LineKind.parameter.body? line.content).map ofBody := by
  simp only [ofLine?, LineKind.body?, LineKind.words,
    List.findSome?_singleton]
  rfl

theorem Documentation.returnsOfLine?_eq (line : Line) :
    returnsOfLine? line =
      (LineKind.result.body? line.content).map leadingType? := by
  simp only [returnsOfLine?, LineKind.body?, LineKind.words,
    List.findSome?_cons, List.findSome?_nil]
  cases afterWord? ['@', 'r', 'e', 't', 'u', 'r', 'n', 's'] line.content with
  | some rest => rfl
  | none =>
      cases afterWord? ['@', 'r', 'e', 't', 'u', 'r', 'n'] line.content <;>
        rfl

theorem Directive.body?_eq (line : Line) :
    body? line = LineKind.directive.body? line.content := by
  simp only [body?, LineKind.body?, LineKind.words,
    List.findSome?_singleton]

theorem Directive.marks_of_body? {line : Line} {body : List Char}
    (found : body? line = some body) :
    LineKind.directive.Marks line.content := by
  rw [← LineKind.body?_isSome_iff, ← body?_eq, found, Option.isSome_some]

theorem Directive.map_marked_ofComment (comment : String) :
    (marked (Line.ofComment comment)).map
        (fun found => (found.1.content, found.2)) =
      (LineKind.directive.contents comment).map fun content =>
        (content, LineKind.directive.body content) := by
  rw [← LineKind.filterMap_ofComment LineKind.directive comment Prod.mk,
    marked, List.map_filterMap]
  apply List.filterMap_congr
  intro line _
  rw [body?_eq, Option.map_map]
  rfl

namespace Documentation

variable (arity : Nat) (comment : String)

theorem parameters_ofComment :
    (ofComment arity comment).parameters =
      (LineKind.parameter.contents comment).map fun content =>
        Parameter.ofBody (LineKind.parameter.body content) := by
  rw [← LineKind.filterMap_ofComment LineKind.parameter comment
    fun _ body => Parameter.ofBody body]
  exact List.filterMap_congr fun line _ => Parameter.ofLine?_eq line

theorem returns_ofComment :
    (ofComment arity comment).returns =
      ((LineKind.result.contents comment).map fun content =>
        leadingType? (LineKind.result.body content)).getLast?.join := by
  rw [← LineKind.filterMap_ofComment LineKind.result comment
    fun _ body => leadingType? body]
  have scans : (Line.ofComment comment).filterMap returnsOfLine? =
      (Line.ofComment comment).filterMap fun line =>
        (LineKind.result.body? line.content).map leadingType? :=
    List.filterMap_congr fun line _ => returnsOfLine?_eq line
  rw [← scans]
  rfl

end Documentation

end DocCheck
