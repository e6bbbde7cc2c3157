import DocCheck.Comment.Directive
import DocCheck.Proofs.Cutting
import DocCheck.Proofs.Trimming
import Mathlib.Data.List.Nodup

/-!
# Lines and their marker words

A line of a comment keeps its number, and its content is a trimmed part of
the raw line.  A marker word counts at the front of a content where the word
ends; the lines that begin with the marker of directives are the directives
of the comment, in the order of the lines and with no line between them
skipped.
-/

namespace DocCheck

/-! ## Decoration -/

theorem dropLeading_isSuffix (marks : List (List Char)) (text : List Char) :
    dropLeading marks text <:+ text := by
  unfold dropLeading
  cases found : marks.findSome? fun mark => mark.isPrefixOf? text with
  | none => exact List.suffix_refl text
  | some rest =>
      obtain ⟨mark, _, atFront⟩ := List.exists_of_findSome?_eq_some found
      exact ⟨mark, List.isPrefixOf?_eq_some_iff_append_eq.mp atFront⟩

theorem dropTrailing_isPrefix (mark text : List Char) :
    dropTrailing mark text <+: text := by
  unfold dropTrailing
  cases found : mark.isSuffixOf? text with
  | none => exact List.prefix_refl text
  | some rest =>
      exact ⟨mark, List.isSuffixOf?_eq_some_iff_append_eq.mp found⟩

/-- Decoration is taken off the two ends only. -/
theorem undecorated_isInfix (raw : List Char) : undecorated raw <:+: raw := by
  have opened : dropLeading openers (trim raw) <:+: raw :=
    (dropLeading_isSuffix openers _).isInfix.trans (trim_isInfix raw)
  have closed :
      dropTrailing closer (dropLeading openers (trim raw)) <:+: raw :=
    (dropTrailing_isPrefix closer _).isInfix.trans opened
  have started :
      trimStart (dropTrailing closer (dropLeading openers (trim raw))) <:+:
        raw :=
    (List.dropWhile_suffix isBlank).isInfix.trans closed
  exact (trim_isInfix _).trans <|
    (dropLeading_isSuffix leaders _).isInfix.trans started

theorem isTrimmed_undecorated (raw : List Char) :
    IsTrimmed (undecorated raw) :=
  isTrimmed_trim _

theorem dropTrailing_append (mark text : List Char) :
    dropTrailing mark (text ++ mark) = text := by
  have atBack : mark.isSuffixOf? (text ++ mark) = some text :=
    List.isSuffixOf?_eq_some_iff_append_eq.mpr rfl
  rw [dropTrailing, atBack, Option.getD_some]

/-- A block on one line is undecorated to the text inside without the blanks
behind it, when this begins with the sign of a marker. -/
theorem undecorated_block_eq_trim {text : List Char}
    (marked : text.head? = some '@') :
    undecorated ('/' :: '*' :: '*' :: ' ' :: (text ++ [' ', '*', '/'])) =
      trim text := by
  obtain ⟨rest, rfl⟩ := List.head?_eq_some_iff.mp marked
  have whole : IsTrimmed
      ('/' :: '*' :: '*' :: ' ' :: ('@' :: rest ++ [' ', '*', '/'])) := by
    have ends : IsTrimmed ('/' ::
        (('*' :: '*' :: ' ' :: '@' :: rest ++ [' ', '*']) ++ ['/'])) :=
      isTrimmed_of_ends (by decide) (by decide) _
    simpa using ends
  have opened : dropLeading openers
      ('/' :: '*' :: '*' :: ' ' :: ('@' :: rest ++ [' ', '*', '/'])) =
        (' ' :: '@' :: rest ++ [' ']) ++ closer := by
    simp [dropLeading, openers, closer, List.isPrefixOf?]
  have started : trimStart (' ' :: '@' :: rest ++ [' ']) =
      '@' :: rest ++ [' '] := by
    rw [List.cons_append, trimStart_cons, if_pos (by decide)]
    exact trimStart_of_head (by simp; decide)
  have unled : dropLeading leaders ('@' :: rest ++ [' ']) =
      '@' :: rest ++ [' '] := by
    simp [dropLeading, leaders, List.isPrefixOf?]
  rw [undecorated, trim_of_trimmed whole, opened]
  simp only [dropTrailing_append, started, unled]
  rw [trim_append_blank _ isBlankText_space]

theorem undecorated_block {text : List Char} (trimmed : IsTrimmed text)
    (marked : text.head? = some '@') :
    undecorated ('/' :: '*' :: '*' :: ' ' :: (text ++ [' ', '*', '/'])) =
      text :=
  (undecorated_block_eq_trim marked).trans (trim_of_trimmed trimmed)

/-! ## Numbers and contents -/

namespace Line

theorem ofComment_eq_map_zipIdx (comment : String) :
    ofComment comment =
      (((linesOf comment.toList).map undecorated).zipIdx 1).map
        fun place => ⟨place.2, place.1⟩ := by
  simp [ofComment, List.zipIdx_map, Function.comp_def]

theorem getElem?_ofComment (comment : String) (place : Nat) :
    (ofComment comment)[place]? =
      (linesOf comment.toList)[place]?.map fun raw =>
        ⟨place + 1, undecorated raw⟩ := by
  simp [ofComment, Function.comp_def, Nat.add_comm]

/-- A line stands in a comment under its number, counted from one. -/
theorem mem_ofComment_iff {comment : String} {line : Line} :
    line ∈ ofComment comment ↔
      ∃ place raw, (linesOf comment.toList)[place]? = some raw ∧
        line = ⟨place + 1, undecorated raw⟩ := by
  rw [List.mem_iff_getElem?]
  constructor
  · intro given
    obtain ⟨place, found⟩ := given
    rw [getElem?_ofComment, Option.map_eq_some_iff] at found
    obtain ⟨raw, standing, rfl⟩ := found
    exact ⟨place, raw, standing, rfl⟩
  · intro given
    obtain ⟨place, raw, standing, rfl⟩ := given
    exact ⟨place, by rw [getElem?_ofComment, standing, Option.map_some]⟩

theorem pairwise_number_ofComment (comment : String) :
    (ofComment comment).Pairwise fun earlier later =>
      earlier.number < later.number := by
  rw [List.pairwise_iff_getElem]
  intro first second firstBound secondBound ascending
  simp only [ofComment, List.getElem_map, List.getElem_zipIdx]
  omega

theorem isTrimmed_content {comment : String} {line : Line}
    (member : line ∈ ofComment comment) : IsTrimmed line.content := by
  obtain ⟨place, raw, _, rfl⟩ := mem_ofComment_iff.mp member
  exact isTrimmed_undecorated raw

theorem newline_notMem_content {comment : String} {line : Line}
    (member : line ∈ ofComment comment) : '\n' ∉ line.content := by
  obtain ⟨place, raw, standing, rfl⟩ := mem_ofComment_iff.mp member
  have rawMember := List.mem_of_getElem? standing
  intro inContent
  exact newline_notMem_of_mem_linesOf rawMember <|
    (undecorated_isInfix raw).subset inContent

theorem ofComment_of_newline_notMem {comment : String}
    (nonempty : comment.toList ≠ []) (absent : '\n' ∉ comment.toList) :
    ofComment comment = [⟨1, undecorated comment.toList⟩] := by
  rw [ofComment, linesOf_of_newline_notMem nonempty absent]
  rfl

end Line

/-! ## Marker words -/

/-- A word ends before a text that is empty or begins with a blank or an
opening brace. -/
def WordEnds (rest : List Char) : Prop :=
  ∀ c ∈ rest.head?, isBlank c = true ∨ c = '{'

theorem endsWord_iff {rest : List Char} :
    endsWord rest = true ↔ WordEnds rest := by
  cases rest with
  | nil => simp [endsWord, WordEnds]
  | cons c others => simp [endsWord, WordEnds]

theorem afterWord?_eq_some_iff {word content rest : List Char} :
    afterWord? word content = some rest ↔
      content = word ++ rest ∧ WordEnds rest := by
  rw [afterWord?, Option.filter_eq_some_iff,
    List.isPrefixOf?_eq_some_iff_append_eq, endsWord_iff]
  exact and_congr_left fun _ => eq_comm

/-- A content that begins with the marker of directives. -/
def IsDirectiveLine (content : List Char) : Prop :=
  ∃ body, content = Directive.marker ++ body ∧ WordEnds body

namespace Directive

theorem body?_eq_some_iff {line : Line} {body : List Char} :
    body? line = some body ↔
      line.content = marker ++ body ∧ WordEnds body :=
  afterWord?_eq_some_iff

/-- The lines that hold a directive, with what follows the marker. -/
def marked (lines : List Line) : List (Line × List Char) :=
  lines.filterMap fun line => (body? line).map fun body => (line, body)

theorem mem_marked_iff {lines : List Line} {line : Line}
    {body : List Char} :
    (line, body) ∈ marked lines ↔
      line ∈ lines ∧ line.content = marker ++ body ∧ WordEnds body := by
  rw [← body?_eq_some_iff]
  simp only [marked, List.mem_filterMap, Option.map_eq_some_iff,
    Prod.mk.injEq]
  constructor
  · intro given
    obtain ⟨other, member, otherBody, found, rfl, rfl⟩ := given
    exact ⟨member, found⟩
  · intro given
    obtain ⟨member, found⟩ := given
    exact ⟨line, member, body, found, rfl, rfl⟩

theorem map_fst_marked_sublist (lines : List Line) :
    ((marked lines).map Prod.fst).Sublist lines := by
  induction lines with
  | nil => exact List.Sublist.refl []
  | cons line others inductionHypothesis =>
      cases found : body? line with
      | none =>
          rw [marked, List.filterMap_cons_none (by rw [found]; rfl)]
          exact inductionHypothesis.cons line
      | some body =>
          rw [marked, List.filterMap_cons_some (b := (line, body))
            (by rw [found]; rfl), List.map_cons]
          exact inductionHypothesis.cons_cons line

theorem getElem?_ofLines (arity : Nat) (lines : List Line) (place : Nat) :
    (ofLines arity lines)[place]? =
      (marked lines)[place]?.map fun found =>
        ofLine arity found.1 found.2 (place + 1) := by
  simp [ofLines, marked, Function.comp_def, Nat.add_comm]

/-- The directives of some lines, numbered from a position on. -/
def numberedFrom (arity position : Nat) (lines : List Line) :
    List Directive :=
  ((marked lines).zipIdx position).map fun place =>
    ofLine arity place.1.1 place.1.2 place.2

theorem numberedFrom_append (arity position : Nat)
    (front back : List Line) :
    numberedFrom arity position (front ++ back) =
      numberedFrom arity position front ++
        numberedFrom arity (position + (marked front).length) back := by
  simp [numberedFrom, marked, List.zipIdx_append]

/-- A directive line moves the directives behind it by one position. -/
theorem ofLines_append_cons (arity : Nat) (front back : List Line)
    {line : Line} {body : List Char} (found : body? line = some body) :
    ofLines arity (front ++ line :: back) =
      numberedFrom arity 1 front ++
        ofLine arity line body (1 + (marked front).length) ::
          numberedFrom arity (1 + (marked front).length + 1) back := by
  have split := numberedFrom_append arity 1 front (line :: back)
  have isMarked : marked (line :: back) = (line, body) :: marked back := by
    simp [marked, found]
  have behind (position : Nat) :
      numberedFrom arity position (line :: back) =
        ofLine arity line body position ::
          numberedFrom arity (position + 1) back := by
    rw [numberedFrom, isMarked, List.zipIdx_cons, List.map_cons,
      numberedFrom]
  rw [behind] at split
  exact split

theorem length_ofLines (arity : Nat) (lines : List Line) :
    (ofLines arity lines).length = (marked lines).length := by
  simp [ofLines, marked]

/-- Each directive of a comment stands on one of its marked lines. -/
theorem exists_line_of_mem_ofComment {arity : Nat} {comment : String}
    {directive : Directive} (member : directive ∈ ofComment arity comment) :
    ∃ line body ordinal, line ∈ Line.ofComment comment ∧
      line.content = marker ++ body ∧ WordEnds body ∧
      directive = ofLine arity line body ordinal := by
  obtain ⟨place, found⟩ := List.mem_iff_getElem?.mp member
  rw [ofComment, getElem?_ofLines, Option.map_eq_some_iff] at found
  obtain ⟨⟨line, body⟩, standing, rfl⟩ := found
  obtain ⟨lineMember, shape, ends⟩ :=
    mem_marked_iff.mp (List.mem_of_getElem? standing)
  exact ⟨line, body, place + 1, lineMember, shape, ends, rfl⟩

theorem exists_mem_ofComment (arity : Nat) {comment : String}
    {line : Line} {body : List Char} (member : line ∈ Line.ofComment comment)
    (shape : line.content = marker ++ body) (ends : WordEnds body) :
    ∃ ordinal, ofLine arity line body ordinal ∈ ofComment arity comment := by
  have isMarked : (line, body) ∈ marked (Line.ofComment comment) :=
    mem_marked_iff.mpr ⟨member, shape, ends⟩
  obtain ⟨place, standing⟩ := List.mem_iff_getElem?.mp isMarked
  refine ⟨place + 1, List.mem_iff_getElem?.mpr ⟨place, ?_⟩⟩
  rw [ofComment, getElem?_ofLines, standing, Option.map_some]

theorem ofComment_of_line (arity : Nat) {comment : String} {line : Line}
    {body : List Char} (single : Line.ofComment comment = [line])
    (shape : line.content = marker ++ body) (ends : WordEnds body) :
    ofComment arity comment = [ofLine arity line body 1] := by
  have found : body? line = some body :=
    body?_eq_some_iff.mpr ⟨shape, ends⟩
  simp [ofComment, ofLines, single, found]

theorem map_line_ofLines (arity : Nat) (lines : List Line) :
    (ofLines arity lines).map Directive.line =
      ((marked lines).map Prod.fst).map Line.number := by
  apply List.ext_getElem?
  intro place
  rw [List.getElem?_map, getElem?_ofLines, List.map_map,
    List.getElem?_map, Option.map_map]
  rfl

theorem nodup_line_ofComment (arity : Nat) (comment : String) :
    ((ofComment arity comment).map Directive.line).Nodup := by
  have ascending :
      ((ofComment arity comment).map Directive.line).Pairwise (· < ·) := by
    rw [ofComment, map_line_ofLines, List.pairwise_map]
    exact (Line.pairwise_number_ofComment comment).sublist
      (map_fst_marked_sublist _)
  exact ascending.imp fun below => Nat.ne_of_lt below

/-- No two directives of a comment stand on one line. -/
theorem eq_of_line_eq {arity : Nat} {comment : String}
    {directive other : Directive}
    (member : directive ∈ ofComment arity comment)
    (otherMember : other ∈ ofComment arity comment)
    (sameLine : directive.line = other.line) : directive = other :=
  List.inj_on_of_nodup_map (nodup_line_ofComment arity comment) member
    otherMember sameLine

end Directive

end DocCheck
