import DocCheck.Proofs.LineKinds

/-!
# Joined comments

Two comments may be joined by a line end.  Whichever way the first one ends,
its lines stay as they are, and those of the second one follow with higher
numbers.  So the joined comment documents what the first one documents and
then what the second one does, and the directives of the second one are
counted on behind those of the first.
-/

namespace DocCheck

/-! ## Lines -/

theorem length_linesOf_concat_newline (text : List Char) :
    (linesOf (text ++ ['\n'])).length = text.count '\n' + 1 := by
  induction text with
  | nil => rfl
  | cons c rest inductionHypothesis =>
      by_cases newline : c = '\n'
      · simp [newline, linesOf, inductionHypothesis]
      · obtain ⟨first, others, behind⟩ := List.exists_cons_of_ne_nil
          (linesOf_ne_nil (List.concat_ne_nil '\n' rest))
        rw [List.cons_append, linesOf_cons newline behind,
          List.count_cons_of_ne newline, ← inductionHypothesis, behind,
          List.length_cons, List.length_cons]

/-- A line end behind a text ends its last line, or else it adds an empty
one. -/
theorem linesOf_concat_newline_cases (text : List Char) :
    linesOf (text ++ ['\n']) = linesOf text ∨
      linesOf (text ++ ['\n']) = linesOf text ++ [[]] := by
  induction text with
  | nil => exact .inr rfl
  | cons c rest inductionHypothesis =>
      by_cases newline : c = '\n'
      · simpa [newline, linesOf] using inductionHypothesis
      · cases lines : linesOf rest with
        | nil =>
            have empty : rest = [] := by
              by_contra nonempty
              exact linesOf_ne_nil nonempty lines
            have newlineFree : '\n' ∉ c :: rest := by
              simpa [empty] using Ne.symm newline
            left
            rw [linesOf_concat_newline newlineFree,
              linesOf_of_newline_notMem (List.cons_ne_nil c rest)
                newlineFree]
        | cons first others =>
            rw [lines] at inductionHypothesis
            rw [linesOf_cons newline lines, List.cons_append]
            rcases inductionHypothesis with same | added
            · exact .inl (linesOf_cons newline same)
            · exact .inr (linesOf_cons newline added)

namespace Line

/-- The line with a number that is higher by a count of lines. -/
def moved (count : Nat) (line : Line) : Line :=
  { line with number := line.number + count }

/-- Lines with the given contents, numbered from a position on. -/
def numbered (position : Nat) (contents : List (List Char)) : List Line :=
  (contents.zipIdx position).map fun place => ⟨place.2, place.1⟩

theorem ofComment_eq_numbered (comment : String) :
    ofComment comment =
      numbered 1 ((linesOf comment.toList).map undecorated) :=
  ofComment_eq_map_zipIdx comment

theorem numbered_append (position : Nat) (front back : List (List Char)) :
    numbered position (front ++ back) =
      numbered position front ++
        numbered (position + front.length) back := by
  simp [numbered, List.zipIdx_append]

theorem numbered_add (position count : Nat) (contents : List (List Char)) :
    numbered (position + count) contents =
      (numbered position contents).map (moved count) := by
  induction contents generalizing position with
  | nil => rfl
  | cons content others inductionHypothesis =>
      have next := inductionHypothesis (position + 1)
      rw [Nat.add_right_comm] at next
      simpa [numbered, moved] using next

/-- The lines of joined comments are those of the first, at most one line
without content, and those of the second behind all lines of the first. -/
theorem ofComment_joined (left right : String) :
    ∃ between, (∀ line ∈ between, line.content = []) ∧
      ofComment (left ++ "\n" ++ right) =
        ofComment left ++ between ++
          (ofComment right).map (moved (left.toList.count '\n' + 1)) := by
  let ended := (linesOf (left.toList ++ ['\n'])).map undecorated
  have joined : ofComment (left ++ "\n" ++ right) =
      numbered 1 ended ++
        (ofComment right).map (moved (left.toList.count '\n' + 1)) := by
    have contents :
        (linesOf (left ++ "\n" ++ right).toList).map undecorated =
          ended ++ (linesOf right.toList).map undecorated := by
      have newline : "\n".toList = ['\n'] := by decide
      rw [← List.map_append, ← linesOf_append_newline]
      simp [newline]
    have length : ended.length = left.toList.count '\n' + 1 := by
      rw [List.length_map, length_linesOf_concat_newline]
    rw [ofComment_eq_numbered, contents, numbered_append, numbered_add,
      length, ← ofComment_eq_numbered]
  rcases linesOf_concat_newline_cases left.toList with same | added
  · refine ⟨[], by simp, ?_⟩
    rw [joined, List.append_nil, ofComment_eq_numbered left]
    simp only [ended, same]
  · refine ⟨numbered (1 + (linesOf left.toList).length) [[]],
      by simp [numbered], ?_⟩
    have unmarked : undecorated [] = [] := by decide
    rw [joined, ofComment_eq_numbered left]
    simp only [ended, added, List.map_append, List.map_singleton, unmarked]
    rw [numbered_append, List.length_map]

end Line

/-! ## Contents and directives -/

theorem LineKind.contents_joined (kind : LineKind) (left right : String) :
    kind.contents (left ++ "\n" ++ right) =
      kind.contents left ++ kind.contents right := by
  obtain ⟨between, empty, lines⟩ := Line.ofComment_joined left right
  have unmarked : ¬ kind.Marks [] := by
    cases kind <;> decide
  have nothing : (between.map Line.content).filter
      (fun content => kind.Marks content) = [] := by
    rw [List.filter_eq_nil_iff]
    intro content member
    obtain ⟨line, inBetween, rfl⟩ := List.mem_map.mp member
    simpa [empty line inBetween] using unmarked
  have sameContents : ((Line.ofComment right).map
      (Line.moved (left.toList.count '\n' + 1))).map Line.content =
        (Line.ofComment right).map Line.content := by
    rw [List.map_map]
    rfl
  simp only [contents, lines, List.map_append, List.filter_append, nothing,
    sameContents, List.append_nil]

theorem LineKind.contents_eq_nil_iff {kind : LineKind} {comment : String} :
    kind.contents comment = [] ↔
      ¬ ∃ line ∈ Line.ofComment comment, kind.Marks line.content := by
  simp [contents, List.filter_eq_nil_iff]

namespace Directive

/-- The directive with a line and a position that are higher by a count of
lines and a count of directives. -/
def moved (lines directives : Nat) (directive : Directive) : Directive :=
  { directive with
    line := directive.line + lines
    ordinal := directive.ordinal + directives }

theorem marked_eq_nil {lines : List Line}
    (empty : ∀ line ∈ lines, line.content = []) : marked lines = [] := by
  apply List.filterMap_eq_nil_iff.mpr
  intro line member
  rw [body?, empty line member]
  rfl

theorem marked_map_moved (count : Nat) (lines : List Line) :
    marked (lines.map (Line.moved count)) =
      (marked lines).map fun found => (found.1.moved count, found.2) := by
  rw [marked, marked, List.filterMap_map, List.map_filterMap]
  apply List.filterMap_congr
  intro line _
  rw [Function.comp_apply, Option.map_map]
  rfl

/-- Directives on later lines and at later positions are the same
otherwise. -/
theorem numberedFrom_moved (arity position count directives : Nat)
    (lines : List Line) :
    numberedFrom arity (position + directives)
        (lines.map (Line.moved count)) =
      (numberedFrom arity position lines).map (moved count directives) := by
  rw [numberedFrom, numberedFrom, marked_map_moved, List.zipIdx_map,
    Nat.add_comm position, ← List.map_snd_add_zipIdx_eq_zipIdx,
    List.map_map, List.map_map, List.map_map]
  rfl

theorem ofComment_joined (arity : Nat) (left right : String) :
    ofComment arity (left ++ "\n" ++ right) =
      ofComment arity left ++ (ofComment arity right).map
        (moved (left.toList.count '\n' + 1)
          (ofComment arity left).length) := by
  obtain ⟨between, empty, lines⟩ := Line.ofComment_joined left right
  have sameMarked : marked (Line.ofComment left ++ between) =
      marked (Line.ofComment left) := by
    rw [marked, List.filterMap_append, ← marked, ← marked,
      marked_eq_nil empty, List.append_nil]
  have front : numberedFrom arity 1 (Line.ofComment left ++ between) =
      ofComment arity left := by
    rw [numberedFrom, sameMarked]
    rfl
  have length : (marked (Line.ofComment left)).length =
      (ofComment arity left).length :=
    (length_ofLines arity _).symm
  calc
    ofComment arity (left ++ "\n" ++ right) =
        numberedFrom arity 1 (Line.ofComment (left ++ "\n" ++ right)) :=
      rfl
    _ = ofComment arity left ++
        numberedFrom arity (1 + (ofComment arity left).length)
          ((Line.ofComment right).map
            (Line.moved (left.toList.count '\n' + 1))) := by
      rw [lines, numberedFrom_append, front, sameMarked, length]
    _ = ofComment arity left ++ (ofComment arity right).map
        (moved (left.toList.count '\n' + 1)
          (ofComment arity left).length) := by
      rw [numberedFrom_moved]
      rfl

end Directive

/-- Two comments that are joined by a line end document the parameters of the
first and then those of the second; the result as the second does, if it has
a line for it, and else as the first does; and the directives of the first
and then those of the second, which move behind all lines and all directives
of the first and stay the same otherwise. -/
theorem joined_comments_document_both (arity : Nat) (left right : String) :
    let joined := Documentation.ofComment arity (left ++ "\n" ++ right)
    let first := Documentation.ofComment arity left
    let second := Documentation.ofComment arity right
    joined.parameters = first.parameters ++ second.parameters ∧
    joined.returns =
      (if ∃ line ∈ Line.ofComment right,
          LineKind.result.Marks line.content then
        second.returns
      else
        first.returns) ∧
    joined.directives =
      first.directives ++ second.directives.map
        (Directive.moved (left.toList.count '\n' + 1)
          first.directives.length) := by
  intro joined first second
  refine ⟨?_, ?_, ?_⟩
  · simp only [joined, first, second, Documentation.parameters_ofComment,
      LineKind.contents_joined, List.map_append]
  · simp only [joined, first, second, Documentation.returns_ofComment,
      LineKind.contents_joined, List.map_append]
    split
    · next marked =>
        have nonempty : LineKind.result.contents right ≠ [] :=
          fun empty => LineKind.contents_eq_nil_iff.mp empty marked
        rw [List.getLast?_append_of_ne_nil _ (by simpa using nonempty)]
    · next unmarked =>
        rw [LineKind.contents_eq_nil_iff.mpr unmarked, List.map_nil,
          List.append_nil]
  · exact Directive.ofComment_joined arity left right

/-- A first comment that has a line end of its own, and a fault in the
second. -/
example :
    (Directive.ofComment 1 ("@assert - 1=>1\r\n" ++ "\n" ++ "@assert - 2")).map
        (fun directive => (directive.line, directive.ordinal)) =
      [(1, 1), (3, 2)] := by
  decide

end DocCheck
