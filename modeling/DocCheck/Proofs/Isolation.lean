import DocCheck.Proofs.Dependence
import DocCheck.Proofs.FindingOrder
import DocCheck.Proofs.LineKinds

/-!
# A directive touches no other finding

Take two comments that differ only in the directive on one of their lines.
They document the same types and their other directives keep their lines and
positions, so whatever the two directives are and however they fail, the
findings about all other lines are the same.
-/

namespace DocCheck

/-- Two comments with equally many lines, whose undecorated lines are the
same but for the line of one number, on which both have a directive. -/
structure DifferInDirective (number : Nat) (left right : String) :
    Prop where
  sameLength :
    (linesOf left.toList).length = (linesOf right.toList).length
  sameElsewhere :
    ∀ place leftRaw rightRaw, place + 1 ≠ number →
      (linesOf left.toList)[place]? = some leftRaw →
      (linesOf right.toList)[place]? = some rightRaw →
      undecorated leftRaw = undecorated rightRaw
  directives :
    ∃ place leftRaw rightRaw, place + 1 = number ∧
      (linesOf left.toList)[place]? = some leftRaw ∧
      (linesOf right.toList)[place]? = some rightRaw ∧
      IsDirectiveLine (undecorated leftRaw) ∧
      IsDirectiveLine (undecorated rightRaw)

/-- Lists that agree at all places but one are the same before and behind
this place. -/
theorem exists_append_cons_of_agree {α : Type} {left right : List α}
    {place : Nat} {leftItem rightItem : α}
    (agree : ∀ other, other ≠ place → left[other]? = right[other]?)
    (atLeft : left[place]? = some leftItem)
    (atRight : right[place]? = some rightItem) :
    ∃ front back, left = front ++ leftItem :: back ∧
      right = front ++ rightItem :: back := by
  induction place generalizing left right with
  | zero =>
      obtain ⟨back, rfl⟩ :=
        List.head?_eq_some_iff.mp (List.head?_eq_getElem? ▸ atLeft)
      obtain ⟨otherBack, rfl⟩ :=
        List.head?_eq_some_iff.mp (List.head?_eq_getElem? ▸ atRight)
      have same : back = otherBack := List.ext_getElem? fun other => by
        simpa using agree (other + 1) (by omega)
      exact ⟨[], back, rfl, by rw [same, List.nil_append]⟩
  | succ place inductionHypothesis =>
      cases left with
      | nil => simp at atLeft
      | cons first others =>
          cases right with
          | nil => simp at atRight
          | cons otherFirst otherOthers =>
              have sameFirst : first = otherFirst := by
                simpa using agree 0 (by omega)
              have agreeBehind : ∀ other, other ≠ place →
                  others[other]? = otherOthers[other]? := by
                intro other different
                simpa using agree (other + 1) (by omega)
              obtain ⟨front, back, shape, otherShape⟩ :=
                inductionHypothesis agreeBehind (by simpa using atLeft)
                  (by simpa using atRight)
              exact ⟨first :: front, back, by rw [shape, List.cons_append],
                by rw [otherShape, sameFirst, List.cons_append]⟩

namespace DifferInDirective

variable {number : Nat} {left right : String}

theorem getElem?_ofComment (differ : DifferInDirective number left right)
    {place : Nat} (elsewhere : place + 1 ≠ number) :
    (Line.ofComment left)[place]? = (Line.ofComment right)[place]? := by
  rw [Line.getElem?_ofComment, Line.getElem?_ofComment]
  cases atLeft : (linesOf left.toList)[place]? with
  | none =>
      have behind : (linesOf right.toList)[place]? = none := by
        rw [List.getElem?_eq_none_iff] at atLeft ⊢
        rwa [← differ.sameLength]
      rw [behind]
  | some leftRaw =>
      have inside : place < (linesOf right.toList).length := by
        rw [← differ.sameLength]
        exact (List.getElem?_eq_some_iff.mp atLeft).1
      have atRight := List.getElem?_eq_getElem inside
      rw [atRight, Option.map_some, Option.map_some,
        differ.sameElsewhere place _ _ elsewhere atLeft atRight]

/-- The lines of the two comments, with the marked lines in their midst. -/
theorem exists_lines (differ : DifferInDirective number left right) :
    ∃ front back leftLine rightLine leftBody rightBody,
      Line.ofComment left = front ++ leftLine :: back ∧
      Line.ofComment right = front ++ rightLine :: back ∧
      leftLine.number = number ∧ rightLine.number = number ∧
      Directive.body? leftLine = some leftBody ∧
      Directive.body? rightLine = some rightBody := by
  obtain ⟨place, leftRaw, rightRaw, rfl, atLeft, atRight,
    ⟨leftBody, leftShape, leftEnds⟩, rightBody, rightShape, rightEnds⟩ :=
    differ.directives
  have leftLine : (Line.ofComment left)[place]? =
      some ⟨place + 1, undecorated leftRaw⟩ := by
    rw [Line.getElem?_ofComment, atLeft, Option.map_some]
  have rightLine : (Line.ofComment right)[place]? =
      some ⟨place + 1, undecorated rightRaw⟩ := by
    rw [Line.getElem?_ofComment, atRight, Option.map_some]
  obtain ⟨front, back, leftLines, rightLines⟩ :=
    exists_append_cons_of_agree
      (fun other different =>
        differ.getElem?_ofComment (by omega)) leftLine rightLine
  exact ⟨front, back, _, _, leftBody, rightBody, leftLines, rightLines,
    rfl, rfl, Directive.body?_eq_some_iff.mpr ⟨leftShape, leftEnds⟩,
    Directive.body?_eq_some_iff.mpr ⟨rightShape, rightEnds⟩⟩

theorem exists_directives (differ : DifferInDirective number left right)
    (arity : Nat) :
    ∃ front back leftDirective rightDirective,
      Directive.ofComment arity left = front ++ leftDirective :: back ∧
      Directive.ofComment arity right = front ++ rightDirective :: back ∧
      leftDirective.line = number ∧ rightDirective.line = number := by
  obtain ⟨front, back, leftLine, rightLine, leftBody, rightBody,
    leftLines, rightLines, leftNumber, rightNumber, leftFound,
    rightFound⟩ := differ.exists_lines
  have leftDirectives :=
    Directive.ofLines_append_cons arity front back leftFound
  have rightDirectives :=
    Directive.ofLines_append_cons arity front back rightFound
  rw [← leftLines] at leftDirectives
  rw [← rightLines] at rightDirectives
  exact ⟨_, _, _, _, leftDirectives, rightDirectives, leftNumber,
    rightNumber⟩

end DifferInDirective

/-! ## A directive documents no type -/

theorem Parameter.ofLine?_of_body {line : Line} {body : List Char}
    (found : Directive.body? line = some body) :
    Parameter.ofLine? line = none := by
  rw [Parameter.ofLine?_eq, LineKind.body?_of_other_kind
    (Directive.marks_of_body? found) (by decide), Option.map_none]

theorem Documentation.returnsOfLine?_of_body {line : Line}
    {body : List Char} (found : Directive.body? line = some body) :
    Documentation.returnsOfLine? line = none := by
  rw [Documentation.returnsOfLine?_eq, LineKind.body?_of_other_kind
    (Directive.marks_of_body? found) (by decide), Option.map_none]

theorem DifferInDirective.sameTypes {number : Nat} {left right : String}
    (differ : DifferInDirective number left right) (arity : Nat) :
    (Documentation.ofComment arity left).SameTypes
      (Documentation.ofComment arity right) := by
  obtain ⟨front, back, leftLine, rightLine, leftBody, rightBody,
    leftLines, rightLines, _, _, leftFound, rightFound⟩ :=
    differ.exists_lines
  constructor
  · simp [Documentation.ofComment, Documentation.ofLines, leftLines,
      rightLines, Parameter.ofLine?_of_body leftFound,
      Parameter.ofLine?_of_body rightFound]
  · simp [Documentation.ofComment, Documentation.ofLines, leftLines,
      rightLines, Documentation.returnsOfLine?_of_body leftFound,
      Documentation.returnsOfLine?_of_body rightFound]

/-! ## Findings about other lines -/

theorem Checker.findings_elsewhere (checker : Checker) (symbol : Symbol)
    (number : Nat) :
    ((checker.check symbol).findings.filter fun finding =>
        finding.line? ≠ some number) =
      (((Directive.ofComment symbol.arity symbol.comment).filter
        fun directive => directive.line ≠ number).filter
          (checker.selects symbol)).map
            (checker.judge symbol
              (Documentation.ofComment symbol.arity symbol.comment)) := by
  rw [findings_check, List.filter_map, List.filter_filter,
    List.filter_filter]
  congr 2
  funext directive
  rw [Function.comp_apply, line?_judge, Bool.and_comm]
  simp

/-- However the directives on one line differ, the findings about all other
lines are the same, and each report has one finding about a line at most. -/
theorem directive_touches_no_other_finding (checker : Checker)
    (name : String) (arity : Nat) (target : Target) {number : Nat}
    {left right : String} (differ : DifferInDirective number left right) :
    ((checker.check ⟨name, left, arity, target⟩).findings.filter
        fun finding => finding.line? ≠ some number) =
      ((checker.check ⟨name, right, arity, target⟩).findings.filter
        fun finding => finding.line? ≠ some number) ∧
    ((checker.check ⟨name, left, arity, target⟩).findings.map
      Finding.line?).Nodup ∧
    ((checker.check ⟨name, right, arity, target⟩).findings.map
      Finding.line?).Nodup := by
  refine ⟨?_, checker.nodup_lines _, checker.nodup_lines _⟩
  obtain ⟨front, back, leftDirective, rightDirective, leftDirectives,
    rightDirectives, leftLine, rightLine⟩ := differ.exists_directives arity
  have sameDirectives :
      ((Directive.ofComment arity left).filter
        fun directive => directive.line ≠ number) =
      ((Directive.ofComment arity right).filter
        fun directive => directive.line ≠ number) := by
    simp [leftDirectives, rightDirectives, leftLine, rightLine]
  have sameJudgement :
      checker.judge ⟨name, left, arity, target⟩
          (Documentation.ofComment arity left) =
        checker.judge ⟨name, right, arity, target⟩
          (Documentation.ofComment arity right) := by
    funext directive
    exact checker.judge_eq_of_sameTypes left right
      (differ.sameTypes arity) directive
  rw [Checker.findings_elsewhere, Checker.findings_elsewhere,
    sameDirectives, sameJudgement]
  rfl

/-- A well-formed directive and a malformed one, between two others. -/
theorem malformed_directive_touches_no_other_finding :
    ∃ left right,
      left = "/**\n * @assert - a=>a\n * @assert A - b=>b\n" ++
        " * @assert - c=>c\n */" ∧
      right = "/**\n * @assert - a=>a\n * @assert \x7bA - b=>b\n" ++
        " * @assert - c=>c\n */" ∧
      DifferInDirective 3 left right ∧
      ((Checker.standard.check ⟨"greet", left, 1, Demo.greet⟩).findings
          |>.filter fun finding => finding.line? ≠ some 3) =
        ((Checker.standard.check ⟨"greet", right, 1, Demo.greet⟩).findings
          |>.filter fun finding => finding.line? ≠ some 3) := by
  let left := "/**\n * @assert - a=>a\n * @assert A - b=>b\n" ++
    " * @assert - c=>c\n */"
  let right := "/**\n * @assert - a=>a\n * @assert \x7bA - b=>b\n" ++
    " * @assert - c=>c\n */"
  have differ : DifferInDirective 3 left right := by
    refine ⟨by decide, ?_, ?_⟩
    · intro place leftRaw rightRaw elsewhere atLeft atRight
      have sameContent : ∀ place < 5, place + 1 ≠ 3 →
          (linesOf left.toList)[place]?.map undecorated =
            (linesOf right.toList)[place]?.map undecorated := by
        decide
      have fiveLines : (linesOf left.toList).length = 5 := by decide
      have inside : place < 5 :=
        fiveLines ▸ (List.getElem?_eq_some_iff.mp atLeft).1
      simpa [atLeft, atRight] using sameContent place inside elsewhere
    · refine ⟨2, " * @assert A - b=>b".toList,
        " * @assert \x7bA - b=>b".toList, rfl, by decide, by decide,
        ⟨" A - b=>b".toList, by decide, ?_⟩,
        " \x7bA - b=>b".toList, by decide, ?_⟩
      · intro c given
        cases given
        exact Or.inl (by decide)
      · intro c given
        cases given
        exact Or.inl (by decide)
  have elsewhere := (directive_touches_no_other_finding Checker.standard
    "greet" 1 Demo.greet differ).1
  exact ⟨left, right, rfl, rfl, differ, elsewhere⟩

end DocCheck
