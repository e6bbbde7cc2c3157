import DocCheck.Proofs.Dependence
import DocCheck.Proofs.FindingOrder
import DocCheck.Proofs.LineKinds

/-!
# Where the lines of a comment stand

Each part of the documentation is read from the lines of one kind, so other
lines may be put in or left out anywhere, and lines of different kinds may be
interleaved in any way: only the numbers of the lines change.  A line number
is handed on from a directive to its verdict or its location and decides
nothing, so a report changes by its line numbers at most.
-/

namespace DocCheck

/-! ## Other line numbers -/

section Numbers

variable (number : Nat)

/-- A directive with a line number in place of its own. -/
def Directive.atLine (directive : Directive) : Directive :=
  { directive with line := number }

def Verdict.atLine (verdict : Verdict) : Verdict :=
  { verdict with line := number }

def Location.atLine (location : Location) : Location :=
  { location with line := number }

def Diagnostic.atLine (diagnostic : Diagnostic) : Diagnostic :=
  { diagnostic with
    location := diagnostic.location.map (Location.atLine number) }

/-- A finding with a line number in place of its own: that of the verdict or
that of the location. -/
def Finding.atLine : Finding → Finding
  | .ran verdict => .ran (verdict.atLine number)
  | .rejected identity diagnostic =>
      .rejected identity (diagnostic.atLine number)

/-- A report with one line number in place of all. -/
def Report.atLine (report : Report) : Report :=
  { report with findings := report.findings.map (Finding.atLine number) }

end Numbers

/-! ## Reports -/

namespace Report

theorem atLine_add (number : Nat) (report : Report) (finding : Finding) :
    (report.add finding).atLine number =
      (report.atLine number).add (finding.atLine number) := by
  have sameTally : Tally.ofFinding (finding.atLine number) =
      Tally.ofFinding finding := by
    cases finding <;> rfl
  simp only [atLine, add, List.map_append, List.map_singleton, sameTally]

theorem atLine_foldl_add (number : Nat) (report : Report)
    (findings : List Finding) :
    (findings.foldl add report).atLine number =
      (findings.map (Finding.atLine number)).foldl add
        (report.atLine number) := by
  induction findings generalizing report with
  | nil => rfl
  | cons finding others inductionHypothesis =>
      rw [List.foldl_cons, inductionHypothesis, atLine_add, List.map_cons,
        List.foldl_cons]

/-- Line numbers have no part in the tally of a report. -/
theorem atLine_ofFindings (number : Nat) (symbol : String)
    (findings : List Finding) :
    (ofFindings symbol findings).atLine number =
      ofFindings symbol (findings.map (Finding.atLine number)) :=
  atLine_foldl_add number { symbol := symbol } findings

end Report

/-! ## Judgements -/

section Judgements

variable {checker : Checker} {symbol : Symbol}
  {documentation : Documentation} {directive : Directive}

theorem Verdict.OfCall.atLine {verdict : Verdict} {reply : Reply}
    {expected : Value} (decided : verdict.OfCall reply expected)
    (number : Nat) : (verdict.atLine number).OfCall reply expected where
  error_iff := decided.error_iff
  pass_iff := decided.pass_iff
  fail_iff := decided.fail_iff
  actual := decided.actual
  expected := decided.expected

/-- Every rule judges a directive on another line to the same finding, with
the number of this line. -/
theorem Judged.atLine {rule : Rule} {finding : Finding}
    (judged :
      Judged checker symbol documentation directive rule finding)
    (number : Nat) :
    Judged checker symbol documentation (directive.atLine number) rule
      (finding.atLine number) := by
  cases judged with
  | malformedLine reading => exact .malformedLine reading
  | argumentCount reading different =>
      exact .argumentCount reading different
  | refusedToken reading agree first =>
      exact .refusedToken reading agree first
  | run reading agree resolved decided atIdentity atKind _ =>
      exact .run reading agree resolved (decided.atLine number) atIdentity
        atKind rfl

theorem Checker.judge_atLine (number : Nat) :
    checker.judge symbol documentation (directive.atLine number) =
      (checker.judge symbol documentation directive).atLine number := by
  obtain ⟨rule, judged⟩ :=
    Judged.exists_rule checker symbol documentation directive
  exact judge_eq_of_judged (judged.atLine number)

theorem Checker.map_atLine_findings (checker : Checker) (symbol : Symbol)
    (number : Nat) :
    (checker.findings symbol).map (Finding.atLine number) =
      (((Directive.ofComment symbol.arity symbol.comment).map
        (Directive.atLine number)).filter (checker.selects symbol)).map
          (checker.judge symbol
            (Documentation.ofComment symbol.arity symbol.comment)) := by
  rw [findings, List.map_map, List.filter_map, List.map_map]
  -- The filter sees the identity of a directive and not its line.
  exact List.map_congr_left fun directive _ => (judge_atLine number).symm

end Judgements

/-! ## Comments with the same lines of each kind -/

/-- Two comments with the same contents of each kind of lines, in the same
order within the kind. -/
def SameLines (left right : String) : Prop :=
  ∀ kind : LineKind, kind.contents left = kind.contents right

theorem Directive.map_atLine_ofComment (arity number : Nat)
    (comment : String) :
    (ofComment arity comment).map (Directive.atLine number) =
      ((LineKind.directive.contents comment).zipIdx 1).map fun place =>
        ofLine arity ⟨number, place.1⟩
          (LineKind.directive.body place.1) place.2 := by
  have pairs :
      (ofComment arity comment).map (Directive.atLine number) =
        (((marked (Line.ofComment comment)).map
          fun found => (found.1.content, found.2)).zipIdx 1).map
            fun place =>
              ofLine arity ⟨number, place.1.1⟩ place.1.2 place.2 := by
    rw [ofComment, ofLines, List.map_map, List.zipIdx_map, List.map_map]
    rfl
  rw [pairs, map_marked_ofComment, List.zipIdx_map, List.map_map]
  rfl

namespace SameLines

variable {left right : String}

theorem sameTypes (same : SameLines left right) (arity : Nat) :
    (Documentation.ofComment arity left).SameTypes
      (Documentation.ofComment arity right) where
  parameters := by
    rw [Documentation.parameters_ofComment,
      Documentation.parameters_ofComment, same .parameter]
  returns := by
    rw [Documentation.returns_ofComment, Documentation.returns_ofComment,
      same .result]

theorem directives (same : SameLines left right) (arity number : Nat) :
    (Directive.ofComment arity left).map (Directive.atLine number) =
      (Directive.ofComment arity right).map (Directive.atLine number) := by
  rw [Directive.map_atLine_ofComment, Directive.map_atLine_ofComment,
    same .directive]

theorem check (same : SameLines left right) (checker : Checker)
    (name : String) (arity : Nat) (target : Target) (number : Nat) :
    (checker.check ⟨name, left, arity, target⟩).atLine number =
      (checker.check ⟨name, right, arity, target⟩).atLine number := by
  rw [Checker.check, Checker.check, Report.atLine_ofFindings,
    Report.atLine_ofFindings, Checker.map_atLine_findings,
    Checker.map_atLine_findings, same.directives]
  congr 1
  exact List.map_congr_left fun directive _ =>
    checker.judge_eq_of_sameTypes left right (same.sameTypes arity)
      directive

end SameLines

/-- Of a comment only the lines of each kind matter, in their order within
the kind.  Comments with the same ones document the same parameters and the
same result, and their directives and reports differ in line numbers at
most. -/
theorem documentation_depends_on_lines_of_each_kind {left right : String}
    (same : SameLines left right) :
    (∀ arity,
      (Documentation.ofComment arity left).parameters =
        (Documentation.ofComment arity right).parameters ∧
      (Documentation.ofComment arity left).returns =
        (Documentation.ofComment arity right).returns ∧
      ∀ number,
        (Documentation.ofComment arity left).directives.map
            (Directive.atLine number) =
          (Documentation.ofComment arity right).directives.map
            (Directive.atLine number)) ∧
    ∀ (checker : Checker) (name : String) (arity : Nat) (target : Target)
      (number : Nat),
      (checker.check ⟨name, left, arity, target⟩).atLine number =
        (checker.check ⟨name, right, arity, target⟩).atLine number := by
  refine ⟨fun arity => ?_, same.check⟩
  have types := same.sameTypes arity
  exact ⟨types.parameters, types.returns, same.directives arity⟩

/-- Prose between the lines, and the parameter behind the directives. -/
theorem parameter_documented_behind_directives :
    let left := "@param \x7bNumber\x7d n\n@returns \x7bNumber\x7d\n" ++
      "@assert - 1=>2\n@assert Two - 2=>3"
    let right := "Adds one.\n@assert - 1=>2\n@returns \x7bNumber\x7d\n\n" ++
      "@assert Two - 2=>3\n@param \x7bNumber\x7d n"
    SameLines left right ∧
    (Directive.ofComment 1 left).map Directive.line = [3, 4] ∧
    (Directive.ofComment 1 right).map Directive.line = [2, 5] ∧
    (Checker.standard.check ⟨"greet", left, 1, Demo.greet⟩).atLine 1 =
      (Checker.standard.check ⟨"greet", right, 1, Demo.greet⟩).atLine 1 := by
  intro left right
  have same : SameLines left right := by
    intro kind
    cases kind <;> decide
  obtain ⟨_, sameReports⟩ :=
    documentation_depends_on_lines_of_each_kind same
  exact ⟨same, by decide, by decide,
    sameReports Checker.standard "greet" 1 Demo.greet 1⟩

end DocCheck
