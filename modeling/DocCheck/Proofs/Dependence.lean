import DocCheck.Proofs.CommentLines
import DocCheck.Proofs.Judgement

/-!
# What a finding depends on

Since every directive is judged by one rule only, a finding is settled by the
premises of its rule.  From the rules one reads off that a finding keeps the
identity and the line of its directive, that of the documentation it depends
on the documented types alone, and that of the target it depends on the calls
with as many arguments as the symbol takes.
-/

namespace DocCheck

/-- The line of the comment that a finding tells about. -/
def Finding.line? : Finding → Option Nat
  | .ran verdict => some verdict.line
  | .rejected _ diagnostic => diagnostic.location.map Location.line

namespace Checker

theorem findings_check (checker : Checker) (symbol : Symbol) :
    (checker.check symbol).findings =
      ((Directive.ofComment symbol.arity symbol.comment).filter
        (checker.selects symbol)).map
          (checker.judge symbol
            (Documentation.ofComment symbol.arity symbol.comment)) := by
  rw [check, Report.findings_ofFindings, findings]
  rfl

section Judgement

variable {checker : Checker} {symbol : Symbol}
  {documentation : Documentation} {directive : Directive}

theorem judge_eq_of_judged {rule : Rule} {finding : Finding}
    (judged :
      Judged checker symbol documentation directive rule finding) :
    checker.judge symbol documentation directive = finding := by
  obtain ⟨otherRule, otherJudged⟩ :=
    Judged.exists_rule checker symbol documentation directive
  exact (judged.unique otherJudged).2

theorem identity_judge :
    (checker.judge symbol documentation directive).identity =
      directive.identity symbol.name := by
  obtain ⟨rule, judged⟩ :=
    Judged.exists_rule checker symbol documentation directive
  exact judged.identity_eq

theorem line?_judge :
    (checker.judge symbol documentation directive).line? =
      some directive.line := by
  obtain ⟨rule, judged⟩ :=
    Judged.exists_rule checker symbol documentation directive
  cases given : checker.judge symbol documentation directive with
  | ran verdict =>
      rw [given] at judged
      exact congrArg some judged.line_of_ran
  | rejected identity diagnostic =>
      rw [given] at judged
      rw [Finding.line?, judged.location_of_rejected]
      rfl

end Judgement

theorem nodup_lines (checker : Checker) (symbol : Symbol) :
    ((checker.check symbol).findings.map Finding.line?).Nodup := by
  have lines :
      (checker.check symbol).findings.map Finding.line? =
        (((Directive.ofComment symbol.arity symbol.comment).filter
          (checker.selects symbol)).map Directive.line).map some := by
    rw [findings_check, List.map_map, List.map_map]
    exact List.map_congr_left fun directive _ => line?_judge
  have distinct :=
    Directive.nodup_line_ofComment symbol.arity symbol.comment
  rw [lines]
  exact (distinct.sublist (List.filter_sublist.map _)).map
    fun _ _ same => Option.some.inj same

theorem mem_findings_at_line_iff (checker : Checker)
    (symbol : Symbol) {directive : Directive}
    (member :
      directive ∈ Directive.ofComment symbol.arity symbol.comment)
    (finding : Finding) :
    finding ∈ (checker.check symbol).findings ∧
        finding.line? = some directive.line ↔
      checker.selects symbol directive = true ∧
        finding = checker.judge symbol
          (Documentation.ofComment symbol.arity symbol.comment)
          directive := by
  rw [findings_check, List.mem_map]
  constructor
  · intro given
    obtain ⟨⟨other, otherMember, rfl⟩, atLine⟩ := given
    obtain ⟨inComment, selected⟩ := List.mem_filter.mp otherMember
    rw [line?_judge] at atLine
    -- No other directive of the comment is on this line.
    obtain rfl := Directive.eq_of_line_eq inComment member
      (Option.some.inj atLine)
    exact ⟨selected, rfl⟩
  · intro given
    obtain ⟨selected, rfl⟩ := given
    exact ⟨⟨directive, List.mem_filter.mpr ⟨member, selected⟩, rfl⟩,
      line?_judge⟩

end Checker

/-! ## Equal premises -/

section Congruence

variable {checker other : Checker} {name comment otherComment : String}
  {arity : Nat} {target otherTarget : Target}
  {left right : Documentation} {directive : Directive}

/-- A judgement carries over when the same operand is refused first, and when
a case that is built is built from the same values and called with the same
result. -/
theorem Judged.congr
    (refusals :
      ∀ assertion operand cause, directive.reading = .ok assertion →
        checker.resolver.FirstRefusal (assertion.operands left) operand
          cause →
        other.resolver.FirstRefusal (assertion.operands right) operand
          cause)
    (runs :
      ∀ assertion arguments expected, directive.reading = .ok assertion →
        assertion.arguments.length = arity →
        assertion.Resolved checker.resolver left arguments expected →
        assertion.Resolved other.resolver right arguments expected ∧
          target arguments = otherTarget arguments)
    {rule : Rule} {finding : Finding}
    (judged :
      Judged checker ⟨name, comment, arity, target⟩ left directive rule
        finding) :
    Judged other ⟨name, otherComment, arity, otherTarget⟩ right directive
      rule finding := by
  cases judged with
  | malformedLine reading => exact .malformedLine reading
  | argumentCount reading different =>
      exact .argumentCount reading different
  | refusedToken reading agree first =>
      exact .refusedToken reading agree (refusals _ _ _ reading first)
  | @run assertion arguments expected verdict reading agree resolved
      decided atIdentity atKind atLine =>
      obtain ⟨otherResolved, sameReply⟩ :=
        runs assertion arguments expected reading agree resolved
      have otherDecided :
          verdict.OfCall (otherTarget arguments) expected := by
        rwa [← sameReply]
      exact .run reading agree otherResolved otherDecided atIdentity
        atKind atLine

theorem Checker.judge_congr
    (refusals :
      ∀ assertion operand cause, directive.reading = .ok assertion →
        checker.resolver.FirstRefusal (assertion.operands left) operand
          cause →
        other.resolver.FirstRefusal (assertion.operands right) operand
          cause)
    (runs :
      ∀ assertion arguments expected, directive.reading = .ok assertion →
        assertion.arguments.length = arity →
        assertion.Resolved checker.resolver left arguments expected →
        assertion.Resolved other.resolver right arguments expected ∧
          target arguments = otherTarget arguments) :
    checker.judge ⟨name, comment, arity, target⟩ left directive =
      other.judge ⟨name, otherComment, arity, otherTarget⟩ right
        directive := by
  obtain ⟨rule, judged⟩ := Judged.exists_rule checker
    ⟨name, comment, arity, target⟩ left directive
  exact (judge_eq_of_judged (judged.congr refusals runs)).symm

theorem Checker.check_congr (sameSettings : checker.settings = other.settings)
    (sameJudgement :
      ∀ directive ∈ Directive.ofComment arity comment,
        checker.judge ⟨name, comment, arity, target⟩
            (Documentation.ofComment arity comment) directive =
          other.judge ⟨name, comment, arity, otherTarget⟩
            (Documentation.ofComment arity comment) directive) :
    checker.check ⟨name, comment, arity, target⟩ =
      other.check ⟨name, comment, arity, otherTarget⟩ := by
  have sameSelection :
      checker.selects ⟨name, comment, arity, target⟩ =
        other.selects ⟨name, comment, arity, otherTarget⟩ := by
    funext directive
    rw [selects, selects, sameSettings]
  rw [check, check, findings, findings, sameSelection]
  apply congrArg (Report.ofFindings name)
  apply List.map_congr_left
  intro directive member
  exact sameJudgement directive (List.mem_of_mem_filter member)

end Congruence

/-! ## Documented types -/

namespace Documentation

/-- Two documentations with the same parameters and the same type of the
result. -/
structure SameTypes (left right : Documentation) : Prop where
  parameters : left.parameters = right.parameters
  returns : left.returns = right.returns

variable {left right : Documentation}

theorem SameTypes.argumentOperands (same : left.SameTypes right)
    (start : Nat) (tokens : List Token) :
    DocCheck.argumentOperands left start tokens =
      DocCheck.argumentOperands right start tokens := by
  simp only [DocCheck.argumentOperands, parameterType?, same.parameters]

theorem SameTypes.expectedOperand (same : left.SameTypes right)
    (token : Token) :
    DocCheck.expectedOperand left token =
      DocCheck.expectedOperand right token := by
  simp only [DocCheck.expectedOperand, same.returns]

theorem SameTypes.operands (same : left.SameTypes right)
    (assertion : Assertion) :
    assertion.operands left = assertion.operands right := by
  rw [Assertion.operands, same.argumentOperands, same.expectedOperand,
    ← Assertion.operands]

theorem SameTypes.resolved (same : left.SameTypes right)
    {resolver : Resolver} {assertion : Assertion} {arguments : List Value}
    {expected : Value}
    (resolved : assertion.Resolved resolver left arguments expected) :
    assertion.Resolved resolver right arguments expected := by
  rwa [Assertion.Resolved, same.argumentOperands,
    same.expectedOperand] at resolved

end Documentation

theorem Checker.judge_eq_of_sameTypes (checker : Checker) {name : String}
    (comment otherComment : String) {arity : Nat} {target : Target}
    {left right : Documentation} (same : left.SameTypes right)
    (directive : Directive) :
    checker.judge ⟨name, comment, arity, target⟩ left directive =
      checker.judge ⟨name, otherComment, arity, target⟩ right
        directive := by
  apply judge_congr
  · intro assertion operand cause _ first
    rwa [same.operands] at first
  · intro assertion arguments expected _ _ resolved
    exact ⟨same.resolved resolved, rfl⟩

/-! ## Targets -/

/-- Two findings that differ at most in what a call gave: they are the same
rejection, or runs of the same case. -/
inductive Finding.SameCase : Finding → Finding → Prop
  | rejected (identity : Identity) (diagnostic : Diagnostic) :
      SameCase (.rejected identity diagnostic)
        (.rejected identity diagnostic)
  | ran {left right : Verdict} :
      left.identity = right.identity →
      left.kind = right.kind →
      left.line = right.line →
      left.expected = right.expected →
      SameCase (.ran left) (.ran right)

section Targets

variable {checker : Checker} {name comment : String} {arity : Nat}
  {left right : Target} {documentation : Documentation}
  {directive : Directive}

theorem Assertion.Resolved.length_arguments {resolver : Resolver}
    {assertion : Assertion} {arguments : List Value} {expected : Value}
    (resolved :
      assertion.Resolved resolver documentation arguments expected) :
    arguments.length = assertion.arguments.length := by
  rw [← resolved.1.length_eq, argumentOperands, List.length_map,
    List.length_zipIdx]

/-- The target decides at most about the outcome of a run. -/
theorem Judged.exists_sameCase {rule : Rule} {finding : Finding}
    (judged :
      Judged checker ⟨name, comment, arity, left⟩ documentation directive
        rule finding) (otherTarget : Target) :
    ∃ otherFinding,
      Judged checker ⟨name, comment, arity, otherTarget⟩ documentation
        directive rule otherFinding ∧
      finding.SameCase otherFinding := by
  cases judged with
  | malformedLine reading =>
      exact ⟨_, .malformedLine reading, .rejected _ _⟩
  | argumentCount reading different =>
      exact ⟨_, .argumentCount reading different, .rejected _ _⟩
  | refusedToken reading agree first =>
      exact ⟨_, .refusedToken reading agree first, .rejected _ _⟩
  | @run assertion arguments expected verdict reading agree resolved
      decided atIdentity atKind atLine =>
      let case : Case :=
        { identity := directive.identity name
          kind := assertion.kind
          target := otherTarget
          arguments := arguments
          expected := expected
          line := directive.line }
      exact ⟨.ran case.run,
        .run reading agree resolved (Verdict.ofCall_run case) rfl rfl rfl,
        .ran atIdentity atKind atLine decided.expected⟩

theorem Checker.sameCase_judge :
    (checker.judge ⟨name, comment, arity, left⟩ documentation
      directive).SameCase
        (checker.judge ⟨name, comment, arity, right⟩ documentation
          directive) := by
  obtain ⟨rule, judged⟩ := Judged.exists_rule checker
    ⟨name, comment, arity, left⟩ documentation directive
  obtain ⟨otherFinding, otherJudged, sameCase⟩ :=
    judged.exists_sameCase right
  rwa [judge_eq_of_judged otherJudged]

theorem Checker.judge_eq_of_agreeing_target
    (agree :
      ∀ arguments : List Value, arguments.length = arity →
        left arguments = right arguments) :
    checker.judge ⟨name, comment, arity, left⟩ documentation directive =
      checker.judge ⟨name, comment, arity, right⟩ documentation
        directive := by
  apply judge_congr
  · intro assertion operand cause _ first
    exact first
  · intro assertion arguments expected _ sameLength resolved
    -- A target is called with one value for each written argument.
    exact ⟨resolved,
      agree arguments (resolved.length_arguments.trans sameLength)⟩

end Targets

end DocCheck
