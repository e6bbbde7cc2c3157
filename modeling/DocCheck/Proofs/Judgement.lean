import DocCheck.Proofs.Resolution
import DocCheck.Proofs.Tallies
import DocCheck.Run.Checker

/-!
# How a directive is judged

Every directive is judged by exactly one of four rules.  A malformed line
comes first, then a wrong number of arguments, then the first token that is
refused; where none of these stands in the way the case runs, and what the
target does decides its outcome.
-/

namespace DocCheck

/-! ## The standard checker -/

theorem Registry.complete_standard : Registry.standard.Complete := by
  intro tag member
  rw [contains_iff]
  simp only [Tag.builtins, List.mem_cons, List.not_mem_nil, or_false]
    at member
  rcases member with rfl | rfl | rfl | rfl
  all_goals
    simp [standard, coercion?_withCoercion, Tag.string, Tag.number,
      Tag.bool, Tag.object]

theorem Registry.Complete.withCoercion {registry : Registry}
    (complete : registry.Complete) (tag : Tag) (coercion : Coercion) :
    (registry.withCoercion tag coercion).Complete := by
  intro other builtin
  rw [contains_iff, coercion?_withCoercion]
  split
  · rfl
  · exact contains_iff.mp (complete other builtin)

def Checker.standard : Checker :=
  ⟨Registry.standard, {}, Registry.complete_standard⟩

/-! ## Rules -/

/-- The rules by which a directive is judged, in the order in which they
apply.  A rule tells the fault of a malformed line, and the position of a
refused token with the cause of its refusal. -/
inductive Rule where
  | malformedLine (fault : Fault)
  | argumentCount
  | refusedToken (position : Position) (cause : TokenError)
  | run
deriving DecidableEq, Repr

/-- The label of the code with which a rule rejects a directive. -/
def Rule.label? : Rule → Option String
  | malformedLine .unclosedKind => some "E1001"
  | malformedLine .emptyKind => some "E1002"
  | malformedLine .missingDash => some "E1003"
  | malformedLine .missingArrow => some "E1004"
  | malformedLine (.multipleArrows _) => some "E1005"
  | argumentCount => some "E3001"
  | refusedToken _ (.unknownTag _) => some "E2001"
  | refusedToken _ (.invalidNumber _) => some "E2002"
  | refusedToken _ (.invalidBool _) => some "E2003"
  | refusedToken _ (.rejected _ _ _) => some "E2004"
  | refusedToken _ (.panicked _ _ _) => some "E2007"
  | run => none

/-- No rule rejects with a code of the registry's own set-up or of the
target. -/
theorem Rule.notMem_of_label? {rule : Rule} {label : String}
    (rejects : rule.label? = some label) :
    label ∉ ["E2005", "E2006", "E4001", "E4002"] := by
  cases rule with
  | malformedLine fault =>
      cases fault <;> cases rejects <;> decide
  | argumentCount =>
      cases rejects
      decide
  | refusedToken position cause =>
      cases cause <;> cases rejects <;> decide
  | run => cases rejects

/-- The note on a refused token names its position, in which arguments count
from one. -/
def Position.note : Position → String
  | argument index =>
      "while resolving the argument " ++ toString (index + 1)
  | expected => "while resolving the expected value"

theorem Position.note_eq (position : Position) :
    position.note = "while resolving the " ++ position.written := by
  cases position with
  | argument index => rw [written, ← String.append_assoc]; rfl
  | expected => rfl

namespace Finding

/-- Why a directive was rejected. -/
def diagnostic? : Finding → Option Diagnostic
  | ran _ => none
  | rejected _ diagnostic => some diagnostic

/-- The label of the code with which a directive was rejected. -/
def label? (finding : Finding) : Option String :=
  finding.diagnostic?.map fun diagnostic => diagnostic.code.label

end Finding

/-- What a call of the target decides about the outcome of a run. -/
structure Verdict.OfCall (verdict : Verdict) (reply : Reply)
    (expected : Value) : Prop where
  error_iff :
    verdict.outcome = .error ↔
      (∃ reason, reply = .failed reason) ∨
        ∃ panic, reply = .panicked panic
  pass_iff :
    verdict.outcome = .pass ↔
      ∃ value, reply = .returned value ∧ (value == expected) = true
  fail_iff :
    verdict.outcome = .fail ↔
      ∃ value, reply = .returned value ∧ (value == expected) = false
  actual : verdict.actual = CallError.ofReply reply
  expected : verdict.expected = expected

/-! ## Judgements -/

/-- How a rule judges a directive of a symbol. -/
inductive Judged (checker : Checker) (symbol : Symbol)
    (documentation : Documentation) (directive : Directive) :
    Rule → Finding → Prop
  | malformedLine {fault : Fault} :
      directive.reading = .error fault →
      Judged checker symbol documentation directive (.malformedLine fault)
        (.rejected (directive.identity symbol.name) {
          code := fault.code
          message := fault.message
          location := some directive.location
          notes := fault.notes
          suggestions := fault.suggestions })
  | argumentCount {assertion : Assertion} :
      directive.reading = .ok assertion →
      assertion.arguments.length ≠ symbol.arity →
      Judged checker symbol documentation directive .argumentCount
        (.rejected (directive.identity symbol.name) {
          code := .arityMismatch
          message := "`" ++ symbol.name ++ "` takes " ++
            toString symbol.arity ++
            " argument(s) but the directive gives " ++
            toString assertion.arguments.length
          location := some directive.location
          notes := ["the symbol was not invoked"] })
  | refusedToken {assertion : Assertion} {operand : Operand}
      {cause : TokenError} :
      directive.reading = .ok assertion →
      assertion.arguments.length = symbol.arity →
      checker.resolver.FirstRefusal (assertion.operands documentation)
        operand cause →
      Judged checker symbol documentation directive
        (.refusedToken operand.position cause)
        (.rejected (directive.identity symbol.name) {
          code := cause.code
          message := cause.message
          location := some directive.location
          notes := cause.notes ++ [operand.position.note]
          suggestions := cause.suggestions })
  | run {assertion : Assertion} {arguments : List Value}
      {expected : Value} {verdict : Verdict} :
      directive.reading = .ok assertion →
      assertion.arguments.length = symbol.arity →
      assertion.Resolved checker.resolver documentation arguments
        expected →
      verdict.OfCall (symbol.target arguments) expected →
      verdict.identity = directive.identity symbol.name →
      verdict.kind = assertion.kind →
      verdict.line = directive.line →
      Judged checker symbol documentation directive .run (.ran verdict)

theorem Verdict.ofCall_run (case : Case) :
    case.run.OfCall (case.target case.arguments) case.expected := by
  cases replied : case.target case.arguments with
  | returned value =>
      cases equal : value == case.expected <;>
        constructor <;>
        simp [Case.run, replied, CallError.ofReply, Outcome.ofActual, equal]
  | failed reason =>
      constructor <;>
        simp [Case.run, replied, CallError.ofReply, Outcome.ofActual]
  | panicked panic =>
      constructor <;>
        simp [Case.run, replied, CallError.ofReply, Outcome.ofActual]

/-- A call and the directive leave nothing of a verdict open. -/
theorem Verdict.OfCall.unique {verdict other : Verdict} {reply : Reply}
    {expected : Value} (decided : verdict.OfCall reply expected)
    (otherDecided : other.OfCall reply expected)
    (identity : verdict.identity = other.identity)
    (kind : verdict.kind = other.kind)
    (line : verdict.line = other.line) : other = verdict := by
  have outcome : verdict.outcome = other.outcome := by
    cases known : verdict.outcome with
    | pass =>
        exact (otherDecided.pass_iff.mpr (decided.pass_iff.mp known)).symm
    | fail =>
        exact (otherDecided.fail_iff.mpr (decided.fail_iff.mp known)).symm
    | error =>
        exact (otherDecided.error_iff.mpr
          (decided.error_iff.mp known)).symm
  have actual := decided.actual.trans otherDecided.actual.symm
  have sameExpected := decided.expected.trans otherDecided.expected.symm
  cases verdict
  cases other
  simp_all

namespace Judged

variable {checker : Checker} {symbol : Symbol}
  {documentation : Documentation} {directive : Directive}

/-- The first refusal is reported as the rejection of its token. -/
theorem of_firstRefusal {assertion : Assertion} {operand : Operand}
    {cause : TokenError}
    (reading : directive.reading = .ok assertion)
    (agree : assertion.arguments.length = symbol.arity)
    (first :
      checker.resolver.FirstRefusal (assertion.operands documentation)
        operand cause) :
    Judged checker symbol documentation directive
      (.refusedToken operand.position cause)
      (.rejected (directive.identity symbol.name)
        ((Rejection.token operand.position cause).diagnostic.located
          directive.location)) := by
  have refused : Judged checker symbol documentation directive
      (.refusedToken operand.position cause) _ :=
    .refusedToken reading agree first
  rwa [Position.note_eq] at refused

theorem exists_rule (checker : Checker) (symbol : Symbol)
    (documentation : Documentation) (directive : Directive) :
    ∃ rule, Judged checker symbol documentation directive rule
      (checker.judge symbol documentation directive) := by
  cases reading : directive.reading with
  | error fault =>
      refine ⟨.malformedLine fault, ?_⟩
      simp only [Checker.judge, reading]
      exact .malformedLine reading
  | ok assertion =>
      simp only [Checker.judge, reading]
      cases built :
          Case.build checker.resolver symbol documentation directive
            assertion with
      | ok case =>
          obtain ⟨agree, arguments, expected, resolved, rfl⟩ :=
            Case.build_eq_ok_iff.mp built
          exact ⟨.run, .run reading agree resolved
            (Verdict.ofCall_run _) rfl rfl rfl⟩
      | error error =>
          rcases Case.rejection_of_build_eq_error built with
            ⟨different, rfl⟩ | ⟨agree, operand, cause, first, rfl⟩
          · exact ⟨.argumentCount, .argumentCount reading different⟩
          · exact ⟨_, .of_firstRefusal reading agree first⟩

theorem unique {rule otherRule : Rule} {finding otherFinding : Finding}
    (judged :
      Judged checker symbol documentation directive rule finding)
    (other :
      Judged checker symbol documentation directive otherRule
        otherFinding) :
    otherRule = rule ∧ otherFinding = finding := by
  cases judged with
  | malformedLine reading =>
      cases other <;> simp_all
  | argumentCount reading different =>
      cases other <;> simp_all
  | refusedToken reading agree first =>
      cases other with
      | malformedLine otherReading => simp_all
      | argumentCount otherReading different => simp_all
      | refusedToken otherReading _ otherFirst =>
          obtain rfl := Except.ok.inj (reading.symm.trans otherReading)
          obtain ⟨rfl, rfl⟩ := Resolver.firstRefusal_unique first otherFirst
          exact ⟨rfl, rfl⟩
      | run otherReading _ resolved =>
          obtain rfl := Except.ok.inj (reading.symm.trans otherReading)
          exact absurd resolved
            (Assertion.not_resolved_of_firstRefusal first)
  | run reading agree resolved decided atIdentity atKind atLine =>
      cases other with
      | malformedLine otherReading => simp_all
      | argumentCount otherReading different => simp_all
      | refusedToken otherReading _ first =>
          obtain rfl := Except.ok.inj (reading.symm.trans otherReading)
          exact absurd resolved
            (Assertion.not_resolved_of_firstRefusal first)
      | run otherReading _ otherResolved otherDecided otherIdentity
          otherKind otherLine =>
          obtain rfl := Except.ok.inj (reading.symm.trans otherReading)
          obtain ⟨rfl, rfl⟩ :=
            Assertion.resolved_unique resolved otherResolved
          refine ⟨rfl, congrArg Finding.ran ?_⟩
          exact decided.unique otherDecided
            (atIdentity.trans otherIdentity.symm)
            (atKind.trans otherKind.symm) (atLine.trans otherLine.symm)

theorem label?_eq {rule : Rule} {finding : Finding}
    (judged :
      Judged checker symbol documentation directive rule finding) :
    finding.label? = rule.label? := by
  cases judged with
  | @malformedLine fault _ => cases fault <;> rfl
  | argumentCount _ _ => rfl
  | @refusedToken _ _ cause _ _ _ => cases cause <;> rfl
  | run _ _ _ _ _ _ _ => rfl

theorem identity_eq {rule : Rule} {finding : Finding}
    (judged :
      Judged checker symbol documentation directive rule finding) :
    finding.identity = directive.identity symbol.name := by
  cases judged with
  | malformedLine _ => rfl
  | argumentCount _ _ => rfl
  | refusedToken _ _ _ => rfl
  | run _ _ _ _ atIdentity _ _ => exact atIdentity

theorem line_of_ran {rule : Rule} {verdict : Verdict}
    (judged :
      Judged checker symbol documentation directive rule
        (.ran verdict)) : verdict.line = directive.line := by
  cases judged with
  | run _ _ _ _ _ _ atLine => exact atLine

theorem location_of_rejected {rule : Rule} {identity : Identity}
    {diagnostic : Diagnostic}
    (judged :
      Judged checker symbol documentation directive rule
        (.rejected identity diagnostic)) :
    diagnostic.location = some directive.location := by
  cases judged <;> rfl

end Judged

/-! ## One rule for each directive -/

/-- A rule judges a directive, and no other rule does so or gives another
finding.  A rejection carries the code of the rule, and a verdict explains
itself exactly when it is not a pass. -/
structure JudgedOnlyBy (checker : Checker) (symbol : Symbol)
    (documentation : Documentation) (directive : Directive) (rule : Rule)
    (finding : Finding) : Prop where
  judged : Judged checker symbol documentation directive rule finding
  only :
    ∀ otherRule otherFinding,
      Judged checker symbol documentation directive otherRule
        otherFinding →
      otherRule = rule ∧ otherFinding = finding
  label : finding.label? = rule.label?
  unreserved :
    ∀ label, finding.label? = some label →
      label ∉ ["E2005", "E2006", "E4001", "E4002"]
  explained :
    ∀ verdict, finding = .ran verdict →
      (verdict.explanation?.isSome ↔ verdict.outcome ≠ .pass)

theorem Judged.judgedOnlyBy {checker : Checker} {symbol : Symbol}
    {documentation : Documentation} {directive : Directive} {rule : Rule}
    {finding : Finding}
    (judged :
      Judged checker symbol documentation directive rule finding) :
    JudgedOnlyBy checker symbol documentation directive rule finding where
  judged := judged
  only _ _ := judged.unique
  label := judged.label?_eq
  unreserved label rejects := by
    rw [judged.label?_eq] at rejects
    exact Rule.notMem_of_label? rejects
  explained verdict _ := by
    rw [Option.isSome_iff_ne_none, ne_eq, Verdict.explanation?_eq_none_iff]

/-- Every selected directive of a symbol is judged by exactly one rule. -/
theorem findings_judged_by_one_rule (checker : Checker)
    (symbol : Symbol) :
    List.Forall₂
      (fun directive finding =>
        ∃ rule,
          JudgedOnlyBy checker symbol
            (Documentation.ofComment symbol.arity symbol.comment)
            directive rule finding)
      ((Directive.ofComment symbol.arity symbol.comment).filter
        (checker.selects symbol))
      (checker.check symbol).findings := by
  rw [Checker.check, Report.findings_ofFindings, Checker.findings]
  apply List.forall₂_map_right_iff.mpr
  apply List.forall₂_same.mpr
  intro directive _
  obtain ⟨rule, judged⟩ := Judged.exists_rule checker symbol
    (Documentation.ofComment symbol.arity symbol.comment) directive
  exact ⟨rule, judged.judgedOnlyBy⟩

/-- Lines in which several things are wrong, of which the first counts, and
runs of a target that joins two texts. -/
theorem joins_judged_by_one_rule :
    let join : Target := fun arguments =>
      match arguments with
      | [.string left, .string right] =>
          .returned (.string (left ++ right))
      | [.number _, _] => .panicked .other
      | _ => .failed "not two texts"
    let comment := "\n".intercalate
      ["@assert \x7bSum - a:date=>b",
        "@assert - a:date,b,c=>d",
        "@assert - a:date,b:bool=>c",
        "@assert - a,b:bool=>c:date",
        "@assert - a,b=>c:number",
        "@assert Joined - a,b=>ab",
        "@assert - a,b=>ba",
        "@assert - true:bool,b=>ab",
        "@assert - 1:number,b=>ab"]
    let symbol : Symbol := ⟨"join", comment, 2, join⟩
    let findings := (Checker.standard.check symbol).findings
    List.Forall₂
      (fun directive finding =>
        ∃ rule,
          JudgedOnlyBy Checker.standard symbol
            (Documentation.ofComment 2 comment) directive rule finding)
      ((Directive.ofComment 2 comment).filter
        (Checker.standard.selects symbol))
      findings ∧
    (findings.map fun finding =>
        (finding.identity.name, finding.label?,
          finding.diagnostic?.map fun diagnostic =>
            diagnostic.message :: diagnostic.notes,
          finding.outcome?)) =
      [("join#1", some "E1001",
          some ["`\x7b` opened a kind that is never closed"], none),
        ("join#2", some "E3001",
          some ["`join` takes 2 argument(s) but the directive gives 3",
            "the symbol was not invoked"], none),
        ("join#3", some "E2001",
          some ["type tag `date` is not registered",
            "while resolving the argument 1"], none),
        ("join#4", some "E2003",
          some ["`b` is not a valid bool (expected `true` or `false`)",
            "while resolving the argument 2"], none),
        ("join#5", some "E2002",
          some ["`c` is not a valid number",
            "numbers must be finite numeric literals",
            "while resolving the expected value"], none),
        ("Joined", none, none, some .pass),
        ("join#7", none, none, some .fail),
        ("join#8", none, none, some .error),
        ("join#9", none, none, some .error)] := by
  intro join comment symbol findings
  exact ⟨findings_judged_by_one_rule Checker.standard symbol,
    by decide +kernel⟩

end DocCheck
