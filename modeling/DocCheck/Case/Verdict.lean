import DocCheck.Case.Basic
import DocCheck.Value.Equality

/-!
# Verdicts

Running a case calls its target once and judges the outcome: a pass when the
call returns a value equal to the expected one, a failure when it returns
another one, and an error when it returns none.
-/

namespace DocCheck

inductive Outcome where
  | pass
  | fail
  | error
deriving DecidableEq, Repr

namespace Outcome

def isPass (outcome : Outcome) : Bool :=
  outcome = pass

def written : Outcome → String
  | pass => "PASS"
  | fail => "FAIL"
  | error => "ERROR"

instance : ToString Outcome :=
  ⟨written⟩

end Outcome

structure Verdict where
  identity : Identity
  kind : Option String
  line : Nat
  outcome : Outcome
  actual : Except CallError Value
  expected : Value

namespace Outcome

/-- The outcome of a call that should return the expected value. -/
def ofActual (actual : Except CallError Value)
    (expected : Value) : Outcome :=
  match actual with
  | .ok value => if value == expected then pass else fail
  | .error _ => error

end Outcome

namespace Verdict

/-- Why the outcome is not a pass, in one line. -/
def explanation? (verdict : Verdict) : Option String :=
  if verdict.outcome.isPass then
    none
  else
    match verdict.actual with
    | .ok actual =>
        some ("expected " ++ verdict.expected.written ++ ", got " ++
          actual.written)
    | .error error => some error.message

/-- Only a pass needs no explanation. -/
theorem explanation?_eq_none_iff {verdict : Verdict} :
    verdict.explanation? = none ↔ verdict.outcome = .pass := by
  unfold explanation? Outcome.isPass
  by_cases pass : verdict.outcome = .pass
  · simp [pass]
  · cases verdict.actual <;> simp [pass]

end Verdict

namespace Case

/-- Runs a case. -/
def run (case : Case) : Verdict :=
  let actual := CallError.ofReply (case.target case.arguments)
  { identity := case.identity
    kind := case.kind
    line := case.line
    outcome := Outcome.ofActual actual case.expected
    actual := actual
    expected := case.expected }

end Case

end DocCheck
