import DocCheck.Case.Verdict

/-!
# Reports

A report lists the findings for one symbol in the order of its directives,
and a summary the reports of a run.  Both keep a tally of their findings as
they grow.
-/

namespace DocCheck

/-- What became of a directive: it ran, or it was rejected. -/
inductive Finding where
  | ran (verdict : Verdict)
  | rejected (identity : Identity) (diagnostic : Diagnostic)

namespace Finding

def identity : Finding → Identity
  | ran verdict => verdict.identity
  | rejected identity _ => identity

def verdict? : Finding → Option Verdict
  | ran verdict => some verdict
  | rejected _ _ => none

/-- Whether a case ran and passed. -/
def isPass (finding : Finding) : Bool :=
  finding.verdict?.any fun verdict => verdict.outcome.isPass

end Finding

/-- How many findings there are of each sort. -/
structure Tally where
  passed : Nat := 0
  failed : Nat := 0
  errors : Nat := 0
  rejected : Nat := 0
deriving DecidableEq, Repr

namespace Tally

def add (left right : Tally) : Tally where
  passed := left.passed + right.passed
  failed := left.failed + right.failed
  errors := left.errors + right.errors
  rejected := left.rejected + right.rejected

instance : Add Tally :=
  ⟨add⟩

/-- The tally of a single finding. -/
def ofFinding : Finding → Tally
  | .ran verdict =>
      match verdict.outcome with
      | .pass => { passed := 1 }
      | .fail => { failed := 1 }
      | .error => { errors := 1 }
  | .rejected _ _ => { rejected := 1 }

def total (tally : Tally) : Nat :=
  tally.passed + tally.failed + tally.errors + tally.rejected

/-- Whether anything but passes was counted. -/
def hasFailures (tally : Tally) : Bool :=
  0 < tally.failed || 0 < tally.errors || 0 < tally.rejected

theorem total_add (left right : Tally) :
    (left + right).total = left.total + right.total := by
  show (add left right).total = _
  simp only [add, total]
  omega

theorem total_ofFinding (finding : Finding) :
    (ofFinding finding).total = 1 := by
  cases finding with
  | ran verdict => cases h : verdict.outcome <;> simp [ofFinding, h, total]
  | rejected identity diagnostic => rfl

end Tally

/-- The findings for one symbol. -/
structure Report where
  symbol : String
  findings : List Finding := []
  tally : Tally := {}

namespace Report

/-- The report with one more finding after the others. -/
def add (report : Report) (finding : Finding) : Report where
  symbol := report.symbol
  findings := report.findings ++ [finding]
  tally := report.tally + Tally.ofFinding finding

/-- The report of the given findings. -/
def ofFindings (symbol : String) (findings : List Finding) : Report :=
  findings.foldl add { symbol := symbol }

def total (report : Report) : Nat :=
  report.findings.length

def hasFailures (report : Report) : Bool :=
  report.tally.hasFailures

/-- The verdicts of the cases that ran, in order. -/
def verdicts (report : Report) : List Verdict :=
  report.findings.filterMap Finding.verdict?

theorem findings_foldl_add (report : Report) (findings : List Finding) :
    (findings.foldl add report).findings = report.findings ++ findings := by
  induction findings generalizing report with
  | nil => simp
  | cons finding others inductionHypothesis =>
      simp [inductionHypothesis, add]

theorem symbol_foldl_add (report : Report) (findings : List Finding) :
    (findings.foldl add report).symbol = report.symbol := by
  induction findings generalizing report with
  | nil => rfl
  | cons finding others inductionHypothesis =>
      simp [inductionHypothesis, add]

@[simp]
theorem symbol_ofFindings (symbol : String) (findings : List Finding) :
    (ofFindings symbol findings).symbol = symbol :=
  symbol_foldl_add { symbol := symbol } findings

/-- A report lists exactly the findings that it was made from. -/
@[simp]
theorem findings_ofFindings (symbol : String) (findings : List Finding) :
    (ofFindings symbol findings).findings = findings := by
  simp [ofFindings, findings_foldl_add]

end Report

/-- The reports of a run. -/
structure Summary where
  reports : List Report := []
  tally : Tally := {}

namespace Summary

/-- The summary with one more report after the others. -/
def add (summary : Summary) (report : Report) : Summary where
  reports := summary.reports ++ [report]
  tally := summary.tally + report.tally

/-- The summary of the given reports. -/
def ofReports (reports : List Report) : Summary :=
  reports.foldl add {}

def total (summary : Summary) : Nat :=
  summary.tally.total

def hasFailures (summary : Summary) : Bool :=
  summary.tally.hasFailures

/-- The exit code of a run: two when nothing was found to check, one when
anything failed or was rejected, and zero when every case passed. -/
def exitCode (summary : Summary) : Nat :=
  if summary.total = 0 then
    2
  else if summary.hasFailures then
    1
  else
    0

theorem reports_foldl_add (summary : Summary) (reports : List Report) :
    (reports.foldl add summary).reports = summary.reports ++ reports := by
  induction reports generalizing summary with
  | nil => simp
  | cons report others inductionHypothesis =>
      simp [inductionHypothesis, add]

/-- A summary lists exactly the reports that it was made from. -/
@[simp]
theorem reports_ofReports (reports : List Report) :
    (ofReports reports).reports = reports := by
  simp [ofReports, reports_foldl_add]

end Summary

end DocCheck
