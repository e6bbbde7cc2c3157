import DocCheck.Diagnostic.Terminal
import DocCheck.Run.Checker

/-!
# Written summaries

A written summary lists the symbols that have something to show, each with
its findings, and then the tally of the run and a final word.  Without
verbosity only the findings other than passes are shown, and only the
symbols that have some.
-/

namespace DocCheck

namespace Finding

/-- The lines of one finding.  A rejection is followed by its
diagnostic. -/
def written (colors : Bool) : Finding → String
  | ran verdict =>
      let heading :=
        "  " ++ verdict.outcome.written ++ ": " ++ verdict.identity.name
      match verdict.explanation? with
      | some detail => heading ++ " - " ++ detail ++ "\n"
      | none => heading ++ "\n"
  | rejected identity diagnostic =>
      "  REJECTED: " ++ identity.name ++ "\n" ++ diagnostic.emitted colors

end Finding

namespace Report

/-- Whether a report is shown at all. -/
def isShown (verbose : Bool) (report : Report) : Bool :=
  report.total != 0 && (verbose || report.hasFailures)

/-- The findings of a report that are shown. -/
def shown (verbose : Bool) (report : Report) : List Finding :=
  report.findings.filter fun finding => verbose || !finding.isPass

/-- The lines of a report, under the name of its symbol. -/
def written (verbose colors : Bool) (report : Report) : String :=
  if report.isShown verbose then
    "\n" ++ report.symbol ++ "\n" ++
      String.join ((report.shown verbose).map (Finding.written colors))
  else
    ""

end Report

namespace Tally

/-- A tally in one line. -/
def written (tally : Tally) : String :=
  "  " ++ toString tally.passed ++ " passed, " ++
    toString tally.failed ++ " failed, " ++
    toString tally.errors ++ " errors, " ++
    toString tally.rejected ++ " rejected (" ++
    toString tally.total ++ " total)"

end Tally

namespace Summary

/-- The word that ends a written summary. -/
def conclusion (summary : Summary) : String :=
  if summary.hasFailures then
    "FAILED"
  else if summary.total = 0 then
    "NO TESTS FOUND"
  else
    "OK"

/-- A summary as a text.  A summary never goes straight to a terminal, so
the automatic mode means no colours. -/
def written (verbose : Bool) (mode : ColorChoice) (summary : Summary) :
    String :=
  let colors := mode.usesColors false
  String.join (summary.reports.map (Report.written verbose colors)) ++
    "\nTest Summary:\n" ++ summary.tally.written ++ "\n\n" ++
    summary.conclusion ++ "\n"

end Summary

end DocCheck
