import DocCheck.Proofs.Cutting
import DocCheck.Proofs.FindingOrder
import DocCheck.Proofs.Tallies
import DocCheck.Run.Written

/-!
# Exit codes

A summary grows by reports, each of which has grown by findings.  However it
has grown, its tally counts the findings of all its reports; so its exit code
and the word that ends its text, which are settled apart from each other,
both follow from these findings and agree.
-/

namespace DocCheck

/-! ## Summaries that have grown -/

/-- The summaries that grow from an empty one, a report at a time. -/
inductive Summary.Grown : Summary → Prop
  | empty : Grown {}
  | add {summary : Summary} {report : Report} :
      Grown summary → report.Grown → Grown (summary.add report)

/-- The findings of all reports of a summary, in order. -/
def Summary.findings (summary : Summary) : List Finding :=
  summary.reports.flatMap Report.findings

namespace Summary

theorem findings_add (summary : Summary) (report : Report) :
    (summary.add report).findings = summary.findings ++ report.findings := by
  simp [findings, add]

theorem counts_add {summary : Summary} {report : Report}
    (counted : summary.tally.Counts summary.findings)
    (reportCounted : report.tally.Counts report.findings) :
    (summary.add report).tally.Counts (summary.add report).findings := by
  rw [findings_add]
  exact counted.append reportCounted

/-- However a summary has grown, its tally counts the findings of all its
reports. -/
theorem Grown.counts {summary : Summary} (grown : summary.Grown) :
    summary.tally.Counts summary.findings := by
  induction grown with
  | empty => exact Tally.counts_nil
  | add _ reportGrown inductionHypothesis =>
      exact counts_add inductionHypothesis reportGrown.counts

theorem Grown.grown_of_mem {summary : Summary} (grown : summary.Grown)
    {report : Report} (member : report ∈ summary.reports) :
    report.Grown := by
  induction grown with
  | empty => cases member
  | @add summary lastReport _ lastGrown inductionHypothesis =>
      rcases List.mem_append.mp member with earlier | last
      · exact inductionHypothesis earlier
      · rwa [List.mem_singleton.mp last]

theorem grown_foldl_add {summary : Summary} (grown : summary.Grown)
    {reports : List Report} (reportsGrown : ∀ report ∈ reports, report.Grown) :
    (reports.foldl add summary).Grown := by
  induction reports generalizing summary with
  | nil => exact grown
  | cons report others inductionHypothesis =>
      obtain ⟨reportGrown, othersGrown⟩ :=
        List.forall_mem_cons.mp reportsGrown
      exact inductionHypothesis (.add grown reportGrown) othersGrown

end Summary

theorem Checker.grown_checkAll (checker : Checker) (symbols : List Symbol) :
    (checker.checkAll symbols).Grown := by
  apply Summary.grown_foldl_add .empty
  intro report member
  obtain ⟨symbol, _, rfl⟩ := List.mem_map.mp member
  exact Report.grown_ofFindings symbol.name _

/-! ## Exit codes and final words -/

namespace Summary

/-- A summary ends in one of three ways, each with its exit code and its
word, and its findings settle in which one. -/
theorem Grown.ending {summary : Summary} (grown : summary.Grown) :
    (summary.findings = [] ∧
      summary.exitCode = 2 ∧ summary.conclusion = "NO TESTS FOUND") ∨
    ((summary.findings ≠ [] ∧
        ∀ finding ∈ summary.findings, finding.outcome? = some .pass) ∧
      summary.exitCode = 0 ∧ summary.conclusion = "OK") ∨
    ((∃ finding ∈ summary.findings, finding.outcome? ≠ some .pass) ∧
      summary.exitCode = 1 ∧ summary.conclusion = "FAILED") := by
  have total : summary.total = summary.findings.length :=
    grown.counts.total_eq
  have failures : summary.hasFailures = true ↔
      ∃ finding ∈ summary.findings, finding.outcome? ≠ some .pass :=
    grown.counts.hasFailures_iff
  by_cases failed : summary.hasFailures = true
  · obtain ⟨finding, member, notPassed⟩ := failures.mp failed
    have nonempty : summary.total ≠ 0 := by
      rw [total, ne_eq, List.length_eq_zero_iff]
      exact List.ne_nil_of_mem member
    refine .inr (.inr ⟨⟨finding, member, notPassed⟩, ?_, ?_⟩)
    · rw [exitCode, if_neg nonempty, if_pos failed]
    · rw [conclusion, if_pos failed]
  · have passed : ∀ finding ∈ summary.findings,
        finding.outcome? = some .pass := by
      intro finding member
      by_contra notPassed
      exact failed (failures.mpr ⟨finding, member, notPassed⟩)
    by_cases empty : summary.total = 0
    · refine .inl ⟨?_, ?_, ?_⟩
      · rwa [total, List.length_eq_zero_iff] at empty
      · rw [exitCode, if_pos empty]
      · rw [conclusion, if_neg failed, if_pos empty]
    · refine .inr (.inl ⟨⟨?_, passed⟩, ?_, ?_⟩)
      · rwa [total, List.length_eq_zero_iff] at empty
      · rw [exitCode, if_neg empty, if_neg failed]
      · rw [conclusion, if_neg failed, if_neg empty]

end Summary

/-- The last line of a text. -/
def lastLine? (text : String) : Option String :=
  (linesOf text.toList).getLast?.map String.ofList

theorem lastLine?_of_line (front : String) {line : String}
    (absent : '\n' ∉ line.toList) :
    lastLine? (front ++ "\n" ++ line ++ "\n") = some line := by
  have newline : "\n".toList = ['\n'] := by decide
  have lines : linesOf (front ++ "\n" ++ line ++ "\n").toList =
      linesOf (front.toList ++ ['\n']) ++ [line.toList] := by
    rw [← linesOf_concat_newline absent, ← linesOf_append_newline]
    simp only [String.toList_append, newline, List.append_assoc,
      List.cons_append, List.nil_append]
  rw [lastLine?, lines, List.getLast?_concat, Option.map_some,
    String.ofList_toList]

theorem Summary.newline_notMem_conclusion (summary : Summary) :
    '\n' ∉ summary.conclusion.toList := by
  unfold conclusion
  split
  · decide
  · split <;> decide

/-- Whatever else it shows, the text of a summary ends in its word. -/
theorem Summary.lastLine?_written (summary : Summary) (verbose : Bool)
    (mode : ColorChoice) :
    lastLine? (summary.written verbose mode) =
      some summary.conclusion := by
  have blankLine : "\n\n" = "\n" ++ "\n" := by decide
  rw [written, blankLine, ← String.append_assoc]
  exact lastLine?_of_line _ summary.newline_notMem_conclusion

/-! ## Agreement -/

/-- A summary tells the same by its tallies, by its exit code and by its text
as by its findings. -/
structure Summary.Faithful (summary : Summary) : Prop where
  reportCounts :
    ∀ report ∈ summary.reports, report.tally.Counts report.findings
  reportTotal :
    ∀ report ∈ summary.reports,
      report.total = report.findings.length ∧
      report.total = report.tally.passed + report.tally.failed +
        report.tally.errors + report.tally.rejected
  counts : summary.tally.Counts summary.findings
  total :
    summary.total = summary.findings.length ∧
    summary.total = summary.tally.passed + summary.tally.failed +
      summary.tally.errors + summary.tally.rejected
  nothingFound : summary.exitCode = 2 ↔ summary.findings = []
  success :
    summary.exitCode = 0 ↔
      summary.findings ≠ [] ∧
        ∀ finding ∈ summary.findings, finding.outcome? = some .pass
  failure :
    summary.exitCode = 1 ↔
      ∃ finding ∈ summary.findings, finding.outcome? ≠ some .pass
  lastLine :
    ∀ verbose mode,
      (lastLine? (summary.written verbose mode) = some "NO TESTS FOUND" ↔
        summary.exitCode = 2) ∧
      (lastLine? (summary.written verbose mode) = some "OK" ↔
        summary.exitCode = 0) ∧
      (lastLine? (summary.written verbose mode) = some "FAILED" ↔
        summary.exitCode = 1)

theorem Summary.Grown.faithful {summary : Summary} (grown : summary.Grown) :
    summary.Faithful where
  reportCounts report member := (grown.grown_of_mem member).counts
  reportTotal report member :=
    ⟨rfl, (grown.grown_of_mem member).counts.total_eq.symm⟩
  counts := grown.counts
  total := ⟨grown.counts.total_eq, rfl⟩
  nothingFound := by
    rcases grown.ending with ⟨empty, code, _⟩ | ⟨⟨nonempty, _⟩, code, _⟩ |
      ⟨⟨finding, member, _⟩, code, _⟩
    · simp [empty, code]
    · simp [nonempty, code]
    · simp [List.ne_nil_of_mem member, code]
  success := by
    rcases grown.ending with ⟨empty, code, _⟩ | ⟨passing, code, _⟩ |
      ⟨⟨finding, member, notPassed⟩, code, _⟩
    · simp [empty, code]
    · exact iff_of_true code passing
    · refine iff_of_false (by simp [code]) ?_
      intro given
      exact notPassed (given.2 finding member)
  failure := by
    rcases grown.ending with ⟨empty, code, _⟩ | ⟨⟨_, passed⟩, code, _⟩ |
      ⟨failing, code, _⟩
    · simp [empty, code]
    · refine iff_of_false (by simp [code]) ?_
      intro given
      obtain ⟨finding, member, notPassed⟩ := given
      exact notPassed (passed finding member)
    · exact iff_of_true code failing
  lastLine verbose mode := by
    rw [lastLine?_written]
    rcases grown.ending with ⟨_, code, word⟩ | ⟨_, code, word⟩ |
        ⟨_, code, word⟩ <;>
      simp [code, word]

/-- The summary of a run has one report for each symbol, in order; and like
every summary that has grown by findings and reports, it tells by tallies,
exit code and text what its findings are. -/
theorem summary_tells_its_findings (checker : Checker)
    (symbols : List Symbol) :
    ((checker.checkAll symbols).reports = symbols.map checker.check ∧
      (checker.checkAll symbols).reports.map Report.symbol =
        symbols.map Symbol.name ∧
      (checker.checkAll symbols).Faithful) ∧
    ∀ summary : Summary, summary.Grown → summary.Faithful := by
  have reports :
      (checker.checkAll symbols).reports = symbols.map checker.check :=
    Summary.reports_ofReports _
  refine ⟨⟨reports, ?_, (checker.grown_checkAll symbols).faithful⟩,
    fun summary grown => grown.faithful⟩
  rw [reports, List.map_map]
  exact List.map_congr_left fun symbol _ =>
    Report.symbol_ofFindings symbol.name _

/-- A pass in one report and a rejection in another. -/
theorem rejection_beside_pass_exits_with_failure :
    ∃ summary : Summary,
      summary.Grown ∧ summary.tally = { passed := 1, rejected := 1 } ∧
      summary.exitCode = 1 ∧
      lastLine? (summary.written false .always) = some "FAILED" := by
  let verdict : Verdict :=
    ⟨⟨"Simple"⟩, none, 2, .pass, .ok (.bool true), .bool true⟩
  let diagnostic : Diagnostic :=
    Fault.missingArrow.diagnostic ⟨3, "@assert - Ann"⟩
  let passing : Report := Report.add ⟨"flag", [], {}⟩ (.ran verdict)
  let failing : Report :=
    Report.add ⟨"greet", [], {}⟩ (.rejected ⟨"greet#1"⟩ diagnostic)
  let summary : Summary := ((Summary.mk [] {}).add passing).add failing
  have grown : summary.Grown :=
    .add (.add .empty (.add _ (.empty "flag"))) (.add _ (.empty "greet"))
  have faithful :=
    (summary_tells_its_findings Checker.standard []).2 summary grown
  have code : summary.exitCode = 1 := by decide
  exact ⟨summary, grown, rfl, code,
    (faithful.lastLine false .always).2.2.mpr code⟩

end DocCheck
