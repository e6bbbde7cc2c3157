import DocCheck.Proofs.ExitCodes

/-!
# Quiet summaries

Without verbosity the text of a summary hides passes and nothing else: it is
the verbose text of the same summary without its passes.  Whether a symbol is
shown is settled by the tally of its report and whether a finding is shown by
the finding itself, and the two agree because the tally counts the findings.
Every finding that is shown has a notice, which says in what way it is no
pass and why.
-/

namespace DocCheck

/-! ## Summaries without passes -/

/-- A finding that is no pass: a failure, an error or a rejection. -/
def Finding.NotPassed (finding : Finding) : Prop :=
  finding.outcome? ≠ some .pass

instance (finding : Finding) : Decidable finding.NotPassed :=
  inferInstanceAs (Decidable (_ ≠ _))

theorem Finding.notPassed_iff {finding : Finding} :
    finding.NotPassed ↔ finding.isPass = false := by
  cases finding with
  | ran verdict =>
      simp [NotPassed, outcome?, isPass, verdict?, Outcome.isPass]
  | rejected identity diagnostic =>
      simp [NotPassed, outcome?, isPass, verdict?]

/-- Why a verdict is no pass: another value came than was expected, or the
call gave no value. -/
def Verdict.reason (verdict : Verdict) : String :=
  match verdict.actual with
  | .ok actual =>
      "expected " ++ verdict.expected.written ++ ", got " ++ actual.written
  | .error (.raised reason) => "symbol returned an error: " ++ reason
  | .error (.panicked message) => "symbol panicked: " ++ message

/-- What is said of a finding other than a pass, and nothing of a pass. -/
def Finding.notice (colors : Bool) : Finding → String
  | .ran verdict =>
      match verdict.outcome with
      | .pass => ""
      | .fail =>
          "  FAIL: " ++ verdict.identity.name ++ " - " ++ verdict.reason ++
            "\n"
      | .error =>
          "  ERROR: " ++ verdict.identity.name ++ " - " ++ verdict.reason ++
            "\n"
  | .rejected identity diagnostic =>
      "  REJECTED: " ++ identity.name ++ "\n" ++ diagnostic.emitted colors

theorem Verdict.explanation?_eq_reason {verdict : Verdict}
    (notPass : verdict.outcome ≠ .pass) :
    verdict.explanation? = some verdict.reason := by
  rw [explanation?, Outcome.isPass, if_neg (by simpa using notPass), reason]
  cases verdict.actual with
  | ok actual => rfl
  | error error => cases error <;> rfl

theorem Finding.NotPassed.written_eq_notice {finding : Finding}
    (notPassed : finding.NotPassed) (colors : Bool) :
    finding.written colors = finding.notice colors := by
  cases finding with
  | rejected identity diagnostic => rfl
  | ran verdict =>
      have notPass : verdict.outcome ≠ .pass := fun pass =>
        notPassed (congrArg some pass)
      simp only [written, Verdict.explanation?_eq_reason notPass]
      rw [notice]
      cases outcome : verdict.outcome with
      | pass => exact absurd outcome notPass
      | fail => rfl
      | error => rfl

namespace Report

/-- The findings that are no passes, in order. -/
def notPassed (report : Report) : List Finding :=
  report.findings.filter fun finding => finding.NotPassed

/-- The report without its passes.  Its tally stays. -/
def withoutPasses (report : Report) : Report :=
  { report with findings := report.notPassed }

/-- The heading of a symbol and under it the notices of some findings. -/
def block (colors : Bool) (symbol : String) (findings : List Finding) :
    String :=
  "\n" ++ symbol ++ "\n" ++
    String.join (findings.map (Finding.notice colors))

end Report

namespace Summary

/-- The summary without the passes of its reports.  Its tally stays. -/
def withoutPasses (summary : Summary) : Summary :=
  { summary with reports := summary.reports.map Report.withoutPasses }

/-- What the text of a summary says behind its reports. -/
def footer (summary : Summary) : String :=
  "\nTest Summary:\n" ++ summary.tally.written ++ "\n\n" ++
    summary.conclusion ++ "\n"

end Summary

/-! ## Reports -/

namespace Report

theorem notPassed_eq_nil_iff {report : Report} :
    report.notPassed = [] ↔
      ¬ ∃ finding ∈ report.findings, finding.NotPassed := by
  simp [notPassed, List.filter_eq_nil_iff]

theorem shown_false (report : Report) :
    report.shown false = report.notPassed := by
  apply List.filter_congr
  intro finding _
  rw [Bool.false_or, Bool.eq_iff_iff, Bool.not_eq_true',
    decide_eq_true_iff, Finding.notPassed_iff]

theorem shown_true (report : Report) :
    report.shown true = report.findings :=
  List.filter_eq_self.mpr fun _ _ => Bool.true_or _

theorem Grown.isShown_false_iff {report : Report} (grown : report.Grown) :
    report.isShown false = true ↔
      ∃ finding ∈ report.findings, finding.NotPassed := by
  rw [isShown, Bool.false_or, Bool.and_eq_true, hasFailures,
    grown.counts.hasFailures_iff]
  constructor
  · exact fun given => given.2
  · intro given
    obtain ⟨finding, member, notPassed⟩ := given
    have nonempty : report.total ≠ 0 := by
      rw [total, ne_eq, List.length_eq_zero_iff]
      exact List.ne_nil_of_mem member
    exact ⟨by simpa using nonempty, finding, member, notPassed⟩

theorem isShown_true_iff {report : Report} :
    report.isShown true = true ↔ report.findings ≠ [] := by
  simp [isShown, total]

theorem block_notPassed (report : Report) (colors : Bool) :
    block colors report.symbol report.notPassed =
      "\n" ++ report.symbol ++ "\n" ++
        String.join (report.notPassed.map (Finding.written colors)) := by
  have sameLines : report.notPassed.map (Finding.written colors) =
      report.notPassed.map (Finding.notice colors) :=
    List.map_congr_left fun finding member =>
      Finding.NotPassed.written_eq_notice
        (of_decide_eq_true (List.mem_filter.mp member).2) colors
  rw [block, sameLines]

/-- A report that has grown shows just what is no pass, and nothing at all
where everything passed. -/
theorem Grown.written_false {report : Report} (grown : report.Grown)
    (colors : Bool) :
    report.written false colors =
      if ∃ finding ∈ report.findings, finding.NotPassed then
        block colors report.symbol report.notPassed
      else
        "" := by
  rw [written, shown_false, block_notPassed]
  simp only [grown.isShown_false_iff]

theorem written_withoutPasses (report : Report) (colors : Bool) :
    report.withoutPasses.written true colors =
      if ∃ finding ∈ report.findings, finding.NotPassed then
        block colors report.symbol report.notPassed
      else
        "" := by
  have shownIff : report.withoutPasses.isShown true = true ↔
      ∃ finding ∈ report.findings, finding.NotPassed := by
    rw [isShown_true_iff, withoutPasses, ne_eq, notPassed_eq_nil_iff,
      not_not]
  rw [written, shown_true, block_notPassed]
  simp only [shownIff]
  rfl

end Report

/-! ## Summaries -/

theorem Summary.written_eq_footer (summary : Summary) (verbose : Bool)
    (mode : ColorChoice) :
    summary.written verbose mode =
      String.join (summary.reports.map
        (Report.written verbose (mode.usesColors false))) ++
          summary.footer := by
  -- With the texts in place of these names rewriting is slow.
  have regroup (front title counts gap word ending : String) :
      front ++ title ++ counts ++ gap ++ word ++ ending =
        front ++ (title ++ counts ++ gap ++ word ++ ending) := by
    simp only [String.append_assoc]
  exact regroup _ _ _ _ _ _

/-- Empty texts add nothing to a joined text. -/
theorem join_map_ite {α : Type} (items : List α) (p : α → Prop)
    [DecidablePred p] (text : α → String) :
    String.join (items.map fun item => if p item then text item else "") =
      String.join ((items.filter fun item => p item).map text) := by
  induction items with
  | nil => rfl
  | cons item others inductionHypothesis =>
      by_cases holds : p item
      · rw [List.map_cons, String.join_cons, if_pos holds,
          inductionHypothesis, List.filter_cons_of_pos (by simpa using holds),
          List.map_cons, String.join_cons]
      · rw [List.map_cons, String.join_cons, if_neg holds,
          inductionHypothesis, List.filter_cons_of_neg (by simpa using holds),
          String.empty_append]

/-- However a summary has grown, its text without verbosity is its verbose
text without the passes.  The text has one block for each symbol that has a
finding other than a pass, and no others, in order; and under its heading
the notice of every such finding once, in order. -/
theorem quiet_text_hides_passes_only {summary : Summary}
    (grown : summary.Grown) (mode : ColorChoice) :
    summary.written false mode = summary.withoutPasses.written true mode ∧
    summary.written false mode =
      String.join
        ((summary.reports.filter fun report =>
          ∃ finding ∈ report.findings, finding.NotPassed).map
            fun report =>
              Report.block (mode.usesColors false) report.symbol
                report.notPassed) ++
        summary.footer := by
  have quiet : summary.reports.map
      (Report.written false (mode.usesColors false)) =
        summary.reports.map fun report =>
          if ∃ finding ∈ report.findings, finding.NotPassed then
            Report.block (mode.usesColors false) report.symbol
              report.notPassed
          else
            "" :=
    List.map_congr_left fun report member =>
      (grown.grown_of_mem member).written_false _
  constructor
  · have pruned : summary.withoutPasses.reports.map
        (Report.written true (mode.usesColors false)) =
          summary.reports.map
            (Report.written false (mode.usesColors false)) := by
      rw [quiet, Summary.withoutPasses, List.map_map]
      exact List.map_congr_left fun report _ =>
        report.written_withoutPasses _
    have sameFooter : summary.withoutPasses.footer = summary.footer := rfl
    rw [Summary.written_eq_footer, Summary.written_eq_footer, pruned,
      sameFooter]
  · rw [Summary.written_eq_footer, quiet, join_map_ite]

/-- A symbol with a pass alone, one with a pass among findings of the other
sorts, and one without findings. -/
theorem greeting_shown_without_its_pass :
    ∃ summary : Summary,
      summary.Grown ∧
      summary.reports.map (fun report =>
        (report.symbol, report.findings.map Finding.identity)) =
          [("flag", [⟨"flag#1"⟩]),
            ("greet", [⟨"greet#1"⟩, ⟨"Ann"⟩, ⟨"Ben"⟩, ⟨"Cid"⟩, ⟨"Dan"⟩]),
            ("none", [])] ∧
      summary.written false .never =
        summary.withoutPasses.written true .never ∧
      summary.written false .never =
        "\ngreet\n" ++
        "  REJECTED: greet#1\n" ++
        "error[E1004]: expected `=>` between the arguments and the " ++
        "expected result\n" ++
        "  --> line 2: @assert - Ann\n" ++
        "  FAIL: Ben - expected \"Hello, Ben!\", got \"Hello!\"\n" ++
        "  ERROR: Cid - symbol returned an error: no name\n" ++
        "  ERROR: Dan - symbol panicked: no voice\n" ++
        "\nTest Summary:\n" ++
        "  2 passed, 1 failed, 2 errors, 1 rejected (6 total)\n" ++
        "\nFAILED\n" := by
  let ran (name : String) (outcome : Outcome)
      (actual : Except CallError Value) : Finding :=
    .ran ⟨⟨name⟩, none, 3, outcome, actual, .string "Hello, Ben!"⟩
  let passed (name : String) : Finding :=
    ran name .pass (.ok (.string "Hello, Ben!"))
  let rejection : Finding :=
    .rejected ⟨"greet#1"⟩
      (Fault.missingArrow.diagnostic ⟨2, "@assert - Ann"⟩)
  let flag : Report := .ofFindings "flag" [passed "flag#1"]
  let greet : Report := .ofFindings "greet"
    [rejection, passed "Ann", ran "Ben" .fail (.ok (.string "Hello!")),
      ran "Cid" .error (.error (.raised "no name")),
      ran "Dan" .error (.error (.panicked "no voice"))]
  let none : Report := .ofFindings "none" []
  let summary : Summary :=
    (((Summary.mk [] {}).add flag).add greet).add none
  have grown : summary.Grown :=
    .add (.add (.add .empty (Report.grown_ofFindings _ _))
      (Report.grown_ofFindings _ _)) (Report.grown_ofFindings _ _)
  obtain ⟨pruned, shown⟩ := quiet_text_hides_passes_only grown .never
  exact ⟨summary, grown, rfl, pruned, shown.trans (by decide +kernel)⟩

end DocCheck
