import DocCheck.Run.Report

/-!
# What a tally counts

The tally of a report grows with every finding that the report takes in, and
it always counts the findings of each sort: passes, failures, errors and
rejections.
-/

namespace DocCheck

/-- How the run behind a finding ended.  A rejection has no outcome. -/
def Finding.outcome? (finding : Finding) : Option Outcome :=
  finding.verdict?.map Verdict.outcome

/-- A tally that counts the findings of each sort in a list. -/
structure Tally.Counts (tally : Tally) (findings : List Finding) :
    Prop where
  passed :
    tally.passed =
      findings.countP fun finding => finding.outcome? = some .pass
  failed :
    tally.failed =
      findings.countP fun finding => finding.outcome? = some .fail
  errors :
    tally.errors =
      findings.countP fun finding => finding.outcome? = some .error
  rejected :
    tally.rejected =
      findings.countP fun finding => finding.outcome? = none

namespace Tally

theorem counts_nil : Counts {} [] :=
  ⟨rfl, rfl, rfl, rfl⟩

theorem counts_ofFinding (finding : Finding) :
    (ofFinding finding).Counts [finding] := by
  cases finding with
  | ran verdict =>
      cases ended : verdict.outcome <;>
        constructor <;>
        simp [ofFinding, Finding.outcome?, Finding.verdict?, ended]
  | rejected identity diagnostic => exact ⟨rfl, rfl, rfl, rfl⟩

/-- Tallies add up as the findings that they count are listed one after the
other. -/
theorem Counts.append {front back : Tally}
    {frontFindings backFindings : List Finding}
    (counted : front.Counts frontFindings)
    (countedBack : back.Counts backFindings) :
    (front + back).Counts (frontFindings ++ backFindings) where
  passed := by
    rw [List.countP_append, ← counted.passed, ← countedBack.passed]
    rfl
  failed := by
    rw [List.countP_append, ← counted.failed, ← countedBack.failed]
    rfl
  errors := by
    rw [List.countP_append, ← counted.errors, ← countedBack.errors]
    rfl
  rejected := by
    rw [List.countP_append, ← counted.rejected, ← countedBack.rejected]
    rfl

theorem Counts.total_eq {tally : Tally} {findings : List Finding}
    (counted : tally.Counts findings) : tally.total = findings.length := by
  rw [total, counted.passed, counted.failed, counted.errors,
    counted.rejected]
  clear counted
  induction findings with
  | nil => rfl
  | cons finding others inductionHypothesis =>
      simp only [List.countP_cons, List.length_cons]
      cases finding.outcome? with
      | none => simp; omega
      | some outcome => cases outcome <;> simp <;> omega

theorem Counts.hasFailures_iff {tally : Tally} {findings : List Finding}
    (counted : tally.Counts findings) :
    tally.hasFailures = true ↔
      ∃ finding ∈ findings, finding.outcome? ≠ some .pass := by
  rw [hasFailures, counted.failed, counted.errors, counted.rejected]
  simp only [Bool.or_eq_true, decide_eq_true_eq, List.countP_pos_iff]
  constructor
  · intro given
    rcases given with
      (⟨finding, member, ended⟩ | ⟨finding, member, ended⟩) |
        ⟨finding, member, ended⟩ <;>
      exact ⟨finding, member, by simp [ended]⟩
  · intro given
    obtain ⟨finding, member, notPassed⟩ := given
    cases ended : finding.outcome? with
    | none => exact .inr ⟨finding, member, ended⟩
    | some outcome =>
        cases outcome with
        | pass => exact absurd ended notPassed
        | fail => exact .inl (.inl ⟨finding, member, ended⟩)
        | error => exact .inl (.inr ⟨finding, member, ended⟩)

end Tally

/-- The reports that grow from an empty one, a finding at a time. -/
inductive Report.Grown : Report → Prop
  | empty (symbol : String) : Grown { symbol := symbol }
  | add {report : Report} (finding : Finding) :
      Grown report → Grown (report.add finding)

namespace Report

theorem counts_add {report : Report}
    (counted : report.tally.Counts report.findings) (finding : Finding) :
    (report.add finding).tally.Counts (report.add finding).findings :=
  counted.append (Tally.counts_ofFinding finding)

/-- However a report has grown, its tally counts its findings. -/
theorem Grown.counts {report : Report} (grown : report.Grown) :
    report.tally.Counts report.findings := by
  induction grown with
  | empty symbol => exact Tally.counts_nil
  | add finding _ inductionHypothesis =>
      exact counts_add inductionHypothesis finding

theorem grown_foldl_add {report : Report} (grown : report.Grown)
    (findings : List Finding) : (findings.foldl add report).Grown := by
  induction findings generalizing report with
  | nil => exact grown
  | cons finding others inductionHypothesis =>
      exact inductionHypothesis (.add finding grown)

theorem grown_ofFindings (symbol : String) (findings : List Finding) :
    (ofFindings symbol findings).Grown :=
  grown_foldl_add (.empty symbol) findings

theorem counts_ofFindings (symbol : String) (findings : List Finding) :
    (ofFindings symbol findings).tally.Counts findings := by
  have counted := (grown_ofFindings symbol findings).counts
  rwa [findings_ofFindings] at counted

end Report

end DocCheck
