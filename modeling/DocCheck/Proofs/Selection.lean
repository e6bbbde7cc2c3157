import DocCheck.Proofs.Dependence
import DocCheck.Proofs.FindingOrder
import DocCheck.Proofs.Tallies

/-!
# What a filter selects

A filter only selects: the report under a filter lists, in order and
unchanged, those findings of the report without filter whose identity or
whose symbol contains the text of the filter.
-/

namespace DocCheck

/-- The checker with another filter, or without one. -/
def Checker.withFilter (checker : Checker) (filter : Option String) :
    Checker :=
  { checker with settings := { checker.settings with filter := filter } }

/-- A text occurs in the name of the symbol or in the identity of the
finding. -/
def Finding.Mentions (part symbol : String) (finding : Finding) : Prop :=
  part.toList <:+: symbol.toList ∨
    part.toList <:+: finding.identity.name.toList

instance (part symbol : String) (finding : Finding) :
    Decidable (finding.Mentions part symbol) :=
  inferInstanceAs (Decidable (_ ∨ _))

/-- The report that keeps those findings of a whole report that mention a
text, with their own tally. -/
structure Report.SelectedFrom (part : String) (selected whole : Report) :
    Prop where
  symbol : selected.symbol = whole.symbol
  findings :
    selected.findings =
      whole.findings.filter fun finding =>
        finding.Mentions part whole.symbol
  tally : selected.tally.Counts selected.findings

theorem Settings.selects_of_filter {settings : Settings} {part : String}
    (filtered : settings.filter = some part) (symbol : String)
    (identity : Identity) :
    settings.selects symbol identity = true ↔
      part.toList <:+: symbol.toList ∨
        part.toList <:+: identity.name.toList := by
  rw [selects, filtered, Option.all_some, Bool.or_eq_true, occursIn_iff,
    occursIn_iff]

namespace Checker

variable (checker : Checker)

theorem judge_withFilter (filter : Option String) :
    (checker.withFilter filter).judge = checker.judge :=
  rfl

theorem selects_withFilter_some (part : String) {symbol : Symbol}
    {documentation : Documentation} {directive : Directive} :
    (checker.withFilter (some part)).selects symbol directive = true ↔
      (checker.judge symbol documentation directive).Mentions part
        symbol.name := by
  rw [Finding.Mentions, identity_judge]
  exact Settings.selects_of_filter rfl symbol.name _

theorem selectedFrom_check (part : String) (symbol : Symbol) :
    ((checker.withFilter (some part)).check symbol).SelectedFrom part
      ((checker.withFilter none).check symbol) where
  symbol := by rw [check, check, Report.symbol_ofFindings,
    Report.symbol_ofFindings]
  findings := by
    have named :
        ((checker.withFilter none).check symbol).symbol = symbol.name :=
      Report.symbol_ofFindings _ _
    have unfiltered : (checker.withFilter none).settings.filter = none :=
      rfl
    rw [named, findings_of_unfiltered unfiltered, findings_check,
      judge_withFilter, judge_withFilter, List.filter_map]
    congr 2
    funext directive
    exact Bool.eq_iff_iff.mpr <|
      (checker.selects_withFilter_some part).trans
        decide_eq_true_iff.symm
  tally := by
    rw [check, Report.findings_ofFindings]
    exact Report.counts_ofFindings _ _

theorem check_withFilter_empty (symbol : Symbol) :
    (checker.withFilter (some "")).check symbol =
      (checker.withFilter none).check symbol := by
  have everything :
      (checker.withFilter (some "")).selects symbol =
        (checker.withFilter none).selects symbol := by
    funext directive
    -- The empty text occurs in every name.
    exact (Settings.selects_of_filter rfl _ _).mpr (.inl (by simp))
  rw [check, check, findings, findings, everything, judge_withFilter,
    judge_withFilter]

end Checker

/-- A run under a filter has the reports of the run without filter, each with
just those findings that mention the text of the filter; and every finding
mentions the empty text. -/
theorem filter_only_selects (checker : Checker) (part : String)
    (symbols : List Symbol) :
    ((checker.withFilter (some part)).checkAll symbols).reports.map
        Report.symbol = symbols.map Symbol.name ∧
      List.Forall₂ (Report.SelectedFrom part)
        ((checker.withFilter (some part)).checkAll symbols).reports
        ((checker.withFilter none).checkAll symbols).reports ∧
      (checker.withFilter (some "")).checkAll symbols =
        (checker.withFilter none).checkAll symbols := by
  refine ⟨?_, ?_, ?_⟩
  · rw [Checker.checkAll, Summary.reports_ofReports, List.map_map]
    exact List.map_congr_left fun symbol _ =>
      Report.symbol_ofFindings symbol.name _
  · rw [Checker.checkAll, Checker.checkAll, Summary.reports_ofReports,
      Summary.reports_ofReports]
    apply List.forall₂_map_left_iff.mpr
    apply List.forall₂_map_right_iff.mpr
    apply List.forall₂_same.mpr
    intro symbol _
    exact checker.selectedFrom_check part symbol
  · rw [Checker.checkAll, Checker.checkAll,
      List.map_congr_left fun symbol _ =>
        checker.check_withFilter_empty symbol]

end DocCheck
