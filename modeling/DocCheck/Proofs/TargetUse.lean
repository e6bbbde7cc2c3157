import DocCheck.Proofs.Dependence
import DocCheck.Proofs.FindingOrder

/-!
# When the target is called

The target of a symbol is called for built cases only, and only with as many
arguments as the symbol takes.  So rejections are the same for all targets,
and two targets that agree on argument lists of that length have the same
report.  A directive with another number of arguments is rejected before any
of its tokens is resolved: its rejection is the same for all registries.
-/

namespace DocCheck

section Targets

variable (checker : Checker) (name comment : String) (arity : Nat)

theorem Checker.sameCase_findings (left right : Target) :
    List.Forall₂ Finding.SameCase
      (checker.check ⟨name, comment, arity, left⟩).findings
      (checker.check ⟨name, comment, arity, right⟩).findings := by
  rw [findings_check, findings_check]
  apply List.forall₂_map_left_iff.mpr
  apply List.forall₂_map_right_iff.mpr
  apply List.forall₂_same.mpr
  intro directive _
  exact sameCase_judge

theorem Checker.check_eq_of_agreeing_target {left right : Target}
    (agree :
      ∀ arguments : List Value, arguments.length = arity →
        left arguments = right arguments) :
    checker.check ⟨name, comment, arity, left⟩ =
      checker.check ⟨name, comment, arity, right⟩ :=
  check_congr rfl fun _ _ => judge_eq_of_agreeing_target agree

end Targets

/-- The rejection of a directive with a wrong number of arguments. -/
def Directive.argumentCountRejection (directive : Directive)
    (symbol : String) (arity found : Nat) : Diagnostic :=
  (Rejection.arityMismatch symbol arity found).diagnostic.located
    directive.location

theorem Checker.judge_of_argumentCount (checker : Checker)
    (symbol : Symbol) (documentation : Documentation)
    {directive : Directive} {assertion : Assertion}
    (reading : directive.reading = .ok assertion)
    (different : assertion.arguments.length ≠ symbol.arity) :
    checker.judge symbol documentation directive =
      .rejected (directive.identity symbol.name)
        (directive.argumentCountRejection symbol.name symbol.arity
          assertion.arguments.length) :=
  judge_eq_of_judged (.argumentCount reading different)

/-- The target decides about the outcomes of runs only, and only by what it
does with as many arguments as the symbol takes; and neither the target nor
the registry has a part in the rejection of a directive with another number
of arguments. -/
theorem target_called_only_for_built_cases (name comment : String)
    (arity : Nat) :
    (∀ (checker : Checker) (left right : Target),
      List.Forall₂ Finding.SameCase
        (checker.check ⟨name, comment, arity, left⟩).findings
        (checker.check ⟨name, comment, arity, right⟩).findings) ∧
    (∀ (checker : Checker) (left right : Target),
      (∀ arguments : List Value, arguments.length = arity →
        left arguments = right arguments) →
      checker.check ⟨name, comment, arity, left⟩ =
        checker.check ⟨name, comment, arity, right⟩) ∧
    ∀ directive ∈ Directive.ofComment arity comment, ∀ assertion,
      directive.reading = .ok assertion →
      assertion.arguments.length ≠ arity →
      ∃ diagnostic : Diagnostic,
        diagnostic.code.label = "E3001" ∧
        ∀ (checker : Checker) (target : Target) (finding : Finding),
          finding ∈
              (checker.check ⟨name, comment, arity, target⟩).findings ∧
            finding.line? = some directive.line ↔
          checker.selects ⟨name, comment, arity, target⟩ directive =
              true ∧
            finding = .rejected (directive.identity name) diagnostic := by
  refine ⟨?_, ?_, ?_⟩
  · intro checker left right
    exact checker.sameCase_findings name comment arity left right
  · intro checker left right agree
    exact checker.check_eq_of_agreeing_target name comment arity agree
  · intro directive member assertion reading different
    refine ⟨directive.argumentCountRejection name arity
      assertion.arguments.length, rfl, ?_⟩
    intro checker target finding
    have atLine := checker.mem_findings_at_line_iff
      ⟨name, comment, arity, target⟩ member finding
    rwa [checker.judge_of_argumentCount _ _ reading different] at atLine

/-- Two arguments for one parameter, and a target that panics unless it gets
one argument. -/
theorem greeting_called_only_for_built_cases :
    let comment := "/** @assert - Ann,Ben=>Hello, Ann! */"
    let careful : Target := fun arguments =>
      if arguments.length = 1 then Demo.greet arguments
      else .panicked .other
    (∀ arguments : List Value, arguments.length = 1 →
      Demo.greet arguments = careful arguments) ∧
    Checker.standard.check ⟨"greet", comment, 1, Demo.greet⟩ =
      Checker.standard.check ⟨"greet", comment, 1, careful⟩ ∧
    ∃ directive ∈ Directive.ofComment 1 comment, ∃ assertion,
      directive.reading = .ok assertion ∧
      assertion.arguments.length ≠ 1 ∧
      ∃ diagnostic : Diagnostic,
        diagnostic.code.label = "E3001" ∧
        .rejected (directive.identity "greet") diagnostic ∈
          (Checker.standard.check
            ⟨"greet", comment, 1, careful⟩).findings := by
  intro comment careful
  obtain ⟨_, sameReports, rejections⟩ :=
    target_called_only_for_built_cases "greet" comment 1
  have agree : ∀ arguments : List Value, arguments.length = 1 →
      Demo.greet arguments = careful arguments :=
    fun arguments single => (if_pos single).symm
  let line : Line := ⟨1, "@assert - Ann,Ben=>Hello, Ann!".toList⟩
  let body := " - Ann,Ben=>Hello, Ann!".toList
  let assertion : Assertion :=
    ⟨none, none, [⟨"Ann", none⟩, ⟨"Ben", none⟩], ⟨"Hello, Ann!", none⟩⟩
  have single : Line.ofComment comment = [line] := by decide
  have ends : WordEnds body := by
    intro c given
    cases given
    exact Or.inl (by decide)
  have member : Directive.ofLine 1 line body 1 ∈
      Directive.ofComment 1 comment := by
    rw [Directive.ofComment_of_line 1 single (by decide) ends]
    exact List.mem_singleton_self _
  have reading : Assertion.read 1 body = .ok assertion := by decide
  have twoArguments : assertion.arguments.length ≠ 1 := by decide
  obtain ⟨diagnostic, label, atLine⟩ :=
    rejections _ member assertion reading twoArguments
  have rejected := (atLine Checker.standard careful _).mpr ⟨rfl, rfl⟩
  exact ⟨agree, sameReports Checker.standard _ _ agree, _, member,
    assertion, reading, twoArguments, diagnostic, label, rejected.1⟩

end DocCheck
