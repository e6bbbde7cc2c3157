import DocCheck.Run.Report
import DocCheck.Text.Cut

/-!
# Checkers

A checker runs the directives of symbols against a complete registry.  Every
directive that the filter selects gives one finding, in the order of the
comment.
-/

namespace DocCheck

/-- What a run checks and shows: only the cases whose identity or symbol
contains the filter, passing cases too when verbose, and the tag of tokens
that have none and whose type is not documented. -/
structure Settings where
  filter : Option String := none
  verbose : Bool := false
  defaultTag : Tag := Tag.string
deriving DecidableEq, Repr

namespace Settings

/-- Whether the filter lets a case of a symbol through. -/
def selects (settings : Settings) (symbol : String)
    (identity : Identity) : Bool :=
  settings.filter.all fun part =>
    occursIn part.toList symbol.toList ||
      occursIn part.toList identity.name.toList

end Settings

structure Checker where
  registry : Registry
  settings : Settings
  complete : registry.Complete

namespace Checker

/-- The checker for a registry, which has to be complete. -/
def ofRegistry (registry : Registry) (settings : Settings) :
    Except Misconfiguration Checker :=
  match missing : registry.missingBuiltin? with
  | some tag => .error (.missingBuiltin tag)
  | none =>
      .ok ⟨registry, settings,
        Registry.missingBuiltin?_eq_none_iff.1 missing⟩

/-- What the checker resolves tokens with. -/
def resolver (checker : Checker) : Resolver :=
  ⟨checker.registry, checker.settings.defaultTag⟩

/-- What becomes of a directive of a symbol. -/
def judge (checker : Checker) (symbol : Symbol)
    (documentation : Documentation) (directive : Directive) : Finding :=
  match directive.reading with
  | .error fault =>
      .rejected (directive.identity symbol.name)
        (fault.diagnostic directive.location)
  | .ok assertion =>
      match
          Case.build checker.resolver symbol documentation directive
            assertion with
      | .ok case => .ran case.run
      | .error error =>
          .rejected (directive.identity symbol.name)
            (error.diagnostic.located directive.location)

/-- Whether the filter lets a directive through. -/
def selects (checker : Checker) (symbol : Symbol)
    (directive : Directive) : Bool :=
  checker.settings.selects symbol.name (directive.identity symbol.name)

/-- The findings for the selected directives of a symbol. -/
def findings (checker : Checker) (symbol : Symbol) : List Finding :=
  let documentation :=
    Documentation.ofComment symbol.arity symbol.comment
  (documentation.directives.filter (checker.selects symbol)).map
    (checker.judge symbol documentation)

/-- The report on a symbol. -/
def check (checker : Checker) (symbol : Symbol) : Report :=
  Report.ofFindings symbol.name (checker.findings symbol)

/-- The summary of the reports on several symbols. -/
def checkAll (checker : Checker) (symbols : List Symbol) : Summary :=
  Summary.ofReports (symbols.map checker.check)

end Checker

end DocCheck
