import DocCheck.Comment.Directive

/-!
# Identities of cases

A case is known by the name that its directive gives, or else by the name of
the symbol and the position of the directive.
-/

namespace DocCheck

structure Identity where
  name : String
deriving DecidableEq, Repr

namespace Identity

/-- The identity of the directive at a position, counted from one. -/
def positional (symbol : String) (ordinal : Nat) : Identity :=
  ⟨symbol ++ "#" ++ toString ordinal⟩

instance : ToString Identity :=
  ⟨name⟩

end Identity

namespace Directive

/-- The name that a directive gives to its case.  A directive with a fault
gives none. -/
def name? (directive : Directive) : Option String :=
  match directive.reading with
  | .ok assertion => assertion.name
  | .error _ => none

/-- The identity of the case of a directive. -/
def identity (symbol : String) (directive : Directive) : Identity :=
  match directive.name? with
  | some name => ⟨name⟩
  | none => Identity.positional symbol directive.ordinal

end Directive

end DocCheck
