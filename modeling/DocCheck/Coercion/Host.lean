import DocCheck.Value.Basic

/-!
# Host code

Coercions, fixtures and symbols under test are supplied by a host.  Host
code returns a value, fails with a reason, or ends abnormally in a panic
whose payload may or may not be a text.  It is taken to be pure: every call
with the same input ends in the same way.
-/

namespace DocCheck

inductive Panic where
  | text (message : String)
  | other
deriving DecidableEq, Repr

namespace Panic

/-- The text that reports a panic. -/
def message : Panic → String
  | text message => message
  | other => "unknown panic payload"

end Panic

/-- How a call of host code ends. -/
inductive Reply where
  | returned (value : Value)
  | failed (reason : String)
  | panicked (panic : Panic)

instance : Inhabited Reply :=
  ⟨.returned .undefined⟩

/-- A fixture: the value that its builder gives, or the panic in which the
builder ends.  The builder is taken to end in the same way every time that
its key is looked up. -/
abbrev Fixture :=
  Except Panic Value

end DocCheck
