import DocCheck.Diagnostic.Code

/-!
# Diagnostics

A diagnostic explains why a directive gave no result: a code, how severe the
matter is, a message, the line of the comment where it arose, and any notes
and suggestions.
-/

namespace DocCheck

inductive Severity where
  | error
  | warning
  | note
deriving DecidableEq, Repr

namespace Severity

def label : Severity → String
  | error => "error"
  | warning => "warning"
  | note => "note"

end Severity

/-- A line of a comment, counted from one, and its text without
decoration. -/
structure Location where
  line : Nat
  text : String
deriving DecidableEq, Repr

namespace Location

def written (location : Location) : String :=
  "line " ++ toString location.line ++ ": " ++ location.text

end Location

structure Diagnostic where
  code : Code
  severity : Severity := .error
  message : String
  location : Option Location := none
  notes : List String := []
  suggestions : List String := []
deriving DecidableEq, Repr

namespace Diagnostic

/-- The diagnostic with its place in the comment. -/
def located (diagnostic : Diagnostic) (location : Location) : Diagnostic :=
  { diagnostic with location := some location }

/-- The diagnostic with one more note after the others. -/
def withNote (diagnostic : Diagnostic) (note : String) : Diagnostic :=
  { diagnostic with notes := diagnostic.notes ++ [note] }

def isError (diagnostic : Diagnostic) : Bool :=
  diagnostic.severity = .error

/-- The lines below the message: the location, the notes and the
suggestions. -/
def details (diagnostic : Diagnostic) : List String :=
  (diagnostic.location.toList.map fun location =>
      "  --> " ++ location.written) ++
    (diagnostic.notes.map fun note => "  = note: " ++ note) ++
    diagnostic.suggestions.map fun suggestion =>
      "  = help: " ++ suggestion

/-- A diagnostic as a text, with a line end before every line of its
details. -/
def written (diagnostic : Diagnostic) : String :=
  diagnostic.severity.label ++ " [" ++ diagnostic.code.label ++ "]: " ++
    diagnostic.message ++
    String.join (diagnostic.details.map fun detail => "\n" ++ detail)

instance : ToString Diagnostic :=
  ⟨written⟩

end Diagnostic

end DocCheck
