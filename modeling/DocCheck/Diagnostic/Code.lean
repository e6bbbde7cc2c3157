/-!
# Codes of diagnostics

Every cause of a diagnostic has a code of its own.  A code is written as the
letter `E` and four digits, of which the first tells the stage where the
cause arises: reading a directive, coercing its tokens, building the case,
or invoking the symbol.
-/

namespace DocCheck

/-- The stages of checking a directive. -/
inductive Stage where
  | parse
  | coercion
  | build
  | invocation
deriving DecidableEq, Repr

inductive Code where
  | unclosedKind
  | emptyKind
  | missingDash
  | missingArrow
  | multipleArrows
  | unknownTag
  | invalidNumber
  | invalidBool
  | rejectedToken
  | missingBuiltin
  | notACatalogue
  | hostPanic
  | arityMismatch
  | symbolError
  | symbolPanic
deriving DecidableEq, Repr

namespace Code

/-- Every code, in the order of the labels. -/
def all : List Code :=
  [unclosedKind, emptyKind, missingDash, missingArrow, multipleArrows,
    unknownTag, invalidNumber, invalidBool, rejectedToken, missingBuiltin,
    notACatalogue, hostPanic, arityMismatch, symbolError, symbolPanic]

def label : Code → String
  | unclosedKind => "E1001"
  | emptyKind => "E1002"
  | missingDash => "E1003"
  | missingArrow => "E1004"
  | multipleArrows => "E1005"
  | unknownTag => "E2001"
  | invalidNumber => "E2002"
  | invalidBool => "E2003"
  | rejectedToken => "E2004"
  | missingBuiltin => "E2005"
  | notACatalogue => "E2006"
  | hostPanic => "E2007"
  | arityMismatch => "E3001"
  | symbolError => "E4001"
  | symbolPanic => "E4002"

/-- What a code means, in one line. -/
def description : Code → String
  | unclosedKind => "directive kind is missing its closing `\x7d`"
  | emptyKind => "directive kind is empty"
  | missingDash => "directive is missing the `-` separator"
  | missingArrow => "directive is missing the `=>` separator"
  | multipleArrows => "directive has more than one `=>` separator"
  | unknownTag => "type tag is not registered"
  | invalidNumber => "token is not a valid number"
  | invalidBool => "token is not a valid bool"
  | rejectedToken => "custom coercion rejected the token"
  | missingBuiltin => "built-in type tag is missing from the registry"
  | notACatalogue => "type tag is not backed by a fixture catalogue"
  | hostPanic => "custom coercion or fixture builder panicked"
  | arityMismatch => "argument count does not match the symbol's arity"
  | symbolError => "symbol under test returned an error"
  | symbolPanic => "symbol under test panicked"

/-- The stage where the cause of a code arises. -/
def stage : Code → Stage
  | unclosedKind | emptyKind | missingDash | missingArrow
  | multipleArrows => .parse
  | unknownTag | invalidNumber | invalidBool | rejectedToken
  | missingBuiltin | notACatalogue | hostPanic => .coercion
  | arityMismatch => .build
  | symbolError | symbolPanic => .invocation

/-- The code with a label. -/
def ofLabel? (label : String) : Option Code :=
  all.find? fun code => code.label == label

instance : ToString Code :=
  ⟨label⟩

theorem mem_all (code : Code) : code ∈ all := by
  cases code <;> decide

/-- A label is the label of one code only. -/
theorem ofLabel?_label (code : Code) : ofLabel? code.label = some code := by
  cases code <;> decide

end Code

end DocCheck
