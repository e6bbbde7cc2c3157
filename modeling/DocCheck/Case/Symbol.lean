import DocCheck.Coercion.Host
import DocCheck.Diagnostic.Basic
import DocCheck.Text.Quoted

/-!
# Symbols under test

A symbol has a name, the comment that documents it, the number of its
parameters and a target: host code that is called with the arguments.  A
class is a symbol too; calling it constructs an instance.
-/

namespace DocCheck

/-- Host code under test.  It is taken to reply in the same way to every call
with the same arguments. -/
abbrev Target :=
  List Value → Reply

structure Symbol where
  name : String
  comment : String
  arity : Nat
  target : Target

/-- Why a call gave no value. -/
inductive CallError where
  | raised (reason : String)
  | panicked (message : String)
deriving DecidableEq, Repr

namespace CallError

def code : CallError → Code
  | raised _ => .symbolError
  | panicked _ => .symbolPanic

def message : CallError → String
  | raised reason => "symbol returned an error: " ++ reason
  | panicked message => "symbol panicked: " ++ message

def diagnostic (error : CallError) : Diagnostic where
  code := error.code
  message := error.message

/-- The value of a call, or why there is none. -/
def ofReply : Reply → Except CallError Value
  | .returned value => .ok value
  | .failed reason => .error (.raised reason)
  | .panicked panic => .error (.panicked panic.message)

end CallError

/-- A class whose constructor keeps every parameter in a field. -/
structure ClassShape where
  name : String
  parameters : List String
deriving DecidableEq, Repr

namespace ClassShape

def arity (shape : ClassShape) : Nat :=
  shape.parameters.length

/-- The instance whose fields are the parameters with the arguments at their
positions.  A parameter without an argument is undefined. -/
def instantiate (shape : ClassShape) (arguments : List Value) : Value :=
  .instanceOf shape.name <| Table.ofList <|
    shape.parameters.zipIdx.map fun place =>
      (place.1, arguments[place.2]?.getD .undefined)

/-- The class as host code under test. -/
def target (shape : ClassShape) : Target :=
  fun arguments => .returned (shape.instantiate arguments)

end ClassShape

/-- The text of a function of the given arity for inspection. -/
def inspectedFunction (arity : Nat) : String :=
  "NativeFunction \x7b arity: " ++ toString arity ++ ", .. \x7d"

namespace Symbol

/-- The text of a symbol for inspection. -/
def inspected (symbol : Symbol) : String :=
  "DocumentedSymbol \x7b name: " ++ quoted symbol.name ++ ", arity: " ++
    toString symbol.arity ++ ", .. \x7d"

end Symbol

end DocCheck
