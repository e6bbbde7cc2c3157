import DocCheck.Diagnostic.Basic

/-!
# Diagnostics on a terminal

On a terminal a diagnostic is a sequence of lines, each with its line end.
The severity and the code may stand in colour; every colour is reset right
after its word, and nothing else of the layout depends on it.  An emitter
writes diagnostics piece by piece behind what it has written before.
-/

namespace DocCheck

/-- When colours are used. -/
inductive ColorChoice where
  | auto
  | always
  | never
deriving DecidableEq, Repr

namespace ColorChoice

/-- Whether colours are used; only the automatic mode looks at where the
text goes. -/
def usesColors (mode : ColorChoice) (terminal : Bool) : Bool :=
  match mode with
  | auto => terminal
  | always => true
  | never => false

end ColorChoice

/-- A text between an escape sequence and the reset. -/
def painted (colors : Bool) (escape text : String) : String :=
  if colors then escape ++ text ++ "\x1b[0m" else text

namespace Severity

/-- Errors are red, warnings yellow and notes cyan, all of them bold. -/
def escape : Severity → String
  | error => "\x1b[1;31m"
  | warning => "\x1b[1;33m"
  | note => "\x1b[1;36m"

end Severity

namespace Diagnostic

/-- The lines of a diagnostic for a terminal. -/
def emitted (colors : Bool) (diagnostic : Diagnostic) : String :=
  painted colors diagnostic.severity.escape diagnostic.severity.label ++
    painted colors "\x1b[1m" ("[" ++ diagnostic.code.label ++ "]") ++
    ": " ++ diagnostic.message ++ "\n" ++
    String.join (diagnostic.details.map fun detail => detail ++ "\n")

end Diagnostic

/-- What an emitter has written, and whether it writes in colour. -/
structure Emitter where
  colors : Bool
  output : String := ""
deriving DecidableEq, Repr

namespace Emitter

/-- An emitter that has written nothing yet. -/
def ofMode (mode : ColorChoice) (terminal : Bool) : Emitter where
  colors := mode.usesColors terminal

def write (emitter : Emitter) (text : String) : Emitter :=
  { emitter with output := emitter.output ++ text }

def writeLine (emitter : Emitter) (text : String) : Emitter :=
  emitter.write (text ++ "\n")

def writeSeverity (emitter : Emitter) (severity : Severity) : Emitter :=
  emitter.write (painted emitter.colors severity.escape severity.label)

def writeCode (emitter : Emitter) (code : Code) : Emitter :=
  emitter.write
    (painted emitter.colors "\x1b[1m" ("[" ++ code.label ++ "]"))

def writeLocation (emitter : Emitter) : Option Location → Emitter
  | some location => emitter.writeLine ("  --> " ++ location.written)
  | none => emitter

def writeNote (emitter : Emitter) (note : String) : Emitter :=
  emitter.writeLine ("  = note: " ++ note)

def writeSuggestion (emitter : Emitter) (suggestion : String) : Emitter :=
  emitter.writeLine ("  = help: " ++ suggestion)

/-- Writes a diagnostic line by line. -/
def emit (emitter : Emitter) (diagnostic : Diagnostic) : Emitter :=
  let labelled :=
    (emitter.writeSeverity diagnostic.severity).writeCode diagnostic.code
  let headed := labelled.writeLine (": " ++ diagnostic.message)
  let located := headed.writeLocation diagnostic.location
  let noted := diagnostic.notes.foldl writeNote located
  diagnostic.suggestions.foldl writeSuggestion noted

/-- Writes diagnostics one after the other. -/
def emitAll (emitter : Emitter) (diagnostics : List Diagnostic) : Emitter :=
  diagnostics.foldl emit emitter

end Emitter

/-- The lines of several diagnostics that one emitter writes. -/
def Diagnostic.emittedAll (colors : Bool) (diagnostics : List Diagnostic) :
    String :=
  (Emitter.emitAll { colors := colors } diagnostics).output

end DocCheck
