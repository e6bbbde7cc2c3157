import DocCheck.Comment.Line
import DocCheck.Comment.Token
import DocCheck.Diagnostic.Basic

/-!
# Directives

A directive is a line of a comment that begins with the marker `@assert`.
What follows the marker is an optional kind in braces, an optional name, a
dash, the arguments, an arrow and the expected result:

    @assert [{Kind}] [Name] - <arguments> => <expected>

A directive reads as an assertion, or it has a fault.  Either way it keeps
its line and its place among the directives of the comment, so a fault
touches no other directive.
-/

namespace DocCheck

/-- What a well-formed directive asserts: the expected result of a call with
the given arguments. -/
structure Assertion where
  kind : Option String
  name : Option String
  arguments : List Token
  expected : Token
deriving DecidableEq, Repr

/-- What is wrong with a directive. -/
inductive Fault where
  | unclosedKind
  | emptyKind
  | missingDash
  | missingArrow
  | multipleArrows (count : Nat)
deriving DecidableEq, Repr

/-- A directive: its line in the comment, its position among the directives
of the comment, both counted from one, its text, and what it asserts. -/
structure Directive where
  line : Nat
  ordinal : Nat
  source : String
  reading : Except Fault Assertion

namespace Fault

def code : Fault → Code
  | unclosedKind => .unclosedKind
  | emptyKind => .emptyKind
  | missingDash => .missingDash
  | missingArrow => .missingArrow
  | multipleArrows _ => .multipleArrows

def message : Fault → String
  | unclosedKind => "`\x7b` opened a kind that is never closed"
  | emptyKind => "kind `\x7b\x7d` is empty"
  | missingDash => "expected `-` before the arguments"
  | missingArrow =>
      "expected `=>` between the arguments and the expected result"
  | multipleArrows count =>
      "found " ++ toString count ++ " `=>` separators, expected exactly one"

def notes : Fault → List String
  | multipleArrows _ => ["the expected result is a single token"]
  | _ => []

def suggestions : Fault → List String
  | missingDash => ["write `@assert [Name] - <args> => <expected>`"]
  | _ => []

/-- The fault with its line, as a text. -/
def messageAt (line : Nat) (fault : Fault) : String :=
  "line " ++ toString line ++ ": " ++ fault.message

def diagnostic (location : Location) (fault : Fault) : Diagnostic where
  code := fault.code
  message := fault.message
  location := some location
  notes := fault.notes
  suggestions := fault.suggestions

end Fault

namespace Assertion

/-- Reads an optional kind: a text in braces that is not blank. -/
def readKind : List Char → Except Fault (Option String × List Char)
  | '{' :: rest =>
      match cutAtFirst? '}' rest with
      | none => .error .unclosedKind
      | some (inner, after) =>
          if (trim inner).isEmpty then
            .error .emptyKind
          else
            .ok (some (String.ofList (trim inner)), trimStart after)
  | text => .ok (none, text)

/-- Reads an optional name: a word that does not begin with a dash. -/
def readName : List Char → Option String × List Char
  | [] => (none, [])
  | '-' :: rest => (none, '-' :: rest)
  | text =>
      (some (String.ofList (firstWord text)),
        trimStart (afterFirstWord text))

/-- Reads the arguments, which commas separate.  A blank text stands for no
argument when the symbol takes none, and else for one blank argument. -/
def readArguments (arity : Nat) (text : List Char) : List Token :=
  if (trim text).isEmpty then
    if arity = 0 then [] else [Token.blank]
  else
    let pieces := piecesAt ',' text
    (pieces.1 :: pieces.2).map Token.parse

/-- Reads the arguments and the expected result around the only arrow. -/
def readSections (arity : Nat) (kind name : Option String)
    (text : List Char) : Except Fault Assertion :=
  match piecesAtArrows text with
  | (_, []) => .error .missingArrow
  | (arguments, [expected]) =>
      .ok ⟨kind, name, readArguments arity arguments, Token.parse expected⟩
  | (_, others) => .error (.multipleArrows others.length)

/-- Reads what follows the marker, for a symbol of the given arity. -/
def read (arity : Nat) (body : List Char) : Except Fault Assertion :=
  match readKind (trimStart body) with
  | .error fault => .error fault
  | .ok (kind, afterKind) =>
      let (name, afterName) := readName afterKind
      match afterName with
      | '-' :: sections => readSections arity kind name sections
      | _ => .error .missingDash

end Assertion

namespace Directive

/-- The word that marks a directive. -/
def marker : List Char :=
  ['@', 'a', 's', 's', 'e', 'r', 't']

/-- What follows the marker of a directive line. -/
def body? (line : Line) : Option (List Char) :=
  afterWord? marker line.content

/-- The directive on a line at a position among the directives. -/
def ofLine (arity : Nat) (line : Line) (body : List Char)
    (ordinal : Nat) : Directive where
  line := line.number
  ordinal := ordinal
  source := String.ofList line.content
  reading := Assertion.read arity body

/-- The directives among the lines of a comment, in order. -/
def ofLines (arity : Nat) (lines : List Line) : List Directive :=
  let marked := lines.filterMap fun line =>
    (body? line).map fun body => (line, body)
  (marked.zipIdx 1).map fun place =>
    ofLine arity place.1.1 place.1.2 place.2

/-- The directives of a comment for a symbol of the given arity. -/
def ofComment (arity : Nat) (comment : String) : List Directive :=
  ofLines arity (Line.ofComment comment)

/-- Where a directive stands. -/
def location (directive : Directive) : Location :=
  ⟨directive.line, directive.source⟩

/-- Directives are numbered from one in the order of their lines. -/
theorem ordinal_ofLines (arity : Nat) (lines : List Line) :
    (ofLines arity lines).map Directive.ordinal =
      (List.range' 1 (ofLines arity lines).length) := by
  simp [ofLines, List.map_map, Function.comp_def, ofLine,
    List.zipIdx_eq_zip_range', List.map_snd_zip]

end Directive

end DocCheck
