import DocCheck.Comment.Directive

/-!
# Documentation of a symbol

Besides its directives a comment documents the parameters of a symbol and
its result.  A line that begins with `@param` documents the next parameter:
an optional type in braces and a name.  A line that begins with `@returns`
or `@return` documents the type of the result, and the last one counts.
-/

namespace DocCheck

structure Parameter where
  name : String
  type : Option String
deriving DecidableEq, Repr

structure Documentation where
  parameters : List Parameter
  returns : Option String
  directives : List Directive

/-- Splits an optional type in braces off a text.  A blank type is no type,
and a brace that is never closed belongs to the text. -/
def splitType : List Char → Option String × List Char
  | '{' :: rest =>
      match cutAtFirst? '}' rest with
      | some (inner, after) =>
          let type := trim inner
          (if type.isEmpty then none else some (String.ofList type),
            trimStart after)
      | none => (none, '{' :: rest)
  | text => (none, text)

namespace Parameter

/-- The parameter that a line documents. -/
def ofLine? (line : Line) : Option Parameter :=
  (afterWord? ['@', 'p', 'a', 'r', 'a', 'm'] line.content).map fun rest =>
    let (type, text) := splitType (trimStart rest)
    ⟨String.ofList (firstWord text), type⟩

end Parameter

namespace Documentation

/-- The type of the result on a line that documents the result. -/
def returnsOfLine? (line : Line) : Option (Option String) :=
  let long := afterWord? ['@', 'r', 'e', 't', 'u', 'r', 'n', 's'] line.content
  let short := afterWord? ['@', 'r', 'e', 't', 'u', 'r', 'n'] line.content
  (long.or short).map fun rest => (splitType (trimStart rest)).1

/-- The documentation in the lines of a comment. -/
def ofLines (arity : Nat) (lines : List Line) : Documentation where
  parameters := lines.filterMap Parameter.ofLine?
  returns := (lines.filterMap returnsOfLine?).getLast?.join
  directives := Directive.ofLines arity lines

/-- The documentation of a symbol of the given arity. -/
def ofComment (arity : Nat) (comment : String) : Documentation :=
  ofLines arity (Line.ofComment comment)

/-- The documented type of the parameter at a position, counted from
zero. -/
def parameterType? (documentation : Documentation) (position : Nat) :
    Option String :=
  documentation.parameters[position]?.bind Parameter.type

end Documentation

end DocCheck
