import DocCheck.Case.Identity
import DocCheck.Case.Symbol
import DocCheck.Coercion.Registry
import DocCheck.Comment.Documentation
import DocCheck.Value.Written

/-!
# Cases

A case is a directive that is ready to run: all of its tokens have become
values.  The number of arguments is checked before any token is resolved.  A
token without a tag takes the type that the comment documents for its
position, and the default tag where nothing is documented.
-/

namespace DocCheck

structure Case where
  identity : Identity
  kind : Option String
  target : Target
  arguments : List Value
  expected : Value
  line : Nat

/-- Which token of a directive is meant; arguments count from zero. -/
inductive Position where
  | argument (index : Nat)
  | expected
deriving DecidableEq, Repr

namespace Position

/-- A position as a text, in which arguments count from one. -/
def written : Position → String
  | argument index => "argument " ++ toString (index + 1)
  | expected => "expected value"

instance : ToString Position :=
  ⟨written⟩

end Position

/-- Why a directive gave no case. -/
inductive Rejection where
  | arityMismatch (symbol : String) (expected found : Nat)
  | token (position : Position) (cause : TokenError)
deriving DecidableEq, Repr

namespace Rejection

def code : Rejection → Code
  | arityMismatch _ _ _ => .arityMismatch
  | token _ cause => cause.code

def message : Rejection → String
  | arityMismatch symbol expected found =>
      "`" ++ symbol ++ "` takes " ++ toString expected ++
        " argument(s) but the directive gives " ++ toString found
  | token position cause => position.written ++ ": " ++ cause.message

/-- A failed token is reported as its cause, with a note on the
position. -/
def diagnostic (error : Rejection) : Diagnostic :=
  match error with
  | arityMismatch _ _ _ =>
      { code := .arityMismatch
        message := error.message
        notes := ["the symbol was not invoked"] }
  | token position cause =>
      cause.diagnostic.withNote
        ("while resolving the " ++ position.written)

end Rejection

/-- What the tokens of a directive are resolved with. -/
structure Resolver where
  registry : Registry
  defaultTag : Tag

namespace Resolver

/-- The tag of a token: its own, or that of the documented type, or the
default one. -/
def tagOf (resolver : Resolver) (declared : Option String)
    (token : Token) : Tag :=
  match token.tag, declared with
  | some tag, _ => tag
  | none, some type => resolver.registry.tagFor type
  | none, none => resolver.defaultTag

/-- The value of the token at a position. -/
def resolve (resolver : Resolver) (declared : Option String)
    (position : Position) (token : Token) : Except Rejection Value :=
  match
      resolver.registry.resolve (resolver.tagOf declared token) token.text with
  | .ok value => .ok value
  | .error cause => .error (.token position cause)

/-- The values of arguments from a position on; the leftmost failure
counts. -/
def resolveFrom (resolver : Resolver) (documentation : Documentation) :
    Nat → List Token → Except Rejection (List Value)
  | _, [] => .ok []
  | index, token :: tokens =>
      match
          resolver.resolve (documentation.parameterType? index)
            (.argument index) token with
      | .error error => .error error
      | .ok value =>
          match resolver.resolveFrom documentation (index + 1) tokens with
          | .error error => .error error
          | .ok values => .ok (value :: values)

end Resolver

namespace Case

/-- The case of a directive that asserts something about a symbol. -/
def build (resolver : Resolver) (symbol : Symbol)
    (documentation : Documentation) (directive : Directive)
    (assertion : Assertion) : Except Rejection Case :=
  if assertion.arguments.length = symbol.arity then
    match
        resolver.resolveFrom documentation 0 assertion.arguments with
    | .error error => .error error
    | .ok arguments =>
        match
            resolver.resolve documentation.returns .expected
              assertion.expected with
        | .error error => .error error
        | .ok expected =>
            .ok {
              identity := directive.identity symbol.name
              kind := assertion.kind
              target := symbol.target
              arguments := arguments
              expected := expected
              line := directive.line }
  else
    .error (.arityMismatch symbol.name symbol.arity
      assertion.arguments.length)

/-- The text of a case for inspection. -/
def inspected (case : Case) : String :=
  let kind :=
    match case.kind with
    | some kind => "Some(" ++ quoted kind ++ ")"
    | none => "None"
  "TestCase \x7b identity: CaseIdentity(" ++ quoted case.identity.name ++
    "), kind: " ++ kind ++ ", args: [" ++
    ", ".intercalate (case.arguments.map Value.inspected) ++
    "], expected: " ++ case.expected.inspected ++ ", line: " ++
    toString case.line ++ ", .. \x7d"

end Case

end DocCheck
