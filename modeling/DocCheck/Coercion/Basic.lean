import DocCheck.Coercion.Catalogue
import DocCheck.Coercion.Tag
import DocCheck.Diagnostic.Basic
import DocCheck.Number.Literal
import DocCheck.Text.Trim

/-!
# Coercions

A coercion turns the text of a token into a value.  Text is taken as it
stands; numbers are finite literals and truth values are the two words, with
blanks around them allowed and a blank token for zero and false; a catalogue
looks the token up; and a host may supply a coercion of its own.
-/

namespace DocCheck

/-- A way to read tokens.  A custom coercion is host code, which is taken to
reply in the same way to every call with the same token. -/
inductive Coercion where
  | text
  | number
  | bool
  | fixtures (catalogue : Catalogue)
  | custom (coerce : String → Reply)

/-- Why a token has no value. -/
inductive TokenError where
  | unknownTag (tag : Tag)
  | invalidNumber (token : String)
  | invalidBool (token : String)
  | rejected (tag : Tag) (token reason : String)
  | panicked (tag : Tag) (token message : String)
deriving DecidableEq, Repr

namespace TokenError

def code : TokenError → Code
  | unknownTag _ => .unknownTag
  | invalidNumber _ => .invalidNumber
  | invalidBool _ => .invalidBool
  | rejected _ _ _ => .rejectedToken
  | panicked _ _ _ => .hostPanic

def message : TokenError → String
  | unknownTag tag => "type tag `" ++ tag.name ++ "` is not registered"
  | invalidNumber token => "`" ++ token ++ "` is not a valid number"
  | invalidBool token =>
      "`" ++ token ++
        "` is not a valid bool (expected `true` or `false`)"
  | rejected tag token reason =>
      "`" ++ tag.name ++ "` coercion rejected `" ++ token ++ "`: " ++ reason
  | panicked tag token message =>
      "`" ++ tag.name ++ "` coercion panicked on `" ++ token ++ "`: " ++
        message

def notes : TokenError → List String
  | invalidNumber _ => ["numbers must be finite numeric literals"]
  | _ => []

def suggestions : TokenError → List String
  | unknownTag _ =>
      ["register the tag before running, or use a built-in tag"]
  | _ => []

def diagnostic (error : TokenError) : Diagnostic where
  code := error.code
  message := error.message
  notes := error.notes
  suggestions := error.suggestions

end TokenError

/-- The truth value that a trimmed token writes. -/
def boolOfWord? (word : List Char) : Option Bool :=
  match String.ofList word with
  | "true" => some true
  | "false" => some false
  | "" => some false
  | _ => none

namespace Coercion

/-- Reads a token as a number: a finite literal, or zero when blank. -/
def readNumber (token : String) : Except TokenError Value :=
  let text := trim token.toList
  if text.isEmpty then
    .ok (.number .zero)
  else
    match Number.finiteOfLiteral? text with
    | some literal => .ok (.number literal)
    | none => .error (.invalidNumber token)

/-- Reads a token as a truth value: one of two words, or false when
blank. -/
def readBool (token : String) : Except TokenError Value :=
  match boolOfWord? (trim token.toList) with
  | some truth => .ok (.bool truth)
  | none => .error (.invalidBool token)

/-- The result of host code that read a token under a tag. -/
def ofReply (tag : Tag) (token : String) :
    Reply → Except TokenError Value
  | .returned value => .ok value
  | .failed reason => .error (.rejected tag token reason)
  | .panicked panic => .error (.panicked tag token panic.message)

/-- The value of a token.  The tag only tells the error where it arose. -/
def apply (coercion : Coercion) (tag : Tag) (token : String) :
    Except TokenError Value :=
  match coercion with
  | text => .ok (.string token)
  | number => readNumber token
  | bool => readBool token
  | fixtures catalogue =>
      match catalogue.lookup token with
      | .ok value => .ok value
      | .error panic => .error (.panicked tag token panic.message)
  | custom coerce => ofReply tag token (coerce token)

/-- The catalogue behind a coercion. -/
def catalogue? : Coercion → Option Catalogue
  | fixtures catalogue => some catalogue
  | _ => none

/-- The text of a coercion for inspection. -/
def inspected : Coercion → String
  | text => "Text"
  | number => "Number"
  | bool => "Bool"
  | fixtures catalogue => "Fixtures(" ++ catalogue.inspected ++ ")"
  | custom _ => "Custom(..)"

end Coercion

end DocCheck
