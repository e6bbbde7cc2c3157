import DocCheck.Coercion.Tag
import DocCheck.Text.Cut
import DocCheck.Text.Trim

/-!
# Tokens

A token is a text with an optional tag after a colon.  Only the last colon
can stand before a tag, and only an identifier right after it is one, so a
time of day or an address is a single text.
-/

namespace DocCheck

structure Token where
  text : String
  tag : Option Tag
deriving DecidableEq, Repr

namespace Token

/-- The token without text and tag. -/
def blank : Token :=
  ⟨"", none⟩

/-- Reads a token, without the blanks at its ends and before its colon. -/
def parse (raw : List Char) : Token :=
  let text := trim raw
  match cutAtLast? ':' text with
  | some (value, suffix) =>
      if Tag.isName suffix then
        ⟨String.ofList (trim value), some ⟨String.ofList suffix⟩⟩
      else
        ⟨String.ofList text, none⟩
  | none => ⟨String.ofList text, none⟩

def isBlank (token : Token) : Bool :=
  token.text.isEmpty

/-- A token as a directive writes it. -/
def written (token : Token) : String :=
  match token.tag with
  | some tag => token.text ++ ":" ++ tag.name
  | none => token.text

instance : ToString Token :=
  ⟨written⟩

end Token

end DocCheck
