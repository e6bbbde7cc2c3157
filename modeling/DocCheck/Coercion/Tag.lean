/-!
# Type tags

A tag names a way of turning the text of a token into a value.  Four tags
are built in.  A tag that a token carries is spelled as an ASCII identifier.
-/

namespace DocCheck

structure Tag where
  name : String
deriving DecidableEq, Repr

namespace Tag

def string : Tag :=
  ⟨"string"⟩

def number : Tag :=
  ⟨"number"⟩

def bool : Tag :=
  ⟨"bool"⟩

def object : Tag :=
  ⟨"object"⟩

/-- The tags that every registry in use has. -/
def builtins : List Tag :=
  [string, number, bool, object]

def isBuiltin (tag : Tag) : Bool :=
  tag ∈ builtins

instance : ToString Tag :=
  ⟨name⟩

/-- Whether a character may start an identifier. -/
def isNameStart (c : Char) : Bool :=
  c.isAlpha || c == '_'

/-- Whether a character may stand inside an identifier. -/
def isNamePart (c : Char) : Bool :=
  c.isAlphanum || c == '_'

/-- Whether a text is an ASCII identifier. -/
def isName : List Char → Bool
  | [] => false
  | first :: others => isNameStart first && others.all isNamePart

end Tag

end DocCheck
