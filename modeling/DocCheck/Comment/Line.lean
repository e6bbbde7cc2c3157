import DocCheck.Text.Cut
import DocCheck.Text.Trim

/-!
# Lines of a comment

A documentation comment is read line by line, without its decoration: the
opener and the closer of a block, and the leader before the text of a line.
A line that is only decoration has an empty content and keeps its number.
-/

namespace DocCheck

/-- A line of a comment, counted from one, and its text without
decoration. -/
structure Line where
  number : Nat
  content : List Char
deriving DecidableEq, Repr

/-- The marks that open a block. -/
def openers : List (List Char) :=
  [['/', '*', '*'], ['/', '*']]

/-- The mark that closes a block. -/
def closer : List Char :=
  ['*', '/']

/-- The marks before the text of a line. -/
def leaders : List (List Char) :=
  [['/', '/', '/'], ['/', '/'], ['*']]

/-- The text of a line without blanks at its ends and without
decoration. -/
def undecorated (raw : List Char) : List Char :=
  let opened := dropLeading openers (trim raw)
  let closed := dropTrailing closer opened
  trim (dropLeading leaders (trimStart closed))

/-- Whether a word ends before the text: nothing, a blank or an opening
brace follows it. -/
def endsWord : List Char → Bool
  | [] => true
  | c :: _ => isBlank c || c == '{'

/-- What follows a word at the front of a content, when the word ends
there. -/
def afterWord? (word content : List Char) : Option (List Char) :=
  (word.isPrefixOf? content).filter endsWord

namespace Line

/-- The lines of a comment.  A carriage return before a line feed is a blank
at the end of its line, so both line ends are read alike. -/
def ofComment (comment : String) : List Line :=
  ((linesOf comment.toList).zipIdx 1).map fun raw =>
    ⟨raw.2, undecorated raw.1⟩

end Line

end DocCheck
