import DocCheck.Text.Combining
import DocCheck.Text.Unprintable

/-!
# Quoted texts

A quoted text stands between double quotes.  Inside it a quote or backslash
follows a backslash, the common control characters have their one-letter
escapes, and a character that cannot be seen on its own, because it is
unprintable or combines with the one before it, is written by its code point
in braces.
-/

namespace DocCheck

/-- Whether a character has a visible form of its own. -/
def isVisible (c : Char) : Bool :=
  !isUnprintable c && !isCombining c

/-- A code point in lower-case hexadecimal digits between braces. -/
def bracedCodePoint (c : Char) : List Char :=
  '\\' :: 'u' :: '\x7b' :: (Nat.toDigits 16 c.toNat ++ ['\x7d'])

/-- A character as it stands inside a quoted text. -/
def quotedChar (c : Char) : List Char :=
  match c with
  | '"' => ['\\', '"']
  | '\\' => ['\\', '\\']
  | '\n' => ['\\', 'n']
  | '\r' => ['\\', 'r']
  | '\t' => ['\\', 't']
  | '\x00' => ['\\', '0']
  | c => if isVisible c then [c] else bracedCodePoint c

/-- A text between double quotes with every character escaped that needs
it. -/
def quoted (text : String) : String :=
  String.ofList ('"' :: (text.toList.flatMap quotedChar ++ ['"']))

/-- A visible character without an escape of its own stands for itself. -/
theorem quotedChar_of_isVisible {c : Char} (visible : isVisible c = true)
    (notQuote : c ≠ '"') (notBackslash : c ≠ '\\') :
    quotedChar c = [c] := by
  unfold quotedChar
  split
  · exact absurd rfl notQuote
  · exact absurd rfl notBackslash
  · exact absurd visible (by decide)
  · exact absurd visible (by decide)
  · exact absurd visible (by decide)
  · exact absurd visible (by decide)
  · simp [visible]

end DocCheck
