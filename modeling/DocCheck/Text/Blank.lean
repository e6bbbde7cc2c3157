import DocCheck.Text.Interval

/-!
# Blank characters

A character is blank when it has the Unicode property `White_Space`.  The
zero-width characters, the byte order mark and the ASCII separators from
`U+001C` to `U+001F` do not have it.
-/

namespace DocCheck

/-- The code points with the property `White_Space`, as closed intervals in
ascending order. -/
def blankIntervals : List (Nat × Nat) :=
  [(0x09, 0x0D), (0x20, 0x20), (0x85, 0x85), (0xA0, 0xA0),
    (0x1680, 0x1680), (0x2000, 0x200A), (0x2028, 0x2029),
    (0x202F, 0x202F), (0x205F, 0x205F), (0x3000, 0x3000)]

/-- Whether a character is white space. -/
def isBlank (c : Char) : Bool :=
  inIntervals blankIntervals c.toNat

/-- The line end is blank, so a blank-free text has no line end. -/
theorem isBlank_newline : isBlank '\n' = true := by
  decide

/-- Every character that is white space in ASCII is blank. -/
theorem isBlank_of_isWhitespace {c : Char}
    (whitespace : c.isWhitespace = true) : isBlank c = true := by
  simp only [Char.isWhitespace, Bool.or_eq_true, decide_eq_true_eq] at whitespace
  rcases whitespace with ((rfl | rfl) | rfl) | rfl <;> decide

end DocCheck
