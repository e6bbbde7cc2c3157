import DocCheck.Text.Blank

/-!
# Trimming

Texts are scanned as lists of characters.  Trimming removes the blank
characters at one end or at both; what is left has none there.
-/

namespace DocCheck

/-- The text without its leading blanks. -/
def trimStart (text : List Char) : List Char :=
  text.dropWhile isBlank

/-- The text without its trailing blanks. -/
def trimEnd (text : List Char) : List Char :=
  (text.reverse.dropWhile isBlank).reverse

/-- The text without the blanks at its two ends. -/
def trim (text : List Char) : List Char :=
  trimEnd (trimStart text)

/-- The text up to its first blank. -/
def firstWord (text : List Char) : List Char :=
  text.takeWhile fun c => !isBlank c

/-- The text from its first blank on. -/
def afterFirstWord (text : List Char) : List Char :=
  text.dropWhile fun c => !isBlank c

/-- Nothing is lost between a first word and what follows it. -/
theorem firstWord_append_afterFirstWord (text : List Char) :
    firstWord text ++ afterFirstWord text = text :=
  List.takeWhile_append_dropWhile

@[simp]
theorem trimStart_nil : trimStart [] = [] :=
  rfl

@[simp]
theorem trimEnd_nil : trimEnd [] = [] :=
  rfl

@[simp]
theorem trim_nil : trim [] = [] :=
  rfl

theorem trimStart_cons (c : Char) (text : List Char) :
    trimStart (c :: text) =
      if isBlank c then trimStart text else c :: text := by
  simp [trimStart, List.dropWhile_cons]

theorem trimEnd_concat (text : List Char) (c : Char) :
    trimEnd (text ++ [c]) =
      if isBlank c then trimEnd text else text ++ [c] := by
  by_cases blank : isBlank c <;>
    simp [trimEnd, blank]

end DocCheck
