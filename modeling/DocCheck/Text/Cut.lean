/-!
# Cutting texts

The ways a text is cut into parts: at a leading or trailing mark, at the
first or the last occurrence of a character, and at every occurrence of a
separator.  A text cut at every separator has at least one piece, so the
pieces are the first one together with the list of the others.
-/

namespace DocCheck

/-- The text after the first of the marks that it starts with, or the whole
text when it starts with none of them. -/
def dropLeading (marks : List (List Char)) (text : List Char) : List Char :=
  (marks.findSome? fun mark => mark.isPrefixOf? text).getD text

/-- The text before a trailing mark, or the whole text when it does not end
with the mark. -/
def dropTrailing (mark text : List Char) : List Char :=
  (mark.isSuffixOf? text).getD text

/-- The parts before and after the first occurrence of a character. -/
def cutAtFirst? (separator : Char) :
    List Char → Option (List Char × List Char)
  | [] => none
  | c :: rest =>
      if c = separator then
        some ([], rest)
      else
        (cutAtFirst? separator rest).map fun parts =>
          (c :: parts.1, parts.2)

/-- The parts before and after the last occurrence of a character. -/
def cutAtLast? (separator : Char) :
    List Char → Option (List Char × List Char)
  | [] => none
  | c :: rest =>
      match cutAtLast? separator rest with
      | some parts => some (c :: parts.1, parts.2)
      | none => if c = separator then some ([], rest) else none

/-- The pieces between the occurrences of a character. -/
def piecesAt (separator : Char) :
    List Char → List Char × List (List Char)
  | [] => ([], [])
  | c :: rest =>
      let pieces := piecesAt separator rest
      if c = separator then
        ([], pieces.1 :: pieces.2)
      else
        (c :: pieces.1, pieces.2)

/-- The pieces between the arrows `=>`, which are taken from left to
right. -/
def piecesAtArrows : List Char → List Char × List (List Char)
  | [] => ([], [])
  | '=' :: '>' :: rest =>
      let pieces := piecesAtArrows rest
      ([], pieces.1 :: pieces.2)
  | c :: rest =>
      let pieces := piecesAtArrows rest
      (c :: pieces.1, pieces.2)

/-- The lines of a text.  Each line feed ends a line, and so does the end of
the text when characters stand after the last line feed. -/
def linesOf : List Char → List (List Char)
  | [] => []
  | '\n' :: rest => [] :: linesOf rest
  | c :: rest =>
      match linesOf rest with
      | [] => [[c]]
      | line :: lines => (c :: line) :: lines

/-- Whether the part occurs somewhere in the text. -/
def occursIn (part : List Char) : List Char → Bool
  | [] => part.isEmpty
  | c :: rest => part.isPrefixOf (c :: rest) || occursIn part rest

/-- A cut at the first occurrence loses nothing but the separator. -/
theorem eq_append_of_cutAtFirst? {separator : Char}
    {text before after : List Char}
    (cut : cutAtFirst? separator text = some (before, after)) :
    text = before ++ separator :: after := by
  induction text generalizing before with
  | nil => simp [cutAtFirst?] at cut
  | cons c rest inductionHypothesis =>
      by_cases same : c = separator
      · simp_all [cutAtFirst?]
      · simp only [cutAtFirst?, if_neg same, Option.map_eq_some_iff] at cut
        obtain ⟨⟨front, back⟩, cutRest, parts⟩ := cut
        cases parts
        simp [inductionHypothesis cutRest]

/-- A cut at the last occurrence loses nothing but the separator. -/
theorem eq_append_of_cutAtLast? {separator : Char}
    {text before after : List Char}
    (cut : cutAtLast? separator text = some (before, after)) :
    text = before ++ separator :: after := by
  induction text generalizing before with
  | nil => simp [cutAtLast?] at cut
  | cons c rest inductionHypothesis =>
      rw [cutAtLast?] at cut
      split at cut
      · next parts cutRest =>
          cases cut
          simp [inductionHypothesis cutRest]
      · split at cut <;> simp_all

end DocCheck
