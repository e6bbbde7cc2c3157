import DocCheck.Diagnostic.Terminal
import DocCheck.Proofs.Cutting

/-!
# Escape sequences

A terminal takes a text piece by piece: it shows the characters, and an
escape sequence sets a colour or resets all of them.  A text in colour says
the same as a plain text when it is the plain text with complete sequences
put in, and when it leaves no colour on.  Such texts may be put one behind
the other.
-/

namespace DocCheck

/-! ## Pieces of a text -/

/-- A character that is shown, or an escape sequence with its parameters. -/
inductive Piece where
  | shown (c : Char)
  | sequence (parameters : List Char)
deriving DecidableEq, Repr

/-- The pieces of a text.  An escape sequence goes from the escape character
and a bracket to the next `m`. -/
def pieces : List Char → List Piece
  | '\x1b' :: '[' :: rest =>
      match _cut : cutAtFirst? 'm' rest with
      | some (parameters, after) => .sequence parameters :: pieces after
      | none => .shown '\x1b' :: pieces ('[' :: rest)
  | c :: rest => .shown c :: pieces rest
  | [] => []
termination_by text => text.length
decreasing_by
  · have shape := eq_append_of_cutAtFirst? _cut
    simp only [shape, List.length_append, List.length_cons]
    omega
  · simp
  · simp

namespace Piece

def shown? : Piece → Option Char
  | shown c => some c
  | sequence _ => none

/-- Whether a colour is on behind a piece.  The parameter zero resets all
colours. -/
def colorsOn (before : Bool) : Piece → Bool
  | shown _ => before
  | sequence parameters => parameters != ['0']

end Piece

/-- The text that is left when its escape sequences are deleted. -/
def withoutSequences (text : List Char) : List Char :=
  (pieces text).filterMap Piece.shown?

/-- Whether a text leaves a colour on. -/
def leavesColors (text : List Char) : Bool :=
  (pieces text).foldl Piece.colorsOn false

theorem pieces_nil : pieces [] = [] := by
  rw [pieces]

theorem pieces_cons_of_ne {c : Char} (noEscape : c ≠ '\x1b')
    (rest : List Char) : pieces (c :: rest) = .shown c :: pieces rest := by
  rw [pieces]
  intro others atEscape
  exact absurd atEscape noEscape

theorem pieces_sequence {parameters : List Char} (unended : 'm' ∉ parameters)
    (back : List Char) :
    pieces ('\x1b' :: '[' :: (parameters ++ 'm' :: back)) =
      .sequence parameters :: pieces back := by
  have known := cutAtFirst?_append unended back
  rw [pieces]
  split
  · next found after cut =>
      rw [known] at cut
      cases cut
      rfl
  · next cut =>
      rw [known] at cut
      cases cut

/-- Characters other than the escape character are shown. -/
theorem pieces_append_of_notMem {front : List Char}
    (free : '\x1b' ∉ front) (back : List Char) :
    pieces (front ++ back) = front.map Piece.shown ++ pieces back := by
  induction front with
  | nil => rfl
  | cons c others inductionHypothesis =>
      rw [List.mem_cons, not_or] at free
      rw [List.cons_append, pieces_cons_of_ne (Ne.symm free.1),
        inductionHypothesis free.2, List.map_cons, List.cons_append]

/-! ## Texts without escape characters -/

/-- A text in which no escape sequence can begin. -/
def EscapeFree (text : String) : Prop :=
  '\x1b' ∉ text.toList

instance (text : String) : Decidable (EscapeFree text) :=
  inferInstanceAs (Decidable (_ ∉ _))

namespace EscapeFree

theorem append {front back : String} (freeFront : EscapeFree front)
    (freeBack : EscapeFree back) : EscapeFree (front ++ back) := by
  rw [EscapeFree, String.toList_append, List.mem_append, not_or]
  exact ⟨freeFront, freeBack⟩

theorem join {texts : List String}
    (free : ∀ text ∈ texts, EscapeFree text) :
    EscapeFree (String.join texts) := by
  intro member
  rw [String.toList_join, List.mem_flatMap] at member
  obtain ⟨text, inTexts, inText⟩ := member
  exact free text inTexts inText

theorem intercalate {separator : String} {texts : List String}
    (freeSeparator : EscapeFree separator)
    (free : ∀ text ∈ texts, EscapeFree text) :
    EscapeFree (separator.intercalate texts) := by
  intro member
  rw [String.toList_intercalate] at member
  rcases mem_intercalate_list member with
    inSeparator | ⟨text, inTexts, inText⟩
  · exact freeSeparator inSeparator
  · obtain ⟨known, knownMember, rfl⟩ := List.mem_map.mp inTexts
    exact free known knownMember inText

/-- Decimal digits are no escape characters. -/
theorem toString_nat (number : Nat) : EscapeFree (toString number) := by
  intro member
  have digit : '\x1b'.isDigit = true :=
    Nat.isDigit_of_mem_toDigits (by omega) le_rfl
      (Nat.toList_repr ▸ member)
  exact absurd digit (by decide)

end EscapeFree

/-! ## Colours put into a text -/

/-- A text in colour, and the plain text that says the same.  The sequences
are complete, so nothing behind the text belongs to them, and no colour is
left on. -/
structure AddsColors (colored plain : String) : Prop where
  complete :
    ∀ back, pieces (colored.toList ++ back) =
      pieces colored.toList ++ pieces back
  withoutSequences : withoutSequences colored.toList = plain.toList
  leavesColors : leavesColors colored.toList = false

namespace AddsColors

theorem of_escapeFree {text : String} (free : EscapeFree text) :
    AddsColors text text := by
  have alone : pieces text.toList = text.toList.map Piece.shown := by
    have shown := pieces_append_of_notMem free []
    rwa [pieces_nil, List.append_nil, List.append_nil] at shown
  constructor
  · intro back
    rw [pieces_append_of_notMem free, alone]
  · rw [DocCheck.withoutSequences, alone, List.filterMap_map]
    exact List.filterMap_some
  · rw [DocCheck.leavesColors, alone, List.foldl_map]
    exact List.foldl_fixed' (fun _ => rfl) _

theorem append {colored plain otherColored otherPlain : String}
    (front : AddsColors colored plain)
    (back : AddsColors otherColored otherPlain) :
    AddsColors (colored ++ otherColored) (plain ++ otherPlain) := by
  have both := front.complete otherColored.toList
  constructor
  · intro rest
    rw [String.toList_append, List.append_assoc, front.complete,
      back.complete, ← List.append_assoc, both]
  · rw [String.toList_append, String.toList_append,
      DocCheck.withoutSequences, both, List.filterMap_append,
      ← front.withoutSequences, ← back.withoutSequences]
    rfl
  · rw [String.toList_append, DocCheck.leavesColors, both, List.foldl_append]
    rw [← DocCheck.leavesColors, front.leavesColors]
    exact back.leavesColors

theorem join_map {α : Type} {items : List α} {colored plain : α → String}
    (each : ∀ item ∈ items, AddsColors (colored item) (plain item)) :
    AddsColors (String.join (items.map colored))
      (String.join (items.map plain)) := by
  induction items with
  | nil =>
      have empty : EscapeFree "" := by decide
      exact of_escapeFree empty
  | cons item others inductionHypothesis =>
      obtain ⟨first, rest⟩ := List.forall_mem_cons.mp each
      rw [List.map_cons, String.join_cons, List.map_cons, String.join_cons]
      exact first.append (inductionHypothesis rest)

/-- A word between the sequence of a colour and the reset. -/
theorem painted {escape word : String} {parameters : List Char}
    (shape : escape.toList = '\x1b' :: '[' :: (parameters ++ ['m']))
    (unended : 'm' ∉ parameters) (free : EscapeFree word) :
    AddsColors (painted true escape word) word := by
  have reset : "\x1b[0m".toList = ['\x1b', '[', '0', 'm'] := by decide
  have behind (back : List Char) :
      pieces ((DocCheck.painted true escape word).toList ++ back) =
        (.sequence parameters :: word.toList.map Piece.shown ++
          [.sequence ['0']]) ++ pieces back := by
    have text : (DocCheck.painted true escape word).toList ++ back =
        '\x1b' :: '[' :: (parameters ++ 'm' :: (word.toList ++
          '\x1b' :: '[' :: (['0'] ++ 'm' :: back))) := by
      simp [DocCheck.painted, shape, reset]
    rw [text, pieces_sequence unended, pieces_append_of_notMem free,
      pieces_sequence (by decide)]
    simp
  have alone := behind []
  rw [pieces_nil, List.append_nil, List.append_nil] at alone
  constructor
  · intro back
    rw [behind, alone]
  · rw [DocCheck.withoutSequences, alone, List.filterMap_append,
      List.filterMap_cons_none rfl, List.filterMap_map]
    have kept : List.filterMap (Piece.shown? ∘ Piece.shown) word.toList =
        word.toList := List.filterMap_some
    rw [kept]
    exact List.append_nil _
  · rw [DocCheck.leavesColors, alone, List.foldl_concat]
    rfl

end AddsColors

end DocCheck
