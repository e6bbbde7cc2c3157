import DocCheck.Comment.Directive
import DocCheck.Proofs.Cutting
import DocCheck.Proofs.Trimming

/-!
# The layout of a directive

What follows the marker of a directive is laid out as

    blanks [`{` inner `}` blanks] [word blanks] `-` arguments `=>` expected

The part before the dash is the head of the layout.  A text has at most one
layout: every part ends at the first character that cannot belong to it.
-/

namespace DocCheck

/-- A kind in braces, with the blanks behind it. -/
structure KindPart where
  inner : List Char
  gap : List Char
deriving DecidableEq, Repr

/-- A name, with the blanks behind it. -/
structure NamePart where
  word : List Char
  gap : List Char
deriving DecidableEq, Repr

/-- What stands between the marker and the dash. -/
structure Head where
  lead : List Char
  kind : Option KindPart
  name : Option NamePart
deriving DecidableEq, Repr

/-- The layout of all that follows the marker. -/
structure Layout where
  head : Head
  arguments : List Char
  expected : List Char
deriving DecidableEq, Repr

namespace KindPart

def text (part : KindPart) : List Char :=
  '{' :: part.inner ++ '}' :: part.gap

def value (part : KindPart) : String :=
  String.ofList (trim part.inner)

structure WellFormed (part : KindPart) : Prop where
  unclosed : '}' ∉ part.inner
  notBlank : ¬ IsBlankText part.inner
  gap : IsBlankText part.gap

end KindPart

namespace NamePart

def text (part : NamePart) : List Char :=
  part.word ++ part.gap

def value (part : NamePart) : String :=
  String.ofList part.word

structure WellFormed (part : NamePart) : Prop where
  nonempty : part.word ≠ []
  noBlank : ∀ c ∈ part.word, isBlank c = false
  noDash : part.word.head? ≠ some '-'
  gapNonempty : part.gap ≠ []
  gap : IsBlankText part.gap

theorem WellFormed.word_inside {part : NamePart}
    (formed : part.WellFormed) :
    ∀ c ∈ part.word, (!isBlank c) = true := by
  intro c member
  rw [formed.noBlank c member, Bool.not_false]

theorem WellFormed.gap_stops {part : NamePart} (formed : part.WellFormed)
    (after : List Char) :
    ∀ c ∈ (part.gap ++ after).head?, (!isBlank c) = false := by
  intro c atHead
  obtain ⟨first, others, shape⟩ :=
    List.exists_cons_of_ne_nil formed.gapNonempty
  rw [shape] at atHead
  obtain rfl := Option.some.inj atHead
  rw [formed.gap first (by simp [shape]), Bool.not_true]

theorem wellFormed_firstWord {text gap sections : List Char}
    (nonempty : text ≠ []) (atHead : ∀ c ∈ text.head?, isBlank c = false)
    (noDash : text.head? ≠ some '-') (blankGap : IsBlankText gap)
    (split : afterFirstWord text = gap ++ '-' :: sections) :
    NamePart.WellFormed ⟨firstWord text, gap⟩ := by
  have sameHead : (firstWord text).head? = text.head? :=
    head_firstWord nonempty atHead
  constructor
  case nonempty =>
    intro emptyWord
    have noHead : (firstWord text).head? = none :=
      List.head?_eq_none_iff.mpr emptyWord
    rw [sameHead] at noHead
    exact nonempty (List.head?_eq_none_iff.mp noHead)
  case noBlank =>
    intro c member
    simpa using List.mem_takeWhile_imp member
  case noDash =>
    rw [sameHead]
    exact noDash
  case gapNonempty =>
    -- Without a gap the dash would belong to the word.
    intro (noGap : gap = [])
    have stops := head_dropWhile (p := fun c => !isBlank c) text '-'
    rw [← afterFirstWord, split, noGap] at stops
    exact absurd (stops rfl) (by decide)
  case gap => exact blankGap

end NamePart

namespace Head

def text (head : Head) : List Char :=
  head.lead ++ head.kind.elim [] KindPart.text ++
    head.name.elim [] NamePart.text

/-- Without a kind the name does not begin with a brace, which would open
one. -/
structure WellFormed (head : Head) : Prop where
  lead : IsBlankText head.lead
  kind : ∀ part ∈ head.kind, part.WellFormed
  name : ∀ part ∈ head.name, part.WellFormed
  noBrace :
    head.kind = none → ∀ part ∈ head.name, part.word.head? ≠ some '{'

end Head

namespace Layout

def text (layout : Layout) : List Char :=
  layout.head.text ++
    '-' :: (layout.arguments ++ '=' :: '>' :: layout.expected)

structure WellFormed (layout : Layout) : Prop where
  head : layout.head.WellFormed
  arguments : ¬ arrow <:+: layout.arguments
  expected : ¬ arrow <:+: layout.expected

/-- The argument tokens of a layout: the pieces between commas, where a blank
text stands for no argument or for a single blank one. -/
def argumentTokens (arity : Nat) (layout : Layout) : List Token :=
  if IsBlankText layout.arguments then
    if arity = 0 then [] else [⟨"", none⟩]
  else
    (layout.arguments.splitOn ',').map Token.parse

/-- What a layout asserts, for a symbol of the given arity. -/
def assertion (arity : Nat) (layout : Layout) : Assertion where
  kind := layout.head.kind.map KindPart.value
  name := layout.head.name.map NamePart.value
  arguments := layout.argumentTokens arity
  expected := Token.parse layout.expected

end Layout

/-! ## Uniqueness -/

/-- A kind part ends where its gap ends, before a text that begins with no
blank. -/
theorem KindPart.text_append_inj {left right : KindPart}
    {rest otherRest : List Char} (leftFormed : left.WellFormed)
    (rightFormed : right.WellFormed)
    (boundary : ∀ c ∈ rest.head?, isBlank c = false)
    (otherBoundary : ∀ c ∈ otherRest.head?, isBlank c = false)
    (same : left.text ++ rest = right.text ++ otherRest) :
    left = right ∧ rest = otherRest := by
  simp only [text, List.cons_append, List.append_assoc,
    List.cons.injEq, true_and] at same
  have inside : ∀ part : KindPart, part.WellFormed →
      ∀ c ∈ part.inner, (c != '}') = true := by
    intro part formed c member
    simpa using fun equal : c = '}' => formed.unclosed (equal ▸ member)
  obtain ⟨sameInner, sameAfter⟩ :=
    span_unique (inside left leftFormed) (inside right rightFormed)
      (by simp) (by simp) same
  obtain ⟨sameGap, sameRest⟩ :=
    span_unique leftFormed.gap rightFormed.gap boundary otherBoundary
      (List.cons.inj sameAfter).2
  cases left
  cases right
  simp_all

theorem KindPart.option_text_append_inj {left right : Option KindPart}
    {rest otherRest : List Char}
    (leftFormed : ∀ part ∈ left, part.WellFormed)
    (rightFormed : ∀ part ∈ right, part.WellFormed)
    (boundary : ∀ c ∈ rest.head?, isBlank c = false)
    (otherBoundary : ∀ c ∈ otherRest.head?, isBlank c = false)
    (noBrace : left = none → ∀ after, rest ≠ '{' :: after)
    (otherNoBrace : right = none → ∀ after, otherRest ≠ '{' :: after)
    (same : left.elim [] text ++ rest = right.elim [] text ++ otherRest) :
    left = right ∧ rest = otherRest := by
  cases left with
  | none =>
      cases right with
      | none => exact ⟨rfl, same⟩
      | some rightPart => exact absurd same (noBrace rfl _)
  | some leftPart =>
      cases right with
      | none => exact absurd same.symm (otherNoBrace rfl _)
      | some rightPart =>
          obtain ⟨samePart, sameRest⟩ :=
            text_append_inj (leftFormed _ rfl) (rightFormed _ rfl)
              boundary otherBoundary same
          exact ⟨congrArg some samePart, sameRest⟩

theorem NamePart.text_append_inj {left right : NamePart}
    {rest otherRest : List Char} (leftFormed : left.WellFormed)
    (rightFormed : right.WellFormed)
    (boundary : ∀ c ∈ rest.head?, isBlank c = false)
    (otherBoundary : ∀ c ∈ otherRest.head?, isBlank c = false)
    (same : left.text ++ rest = right.text ++ otherRest) :
    left = right ∧ rest = otherRest := by
  simp only [text, List.append_assoc] at same
  obtain ⟨sameWord, sameAfter⟩ :=
    span_unique leftFormed.word_inside rightFormed.word_inside
      (leftFormed.gap_stops rest) (rightFormed.gap_stops otherRest) same
  obtain ⟨sameGap, sameRest⟩ :=
    span_unique leftFormed.gap rightFormed.gap boundary otherBoundary
      sameAfter
  cases left
  cases right
  simp_all

theorem NamePart.option_text_append_inj {left right : Option NamePart}
    {rest otherRest : List Char}
    (leftFormed : ∀ part ∈ left, part.WellFormed)
    (rightFormed : ∀ part ∈ right, part.WellFormed)
    (same : left.elim [] text ++ '-' :: rest =
      right.elim [] text ++ '-' :: otherRest) :
    left = right ∧ rest = otherRest := by
  have notDash : ∀ part : NamePart, part.WellFormed → ∀ after,
      '-' :: after ≠ part.text ++ '-' :: otherRest ∧
        part.text ++ '-' :: rest ≠ '-' :: after := by
    intro part formed after
    obtain ⟨first, others, shape⟩ :=
      List.exists_cons_of_ne_nil formed.nonempty
    have different : first ≠ '-' := by
      intro equal
      exact formed.noDash (by rw [shape, equal, List.head?_cons])
    simp [text, shape, different, different.symm]
  cases left with
  | none =>
      cases right with
      | none => exact ⟨rfl, (List.cons.inj same).2⟩
      | some rightPart =>
          exact absurd same (notDash rightPart (rightFormed _ rfl) rest).1
  | some leftPart =>
      cases right with
      | none =>
          exact absurd same
            (notDash leftPart (leftFormed _ rfl) otherRest).2
      | some rightPart =>
          obtain ⟨samePart, sameRest⟩ :=
            text_append_inj (leftFormed _ rfl) (rightFormed _ rfl)
              (by simp; decide) (by simp; decide) same
          refine ⟨congrArg some samePart, ?_⟩
          exact (List.cons.inj sameRest).2

namespace Head

/-- What stands between the kind and the arguments. -/
def afterKind (head : Head) (sections : List Char) : List Char :=
  head.name.elim [] NamePart.text ++ '-' :: sections

theorem text_append (head : Head) (sections : List Char) :
    head.text ++ '-' :: sections =
      head.lead ++
        (head.kind.elim [] KindPart.text ++ head.afterKind sections) := by
  simp [text, afterKind]

variable {head : Head}

theorem WellFormed.head_afterKind (formed : head.WellFormed)
    (sections : List Char) :
    ∀ c ∈ (head.afterKind sections).head?, isBlank c = false := by
  intro c atHead
  cases atName : head.name with
  | none =>
      simp only [afterKind, atName, Option.elim_none, List.nil_append,
        List.head?_cons, Option.mem_def, Option.some.injEq] at atHead
      rw [← atHead]
      decide
  | some part =>
      have partFormed := formed.name part atName
      obtain ⟨first, others, shape⟩ :=
        List.exists_cons_of_ne_nil partFormed.nonempty
      simp only [afterKind, atName, Option.elim_some, NamePart.text, shape,
        List.cons_append, List.head?_cons, Option.mem_def,
        Option.some.injEq] at atHead
      rw [← atHead]
      exact partFormed.noBlank first (by simp [shape])

theorem WellFormed.afterKind_ne_brace (formed : head.WellFormed)
    (noKind : head.kind = none) (sections rest : List Char) :
    head.afterKind sections ≠ '{' :: rest := by
  cases atName : head.name with
  | none => simp [afterKind, atName]
  | some part =>
      have noBrace := formed.noBrace noKind part atName
      obtain ⟨first, others, shape⟩ :=
        List.exists_cons_of_ne_nil (formed.name part atName).nonempty
      rw [shape, List.head?_cons] at noBrace
      intro same
      apply noBrace
      simp only [afterKind, atName, Option.elim_some, NamePart.text, shape,
        List.cons_append, List.cons.injEq] at same
      rw [same.1]

theorem WellFormed.head_afterLead (formed : head.WellFormed)
    (sections : List Char) :
    ∀ c ∈ (head.kind.elim [] KindPart.text ++
      head.afterKind sections).head?, isBlank c = false := by
  cases atKind : head.kind with
  | none => exact formed.head_afterKind sections
  | some part =>
      simp only [Option.elim_some, KindPart.text, List.cons_append,
        List.head?_cons, Option.mem_def, Option.some.injEq]
      intro c same
      subst same
      decide

/-- A text has one head only before a dash. -/
theorem text_append_inj {left right : Head}
    {sections otherSections : List Char} (leftFormed : left.WellFormed)
    (rightFormed : right.WellFormed)
    (same : left.text ++ '-' :: sections =
      right.text ++ '-' :: otherSections) :
    left = right ∧ sections = otherSections := by
  rw [text_append, text_append] at same
  obtain ⟨sameLead, sameAfter⟩ :=
    span_unique leftFormed.lead rightFormed.lead
      (leftFormed.head_afterLead sections)
      (rightFormed.head_afterLead otherSections) same
  obtain ⟨sameKind, sameBehind⟩ :=
    KindPart.option_text_append_inj leftFormed.kind rightFormed.kind
      (leftFormed.head_afterKind sections)
      (rightFormed.head_afterKind otherSections)
      (fun noKind => leftFormed.afterKind_ne_brace noKind sections)
      (fun noKind => rightFormed.afterKind_ne_brace noKind otherSections)
      sameAfter
  obtain ⟨sameName, sameSections⟩ :=
    NamePart.option_text_append_inj leftFormed.name rightFormed.name
      sameBehind
  refine ⟨?_, sameSections⟩
  cases left
  cases right
  simp_all

end Head

/-- A text has one layout only. -/
theorem Layout.text_inj {left right : Layout}
    (leftFormed : left.WellFormed) (rightFormed : right.WellFormed)
    (same : left.text = right.text) : left = right := by
  obtain ⟨sameHead, sameSections⟩ :=
    Head.text_append_inj leftFormed.head rightFormed.head same
  have samePieces := congrArg piecesAtArrows sameSections
  rw [piecesAtArrows_append leftFormed.arguments,
    piecesAtArrows_append rightFormed.arguments,
    piecesAtArrows_of_arrowFree leftFormed.expected,
    piecesAtArrows_of_arrowFree rightFormed.expected] at samePieces
  cases left
  cases right
  simp_all

end DocCheck
