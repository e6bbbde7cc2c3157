import DocCheck.Text.Trim
import Mathlib.Data.List.TakeWhile

/-!
# What trimming leaves

A text splits in one way only into a span of characters of one class and a
rest that does not begin with that class.  Trimming is the case of the blank
characters: it takes off blank texts at the two ends, and what it leaves has
no blank there.
-/

namespace DocCheck

/-! ## Spans -/

section Spans

variable {α : Type} {p : α → Bool}

theorem takeWhile_append_of_boundary {front rest : List α}
    (inside : ∀ item ∈ front, p item = true)
    (boundary : ∀ item ∈ rest.head?, p item = false) :
    (front ++ rest).takeWhile p = front := by
  rw [List.takeWhile_append_of_pos inside]
  cases rest with
  | nil => simp
  | cons item others =>
      have stops := boundary item rfl
      rw [List.takeWhile_cons_of_neg (by simp [stops]), List.append_nil]

theorem dropWhile_append_of_boundary {front rest : List α}
    (inside : ∀ item ∈ front, p item = true)
    (boundary : ∀ item ∈ rest.head?, p item = false) :
    (front ++ rest).dropWhile p = rest := by
  have whole :=
    List.takeWhile_append_dropWhile (p := p) (l := front ++ rest)
  rw [takeWhile_append_of_boundary inside boundary] at whole
  exact List.append_cancel_left whole

theorem head_dropWhile (items : List α) :
    ∀ item ∈ (items.dropWhile p).head?, p item = false := by
  intro item atHead
  have stopped := List.head?_dropWhile_not p items
  rw [Option.mem_def.mp atHead] at stopped
  exact stopped

/-- There is one way only to split a list into a span and a rest that the
span stops at. -/
theorem span_unique {front otherFront rest otherRest : List α}
    (inside : ∀ item ∈ front, p item = true)
    (otherInside : ∀ item ∈ otherFront, p item = true)
    (boundary : ∀ item ∈ rest.head?, p item = false)
    (otherBoundary : ∀ item ∈ otherRest.head?, p item = false)
    (same : front ++ rest = otherFront ++ otherRest) :
    front = otherFront ∧ rest = otherRest := by
  constructor
  · rw [← takeWhile_append_of_boundary inside boundary, same]
    exact takeWhile_append_of_boundary otherInside otherBoundary
  · rw [← dropWhile_append_of_boundary inside boundary, same]
    exact dropWhile_append_of_boundary otherInside otherBoundary

end Spans

/-! ## Blank and trimmed texts -/

/-- A text of blanks only. -/
def IsBlankText (text : List Char) : Prop :=
  ∀ c ∈ text, isBlank c = true

/-- A text that neither begins nor ends with a blank. -/
def IsTrimmed (text : List Char) : Prop :=
  (∀ c ∈ text.head?, isBlank c = false) ∧
    ∀ c ∈ text.getLast?, isBlank c = false

-- Both are decided along the text and not by going through all characters.
instance (text : List Char) : Decidable (IsBlankText text) :=
  decidable_of_iff (text.all isBlank = true) List.all_eq_true

instance (text : List Char) : Decidable (IsTrimmed text) :=
  @instDecidableAnd _ _ (Option.decidableForallMem _)
    (Option.decidableForallMem _)

/-- A text that begins with no blank has no blanks before it. -/
theorem IsBlankText.eq_nil_of_head {front rest : List Char} {c : Char}
    (blank : IsBlankText front) (atHead : (front ++ rest).head? = some c)
    (notBlank : isBlank c = false) : front = [] := by
  cases front with
  | nil => rfl
  | cons first others =>
      obtain rfl := Option.some.inj atHead
      rw [blank first List.mem_cons_self] at notBlank
      cases notBlank

theorem isBlankText_space : IsBlankText [' '] := by
  intro c member
  rw [List.mem_singleton.mp member]
  decide

theorem isTrimmed_of_ends {first last : Char}
    (firstNotBlank : isBlank first = false)
    (lastNotBlank : isBlank last = false) (inner : List Char) :
    IsTrimmed (first :: (inner ++ [last])) := by
  constructor
  · intro c given
    cases given
    exact firstNotBlank
  · intro c atLast
    rw [← List.cons_append, List.getLast?_concat] at atLast
    cases atLast
    exact lastNotBlank

theorem isTrimmed_cons {c : Char} {rest : List Char}
    (notBlank : isBlank c = false)
    (atLast : ∀ last ∈ rest.getLast?, isBlank last = false) :
    IsTrimmed (c :: rest) := by
  constructor
  · intro first atHead
    cases atHead
    exact notBlank
  · intro last given
    rw [List.getLast?_cons] at given
    obtain rfl := Option.some.inj given
    cases known : rest.getLast? with
    | none => exact notBlank
    | some other => exact atLast other known

/-- A trimmed text stays trimmed behind a text that does not begin with a
blank. -/
theorem IsTrimmed.append_left {front text : List Char}
    (trimmed : IsTrimmed text) (nonempty : text ≠ [])
    (atFront : ∀ c ∈ front.head?, isBlank c = false) :
    IsTrimmed (front ++ text) := by
  constructor
  · intro c atHead
    rw [List.head?_append] at atHead
    rcases Option.or_eq_some_iff.mp atHead with inFront | ⟨_, inText⟩
    · exact atFront c inFront
    · exact trimmed.1 c inText
  · intro c atLast
    rw [List.getLast?_append] at atLast
    rcases Option.or_eq_some_iff.mp atLast with inText | ⟨noLast, _⟩
    · exact trimmed.2 c inText
    · exact absurd (List.getLast?_eq_none_iff.mp noLast) nonempty

theorem eq_nil_of_blank_of_trimmed {text : List Char}
    (blank : IsBlankText text) (trimmed : IsTrimmed text) : text = [] := by
  cases text with
  | nil => rfl
  | cons c others =>
      have blankHead := blank c List.mem_cons_self
      have notBlank := trimmed.1 c rfl
      rw [notBlank] at blankHead
      cases blankHead

/-! ## One end -/

theorem trimStart_blank_append {front : List Char}
    (blank : IsBlankText front) (text : List Char) :
    trimStart (front ++ text) = trimStart text :=
  List.dropWhile_append_of_pos blank

theorem trimStart_of_head {text : List Char}
    (atHead : ∀ c ∈ text.head?, isBlank c = false) :
    trimStart text = text := by
  cases text with
  | nil => rfl
  | cons c others =>
      have notBlank := atHead c rfl
      rw [trimStart_cons, notBlank, if_neg Bool.false_ne_true]

theorem head_trimStart (text : List Char) :
    ∀ c ∈ (trimStart text).head?, isBlank c = false :=
  head_dropWhile text

theorem trimStart_eq_nil_iff {text : List Char} :
    trimStart text = [] ↔ IsBlankText text :=
  List.dropWhile_eq_nil_iff

/-- Only blanks are taken off the front. -/
theorem exists_blank_append_trimStart (text : List Char) :
    ∃ front, IsBlankText front ∧ text = front ++ trimStart text :=
  ⟨text.takeWhile isBlank, fun _ member => List.mem_takeWhile_imp member,
    List.takeWhile_append_dropWhile.symm⟩

theorem trimEnd_eq_reverse (text : List Char) :
    trimEnd text = (trimStart text.reverse).reverse :=
  rfl

theorem trimEnd_append_blank {back : List Char} (text : List Char)
    (blank : IsBlankText back) :
    trimEnd (text ++ back) = trimEnd text := by
  have blankReverse : IsBlankText back.reverse := by
    simpa [IsBlankText] using blank
  rw [trimEnd_eq_reverse, List.reverse_append,
    trimStart_blank_append blankReverse, ← trimEnd_eq_reverse]

theorem trimEnd_of_last {text : List Char}
    (atLast : ∀ c ∈ text.getLast?, isBlank c = false) :
    trimEnd text = text := by
  rw [trimEnd_eq_reverse, trimStart_of_head (by simpa using atLast),
    List.reverse_reverse]

theorem last_trimEnd (text : List Char) :
    ∀ c ∈ (trimEnd text).getLast?, isBlank c = false := by
  intro c atLast
  rw [trimEnd_eq_reverse, List.getLast?_reverse] at atLast
  exact head_trimStart text.reverse c atLast

theorem exists_trimEnd_append_blank (text : List Char) :
    ∃ back, IsBlankText back ∧ text = trimEnd text ++ back := by
  obtain ⟨front, blank, split⟩ :=
    exists_blank_append_trimStart text.reverse
  refine ⟨front.reverse, by simpa [IsBlankText] using blank, ?_⟩
  rw [trimEnd_eq_reverse, ← List.reverse_append, ← split,
    List.reverse_reverse]

/-- Behind a text that ends in no blank, trimming goes on in what follows
it only. -/
theorem trimEnd_append {front : List Char}
    (atLast : ∀ c ∈ front.getLast?, isBlank c = false) (back : List Char) :
    trimEnd (front ++ back) = front ++ trimEnd back := by
  obtain ⟨blank, isBlank, split⟩ := exists_trimEnd_append_blank back
  have shape : front ++ back = front ++ trimEnd back ++ blank := by
    rw [List.append_assoc, ← split]
  rw [shape, trimEnd_append_blank _ isBlank]
  apply trimEnd_of_last
  intro c given
  rw [List.getLast?_append] at given
  rcases Option.or_eq_some_iff.mp given with inBack | ⟨_, inFront⟩
  · exact last_trimEnd back c inBack
  · exact atLast c inFront

theorem trimEnd_isPrefix (text : List Char) : trimEnd text <+: text := by
  obtain ⟨back, _, split⟩ := exists_trimEnd_append_blank text
  exact ⟨back, split.symm⟩

theorem head_firstWord {text : List Char} (nonempty : text ≠ [])
    (atHead : ∀ c ∈ text.head?, isBlank c = false) :
    (firstWord text).head? = text.head? := by
  obtain ⟨first, others, rfl⟩ := List.exists_cons_of_ne_nil nonempty
  have notBlank : isBlank first = false := atHead first rfl
  simp [firstWord, notBlank]

/-! ## Both ends -/

theorem isTrimmed_trim (text : List Char) : IsTrimmed (trim text) := by
  refine ⟨?_, last_trimEnd (trimStart text)⟩
  intro c atHead
  obtain ⟨back, _, split⟩ := exists_trimEnd_append_blank (trimStart text)
  apply head_trimStart text c
  rw [split, List.head?_append]
  exact Option.or_eq_some_iff.mpr (Or.inl atHead)

theorem trim_of_trimmed {text : List Char} (trimmed : IsTrimmed text) :
    trim text = text := by
  rw [trim, trimStart_of_head trimmed.1, trimEnd_of_last trimmed.2]

theorem exists_blank_append_trim_append_blank (text : List Char) :
    ∃ front back, IsBlankText front ∧ IsBlankText back ∧
      text = front ++ trim text ++ back := by
  obtain ⟨front, blankFront, split⟩ := exists_blank_append_trimStart text
  obtain ⟨back, blankBack, splitRest⟩ :=
    exists_trimEnd_append_blank (trimStart text)
  refine ⟨front, back, blankFront, blankBack, ?_⟩
  rw [List.append_assoc, trim, ← splitRest, ← split]

theorem trim_blank_append {front : List Char}
    (blank : IsBlankText front) (text : List Char) :
    trim (front ++ text) = trim text := by
  rw [trim, trimStart_blank_append blank, trim]

theorem trim_eq_nil_iff {text : List Char} :
    trim text = [] ↔ IsBlankText text := by
  constructor
  · intro empty
    obtain ⟨front, back, blankFront, blankBack, split⟩ :=
      exists_blank_append_trim_append_blank text
    rw [split, empty]
    intro c member
    simp only [List.append_nil, List.mem_append] at member
    rcases member with inFront | inBack
    · exact blankFront c inFront
    · exact blankBack c inBack
  · intro blank
    rw [trim, trimStart_eq_nil_iff.mpr blank, trimEnd_nil]

theorem trim_append_blank {back : List Char} (text : List Char)
    (blank : IsBlankText back) : trim (text ++ back) = trim text := by
  by_cases blankStart : IsBlankText text
  · have blankWhole : IsBlankText (text ++ back) := by
      intro c member
      rcases List.mem_append.mp member with inText | inBack
      · exact blankStart c inText
      · exact blank c inBack
    rw [trim_eq_nil_iff.mpr blankStart, trim_eq_nil_iff.mpr blankWhole]
  · obtain ⟨front, blankFront, split⟩ := exists_blank_append_trimStart text
    -- The trimmed text is not empty, so its first character stops the span.
    have nonempty : trimStart text ≠ [] :=
      fun empty => blankStart (trimStart_eq_nil_iff.mp empty)
    have boundary :
        ∀ c ∈ (trimStart text ++ back).head?, isBlank c = false := by
      intro c atHead
      rw [List.head?_append] at atHead
      rcases Option.or_eq_some_iff.mp atHead with atStart | ⟨noHead, _⟩
      · exact head_trimStart text c atStart
      · exact absurd (List.head?_eq_none_iff.mp noHead) nonempty
    have started : trimStart (text ++ back) = trimStart text ++ back :=
      calc
        trimStart (text ++ back) =
            trimStart (front ++ (trimStart text ++ back)) := by
          rw [← List.append_assoc, ← split]
        _ = trimStart (trimStart text ++ back) :=
          trimStart_blank_append blankFront _
        _ = trimStart text ++ back := trimStart_of_head boundary
    rw [trim, started, trimEnd_append_blank _ blank, trim]

theorem trim_trimEnd (text : List Char) :
    trim (trimEnd text) = trim text := by
  obtain ⟨back, blank, split⟩ := exists_trimEnd_append_blank text
  exact (trim_append_blank (trimEnd text) blank).symm.trans
    (congrArg trim split.symm)

theorem mem_of_mem_trim {text : List Char} {c : Char}
    (member : c ∈ trim text) : c ∈ text := by
  obtain ⟨front, back, _, _, split⟩ :=
    exists_blank_append_trim_append_blank text
  rw [split]
  simp [member]

theorem trim_isInfix (text : List Char) : trim text <:+: text := by
  obtain ⟨front, back, _, _, split⟩ :=
    exists_blank_append_trim_append_blank text
  exact ⟨front, back, split.symm⟩

end DocCheck
