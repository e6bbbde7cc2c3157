import DocCheck.Text.Cut
import Mathlib.Data.List.Infix

/-!
# What cutting finds

Each way of cutting a text is pinned down by the texts that it finds: a cut
at the first or the last occurrence by the side where the separator is
absent, the pieces between separators by having none inside, and the lines by
having no line feed.
-/

namespace DocCheck

variable {separator : Char}

/-! ## Cuts at one occurrence -/

theorem cutAtFirst?_append {before : List Char}
    (absent : separator ∉ before) (after : List Char) :
    cutAtFirst? separator (before ++ separator :: after) =
      some (before, after) := by
  induction before with
  | nil => simp [cutAtFirst?]
  | cons c others inductionHypothesis =>
      have different : c ≠ separator := fun same => absent (by simp [same])
      have absentOthers : separator ∉ others :=
        fun member => absent (List.mem_cons_of_mem c member)
      rw [List.cons_append, cutAtFirst?, if_neg different,
        inductionHypothesis absentOthers, Option.map_some]

theorem cutAtFirst?_eq_none_iff {text : List Char} :
    cutAtFirst? separator text = none ↔ separator ∉ text := by
  induction text with
  | nil => simp [cutAtFirst?]
  | cons c rest inductionHypothesis =>
      by_cases same : c = separator
      · simp [cutAtFirst?, same]
      · have different : separator ≠ c := fun equal => same equal.symm
        simp [cutAtFirst?, same, different, inductionHypothesis]

/-- A text is cut at the occurrence that no other stands before. -/
theorem cutAtFirst?_eq_some_iff {text before after : List Char} :
    cutAtFirst? separator text = some (before, after) ↔
      text = before ++ separator :: after ∧ separator ∉ before := by
  constructor
  · intro cut
    have shape := eq_append_of_cutAtFirst? cut
    refine ⟨shape, ?_⟩
    intro member
    -- An earlier occurrence would have been the one to cut at.
    obtain ⟨earlier, between, beforeShape, absent⟩ :=
      List.eq_append_cons_of_mem member
    have earlierCut :
        cutAtFirst? separator text =
          some (earlier, between ++ separator :: after) := by
      rw [shape, beforeShape, List.append_assoc, List.cons_append]
      exact cutAtFirst?_append absent _
    rw [earlierCut] at cut
    have sameFront : earlier = before :=
      congrArg Prod.fst (Option.some.inj cut)
    have sameLength := congrArg List.length beforeShape
    rw [sameFront, List.length_append, List.length_cons] at sameLength
    omega
  · intro given
    obtain ⟨rfl, absent⟩ := given
    exact cutAtFirst?_append absent after

theorem cutAtLast?_eq_none_iff {text : List Char} :
    cutAtLast? separator text = none ↔ separator ∉ text := by
  induction text with
  | nil => simp [cutAtLast?]
  | cons c rest inductionHypothesis =>
      rw [cutAtLast?]
      cases cut : cutAtLast? separator rest with
      | some parts =>
          have shape : rest = parts.1 ++ separator :: parts.2 :=
            eq_append_of_cutAtLast? cut
          have present : separator ∈ rest := by
            rw [shape]
            simp
          simp [present]
      | none =>
          have absent := inductionHypothesis.mp cut
          by_cases same : c = separator
          · simp [same]
          · have different : separator ≠ c := fun equal => same equal.symm
            simp [same, different, absent]

theorem cutAtLast?_append {after : List Char} (before : List Char)
    (absent : separator ∉ after) :
    cutAtLast? separator (before ++ separator :: after) =
      some (before, after) := by
  induction before with
  | nil =>
      rw [List.nil_append, cutAtLast?,
        cutAtLast?_eq_none_iff.mpr absent]
      simp
  | cons c others inductionHypothesis =>
      rw [List.cons_append, cutAtLast?, inductionHypothesis]

theorem cutAtLast?_eq_some_iff {text before after : List Char} :
    cutAtLast? separator text = some (before, after) ↔
      text = before ++ separator :: after ∧ separator ∉ after := by
  constructor
  · intro cut
    have shape := eq_append_of_cutAtLast? cut
    refine ⟨shape, ?_⟩
    induction text generalizing before with
    | nil => simp [cutAtLast?] at cut
    | cons c rest inductionHypothesis =>
        rw [cutAtLast?] at cut
        cases cutRest : cutAtLast? separator rest with
        | some parts =>
            rw [cutRest] at cut
            cases cut
            exact inductionHypothesis cutRest
              (eq_append_of_cutAtLast? cutRest)
        | none =>
            have absent := cutAtLast?_eq_none_iff.mp cutRest
            simp only [cutRest] at cut
            split at cut
            · cases cut
              exact absent
            · cases cut
  · intro given
    obtain ⟨rfl, absent⟩ := given
    exact cutAtLast?_append before absent

/-! ## Pieces between single characters -/

theorem piecesAt_eq_splitOn (separator : Char) (text : List Char) :
    (piecesAt separator text).1 :: (piecesAt separator text).2 =
      text.splitOn separator := by
  induction text with
  | nil => simp [piecesAt]
  | cons c rest inductionHypothesis =>
      rw [List.splitOn_eq_splitOnP] at inductionHypothesis ⊢
      rw [List.splitOnP_cons_eq_if_modifyHead]
      by_cases same : c = separator
      · simp [piecesAt, same, ← inductionHypothesis]
      · simp [piecesAt, same, ← inductionHypothesis]

theorem length_piecesAt (separator : Char) (text : List Char) :
    (piecesAt separator text).2.length = text.count separator := by
  induction text with
  | nil => rfl
  | cons c rest inductionHypothesis =>
      by_cases same : c = separator
      · simp [piecesAt, same, inductionHypothesis]
      · simp [piecesAt, same, inductionHypothesis]

theorem length_splitOn (separator : Char) (text : List Char) :
    (text.splitOn separator).length = text.count separator + 1 := by
  rw [← piecesAt_eq_splitOn, List.length_cons, length_piecesAt]

theorem notMem_of_mem_splitOn {text piece : List Char}
    (member : piece ∈ text.splitOn separator) : separator ∉ piece := by
  induction text generalizing piece with
  | nil => simp_all
  | cons c rest inductionHypothesis =>
      rw [List.splitOn_cons_eq_if_modifyHead] at member
      by_cases same : c = separator
      · rw [if_pos (by simp [same]), List.mem_cons] at member
        rcases member with rfl | inRest
        · simp
        · exact inductionHypothesis inRest
      · obtain ⟨first, others, shape⟩ :=
          List.exists_cons_of_ne_nil (List.splitOn_ne_nil separator rest)
        rw [if_neg (by simp [same]), shape, List.modifyHead_cons,
          List.mem_cons] at member
        rcases member with rfl | inOthers
        · have absent : separator ∉ first :=
            inductionHypothesis (by simp [shape])
          simp [absent, Ne.symm same]
        · exact inductionHypothesis (by simp [shape, inOthers])

theorem isInfix_intercalate {texts : List (List Char)} {text : List Char}
    (member : text ∈ texts) : text <:+: [separator].intercalate texts := by
  induction texts with
  | nil => simp at member
  | cons first others inductionHypothesis =>
      cases others with
      | nil =>
          rw [List.mem_singleton.mp member, List.intercalate_singleton]
      | cons next others =>
          rw [List.intercalate_cons_cons]
          rcases List.mem_cons.mp member with rfl | inOthers
          · rw [List.append_assoc]
            exact (List.prefix_append _ _).isInfix
          · exact (inductionHypothesis inOthers).trans
              (List.suffix_append _ _).isInfix

theorem mem_intercalate_list {between : List Char}
    {texts : List (List Char)} {c : Char}
    (member : c ∈ between.intercalate texts) :
    c ∈ between ∨ ∃ text ∈ texts, c ∈ text := by
  induction texts with
  | nil => simp at member
  | cons first others inductionHypothesis =>
      cases others with
      | nil =>
          rw [List.intercalate_singleton] at member
          exact Or.inr ⟨first, List.mem_cons_self, member⟩
      | cons next others =>
          rw [List.intercalate_cons_cons, List.append_assoc,
            List.mem_append, List.mem_append] at member
          rcases member with inFirst | inBetween | inOthers
          · exact Or.inr ⟨first, List.mem_cons_self, inFirst⟩
          · exact Or.inl inBetween
          · rcases inductionHypothesis inOthers with
              inBetween | ⟨text, inTexts, inText⟩
            · exact Or.inl inBetween
            · exact Or.inr
                ⟨text, List.mem_cons_of_mem first inTexts, inText⟩

theorem mem_intercalate {texts : List (List Char)} {c : Char}
    (member : c ∈ [separator].intercalate texts) :
    c = separator ∨ ∃ text ∈ texts, c ∈ text :=
  (mem_intercalate_list member).imp_left List.mem_singleton.mp

theorem isInfix_of_mem_splitOn {text piece : List Char}
    (member : piece ∈ text.splitOn separator) : piece <:+: text := by
  have inJoined : piece <:+: [separator].intercalate (text.splitOn separator) :=
    isInfix_intercalate member
  rwa [List.intercalate_splitOn] at inJoined

/-! ## Pieces between arrows -/

/-- The separator of the arguments and the expected result. -/
def arrow : List Char :=
  ['=', '>']

/-- The number of arrows in a text, which never overlap. -/
def arrowCount (text : List Char) : Nat :=
  (text.zip text.tail).count ('=', '>')

theorem arrow_infix_cons_iff {c : Char} {rest : List Char} :
    arrow <:+: c :: rest ↔
      (c = '=' ∧ ∃ others, rest = '>' :: others) ∨ arrow <:+: rest := by
  rw [List.infix_cons_iff]
  apply or_congr_left
  constructor
  · intro given
    obtain ⟨others, shape⟩ := given
    obtain ⟨rfl, shapeRest⟩ := List.cons.inj shape
    exact ⟨rfl, others, shapeRest.symm⟩
  · intro given
    obtain ⟨rfl, others, rfl⟩ := given
    exact ⟨others, rfl⟩

/-- No arrow lies across a character that is no part of an arrow. -/
theorem arrow_infix_append_cons_iff {c : Char} (noEqual : c ≠ '=')
    (noGreater : c ≠ '>') {front rest : List Char} :
    arrow <:+: front ++ c :: rest ↔
      arrow <:+: front ∨ arrow <:+: rest := by
  induction front with
  | nil =>
      rw [List.nil_append, arrow_infix_cons_iff]
      simp [noEqual, arrow]
  | cons d others inductionHypothesis =>
      rw [List.cons_append, arrow_infix_cons_iff, arrow_infix_cons_iff,
        inductionHypothesis, or_assoc]
      apply or_congr_left
      cases others with
      | nil => simp [noGreater]
      | cons next others => simp

theorem arrowFree_intercalate (noEqual : separator ≠ '=')
    (noGreater : separator ≠ '>') {texts : List (List Char)}
    (free : ∀ text ∈ texts, ¬ arrow <:+: text) :
    ¬ arrow <:+: [separator].intercalate texts := by
  induction texts with
  | nil => simp [arrow]
  | cons first others inductionHypothesis =>
      have freeFirst := free first List.mem_cons_self
      have freeOthers := inductionHypothesis fun text member =>
        free text (List.mem_cons_of_mem first member)
      cases others with
      | nil => rwa [List.intercalate_singleton]
      | cons next others =>
          rw [List.intercalate_cons_cons, List.append_assoc,
            List.singleton_append,
            arrow_infix_append_cons_iff noEqual noGreater, not_or]
          exact ⟨freeFirst, freeOthers⟩

theorem piecesAtArrows_cons {c : Char} {rest : List Char}
    (unbroken : ∀ others, c = '=' → rest ≠ '>' :: others) :
    piecesAtArrows (c :: rest) =
      (c :: (piecesAtArrows rest).1, (piecesAtArrows rest).2) := by
  rw [piecesAtArrows]
  intro others atEqual shape
  exact unbroken others atEqual shape

theorem piecesAtArrows_of_arrowFree {text : List Char}
    (free : ¬ arrow <:+: text) : piecesAtArrows text = (text, []) := by
  induction text with
  | nil => rfl
  | cons c rest inductionHypothesis =>
      rw [arrow_infix_cons_iff, not_or] at free
      have unbroken : ∀ others, c = '=' → rest ≠ '>' :: others :=
        fun others atEqual shape => free.1 ⟨atEqual, others, shape⟩
      rw [piecesAtArrows_cons unbroken, inductionHypothesis free.2]

theorem piecesAtArrows_append {front : List Char}
    (free : ¬ arrow <:+: front) (rest : List Char) :
    piecesAtArrows (front ++ '=' :: '>' :: rest) =
      (front, (piecesAtArrows rest).1 :: (piecesAtArrows rest).2) := by
  induction front with
  | nil => simp [piecesAtArrows]
  | cons c others inductionHypothesis =>
      rw [arrow_infix_cons_iff, not_or] at free
      have unbroken :
          ∀ after, c = '=' → others ++ '=' :: '>' :: rest ≠ '>' :: after := by
        intro after atEqual shape
        cases others with
        | nil => simp at shape
        | cons next others =>
            have sameNext : next = '>' := (List.cons.inj shape).1
            exact free.1 ⟨atEqual, others, by rw [sameNext]⟩
      rw [List.cons_append, piecesAtArrows_cons unbroken,
        inductionHypothesis free.2]

/-- A text without arrow is its only piece, and any other text goes on behind
its first arrow. -/
theorem arrowFree_or_append (text : List Char) :
    ¬ arrow <:+: text ∨
      ∃ front rest, ¬ arrow <:+: front ∧
        text = front ++ '=' :: '>' :: rest := by
  induction text with
  | nil => exact Or.inl (by simp [arrow])
  | cons c others inductionHypothesis =>
      by_cases broken : c = '=' ∧ ∃ rest, others = '>' :: rest
      · obtain ⟨rfl, rest, rfl⟩ := broken
        exact Or.inr ⟨[], rest, by simp [arrow], rfl⟩
      · rcases inductionHypothesis with free | ⟨front, rest, free, shape⟩
        · exact Or.inl fun present =>
            (arrow_infix_cons_iff.mp present).elim broken free
        · refine Or.inr ⟨c :: front, rest, ?_, by rw [shape]; rfl⟩
          intro present
          rcases arrow_infix_cons_iff.mp present with
            ⟨atEqual, after, frontShape⟩ | inside
          · apply broken
            refine ⟨atEqual, after ++ '=' :: '>' :: rest, ?_⟩
            rw [shape, frontShape, List.cons_append]
          · exact free inside

theorem arrowCount_cons {c : Char} {rest : List Char}
    (unbroken : ∀ others, c = '=' → rest ≠ '>' :: others) :
    arrowCount (c :: rest) = arrowCount rest := by
  cases rest with
  | nil => rfl
  | cons next others =>
      have different : (c, next) ≠ ('=', '>') := by
        intro same
        obtain ⟨atEqual, sameNext⟩ := Prod.mk.inj same
        exact unbroken others atEqual (by rw [sameNext])
      rw [arrowCount, List.tail_cons, List.zip_cons_cons,
        List.count_cons_of_ne different, arrowCount, List.tail_cons]

/-- There is one more piece than there are arrows. -/
theorem length_piecesAtArrows (text : List Char) :
    (piecesAtArrows text).2.length = arrowCount text := by
  induction text using piecesAtArrows.induct with
  | case1 => rfl
  | case2 rest inductionHypothesis =>
      rw [piecesAtArrows, List.length_cons, inductionHypothesis]
      cases rest with
      | nil => rfl
      | cons c others => simp [arrowCount]
  | case3 c rest unbroken inductionHypothesis =>
      have unbrokenFlat : ∀ others, c = '=' → rest ≠ '>' :: others :=
        fun others atEqual shape => unbroken others atEqual shape
      rw [piecesAtArrows_cons unbrokenFlat, inductionHypothesis,
        arrowCount_cons unbrokenFlat]

/-! ## Occurrences -/

theorem occursIn_iff {part text : List Char} :
    occursIn part text = true ↔ part <:+: text := by
  induction text with
  | nil => simp [occursIn]
  | cons c rest inductionHypothesis =>
      rw [occursIn, Bool.or_eq_true, List.isPrefixOf_iff_prefix,
        inductionHypothesis, List.infix_cons_iff]

/-! ## Lines -/

theorem newline_notMem_of_mem_linesOf {text line : List Char}
    (member : line ∈ linesOf text) : '\n' ∉ line := by
  induction text using linesOf.induct generalizing line with
  | case1 => simp [linesOf] at member
  | case2 rest inductionHypothesis =>
      rw [linesOf, List.mem_cons] at member
      rcases member with rfl | inRest
      · simp
      · exact inductionHypothesis inRest
  | case3 c rest notNewline noLines inductionHypothesis =>
      have different : '\n' ≠ c := fun same => notNewline same.symm
      rw [linesOf, noLines] at member
      · simp_all
      · exact notNewline
  | case4 c rest notNewline first others someLines inductionHypothesis =>
      have different : '\n' ≠ c := fun same => notNewline same.symm
      rw [linesOf, someLines, List.mem_cons] at member
      · rcases member with rfl | inOthers
        · have absent : '\n' ∉ first :=
            inductionHypothesis (by simp [someLines])
          simp [different, absent]
        · exact inductionHypothesis (by simp [someLines, inOthers])
      · exact notNewline

theorem linesOf_of_newline_notMem {text : List Char}
    (nonempty : text ≠ []) (absent : '\n' ∉ text) :
    linesOf text = [text] := by
  induction text with
  | nil => exact absurd rfl nonempty
  | cons c rest inductionHypothesis =>
      have notNewline : c ≠ '\n' := fun same => absent (by simp [same])
      have absentRest : '\n' ∉ rest :=
        fun member => absent (List.mem_cons_of_mem c member)
      cases rest with
      | nil => simp [linesOf]
      | cons next others =>
          rw [linesOf, inductionHypothesis (by simp) absentRest]
          exact notNewline

theorem linesOf_cons {c : Char} {rest first : List Char}
    {others : List (List Char)} (notNewline : c ≠ '\n')
    (behind : linesOf rest = first :: others) :
    linesOf (c :: rest) = (c :: first) :: others := by
  rw [linesOf, behind]
  exact notNewline

theorem linesOf_ne_nil {text : List Char} (nonempty : text ≠ []) :
    linesOf text ≠ [] := by
  cases text with
  | nil => exact absurd rfl nonempty
  | cons c rest =>
      by_cases newline : c = '\n'
      · simp [newline, linesOf]
      · cases behind : linesOf rest with
        | nil =>
            rw [linesOf, behind]
            · simp
            · exact newline
        | cons first others => simp [linesOf_cons newline behind]

/-- A line feed ends a line, whatever stands before it. -/
theorem linesOf_append_newline (front rest : List Char) :
    linesOf (front ++ '\n' :: rest) =
      linesOf (front ++ ['\n']) ++ linesOf rest := by
  induction front with
  | nil => simp [linesOf]
  | cons c others inductionHypothesis =>
      by_cases newline : c = '\n'
      · simp [newline, linesOf, inductionHypothesis]
      · obtain ⟨first, lines, behind⟩ :=
          List.exists_cons_of_ne_nil
            (linesOf_ne_nil (List.concat_ne_nil '\n' others))
        have behindWhole : linesOf (others ++ '\n' :: rest) =
            first :: (lines ++ linesOf rest) := by
          rw [inductionHypothesis, behind, List.cons_append]
        rw [List.cons_append, List.cons_append, linesOf_cons newline behind,
          linesOf_cons newline behindWhole, List.cons_append]

theorem linesOf_concat_newline {line : List Char} (absent : '\n' ∉ line) :
    linesOf (line ++ ['\n']) = [line] := by
  induction line with
  | nil => rfl
  | cons c others inductionHypothesis =>
      rw [List.mem_cons, not_or] at absent
      exact linesOf_cons (Ne.symm absent.1) (inductionHypothesis absent.2)

end DocCheck
