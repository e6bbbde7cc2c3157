import DocCheck.Proofs.CommentLines
import DocCheck.Proofs.Layout

/-!
# The grammar of directives

A directive reads as an assertion exactly when what follows its marker has a
layout, and the assertion is that of the layout.  A text without a layout has
one of five faults; where several apply, the first counts.
-/

namespace DocCheck

namespace Assertion

/-! ## Kind and name -/

theorem readKind_of_ne_brace {text : List Char}
    (noBrace : ∀ rest, text ≠ '{' :: rest) :
    readKind text = .ok (none, text) := by
  unfold readKind
  split
  · next rest => exact absurd rfl (noBrace rest)
  · rfl

theorem readKind_of_opening {lead after : List Char}
    {kind : Option KindPart} (blankLead : IsBlankText lead)
    (formed : ∀ part ∈ kind, part.WellFormed)
    (atHead : ∀ c ∈ after.head?, isBlank c = false)
    (noBrace : kind = none → ∀ rest, after ≠ '{' :: rest) :
    readKind (trimStart (lead ++ (kind.elim [] KindPart.text ++ after))) =
      .ok (kind.map KindPart.value, after) := by
  rw [trimStart_blank_append blankLead]
  cases kind with
  | none =>
      rw [Option.elim_none, List.nil_append, trimStart_of_head atHead]
      exact readKind_of_ne_brace (noBrace rfl)
  | some part =>
      have partFormed := formed part rfl
      have notEmpty : (trim part.inner).isEmpty = false := by
        rw [List.isEmpty_eq_false_iff, ne_eq, trim_eq_nil_iff]
        exact partFormed.notBlank
      have started : trimStart (part.gap ++ after) = after := by
        rw [trimStart_blank_append partFormed.gap, trimStart_of_head atHead]
      have shape : part.text ++ after =
          '{' :: (part.inner ++ '}' :: (part.gap ++ after)) := by
        simp [KindPart.text]
      rw [Option.elim_some, shape, trimStart_of_head (by simp; decide)]
      simp only [readKind, cutAtFirst?_append partFormed.unclosed,
        notEmpty, started, Bool.false_eq_true, if_false, Option.map_some,
        KindPart.value]

theorem readName_of_word {text : List Char} (nonempty : text ≠ [])
    (noDash : text.head? ≠ some '-') :
    readName text =
      (some (String.ofList (firstWord text)),
        trimStart (afterFirstWord text)) := by
  unfold readName
  split
  · exact absurd rfl nonempty
  · exact absurd rfl noDash
  · rfl

theorem readName_append {name : Option NamePart}
    (formed : ∀ part ∈ name, part.WellFormed) (sections : List Char) :
    readName (name.elim [] NamePart.text ++ '-' :: sections) =
      (name.map NamePart.value, '-' :: sections) := by
  cases name with
  | none => rfl
  | some part =>
      have partFormed := formed part rfl
      have shape : part.text ++ '-' :: sections =
          part.word ++ (part.gap ++ '-' :: sections) := by
        simp [NamePart.text]
      have sameHead : (part.text ++ '-' :: sections).head? =
          part.word.head? := by
        rw [shape, List.head?_append_of_ne_nil _ partFormed.nonempty]
      have word : firstWord (part.text ++ '-' :: sections) = part.word := by
        rw [shape]
        exact takeWhile_append_of_boundary partFormed.word_inside
          (partFormed.gap_stops _)
      have afterWord : trimStart (afterFirstWord
          (part.text ++ '-' :: sections)) = '-' :: sections := by
        rw [shape, afterFirstWord,
          dropWhile_append_of_boundary partFormed.word_inside
            (partFormed.gap_stops _),
          trimStart_blank_append partFormed.gap]
        exact trimStart_of_head (by simp; decide)
      rw [Option.elim_some, readName_of_word (by simp)
        (sameHead ▸ partFormed.noDash), word, afterWord]
      rfl

theorem read_of_head (arity : Nat) {head : Head}
    (formed : head.WellFormed) (sections : List Char) :
    read arity (head.text ++ '-' :: sections) =
      readSections arity (head.kind.map KindPart.value)
        (head.name.map NamePart.value) sections := by
  have opening :=
    readKind_of_opening formed.lead formed.kind
      (formed.head_afterKind sections)
      fun noKind => formed.afterKind_ne_brace noKind sections
  rw [Head.text_append, read, opening]
  simp only [Head.afterKind, readName_append formed.name]

/-! ## Arguments and expected result -/

theorem readArguments_eq (arity : Nat) (layout : Layout) :
    readArguments arity layout.arguments = layout.argumentTokens arity := by
  simp only [readArguments, Layout.argumentTokens, List.isEmpty_iff,
    trim_eq_nil_iff, piecesAt_eq_splitOn, Token.blank]

theorem readSections_eq_ok_iff {arity : Nat} {kind name : Option String}
    {sections : List Char} {assertion : Assertion} :
    readSections arity kind name sections = .ok assertion ↔
      ∃ arguments expected,
        ¬ arrow <:+: arguments ∧ ¬ arrow <:+: expected ∧
        sections = arguments ++ '=' :: '>' :: expected ∧
        assertion = ⟨kind, name, readArguments arity arguments,
          Token.parse expected⟩ := by
  constructor
  · intro reading
    rcases arrowFree_or_append sections with
      free | ⟨arguments, rest, freeArguments, rfl⟩
    · rw [readSections, piecesAtArrows_of_arrowFree free] at reading
      cases reading
    · rw [readSections, piecesAtArrows_append freeArguments] at reading
      rcases arrowFree_or_append rest with
        freeRest | ⟨expected, others, freeExpected, rfl⟩
      · rw [piecesAtArrows_of_arrowFree freeRest] at reading
        exact ⟨arguments, rest, freeArguments, freeRest, rfl,
          (Except.ok.inj reading).symm⟩
      · rw [piecesAtArrows_append freeExpected] at reading
        cases reading
  · intro given
    obtain ⟨arguments, expected, freeArguments, freeExpected, rfl, rfl⟩ := given
    rw [readSections, piecesAtArrows_append freeArguments,
      piecesAtArrows_of_arrowFree freeExpected]

theorem readSections_eq_error_iff {arity : Nat}
    {kind name : Option String} {sections : List Char} {fault : Fault} :
    readSections arity kind name sections = .error fault ↔
      (arrowCount sections = 0 ∧ fault = .missingArrow) ∨
        (2 ≤ arrowCount sections ∧
          fault = .multipleArrows (arrowCount sections)) := by
  rw [readSections, ← length_piecesAtArrows]
  match piecesAtArrows sections with
  | (_, []) => simp [eq_comm]
  | (_, [_]) => simp
  | (_, _ :: _ :: _) => simp [eq_comm]

end Assertion

/-! ## Faults -/

/-- The texts behind the marker to which a fault applies. -/
inductive Fault.Applies (body : List Char) : Fault → Prop
  | unclosedKind {lead rest : List Char} :
      IsBlankText lead → body = lead ++ '{' :: rest → '}' ∉ rest →
      Applies body .unclosedKind
  | emptyKind {lead inner rest : List Char} :
      IsBlankText lead → body = lead ++ '{' :: (inner ++ '}' :: rest) →
      IsBlankText inner →
      Applies body .emptyKind
  | missingDash :
      (∀ (head : Head) (sections : List Char), head.WellFormed →
        body ≠ head.text ++ '-' :: sections) →
      Applies body .missingDash
  | missingArrow {head : Head} {sections : List Char} :
      head.WellFormed → body = head.text ++ '-' :: sections →
      arrowCount sections = 0 →
      Applies body .missingArrow
  | multipleArrows {head : Head} {sections : List Char} {count : Nat} :
      head.WellFormed → body = head.text ++ '-' :: sections →
      arrowCount sections = count → 2 ≤ count →
      Applies body (.multipleArrows count)

/-- The order in which faults count. -/
def Fault.rank : Fault → Nat
  | unclosedKind => 0
  | emptyKind => 1
  | missingDash => 2
  | missingArrow => 3
  | multipleArrows _ => 4

namespace Assertion

variable {arity : Nat} {body : List Char}

theorem read_of_applies {fault : Fault} (applies : fault.Applies body)
    (shown : fault ≠ .missingDash) : read arity body = .error fault := by
  cases applies with
  | unclosedKind blankLead shape unclosed =>
      rw [read, shape, trimStart_blank_append blankLead,
        trimStart_of_head (by simp; decide)]
      simp only [readKind, cutAtFirst?_eq_none_iff.mpr unclosed]
  | @emptyKind lead inner rest blankLead shape blankInner =>
      have unclosed : '}' ∉ inner := by
        intro member
        exact absurd (blankInner '}' member) (by decide)
      rw [read, shape, trimStart_blank_append blankLead,
        trimStart_of_head (by simp; decide)]
      simp [readKind, cutAtFirst?_append unclosed,
        trim_eq_nil_iff.mpr blankInner]
  | missingDash _ => exact absurd rfl shown
  | missingArrow formed shape none =>
      rw [shape, read_of_head arity formed, readSections_eq_error_iff]
      exact Or.inl ⟨none, rfl⟩
  | multipleArrows formed shape count several =>
      rw [shape, read_of_head arity formed, readSections_eq_error_iff,
        count]
      exact Or.inr ⟨several, rfl⟩

/-- A text before which no kind is left begins with a name and a dash, or
else no dash follows its name. -/
theorem exists_name_or_no_dash {text : List Char}
    (atHead : ∀ c ∈ text.head?, isBlank c = false) :
    (∃ (name : Option NamePart) (sections : List Char),
      (∀ part ∈ name, part.WellFormed ∧ part.word.head? = text.head?) ∧
      text = name.elim [] NamePart.text ++ '-' :: sections) ∨
    ∀ sections, (readName text).2 ≠ '-' :: sections := by
  by_cases nonempty : text = []
  · right
    simp [nonempty, readName]
  by_cases dash : text.head? = some '-'
  · left
    obtain ⟨sections, rfl⟩ := List.head?_eq_some_iff.mp dash
    exact ⟨none, sections, by simp, rfl⟩
  rw [readName_of_word nonempty dash]
  by_cases goesOn :
      ∃ sections, trimStart (afterFirstWord text) = '-' :: sections
  · left
    obtain ⟨sections, started⟩ := goesOn
    obtain ⟨gap, blankGap, split⟩ :=
      exists_blank_append_trimStart (afterFirstWord text)
    rw [started] at split
    have formed : NamePart.WellFormed ⟨firstWord text, gap⟩ :=
      NamePart.wellFormed_firstWord nonempty atHead dash blankGap split
    refine ⟨some ⟨firstWord text, gap⟩, sections, ?_, ?_⟩
    · intro part member
      cases member
      exact ⟨formed, head_firstWord nonempty atHead⟩
    · rw [Option.elim_some, NamePart.text, List.append_assoc, ← split]
      exact (firstWord_append_afterFirstWord text).symm
  · right
    intro sections started
    exact goesOn ⟨sections, started⟩

theorem read_of_opening (arity : Nat) {lead after : List Char}
    {kind : Option KindPart} (blankLead : IsBlankText lead)
    (formed : ∀ part ∈ kind, part.WellFormed)
    (atHead : ∀ c ∈ after.head?, isBlank c = false)
    (noBrace : kind = none → ∀ rest, after ≠ '{' :: rest)
    (shape : body = lead ++ (kind.elim [] KindPart.text ++ after)) :
    read arity body = .error .missingDash ∨
      ∃ (head : Head) (sections : List Char), head.WellFormed ∧
        body = head.text ++ '-' :: sections := by
  rcases exists_name_or_no_dash atHead with
    ⟨name, sections, nameFormed, rfl⟩ | noDash
  · right
    refine ⟨⟨lead, kind, name⟩, sections, ?_, ?_⟩
    · refine ⟨blankLead, formed, ?_, ?_⟩
      · intro part member
        exact (nameFormed part member).1
      · intro noKind part member braced
        rw [(nameFormed part member).2] at braced
        obtain ⟨rest, same⟩ := List.head?_eq_some_iff.mp braced
        exact noBrace noKind rest same
    · rw [shape, Head.text_append, Head.afterKind]
  · left
    rw [read, shape,
      readKind_of_opening blankLead formed atHead noBrace]
    -- Only the last case of the match is left open by `noDash`.
    simp only

/-- A text has a fault of its kind or no dash, or else it has the head of a
layout. -/
theorem read_cases (arity : Nat) (body : List Char) :
    Fault.unclosedKind.Applies body ∨ Fault.emptyKind.Applies body ∨
      read arity body = .error .missingDash ∨
      ∃ (head : Head) (sections : List Char), head.WellFormed ∧
        body = head.text ++ '-' :: sections := by
  obtain ⟨lead, blankLead, split⟩ := exists_blank_append_trimStart body
  by_cases braced : ∃ rest, trimStart body = '{' :: rest
  · obtain ⟨rest, started⟩ := braced
    rw [started] at split
    cases cut : cutAtFirst? '}' rest with
    | none =>
        have unclosed : '}' ∉ rest := cutAtFirst?_eq_none_iff.mp cut
        exact Or.inl (.unclosedKind blankLead split unclosed)
    | some parts =>
        obtain ⟨inner, after⟩ := parts
        obtain ⟨rfl, unclosed⟩ := cutAtFirst?_eq_some_iff.mp cut
        by_cases blankInner : IsBlankText inner
        · exact Or.inr (Or.inl (.emptyKind blankLead split blankInner))
        · obtain ⟨gap, blankGap, splitAfter⟩ :=
            exists_blank_append_trimStart after
          have formed : KindPart.WellFormed ⟨inner, gap⟩ :=
            ⟨unclosed, blankInner, blankGap⟩
          have shape : body = lead ++ ((some ⟨inner, gap⟩ : Option
              KindPart).elim [] KindPart.text ++ trimStart after) := by
            rw [split]
            simp [KindPart.text, ← splitAfter]
          refine Or.inr (Or.inr (read_of_opening arity blankLead ?_
            (head_trimStart after) (by simp) shape))
          intro part member
          cases member
          exact formed
  · have noBrace : ∀ rest, trimStart body ≠ '{' :: rest :=
      fun rest started => braced ⟨rest, started⟩
    have shape : body = lead ++ ((none : Option KindPart).elim []
        KindPart.text ++ trimStart body) := split
    exact Or.inr (Or.inr (read_of_opening arity blankLead (by simp)
      (head_trimStart body) (fun _ => noBrace) shape))

/-! ## Readings -/

/-- A text reads as an assertion exactly when it has a layout. -/
theorem read_eq_ok_iff {assertion : Assertion} :
    read arity body = .ok assertion ↔
      ∃ layout : Layout, layout.WellFormed ∧ body = layout.text ∧
        assertion = layout.assertion arity := by
  constructor
  · intro reading
    rcases read_cases arity body with
      unclosed | empty | noDash | ⟨head, sections, formed, rfl⟩
    · rw [read_of_applies unclosed (by simp)] at reading
      cases reading
    · rw [read_of_applies empty (by simp)] at reading
      cases reading
    · rw [noDash] at reading
      cases reading
    · rw [read_of_head arity formed, readSections_eq_ok_iff] at reading
      obtain ⟨arguments, expected, freeArguments, freeExpected, rfl, rfl⟩ :=
        reading
      let layout : Layout := ⟨head, arguments, expected⟩
      refine ⟨layout, ⟨formed, freeArguments, freeExpected⟩, rfl, ?_⟩
      rw [Layout.assertion, ← readArguments_eq]
  · intro given
    obtain ⟨layout, formed, rfl, rfl⟩ := given
    rw [Layout.text, read_of_head arity formed.head,
      readSections_eq_ok_iff]
    refine ⟨layout.arguments, layout.expected, formed.arguments,
      formed.expected, rfl, ?_⟩
    rw [readArguments_eq, Layout.assertion]

theorem applies_of_read_eq_error {fault : Fault}
    (reading : read arity body = .error fault) : fault.Applies body := by
  rcases read_cases arity body with
    unclosed | empty | noDash | ⟨head, sections, formed, rfl⟩
  · rw [read_of_applies unclosed (by simp)] at reading
    obtain rfl := Except.error.inj reading
    exact unclosed
  · rw [read_of_applies empty (by simp)] at reading
    obtain rfl := Except.error.inj reading
    exact empty
  · rw [noDash] at reading
    obtain rfl := Except.error.inj reading
    refine .missingDash ?_
    intro head sections formed shape
    rw [shape, read_of_head arity formed, readSections_eq_error_iff]
      at noDash
    simp at noDash
  · rw [read_of_head arity formed, readSections_eq_error_iff] at reading
    rcases reading with ⟨noArrow, rfl⟩ | ⟨several, rfl⟩
    · exact .missingArrow formed rfl noArrow
    · exact .multipleArrows formed rfl rfl several

/-- Where no head stands before a dash, the dash is missing, unless the kind
has a fault that counts first. -/
theorem exists_read_of_missingDash (arity : Nat)
    (applies : Fault.missingDash.Applies body) :
    ∃ fault : Fault, read arity body = .error fault ∧
      fault.rank ≤ Fault.missingDash.rank := by
  rcases read_cases arity body with
    unclosed | empty | noDash | ⟨head, sections, formed, shape⟩
  · exact ⟨_, read_of_applies unclosed (by simp), by decide⟩
  · exact ⟨_, read_of_applies empty (by simp), by decide⟩
  · exact ⟨_, noDash, Nat.le_refl _⟩
  · cases applies with
    | missingDash noHead => exact absurd shape (noHead head sections formed)

/-- A text reads as the first fault that applies to it. -/
theorem read_eq_error_iff {fault : Fault} :
    read arity body = .error fault ↔
      fault.Applies body ∧
        ∀ other : Fault, other.Applies body → fault.rank ≤ other.rank := by
  constructor
  · intro reading
    refine ⟨applies_of_read_eq_error reading, ?_⟩
    intro other otherApplies
    by_cases shown : other = .missingDash
    · rw [shown] at otherApplies ⊢
      obtain ⟨first, firstReading, below⟩ :=
        exists_read_of_missingDash arity otherApplies
      obtain rfl := Except.error.inj (reading.symm.trans firstReading)
      exact below
    · have otherReading : read arity body = .error other :=
        read_of_applies otherApplies shown
      obtain rfl := Except.error.inj (reading.symm.trans otherReading)
      exact Nat.le_refl _
  · intro given
    obtain ⟨applies, first⟩ := given
    by_cases shown : fault = .missingDash
    · rw [shown] at applies first ⊢
      obtain ⟨other, reading, below⟩ :=
        exists_read_of_missingDash arity applies
      have above := first other (applies_of_read_eq_error reading)
      have sameRank : other.rank = Fault.missingDash.rank :=
        Nat.le_antisymm below above
      cases other with
      | missingDash => exact reading
      | _ => exact absurd sameRank (by simp [Fault.rank])
    · exact read_of_applies applies shown

end Assertion

/-- Every directive line has one directive.  It asserts what the only layout
of its text gives, and without a layout it has the first fault that
applies. -/
theorem directive_reads_by_grammar (arity : Nat) {comment : String}
    {line : Line} {body : List Char} (member : line ∈ Line.ofComment comment)
    (shape : line.content = Directive.marker ++ body)
    (ends : WordEnds body) :
    ∃ directive ∈ Directive.ofComment arity comment,
      directive.line = line.number ∧
      (∀ other ∈ Directive.ofComment arity comment,
        other.line = line.number → other = directive) ∧
      (∀ assertion, directive.reading = .ok assertion ↔
        ∃ layout : Layout, layout.WellFormed ∧ body = layout.text ∧
          assertion = layout.assertion arity) ∧
      (∀ layout other : Layout, layout.WellFormed → other.WellFormed →
        body = layout.text → body = other.text → other = layout) ∧
      ∀ fault : Fault, directive.reading = .error fault ↔
        fault.Applies body ∧
          ∀ other : Fault, other.Applies body →
            fault.rank ≤ other.rank := by
  obtain ⟨ordinal, standing⟩ :=
    Directive.exists_mem_ofComment arity member shape ends
  refine ⟨Directive.ofLine arity line body ordinal, standing, rfl, ?_, ?_,
    ?_, ?_⟩
  · intro other otherMember sameLine
    exact Directive.eq_of_line_eq otherMember standing sameLine
  · intro assertion
    exact Assertion.read_eq_ok_iff
  · intro layout other formed otherFormed layoutShape otherShape
    exact Layout.text_inj otherFormed formed
      (otherShape.symm.trans layoutShape)
  · intro fault
    exact Assertion.read_eq_error_iff

/-- A directive whose name holds an arrow, on the second line of a block. -/
theorem directive_with_kind_and_name_reads_by_grammar :
    (⟨2, "@assert \x7bK\x7d a=>b - 1, 2 => -3".toList⟩ : Line) ∈
        Line.ofComment "/**\n * @assert \x7bK\x7d a=>b - 1, 2 => -3\n */" ∧
      WordEnds " \x7bK\x7d a=>b - 1, 2 => -3".toList ∧
      ∃ directive ∈ Directive.ofComment 2
          "/**\n * @assert \x7bK\x7d a=>b - 1, 2 => -3\n */",
        directive.line = 2 ∧
        directive.reading = .ok
          ⟨some "K", some "a=>b", [⟨"1", none⟩, ⟨"2", none⟩],
            ⟨"-3", none⟩⟩ := by
  have member : (⟨2, "@assert \x7bK\x7d a=>b - 1, 2 => -3".toList⟩ : Line) ∈
      Line.ofComment "/**\n * @assert \x7bK\x7d a=>b - 1, 2 => -3\n */" := by
    decide
  have ends : WordEnds " \x7bK\x7d a=>b - 1, 2 => -3".toList := by
    intro c given
    cases given
    exact Or.inl (by decide)
  obtain ⟨directive, inComment, atLine, _, reads, _⟩ :=
    directive_reads_by_grammar 2 member (by decide) ends
  refine ⟨member, ends, directive, inComment, atLine, ?_⟩
  let head : Head :=
    ⟨[' '], some ⟨['K'], [' ']⟩, some ⟨['a', '=', '>', 'b'], [' ']⟩⟩
  have headFormed : head.WellFormed := by
    refine ⟨by decide, ?_, ?_, by simp [head]⟩
    · intro part given
      cases given
      exact ⟨by decide, by decide, by decide⟩
    · intro part given
      cases given
      refine ⟨by decide, ?_, by decide, by decide, by decide⟩
      simp
      decide
  apply (reads _).mpr
  exact ⟨⟨head, [' ', '1', ',', ' ', '2', ' '], [' ', '-', '3']⟩,
    ⟨headFormed, by decide, by decide⟩, by decide, by decide⟩

end DocCheck
