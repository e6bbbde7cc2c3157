import DocCheck.Proofs.Decoration

/-!
# Lines of decoration only

A line that is only decoration, an opener, a leader and a closer at most with
blanks anywhere between them, has an empty content.  There is one exception:
where the short opener is closed at once, as in `/**/`, it is taken for the
long opener.  The closer has lost its star then, and its slash is left over
as the content of the line.
-/

namespace DocCheck

/-! ## Lines without a closer -/

namespace LeadsTo

/-- Blanks and a leader do not end like a closer: no leader has a star and a
slash. -/
theorem not_closer_suffix {text : List Char} (leads : LeadsTo text []) :
    ¬ closer <:+ text := by
  obtain ⟨front, leader, indent, blankFront, known, blankIndent, rfl⟩ :=
    leads
  intro closed
  have inLeader {c : Char} (inCloser : c ∈ closer)
      (notBlank : isBlank c = false) : c ∈ leader := by
    have member := closed.subset inCloser
    simp only [List.append_nil, List.mem_append] at member
    rcases member with (inFront | inLeader) | inIndent
    · exact absurd (blankFront c inFront) (by simp [notBlank])
    · exact inLeader
    · exact absurd (blankIndent c inIndent) (by simp [notBlank])
  have star : '*' ∈ leader := inLeader (by decide) (by decide)
  have slash : '/' ∈ leader := inLeader (by decide) (by decide)
  simp only [IsLeader, leaders, List.mem_cons, List.not_mem_nil,
    or_false] at known
  rcases known with rfl | rfl | rfl | rfl
  · cases star
  · exact absurd star (by decide)
  · exact absurd star (by decide)
  · exact absurd slash (by decide)

theorem trim_dropLeading_nil {text : List Char} (leads : LeadsTo text []) :
    trim (dropLeading leaders (trimStart text)) = [] := by
  rw [leads.trim_dropLeading (by simp) (by simp [IsUnmarked]), trim_nil]

end LeadsTo

namespace Decoration

variable {decoration : Decoration}

/-- Before the end of a line without content nothing but an opener and a
leader stands. -/
theorem WellFormed.leadsTo_nil (formed : decoration.WellFormed) :
    LeadsTo (dropLeading openers (trim decoration.front)) [] := by
  have known := formed.isLeader
  rw [front, trim_append_blank _ formed.indent.1]
  cases opens : decoration.opening with
  | none =>
      have trimmed : IsTrimmed (decoration.leader.getD []) := by
        rcases known with noLeader | isLeader
        · rw [noLeader]
          decide
        · exact isTrimmed_leader _ isLeader
      have unopened := @dropLeading_openers_of_leader
        (decoration.leader.getD []) [] known (by simp)
      rw [List.append_nil] at unopened
      rw [Option.elim_none, List.nil_append, trim_of_trimmed trimmed,
        unopened]
      exact ⟨[], _, [], by decide, known, by decide, by simp⟩
  | some opening =>
      obtain ⟨opener, blankGap, _⟩ := formed.opening opening opens
      rw [Option.elim_some]
      rcases known with noLeader | isLeader
      · have led : LeadsTo (dropLeading openers
            (opening.mark ++ ([] ++ [] ++ [] ++ []))) [] :=
          leadsTo_dropLeading_openers opener (by decide) (.inl rfl)
            (by decide) (by simp)
        rw [noLeader, List.append_nil, trim_append_blank _ blankGap,
          trim_of_trimmed (isTrimmed_opener _ opener)]
        simpa using led
      · have led : LeadsTo (dropLeading openers
            (opening.mark ++ (opening.gap ++ decoration.leader.getD [] ++
              [] ++ []))) [] :=
          leadsTo_dropLeading_openers opener blankGap (.inr isLeader)
            (by decide) (by simp)
        have trimmed : IsTrimmed
            (opening.mark ++ opening.gap ++ decoration.leader.getD []) := by
          apply (isTrimmed_leader _ isLeader).append_left
            (head_leader isLeader).1
          rw [List.head?_append_of_ne_nil _ (head_opener opener).1]
          exact (head_opener opener).2
        rw [trim_of_trimmed trimmed]
        simpa using led

/-! ## Lines with a closer -/

/-- A block that is closed right behind its short opener. -/
structure IsShortBlock (decoration : Decoration) : Prop where
  opening : decoration.opening = some ⟨['/', '*'], []⟩
  leader : decoration.leader = none
  indent : decoration.indent = []
  gap : decoration.gap = []
  closed : decoration.closed = true

/-- Where no content stands, the blanks before the closer may be counted to
those behind the leader. -/
theorem WellFormed.leadsTo_closer (formed : decoration.WellFormed)
    (closed : decoration.closed = true)
    (long : ¬ decoration.IsShortBlock) :
    LeadsTo
      (dropLeading openers
        (trim (decoration.front ++ (decoration.gap ++ closer))))
      closer := by
  let merged : Decoration :=
    { decoration with indent := decoration.indent ++ decoration.gap }
  have spacing : IsSpacing (decoration.indent ++ decoration.gap) := by
    obtain ⟨blankIndent, indentFree⟩ := formed.indent
    obtain ⟨blankGap, gapFree⟩ := formed.gap
    refine ⟨?_, by simp [indentFree, gapFree]⟩
    intro c member
    rcases List.mem_append.mp member with inIndent | inGap
    · exact blankIndent c inIndent
    · exact blankGap c inGap
  have mergedFormed : merged.WellFormed :=
    { formed with indent := spacing }
  have shape : decoration.front ++ (decoration.gap ++ closer) =
      merged.front ++ closer := by
    simp [merged, front]
  rw [shape]
  apply mergedFormed.leadsTo_rest isTrimmed_closer (by decide)
    (by simp [closer])
  -- Only a short block has nothing between its opener and its closer.
  intro short noLeader noBlanks
  obtain ⟨noIndent, noGap⟩ := List.append_eq_nil_iff.mp noBlanks
  have leaderless : decoration.leader = none := by
    cases leads : decoration.leader with
    | none => rfl
    | some leader =>
        have isLeader := formed.leader leader leads
        rw [show merged.leader = some leader from leads] at noLeader
        exact absurd noLeader (head_leader isLeader).1
  exact absurd ⟨short, leaderless, noIndent, noGap, closed⟩ long

/-! ## Contents -/

theorem WellFormed.undecorated_text_nil (formed : decoration.WellFormed)
    (long : ¬ decoration.IsShortBlock) :
    undecorated (decoration.text []) = [] := by
  simp only [undecorated, formed.trim_text, ending, List.nil_append]
  cases closed : decoration.closed with
  | true =>
      have leads := formed.leadsTo_closer closed long
      rw [if_pos rfl]
      exact (LeadsTo.dropTrailing_closer leads).trim_dropLeading_nil
  | false =>
      have leads := formed.leadsTo_nil
      rw [if_neg Bool.false_ne_true, List.append_nil,
        dropTrailing_of_not_suffix leads.not_closer_suffix]
      exact leads.trim_dropLeading_nil

theorem WellFormed.undecorated_text_of_isShortBlock
    (formed : decoration.WellFormed) (short : decoration.IsShortBlock) :
    undecorated (decoration.text []) = ['/'] := by
  obtain ⟨opening, leader, indent, gap, closed⟩ := short
  simp only [undecorated, formed.trim_text, ending, front, opening, leader,
    indent, gap, closed]
  decide

end Decoration

/-- A line of a comment that is only decoration keeps its number and has an
empty content, unless it is a short block, of which a slash is left. -/
theorem bare_decoration_leaves_no_content {comment : String} {place : Nat}
    {decoration : Decoration} (formed : decoration.WellFormed)
    (standing :
      (linesOf comment.toList)[place]? = some (decoration.text [])) :
    (¬ decoration.IsShortBlock →
      (Line.ofComment comment)[place]? = some ⟨place + 1, []⟩) ∧
    (decoration.IsShortBlock →
      (Line.ofComment comment)[place]? = some ⟨place + 1, ['/']⟩) := by
  rw [Line.getElem?_ofComment, standing, Option.map_some]
  constructor
  · intro long
    rw [formed.undecorated_text_nil long]
  · intro short
    rw [formed.undecorated_text_of_isShortBlock short]

/-- The closer stands right behind the star that leads its line. -/
theorem starred_closer_leaves_no_content :
    let comment := "/**\n * Adds one.\n\t**/ "
    let decoration : Decoration :=
      ⟨['\t'], none, some ['*'], [], [], true, [' ']⟩
    decoration.WellFormed ∧
    (linesOf comment.toList)[2]? = some (decoration.text []) ∧
    (Line.ofComment comment)[2]? = some ⟨3, []⟩ := by
  intro comment decoration
  have formed : decoration.WellFormed := by
    constructor <;> decide
  have standing :
      (linesOf comment.toList)[2]? = some (decoration.text []) := by
    decide
  have long : ¬ decoration.IsShortBlock := by
    rintro ⟨opening, _, _, _, _⟩
    cases opening
  exact ⟨formed, standing,
    (bare_decoration_leaves_no_content formed standing).1 long⟩

/-- An opener and a closer without anything between them are a line that is
only decoration, and still its content is not empty. -/
theorem short_block_leaves_slash :
    ∃ decoration : Decoration,
      decoration.WellFormed ∧
      (linesOf "/**/".toList)[0]? = some (decoration.text []) ∧
      Line.ofComment "/**/" = [⟨1, ['/']⟩] := by
  refine ⟨⟨[], some ⟨['/', '*'], []⟩, none, [], [], true, []⟩, ?_, ?_, ?_⟩
  · constructor <;> decide
  · decide
  · decide

end DocCheck
