import DocCheck.Comment.Documentation
import DocCheck.Proofs.CommentLines

/-!
# Decoration of comments

A content may be written on its line with blanks, an opener, a leader and a
closer around it, and the line may end in either way.  As long as the content
itself neither begins nor ends like a mark of decoration, none of this
changes what is read: every line gives back its content and its number.
-/

namespace DocCheck

/-! ## Decorated lines -/

/-- The mark that opens a block and the blanks behind it. -/
structure Opening where
  mark : List Char
  gap : List Char

/-- What stands around the content of a line. -/
structure Decoration where
  lead : List Char
  opening : Option Opening
  leader : Option (List Char)
  indent : List Char
  gap : List Char
  closed : Bool
  trail : List Char

/-- Blanks within a line. -/
def IsSpacing (text : List Char) : Prop :=
  IsBlankText text ∧ '\n' ∉ text

instance (text : List Char) : Decidable (IsSpacing text) :=
  inferInstanceAs (Decidable (_ ∧ _))

namespace Decoration

/-- The decoration before a content, without the outer blanks. -/
def front (decoration : Decoration) : List Char :=
  decoration.opening.elim [] (fun opening => opening.mark ++ opening.gap) ++
    decoration.leader.getD [] ++ decoration.indent

/-- The closer and the blanks before it, if there is one. -/
def back (decoration : Decoration) : List Char :=
  if decoration.closed then decoration.gap ++ closer else decoration.gap

/-- The line with a content. -/
def text (decoration : Decoration) (content : List Char) : List Char :=
  decoration.lead ++ decoration.front ++ content ++ decoration.back ++
    decoration.trail

structure WellFormed (decoration : Decoration) : Prop where
  lead : IsSpacing decoration.lead
  opening :
    ∀ opening ∈ decoration.opening,
      opening.mark ∈ openers ∧ IsSpacing opening.gap
  leader : ∀ leader ∈ decoration.leader, leader ∈ leaders
  indent : IsSpacing decoration.indent
  gap : IsSpacing decoration.gap
  trail : IsSpacing decoration.trail

end Decoration

/-- A text that does not begin with a character of a mark. -/
def IsUnmarked (text : List Char) : Prop :=
  ∀ c ∈ text.head?, c ≠ '*' ∧ c ≠ '/'

instance (text : List Char) : Decidable (IsUnmarked text) :=
  Option.decidableForallMem text.head?

/-- A content that is not taken for decoration at either end. -/
structure IsPlain (content : List Char) : Prop where
  nonempty : content ≠ []
  trimmed : IsTrimmed content
  newlineFree : '\n' ∉ content
  unmarked : IsUnmarked content
  unclosed : ¬ closer <:+ content

/-! ## Marks before a content -/

/-- One of the leaders, or none. -/
def IsLeader (leader : List Char) : Prop :=
  leader = [] ∨ leader ∈ leaders

theorem IsUnmarked.blank_append {front text : List Char}
    (unmarked : IsUnmarked text) (blank : IsBlankText front) :
    IsUnmarked (front ++ text) := by
  cases front with
  | nil => exact unmarked
  | cons c others =>
      intro first given
      cases given
      have blankHead := blank c List.mem_cons_self
      constructor <;> rintro rfl <;> revert blankHead <;> decide

theorem head_leader {leader : List Char} (known : leader ∈ leaders) :
    leader ≠ [] ∧ ∀ c ∈ leader.head?, isBlank c = false := by
  simp only [leaders, List.mem_cons, List.not_mem_nil, or_false] at known
  rcases known with rfl | rfl | rfl <;> simp <;> decide

theorem head_opener {mark : List Char} (known : mark ∈ openers) :
    mark ≠ [] ∧ ∀ c ∈ mark.head?, isBlank c = false := by
  simp only [openers, List.mem_cons, List.not_mem_nil, or_false] at known
  rcases known with rfl | rfl <;> simp <;> decide

theorem isTrimmed_opener : ∀ mark ∈ openers, IsTrimmed mark := by
  decide

theorem isTrimmed_leader : ∀ leader ∈ leaders, IsTrimmed leader := by
  decide

theorem isTrimmed_closer : IsTrimmed closer := by
  decide

theorem dropLeading_leaders {leader rest : List Char}
    (known : IsLeader leader) (unmarked : IsUnmarked rest) :
    dropLeading leaders (leader ++ rest) = rest := by
  simp only [IsLeader, leaders, List.mem_cons, List.not_mem_nil,
    or_false] at known
  cases rest with
  | nil =>
      rcases known with rfl | rfl | rfl | rfl <;> decide
  | cons c others =>
      obtain ⟨noStar, noSlash⟩ := unmarked c rfl
      rcases known with rfl | rfl | rfl | rfl <;>
        simp [dropLeading, leaders, List.isPrefixOf?, Ne.symm noStar,
          Ne.symm noSlash]

/-- No leader is taken for an opener. -/
theorem dropLeading_openers_of_leader {leader rest : List Char}
    (known : IsLeader leader) (noSlash : ∀ c ∈ rest.head?, c ≠ '/') :
    dropLeading openers (leader ++ rest) = leader ++ rest := by
  simp only [IsLeader, leaders, List.mem_cons, List.not_mem_nil,
    or_false] at known
  cases rest with
  | nil =>
      rcases known with rfl | rfl | rfl | rfl <;> decide
  | cons c others =>
      have different : c ≠ '/' := noSlash c rfl
      rcases known with rfl | rfl | rfl | rfl <;>
        simp [dropLeading, openers, List.isPrefixOf?, different.symm]

/-- A text that goes over into a rest, with blanks and at most one leader
before it. -/
def LeadsTo (text rest : List Char) : Prop :=
  ∃ front leader indent, IsBlankText front ∧ IsLeader leader ∧
    IsBlankText indent ∧ text = front ++ leader ++ indent ++ rest

/-- Only an opener is taken off, together with a star right behind it.  This
star has to be a leader: the rest must not begin with it. -/
theorem leadsTo_dropLeading_openers {mark gap leader indent rest : List Char}
    (opener : mark ∈ openers) (blankGap : IsBlankText gap)
    (known : IsLeader leader) (blankIndent : IsBlankText indent)
    (starLeads :
      mark = ['/', '*'] → gap = [] → leader = [] → indent = [] →
        rest.head? ≠ some '*') :
    LeadsTo
      (dropLeading openers (mark ++ (gap ++ leader ++ indent ++ rest)))
      rest := by
  have starNotBlank : isBlank '*' = false := by decide
  simp only [openers, List.mem_cons, List.not_mem_nil, or_false] at opener
  rcases opener with rfl | rfl
  · refine ⟨gap, leader, indent, blankGap, known, blankIndent, ?_⟩
    simp [dropLeading, openers, List.isPrefixOf?]
  · by_cases star : (gap ++ leader ++ indent ++ rest).head? = some '*'
    · -- The star of the leader stands right behind the opener.
      have atGap : (gap ++ (leader ++ indent ++ rest)).head? = some '*' := by
        simpa only [List.append_assoc] using star
      have noGap : gap = [] := blankGap.eq_nil_of_head atGap starNotBlank
      have starLeader : leader = ['*'] := by
        simp only [IsLeader, leaders, List.mem_cons, List.not_mem_nil,
          or_false] at known
        rcases known with rfl | rfl | rfl | rfl
        · rw [noGap, List.nil_append, List.nil_append] at star
          have noIndent : indent = [] :=
            blankIndent.eq_nil_of_head star starNotBlank
          rw [noIndent, List.nil_append] at star
          exact absurd star (starLeads rfl noGap rfl noIndent)
        · simp [noGap] at star
        · simp [noGap] at star
        · rfl
      refine ⟨[], [], indent, by decide, .inl rfl, blankIndent, ?_⟩
      simp [noGap, starLeader, dropLeading, openers, List.isPrefixOf?]
    · refine ⟨gap, leader, indent, blankGap, known, blankIndent, ?_⟩
      cases behind : gap ++ leader ++ indent ++ rest with
      | nil => simp [dropLeading, openers, List.isPrefixOf?]
      | cons c others =>
          have noStar : c ≠ '*' := by
            rintro rfl
            exact star (by rw [behind]; rfl)
          simp [dropLeading, openers, List.isPrefixOf?, Ne.symm noStar]

namespace LeadsTo

variable {text rest : List Char}

theorem dropTrailing_closer (leads : LeadsTo text (rest ++ closer)) :
    LeadsTo (dropTrailing closer text) rest := by
  obtain ⟨front, leader, indent, blankFront, known, blankIndent, rfl⟩ :=
    leads
  refine ⟨front, leader, indent, blankFront, known, blankIndent, ?_⟩
  rw [← List.append_assoc, dropTrailing_append]

theorem trim_dropLeading (leads : LeadsTo text rest)
    (atHead : ∀ c ∈ rest.head?, isBlank c = false)
    (unmarked : IsUnmarked rest) :
    trim (dropLeading leaders (trimStart text)) = trim rest := by
  obtain ⟨front, leader, indent, blankFront, known, blankIndent, rfl⟩ :=
    leads
  rw [List.append_assoc, List.append_assoc,
    trimStart_blank_append blankFront]
  by_cases noLeader : leader = []
  · have unled := dropLeading_leaders (.inl rfl) unmarked
    rw [List.nil_append] at unled
    rw [noLeader, List.nil_append, trimStart_blank_append blankIndent,
      trimStart_of_head atHead, unled]
  · have started : trimStart (leader ++ (indent ++ rest)) =
        leader ++ (indent ++ rest) := by
      apply trimStart_of_head
      intro c atLeader
      rw [List.head?_append_of_ne_nil _ noLeader] at atLeader
      exact (head_leader (known.resolve_left noLeader)).2 c atLeader
    rw [started,
      dropLeading_leaders known (unmarked.blank_append blankIndent),
      trim_blank_append blankIndent]

end LeadsTo

/-- A plain content does not end like a closer, whatever stands before
it. -/
theorem IsPlain.not_closer_suffix {content : List Char}
    (plain : IsPlain content) (front : List Char) :
    ¬ closer <:+ front ++ content := by
  intro given
  obtain ⟨before, shape⟩ := given
  rcases List.append_eq_append_iff.mp shape with
    ⟨inner, _, closing⟩ | ⟨inner, _, inContent⟩
  · cases inner with
    | nil => exact plain.unclosed (by rw [← List.nil_append content, ← closing])
    | cons star others =>
        cases others with
        | nil =>
            obtain ⟨_, rfl⟩ : '*' = star ∧ ['/'] = content := by
              simpa [closer] using closing
            exact (plain.unmarked '/' rfl).2 rfl
        | cons slash others =>
            obtain ⟨_, _, _, rfl⟩ : '*' = star ∧ '/' = slash ∧
                others = [] ∧ content = [] := by
              simpa [closer] using closing
            exact plain.nonempty rfl
  · exact plain.unclosed ⟨inner, inContent.symm⟩

theorem dropTrailing_of_not_suffix {mark text : List Char}
    (noSuffix : ¬ mark <:+ text) : dropTrailing mark text = text := by
  unfold dropTrailing
  cases found : mark.isSuffixOf? text with
  | none => rfl
  | some rest =>
      exact absurd
        ⟨rest, List.isSuffixOf?_eq_some_iff_append_eq.mp found⟩ noSuffix

namespace Decoration

variable {decoration : Decoration} {content : List Char}

/-- A content with what stands behind it up to the last mark. -/
def ending (decoration : Decoration) (content : List Char) : List Char :=
  if decoration.closed then content ++ decoration.gap ++ closer else content

theorem WellFormed.trim_text (formed : decoration.WellFormed) :
    trim (decoration.text content) =
      trim (decoration.front ++ decoration.ending content) := by
  cases isClosed : decoration.closed with
  | true =>
      have shape : decoration.text content =
          decoration.lead ++
            (decoration.front ++ decoration.ending content) ++
              decoration.trail := by
        simp [text, back, ending, isClosed]
      rw [shape, trim_append_blank _ formed.trail.1,
        trim_blank_append formed.lead.1]
  | false =>
      have shape : decoration.text content =
          decoration.lead ++
            (decoration.front ++ decoration.ending content) ++
              decoration.gap ++ decoration.trail := by
        simp [text, back, ending, isClosed]
      rw [shape, trim_append_blank _ formed.trail.1,
        trim_append_blank _ formed.gap.1, trim_blank_append formed.lead.1]

theorem head_ending (decoration : Decoration) (plain : IsPlain content) :
    (decoration.ending content).head? = content.head? := by
  unfold ending
  split
  · rw [List.append_assoc, List.head?_append_of_ne_nil _ plain.nonempty]
  · rfl

theorem isTrimmed_ending (decoration : Decoration)
    (plain : IsPlain content) :
    IsTrimmed (decoration.ending content) := by
  unfold ending
  split
  · apply isTrimmed_closer.append_left (by decide)
    rw [List.head?_append_of_ne_nil _ plain.nonempty]
    exact plain.trimmed.1
  · exact plain.trimmed

theorem WellFormed.isLeader (formed : decoration.WellFormed) :
    IsLeader (decoration.leader.getD []) := by
  cases leads : decoration.leader with
  | none => exact .inl rfl
  | some leader => exact .inr (formed.leader leader leads)

/-- Behind the opener at most one leader stands before the rest of a line,
unless a star at the front of this rest is taken for a part of the opener. -/
theorem WellFormed.leadsTo_rest (formed : decoration.WellFormed)
    {rest : List Char} (trimmed : IsTrimmed rest) (nonempty : rest ≠ [])
    (noSlash : ∀ c ∈ rest.head?, c ≠ '/')
    (starLeads :
      decoration.opening = some ⟨['/', '*'], []⟩ →
        decoration.leader.getD [] = [] → decoration.indent = [] →
        rest.head? ≠ some '*') :
    LeadsTo (dropLeading openers (trim (decoration.front ++ rest)))
      rest := by
  have blankIndent := formed.indent.1
  have known := formed.isLeader
  rw [front]
  cases opens : decoration.opening with
  | some opening =>
      obtain ⟨opener, blankGap, _⟩ := formed.opening opening opens
      rw [Option.elim_some, trim_of_trimmed]
      · have led : LeadsTo (dropLeading openers
            (opening.mark ++ (opening.gap ++ decoration.leader.getD [] ++
              decoration.indent ++ rest))) rest := by
          apply leadsTo_dropLeading_openers opener blankGap known blankIndent
          intro short noGap
          exact starLeads (by rw [opens, ← short, ← noGap])
        simpa only [List.append_assoc] using led
      · apply trimmed.append_left nonempty
        simp only [List.append_assoc]
        rw [List.head?_append_of_ne_nil _ (head_opener opener).1]
        exact (head_opener opener).2
  | none =>
      rw [Option.elim_none, List.nil_append]
      by_cases noLeader : decoration.leader.getD [] = []
      · rw [noLeader, List.nil_append, trim_blank_append blankIndent,
          trim_of_trimmed trimmed]
        have unopened :=
          dropLeading_openers_of_leader (.inl rfl) noSlash
        rw [List.nil_append] at unopened
        rw [unopened]
        exact ⟨[], [], [], by decide, .inl rfl, by decide, rfl⟩
      · have isLeader := known.resolve_left noLeader
        have noSlashBehind :
            ∀ c ∈ (decoration.indent ++ rest).head?, c ≠ '/' := by
          rintro c atHead rfl
          have noIndent := blankIndent.eq_nil_of_head atHead (by decide)
          rw [noIndent, List.nil_append] at atHead
          exact noSlash '/' atHead rfl
        rw [trim_of_trimmed, List.append_assoc,
          dropLeading_openers_of_leader known noSlashBehind]
        · exact ⟨[], _, _, by decide, known, blankIndent, by simp⟩
        · apply trimmed.append_left nonempty
          rw [List.head?_append_of_ne_nil _ noLeader]
          exact (head_leader isLeader).2

theorem WellFormed.leadsTo (formed : decoration.WellFormed)
    (plain : IsPlain content) :
    LeadsTo (dropLeading openers (trim (decoration.text content)))
      (decoration.ending content) := by
  have trimmed := decoration.isTrimmed_ending plain
  have sameHead := decoration.head_ending plain
  have nonempty : decoration.ending content ≠ [] := by
    intro empty
    rw [empty, List.head?_nil] at sameHead
    exact plain.nonempty (List.head?_eq_none_iff.mp sameHead.symm)
  have unmarked : IsUnmarked (decoration.ending content) := by
    rw [IsUnmarked, sameHead]
    exact plain.unmarked
  rw [formed.trim_text]
  apply formed.leadsTo_rest trimmed nonempty
  · exact fun c atHead => (unmarked c atHead).2
  · exact fun _ _ _ atHead => (unmarked '*' atHead).1 rfl

/-- However a plain content is decorated, it is what is left of its line. -/
theorem WellFormed.undecorated_text (formed : decoration.WellFormed)
    (plain : IsPlain content) :
    undecorated (decoration.text content) = content := by
  have leads := formed.leadsTo plain
  simp only [undecorated]
  cases isClosed : decoration.closed with
  | true =>
      have sameHead : (content ++ decoration.gap).head? = content.head? :=
        List.head?_append_of_ne_nil _ plain.nonempty
      rw [ending, isClosed, if_pos rfl] at leads
      rw [leads.dropTrailing_closer.trim_dropLeading
          (by rw [sameHead]; exact plain.trimmed.1)
          (by rw [IsUnmarked, sameHead]; exact plain.unmarked),
        trim_append_blank _ formed.gap.1, trim_of_trimmed plain.trimmed]
  | false =>
      rw [ending, isClosed, if_neg Bool.false_ne_true] at leads
      have unclosed : dropTrailing closer
          (dropLeading openers (trim (decoration.text content))) =
            dropLeading openers (trim (decoration.text content)) := by
        obtain ⟨front, leader, indent, _, _, _, shape⟩ := leads
        rw [shape]
        exact dropTrailing_of_not_suffix (plain.not_closer_suffix _)
      rw [unclosed, leads.trim_dropLeading plain.trimmed.1 plain.unmarked,
        trim_of_trimmed plain.trimmed]

theorem WellFormed.newline_notMem_text (formed : decoration.WellFormed)
    (plain : IsPlain content) : '\n' ∉ decoration.text content := by
  have opening :
      '\n' ∉ decoration.opening.elim []
        (fun opening => opening.mark ++ opening.gap) := by
    cases opens : decoration.opening with
    | none => simp
    | some opening =>
        obtain ⟨opener, _, gapFree⟩ := formed.opening opening opens
        have markFree : ∀ mark ∈ openers, '\n' ∉ mark := by decide
        simpa using ⟨markFree opening.mark opener, gapFree⟩
  have leader : '\n' ∉ decoration.leader.getD [] := by
    have leaderFree : ∀ leader ∈ leaders, '\n' ∉ leader := by decide
    rcases formed.isLeader with noLeader | known
    · simp [noLeader]
    · exact leaderFree _ known
  have back : '\n' ∉ decoration.back := by
    unfold Decoration.back
    split
    · simpa [closer] using formed.gap.2
    · exact formed.gap.2
  simp only [text, front, List.mem_append, not_or]
  exact ⟨⟨⟨⟨formed.lead.2, ⟨opening, leader⟩, formed.indent.2⟩,
    plain.newlineFree⟩, back⟩, formed.trail.2⟩

end Decoration

/-! ## Decorated comments -/

/-- The two ways in which a line ends. -/
def lineEnds : List (List Char) :=
  [['\n'], ['\r', '\n']]

/-- A text on whose lines the contents are written, each with a decoration
and a line end of its own; the last line may go without a line end. -/
inductive DecoratedAs : List (List Char) → List Char → Prop
  | empty : DecoratedAs [] []
  | last {decoration : Decoration} (content : List Char) :
      decoration.WellFormed →
      DecoratedAs [content] (decoration.text content)
  | line {decoration : Decoration} {contents : List (List Char)}
      {lineEnd rest : List Char} (content : List Char) :
      decoration.WellFormed → lineEnd ∈ lineEnds →
      DecoratedAs contents rest →
      DecoratedAs (content :: contents)
        (decoration.text content ++ lineEnd ++ rest)

theorem exists_blank_of_mem_lineEnds {lineEnd : List Char}
    (known : lineEnd ∈ lineEnds) :
    ∃ blank, IsSpacing blank ∧ lineEnd = blank ++ ['\n'] := by
  simp only [lineEnds, List.mem_cons, List.not_mem_nil, or_false] at known
  rcases known with rfl | rfl
  · exact ⟨[], by decide, rfl⟩
  · exact ⟨['\r'], by decide, rfl⟩

theorem undecorated_append_blank {back : List Char} (raw : List Char)
    (blank : IsBlankText back) :
    undecorated (raw ++ back) = undecorated raw := by
  simp only [undecorated, trim_append_blank raw blank]

namespace DecoratedAs

variable {contents : List (List Char)} {text : List Char}

/-- The lines of a text are undecorated to the contents written on them. -/
theorem map_undecorated (decorated : DecoratedAs contents text)
    (plain : ∀ content ∈ contents, IsPlain content) :
    (linesOf text).map undecorated = contents := by
  induction decorated with
  | empty => rfl
  | @last decoration content formed =>
      have plainContent := plain content List.mem_cons_self
      have nonempty : decoration.text content ≠ [] := by
        simp [Decoration.text, plainContent.nonempty]
      rw [linesOf_of_newline_notMem nonempty
          (formed.newline_notMem_text plainContent),
        List.map_singleton, formed.undecorated_text plainContent]
  | @line decoration contents lineEnd rest content formed known _
      inductionHypothesis =>
      obtain ⟨plainContent, plainOthers⟩ := List.forall_mem_cons.mp plain
      obtain ⟨blank, spacing, rfl⟩ := exists_blank_of_mem_lineEnds known
      have newlineFree : '\n' ∉ decoration.text content ++ blank := by
        rw [List.mem_append, not_or]
        exact ⟨formed.newline_notMem_text plainContent, spacing.2⟩
      have lines :
          linesOf (decoration.text content ++ (blank ++ ['\n']) ++ rest) =
            (decoration.text content ++ blank) :: linesOf rest := by
        have split :=
          linesOf_append_newline (decoration.text content ++ blank) rest
        rw [linesOf_concat_newline newlineFree] at split
        simpa using split
      rw [lines, List.map_cons, undecorated_append_blank _ spacing.1,
        formed.undecorated_text plainContent,
        inductionHypothesis plainOthers]

/-- Bare lines are lines with the empty decoration. -/
theorem bare (contents : List (List Char)) :
    DecoratedAs contents (['\n'].intercalate contents) := by
  let undecorating : Decoration := ⟨[], none, none, [], [], false, []⟩
  have formed : undecorating.WellFormed := by
    constructor <;> simp [undecorating, IsSpacing, IsBlankText]
  have bareText (content : List Char) :
      undecorating.text content = content := by
    simp [undecorating, Decoration.text, Decoration.front, Decoration.back]
  induction contents with
  | nil => exact .empty
  | cons content others inductionHypothesis =>
      cases others with
      | nil =>
          have alone := last content formed
          rw [bareText] at alone
          simpa using alone
      | cons next others =>
          have ended : ['\n'] ∈ lineEnds := by decide
          have lines := line content formed ended inductionHypothesis
          rw [bareText] at lines
          simpa [List.intercalate_cons_cons] using lines

end DecoratedAs

/-- Blanks behind a content are decoration. -/
theorem IsPlain.ofComment_append_blank {comment : String}
    {content back : List Char} (plain : IsPlain content)
    (spacing : IsSpacing back) (shape : comment.toList = content ++ back) :
    Line.ofComment comment = [⟨1, content⟩] := by
  let trailing : Decoration := ⟨[], none, none, [], [], false, back⟩
  have formed : trailing.WellFormed := by
    constructor <;> simp [trailing, IsSpacing, IsBlankText]
    exact spacing
  have decorated : DecoratedAs [content] comment.toList := by
    have text : comment.toList = trailing.text content := by
      simp [shape, trailing, Decoration.text, Decoration.front,
        Decoration.back]
    rw [text]
    exact .last content formed
  rw [Line.ofComment_eq_map_zipIdx,
    decorated.map_undecorated (List.forall_mem_singleton.mpr plain)]
  rfl

/-- Contents that do not look like decoration are read back, each with its
number, however their lines are decorated and ended; so they document the
same as on bare lines. -/
theorem decoration_does_not_matter {contents : List (List Char)}
    {comment : String} (plain : ∀ content ∈ contents, IsPlain content)
    (decorated : DecoratedAs contents comment.toList) :
    Line.ofComment comment =
        (contents.zipIdx 1).map (fun place => ⟨place.2, place.1⟩) ∧
      ∀ arity,
        Documentation.ofComment arity comment =
          Documentation.ofComment arity
            (String.ofList (['\n'].intercalate contents)) := by
  have lines : Line.ofComment comment =
      (contents.zipIdx 1).map fun place => ⟨place.2, place.1⟩ := by
    rw [Line.ofComment_eq_map_zipIdx, decorated.map_undecorated plain]
  have bareLines :
      Line.ofComment (String.ofList (['\n'].intercalate contents)) =
        (contents.zipIdx 1).map fun place => ⟨place.2, place.1⟩ := by
    rw [Line.ofComment_eq_map_zipIdx, String.toList_ofList,
      (DecoratedAs.bare contents).map_undecorated plain]
  refine ⟨lines, fun arity => ?_⟩
  rw [Documentation.ofComment, Documentation.ofComment, lines, bareLines]

/-- An opener with a leader right behind it, a closer right behind the
content, and line ends of both kinds. -/
theorem mixed_decoration_does_not_matter :
    let comment := "\t/** /// Adds one. */ \r\n" ++
      "/***@param \x7bNumber\x7d n\n  // @assert - 1=>2*/"
    let contents := ["Adds one.".toList, "@param \x7bNumber\x7d n".toList,
      "@assert - 1=>2".toList]
    (∀ content ∈ contents, IsPlain content) ∧
    DecoratedAs contents comment.toList ∧
    Line.ofComment comment =
      [⟨1, "Adds one.".toList⟩, ⟨2, "@param \x7bNumber\x7d n".toList⟩,
        ⟨3, "@assert - 1=>2".toList⟩] ∧
    Documentation.ofComment 1 comment =
      Documentation.ofComment 1
        (String.ofList (['\n'].intercalate contents)) := by
  intro comment contents
  have plain : ∀ content ∈ contents, IsPlain content := by
    simp only [contents, List.forall_mem_cons, List.not_mem_nil,
      false_implies, implies_true, and_true]
    refine ⟨?_, ?_, ?_⟩ <;> constructor <;> decide
  let inBlock : Decoration :=
    ⟨['\t'], some ⟨['/', '*', '*'], [' ']⟩, some ['/', '/', '/'], [' '],
      [' '], true, [' ']⟩
  let starred : Decoration :=
    ⟨[], some ⟨['/', '*', '*'], []⟩, some ['*'], [], [], false, []⟩
  let closing : Decoration :=
    ⟨[' ', ' '], none, some ['/', '/'], [' '], [], true, []⟩
  have inBlockFormed : inBlock.WellFormed := by
    constructor <;> decide
  have starredFormed : starred.WellFormed := by
    constructor <;> decide
  have closingFormed : closing.WellFormed := by
    constructor <;> decide
  have shape : comment.toList =
      inBlock.text "Adds one.".toList ++ ['\r', '\n'] ++
        (starred.text "@param \x7bNumber\x7d n".toList ++ ['\n'] ++
          closing.text "@assert - 1=>2".toList) := by decide
  have decorated : DecoratedAs contents comment.toList := by
    rw [shape]
    exact .line _ inBlockFormed (by decide) <|
      .line _ starredFormed (by decide) <| .last _ closingFormed
  obtain ⟨lines, documentation⟩ := decoration_does_not_matter plain decorated
  exact ⟨plain, decorated, lines, documentation 1⟩

end DocCheck
