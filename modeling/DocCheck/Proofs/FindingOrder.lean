import DocCheck.Demo
import DocCheck.Proofs.Dependence
import Mathlib.Data.List.Sort

/-!
# Findings in the order of lines

Without a filter no directive is lost, repeated or moved: the findings for a
symbol correspond one to one, and in order, to the directive lines of its
comment.  A finding keeps the number of its line, and its identity is the
name that the line gives or else the position among the directive lines.
-/

namespace DocCheck

/-- What a finding tells about the directive line that it stands for, which
is at a position, counted from one, among the directive lines. -/
structure Finding.StandsFor (finding : Finding) (symbol : Symbol)
    (position : Nat) (line : Line) : Prop where
  named :
    ∀ body assertion name,
      line.content = Directive.marker ++ body →
      Assertion.read symbol.arity body = .ok assertion →
      assertion.name = some name →
      finding.identity = ⟨name⟩
  unnamed :
    (∀ body assertion,
      line.content = Directive.marker ++ body →
      Assertion.read symbol.arity body = .ok assertion →
      assertion.name = none) →
    finding.identity = ⟨symbol.name ++ "#" ++ toString position⟩
  lineOfVerdict :
    ∀ verdict, finding = .ran verdict → verdict.line = line.number
  locationOfRejection :
    ∀ identity diagnostic, finding = .rejected identity diagnostic →
      diagnostic.location =
        some ⟨line.number, String.ofList line.content⟩

namespace Directive

theorem identity_ofLine_of_name {arity ordinal : Nat} {line : Line}
    {body : List Char} {assertion : Assertion} {name : String}
    (reading : Assertion.read arity body = .ok assertion)
    (named : assertion.name = some name) (symbol : String) :
    (ofLine arity line body ordinal).identity symbol = ⟨name⟩ := by
  simp [identity, name?, ofLine, reading, named]

theorem identity_ofLine_of_unnamed {arity ordinal : Nat} {line : Line}
    {body : List Char}
    (unnamed :
      ∀ assertion, Assertion.read arity body = .ok assertion →
        assertion.name = none)
    (symbol : String) :
    (ofLine arity line body ordinal).identity symbol =
      Identity.positional symbol ordinal := by
  cases reading : Assertion.read arity body with
  | error fault => simp [identity, name?, ofLine, reading]
  | ok assertion =>
      simp [identity, name?, ofLine, reading, unnamed assertion reading]

end Directive

theorem Checker.selects_of_unfiltered {checker : Checker}
    (unfiltered : checker.settings.filter = none) (symbol : Symbol)
    (directive : Directive) : checker.selects symbol directive = true := by
  simp [selects, Settings.selects, unfiltered]

theorem Checker.findings_of_unfiltered {checker : Checker}
    (unfiltered : checker.settings.filter = none) (symbol : Symbol) :
    (checker.check symbol).findings =
      (Directive.ofComment symbol.arity symbol.comment).map
        (checker.judge symbol
          (Documentation.ofComment symbol.arity symbol.comment)) := by
  rw [findings_check, List.filter_eq_self.mpr fun directive _ =>
    selects_of_unfiltered unfiltered symbol directive]

/-- A check without a filter tells the line and the identity of every
directive. -/
theorem Checker.map_line?_identity_of_unfiltered {checker : Checker}
    (unfiltered : checker.settings.filter = none) (symbol : Symbol) :
    (checker.check symbol).findings.map
        (fun finding => (finding.line?, finding.identity)) =
      (Directive.ofComment symbol.arity symbol.comment).map
        fun directive =>
          (some directive.line, directive.identity symbol.name) := by
  rw [findings_of_unfiltered unfiltered, List.map_map]
  exact List.map_congr_left fun _ _ => Prod.ext line?_judge identity_judge

theorem Checker.judge_standsFor (checker : Checker) (symbol : Symbol)
    (documentation : Documentation) {line : Line} {body : List Char}
    (shape : line.content = Directive.marker ++ body) (position : Nat) :
    (checker.judge symbol documentation
      (Directive.ofLine symbol.arity line body position)).StandsFor
        symbol position line := by
  obtain ⟨rule, judged⟩ := Judged.exists_rule checker symbol documentation
    (Directive.ofLine symbol.arity line body position)
  have sameBody : ∀ other,
      line.content = Directive.marker ++ other → other = body := by
    intro other otherShape
    exact List.append_cancel_left (otherShape.symm.trans shape)
  constructor
  · intro other assertion name otherShape reading named
    obtain rfl := sameBody other otherShape
    rw [judged.identity_eq]
    exact Directive.identity_ofLine_of_name reading named symbol.name
  · intro unnamed
    rw [judged.identity_eq]
    exact Directive.identity_ofLine_of_unnamed
      (fun assertion => unnamed body assertion shape) symbol.name
  · intro verdict ran
    rw [ran] at judged
    exact judged.line_of_ran
  · intro identity diagnostic rejected
    rw [rejected] at judged
    exact judged.location_of_rejected

/-- The lines with a directive of a comment, each once, in the order of the
comment. -/
structure AreDirectiveLines (comment : String) (lines : List Line) :
    Prop where
  ascending :
    lines.Pairwise fun earlier later => earlier.number < later.number
  mem_iff :
    ∀ line, line ∈ lines ↔
      ∃ place raw,
        (linesOf comment.toList)[place]? = some raw ∧
        line = ⟨place + 1, undecorated raw⟩ ∧
        IsDirectiveLine (undecorated raw)

/-- A comment has one list of directive lines only. -/
theorem AreDirectiveLines.unique {comment : String}
    {lines others : List Line} (areLines : AreDirectiveLines comment lines)
    (otherLines : AreDirectiveLines comment others) : lines = others := by
  let earlier (left right : Line) := left.number < right.number
  have : Std.Irrefl earlier := ⟨fun line => Nat.lt_irrefl line.number⟩
  have : Std.Antisymm earlier :=
    ⟨fun _ _ before after => absurd after (Nat.lt_asymm before)⟩
  exact areLines.ascending.eq_of_mem_iff otherLines.ascending fun line =>
    (areLines.mem_iff line).trans (otherLines.mem_iff line).symm

theorem Directive.areDirectiveLines_marked (comment : String) :
    AreDirectiveLines comment
      ((marked (Line.ofComment comment)).map Prod.fst) where
  ascending :=
    (Line.pairwise_number_ofComment comment).sublist
      (map_fst_marked_sublist _)
  mem_iff := by
    intro line
    rw [List.mem_map]
    constructor
    · intro given
      obtain ⟨⟨found, body⟩, member, rfl⟩ := given
      obtain ⟨inComment, shape, ends⟩ := mem_marked_iff.mp member
      obtain ⟨place, raw, standing, same⟩ :=
        Line.mem_ofComment_iff.mp inComment
      refine ⟨place, raw, standing, same, body, ?_, ends⟩
      rw [← shape, same]
    · intro given
      obtain ⟨place, raw, standing, rfl, body, shape, ends⟩ := given
      refine ⟨(⟨place + 1, undecorated raw⟩, body), ?_, rfl⟩
      exact mem_marked_iff.mpr
        ⟨Line.mem_ofComment_iff.mpr ⟨place, raw, standing, rfl⟩,
          shape, ends⟩

/-- The findings of an unfiltered check stand, one by one, for the directive
lines of the comment. -/
theorem findings_stand_for_directive_lines (checker : Checker)
    (unfiltered : checker.settings.filter = none) (symbol : Symbol) :
    ∃ lines : List Line,
      AreDirectiveLines symbol.comment lines ∧
      (checker.check symbol).findings.length = lines.length ∧
      ∀ (place : Nat) (line : Line) (finding : Finding),
        lines[place]? = some line →
        (checker.check symbol).findings[place]? = some finding →
        finding.StandsFor symbol (place + 1) line := by
  have sameFindings := Checker.findings_of_unfiltered unfiltered symbol
  refine ⟨(Directive.marked (Line.ofComment symbol.comment)).map Prod.fst,
    Directive.areDirectiveLines_marked symbol.comment, ?_, ?_⟩
  · rw [sameFindings, List.length_map, List.length_map]
    exact Directive.length_ofLines symbol.arity _
  · intro place line finding atLine atFinding
    rw [List.getElem?_map, Option.map_eq_some_iff] at atLine
    obtain ⟨⟨found, body⟩, standing, rfl⟩ := atLine
    rw [sameFindings, List.getElem?_map, Directive.ofComment,
      Directive.getElem?_ofLines, standing] at atFinding
    obtain rfl := Option.some.inj atFinding
    have isMarked := List.mem_of_getElem? standing
    obtain ⟨_, shape, _⟩ := Directive.mem_marked_iff.mp isMarked
    exact checker.judge_standsFor symbol _ shape (place + 1)

/-- The five directive lines of a comment with eleven lines; the last one
gives no name. -/
theorem greeting_findings_stand_for_directive_lines :
    let symbol : Symbol := ⟨"greet", Demo.greetComment, 1, Demo.greet⟩
    let findings := (Checker.standard.check symbol).findings
    let lines : List Line :=
      [(6, "@assert \x7bAssertion\x7d Test1 - John:string=>Hello, John!"),
        (7, "@assert \x7bAssertion\x7d Test2 - Ben:string=>Hello, John!"),
        (8, "@assert Test3 - John:string,Ben=>Hello, John and Ben!"),
        (9, "@assert Test4 - 1:bool=>Hello, true!:string"),
        (10, "@assert - John=>Hello, John!")].map fun line =>
          ⟨line.1, line.2.toList⟩
    Checker.standard.settings.filter = none ∧
    AreDirectiveLines Demo.greetComment lines ∧
    findings.length = 5 ∧
    (∀ (place : Nat) (line : Line) (finding : Finding),
      lines[place]? = some line → findings[place]? = some finding →
      finding.StandsFor symbol (place + 1) line) ∧
    findings.map (fun finding => (finding.line?, finding.identity)) =
      [(some 6, ⟨"Test1"⟩), (some 7, ⟨"Test2"⟩), (some 8, ⟨"Test3"⟩),
        (some 9, ⟨"Test4"⟩), (some 10, ⟨"greet#5"⟩)] := by
  intro symbol findings lines
  obtain ⟨found, areLines, sameLength, standsFor⟩ :=
    findings_stand_for_directive_lines Checker.standard rfl symbol
  have marked : (Directive.marked (Line.ofComment Demo.greetComment)).map
      Prod.fst = lines := by
    -- The comment is evaluated line by line, since as one text it is slow.
    rw [Line.ofComment, Demo.greetComment, String.toList_intercalate]
    decide +kernel
  obtain rfl : lines = found := by
    rw [← marked]
    exact (Directive.areDirectiveLines_marked _).unique areLines
  have told :
      (Directive.ofComment 1 Demo.greetComment).map (fun directive =>
        (some directive.line, directive.identity "greet")) =
      [(some 6, ⟨"Test1"⟩), (some 7, ⟨"Test2"⟩), (some 8, ⟨"Test3"⟩),
        (some 9, ⟨"Test4"⟩), (some 10, ⟨"greet#5"⟩)] := by
    rw [Directive.ofComment, Line.ofComment, Demo.greetComment,
      String.toList_intercalate]
    decide +kernel
  exact ⟨rfl, areLines, sameLength, standsFor,
    (Checker.map_line?_identity_of_unfiltered rfl symbol).trans told⟩

end DocCheck
