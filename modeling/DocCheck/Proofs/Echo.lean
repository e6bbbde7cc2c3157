import DocCheck.Proofs.Decoration
import DocCheck.Proofs.Grammar
import DocCheck.Proofs.Isolation
import DocCheck.Proofs.Tokens
import DocCheck.Proofs.ValueEquality

/-!
# The echo of a text

Let a symbol return its argument, and let its comment assert that it gives a
text for the same text.  The text is read once among the arguments and once
as the expected result, by different rules and with different neighbours;
still both give the same token, so it has one value.  Therefore the assertion
is rejected when the token has no value, and else it passes unless the value
holds not-a-number.
-/

namespace DocCheck

/-! ## The comment -/

/-- A text that can stand on both sides of an arrow. -/
structure IsEchoable (text : List Char) : Prop where
  newlineFree : '\n' ∉ text
  commaFree : ',' ∉ text
  arrowFree : ¬ arrow <:+: text
  unclosed : ¬ closer <:+ trim text

/-- The comment that asserts a text for the same text. -/
def echoComment (text : String) : String :=
  "@assert - " ++ text ++ "=>" ++ text

/-- The assertion up to the last character of its arrow. -/
def echoFront (text : List Char) : List Char :=
  Directive.marker ++ ' ' :: '-' :: ' ' :: (text ++ ['='])

/-- The line of the assertion, without the blanks behind it. -/
def echoContent (text : List Char) : List Char :=
  echoFront text ++ '>' :: trimEnd text

/-- What follows the marker on this line. -/
def Layout.echo (text : List Char) : Layout where
  head := ⟨[' '], none, none⟩
  arguments := ' ' :: text
  expected := trimEnd text

theorem echoContent_eq (text : List Char) :
    echoContent text = Directive.marker ++ (Layout.echo text).text := by
  simp [echoContent, echoFront, Layout.text, Layout.echo, Head.text]

theorem toList_echoComment (text : String) :
    (echoComment text).toList =
      echoFront text.toList ++ '>' :: text.toList := by
  have opener : "@assert - ".toList =
      Directive.marker ++ [' ', '-', ' '] := by decide
  have arrowText : "=>".toList = ['=', '>'] := by decide
  unfold echoComment echoFront
  simp only [String.toList_append, opener, arrowText, List.append_assoc,
    List.cons_append, List.nil_append]

/-! ## The line -/

/-- A mark behind a character that is no part of it lies in the rest. -/
theorem suffix_of_suffix_append_cons {mark front rest : List Char} {c : Char}
    (foreign : c ∉ mark) (given : mark <:+ front ++ c :: rest) :
    mark <:+ rest := by
  rcases List.suffix_or_suffix_of_suffix given
    (List.suffix_append front (c :: rest)) with short | long
  · rcases List.suffix_cons_iff.mp short with rfl | inRest
    · exact absurd List.mem_cons_self foreign
    · exact inRest
  · exact absurd (long.subset List.mem_cons_self) foreign

theorem closer_suffix_trim {text : List Char}
    (closed : closer <:+ trimEnd text) : closer <:+ trim text := by
  obtain ⟨before, split⟩ := closed
  obtain ⟨front, blank, splitBefore⟩ := exists_blank_append_trimStart before
  have trimmedCloser : IsTrimmed closer :=
    isTrimmed_of_ends (by decide) (by decide) []
  have trimmed : IsTrimmed (trimStart before ++ closer) :=
    trimmedCloser.append_left (by decide) (head_trimStart before)
  rw [← trim_trimEnd, ← split, splitBefore, List.append_assoc,
    trim_blank_append blank, trim_of_trimmed trimmed]
  exact List.suffix_append _ _

theorem isTrimmed_echoContent (text : List Char) :
    IsTrimmed (echoContent text) := by
  have ending : IsTrimmed ('>' :: trimEnd text) :=
    isTrimmed_cons (by decide) (last_trimEnd text)
  refine ending.append_left (List.cons_ne_nil _ _) ?_
  intro c atHead
  cases atHead
  decide

namespace IsEchoable

variable {text : List Char}

theorem isPlain_echoContent (echoable : IsEchoable text) :
    IsPlain (echoContent text) where
  nonempty := by simp [echoContent]
  trimmed := isTrimmed_echoContent text
  newlineFree := by
    have absent : '\n' ∉ trimEnd text :=
      fun member =>
        echoable.newlineFree ((trimEnd_isPrefix text).subset member)
    simp [echoContent, echoFront, Directive.marker, echoable.newlineFree,
      absent]
  unmarked := by
    intro c atHead
    cases atHead
    decide
  unclosed closed :=
    echoable.unclosed <| closer_suffix_trim <|
      suffix_of_suffix_append_cons (by decide) closed

theorem ofComment_echoComment {text : String}
    (echoable : IsEchoable text.toList) :
    Line.ofComment (echoComment text) =
      [⟨1, echoContent text.toList⟩] := by
  obtain ⟨back, blank, split⟩ := exists_trimEnd_append_blank text.toList
  have newlineFree : '\n' ∉ back := by
    intro member
    apply echoable.newlineFree
    rw [split]
    exact List.mem_append_right _ member
  apply echoable.isPlain_echoContent.ofComment_append_blank
    ⟨blank, newlineFree⟩
  rw [toList_echoComment, echoContent, List.append_assoc, List.cons_append,
    ← split]

end IsEchoable

/-! ## The reading -/

theorem Layout.argumentTokens_echo {text : List Char}
    (commaFree : ',' ∉ text) :
    (Layout.echo text).argumentTokens 1 = [Token.parse text] := by
  have sameToken : Token.parse (' ' :: text) = Token.parse text :=
    Token.parse_blank_append isBlankText_space text
  rw [argumentTokens]
  split
  · next blank =>
      have onlyBlanks : Token.parse ((' ' :: text) ++ []) = Token.blank :=
        Token.parse_blank_append blank []
      rw [List.append_nil, sameToken] at onlyBlanks
      rw [onlyBlanks, if_neg Nat.one_ne_zero]
      rfl
  · have commaFreeWhole : ',' ∉ ' ' :: text := by
      simpa using commaFree
    rw [Layout.echo, List.splitOn_eq_singleton commaFreeWhole,
      List.map_singleton, sameToken]

/-- The assertion that a text gives itself. -/
def Assertion.echo (text : String) : Assertion where
  kind := none
  name := none
  arguments := [Token.parse text.toList]
  expected := Token.parse text.toList

theorem IsEchoable.read_echo {text : String}
    (echoable : IsEchoable text.toList) :
    Assertion.read 1 (Layout.echo text.toList).text =
      .ok (Assertion.echo text) := by
  have formed : (Layout.echo text.toList).WellFormed := by
    refine ⟨⟨isBlankText_space, by simp [Layout.echo],
      by simp [Layout.echo], by simp [Layout.echo]⟩, ?_, ?_⟩
    · simpa [Layout.echo, arrow_infix_cons_iff] using echoable.arrowFree
    · exact fun present => echoable.arrowFree
        (present.trans (trimEnd_isPrefix text.toList).isInfix)
  rw [Assertion.read_eq_ok_iff]
  refine ⟨Layout.echo text.toList, formed, rfl, ?_⟩
  rw [Layout.assertion, Layout.argumentTokens_echo echoable.commaFree]
  simp [Layout.echo, Assertion.echo, Token.parse_trimEnd]

/-- The directive on the line of the assertion. -/
def Directive.echo (text : String) : Directive :=
  .ofLine 1 ⟨1, echoContent text.toList⟩ (Layout.echo text.toList).text 1

theorem wordEnds_echo (text : List Char) :
    WordEnds (Layout.echo text).text := by
  intro c atHead
  cases atHead
  exact .inl (by decide)

theorem IsEchoable.ofComment_echo {text : String}
    (echoable : IsEchoable text.toList) :
    Directive.ofComment 1 (echoComment text) = [.echo text] :=
  Directive.ofComment_of_line 1 echoable.ofComment_echoComment
    (echoContent_eq _) (wordEnds_echo _)

/-- A comment that documents no parameter and no result. -/
structure Documentation.Untyped (documentation : Documentation) : Prop where
  parameters : documentation.parameters = []
  returns : documentation.returns = none

theorem IsEchoable.untyped {text : String} (echoable : IsEchoable text.toList)
    (arity : Nat) :
    (Documentation.ofComment arity (echoComment text)).Untyped := by
  have found : Directive.body? ⟨1, echoContent text.toList⟩ =
      some (Layout.echo text.toList).text :=
    Directive.body?_eq_some_iff.mpr ⟨echoContent_eq _, wordEnds_echo _⟩
  rw [Documentation.ofComment, echoable.ofComment_echoComment]
  constructor
  · simp [Documentation.ofLines, Parameter.ofLine?_of_body found]
  · simp [Documentation.ofLines, Documentation.returnsOfLine?_of_body found]

/-! ## The operands -/

/-- What a text gives as a token whose type is not documented. -/
def Checker.valueOfText (checker : Checker) (text : String) :
    Except TokenError Value :=
  let token := Token.parse text.toList
  checker.registry.resolve (token.tag.getD checker.settings.defaultTag)
    token.text

/-- A text at a position whose type is not documented. -/
def Operand.untyped (text : String) (position : Position) : Operand :=
  ⟨position, none, Token.parse text.toList⟩

theorem Resolver.tagOf_none (resolver : Resolver) (token : Token) :
    resolver.tagOf none token = token.tag.getD resolver.defaultTag := by
  unfold tagOf
  cases token.tag <;> rfl

theorem Checker.valueOf_untyped (checker : Checker) (text : String)
    (position : Position) :
    checker.resolver.valueOf (.untyped text position) =
      checker.valueOfText text := by
  rw [Resolver.valueOf, Operand.untyped, Resolver.tagOf_none]
  rfl

namespace Documentation.Untyped

variable {documentation : Documentation}

theorem argumentOperands_echo (untyped : documentation.Untyped)
    (text : String) :
    argumentOperands documentation 0 (Assertion.echo text).arguments =
      [.untyped text (.argument 0)] := by
  simp [Assertion.echo, parameterType?, untyped.parameters,
    Operand.untyped]

theorem expectedOperand_echo (untyped : documentation.Untyped)
    (text : String) :
    expectedOperand documentation (Assertion.echo text).expected =
      .untyped text .expected := by
  rw [expectedOperand, untyped.returns]
  rfl

theorem firstRefusal_echo (untyped : documentation.Untyped)
    {checker : Checker} {text : String} {cause : TokenError}
    (failed : checker.valueOfText text = .error cause) :
    checker.resolver.FirstRefusal
      ((Assertion.echo text).operands documentation)
      (.untyped text (.argument 0)) cause := by
  rw [Assertion.operands, untyped.argumentOperands_echo]
  refine ⟨[], _, rfl, by simp, Resolver.refuses_iff.mpr ?_⟩
  rw [checker.valueOf_untyped, failed]

theorem resolved_echo (untyped : documentation.Untyped)
    {checker : Checker} {text : String} {value : Value}
    (found : checker.valueOfText text = .ok value) :
    (Assertion.echo text).Resolved checker.resolver documentation [value]
      value := by
  have resolves (position : Position) :
      checker.resolver.Resolves (.untyped text position) value := by
    rw [Resolver.resolves_iff, checker.valueOf_untyped, found]
  rw [Assertion.Resolved, untyped.argumentOperands_echo,
    untyped.expectedOperand_echo]
  exact ⟨.cons (resolves _) .nil, resolves _⟩

end Documentation.Untyped

/-! ## The finding -/

/-- The verdict on a text whose value a symbol returns. -/
def Verdict.echo (name : String) (value : Value) (outcome : Outcome) :
    Verdict where
  identity := Identity.positional name 1
  kind := none
  line := 1
  outcome := outcome
  actual := .ok value
  expected := value

/-- What is found for the assertion that a text gives itself. -/
inductive Checker.Echoes (checker : Checker) (name text : String) :
    Finding → Prop
  | rejected {cause : TokenError} :
      checker.valueOfText text = .error cause →
      Echoes checker name text
        (.rejected (Identity.positional name 1) {
          code := cause.code
          message := cause.message
          location := some ⟨1, String.ofList (echoContent text.toList)⟩
          notes := cause.notes ++ ["while resolving the argument 1"]
          suggestions := cause.suggestions })
  | passed {value : Value} :
      checker.valueOfText text = .ok value → ¬ value.HoldsNaN →
      Echoes checker name text (.ran (Verdict.echo name value .pass))
  | failed {value : Value} :
      checker.valueOfText text = .ok value → value.HoldsNaN →
      Echoes checker name text (.ran (Verdict.echo name value .fail))

/-- The case of a text with a value. -/
def Case.echo (name : String) (target : Target) (value : Value) : Case where
  identity := Identity.positional name 1
  kind := none
  target := target
  arguments := [value]
  expected := value
  line := 1

theorem Case.run_echo (name : String) {target : Target} {value : Value}
    (returns : target [value] = .returned value) :
    (Case.echo name target value).run =
      Verdict.echo name value
        (if value == value then .pass else .fail) := by
  simp only [run, Case.echo, returns]
  rfl

namespace Checker

variable {checker : Checker} {text : String}

/-- Only not-a-number can be in the way of a pass. -/
theorem Echoes.eq_passed {name : String} {finding : Finding}
    (echoes : checker.Echoes name text finding) {value : Value}
    (known : checker.valueOfText text = .ok value)
    (plain : ¬ value.HoldsNaN) :
    finding = .ran (Verdict.echo name value .pass) := by
  cases echoes with
  | rejected failed =>
      rw [known] at failed
      cases failed
  | passed found _ =>
      obtain rfl := Except.ok.inj (known.symm.trans found)
      rfl
  | failed found holds =>
      obtain rfl := Except.ok.inj (known.symm.trans found)
      exact absurd holds plain

theorem judge_echo (checker : Checker) (name : String) {target : Target}
    (returns : ∀ value, target [value] = .returned value)
    (echoable : IsEchoable text.toList) {documentation : Documentation}
    (untyped : documentation.Untyped) :
    checker.Echoes name text
      (checker.judge ⟨name, echoComment text, 1, target⟩ documentation
        (.echo text)) := by
  have reading : (Directive.echo text).reading = .ok (Assertion.echo text) :=
    echoable.read_echo
  have identity : (Directive.echo text).identity name =
      Identity.positional name 1 := by
    rw [Directive.identity, Directive.name?, reading]
    rfl
  cases known : checker.valueOfText text with
  | error cause =>
      rw [judge_eq_of_judged
        (.refusedToken reading rfl (untyped.firstRefusal_echo known)),
        identity]
      exact .rejected known
  | ok value =>
      rw [judge_eq_of_judged (.run reading rfl (untyped.resolved_echo known)
        (Verdict.ofCall_run (.echo name target value)) identity.symm rfl
        rfl), Case.run_echo name (returns value)]
      by_cases holds : value.HoldsNaN
      · rw [if_neg (mt value.beq_self_iff.mp (not_not_intro holds))]
        exact .failed known holds
      · rw [if_pos (value.beq_self_iff.mpr holds)]
        exact .passed known holds

theorem findings_echo (unfiltered : checker.settings.filter = none)
    (echoable : IsEchoable text.toList) (name : String) (target : Target) :
    (checker.check ⟨name, echoComment text, 1, target⟩).findings =
      [checker.judge ⟨name, echoComment text, 1, target⟩
        (Documentation.ofComment 1 (echoComment text)) (.echo text)] := by
  rw [findings_of_unfiltered unfiltered, echoable.ofComment_echo,
    List.map_singleton]

theorem valueOfText_of_untagged
    (untagged : (Token.parse text.toList).tag = none)
    (bound :
      checker.registry.coercion? checker.settings.defaultTag =
        some .text) :
    checker.valueOfText text =
      .ok (.string (String.ofList (trim text.toList))) := by
  have whole : (Token.parse text.toList).text =
      String.ofList (trim text.toList) := by
    rcases Token.parse_cases text.toList with
      ⟨_, _, _, _, reading⟩ | ⟨_, reading⟩
    · rw [reading] at untagged
      cases untagged
    · rw [reading]
  simp only [valueOfText, untagged, whole, Option.getD_none]
  rw [Registry.resolve, bound]
  rfl

end Checker

/-- A symbol that returns its argument, asserted to give a text for the same
text, has one finding.  It is rejected for the argument when the text has no
value, and else it runs on the value and passes unless this holds
not-a-number.  A text without a tag is its own value, without its outer
blanks, when the default tag stands for texts. -/
theorem echoed_text_passes_unless_it_holds_nan (checker : Checker)
    (unfiltered : checker.settings.filter = none) (name : String)
    {target : Target}
    (returns : ∀ value, target [value] = .returned value) {text : String}
    (echoable : IsEchoable text.toList) :
    let findings :=
      (checker.check ⟨name, echoComment text, 1, target⟩).findings
    (∃ finding, findings = [finding] ∧ checker.Echoes name text finding) ∧
    ((Token.parse text.toList).tag = none →
      checker.registry.coercion? checker.settings.defaultTag = some .text →
      findings =
        [.ran (Verdict.echo name
          (.string (String.ofList (trim text.toList))) .pass)]) := by
  intro findings
  have single := Checker.findings_echo unfiltered echoable name target
  have echoes := checker.judge_echo name returns echoable (echoable.untyped 1)
  refine ⟨⟨_, single, echoes⟩, fun untagged bound => ?_⟩
  have known := Checker.valueOfText_of_untagged untagged bound
  rw [← echoes.eq_passed known (Value.not_holdsNaN_of_plain rfl rfl)]
  exact single

/-- A text of separators that is no tagged token, and a tagged one whose value
holds not-a-number in a field. -/
theorem echo_of_separators_passes_and_of_nan_record_fails :
    let echo : Target := fun arguments =>
      match arguments with
      | [value] => .returned value
      | _ => .failed "one argument"
    let odd : Tag := ⟨"odd"⟩
    let value : Value := .ofFields [("ratio", .number .nan)]
    let reader : Coercion := .custom fun _ => .returned value
    let checker : Checker :=
      { Checker.standard with
        registry := Checker.standard.registry.withCoercion odd reader
        complete := Checker.standard.complete.withCoercion odd reader }
    (checker.check
        ⟨"echo", echoComment " >-1:number= ", 1, echo⟩).findings =
      [.ran (Verdict.echo "echo" (.string ">-1:number=") .pass)] ∧
    (checker.check ⟨"echo", echoComment "=:odd", 1, echo⟩).findings =
      [.ran (Verdict.echo "echo" value .fail)] := by
  intro echo odd value reader checker
  have returns : ∀ value, echo [value] = .returned value := fun _ => rfl
  have separators : IsEchoable " >-1:number= ".toList := by
    constructor <;> decide
  have tagged : IsEchoable "=:odd".toList := by
    constructor <;> decide
  have texts : checker.registry.coercion? Tag.string = some .text := by
    rw [Registry.coercion?_withCoercion, if_neg (by decide)]
    rfl
  have token : Token.parse "=:odd".toList = ⟨"=", some odd⟩ := by decide
  have bound : checker.registry.coercion? odd = some reader := by
    rw [Registry.coercion?_withCoercion, if_pos rfl]
  have known : checker.valueOfText "=:odd" = .ok value := by
    simp only [Checker.valueOfText, token, Option.getD_some]
    rw [Registry.resolve, bound]
    rfl
  have field : (Table.empty.insert "ratio" (.number .nan)).get? "ratio" =
      some (Value.number .nan) := by
    rw [Table.get?_insert, if_pos rfl]
  have holds : value.HoldsNaN := .field rfl field .number
  have passed := (echoed_text_passes_unless_it_holds_nan checker rfl "echo"
    returns separators).2 (by decide) texts
  obtain ⟨finding, single, echoes⟩ :=
    (echoed_text_passes_unless_it_holds_nan checker rfl "echo" returns
      tagged).1
  refine ⟨passed, single.trans ?_⟩
  cases echoes with
  | rejected failed =>
      rw [known] at failed
      cases failed
  | passed found plain =>
      obtain rfl := Except.ok.inj (known.symm.trans found)
      exact absurd holds plain
  | failed found _ =>
      obtain rfl := Except.ok.inj (known.symm.trans found)
      rfl

end DocCheck
