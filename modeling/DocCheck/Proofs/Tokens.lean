import DocCheck.Comment.Token
import DocCheck.Proofs.Cutting
import DocCheck.Proofs.Trimming
import Mathlib.Tactic.Common

/-!
# Written tokens

Reading a token leaves a trimmed text, which ends in a colon and an
identifier only where these are the tag.  A token of this kind is read back
from its written form, so what a text reads as does not change when it is
written out and read once more.
-/

namespace DocCheck

/-! ## Identifiers -/

/-- A letter of ASCII. -/
def IsLetter (c : Char) : Prop :=
  ('a' ≤ c ∧ c ≤ 'z') ∨ ('A' ≤ c ∧ c ≤ 'Z')

/-- A digit of ASCII. -/
def IsDigit (c : Char) : Prop :=
  '0' ≤ c ∧ c ≤ '9'

theorem isAlpha_iff {c : Char} : c.isAlpha = true ↔ IsLetter c := by
  have unfolded : c.isAlpha =
      (decide ('A' ≤ c ∧ c ≤ 'Z') || decide ('a' ≤ c) && decide (c ≤ 'z')) :=
    rfl
  simp only [unfolded, IsLetter, Bool.or_eq_true, Bool.and_eq_true,
    decide_eq_true_eq]
  exact or_comm

theorem isDigit_iff {c : Char} : c.isDigit = true ↔ IsDigit c := by
  simp only [Char.isDigit, IsDigit, Char.le_def, Bool.and_eq_true,
    decide_eq_true_eq]

namespace Tag

/-- A letter or an underscore, and then letters, digits and underscores. -/
def IsIdentifier (text : List Char) : Prop :=
  ∃ first others, text = first :: others ∧
    (IsLetter first ∨ first = '_') ∧
    ∀ c ∈ others, IsLetter c ∨ IsDigit c ∨ c = '_'

theorem isNameStart_iff {c : Char} :
    isNameStart c = true ↔ IsLetter c ∨ c = '_' := by
  rw [isNameStart, Bool.or_eq_true, isAlpha_iff, beq_iff_eq]

theorem isNamePart_iff {c : Char} :
    isNamePart c = true ↔ IsLetter c ∨ IsDigit c ∨ c = '_' := by
  rw [isNamePart, Char.isAlphanum, Bool.or_eq_true, Bool.or_eq_true,
    isAlpha_iff, isDigit_iff, beq_iff_eq, or_assoc]

theorem isName_iff {text : List Char} :
    isName text = true ↔ IsIdentifier text := by
  cases text with
  | nil => simp [isName, IsIdentifier]
  | cons first others =>
      simp [isName, IsIdentifier, isNameStart_iff, isNamePart_iff]

theorem isNamePart_of_isNameStart {c : Char}
    (start : isNameStart c = true) : isNamePart c = true := by
  simp only [isNameStart, Bool.or_eq_true] at start
  rcases start with letter | underscore
  · simp [isNamePart, Char.isAlphanum, letter]
  · simp [isNamePart, underscore]

theorem isNamePart_of_isName {text : List Char}
    (name : isName text = true) : ∀ c ∈ text, isNamePart c = true := by
  cases text with
  | nil => simp
  | cons first others =>
      simp only [isName, Bool.and_eq_true, List.all_eq_true] at name
      intro c member
      rcases List.mem_cons.mp member with rfl | inOthers
      · exact isNamePart_of_isNameStart name.1
      · exact name.2 c inOthers

theorem ne_nil_of_isName {text : List Char} (name : isName text = true) :
    text ≠ [] := by
  intro empty
  rw [empty] at name
  cases name

theorem notMem_of_isName {c : Char} {text : List Char}
    (outside : isNamePart c = false) (name : isName text = true) :
    c ∉ text := by
  intro member
  rw [isNamePart_of_isName name c member] at outside
  cases outside

theorem toNat_of_isNamePart {c : Char} (part : isNamePart c = true) :
    48 ≤ c.toNat ∧ c.toNat ≤ 122 := by
  rcases Bool.or_eq_true_iff.mp part with alphanumeric | underscore
  · rcases Bool.or_eq_true_iff.mp alphanumeric with letter | digit
    · rcases Bool.or_eq_true_iff.mp letter with upper | lower
      · have bounds : 65 ≤ c.toNat ∧ c.toNat ≤ 90 :=
          of_decide_eq_true upper
        omega
      · obtain ⟨fromFirst, toLast⟩ := Bool.and_eq_true_iff.mp lower
        have low : 97 ≤ c.toNat := of_decide_eq_true fromFirst
        have high : c.toNat ≤ 122 := of_decide_eq_true toLast
        omega
    · obtain ⟨fromFirst, toLast⟩ := Bool.and_eq_true_iff.mp digit
      have low : 48 ≤ c.toNat := of_decide_eq_true fromFirst
      have high : c.toNat ≤ 57 := of_decide_eq_true toLast
      omega
  · obtain rfl := eq_of_beq underscore
    decide

theorem isBlank_of_isNamePart {c : Char} (part : isNamePart c = true) :
    isBlank c = false := by
  have bounds := toNat_of_isNamePart part
  rw [Bool.eq_false_iff]
  intro blank
  simp only [isBlank, inIntervals, blankIntervals, List.any_cons,
    List.any_nil, Bool.or_false, Bool.or_eq_true, Bool.and_eq_true,
    decide_eq_true_eq] at blank
  omega

/-- An arrow begins with no character of an identifier. -/
theorem arrowFree_of_isName {text : List Char}
    (name : isName text = true) : ¬ arrow <:+: text := by
  intro present
  have member : '=' ∈ text := present.subset (by simp [arrow])
  exact notMem_of_isName (by decide) name member

end Tag

namespace Token

/-! ## Well-formed tokens -/

/-- The tokens that the reading of some text gives: what the text of an
untagged token ends in is not taken for a tag. -/
structure Canonical (token : Token) : Prop where
  trimmed : IsTrimmed token.text.toList
  tagName : ∀ tag ∈ token.tag, Tag.isName tag.name.toList = true
  untagged :
    token.tag = none → ∀ value suffix,
      token.text.toList = value ++ ':' :: suffix →
      Tag.isName suffix = false

/-- The tokens that reading can give inside a line, between arrows. -/
structure WellFormed (token : Token) : Prop extends Canonical token where
  arrowFree : ¬ arrow <:+: token.text.toList
  newlineFree : '\n' ∉ token.text.toList

def tagText (token : Token) : List Char :=
  token.tag.elim [] fun tag => ':' :: tag.name.toList

theorem toList_written (token : Token) :
    token.written.toList = token.text.toList ++ token.tagText := by
  cases hasTag : token.tag with
  | none => simp [written, tagText, hasTag]
  | some tag => simp [written, tagText, hasTag]

/-! ## Reading -/

theorem parse_eq_of_tag {raw value suffix : List Char}
    (shape : trim raw = value ++ ':' :: suffix)
    (name : Tag.isName suffix = true) :
    parse raw =
      ⟨String.ofList (trim value), some ⟨String.ofList suffix⟩⟩ := by
  have absent : ':' ∉ suffix := Tag.notMem_of_isName (by decide) name
  have cut : cutAtLast? ':' (trim raw) = some (value, suffix) :=
    cutAtLast?_eq_some_iff.mpr ⟨shape, absent⟩
  simp only [parse, cut, name, if_true]

theorem parse_eq_of_no_tag {raw : List Char}
    (noTag : ∀ value suffix, trim raw = value ++ ':' :: suffix →
      Tag.isName suffix = false) :
    parse raw = ⟨String.ofList (trim raw), none⟩ := by
  cases cut : cutAtLast? ':' (trim raw) with
  | none => simp only [parse, cut]
  | some parts =>
      have shape := eq_append_of_cutAtLast? cut
      simp only [parse, cut, noTag parts.1 parts.2 shape,
        Bool.false_eq_true, if_false]

/-- A text reads with the identifier behind its last colon as tag, or else
as a whole. -/
theorem parse_cases (raw : List Char) :
    (∃ value suffix, trim raw = value ++ ':' :: suffix ∧
      Tag.isName suffix = true ∧
      parse raw =
        ⟨String.ofList (trim value), some ⟨String.ofList suffix⟩⟩) ∨
    ((∀ value suffix, trim raw = value ++ ':' :: suffix →
        Tag.isName suffix = false) ∧
      parse raw = ⟨String.ofList (trim raw), none⟩) := by
  by_cases hasTag : ∃ value suffix, trim raw = value ++ ':' :: suffix ∧
      Tag.isName suffix = true
  · obtain ⟨value, suffix, shape, name⟩ := hasTag
    exact Or.inl ⟨value, suffix, shape, name, parse_eq_of_tag shape name⟩
  · have noTag : ∀ value suffix, trim raw = value ++ ':' :: suffix →
        Tag.isName suffix = false := by
      intro value suffix shape
      rw [Bool.eq_false_iff]
      intro name
      exact hasTag ⟨value, suffix, shape, name⟩
    exact Or.inr ⟨noTag, parse_eq_of_no_tag noTag⟩

theorem text_parse_isInfix (raw : List Char) :
    (parse raw).text.toList <:+: raw := by
  rcases parse_cases raw with
    ⟨value, suffix, shape, _, reading⟩ | ⟨_, reading⟩
  · rw [reading, String.toList_ofList]
    have inTrimmed : value <:+: trim raw := by
      rw [shape]
      exact (List.prefix_append value _).isInfix
    exact ((trim_isInfix value).trans inTrimmed).trans (trim_isInfix raw)
  · rw [reading, String.toList_ofList]
    exact trim_isInfix raw

theorem canonical_parse (raw : List Char) : (parse raw).Canonical := by
  rcases parse_cases raw with
    ⟨value, suffix, _, name, reading⟩ | ⟨noTag, reading⟩
  · rw [reading]
    refine ⟨?_, ?_, by simp⟩
    · rw [String.toList_ofList]
      exact isTrimmed_trim value
    · intro tag given
      cases given
      rwa [String.toList_ofList]
  · rw [reading]
    refine ⟨?_, by simp, ?_⟩
    · rw [String.toList_ofList]
      exact isTrimmed_trim raw
    · rw [String.toList_ofList]
      exact fun _ => noTag

theorem wellFormed_parse {raw : List Char} (arrowFree : ¬ arrow <:+: raw)
    (newlineFree : '\n' ∉ raw) : (parse raw).WellFormed where
  toCanonical := canonical_parse raw
  arrowFree present := arrowFree (present.trans (text_parse_isInfix raw))
  newlineFree member := newlineFree ((text_parse_isInfix raw).subset member)

theorem parse_nil : parse [] = Token.blank :=
  rfl

theorem isBlankText_of_parse_eq_blank {raw : List Char}
    (reading : parse raw = Token.blank) : IsBlankText raw := by
  rcases parse_cases raw with ⟨_, _, _, _, tagged⟩ | ⟨_, untagged⟩
  · have noTag : none = some _ :=
      congrArg Token.tag (reading.symm.trans tagged)
    cases noTag
  · rw [reading] at untagged
    have noText : String.ofList (trim raw) = "" :=
      (congrArg Token.text untagged).symm
    have empty := congrArg String.toList noText
    rw [String.toList_ofList] at empty
    exact trim_eq_nil_iff.mp empty

theorem parse_blank_append {front : List Char} (blank : IsBlankText front)
    (raw : List Char) : parse (front ++ raw) = parse raw := by
  unfold parse
  rw [trim_blank_append blank]

theorem parse_of_isBlankText {raw : List Char} (blank : IsBlankText raw) :
    parse raw = Token.blank := by
  rw [← List.append_nil raw, parse_blank_append blank, parse_nil]

theorem parse_trimEnd (raw : List Char) :
    parse (trimEnd raw) = parse raw := by
  unfold parse
  rw [trim_trimEnd]

/-! ## Writing -/

variable {token : Token}

theorem Canonical.isTrimmed_written (canonical : token.Canonical) :
    IsTrimmed token.written.toList := by
  rw [toList_written]
  cases hasTag : token.tag with
  | none =>
      rw [tagText, hasTag, Option.elim_none, List.append_nil]
      exact canonical.trimmed
  | some tag =>
      have name := canonical.tagName tag hasTag
      rw [tagText, hasTag, Option.elim_some]
      constructor
      · intro c atHead
        rw [List.head?_append] at atHead
        rcases Option.or_eq_some_iff.mp atHead with inText | ⟨_, atColon⟩
        · exact canonical.trimmed.1 c inText
        · rw [← Option.some.inj atColon]
          decide
      · intro c atLast
        rw [List.getLast?_append_of_ne_nil _ (List.cons_ne_nil _ _),
          List.getLast?_cons_of_ne_nil (Tag.ne_nil_of_isName name)]
          at atLast
        have member := List.mem_of_getLast? atLast
        exact Tag.isBlank_of_isNamePart
          (Tag.isNamePart_of_isName name c member)

/-- A canonical token is read back from its written form. -/
theorem Canonical.parse_written (canonical : token.Canonical) :
    parse token.written.toList = token := by
  have whole : trim token.written.toList = token.written.toList :=
    trim_of_trimmed canonical.isTrimmed_written
  rw [toList_written] at whole ⊢
  obtain ⟨text, tag?⟩ := token
  cases tag? with
  | none =>
      simp only [tagText, Option.elim_none, List.append_nil] at whole ⊢
      rw [parse_eq_of_no_tag (by rw [whole]; exact canonical.untagged rfl),
        whole, String.ofList_toList]
  | some tag =>
      simp only [tagText, Option.elim_some] at whole ⊢
      rw [parse_eq_of_tag whole (canonical.tagName tag rfl),
        trim_of_trimmed canonical.trimmed, String.ofList_toList,
        String.ofList_toList]

/-- A character outside identifiers that a token writes is its colon or
stands in its text. -/
theorem WellFormed.notMem_written (formed : token.WellFormed) {c : Char}
    (outside : Tag.isNamePart c = false) (notColon : c ≠ ':')
    (absent : c ∉ token.text.toList) : c ∉ token.written.toList := by
  rw [toList_written, List.mem_append, not_or]
  refine ⟨absent, ?_⟩
  cases hasTag : token.tag with
  | none => simp [tagText, hasTag]
  | some tag =>
      have name := formed.tagName tag hasTag
      simp [tagText, hasTag, notColon, Tag.notMem_of_isName outside name]

theorem WellFormed.arrowFree_written (formed : token.WellFormed) :
    ¬ arrow <:+: token.written.toList := by
  rw [toList_written]
  cases hasTag : token.tag with
  | none =>
      rw [tagText, hasTag, Option.elim_none, List.append_nil]
      exact formed.arrowFree
  | some tag =>
      have name := formed.tagName tag hasTag
      rw [tagText, hasTag, Option.elim_some,
        arrow_infix_append_cons_iff (by decide) (by decide), not_or]
      exact ⟨formed.arrowFree, Tag.arrowFree_of_isName name⟩

theorem written_eq_nil_iff :
    token.written.toList = [] ↔ token = Token.blank := by
  obtain ⟨text, tag?⟩ := token
  rw [toList_written, List.append_eq_nil_iff]
  cases tag? with
  | none => simp [tagText, blank]
  | some tag => simp [tagText, blank]

/-! ## Texts that end in a tag -/

/-- A text that ends, but for blanks, in a colon and an identifier. -/
def EndsInTag (raw value suffix : List Char) : Prop :=
  trim raw = value ++ ':' :: suffix ∧ Tag.IsIdentifier suffix

/-- An identifier holds no colon, so it stands behind the last one. -/
theorem EndsInTag.unique {raw value suffix otherValue otherSuffix : List Char}
    (ends : EndsInTag raw value suffix)
    (otherEnds : EndsInTag raw otherValue otherSuffix) :
    value = otherValue ∧ suffix = otherSuffix := by
  have atLast {front back : List Char} (given : EndsInTag raw front back) :
      cutAtLast? ':' (trim raw) = some (front, back) := by
    obtain ⟨shape, identifier⟩ := given
    have name : Tag.isName back = true := Tag.isName_iff.mpr identifier
    exact cutAtLast?_eq_some_iff.mpr
      ⟨shape, Tag.notMem_of_isName (by decide) name⟩
  have sameCut := (atLast ends).symm.trans (atLast otherEnds)
  exact Prod.mk.inj (Option.some.inj sameCut)

theorem EndsInTag.parse_eq {raw value suffix : List Char}
    (ends : EndsInTag raw value suffix) :
    parse raw =
      ⟨String.ofList (trim value), some ⟨String.ofList suffix⟩⟩ :=
  parse_eq_of_tag ends.1 (Tag.isName_iff.mpr ends.2)

theorem parse_eq_of_not_endsInTag {raw : List Char}
    (untagged : ∀ value suffix, ¬ EndsInTag raw value suffix) :
    parse raw = ⟨String.ofList (trim raw), none⟩ := by
  apply parse_eq_of_no_tag
  intro value suffix shape
  rw [Bool.eq_false_iff, ne_eq, Tag.isName_iff]
  exact fun identifier => untagged value suffix ⟨shape, identifier⟩

theorem tag_parse_eq_some_iff {raw : List Char} {tag : Tag} :
    (parse raw).tag = some tag ↔
      ∃ value, EndsInTag raw value tag.name.toList := by
  constructor
  · intro tagged
    by_cases someTag : ∃ value suffix, EndsInTag raw value suffix
    · obtain ⟨value, suffix, ends⟩ := someTag
      rw [ends.parse_eq] at tagged
      obtain rfl := Option.some.inj tagged
      exact ⟨value, by rwa [String.toList_ofList]⟩
    · have untagged : ∀ value suffix, ¬ EndsInTag raw value suffix :=
        fun value suffix ends => someTag ⟨value, suffix, ends⟩
      rw [parse_eq_of_not_endsInTag untagged] at tagged
      cases tagged
  · intro given
    obtain ⟨value, ends⟩ := given
    rw [ends.parse_eq, String.ofList_toList]

end Token

/-- Every text has one reading.  Where it ends, but for blanks, in a colon
and an identifier, which it does in one way only, these are the tag, and what
stands before them is the text; and else the whole is the text.  The text of
a token is trimmed, and a token that was read is read back from its written
form. -/
theorem token_reading_is_exact_and_stable (raw : List Char) :
    (∀ tag, (Token.parse raw).tag = some tag ↔
      ∃ value, Token.EndsInTag raw value tag.name.toList) ∧
    (∀ value suffix, Token.EndsInTag raw value suffix →
      Token.parse raw =
        ⟨String.ofList (trim value), some ⟨String.ofList suffix⟩⟩) ∧
    ((∀ value suffix, ¬ Token.EndsInTag raw value suffix) →
      Token.parse raw = ⟨String.ofList (trim raw), none⟩) ∧
    (∀ value suffix otherValue otherSuffix,
      Token.EndsInTag raw value suffix →
      Token.EndsInTag raw otherValue otherSuffix →
      value = otherValue ∧ suffix = otherSuffix) ∧
    IsTrimmed (Token.parse raw).text.toList ∧
    Token.parse (Token.parse raw).written.toList = Token.parse raw := by
  have canonical := Token.canonical_parse raw
  refine ⟨?_, ?_, ?_, ?_, canonical.trimmed, canonical.parse_written⟩
  · intro tag
    exact Token.tag_parse_eq_some_iff
  · intro value suffix ends
    exact ends.parse_eq
  · intro untagged
    exact Token.parse_eq_of_not_endsInTag untagged
  · intro value suffix otherValue otherSuffix ends otherEnds
    exact ends.unique otherEnds

/-- A value that ends in a colon and a word of its own, and blanks around the
colon of the tag. -/
example :
    Token.parse " a:b :string ".toList = ⟨"a:b", some ⟨"string"⟩⟩ ∧
      Token.parse "12:30".toList = ⟨"12:30", none⟩ := by
  decide

end DocCheck
