import DocCheck.Coercion.Basic
import DocCheck.Proofs.Numerals

/-!
# Reading numbers

The coercion of numbers accepts the numerals below the limit, with or without
a sign, and rounds each of them correctly.  It turns away every other token
that is not blank, the words for infinity and not-a-number among them, so it
gives finite numbers only.
-/

namespace DocCheck

/-! ## The front of a numeral -/

namespace Numeral

/-- A numeral begins with a digit or with the point. -/
theorem head_text (numeral : Numeral) :
    ∀ c ∈ numeral.text.head?, IsDigit c ∨ c = '.' := by
  obtain ⟨whole, fraction?, power?, wholeDigits, _, nonempty⟩ := numeral
  intro c atHead
  cases whole with
  | cons first others =>
      obtain rfl : first = c := Option.some.inj atHead
      exact .inl (wholeDigits first List.mem_cons_self)
  | nil =>
      cases fraction? with
      | none => simp at nonempty
      | some digits =>
          exact .inr (Option.some.inj atHead).symm

theorem text_ne_nil (numeral : Numeral) : numeral.text ≠ [] := by
  intro empty
  have read := numeral.readDecimal?_text
  rw [empty] at read
  cases read

theorem splitSign_append_text (sign : Sign) (numeral : Numeral) :
    splitSign (sign.text ++ numeral.text) =
      (sign.isMinus, numeral.text) := by
  apply Sign.splitSign_append
  intro c atHead
  rcases numeral.head_text c atHead with digit | rfl
  · exact not_sign_of_isDigit digit
  · decide

end Numeral

/-! ## The words for infinity and not-a-number -/

/-- The words, in lower case, that write a number which is not finite. -/
def nonFiniteWords : List (List Char) :=
  ["inf".toList, "infinity".toList, "nan".toList]

theorem head_of_map_toLower {word : List Char}
    (isWord : word.map Char.toLower ∈ nonFiniteWords) :
    ∃ first, word.head? = some first ∧
      (first.toLower = 'i' ∨ first.toLower = 'n') := by
  cases word with
  | nil => simp [nonFiniteWords] at isWord
  | cons first others =>
      refine ⟨first, rfl, ?_⟩
      rw [List.map_cons] at isWord
      simp only [nonFiniteWords, List.mem_cons, List.not_mem_nil, or_false]
        at isWord
      rcases isWord with inf | infinity | nan
      · exact .inl (List.cons.inj inf).1
      · exact .inl (List.cons.inj infinity).1
      · exact .inr (List.cons.inj nan).1

theorem toLower_of_isDigit {c : Char} (digit : IsDigit c) :
    c.toLower = c := by
  have below : c.val ≤ '9'.val := digit.2
  refine dif_neg ?_
  rintro ⟨upper, _⟩
  exact absurd (UInt32.le_trans upper below) (by decide)

/-- None of the words is a numeral. -/
theorem readDecimal?_nonFiniteWord {word : List Char}
    (isWord : word.map Char.toLower ∈ nonFiniteWords) :
    readDecimal? word = none := by
  obtain ⟨first, atHead, letter⟩ := head_of_map_toLower isWord
  rw [Option.eq_none_iff_forall_ne_some]
  intro decimal read
  obtain ⟨numeral, rfl, _⟩ := Numeral.readDecimal?_eq_some_iff.mp read
  rcases numeral.head_text first atHead with digit | rfl
  · rw [toLower_of_isDigit digit] at letter
    rcases letter with rfl | rfl <;> rw [← isDigit_iff] at digit <;>
      cases digit
  · revert letter
    decide

namespace Number

theorem finiteOfLiteral?_eq (text : List Char) :
    finiteOfLiteral? text =
      ((readDecimal? (splitSign text).2).map fun decimal =>
        ofMagnitude? (splitSign text).1
          (Magnitude.ofDecimal? decimal)).filter isFinite :=
  rfl

/-- To read a finite literal is to read any number and to keep it when it is
finite. -/
theorem finiteOfLiteral?_eq_filter (text : List Char) :
    finiteOfLiteral? text = (ofText? text).filter isFinite := by
  have rejected {lowered : List Char} (isWord : lowered ∈ nonFiniteWords)
      (same : String.ofList ((splitSign text).2.map Char.toLower) =
        String.ofList lowered) : finiteOfLiteral? text = none := by
    rw [String.ofList_inj] at same
    rw [finiteOfLiteral?_eq, readDecimal?_nonFiniteWord (same ▸ isWord)]
    rfl
  unfold ofText?
  dsimp only
  split
  · next same => exact rejected (by decide) same
  · next same => exact rejected (by decide) same
  · next same => exact rejected (by decide) same
  · rfl

theorem finiteOfLiteral?_eq_some_iff {text : List Char} {number : Number} :
    finiteOfLiteral? text = some number ↔
      ∃ (sign : Sign) (numeral : Numeral) (magnitude : Magnitude),
        text = sign.text ++ numeral.text ∧
        numeral.size < Magnitude.limit ∧
        magnitude.Rounds numeral.size ∧
        number = finite sign.isMinus magnitude := by
  constructor
  · intro read
    rw [finiteOfLiteral?_eq] at read
    obtain ⟨literal, isFinite⟩ := Option.filter_eq_some_iff.mp read
    obtain ⟨decimal, readDecimal, rfl⟩ := Option.map_eq_some_iff.mp literal
    obtain ⟨sign, spelled, isMinus⟩ := Sign.exists_splitSign text
    obtain ⟨numeral, numeralText, rfl⟩ :=
      Numeral.readDecimal?_eq_some_iff.mp readDecimal
    cases found : Magnitude.ofDecimal? numeral.decimal with
    | none =>
        rw [found] at isFinite
        cases isFinite
    | some magnitude =>
        obtain ⟨inRange, rounds⟩ := Magnitude.ofDecimal?_eq_some_iff.mp found
        rw [numeral.size_decimal] at inRange rounds
        refine ⟨sign, numeral, magnitude, ?_, inRange, rounds, ?_⟩
        · rw [numeralText, ← spelled]
        · rw [isMinus]
          rfl
  · rintro ⟨sign, numeral, magnitude, rfl, inRange, rounds, rfl⟩
    rw [← numeral.size_decimal] at inRange rounds
    rw [finiteOfLiteral?_eq, numeral.splitSign_append_text sign]
    dsimp only
    rw [numeral.readDecimal?_text, Option.map_some,
      Magnitude.ofDecimal?_eq_some_iff.mpr ⟨inRange, rounds⟩]
    rfl

theorem finiteOfLiteral?_eq_none_iff {text : List Char} :
    finiteOfLiteral? text = none ↔
      ∀ (sign : Sign) (numeral : Numeral),
        text = sign.text ++ numeral.text →
          Magnitude.limit ≤ numeral.size := by
  rw [Option.eq_none_iff_forall_ne_some]
  constructor
  · intro notRead sign numeral spelled
    by_contra inRange
    rw [not_le] at inRange
    obtain ⟨magnitude, rounds⟩ :=
      Magnitude.exists_rounds numeral.size_nonneg inRange
    exact notRead _ (finiteOfLiteral?_eq_some_iff.mpr
      ⟨sign, numeral, magnitude, spelled, inRange, rounds, rfl⟩)
  · intro outOfRange number read
    obtain ⟨sign, numeral, _, spelled, inRange, _⟩ :=
      finiteOfLiteral?_eq_some_iff.mp read
    exact absurd inRange (outOfRange sign numeral spelled).not_gt

end Number

/-! ## The coercion of numbers -/

/-- What the coercion of numbers gives for a token. -/
inductive ReadsNumber (token : String) : Except TokenError Value → Prop
  | blank :
      trim token.toList = [] →
      ReadsNumber token (.ok (.number .zero))
  | literal {sign : Sign} {numeral : Numeral} {magnitude : Magnitude} :
      trim token.toList = sign.text ++ numeral.text →
      numeral.size < Magnitude.limit →
      magnitude.Rounds numeral.size →
      ReadsNumber token (.ok (.number (.finite sign.isMinus magnitude)))
  | invalid :
      trim token.toList ≠ [] →
      (∀ (sign : Sign) (numeral : Numeral),
        trim token.toList = sign.text ++ numeral.text →
          Magnitude.limit ≤ numeral.size) →
      ReadsNumber token (.error (.invalidNumber token))

namespace ReadsNumber

theorem readNumber (token : String) :
    ReadsNumber token (Coercion.readNumber token) := by
  unfold Coercion.readNumber
  dsimp only
  split
  · next isEmpty => exact .blank (List.isEmpty_iff.mp isEmpty)
  · next notEmpty =>
      split
      · next number read =>
          obtain ⟨sign, numeral, magnitude, spelled, inRange, rounds, rfl⟩ :=
            Number.finiteOfLiteral?_eq_some_iff.mp read
          exact .literal spelled inRange rounds
      · next notRead =>
          exact .invalid (mt List.isEmpty_iff.mpr notEmpty)
            (Number.finiteOfLiteral?_eq_none_iff.mp notRead)

theorem readNumber_eq {token : String} {result : Except TokenError Value}
    (reads : ReadsNumber token result) :
    Coercion.readNumber token = result := by
  unfold Coercion.readNumber
  dsimp only
  cases reads with
  | blank noText =>
      rw [noText]
      rfl
  | @literal sign numeral magnitude spelled inRange rounds =>
      have nonempty : trim token.toList ≠ [] := by
        rw [spelled]
        exact List.append_ne_nil_of_right_ne_nil _ numeral.text_ne_nil
      rw [if_neg (mt List.isEmpty_iff.mp nonempty),
        Number.finiteOfLiteral?_eq_some_iff.mpr
          ⟨sign, numeral, magnitude, spelled, inRange, rounds, rfl⟩]
  | invalid nonempty outOfRange =>
      rw [if_neg (mt List.isEmpty_iff.mp nonempty),
        Number.finiteOfLiteral?_eq_none_iff.mpr outOfRange]

theorem isFinite {token : String} {value : Value}
    (reads : ReadsNumber token (.ok value)) :
    ∃ negative magnitude, value = .number (.finite negative magnitude) := by
  cases reads with
  | blank => exact ⟨_, _, rfl⟩
  | literal => exact ⟨_, _, rfl⟩

/-- A word for a number that is not finite is no numeral, whatever the sign
before it. -/
theorem of_nonFiniteWord {token : String} {sign : Sign} {word : List Char}
    (isWord : word.map Char.toLower ∈ nonFiniteWords)
    (spelled : trim token.toList = sign.text ++ word) :
    ReadsNumber token (.error (.invalidNumber token)) := by
  obtain ⟨first, atHead, letter⟩ := head_of_map_toLower isWord
  have unsigned : splitSign (sign.text ++ word) = (sign.isMinus, word) := by
    apply Sign.splitSign_append
    intro c sameHead
    obtain rfl : first = c := Option.some.inj (atHead.symm.trans sameHead)
    constructor
    · rintro rfl
      revert letter
      decide
    · rintro rfl
      revert letter
      decide
  refine .invalid ?_ (Number.finiteOfLiteral?_eq_none_iff.mp ?_)
  · intro noText
    rw [spelled, List.append_eq_nil_iff] at noText
    rw [noText.2] at atHead
    cases atHead
  · rw [spelled, Number.finiteOfLiteral?_eq, unsigned,
      readDecimal?_nonFiniteWord isWord]
    rfl

end ReadsNumber

/-- The coercion of numbers accepts exactly the blank tokens and the numerals
below the limit, which it rounds correctly; so it never gives a number that
is not finite, and none of the words for such a number is accepted. -/
theorem number_coercion_reads_the_finite_numerals (tag : Tag)
    (token : String) :
    (∀ result, Coercion.number.apply tag token = result ↔
      ReadsNumber token result) ∧
    (∀ value, Coercion.number.apply tag token = .ok value →
      ∃ negative magnitude, value = .number (.finite negative magnitude)) ∧
    (∀ (sign : Sign) (word : List Char),
      word.map Char.toLower ∈ nonFiniteWords →
      trim token.toList = sign.text ++ word →
      Coercion.number.apply tag token =
        .error (.invalidNumber token)) := by
  show (∀ result, Coercion.readNumber token = result ↔ _) ∧
    (∀ value, Coercion.readNumber token = .ok value → _) ∧
    ∀ sign word, _ → _ → Coercion.readNumber token = _
  refine ⟨fun result => ⟨?_, ReadsNumber.readNumber_eq⟩, ?_, ?_⟩
  · rintro rfl
    exact ReadsNumber.readNumber token
  · intro value read
    exact (read ▸ ReadsNumber.readNumber token).isFinite
  · intro sign word isWord spelled
    exact (ReadsNumber.of_nonFiniteWord isWord spelled).readNumber_eq

end DocCheck
