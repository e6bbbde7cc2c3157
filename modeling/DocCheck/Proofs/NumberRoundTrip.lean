import DocCheck.Number.Written
import DocCheck.Proofs.Echo
import DocCheck.Proofs.NumberReading

/-!
# Written numbers are read back

The text of a finite number is a numeral without an exponent, with a sign
only for a negative number, and it is rounded to the number that it was
written for.  It has no blank and none of the characters that divide a
directive, so it can stand with a tag on both sides of an arrow.
-/

namespace DocCheck

/-! ## Shortest decimals -/

namespace Magnitude

/-- A magnitude is nearest to itself. -/
theorem rounds_size (magnitude : Magnitude) :
    magnitude.Rounds magnitude.size := by
  have unit : (2 : ℚ) ^ 1074 ≠ 0 := (pow_pos two_pos _).ne'
  constructor
  · intro other
    rw [sub_self, abs_zero]
    exact abs_nonneg _
  · intro other different tie
    rw [sub_self, abs_zero, abs_eq_zero, sub_eq_zero] at tie
    have sameUnits : magnitude.units = other.units := by
      exact_mod_cast (div_left_inj' unit).mp tie
    exact absurd (units_injective sameUnits).symm different

theorem size_lt_limit (magnitude : Magnitude) : magnitude.size < limit := by
  have below : (magnitude.significand : ℚ) + 1 ≤ 2 ^ 53 := by
    exact_mod_cast magnitude.significand_lt
  have above (scaled : 0 < magnitude.scale) :
      (2 : ℚ) ^ 52 ≤ magnitude.significand := by
    exact_mod_cast le_significand scaled
  rw [size, div_lt_limit_iff, units_eq, Nat.cast_mul, Nat.cast_pow,
    Nat.cast_ofNat, scaled_lt_limit_iff (by linarith) above]
  rcases Nat.lt_or_eq_of_le magnitude.scale_le with low | top
  · exact .inl low
  · exact .inr ⟨top, by linarith⟩

/-- Powers of five and two make the power of ten. -/
theorem mul_five_pow_mul (exact : ℚ) (places : Nat) :
    exact * 5 ^ places * 10 ^ (-(places : ℤ)) = exact / 2 ^ places := by
  have ten : (10 : ℚ) ^ places = 5 ^ places * 2 ^ places := by
    rw [← mul_pow]
    norm_num
  rw [zpow_neg, zpow_natCast, ten]
  field_simp

theorem size_expansion (magnitude : Magnitude) :
    magnitude.expansion.size = magnitude.size := by
  have fives : (Nat.pow 5 1074 : ℚ) = 5 ^ 1074 := by
    generalize 1074 = places
    exact cast_pow_eq 5 places
  have exact := mul_five_pow_mul magnitude.units 1074
  rw [Nat.cast_ofNat] at exact
  rw [Decimal.size, expansion, Nat.cast_mul, fives, exact, size]

/-- The shortest decimal is read as the magnitude. -/
theorem ofDecimal?_shortest (magnitude : Magnitude) :
    ofDecimal? magnitude.shortest = some magnitude := by
  unfold shortest
  split
  · next isZero =>
      rw [isZero]
      rfl
  · dsimp only
    cases found : (List.range 18).findSome? fun digits : Nat =>
        magnitude.onGrid? (magnitude.order - digits) with
    | some decimal =>
        obtain ⟨digits, _, onGrid⟩ := List.exists_of_findSome?_eq_some found
        exact ofDecimal?_of_onGrid? onGrid
    | none =>
        rw [Option.getD_none, ofDecimal?_eq_some_iff, size_expansion]
        exact ⟨magnitude.size_lt_limit, magnitude.rounds_size⟩

end Magnitude

/-! ## Positional notation -/

theorem valueOfDigits_digitsOf (number : Nat) :
    valueOfDigits (digitsOf number) = number :=
  Nat.ofDigitChars_toDigits (by omega) le_rfl

theorem valueOfDigits_replicate (zeros : Nat) :
    valueOfDigits (List.replicate zeros '0') = 0 :=
  Nat.ofDigitChars_replicate_zero.trans (Nat.mul_zero _)

theorem isDigit_of_mem_digitsOf {number : Nat} {c : Char}
    (member : c ∈ digitsOf number) : IsDigit c :=
  isDigit_iff.mp (Nat.isDigit_of_mem_toDigits (by omega) le_rfl member)

theorem isDigit_of_mem_replicate {zeros : Nat} {c : Char}
    (member : c ∈ List.replicate zeros '0') : IsDigit c := by
  rw [List.eq_of_mem_replicate member]
  exact isDigit_iff.mp rfl

namespace Numeral

/-- A numeral without an exponent has digits and perhaps a point. -/
theorem mem_text {numeral : Numeral} (noPower : numeral.power? = none)
    {c : Char} (member : c ∈ numeral.text) : IsDigit c ∨ c = '.' := by
  have fractionDigits := numeral.fractionDigits
  rw [text, noPower] at member
  rcases List.mem_append.mp member with inWhole | inFraction
  · exact .inl (numeral.wholeDigits c inWhole)
  · unfold fractionText at inFraction
    generalize numeral.fraction? = fraction? at fractionDigits inFraction
    cases fraction? with
    | none => cases inFraction
    | some digits =>
        rcases List.mem_cons.mp (List.append_nil _ ▸ inFraction) with
          point | inDigits
        · exact .inr point
        · exact .inl (fractionDigits c inDigits)

/-- Digits with a point before the last ones are a numeral, also where zeros
are put in front to have enough of them. -/
theorem exists_pointed {digits : List Char}
    (areDigits : ∀ c ∈ digits, IsDigit c) (places : Nat) :
    ∃ numeral : Numeral, numeral.power? = none ∧
      numeral.text = pointed digits places ∧
      numeral.decimal = ⟨valueOfDigits digits, -(places : ℤ)⟩ := by
  obtain ⟨padded, given⟩ : ∃ padded, padded =
      List.replicate (places + 1 - digits.length) '0' ++ digits := ⟨_, rfl⟩
  have paddedDigits : ∀ c ∈ padded, IsDigit c := by
    intro c member
    rw [given] at member
    rcases List.mem_append.mp member with zero | digit
    · exact isDigit_of_mem_replicate zero
    · exact areDigits c digit
  have wide : places < padded.length := by
    rw [given, List.length_append, List.length_replicate]
    omega
  have sameValue : valueOfDigits padded = valueOfDigits digits := by
    rw [given, valueOfDigits_append, valueOfDigits_replicate, Nat.zero_mul,
      Nat.zero_add]
  have nonempty : padded.take (padded.length - places) ≠ [] := by
    rw [ne_eq, List.take_eq_nil_iff]
    rintro (none | empty)
    · omega
    · rw [empty] at wide
      cases wide
  refine ⟨⟨padded.take (padded.length - places),
    some (padded.drop (padded.length - places)), none,
    fun c member => paddedDigits c (List.mem_of_mem_take member),
    fun c member => paddedDigits c (List.mem_of_mem_drop member),
    .inl nonempty⟩, rfl, ?_, ?_⟩
  · rw [pointed, ← given]
    exact congrArg (padded.take _ ++ '.' :: ·) (List.append_nil _)
  · have fractionLength :
        (padded.drop (padded.length - places)).length = places := by
      rw [List.length_drop]
      omega
    show (⟨valueOfDigits (padded.take _ ++ padded.drop _),
      0 - ((padded.drop _).length : ℤ)⟩ : Decimal) = _
    rw [List.take_append_drop, sameValue, fractionLength, zero_sub]

/-- Digits before zeros are a numeral. -/
theorem exists_whole (coefficient zeros : Nat) :
    ∃ numeral : Numeral, numeral.power? = none ∧
      numeral.text =
        digitsOf coefficient ++ List.replicate zeros '0' ∧
      numeral.size = coefficient * 10 ^ zeros := by
  have wholeDigits : ∀ c ∈ digitsOf coefficient ++
      List.replicate zeros '0', IsDigit c := by
    intro c member
    rcases List.mem_append.mp member with digit | zero
    · exact isDigit_of_mem_digitsOf digit
    · exact isDigit_of_mem_replicate zero
  have nonempty :
      digitsOf coefficient ++ List.replicate zeros '0' ≠ [] := by
    simp [digitsOf]
  refine ⟨⟨_, none, none, wholeDigits, by simp, .inl nonempty⟩, rfl,
    List.append_nil _, ?_⟩
  have value : valueOfDigits (digitsOf coefficient ++
      List.replicate zeros '0') = coefficient * 10 ^ zeros := by
    rw [valueOfDigits_append, valueOfDigits_digitsOf,
      valueOfDigits_replicate, List.length_replicate, Nat.add_zero]
  rw [← size_decimal, decimal, Decimal.size, fraction]
  dsimp only
  rw [Option.getD_none, List.append_nil, value]
  simp [powerExponent]

end Numeral

/-- Positional notation is a numeral of the same number. -/
theorem Decimal.exists_numeral (decimal : Decimal) :
    ∃ numeral : Numeral, numeral.power? = none ∧
      numeral.text = decimal.positional ∧
      numeral.size = decimal.size := by
  obtain ⟨coefficient, exponent⟩ := decimal
  cases exponent with
  | ofNat zeros =>
      rw [size_ofNat]
      exact Numeral.exists_whole coefficient zeros
  | negSucc places =>
      have areDigits : ∀ c ∈ digitsOf coefficient, IsDigit c :=
        fun _ member => isDigit_of_mem_digitsOf member
      obtain ⟨numeral, noPower, spelled, same⟩ :=
        Numeral.exists_pointed areDigits (places + 1)
      refine ⟨numeral, noPower, spelled, ?_⟩
      rw [← numeral.size_decimal, same, valueOfDigits_digitsOf]
      rfl

/-! ## The text of a finite number -/

namespace Number

/-- The sign that a finite number is written with. -/
def signOf (negative : Bool) : Sign :=
  if negative then .minus else .absent

theorem isMinus_signOf (negative : Bool) :
    (signOf negative).isMinus = negative := by
  cases negative <;> rfl

/-- A finite number is written as a numeral that is rounded to it. -/
theorem exists_numeral_written (negative : Bool) (magnitude : Magnitude) :
    ∃ numeral : Numeral, numeral.power? = none ∧
      (finite negative magnitude).written =
        (signOf negative).text ++ numeral.text ∧
      numeral.size < Magnitude.limit ∧ magnitude.Rounds numeral.size := by
  obtain ⟨numeral, noPower, spelled, same⟩ :=
    magnitude.shortest.exists_numeral
  refine ⟨numeral, noPower, ?_, ?_⟩
  · rw [spelled]
    cases negative <;> rfl
  · rw [same]
    exact Magnitude.ofDecimal?_eq_some_iff.mp magnitude.ofDecimal?_shortest

section Text

variable {negative : Bool} {magnitude : Magnitude} {c : Char}

theorem mem_written (member : c ∈ (finite negative magnitude).written) :
    IsDigit c ∨ c = '.' ∨ c = '-' := by
  obtain ⟨numeral, noPower, spelled, _⟩ :=
    exists_numeral_written negative magnitude
  rw [spelled] at member
  rcases List.mem_append.mp member with inSign | inNumeral
  · cases negative with
    | true => exact .inr (.inr (List.mem_singleton.mp inSign))
    | false => cases inSign
  · exact (Numeral.mem_text noPower inNumeral).imp_right .inl

theorem isBlank_of_mem_written
    (member : c ∈ (finite negative magnitude).written) :
    isBlank c = false := by
  rcases mem_written member with digit | rfl | rfl
  · exact Tag.isBlank_of_isNamePart
      (Tag.isNamePart_iff.mpr (.inr (.inl digit)))
  · decide
  · decide

theorem isTrimmed_written :
    IsTrimmed (finite negative magnitude).written :=
  ⟨fun _ atHead => isBlank_of_mem_written (List.mem_of_mem_head? atHead),
    fun _ atLast => isBlank_of_mem_written (List.mem_of_getLast? atLast)⟩

end Text

/-- The text of a finite number is read as the number, with the sign of a
zero. -/
theorem readNumber_written (negative : Bool) (magnitude : Magnitude) :
    let number : Value := .number (finite negative magnitude)
    Coercion.readNumber number.written = .ok number := by
  intro number
  obtain ⟨numeral, _, spelled, inRange, rounds⟩ :=
    exists_numeral_written negative magnitude
  have trimmed : trim number.written.toList =
      (signOf negative).text ++ numeral.text := by
    rw [Value.written, String.toList_ofList,
      trim_of_trimmed isTrimmed_written, spelled]
  have reads := ReadsNumber.literal trimmed inRange rounds
  rw [isMinus_signOf] at reads
  exact reads.readNumber_eq

/-! ## The directive -/

/-- The text of a number with the tag of numbers. -/
def tagged (number : Number) : String :=
  (Value.number number).written ++ ":number"

theorem toList_tagged (number : Number) :
    number.tagged.toList = number.written ++ ':' :: "number".toList := by
  have tag : ":number".toList = ':' :: "number".toList := by decide
  rw [tagged, String.toList_append, tag, Value.written,
    String.toList_ofList]

section Tagged

variable {negative : Bool} {magnitude : Magnitude}

theorem notMem_tagged {c : Char} (notDigit : c.isDigit = false)
    (notSign : c ≠ '.' ∧ c ≠ '-') (notInTag : c ∉ ':' :: "number".toList) :
    c ∉ (finite negative magnitude).tagged.toList := by
  rw [toList_tagged, List.mem_append, not_or]
  refine ⟨fun member => ?_, notInTag⟩
  rcases mem_written member with digit | point | dash
  · rw [← isDigit_iff, notDigit] at digit
    cases digit
  · exact notSign.1 point
  · exact notSign.2 dash

theorem isEchoable_tagged :
    IsEchoable (finite negative magnitude).tagged.toList where
  newlineFree := notMem_tagged rfl (by decide) (by decide)
  commaFree := notMem_tagged rfl (by decide) (by decide)
  arrowFree present := by
    have absent : '=' ∉ (finite negative magnitude).tagged.toList :=
      notMem_tagged rfl (by decide) (by decide)
    exact absent (present.subset List.mem_cons_self)
  unclosed closed := by
    have absent : '/' ∉ (finite negative magnitude).tagged.toList :=
      notMem_tagged rfl (by decide) (by decide)
    exact absent (mem_of_mem_trim (closed.subset (by decide)))

theorem parse_tagged :
    Token.parse (finite negative magnitude).tagged.toList =
      ⟨(Value.number (finite negative magnitude)).written,
        some Tag.number⟩ := by
  have trimmed : IsTrimmed
      ((finite negative magnitude).written ++ ':' :: "number".toList) := by
    have tag : IsTrimmed (':' :: "number".toList) := by decide
    exact tag.append_left (List.cons_ne_nil _ _) isTrimmed_written.1
  rw [toList_tagged, Token.parse_eq_of_tag (trim_of_trimmed trimmed)
    (by decide), trim_of_trimmed isTrimmed_written, Value.written]
  rfl

theorem valueOfText_tagged {checker : Checker}
    (bound : checker.registry.coercion? Tag.number = some .number) :
    checker.valueOfText (finite negative magnitude).tagged =
      .ok (.number (finite negative magnitude)) := by
  simp only [Checker.valueOfText, parse_tagged, Option.getD_some]
  rw [Registry.resolve, bound]
  exact readNumber_written negative magnitude

end Tagged

end Number

/-- The text of a finite number is read as this number, and a symbol that
returns its argument passes with it on an assertion that gives the text for
the same text. -/
theorem written_number_survives_a_directive (negative : Bool)
    (magnitude : Magnitude) (checker : Checker)
    (unfiltered : checker.settings.filter = none)
    (bound : checker.registry.coercion? Tag.number = some .number)
    (name : String) {target : Target}
    (returns : ∀ value, target [value] = .returned value) :
    let number : Value := .number (.finite negative magnitude)
    let text := number.written
    (∀ tag, Coercion.number.apply tag text = .ok number) ∧
    checker.registry.resolve Tag.number text = .ok number ∧
    (checker.check ⟨name,
        "@assert - " ++ text ++ ":number=>" ++ text ++ ":number", 1,
        target⟩).findings =
      [.ran (Verdict.echo name number .pass)] := by
  intro number text
  have read : Coercion.readNumber text = .ok number :=
    Number.readNumber_written negative magnitude
  have comment :
      "@assert - " ++ text ++ ":number=>" ++ text ++ ":number" =
        echoComment (Number.finite negative magnitude).tagged := by
    have divided : ":number=>" = ":number" ++ "=>" := by decide
    rw [echoComment, Number.tagged, divided]
    simp only [String.append_assoc, text, number]
  have notNaN : ¬ number.HoldsNaN := by
    rw [Value.holdsNaN_number_iff]
    exact Bool.false_ne_true
  have echoable :
      IsEchoable (Number.finite negative magnitude).tagged.toList :=
    Number.isEchoable_tagged
  have echoes :=
    checker.judge_echo name returns echoable (echoable.untyped 1)
  refine ⟨fun _ => read, ?_, ?_⟩
  · rw [Registry.resolve, bound]
    exact read
  · rw [comment, Checker.findings_echo unfiltered echoable,
      echoes.eq_passed (Number.valueOfText_tagged bound) notNaN]

/-- Negative zero is written with its sign and keeps it. -/
theorem negative_zero_survives_a_directive :
    let echo : Target := fun arguments =>
      match arguments with
      | [value] => .returned value
      | _ => .failed "one argument"
    let number : Value := .number (.finite true Magnitude.zero)
    number.written = "-0" ∧
    Registry.standard.resolve Tag.number "-0" = .ok number ∧
    (Checker.standard.check
        ⟨"echo", "@assert - -0:number=>-0:number", 1, echo⟩).findings =
      [.ran (Verdict.echo "echo" number .pass)] := by
  intro echo number
  have text : (Value.number (.finite true Magnitude.zero)).written = "-0" := by
    rw [Value.written]
    decide
  have comment : "@assert - " ++ "-0" ++ ":number=>" ++ "-0" ++ ":number" =
      "@assert - -0:number=>-0:number" := by
    decide
  have returns : ∀ value, echo [value] = .returned value := fun _ => rfl
  obtain ⟨_, resolved, passed⟩ := written_number_survives_a_directive true
    Magnitude.zero Checker.standard rfl rfl "echo" returns
  rw [text] at resolved passed
  rw [comment] at passed
  exact ⟨text, resolved, passed⟩

end DocCheck
