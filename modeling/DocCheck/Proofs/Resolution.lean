import DocCheck.Case.Basic
import DocCheck.Proofs.Trimming
import Mathlib.Data.List.Forall2

/-!
# Resolved and refused tokens

A token is refused for one of six causes: its tag is not registered, it is no
number or no truth value, or the host code behind the tag fails or panics.
The operands of an assertion are its arguments from left to right and then
its expected result; a case is built exactly when there are as many arguments
as the symbol takes and every operand resolves, and else the first operand
that is refused counts.
-/

namespace DocCheck

/-! ## Refused tokens -/

/-- The causes for which a registry refuses a text under a tag. -/
inductive Registry.Refuses (registry : Registry) (tag : Tag)
    (text : String) : TokenError → Prop
  | unknownTag :
      registry.coercion? tag = none →
      Refuses registry tag text (.unknownTag tag)
  | invalidNumber :
      registry.coercion? tag = some .number →
      ¬ IsBlankText text.toList →
      Number.finiteOfLiteral? (trim text.toList) = none →
      Refuses registry tag text (.invalidNumber text)
  | invalidBool :
      registry.coercion? tag = some .bool →
      boolOfWord? (trim text.toList) = none →
      Refuses registry tag text (.invalidBool text)
  | rejected {coerce : String → Reply} {reason : String} :
      registry.coercion? tag = some (.custom coerce) →
      coerce text = .failed reason →
      Refuses registry tag text (.rejected tag text reason)
  | panickedCoercion {coerce : String → Reply} {panic : Panic} :
      registry.coercion? tag = some (.custom coerce) →
      coerce text = .panicked panic →
      Refuses registry tag text (.panicked tag text panic.message)
  | panickedFixture {catalogue : Catalogue} {panic : Panic} :
      registry.coercion? tag = some (.fixtures catalogue) →
      catalogue.lookup text = .error panic →
      Refuses registry tag text (.panicked tag text panic.message)

namespace Coercion

theorem readNumber_eq_error_iff {text : String} {cause : TokenError} :
    readNumber text = .error cause ↔
      ¬ IsBlankText text.toList ∧
        Number.finiteOfLiteral? (trim text.toList) = none ∧
        cause = .invalidNumber text := by
  rw [← trim_eq_nil_iff, readNumber]
  by_cases blank : trim text.toList = []
  · simp [blank]
  · cases Number.finiteOfLiteral? (trim text.toList) with
    | some literal => simp [blank]
    | none =>
        simp only [List.isEmpty_iff, blank, if_false, not_false_eq_true,
          true_and, Except.error.injEq]
        exact eq_comm

theorem readBool_eq_error_iff {text : String} {cause : TokenError} :
    readBool text = .error cause ↔
      boolOfWord? (trim text.toList) = none ∧
        cause = .invalidBool text := by
  rw [readBool]
  cases boolOfWord? (trim text.toList) with
  | some truth => simp
  | none =>
      simp only [Except.error.injEq, true_and]
      exact eq_comm

end Coercion

namespace Registry

variable {registry : Registry} {tag : Tag} {text : String}
  {cause : TokenError}

theorem refuses_of_resolve
    (failed : registry.resolve tag text = .error cause) :
    registry.Refuses tag text cause := by
  rw [resolve] at failed
  cases found : registry.coercion? tag with
  | none =>
      rw [found] at failed
      cases failed
      exact .unknownTag found
  | some coercion =>
      simp only [found] at failed
      cases coercion with
      | text => cases failed
      | number =>
          obtain ⟨notBlank, noLiteral, rfl⟩ :=
            Coercion.readNumber_eq_error_iff.mp failed
          exact .invalidNumber found notBlank noLiteral
      | bool =>
          obtain ⟨noWord, rfl⟩ :=
            Coercion.readBool_eq_error_iff.mp failed
          exact .invalidBool found noWord
      | fixtures catalogue =>
          cases built : catalogue.lookup text with
          | ok value => simp [Coercion.apply, built] at failed
          | error panic =>
              simp only [Coercion.apply, built] at failed
              cases failed
              exact .panickedFixture found built
      | custom coerce =>
          cases replied : coerce text with
          | returned value =>
              simp [Coercion.apply, Coercion.ofReply, replied] at failed
          | failed reason =>
              simp only [Coercion.apply, Coercion.ofReply,
                replied] at failed
              cases failed
              exact .rejected found replied
          | panicked panic =>
              simp only [Coercion.apply, Coercion.ofReply,
                replied] at failed
              cases failed
              exact .panickedCoercion found replied

theorem resolve_of_refuses (refused : registry.Refuses tag text cause) :
    registry.resolve tag text = .error cause := by
  cases refused with
  | unknownTag missing => simp [resolve, missing]
  | invalidNumber found notBlank noLiteral =>
      simp only [resolve, found, Coercion.apply]
      exact Coercion.readNumber_eq_error_iff.mpr
        ⟨notBlank, noLiteral, rfl⟩
  | invalidBool found noWord =>
      simp only [resolve, found, Coercion.apply]
      exact Coercion.readBool_eq_error_iff.mpr ⟨noWord, rfl⟩
  | rejected found replied =>
      simp [resolve, found, Coercion.apply, Coercion.ofReply, replied]
  | panickedCoercion found replied =>
      simp [resolve, found, Coercion.apply, Coercion.ofReply, replied]
  | panickedFixture found built =>
      simp [resolve, found, Coercion.apply, built]

/-- Resolving fails with exactly the causes of a refusal. -/
theorem resolve_eq_error_iff :
    registry.resolve tag text = .error cause ↔
      registry.Refuses tag text cause :=
  ⟨refuses_of_resolve, resolve_of_refuses⟩

end Registry

/-! ## Operands -/

/-- A token of an assertion, its position, and the type that a comment
documents for this position. -/
structure Operand where
  position : Position
  declared : Option String
  token : Token

/-- The arguments from a position on as operands. -/
def argumentOperands (documentation : Documentation) (start : Nat)
    (tokens : List Token) : List Operand :=
  (tokens.zipIdx start).map fun place =>
    ⟨.argument place.2, documentation.parameterType? place.2, place.1⟩

def expectedOperand (documentation : Documentation) (token : Token) :
    Operand :=
  ⟨.expected, documentation.returns, token⟩

/-- The operands of an assertion: the arguments from left to right, and then
the expected result. -/
def Assertion.operands (documentation : Documentation)
    (assertion : Assertion) : List Operand :=
  argumentOperands documentation 0 assertion.arguments ++
    [expectedOperand documentation assertion.expected]

@[simp]
theorem argumentOperands_nil (documentation : Documentation)
    (start : Nat) : argumentOperands documentation start [] = [] :=
  rfl

@[simp]
theorem argumentOperands_cons (documentation : Documentation)
    (start : Nat) (token : Token) (tokens : List Token) :
    argumentOperands documentation start (token :: tokens) =
      ⟨.argument start, documentation.parameterType? start, token⟩ ::
        argumentOperands documentation (start + 1) tokens := by
  simp [argumentOperands]

namespace Resolver

/-- What the token of an operand gives. -/
def valueOf (resolver : Resolver) (operand : Operand) :
    Except TokenError Value :=
  resolver.registry.resolve
    (resolver.tagOf operand.declared operand.token) operand.token.text

def Resolves (resolver : Resolver) (operand : Operand)
    (value : Value) : Prop :=
  resolver.registry.resolve
    (resolver.tagOf operand.declared operand.token)
    operand.token.text = .ok value

def Refuses (resolver : Resolver) (operand : Operand)
    (cause : TokenError) : Prop :=
  resolver.registry.Refuses
    (resolver.tagOf operand.declared operand.token)
    operand.token.text cause

/-- The leftmost operand that is refused. -/
def FirstRefusal (resolver : Resolver) (operands : List Operand)
    (operand : Operand) (cause : TokenError) : Prop :=
  ∃ before after, operands = before ++ operand :: after ∧
    (∀ earlier ∈ before, ∃ value, resolver.Resolves earlier value) ∧
    resolver.Refuses operand cause

variable {resolver : Resolver} {documentation : Documentation}

theorem resolves_iff {operand : Operand} {value : Value} :
    resolver.Resolves operand value ↔
      resolver.valueOf operand = .ok value :=
  Iff.rfl

theorem refuses_iff {operand : Operand} {cause : TokenError} :
    resolver.Refuses operand cause ↔
      resolver.valueOf operand = .error cause :=
  Registry.resolve_eq_error_iff.symm

theorem not_resolves_of_refuses {operand : Operand} {cause : TokenError}
    (refused : resolver.Refuses operand cause) (value : Value) :
    ¬ resolver.Resolves operand value := by
  intro resolved
  rw [resolves_iff, refuses_iff.mp refused] at resolved
  cases resolved

theorem refuses_unique {operand : Operand} {cause other : TokenError}
    (refused : resolver.Refuses operand cause)
    (otherRefused : resolver.Refuses operand other) : cause = other := by
  have failed := refuses_iff.mp refused
  have otherFailed := refuses_iff.mp otherRefused
  exact Except.error.inj (failed.symm.trans otherFailed)

theorem resolve_eq_ok_iff {declared : Option String}
    {position : Position} {token : Token} {value : Value} :
    resolver.resolve declared position token = .ok value ↔
      resolver.Resolves ⟨position, declared, token⟩ value := by
  unfold resolve Resolves
  cases resolver.registry.resolve (resolver.tagOf declared token)
    token.text <;> simp

theorem resolve_eq_error_iff {declared : Option String}
    {position : Position} {token : Token} {error : Rejection} :
    resolver.resolve declared position token = .error error ↔
      ∃ cause, resolver.Refuses ⟨position, declared, token⟩ cause ∧
        error = .token position cause := by
  simp only [resolve, Refuses, ← Registry.resolve_eq_error_iff]
  cases resolver.registry.resolve (resolver.tagOf declared token)
    token.text <;> simp [eq_comm]

/-! ## The first refusal -/

theorem not_firstRefusal_nil (operand : Operand) (cause : TokenError) :
    ¬ resolver.FirstRefusal [] operand cause := by
  intro given
  obtain ⟨before, after, shape, _⟩ := given
  simp at shape

theorem firstRefusal_cons_iff {first operand : Operand}
    {others : List Operand} {cause : TokenError} :
    resolver.FirstRefusal (first :: others) operand cause ↔
      (first = operand ∧ resolver.Refuses first cause) ∨
        ((∃ value, resolver.Resolves first value) ∧
          resolver.FirstRefusal others operand cause) := by
  constructor
  · intro given
    obtain ⟨before, after, shape, resolved, refused⟩ := given
    cases before with
    | nil =>
        obtain ⟨rfl, _⟩ := List.cons.inj shape
        exact Or.inl ⟨rfl, refused⟩
    | cons front before =>
        obtain ⟨rfl, shapeOthers⟩ := List.cons.inj shape
        refine Or.inr ⟨resolved first List.mem_cons_self, before, after,
          shapeOthers, ?_, refused⟩
        intro earlier member
        exact resolved earlier (List.mem_cons_of_mem first member)
  · intro given
    rcases given with ⟨rfl, refused⟩ |
      ⟨resolvedFirst, before, after, rfl, resolved, refused⟩
    · exact ⟨[], others, rfl, by simp, refused⟩
    · refine ⟨first :: before, after, rfl, ?_, refused⟩
      intro earlier member
      rcases List.mem_cons.mp member with rfl | inBefore
      · exact resolvedFirst
      · exact resolved earlier inBefore

theorem firstRefusal_append_iff {front rest : List Operand}
    {operand : Operand} {cause : TokenError} :
    resolver.FirstRefusal (front ++ rest) operand cause ↔
      resolver.FirstRefusal front operand cause ∨
        ((∀ earlier ∈ front, ∃ value, resolver.Resolves earlier value) ∧
          resolver.FirstRefusal rest operand cause) := by
  induction front with
  | nil => simp [not_firstRefusal_nil]
  | cons first others inductionHypothesis =>
      rw [List.cons_append, firstRefusal_cons_iff,
        firstRefusal_cons_iff, inductionHypothesis,
        List.forall_mem_cons, and_or_left, or_assoc, and_assoc]

theorem firstRefusal_unique {operands : List Operand}
    {operand otherOperand : Operand} {cause otherCause : TokenError}
    (first : resolver.FirstRefusal operands operand cause)
    (other : resolver.FirstRefusal operands otherOperand otherCause) :
    operand = otherOperand ∧ cause = otherCause := by
  induction operands with
  | nil => exact absurd first (not_firstRefusal_nil operand cause)
  | cons front rest inductionHypothesis =>
      rcases firstRefusal_cons_iff.mp first with
        ⟨rfl, refused⟩ | ⟨⟨value, resolved⟩, firstRest⟩
      · rcases firstRefusal_cons_iff.mp other with
          ⟨rfl, otherRefused⟩ | ⟨⟨value, resolved⟩, _⟩
        · exact ⟨rfl, refuses_unique refused otherRefused⟩
        · exact absurd resolved (not_resolves_of_refuses refused value)
      · rcases firstRefusal_cons_iff.mp other with
          ⟨rfl, otherRefused⟩ | ⟨_, otherRest⟩
        · exact absurd resolved
            (not_resolves_of_refuses otherRefused value)
        · exact inductionHypothesis firstRest otherRest

theorem exists_value_of_forall₂ {operands : List Operand}
    {values : List Value}
    (resolved : List.Forall₂ resolver.Resolves operands values) :
    ∀ operand ∈ operands, ∃ value, resolver.Resolves operand value := by
  induction resolved with
  | nil => simp
  | cons resolvedHere _ inductionHypothesis =>
      intro operand member
      rcases List.mem_cons.mp member with rfl | inRest
      · exact ⟨_, resolvedHere⟩
      · exact inductionHypothesis operand inRest

theorem not_forall₂_of_firstRefusal {operands : List Operand}
    {operand : Operand} {cause : TokenError}
    (first : resolver.FirstRefusal operands operand cause)
    (values : List Value) :
    ¬ List.Forall₂ resolver.Resolves operands values := by
  intro resolved
  obtain ⟨before, after, rfl, _, refused⟩ := first
  obtain ⟨value, resolvedHere⟩ :=
    exists_value_of_forall₂ resolved operand (by simp)
  exact not_resolves_of_refuses refused value resolvedHere

/-! ## Building -/

theorem resolveFrom_eq_ok_iff {start : Nat} {tokens : List Token}
    {values : List Value} :
    resolver.resolveFrom documentation start tokens = .ok values ↔
      List.Forall₂ resolver.Resolves
        (argumentOperands documentation start tokens) values := by
  induction tokens generalizing start values with
  | nil => simp [resolveFrom, eq_comm]
  | cons token tokens inductionHypothesis =>
      rw [argumentOperands_cons, resolveFrom]
      constructor
      · intro resolved
        split at resolved
        · cases resolved
        · next value first =>
            split at resolved
            · cases resolved
            · next others rest =>
                cases resolved
                exact .cons (resolve_eq_ok_iff.mp first)
                  (inductionHypothesis.mp rest)
      · intro resolved
        cases resolved with
        | cons first rest =>
            have firstOk := resolve_eq_ok_iff.mpr first
            have restOk := inductionHypothesis.mpr rest
            simp only [firstOk, restOk]

theorem resolveFrom_eq_error_iff {start : Nat} {tokens : List Token}
    {error : Rejection} :
    resolver.resolveFrom documentation start tokens = .error error ↔
      ∃ operand cause,
        resolver.FirstRefusal
          (argumentOperands documentation start tokens) operand cause ∧
        error = .token operand.position cause := by
  induction tokens generalizing start with
  | nil =>
      constructor
      · intro failed
        cases failed
      · intro given
        obtain ⟨operand, cause, first, _⟩ := given
        exact absurd first (not_firstRefusal_nil operand cause)
  | cons token tokens inductionHypothesis =>
      rw [argumentOperands_cons, resolveFrom]
      constructor
      · intro failed
        split at failed
        · next refusedError first =>
            cases failed
            obtain ⟨cause, refused, shape⟩ :=
              resolve_eq_error_iff.mp first
            exact ⟨_, cause,
              firstRefusal_cons_iff.mpr (Or.inl ⟨rfl, refused⟩), shape⟩
        · next value first =>
            split at failed
            · next restError rest =>
                cases failed
                obtain ⟨operand, cause, firstRest, shape⟩ :=
                  inductionHypothesis.mp rest
                exact ⟨operand, cause, firstRefusal_cons_iff.mpr
                  (Or.inr ⟨⟨value, resolve_eq_ok_iff.mp first⟩,
                    firstRest⟩), shape⟩
            · cases failed
      · intro given
        obtain ⟨operand, cause, first, rfl⟩ := given
        rcases firstRefusal_cons_iff.mp first with
          ⟨rfl, refused⟩ | ⟨⟨value, resolved⟩, firstRest⟩
        · have failed := resolve_eq_error_iff.mpr ⟨cause, refused, rfl⟩
          simp only [failed]
        · have firstOk := resolve_eq_ok_iff.mpr resolved
          have restFailed :=
            inductionHypothesis.mpr ⟨operand, cause, firstRest, rfl⟩
          simp only [firstOk, restFailed]

end Resolver

/-- All operands of an assertion have values: the arguments the given ones,
and the expected result the last one. -/
def Assertion.Resolved (resolver : Resolver)
    (documentation : Documentation) (assertion : Assertion)
    (arguments : List Value) (expected : Value) : Prop :=
  List.Forall₂ resolver.Resolves
      (argumentOperands documentation 0 assertion.arguments) arguments ∧
    resolver.Resolves
      (expectedOperand documentation assertion.expected) expected

namespace Assertion

variable {resolver : Resolver} {documentation : Documentation}
  {assertion : Assertion}

theorem not_resolved_of_firstRefusal {operand : Operand}
    {cause : TokenError} {arguments : List Value} {expected : Value}
    (first : resolver.FirstRefusal (assertion.operands documentation)
      operand cause) :
    ¬ assertion.Resolved resolver documentation arguments expected := by
  intro given
  obtain ⟨resolvedArguments, resolvedExpected⟩ := given
  exact Resolver.not_forall₂_of_firstRefusal first
    (arguments ++ [expected]) <|
      List.rel_append resolvedArguments (.cons resolvedExpected .nil)

theorem resolved_unique {arguments otherArguments : List Value}
    {expected otherExpected : Value}
    (resolved :
      assertion.Resolved resolver documentation arguments expected)
    (other :
      assertion.Resolved resolver documentation otherArguments
        otherExpected) :
    arguments = otherArguments ∧ expected = otherExpected := by
  have functional : Relator.RightUnique resolver.Resolves := by
    intro operand value otherValue resolvedHere otherHere
    rw [Resolver.Resolves, resolvedHere] at otherHere
    exact Except.ok.inj otherHere
  exact ⟨List.right_unique_forall₂' functional resolved.1 other.1,
    functional resolved.2 other.2⟩

end Assertion

namespace Case

variable {resolver : Resolver} {symbol : Symbol}
  {documentation : Documentation} {directive : Directive}
  {assertion : Assertion}

/-- A case is built when the number of arguments is right and all operands
have values. -/
theorem build_eq_ok_iff {case : Case} :
    build resolver symbol documentation directive assertion = .ok case ↔
      assertion.arguments.length = symbol.arity ∧
        ∃ arguments expected,
          assertion.Resolved resolver documentation arguments expected ∧
          case = {
            identity := directive.identity symbol.name
            kind := assertion.kind
            target := symbol.target
            arguments := arguments
            expected := expected
            line := directive.line } := by
  by_cases agree : assertion.arguments.length = symbol.arity
  · rw [build, if_pos agree]
    constructor
    · intro built
      split at built
      · cases built
      · next arguments resolvedArguments =>
          split at built
          · cases built
          · next expected resolvedExpected =>
              cases built
              exact ⟨agree, arguments, expected,
                ⟨Resolver.resolveFrom_eq_ok_iff.mp resolvedArguments,
                  Resolver.resolve_eq_ok_iff.mp resolvedExpected⟩, rfl⟩
    · intro given
      obtain ⟨_, arguments, expected,
        ⟨resolvedArguments, resolvedExpected⟩, rfl⟩ := given
      have argumentsOk :=
        Resolver.resolveFrom_eq_ok_iff.mpr resolvedArguments
      have expectedOk := Resolver.resolve_eq_ok_iff.mpr resolvedExpected
      simp only [argumentsOk, expectedOk]
  · rw [build, if_neg agree]
    simp [agree]

/-- A wrong number of arguments comes before every refused operand, and else
the first refused operand counts. -/
theorem rejection_of_build_eq_error {error : Rejection}
    (failed :
      build resolver symbol documentation directive assertion =
        .error error) :
    (assertion.arguments.length ≠ symbol.arity ∧
      error = .arityMismatch symbol.name symbol.arity
        assertion.arguments.length) ∨
    (assertion.arguments.length = symbol.arity ∧
      ∃ operand cause,
        resolver.FirstRefusal (assertion.operands documentation)
          operand cause ∧
        error = .token operand.position cause) := by
  by_cases agree : assertion.arguments.length = symbol.arity
  · refine Or.inr ⟨agree, ?_⟩
    rw [build, if_pos agree] at failed
    split at failed
    · next argumentError refusedArguments =>
        cases failed
        obtain ⟨operand, cause, first, shape⟩ :=
          Resolver.resolveFrom_eq_error_iff.mp refusedArguments
        exact ⟨operand, cause,
          Resolver.firstRefusal_append_iff.mpr (Or.inl first), shape⟩
    · next arguments resolvedArguments =>
        have resolved :=
          Resolver.resolveFrom_eq_ok_iff.mp resolvedArguments
        split at failed
        · next expectedError refusedExpected =>
            cases failed
            obtain ⟨cause, refused, shape⟩ :=
              Resolver.resolve_eq_error_iff.mp refusedExpected
            exact ⟨expectedOperand documentation assertion.expected, cause,
              Resolver.firstRefusal_append_iff.mpr <| Or.inr
                ⟨Resolver.exists_value_of_forall₂ resolved,
                  Resolver.firstRefusal_cons_iff.mpr
                    (Or.inl ⟨rfl, refused⟩)⟩,
              shape⟩
        · cases failed
  · rw [build, if_neg agree] at failed
    cases failed
    exact Or.inl ⟨agree, rfl⟩

end Case

end DocCheck
