import DocCheck.Proofs.TokenTypes

/-!
# Extensions of a registry

A tag that is not built in concerns only the documents that mention it.  A
token is read under the tag on it, the tag for a documented type or the
default tag; so where a comment neither puts the tag on a token nor spells it
as a type, two registries that differ in this tag alone read every token
alike, and the reports are the same.
-/

namespace DocCheck

/-! ## Mentions -/

/-- A type that spells a tag: without outer blanks and in lower case it is
the name of the tag. -/
def Tag.SpelledBy (tag : Tag) (type : String) : Prop :=
  (trim type.toList).map Char.toLower = tag.name.toList

instance (tag : Tag) (type : String) : Decidable (tag.SpelledBy type) :=
  inferInstanceAs (Decidable (_ = _))

/-- The tokens of a well-formed directive.  A malformed one has none. -/
def Directive.tokens (directive : Directive) : List Token :=
  match directive.reading with
  | .ok assertion => assertion.arguments ++ [assertion.expected]
  | .error _ => []

/-- The documented types of the parameters and of the result. -/
def Documentation.types (documentation : Documentation) : List String :=
  documentation.parameters.filterMap Parameter.type ++
    documentation.returns.toList

/-- Whether the comment of a symbol mentions a tag, on a token of a directive
or as a documented type. -/
def Symbol.MentionsTag (symbol : Symbol) (tag : Tag) : Prop :=
  (∃ directive ∈ Directive.ofComment symbol.arity symbol.comment,
    ∃ token ∈ directive.tokens, token.tag = some tag) ∨
  ∃ type ∈ (Documentation.ofComment symbol.arity symbol.comment).types,
    tag.SpelledBy type

instance (symbol : Symbol) (tag : Tag) : Decidable (symbol.MentionsTag tag) :=
  inferInstanceAs (Decidable (_ ∨ _))

theorem Documentation.mem_types_of_declared?
    {documentation : Documentation} {position : Position} {type : String}
    (declared : documentation.declared? position = some type) :
    type ∈ documentation.types := by
  cases position with
  | argument index =>
      obtain ⟨parameter, found, typed⟩ :=
        Option.bind_eq_some_iff.mp declared
      exact List.mem_append_left _ <|
        List.mem_filterMap.mpr
          ⟨parameter, List.mem_of_getElem? found, typed⟩
  | expected =>
      exact List.mem_append_right _ (Option.mem_toList.mpr declared)

theorem Assertion.token_mem_tokens {directive : Directive}
    {assertion : Assertion} (reading : directive.reading = .ok assertion)
    {place : Position × Token} (member : place ∈ assertion.places) :
    place.2 ∈ directive.tokens := by
  rw [Directive.tokens, reading]
  rcases List.mem_append.mp member with argument | expected
  · obtain ⟨⟨token, index⟩, indexed, rfl⟩ := List.mem_map.mp argument
    exact List.mem_append_left _ (List.fst_mem_of_mem_zipIdx indexed)
  · obtain rfl := List.mem_singleton.mp expected
    exact List.mem_append_right _ (List.mem_singleton.mpr rfl)

/-! ## Registries that agree elsewhere -/

/-- Two registries with the same coercions for all tags but one. -/
def Registry.AgreeElsewhere (left right : Registry) (tag : Tag) : Prop :=
  ∀ other, other ≠ tag → left.coercion? other = right.coercion? other

namespace Registry

theorem agreeElsewhere_withCoercion (registry : Registry) (tag : Tag)
    (coercion : Coercion) :
    registry.AgreeElsewhere (registry.withCoercion tag coercion) tag := by
  intro other different
  rw [coercion?_withCoercion, if_neg different]

/-- The alias for truth values leads to a built-in tag, so only its own name
leads to another tag. -/
theorem declaredName_ne {tag : Tag} (custom : tag ∉ Tag.builtins)
    {type : String} (notSpelled : ¬ tag.SpelledBy type) :
    (⟨declaredName type⟩ : Tag) ≠ tag := by
  rintro rfl
  dsimp only [declaredName] at custom notSpelled
  split at custom
  · exact custom (by decide)
  · next noAlias =>
      exact notSpelled (by rw [Tag.SpelledBy, if_neg noAlias,
        String.toList_ofList])

variable {left right : Registry} {tag : Tag}

theorem AgreeElsewhere.contains_eq (agree : left.AgreeElsewhere right tag)
    {other : Tag} (different : other ≠ tag) :
    left.contains other = right.contains other := by
  rw [Bool.eq_iff_iff, contains_iff, contains_iff, agree other different]

theorem AgreeElsewhere.resolve_eq (agree : left.AgreeElsewhere right tag)
    {other : Tag} (different : other ≠ tag) (text : String) :
    left.resolve other text = right.resolve other text := by
  rw [resolve, resolve, agree other different]

theorem AgreeElsewhere.tagFor_eq (agree : left.AgreeElsewhere right tag)
    (custom : tag ∉ Tag.builtins) {type : String}
    (notSpelled : ¬ tag.SpelledBy type) :
    left.tagFor type = right.tagFor type := by
  rw [tagFor, tagFor, agree.contains_eq (declaredName_ne custom notSpelled)]

theorem tagFor_ne (registry : Registry) (custom : tag ∉ Tag.builtins)
    {type : String} (notSpelled : ¬ tag.SpelledBy type) :
    registry.tagFor type ≠ tag := by
  rw [tagFor]
  split
  · exact declaredName_ne custom notSpelled
  · rintro rfl
    exact custom (by decide)

end Registry

/-! ## Operands with the same values -/

namespace Resolver

variable {left right : Resolver} {operand : Operand}

theorem Resolves.of_valueOf_eq
    (same : left.valueOf operand = right.valueOf operand) {value : Value}
    (resolved : left.Resolves operand value) :
    right.Resolves operand value := by
  rwa [resolves_iff, ← same, ← resolves_iff]

theorem Refuses.of_valueOf_eq
    (same : left.valueOf operand = right.valueOf operand)
    {cause : TokenError} (refused : left.Refuses operand cause) :
    right.Refuses operand cause := by
  rwa [refuses_iff, ← same, ← refuses_iff]

theorem FirstRefusal.of_valueOf_eq {operands : List Operand}
    {cause : TokenError}
    (same :
      ∀ operand ∈ operands, left.valueOf operand = right.valueOf operand)
    (first : left.FirstRefusal operands operand cause) :
    right.FirstRefusal operands operand cause := by
  obtain ⟨before, after, rfl, resolved, refused⟩ := first
  obtain ⟨sameBefore, sameRest⟩ := List.forall_mem_append.mp same
  refine ⟨before, after, rfl, ?_,
    refused.of_valueOf_eq (sameRest operand List.mem_cons_self)⟩
  intro earlier member
  obtain ⟨value, resolvedHere⟩ := resolved earlier member
  exact ⟨value, resolvedHere.of_valueOf_eq (sameBefore earlier member)⟩

end Resolver

theorem Assertion.Resolved.of_valueOf_eq {left right : Resolver}
    {documentation : Documentation} {assertion : Assertion}
    {arguments : List Value} {expected : Value}
    (same :
      ∀ operand ∈ assertion.operands documentation,
        left.valueOf operand = right.valueOf operand)
    (resolved :
      assertion.Resolved left documentation arguments expected) :
    assertion.Resolved right documentation arguments expected := by
  obtain ⟨sameArguments, sameExpected⟩ := List.forall_mem_append.mp same
  obtain ⟨resolvedArguments, resolvedExpected⟩ := resolved
  have both := (List.forall₂_and_left _ _).mpr
    ⟨sameArguments, resolvedArguments⟩
  exact ⟨both.imp fun _ _ given => given.2.of_valueOf_eq given.1,
    resolvedExpected.of_valueOf_eq (sameExpected _ List.mem_cons_self)⟩

namespace Checker

variable {left right : Checker} {symbol : Symbol}

theorem judge_eq_of_valueOf_eq {documentation : Documentation}
    {directive : Directive}
    (same :
      ∀ assertion, directive.reading = .ok assertion →
        ∀ operand ∈ assertion.operands documentation,
          left.resolver.valueOf operand = right.resolver.valueOf operand) :
    left.judge symbol documentation directive =
      right.judge symbol documentation directive := by
  apply judge_congr
  · intro assertion operand cause reading
    exact Resolver.FirstRefusal.of_valueOf_eq (same assertion reading)
  · intro assertion arguments expected reading _ resolved
    exact ⟨resolved.of_valueOf_eq (same assertion reading), rfl⟩

variable {tag : Tag}

/-- Neither the tag of a token nor that for its type can be a tag that the
comment does not mention, and the default tag is another one. -/
theorem valueOf_eq_of_unmentioned (custom : tag ∉ Tag.builtins)
    (sameSettings : left.settings = right.settings)
    (agree : left.registry.AgreeElsewhere right.registry tag)
    (notDefault : left.settings.defaultTag ≠ tag) {operand : Operand}
    (notOwn : operand.token.tag ≠ some tag)
    (notSpelled :
      ∀ type, operand.declared = some type → ¬ tag.SpelledBy type) :
    left.resolver.valueOf operand = right.resolver.valueOf operand := by
  obtain ⟨position, declared, text, own⟩ := operand
  rw [Resolver.valueOf, Resolver.valueOf]
  cases own with
  | some used =>
      exact agree.resolve_eq (fun same => notOwn (congrArg some same)) text
  | none =>
      cases declared with
      | some type =>
          have unspelled := notSpelled type rfl
          have sameTag :
              right.registry.tagFor type = left.registry.tagFor type :=
            (agree.tagFor_eq custom unspelled).symm
          simp only [Resolver.tagOf, resolver, sameTag]
          exact agree.resolve_eq
            (left.registry.tagFor_ne custom unspelled) text
      | none =>
          simp only [Resolver.tagOf, resolver, ← sameSettings]
          exact agree.resolve_eq notDefault text

end Checker

/-- Two checkers with the same settings, whose registries differ at most in
one tag that is not built in and not the default one, give the same report on
every symbol whose comment does not mention this tag. -/
theorem unmentioned_extension_changes_no_report {tag : Tag}
    (custom : tag ∉ Tag.builtins) {left right : Checker}
    (sameSettings : left.settings = right.settings)
    (agree : left.registry.AgreeElsewhere right.registry tag)
    (notDefault : left.settings.defaultTag ≠ tag) {symbol : Symbol}
    (unmentioned : ¬ symbol.MentionsTag tag) :
    left.check symbol = right.check symbol := by
  obtain ⟨noToken, noType⟩ := not_or.mp unmentioned
  apply Checker.check_congr sameSettings
  intro directive member
  apply Checker.judge_eq_of_valueOf_eq
  intro assertion reading operand inOperands
  rw [← Assertion.map_operand_places] at inOperands
  obtain ⟨place, inPlaces, rfl⟩ := List.mem_map.mp inOperands
  apply Checker.valueOf_eq_of_unmentioned custom sameSettings agree
    notDefault
  · intro own
    exact noToken ⟨directive, member, place.2,
      Assertion.token_mem_tokens reading inPlaces, own⟩
  · intro type declared spelled
    exact noType
      ⟨type, Documentation.mem_types_of_declared? declared, spelled⟩

/-- A tag without a coercion in one registry and with one in the other.  The
comment puts a longer tag on a token, has the name of the tag as a text, and
puts the tag itself only on a malformed line. -/
theorem dates_touch_no_date_texts :
    let date : Tag := ⟨"date"⟩
    let reader : Coercion := .custom fun _ => .failed "no date"
    let dated : Checker :=
      { Checker.standard with
        registry := Checker.standard.registry.withCoercion date reader
        complete := Checker.standard.complete.withCoercion date reader }
    let symbol : Symbol :=
      ⟨"later", "@param \x7bDates\x7d day\n@param date\n" ++
        "@assert - 1:dates,date=>true\n@assert 2:date=>date\n" ++
        "@assert - date:string,date=>1:number\n@return \x7bBoolean\x7d", 2,
        Demo.greet⟩
    Checker.standard.registry.coercion? date = none ∧
    dated.registry.coercion? date = some reader ∧
    Checker.standard.check symbol = dated.check symbol := by
  intro date reader dated symbol
  have registered : dated.registry.coercion? date = some reader := by
    rw [Registry.coercion?_withCoercion, if_pos rfl]
  have custom : date ∉ Tag.builtins := by decide
  have sameSettings : Checker.standard.settings = dated.settings := rfl
  have agree : Checker.standard.registry.AgreeElsewhere dated.registry date :=
    Registry.agreeElsewhere_withCoercion _ date reader
  have notDefault : Checker.standard.settings.defaultTag ≠ date := by decide
  have unmentioned : ¬ symbol.MentionsTag date := by decide +kernel
  exact ⟨rfl, registered,
    unmentioned_extension_changes_no_report custom sameSettings agree
      notDefault unmentioned⟩

end DocCheck
