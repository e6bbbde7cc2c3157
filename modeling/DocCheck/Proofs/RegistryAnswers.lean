import DocCheck.Proofs.FindingOrder
import DocCheck.Proofs.RegistryHistory

/-!
# What a registry answers

After any sequence of changes a registry answers as a map of maps in which
the last writer wins.  A tag has the coercion that was registered for it
last, and if this is a catalogue, a key has the fixture that was added under
it last since then.  An added fixture changes the answer for its own key
only.  A refusal gives no registry: the one before it stands, and answers as
it did.
-/

namespace DocCheck

open Registry (Event)

/-! ## Answers -/

theorem Coercion.apply_fixtures (catalogue : Catalogue) (tag : Tag)
    (token : String) :
    (Coercion.fixtures catalogue).apply tag token =
      (catalogue.lookup token).mapError fun panic =>
        .panicked tag token panic.message := by
  rw [apply]
  cases catalogue.lookup token <;> rfl

namespace Registry

section Recorded

variable {registry : Registry} {history since : List Event} {tag : Tag}
  {coercion : Coercion}

theorem RecordedBy.coercion?_eq_none_iff
    (recorded : registry.RecordedBy history) (tag : Tag) :
    registry.coercion? tag = none ↔ ¬ EverRegistered history tag := by
  have stands := recorded tag
  cases found : registry.coercion? tag with
  | none =>
      rw [found] at stands
      cases stands with
      | unregistered never => simpa using never
  | some current =>
      rw [found] at stands
      cases stands with
      | registered last overridden => simpa using last.everRegistered

theorem RecordedBy.exists_overridden
    (recorded : registry.RecordedBy history)
    (last : LastRegistered history tag coercion since) :
    ∃ current, registry.coercion? tag = some current ∧
      Coercion.Overridden (fun key => lastAdded? tag key since) coercion
        current := by
  have stands := recorded tag
  cases found : registry.coercion? tag with
  | none =>
      exact absurd last.everRegistered
        ((recorded.coercion?_eq_none_iff tag).mp found)
  | some current =>
      rw [found] at stands
      cases stands with
      | registered otherLast overridden =>
          obtain ⟨rfl, rfl⟩ := last.unique otherLast
          exact ⟨current, rfl, overridden⟩

theorem RecordedBy.exists_catalogue_iff
    (recorded : registry.RecordedBy history) (tag : Tag) :
    (∃ current, registry.coercion? tag = some (.fixtures current)) ↔
      ∃ catalogue since,
        LastRegistered history tag (.fixtures catalogue) since := by
  constructor
  · intro given
    obtain ⟨current, found⟩ := given
    have stands := recorded tag
    rw [found] at stands
    cases stands with
    | registered last overridden =>
        cases overridden with
        | fixtures _ _ => exact ⟨_, _, last⟩
        | plain noCatalogue => cases noCatalogue
  · intro given
    obtain ⟨catalogue, since, last⟩ := given
    obtain ⟨current, found, overridden⟩ := recorded.exists_overridden last
    cases overridden with
    | fixtures _ _ => exact ⟨_, found⟩
    | plain noCatalogue => cases noCatalogue

end Recorded

variable {registry : Registry} {tag : Tag}

theorem resolve_of_coercion? {coercion : Coercion}
    (found : registry.coercion? tag = some coercion) (token : String) :
    registry.resolve tag token = coercion.apply tag token := by
  rw [resolve, found]

theorem resolve_eq_unknownTag_iff {token : String} :
    registry.resolve tag token = .error (.unknownTag tag) ↔
      registry.coercion? tag = none := by
  rw [resolve_eq_error_iff]
  constructor
  · intro refused
    cases refused with
    | unknownTag missing => exact missing
  · exact .unknownTag

theorem mem_tags_iff :
    tag ∈ registry.tags ↔ registry.contains tag = true := by
  obtain ⟨name⟩ := tag
  simp [tags, contains, Table.contains, Table.keys, NameSet.mem_toList]

theorem pairwise_tags (registry : Registry) :
    registry.tags.Pairwise fun earlier later =>
      earlier.name < later.name :=
  List.pairwise_map.mpr registry.coercions.names.ascending

theorem tags_eq_of_contains_eq {left right : Registry}
    (same : ∀ tag, left.contains tag = right.contains tag) :
    left.tags = right.tags := by
  have sameNames : left.coercions.names = right.coercions.names :=
    NameSet.ext fun name => by
      simpa [contains, Table.contains] using same ⟨name⟩
  rw [tags, tags, Table.keys, Table.keys, sameNames]

theorem requireComplete_eq_ok_iff :
    registry.requireComplete = .ok () ↔ registry.Complete := by
  rw [← missingBuiltin?_eq_none_iff, requireComplete]
  cases registry.missingBuiltin? <;> simp

/-- A registry that answers like another one, but for one key of one tag,
which has a new fixture. -/
structure GivesFixture (changed registry : Registry) (tag : Tag)
    (key : String) (fixture : Fixture) : Prop where
  there :
    changed.resolve tag key =
      fixture.mapError fun panic => .panicked tag key panic.message
  elsewhere :
    ∀ otherTag token, otherTag ≠ tag ∨ token ≠ key →
      changed.resolve otherTag token = registry.resolve otherTag token
  contains :
    ∀ otherTag, changed.contains otherTag = registry.contains otherTag
  tags : changed.tags = registry.tags

theorem givesFixture_withCoercion {catalogue : Catalogue}
    (found : registry.coercion? tag = some (.fixtures catalogue))
    (key : String) (fixture : Fixture) :
    (registry.withCoercion tag
      (.fixtures (catalogue.insert key fixture))).GivesFixture registry tag
        key fixture := by
  let changed :=
    registry.withCoercion tag (.fixtures (catalogue.insert key fixture))
  have atTag : changed.coercion? tag =
      some (.fixtures (catalogue.insert key fixture)) := by
    rw [coercion?_withCoercion, if_pos rfl]
  have atOther : ∀ otherTag, otherTag ≠ tag →
      changed.coercion? otherTag = registry.coercion? otherTag := by
    intro otherTag different
    rw [coercion?_withCoercion, if_neg different]
  have sameContains : ∀ otherTag,
      changed.contains otherTag = registry.contains otherTag := by
    intro otherTag
    rw [Bool.eq_iff_iff, contains_iff, contains_iff]
    by_cases same : otherTag = tag
    · rw [same, atTag, found]
      simp
    · rw [atOther otherTag same]
  refine ⟨?_, ?_, sameContains, tags_eq_of_contains_eq sameContains⟩
  · rw [resolve_of_coercion? atTag, Coercion.apply_fixtures,
      Catalogue.lookup_insert, if_pos rfl]
  · intro otherTag token otherwise
    by_cases same : otherTag = tag
    · have differentKey : token ≠ key :=
        otherwise.resolve_left (not_not_intro same)
      rw [same, resolve_of_coercion? atTag, resolve_of_coercion? found,
        Coercion.apply_fixtures, Coercion.apply_fixtures,
        Catalogue.lookup_insert, if_neg differentKey]
    · rw [resolve, atOther otherTag same, ← resolve]

/-- What comes of a change that adds a fixture: it is refused exactly when no
catalogue is registered for the tag, which leaves the registry as it is; else
only the key of the tag answers anew.  Either is what the history says of the
change. -/
structure TakesFixture (registry : Registry) (history : List Event)
    (tag : Tag) (key : String) (fixture : Fixture) (change : Change)
    (result : Except Misconfiguration Registry) : Prop where
  refused_iff :
    result = .error (.notACatalogue tag) ↔
      ¬ ∃ catalogue since,
        LastRegistered history tag (.fixtures catalogue) since
  refused :
    ∀ error, result = .error error →
      error = .notACatalogue tag ∧
      registry.perform change = (.refused tag key fixture, registry)
  added :
    ∀ changed, result = .ok changed →
      changed.GivesFixture registry tag key fixture ∧
      registry.perform change = (.added tag key fixture, changed)

/-- A registry that answers as the last writer in a history says. -/
structure AnswersBy (registry : Registry) (history : List Event) :
    Prop where
  unknownTag :
    ∀ tag token,
      registry.resolve tag token = .error (.unknownTag tag) ↔
        ¬ EverRegistered history tag
  plain :
    ∀ tag coercion since, LastRegistered history tag coercion since →
      coercion.catalogue? = none →
      ∀ token, registry.resolve tag token = coercion.apply tag token
  catalogue :
    ∀ tag catalogue since,
      LastRegistered history tag (.fixtures catalogue) since →
      ∀ token,
        registry.resolve tag token =
          (((lastAdded? tag token since).or
            (catalogue.fixtures.get? token)).getD
              catalogue.fallback).mapError fun panic =>
                .panicked tag token panic.message
  replaced :
    ∀ tag coercion, Standing history tag (registry.register tag coercion).1
  replacedByFunction :
    ∀ tag coerce,
      Standing history tag (registry.registerFunction tag coerce).1
  addFixture :
    ∀ tag key fixture,
      registry.TakesFixture history tag key fixture
        (.addFixture tag key fixture) (registry.addFixture tag key fixture)
  addObject :
    ∀ key fixture,
      registry.TakesFixture history Tag.object key fixture
        (.addObject key fixture) (registry.addObject key fixture)
  contains_iff :
    ∀ tag, registry.contains tag = true ↔ EverRegistered history tag
  tags_ascending :
    registry.tags.Pairwise fun earlier later => earlier.name < later.name
  mem_tags_iff :
    ∀ tag, tag ∈ registry.tags ↔ EverRegistered history tag
  complete_iff :
    registry.requireComplete = .ok () ↔
      ∀ tag ∈ Tag.builtins, EverRegistered history tag

section Recorded

variable {history : List Event}

theorem RecordedBy.resolve_catalogue
    (recorded : registry.RecordedBy history) {catalogue : Catalogue}
    {since : List Event}
    (last : LastRegistered history tag (.fixtures catalogue) since)
    (token : String) :
    registry.resolve tag token =
      (((lastAdded? tag token since).or
        (catalogue.fixtures.get? token)).getD
          catalogue.fallback).mapError fun panic =>
            .panicked tag token panic.message := by
  obtain ⟨current, found, overridden⟩ := recorded.exists_overridden last
  cases overridden with
  | fixtures sameFallback sameFixtures =>
      rw [resolve_of_coercion? found, Coercion.apply_fixtures,
        Catalogue.lookup, sameFixtures, sameFallback]
  | plain noCatalogue => cases noCatalogue

theorem RecordedBy.resolve_plain
    (recorded : registry.RecordedBy history) {coercion : Coercion}
    {since : List Event}
    (last : LastRegistered history tag coercion since)
    (noCatalogue : coercion.catalogue? = none) (token : String) :
    registry.resolve tag token = coercion.apply tag token := by
  obtain ⟨current, found, overridden⟩ := recorded.exists_overridden last
  cases overridden with
  | fixtures _ _ => cases noCatalogue
  | plain _ => exact resolve_of_coercion? found token

theorem RecordedBy.contains_iff_everRegistered
    (recorded : registry.RecordedBy history) (tag : Tag) :
    registry.contains tag = true ↔ EverRegistered history tag := by
  rw [contains_iff, Option.isSome_iff_ne_none, ne_eq,
    recorded.coercion?_eq_none_iff, not_not]

/-- What holds of a change whose outcome is that of adding a fixture. -/
theorem RecordedBy.takesFixture (recorded : registry.RecordedBy history)
    {tag : Tag} {key : String} {fixture : Fixture} {change : Change}
    (performed :
      registry.perform change =
        registry.settled tag key fixture
          (registry.addFixture tag key fixture)) :
    registry.TakesFixture history tag key fixture change
      (registry.addFixture tag key fixture) := by
  rcases registry.addFixture_cases tag key fixture with
    ⟨catalogue, found, isAdded⟩ | ⟨noCatalogue, isRefused⟩
  · rw [isAdded] at performed ⊢
    constructor
    · rw [← recorded.exists_catalogue_iff tag]
      simp [found]
    · intro error failed
      cases failed
    · intro changed succeeded
      cases succeeded
      exact ⟨givesFixture_withCoercion found key fixture, performed⟩
  · rw [isRefused] at performed ⊢
    constructor
    · rw [← recorded.exists_catalogue_iff tag]
      simpa using noCatalogue
    · intro error failed
      cases failed
      exact ⟨rfl, performed⟩
    · intro changed succeeded
      cases succeeded

theorem RecordedBy.answersBy (recorded : registry.RecordedBy history) :
    registry.AnswersBy history where
  unknownTag tag token := by
    rw [resolve_eq_unknownTag_iff, recorded.coercion?_eq_none_iff]
  plain tag coercion since last noCatalogue :=
    recorded.resolve_plain last noCatalogue
  catalogue tag catalogue since last := recorded.resolve_catalogue last
  replaced tag coercion := recorded tag
  replacedByFunction tag coerce := recorded tag
  addFixture tag key fixture := recorded.takesFixture rfl
  addObject key fixture := recorded.takesFixture rfl
  contains_iff := recorded.contains_iff_everRegistered
  tags_ascending := registry.pairwise_tags
  mem_tags_iff tag := by
    rw [Registry.mem_tags_iff, recorded.contains_iff_everRegistered]
  complete_iff := by
    rw [requireComplete_eq_ok_iff, Complete]
    exact forall₂_congr fun tag _ =>
      recorded.contains_iff_everRegistered tag

end Recorded

end Registry

/-- Whatever changes a host makes to the empty or the standard registry, the
registry answers as the last writer says, and the standard one stays
complete. -/
theorem registry_answers_by_last_writer (changes : List Registry.Change) :
    (Registry.empty.after changes).AnswersBy
      (Registry.empty.events changes) ∧
    (Registry.standard.after changes).AnswersBy
      (Registry.empty.events (Registry.standardChanges ++ changes)) ∧
    (Registry.standard.after changes).requireComplete = .ok () := by
  have fromEmpty (all : List Registry.Change) :
      (Registry.empty.after all).AnswersBy (Registry.empty.events all) :=
    (Registry.recordedBy_after Registry.recordedBy_empty all).answersBy
  have fromStandard := fromEmpty (Registry.standardChanges ++ changes)
  rw [← Registry.standard_after] at fromStandard
  refine ⟨fromEmpty changes, fromStandard, ?_⟩
  rw [fromStandard.complete_iff]
  intro tag builtin
  have atFirst := (fromEmpty Registry.standardChanges).contains_iff tag
  obtain ⟨coercion, member⟩ :=
    atFirst.mp (Registry.complete_standard tag builtin)
  rw [Registry.events_append]
  exact ⟨coercion, List.mem_append_left _ member⟩

/-- A fixture that is overridden, one that is refused, and a catalogue that is
registered anew: it has none of the fixtures of the old one, and a fixture
takes the place of one of its own. -/
theorem objects_answer_by_last_writer :
    let john : Fixture := .ok (.string "John")
    let ann : Fixture := .ok (.string "Ann")
    let first : List Registry.Change :=
      [.addObject "class" john, .addFixture ⟨"object"⟩ "class" ann,
        .addFixture ⟨"string"⟩ "class" john]
    let second : List Registry.Change :=
      [.register ⟨"object"⟩ (.fixtures Catalogue.objects),
        .addObject "test" ann]
    let before := Registry.standard.after first
    let after := Registry.standard.after (first ++ second)
    before.resolve ⟨"object"⟩ "class" = .ok (.string "Ann") ∧
    before.resolve ⟨"string"⟩ "class" = .ok (.string "class") ∧
    before.addFixture ⟨"string"⟩ "class" john =
      .error (.notACatalogue ⟨"string"⟩) ∧
    (∃ replaced : Catalogue,
      (before.register ⟨"object"⟩ (.fixtures Catalogue.objects)).1 =
        some (.fixtures replaced) ∧
      replaced.lookup "class" = ann) ∧
    after.resolve ⟨"object"⟩ "class" = .ok Value.emptyRecord ∧
    after.resolve ⟨"object"⟩ "test" = .ok (.string "Ann") ∧
    after.resolve ⟨"date"⟩ "test" = .error (.unknownTag ⟨"date"⟩) ∧
    after.requireComplete = .ok () := by
  intro john ann first second before after
  let builtins : List Event :=
    [.registered Tag.string .text, .registered Tag.number .number,
      .registered Tag.bool .bool]
  let objects : Event :=
    .registered Tag.object (.fixtures Catalogue.objects)
  let sinceFirst : List Event :=
    [.added Tag.object "class" john, .added Tag.object "class" ann,
      .refused Tag.string "class" john]
  let sinceSecond : List Event := [.added Tag.object "test" ann]
  have firstHistory :
      Registry.empty.events (Registry.standardChanges ++ first) =
        builtins ++ objects :: sinceFirst := rfl
  have history :
      Registry.empty.events
          (Registry.standardChanges ++ (first ++ second)) =
        builtins ++ objects :: sinceFirst ++ objects :: sinceSecond := rfl
  obtain ⟨_, answersBefore, _⟩ := registry_answers_by_last_writer first
  obtain ⟨_, answersAfter, complete⟩ :=
    registry_answers_by_last_writer (first ++ second)
  rw [firstHistory] at answersBefore
  rw [history] at answersAfter
  have objectsBefore : LastRegistered (builtins ++ objects :: sinceFirst)
      Tag.object (.fixtures Catalogue.objects) sinceFirst :=
    ⟨builtins, rfl, by simp [sinceFirst]⟩
  have objectsAfter : LastRegistered
      (builtins ++ objects :: sinceFirst ++ objects :: sinceSecond)
      Tag.object (.fixtures Catalogue.objects) sinceSecond :=
    ⟨_, rfl, by simp [sinceSecond]⟩
  have textBefore : LastRegistered (builtins ++ objects :: sinceFirst)
      Tag.string .text (builtins.tail ++ objects :: sinceFirst) :=
    ⟨[], rfl, by
      simp [builtins, objects, sinceFirst, Tag.string, Tag.number, Tag.bool,
        Tag.object]⟩
  have refusal := answersBefore.addFixture Tag.string "class" john
  have noDates : ¬ EverRegistered
      (builtins ++ objects :: sinceFirst ++ objects :: sinceSecond)
      ⟨"date"⟩ := by
    simp [EverRegistered, builtins, objects, sinceFirst, sinceSecond,
      Tag.string, Tag.number, Tag.bool, Tag.object]
  refine ⟨answersBefore.catalogue _ _ _ objectsBefore "class",
    answersBefore.plain _ _ _ textBefore rfl "class",
    refusal.refused_iff.mpr ?_, ⟨_, rfl, rfl⟩,
    answersAfter.catalogue _ _ _ objectsAfter "class",
    answersAfter.catalogue _ _ _ objectsAfter "test",
    (answersAfter.unknownTag ⟨"date"⟩ "test").mpr noDates, complete⟩
  intro given
  obtain ⟨catalogue, since, last⟩ := given
  cases (textBefore.unique last).1

end DocCheck
