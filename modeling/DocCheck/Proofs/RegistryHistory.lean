import DocCheck.Coercion.Registry
import Mathlib.Data.List.Infix

/-!
# The history of a registry

A host sets a registry up by a sequence of changes: it registers coercions
for tags and adds fixtures to the catalogues behind them.  What came of the
changes is the history of the registry, and from it one tells what every tag
stands for: the coercion that was registered for it last, with the fixtures
that were added since.  Each change keeps the registry in step with its
history, and so does every sequence of changes.
-/

namespace DocCheck

/-! ## Changes and their history -/

namespace Registry

/-- What a host asks of a registry. -/
inductive Change where
  | register (tag : Tag) (coercion : Coercion)
  | registerFunction (tag : Tag) (coerce : String → Reply)
  | addFixture (tag : Tag) (key : String) (fixture : Fixture)
  | addObject (key : String) (fixture : Fixture)

/-- What came of a change: a coercion was registered for a tag, or a fixture
for a key of a tag was added or refused. -/
inductive Event where
  | registered (tag : Tag) (coercion : Coercion)
  | added (tag : Tag) (key : String) (fixture : Fixture)
  | refused (tag : Tag) (key : String) (fixture : Fixture)

/-- What came of a fixture, and the registry after it: the old one when the
fixture was refused. -/
def settled (registry : Registry) (tag : Tag) (key : String)
    (fixture : Fixture) : Except Misconfiguration Registry → Event × Registry
  | .ok changed => (.added tag key fixture, changed)
  | .error _ => (.refused tag key fixture, registry)

/-- What comes of a change, and the registry after it. -/
def perform (registry : Registry) : Change → Event × Registry
  | .register tag coercion =>
      (.registered tag coercion, (registry.register tag coercion).2)
  | .registerFunction tag coerce =>
      (.registered tag (.custom coerce),
        (registry.registerFunction tag coerce).2)
  | .addFixture tag key fixture =>
      registry.settled tag key fixture
        (registry.addFixture tag key fixture)
  | .addObject key fixture =>
      registry.settled Tag.object key fixture
        (registry.addObject key fixture)

/-- The registry after a sequence of changes. -/
def after (registry : Registry) (changes : List Change) : Registry :=
  changes.foldl (fun current change => (current.perform change).2) registry

/-- What came of a sequence of changes, one by one. -/
def events (registry : Registry) : List Change → List Event
  | [] => []
  | change :: changes =>
      (registry.perform change).1 ::
        (registry.perform change).2.events changes

/-- The changes that make an empty registry the standard one. -/
def standardChanges : List Change :=
  [.register Tag.string .text, .register Tag.number .number,
    .register Tag.bool .bool,
    .register Tag.object (.fixtures Catalogue.objects)]

theorem after_append (registry : Registry) (front back : List Change) :
    registry.after (front ++ back) = (registry.after front).after back :=
  List.foldl_append

theorem events_append (registry : Registry) (front back : List Change) :
    registry.events (front ++ back) =
      registry.events front ++ (registry.after front).events back := by
  induction front generalizing registry with
  | nil => rfl
  | cons change others inductionHypothesis =>
      rw [List.cons_append, events, inductionHypothesis, events,
        List.cons_append, after, after, List.foldl_cons]

theorem standard_after (changes : List Change) :
    standard.after changes = empty.after (standardChanges ++ changes) := by
  rw [after_append]
  rfl

end Registry

open Registry (Event)

/-- A coercion was registered for the tag at some time. -/
def EverRegistered (history : List Event) (tag : Tag) : Prop :=
  ∃ coercion, .registered tag coercion ∈ history

/-- The coercion was registered for the tag last, and these events came
since. -/
def LastRegistered (history : List Event) (tag : Tag) (coercion : Coercion)
    (since : List Event) : Prop :=
  ∃ before, history = before ++ .registered tag coercion :: since ∧
    ∀ other, .registered tag other ∉ since

/-- The fixture that an event has added under a key of a tag. -/
def Registry.Event.fixtureAt? (tag : Tag) (key : String) :
    Event → Option Fixture
  | added otherTag otherKey fixture =>
      if otherTag = tag ∧ otherKey = key then some fixture else none
  | _ => none

/-- The fixture that was added last under a key of a tag. -/
def lastAdded? (tag : Tag) (key : String) (history : List Event) :
    Option Fixture :=
  (history.filterMap (Event.fixtureAt? tag key)).getLast?

/-- A coercion after fixtures were added: a catalogue has them in place of
its own ones, and every other coercion is as it was. -/
inductive Coercion.Overridden (added : String → Option Fixture) :
    Coercion → Coercion → Prop
  | fixtures {catalogue current : Catalogue} :
      current.fallback = catalogue.fallback →
      (∀ key, current.fixtures.get? key =
        (added key).or (catalogue.fixtures.get? key)) →
      Overridden added (.fixtures catalogue) (.fixtures current)
  | plain {coercion : Coercion} :
      coercion.catalogue? = none →
      Overridden added coercion coercion

/-- What a tag stands for at the end of a history: nothing when it was never
registered, and else the coercion that was registered last, with the fixtures
that were added since. -/
inductive Standing (history : List Event) (tag : Tag) :
    Option Coercion → Prop
  | unregistered :
      ¬ EverRegistered history tag → Standing history tag none
  | registered {coercion current : Coercion} {since : List Event} :
      LastRegistered history tag coercion since →
      Coercion.Overridden (fun key => lastAdded? tag key since) coercion
        current →
      Standing history tag (some current)

/-! ## Longer histories -/

section Histories

variable {history since : List Event} {event : Event} {tag : Tag}
  {coercion : Coercion}

theorem LastRegistered.everRegistered
    (last : LastRegistered history tag coercion since) :
    EverRegistered history tag := by
  obtain ⟨before, rfl, _⟩ := last
  exact ⟨coercion, by simp⟩

theorem LastRegistered.length_le {otherCoercion : Coercion}
    {otherSince : List Event}
    (last : LastRegistered history tag coercion since)
    (otherLast : LastRegistered history tag otherCoercion otherSince) :
    since.length ≤ otherSince.length := by
  obtain ⟨before, shape, noneSince⟩ := last
  obtain ⟨otherBefore, otherShape, _⟩ := otherLast
  -- If more came since the last registration than since the other one, then
  -- the other one is among what came since the last.
  by_contra longer
  have lastSuffix : since <:+ history :=
    ⟨before ++ [.registered tag coercion], by simp [shape]⟩
  have otherSuffix : .registered tag otherCoercion :: otherSince <:+ history :=
    ⟨otherBefore, otherShape.symm⟩
  have inside : .registered tag otherCoercion :: otherSince <:+ since :=
    List.suffix_of_suffix_length_le otherSuffix lastSuffix
      (by simp only [List.length_cons]; omega)
  exact noneSince otherCoercion (inside.subset List.mem_cons_self)

theorem LastRegistered.unique {otherCoercion : Coercion}
    {otherSince : List Event}
    (last : LastRegistered history tag coercion since)
    (otherLast : LastRegistered history tag otherCoercion otherSince) :
    coercion = otherCoercion ∧ since = otherSince := by
  have sameLength : since.length = otherSince.length :=
    Nat.le_antisymm (last.length_le otherLast) (otherLast.length_le last)
  obtain ⟨before, shape, _⟩ := last
  obtain ⟨otherBefore, otherShape, _⟩ := otherLast
  have sameEnds := List.append_inj' (shape.symm.trans otherShape)
    (by simp [sameLength])
  obtain ⟨sameEvent, sameSince⟩ := List.cons.inj sameEnds.2
  cases sameEvent
  exact ⟨rfl, sameSince⟩

theorem lastRegistered_concat (history : List Event) (tag : Tag)
    (coercion : Coercion) :
    LastRegistered (history ++ [.registered tag coercion]) tag coercion
      [] :=
  ⟨history, rfl, by simp⟩

theorem LastRegistered.concat
    (last : LastRegistered history tag coercion since)
    (otherwise : ∀ other, event ≠ .registered tag other) :
    LastRegistered (history ++ [event]) tag coercion
      (since ++ [event]) := by
  obtain ⟨before, rfl, noneSince⟩ := last
  refine ⟨before, by simp, ?_⟩
  intro other member
  rcases List.mem_append.mp member with inSince | isEvent
  · exact noneSince other inSince
  · exact otherwise other (List.mem_singleton.mp isEvent).symm

theorem lastAdded?_concat (tag : Tag) (key : String)
    (history : List Event) (event : Event) :
    lastAdded? tag key (history ++ [event]) =
      (event.fixtureAt? tag key).or (lastAdded? tag key history) := by
  rw [lastAdded?, List.filterMap_append, List.getLast?_append, lastAdded?]
  cases added : event.fixtureAt? tag key <;> simp [added]

end Histories

namespace Standing

variable {history : List Event} {tag : Tag}

theorem concat_registered (history : List Event) (tag : Tag)
    (coercion : Coercion) :
    Standing (history ++ [.registered tag coercion]) tag
      (some coercion) := by
  refine .registered (lastRegistered_concat history tag coercion) ?_
  cases coercion with
  | fixtures catalogue =>
      exact .fixtures rfl fun key => by simp [lastAdded?]
  | _ => exact .plain rfl

/-- An event that concerns the tag in no way leaves it as it stands. -/
theorem concat_of_unconcerned {standing : Option Coercion} {event : Event}
    (stands : Standing history tag standing)
    (notRegistered : ∀ other, event ≠ .registered tag other)
    (notAdded : ∀ key, event.fixtureAt? tag key = none) :
    Standing (history ++ [event]) tag standing := by
  cases stands with
  | unregistered never =>
      refine .unregistered ?_
      intro given
      obtain ⟨coercion, member⟩ := given
      rcases List.mem_append.mp member with before | isEvent
      · exact never ⟨coercion, before⟩
      · exact notRegistered coercion (List.mem_singleton.mp isEvent).symm
  | @registered coercion current since last overridden =>
      refine .registered (last.concat notRegistered) ?_
      have sameAdded :
          (fun key => lastAdded? tag key (since ++ [event])) =
            fun key => lastAdded? tag key since := by
        funext key
        rw [lastAdded?_concat, notAdded, Option.none_or]
      rwa [sameAdded]

theorem concat_added {catalogue : Catalogue}
    (stands : Standing history tag (some (.fixtures catalogue)))
    (key : String) (fixture : Fixture) :
    Standing (history ++ [.added tag key fixture]) tag
      (some (.fixtures (catalogue.insert key fixture))) := by
  cases stands with
  | registered last overridden =>
      refine .registered (last.concat (by simp)) ?_
      cases overridden with
      | fixtures sameFallback sameFixtures =>
          refine .fixtures sameFallback ?_
          intro other
          rw [lastAdded?_concat, Catalogue.insert, Table.get?_insert]
          by_cases same : other = key
          · simp [Event.fixtureAt?, same]
          · have different : key ≠ other := fun equal => same equal.symm
            simp [Event.fixtureAt?, same, different, sameFixtures]
      | plain noCatalogue => cases noCatalogue

end Standing

/-! ## The invariant of a run -/

theorem Coercion.catalogue?_eq_some_iff {coercion : Coercion}
    {catalogue : Catalogue} :
    coercion.catalogue? = some catalogue ↔
      coercion = .fixtures catalogue := by
  cases coercion <;> simp [catalogue?]

namespace Registry

/-- Every tag of the registry is what it stands for in the history. -/
def RecordedBy (registry : Registry) (history : List Event) : Prop :=
  ∀ tag, Standing history tag (registry.coercion? tag)

theorem coercion?_empty (tag : Tag) : empty.coercion? tag = none :=
  Table.get?_empty tag.name

theorem recordedBy_empty : empty.RecordedBy [] := by
  intro tag
  rw [coercion?_empty]
  refine .unregistered ?_
  intro given
  obtain ⟨coercion, member⟩ := given
  exact List.not_mem_nil member

/-- A fixture is added to a catalogue, and refused by everything else. -/
theorem addFixture_cases (registry : Registry) (tag : Tag) (key : String)
    (fixture : Fixture) :
    (∃ catalogue, registry.coercion? tag = some (.fixtures catalogue) ∧
      registry.addFixture tag key fixture =
        .ok (registry.withCoercion tag
          (.fixtures (catalogue.insert key fixture)))) ∨
    ((∀ catalogue, registry.coercion? tag ≠ some (.fixtures catalogue)) ∧
      registry.addFixture tag key fixture =
        .error (.notACatalogue tag)) := by
  cases found : (registry.coercion? tag).bind Coercion.catalogue? with
  | some catalogue =>
      obtain ⟨coercion, atTag, isCatalogue⟩ :=
        Option.bind_eq_some_iff.mp found
      rw [Coercion.catalogue?_eq_some_iff] at isCatalogue
      exact Or.inl ⟨catalogue, by rw [atTag, isCatalogue],
        by rw [addFixture, found]⟩
  | none =>
      refine Or.inr ⟨?_, by rw [addFixture, found]⟩
      intro catalogue atTag
      rw [atTag, Option.bind_some] at found
      cases found

/-- A change registers a coercion, adds a fixture to a catalogue, or leaves
the registry as it is. -/
theorem perform_cases (registry : Registry) (change : Change) :
    (∃ tag coercion,
      registry.perform change =
        (.registered tag coercion, registry.withCoercion tag coercion)) ∨
    (∃ tag key fixture catalogue,
      registry.coercion? tag = some (.fixtures catalogue) ∧
      registry.perform change =
        (.added tag key fixture, registry.withCoercion tag
          (.fixtures (catalogue.insert key fixture)))) ∨
    ∃ tag key fixture,
      registry.perform change = (.refused tag key fixture, registry) := by
  have fixtureCases (tag : Tag) (key : String) (fixture : Fixture) :
      (∃ catalogue, registry.coercion? tag = some (.fixtures catalogue) ∧
        registry.settled tag key fixture
            (registry.addFixture tag key fixture) =
          (.added tag key fixture, registry.withCoercion tag
            (.fixtures (catalogue.insert key fixture)))) ∨
      registry.settled tag key fixture
          (registry.addFixture tag key fixture) =
        (.refused tag key fixture, registry) := by
    rcases registry.addFixture_cases tag key fixture with
      ⟨catalogue, atTag, added⟩ | ⟨_, refused⟩
    · exact Or.inl ⟨catalogue, atTag, by rw [added, settled]⟩
    · exact Or.inr (by rw [refused, settled])
  cases change with
  | register tag coercion => exact Or.inl ⟨tag, coercion, rfl⟩
  | registerFunction tag coerce =>
      exact Or.inl ⟨tag, .custom coerce, rfl⟩
  | addFixture tag key fixture =>
      rcases fixtureCases tag key fixture with
        ⟨catalogue, atTag, added⟩ | refused
      · exact Or.inr (Or.inl
          ⟨tag, key, fixture, catalogue, atTag, added⟩)
      · exact Or.inr (Or.inr ⟨tag, key, fixture, refused⟩)
  | addObject key fixture =>
      rcases fixtureCases Tag.object key fixture with
        ⟨catalogue, atTag, added⟩ | refused
      · exact Or.inr (Or.inl
          ⟨Tag.object, key, fixture, catalogue, atTag, added⟩)
      · exact Or.inr (Or.inr ⟨Tag.object, key, fixture, refused⟩)

/-- One change keeps the registry in step with its history. -/
theorem recordedBy_perform {registry : Registry} {history : List Event}
    (recorded : registry.RecordedBy history) (change : Change) :
    (registry.perform change).2.RecordedBy
      (history ++ [(registry.perform change).1]) := by
  intro other
  rcases registry.perform_cases change with
    ⟨tag, coercion, performed⟩ |
    ⟨tag, key, fixture, catalogue, atTag, performed⟩ |
    ⟨tag, key, fixture, performed⟩
  · rw [performed, coercion?_withCoercion]
    by_cases same : other = tag
    · rw [if_pos same, same]
      exact .concat_registered history tag coercion
    · rw [if_neg same]
      exact (recorded other).concat_of_unconcerned
        (by simp [Ne.symm same]) fun _ => rfl
  · rw [performed, coercion?_withCoercion]
    by_cases same : other = tag
    · rw [if_pos same, same]
      have stands := recorded tag
      rw [atTag] at stands
      exact stands.concat_added key fixture
    · rw [if_neg same]
      exact (recorded other).concat_of_unconcerned (by simp)
        fun _ => if_neg fun given => same given.1.symm
  · rw [performed]
    exact (recorded other).concat_of_unconcerned (by simp) fun _ => rfl

theorem recordedBy_after {registry : Registry} {history : List Event}
    (recorded : registry.RecordedBy history) (changes : List Change) :
    (registry.after changes).RecordedBy
      (history ++ registry.events changes) := by
  induction changes generalizing registry history with
  | nil => rwa [events, List.append_nil]
  | cons change changes inductionHypothesis =>
      have rest := inductionHypothesis (recordedBy_perform recorded change)
      rwa [List.append_assoc] at rest

end Registry

end DocCheck
