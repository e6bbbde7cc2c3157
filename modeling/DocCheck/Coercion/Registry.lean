import DocCheck.Coercion.Basic

/-!
# Registries

A registry gives a coercion to each of its tags; the last one registered for
a tag counts.  Fixtures are added to the catalogue behind a tag.  A registry
is complete when it has every built-in tag.
-/

namespace DocCheck

/-- Why a registry cannot be used or changed. -/
inductive Misconfiguration where
  | missingBuiltin (tag : Tag)
  | notACatalogue (tag : Tag)
deriving DecidableEq, Repr

namespace Misconfiguration

def code : Misconfiguration → Code
  | missingBuiltin _ => .missingBuiltin
  | notACatalogue _ => .notACatalogue

def message : Misconfiguration → String
  | missingBuiltin tag =>
      "built-in type tag `" ++ tag.name ++ "` is not registered"
  | notACatalogue tag =>
      "type tag `" ++ tag.name ++ "` is not a fixture catalogue"

def suggestions : Misconfiguration → List String
  | missingBuiltin _ =>
      ["start from `TypeRegistry::new()` instead of " ++
        "`TypeRegistry::empty()`"]
  | notACatalogue _ => []

def diagnostic (error : Misconfiguration) : Diagnostic where
  code := error.code
  message := error.message
  suggestions := error.suggestions

end Misconfiguration

structure Registry where
  coercions : Table Coercion

namespace Registry

def empty : Registry :=
  ⟨Table.empty⟩

/-- The coercion of a tag. -/
def coercion? (registry : Registry) (tag : Tag) : Option Coercion :=
  registry.coercions.get? tag.name

def contains (registry : Registry) (tag : Tag) : Bool :=
  registry.coercions.contains tag.name

/-- The registered tags in ascending order. -/
def tags (registry : Registry) : List Tag :=
  registry.coercions.keys.map Tag.mk

/-- The registry with a coercion for a tag, in place of the one that the tag
has. -/
def withCoercion (registry : Registry) (tag : Tag) (coercion : Coercion) :
    Registry :=
  ⟨registry.coercions.insert tag.name coercion⟩

/-- Registers a coercion for a tag and returns the one that it replaces. -/
def register (registry : Registry) (tag : Tag) (coercion : Coercion) :
    Option Coercion × Registry :=
  (registry.coercion? tag, registry.withCoercion tag coercion)

/-- Registers host code as the coercion for a tag. -/
def registerFunction (registry : Registry) (tag : Tag)
    (coerce : String → Reply) : Option Coercion × Registry :=
  registry.register tag (.custom coerce)

/-- The registry with the built-in tags. -/
def standard : Registry :=
  empty
    |>.withCoercion Tag.string .text
    |>.withCoercion Tag.number .number
    |>.withCoercion Tag.bool .bool
    |>.withCoercion Tag.object (.fixtures Catalogue.objects)

/-- Adds a fixture to the catalogue behind a tag. -/
def addFixture (registry : Registry) (tag : Tag) (key : String)
    (fixture : Fixture) : Except Misconfiguration Registry :=
  match (registry.coercion? tag).bind Coercion.catalogue? with
  | some catalogue =>
      .ok (registry.withCoercion tag
        (.fixtures (catalogue.insert key fixture)))
  | none => .error (.notACatalogue tag)

/-- Adds a fixture to the built-in catalogue of objects. -/
def addObject (registry : Registry) (key : String)
    (fixture : Fixture) : Except Misconfiguration Registry :=
  registry.addFixture Tag.object key fixture

/-- The value of a token under a tag. -/
def resolve (registry : Registry) (tag : Tag) (token : String) :
    Except TokenError Value :=
  match registry.coercion? tag with
  | some coercion => coercion.apply tag token
  | none => .error (.unknownTag tag)

/-- Whether every built-in tag is registered. -/
def Complete (registry : Registry) : Prop :=
  ∀ tag ∈ Tag.builtins, registry.contains tag = true

/-- The first built-in tag that is not registered. -/
def missingBuiltin? (registry : Registry) : Option Tag :=
  Tag.builtins.find? fun tag => !registry.contains tag

/-- Checks that the registry is complete. -/
def requireComplete (registry : Registry) : Except Misconfiguration Unit :=
  match registry.missingBuiltin? with
  | some tag => .error (.missingBuiltin tag)
  | none => .ok ()

/-- The name of a tag for the type that a comment documents: the type
without outer blanks and in lower case, with `boolean` for `bool`. -/
def declaredName (declared : String) : String :=
  let name := String.ofList ((trim declared.toList).map Char.toLower)
  if name = "boolean" then "bool" else name

/-- The tag for a documented type: the registered tag of that name, or the
tag of strings. -/
def tagFor (registry : Registry) (declared : String) : Tag :=
  let tag : Tag := ⟨declaredName declared⟩
  if registry.contains tag then tag else Tag.string

/-- A registry without a missing tag is complete, and only such a one. -/
theorem missingBuiltin?_eq_none_iff {registry : Registry} :
    registry.missingBuiltin? = none ↔ registry.Complete := by
  simp [missingBuiltin?, Complete]

/-- Only the tag itself changes its coercion. -/
theorem coercion?_withCoercion (registry : Registry) (tag other : Tag)
    (coercion : Coercion) :
    (registry.withCoercion tag coercion).coercion? other =
      if other = tag then some coercion else registry.coercion? other := by
  obtain ⟨name⟩ := tag
  obtain ⟨otherName⟩ := other
  simp [coercion?, withCoercion, Table.get?_insert]

theorem contains_iff {registry : Registry} {tag : Tag} :
    registry.contains tag = true ↔ (registry.coercion? tag).isSome := by
  simp [contains, coercion?, Table.contains]

end Registry

end DocCheck
