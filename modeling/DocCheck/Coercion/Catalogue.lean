import DocCheck.Coercion.Host
import DocCheck.Text.Quoted

/-!
# Fixture catalogues

A catalogue has fixtures under keys and one fixture for all other keys, the
blank key among them.
-/

namespace DocCheck

structure Catalogue where
  fixtures : Table Fixture
  fallback : Fixture

namespace Catalogue

/-- A catalogue without keys. -/
def ofFallback (fallback : Fixture) : Catalogue :=
  ⟨Table.empty, fallback⟩

/-- Puts a fixture under a key, in place of the one that stands there. -/
def insert (catalogue : Catalogue) (key : String) (fixture : Fixture) :
    Catalogue :=
  { catalogue with fixtures := catalogue.fixtures.insert key fixture }

/-- The catalogue of objects: one record with a name under the key `test`,
and the empty record under every other key. -/
def objects : Catalogue :=
  (ofFallback (.ok Value.emptyRecord)).insert "test"
    (.ok (Value.ofFields [("name", .string "John")]))

/-- The fixture of a key. -/
def lookup (catalogue : Catalogue) (key : String) : Fixture :=
  (catalogue.fixtures.get? key).getD catalogue.fallback

/-- Whether a fixture stands under the key itself. -/
def contains (catalogue : Catalogue) (key : String) : Bool :=
  catalogue.fixtures.contains key

/-- The keys in ascending order. -/
def keys (catalogue : Catalogue) : List String :=
  catalogue.fixtures.keys

/-- The text of a catalogue for inspection: its keys, quoted. -/
def inspected (catalogue : Catalogue) : String :=
  "FixtureCatalogue \x7b keys: [" ++
    ", ".intercalate (catalogue.keys.map quoted) ++ "], .. \x7d"

/-- An inserted fixture is found under its key and nowhere else. -/
theorem lookup_insert (catalogue : Catalogue) (key other : String)
    (fixture : Fixture) :
    (catalogue.insert key fixture).lookup other =
      if other = key then fixture else catalogue.lookup other := by
  by_cases same : other = key <;>
    simp [lookup, insert, Table.get?_insert, same]

end Catalogue

end DocCheck
