import DocCheck.Number.Basic
import DocCheck.Table.Basic

/-!
# Values

The values that symbols take and return: the undefined value, truth values,
numbers, strings, records of named fields, and instances of classes.
-/

namespace DocCheck

inductive Value where
  | undefined
  | bool (truth : Bool)
  | number (value : Number)
  | string (text : String)
  | record (fields : Table Value)
  | instanceOf (className : String) (fields : Table Value)

namespace Value

instance : Inhabited Value :=
  ⟨undefined⟩

/-- The record without fields. -/
def emptyRecord : Value :=
  record Table.empty

/-- The record with the given fields; the last pair of a name counts. -/
def ofFields (fields : List (String × Value)) : Value :=
  record (Table.ofList fields)

def asString? : Value → Option String
  | string text => some text
  | _ => none

def asNumber? : Value → Option Number
  | number value => some value
  | _ => none

def asBool? : Value → Option Bool
  | bool truth => some truth
  | _ => none

/-- The fields of a record or an instance. -/
def fields? : Value → Option (Table Value)
  | record fields => some fields
  | instanceOf _ fields => some fields
  | _ => none

/-- A field of a record or an instance.  A field that is missing there reads
as undefined; other values have no fields at all. -/
def field? (value : Value) (name : String) : Option Value :=
  value.fields?.map fun fields => (fields.get? name).getD undefined

def isUndefined : Value → Bool
  | undefined => true
  | _ => false

/-- Whether a value has fields. -/
def isObject (value : Value) : Bool :=
  value.fields?.isSome

/-- The name of the kind of a value. -/
def kindName : Value → String
  | undefined => "undefined"
  | bool _ => "bool"
  | number _ => "number"
  | string _ => "string"
  | record _ => "object"
  | instanceOf _ _ => "instance"

end Value

end DocCheck
