import DocCheck.Number.Written
import DocCheck.Text.Quoted
import DocCheck.Value.Basic

/-!
# Written values

For display a string stands between quotes as it is, a record shows its
fields in the order of their names between braces, and an instance shows its
class before them.  For inspection every value shows its kind and strings
are quoted with escapes.
-/

namespace DocCheck.Value

mutual

/-- A value for display. -/
def written : Value → String
  | undefined => "undefined"
  | bool truth => if truth then "true" else "false"
  | number value => String.ofList value.written
  | string text => "\"" ++ text ++ "\""
  | record fields => writtenFields fields
  | instanceOf className fields => className ++ " " ++ writtenFields fields
termination_by structural value => value

/-- The fields of a record for display. -/
def writtenFields : Table Value → String
  | ⟨names, value⟩ =>
      if names.toList.isEmpty then
        "\x7b\x7d"
      else
        let fields := names.toList.attach.map fun name =>
          name.1 ++ ": " ++ (value name.1 name.2).written
        "\x7b " ++ ", ".intercalate fields ++ " \x7d"
termination_by structural fields => fields

end

/-- A value as the text of an answer: like its display, but a string stands
without quotes. -/
def plain : Value → String
  | string text => text
  | other => other.written

instance : ToString Value :=
  ⟨written⟩

mutual

/-- A value for inspection. -/
def inspected : Value → String
  | undefined => "Undefined"
  | bool truth => "Bool(" ++ (if truth then "true" else "false") ++ ")"
  | number value => "Number(" ++ String.ofList value.inspected ++ ")"
  | string text => "Str(" ++ quoted text ++ ")"
  | record fields => "Record(" ++ inspectedFields fields ++ ")"
  | instanceOf className fields =>
      "Instance(Instance \x7b class: " ++ quoted className ++
        ", fields: " ++ inspectedFields fields ++ " \x7d)"
termination_by structural value => value

/-- The fields of a record for inspection. -/
def inspectedFields : Table Value → String
  | ⟨names, value⟩ =>
      let fields := names.toList.attach.map fun name =>
        quoted name.1 ++ ": " ++ (value name.1 name.2).inspected
      "Record \x7b fields: \x7b" ++ ", ".intercalate fields ++ "\x7d \x7d"
termination_by structural fields => fields

end

end DocCheck.Value
