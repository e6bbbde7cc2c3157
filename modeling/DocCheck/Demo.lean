import DocCheck.Case.Symbol
import DocCheck.Coercion.Registry
import DocCheck.Value.Written

/-!
# Demonstration

A small catalogue of documented symbols.  Some of their directives fail on
purpose, and two are rejected: one passes two arguments to a function of one
parameter and one uses a number as a truth value.
-/

namespace DocCheck.Demo

def greetComment : String :=
  "\n".intercalate
    ["/**",
      " * Greets a person by name.",
      " * @param \x7bString\x7d name - Name of the person to greet",
      " * @returns \x7bString\x7d",
      " *",
      " * @assert \x7bAssertion\x7d Test1 - John:string=>Hello, John!",
      " * @assert \x7bAssertion\x7d Test2 - Ben:string=>Hello, John!",
      " * @assert Test3 - John:string,Ben=>Hello, John and Ben!",
      " * @assert Test4 - 1:bool=>Hello, true!:string",
      " * @assert - John=>Hello, John!",
      " */"]

def addComment : String :=
  "\n".intercalate
    ["/**",
      " * Adds two numbers together.",
      " * @param \x7bNumber\x7d a",
      " * @param \x7bNumber\x7d b",
      " * @returns \x7bNumber\x7d",
      " *",
      " * @assert - 1:number,2:number=>3:number",
      " * @assert - 1:number,2:number=>5:number",
      " */"]

def nameOfComment : String :=
  "\n".intercalate
    ["/**",
      " * Returns the name property of an object.",
      " * @param \x7bObject\x7d object - Object to read name from",
      " * @returns \x7bString\x7d",
      " *",
      " * @assert ObjectTestJohn - test:object=>John:string",
      " * @assert ObjectTestBlank - :object=>John:string",
      " * @assert ClassTestJohn - class:object=>John:string",
      " */"]

def namedClassComment : String :=
  "\n".intercalate
    ["/**",
      " * A test class that has a name property.",
      " * @param \x7bString\x7d name - The name to be stored",
      " */"]

/-- Greets its first argument by name. -/
def greet : Target := fun arguments =>
  let name := (arguments.head?.map Value.plain).getD "undefined"
  .returned (.string ("Hello, " ++ name ++ "!"))

/-- Adds two numbers and fails on anything else. -/
def add : Target
  | [left, right] =>
      match left.asNumber?, right.asNumber? with
      | some leftNumber, some rightNumber =>
          .returned (.number (leftNumber + rightNumber))
      | _, _ =>
          .failed ("cannot add " ++ left.kindName ++ " and " ++
            right.kindName)
  | arguments =>
      .failed ("add takes 2 arguments, got " ++ toString arguments.length)

/-- The name of its first argument.  A value that is undefined has no
properties to read, which is a failure. -/
def nameOf : Target := fun arguments =>
  match arguments.head?.getD .undefined with
  | .undefined => .failed "cannot read property `name` of undefined"
  | value => .returned ((value.field? "name").getD .undefined)

/-- The class behind the fixture `class`. -/
def namedClass : ClassShape :=
  ⟨"TestClass", ["name"]⟩

/-- The standard registry with an instance of the class among its
objects. -/
def registry : Except Misconfiguration Registry :=
  Registry.standard.addObject "class"
    (.ok (namedClass.instantiate [.string "John"]))

/-- The documented symbols, in order. -/
def symbols : List Symbol :=
  [⟨"greet", greetComment, 1, greet⟩,
    ⟨"add", addComment, 2, add⟩,
    ⟨"objectTest", nameOfComment, 1, nameOf⟩,
    ⟨namedClass.name, namedClassComment, namedClass.arity,
      namedClass.target⟩]

end DocCheck.Demo
