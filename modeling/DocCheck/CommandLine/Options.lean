import DocCheck.Diagnostic.Terminal
import DocCheck.Run.Checker

/-!
# Options of a run

Options are read from left to right.  A later option overrides an earlier
one of its kind, and the option `--filter` takes the next argument as its
text, whatever that looks like.
-/

namespace DocCheck

structure Options where
  settings : Settings := {}
  colors : ColorChoice := .auto
deriving DecidableEq, Repr

/-- Why a list of options cannot be read. -/
inductive OptionError where
  | missingFilter
  | unknown (option : String)
deriving DecidableEq, Repr

namespace OptionError

def message : OptionError → String
  | missingFilter => "--filter needs a value"
  | unknown option => "unknown option `" ++ option ++ "`"

end OptionError

namespace Options

/-- The options with passing cases shown. -/
def withVerbose (options : Options) : Options :=
  { options with settings := { options.settings with verbose := true } }

/-- The options with a filter. -/
def withFilter (options : Options) (text : String) : Options :=
  { options with
    settings := { options.settings with filter := some text } }

/-- The options with a colour mode. -/
def withColors (options : Options) (mode : ColorChoice) : Options :=
  { options with colors := mode }

/-- What one argument in the place of an option asks for. -/
inductive Request where
  | verbose
  | filterNext
  | filter (text : String)
  | colors (mode : ColorChoice)
deriving DecidableEq, Repr

/-- The text of a filter that is part of its option. -/
def filterText? (argument : String) : Option String :=
  ("--filter=".toList.isPrefixOf? argument.toList).map String.ofList

/-- What an argument asks for as an option. -/
def request? (argument : String) : Option Request :=
  match argument with
  | "--verbose" => some .verbose
  | "-v" => some .verbose
  | "--filter" => some .filterNext
  | "--color=auto" => some (.colors .auto)
  | "--color=always" => some (.colors .always)
  | "--color=never" => some (.colors .never)
  | other => (filterText? other).map .filter

/-- Reads further options on top of the given ones. -/
def readOnto (options : Options) :
    List String → Except OptionError Options
  | [] => .ok options
  | argument :: rest =>
      match request? argument with
      | none => .error (.unknown argument)
      | some .verbose => options.withVerbose.readOnto rest
      | some (.filter text) => (options.withFilter text).readOnto rest
      | some (.colors mode) => (options.withColors mode).readOnto rest
      | some .filterNext =>
          match rest with
          | [] => .error .missingFilter
          | text :: others => (options.withFilter text).readOnto others

/-- Reads the options of a run. -/
def read (arguments : List String) : Except OptionError Options :=
  readOnto {} arguments

end Options

end DocCheck
