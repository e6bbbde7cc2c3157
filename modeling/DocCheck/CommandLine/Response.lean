import DocCheck.CommandLine.Options
import DocCheck.Demo
import DocCheck.Run.Written

/-!
# Responses to command lines

A command line is answered by an exit code and the texts for the two output
streams.
-/

namespace DocCheck

structure Response where
  exitCode : Nat := 0
  stdout : String := ""
  stderr : String := ""
deriving DecidableEq, Repr

namespace Response

/-- How to use the program. -/
def usage : String :=
  "\n".intercalate
    ["docassert - run @assert directives from documentation comments",
      "",
      "Usage: docassert <command> [options]",
      "",
      "Commands:",
      "  demo [options]   Run the built-in demo catalogue",
      "  explain <code>   Describe an error code (e.g. E3001)",
      "  codes            List every error code",
      "  help             Show this message",
      "",
      "Demo options:",
      "  --filter <text>  Only run cases whose name or symbol contains " ++
        "<text>",
      "  -v, --verbose    Show passing cases too",
      "  --color=<when>   auto, always or never",
      "",
      "Set RUST_LOG (e.g. RUST_LOG=docassert=debug) for tracing output.",
      ""]

/-- Runs the demonstration with the given options.  The output is no
terminal, so colours are used only on request. -/
def ofRun (options : Options) : Response :=
  match
      Demo.registry.bind fun registry =>
        Checker.ofRegistry registry options.settings with
  | .error error =>
      let colors := options.colors.usesColors false
      { exitCode := 1, stderr := error.diagnostic.emitted colors }
  | .ok checker =>
      let summary := checker.checkAll Demo.symbols
      { exitCode := summary.exitCode
        stdout := summary.written options.settings.verbose options.colors }

/-- Answers the command `demo`. -/
def demo (arguments : List String) : Response :=
  match Options.read arguments with
  | .ok options => ofRun options
  | .error error =>
      { exitCode := 1
        stderr := "error: " ++ error.message ++ "\n" ++
          "Usage: docassert demo [--filter <text>] [--verbose] " ++
          "[--color=<when>]\n" }

/-- Answers the command `explain`, which looks only at the first
argument. -/
def explain : List String → Response
  | [] => { exitCode := 1, stderr := "Usage: docassert explain <code>\n" }
  | label :: _ =>
      match Code.ofLabel? label with
      | some code =>
          { stdout := code.label ++ ": " ++ code.description ++ "\n" }
      | none =>
          { exitCode := 1
            stderr := "Unknown error code: " ++ label ++ "\n\n" ++
              "Codes have the format EXXXX where X is a digit. " ++
              "Run `docassert codes` for a list.\n" }

/-- Answers the command `codes`. -/
def codes : Response where
  stdout := String.join <| Code.all.map fun code =>
    code.label ++ "  " ++ code.description ++ "\n"

/-- Answers a command line. -/
def ofArguments : List String → Response
  | [] => { stdout := usage }
  | command :: arguments =>
      match command with
      | "demo" => demo arguments
      | "explain" => explain arguments
      | "codes" => codes
      | "help" => { stdout := usage }
      | "--help" => { stdout := usage }
      | "-h" => { stdout := usage }
      | other =>
          { exitCode := 1
            stdout := usage
            stderr := "Unknown command: " ++ other ++ "\n" }

end Response

end DocCheck
