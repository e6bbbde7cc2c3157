import DocCheck.CommandLine.Response

/-!
# The program

Answers its command line.
-/

def main (arguments : List String) : IO UInt32 := do
  let response := DocCheck.Response.ofArguments arguments
  IO.eprint response.stderr
  IO.print response.stdout
  return response.exitCode.toUInt32
