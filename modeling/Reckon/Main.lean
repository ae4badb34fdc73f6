import Reckon.Document

/-!
The command line: interpret a document given inline or read from a file, and
print one result per line.

    linecalc [-f | --file] [-c CULTURE | --culture CULTURE] CONTENTS

With `--file`, CONTENTS is the path of the document; otherwise it is the
document itself. The culture defaults to the environment variable
`LINECALC_CULTURE`, else `en-US`. Reading the arguments is a total function;
only `main` does input and output.
-/

namespace Reckon.Cli

/-- What the command line asks for. -/
structure Options where
  fromFile : Bool := false
  culture : Option String := none
  contents : Option String := none

/-- Read the arguments, left to right. -/
def Options.parse : List String → Options → Except String Options
  | [], o => .ok o
  | "-f" :: rest, o => Options.parse rest { o with fromFile := true }
  | "--file" :: rest, o => Options.parse rest { o with fromFile := true }
  | "-c" :: value :: rest, o => Options.parse rest { o with culture := some value }
  | "--culture" :: value :: rest, o => Options.parse rest { o with culture := some value }
  | arg :: rest, o =>
    if arg.startsWith "--culture=" then
      Options.parse rest { o with culture := some (String.ofList (arg.toList.drop 10)) }
    else if arg.startsWith "-" && arg.length > 1 then
      .error ("error: unexpected argument '" ++ arg ++ "' found")
    else if o.contents.isSome then
      .error ("error: unexpected argument '" ++ arg ++ "' found")
    else Options.parse rest { o with contents := some arg }

/-- The usage line printed with argument errors. -/
def usage : String :=
  "Usage: linecalc [OPTIONS] <CONTENTS>"

end Reckon.Cli

open Reckon Reckon.Cli in
/-- Interpret the document named on the command line and print its result. -/
def main (args : List String) : IO UInt32 := do
  match Options.parse args {} with
  | .error message =>
    IO.eprintln message
    IO.eprintln usage
    return 2
  | .ok options =>
    let some contents := options.contents
      | IO.eprintln "error: the following required arguments were not provided: <CONTENTS>"
        IO.eprintln usage
        return 2
    let fromEnvironment ← IO.getEnv "LINECALC_CULTURE"
    let culture := options.culture.getD (fromEnvironment.getD "en-US")
    let document ← if options.fromFile then
        try IO.FS.readFile contents
        catch _ =>
          IO.eprintln ("Failed to read the input file '" ++ contents ++
            "'. Perhaps this file does not exist?")
          return 1
      else pure contents
    match RegistryBuilder.builtin.build with
    | .error e =>
      IO.eprintln e.message
      return 1
    | .ok registry =>
      match registry.interpret document culture false with
      | .ok result =>
        IO.println result.render
        return 0
      | .error e =>
        IO.eprintln e.message
        return 1
