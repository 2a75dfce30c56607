import RefDocs.Command.Build

/-!
# Running the program

The program reads its arguments, does what they ask for and ends with an exit code: zero if all went
well, one if a build failed, two if the arguments cannot be understood, and 101 if a container
overflowed.
-/

namespace RefDocs
namespace Command

/-- The line that tells the version. -/
def versionLine : String :=
  "apidoc 0.1.0"

/-- The lines that tell the usage. -/
def usageLines : List String :=
  ["apidoc - API documentation generator",
    "",
    "Usage: apidoc [-v] build SNAPSHOT [OPTIONS]",
    "",
    "  -o, --output-dir DIR     where the pages go",
    "      --extension EXT      the extension of page files",
    "      --table-style STYLE  html or markdown",
    "      --crlf               end lines in CR LF",
    "      --no-comment         leave documentation comments out",
    "      --no-clean           keep what is in the output directory",
    "  -c, --config FILE        the configuration file (or APIDOC_CONFIG)",
    "  -v, --verbose            tell more about the run",
    "  -h, --help               show this text",
    "  -V, --version            show the version"]

/-- The program is run with its arguments. -/
def run {m : Type → Type} [Monad m] [Host m] (arguments : List String) : m UInt32 := do
  let fallback? ← Host.getVariable "APIDOC_CONFIG"
  match Request.ofArguments fallback? arguments with
  | .error error =>
    Host.report ("error: " ++ error.message)
    return 2
  | .ok .showHelp =>
    usageLines.forM Host.print
    return 0
  | .ok .showVersion =>
    Host.print versionLine
    return 0
  | .ok (.build request) =>
    match ← (build request : ExceptT BuildError m Unit).run with
    | .ok () => return 0
    | .error error =>
      if let some message := error.message? then reportIn .red ("error: " ++ message)
      return error.exitCode

end Command
end RefDocs
