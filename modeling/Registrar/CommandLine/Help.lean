/-
What the program says about its command line, for a screen of eighty columns.
-/
import Registrar.Note

namespace Registrar.CommandLine

/-- How the command line is written. -/
def usage : String :=
  s!"usage: {programName} [-h] [-v] [--config CONFIG] [--dry-run]\n" ++
  "                  [--log-file LOG_FILE]\n" ++
  "                  [input_folder] [output_folder] [namespace]\n"

/-- What the program does, and what its arguments and flags mean. -/
def help : String :=
  usage ++ "\n" ++
  "Generate VContainer registrations for every query and command handler found in\n" ++
  "a folder of C# sources.\n\n" ++
  "positional arguments:\n" ++
  "  input_folder         Path to the input folder containing .cs files.\n" ++
  "  output_folder        Path to the output folder for generated registrations.\n" ++
  "  namespace            Namespace for the generated code.\n\n" ++
  "options:\n" ++
  "  -h, --help           show this help message and exit\n" ++
  "  -v, --verbose        Increase log verbosity for troubleshooting.\n" ++
  "  --config CONFIG      Path to a .handlergen.yml file (defaults to the one in\n" ++
  "                       the input folder).\n" ++
  "  --dry-run            Print the generated module instead of writing it.\n" ++
  "  --log-file LOG_FILE  Also write logs to this file.\n"

/-- What is said of a command line that cannot be followed. -/
def complaint (message : String) : String :=
  usage ++ s!"{programName}: error: {message}\n"

end Registrar.CommandLine
