/-
Scriptlet.CommandLine.Usage — what the command line says of itself.
-/
namespace Scriptlet.CommandLine

def usage : String := "usage: loxia [-h] [-c] [-a] [-v] program\n"

def helpText : String :=
  usage ++ "\n" ++
  "Interpreter for the Loxia scripting language.\n" ++
  "\n" ++
  "positional arguments:\n" ++
  "  program        path to a Loxia source file.\n" ++
  "\n" ++
  "options:\n" ++
  "  -h, --help     show this help message and exit\n" ++
  "  -c, --check    Scan and parse the program but do not actually run it.\n" ++
  "  -a, --ast      Print the parse tree instead of running the program.\n" ++
  "  -v, --verbose  Say a little about each phase on the way through.\n"

def introduction : String :=
  "This is an interpreter for the Loxia scripting language.\n" ++
  "\n" ++
  usage ++ "\n" ++
  "\n" ++
  "For example:\n" ++
  "\n" ++
  "    loxia program.lox\n" ++
  "\n" ++
  "will run program.lox if possible, or else try to explain why not.\n" ++
  "\n" ++
  "    loxia -h\n" ++
  "\n" ++
  "will explain all the arguments.\n"

def usageComplaint (message : String) : String := usage ++ "loxia: error: " ++ message ++ "\n"

end Scriptlet.CommandLine
