import DocTag.CommandLine.Word

/-!
# Help texts

The texts that say how the program is used: a short one in front of every complaint, and the whole
one for a request for help. Their lines are broken for a terminal of eighty columns.
-/

namespace DocTag.CommandLine

def programName : Text := "jsdoc-parts".toList

/-- The short text. -/
def usage : Text :=
  "usage: jsdoc-parts [-h] [--start START] [--no-strict]
                   \x7bcomment,kind,name,type\x7d raw
".toList

/-- The whole text. -/
def help : Text :=
  usage ++ "
Normalize a raw JSDoc tag part and print the result as JSON.

positional arguments:
  \x7bcomment,kind,name,type\x7d
                        Which part the raw text is
  raw                   Raw part text, or '-' to read it from stdin

options:
  -h, --help            show this help message and exit
  --start START         Byte offset of the part in its source (default: 0)
  --no-strict           Skip part precondition checks for this run
".toList

/-- The complaint about a refused command line. -/
def complaint (refusal : Refusal) : Text :=
  usage ++ programName ++ ": error: ".toList ++ refusal.message ++ ['\n']

end DocTag.CommandLine
