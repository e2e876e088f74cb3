/-!
# Shell text

Small pieces of shell text that fragments are put together from.
-/

namespace MeasuredJob
namespace Shell

def var (name : String) : String :=
  "$\x7b" ++ name ++ "\x7d"

/-- Lines of text, without a final line break. -/
def lines (ls : List String) : String :=
  "\n".intercalate ls

def quoted (s : String) : String :=
  "\"" ++ s ++ "\""

def echo (s : String) : String :=
  "echo " ++ quoted s

/-- Write lines to a file.  `opening` is the word after `<<`, which decides by its quotes whether
the shell expands the lines.  Without quotes it is the closing word itself. -/
def hereDocument (opening closing file : String) (body : List String) : List String :=
  ["cat <<" ++ opening ++ " > " ++ file] ++ body ++ [closing]

end Shell
end MeasuredJob
