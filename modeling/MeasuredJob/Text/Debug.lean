import MeasuredJob.Text.Combining
import MeasuredJob.Text.Hidden
import MeasuredJob.Text.Ignorable

/-!
# Texts for people who look for faults

A quoted text in which every character that does not show, or that changes the look of the
character before it, is escaped.  Letters of every script stay as they are.
-/

namespace MeasuredJob
namespace Text

def debugChar (c : Char) : String :=
  match c with
  | '"' => "\\\""
  | '\\' => "\\\\"
  | '\n' => "\\n"
  | '\r' => "\\r"
  | '\t' => "\\t"
  | '\x00' => "\\0"
  | c =>
    if isHidden c || isCombining c || isIgnorable c then
      "\\u\x7b" ++ String.ofList (Nat.toDigits 16 c.toNat) ++ "\x7d"
    else c.toString

/-- The text in quotes, with the characters that do not show escaped. -/
def debug (s : String) : String :=
  "\"" ++ String.join (s.toList.map debugChar) ++ "\""

end Text
end MeasuredJob
