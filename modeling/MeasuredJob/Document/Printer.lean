import MeasuredJob.Document.Basic

/-!
# Printing a document

Two layouts of one syntax: `compact` puts a document on one line without any space, and `pretty`
indents by two spaces and puts every item on a line of its own.  An empty list or record is always
written on one line.  Tags are written with an exclamation mark before the body, which YAML reads.
-/

namespace MeasuredJob
namespace Document

def hex4 (n : Nat) : String :=
  let digits := Nat.toDigits 16 n
  String.ofList (List.replicate (4 - digits.length) '0' ++ digits)

/-- A character inside quotes.  Only quotes, backslashes and control characters are escaped. -/
def escape (c : Char) : String :=
  match c with
  | '"' => "\\\""
  | '\\' => "\\\\"
  | '\x08' => "\\b"
  | '\x0c' => "\\f"
  | '\n' => "\\n"
  | '\r' => "\\r"
  | '\t' => "\\t"
  | c => if c.toNat < 0x20 then "\\u" ++ hex4 c.toNat else c.toString

def quote (s : String) : String :=
  "\"" ++ String.join (s.toList.map escape) ++ "\""

mutual

def compact : Document → String
  | .null => "null"
  | .bool true => "true"
  | .bool false => "false"
  | .int i => i.repr
  | .decimal s => s
  | .text s => quote s
  | .plain s => s
  | .list items => "[" ++ ",".intercalate (compactItems items) ++ "]"
  | .record fields => "\x7b" ++ ",".intercalate (compactFields fields) ++ "\x7d"
  | .tagged tag body => "!" ++ tag ++ " " ++ compact body

def compactItems : List Document → List String
  | [] => []
  | d :: ds => compact d :: compactItems ds

def compactFields : List (String × Document) → List String
  | [] => []
  | (k, d) :: fs => (quote k ++ ":" ++ compact d) :: compactFields fs

end

/-- Items between brackets, each on a line of its own below `margin`. -/
def block (opening closing margin : String) : List String → String
  | [] => opening ++ closing
  | items =>
    let inner := "\n" ++ margin ++ "  "
    opening ++ inner ++ ("," ++ inner).intercalate items ++ "\n" ++ margin ++ closing

mutual

/-- The document over several lines, of which all but the first start with `margin`. -/
def indented (margin : String) : Document → String
  | .null => "null"
  | .bool true => "true"
  | .bool false => "false"
  | .int i => i.repr
  | .decimal s => s
  | .text s => quote s
  | .plain s => s
  | .list items => block "[" "]" margin (indentedItems (margin ++ "  ") items)
  | .record fields => block "\x7b" "\x7d" margin (indentedFields (margin ++ "  ") fields)
  | .tagged tag body => "!" ++ tag ++ " " ++ indented margin body

def indentedItems (margin : String) : List Document → List String
  | [] => []
  | d :: ds => indented margin d :: indentedItems margin ds

def indentedFields (margin : String) : List (String × Document) → List String
  | [] => []
  | (k, d) :: fs => (quote k ++ ": " ++ indented margin d) :: indentedFields margin fs

end

def pretty (d : Document) : String :=
  indented "" d

end Document
end MeasuredJob
