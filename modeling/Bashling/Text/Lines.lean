/-!
# Line ends

A source file may end its lines with a line feed, a carriage return, or both. Programs are read
with a single line feed at the end of every line.
-/

namespace Bashling.Text

/-- Every carriage return, together with a line feed right after it, becomes one line feed. -/
def normalizeLines : List Char → List Char
  | [] => []
  | '\r' :: '\n' :: rest => '\n' :: normalizeLines rest
  | c :: rest => (if c = '\r' then '\n' else c) :: normalizeLines rest

/-- The text of a source file: its bytes are UTF-8, and a byte order mark is part of the text. -/
def ofBytes? (bytes : ByteArray) : Option String :=
  (String.fromUTF8? bytes).map fun text => String.ofList (normalizeLines text.toList)

end Bashling.Text
