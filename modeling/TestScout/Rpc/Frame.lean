import TestScout.Json.Printer
import TestScout.Text.Numeral

/-!
How messages follow one another on a line of bytes: each comes after a header that says how many
bytes it takes.
-/

namespace TestScout.Rpc

/-- The number of bytes that a line of a header announces. -/
def announced? (line : String) : Option Nat :=
  let name := "content-length:"
  if (String.ofList (line.toList.map Char.toLower)).startsWith name then
    Text.word? (line.drop name.length).trimAscii.toString
  else none

def endsHeader (line : String) : Bool := line = "\r\n" || line = "\n"

/-- A message with its header. -/
def framed (v : Json) : String :=
  "Content-Length: " ++ toString v.line.utf8ByteSize ++ "\r\n\r\n" ++ v.line

end TestScout.Rpc
