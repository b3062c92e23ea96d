/-! Lines of a text. A line ends at a line feed, or at a carriage return directly before one; any
other carriage return belongs to its line, and a final line feed opens no further line. -/

namespace Fanout.Text

/-- The lines of a text given by its characters. -/
def charLines : List Char → List (List Char)
  | [] => []
  | '\n' :: rest => [] :: charLines rest
  | '\r' :: '\n' :: rest => [] :: charLines rest
  | c :: rest =>
    match charLines rest with
    | [] => [[c]]
    | line :: later => (c :: line) :: later

def lines (text : String) : List String :=
  (charLines text.toList).map String.ofList

end Fanout.Text
