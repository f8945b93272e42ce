/-! The lines of a text. A line ends with a line feed, or with a carriage return and a line feed. -/

namespace Pluck

/-- The lines of a text without their ends; nothing after the last line end is no line. -/
def linesOfChars : List Char → List (List Char)
  | [] => []
  | '\n' :: rest => [] :: linesOfChars rest
  | '\r' :: '\n' :: rest => [] :: linesOfChars rest
  | c :: rest =>
      match linesOfChars rest with
      | [] => [[c]]
      | line :: more => (c :: line) :: more

def textLines (text : String) : List String := (linesOfChars text.toList).map String.ofList

end Pluck
