/-!
Lines of a text. A line ends at a line feed, which may have one carriage return before it; neither
belongs to the line, and a text that ends with a line feed has no empty line after it.
-/
namespace PowerLimits.Text

def lines : List Char → List (List Char)
  | [] => []
  | '\n' :: rest => [] :: lines rest
  | '\r' :: '\n' :: rest => [] :: lines rest
  | c :: rest =>
    match lines rest with
    | [] => [[c]]
    | line :: others => (c :: line) :: others

end PowerLimits.Text
