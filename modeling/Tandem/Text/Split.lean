/-! # Splitting text -/

namespace Tandem.Text

/-- The parts of a text between the places where a character stands. -/
def split (mark : Char) : List Char → List (List Char)
  | [] => [[]]
  | c :: rest =>
    if c = mark then [] :: split mark rest
    else
      match split mark rest with
      | [] => [[c]]
      | first :: others => (c :: first) :: others

end Tandem.Text
