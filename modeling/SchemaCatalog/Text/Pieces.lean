/-! A text cut at every occurrence of a character. There is always one piece more than occurrences.
-/
namespace SchemaCatalog.Text

def pieces (mark : Char) : List Char → List (List Char)
  | [] => [[]]
  | c :: rest =>
    if c = mark then [] :: pieces mark rest
    else
      match pieces mark rest with
      | [] => [[c]]
      | first :: others => (c :: first) :: others

end SchemaCatalog.Text
