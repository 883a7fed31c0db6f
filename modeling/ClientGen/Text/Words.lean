import ClientGen.Text.Letter
import ClientGen.Text.Casing

namespace ClientGen.Text

/-- Whether a word ends between two neighbours, given the character after them: from lower to upper
case, before the last capital of several if lower case follows, and between letters and digits. -/
def wordBreak (prev c : Char) (next : Option Char) : Bool :=
  (isLowercase prev && isUppercase c) ||
  (isUppercase prev && isUppercase c && next.any isLowercase) ||
  (isAlphabetic prev && isNumeric c) ||
  (isNumeric prev && isAlphabetic c)

def splitRun : List Char → List (List Char)
  | [] => []
  | [c] => [[c]]
  | c :: d :: rest =>
    match splitRun (d :: rest) with
    | word :: words =>
      if wordBreak c d rest.head? then [c] :: word :: words else (c :: word) :: words
    | [] => [[c]]

/-- The maximal runs of word characters; an empty run stands between two separators. -/
def runs : List Char → List (List Char)
  | [] => [[]]
  | c :: rest =>
    match runs rest with
    | run :: more => if isWordChar c then (c :: run) :: more else [] :: run :: more
    | [] => [[c]]

def words (cs : List Char) : List (List Char) := (runs cs).flatMap splitRun

/-- The words written together: the first in lower case, the others capitalized. -/
def camelCase (cs : List Char) : List Char :=
  match words cs with
  | [] => []
  | first :: others => lower first ++ others.flatMap fun word => capitalize (lower word)

end ClientGen.Text
