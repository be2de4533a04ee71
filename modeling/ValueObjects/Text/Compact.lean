import ValueObjects.Text.Blank
import ValueObjects.Text.Letter

namespace ValueObjects.Text

def isWordChar (c : Char) : Bool :=
  isAlphanumeric c || c == '_'

/-- Leaves out white space. `before` is the character last kept and `space` tells whether white
space came since: a space is put back where it kept two words apart. -/
def compactAfter (before : Option Char) (space : Bool) : List Char → List Char
  | [] => []
  | c :: rest =>
    if isBlank c then compactAfter before true rest
    else if space && before.any isWordChar && isWordChar c then
      ' ' :: c :: compactAfter (some c) false rest
    else c :: compactAfter (some c) false rest

def compact (text : List Char) : List Char :=
  compactAfter none false text

end ValueObjects.Text
