import ValueObjects.Token

namespace ValueObjects

namespace Delimiter

def opening : Delimiter → List Char
  | .parenthesis => ['(']
  | .bracket => ['[']
  | .brace => ['{', ' ']

/-- What stands after the body of a group; braces keep a space unless the body is empty. -/
def closing (empty : Bool) : Delimiter → List Char
  | .parenthesis => [')']
  | .bracket => [']']
  | .brace => if empty then ['}'] else [' ', '}']

end Delimiter

namespace Token

def gap (token : Token) (rest : List Token) : List Char :=
  if rest.isEmpty || token.isJoint then [] else [' ']

def spell : Token → List Char
  | .ident name => name.toList
  | .punct mark _ => [mark]
  | .literal text => text.toList
  | .group delimiter body =>
    delimiter.opening ++ spellAll body ++ delimiter.closing body.isEmpty
where
  spellAll : List Token → List Char
    | [] => []
    | token :: rest => spell token ++ gap token rest ++ spellAll rest

def render (tokens : List Token) : String :=
  String.ofList (spell.spellAll tokens)

end Token

end ValueObjects
