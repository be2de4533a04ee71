import ValueObjects.Naming
/-!
Paths as they are spelled. A path starts at the working directory unless it begins with a slash. The
working directory stands for a path that is not empty: a dot at the start of a spelling follows that
path and leads nowhere, as any other dot does.
-/
namespace ValueObjects

/-- A path by its spelling; the working directory itself is the empty text. -/
abbrev Path := String

namespace Path

def isRooted (path : Path) : Bool :=
  path.toList.head? == some '/'

/-- Puts one path after another; a rooted path stands alone. -/
def join (base path : Path) : Path :=
  if path.isRooted || base.isEmpty then path
  else if base.toList.getLast? == some '/' then base ++ path
  else base ++ "/" ++ path

def pieces (path : Path) : List String :=
  (Naming.cutAt (· == '/') path.toList).map String.ofList

def isIdle (piece : String) : Bool :=
  piece == "" || piece == "."

/-- What two spellings have in common if they name the same steps. -/
def steps (path : Path) : List String :=
  (if path.isRooted then ["/"] else []) ++ path.pieces.filter (!isIdle ·)

def dropIdle (reversed : List String) : List String :=
  reversed.dropWhile isIdle

def parent (path : Path) : Path :=
  let kept := (dropIdle (dropIdle path.pieces.reverse).tail).reverse
  if path.isRooted && kept.isEmpty then "/" else String.intercalate "/" kept

def fileName? (path : Path) : Option String :=
  path.steps.getLast?

end Path

end ValueObjects
