import ValueObjects.Grammar
import ValueObjects.Text.Compact
import ValueObjects.Token.Printer

namespace ValueObjects

def primitives : List String := [
  "bool", "char", "str", "i8", "i16", "i32", "i64", "i128", "isize", "u8", "u16", "u32", "u64",
  "u128", "usize", "f32", "f64"]

def wellKnownPaths : List (List String) := [
  ["uuid", "Uuid"], ["rust_decimal", "Decimal"], ["bson", "oid", "ObjectId"]]

/-- The well-known path that a path stands for: its last name alone, or a path that ends in it. -/
def wellKnown? (names : List String) : Option (List String) :=
  wellKnownPaths.find? fun path =>
    names.length = 1 && names.getLast? == path.getLast? || path.isSuffixOf names

def isPrelude (name : String) : Bool :=
  name == "String" || name == "Option" || primitives.contains name

def isStandard (names : List String) : Bool :=
  match names with
  | first :: _ => first == "std" || first == "core" || first == "alloc"
  | [] => false

def pathWith (names : List String) (arguments : Arguments) : List Segment :=
  names.dropLast.map .plain ++ (names.getLast?.map (.mk · arguments)).toList

/-- The canonical form of a path: well-known types are named in full, names that need no path
have none, and no path begins at the root. -/
def canonicalPath (segments : List Segment) : List Segment :=
  match segments.getLast? with
  | none => segments
  | some last =>
    let names := segments.map Segment.name
    match wellKnown? names with
    | some path => pathWith path last.arguments
    | none =>
      if isStandard names && isPrelude last.name then [last] else segments

mutual

/-- The canonical form of a type. What is inside a function type, a bound or a macro is left as
it is. -/
def Ty.canonical : Ty → Ty
  | .path _ segments =>
    .path false (canonicalPath (Segment.canonicalAll segments))
  | .qualified self position rooted segments =>
    .qualified self.canonical position rooted segments
  | .reference lifetime mutable elem => .reference lifetime mutable elem.canonical
  | .pointer mutable elem => .pointer mutable elem.canonical
  | .slice elem => .slice elem.canonical
  | .array elem length => .array elem.canonical length
  | .tuple elems trailing => .tuple (Ty.canonicalAll elems) trailing
  | .paren elem => elem.canonical
  | .group elem => elem.canonical
  | .verbatim tokens => .verbatim tokens

def Ty.canonicalAll : List Ty → List Ty
  | [] => []
  | ty :: rest => ty.canonical :: Ty.canonicalAll rest

def Segment.canonical : Segment → Segment
  | .mk name arguments => .mk name arguments.canonical

def Segment.canonicalAll : List Segment → List Segment
  | [] => []
  | segment :: rest => segment.canonical :: Segment.canonicalAll rest

def Arguments.canonical : Arguments → Arguments
  | .none => .none
  | .angle turbofish arguments trailing =>
    .angle turbofish (Argument.canonicalAll arguments) trailing

def Argument.canonical : Argument → Argument
  | .lifetime name => .lifetime name
  | .type ty => .type ty.canonical
  | .other tokens => .other tokens

def Argument.canonicalAll : List Argument → List Argument
  | [] => []
  | argument :: rest => argument.canonical :: Argument.canonicalAll rest

end

def Ty.display (ty : Ty) : String :=
  String.ofList (Text.compact (Token.spell.spellAll ty.canonical.tokens))

/-- The canonical text of a payload; text that is no type is only compacted. -/
def canonicalDisplay (text : String) : String :=
  match Grammar.type? text with
  | some ty => ty.display
  | none => String.ofList (Text.compact text.toList)

end ValueObjects
