namespace ValueObjects

inductive BuildVariable where
  | manifestDirectory
  | outputDirectory
  deriving DecidableEq, Repr

def BuildVariable.name : BuildVariable → String
  | .manifestDirectory => "CARGO_MANIFEST_DIR"
  | .outputDirectory => "OUT_DIR"

/-- The causes of failure. The last three concern one unit and leave the others as they are. -/
inductive Failure where
  /-- A file or directory cannot be read or written. -/
  | io (path : String)
  | config (path : String)
  /-- The source directory holds no root module. -/
  | missingRoot (directory : String)
  | missingVariable (absent : BuildVariable)
  /-- A name cannot be spelled as an identifier; `use` tells what it was to name. -/
  | invalidIdentifier (name : String) (use : String)
  /-- A payload is no type. -/
  | invalidPayload (typeName display : String)
  | invalidOutput (unit : String)
  deriving DecidableEq, Repr

namespace Failure

def isUnitLocal : Failure → Bool
  | .invalidIdentifier .. | .invalidPayload .. | .invalidOutput .. => true
  | _ => false

/-- The wording of a failure, as far as it does not come from elsewhere. -/
def message : Failure → String
  | .io path => "I/O error on `" ++ path ++ "`"
  | .config path => "invalid configuration in `" ++ path ++ "`"
  | .missingRoot directory => "no crate root (lib.rs or main.rs) in `" ++ directory ++ "`"
  | .missingVariable absent =>
    "environment variable `" ++ absent.name ++
      "` is not set; is this running from a build script?"
  | .invalidIdentifier name use =>
    "`" ++ name ++ "` is not a valid Rust identifier (in " ++ use ++ ")"
  | .invalidPayload typeName display =>
    "payload type `" ++ display ++ "` of `" ++ typeName ++ "` is not a valid Rust type"
  | .invalidOutput unit => "generated unit `" ++ unit ++ "` is not valid Rust"

end Failure

/-- How the making of a unit can end without one: with a failure that is reported, or by ending
the whole pass, where a name that is used as an identifier is none. -/
inductive Stop where
  | failure (failure : Failure)
  | abort (name : String)
  deriving DecidableEq, Repr

def Stop.lift (result : Except Failure α) : Except Stop α :=
  result.mapError .failure

end ValueObjects
