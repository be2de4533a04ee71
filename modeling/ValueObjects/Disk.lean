import ValueObjects.Path
/-!
A working directory with what is in it, and the operations of a file system on it. What lies
outside the working directory cannot be reached.
-/
namespace ValueObjects

inductive Node where
  | file (bytes : ByteArray)
  | directory

/-- A place by the names that lead to it from the working directory. -/
abbrev Place := List String

structure Disk where
  nodes : List (Place × Node)

namespace Disk

/-- Why an operation fails: nothing is there, or what is there cannot be used like that. -/
inductive Problem where
  | absent
  | unusable
  deriving DecidableEq, Repr

def empty : Disk := ⟨[]⟩

def longestName : Nat := 255

/-- The bytes that a spelled path can take, with sixteen of 4095 taken up by the path that the
working directory stands for. -/
def longestPath : Nat := 4079

/-- What stands at the place; the working directory is always there. -/
def at? (disk : Disk) (place : Place) : Option Node :=
  if place.isEmpty then some .directory else disk.nodes.lookup place

def step (place : Place) (piece : String) : Except Problem Place :=
  if Path.isIdle piece then .ok place
  else if piece == ".." then
    if place.isEmpty then .error .absent else .ok place.dropLast
  else if piece.utf8ByteSize ≤ longestName then .ok (place ++ [piece])
  else .error .unusable

/-- The place that pieces lead to. The last may be missing, but all before it are directories. -/
def walk (disk : Disk) : Place → List String → Except Problem Place
  | place, [] => .ok place
  | place, [piece] => step place piece
  | place, piece :: rest =>
    match step place piece with
    | .error problem => .error problem
    | .ok next =>
      match disk.at? next with
      | some .directory => walk disk next rest
      | some (.file _) => .error .unusable
      | none => .error .absent

def locate (disk : Disk) (path : Path) : Except Problem Place :=
  if longestPath < path.utf8ByteSize then .error .unusable
  else if path.isRooted then .error .absent
  else disk.walk [] path.pieces

def find? (disk : Disk) (path : Path) : Option Node :=
  match disk.locate path with
  | .ok place => disk.at? place
  | .error _ => none

def isFile (disk : Disk) (path : Path) : Bool :=
  match disk.find? path with
  | some (.file _) => true
  | _ => false

def readBytes (disk : Disk) (path : Path) : Except Problem ByteArray := do
  match disk.at? (← disk.locate path) with
  | some (.file bytes) => return bytes
  | some .directory => throw .unusable
  | none => throw .absent

def readText (disk : Disk) (path : Path) : Except Problem String := do
  match String.fromUTF8? (← disk.readBytes path) with
  | some text => return text
  | none => throw .unusable

def isWithin (place above : Place) : Bool :=
  above.isPrefixOf place

def put (disk : Disk) (place : Place) (node : Node) : Disk :=
  ⟨(place, node) :: disk.nodes.filter (·.1 != place)⟩

def erase (disk : Disk) (place : Place) : Disk :=
  ⟨disk.nodes.filter fun entry => !isWithin entry.1 place⟩

/-- Moves a place with everything below it to another place, where nothing is left of what was
there. -/
def move (disk : Disk) (source target : Place) : Disk :=
  let moved := (disk.nodes.filter fun entry => isWithin entry.1 source).map fun entry =>
    (target ++ entry.1.drop source.length, entry.2)
  ⟨moved ++ ((disk.erase source).erase target).nodes⟩

/-- An operation that keeps what it has changed when it fails. -/
abbrev Action := ExceptT Problem (StateM Disk)

def placeOf (path : Path) : Action Place := do
  match (← get).locate path with
  | .ok place => return place
  | .error problem => throw problem

def write (path : Path) (bytes : ByteArray) : Action Unit := do
  let place ← placeOf path
  match (← get).at? place with
  | some .directory => throw .unusable
  | _ => modify (·.put place (.file bytes))

def makeSteps (place : Place) : List String → Action Unit
  | [] => return
  | piece :: rest => do
    match step place piece with
    | .error problem => throw problem
    | .ok next =>
      match (← get).at? next with
      | some .directory => makeSteps next rest
      | some (.file _) => throw .unusable
      | none =>
        modify (·.put next .directory)
        makeSteps next rest

def makeDirectories (path : Path) : Action Unit :=
  if longestPath < path.utf8ByteSize || path.isRooted then throw .unusable
  else makeSteps [] path.pieces

def removeDirectory (path : Path) : Action Unit := do
  let place ← placeOf path
  match (← get).at? place with
  | some .directory => modify (·.erase place)
  | some (.file _) => throw .unusable
  | none => throw .absent

def clearDirectory (path : Path) : Action Unit := do
  try removeDirectory path catch
    | .absent => return
    | .unusable => throw .unusable

def remove (path : Path) : Action Unit := do
  let place ← placeOf path
  match (← get).at? place with
  | some _ => modify (·.erase place)
  | none => throw .absent

/-- Gives a file or directory another path. A file takes the place of another file; nothing else
may be at the new path. -/
def rename (source target : Path) : Action Unit := do
  let start ← placeOf source
  let goal ← placeOf target
  match (← get).at? start, (← get).at? goal with
  | none, _ => throw .absent
  | some (.file _), some (.file _) => modify (·.move start goal)
  | some _, some _ => throw .unusable
  | some _, none => modify (·.move start goal)

def names (disk : Disk) (place : Place) : List String :=
  (disk.nodes.filterMap fun (at_, _) =>
    if at_.dropLast == place then at_.getLast? else none).mergeSort (decide <| · ≤ ·)

/-- Every entry below a place, each directory with a slash and before what is in it. -/
def entries (disk : Disk) : Nat → Place → String → List String
  | 0, _, _ => []
  | depth + 1, place, above =>
    (disk.names place).flatMap fun name =>
      match disk.at? (place ++ [name]) with
      | some .directory =>
        (above ++ name ++ "/") :: disk.entries depth (place ++ [name]) (above ++ name ++ "/")
      | _ => [above ++ name]

def listing (disk : Disk) (path : Path) : List String :=
  match disk.locate path with
  | .ok place =>
    match disk.at? place with
    | some .directory => disk.entries (disk.nodes.length + 1) place ""
    | _ => []
  | .error _ => []

end Disk

end ValueObjects
