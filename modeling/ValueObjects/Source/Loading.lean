import ValueObjects.Disk
import ValueObjects.Failure
import ValueObjects.Source
/-!
Reading the modules of a crate from a disk. A module that is declared without its declarations is
looked for at the places of its file; what cannot be found or read is left out.
-/
namespace ValueObjects

namespace Absent

def candidates (absent : Absent) : List Path :=
  match absent.path? with
  | some path => [Path.join absent.site.base path]
  | none =>
    [Path.join absent.site.directory (Naming.unraw absent.name ++ ".rs"),
      Path.join (absent.site.directoryOf absent.name) "mod.rs"]

/-- Whether the modules of a module lie next to its file; else they lie in the directory that is
named after it. -/
def ownsDirectory (absent : Absent) (file : Path) : Bool :=
  file.fileName? == some "mod.rs" || absent.path?.isSome

def siteAt (absent : Absent) (file : Path) : Site :=
  ⟨absent.site.steps ++ [absent.name], some file,
    if absent.ownsDirectory file then file.parent else absent.site.directoryOf absent.name,
    file.parent⟩

end Absent

/-- How far a crate has been read. A file is not read again under a path of the same steps. -/
structure Reading where
  modules : List SourceModule
  files : List Path
  visited : List (List String)

namespace Reading

def add (reading : Reading) (module : SourceModule) : Reading :=
  { reading with modules := reading.modules ++ [module] }

def openFile (disk : Disk) (reading : Reading) (absent : Absent) : Reading × List Declared :=
  match absent.candidates.find? disk.isFile with
  | none => (reading, [])
  | some file =>
    if reading.visited.contains file.steps then (reading, [])
    else
      let visited := { reading with visited := reading.visited ++ [file.steps] }
      match disk.readText file with
      | .error _ => (visited, [])
      | .ok text =>
        ({ visited with files := visited.files ++ [file] }, (absent.siteAt file).declared text)

/-- Reads on through the modules that are declared, at most `depth` files deep. -/
def follow (disk : Disk) : Nat → Reading → List Declared → Reading
  | 0, reading, declared => (declared.filterMap Declared.module?).foldl add reading
  | depth + 1, reading, declared =>
    declared.foldl (fun reading next =>
      match next with
      | .present module => reading.add module
      | .absent absent =>
        let (reading, inner) := openFile disk reading absent
        follow disk depth reading inner) reading

end Reading

namespace SourceTree

def rootNames : List String := ["lib.rs", "main.rs"]

/-- How deep modules can be read from files: a file below another has a longer path, or another
name in the same directory. -/
def depthOf (disk : Disk) : Nat :=
  (disk.nodes.length + 1) * (Disk.longestPath + 1)

def load (disk : Disk) (directory : Path) : Except Failure SourceTree := do
  match (rootNames.map (Path.join directory)).find? disk.isFile with
  | none => throw (.missingRoot directory)
  | some root =>
    match disk.readText root with
    | .error _ => throw (.io root)
    | .ok text =>
      let start : Site := ⟨[], some root, directory, directory⟩
      let reading := Reading.follow disk (depthOf disk) ⟨[], [root], [root.steps]⟩
        (start.declared text)
      return ⟨reading.modules, reading.files⟩

end SourceTree

end ValueObjects
