import ValueObjects.Disk
import ValueObjects.Generation.Pass
import ValueObjects.Text.Quoted
/-!
Writing the units of a pass to a disk. They are written to a directory of their own first, which
then takes the place of the earlier one; the index that includes them comes last.
-/
namespace ValueObjects.Generation

def unitDirectory : String := "valuegen"

def indexFile : String := "valuegen.rs"

/-- The directory that units are written to first. -/
def stagingDirectory : String := ".valuegen.staging"

def indexText (directory : Path) (units : List GeneratedUnit) : String :=
  header ++ "\n" ++ String.join (units.map fun unit =>
    "include!(" ++ Text.quote (Path.join directory unit.name) ++ ");\n")

/-- Steps on a disk that end with a failure; what was changed before stays changed. -/
abbrev Steps := ExceptT Failure (StateM Disk)

/-- One operation as a step; its failure is that of the path. -/
def Steps.at (path : Path) (action : Disk.Action α) : Steps α :=
  fun disk =>
    match action disk with
    | (.ok value, after) => (.ok value, after)
    | (.error _, after) => (.error (.io path), after)

def stage (staging : Path) (units : List GeneratedUnit) : Steps Unit := do
  Steps.at staging (Disk.clearDirectory staging)
  Steps.at staging (Disk.makeDirectories staging)
  for unit in units do
    let path := Path.join staging unit.name
    Steps.at path (Disk.write path unit.contents.toUTF8)

def adopt (staging target : Path) : Steps Unit := do
  Steps.at target (Disk.clearDirectory target)
  Steps.at target (Disk.rename staging target)

def Output.store (output : Output) (directory : Path) : Steps Unit := do
  let staging := Path.join directory stagingDirectory
  let target := Path.join directory unitDirectory
  let index := Path.join directory indexFile
  let draft := Path.join directory (indexFile ++ ".tmp")
  stage staging output.units
  adopt staging target
  Steps.at draft (Disk.write draft (indexText target output.units).toUTF8)
  Steps.at index (Disk.rename draft index)

end ValueObjects.Generation
