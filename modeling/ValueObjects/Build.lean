import ValueObjects.Generation.Storing
import ValueObjects.Source.Loading

namespace ValueObjects

def configFile : String := "valuegen.toml"

/-- The configuration in a file; the default if the file is missing. -/
def Config.load (disk : Disk) (path : Path) : Except Failure Config :=
  match disk.readText path with
  | .ok text =>
    match Config.ofText? text with
    | some config => .ok config
    | none => .error (.config path)
  | .error .absent => .ok {}
  | .error .unusable => .error (.io path)

structure Build where
  /-- The directory of the crate. -/
  manifest : Path
  output : Path
  /-- The directory of the sources; `src` in that of the crate if not given. -/
  source? : Option Path := none
  /-- The configuration; read from its file if not given. -/
  config? : Option Config := none
  /-- Whether the build tool is told what the result depends on. -/
  directives : Bool := true

namespace Build

def configPath (build : Build) : Path :=
  Path.join build.manifest configFile

def sourcePath (build : Build) : Path :=
  build.source?.getD (Path.join build.manifest "src")

def ofVariables (value : BuildVariable → Option Path) : Except Failure Build :=
  match value .manifestDirectory, value .outputDirectory with
  | none, _ => .error (.missingVariable .manifestDirectory)
  | some _, none => .error (.missingVariable .outputDirectory)
  | some manifest, some output => .ok { manifest, output }

structure Report where
  output : Generation.Output
  lines : List String

def generate (build : Build) (disk : Disk) : Except Stop (Generation.Output × List Path) := do
  let config ← Stop.lift <| match build.config? with
    | some config => .ok config
    | none => Config.load disk build.configPath
  let tree ← Stop.lift (SourceTree.load disk build.sourcePath)
  return (← Generation.generate config tree, tree.files)

/-- The lines that name the files a result depends on, and its diagnostics. -/
def linesOf (build : Build) (disk : Disk) (files : List Path) (output : Generation.Output) :
    List String :=
  let config := if disk.isFile build.configPath then [build.configPath] else []
  (config ++ files).map ("cargo:rerun-if-changed=" ++ ·) ++
    output.diagnostics.map ("cargo:warning=valuegen: " ++ ·.message)

/-- Reads, generates and writes. Gives the disk as the run leaves it. -/
def run (build : Build) (disk : Disk) : Except Stop Report × Disk :=
  match build.generate disk with
  | .error stop => (.error stop, disk)
  | .ok (output, files) =>
    match (output.store build.output).run disk with
    | (.error failure, after) => (.error (.failure failure), after)
    | (.ok _, after) =>
      (.ok ⟨output, if build.directives then build.linesOf after files output else []⟩, after)

def compile (value : BuildVariable → Option Path) (disk : Disk) : Except Stop Report × Disk :=
  match ofVariables value with
  | .error failure => (.error (.failure failure), disk)
  | .ok build => build.run disk

end Build

end ValueObjects
