import PodTraffic.CommandLine.Run

/-!
# The program

Reads the files that the arguments name, runs the command on them, prints what it says and writes
its report. A directory is read with all policy files under it.
-/
namespace PodTraffic.CommandLine

/-- The files that a command reads. -/
def Command.inputs : Command → List String
  | analyze args => args.policyPath.toList ++ args.targetPodPath.toList ++
      args.trafficPath.toList ++ args.probePath.toList
  | probe args => args.policyPath.toList
  | generate _ => []

/-- The file that a command writes. -/
def Command.report? : Command → Option String
  | generate args => args.junitPath
  | _ => none

def Request.inputs : Request → List String
  | version => []
  | run i => i.configPath.toList ++ i.command.inputs

def Request.report? : Request → Option String
  | version => none
  | run i => i.command.report?

/-- With the file at the path, or the policy files under the directory there, if there is one. -/
partial def readInto (tree : FileTree) (path : String) : IO FileTree := do
  try
    let real ← IO.FS.realPath path
    if ← real.isDir then
      let directories := Place.ofPath path :: Place.onPath path ++ tree.directories
      (← real.readDir).foldlM (fun tree entry => readEntry tree (joinPath path entry.fileName))
        { tree with directories }
    else return tree.insert path (← IO.FS.readFile path)
  catch _ => return tree
where
  /-- Of the files in a directory only policy files count. -/
  readEntry (tree : FileTree) (path : String) : IO FileTree := do
    let isPolicyFile := (FileTree.extension? (Place.ofPath path)).any PolicyFile.extensions.contains
    if isPolicyFile || (← (← IO.FS.realPath path).isDir) then readInto tree path else return tree

def configPlaces : IO ConfigPlaces := do
  return {
    named := ← IO.getEnv "NETPOL_CONFIG"
    configHome := ← IO.getEnv "XDG_CONFIG_HOME"
    home := ← IO.getEnv "HOME" }

/-- Numbers of a generator of its own for each call and each place, all from one seed. -/
def drawsOf (seed call place : Nat) : Nat :=
  (randNat (mkStdGen (mixHash (mixHash (hash seed) (hash call)) (hash place)).toNat) 0
    (Nat.pow 2 Decimal.Double.drawWidth - 1)).1

/-- The directories on the way to the report count as there; writing shows whether they are. -/
def surroundings (args : List String) : IO Surroundings := do
  let places ← configPlaces
  let request := Request.ofArgs? args
  let inputs := ((request.map (·.inputs)).getD []) ++ places.candidates
  let directories := ((request >>= (·.report?)).map Place.onPath).getD []
  let seed ← IO.rand 0 UInt64.size
  return { places, files := ← inputs.foldlM readInto { directories }, draws := drawsOf seed }

/-- Write a file and tell how the command ends then. -/
def writeFile (ending : Ending) (file : String × String) : IO Ending := do
  try
    IO.FS.writeFile file.1 file.2
    return ending
  catch _ => return .failed (.unwritable file.1)

def usage : String := "Usage: " ++ programName ++ " [OPTIONS] <analyze|probe|generate> [OPTIONS]"

end PodTraffic.CommandLine

open PodTraffic.CommandLine in
def main (args : List String) : IO UInt32 := do
  let (ending, output) := run (← surroundings args) args
  IO.print output.printed
  let ending ← output.written.foldlM writeFile ending
  match ending with
  | .failed fault => IO.eprintln ("Error: " ++ fault.message)
  | .misused => IO.eprintln usage
  | .done => pure ()
  return UInt32.ofNat ending.code
