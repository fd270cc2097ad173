import NcmBridge.Daemon
import NcmBridge.Usage

/-!
# The executable

Gathers what the program finds around it, runs it, and carries out what it leaves behind. There is no
access to a USB bus here, so a run that needs one fails when it opens the bus.
-/

namespace NcmBridge.Executable

/-- A tree with the file at a path, if there is a file. -/
def addFile (places : Places) (root : FileNode) (path : String) : IO FileNode := do
  try
    let content ← IO.FS.readBinFile path
    let target := places.resolve path
    match root.makeDirectories target.dropLast with
    | .error _ => return root
    | .ok root => match root.write content.data.toList target with
      | .error _ => return root
      | .ok root => return root
  catch _ => return root

/-- Writes the file at a path as it is in a tree. -/
def storeFile (places : Places) (root : FileNode) (path : String) : IO Unit := do
  match root.read (places.resolve path) with
  | .error _ => return
  | .ok content =>
    IO.FS.createDirAll (FilePath.parent path).lossyText
    IO.FS.writeBinFile path ⟨content.toArray⟩

def surroundings (arguments : List String) : IO Surroundings := do
  let home := (← IO.getEnv "HOME").getD "/"
  let current := (← IO.currentDir).toString
  let places : Places := { home, configHome := ← IO.getEnv "XDG_CONFIG_HOME", current }
  let named := match CommandLine.parse arguments with
    | .ok a => (a.config.map places.expandTilde).toList
    | .error _ => []
  let standard := places.standardFiles.map Octets.lossyText
  let files ← (named ++ standard).foldlM (addFile places) (.directory [])
  return {
    arguments, places, files
    logFilter := ← IO.getEnv "RUST_LOG"
    busFault := some .notSupported
    listen := fun _ _ => .error ["error creating server listener"] }

def showEnding : Ending → IO Unit
  | .done => return
  | .stopped .help => IO.println Usage.help
  | .stopped .version => IO.println (Usage.version Daemon.version)
  | .stopped stop => IO.eprintln (Usage.advice stop)
  | .failed e => IO.eprint e.report

def run (arguments : List String) : IO UInt32 := do
  let around ← surroundings arguments
  let outcome := Daemon.run around
  for line in outcome.log do
    IO.println line.display
  if let .ok a := CommandLine.parse arguments then
    if a.saveConfig then
      storeFile around.places outcome.files around.places.settingsPath
  for text in outcome.printed do
    IO.println text
  showEnding outcome.ending
  return UInt32.ofNat outcome.ending.exitCode

end NcmBridge.Executable

/-- Where the program starts. -/
def main (arguments : List String) : IO UInt32 := NcmBridge.Executable.run arguments
