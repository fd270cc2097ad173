import NcmBridge.Files
import NcmBridge.Settings.Document
import NcmBridge.Text.Lossy
import NcmBridge.Toml.Reader

/-!
# Settings in files

Settings are read from a file that is named, or else from the first standard place where there is one.
They are checked after reading, so what is loaded is always accepted; they are not checked before
writing.

A path is a string of bytes. Settings are written under just these bytes, but a file that is named is looked
for under their text, where bytes that are no text have been replaced.
-/

namespace NcmBridge

inductive LoadError
  | noFile
  | unreadable (path : String) (fault : ReadFault)
  | malformed (path : String)
  | invalid (fault : SettingsFault)
  deriving DecidableEq, Repr, Inhabited

namespace LoadError

def chain : LoadError → List String
  | noFile => ["No configuration file found"]
  | unreadable path fault => [s!"Failed to read config file: {path}", fault.message]
  | malformed path => [s!"Failed to parse config file: {path}"]
  | invalid fault => fault.chain

def text (e : LoadError) : String := String.intercalate ": " e.chain

end LoadError

inductive SaveError
  | unwritable
  | noDirectory (path : String) (fault : IoFault)
  | notWritten (path : String) (fault : IoFault)
  deriving DecidableEq, Repr, Inhabited

namespace SaveError

def chain : SaveError → List String
  | unwritable => ["Failed to serialize configuration"]
  | noDirectory path fault => [s!"Failed to create config directory: {path}", fault.text]
  | notWritten path fault => [s!"Failed to write config file: {path}", fault.text]

def text (e : SaveError) : String := String.intercalate ": " e.chain

end SaveError

/-- Where a user's files are. -/
structure Places where
  home : Octets
  /-- Where settings are kept, if not in the usual directory. -/
  configHome : Option Octets := none
  /-- Where a path starts that does not start at the root. -/
  current : Octets := [FilePath.slash]
  deriving DecidableEq, Repr, Inhabited

namespace Places

/-- A text with the home directory in place of a tilde, if that directory has a text. -/
def expandTilde (places : Places) (text : String) : String :=
  match places.home.text?, text.toList with
  | some home, ['~'] => home
  | some home, '~' :: '/' :: rest => home ++ "/" ++ String.ofList rest
  | _, _ => text

/-- The names that a path leads through from the root on. -/
def resolve (places : Places) (path : Octets) : FilePath :=
  if FilePath.isAbsolute path then .ofOctets path else .ofOctets (FilePath.join places.current path)

/-- The file with a user's settings. -/
def settingsFile (places : Places) : Octets :=
  let usual := FilePath.join places.home ".config"
  let base := match places.configHome with
    | some directory => if FilePath.isAbsolute directory then directory else usual
    | none => usual
  FilePath.join (FilePath.join base "cdc-ncm") "daemon.toml"

/-- The file with a user's settings, as it is shown. -/
def settingsPath (places : Places) : String := places.settingsFile.lossyText

/-- Where settings are looked for, in this order. -/
def standardFiles (places : Places) : List Octets :=
  [places.settingsFile, "/etc/cdc-ncm/daemon.toml"]

/-- Whether there is a file or a directory at a path. -/
def isThere (places : Places) (root : FileNode) (path : Octets) : Bool :=
  (FilePath.check path).isOk && (root.reach (places.resolve path)).isOk

def readText (places : Places) (root : FileNode) (path : Octets) : Except ReadFault String :=
  match FilePath.check path with
  | .error fault => .error (.system fault)
  | .ok () => root.readText (places.resolve path)

/-- Makes the directories above a path, and gives the tree as it is then. -/
def makeParents (places : Places) (root : FileNode) (path : Octets) : Except IoFault Unit × FileNode :=
  if FilePath.parent path = [] then (.ok (), root)
  else match FilePath.check (FilePath.parent path) with
    | .error fault => (.error fault, root)
    | .ok () => match root.makeWay [] (places.resolve path).directory with
      | (.error e, root) => (.error e.fault, root)
      | (.ok (), root) => (.ok (), root)

/-- The tree with a content in the file at a path. No file is made where the path asks for a directory. -/
def writeFile (places : Places) (root : FileNode) (path : Octets) (content : Octets) :
    Except IoFault FileNode := do
  FilePath.check path
  if FilePath.endsInSlash path then throw Errno.isDirectory.fault
  (root.write content (places.resolve path)).mapError Errno.fault

end Places

namespace Settings

/-- The settings in a text, if they are accepted. -/
def ofText (path text : String) : Except LoadError Settings :=
  match (Toml.read text).bind ofDocument with
  | none => .error (.malformed path)
  | some s => match s.check with
    | .ok () => .ok s
    | .error fault => .error (.invalid fault)

def loadFrom (places : Places) (root : FileNode) (path : Octets) : Except LoadError Settings :=
  match places.readText root path with
  | .error fault => .error (.unreadable path.lossyText fault)
  | .ok text => ofText path.lossyText text

/-- Loads settings from the file that is named, or from a standard place. -/
def load (places : Places) (root : FileNode) : Option Octets → Except LoadError Settings
  | some path => loadFrom places root (places.expandTilde path.lossyText)
  | none =>
    match places.standardFiles.find? (places.isThere root) with
    | none => .error .noFile
    | some path => loadFrom places root path

/-- Loads settings; if that fails the first values hold, and the failure is told. -/
def loadOrDefault (places : Places) (root : FileNode) (path : Option Octets) :
    Settings × Option LoadError :=
  match load places root path with
  | .ok s => (s, none)
  | .error e => ({}, some e)

/-- The text of settings, if all numbers can be written. -/
def text? (s : Settings) : Option String := Toml.write s.toDocument

/-- Saves settings in a file and makes the directories on the way, and gives the tree as it is then. -/
def save (places : Places) (root : FileNode) (path : Octets) (s : Settings) :
    Except SaveError Unit × FileNode :=
  match s.text? with
  | none => (.error .unwritable, root)
  | some text =>
    match places.makeParents root path with
    | (.error fault, root) => (.error (.noDirectory (FilePath.parent path).lossyText fault), root)
    | (.ok (), root) =>
      match places.writeFile root path text with
      | .error fault => (.error (.notWritten path.lossyText fault), root)
      | .ok root => (.ok (), root)

end Settings

end NcmBridge
