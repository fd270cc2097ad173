import NcmBridge.Errno
import NcmBridge.Octets
import NcmBridge.Text.Split

/-!
# Files and directories

A tree of directories with files as leaves. Names are bytes, of any encoding or none. Paths lead down from
the root; a read or write that cannot be done fails as the system says it, and then the tree is what it was.
Only directories are made one by one, so some may be there when the next one cannot be made.
-/

namespace NcmBridge

def Octets.ofText (s : String) : Octets := s.toUTF8.data.toList

instance : Coe String Octets := ⟨Octets.ofText⟩

/-- The text that bytes are, if they are one. -/
def Octets.text? (bytes : Octets) : Option String := String.fromUTF8? ⟨bytes.toArray⟩

inductive FileNode
  | file (content : Octets)
  | directory (entries : List (Octets × FileNode))
  deriving Inhabited

/-- Why a text could not be read from a file. -/
inductive ReadFault
  | system (fault : IoFault)
  | notText
  deriving DecidableEq, Repr, Inhabited

def ReadFault.message : ReadFault → String
  | system fault => fault.text
  | notText => "stream did not contain valid UTF-8"

/-! ### Paths -/

/-- The names on the way down from the root. A dot stands for the directory that the way has come to,
and two dots for the one above it; a path without dots is plain. -/
abbrev FilePath := List Octets

namespace FilePath

def slash : UInt8 := 0x2f

def dot : UInt8 := 0x2e

/-- The longest path that the system takes, in bytes. -/
def maxLength : Nat := 4095

/-- Whether the system takes a path at all. -/
def check (path : Octets) : Except IoFault Unit :=
  if 0 ∈ path then .error ⟨.invalidInput, "file name contained an unexpected NUL byte"⟩
  else if path = [] then .error Errno.noEntry.fault
  else if maxLength < path.length then .error Errno.nameTooLong.fault
  else .ok ()

def isAbsolute (path : Octets) : Bool := path.head? = some slash

/-- The names in a path. Two slashes are one, and a slash at the end asks for a directory. -/
def ofOctets (path : Octets) : FilePath :=
  let names := Text.splitOn slash path
  names.filter (· ≠ []) ++ (if names.getLast? = some [] then [[dot]] else [])

def isDots (name : Octets) : Bool := name = [dot] || name = [dot, dot]

def afterDots (before : FilePath) (dots : Octets) : FilePath :=
  if dots = [dot, dot] then before.dropLast else before

/-- A path with one more name. -/
def join (directory name : Octets) : Octets :=
  if directory.getLast? = some slash then directory ++ name else directory ++ slash :: name

/-- Whether a path asks for a directory. -/
def endsInSlash (path : Octets) : Bool := path.getLast? = some slash

/-- The path of the directory that a path leads into at last. Single dots at the end are no names. -/
def directory (path : FilePath) : FilePath := ((path.reverse.dropWhile (· = [dot])).drop 1).reverse

/-- A path from its end on, without the slashes and single dots that come first. -/
def trimmed : Octets → Octets
  | [] => []
  | [b] => if b = slash then [] else [b]
  | b :: c :: rest =>
    if b = slash ∨ b = dot ∧ c = slash then trimmed (c :: rest) else b :: c :: rest

def parent (path : Octets) : Octets :=
  match trimmed ((trimmed path.reverse).dropWhile (· ≠ slash)) with
  | [] => if isAbsolute path then [slash] else []
  | rest => rest.reverse

end FilePath

/-! ### Trees -/

namespace FileNode

/-- The longest name that there can be, in bytes. -/
def maxName : Nat := 255

def entry (entries : List (Octets × FileNode)) (name : Octets) : Except Errno (Option FileNode) :=
  if maxName < name.length then .error .nameTooLong else .ok (entries.lookup name)

/-- The node at the end of a plain path. -/
def find : FileNode → FilePath → Except Errno FileNode
  | node, [] => .ok node
  | file _, _ :: _ => .error .notDirectory
  | directory entries, name :: path =>
    match entry entries name with
    | .error e => .error e
    | .ok none => .error .noEntry
    | .ok (some node) => find node path

/-- The entries with a node under a name. -/
def put (entries : List (Octets × FileNode)) (name : Octets) (node : FileNode) :
    List (Octets × FileNode) :=
  match entries.lookup name with
  | none => entries ++ [(name, node)]
  | some _ => entries.map fun entry => if entry.1 = name then (name, node) else entry

/-- Makes all directories on a plain path, from the top on, and gives the tree as it is then. -/
def addDirectories : FileNode → FilePath → Except Errno Unit × FileNode
  | directory entries, [] => (.ok (), directory entries)
  | file content, [] => (.error .fileExists, file content)
  | file content, _ :: _ => (.error .notDirectory, file content)
  | directory entries, name :: path =>
    match entry entries name with
    | .error e => (.error e, directory entries)
    | .ok node =>
      let (result, inner) := addDirectories (node.getD (directory [])) path
      (result, directory (put entries name inner))

/-- The tree with a content in the file at a plain path, whose directory must be there. -/
def addFile (content : Octets) : FileNode → FilePath → Except Errno FileNode
  | directory _, [] => .error .isDirectory
  | file _, [] => .ok (file content)
  | file _, _ :: _ => .error .notDirectory
  | directory entries, name :: path =>
    match entry entries name with
    | .error e => .error e
    | .ok (some node) => (addFile content node path).map fun inner => directory (put entries name inner)
    | .ok none => if path = [] then .ok (directory (put entries name (file content))) else .error .noEntry

/-! ### Following a path -/

/-- The plain path to which a path leads on from another. There must be a directory before dots. -/
def follow (root : FileNode) (before : FilePath) : FilePath → Except Errno FilePath
  | [] => .ok before
  | name :: path =>
    if FilePath.isDots name then
      match root.find before with
      | .ok (directory _) => follow root (before.afterDots name) path
      | .ok (file _) => .error .notDirectory
      | .error e => .error e
    else
      follow root (before ++ [name]) path

/-- The node at the end of a path. -/
def reach (root : FileNode) (path : FilePath) : Except Errno FileNode := do
  root.find (← root.follow [] path)

def read (root : FileNode) (path : FilePath) : Except Errno Octets := do
  match ← root.reach path with
  | file content => return content
  | directory _ => throw .isDirectory

/-- The text of a file. -/
def readText (root : FileNode) (path : FilePath) : Except ReadFault String :=
  match root.read path with
  | .error e => .error (.system e.fault)
  | .ok content => match content.text? with
    | some text => .ok text
    | none => .error .notText

/-- Makes all directories on a path that leads on from a plain one, and gives the tree as it is then. Those
before dots are made first. -/
def makeWay (root : FileNode) (before : FilePath) : FilePath → Except Errno Unit × FileNode
  | [] => root.addDirectories before
  | name :: path =>
    if FilePath.isDots name then
      match root.addDirectories before with
      | (.ok (), root) => makeWay root (before.afterDots name) path
      | (.error .fileExists, root) => (.error .notDirectory, root)
      | (.error e, root) => (.error e, root)
    else
      makeWay root (before ++ [name]) path

/-- The tree with all directories on a path. -/
def makeDirectories (root : FileNode) (path : FilePath) : Except Errno FileNode :=
  match root.makeWay [] path with
  | (.ok (), root) => .ok root
  | (.error e, _) => .error e

/-- The tree with a content in the file at a path, whose directory must be there. -/
def write (content : Octets) (root : FileNode) (path : FilePath) : Except Errno FileNode := do
  root.addFile content (← root.follow [] path)

end FileNode

end NcmBridge
