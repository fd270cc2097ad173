import NcmBridge.Text.Blank

/-!
# Names of interfaces

The kernel keeps the name of an interface in 16 bytes, the last of which is zero, and uses names in
paths and lists, where some characters have a meaning.
-/

namespace NcmBridge.Tap

def maxNameLen : Nat := 15

def isForbidden (c : Char) : Bool :=
  c = '/' || c = ':' || c.toNat = 0 || Text.isAsciiBlank c

/-- Whether the kernel takes a name. -/
def isValidName (name : String) : Bool :=
  name ≠ "" && name.utf8ByteSize ≤ maxNameLen && name ≠ "." && name ≠ ".." &&
    !name.toList.any isForbidden

end NcmBridge.Tap
