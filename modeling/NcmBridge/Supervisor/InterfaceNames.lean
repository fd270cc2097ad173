import NcmBridge.Tap.Name

/-!
# Names for the interfaces of devices

The first device gets the base name, and every later one the base name with the end of its serial. A
name that is taken already gets a number at its end. A device keeps its name for good, and no two
devices have the same.
-/

namespace NcmBridge

/-- The base name, and the names given so far, by serial. -/
structure InterfaceNames where
  base : String
  assigned : List (String × String) := []
  deriving DecidableEq, Repr, Inhabited

namespace InterfaceNames

/-- As many of the first characters as have at most `max` bytes together. -/
def fit (max : Nat) : List Char → List Char
  | [] => []
  | c :: cs => if c.utf8Size ≤ max then c :: fit (max - c.utf8Size) cs else []

/-- The base name, a dash, and as many of the last letters and digits of the serial as there is room
for. -/
def suffixed (base serial : String) : String :=
  let suffix := serial.toList.filter Char.isAlphanum
  let room := Tap.maxNameLen - (base.utf8ByteSize + 1)
  let tail := suffix.drop (suffix.length - room)
  String.ofList (fit Tap.maxNameLen (base.toList ++ '-' :: tail))

/-- A name that ends in a number, cut so that it is short enough. -/
def tagged (candidate : String) (tag : Nat) : String :=
  let digits := Nat.toDigits 10 tag
  String.ofList (fit (Tap.maxNameLen - digits.length) candidate.toList ++ digits)

/-- Whether a device has a name. -/
def isTaken (n : InterfaceNames) (name : String) : Bool :=
  n.assigned.any fun entry => entry.2 == name

/-- The first free name among those with the numbers from `tag` on. -/
def search (n : InterfaceNames) (candidate : String) : (fuel tag : Nat) → Option String
  | 0, _ => none
  | fuel + 1, tag =>
    if n.isTaken (tagged candidate tag) then n.search candidate fuel (tag + 1)
    else some (tagged candidate tag)

/-- How many numbers are enough to find a free name: names with as many digits as this number has
differ, and there are more of them than names were given. -/
def searchBound (n : InterfaceNames) : Nat := 100 * (n.assigned.length + 1)

/-- The candidate itself if it is free, and else the first free name with a number. -/
def unique (n : InterfaceNames) (candidate : String) : String :=
  if n.isTaken candidate then (n.search candidate n.searchBound 1).getD candidate else candidate

/-- The name for a device; a new name is remembered. -/
def nameFor (n : InterfaceNames) (serial : String) : String × InterfaceNames :=
  match n.assigned.lookup serial with
  | some name => (name, n)
  | none =>
    let preferred := if n.isTaken n.base then suffixed n.base serial else n.base
    let name := n.unique preferred
    (name, { n with assigned := n.assigned ++ [(serial, name)] })

end InterfaceNames

end NcmBridge
