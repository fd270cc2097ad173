import NcmBridge.Octets
import NcmBridge.Text.Digits
import NcmBridge.Text.Split

/-!
# Internet addresses

An address of the old kind is four numbers with dots between. One of the new kind is eight groups of up
to four hexadecimal digits with colons between; two colons stand for any number of groups that are
zero, and the last two groups may be written as an old address.
-/

namespace NcmBridge

inductive IpAddress
  | v4 (bytes : List Nat)
  | v6 (groups : List Nat)
  deriving DecidableEq, Repr, Inhabited

namespace IpAddress

/-- Reads a byte: up to three digits, and no zero before others. -/
def readByte (part : List Char) : Option Nat :=
  if part ≠ [] ∧ part.length ≤ 3 ∧ part.all Char.isDigit ∧ (part.head? = some '0' → part = ['0']) ∧
      Text.valueOf 10 part ≤ 255 then
    some (Text.valueOf 10 part)
  else none

def readV4 (s : List Char) : Option (List Nat) :=
  let parts := Text.splitOn '.' s
  if parts.length = 4 then parts.mapM readByte else none

/-- Reads a group of one to four digits. -/
def readGroup (part : List Char) : Option Nat :=
  if part ≠ [] ∧ part.length ≤ 4 ∧ part.all Text.isHexDigit then some (Text.valueOf 16 part) else none

/-- Reads groups; the last part may be an old address, which makes two groups. -/
def readGroups : (parts : List (List Char)) → Option (List Nat)
  | [] => some []
  | [part] =>
    match readGroup part with
    | some g => some [g]
    | none => match readV4 part with
      | some [a, b, c, d] => some [256 * a + b, 256 * c + d]
      | _ => none
  | part :: parts => do
    let g ← readGroup part
    let gs ← readGroups parts
    return g :: gs

/-- The characters before two colons, and those after. -/
def splitAtGap : List Char → Option (List Char × List Char)
  | ':' :: ':' :: s => some ([], s)
  | c :: s => (splitAtGap s).map fun (before, rest) => (c :: before, rest)
  | [] => none

/-- Reads groups, or none at all. -/
def readSide (s : List Char) : Option (List Nat) :=
  if s = [] then some [] else readGroups (Text.splitOn ':' s)

/-- Reads an address of the new kind. What two colons stand for is at least one group, and no old
address stands before them. -/
def readV6 (s : List Char) : Option (List Nat) :=
  match splitAtGap s with
  | none => do
    let groups ← readSide s
    if groups.length = 8 then some groups else none
  | some (before, rest) => do
    let front ← if before = [] then some [] else (Text.splitOn ':' before).mapM readGroup
    let back ← readSide rest
    if front.length + back.length ≤ 7 then
      some (front ++ List.replicate (8 - front.length - back.length) 0 ++ back)
    else none

def parse (s : String) : Option IpAddress :=
  match readV4 s.toList with
  | some bytes => some (v4 bytes)
  | none => (readV6 s.toList).map v6

/-! ### Texts -/

def groupsText (groups : List Nat) : String := String.intercalate ":" (groups.map (hexDigits 1))

/-- How many groups at the start are zero. -/
def zerosAhead (groups : List Nat) : Nat := (groups.takeWhile (· = 0)).length

/-- Where the longest run of zeros starts, and its length; the first of those that are as long. -/
def zeroRun (groups : List Nat) : Nat × Nat :=
  (List.range groups.length).foldl (fun best i =>
    if best.2 < zerosAhead (groups.drop i) then (i, zerosAhead (groups.drop i)) else best) (0, 0)

def bytesText (bytes : List Nat) : String := String.intercalate "." (bytes.map toString)

/-- The text of an address. Two zero groups or more are left out once; an old address in the new form
is written as such. -/
def text : IpAddress → String
  | v4 bytes => bytesText bytes
  | v6 [0, 0, 0, 0, 0, 0xffff, g, h] => "::ffff:" ++ bytesText [g / 256, g % 256, h / 256, h % 256]
  | v6 groups =>
    let (start, len) := zeroRun groups
    if 1 < len then groupsText (groups.take start) ++ "::" ++ groupsText (groups.drop (start + len))
    else groupsText groups

/-- An address with a port. -/
def withPort (a : IpAddress) (port : String) : String :=
  match a with
  | v4 _ => s!"{a.text}:{port}"
  | v6 _ => s!"[{a.text}]:{port}"

/-! ### Kinds of addresses -/

/-- Whether every machine has an address: one of its loopback, or the one that stands for all it has. -/
def isOwn : IpAddress → Bool
  | v4 bytes => bytes.head? = some 127 || bytes.all (· = 0)
  | v6 [0, 0, 0, 0, 0, 0xffff, g, h] => g / 256 = 127 || (g = 0 && h = 0)
  | v6 groups => groups.dropLast.all (· = 0) && groups.getLast?.getD 0 ≤ 1

end IpAddress

end NcmBridge
