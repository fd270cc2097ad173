import NcmBridge.Text.Digits
import NcmBridge.Text.Quoted

/-!
# Semantic versions

A version has three numbers, then after a dash the segments of a pre-release, and after a plus those
of the build. The order is total: a release comes after its pre-releases, and a version without build
before the same one with a build.
-/

namespace NcmBridge

/-- A version. Segments are never empty. -/
structure Version where
  major : Nat
  minor : Nat
  patch : Nat
  pre : List (List Char) := []
  build : List (List Char) := []
  deriving DecidableEq, Repr, Inhabited

/-- A part of a version's text. -/
inductive VersionPart
  | major
  | minor
  | patch
  | pre
  | build
  deriving DecidableEq, Repr, Inhabited

def VersionPart.name : VersionPart → String
  | major => "major version number"
  | minor => "minor version number"
  | patch => "patch version number"
  | pre => "pre-release identifier"
  | build => "build metadata"

inductive VersionError
  | empty
  | unexpectedEnd (part : VersionPart)
  | unexpectedChar (part : VersionPart) (c : Char)
  | unexpectedCharAfter (part : VersionPart) (c : Char)
  | leadingZero (part : VersionPart)
  | overflow (part : VersionPart)
  | emptySegment (part : VersionPart)
  deriving DecidableEq, Repr, Inhabited

def VersionError.message : VersionError → String
  | empty => "empty string, expected a semver version"
  | unexpectedEnd part => s!"unexpected end of input while parsing {part.name}"
  | unexpectedChar part c => s!"unexpected character {Quoted.quoteChar c} while parsing {part.name}"
  | unexpectedCharAfter part c => s!"unexpected character {Quoted.quoteChar c} after {part.name}"
  | leadingZero part => s!"invalid leading zero in {part.name}"
  | overflow part => s!"value of {part.name} exceeds u64::MAX"
  | emptySegment part => s!"empty identifier segment in {part.name}"

namespace Version

/-! ### Texts -/

def segmentsText (segments : List (List Char)) : String :=
  String.intercalate "." (segments.map String.ofList)

def text (v : Version) : String :=
  s!"{v.major}.{v.minor}.{v.patch}" ++
    (if v.pre = [] then "" else "-" ++ segmentsText v.pre) ++
    (if v.build = [] then "" else "+" ++ segmentsText v.build)

/-! ### Reading -/

def maxNumber : Nat := UInt64.size - 1

/-- Whether a digit but the first follows a number that is still zero; else whether the number grows
too large first. -/
def checkDigits (part : VersionPart) : (value : Nat) → (first : Bool) → List Char →
    Except VersionError Nat
  | value, _, [] => .ok value
  | value, first, c :: cs =>
    if value = 0 ∧ !first then .error (.leadingZero part)
    else
      let value := 10 * value + (c.toNat - 48)
      if maxNumber < value then .error (.overflow part) else checkDigits part value false cs

/-- A number, and the text after it. -/
def number (part : VersionPart) (cs : List Char) : Except VersionError (Nat × List Char) :=
  match cs.takeWhile Char.isDigit, cs with
  | [], [] => .error (.unexpectedEnd part)
  | [], c :: _ => .error (.unexpectedChar part c)
  | digits, cs => do
    let value ← checkDigits part 0 true digits
    return (value, cs.dropWhile Char.isDigit)

def dot (part : VersionPart) : List Char → Except VersionError (List Char)
  | [] => .error (.unexpectedEnd part)
  | '.' :: cs => .ok cs
  | c :: _ => .error (.unexpectedCharAfter part c)

def isSegmentChar (c : Char) : Bool := c.isAlphanum || c = '-'

/-- Checks a segment; a number in a pre-release has no leading zero. -/
def checkSegment (part : VersionPart) (segment : List Char) : Except VersionError Unit :=
  if segment = [] then .error (.emptySegment part)
  else if part = .pre ∧ segment.all Char.isDigit ∧ 1 < segment.length ∧ segment.head? = some '0' then
    .error (.leadingZero part)
  else .ok ()

/-- One segment after another, as long as dots follow; what follows the last is left. `current` is the
segment under way, its last character first. -/
def segments (part : VersionPart) : (current : List Char) → List Char →
    Except VersionError (List (List Char) × List Char)
  | current, [] => do
    checkSegment part current.reverse
    return ([current.reverse], [])
  | current, c :: cs =>
    if isSegmentChar c then
      segments part (c :: current) cs
    else do
      checkSegment part current.reverse
      if c = '.' then
        let (rest, left) ← segments part [] cs
        return (current.reverse :: rest, left)
      else
        return ([current.reverse], c :: cs)

/-- The segments after a mark, if the mark is there. -/
def marked (mark : Char) (part : VersionPart) (cs : List Char) :
    Except VersionError (List (List Char) × List Char) :=
  match cs with
  | [] => .ok ([], [])
  | c :: rest => if c = mark then segments part [] rest else .ok ([], c :: rest)

/-- The last part of a version that has a text. -/
def lastPart (pre build : List (List Char)) : VersionPart :=
  if build ≠ [] then .build else if pre ≠ [] then .pre else .patch

def parse (s : String) : Except VersionError Version := do
  if s.toList = [] then
    throw .empty
  let (major, cs) ← number .major s.toList
  let (minor, cs) ← number .minor (← dot .major cs)
  let (patch, cs) ← number .patch (← dot .minor cs)
  let (pre, cs) ← marked '-' .pre cs
  let (build, cs) ← marked '+' .build cs
  match cs with
  | [] => return { major, minor, patch, pre, build }
  | c :: _ => throw (.unexpectedCharAfter (lastPart pre build) c)

/-! ### Order -/

def compareChars : List Char → List Char → Ordering
  | [], [] => .eq
  | [], _ :: _ => .lt
  | _ :: _, [] => .gt
  | a :: as, b :: bs => (compare a.toNat b.toNat).then (compareChars as bs)

/-- The order of segments: numbers come before other segments and go by value, and by length if they
have the same value; other segments go by their characters. -/
def compareSegment (a b : List Char) : Ordering :=
  match a.all Char.isDigit, b.all Char.isDigit with
  | true, true =>
    (compare (Text.valueOf 10 a) (Text.valueOf 10 b)).then (compare a.length b.length)
  | true, false => .lt
  | false, true => .gt
  | false, false => compareChars a b

/-- The order of lists of segments: the first difference counts, and a longer list comes later. -/
def compareSegments : List (List Char) → List (List Char) → Ordering
  | [], [] => .eq
  | [], _ :: _ => .lt
  | _ :: _, [] => .gt
  | a :: as, b :: bs => (compareSegment a b).then (compareSegments as bs)

/-- The order of pre-releases: none comes last. -/
def comparePre (a b : List (List Char)) : Ordering :=
  match a, b with
  | [], [] => .eq
  | [], _ => .gt
  | _, [] => .lt
  | a, b => compareSegments a b

def cmp (v w : Version) : Ordering :=
  (compare v.major w.major).then <| (compare v.minor w.minor).then <|
    (compare v.patch w.patch).then <| (comparePre v.pre w.pre).then <|
      compareSegments v.build w.build

end Version

end NcmBridge
