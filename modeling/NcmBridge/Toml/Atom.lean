import NcmBridge.Text.Digits
import NcmBridge.Toml.Value

/-!
# Numbers, dates and truth values in TOML

These values are words of letters, digits and a few marks; a date and a time may also be two words. A
word is read as a whole, so what follows it plays no part.
-/

namespace NcmBridge.Toml.Atom

open Text (isHexDigit isDigitBelow valueOf)

def isWordChar (c : Char) : Bool :=
  c.isAlphanum || c = '_' || c = '+' || c = '-' || c = '.' || c = ':'

/-! ### Integers -/

/-- The digits of a number, without the underscores between them. -/
def ungroup (isDigit : Char → Bool) : List Char → Option (List Char)
  | [] => none
  | [c] => if isDigit c then some [c] else none
  | c :: '_' :: s => if isDigit c then (ungroup isDigit s).map (c :: ·) else none
  | c :: s => if isDigit c then (ungroup isDigit s).map (c :: ·) else none

/-- The digits of a decimal number. It is zero or does not begin with a zero. -/
def decimal (s : List Char) : Option (List Char) :=
  match ungroup Char.isDigit s with
  | some ('0' :: _ :: _) => none
  | digits => digits

/-- A sign, if there is one, and the rest. -/
def signed : List Char → Bool × List Char
  | '-' :: s => (true, s)
  | '+' :: s => (false, s)
  | s => (false, s)

def maxInteger : Int := Int64.maxValue.toInt

def minInteger : Int := Int64.minValue.toInt

/-- A number, if it is an integer of 64 bits. -/
def bounded (n : Int) : Option Value :=
  if minInteger ≤ n ∧ n ≤ maxInteger then some (.integer n) else none

/-- Reads an integer. Only decimal ones have a sign. -/
def integer (word : List Char) : Option Value :=
  match word with
  | '0' :: 'x' :: s => (ungroup isHexDigit s).bind fun digits => bounded (valueOf 16 digits)
  | '0' :: 'o' :: s => (ungroup (isDigitBelow 8) s).bind fun digits => bounded (valueOf 8 digits)
  | '0' :: 'b' :: s => (ungroup (isDigitBelow 2) s).bind fun digits => bounded (valueOf 2 digits)
  | _ =>
    let (negative, s) := signed word
    (decimal s).bind fun digits =>
      let n : Int := valueOf 10 digits
      bounded (if negative then -n else n)

/-! ### Floats -/

/-- Least number that rounds to infinity: half a step above the largest float. -/
def overflowBound : Nat := (1 <<< 1024) - (1 <<< 970)

/-- Whether `digits · 10 ^ exponent` rounds to infinity. Numbers of more or fewer than 309 digits need
no closer look. -/
def overflows (digits : List Char) (exponent : Int) : Bool :=
  let digits := digits.dropWhile (· = '0')
  let size : Int := digits.length + exponent
  if digits = [] ∨ size < 309 then false
  else if 309 < size then true
  else overflowBound * Nat.pow 10 (-exponent).toNat ≤ valueOf 10 digits * Nat.pow 10 exponent.toNat

/-- The parts of a float: the digits before the point, those after it, and the exponent. A part that
is not there is missing. -/
def floatParts (s : List Char) : List Char × Option (List Char) × Option (List Char) :=
  let isExponent (c : Char) : Bool := c = 'e' || c = 'E'
  let mantissa := s.takeWhile fun c => !isExponent c
  let exponent := match s.dropWhile fun c => !isExponent c with
    | [] => none
    | _ :: e => some e
  let fraction := match mantissa.dropWhile (· ≠ '.') with
    | [] => none
    | _ :: f => some f
  (mantissa.takeWhile (· ≠ '.'), fraction, exponent)

/-- The digits after the point; none if there is no point. -/
def fractionDigits : Option (List Char) → Option (List Char)
  | none => some []
  | some f => ungroup Char.isDigit f

def exponentValue : Option (List Char) → Option Int
  | none => some 0
  | some e =>
    let (negative, s) := signed e
    (ungroup Char.isDigit s).map fun digits =>
      let n : Int := valueOf 10 digits
      if negative then -n else n

/-- Reads a float, which has a point or an exponent unless it is infinite or no number. A number that
is not infinite must not round to positive infinity. -/
def float (word : List Char) : Option Value :=
  let (negative, s) := signed word
  if s = ['i', 'n', 'f'] ∨ s = ['n', 'a', 'n'] then some (.float word)
  else
    match floatParts s with
    | (_, none, none) => none
    | (whole, fraction, exponent) =>
      match decimal whole, fractionDigits fraction, exponentValue exponent with
      | some w, some f, some e =>
        if !negative ∧ overflows (w ++ f) (e - f.length) then none else some (.float word)
      | _, _, _ => none

/-! ### Dates and times -/

/-- The value of the digits before a mark, if there are just `count` of them, and what follows it. -/
def field (count : Nat) (mark : Char) (s : List Char) : Option (Nat × List Char) :=
  let digits := s.take count
  if digits.length = count ∧ digits.all Char.isDigit ∧ s[count]? = some mark then
    some (valueOf 10 digits, s.drop (count + 1))
  else none

/-- The value of two digits, and what follows them. -/
def two : List Char → Option (Nat × List Char)
  | a :: b :: s => if a.isDigit ∧ b.isDigit then some (valueOf 10 [a, b], s) else none
  | _ => none

def isLeap (year : Nat) : Bool := year % 4 = 0 && (year % 100 ≠ 0 || year % 400 = 0)

def daysIn (year month : Nat) : Nat :=
  if month = 2 then (if isLeap year then 29 else 28)
  else if month = 4 ∨ month = 6 ∨ month = 9 ∨ month = 11 then 30
  else 31

def afterDate (s : List Char) : Option (List Char) := do
  let (year, s) ← field 4 '-' s
  let (month, s) ← field 2 '-' s
  let (day, s) ← two s
  if 1 ≤ month ∧ month ≤ 12 ∧ 1 ≤ day ∧ day ≤ daysIn year month then some s else none

/-- What follows a time. The second may be a leap second, and may have a fraction. -/
def afterTime (s : List Char) : Option (List Char) := do
  let (hour, s) ← field 2 ':' s
  let (minute, s) ← field 2 ':' s
  let (second, s) ← two s
  if hour ≤ 23 ∧ minute ≤ 59 ∧ second ≤ 60 then
    match s with
    | '.' :: f => if (f.takeWhile Char.isDigit) = [] then some s else some (f.dropWhile Char.isDigit)
    | s => some s
  else none

/-- Whether nothing is left, or an offset from universal time. -/
def isOffset : List Char → Bool
  | [] => true
  | ['Z'] => true
  | ['z'] => true
  | c :: s =>
    (c = '+' || c = '-') && match field 2 ':' s with
      | some (hour, s) => match two s with
        | some (minute, []) => hour ≤ 23 && minute ≤ 59
        | _ => false
      | none => false

def isDate (word : List Char) : Bool := afterDate word == some []

/-- Whether a word is a time that may have an offset, as after a date. -/
def isTimeOfDay (word : List Char) : Bool :=
  match afterTime word with
  | some s => isOffset s
  | none => false

/-- Reads a date, a time, or both in one word. -/
def moment (word : List Char) : Option Value :=
  let isMoment := match afterDate word with
    | some [] => true
    | some (c :: s) => (c = 'T' || c = 't') && isTimeOfDay s
    | none => afterTime word == some []
  if isMoment then some (.moment word) else none

/-- Reads a word. -/
def ofWord (word : List Char) : Option Value :=
  if word = "true".toList then some (.boolean true)
  else if word = "false".toList then some (.boolean false)
  else (moment word).or <| (float word).or (integer word)

/-- Reads a value that is a word, or a date and a time with a space between. -/
def read (s : List Char) : Option (Value × List Char) :=
  let word := s.takeWhile isWordChar
  let rest := s.dropWhile isWordChar
  let time := (rest.drop 1).takeWhile isWordChar
  if isDate word ∧ rest.head? = some ' ' ∧ time ≠ [] then
    if isTimeOfDay time then some (.moment (word ++ ' ' :: time), (rest.drop 1).dropWhile isWordChar)
    else none
  else (ofWord word).map (·, rest)

end NcmBridge.Toml.Atom
