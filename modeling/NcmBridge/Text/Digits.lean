/-!
# Digits

Numbers written in digits to a base of at most sixteen. Letters stand for the digits from ten on.
-/

namespace NcmBridge.Text

def isHexDigit (c : Char) : Bool := c.isDigit || ('a' ≤ c && c ≤ 'f') || ('A' ≤ c && c ≤ 'F')

def isDigitBelow (base : Nat) (c : Char) : Bool := c.isDigit && c.toNat - 48 < base

def digitValue (c : Char) : Nat :=
  if c.isDigit then c.toNat - 48 else if 'a' ≤ c then c.toNat - 87 else c.toNat - 55

/-- The value of digits, the most significant first. -/
def valueOf (base : Nat) (digits : List Char) : Nat :=
  digits.foldl (fun n c => base * n + digitValue c) 0

end NcmBridge.Text
