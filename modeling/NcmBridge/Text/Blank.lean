/-!
# Blank characters

The characters with the property White_Space, and text without those at its ends.
-/

namespace NcmBridge.Text

/-- Whether a character has the property White_Space. -/
def isBlank (c : Char) : Bool :=
  let n := c.toNat
  (0x09 ≤ n && n ≤ 0x0D) || n = 0x20 || n = 0x85 || n = 0xA0 || n = 0x1680 ||
    (0x2000 ≤ n && n ≤ 0x200A) || n = 0x2028 || n = 0x2029 || n = 0x202F || n = 0x205F || n = 0x3000

/-- Whether a character is one of the five that ASCII texts are blank with. -/
def isAsciiBlank (c : Char) : Bool :=
  c = ' ' || c = '\t' || c = '\n' || c = '\r' || c.toNat = 0x0C

/-- The characters without those of a kind at the ends. -/
def stripEnds (kind : Char → Bool) (cs : List Char) : List Char :=
  ((cs.dropWhile kind).reverse.dropWhile kind).reverse

def trimEnds (cs : List Char) : List Char := stripEnds isBlank cs

def trim (s : String) : String := String.ofList (trimEnds s.toList)

end NcmBridge.Text
