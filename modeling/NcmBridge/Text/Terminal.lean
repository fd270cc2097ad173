/-!
# Text on a terminal

A terminal acts on some control characters: they move the cursor, ring the bell or begin a command. In a
text from elsewhere such characters are written as escapes before it is shown.
-/

namespace NcmBridge.Text

/-- A character on a terminal. Line ends and tabs, and controls without an effect, stay. -/
def onTerminal (c : Char) : List Char :=
  if c = '\x1b' ∨ c = '\x07' ∨ c = '\x08' ∨ c = '\x0c' ∨ c = '\x7f' then
    let digits := Nat.toDigits 16 c.toNat
    ['\\', 'x'] ++ List.replicate (2 - digits.length) '0' ++ digits
  else if 0x80 ≤ c.toNat ∧ c.toNat ≤ 0x9F then
    ['\\', 'u', '\x7b'] ++ Nat.toDigits 16 c.toNat ++ ['\x7d']
  else
    [c]

def forTerminal (s : String) : String := String.ofList (s.toList.flatMap onTerminal)

end NcmBridge.Text
