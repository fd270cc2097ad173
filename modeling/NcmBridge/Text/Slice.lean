/-!
# Slices of a text

Places in a text are counted in bytes. A slice begins and ends where characters do.
-/

namespace NcmBridge.Text

def byteLen (cs : List Char) : Nat := cs.foldr (fun c n => c.utf8Size + n) 0

/-- A text cut after `n` bytes, unless that is inside a character or behind the end. -/
def cutAt? : Nat → List Char → Option (List Char × List Char)
  | 0, cs => some ([], cs)
  | _ + 1, [] => none
  | n + 1, c :: cs =>
    if c.utf8Size ≤ n + 1 then
      (cutAt? (n + 1 - c.utf8Size) cs).map fun (before, after) => (c :: before, after)
    else
      none

def slice? (start stop : Nat) (cs : List Char) : Option (List Char) := do
  let (_, after) ← cutAt? start cs
  let (part, _) ← cutAt? (stop - start) after
  return part

end NcmBridge.Text
