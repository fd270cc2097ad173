import NcmBridge.Text.Hidden
import NcmBridge.Text.Mark

/-!
# Characters that can be shown

A character is shown as it is if it has a picture of its own. Marks have none: they would be drawn with
the character before them. Fillers are letters that are drawn as nothing.
-/

namespace NcmBridge.Text

/-- The letters that fill a place in a Korean syllable and are drawn as nothing. -/
def isFiller (c : Char) : Bool :=
  c = '\u115F' || c = '\u1160' || c = '\u3164' || c = '\uFFA0'

def isShown (c : Char) : Bool :=
  !hiddenRanges.contains c && !markRanges.contains c && !isFiller c

end NcmBridge.Text
