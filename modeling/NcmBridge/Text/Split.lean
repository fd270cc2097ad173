/-!
# Parts of a text

A text, of characters or of bytes, with a mark between its parts.
-/

namespace NcmBridge.Text

/-- The parts between the marks; without a mark the text is the only part. -/
def splitOn {α : Type} [DecidableEq α] (mark : α) : List α → List (List α)
  | [] => [[]]
  | c :: s =>
    if c = mark then [] :: splitOn mark s
    else match splitOn mark s with
      | part :: parts => (c :: part) :: parts
      | [] => [[c]]

end NcmBridge.Text
