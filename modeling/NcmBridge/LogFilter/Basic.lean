import NcmBridge.LogFilter.Directive
import NcmBridge.Text.Split

/-!
# Which log lines are shown

A filter is a list of directives with commas between. Of the directives about a line the one that fits
most closely counts, and a line about which there is none is not shown.
-/

namespace NcmBridge

structure LogFilter where
  directives : List LogDirective
  deriving DecidableEq, Repr, Inhabited

namespace LogFilter

/-- Reads a filter. There may be nothing between two commas. -/
def parse (text : String) : Except LogFilterFault LogFilter := do
  let parts := (Text.splitOn ',' text.toList).filter (· ≠ [])
  return ⟨← parts.mapM LogDirective.read⟩

def errors : LogFilter := ⟨[{ level := some .error }]⟩

/-- The filter in force: that of the environment if it is one, or else that of the settings. One in the
environment without directives shows errors. -/
def choose (environment : Option String) (settings : String) : Except LogFilterFault LogFilter :=
  match environment.map parse with
  | some (.ok ⟨[]⟩) => .ok errors
  | some (.ok f) => .ok f
  | _ => parse settings

/-- The directive that counts for a line: of those that fit most closely the last. -/
def ruling (f : LogFilter) (line : LogLine) : Option LogDirective :=
  (f.directives.filter (·.concerns line)).foldl (fun best d =>
    match best with
    | some b => if d.weight < b.weight then some b else some d
    | none => some d) none

def admits (f : LogFilter) (line : LogLine) : Bool :=
  match (f.ruling line).bind LogDirective.level with
  | some level => line.level.rank ≤ level.rank
  | none => false

end LogFilter

end NcmBridge
